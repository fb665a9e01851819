import LxdApi.Library.RelayContents
import LxdApi.SessionRelays
import LxdApi.Permissions
import LxdApi.Admission

set_option autoImplicit false

/- What the client of a WebSocket is told from its handshake to the end of the relay. -/
namespace LxdApi
open Interaction Program Relay

inductive SocketMessage where
  | accepted
  | text (text : String)
  | closed (code : Nat)

def SocketMessage.of? : Effect → Option SocketMessage
  | .accept => some .accepted
  | .sendText said => some (.text said)
  | .close code => some (.closed code)
  | _ => none

def told (trace : List (Event Effect Effect.Reply)) : List SocketMessage :=
  trace.filterMap fun event => SocketMessage.of? event.call

/-- The run stands at the start of a relay: the last thing it did was to open LXD's socket. -/
def AtRelay (trace : List (Event Effect Effect.Reply)) : Prop :=
  ∃ before url, trace = before ++ [⟨.connect url, .ok ()⟩]

/- How a handler leaves a socket that it has accepted: to a relay, closed after a text, or, where
   an exception of its own code goes unhandled, without a word. -/
inductive LeftOpen (trace : List (Event Effect Effect.Reply)) (outcome : Except Raised Answer) :
    Prop where
  | relaying (silent : told trace = []) (opened : AtRelay trace) (ended : outcome = .ok .closed)
  | explained (text : String) (spoken : told trace = [.text text, .closed 1011])
      (ended : outcome = .ok .closed)
  | broken (silent : told trace = []) (name : String)
      (known : name = "InvalidURL" ∨ name = "TypeError")
      (raised : outcome = .error (.unhandled name))

section Bodies
variable {trace : List (Event Effect Effect.Reply)} {outcome : Except Raised Answer}

theorem told_cons (event : Event Effect Effect.Reply) (rest : List (Event Effect Effect.Reply)) :
    told (event :: rest) = (SocketMessage.of? event.call).toList ++ told rest := by
  unfold told
  rw [List.filterMap_cons]
  cases SocketMessage.of? event.call <;> rfl

theorem LeftOpen.after {event : Event Effect Effect.Reply}
    (quiet : SocketMessage.of? event.call = none) (left : LeftOpen trace outcome) :
    LeftOpen (event :: trace) outcome := by
  have same : told (event :: trace) = told trace := by
    rw [told_cons, quiet]
    rfl
  cases left with
  | relaying silent opened ended =>
    obtain ⟨before, url, shape⟩ := opened
    exact .relaying (same.trans silent) ⟨event :: before, url, by rw [shape]; rfl⟩ ended
  | explained text spoken ended => exact .explained text (same.trans spoken) ended
  | broken silent name known raised => exact .broken (same.trans silent) name known raised

theorem sendAndClose_leaves {text : String} (run : (sendAndClose text).Runs trace outcome) :
    LeftOpen trace outcome := by
  simp only [sendAndClose, runs_call_iff, runs_done_iff] at run
  obtain ⟨_, tail, shape, _, rest, shape', none, closed⟩ := run
  subst none
  subst shape'
  rw [shape]
  exact .explained text rfl closed

theorem relay_leaves {url : WsUrl} {report : String → String}
    (run : (relay url report).Runs trace outcome) : LeftOpen trace outcome := by
  obtain ⟨connected, tail, shape, after⟩ := (runs_call_iff _ _ _ _).mp run
  subst shape
  cases connected with
  | ok _ =>
    obtain ⟨none, closed⟩ := (runs_done_iff _ _ _).mp after
    subst none
    exact .relaying rfl ⟨[], url, rfl⟩ closed
  | error exc => exact (sendAndClose_leaves after).after rfl

variable [Platform]

theorem proxyExecWs_leaves {opId secret : Json}
    (run : (proxyExecWs opId secret).Runs trace outcome) : LeftOpen trace outcome := by
  unfold proxyExecWs at run
  split at run
  · split at run
    · exact relay_leaves run
    · obtain ⟨none, raised⟩ := (runs_raise_iff _ _ _).mp run
      subst none
      exact .broken rfl _ (.inr rfl) raised
  · exact sendAndClose_leaves run

theorem received_error {lxd : LXDClient} {wire : Wire} {exc : Raised}
    (failed : lxd.received wire = .error exc) :
    (∃ error, exc = .lxd error) ∨ exc = .unhandled "InvalidURL" := by
  cases wire with
  | reply r =>
    simp only [LXDClient.received] at failed
    cases normal : normalize r with
    | ok value => rw [normal] at failed; cases failed
    | error error =>
      rw [normal] at failed
      cases failed
      exact .inl ⟨error, rfl⟩
  | httpError text =>
    cases failed
    exact .inl ⟨_, rfl⟩
  | invalidUrl =>
    cases failed
    exact .inr rfl

theorem relaySession_leaves {lxd : LXDClient} {path : LXDPath} {body : Json}
    {project : Option String} {failure : String} {secret : Dict → Json}
    (run : (relaySession lxd path body project failure secret).Runs trace outcome) :
    LeftOpen trace outcome := by
  rw [relaySession_eq] at run
  obtain ⟨wire, tail, shape, after⟩ := (runs_call_iff _ _ _ _).mp run
  subst shape
  refine LeftOpen.after rfl ?_
  cases answered : lxd.received wire with
  | ok op =>
    rw [answered] at after
    exact proxyExecWs_leaves after
  | error exc =>
    rw [answered] at after
    rcases received_error answered with ⟨error, rfl⟩ | rfl
    · exact sendAndClose_leaves after
    · obtain ⟨none, raised⟩ := (runs_raise_iff _ _ _).mp after
      subst none
      exact .broken rfl _ (.inl rfl) raised

theorem body_leaves {lxd : LXDClient} {call : Call} {role : Role} (ws : call.guard = .ws role)
    (run : (call.program lxd).Runs trace outcome) : LeftOpen trace outcome := by
  cases call <;> try (cases ws)
  case execWs name command project =>
    have opened : (LxdApi.execWs lxd name command project).Runs trace outcome := run
    exact relaySession_leaves opened
  case consoleWs name type project =>
    have opened : (LxdApi.consoleWs lxd name type project).Runs trace outcome := run
    exact relaySession_leaves opened
  case operationsWs project =>
    have opened : (LxdApi.operationsWs project).Runs trace outcome := run
    exact relay_leaves opened

theorem body_mute (lxd : LXDClient) {call : Call} (plain : ∀ role, call.guard ≠ .ws role) :
    (call.program lxd).Uses fun effect => SocketMessage.of? effect = none := by
  cases call
  case execWs => exact absurd rfl (plain .OPERATOR)
  case consoleWs => exact absurd rfl (plain .OPERATOR)
  case operationsWs => exact absurd rfl (plain .VIEWER)
  case healthDeep => exact healthDeep_uses rfl
  case waitOperation => exact waitOperation_uses fun _ => rfl
  all_goals
    first
      | exact single_uses rfl
      | exact streaming_uses rfl
      | exact patchDevices_uses rfl fun _ => rfl
      | exact mutatingOrWaiting_uses rfl fun _ => rfl

omit [Platform] in
theorem told_eq_nil_of_uses {p : Handler Answer}
    (mute : p.Uses fun effect => SocketMessage.of? effect = none) (run : p.Runs trace outcome) :
    told trace = [] := by
  refine List.filterMap_eq_nil_iff.mpr ?_
  intro event inside
  exact uses_runs mute run event inside

end Bodies

section Conversations
variable [Platform]

theorem wsGate_code {decodeToken : DecodeToken} {db : UserStore} {role : Role}
    {token : Option String} {code : Nat}
    (refused : wsGate decodeToken db role token = .error code) :
    code = 4401 ∨ code = 4403 := by
  unfold wsGate at refused
  split at refused
  · cases refused
    exact .inl rfl
  · split_ifs at refused
    · cases refused
      exact .inl rfl
    · split at refused
      · cases refused
        exact .inl rfl
      · split_ifs at refused
        cases refused
        exact .inr rfl

/-- For a client that takes every message: its socket is closed unaccepted, with a code of its
    own, and nothing else is done; or it is accepted before anything else and then left to an open
    relay, closed after one text, or left by one of two exceptions. A handler without a socket
    speaks to none. -/
theorem socket_conversations (decodeToken : DecodeToken) (db : UserStore) (lxd : LXDClient)
    (call : Call) (token : Option String) {trace : List (Event Effect Effect.Reply)}
    {outcome : Except Raised Answer}
    (run : (call.serve decodeToken db lxd token).Runs trace outcome) :
    match call.guard with
    | .ws _ =>
      (∃ code, trace = [⟨.close code, ()⟩] ∧ (code = 4401 ∨ code = 4403) ∧ outcome = .ok .closed) ∨
      ∃ body, trace = ⟨.accept, ()⟩ :: body ∧ LeftOpen body outcome
    | _ => told trace = [] := by
  have mute : ∀ plain : ∀ role, call.guard ≠ .ws role, _ := fun plain => body_mute lxd plain
  unfold Call.serve at run
  cases guard : call.guard with
  | «open» =>
    rw [guard] at run
    exact told_eq_nil_of_uses (mute (by rw [guard]; nofun)) run
  | rest role =>
    rw [guard] at run
    dsimp only at run ⊢
    cases admitted : restGuard decodeToken db role token with
    | error exc =>
      rw [admitted] at run
      obtain ⟨none, _⟩ := (runs_raise_iff _ _ _).mp run
      rw [none]
      rfl
    | ok user =>
      rw [admitted] at run
      exact told_eq_nil_of_uses (mute (by rw [guard]; nofun)) run
  | ws role =>
    rw [guard] at run
    dsimp only at run ⊢
    cases admitted : wsGate decodeToken db role token with
    | error code =>
      rw [admitted] at run
      obtain ⟨_, tail, shape, after⟩ := (runs_call_iff _ _ _ _).mp run
      obtain ⟨none, ended⟩ := (runs_done_iff _ _ _).mp after
      subst none
      exact .inl ⟨code, shape, wsGate_code admitted, ended⟩
    | ok user =>
      rw [admitted] at run
      obtain ⟨_, tail, shape, after⟩ := (runs_call_iff _ _ _ _).mp run
      exact .inr ⟨tail, shape, body_leaves guard after⟩

end Conversations

def eventSession : List (Event Effect Effect.Reply) :=
  [⟨.accept, ()⟩, ⟨.connect ⟨.under .events [], none, "&type=operation"⟩, .ok ()⟩]

theorem eventSession_runs :
    (@Call.serve plainPlatform adminToken seededStore ⟨{}⟩ (.operationsWs none) (some "t")).Runs
      eventSession (.ok .closed) := by
  have admitted : @Call.serve plainPlatform adminToken seededStore ⟨{}⟩ (.operationsWs none)
      (some "t") = .call .accept fun _ => LxdApi.operationsWs none := rfl
  rw [admitted, eventSession, LxdApi.operationsWs, relay]
  refine (runs_call_iff _ _ _ _).mpr ⟨(), _, rfl, ?_⟩
  refine (runs_call_iff _ _ _ _).mpr ⟨Except.ok (), _, rfl, ?_⟩
  exact (runs_done_iff _ _ _).mpr ⟨rfl, rfl⟩

theorem eventSession_told :
    (∃ code, eventSession = [⟨.close code, ()⟩] ∧ (code = 4401 ∨ code = 4403) ∧
      (.ok .closed : Except Raised Answer) = .ok .closed) ∨
    ∃ body, eventSession = ⟨.accept, ()⟩ :: body ∧ LeftOpen body (.ok .closed) :=
  @socket_conversations plainPlatform adminToken seededStore ⟨{}⟩ (.operationsWs none) (some "t")
    _ _ eventSession_runs

/-- In every run of a relay, LXD is sent the first of the client's frames that are passed on (no
    frame of the client of `operations_ws` is), and the client the first of LXD's frames, with
    one report among them where its own task has failed. -/
theorem relays_add_nothing (handler : RelayHandler) (exc : String) (labels : List (Label Frame)) :
    let s := labels.foldl (State.move (handler.rules exc)) State.start
    (s.peer .server).sent <+: (offered .client labels).filterMap handler.clientToLxd ∧
    (handler = .operationsWs → (s.peer .server).sent = []) ∧
    ∃ before report after, (s.peer .client).sent = before ++ report ++ after ∧
      before ++ after <+: offered .server labels ∧
      (report = [] ∨ handler = .proxyExecWs ∧ report = [handler.report exc] ∧
        s.task .client = .failed ∧ (s.phase = .closing ∨ s.phase = .returned)) := by
  intro s
  have honest : Honest (handler.rules exc) labels s := honest_run rfl labels
  have asked := honest.carried honest.asks
  refine ⟨asked, ?_, ?_⟩
  · intro events
    subst events
    have silent : (offered .client labels).filterMap
        ((RelayHandler.operationsWs.rules exc).forward .client) = [] :=
      List.filterMap_eq_nil_iff.mpr fun _ _ => rfl
    rw [silent] at asked
    exact List.prefix_nil.mp asked
  · obtain ⟨before, report, after, tells⟩ := honest.tells
    refine ⟨before, report, after, tells.written, ?_, ?_⟩
    · have carried := honest.carried tells.carries
      have whole : (offered .server labels).filterMap ((handler.rules exc).forward .server) =
          offered .server labels := by
        refine (List.filterMap_congr ?_).trans List.filterMap_some
        intro msg _
        exact RelayHandler.lxdToClient_eq msg
      rw [whole] at carried
      exact carried
    · refine tells.reported.imp_right ?_
      intro told
      refine ⟨?_, told⟩
      cases handler with
      | proxyExecWs => rfl
      | operationsWs =>
        have idle : Idle s .client := idle_run (fun _ => rfl) labels
        rcases idle with reads | finished
        · rw [told.2.1] at reads
          cases reads
        · rw [told.2.1] at finished
          cases finished

end LxdApi
