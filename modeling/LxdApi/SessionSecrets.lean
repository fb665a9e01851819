import LxdApi.FailurePropagation

set_option autoImplicit false

/- Which operation a session is opened to, and with which of its secrets. LXD lists the
   secrets of a session under `fds` in the metadata of its operation, and `request` hands
   that operation on; the two handlers look one more level of `metadata` below it. -/
namespace LxdApi
open Interaction Program OrderedMap Json

def valueAt : List String → Json → Option Json
  | [], value => some value
  | key :: rest, .obj fields => (get? fields key).bind (valueAt rest)
  | _ :: _, _ => none

def operationId (op : Json) : Option String :=
  match valueAt ["id"] op with
  | some (.str id) => some id
  | _ => none

def dataSecret (op : Json) : Option String :=
  match valueAt ["metadata", "fds", "0"] op with
  | some (.str secret) => if secret = "" then none else some secret
  | _ => none

@[simp] theorem valueAt_field (key : String) (fields : Dict) :
    valueAt [key] (.obj fields) = get? fields key := by
  simp only [valueAt]
  cases get? fields key <;> rfl

theorem dataSecret_ne_empty {op : Json} {secret : String} (has : dataSecret op = some secret) :
    secret ≠ "" := by
  unfold dataSecret at has
  split at has
  · split_ifs at has with empty
    cases has
    exact empty
  · cases has

def Call.sessionSecret? : Call → Option (Dict → Json)
  | .execWs .. => some fun inner => get inner "1"
  | .consoleWs .. => some fun inner =>
      if (get inner "0").truthy then get inner "0" else get inner "console"
  | _ => none

def sessionUrl (id secret : String) : WsUrl :=
  ⟨.under .operations [.arg id, .lit .websocket], some secret, ""⟩

def Does (effect : Effect) (trace : List (Event Effect Effect.Reply)) : Prop :=
  ∃ event ∈ trace, event.call = effect

theorem does_cons_iff (effect : Effect) (event : Event Effect Effect.Reply)
    (trace : List (Event Effect Effect.Reply)) :
    Does effect (event :: trace) ↔ event.call = effect ∨ Does effect trace := by
  simp [Does]

@[simp] theorem does_nil (effect : Effect) : ¬ Does effect [] := by
  simp [Does]

theorem sendAndClose_runs_iff (text : String) (trace : List (Event Effect Effect.Reply))
    (outcome : Except Raised Answer) :
    (sendAndClose text).Runs trace outcome ↔
      trace = [⟨.sendText text, ()⟩, ⟨.close 1011, ()⟩] ∧ outcome = .ok .closed := by
  simp only [sendAndClose, runs_call_iff, runs_done_iff]
  constructor
  · intro h
    obtain ⟨sent, _, shape, closed, _, shape', empty, same⟩ := h
    rw [shape, shape', empty]
    exact ⟨rfl, same⟩
  · intro h
    exact ⟨(), _, h.1, (), [], rfl, rfl, h.2⟩

theorem relay_runs_iff (url : WsUrl) (report : String → String)
    (trace : List (Event Effect Effect.Reply)) (outcome : Except Raised Answer) :
    (relay url report).Runs trace outcome ↔
      outcome = .ok .closed ∧ (trace = [⟨.connect url, .ok ()⟩] ∨
        ∃ exc, trace = [⟨.connect url, .error exc⟩, ⟨.sendText (report exc), ()⟩,
          ⟨.close 1011, ()⟩]) := by
  simp only [relay, runs_call_iff]
  constructor
  · intro h
    obtain ⟨connected, tail, shape, run⟩ := h
    cases connected with
    | ok _ =>
      obtain ⟨empty, same⟩ := (runs_done_iff _ _ _).mp run
      rw [shape, empty]
      exact ⟨same, Or.inl rfl⟩
    | error exc =>
      obtain ⟨sent, same⟩ := (sendAndClose_runs_iff _ _ _).mp run
      rw [shape, sent]
      exact ⟨same, Or.inr ⟨exc, rfl⟩⟩
  · intro h
    obtain ⟨same, shape | ⟨exc, shape⟩⟩ := h
    · exact ⟨.ok (), [], shape, (runs_done_iff _ _ _).mpr ⟨rfl, same⟩⟩
    · exact ⟨.error exc, _, shape, (sendAndClose_runs_iff _ _ _).mpr ⟨rfl, same⟩⟩

theorem proxyError_ne_missing (exc : String) :
    "proxy error: " ++ exc ≠ "no exec data secret returned by LXD" := by
  intro same
  have letters := congrArg String.toList same
  simp [String.toList_append] at letters

section Sessions
variable [Platform] (lxd : LXDClient)

theorem session_program {call : Call} {look : Dict → Json}
    (session : call.sessionSecret? = some look) :
    ∃ req failure, call.program lxd =
      .call (.lxd req) fun wire => sessionAfter failure look (lxd.received wire) := by
  cases call <;> try (cases session)
  case execWs name command project =>
    simp only [Call.program, LxdApi.execWs, relaySession_eq]
    exact ⟨_, _, rfl⟩
  case consoleWs name type project =>
    simp only [Call.program, LxdApi.consoleWs, relaySession_eq]
    exact ⟨_, _, rfl⟩

theorem session_runs_iff {call : Call} {look : Dict → Json}
    (session : call.sessionSecret? = some look) (r : HttpReply) :
    ∃ req failure, ∀ trace outcome,
      (call.program lxd).Runs trace outcome ∧ Received r trace ↔
        ∃ tail, trace = ⟨.lxd req, .reply r⟩ :: tail ∧
          (sessionAfter failure look (lxd.received (.reply r))).Runs tail outcome := by
  obtain ⟨req, failure, program⟩ := session_program lxd session
  refine ⟨req, failure, ?_⟩
  intro trace outcome
  rw [program, runs_call_iff]
  constructor
  · intro h
    obtain ⟨⟨wire, tail, shape, run⟩, received⟩ := h
    rw [shape] at received
    obtain ⟨event, member, hasReply⟩ := received
    rcases List.mem_cons.mp member with first | later
    · subst event
      cases wire with
      | reply other =>
        rw [Option.some.inj hasReply] at run shape
        exact ⟨tail, shape, run⟩
      | httpError exc => cases hasReply
      | invalidUrl => cases hasReply
    · exact absurd ⟨event, later, hasReply⟩
        (not_received (sessionAfter_asks failure look _) run r)
  · intro h
    obtain ⟨tail, shape, run⟩ := h
    rw [shape]
    exact ⟨⟨.reply r, tail, rfl, run⟩, _, List.mem_cons_self, rfl⟩

/- The session is found: the data secret of an accepted operation opens it, nothing else
   is taken for the secret, and no secret is said to be missing that is there. -/
structure FindsSession (call : Call) (r : HttpReply) : Prop where
  opens : ∀ envelope id secret, r.envelope = some envelope → envelope.isAsync = true →
    operationId envelope.metadata = some id → dataSecret envelope.metadata = some secret →
    ∀ trace outcome, (call.program lxd).Runs trace outcome → Received r trace →
      Does (.connect (sessionUrl id secret)) trace
  pairs : ∀ trace outcome, (call.program lxd).Runs trace outcome → Received r trace →
    ∀ url, Does (.connect url) trace → ∃ op id secret, Hands r op ∧ operationId op = some id ∧
      dataSecret op = some secret ∧ url = sessionUrl id secret
  reports : ∀ trace outcome, (call.program lxd).Runs trace outcome → Received r trace →
    Does (.sendText "no exec data secret returned by LXD") trace →
      ∀ op, Hands r op → dataSecret op = none

def HttpReply.startsSession (r : HttpReply) : Prop :=
  ∃ envelope id secret, r.envelope = some envelope ∧ envelope.isAsync = true ∧
    operationId envelope.metadata = some id ∧ dataSecret envelope.metadata = some secret

/- Where the handler looks there is the data secret, next to an id that is a text, or
   nothing when the operation has none; or else something of another kind, when the reply
   starts no session. -/
def SecretFound (look : Dict → Json) (r : HttpReply) : Prop :=
  ∀ op, Hands r op →
    ((look (secretsOf (opDict op))).truthy = false ∧ dataSecret op = none) ∨
    (∃ id secret, operationId op = some id ∧ dataSecret op = some secret ∧
      look (secretsOf (opDict op)) = .str secret) ∨
    ((look (secretsOf (opDict op))).truthy = true ∧
      (∀ text, look (secretsOf (opDict op)) ≠ .str text) ∧ ¬ r.startsSession)

theorem operationId_eq_some {op : Json} {id : String} (named : operationId op = some id) :
    (get? (opDict op) "id").getD (.str "") = .str id := by
  unfold operationId at named
  split at named
  · rename_i text found
    cases named
    cases op with
    | obj fields =>
      rw [valueAt_field] at found
      simp only [opDict, found, Option.getD_some]
    | _ => cases found
  · cases named

theorem hands_of_async {r : HttpReply} {envelope : LXDResponse} {id : String}
    (parsed : r.envelope = some envelope) (async : envelope.isAsync = true)
    (named : operationId envelope.metadata = some id) : Hands r envelope.metadata := by
  right
  refine ⟨envelope, parsed, (accepted_iff_not_error envelope).mp (Or.inr async), ?_⟩
  unfold payload
  rw [if_pos async]
  split
  · rename_i nothing
    rw [nothing] at named
    cases named
  · rfl

theorem proxyExecWs_missing {secret : Json} (missing : secret.truthy = false) (id : Json) :
    proxyExecWs id secret = sendAndClose "no exec data secret returned by LXD" := by
  simp [proxyExecWs, missing]

theorem proxyExecWs_text {secret : String} (some : secret ≠ "") (id : Json) :
    proxyExecWs id (.str secret) =
      relay (sessionUrl (pyStr id) secret) fun exc => "proxy error: " ++ exc := by
  simp only [proxyExecWs, truthy_str, some, ne_eq, not_false_eq_true, if_true, sessionUrl]

theorem proxyExecWs_other {secret : Json} (truthy : secret.truthy = true)
    (other : ∀ text, secret ≠ .str text) (id : Json) :
    proxyExecWs id secret = .raise (.unhandled "TypeError") := by
  unfold proxyExecWs
  rw [if_pos truthy]
  split
  · exact absurd rfl (other _)
  · rfl

theorem sessionAfter_found {look : Dict → Json} {r : HttpReply} (found : SecretFound look r)
    {failure : String} {tail : List (Event Effect Effect.Reply)} {outcome : Except Raised Answer}
    (run : (sessionAfter failure look (lxd.received (.reply r))).Runs tail outcome) :
    (∃ op id secret, Hands r op ∧ operationId op = some id ∧ dataSecret op = some secret ∧
      (∀ url, Does (.connect url) tail ↔ url = sessionUrl id secret) ∧
      ¬ Does (.sendText "no exec data secret returned by LXD") tail) ∨
    ((∀ url, ¬ Does (.connect url) tail) ∧ ¬ r.startsSession ∧
      (Does (.sendText "no exec data secret returned by LXD") tail →
        ∀ op, Hands r op → dataSecret op = none)) := by
  cases normal : normalize r with
  | error exc =>
    have refused : ∀ op, ¬ Hands r op := by
      intro op hands
      rw [(hands_iff r op).mp hands] at normal
      cases normal
    simp only [LXDClient.received, normal, Except.mapError, sessionAfter] at run
    obtain ⟨shape, _⟩ := (sendAndClose_runs_iff _ _ _).mp run
    rw [shape]
    right
    refine ⟨by simp [does_cons_iff], ?_, fun _ op hands => absurd hands (refused op)⟩
    intro starts
    obtain ⟨envelope, id, secret, parsed, async, named, has⟩ := starts
    exact refused _ (hands_of_async parsed async named)
  | ok op =>
    have hands := (hands_iff r op).mpr normal
    simp only [LXDClient.received, normal, Except.mapError, sessionAfter] at run
    rcases found op hands with ⟨missing, none⟩ | ⟨id, secret, named, has, isText⟩ |
        ⟨truthy, other, starts⟩
    · right
      rw [proxyExecWs_missing missing] at run
      obtain ⟨shape, _⟩ := (sendAndClose_runs_iff _ _ _).mp run
      rw [shape]
      refine ⟨by simp [does_cons_iff], ?_, ?_⟩
      · intro starts
        obtain ⟨envelope, id, secret, parsed, async, named, has⟩ := starts
        rw [hands_unique (hands_of_async parsed async named) hands, none] at has
        cases has
      · intro _ op' hands'
        rw [hands_unique hands' hands]
        exact none
    · left
      rw [isText, proxyExecWs_text (dataSecret_ne_empty has), operationId_eq_some named,
        pyStr_str] at run
      refine ⟨op, id, secret, hands, named, has, ?_⟩
      obtain ⟨_, shape | ⟨exc, shape⟩⟩ := (relay_runs_iff _ _ _ _).mp run
      · rw [shape]
        simp [does_cons_iff, eq_comm]
      · rw [shape]
        simp [does_cons_iff, eq_comm, (proxyError_ne_missing exc).symm]
    · right
      rw [proxyExecWs_other truthy other] at run
      obtain ⟨empty, _⟩ := (runs_raise_iff _ _ _).mp run
      rw [empty]
      exact ⟨fun url => does_nil _, starts, fun said => absurd said (does_nil _)⟩

theorem secretFound_of_findsSession {call : Call} {look : Dict → Json}
    (session : call.sessionSecret? = some look) {r : HttpReply}
    (finds : FindsSession lxd call r) : SecretFound look r := by
  obtain ⟨req, failure, runs⟩ := session_runs_iff lxd session r
  intro op hands
  have received : lxd.received (.reply r) = .ok op := by
    simp only [LXDClient.received, (hands_iff r op).mp hands, Except.mapError]
  rw [received] at runs
  simp only [sessionAfter] at runs
  by_cases truthy : (look (secretsOf (opDict op))).truthy = true
  · by_cases text : ∃ secret, look (secretsOf (opDict op)) = .str secret
    · right
      left
      obtain ⟨secret, isText⟩ := text
      rw [isText, truthy_str] at truthy
      rw [isText, proxyExecWs_text truthy] at runs
      obtain ⟨run, got⟩ := (runs _ (.ok .closed)).mpr
        ⟨_, rfl, (relay_runs_iff _ _ _ _).mpr ⟨rfl, Or.inl rfl⟩⟩
      obtain ⟨op', id, secret', hands', named, has, same⟩ :=
        finds.pairs _ _ run got _ ⟨_, List.mem_cons_of_mem _ List.mem_cons_self, rfl⟩
      rw [hands_unique hands' hands] at named has
      have sameSecret : secret = secret' := by
        simpa [sessionUrl] using congrArg WsUrl.secret same
      rw [sameSecret] at isText
      exact ⟨id, secret', named, has, isText⟩
    · right
      right
      have other : ∀ text, look (secretsOf (opDict op)) ≠ .str text := by
        intro secret isText
        exact text ⟨secret, isText⟩
      refine ⟨truthy, other, ?_⟩
      intro starts
      obtain ⟨envelope, id, secret, parsed, async, named, has⟩ := starts
      rw [proxyExecWs_other truthy other] at runs
      obtain ⟨run, got⟩ := (runs _ _).mpr ⟨[], rfl, (runs_raise_iff _ _ _).mpr ⟨rfl, rfl⟩⟩
      have opened := finds.opens envelope id secret parsed async named has _ _ run got
      simp [does_cons_iff] at opened
  · left
    rw [Bool.not_eq_true] at truthy
    rw [proxyExecWs_missing truthy] at runs
    obtain ⟨run, got⟩ := (runs _ (.ok .closed)).mpr
      ⟨_, rfl, (sendAndClose_runs_iff _ _ _).mpr ⟨rfl, rfl⟩⟩
    exact ⟨truthy, finds.reports _ _ run got
      ⟨_, List.mem_cons_of_mem _ List.mem_cons_self, rfl⟩ op hands⟩

theorem findsSession_of_secretFound {call : Call} {look : Dict → Json}
    (session : call.sessionSecret? = some look) {r : HttpReply}
    (found : SecretFound look r) : FindsSession lxd call r := by
  obtain ⟨req, failure, runs⟩ := session_runs_iff lxd session r
  have later : ∀ effect tail, effect ≠ Effect.lxd req →
      (Does effect (⟨.lxd req, .reply r⟩ :: tail) ↔ Does effect tail) := by
    intro effect tail other
    rw [does_cons_iff]
    simp [other.symm]
  constructor
  · intro envelope id secret parsed async named has trace outcome run got
    obtain ⟨tail, shape, after⟩ := (runs trace outcome).mp ⟨run, got⟩
    rw [shape, later (.connect (sessionUrl id secret)) tail nofun]
    rcases sessionAfter_found lxd found after with ⟨op, id', secret', hands, named', has',
        connects, _⟩ | ⟨_, starts, _⟩
    · rw [hands_unique hands (hands_of_async parsed async named)] at named' has'
      rw [named] at named'
      rw [has] at has'
      cases named'
      cases has'
      exact (connects _).mpr rfl
    · exact absurd ⟨envelope, id, secret, parsed, async, named, has⟩ starts
  · intro trace outcome run got url opened
    obtain ⟨tail, shape, after⟩ := (runs trace outcome).mp ⟨run, got⟩
    rw [shape, later (.connect url) tail nofun] at opened
    rcases sessionAfter_found lxd found after with ⟨op, id, secret, hands, named, has,
        connects, _⟩ | ⟨silent, _, _⟩
    · exact ⟨op, id, secret, hands, named, has, (connects url).mp opened⟩
    · exact absurd opened (silent url)
  · intro trace outcome run got said
    obtain ⟨tail, shape, after⟩ := (runs trace outcome).mp ⟨run, got⟩
    rw [shape, later (.sendText _) tail nofun] at said
    rcases sessionAfter_found lxd found after with ⟨_, _, _, _, _, _, _, quiet⟩ | ⟨_, _, none⟩
    · exact absurd said quiet
    · exact none said

/- The two handlers find their session for exactly the replies that carry the data secret
   where they look for it. -/
theorem session_found_iff {call : Call} {look : Dict → Json}
    (session : call.sessionSecret? = some look) (r : HttpReply) :
    FindsSession lxd call r ↔ SecretFound look r :=
  ⟨secretFound_of_findsSession lxd session, findsSession_of_secretFound lxd session⟩

end Sessions

def sessionStarted (metadata : Dict) : HttpReply :=
  ⟨202, .json "" (.obj [("type", .str "async"),
    ("metadata", .obj [("id", .str "op"), ("metadata", .obj metadata)])])⟩

def sessionFds : String × Json := ("fds", .obj [("0", .str "data"), ("control", .str "control")])

theorem fds_not_found {look : Dict → Json} (nothing : look [] = .null) :
    ¬ @SecretFound plainPlatform look (sessionStarted [sessionFds]) := by
  intro found
  have hands : @Hands plainPlatform (sessionStarted [sessionFds])
      (.obj [("id", .str "op"), ("metadata", .obj [sessionFds])]) :=
    (@hands_iff plainPlatform _ _).mpr rfl
  have secrets : secretsOf (@opDict plainPlatform
      (.obj [("id", .str "op"), ("metadata", .obj [sessionFds])])) = [] := rfl
  have cases' := found _ hands
  rw [secrets, nothing] at cases'
  rcases cases' with ⟨_, none⟩ | ⟨_, _, _, _, isText⟩ | ⟨truthy, _⟩
  · cases none
  · cases isText
  · cases truthy

theorem repeated_secret_found :
    @FindsSession plainPlatform ⟨{}⟩ (.execWs "web1" "/bin/sh" none)
      (sessionStarted [sessionFds, ("metadata", .obj [("1", .str "data")])]) := by
  refine (@session_found_iff plainPlatform ⟨{}⟩ (.execWs "web1" "/bin/sh" none) _ rfl _).mpr ?_
  intro op hands
  right
  left
  refine ⟨"op", "data", ?_⟩
  have handed := (@hands_iff plainPlatform _ op).mp hands
  cases handed
  exact ⟨rfl, rfl, rfl⟩

/-- The session that LXD starts is not found: the client is told that there is no secret,
    which is there. -/
theorem session_secret_missed :
    @HttpReply.startsSession plainPlatform (sessionStarted [sessionFds]) ∧
    (∃ trace outcome, (@Call.program plainPlatform ⟨{}⟩ (.execWs "web1" "/bin/sh" none)).Runs
        trace outcome ∧ Received (sessionStarted [sessionFds]) trace ∧
      Does (.sendText "no exec data secret returned by LXD") trace) ∧
    ¬ @FindsSession plainPlatform ⟨{}⟩ (.execWs "web1" "/bin/sh" none)
      (sessionStarted [sessionFds]) ∧
    ¬ @FindsSession plainPlatform ⟨{}⟩ (.consoleWs "web1" "console" none)
      (sessionStarted [sessionFds]) := by
  refine ⟨⟨_, "op", "data", rfl, rfl, rfl, rfl⟩, ?_, ?_, ?_⟩
  · obtain ⟨req, failure, runs⟩ := @session_runs_iff plainPlatform ⟨{}⟩
      (.execWs "web1" "/bin/sh" none) _ rfl (sessionStarted [sessionFds])
    obtain ⟨run, got⟩ := (runs _ (.ok .closed)).mpr
      ⟨_, rfl, (sendAndClose_runs_iff _ _ _).mpr ⟨rfl, rfl⟩⟩
    exact ⟨_, _, run, got, _, List.mem_cons_of_mem _ List.mem_cons_self, rfl⟩
  · intro finds
    exact fds_not_found rfl (@secretFound_of_findsSession plainPlatform ⟨{}⟩ _ _ rfl _ finds)
  · intro finds
    exact fds_not_found rfl (@secretFound_of_findsSession plainPlatform ⟨{}⟩ _ _ rfl _ finds)

end LxdApi
