import LxdApi.Library.RelayChannels
import LxdApi.Library.RelayEndings
import LxdApi.Json

set_option autoImplicit false

/- The relays of `_proxy_exec_ws` and `operations_ws` once LXD's WebSocket is open: which
   frames they pass on, and when they end. `client_to_lxd` is the task of the client's end,
   `lxd_to_client` that of LXD's; `asyncio.gather` waits for both or passes on the first
   exception, and cancels neither. -/
namespace LxdApi
open Relay Machine

inductive Frame where
  | text (s : String)
  | bytes (b : List UInt8)
  deriving DecidableEq

/-- `msg.get("text") or msg.get("bytes")` is truthy. -/
def Frame.truthy : Frame → Bool
  | text s => s ≠ ""
  | bytes b => !b.isEmpty

inductive RelayHandler where
  | proxyExecWs
  | operationsWs
  deriving DecidableEq

namespace RelayHandler

/- What `client_to_lxd` sends for a message of the client; LXD's events are read-only, and
   there it only waits for the disconnect. -/
def clientToLxd : RelayHandler → Frame → Option Frame
  | proxyExecWs, msg => if msg.truthy then some msg else none
  | operationsWs, _ => none

/-- What `lxd_to_client` sends for a message of LXD, in both handlers. -/
def lxdToClient : Frame → Option Frame
  | .bytes b => some (.bytes b)
  | .text s => some (.text s)

/- `lxd_to_client` catches every exception; `client_to_lxd` catches `WebSocketDisconnect`,
   which neither `receive` nor LXD's `send` raises. -/
def catches : End → Bool
  | .client => false
  | .server => true

def report (exc : String) : RelayHandler → Frame
  | proxyExecWs => .text ("proxy error: " ++ exc)
  | operationsWs => .text ("\x7b\"error\": " ++ Json.dumpsStr exc ++ "\x7d")

def rules (exc : String) (handler : RelayHandler) : Rules Frame where
  forward
    | .client => handler.clientToLxd
    | .server => lxdToClient
  swallows := catches
  report := handler.report exc

theorem lxdToClient_eq (msg : Frame) : lxdToClient msg = some msg := by
  cases msg <;> rfl

theorem clientToLxd_eq_some_iff (msg : Frame) :
    clientToLxd proxyExecWs msg = some msg ↔ msg.truthy = true := by
  unfold clientToLxd
  split <;> simp_all

end RelayHandler

/-- No task reads an empty frame of the client or writes to an end that has closed. -/
def LosesNothing (s : State Frame) : Label Frame → Prop
  | .task e =>
    match s.task e, (s.peer e).queue with
    | .receiving, msg :: _ => e = .client → msg.truthy = true
    | .sending _, _ => (s.peer e.other).isOpen = true
    | _, _ => True
  | _ => True

theorem clean_iff (exc : String) (s : State Frame) (l : Label Frame) :
    Clean (RelayHandler.proxyExecWs.rules exc) s l ↔ LosesNothing s l := by
  cases l with
  | task e =>
    simp only [Clean, CleanTask, LosesNothing]
    cases s.task e with
    | receiving =>
      cases (s.peer e).queue with
      | nil => exact Iff.rfl
      | cons msg rest =>
        cases e with
        | client => simp [RelayHandler.rules, RelayHandler.clientToLxd_eq_some_iff]
        | server => simp [RelayHandler.rules, RelayHandler.lxdToClient_eq]
    | _ => exact Iff.rfl
  | _ => exact Iff.rfl

/- In every run of the exec relay, both directions stay faithful channels exactly if no
   step loses a frame. -/
theorem exec_relay_faithful_iff (exc : String) (labels : List (Label Frame)) :
    Throughout (State.move (RelayHandler.proxyExecWs.rules exc)) Faithful State.start labels ↔
      AtEach (State.move (RelayHandler.proxyExecWs.rules exc)) LosesNothing State.start
        labels :=
  (faithful_iff rfl labels).trans (atEach_congr (clean_iff exc) State.start labels)

/-- An empty frame of the client is read and not sent to LXD; a frame that is in hand when
    LXD closes is lost, and an error is sent to the client instead. -/
theorem empty_frame_dropped :
    ¬ Throughout (State.move (RelayHandler.proxyExecWs.rules "closed")) Faithful State.start
      [.deliver .client (.text ""), .task .client] ∧
    ¬ Throughout (State.move (RelayHandler.proxyExecWs.rules "closed")) Faithful State.start
      [.deliver .client (.text "ls"), .task .client, .close .server, .task .client] := by
  constructor
  · intro faithful
    have channel := faithful.2.2 .client
    cases channel
  · intro faithful
    have channel := faithful.2.2.2.2 .client
    cases channel

/- A task reads the end of its stream while the other waits for an open end from which
   nothing has come; or the client's task reads the last frame of an open client and sends
   nothing for it, after LXD has closed and the task that reads from it is over. -/
def LeavesWaiting (handler : RelayHandler) (s : State Frame) (l : Label Frame) : Prop :=
  (∃ e, l = .task e ∧ s.task e = .receiving ∧ s.task e.other = .receiving ∧
    (s.peer e).isOpen = false ∧ (s.peer e).queue = [] ∧
    (s.peer e.other).isOpen = true ∧ (s.peer e.other).queue = []) ∨
  (l = .task .client ∧ s.task .client = .receiving ∧ (s.task .server).ended = true ∧
    (s.peer .client).isOpen = true ∧ (s.peer .server).isOpen = false ∧
    ∃ msg, (s.peer .client).queue = [msg] ∧ handler.clientToLxd msg = none)

theorem hangs_iff (handler : RelayHandler) (exc : String) (s : State Frame) (l : Label Frame) :
    Hangs (handler.rules exc) s l ↔ LeavesWaiting handler s l := by
  constructor
  · intro hangs
    obtain ⟨e, isTask, reads, shape⟩ := hangs
    rcases shape with ⟨shut, silent, waits, opened, quiet⟩ | ⟨opened, shut, ended, msg, last, drops⟩
    · exact Or.inl ⟨e, isTask, reads, waits, shut, silent, opened, quiet⟩
    · cases e with
      | client =>
        exact Or.inr ⟨isTask, reads, ended, opened, shut, msg, last, drops⟩
      | server =>
        have passes : RelayHandler.lxdToClient msg = none := drops
        rw [RelayHandler.lxdToClient_eq] at passes
        cases passes
  · intro leaves
    rcases leaves with ⟨e, isTask, reads, waits, shut, silent, opened, quiet⟩ |
        ⟨isTask, reads, ended, opened, shut, msg, last, ignored⟩
    · exact ⟨e, isTask, reads, Or.inl ⟨shut, silent, waits, opened, quiet⟩⟩
    · exact ⟨.client, isTask, reads, Or.inr ⟨opened, shut, ended, msg, last, ignored⟩⟩

/- In every run of either relay, the relay is never stuck after one side has closed, and
   has closed both when its handler has returned, exactly if no step leaves a task waiting. -/
theorem relay_ends_iff (handler : RelayHandler) (exc : String) (labels : List (Label Frame)) :
    Throughout (State.move (handler.rules exc)) EndsWell State.start labels ↔
      AtEach (State.move (handler.rules exc)) (fun s l => ¬ LeavesWaiting handler s l)
        State.start labels := by
  have quiet : (handler.rules exc).swallows .client = false := rfl
  rw [ends_well_iff quiet]
  exact atEach_congr (fun s l => not_congr (hangs_iff handler exc s l)) State.start labels

theorem closed_end_waits (handler : RelayHandler) (exc : String) (e : End) :
    ¬ Throughout (State.move (handler.rules exc)) EndsWell State.start [.close e, .task e] := by
  intro ends
  cases e with
  | client => exact ends.2.2.moves .client ⟨rfl, rfl, rfl, rfl, rfl⟩
  | server => exact ends.2.2.moves .server ⟨rfl, rfl, rfl, rfl, rfl⟩

/-- The client goes away while LXD is silent, or LXD while the client is, and the handler
    waits for the other. -/
theorem closed_relay_waits :
    ¬ Throughout (State.move (RelayHandler.proxyExecWs.rules "closed")) EndsWell State.start
      [.close .client, .task .client] ∧
    ¬ Throughout (State.move (RelayHandler.proxyExecWs.rules "closed")) EndsWell State.start
      [.close .server, .task .server] ∧
    ¬ Throughout (State.move (RelayHandler.operationsWs.rules "closed")) EndsWell State.start
      [.close .client, .task .client] ∧
    ¬ Throughout (State.move (RelayHandler.operationsWs.rules "closed")) EndsWell State.start
      [.close .server, .task .server] :=
  ⟨closed_end_waits _ _ _, closed_end_waits _ _ _, closed_end_waits _ _ _,
    closed_end_waits _ _ _⟩

end LxdApi
