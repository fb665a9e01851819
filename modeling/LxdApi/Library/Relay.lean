import LxdApi.Library.Machine
import Mathlib.Logic.Function.Basic

set_option autoImplicit false

/- A relay between two connections. Two tasks run side by side, each of which reads from
   one end and writes to the other; the handler that started them waits until both have
   finished, or one has failed, and then leaves. The ends, the tasks and the handler move
   in any order. -/
namespace Relay
open Machine

inductive End where
  | client
  | server
  deriving DecidableEq

def End.other : End → End
  | client => server
  | server => client

/-- An end as the relay sees it: the frames that wait to be read, those that were read, and
    those that were written to it. -/
structure Peer (F : Type) where
  isOpen : Bool
  queue : List F
  consumed : List F
  sent : List F

inductive Task (F : Type) where
  | receiving
  | sending (f : F)
  | finished
  | failed

/- What the handler is about to do: wait for the tasks, close the server's connection,
   report the exception to the client, close the client's connection. -/
inductive Phase where
  | relaying
  | leaving (raised : Bool)
  | reporting
  | closing
  | returned
  deriving DecidableEq

structure State (F : Type) where
  peer : End → Peer F
  task : End → Task F
  phase : Phase

inductive Label (F : Type) where
  | deliver (e : End) (f : F)
  | close (e : End)
  | task (e : End)
  | handler

/- What a relay does with the frames of an end, whether the task of an end ends quietly
   when it cannot write, and what the handler reports when a task has failed. -/
structure Rules (F : Type) where
  forward : End → F → Option F
  swallows : End → Bool
  report : F

variable {F : Type}

def Rules.next (rules : Rules F) (e : End) (f : F) : Task F :=
  match rules.forward e f with
  | some g => .sending g
  | none => .receiving

def Rules.unwritten (rules : Rules F) (e : End) : Task F :=
  if rules.swallows e then .finished else .failed

def Task.ended : Task F → Bool
  | finished | failed => true
  | _ => false

def Task.inHand : Task F → List F
  | sending f => [f]
  | _ => []

namespace Peer

@[simp] def push (p : Peer F) (f : F) : Peer F := { p with queue := p.queue ++ [f] }

def deliver (p : Peer F) (f : F) : Peer F := if p.isOpen then p.push f else p

@[simp] def close (p : Peer F) : Peer F := { p with isOpen := false }

@[simp] def consume (p : Peer F) (f : F) (rest : List F) : Peer F :=
  { p with queue := rest, consumed := p.consumed ++ [f] }

@[simp] def send (p : Peer F) (f : F) : Peer F := { p with sent := p.sent ++ [f] }

end Peer

namespace State

def start : State F := ⟨fun _ => ⟨true, [], [], []⟩, fun _ => .receiving, .relaying⟩

def setPeer (s : State F) (e : End) (p : Peer F) : State F :=
  { s with peer := Function.update s.peer e p }

def setTask (s : State F) (e : End) (t : Task F) : State F :=
  { s with task := Function.update s.task e t }

def setPhase (s : State F) (phase : Phase) : State F := { s with phase := phase }

def moveTask (rules : Rules F) (s : State F) (e : End) : State F :=
  match s.task e with
  | .receiving =>
    match (s.peer e).queue with
    | f :: rest =>
      (s.setPeer e ((s.peer e).consume f rest)).setTask e (rules.next e f)
    | [] => if (s.peer e).isOpen then s else s.setTask e .finished
  | .sending f =>
    if (s.peer e.other).isOpen then
      (s.setPeer e.other ((s.peer e.other).send f)).setTask e .receiving
    else s.setTask e (rules.unwritten e)
  | .finished => s
  | .failed => s

def someFailed (s : State F) : Bool :=
  match s.task .client, s.task .server with
  | .failed, _ => true
  | _, .failed => true
  | _, _ => false

def moveHandler (rules : Rules F) (s : State F) : State F :=
  match s.phase with
  | .relaying =>
    if s.someFailed then s.setPhase (.leaving true)
    else if (s.task .client).ended ∧ (s.task .server).ended then s.setPhase (.leaving false)
    else s
  | .leaving raised =>
    (s.setPeer .server (s.peer .server).close).setPhase (if raised then .reporting else .returned)
  | .reporting =>
    (if (s.peer .client).isOpen then s.setPeer .client ((s.peer .client).send rules.report)
      else s).setPhase .closing
  | .closing => (s.setPeer .client (s.peer .client).close).setPhase .returned
  | .returned => s

def move (rules : Rules F) (s : State F) : Label F → State F
  | .deliver e f => s.setPeer e ((s.peer e).deliver f)
  | .close e => s.setPeer e (s.peer e).close
  | .task e => s.moveTask rules e
  | .handler => s.moveHandler rules

/- All that a step can do: an end delivers a frame or closes, a task reads a frame, finds
   the end of its stream, writes or fails to, or the handler goes on. -/
inductive Moves (rules : Rules F) (s : State F) : Label F → State F → Prop where
  | delivered (e : End) (f : F) (opened : (s.peer e).isOpen = true) :
      Moves rules s (.deliver e f) (s.setPeer e ((s.peer e).push f))
  | closed (e : End) : Moves rules s (.close e) (s.setPeer e (s.peer e).close)
  | took (e : End) (f : F) (rest : List F) (reads : s.task e = .receiving)
      (head : (s.peer e).queue = f :: rest) :
      Moves rules s (.task e)
        ((s.setPeer e ((s.peer e).consume f rest)).setTask e (rules.next e f))
  | reachedEnd (e : End) (reads : s.task e = .receiving) (silent : (s.peer e).queue = [])
      (shut : (s.peer e).isOpen = false) : Moves rules s (.task e) (s.setTask e .finished)
  | wrote (e : End) (f : F) (holds : s.task e = .sending f)
      (opened : (s.peer e.other).isOpen = true) :
      Moves rules s (.task e)
        ((s.setPeer e.other ((s.peer e.other).send f)).setTask e .receiving)
  | couldNotWrite (e : End) (f : F) (holds : s.task e = .sending f)
      (shut : (s.peer e.other).isOpen = false) :
      Moves rules s (.task e) (s.setTask e (rules.unwritten e))
  | raised (waits : s.phase = .relaying) (failed : s.someFailed = true) :
      Moves rules s .handler (s.setPhase (.leaving true))
  | gathered (waits : s.phase = .relaying) (fine : s.someFailed = false)
      (ended : ∀ e, (s.task e).ended = true) :
      Moves rules s .handler (s.setPhase (.leaving false))
  | left (raised : Bool) (leaves : s.phase = .leaving raised) :
      Moves rules s .handler ((s.setPeer .server (s.peer .server).close).setPhase
        (if raised then .reporting else .returned))
  | reported (reports : s.phase = .reporting) (opened : (s.peer .client).isOpen = true) :
      Moves rules s .handler
        ((s.setPeer .client ((s.peer .client).send rules.report)).setPhase .closing)
  | unreported (reports : s.phase = .reporting) (shut : (s.peer .client).isOpen = false) :
      Moves rules s .handler (s.setPhase .closing)
  | hungUp (closes : s.phase = .closing) :
      Moves rules s .handler ((s.setPeer .client (s.peer .client).close).setPhase .returned)

theorem move_cases (rules : Rules F) (s : State F) (l : Label F) :
    s.move rules l = s ∨ Moves rules s l (s.move rules l) := by
  cases l with
  | deliver e f =>
    simp only [move, Peer.deliver]
    by_cases opened : (s.peer e).isOpen = true
    · rw [if_pos opened]
      exact Or.inr (.delivered e f opened)
    · left
      simp [opened, setPeer]
  | close e => exact Or.inr (.closed e)
  | task e =>
    simp only [move, moveTask]
    cases stands : s.task e with
    | receiving =>
      cases queued : (s.peer e).queue with
      | cons f rest => exact Or.inr (.took e f rest stands queued)
      | nil =>
        cases opened : (s.peer e).isOpen with
        | true => exact Or.inl rfl
        | false => exact Or.inr (.reachedEnd e stands queued opened)
    | sending f =>
      cases opened : (s.peer e.other).isOpen with
      | true => exact Or.inr (.wrote e f stands opened)
      | false => exact Or.inr (.couldNotWrite e f stands opened)
    | finished => exact Or.inl rfl
    | failed => exact Or.inl rfl
  | handler =>
    simp only [move, moveHandler]
    cases phase : s.phase with
    | relaying =>
      cases failed : s.someFailed with
      | true => exact Or.inr (.raised phase failed)
      | false =>
        by_cases ended : (s.task .client).ended = true ∧ (s.task .server).ended = true
        · simp only [ended, and_self, if_true, Bool.false_eq_true, if_false]
          refine Or.inr (.gathered phase failed ?_)
          intro e
          cases e with
          | client => exact ended.1
          | server => exact ended.2
        · left
          simp only [ended, Bool.false_eq_true, if_false]
    | leaving raised => exact Or.inr (.left raised phase)
    | reporting =>
      cases opened : (s.peer .client).isOpen with
      | true => exact Or.inr (.reported phase opened)
      | false => exact Or.inr (.unreported phase opened)
    | closing => exact Or.inr (.hungUp phase)
    | returned => exact Or.inl rfl

section Updates
variable (s : State F) (e : End)

@[simp] theorem setPeer_self (p : Peer F) : (s.setPeer e p).peer e = p := by
  simp [setPeer]

@[simp] theorem setPeer_other (p : Peer F) : (s.setPeer e p).peer e.other = s.peer e.other := by
  cases e <;> simp [setPeer, End.other]

@[simp] theorem setPeer_of_other (p : Peer F) : (s.setPeer e.other p).peer e = s.peer e := by
  cases e <;> simp [setPeer, End.other]

@[simp] theorem setPeer_task (p : Peer F) : (s.setPeer e p).task = s.task := rfl

@[simp] theorem setPeer_phase (p : Peer F) : (s.setPeer e p).phase = s.phase := rfl

@[simp] theorem setTask_self (t : Task F) : (s.setTask e t).task e = t := by
  simp [setTask]

@[simp] theorem setTask_other (t : Task F) : (s.setTask e t).task e.other = s.task e.other := by
  cases e <;> simp [setTask, End.other]

@[simp] theorem setTask_of_other (t : Task F) : (s.setTask e.other t).task e = s.task e := by
  cases e <;> simp [setTask, End.other]

@[simp] theorem setTask_peer (t : Task F) : (s.setTask e t).peer = s.peer := rfl

@[simp] theorem setTask_phase (t : Task F) : (s.setTask e t).phase = s.phase := rfl

@[simp] theorem setPhase_peer (phase : Phase) : (s.setPhase phase).peer = s.peer := rfl

@[simp] theorem setPhase_task (phase : Phase) : (s.setPhase phase).task = s.task := rfl

@[simp] theorem setPhase_phase (phase : Phase) : (s.setPhase phase).phase = phase := rfl

end Updates

end State

@[simp] theorem End.other_other (e : End) : e.other.other = e := by
  cases e <;> rfl

theorem End.eq_or_other (e e' : End) : e' = e ∨ e' = e.other := by
  cases e <;> cases e' <;> decide

end Relay
