import LxdApi.Library.Relay

set_option autoImplicit false

/- How a relay ends: which steps leave it waiting for an end that says nothing after the
   other has closed, and what is closed when its handler has returned. -/
namespace Relay
open Machine State
variable {F : Type}

/-- One end has closed and its task is over, and the task of the other waits for a frame
    from an end that is open and silent. -/
structure Stuck (s : State F) (e : End) : Prop where
  shut : (s.peer e).isOpen = false
  ended : (s.task e).ended = true
  waits : s.task e.other = .receiving
  opened : (s.peer e.other).isOpen = true
  silent : (s.peer e.other).queue = []

/-- The relay is never stuck, and has closed both ends when the handler has returned. -/
structure EndsWell (s : State F) : Prop where
  moves : ∀ e, ¬ Stuck s e
  closes : s.phase = .returned → ∀ e, (s.peer e).isOpen = false

/- A task reads the end of its stream while the other waits for a frame from an open and
   silent end; or it reads the last frame of its own end and does not forward it, after the
   other end has closed and the other task is over. -/
def Hangs (rules : Rules F) (s : State F) (l : Label F) : Prop :=
  ∃ e, l = .task e ∧ s.task e = .receiving ∧
    (((s.peer e).isOpen = false ∧ (s.peer e).queue = [] ∧ s.task e.other = .receiving ∧
        (s.peer e.other).isOpen = true ∧ (s.peer e.other).queue = []) ∨
      ((s.peer e).isOpen = true ∧ (s.peer e.other).isOpen = false ∧
        (s.task e.other).ended = true ∧ ∃ f, (s.peer e).queue = [f] ∧ rules.forward e f = none))

/- What holds of every state: why a task is over, and what has been closed when the handler
   goes on. -/
structure Settled (rules : Rules F) (s : State F) : Prop where
  finished : ∀ e, s.task e = .finished → (s.peer e).isOpen = false ∨
    rules.swallows e = true ∧ (s.peer e.other).isOpen = false
  failed : ∀ e, s.task e = .failed → (s.peer e.other).isOpen = false
  leaving : s.phase = .leaving false → (s.peer .client).isOpen = false
  server : s.phase = .reporting ∨ s.phase = .closing ∨ s.phase = .returned →
    (s.peer .server).isOpen = false
  client : s.phase = .returned → (s.peer .client).isOpen = false

theorem ended_iff (t : Task F) : t.ended = true ↔ t = .finished ∨ t = .failed := by
  cases t <;> simp [Task.ended]

theorem next_not_ended (rules : Rules F) (e : End) (f : F) : (rules.next e f).ended = false := by
  unfold Rules.next
  split <;> rfl

theorem next_receiving_iff (rules : Rules F) (e : End) (f : F) :
    rules.next e f = .receiving ↔ rules.forward e f = none := by
  unfold Rules.next
  split
  · rename_i g forwards
    simp [forwards]
  · rename_i drops
    simp [drops]

theorem unwritten_ended (rules : Rules F) (e : End) : (rules.unwritten e).ended = true := by
  unfold Rules.unwritten
  split <;> rfl

section Endings
variable {rules : Rules F} {s : State F}

theorem Settled.one_closed (settled : Settled rules s) {e : End}
    (ended : (s.task e).ended = true) :
    (s.peer e).isOpen = false ∨ (s.peer e.other).isOpen = false := by
  rcases (ended_iff _).mp ended with finished | failed
  · rcases settled.finished e finished with here | there
    · exact Or.inl here
    · exact Or.inr there.2
  · exact Or.inr (settled.failed e failed)

theorem closed_stays {l : Label F} {s' : State F} (moves : Moves rules s l s') {e : End}
    (shut : (s.peer e).isOpen = false) : (s'.peer e).isOpen = false := by
  have updated : ∀ e' (p : Peer F), (p.isOpen = true → (s.peer e').isOpen = true) →
      ((s.setPeer e' p).peer e).isOpen = false := by
    intro e' p opens
    rcases End.eq_or_other e' e with same | other
    · subst same
      rw [setPeer_self]
      by_contra opened
      rw [opens (by simpa using opened)] at shut
      cases shut
    · subst other
      rw [setPeer_other]
      exact shut
  cases moves with
  | delivered e' f opened => exact updated e' _ fun _ => opened
  | closed e' => exact updated e' _ (by simp)
  | took e' f rest reads head => exact updated e' _ fun opened => opened
  | wrote e' f holds opened => exact updated e'.other _ fun _ => opened
  | left raised leaves => exact updated .server _ (by simp)
  | reported reports opened => exact updated .client _ fun _ => opened
  | hungUp closes => exact updated .client _ (by simp)
  | _ => exact shut

theorem newly_ended {l : Label F} {s' : State F} (moves : Moves rules s l s') {e : End}
    (ended : (s'.task e).ended = true) :
    s'.task e = s.task e ∨ (s'.task e = .finished ∧ (s.peer e).isOpen = false) ∨
      (s'.task e = rules.unwritten e ∧ (s.peer e.other).isOpen = false) := by
  cases moves with
  | took e' f rest reads head =>
    rcases End.eq_or_other e' e with same | other
    · subst same
      rw [setTask_self, next_not_ended] at ended
      cases ended
    · subst other
      exact Or.inl (setTask_other _ _ _)
  | reachedEnd e' reads silent shut =>
    rcases End.eq_or_other e' e with same | other
    · subst same
      exact Or.inr (Or.inl ⟨setTask_self _ _ _, shut⟩)
    · subst other
      exact Or.inl (setTask_other _ _ _)
  | wrote e' f holds opened =>
    rcases End.eq_or_other e' e with same | other
    · subst same
      rw [setTask_self] at ended
      cases ended
    · subst other
      exact Or.inl (setTask_other _ _ _)
  | couldNotWrite e' f holds shut =>
    rcases End.eq_or_other e' e with same | other
    · subst same
      exact Or.inr (Or.inr ⟨setTask_self _ _ _, shut⟩)
    · subst other
      exact Or.inl (setTask_other _ _ _)
  | _ => exact Or.inl rfl

theorem settled_start : Settled rules (State.start : State F) where
  finished := nofun
  failed := nofun
  leaving := nofun
  server := nofun
  client := nofun

theorem settled_move (quiet : rules.swallows .client = false) (s : State F) (l : Label F)
    (settled : Settled rules s) : Settled rules (s.move rules l) := by
  rcases move_cases rules s l with same | moves
  · rw [same]
    exact settled
  generalize s.move rules l = s' at moves
  have stays := @closed_stays F rules s l s' moves
  constructor
  · intro e finished
    rcases newly_ended moves ((ended_iff _).mpr (Or.inl finished)) with same | ⟨_, shut⟩ |
        ⟨unwritten, shut⟩
    · rw [same] at finished
      rcases settled.finished e finished with here | ⟨swallows, there⟩
      · exact Or.inl (stays here)
      · exact Or.inr ⟨swallows, stays there⟩
    · exact Or.inl (stays shut)
    · right
      rw [unwritten, Rules.unwritten] at finished
      split at finished
      · rename_i swallows
        exact ⟨swallows, stays shut⟩
      · cases finished
  · intro e failed
    rcases newly_ended moves ((ended_iff _).mpr (Or.inr failed)) with same | ⟨finished, _⟩ |
        ⟨_, shut⟩
    · rw [same] at failed
      exact stays (settled.failed e failed)
    · rw [failed] at finished
      cases finished
    · exact stays shut
  · intro leaving
    cases moves with
    | gathered waits fine ended =>
      rcases (ended_iff _).mp (ended .client) with finished | failed
      · rcases settled.finished .client finished with shut | ⟨swallows, _⟩
        · exact shut
        · rw [quiet] at swallows
          cases swallows
      · simp [State.someFailed, failed] at fine
    | left raised leaves => cases raised <;> cases leaving
    | raised => cases leaving
    | reported => cases leaving
    | unreported => cases leaving
    | hungUp => cases leaving
    | _ => exact stays (settled.leaving leaving)
  · intro later
    cases moves with
    | left raised leaves => simp [State.setPhase]
    | reported reports opened => exact stays (settled.server (Or.inl reports))
    | unreported reports shut => exact stays (settled.server (Or.inl reports))
    | hungUp closes => exact stays (settled.server (Or.inr (Or.inl closes)))
    | raised => simp at later
    | gathered => simp at later
    | _ => exact stays (settled.server later)
  · intro returned
    cases moves with
    | left raised leaves =>
      cases raised with
      | true => cases returned
      | false => exact stays (settled.leaving leaves)
    | hungUp closes => simp
    | raised => cases returned
    | gathered => cases returned
    | reported => cases returned
    | unreported => cases returned
    | _ => exact stays (settled.client returned)

theorem stuck_of_hangs {l : Label F} (hangs : Hangs rules s l) :
    ∃ e, Stuck (s.move rules l) e := by
  obtain ⟨e, isTask, reads, shape⟩ := hangs
  subst isTask
  rcases shape with ⟨shut, silent, waits, opened, quiet⟩ | ⟨opened, shut, ended, f, last, drops⟩
  · have next : s.move rules (.task e) = s.setTask e .finished := by
      simp [State.move, State.moveTask, reads, silent, shut]
    rw [next]
    exact ⟨e, shut, by simp [Task.ended], by simpa using waits, opened, quiet⟩
  · have next : s.move rules (.task e) =
        (s.setPeer e ((s.peer e).consume f [])).setTask e .receiving := by
      simp [State.move, State.moveTask, reads, last, (next_receiving_iff rules e f).mpr drops]
    rw [next]
    refine ⟨e.other, ?_, ?_, ?_, ?_, ?_⟩
    · simpa using shut
    · simpa using ended
    · simp
    · simpa using opened
    · simp

theorem stuck_congr {s' : State F} {e : End} (stuck : Stuck s' e) (tasks : s'.task = s.task)
    (opened : ∀ e, (s'.peer e).isOpen = (s.peer e).isOpen)
    (queues : ∀ e, (s'.peer e).queue = (s.peer e).queue) : Stuck s e where
  shut := (opened e).symm.trans stuck.shut
  ended := tasks ▸ stuck.ended
  waits := tasks ▸ stuck.waits
  opened := (opened e.other).symm.trans stuck.opened
  silent := (queues e.other).symm.trans stuck.silent

theorem not_stuck_of_close (settled : Settled rules s) (free : ∀ e, ¬ Stuck s e) (e' e : End)
    (phase : Phase) : ¬ Stuck ((s.setPeer e' (s.peer e').close).setPhase phase) e := by
  intro stuck
  rcases End.eq_or_other e' e with same | other
  · subst same
    have opened : (s.peer e.other).isOpen = true := by simpa using stuck.opened
    have ended : (s.task e).ended = true := by simpa using stuck.ended
    rcases settled.one_closed ended with shut | closed
    · exact free e ⟨shut, ended, by simpa using stuck.waits, opened, by simpa using stuck.silent⟩
    · rw [opened] at closed
      cases closed
  · subst other
    have opened := stuck.opened
    simp at opened

theorem hangs_of_stuck (settled : Settled rules s) (free : ∀ e, ¬ Stuck s e) {l : Label F}
    {e : End} (stuck : Stuck (s.move rules l) e) : Hangs rules s l := by
  rcases move_cases rules s l with same | moves
  · rw [same] at stuck
    exact absurd stuck (free e)
  generalize s.move rules l = s' at moves stuck
  cases moves with
  | delivered e' f opened =>
    rcases End.eq_or_other e' e with same | other
    · subst same
      have shut := stuck.shut
      simp [opened] at shut
    · subst other
      have silent := stuck.silent
      simp at silent
  | closed e' => exact absurd stuck (not_stuck_of_close settled free e' e s.phase)
  | took e' f rest reads head =>
    rcases End.eq_or_other e' e with same | other
    · subst same
      have ended := stuck.ended
      rw [State.setTask_self, next_not_ended] at ended
      cases ended
    · subst other
      have waits := stuck.waits
      have silent := stuck.silent
      simp only [End.other_other, State.setTask_self, next_receiving_iff] at waits
      simp only [End.other_other, State.setTask_peer, State.setPeer_self, Peer.consume] at silent
      subst silent
      exact ⟨e', rfl, reads, Or.inr ⟨by simpa using stuck.opened, by simpa using stuck.shut,
        by simpa using stuck.ended, f, head, waits⟩⟩
  | reachedEnd e' reads silent shut =>
    rcases End.eq_or_other e' e with same | other
    · subst same
      exact ⟨e, rfl, reads, Or.inl ⟨shut, silent, by simpa using stuck.waits, stuck.opened,
        stuck.silent⟩⟩
    · subst other
      have waits := stuck.waits
      simp at waits
  | wrote e' f holds opened =>
    rcases End.eq_or_other e' e with same | other
    · subst same
      have ended := stuck.ended
      simp [Task.ended] at ended
    · subst other
      have shut := stuck.shut
      simp [opened] at shut
  | couldNotWrite e' f holds shut =>
    rcases End.eq_or_other e' e with same | other
    · subst same
      have opened := stuck.opened
      simp [shut] at opened
    · subst other
      have waits := stuck.waits
      have ended := unwritten_ended rules e'
      simp only [End.other_other, State.setTask_self] at waits
      rw [waits] at ended
      cases ended
  | raised waits failed =>
    exact (free e (stuck_congr stuck rfl (fun _ => rfl) (fun _ => rfl))).elim
  | gathered waits fine ended =>
    exact (free e (stuck_congr stuck rfl (fun _ => rfl) (fun _ => rfl))).elim
  | left raised leaves => exact absurd stuck (not_stuck_of_close settled free .server e _)
  | reported reports opened =>
    refine (free e (stuck_congr stuck rfl ?_ ?_)).elim
    · intro e'
      cases e' <;> rfl
    · intro e'
      cases e' <;> rfl
  | unreported reports shut =>
    exact (free e (stuck_congr stuck rfl (fun _ => rfl) (fun _ => rfl))).elim
  | hungUp closes => exact absurd stuck (not_stuck_of_close settled free .client e _)

/-- Where the client's task always raises when it cannot write, a run ends well exactly if
    none of its steps hangs. -/
theorem ends_well_iff (quiet : rules.swallows .client = false) (labels : List (Label F)) :
    Throughout (State.move rules) EndsWell State.start labels ↔
      AtEach (State.move rules) (fun s l => ¬ Hangs rules s l) State.start labels := by
  apply throughout_iff (settled_move quiet) _ settled_start
  · exact ⟨nofun, nofun⟩
  · intro s l settled well
    constructor
    · intro after hangs
      obtain ⟨e, stuck⟩ := stuck_of_hangs hangs
      exact after.moves e stuck
    · intro fine
      constructor
      · intro e stuck
        exact fine (hangs_of_stuck settled well.moves stuck)
      · intro returned e
        have later := settled_move quiet s l settled
        cases e with
        | client => exact later.client returned
        | server => exact later.server (Or.inr (Or.inr returned))

end Endings
end Relay
