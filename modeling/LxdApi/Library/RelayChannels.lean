import LxdApi.Library.Relay

set_option autoImplicit false

/- The two directions of a relay as channels: what was read from one end is what was written
   to the other and the frame in hand, in this order. -/
namespace Relay
open Machine State
variable {F : Type}

/-- What was written to the other end, and then the frame in hand, is what was read. -/
def Faithful (s : State F) : Prop :=
  ∀ e, (s.peer e.other).sent ++ (s.task e).inHand = (s.peer e).consumed

def CleanTask (rules : Rules F) (s : State F) (e : End) : Prop :=
  match s.task e, (s.peer e).queue with
  | .receiving, f :: _ => rules.forward e f = some f
  | .sending _, _ => (s.peer e.other).isOpen = true
  | _, _ => True

def Clean (rules : Rules F) (s : State F) : Label F → Prop
  | .task e => CleanTask rules s e
  | _ => True

/- What the client's frames come to when its task is the only one that can fail: they are
   counted, one is missing when the task has failed, and only then does the handler report
   to the client. -/
structure Counted (s : State F) : Prop where
  server : s.task .server ≠ .failed
  atMost : (s.peer .server).sent.length + (s.task .client).inHand.length ≤
    (s.peer .client).consumed.length
  lost : s.task .client = .failed →
    (s.peer .server).sent.length < (s.peer .client).consumed.length
  reports : s.phase = .leaving true ∨ s.phase = .reporting → s.task .client = .failed

section Channels
variable {rules : Rules F} {s : State F}

theorem next_inHand_iff (rules : Rules F) (e : End) (f : F) :
    (rules.next e f).inHand = [f] ↔ rules.forward e f = some f := by
  unfold Rules.next
  split
  · rename_i g forwards
    simp [forwards, Task.inHand]
  · rename_i drops
    simp [drops, Task.inHand]

theorem next_inHand_length (rules : Rules F) (e : End) (f : F) :
    (rules.next e f).inHand.length ≤ 1 := by
  unfold Rules.next
  split <;> simp [Task.inHand]

theorem unwritten_inHand (rules : Rules F) (e : End) : (rules.unwritten e).inHand = [] := by
  unfold Rules.unwritten
  split <;> rfl

theorem Counted.not_failed (counted : Counted s) (faithful : Faithful s) :
    s.task .client ≠ .failed := by
  intro failed
  have short := counted.lost failed
  have same := congrArg List.length (faithful .client)
  simp only [End.other, failed, Task.inHand, List.append_nil] at same
  omega

theorem next_not_failed (rules : Rules F) (e : End) (f : F) : rules.next e f ≠ .failed := by
  unfold Rules.next
  split <;> nofun

theorem failed_client (counted : Counted s) (failed : s.someFailed = true) :
    s.task .client = .failed := by
  unfold State.someFailed at failed
  split at failed
  · assumption
  · exact absurd ‹s.task .server = .failed› counted.server
  · cases failed

theorem Counted.quiet (counted : Counted s) {t : Task F} (stands : s.task .client = t)
    (fine : t ≠ .failed) : ¬ (s.phase = .leaving true ∨ s.phase = .reporting) := by
  intro raised
  rw [counted.reports raised] at stands
  exact fine stands.symm

theorem counted_start : Counted (State.start : State F) where
  server := nofun
  atMost := by simp [State.start, Task.inHand]
  lost := nofun
  reports := by simp [State.start]

theorem counted_move (swallows : rules.swallows .server = true) (s : State F) (l : Label F)
    (counted : Counted s) : Counted (s.move rules l) := by
  rcases move_cases rules s l with same | moves
  · rw [same]
    exact counted
  generalize s.move rules l = s' at moves
  cases moves with
  | delivered e f opened =>
    cases e <;> exact ⟨counted.server, counted.atMost, counted.lost, counted.reports⟩
  | closed e =>
    cases e <;> exact ⟨counted.server, counted.atMost, counted.lost, counted.reports⟩
  | took e f rest reads head =>
    have notFailed := next_not_failed rules e f
    cases e with
    | client =>
      have before := counted.atMost
      have one := next_inHand_length rules .client f
      rw [reads] at before
      refine ⟨counted.server, ?_, fun failed => absurd failed notFailed, ?_⟩
      · change (s.peer .server).sent.length + (rules.next .client f).inHand.length ≤
          ((s.peer .client).consumed ++ [f]).length
        simp only [Task.inHand, List.length_nil] at before
        rw [List.length_append, List.length_singleton]
        omega
      · exact fun raised => absurd raised (counted.quiet reads nofun)
    | server => exact ⟨notFailed, counted.atMost, counted.lost, counted.reports⟩
  | reachedEnd e reads silent shut =>
    cases e with
    | client =>
      refine ⟨counted.server, ?_, nofun, ?_⟩
      · exact Nat.le_trans (Nat.add_le_add_left (Nat.zero_le _) _) counted.atMost
      · exact fun raised => absurd raised (counted.quiet reads nofun)
    | server => exact ⟨nofun, counted.atMost, counted.lost, counted.reports⟩
  | wrote e f holds opened =>
    cases e with
    | client =>
      have before := counted.atMost
      rw [holds] at before
      refine ⟨counted.server, ?_, nofun, ?_⟩
      · change ((s.peer .server).sent ++ [f]).length + 0 ≤ (s.peer .client).consumed.length
        simpa [Task.inHand] using before
      · exact fun raised => absurd raised (counted.quiet holds nofun)
    | server => exact ⟨nofun, counted.atMost, counted.lost, counted.reports⟩
  | couldNotWrite e f holds shut =>
    cases e with
    | client =>
      have before := counted.atMost
      rw [holds] at before
      simp only [Task.inHand, List.length_singleton] at before
      refine ⟨counted.server, ?_, ?_, ?_⟩
      · change (s.peer .server).sent.length + (rules.unwritten .client).inHand.length ≤
          (s.peer .client).consumed.length
        rw [unwritten_inHand]
        exact Nat.le_of_succ_le before
      · intro _
        exact before
      · exact fun raised => absurd raised (counted.quiet holds nofun)
    | server =>
      refine ⟨?_, counted.atMost, counted.lost, counted.reports⟩
      change rules.unwritten .server ≠ .failed
      simp [Rules.unwritten, swallows]
  | raised waits failed =>
    have client := failed_client counted failed
    exact ⟨counted.server, counted.atMost, counted.lost, fun _ => client⟩
  | gathered waits fine ended => exact ⟨counted.server, counted.atMost, counted.lost, by simp⟩
  | left raised leaves =>
    refine ⟨counted.server, counted.atMost, counted.lost, ?_⟩
    cases raised with
    | true => exact fun _ => counted.reports (Or.inl leaves)
    | false => simp
  | reported reports opened =>
    exact ⟨counted.server, counted.atMost, counted.lost, by simp⟩
  | unreported reports shut =>
    exact ⟨counted.server, counted.atMost, counted.lost, by simp⟩
  | hungUp closes => exact ⟨counted.server, counted.atMost, counted.lost, by simp⟩

theorem faithful_congr {s' : State F} (faithful : Faithful s)
    (hands : ∀ e, (s'.task e).inHand = (s.task e).inHand)
    (written : ∀ e, (s'.peer e).sent = (s.peer e).sent)
    (read : ∀ e, (s'.peer e).consumed = (s.peer e).consumed) : Faithful s' := by
  intro e
  rw [hands, written, read]
  exact faithful e

theorem faithful_took_iff (faithful : Faithful s) {e : End} {f : F} {rest : List F}
    (reads : s.task e = .receiving) :
    Faithful ((s.setPeer e ((s.peer e).consume f rest)).setTask e (rules.next e f)) ↔
      rules.forward e f = some f := by
  have here := faithful e
  rw [reads] at here
  simp only [Task.inHand, List.append_nil] at here
  rw [← next_inHand_iff]
  constructor
  · intro after
    have channel := after e
    simpa [← here] using channel
  · intro same e'
    rcases End.eq_or_other e e' with itself | other
    · subst itself
      simp [← here, same]
    · subst other
      simpa using faithful e.other

theorem faithful_wrote (faithful : Faithful s) {e : End} {f : F}
    (holds : s.task e = .sending f) :
    Faithful ((s.setPeer e.other ((s.peer e.other).send f)).setTask e .receiving) := by
  intro e'
  rcases End.eq_or_other e e' with itself | other
  · subst itself
    have here := faithful e'
    rw [holds] at here
    simpa [Task.inHand] using here
  · subst other
    simpa using faithful e.other

theorem not_faithful_unwritten (faithful : Faithful s) {e : End} {f : F}
    (holds : s.task e = .sending f) : ¬ Faithful (s.setTask e (rules.unwritten e)) := by
  intro after
  have here := faithful e
  have channel := after e
  rw [holds] at here
  rw [State.setTask_self, unwritten_inHand, State.setTask_peer, ← here] at channel
  simp [Task.inHand] at channel

theorem faithful_handler (counted : Counted s) (faithful : Faithful s) :
    Faithful (s.move rules .handler) := by
  rcases move_cases rules s .handler with same | moves
  · rw [same]
    exact faithful
  generalize s.move rules .handler = s' at moves
  cases moves with
  | left raised leaves =>
    refine faithful_congr faithful (fun _ => rfl) ?_ ?_
    · intro e
      cases e <;> rfl
    · intro e
      cases e <;> rfl
  | reported reports opened =>
    exact absurd (counted.reports (Or.inr reports)) (counted.not_failed faithful)
  | hungUp closes =>
    refine faithful_congr faithful (fun _ => rfl) ?_ ?_
    · intro e
      cases e <;> rfl
    · intro e
      cases e <;> rfl
  | _ => exact faithful_congr faithful (fun _ => rfl) (fun _ => rfl) (fun _ => rfl)

theorem faithful_setPeer (faithful : Faithful s) (e : End) {p : Peer F}
    (written : p.sent = (s.peer e).sent) (read : p.consumed = (s.peer e).consumed) :
    Faithful (s.setPeer e p) := by
  refine faithful_congr faithful (fun _ => rfl) ?_ ?_
  · intro e'
    rcases End.eq_or_other e e' with itself | other
    · subst itself
      simpa using written
    · subst other
      simp
  · intro e'
    rcases End.eq_or_other e e' with itself | other
    · subst itself
      simpa using read
    · subst other
      simp

theorem faithful_reachedEnd (faithful : Faithful s) {e : End} (reads : s.task e = .receiving) :
    Faithful (s.setTask e .finished) := by
  refine faithful_congr faithful ?_ (fun _ => rfl) (fun _ => rfl)
  intro e'
  rcases End.eq_or_other e e' with itself | other
  · subst itself
    rw [State.setTask_self, reads]
    rfl
  · subst other
    rw [State.setTask_other]

theorem faithful_task_iff (e : End) (faithful : Faithful s) :
    Faithful (s.moveTask rules e) ↔ CleanTask rules s e := by
  cases stands : s.task e with
  | receiving =>
    cases queued : (s.peer e).queue with
    | cons f rest =>
      simp only [State.moveTask, CleanTask, stands, queued]
      exact faithful_took_iff faithful stands
    | nil =>
      simp only [State.moveTask, CleanTask, stands, queued, iff_true]
      split
      · exact faithful
      · exact faithful_reachedEnd faithful stands
  | sending f =>
    simp only [State.moveTask, CleanTask, stands]
    split
    · rename_i opened
      exact iff_of_true (faithful_wrote faithful stands) opened
    · rename_i shut
      exact iff_of_false (not_faithful_unwritten faithful stands) shut
  | finished => simpa only [State.moveTask, CleanTask, stands, iff_true] using faithful
  | failed => simpa only [State.moveTask, CleanTask, stands, iff_true] using faithful

theorem faithful_move_iff (s : State F) (l : Label F) (counted : Counted s)
    (faithful : Faithful s) : Faithful (s.move rules l) ↔ Clean rules s l := by
  cases l with
  | deliver e f =>
    refine iff_of_true (faithful_setPeer faithful e ?_ ?_) trivial
    · unfold Peer.deliver
      split <;> rfl
    · unfold Peer.deliver
      split <;> rfl
  | close e => exact iff_of_true (faithful_setPeer faithful e rfl rfl) trivial
  | handler => exact iff_of_true (faithful_handler counted faithful) trivial
  | task e => exact faithful_task_iff e faithful

theorem faithful_iff (swallows : rules.swallows .server = true) (labels : List (Label F)) :
    Throughout (State.move rules) Faithful State.start labels ↔
      AtEach (State.move rules) (Clean rules) State.start labels := by
  apply throughout_iff (counted_move swallows) faithful_move_iff counted_start
  intro e
  rfl

end Channels
end Relay
