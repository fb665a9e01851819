import LxdApi.Library.RelayChannels
import LxdApi.Library.RelayEndings

set_option autoImplicit false

/- What a relay writes is what it was given to read, in that order: in every run, whatever is
   lost at its end, nothing is made up, repeated or moved. -/
namespace Relay
open State
variable {F : Type}

def offered (e : End) (labels : List (Label F)) : List F :=
  labels.filterMap fun
    | .deliver e' f => if e' = e then some f else none
    | _ => none

/-- What is read of an end and what waits there is what it sends while it is open. -/
structure Receives (s : State F) (e : End) (given : List F) : Prop where
  inOrder : (s.peer e).consumed ++ (s.peer e).queue <+: given
  all : (s.peer e).isOpen = true → (s.peer e).consumed ++ (s.peer e).queue = given

/-- What was written of an end's frames, and the frame in hand, are the first of those that are
    passed on; they are all of them until the task has ended. -/
structure Carries (rules : Rules F) (s : State F) (e : End) (written : List F) : Prop where
  inOrder : written ++ (s.task e).inHand <+: (s.peer e).consumed.filterMap (rules.forward e)
  all : (s.task e).ended = false →
    written ++ (s.task e).inHand = (s.peer e).consumed.filterMap (rules.forward e)

/-- The client is written what is passed on of the server's frames, and the report at most once,
    after the client's task has failed. -/
structure Tells (rules : Rules F) (s : State F) (before report after : List F) : Prop where
  written : (s.peer .client).sent = before ++ report ++ after
  carries : Carries rules s .server (before ++ after)
  reported : report = [] ∨ report = [rules.report] ∧ s.task .client = .failed ∧
    (s.phase = .closing ∨ s.phase = .returned)

structure Honest (rules : Rules F) (labels : List (Label F)) (s : State F) : Prop where
  receives : ∀ e, Receives s e (offered e labels)
  asks : Carries rules s .client (s.peer .server).sent
  tells : ∃ before report after, Tells rules s before report after

section Contents
variable {rules : Rules F} {s : State F} {e : End} {written : List F}

@[simp] theorem offered_concat (labels : List (Label F)) (l : Label F) :
    offered e (labels ++ [l]) = offered e labels ++ offered e [l] := by
  simp only [offered, List.filterMap_append]

theorem next_inHand (rules : Rules F) (e : End) (f : F) :
    (rules.next e f).inHand = (rules.forward e f).toList := by
  unfold Rules.next
  cases rules.forward e f <;> rfl

theorem Carries.of_eq (whole : written ++ (s.task e).inHand =
    (s.peer e).consumed.filterMap (rules.forward e)) : Carries rules s e written := by
  exact ⟨⟨[], (List.append_nil _).trans whole⟩, fun _ => whole⟩

theorem Carries.congr {s' : State F} (carries : Carries rules s e written)
    (task : s'.task e = s.task e) (consumed : (s'.peer e).consumed = (s.peer e).consumed) :
    Carries rules s' e written := by
  refine ⟨?_, ?_⟩
  · rw [task, consumed]
    exact carries.inOrder
  · rw [task, consumed]
    exact carries.all

theorem Carries.took {s' : State F} (carries : Carries rules s e written) {f : F}
    (reads : s.task e = .receiving) (task : s'.task e = rules.next e f)
    (consumed : (s'.peer e).consumed = (s.peer e).consumed ++ [f]) :
    Carries rules s' e written := by
  have before := carries.all (by rw [reads]; rfl)
  have empty : (s.task e).inHand = [] := by
    rw [reads]
    rfl
  rw [empty, List.append_nil] at before
  have after : written ++ (s'.task e).inHand =
      (s'.peer e).consumed.filterMap (rules.forward e) := by
    rw [task, consumed, next_inHand, List.filterMap_append, ← before, List.append_cancel_left_eq]
    cases passed : rules.forward e f <;> simp [passed]
  exact .of_eq after

theorem Carries.wrote {s' : State F} (carries : Carries rules s e written) {f : F}
    (holds : s.task e = .sending f) (task : s'.task e = .receiving)
    (consumed : (s'.peer e).consumed = (s.peer e).consumed) :
    Carries rules s' e (written ++ [f]) := by
  have before := carries.all (by rw [holds]; rfl)
  rw [holds] at before
  have after : written ++ [f] ++ (s'.task e).inHand =
      (s'.peer e).consumed.filterMap (rules.forward e) := by
    rw [task, consumed, ← before]
    exact List.append_nil _
  exact .of_eq after

theorem Carries.ends {s' : State F} (carries : Carries rules s e written)
    (ended : (s'.task e).ended = true) (consumed : (s'.peer e).consumed = (s.peer e).consumed) :
    Carries rules s' e written := by
  have nothing : (s'.task e).inHand = [] := by
    cases stands : s'.task e with
    | sending f => rw [stands] at ended; cases ended
    | _ => rfl
  refine ⟨?_, ?_⟩
  · rw [nothing, List.append_nil, consumed]
    exact (List.prefix_append _ _).trans carries.inOrder
  · intro going
    rw [ended] at going
    cases going

theorem Receives.congr {s' : State F} {given : List F} (receives : Receives s e given)
    (consumed : (s'.peer e).consumed ++ (s'.peer e).queue =
      (s.peer e).consumed ++ (s.peer e).queue)
    (opened : (s'.peer e).isOpen = true → (s.peer e).isOpen = true) : Receives s' e given := by
  refine ⟨?_, ?_⟩
  · rw [consumed]
    exact receives.inOrder
  · rw [consumed]
    exact fun still => receives.all (opened still)

section Telling
variable {before report after : List F}

theorem Tells.congr {s' : State F} (tells : Tells rules s before report after)
    (sent : (s'.peer .client).sent = (s.peer .client).sent)
    (carries : Carries rules s' .server (before ++ after))
    (task : s.task .client = .failed → s'.task .client = .failed)
    (phase : s.phase = .closing ∨ s.phase = .returned →
      s'.phase = .closing ∨ s'.phase = .returned) :
    Tells rules s' before report after :=
  ⟨sent.trans tells.written, carries, tells.reported.imp_right fun told =>
    ⟨told.1, task told.2.1, phase told.2.2⟩⟩

theorem Tells.unreported (tells : Tells rules s before report after)
    (early : ¬ (s.phase = .closing ∨ s.phase = .returned)) : report = [] :=
  tells.reported.resolve_right fun told => early told.2.2

end Telling

theorem Receives.more {given : List F} (receives : Receives s e given) (more : List F)
    (shut : more ≠ [] → (s.peer e).isOpen = false) : Receives s e (given ++ more) := by
  cases more with
  | nil =>
    rw [List.append_nil]
    exact receives
  | cons f rest =>
    have closed := shut (List.cons_ne_nil f rest)
    refine ⟨receives.inOrder.trans (List.prefix_append _ _), ?_⟩
    intro opened
    rw [closed] at opened
    cases opened

theorem receives_deliver {given : List F} (receives : Receives s e given) (e' : End) (f : F) :
    Receives (s.move rules (.deliver e' f)) e (given ++ offered e [.deliver e' f]) := by
  by_cases same : e' = e
  · subst same
    have sent : offered e' [.deliver e' f] = [f] := by simp [offered]
    rw [sent]
    cases opened : (s.peer e').isOpen with
    | true =>
      have before := receives.all opened
      have pushed : ((s.move rules (.deliver e' f)).peer e').consumed ++
          ((s.move rules (.deliver e' f)).peer e').queue = given ++ [f] := by
        simp only [move, Peer.deliver, opened, if_true, setPeer_self, Peer.push, ← before,
          List.append_assoc]
      exact ⟨⟨[], (List.append_nil _).trans pushed⟩, fun _ => pushed⟩
    | false =>
      have dropped : s.move rules (.deliver e' f) = s := by
        simp [move, Peer.deliver, opened, setPeer]
      rw [dropped]
      exact receives.more [f] fun _ => opened
  · obtain rfl : e = e'.other := (End.eq_or_other e' e).resolve_left (Ne.symm same)
    have none : offered e'.other [.deliver e' f] = [] := by simp [offered, same]
    rw [none, List.append_nil]
    refine receives.congr ?_ ?_
    · simp only [move, setPeer_other]
    · simp only [move, setPeer_other, imp_self]

theorem moves_reading {l : Label F} {s' : State F} (moves : Moves rules s l s')
    (other : ∀ f, l ≠ .deliver e f) :
    (s'.peer e).consumed ++ (s'.peer e).queue = (s.peer e).consumed ++ (s.peer e).queue := by
  cases moves with
  | delivered e' f opened =>
    obtain rfl : e = e'.other := (End.eq_or_other e' e).resolve_left fun same =>
      other f (by rw [same])
    rw [setPeer_other]
  | closed e' => cases e <;> cases e' <;> rfl
  | took e' f rest reads head =>
    rcases End.eq_or_other e' e with rfl | rfl
    · simp only [setTask_peer, setPeer_self, Peer.consume, head, List.append_assoc,
        List.singleton_append]
    · simp only [setTask_peer, setPeer_other]
  | reachedEnd e' reads silent shut => rfl
  | wrote e' f holds opened => cases e <;> cases e' <;> rfl
  | couldNotWrite e' f holds shut => rfl
  | raised waits failed => rfl
  | gathered waits fine ended => rfl
  | left raised leaves => cases e <;> rfl
  | reported reports opened => cases e <;> rfl
  | unreported reports shut => rfl
  | hungUp closes => cases e <;> rfl

theorem receives_move {given : List F} (receives : Receives s e given) (l : Label F) :
    Receives (s.move rules l) e (given ++ offered e [l]) := by
  cases l with
  | deliver e' f => exact receives_deliver receives e' f
  | _ =>
    refine Eq.subst (motive := Receives _ e) (List.append_nil given).symm ?_
    rcases move_cases rules s _ with same | moves
    · rw [same]
      exact receives
    · refine receives.congr (moves_reading moves nofun) ?_
      intro still
      by_contra shut
      have closed := closed_stays moves (Bool.eq_false_iff.mpr shut)
      rw [closed] at still
      cases still

theorem asks_move (asks : Carries rules s .client (s.peer .server).sent) (l : Label F) :
    Carries rules (s.move rules l) .client ((s.move rules l).peer .server).sent := by
  rcases move_cases rules s l with same | moves
  · rw [same]
    exact asks
  generalize s.move rules l = s' at moves
  cases moves with
  | delivered e f opened => cases e <;> exact asks.congr rfl rfl
  | closed e => cases e <;> exact asks.congr rfl rfl
  | took e f rest reads head =>
    cases e with
    | client => exact asks.took reads rfl rfl
    | server => exact asks.congr rfl rfl
  | reachedEnd e reads silent shut =>
    cases e with
    | client => exact asks.ends rfl rfl
    | server => exact asks.congr rfl rfl
  | wrote e f holds opened =>
    cases e with
    | client => exact asks.wrote holds rfl rfl
    | server => exact asks.congr rfl rfl
  | couldNotWrite e f holds shut =>
    cases e with
    | client =>
      refine asks.ends ?_ rfl
      rw [setTask_self]
      exact unwritten_ended rules .client
    | server => exact asks.congr rfl rfl
  | raised waits failed => exact asks.congr rfl rfl
  | gathered waits fine ended => exact asks.congr rfl rfl
  | left raised leaves => exact asks.congr rfl rfl
  | reported reports opened => exact asks.congr rfl rfl
  | unreported reports shut => exact asks.congr rfl rfl
  | hungUp closes => exact asks.congr rfl rfl

theorem tells_move (counted : Counted s) {before report after : List F}
    (tells : Tells rules s before report after) (l : Label F) :
    ∃ before report after, Tells rules (s.move rules l) before report after := by
  have carries := tells.carries
  rcases move_cases rules s l with same | moves
  · rw [same]
    exact ⟨_, _, _, tells⟩
  generalize s.move rules l = s' at moves
  cases moves with
  | delivered e f opened =>
    refine ⟨_, _, _, tells.congr ?_ ?_ id id⟩
    · cases e <;> rfl
    · cases e <;> exact carries.congr rfl rfl
  | closed e =>
    refine ⟨_, _, _, tells.congr ?_ ?_ id id⟩
    · cases e <;> rfl
    · cases e <;> exact carries.congr rfl rfl
  | took e f rest reads head =>
    cases e with
    | client =>
      refine ⟨_, _, _, tells.congr rfl (carries.congr rfl rfl) ?_ id⟩
      intro failed
      rw [reads] at failed
      cases failed
    | server => exact ⟨_, _, _, tells.congr rfl (carries.took reads rfl rfl) id id⟩
  | reachedEnd e reads silent shut =>
    cases e with
    | client =>
      refine ⟨_, _, _, tells.congr rfl (carries.congr rfl rfl) ?_ id⟩
      intro failed
      rw [reads] at failed
      cases failed
    | server => exact ⟨_, _, _, tells.congr rfl (carries.ends rfl rfl) id id⟩
  | wrote e f holds opened =>
    cases e with
    | client =>
      refine ⟨_, _, _, tells.congr rfl (carries.congr rfl rfl) ?_ id⟩
      intro failed
      rw [holds] at failed
      cases failed
    | server =>
      refine ⟨before, report, after ++ [f], ?_, ?_, tells.reported⟩
      · change (s.peer .client).sent ++ [f] = _
        rw [tells.written, List.append_assoc]
      · rw [← List.append_assoc]
        exact carries.wrote holds rfl rfl
  | couldNotWrite e f holds shut =>
    cases e with
    | client =>
      refine ⟨_, _, _, tells.congr rfl (carries.congr rfl rfl) ?_ id⟩
      intro failed
      rw [holds] at failed
      cases failed
    | server =>
      refine ⟨_, _, _, tells.congr rfl (carries.ends ?_ rfl) id id⟩
      rw [setTask_self]
      exact unwritten_ended rules .server
  | raised waits failed =>
    obtain rfl := tells.unreported (by rw [waits]; nofun)
    exact ⟨before, [], after, tells.written, carries.congr rfl rfl, .inl rfl⟩
  | gathered waits fine ended =>
    obtain rfl := tells.unreported (by rw [waits]; nofun)
    exact ⟨before, [], after, tells.written, carries.congr rfl rfl, .inl rfl⟩
  | left raised leaves =>
    obtain rfl := tells.unreported (by rw [leaves]; nofun)
    exact ⟨before, [], after, tells.written, carries.congr rfl rfl, .inl rfl⟩
  | reported reports opened =>
    obtain rfl := tells.unreported (by rw [reports]; nofun)
    refine ⟨before ++ after, [rules.report], [], ?_, ?_, .inr ⟨rfl, ?_, .inl rfl⟩⟩
    · change (s.peer .client).sent ++ [rules.report] = _
      rw [tells.written, List.append_nil, List.append_nil]
    · rw [List.append_nil]
      exact carries.congr rfl rfl
    · exact counted.reports (.inr reports)
  | unreported reports shut =>
    obtain rfl := tells.unreported (by rw [reports]; nofun)
    exact ⟨before, [], after, tells.written, carries.congr rfl rfl, .inl rfl⟩
  | hungUp closes =>
    exact ⟨_, _, _, tells.congr rfl (carries.congr rfl rfl) id fun _ => .inr rfl⟩

theorem honest_start : Honest rules [] (State.start : State F) where
  receives _ := ⟨List.prefix_rfl, fun _ => rfl⟩
  asks := .of_eq rfl
  tells := ⟨[], [], [], rfl, .of_eq rfl, .inl rfl⟩

theorem honest_move (counted : Counted s) {labels : List (Label F)} (honest : Honest rules labels s)
    (l : Label F) : Honest rules (labels ++ [l]) (s.move rules l) where
  receives e := by
    rw [offered_concat]
    exact receives_move (honest.receives e) l
  asks := asks_move honest.asks l
  tells := by
    obtain ⟨before, report, after, tells⟩ := honest.tells
    exact tells_move counted tells l

theorem honest_run (swallows : rules.swallows .server = true) (labels : List (Label F)) :
    Honest rules labels (labels.foldl (State.move rules) State.start) := by
  suffices both : Counted (labels.foldl (State.move rules) State.start) ∧
      Honest rules labels (labels.foldl (State.move rules) State.start) from both.2
  induction labels using List.reverseRecOn with
  | nil => exact ⟨counted_start, honest_start⟩
  | append_singleton labels l ih =>
    rw [List.foldl_append]
    exact ⟨counted_move swallows _ l ih.1, honest_move ih.1 ih.2 l⟩

theorem Honest.carried {labels : List (Label F)} (honest : Honest rules labels s)
    (carries : Carries rules s e written) :
    written <+: (offered e labels).filterMap (rules.forward e) := by
  have read : (s.peer e).consumed <+: offered e labels :=
    (List.prefix_append _ _).trans (honest.receives e).inOrder
  exact ((List.prefix_append _ _).trans carries.inOrder).trans (read.filterMap _)

def Idle (s : State F) (e : End) : Prop := s.task e = .receiving ∨ s.task e = .finished

theorem idle_move (idle : ∀ f, rules.forward e f = none) (s : State F) (stands : Idle s e)
    (l : Label F) : Idle (s.move rules l) e := by
  rcases move_cases rules s l with same | moves
  · rw [same]
    exact stands
  generalize s.move rules l = s' at moves
  have notSending : ∀ f, s.task e ≠ .sending f := by
    intro f holds
    rcases stands with reads | finished
    · rw [reads] at holds
      cases holds
    · rw [finished] at holds
      cases holds
  cases moves with
  | took e' f rest reads head =>
    rcases End.eq_or_other e' e with rfl | rfl
    · left
      rw [setTask_self, Rules.next, idle f]
    · unfold Idle
      rw [setTask_other]
      exact stands
  | reachedEnd e' reads silent shut =>
    rcases End.eq_or_other e' e with rfl | rfl
    · exact .inr (setTask_self _ _ _)
    · unfold Idle
      rw [setTask_other]
      exact stands
  | wrote e' f holds opened =>
    rcases End.eq_or_other e' e with rfl | rfl
    · exact absurd holds (notSending f)
    · unfold Idle
      rw [setTask_other]
      exact stands
  | couldNotWrite e' f holds shut =>
    rcases End.eq_or_other e' e with rfl | rfl
    · exact absurd holds (notSending f)
    · unfold Idle
      rw [setTask_other]
      exact stands
  | _ => exact stands

theorem idle_run (idle : ∀ f, rules.forward e f = none) (labels : List (Label F)) :
    Idle (labels.foldl (State.move rules) State.start) e := by
  induction labels using List.reverseRecOn with
  | nil => exact .inl rfl
  | append_singleton labels l ih =>
    rw [List.foldl_append]
    exact idle_move idle _ ih l

end Contents
end Relay
