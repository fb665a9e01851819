import Mathlib.Algebra.Order.Floor.Div
import Mathlib.Algebra.BigOperators.Group.List.Basic
import Mathlib.Tactic.Common

set_option autoImplicit false

/- Windows into a list: an offset and a size, cut at the end of the list. Windows
   that follow one another read what one large window reads. -/
namespace Windows
variable {α : Type}

structure Window where
  offset : Nat
  size : Nat
  deriving DecidableEq

namespace Window

def stop (w : Window) : Nat := w.offset + w.size

/-- The slice `xs[offset:offset + size]`. -/
def read (xs : List α) (w : Window) : List α := (xs.take w.stop).drop w.offset

theorem read_eq (xs : List α) (w : Window) : w.read xs = (xs.drop w.offset).take w.size := by
  rw [read, stop, List.drop_take, Nat.add_sub_cancel_left]

theorem read_past_end {xs : List α} {w : Window} (past : xs.length ≤ w.offset) :
    w.read xs = [] := by
  rw [read_eq, List.drop_eq_nil_of_le past, List.take_nil]

end Window

/-- Each window starts where the one before it stops, the first one at the offset. -/
def Consecutive : Nat → List Window → Prop
  | _, [] => True
  | offset, w :: rest => w.offset = offset ∧ Consecutive w.stop rest

def span (windows : List Window) : Nat := (windows.map Window.size).sum

theorem consecutive_read {offset : Nat} {windows : List Window} (xs : List α)
    (consecutive : Consecutive offset windows) :
    windows.flatMap (Window.read xs) = (xs.drop offset).take (span windows) := by
  induction windows generalizing offset with
  | nil => simp [span]
  | cons w rest ih =>
    obtain ⟨start, follows⟩ := consecutive
    subst start
    have tail := ih follows
    have whole : span (w :: rest) = w.size + span rest := by
      simp only [span, List.map_cons, List.sum_cons]
    rw [List.flatMap_cons, tail, w.read_eq, whole, List.take_add, List.drop_drop]
    rfl

theorem consecutive_covers {windows : List Window} {xs : List α}
    (consecutive : Consecutive 0 windows) (reach : xs.length ≤ span windows) :
    windows.flatMap (Window.read xs) = xs := by
  rw [consecutive_read xs consecutive, List.drop_zero, List.take_of_length_le reach]

def regular (size offset : Nat) : Nat → List Window
  | 0 => []
  | count + 1 => ⟨offset, size⟩ :: regular size (offset + size) count

theorem regular_length (size offset count : Nat) : (regular size offset count).length = count := by
  induction count generalizing offset with
  | zero => rfl
  | succ count ih => simp only [regular, List.length_cons, ih]

theorem regular_consecutive (size offset count : Nat) :
    Consecutive offset (regular size offset count) := by
  induction count generalizing offset with
  | zero => exact True.intro
  | succ count ih => exact ⟨rfl, ih (offset + size)⟩

theorem regular_span (size offset count : Nat) :
    span (regular size offset count) = size * count := by
  induction count generalizing offset with
  | zero => rfl
  | succ count ih =>
    have tail := ih (offset + size)
    simp only [span] at tail ⊢
    rw [regular, List.map_cons, List.sum_cons, tail, Nat.mul_succ, Nat.add_comm]

theorem ceilDiv_step {size offset total : Nat} (positive : 0 < size) (before : offset < total) :
    (total - offset) ⌈/⌉ size = (total - (offset + size)) ⌈/⌉ size + 1 := by
  simp only [Nat.ceilDiv_eq_add_pred_div]
  rw [← Nat.add_div_right _ positive]
  by_cases last : total ≤ offset + size
  · have here : total - offset + size - 1 = (total - offset - 1) + size := by omega
    have none : total - (offset + size) = 0 := by omega
    rw [here, none, Nat.add_div_right _ positive, Nat.add_div_right _ positive,
      Nat.div_eq_of_lt (by omega), Nat.div_eq_of_lt (by omega)]
  · congr 1
    omega

theorem regular_covers {size : Nat} (positive : 0 < size) (xs : List α) :
    (regular size 0 (xs.length ⌈/⌉ size)).flatMap (Window.read xs) = xs := by
  apply consecutive_covers (regular_consecutive size 0 _)
  rw [regular_span]
  exact (ceilDiv_le_iff_le_mul positive).mp le_rfl

end Windows
