import Mathlib.Data.List.Basic
import Mathlib.Tactic.Linarith

/-!
# Half-open intervals of time

A window of times is narrow where no two of them are its length apart. Of events that keep that
distance it holds one at most.
-/

namespace BiliSyncPlay

/-- The half-open intervals of a length. -/
def fromOn (start length time : Rat) : Bool := start ≤ time && time < start + length

def upTo (start length time : Rat) : Bool := start < time && time ≤ start + length

/-- Times of which no two are `length` apart. -/
def Narrow (length : Rat) (window : Rat → Bool) : Prop :=
  ∀ x y, window x = true → window y = true → y < x + length

theorem narrow_fromOn (length start : Rat) : Narrow length (fromOn start length) := by
  intro x y hx hy
  simp only [fromOn, Bool.and_eq_true, decide_eq_true_eq] at hx hy
  linarith

theorem narrow_upTo (length start : Rat) : Narrow length (upTo start length) := by
  intro x y hx hy
  simp only [upTo, Bool.and_eq_true, decide_eq_true_eq] at hx hy
  linarith

theorem length_le_one {α : Type} {R : α → α → Prop} {l : List α} (pairs : l.Pairwise R)
    (never : ∀ x ∈ l, ∀ y ∈ l, ¬ R x y) : l.length ≤ 1 := by
  match l with
  | [] => exact Nat.zero_le 1
  | [_] => exact Nat.le_refl 1
  | x :: y :: rest =>
    have related := (List.pairwise_cons.mp pairs).1 y List.mem_cons_self
    exact absurd related (never x List.mem_cons_self y (List.mem_cons_of_mem _ List.mem_cons_self))

end BiliSyncPlay
