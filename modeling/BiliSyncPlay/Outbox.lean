import Mathlib.Data.List.Pairwise
import Mathlib.Logic.Relation

/-!
# An outbox with one place

Items are numbered as they are made. An item is written at once, or waits in the one place for a
later flush, where a newer one replaces it; one that is written at once replaces the one that waits,
too. The items come out in the order in which they were made.
-/

namespace BiliSyncPlay

structure Outbox where
  written : List Nat
  waiting : Option Nat
  /-- The number of the next item. -/
  next : Nat

namespace Outbox

/-- What can happen to an outbox; it is emptied only if that is allowed. -/
inductive Step (mayEmpty : Prop) (b : Outbox) : Outbox → Prop where
  | stays : Step mayEmpty b b
  | empties (may : mayEmpty) : Step mayEmpty b { b with waiting := none }
  | refuses : Step mayEmpty b { b with next := b.next + 1 }
  | writes : Step mayEmpty b {
      written := b.written ++ [b.next]
      waiting := b.waiting.map fun _ => b.next
      next := b.next + 1 }
  | waits : Step mayEmpty b { b with waiting := some b.next, next := b.next + 1 }
  | flushes (n : Nat) (held : b.waiting = some n) :
      Step mayEmpty b { b with written := b.written ++ [n], waiting := none }

variable {b c : Outbox} {n : Nat} {p : Prop}

theorem Step.mono {q : Prop} (step : Step p b c) (weaker : p → q) :
    Step q b c := by
  cases step with
  | stays => exact .stays
  | empties may => exact .empties (weaker may)
  | refuses => exact .refuses
  | writes => exact .writes
  | waits => exact .waits
  | flushes n held => exact .flushes n held

theorem Step.of_writes (written : c.written = b.written ++ [b.next])
    (waiting : c.waiting = b.waiting.map fun _ => b.next) (next : c.next = b.next + 1) :
    Step p b c := by
  obtain ⟨_, _, _⟩ := c
  cases written
  cases waiting
  cases next
  exact .writes

theorem Step.of_flushes (held : b.waiting = some n) (written : c.written = b.written ++ [n])
    (waiting : c.waiting = none) (next : c.next = b.next) :
    Step p b c := by
  obtain ⟨_, _, _⟩ := c
  cases written
  cases waiting
  cases next
  exact .flushes n held

/-! ## Order -/

structure Ordered (b : Outbox) : Prop where
  sorted : b.written.Pairwise (· ≤ ·)
  made : ∀ n ∈ b.written, n < b.next
  waiting : ∀ n, b.waiting = some n → n < b.next
  ahead : ∀ n, b.waiting = some n → ∀ m ∈ b.written, m ≤ n

theorem sorted_append {l : List Nat} (sorted : l.Pairwise (· ≤ ·)) (last : ∀ m ∈ l, m ≤ n) :
    (l ++ [n]).Pairwise (· ≤ ·) := by
  rw [List.pairwise_append]
  refine ⟨sorted, List.pairwise_singleton .., fun m mem k is_k => ?_⟩
  obtain rfl := List.mem_singleton.mp is_k
  exact last m mem

theorem forall_mem_append {l : List Nat} {p : Nat → Prop} (all : ∀ m ∈ l, p m) (last : p n) :
    ∀ m ∈ l ++ [n], p m := by
  intro m mem
  rcases List.mem_append.mp mem with old | new
  · exact all m old
  · obtain rfl := List.mem_singleton.mp new
    exact last

theorem Ordered.step (ordered : Ordered b) (step : Step p b c) :
    Ordered c := by
  have before : ∀ m ∈ b.written, m ≤ b.next := fun m mem => Nat.le_of_lt (ordered.made m mem)
  have made_later : ∀ m ∈ b.written, m < b.next + 1 := fun m mem =>
    Nat.lt_succ_of_lt (ordered.made m mem)
  cases step with
  | stays => exact ordered
  | empties =>
    exact { ordered with
      waiting := fun _ absent => nomatch absent
      ahead := fun _ absent => nomatch absent }
  | refuses =>
    exact { ordered with
      made := made_later
      waiting := fun n waits => Nat.lt_succ_of_lt (ordered.waiting n waits) }
  | writes =>
    refine {
      sorted := sorted_append ordered.sorted before
      made := forall_mem_append made_later (Nat.lt_succ_self _), waiting := ?_, ahead := ?_ }
    · intro n waits
      obtain ⟨_, _, rfl⟩ := Option.map_eq_some_iff.mp waits
      exact Nat.lt_succ_self _
    · intro n waits
      obtain ⟨_, _, rfl⟩ := Option.map_eq_some_iff.mp waits
      exact forall_mem_append before (Nat.le_refl _)
  | waits =>
    refine { ordered with made := made_later, waiting := ?_, ahead := ?_ }
    · intro n waits
      obtain rfl := Option.some.inj waits
      exact Nat.lt_succ_self _
    · intro n waits
      obtain rfl := Option.some.inj waits
      exact before
  | flushes n held =>
    exact {
      sorted := sorted_append ordered.sorted (ordered.ahead n held)
      made := forall_mem_append ordered.made (ordered.waiting n held)
      waiting := fun _ absent => nomatch absent
      ahead := fun _ absent => nomatch absent }

/-! ## What is made from a point on -/

/-- Whatever was written since, or waits, was made since. -/
structure Since (base b : Outbox) : Prop where
  later : ∃ later, b.written = base.written ++ later ∧ ∀ n ∈ later, base.next ≤ n
  next : base.next ≤ b.next
  waiting : ∀ n, b.waiting = some n → base.next ≤ n

theorem since_empty {base : Outbox} (empty : base.waiting = none) : Since base base where
  later := ⟨[], (List.append_nil _).symm, fun _ absent => nomatch absent⟩
  next := Nat.le_refl _
  waiting := fun _ waits => nomatch empty.symm.trans waits

theorem Since.write {base : Outbox} (since : Since base b) (made : base.next ≤ n) :
    ∃ later, b.written ++ [n] = base.written ++ later ∧ ∀ n ∈ later, base.next ≤ n := by
  obtain ⟨later, written, all⟩ := since.later
  refine ⟨later ++ [n], ?_, forall_mem_append all made⟩
  rw [written, List.append_assoc]

theorem Since.step {base : Outbox} (since : Since base b) (step : Step p b c) :
    Since base c := by
  have next : base.next ≤ b.next + 1 := Nat.le_succ_of_le since.next
  cases step with
  | stays => exact since
  | empties => exact { since with waiting := fun _ absent => nomatch absent }
  | refuses => exact { since with next }
  | writes =>
    refine { later := since.write since.next, next, waiting := fun n waits => ?_ }
    obtain ⟨_, _, rfl⟩ := Option.map_eq_some_iff.mp waits
    exact since.next
  | waits =>
    refine { since with next, waiting := fun n waits => ?_ }
    obtain rfl := Option.some.inj waits
    exact since.next
  | flushes n held =>
    exact {
      later := since.write (since.waiting n held), next := since.next
      waiting := fun _ absent => nomatch absent }

/-! ## What is retained -/

/-- The item was written or waits, or a newer one did or does. -/
def Retains (b : Outbox) (n : Nat) : Prop :=
  ∃ m, n ≤ m ∧ (m ∈ b.written ∨ b.waiting = some m)

theorem Retains.step (ordered : Ordered b) (retains : b.Retains n) (step : Step False b c) :
    c.Retains n := by
  obtain ⟨m, newer, is_there⟩ := retains
  have made : n ≤ b.next := by
    rcases is_there with written | waiting
    · exact Nat.le_trans newer (Nat.le_of_lt (ordered.made m written))
    · exact Nat.le_trans newer (Nat.le_of_lt (ordered.waiting m waiting))
  cases step with
  | stays | refuses => exact ⟨m, newer, is_there⟩
  | empties may => exact may.elim
  | writes => exact ⟨b.next, made, .inl (List.mem_append_right _ (List.mem_singleton_self _))⟩
  | waits => exact ⟨b.next, made, .inr rfl⟩
  | flushes k held =>
    rcases is_there with written | waiting
    · exact ⟨m, newer, .inl (List.mem_append_left _ written)⟩
    · obtain rfl := Option.some.inj (held.symm.trans waiting)
      exact ⟨k, newer, .inl (List.mem_append_right _ (List.mem_singleton_self _))⟩

end Outbox
end BiliSyncPlay
