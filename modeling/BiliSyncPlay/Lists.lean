import Mathlib.Data.List.Basic

/-!
# Lists of numbered things

What a list holds at a place once an entry was changed or one was added, how many of its entries
then have a property, and what its slices of one size make together.
-/

namespace BiliSyncPlay

variable {α : Type} {l : List α} {i j : Nat} {x y : α}

theorem getElem?_set_cases (h : (l.set i y)[j]? = some x) :
    j = i ∧ x = y ∨ j ≠ i ∧ l[j]? = some x := by
  by_cases same : j = i
  · subst same
    have within : j < l.length := by simpa using (List.getElem?_eq_some_iff.mp h).1
    rw [List.getElem?_set_self within] at h
    exact .inl ⟨rfl, (Option.some.inj h).symm⟩
  · rw [List.getElem?_set_ne (Ne.symm same)] at h
    exact .inr ⟨same, h⟩

theorem getElem?_set_of_some (h : l[i]? = some x) (y : α) : (l.set i y)[i]? = some y :=
  List.getElem?_set_self (List.getElem?_eq_some_iff.mp h).1

theorem getElem?_concat_cases (h : (l ++ [y])[j]? = some x) :
    j = l.length ∧ x = y ∨ j < l.length ∧ l[j]? = some x := by
  by_cases old : j < l.length
  · rw [List.getElem?_append_left old] at h
    exact .inr ⟨old, h⟩
  · have new := Nat.le_of_not_lt old
    rw [List.getElem?_append_right new] at h
    have within : j - l.length < 1 := (List.getElem?_eq_some_iff.mp h).1
    exact .inl ⟨by omega, List.mem_singleton.mp (List.mem_of_getElem? h)⟩

theorem getElem?_concat_of_some (h : l[j]? = some x) (y : α) : (l ++ [y])[j]? = some x := by
  rw [List.getElem?_append_left (List.getElem?_eq_some_iff.mp h).1, h]

theorem filterMap_set_of_eq {β : Type} {f : α → Option β} (h : l[i]? = some x) (same : f y = f x) :
    (l.set i y).filterMap f = l.filterMap f := by
  induction l generalizing i with
  | nil => simp at h
  | cons z rest ih =>
    cases i with
    | zero =>
      obtain rfl : z = x := by simpa using h
      simp only [List.set_cons_zero, List.filterMap_cons, same]
    | succ i =>
      simp only [List.set_cons_succ, List.filterMap_cons]
      rw [ih (by simpa using h)]

theorem filterMap_set_perm {β : Type} {f : α → Option β} {b : β} (h : l[i]? = some x)
    (was : f x = none) (is : f y = some b) :
    ((l.set i y).filterMap f).Perm (l.filterMap f ++ [b]) := by
  induction l generalizing i with
  | nil => simp at h
  | cons z rest ih =>
    cases i with
    | zero =>
      obtain rfl : z = x := by simpa using h
      simp only [List.set_cons_zero, List.filterMap_cons, was, is]
      exact (List.perm_append_singleton b _).symm
    | succ i =>
      have tail := ih (i := i) (by simpa using h)
      simp only [List.set_cons_succ, List.filterMap_cons]
      split
      · exact tail
      · exact tail.cons _

/-- The places of the entries with this property. -/
def places (p : α → Bool) (l : List α) : List Nat :=
  (List.range l.length).filter fun i => l[i]?.any p

theorem mem_places {p : α → Bool} : i ∈ places p l ↔ ∃ x, l[i]? = some x ∧ p x = true := by
  unfold places
  rw [List.mem_filter, List.mem_range]
  constructor
  · rintro ⟨within, held⟩
    rw [List.getElem?_eq_getElem within] at held ⊢
    exact ⟨_, rfl, held⟩
  · rintro ⟨x, there, held⟩
    exact ⟨(List.getElem?_eq_some_iff.mp there).1, by rw [there]; exact held⟩

theorem nodup_places (p : α → Bool) (l : List α) : (places p l).Nodup :=
  List.nodup_range.filter _

/-- Where an entry stands in a list that was just extended. -/
theorem concat_eq_split {before later : List α} (split : l ++ [y] = before ++ x :: later) :
    later = [] ∧ y = x ∧ l = before ∨ ∃ rest, later = rest ++ [y] ∧ l = before ++ x :: rest := by
  rcases List.eq_nil_or_concat later with rfl | ⟨rest, last, rfl⟩
  · obtain ⟨same, ends⟩ := List.append_inj' split rfl
    exact .inl ⟨rfl, List.singleton_inj.mp ends, same⟩
  · rw [List.concat_eq_append, ← List.cons_append, ← List.append_assoc] at split
    obtain ⟨same, ends⟩ := List.append_inj' split rfl
    rw [List.concat_eq_append, ends]
    exact .inr ⟨rest, rfl, same⟩

theorem countP_set_add (p : α → Bool) (h : l[i]? = some x) (y : α) :
    (l.set i y).countP p + [x].countP p = l.countP p + [y].countP p := by
  obtain ⟨within, rfl⟩ := List.getElem?_eq_some_iff.mp h
  have positive : (if p l[i] = true then 1 else 0) ≤ l.countP p := by
    split
    · rename_i held
      exact List.countP_pos_iff.mpr ⟨_, List.getElem_mem within, held⟩
    · exact Nat.zero_le _
  rw [List.countP_set within]
  simp only [List.countP_cons, List.countP_nil]
  omega

theorem countP_le_add {p q r : α → Bool}
    (covered : ∀ x ∈ l, p x = true → q x = true ∨ r x = true) :
    l.countP p ≤ l.countP q + l.countP r := by
  induction l with
  | nil => exact Nat.zero_le _
  | cons x rest ih =>
    have tail := ih fun y mem => covered y (List.mem_cons_of_mem _ mem)
    have head := covered x List.mem_cons_self
    simp only [List.countP_cons]
    by_cases here : p x = true
    · rcases head here with left | right
      · simp only [here, left, if_true]
        omega
      · simp only [here, right, if_true]
        omega
    · simp only [here, if_false, Bool.false_eq_true]
      omega

/-- A piece of a split holds none of what splits. -/
theorem notMem_of_mem_splitOn [DecidableEq α] {piece : List α} (here : piece ∈ l.splitOn x) :
    x ∉ piece := by
  induction l generalizing piece with
  | nil =>
    rw [List.splitOn_nil, List.mem_singleton] at here
    simp [here]
  | cons y l ih =>
    rw [List.splitOn_cons_eq_if_modifyHead] at here
    obtain ⟨first, others, split⟩ := List.exists_cons_of_ne_nil (List.splitOn_ne_nil x l)
    rw [split] at here ih
    by_cases same : y = x
    · rw [if_pos (by simpa using same)] at here
      rcases List.mem_cons.mp here with rfl | later
      · exact List.not_mem_nil
      · exact ih later
    · rw [if_neg (by simpa using same), List.modifyHead_cons] at here
      rcases List.mem_cons.mp here with rfl | later
      · have apart := ih List.mem_cons_self
        simp [apart, Ne.symm same]
      · exact ih (List.mem_cons_of_mem _ later)

theorem flatten_slices (l : List α) (size n : Nat) :
    ((List.range n).map fun i => (l.drop (i * size)).take size).flatten = l.take (n * size) := by
  induction n with
  | zero => simp
  | succ n ih =>
    rw [List.range_succ, List.map_append, List.flatten_append, ih, Nat.succ_mul, List.take_add]
    simp

end BiliSyncPlay
