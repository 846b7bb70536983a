import Mathlib.Data.List.Nodup

/-!
# Insertion-ordered maps

`set` keeps the place of a key it already holds and appends one it does not, and `delete`
closes the gap, as JavaScript's `Map` does. No key occurs twice.
-/

structure JsMap (κ ν : Type) where
  entries : List (κ × ν)
  nodup : (entries.map Prod.fst).Nodup

namespace JsMap

variable {κ ν : Type}

variable {m : JsMap κ ν}

theorem ext {n : JsMap κ ν} (h : m.entries = n.entries) : m = n := by
  cases m; cases n; cases h; rfl

instance [DecidableEq κ] [DecidableEq ν] : DecidableEq (JsMap κ ν) := fun m n =>
  decidable_of_iff (m.entries = n.entries) ⟨ext, fun h => h ▸ rfl⟩

def empty : JsMap κ ν := ⟨[], List.nodup_nil⟩

instance : Inhabited (JsMap κ ν) := ⟨empty⟩

def keys (m : JsMap κ ν) : List κ := m.entries.map Prod.fst

def values (m : JsMap κ ν) : List ν := m.entries.map Prod.snd

def size (m : JsMap κ ν) : Nat := m.entries.length

variable [DecidableEq κ]

def lookup (k : κ) : List (κ × ν) → Option ν
  | [] => none
  | (j, v) :: rest => if j = k then some v else lookup k rest

def get? (m : JsMap κ ν) (k : κ) : Option ν := lookup k m.entries

def has (m : JsMap κ ν) (k : κ) : Bool := (m.get? k).isSome

def write (k : κ) (v : ν) : List (κ × ν) → List (κ × ν)
  | [] => [(k, v)]
  | (j, w) :: rest => if j = k then (k, v) :: rest else (j, w) :: write k v rest

def drop (k : κ) (l : List (κ × ν)) : List (κ × ν) := l.filter fun e => decide (e.1 ≠ k)

variable {k : κ} {l : List (κ × ν)}

theorem mem_keys_write {j : κ} {v : ν} :
    j ∈ (write k v l).map Prod.fst ↔ j = k ∨ j ∈ l.map Prod.fst := by
  induction l with
  | nil => simp [write]
  | cons e rest ih =>
    unfold write
    split
    · rename_i h; subst h; simp
    · simp only [List.map_cons, List.mem_cons, ih]; tauto

theorem nodup_write (k : κ) (v : ν) (h : (l.map Prod.fst).Nodup) :
    ((write k v l).map Prod.fst).Nodup := by
  induction l with
  | nil => simp [write]
  | cons e rest ih =>
    rw [List.map_cons, List.nodup_cons] at h
    unfold write
    split
    · rename_i hk; subst hk; simpa using h
    · rename_i hk
      rw [List.map_cons, List.nodup_cons, mem_keys_write]
      exact ⟨by tauto, ih h.2⟩

def set (m : JsMap κ ν) (k : κ) (v : ν) : JsMap κ ν := ⟨write k v m.entries, nodup_write k v m.nodup⟩

def delete (m : JsMap κ ν) (k : κ) : JsMap κ ν :=
  ⟨drop k m.entries, m.nodup.sublist (List.filter_sublist.map Prod.fst)⟩

@[simp] theorem get?_empty (k : κ) : (empty : JsMap κ ν).get? k = none := rfl

theorem lookup_write (k j : κ) (v : ν) (l : List (κ × ν)) :
    lookup j (write k v l) = if k = j then some v else lookup j l := by
  induction l with
  | nil => simp [write, lookup]
  | cons e rest ih =>
    unfold write
    split
    · rename_i h; subst h; simp only [lookup]; split <;> rfl
    · rename_i h
      simp only [lookup, ih]
      split
      · rename_i hj; subst hj; simp [Ne.symm h]
      · rfl

theorem lookup_drop (k j : κ) (l : List (κ × ν)) :
    lookup j (drop k l) = if k = j then none else lookup j l := by
  induction l with
  | nil => simp [drop, lookup]
  | cons e rest ih =>
    unfold drop at ih ⊢
    by_cases hk : e.1 = k
    · simp only [hk, ne_eq, not_true, decide_false, Bool.false_eq_true, not_false_eq_true,
        List.filter_cons_of_neg, ih, lookup]
      split <;> rfl
    · simp only [hk, ne_eq, not_false_eq_true, decide_true, List.filter_cons_of_pos, lookup, ih]
      by_cases hj : e.1 = j
      · subst hj; simp [Ne.symm hk]
      · simp [hj]

theorem get?_set (m : JsMap κ ν) (k j : κ) (v : ν) :
    (m.set k v).get? j = if k = j then some v else m.get? j := lookup_write k j v m.entries

theorem get?_delete (m : JsMap κ ν) (k j : κ) :
    (m.delete k).get? j = if k = j then none else m.get? j := lookup_drop k j m.entries

@[simp] theorem get?_set_self (m : JsMap κ ν) (k : κ) (v : ν) : (m.set k v).get? k = some v := by
  simp [get?_set]

@[simp] theorem get?_set_ne (m : JsMap κ ν) {j : κ} (v : ν) (h : k ≠ j) :
    (m.set k v).get? j = m.get? j := by simp [get?_set, h]

@[simp] theorem get?_delete_self (m : JsMap κ ν) (k : κ) : (m.delete k).get? k = none := by
  simp [get?_delete]

@[simp] theorem get?_delete_ne (m : JsMap κ ν) {j : κ} (h : k ≠ j) :
    (m.delete k).get? j = m.get? j := by simp [get?_delete, h]

theorem get?_foldl_delete (m : JsMap κ ν) (gone : List κ) (k : κ) :
    (gone.foldl delete m).get? k = if k ∈ gone then none else m.get? k := by
  induction gone generalizing m with
  | nil => simp
  | cons first rest ih =>
    rw [List.foldl_cons, ih, get?_delete]
    by_cases same : first = k
    · simp [same]
    · simp [same, Ne.symm same]

theorem length_write (k : κ) (v : ν) (l : List (κ × ν)) :
    (write k v l).length = if (lookup k l).isSome then l.length else l.length + 1 := by
  induction l with
  | nil => rfl
  | cons e rest ih =>
    unfold write
    by_cases h : e.1 = k
    · simp [h, lookup]
    · simp only [h, ↓reduceIte, List.length_cons, ih, lookup]; split <;> rfl

theorem size_set (m : JsMap κ ν) (k : κ) (v : ν) :
    (m.set k v).size = if m.has k then m.size else m.size + 1 := length_write k v m.entries

theorem size_set_le (m : JsMap κ ν) (k : κ) (v : ν) : (m.set k v).size ≤ m.size + 1 := by
  rw [size_set]; split <;> omega

theorem lookup_eq_none_iff :
    lookup k l = none ↔ k ∉ l.map Prod.fst := by
  induction l with
  | nil => simp [lookup]
  | cons e rest ih =>
    by_cases h : e.1 = k
    · simp [lookup, h]
    · simp [lookup, h, ih, Ne.symm h]

theorem delete_of_get?_none (h : m.get? k = none) : m.delete k = m :=
  ext (List.filter_eq_self.mpr fun e he => by
    have absent := lookup_eq_none_iff.mp h
    simpa using fun hk : e.1 = k => absent (hk ▸ List.mem_map_of_mem he))

omit [DecidableEq κ] in
theorem eq_empty_of_size (h : m.size = 0) : m = empty :=
  ext (List.length_eq_zero_iff.mp h)

theorem size_eq_zero_iff : m.size = 0 ↔ ∀ k, m.get? k = none := by
  constructor
  · intro h k
    unfold get?
    rw [List.length_eq_zero_iff.mp h]
    rfl
  · intro h
    rcases he : m.entries with _ | ⟨e, rest⟩
    · simp [size, he]
    · have := h e.1
      simp [get?, he, lookup] at this

theorem mem_entries_iff {v : ν} :
    (k, v) ∈ m.entries ↔ m.get? k = some v := by
  obtain ⟨l, nodup⟩ := m
  unfold get?
  induction l with
  | nil => simp [lookup]
  | cons e rest ih =>
    rw [List.map_cons, List.nodup_cons] at nodup
    have tail := ih nodup.2
    by_cases h : e.1 = k
    · subst h
      have absent : (e.1, v) ∉ rest := fun hm =>
        nodup.1 (List.mem_map.mpr ⟨_, hm, rfl⟩)
      simp [lookup, absent, Prod.ext_iff, eq_comm]
    · simp only [List.mem_cons, lookup, h, ↓reduceIte, ← tail, Prod.ext_iff]
      simp [Ne.symm h]

/-! ## Counting values -/

theorem countP_write (p : ν → Bool) (k : κ) (v : ν) (l : List (κ × ν)) :
    ((write k v l).map Prod.snd).countP p + (lookup k l).toList.countP p =
      (l.map Prod.snd).countP p + [v].countP p := by
  induction l with
  | nil => simp [write, lookup]
  | cons e rest ih =>
    obtain ⟨j, w⟩ := e
    by_cases same : j = k
    · have single : (some w).toList = [w] := rfl
      rw [write, lookup, if_pos same, if_pos same, single]
      simp only [List.map_cons, List.countP_cons, List.countP_nil]
      omega
    · rw [write, lookup, if_neg same, if_neg same]
      simp only [List.map_cons, List.countP_cons] at ih ⊢
      omega

theorem countP_values_set (p : ν → Bool) (m : JsMap κ ν) (k : κ) (v : ν) :
    (m.set k v).values.countP p + (m.get? k).toList.countP p =
      m.values.countP p + [v].countP p := countP_write p k v m.entries

theorem countP_drop (p : ν → Bool) (nodup : (l.map Prod.fst).Nodup) :
    ((drop k l).map Prod.snd).countP p + (lookup k l).toList.countP p =
      (l.map Prod.snd).countP p := by
  induction l with
  | nil => rfl
  | cons e rest ih =>
    obtain ⟨j, w⟩ := e
    rw [List.map_cons, List.nodup_cons] at nodup
    by_cases same : j = k
    · have kept : drop k rest = rest := List.filter_eq_self.mpr fun x hx => by
        have key : x.1 ∈ rest.map Prod.fst := List.mem_map_of_mem hx
        simpa using fun he : x.1 = k => nodup.1 (same.trans he.symm ▸ key)
      have single : (some w).toList = [w] := rfl
      have closed : drop k ((j, w) :: rest) = rest := by
        rw [drop, List.filter_cons_of_neg (by simpa using same)]
        exact kept
      rw [closed, lookup, if_pos same, single]
      simp only [List.map_cons, List.countP_cons, List.countP_nil]
      omega
    · have tail := ih nodup.2
      have opened : drop k ((j, w) :: rest) = (j, w) :: drop k rest := by
        rw [drop, List.filter_cons_of_pos (by simpa using same)]
        rfl
      rw [opened, lookup, if_neg same]
      simp only [List.map_cons, List.countP_cons]
      omega

theorem countP_values_delete (p : ν → Bool) (m : JsMap κ ν) (k : κ) :
    (m.delete k).values.countP p + (m.get? k).toList.countP p = m.values.countP p :=
  countP_drop p m.nodup

end JsMap
