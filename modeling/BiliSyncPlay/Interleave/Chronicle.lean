import Mathlib.Data.List.Basic

/-!
# Chronicles

A list of what happened, newest first. A chronicle is lawful when every entry was allowed by
those before it, so a step that only notes an allowed entry keeps the whole of it lawful.
-/

namespace Interleave

variable {α : Type}

def Lawful (may : List α → α → Prop) : List α → Prop
  | [] => True
  | e :: earlier => may earlier e ∧ Lawful may earlier

theorem Lawful.allowed {may : List α → α → Prop} {later earlier : List α} {e : α}
    (h : Lawful may (later ++ e :: earlier)) : may earlier e := by
  induction later with
  | nil => exact h.1
  | cons _ _ ih => exact ih h.2

theorem Lawful.mono {may may' : List α → α → Prop} {l : List α}
    (weaken : ∀ earlier e, may earlier e → may' earlier e) (h : Lawful may l) : Lawful may' l := by
  induction l with
  | nil => trivial
  | cons e earlier ih => exact ⟨weaken _ _ h.1, ih h.2⟩

/-- What happens only once has one past. -/
theorem Lawful.past_unique {may : List α → α → Prop} {e : α} {l later earlier later' earlier' : List α}
    (h : Lawful may l) (once : ∀ earlier, may earlier e → e ∉ earlier)
    (split : l = later ++ e :: earlier) (split' : l = later' ++ e :: earlier') :
    earlier = earlier' := by
  induction l generalizing later later' with
  | nil => cases later <;> cases split
  | cons x rest ih =>
    cases later with
    | nil =>
      obtain ⟨rfl, rfl⟩ := List.cons.inj split
      cases later' with
      | nil => exact (List.cons.inj split').2
      | cons y later' =>
        refine absurd ?_ (once _ h.1)
        rw [(List.cons.inj split').2]
        exact List.mem_append_right _ List.mem_cons_self
    | cons y later =>
      obtain ⟨rfl, rfl⟩ := List.cons.inj split
      cases later' with
      | nil =>
        obtain ⟨rfl, -⟩ := List.cons.inj split'
        exact absurd (List.mem_append_right _ List.mem_cons_self) (once _ h.1)
      | cons y' later' => exact ih h.2 rfl (List.cons.inj split').2

/-- How often something happened is bounded by the number it was last given, when each
occurrence is numbered above those before it. -/
theorem Lawful.countP_le {may : List α → α → Prop} {p : α → Bool} {rank : α → Nat} {l : List α}
    (h : Lawful may l) (rising : ∀ earlier e, may earlier e → p e = true →
      0 < rank e ∧ ∀ e' ∈ earlier, p e' = true → rank e' < rank e)
    (n : Nat) (bound : ∀ e ∈ l, p e = true → rank e ≤ n) : l.countP p ≤ n := by
  induction l generalizing n with
  | nil => exact Nat.zero_le n
  | cons e earlier ih =>
    cases hit : p e with
    | false =>
      rw [List.countP_cons_of_neg (by simp [hit])]
      exact ih h.2 n fun e' he' => bound e' (List.mem_cons_of_mem _ he')
    | true =>
      obtain ⟨positive, below⟩ := rising earlier e h.1 hit
      have most := bound e List.mem_cons_self hit
      have fewer := ih h.2 (rank e - 1) fun e' he' hp => by
        have := below e' he' hp
        omega
      rw [List.countP_cons_of_pos hit]
      omega

/-- What has happened since an event last did. -/
def since [DecidableEq α] (e : α) (l : List α) : List α := l.takeWhile (· ≠ e)

theorem since_append [DecidableEq α] {e : α} {new : List α} (absent : e ∉ new) (l : List α) :
    since e (new ++ l) = new ++ since e l := by
  apply List.takeWhile_append_of_pos
  intro x mem
  have other : x ≠ e := fun same => absent (same ▸ mem)
  simpa using other

@[simp] theorem since_cons_self [DecidableEq α] (e : α) (l : List α) : since e (e :: l) = [] := by
  simp [since]

end Interleave
