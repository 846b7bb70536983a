import BiliSyncPlay.JsMap
import Mathlib.Order.Basic

/-!
# Sweeping idle entries

Two maps with the same keys and entries, but that one of them lacks entries that are dead. What
cannot tell a dead entry from none reads the same of both, so a sweep that takes dead entries only
is not seen.
-/

namespace JsMap

variable {κ ν : Type} [DecidableEq κ]

/-- `m` has the entries of `whole`, but for some that are dead. -/
def Lacks (dead : ν → Prop) (m whole : JsMap κ ν) : Prop :=
  ∀ k, m.get? k = whole.get? k ∨ m.get? k = none ∧ ∃ v, whole.get? k = some v ∧ dead v

section
variable {dead : ν → Prop} {m whole : JsMap κ ν}

theorem Lacks.refl (m : JsMap κ ν) : Lacks dead m m := fun _ => .inl rfl

section
variable (lacks : Lacks dead m whole)
include lacks

theorem Lacks.mono {later : ν → Prop} (le : ∀ v, dead v → later v) :
    Lacks later m whole := by
  intro k
  rcases lacks k with same | ⟨absent, v, found, gone⟩
  · exact .inl same
  · exact .inr ⟨absent, v, found, le v gone⟩

theorem Lacks.set (k : κ) (v : ν) :
    Lacks dead (m.set k v) (whole.set k v) := by
  intro j
  by_cases same : k = j
  · simp [same]
  · simpa [same] using lacks j

theorem Lacks.delete (k : κ) :
    Lacks dead (m.delete k) (whole.delete k) := by
  intro j
  by_cases same : k = j
  · simp [same]
  · simpa [same] using lacks j

/-- Entries that go are dead. -/
theorem Lacks.of_gone {fewer : JsMap κ ν}
    (gone : ∀ k, fewer.get? k = m.get? k ∨ fewer.get? k = none ∧ ∀ v, m.get? k = some v → dead v) :
    Lacks dead fewer whole := by
  intro k
  rcases gone k, lacks k with ⟨same | ⟨absent, old⟩, there | ⟨before, v, found, lost⟩⟩
  · exact .inl (same.trans there)
  · exact .inr ⟨same.trans before, v, found, lost⟩
  · cases held : m.get? k with
    | none => exact .inl (absent.trans (held.symm.trans there))
    | some v => exact .inr ⟨absent, v, there.symm.trans held, old v held⟩
  · exact .inr ⟨absent, v, found, lost⟩

/-- What cannot tell a dead entry from none reads the same of both. -/
theorem Lacks.read {α : Type} (read : Option ν → α)
    (blind : ∀ v, dead v → read (some v) = read none) (k : κ) :
    read (m.get? k) = read (whole.get? k) := by
  rcases lacks k with same | ⟨absent, v, found, gone⟩
  · rw [same]
  · rw [absent, found, blind v gone]

end

end

/-! ## Entries that open a window and are seen

`start` is when the window of an entry opened, `seen` when the entry was last used. An entry whose
window is over counts for nothing.
-/

structure Swept (start seen : ν → Int) (window now : Int) (m whole : JsMap κ ν) : Prop where
  lacks : m.Lacks (fun v => window ≤ now - start v) whole
  stamped : ∀ k v, m.get? k = some v → start v ≤ seen v ∧ seen v ≤ now

section
variable {start seen : ν → Int} {window now : Int} {m whole : JsMap κ ν}

/-- Only what the keys hold matters. -/
theorem Swept.congr (swept : Swept start seen window now m whole) {whole' : JsMap κ ν}
    (same : ∀ k, whole'.get? k = whole.get? k) : Swept start seen window now m whole' where
  lacks k := by rw [same k]; exact swept.lacks k
  stamped := swept.stamped

theorem swept_empty : Swept start seen window now (empty : JsMap κ ν) empty where
  lacks := Lacks.refl _
  stamped k v found := by cases found

section
variable (swept : Swept start seen window now m whole)
include swept

theorem Swept.later {now' : Int} (le : now ≤ now') : Swept start seen window now' m whole where
  lacks := swept.lacks.mono fun v gone => by omega
  stamped k v found := by
    have old := swept.stamped k v found
    omega

theorem Swept.set (k : κ) {v : ν} (opened : start v ≤ seen v) (used : seen v ≤ now) :
    Swept start seen window now (m.set k v) (whole.set k v) where
  lacks := swept.lacks.set k v
  stamped j w found := by
    by_cases same : k = j
    · rw [same, get?_set_self] at found
      cases found
      exact ⟨opened, used⟩
    · rw [get?_set_ne m v same] at found
      exact swept.stamped j w found

theorem Swept.delete (k : κ) :
    Swept start seen window now (m.delete k) (whole.delete k) where
  lacks := swept.lacks.delete k
  stamped j w found := by
    by_cases same : k = j
    · rw [same, get?_delete_self] at found
      cases found
    · rw [get?_delete_ne m same] at found
      exact swept.stamped j w found

/-- A sweep of entries that have not been used for as long as a window is not seen. -/
theorem Swept.sweep {fewer : JsMap κ ν} (idle : ∀ k, fewer.get? k = m.get? k ∨
      fewer.get? k = none ∧ ∀ v, m.get? k = some v → window ≤ now - seen v) :
    Swept start seen window now fewer whole where
  lacks := swept.lacks.of_gone fun k => (idle k).imp_right fun ⟨absent, old⟩ =>
    ⟨absent, fun v found => by
      have stamps := swept.stamped k v found
      have unused := old v found
      omega⟩
  stamped k v found := by
    rcases idle k with same | ⟨absent, -⟩
    · exact swept.stamped k v (same.symm.trans found)
    · rw [absent] at found
      cases found

end

end

end JsMap
