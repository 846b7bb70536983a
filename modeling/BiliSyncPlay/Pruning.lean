import BiliSyncPlay.JsMap
import Mathlib.Data.List.Perm.Subperm

/-!
# Maps without some of their entries

A loop over a map that deletes the entries it finds dead leaves the others in their places.
-/

namespace JsMap

variable {κ ν : Type}

def prune (m : JsMap κ ν) (dead : κ → ν → Bool) : JsMap κ ν :=
  ⟨m.entries.filter fun e => !dead e.1 e.2, m.nodup.sublist (List.filter_sublist.map Prod.fst)⟩

theorem size_prune_le (m : JsMap κ ν) (dead : κ → ν → Bool) : (m.prune dead).size ≤ m.size :=
  List.length_filter_le _ _

variable [DecidableEq κ]

theorem lookup_filter {dead : κ → ν → Bool} {k : κ} {l : List (κ × ν)}
    (nodup : (l.map Prod.fst).Nodup) :
    lookup k (l.filter fun e => !dead e.1 e.2) = (lookup k l).filter fun v => !dead k v := by
  induction l with
  | nil => rfl
  | cons e rest ih =>
    rw [List.map_cons, List.nodup_cons] at nodup
    have tail := ih nodup.2
    by_cases same : e.1 = k
    · subst same
      have absent : lookup e.1 rest = none := lookup_eq_none_iff.mpr nodup.1
      by_cases gone : dead e.1 e.2 = true
      · simp [lookup, gone, tail, absent, Option.filter_some]
      · simp [lookup, gone, Option.filter_some]
    · by_cases gone : dead e.1 e.2 = true
      · simp [lookup, same, gone, tail]
      · simp [lookup, same, gone, tail]

theorem get?_prune (m : JsMap κ ν) (dead : κ → ν → Bool) (k : κ) :
    (m.prune dead).get? k = (m.get? k).filter fun v => !dead k v := lookup_filter m.nodup

theorem get?_prune_eq_some {m : JsMap κ ν} {dead : κ → ν → Bool} {k : κ} {v : ν} :
    (m.prune dead).get? k = some v ↔ m.get? k = some v ∧ dead k v = false := by
  rw [get?_prune, Option.filter_eq_some_iff]
  simp

/-- Distinct keys a map holds are no more than its entries. -/
theorem length_le_size {m : JsMap κ ν} {keys : List κ} (nodup : keys.Nodup)
    (held : ∀ k ∈ keys, (m.get? k).isSome) : keys.length ≤ m.size := by
  have sub : keys ⊆ m.entries.map Prod.fst := by
    intro k mem
    obtain ⟨v, found⟩ := Option.isSome_iff_exists.mp (held k mem)
    exact List.mem_map.mpr ⟨_, mem_entries_iff.mpr found, rfl⟩
  have short := (nodup.subperm sub).length_le
  rwa [List.length_map] at short

end JsMap
