import BiliSyncPlay.JsMap
import Mathlib.Data.List.Sort

/-!
# Sorted sets

Members with a score each, as Redis keeps them: read in the order of the scores, and in the
order of the members where scores are equal.
-/

abbrev SortedSet (μ σ : Type) := JsMap μ σ

namespace SortedSet

variable {μ σ : Type}

section
variable [DecidableEq μ]

def zadd (z : SortedSet μ σ) (score : σ) (member : μ) : SortedSet μ σ := z.set member score

def zrem (z : SortedSet μ σ) (member : μ) : SortedSet μ σ := z.delete member

def zscore (z : SortedSet μ σ) (member : μ) : Option σ := z.get? member

theorem zscore_zadd (z : SortedSet μ σ) (score : σ) (m n : μ) :
    (z.zadd score m).zscore n = if m = n then some score else z.zscore n := z.get?_set m n score

theorem zscore_zrem (z : SortedSet μ σ) (m n : μ) :
    (z.zrem m).zscore n = if m = n then none else z.zscore n := z.get?_delete m n

end

section
variable [LinearOrder μ] [LinearOrder σ]

def Before (a b : μ × σ) : Prop := a.2 < b.2 ∨ a.2 = b.2 ∧ a.1 ≤ b.1

instance : DecidableRel (Before : μ × σ → μ × σ → Prop) := fun a b =>
  inferInstanceAs (Decidable (a.2 < b.2 ∨ a.2 = b.2 ∧ a.1 ≤ b.1))

instance : Std.Total (Before : μ × σ → μ × σ → Prop) where
  total a b := by
    rcases lt_trichotomy a.2 b.2 with below | same | above
    · exact .inl (.inl below)
    · exact (le_total a.1 b.1).imp (fun h => .inr ⟨same, h⟩) fun h => .inr ⟨same.symm, h⟩
    · exact .inr (.inl above)

instance : IsTrans (μ × σ) Before where
  trans := by
    rintro a b c (ab | ⟨ab, mem⟩) (bc | ⟨bc, mem'⟩)
    · exact .inl (ab.trans bc)
    · exact .inl (bc ▸ ab)
    · exact .inl (ab ▸ bc)
    · exact .inr ⟨ab.trans bc, mem.trans mem'⟩

theorem Before.score_le {a b : μ × σ} (h : Before a b) : a.2 ≤ b.2 := by
  rcases h with below | ⟨same, -⟩
  · exact below.le
  · exact same.le

def ranked (z : SortedSet μ σ) : List (μ × σ) := z.entries.insertionSort Before

theorem pairwise_ranked (z : SortedSet μ σ) : z.ranked.Pairwise Before :=
  List.pairwise_insertionSort Before z.entries

def members (z : SortedSet μ σ) : List μ := z.ranked.map Prod.fst

theorem nodup_members (z : SortedSet μ σ) : z.members.Nodup := by
  have same : z.members.Perm (z.entries.map Prod.fst) :=
    (List.perm_insertionSort Before z.entries).map Prod.fst
  exact same.nodup_iff.mpr z.nodup

theorem length_members (z : SortedSet μ σ) : z.members.length = z.size := by
  simp only [members, ranked, List.length_map, List.length_insertionSort, JsMap.size]

/-- The members from the first to the one at `stop`, which counts from the end where it is
negative. -/
def zrange (z : SortedSet μ σ) (stop : Int) : List μ :=
  z.members.take (if stop < 0 then z.size + stop + 1 else stop + 1).toNat

/-- The members whose score is in a range. -/
def zrangebyscore (z : SortedSet μ σ) (range : σ → Bool) : List μ :=
  (z.ranked.filter fun e => range e.2).map Prod.fst

theorem nodup_zrangebyscore (z : SortedSet μ σ) (range : σ → Bool) :
    (z.zrangebyscore range).Nodup :=
  z.nodup_members.sublist (List.filter_sublist.map Prod.fst)

def zcard (z : SortedSet μ σ) : Nat := z.size

def zcount (z : SortedSet μ σ) (range : σ → Bool) : Nat := (z.zrangebyscore range).length

theorem zrange_all (z : SortedSet μ σ) : z.zrange (-1) = z.members := by
  have whole : z.members.length ≤
      (if (-1 : Int) < 0 then z.size + (-1) + 1 else -1 + 1 : Int).toNat := by
    rw [length_members, if_pos (by decide)]
    omega
  exact List.take_of_length_le whole

section
variable [DecidableEq μ]

variable {m : μ} {z : SortedSet μ σ}

theorem mem_ranked {s : σ} :
    (m, s) ∈ z.ranked ↔ z.zscore m = some s := by
  unfold ranked
  rw [List.mem_insertionSort]
  exact JsMap.mem_entries_iff

theorem mem_members : m ∈ z.members ↔ (z.zscore m).isSome := by
  unfold members
  rw [Option.isSome_iff_exists, List.mem_map]
  constructor
  · rintro ⟨⟨_, s⟩, mem, rfl⟩
    exact ⟨s, mem_ranked.mp mem⟩
  · rintro ⟨s, at_m⟩
    exact ⟨(m, s), mem_ranked.mpr at_m, rfl⟩

theorem mem_zrangebyscore {range : σ → Bool} :
    m ∈ z.zrangebyscore range ↔ ∃ s, z.zscore m = some s ∧ range s = true := by
  unfold zrangebyscore
  rw [List.mem_map]
  constructor
  · rintro ⟨⟨_, s⟩, mem, rfl⟩
    obtain ⟨found, inside⟩ := List.mem_filter.mp mem
    exact ⟨s, mem_ranked.mp found, inside⟩
  · rintro ⟨s, at_m, inside⟩
    exact ⟨(m, s), List.mem_filter.mpr ⟨mem_ranked.mpr at_m, inside⟩, rfl⟩

/-- A member that is not among the first comes after each of them. -/
theorem before_of_not_mem_take {s : σ} (at_m : z.zscore m = some s) {n : Nat}
    (behind : m ∉ z.members.take n) :
    (z.members.take n).length = n ∧
      ∀ k ∈ z.members.take n, ∃ r, z.zscore k = some r ∧ Before (k, r) (m, s) := by
  have split : z.ranked.take n ++ z.ranked.drop n = z.ranked := List.take_append_drop n z.ranked
  have firsts : z.members.take n = (z.ranked.take n).map Prod.fst := List.map_take.symm
  have later : (m, s) ∈ z.ranked.drop n := by
    have listed : (m, s) ∈ z.ranked.take n ++ z.ranked.drop n := by
      rw [split]
      exact mem_ranked.mpr at_m
    rcases List.mem_append.mp listed with first | last
    · rw [firsts] at behind
      exact absurd (List.mem_map_of_mem first) behind
    · exact last
  constructor
  · have longer : n < z.ranked.length := by
      have some_left := List.length_pos_of_mem later
      rw [List.length_drop] at some_left
      omega
    rw [firsts, List.length_map, List.length_take]
    omega
  · intro k mem
    rw [firsts, List.mem_map] at mem
    obtain ⟨⟨_, r⟩, first, rfl⟩ := mem
    have ordered := z.pairwise_ranked
    rw [← split, List.pairwise_append] at ordered
    exact ⟨r, mem_ranked.mp (List.mem_of_mem_take first), ordered.2.2 _ first _ later⟩

end

end

end SortedSet
