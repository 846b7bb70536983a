import Mathlib.Algebra.BigOperators.Group.List.Basic
import Mathlib.Algebra.GroupWithZero.Nat
import Mathlib.Algebra.Order.Ring.Rat
import Mathlib.Data.List.TakeWhile

/-!
# Window indexes

The run-length lists the event store of a single node keeps of the times at which an event
happened: sorted by time, searched by halving, pruned at the front.
-/

namespace BiliSyncPlay.EventStores

structure TimestampCount where
  timestampMs : Rat
  count : Nat

def lowerBoundLoop (entries : List TimestampCount) (timestampMs : Rat) (low high : Nat) : Nat :=
  if low < high then
    let mid := (low + high) / 2
    if entries[mid]?.any fun entry => decide (entry.timestampMs < timestampMs) then
      lowerBoundLoop entries timestampMs (mid + 1) high
    else lowerBoundLoop entries timestampMs low mid
  else low
termination_by high - low

def lowerBoundTimestamp (entries : List TimestampCount) (timestampMs : Rat) : Nat :=
  lowerBoundLoop entries timestampMs 0 entries.length

def pruneTimestampEntries (entries : List TimestampCount) (oldestKeptMs : Rat) :
    List TimestampCount :=
  entries.drop (lowerBoundTimestamp entries oldestKeptMs)

def countTimestampEntriesInWindow (entries : List TimestampCount) (fromMs toMs : Rat) : Nat :=
  let counted := entries.drop (lowerBoundTimestamp entries fromMs)
  ((counted.takeWhile fun entry => decide (entry.timestampMs ≤ toMs)).map (·.count)).sum

/-- One more event at a time: the entry of that time counts it, or a new entry is spliced in. -/
def addTimestamp (entries : List TimestampCount) (timestampMs : Rat) : List TimestampCount :=
  let index := lowerBoundTimestamp entries timestampMs
  let earlier := entries.take index
  match entries.drop index with
  | [] => earlier ++ [{ timestampMs, count := 1 }]
  | entry :: later =>
    if entry.timestampMs = timestampMs then
      earlier ++ { entry with count := entry.count + 1 } :: later
    else earlier ++ { timestampMs, count := 1 } :: entry :: later

/-- No time has two entries, and earlier times come first. -/
def Ascending (entries : List TimestampCount) : Prop :=
  entries.Pairwise fun left right => left.timestampMs < right.timestampMs

/-- The times the entries stand for, each as often as it is counted. -/
def occurrences (entries : List TimestampCount) : List Rat :=
  entries.flatMap fun entry => List.replicate entry.count entry.timestampMs

/-! ## Splitting a list where a test turns false -/

section
variable {α : Type} {p : α → Bool} {l : List α}

/-- The test holds up to some place of the list and nowhere after it. -/
def TurnsFalse (p : α → Bool) (l : List α) : Prop :=
  l.Pairwise fun left right => p right = true → p left = true

theorem takeWhile_eq_filter (turns : TurnsFalse p l) : l.takeWhile p = l.filter p := by
  induction l with
  | nil => rfl
  | cons first rest ih =>
    obtain ⟨ahead, tail⟩ := List.pairwise_cons.mp turns
    by_cases holds : p first = true
    · rw [List.takeWhile_cons_of_pos holds, List.filter_cons_of_pos holds, ih tail]
    · have none_after : rest.filter p = [] :=
        List.filter_eq_nil_iff.mpr fun x mem px => holds (ahead x mem px)
      rw [List.takeWhile_cons_of_neg holds, List.filter_cons_of_neg holds, none_after]

theorem getElem?_any_iff (turns : TurnsFalse p l) (i : Nat) :
    l[i]?.any p = true ↔ i < (l.filter p).length := by
  induction l generalizing i with
  | nil => simp
  | cons first rest ih =>
    obtain ⟨ahead, tail⟩ := List.pairwise_cons.mp turns
    by_cases holds : p first = true
    · rw [List.filter_cons_of_pos holds, List.length_cons]
      cases i with
      | zero => simp [holds]
      | succ i =>
        rw [List.getElem?_cons_succ, ih tail]
        omega
    · have none_after : rest.filter p = [] :=
        List.filter_eq_nil_iff.mpr fun x mem px => holds (ahead x mem px)
      rw [List.filter_cons_of_neg holds, none_after]
      cases i with
      | zero => simp [holds]
      | succ i =>
        rw [List.getElem?_cons_succ, ih tail, none_after]
        simp

theorem split_at_filter (turns : TurnsFalse p l) :
    l.take (l.filter p).length = l.filter p ∧
      l.drop (l.filter p).length = l.filter fun x => !p x := by
  induction l with
  | nil => exact ⟨rfl, rfl⟩
  | cons first rest ih =>
    obtain ⟨ahead, tail⟩ := List.pairwise_cons.mp turns
    obtain ⟨taken, dropped⟩ := ih tail
    by_cases holds : p first = true
    · rw [List.filter_cons_of_pos holds, List.length_cons, List.take_succ_cons,
        List.drop_succ_cons, taken, dropped, List.filter_cons_of_neg (by simp [holds])]
      exact ⟨rfl, rfl⟩
    · have none_after : rest.filter p = [] :=
        List.filter_eq_nil_iff.mpr fun x mem px => holds (ahead x mem px)
      have all_after : rest.filter (fun x => !p x) = rest :=
        List.filter_eq_self.mpr fun x mem => by simpa using fun px => holds (ahead x mem px)
      rw [List.filter_cons_of_neg holds, none_after, List.filter_cons_of_pos (by simp [holds]),
        all_after]
      exact ⟨rfl, rfl⟩

end

/-! ## The search -/

section
variable {entries : List TimestampCount}

section
variable (ascending : Ascending entries)
include ascending

theorem Ascending.turns_lt (t : Rat) :
    TurnsFalse (fun entry => decide (entry.timestampMs < t)) entries := by
  apply List.Pairwise.imp _ ascending
  intro left right before
  simp only [decide_eq_true_eq]
  exact before.trans

theorem Ascending.turns_le (t : Rat) :
    TurnsFalse (fun entry => decide (entry.timestampMs ≤ t)) entries := by
  apply List.Pairwise.imp _ ascending
  intro left right before
  simp only [decide_eq_true_eq]
  exact before.le.trans

theorem lowerBoundLoop_eq (t : Rat) {low high : Nat}
    (above : low ≤ (entries.filter fun entry => decide (entry.timestampMs < t)).length)
    (below : (entries.filter fun entry => decide (entry.timestampMs < t)).length ≤ high) :
    lowerBoundLoop entries t low high =
      (entries.filter fun entry => decide (entry.timestampMs < t)).length := by
  fun_induction lowerBoundLoop entries t low high with
  | case1 low high open_ mid earlier ih =>
    have inside := (getElem?_any_iff (ascending.turns_lt t) mid).mp earlier
    exact ih inside below
  | case2 low high open_ mid later ih =>
    have outside := (getElem?_any_iff (ascending.turns_lt t) mid).not.mp later
    exact ih above (by omega)
  | case3 low high closed => omega

theorem lowerBoundTimestamp_eq (t : Rat) :
    lowerBoundTimestamp entries t =
      (entries.filter fun entry => decide (entry.timestampMs < t)).length :=
  lowerBoundLoop_eq ascending t (Nat.zero_le _) (List.length_filter_le _ _)

theorem take_lowerBound (t : Rat) :
    entries.take (lowerBoundTimestamp entries t) =
      entries.filter fun entry => decide (entry.timestampMs < t) := by
  rw [lowerBoundTimestamp_eq ascending t]
  exact (split_at_filter (ascending.turns_lt t)).1

theorem drop_lowerBound (t : Rat) :
    entries.drop (lowerBoundTimestamp entries t) =
      entries.filter fun entry => decide (t ≤ entry.timestampMs) := by
  rw [lowerBoundTimestamp_eq ascending t, (split_at_filter (ascending.turns_lt t)).2]
  apply List.filter_congr
  intro entry _
  by_cases earlier : entry.timestampMs < t
  · simp [earlier, earlier.not_ge]
  · simp [earlier, not_lt.mp earlier]

end

/-! ## Pruning and counting -/

theorem occurrences_filter (q : Rat → Bool) (entries : List TimestampCount) :
    occurrences (entries.filter fun entry => q entry.timestampMs) =
      (occurrences entries).filter q := by
  induction entries with
  | nil => rfl
  | cons entry rest ih =>
    unfold occurrences at ih ⊢
    rw [List.flatMap_cons, List.filter_append, ← ih]
    by_cases kept : q entry.timestampMs = true
    · simp only [List.filter_cons, if_pos kept, List.flatMap_cons, List.filter_replicate_of_pos kept]
    · simp only [List.filter_cons, if_neg kept, List.filter_replicate_of_neg kept, List.nil_append]

theorem length_occurrences (entries : List TimestampCount) :
    (occurrences entries).length = (entries.map (·.count)).sum := by
  simp [occurrences, List.length_flatMap]

theorem Ascending.prune (ascending : Ascending entries) (c : Rat) :
    Ascending (pruneTimestampEntries entries c) :=
  List.Pairwise.sublist (List.drop_sublist _ _) ascending

theorem occurrences_prune (ascending : Ascending entries) (c : Rat) :
    occurrences (pruneTimestampEntries entries c) =
      (occurrences entries).filter fun t => decide (c ≤ t) := by
  rw [pruneTimestampEntries, drop_lowerBound ascending, ← occurrences_filter]

theorem countTimestampEntriesInWindow_eq (ascending : Ascending entries) (fromMs toMs : Rat) :
    countTimestampEntriesInWindow entries fromMs toMs =
      (occurrences entries).countP fun t => decide (fromMs ≤ t ∧ t ≤ toMs) := by
  have kept : Ascending (entries.filter fun entry => decide (fromMs ≤ entry.timestampMs)) :=
    List.Pairwise.sublist List.filter_sublist ascending
  rw [countTimestampEntriesInWindow, drop_lowerBound ascending]
  rw [takeWhile_eq_filter (kept.turns_le toMs), List.filter_filter, ← length_occurrences,
    List.countP_eq_length_filter, ← occurrences_filter]
  congr 3
  funext entry
  simp [Bool.and_comm]

/-! ## Adding -/

theorem occurrences_append (earlier later : List TimestampCount) :
    occurrences (earlier ++ later) = occurrences earlier ++ occurrences later :=
  List.flatMap_append

theorem occurrences_cons (entry : TimestampCount) (later : List TimestampCount) :
    occurrences (entry :: later) =
      List.replicate entry.count entry.timestampMs ++ occurrences later := rfl

theorem occurrences_addTimestamp (entries : List TimestampCount) (t : Rat) :
    (occurrences (addTimestamp entries t)).Perm (t :: occurrences entries) := by
  have whole := List.take_append_drop (lowerBoundTimestamp entries t) entries
  simp only [addTimestamp]
  split
  · next nothing =>
    rw [nothing, List.append_nil] at whole
    rw [whole, occurrences_append]
    exact List.perm_append_comm
  · next entry later found =>
    rw [found] at whole
    conv_rhs => rw [← whole]
    split
    · next same =>
      rw [occurrences_append, occurrences_append, occurrences_cons, occurrences_cons, same,
        List.replicate_succ, List.cons_append]
      exact List.perm_middle
    · rw [occurrences_append, occurrences_append]
      exact List.perm_middle

theorem Ascending.addTimestamp (ascending : Ascending entries) (t : Rat) :
    Ascending (addTimestamp entries t) := by
  have earlier_lt :
      ∀ entry ∈ entries.take (lowerBoundTimestamp entries t), entry.timestampMs < t := by
    rw [take_lowerBound ascending]
    intro entry mem
    simpa using (List.mem_filter.mp mem).2
  have later_le :
      ∀ entry ∈ entries.drop (lowerBoundTimestamp entries t), t ≤ entry.timestampMs := by
    rw [drop_lowerBound ascending]
    intro entry mem
    simpa using (List.mem_filter.mp mem).2
  have earlier_ascending : Ascending (entries.take (lowerBoundTimestamp entries t)) :=
    List.Pairwise.sublist (List.take_sublist _ _) ascending
  have later_ascending : Ascending (entries.drop (lowerBoundTimestamp entries t)) :=
    List.Pairwise.sublist (List.drop_sublist _ _) ascending
  simp only [EventStores.addTimestamp]
  split
  · apply List.pairwise_append.mpr
    refine ⟨earlier_ascending, List.pairwise_singleton _ _, ?_⟩
    intro entry mem new isNew
    rw [List.mem_singleton.mp isNew]
    exact earlier_lt entry mem
  · next entry later found =>
    rw [found] at later_le later_ascending
    obtain ⟨first_lt, rest_ascending⟩ := List.pairwise_cons.mp later_ascending
    have first_le := later_le entry List.mem_cons_self
    split
    · next same =>
      apply List.pairwise_append.mpr
      refine ⟨earlier_ascending, List.pairwise_cons.mpr ⟨first_lt, rest_ascending⟩, ?_⟩
      intro left mem right right_mem
      rcases List.mem_cons.mp right_mem with rfl | right_later
      · exact (earlier_lt left mem).trans_eq same.symm
      · exact ((earlier_lt left mem).trans_le first_le).trans (first_lt right right_later)
    · next apart =>
      have first_after : t < entry.timestampMs := lt_of_le_of_ne first_le (Ne.symm apart)
      apply List.pairwise_append.mpr
      refine ⟨earlier_ascending, List.pairwise_cons.mpr ⟨?_, later_ascending⟩, ?_⟩
      · intro right right_mem
        rcases List.mem_cons.mp right_mem with rfl | right_later
        · exact first_after
        · exact first_after.trans (first_lt right right_later)
      · intro left mem right right_mem
        rcases List.mem_cons.mp right_mem with rfl | right_later
        · exact earlier_lt left mem
        · exact (earlier_lt left mem).trans_le (later_le right right_later)

end

end BiliSyncPlay.EventStores
