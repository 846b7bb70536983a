import BiliSyncPlay.Lists

/-!
# Draining in stages

Each task is counted by some of a row of stages. A drain awaits what the first stage counts, then
takes a new snapshot for the second, and so on. A task that a stage counts may be counted by later
ones afterwards, and by none before, so a stage that is done stays empty.
-/

namespace BiliSyncPlay.OrderedDrain

variable {τ : Type} {stage : Nat → τ → Bool} {tasks tasks' : List τ} {done : Nat}
  {awaited : List Nat}

/-- What a stage counts was counted by that stage or one before it. -/
def Narrows (stage : Nat → τ → Bool) (tasks tasks' : List τ) : Prop :=
  ∀ (i : Nat) (x' : τ) (k : Nat), tasks'[i]? = some x' → stage k x' = true →
    ∃ x j, tasks[i]? = some x ∧ j ≤ k ∧ stage j x = true

/-- So many stages are done, and the drain awaits these tasks for the next one. -/
structure Drained (stage : Nat → τ → Bool) (done : Nat) (awaited : List Nat) (tasks : List τ) :
    Prop where
  past : ∀ k < done, places (stage k) tasks = []
  present : ∀ i ∈ places (stage done) tasks, i ∈ awaited

theorem Narrows.refl (stage : Nat → τ → Bool) (tasks : List τ) : Narrows stage tasks tasks :=
  fun _ x k there counted => ⟨x, k, there, Nat.le_refl k, counted⟩

theorem Narrows.places (narrows : Narrows stage tasks tasks') {i k : Nat}
    (counted : i ∈ places (stage k) tasks') : ∃ j ≤ k, i ∈ places (stage j) tasks := by
  obtain ⟨x', there, counts⟩ := mem_places.mp counted
  obtain ⟨x, j, before, le, counted_before⟩ := narrows i x' k there counts
  exact ⟨j, le, mem_places.mpr ⟨x, before, counted_before⟩⟩

theorem drained_start (stage : Nat → τ → Bool) (tasks : List τ) :
    Drained stage 0 (places (stage 0) tasks) tasks where
  past _ before := absurd before (Nat.not_lt_zero _)
  present _ counted := counted

theorem Drained.narrow (drained : Drained stage done awaited tasks)
    (narrows : Narrows stage tasks tasks') : Drained stage done awaited tasks' := by
  have nowhere : ∀ (i k : Nat), k < done → i ∉ BiliSyncPlay.places (stage k) tasks' := by
    intro i k before counted
    obtain ⟨j, le, earlier⟩ := narrows.places counted
    rw [drained.past j (by omega)] at earlier
    exact List.not_mem_nil earlier
  constructor
  · intro k before
    exact List.eq_nil_iff_forall_not_mem.mpr fun i => nowhere i k before
  · intro i counted
    obtain ⟨j, le, earlier⟩ := narrows.places counted
    by_cases last : j = done
    · subst last
      exact drained.present i earlier
    · rw [drained.past j (by omega)] at earlier
      exact absurd earlier List.not_mem_nil

/-- Once the awaited tasks are no longer counted, the stage is done. -/
theorem Drained.next (drained : Drained stage done awaited tasks)
    (settled : ∀ i ∈ awaited, i ∉ places (stage done) tasks) :
    Drained stage (done + 1) (places (stage (done + 1)) tasks) tasks := by
  constructor
  · intro k before
    by_cases last : k = done
    · subst last
      apply List.eq_nil_iff_forall_not_mem.mpr
      exact fun i counted => settled i (drained.present i counted) counted
    · exact drained.past k (by omega)
  · exact fun _ counted => counted

/-! ## Budgets -/

/-- The longest delay that `setTimeout` takes; with a longer one it fires at once. -/
def MAX_TIMER_INTERVAL_MS : Nat := 2147483647

def clampTimerIntervalMs (intervalMs : Nat) : Nat :=
  min intervalMs MAX_TIMER_INTERVAL_MS

/-- When a wait that starts now and is cut short after so long ends; it lasts a millisecond at
least. -/
def timer (startedAt timeoutMs : Nat) : Nat :=
  startedAt + clampTimerIntervalMs (max timeoutMs 1)

theorem le_of_timer_le {startedAt timeoutMs now : Nat} (short : timeoutMs ≤ MAX_TIMER_INTERVAL_MS)
    (due : timer startedAt timeoutMs ≤ now) : startedAt + timeoutMs ≤ now := by
  unfold timer clampTimerIntervalMs MAX_TIMER_INTERVAL_MS at due
  unfold MAX_TIMER_INTERVAL_MS at short
  omega

end BiliSyncPlay.OrderedDrain
