import Mathlib.Algebra.Order.Field.Rat
import Mathlib.Tactic.Linarith

/-!
# Hydration retries

The one retry timer of `room-state-apply-controller.ts` and its two streaks. Timers are the
platform's: one that was set and not cleared fires once it is due, `slack` late at most. A cycle
may arm a retry at any time of its life, and so may anybody else.

The streaks only grow in a run that makes no progress, and eight doublings reach the longest
delay; what is left to each of them bounds the retries that come sooner.
-/

namespace BiliSyncPlay.HydrationRetry

def HYDRATION_RETRY_MAX_DELAY_MS : ℚ := 10000

def BOUND_VIDEO_HYDRATION_DELAY_MS : ℚ := 50

structure Timer where
  id : Nat
  deadline : ℚ
  deriving DecidableEq

structure Controller where
  /-- `monotonicNow()`. -/
  now : ℚ := 0
  /-- The timers of the page, by the numbers `setTimeout` gave them. -/
  timers : List Timer := []
  nextTimer : Nat := 0
  hydrateRetryTimer : Option Nat := none
  hydrateRetryDeadline : Option ℚ := none
  hydrateRetryAttempt : Nat := 0
  boundVideoAttempt : Nat := 0
  destroyed : Bool := false
  /-- Hydration cycles that wait for an answer. -/
  cycles : Nat := 0
  deriving DecidableEq

/-! ## The code -/

def clearHydrationRetryTimer (c : Controller) : Controller :=
  { c with
    timers :=
      match c.hydrateRetryTimer with
      | none => c.timers
      | some id => c.timers.filter (·.id ≠ id)
    hydrateRetryTimer := none
    hydrateRetryDeadline := none }

def backedOffDelayMs (baseDelayMs : ℚ) (attempt : Nat) : ℚ :=
  min (baseDelayMs * 2 ^ attempt) HYDRATION_RETRY_MAX_DELAY_MS

/-- Whether it armed, and the state after. -/
def armHydrationRetry (c : Controller) (baseDelayMs : ℚ) (attempt : Nat) : Bool × Controller :=
  if c.destroyed ∨ c.hydrateRetryTimer ≠ none then (false, c)
  else
    let deadline := c.now + backedOffDelayMs baseDelayMs attempt
    (true, { c with
      timers := c.timers ++ [⟨c.nextTimer, deadline⟩]
      nextTimer := c.nextTimer + 1
      hydrateRetryTimer := some c.nextTimer
      hydrateRetryDeadline := some deadline })

def preemptHydrationRetry (c : Controller) (baseDelayMs : ℚ) (attempt : Nat) :
    Bool × Controller :=
  if c.destroyed ∨ c.hydrateRetryTimer = none then (false, c)
  else if c.hydrateRetryDeadline.any (· ≤ c.now + backedOffDelayMs baseDelayMs attempt) then
    (false, c)
  else armHydrationRetry (clearHydrationRetryTimer c) baseDelayMs attempt

def scheduleHydrationRetry (c : Controller) (delayMs : ℚ) : Controller :=
  let (armed, next) := armHydrationRetry c delayMs c.hydrateRetryAttempt
  if armed then { next with hydrateRetryAttempt := next.hydrateRetryAttempt + 1 } else next

def notifyVideoElementBound (c : Controller) : Controller :=
  if c.destroyed ∨ c.hydrateRetryTimer = none then c
  else
    let counted := { c with boundVideoAttempt := c.boundVideoAttempt + 1 }
    let (won, next) :=
      preemptHydrationRetry counted BOUND_VIDEO_HYDRATION_DELAY_MS c.boundVideoAttempt
    if won then { next with hydrateRetryAttempt := 0 } else next

def resetHydrationRetry (c : Controller) : Controller :=
  { clearHydrationRetryTimer c with hydrateRetryAttempt := 0, boundVideoAttempt := 0 }

/-- A hydration up to the answer it waits for. -/
def runHydration (c : Controller) : Controller :=
  if c.destroyed then c
  else
    let cleared := clearHydrationRetryTimer c
    { cleared with cycles := cleared.cycles + 1 }

/-- What a cycle does at its end. -/
def endCycle (c : Controller) : Controller :=
  let ended := { c with cycles := c.cycles - 1 }
  if ¬ ended.destroyed ∧ ended.hydrateRetryTimer = none then
    { ended with hydrateRetryAttempt := 0, boundVideoAttempt := 0 }
  else ended

def hydrateRoomState (c : Controller) : Controller :=
  if c.destroyed then c else runHydration (resetHydrationRetry c)

def destroy (c : Controller) : Controller :=
  clearHydrationRetryTimer
    { c with destroyed := true, hydrateRetryAttempt := 0, boundVideoAttempt := 0 }

/-- The callback of a retry timer. -/
def onRetryTimer (c : Controller) (id : Nat) : Controller :=
  runHydration { c with
    timers := c.timers.filter (·.id ≠ id)
    hydrateRetryTimer := none
    hydrateRetryDeadline := none }

/-! ## Runs -/

inductive Event where
  | pass (elapsed : ℚ)
  | schedule (delayMs : ℚ)
  | bound
  | fire (id : Nat)
  | settle
  | reset
  | hydrate
  | destroy
  deriving DecidableEq

def step (slack : ℚ) (c : Controller) : Event → Option Controller
  | .pass elapsed =>
    if 0 ≤ elapsed ∧ ∀ timer ∈ c.timers, c.now + elapsed ≤ timer.deadline + slack then
      some { c with now := c.now + elapsed }
    else none
  | .schedule delayMs => some (scheduleHydrationRetry c delayMs)
  | .bound => some (notifyVideoElementBound c)
  | .fire id =>
    if ∃ timer ∈ c.timers, timer.id = id ∧ timer.deadline ≤ c.now then some (onRetryTimer c id)
    else none
  | .settle => if c.cycles = 0 then none else some (endCycle c)
  | .reset => some (resetHydrationRetry c)
  | .hydrate => some (hydrateRoomState c)
  | .destroy => some (HydrationRetry.destroy c)

def run (slack : ℚ) (c : Controller) (events : List Event) : Option Controller :=
  events.foldlM (step slack) c

@[simp] theorem run_nil (slack : ℚ) (c : Controller) : run slack c [] = some c := rfl

variable {c next : Controller} {event : Event} {slack : ℚ} {timer : Timer}

theorem run_cons {last : Controller} {rest : List Event} :
    run slack c (event :: rest) = some last ↔
      ∃ next, step slack c event = some next ∧ run slack next rest = some last := by
  simp only [run, List.foldlM_cons]
  exact Option.bind_eq_some_iff

/-- When a timer started a hydration, in a run. -/
def hydrations (slack : ℚ) (c : Controller) : List Event → List ℚ
  | [] => []
  | event :: rest =>
    match step slack c event, event with
    | some next, .fire _ => c.now :: hydrations slack next rest
    | some next, _ => hydrations slack next rest
    | none, _ => []

/-- How many times stand less than the longest delay after the one before. -/
def shortGaps : List ℚ → Nat
  | earlier :: later :: rest =>
    (if later < earlier + HYDRATION_RETRY_MAX_DELAY_MS then 1 else 0) + shortGaps (later :: rest)
  | _ => 0

/-- An event that neither fires the timer nor takes it away. -/
def Event.Waits : Event → Prop
  | .pass _ | .schedule _ | .bound | .settle => True
  | .fire _ | .reset | .hydrate | .destroy => False

/-- An event of a wait that makes no progress: no reset, no cycle that ends with no retry armed,
and delays of fifty milliseconds at least. -/
def Event.Fruitless (c : Controller) : Event → Prop
  | .pass _ | .bound | .fire _ => True
  | .schedule delayMs => 50 ≤ delayMs
  | .settle => c.hydrateRetryTimer ≠ none
  | .reset | .hydrate | .destroy => False

instance (c : Controller) : DecidablePred (Event.Fruitless c)
  | .pass _ | .bound | .fire _ => .isTrue trivial
  | .schedule delayMs => inferInstanceAs (Decidable (50 ≤ delayMs))
  | .settle => inferInstanceAs (Decidable (c.hydrateRetryTimer ≠ none))
  | .reset | .hydrate | .destroy => .isFalse id

def Fruitless (slack : ℚ) (c : Controller) : List Event → Prop
  | [] => True
  | event :: rest =>
    event.Fruitless c ∧ ∀ next ∈ step slack c event, Fruitless slack next rest

instance (slack : ℚ) : (c : Controller) → DecidablePred (Fruitless slack c)
  | _, [] => .isTrue trivial
  | c, event :: rest =>
    have _ := fun next => instDecidablePredListEventFruitless slack next rest
    inferInstanceAs (Decidable
      (event.Fruitless c ∧ ∀ next ∈ step slack c event, Fruitless slack next rest))

/-! ## One timer -/

/-- Nothing is armed. -/
structure Idle (c : Controller) : Prop where
  holds : c.hydrateRetryTimer = none
  due : c.hydrateRetryDeadline = none
  only : c.timers = []

/-- The page holds the controller's timer and no other, due within the longest delay. -/
structure Armed (c : Controller) (timer : Timer) : Prop where
  holds : c.hydrateRetryTimer = some timer.id
  due : c.hydrateRetryDeadline = some timer.deadline
  only : c.timers = [timer]
  near : timer.deadline ≤ c.now + HYDRATION_RETRY_MAX_DELAY_MS
  alive : c.destroyed = false

def Sound (c : Controller) : Prop := Idle c ∨ ∃ timer, Armed c timer

/-- The clock and the two streaks. -/
structure Streaks where
  now : ℚ
  waits : Nat
  binds : Nat
  deriving DecidableEq

def Controller.streaks (c : Controller) : Streaks :=
  ⟨c.now, c.hydrateRetryAttempt, c.boundVideoAttempt⟩

theorem backedOffDelayMs_le (baseDelayMs : ℚ) (attempt : Nat) :
    backedOffDelayMs baseDelayMs attempt ≤ HYDRATION_RETRY_MAX_DELAY_MS :=
  min_le_right ..

/-- Eight doublings of fifty milliseconds pass ten seconds. -/
theorem backedOffDelayMs_eq {baseDelayMs : ℚ} (base : 50 ≤ baseDelayMs) {attempt : Nat}
    (late : 8 ≤ attempt) : backedOffDelayMs baseDelayMs attempt = HYDRATION_RETRY_MAX_DELAY_MS := by
  apply min_eq_right
  have doubled : (2 : ℚ) ^ 8 ≤ 2 ^ attempt := pow_le_pow_right₀ (by norm_num) late
  have longer : (50 : ℚ) * 2 ^ 8 ≤ baseDelayMs * 2 ^ attempt :=
    mul_le_mul base doubled (by norm_num) (by linarith)
  have longest : HYDRATION_RETRY_MAX_DELAY_MS ≤ 50 * 2 ^ 8 := by
    norm_num [HYDRATION_RETRY_MAX_DELAY_MS]
  exact longest.trans longer

/-! ### The operations -/

theorem idle_clear (sound : Sound c) : Idle (clearHydrationRetryTimer c) := by
  constructor
  · rfl
  · rfl
  · rcases sound with idle | ⟨timer, armed⟩
    · simp [clearHydrationRetryTimer, idle.holds, idle.only]
    · simp [clearHydrationRetryTimer, armed.holds, armed.only]

theorem arm_idle (idle : Idle c) (alive : c.destroyed = false) (baseDelayMs : ℚ) (attempt : Nat) :
    (armHydrationRetry c baseDelayMs attempt).1 = true ∧
      Armed (armHydrationRetry c baseDelayMs attempt).2
        ⟨c.nextTimer, c.now + backedOffDelayMs baseDelayMs attempt⟩ := by
  have free : ¬ (c.destroyed = true ∨ c.hydrateRetryTimer ≠ none) := by
    simp [alive, idle.holds]
  rw [armHydrationRetry, if_neg free]
  refine ⟨rfl, rfl, rfl, ?_, ?_, alive⟩
  · simp [idle.only]
  · exact add_le_add_right (backedOffDelayMs_le ..) _

theorem arm_busy (busy : c.destroyed ∨ c.hydrateRetryTimer ≠ none) (baseDelayMs : ℚ) (attempt : Nat) :
    armHydrationRetry c baseDelayMs attempt = (false, c) :=
  if_pos busy

@[simp] theorem arm_streaks (c : Controller) (baseDelayMs : ℚ) (attempt : Nat) :
    (armHydrationRetry c baseDelayMs attempt).2.streaks = c.streaks := by
  unfold armHydrationRetry
  split <;> rfl

/-- A schedule arms where nothing is armed, and is one more of its streak then. -/
theorem schedule_idle (idle : Idle c) (delayMs : ℚ) :
    scheduleHydrationRetry c delayMs = c ∨
      Armed (scheduleHydrationRetry c delayMs)
          ⟨c.nextTimer, c.now + backedOffDelayMs delayMs c.hydrateRetryAttempt⟩ ∧
        (scheduleHydrationRetry c delayMs).streaks =
          { c.streaks with waits := c.hydrateRetryAttempt + 1 } := by
  by_cases dead : c.destroyed = true
  · left
    rw [scheduleHydrationRetry, arm_busy (.inl dead)]
    rfl
  · right
    obtain ⟨won, armed⟩ := arm_idle idle (Bool.not_eq_true _ ▸ dead) delayMs c.hydrateRetryAttempt
    have kept := arm_streaks c delayMs c.hydrateRetryAttempt
    simp only [Controller.streaks, Streaks.mk.injEq] at kept
    rw [scheduleHydrationRetry]
    simp only [won, if_true]
    refine ⟨⟨armed.holds, armed.due, armed.only, armed.near, armed.alive⟩, ?_⟩
    simp [Controller.streaks, kept]

theorem schedule_armed (armed : Armed c timer) (delayMs : ℚ) :
    scheduleHydrationRetry c delayMs = c := by
  have busy : c.hydrateRetryTimer ≠ none := by rw [armed.holds]; exact Option.some_ne_none _
  rw [scheduleHydrationRetry, arm_busy (.inr busy)]
  rfl

theorem bound_idle (idle : Idle c) : notifyVideoElementBound c = c :=
  if_pos (.inr idle.holds)

/-- A bind is counted; it takes the place of the armed timer where it is sooner. -/
theorem bound_armed (armed : Armed c timer) :
    (timer.deadline ≤ c.now + backedOffDelayMs BOUND_VIDEO_HYDRATION_DELAY_MS c.boundVideoAttempt ∧
        Armed (notifyVideoElementBound c) timer ∧
        (notifyVideoElementBound c).streaks =
          { c.streaks with binds := c.boundVideoAttempt + 1 }) ∨
      ∃ sooner, sooner.deadline =
          c.now + backedOffDelayMs BOUND_VIDEO_HYDRATION_DELAY_MS c.boundVideoAttempt ∧
        sooner.deadline < timer.deadline ∧ Armed (notifyVideoElementBound c) sooner ∧
        (notifyVideoElementBound c).streaks = ⟨c.now, 0, c.boundVideoAttempt + 1⟩ := by
  have ready : ¬ (c.destroyed = true ∨ c.hydrateRetryTimer = none) := by
    simp [armed.alive, armed.holds]
  rw [notifyVideoElementBound, if_neg ready]
  by_cases late : timer.deadline ≤
      c.now + backedOffDelayMs BOUND_VIDEO_HYDRATION_DELAY_MS c.boundVideoAttempt
  · left
    have declined : c.hydrateRetryDeadline.any (· ≤
        c.now + backedOffDelayMs BOUND_VIDEO_HYDRATION_DELAY_MS c.boundVideoAttempt) = true := by
      simp [armed.due, late]
    simp only [preemptHydrationRetry, if_neg ready, declined, if_true, Bool.false_eq_true,
      if_false]
    exact ⟨late, ⟨armed.holds, armed.due, armed.only, armed.near, armed.alive⟩, rfl⟩
  · right
    have wins : ¬ c.hydrateRetryDeadline.any (· ≤
        c.now + backedOffDelayMs BOUND_VIDEO_HYDRATION_DELAY_MS c.boundVideoAttempt) = true := by
      simpa [armed.due] using late
    let counted := { c with boundVideoAttempt := c.boundVideoAttempt + 1 }
    have held : Sound counted :=
      .inr ⟨timer, armed.holds, armed.due, armed.only, armed.near, armed.alive⟩
    obtain ⟨won, again⟩ := arm_idle (idle_clear held) armed.alive BOUND_VIDEO_HYDRATION_DELAY_MS
      c.boundVideoAttempt
    have kept := arm_streaks (clearHydrationRetryTimer counted) BOUND_VIDEO_HYDRATION_DELAY_MS
      c.boundVideoAttempt
    simp only [Controller.streaks, Streaks.mk.injEq] at kept
    refine ⟨⟨c.nextTimer, _⟩, rfl, lt_of_not_ge late, ?_⟩
    simp only [preemptHydrationRetry, if_neg ready, wins, Bool.false_eq_true, if_false]
    simp only [counted] at won again kept
    simp only [won, if_true]
    refine ⟨⟨again.holds, again.due, again.only, again.near, again.alive⟩, ?_⟩
    simp only [Controller.streaks, kept]
    rfl

theorem idle_run (sound : Sound c) : Idle (runHydration c) := by
  unfold runHydration
  split
  · next dead =>
    rcases sound with idle | ⟨timer, armed⟩
    · exact idle
    · exact absurd (armed.alive.symm.trans dead) (by decide)
  · obtain ⟨holds, due, only⟩ := idle_clear sound
    exact ⟨holds, due, only⟩

@[simp] theorem run_streaks (c : Controller) : (runHydration c).streaks = c.streaks := by
  unfold runHydration
  split <;> rfl

/-! ### Steps -/

theorem Armed.passed (armed : Armed c timer) {elapsed : ℚ}
    (stepped : step slack c (.pass elapsed) = some next) :
    next = { c with now := c.now + elapsed } ∧ 0 ≤ elapsed ∧
      next.now ≤ timer.deadline + slack ∧ Armed next timer := by
  simp only [step] at stepped
  split at stepped
  · next passes =>
    cases Option.some.inj stepped
    have here : timer ∈ c.timers := by rw [armed.only]; exact List.mem_singleton_self _
    refine ⟨rfl, passes.1, passes.2 timer here, armed.holds, armed.due, armed.only, ?_,
      armed.alive⟩
    have near := armed.near
    change timer.deadline ≤ c.now + elapsed + _
    linarith only [near, passes.1]
  · cases stepped

theorem Idle.passed (idle : Idle c) {elapsed : ℚ}
    (stepped : step slack c (.pass elapsed) = some next) :
    next = { c with now := c.now + elapsed } ∧ 0 ≤ elapsed ∧ Idle next := by
  simp only [step] at stepped
  split at stepped
  · next passes =>
    cases Option.some.inj stepped
    exact ⟨rfl, passes.1, idle.holds, idle.due, idle.only⟩
  · cases stepped

/-- Only the armed timer fires, and not before it is due. -/
theorem fired (sound : Sound c) {id : Nat} (stepped : step slack c (.fire id) = some next) :
    ∃ timer, Armed c timer ∧ timer.deadline ≤ c.now ∧ Idle next ∧ next.streaks = c.streaks := by
  simp only [step] at stepped
  split at stepped
  · next due =>
    cases Option.some.inj stepped
    obtain ⟨timer, mem, rfl, late⟩ := due
    rcases sound with idle | ⟨held, armed⟩
    · rw [idle.only] at mem
      cases mem
    · rw [armed.only, List.mem_singleton] at mem
      subst mem
      refine ⟨timer, armed, late, ?_, run_streaks _⟩
      apply idle_run
      left
      exact ⟨rfl, rfl, by simp [armed.only]⟩
  · cases stepped

theorem Armed.settled (armed : Armed c timer) (stepped : step slack c .settle = some next) :
    Armed next timer ∧ next.streaks = c.streaks := by
  simp only [step] at stepped
  split at stepped
  · cases stepped
  · cases Option.some.inj stepped
    have going : ¬ (¬ c.destroyed = true ∧ c.hydrateRetryTimer = none) := by
      simp [armed.holds]
    rw [endCycle]
    simp only [if_neg going]
    exact ⟨⟨armed.holds, armed.due, armed.only, armed.near, armed.alive⟩, rfl⟩

theorem Idle.settled (idle : Idle c) (stepped : step slack c .settle = some next) : Idle next := by
  simp only [step] at stepped
  split at stepped
  · cases stepped
  · cases Option.some.inj stepped
    simp only [endCycle]
    split <;> exact ⟨idle.holds, idle.due, idle.only⟩

theorem idle_reset (sound : Sound c) : Idle (resetHydrationRetry c) := by
  obtain ⟨holds, due, only⟩ := idle_clear sound
  exact ⟨holds, due, only⟩

theorem sound_hydrate (sound : Sound c) : Sound (hydrateRoomState c) := by
  unfold hydrateRoomState
  split
  · exact sound
  · exact .inl (idle_run (.inl (idle_reset sound)))

theorem idle_destroy (sound : Sound c) : Idle (destroy c) := by
  constructor
  · rfl
  · rfl
  · rcases sound with idle | ⟨timer, armed⟩
    · simp [destroy, clearHydrationRetryTimer, idle.holds, idle.only]
    · simp [destroy, clearHydrationRetryTimer, armed.holds, armed.only]

/-- While nothing fires the armed timer or takes it away, it is never put off. -/
theorem Armed.waits (armed : Armed c timer) (waits : event.Waits)
    (stepped : step slack c event = some next) :
    ∃ same, Armed next same ∧ same.deadline ≤ timer.deadline ∧
      (next.now ≤ c.now ∨ next.now ≤ timer.deadline + slack) := by
  cases event with
  | pass elapsed =>
    obtain ⟨-, -, prompt, still⟩ := armed.passed stepped
    exact ⟨timer, still, le_rfl, .inr prompt⟩
  | schedule delayMs =>
    cases Option.some.inj stepped
    rw [schedule_armed armed]
    exact ⟨timer, armed, le_rfl, .inl le_rfl⟩
  | bound =>
    cases Option.some.inj stepped
    rcases bound_armed armed with ⟨-, still, kept⟩ | ⟨sooner, -, before, still, kept⟩
    · exact ⟨timer, still, le_rfl, .inl (congrArg Streaks.now kept).le⟩
    · exact ⟨sooner, still, before.le, .inl (congrArg Streaks.now kept).le⟩
  | settle =>
    obtain ⟨still, kept⟩ := armed.settled stepped
    exact ⟨timer, still, le_rfl, .inl (congrArg Streaks.now kept).le⟩
  | fire id => cases waits
  | reset => cases waits
  | hydrate => cases waits
  | destroy => cases waits

theorem sound_step (sound : Sound c) (stepped : step slack c event = some next) : Sound next := by
  rcases sound with idle | ⟨timer, armed⟩
  · cases event with
    | pass elapsed => exact .inl (idle.passed stepped).2.2
    | schedule delayMs =>
      cases Option.some.inj stepped
      rcases schedule_idle idle delayMs with same | ⟨armed, -⟩
      · rw [same]
        exact .inl idle
      · exact .inr ⟨_, armed⟩
    | bound =>
      cases Option.some.inj stepped
      rw [bound_idle idle]
      exact .inl idle
    | settle => exact .inl (idle.settled stepped)
    | fire id =>
      obtain ⟨timer, -, -, free, -⟩ := fired (.inl idle) stepped
      exact .inl free
    | reset =>
      cases Option.some.inj stepped
      exact .inl (idle_reset (.inl idle))
    | hydrate =>
      cases Option.some.inj stepped
      exact sound_hydrate (.inl idle)
    | destroy =>
      cases Option.some.inj stepped
      exact .inl (idle_destroy (.inl idle))
  · have sound : Sound c := .inr ⟨timer, armed⟩
    cases event with
    | fire id =>
      obtain ⟨-, -, -, free, -⟩ := fired sound stepped
      exact .inl free
    | reset =>
      cases Option.some.inj stepped
      exact .inl (idle_reset sound)
    | hydrate =>
      cases Option.some.inj stepped
      exact sound_hydrate sound
    | destroy =>
      cases Option.some.inj stepped
      exact .inl (idle_destroy sound)
    | _ =>
      obtain ⟨same, still, -⟩ := armed.waits (by trivial) stepped
      exact .inr ⟨same, still⟩

theorem sound_run {last : Controller} (sound : Sound c) {events : List Event}
    (ran : run slack c events = some last) : Sound last := by
  induction events generalizing c with
  | nil =>
    cases Option.some.inj ran
    exact sound
  | cons event rest ih =>
    obtain ⟨next, stepped, ran⟩ := run_cons.mp ran
    exact ih (sound_step sound stepped) ran

theorem sound_start : Sound {} := .inl ⟨rfl, rfl, rfl⟩

theorem Sound.timers (sound : Sound c) : c.timers.length ≤ 1 := by
  rcases sound with idle | ⟨timer, armed⟩
  · simp [idle.only]
  · simp [armed.only]

/-- The deadline of a wait only moves closer, and the clock does not pass it. -/
theorem Armed.waiting {last : Controller} (armed : Armed c timer) {events : List Event}
    (waits : ∀ event ∈ events, event.Waits) (ran : run slack c events = some last) {limit : ℚ}
    (due : timer.deadline ≤ limit) (prompt : c.now ≤ limit + slack) :
    ∃ same, Armed last same ∧ same.deadline ≤ timer.deadline ∧ last.now ≤ limit + slack := by
  induction events generalizing c timer with
  | nil =>
    cases Option.some.inj ran
    exact ⟨timer, armed, le_rfl, prompt⟩
  | cons event rest ih =>
    obtain ⟨next, stepped, ran⟩ := run_cons.mp ran
    obtain ⟨same, still, closer, passed⟩ := armed.waits (waits event List.mem_cons_self) stepped
    have now : next.now ≤ limit + slack := by
      rcases passed with stood | prompt'
      · exact stood.trans prompt
      · linarith only [prompt', due]
    have later : ∀ event ∈ rest, event.Waits := fun event mem =>
      waits event (List.mem_cons_of_mem _ mem)
    obtain ⟨final, held, closest, passed⟩ := ih still later ran (closer.trans due) now
    exact ⟨final, held, closest.trans closer, passed⟩

/-! ## The streaks -/

/-- How many retries may still come sooner than the longest delay: eight of each streak, where
a bind that wins starts the other one over. -/
def budget (c : Controller) : Nat := 9 * (8 - c.boundVideoAttempt) + (8 - c.hydrateRetryAttempt)

theorem budget_le (c : Controller) : budget c ≤ 80 := by
  unfold budget
  omega

/-- Whether the armed timer comes sooner than the longest delay after the last hydration. -/
def owed (last : Option ℚ) (c : Controller) : Nat :=
  if ∃ timer ∈ c.timers, ∃ earlier ∈ last,
    timer.deadline < earlier + HYDRATION_RETRY_MAX_DELAY_MS then 1 else 0

theorem owed_le (last : Option ℚ) (c : Controller) : owed last c ≤ 1 := by
  unfold owed
  split <;> omega

theorem owed_idle (idle : Idle c) (last : Option ℚ) : owed last c = 0 := by
  simp [owed, idle.only]

theorem owed_armed {c' : Controller} (armed : Armed c timer) (armed' : Armed c' timer)
    (last : Option ℚ) : owed last c' = owed last c := by
  simp [owed, armed.only, armed'.only]

theorem owed_long (armed : Armed c timer) {last : Option ℚ}
    (long : ∀ earlier ∈ last, earlier + HYDRATION_RETRY_MAX_DELAY_MS ≤ timer.deadline) :
    owed last c = 0 := by
  unfold owed
  rw [if_neg]
  rintro ⟨other, mem, earlier, known, short⟩
  rw [armed.only, List.mem_singleton] at mem
  subst mem
  exact absurd short (not_lt_of_ge (long earlier known))

theorem budget_streaks (same : next.streaks = c.streaks) :
    budget next = budget c := by
  simp only [Controller.streaks, Streaks.mk.injEq] at same
  rw [budget, budget, same.2.1, same.2.2]

/-- A retry that comes sooner is paid for by a streak. -/
theorem spent (sound : Sound c) (fruitless : event.Fruitless c)
    (stepped : step slack c event = some next) (quiet : ∀ id, event ≠ .fire id) {last : Option ℚ}
    (past : ∀ earlier ∈ last, earlier ≤ c.now) :
    budget next + owed last next ≤ budget c + owed last c ∧ c.now ≤ next.now := by
  rcases sound with idle | ⟨timer, armed⟩
  · cases event with
    | pass elapsed =>
      obtain ⟨rfl, forward, free⟩ := idle.passed stepped
      rw [owed_idle free, owed_idle idle]
      exact ⟨le_rfl, le_add_of_nonneg_right forward⟩
    | schedule delayMs =>
      cases Option.some.inj stepped
      rcases schedule_idle idle delayMs with same | ⟨armed, kept⟩
      · rw [same]
        exact ⟨le_rfl, le_rfl⟩
      · simp only [Controller.streaks, Streaks.mk.injEq] at kept
        obtain ⟨now, waits, binds⟩ := kept
        refine ⟨?_, now.ge⟩
        rw [owed_idle idle, budget, budget, waits, binds]
        by_cases late : 8 ≤ c.hydrateRetryAttempt
        · have long : owed last (scheduleHydrationRetry c delayMs) = 0 := by
            apply owed_long armed
            intro earlier known
            rw [backedOffDelayMs_eq fruitless late]
            linarith only [past earlier known]
          omega
        · have once := owed_le last (scheduleHydrationRetry c delayMs)
          omega
    | bound =>
      cases Option.some.inj stepped
      rw [bound_idle idle]
      exact ⟨le_rfl, le_rfl⟩
    | settle => exact absurd idle.holds fruitless
    | fire id => exact absurd rfl (quiet id)
    | reset => cases fruitless
    | hydrate => cases fruitless
    | destroy => cases fruitless
  · cases event with
    | pass elapsed =>
      obtain ⟨rfl, forward, -, still⟩ := armed.passed stepped
      rw [owed_armed armed still]
      exact ⟨le_rfl, le_add_of_nonneg_right forward⟩
    | schedule delayMs =>
      cases Option.some.inj stepped
      rw [schedule_armed armed]
      exact ⟨le_rfl, le_rfl⟩
    | bound =>
      cases Option.some.inj stepped
      rcases bound_armed armed with ⟨-, still, kept⟩ | ⟨sooner, due, before, still, kept⟩
      · simp only [Controller.streaks, Streaks.mk.injEq] at kept
        obtain ⟨now, waits, binds⟩ := kept
        refine ⟨?_, now.ge⟩
        rw [owed_armed armed still, budget, budget, waits, binds]
        omega
      · simp only [Controller.streaks, Streaks.mk.injEq] at kept
        obtain ⟨now, waits, binds⟩ := kept
        refine ⟨?_, now.ge⟩
        have early : c.boundVideoAttempt < 8 := by
          by_contra late
          have longest : backedOffDelayMs BOUND_VIDEO_HYDRATION_DELAY_MS c.boundVideoAttempt =
              HYDRATION_RETRY_MAX_DELAY_MS := backedOffDelayMs_eq le_rfl (not_lt.mp late)
          rw [longest] at due
          linarith only [due, before, armed.near]
        have once := owed_le last (notifyVideoElementBound c)
        rw [budget, budget, waits, binds]
        omega
    | settle =>
      obtain ⟨still, kept⟩ := armed.settled stepped
      rw [owed_armed armed still, budget_streaks kept]
      exact ⟨le_rfl, (congrArg Streaks.now kept).ge⟩
    | fire id => exact absurd rfl (quiet id)
    | reset => cases fruitless
    | hydrate => cases fruitless
    | destroy => cases fruitless

theorem hydrations_cons (stepped : step slack c event = some next) (quiet : ∀ id, event ≠ .fire id)
    (rest : List Event) :
    hydrations slack c (event :: rest) = hydrations slack next rest := by
  cases event with
  | fire id => exact absurd rfl (quiet id)
  | _ => simp only [hydrations, stepped]

/-- The hydrations that come soon after the one before are paid for by the streaks. -/
theorem shortGaps_le {events : List Event} (sound : Sound c) (fruitless : Fruitless slack c events)
    (last : Option ℚ) (past : ∀ earlier ∈ last, earlier ≤ c.now) :
    shortGaps (last.toList ++ hydrations slack c events) ≤ budget c + owed last c := by
  induction events generalizing c last with
  | nil => cases last <;> simp [hydrations, shortGaps]
  | cons event rest ih =>
    cases stepped : step slack c event with
    | none => cases last <;> simp [hydrations, stepped, shortGaps]
    | some next =>
      have later := fruitless.2 next stepped
      have sound' := sound_step sound stepped
      by_cases quiet : ∀ id, event ≠ .fire id
      · obtain ⟨paid, forward⟩ := spent sound fruitless.1 stepped quiet past
        rw [hydrations_cons stepped quiet]
        have past' : ∀ earlier ∈ last, earlier ≤ next.now := fun earlier known =>
          (past earlier known).trans forward
        exact (ih sound' later last past').trans paid
      · push Not at quiet
        obtain ⟨id, rfl⟩ := quiet
        obtain ⟨timer, armed, due, free, kept⟩ := fired sound stepped
        have now : next.now = c.now := congrArg Streaks.now kept
        have rest' := ih sound' later (some c.now) (by simp [now])
        rw [owed_idle free, budget_streaks kept, Option.toList_some] at rest'
        simp only [hydrations, stepped]
        cases last with
        | none => exact rest'.trans (by omega)
        | some earlier =>
          have gap : (if c.now < earlier + HYDRATION_RETRY_MAX_DELAY_MS then 1 else 0) ≤
              owed (some earlier) c := by
            split
            · next short =>
              have soon : timer.deadline < earlier + HYDRATION_RETRY_MAX_DELAY_MS :=
                due.trans_lt short
              simp [owed, armed.only, soon]
            · exact Nat.zero_le _
          change (if c.now < earlier + HYDRATION_RETRY_MAX_DELAY_MS then 1 else 0) +
            shortGaps ([c.now] ++ hydrations slack next rest) ≤ _
          omega

/-- At most one timer is armed. Until it fires or is taken away it is never put off, so a retry
comes within ten seconds of its arming; and of the hydrations of a wait that makes no progress all
but eighty come ten seconds after the one before, however the element binds. -/
theorem hydration_retries_neither_starve_nor_spin {slack : ℚ} (late : 0 ≤ slack)
    {events : List Event} {c : Controller} (ran : run slack {} events = some c) :
    c.timers.length ≤ 1 ∧
    (∀ timer ∈ c.timers, ∀ waits last, (∀ event ∈ waits, event.Waits) →
      run slack c waits = some last →
      ∃ same, last.timers = [same] ∧ same.deadline ≤ timer.deadline) ∧
    (∀ delayMs armed, c.timers = [] → step slack c (.schedule delayMs) = some armed →
      armed.timers ≠ [] → ∀ waits last, (∀ event ∈ waits, event.Waits) →
        run slack armed waits = some last →
        ∃ same, last.timers = [same] ∧
          same.deadline ≤ c.now + HYDRATION_RETRY_MAX_DELAY_MS ∧
          last.now ≤ c.now + HYDRATION_RETRY_MAX_DELAY_MS + slack) ∧
    ∀ later, Fruitless slack c later → shortGaps (hydrations slack c later) ≤ 80 := by
  have sound := sound_run sound_start ran
  refine ⟨sound.timers, ?_, ?_, ?_⟩
  · intro timer mem waits last quiet ran
    rcases sound with idle | ⟨held, armed⟩
    · rw [idle.only] at mem
      cases mem
    · rw [armed.only, List.mem_singleton] at mem
      subst mem
      have prompt : c.now ≤ max timer.deadline (c.now - slack) + slack := by
        linarith only [le_max_right timer.deadline (c.now - slack)]
      obtain ⟨same, still, closer, -⟩ :=
        armed.waiting quiet ran (le_max_left timer.deadline (c.now - slack)) prompt
      exact ⟨same, still.only, closer⟩
  · intro delayMs armed free stepped holds waits last quiet ran
    have idle : Idle c := by
      rcases sound with idle | ⟨held, busy⟩
      · exact idle
      · rw [busy.only] at free
        cases free
    cases Option.some.inj stepped
    rcases schedule_idle idle delayMs with same | ⟨here, kept⟩
    · rw [same] at holds
      exact absurd free holds
    · have now : (scheduleHydrationRetry c delayMs).now = c.now := congrArg Streaks.now kept
      have near := here.near
      rw [now] at near
      have longest : (0 : ℚ) ≤ HYDRATION_RETRY_MAX_DELAY_MS := by
        norm_num [HYDRATION_RETRY_MAX_DELAY_MS]
      obtain ⟨same, still, closer, passed⟩ := here.waiting quiet ran near (by
        rw [now]
        linarith only [longest, late])
      exact ⟨same, still.only, closer.trans near, passed⟩
  · intro later fruitless
    have bounded := shortGaps_le sound fruitless none (by simp)
    rw [Option.toList_none, List.nil_append] at bounded
    have free : owed none c = 0 := by simp [owed]
    have most := budget_le c
    omega

/-- A retry, a bind that comes sooner, the hydration and a retry again. -/
def bindSooner : List Event :=
  [.schedule 350, .bound, .pass 50, .fire 1, .schedule 350, .settle, .pass 350, .fire 2]

theorem hydrations_of_a_late_player :
    (∃ same, (scheduleHydrationRetry {} 350).timers = [same]) ∧
      hydrations 0 {} bindSooner = [50, 400] ∧ shortGaps (hydrations 0 {} bindSooner) ≤ 80 := by
  have laws := hydration_retries_neither_starve_nor_spin le_rfl (run_nil 0 {})
  refine ⟨?_, by decide +kernel, ?_⟩
  · obtain ⟨same, only, -⟩ := laws.2.2.1 350 _ rfl rfl (by decide +kernel) [] _ (by simp) rfl
    exact ⟨same, only⟩
  · exact laws.2.2.2 bindSooner (by decide +kernel)

end BiliSyncPlay.HydrationRetry
