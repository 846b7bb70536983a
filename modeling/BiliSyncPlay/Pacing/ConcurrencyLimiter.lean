import Mathlib.Algebra.GroupWithZero.Nat
import Mathlib.Data.List.Basic
import Mathlib.Logic.Relation

/-!
# The concurrency limiter

A waiting budget for accepted work. A step is one synchronous stretch: a call of `run` up to its
first await, the continuation that starts the work once its slot was granted, or the end of the
work with the release of the slot. Between a grant and its continuation any number of steps may
come.
-/

namespace BiliSyncPlay.ConcurrencyLimiter

inductive Stage where
  /-- In `waiters`. -/
  | waiting
  /-- Its slot is granted; the continuation of `acquire` is still to run. -/
  | granted
  /-- Its work is under way. -/
  | running
  | settled
  deriving DecidableEq

structure Limiter where
  active : Nat := 0
  waiters : List Nat := []
  /-- One for each call of `run`, in the order of the calls. -/
  jobs : List Stage := []
  /-- The jobs that were given a slot, in the order they were. -/
  grants : List Nat := []
  deriving DecidableEq

namespace Limiter

/-- `run` up to where `acquire` resolves or waits. -/
def run (maxConcurrent : Nat) (l : Limiter) : Limiter :=
  if l.active < maxConcurrent then
    { l with
      active := l.active + 1
      jobs := l.jobs ++ [.granted]
      grants := l.grants ++ [l.jobs.length] }
  else
    { l with
      waiters := l.waiters ++ [l.jobs.length]
      jobs := l.jobs ++ [.waiting] }

/-- The continuation of `acquire`. -/
def begin_ (job : Nat) (l : Limiter) : Limiter := { l with jobs := l.jobs.set job .running }

/-- The slot goes to the first waiter, or back to the budget. -/
def release (l : Limiter) : Limiter :=
  match l.waiters with
  | next :: waiters =>
    { l with
      waiters
      jobs := l.jobs.set next .granted
      grants := l.grants ++ [next] }
  | [] => { l with active := l.active - 1 }

/-- The work answered or threw, and `finally` released the slot. -/
def settle (job : Nat) (l : Limiter) : Limiter :=
  release { l with jobs := l.jobs.set job .settled }

end Limiter

/-- A step of a call that is already there. -/
inductive Serve : Limiter → Limiter → Prop where
  | begin_ (l : Limiter) (job : Nat) (granted : l.jobs[job]? = some .granted) :
    Serve l (l.begin_ job)
  | settle (l : Limiter) (job : Nat) (running : l.jobs[job]? = some .running) :
    Serve l (l.settle job)

inductive Step (maxConcurrent : Nat) : Limiter → Limiter → Prop where
  | run (l : Limiter) : Step maxConcurrent l (l.run maxConcurrent)
  | serve {l l' : Limiter} (served : Serve l l') : Step maxConcurrent l l'

def Reachable (maxConcurrent : Nat) : Limiter → Prop :=
  Relation.ReflTransGen (Step maxConcurrent) {}

def Stage.holds : Stage → Bool
  | .granted | .running => true
  | .waiting | .settled => false

/-- The steps a call still has to take, its grant apart. -/
def Stage.due : Stage → Nat
  | .waiting | .granted => 2
  | .running => 1
  | .settled => 0

def Limiter.due (l : Limiter) : Nat := (l.jobs.map Stage.due).sum

/-- So many steps without a new call. -/
inductive Serves : Nat → Limiter → Limiter → Prop where
  | refl (l : Limiter) : Serves 0 l l
  | step {count : Nat} {l l' l'' : Limiter} (served : Serves count l l') (next : Serve l' l'') :
    Serves (count + 1) l l''

/-- The calls that hold a slot. -/
def Limiter.holders (l : Limiter) : Nat := l.jobs.countP Stage.holds

/-! ## What every step keeps -/

/-- The budget counts the holders, calls wait only when all of it is out, and the calls, in their
order, are the grants and then the waiters. -/
structure Limiter.Valid (maxConcurrent : Nat) (l : Limiter) : Prop where
  counted : l.active = l.holders
  bounded : l.active ≤ maxConcurrent
  full : l.waiters ≠ [] → l.active = maxConcurrent
  order : l.grants ++ l.waiters = List.range l.jobs.length
  waiting : ∀ job : Nat, job ∈ l.waiters ↔ l.jobs[job]? = some .waiting

section Steps

variable {maxConcurrent : Nat} {l : Limiter} {job : Nat} {stage : Stage}

theorem countP_set (stage' : Stage) (h : l.jobs[job]? = some stage) :
    (l.jobs.set job stage').countP Stage.holds + (if stage.holds then 1 else 0) =
      l.holders + if stage'.holds then 1 else 0 := by
  obtain ⟨inside, at_job⟩ := List.getElem?_eq_some_iff.mp h
  have positive : stage.holds = true → 0 < l.jobs.countP Stage.holds := by
    intro holds
    apply List.countP_pos_iff.mpr
    exact ⟨stage, List.mem_of_getElem? h, holds⟩
  rw [List.countP_set inside, at_job]
  unfold Limiter.holders
  by_cases holds : stage.holds = true
  · have positive := positive holds
    simp only [holds, ↓reduceIte]
    omega
  · simp only [holds, Bool.false_eq_true, ↓reduceIte]
    omega

theorem valid_run (h : l.Valid maxConcurrent) : (l.run maxConcurrent).Valid maxConcurrent := by
  have fresh : ∀ stage : Stage, l.grants ++ l.waiters ++ [l.jobs.length] =
      List.range (l.jobs ++ [stage]).length := by
    intro stage
    rw [h.order, List.length_append, List.length_singleton, List.range_succ]
  unfold Limiter.run
  split
  · rename_i free
    have none_waits : l.waiters = [] := by
      by_contra waits
      have full := h.full waits
      omega
    refine ⟨?_, free, ?_, ?_, ?_⟩
    · simp [Limiter.holders, h.counted, Stage.holds]
    · simp [none_waits]
    · have fresh := fresh .granted
      simpa [none_waits] using fresh
    · intro job
      rw [h.waiting, List.getElem?_append]
      by_cases inside : job < l.jobs.length
      · simp [inside]
      · simp only [inside, ↓reduceIte]
        have outside : l.jobs[job]? = none := List.getElem?_eq_none (Nat.le_of_not_lt inside)
        by_cases last : job - l.jobs.length = 0 <;> simp [outside, last]
  · rename_i busy
    refine ⟨?_, h.bounded, ?_, ?_, ?_⟩
    · simp [Limiter.holders, h.counted, Stage.holds]
    · intro _
      exact Nat.le_antisymm h.bounded (Nat.le_of_not_lt busy)
    · have fresh := fresh .waiting
      simpa using fresh
    · intro job
      rw [List.mem_append, h.waiting, List.mem_singleton, List.getElem?_append]
      by_cases inside : job < l.jobs.length
      · have other : job ≠ l.jobs.length := Nat.ne_of_lt inside
        simp [inside, other]
      · have outside : l.jobs[job]? = none := List.getElem?_eq_none (Nat.le_of_not_lt inside)
        simp only [outside, inside, ↓reduceIte, List.getElem?_singleton]
        by_cases last : job = l.jobs.length
        · simp [last]
        · have beyond : job - l.jobs.length ≠ 0 := by omega
          simp [last, beyond]

theorem valid_begin (h : l.Valid maxConcurrent) (granted : l.jobs[job]? = some .granted) :
    (l.begin_ job).Valid maxConcurrent := by
  have count := countP_set .running granted
  constructor
  · have counted := h.counted
    simp only [Stage.holds, ↓reduceIte] at count
    simp only [Limiter.begin_]
    unfold Limiter.holders at *
    dsimp only
    omega
  · exact h.bounded
  · exact h.full
  · rw [Limiter.begin_, List.length_set]
    exact h.order
  · intro other
    rw [Limiter.begin_, List.getElem?_set, h.waiting]
    by_cases same : job = other
    · subst same
      rw [granted]
      by_cases inside : job < l.jobs.length <;> simp [inside]
    · simp [same]

/-- The slot of a call that ended goes to the call that waited longest. -/
theorem valid_settle (h : l.Valid maxConcurrent) (running : l.jobs[job]? = some .running) :
    (l.settle job).Valid maxConcurrent := by
  have ended := countP_set .settled running
  simp only [Stage.holds, ↓reduceIte, Bool.false_eq_true] at ended
  have counted := h.counted
  cases waiting : l.waiters with
  | nil =>
    have settled : l.settle job =
        { l with jobs := l.jobs.set job .settled, active := l.active - 1 } := by
      simp [Limiter.settle, Limiter.release, waiting]
    rw [settled]
    constructor
    · unfold Limiter.holders at *
      dsimp only
      omega
    · have bounded := h.bounded
      dsimp only
      omega
    · intro waits
      contradiction
    · rw [List.length_set]
      exact h.order
    · intro other
      have waits := h.waiting other
      rw [List.getElem?_set]
      by_cases same : job = other
      · subst same
        rw [running] at waits
        rw [waits]
        by_cases inside : job < l.jobs.length <;> simp [inside]
      · simpa [same] using waits
  | cons next waiters =>
    have first : l.jobs[next]? = some .waiting := by
      apply (h.waiting next).mp
      simp [waiting]
    have other : job ≠ next := by
      rintro rfl
      simp [running] at first
    have still : (l.jobs.set job .settled)[next]? = some .waiting := by
      rw [List.getElem?_set_ne other, first]
    have handed := countP_set (l := { l with jobs := l.jobs.set job .settled }) .granted still
    simp only [Stage.holds, ↓reduceIte, Bool.false_eq_true] at handed
    have settled : l.settle job =
        { l with
          waiters
          jobs := (l.jobs.set job .settled).set next .granted
          grants := l.grants ++ [next] } := by
      simp [Limiter.settle, Limiter.release, waiting]
    have order := h.order
    rw [waiting] at order
    have once : next ∉ waiters := by
      have nodup := List.nodup_range (n := l.jobs.length)
      rw [← order] at nodup
      have nodup := (List.nodup_append.mp nodup).2.1
      exact (List.nodup_cons.mp nodup).1
    rw [settled]
    constructor
    · unfold Limiter.holders at *
      dsimp only at *
      omega
    · exact h.bounded
    · intro _
      apply h.full
      simp [waiting]
    · simpa using order
    · intro waiter
      have waits := h.waiting waiter
      rw [waiting, List.mem_cons] at waits
      rw [List.getElem?_set, List.getElem?_set]
      by_cases first : next = waiter
      · subst first
        by_cases inside : next < l.jobs.length <;> simp [once, inside]
      · have later : waiter ≠ next := Ne.symm first
        by_cases ended : job = waiter
        · subst ended
          rw [running] at waits
          by_cases inside : job < l.jobs.length <;> simpa [first, later, inside] using waits
        · simpa [first, later, ended] using waits

theorem valid_serve {l' : Limiter} (h : l.Valid maxConcurrent) (served : Serve l l') :
    l'.Valid maxConcurrent := by
  cases served with
  | begin_ job granted => exact valid_begin h granted
  | settle job running => exact valid_settle h running

theorem valid_of_reachable (reached : Reachable maxConcurrent l) : l.Valid maxConcurrent := by
  induction reached with
  | refl => exact ⟨rfl, Nat.zero_le _, fun waits => absurd rfl waits, rfl, by simp⟩
  | tail _ step ih =>
    cases step with
    | run => exact valid_run ih
    | serve served => exact valid_serve ih served

/-- Where no call of the budget can take a step, none is left. -/
theorem settled_of_stuck (positive : 0 < maxConcurrent) (h : l.Valid maxConcurrent)
    (stuck : ∀ l' : Limiter, ¬Serve l l') : ∀ stage ∈ l.jobs, stage = .settled := by
  have none_holds : l.holders = 0 := by
    apply List.countP_eq_zero.mpr
    intro stage stage_mem holds
    obtain ⟨job, at_job⟩ := List.getElem?_of_mem stage_mem
    cases stage with
    | granted => exact stuck _ (.begin_ l job at_job)
    | running => exact stuck _ (.settle l job at_job)
    | waiting => simp [Stage.holds] at holds
    | settled => simp [Stage.holds] at holds
  intro stage stage_mem
  have idle := List.countP_eq_zero.mp none_holds stage stage_mem
  cases stage with
  | settled => rfl
  | granted => simp [Stage.holds] at idle
  | running => simp [Stage.holds] at idle
  | waiting =>
    obtain ⟨job, at_job⟩ := List.getElem?_of_mem stage_mem
    have queued := (h.waiting job).mpr at_job
    have full := h.full (List.ne_nil_of_mem queued)
    have counted := h.counted
    omega

theorem sum_set {stages : List Stage} (stage' : Stage) (h : stages[job]? = some stage) :
    ((stages.set job stage').map Stage.due).sum + stage.due =
      (stages.map Stage.due).sum + stage'.due := by
  induction stages generalizing job with
  | nil => simp at h
  | cons first rest ih =>
    cases job with
    | zero =>
      simp only [List.getElem?_cons_zero, Option.some.injEq] at h
      subst h
      simp only [List.set_cons_zero, List.map_cons, List.sum_cons]
      omega
    | succ job =>
      have rest_due := ih h
      simp only [List.set_cons_succ, List.map_cons, List.sum_cons]
      omega

theorem due_serve {l' : Limiter} (h : l.Valid maxConcurrent) (served : Serve l l') :
    l'.due + 1 = l.due := by
  cases served with
  | begin_ job granted =>
    have begun := sum_set .running granted
    simp only [Stage.due] at begun
    simp only [Limiter.begin_, Limiter.due]
    omega
  | settle job running =>
    have ended := sum_set .settled running
    simp only [Stage.due] at ended
    cases waiting : l.waiters with
    | nil => simpa [Limiter.settle, Limiter.release, waiting, Limiter.due] using ended
    | cons next waiters =>
      have first : l.jobs[next]? = some .waiting := by
        apply (h.waiting next).mp
        simp [waiting]
      have other : job ≠ next := by
        rintro rfl
        simp [running] at first
      rw [← List.getElem?_set_ne other (a := Stage.settled)] at first
      have handed := sum_set .granted first
      simp only [Stage.due] at handed
      simp only [Limiter.settle, Limiter.release, waiting, Limiter.due]
      omega

theorem valid_serves {count : Nat} {l' : Limiter} (h : l.Valid maxConcurrent)
    (served : Serves count l l') : l'.Valid maxConcurrent ∧ l'.due + count = l.due := by
  induction served with
  | refl => exact ⟨h, rfl⟩
  | step _ next ih =>
    obtain ⟨valid, due⟩ := ih h
    have spent := due_serve valid next
    exact ⟨valid_serve valid next, by omega⟩

theorem sum_due_le (stages : List Stage) :
    (stages.map Stage.due).sum ≤ 2 * stages.length := by
  induction stages with
  | nil => simp
  | cons first rest ih =>
    have first_due : first.due ≤ 2 := by cases first <;> decide
    simp only [List.map_cons, List.sum_cons, List.length_cons]
    omega

end Steps

/-- Work never exceeds the budget, slots are granted in the order of the calls, and a call waits
only while the whole budget is out. No slot is lost: without new calls the calls that are there
take at most two steps for each of them, and when none can take one more, all of them have
ended. -/
theorem slots_are_granted_in_order (maxConcurrent : Nat) (positive : 0 < maxConcurrent)
    (l : Limiter) (reached : Reachable maxConcurrent l) :
    l.holders ≤ maxConcurrent ∧
      l.grants ++ l.waiters = List.range l.jobs.length ∧
      (∀ job : Nat, l.jobs[job]? = some .waiting → job ∈ l.waiters ∧ l.holders = maxConcurrent) ∧
      ∀ (count : Nat) (l' : Limiter), Serves count l l' →
        count ≤ 2 * l.jobs.length ∧
          ((∀ l'' : Limiter, ¬Serve l' l'') → ∀ stage ∈ l'.jobs, stage = .settled) := by
  have valid := valid_of_reachable reached
  have counted := valid.counted
  refine ⟨?_, valid.order, ?_, ?_⟩
  · rw [← counted]
    exact valid.bounded
  · intro job waits
    have queued := (valid.waiting job).mpr waits
    refine ⟨queued, ?_⟩
    rw [← counted]
    exact valid.full (List.ne_nil_of_mem queued)
  · intro count l' served
    obtain ⟨valid', due⟩ := valid_serves valid served
    have all : l.due ≤ 2 * l.jobs.length := sum_due_le l.jobs
    exact ⟨by omega, settled_of_stuck positive valid'⟩

/-- Two calls share a budget of one: the second waits, and is granted the slot of the first. -/
theorem second_call_is_granted :
    (({} : Limiter).run 1 |>.run 1 |>.begin_ 0 |>.settle 0).holders ≤ 1 := by
  have first : Reachable 1 (({} : Limiter).run 1) := .single (.run _)
  have second := first.tail (.run _)
  have begun := second.tail (.serve (.begin_ _ 0 (by decide)))
  have settled := begun.tail (.serve (.settle _ 0 (by decide)))
  exact (slots_are_granted_in_order 1 (by decide) _ settled).1

end BiliSyncPlay.ConcurrencyLimiter
