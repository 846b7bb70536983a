import BiliSyncPlay.Lists
import Mathlib.Logic.Relation

/-!
# Maintenance passes

A driver calls `run` on every tick, under a cap that gives up the wait and not the call. A step is
one synchronous stretch: a tick up to where it waits for the call, the call's answer with the
handler hung on the call itself, or what a tick does once `capAttempt` has settled. Between the
answer and the tick that waits for it any number of steps may come.
-/

namespace BiliSyncPlay.MaintenancePass

abbrev CallId := Nat
abbrev TickId := Nat

inductive PassError where
  /-- `MaintenancePassTimeoutError`. -/
  | timeout (name : String) (timeoutMs : Nat)
  | other (message : String)
  deriving DecidableEq

inductive FailureReason where
  | timedOut | runFailed | stalled | overlapped
  deriving DecidableEq

structure Failure where
  reason : FailureReason
  error : PassError
  deriving DecidableEq

structure Options where
  name : String
  timeoutMs : Nat

variable {Value : Type}

/-- What a tick is answered with: a call of `onSuccess` or of `onFailure`. -/
inductive Report (Value : Type) where
  | success (value : Value)
  | failure (failure : Failure)
  deriving DecidableEq

/-- A call of `run`: it threw, or its promise is still to answer, or has. -/
inductive RunCall (Value : Type) where
  | threw (error : PassError)
  | unanswered
  | answered (result : Except PassError Value)

/-- A call of `runNow`, with the call of `run` it made. -/
structure Tick (Value : Type) where
  call : Option CallId := none
  /-- It waits for `capAttempt`. -/
  awaiting : Bool := false
  reports : List (Report Value) := []

structure Pass (Value : Type) where
  runs : List (RunCall Value) := []
  inFlight : Option CallId := none
  inFlightIsStalled : Bool := false
  ticks : List (Tick Value) := []

namespace Pass

/-- `runNow` up to its first await. `thrown`: what `run` throws, if it does. -/
def runNow (options : Options) (thrown : Option PassError) (p : Pass Value) : Pass Value :=
  match p.inFlight with
  | some _ =>
    { p with ticks := p.ticks ++ [{ reports := [.failure
      { reason := if p.inFlightIsStalled then .stalled else .overlapped
        error := .timeout ("The previous " ++ options.name) options.timeoutMs }] }] }
  | none =>
    match thrown with
    | some error =>
      { p with
        runs := p.runs ++ [.threw error]
        ticks := p.ticks ++ [{ reports := [.failure { reason := .runFailed, error }] }] }
    | none =>
      { runs := p.runs ++ [.unanswered]
        inFlight := some p.runs.length
        inFlightIsStalled := false
        ticks := p.ticks ++ [{ call := some p.runs.length, awaiting := true }] }

def release (call : CallId) (p : Pass Value) : Pass Value :=
  if p.inFlight = some call then { p with inFlight := none, inFlightIsStalled := false } else p

/-- The call's promise settles, and `release`, the first handler on it, runs. -/
def answer (call : CallId) (result : Except PassError Value) (p : Pass Value) : Pass Value :=
  release call { p with runs := p.runs.set call (.answered result) }

def report (tick : TickId) (report : Report Value) (p : Pass Value) : Pass Value :=
  { p with ticks := p.ticks.modify tick fun t =>
    { t with awaiting := false, reports := t.reports ++ [report] } }

def markStalled (call : CallId) (p : Pass Value) : Pass Value :=
  if p.inFlight = some call then { p with inFlightIsStalled := true } else p

/-- What `runNow` does with what `capAttempt` came to. -/
def resume (tick : TickId) (call : CallId) (p : Pass Value) : Except PassError Value → Pass Value
  | .ok value => p.report tick (.success value)
  | .error (.timeout name timeoutMs) =>
    (p.markStalled call).report tick
      (.failure { reason := .timedOut, error := .timeout name timeoutMs })
  | .error error => p.report tick (.failure { reason := .runFailed, error })

def Unanswered (p : Pass Value) (call : CallId) : Prop := p.runs[call]? = some .unanswered

/-- The tick waits for its call. -/
def Awaits (p : Pass Value) (tick : TickId) (call : CallId) : Prop :=
  ∃ t, p.ticks[tick]? = some t ∧ t.call = some call ∧ t.awaiting = true

/-- The tick was answered with a failure for this reason. -/
def Failed (p : Pass Value) (tick : TickId) (reason : FailureReason) : Prop :=
  ∃ (t : Tick Value) (error : PassError), p.ticks[tick]? = some t ∧ .failure { reason, error } ∈ t.reports

/-- Some tick that made this call was told it timed out. -/
def TimedOut (p : Pass Value) (call : CallId) : Prop :=
  ∃ (i : TickId) (t : Tick Value) (error : PassError), p.ticks[i]? = some t ∧
    t.call = some call ∧ .failure { reason := .timedOut, error } ∈ t.reports

end Pass

/-- `expire`: the cap's timer beats the call, answered in the meantime or not. -/
inductive Step (options : Options) : Pass Value → Pass Value → Prop where
  | tick (p : Pass Value) (thrown : Option PassError) : Step options p (p.runNow options thrown)
  | answer (p : Pass Value) (call : CallId) (result : Except PassError Value)
      (waits : p.Unanswered call) : Step options p (p.answer call result)
  | resume (p : Pass Value) (tick : TickId) (call : CallId) (result : Except PassError Value)
      (awaits : p.Awaits tick call) (answered : p.runs[call]? = some (.answered result)) :
      Step options p (p.resume tick call result)
  | expire (p : Pass Value) (tick : TickId) (call : CallId) (awaits : p.Awaits tick call) :
      Step options p (p.resume tick call (.error (.timeout options.name options.timeoutMs)))

def Reachable (options : Options) : Pass Value → Prop := Relation.ReflTransGen (Step options) {}

/-! ## What every step keeps -/

def Tick.Sound (t : Tick Value) : Prop := t.reports.length = if t.awaiting then 0 else 1

/-- The slot is held by the one call that is unanswered, and its stall flag says whether the tick
that made the call has given up the wait. -/
structure Pass.Valid (p : Pass Value) : Prop where
  slot : ∀ call, p.Unanswered call ↔ p.inFlight = some call
  flag : ∀ call, p.inFlight = some call →
    if p.inFlightIsStalled then p.TimedOut call else ∃ i, p.Awaits i call
  ticks : ∀ t ∈ p.ticks, t.Sound
  calls : ∀ t ∈ p.ticks, t.awaiting = true → t.call.isSome = true

section Steps

variable {options : Options} {p q : Pass Value}

variable {call : CallId}

theorem unanswered_append {runs : List (RunCall Value)} {run : RunCall Value} :
    (runs ++ [run])[call]? = some .unanswered ↔
      runs[call]? = some .unanswered ∨ call = runs.length ∧ run = .unanswered := by
  rcases Nat.lt_trichotomy call runs.length with below | rfl | above
  · simp [List.getElem?_append_left below, Nat.ne_of_lt below]
  · simp
  · have outside : (runs ++ [run]).length ≤ call := by simpa using Nat.succ_le_of_lt above
    simp [List.getElem?_eq_none outside, List.getElem?_eq_none (Nat.le_of_lt above),
      Nat.ne_of_gt above]

theorem Pass.Awaits.append {i : TickId} (h : p.Awaits i call) (t : Tick Value)
    (ticks : q.ticks = p.ticks ++ [t]) : q.Awaits i call := by
  obtain ⟨own, at_i, rest⟩ := h
  exact ⟨own, by rw [ticks, getElem?_concat_of_some at_i], rest⟩

theorem Pass.TimedOut.append (h : p.TimedOut call) (t : Tick Value)
    (ticks : q.ticks = p.ticks ++ [t]) : q.TimedOut call := by
  obtain ⟨i, own, error, at_i, rest⟩ := h
  exact ⟨i, own, error, by rw [ticks, getElem?_concat_of_some at_i], rest⟩

/-- A tick that is answered in the stretch it starts in, or waits for a call it makes there. -/
theorem Pass.Valid.ticked (valid : p.Valid) {t : Tick Value} (ticks : q.ticks = p.ticks ++ [t])
    (sound : t.Sound) (calls : t.awaiting = true → t.call.isSome = true)
    (slot : ∀ call, q.Unanswered call ↔ q.inFlight = some call)
    (flag : ∀ call, q.inFlight = some call →
      q.inFlight = p.inFlight ∧ q.inFlightIsStalled = p.inFlightIsStalled ∨
        q.inFlightIsStalled = false ∧ t.call = some call ∧ t.awaiting = true) : q.Valid := by
  constructor
  · exact slot
  · intro call held
    rcases flag call held with ⟨same, stalled⟩ | ⟨unstalled, makes, awaiting⟩
    · have before := valid.flag call (same ▸ held)
      rw [stalled]
      split <;> rename_i raised
      · rw [if_pos raised] at before
        exact before.append t ticks
      · rw [if_neg raised] at before
        obtain ⟨i, awaits⟩ := before
        exact ⟨i, awaits.append t ticks⟩
    · rw [unstalled]
      exact ⟨p.ticks.length, t, by simp [ticks], makes, awaiting⟩
  · intro t' mem
    rw [ticks] at mem
    rcases List.mem_append.mp mem with old | new
    · exact valid.ticks t' old
    · obtain rfl := List.mem_singleton.mp new
      exact sound
  · intro t' mem
    rw [ticks] at mem
    rcases List.mem_append.mp mem with old | new
    · exact valid.calls t' old
    · obtain rfl := List.mem_singleton.mp new
      exact calls

theorem Pass.Valid.runNow (valid : p.Valid) (thrown : Option PassError) :
    (p.runNow options thrown).Valid := by
  unfold Pass.runNow
  split
  · exact valid.ticked rfl rfl nofun valid.slot fun _ _ => .inl ⟨rfl, rfl⟩
  · rename_i free
    have none_unanswered : ∀ call, ¬ p.Unanswered call := by
      intro call waits
      have held := (valid.slot call).mp waits
      rw [free] at held
      cases held
    split
    · refine valid.ticked rfl rfl nofun ?_ fun _ _ => .inl ⟨rfl, rfl⟩
      intro call
      simp only [Pass.Unanswered, unanswered_append, free, reduceCtorEq, and_false, or_false]
      exact iff_of_false (none_unanswered call) nofun
    · refine valid.ticked rfl rfl (fun _ => rfl) ?_ ?_
      · intro call
        simp only [Pass.Unanswered, unanswered_append, and_true, Option.some.injEq]
        constructor
        · rintro (waits | rfl)
          · exact absurd waits (none_unanswered call)
          · rfl
        · rintro rfl
          exact .inr rfl
      · intro call held
        exact .inr ⟨rfl, held, rfl⟩

theorem Pass.Valid.answer (valid : p.Valid) (result : Except PassError Value)
    (waits : p.Unanswered call) : (p.answer call result).Valid := by
  have held := (valid.slot call).mp waits
  have freed : p.answer call result = { p with
      runs := p.runs.set call (.answered result), inFlight := none, inFlightIsStalled := false } := by
    simp [Pass.answer, Pass.release, held]
  rw [freed]
  constructor
  · intro other
    refine iff_of_false ?_ nofun
    intro still
    by_cases same : other = call
    · subst same
      have within := (List.getElem?_eq_some_iff.mp waits).1
      simp [Pass.Unanswered, List.getElem?_set_self within] at still
    · rw [Pass.Unanswered, List.getElem?_set_ne (Ne.symm same)] at still
      have also := (valid.slot other).mp still
      rw [held] at also
      exact same (Option.some.inj also).symm
  · nofun
  · exact valid.ticks
  · exact valid.calls

/-- What `resume` comes to: one report, never of a refusal, and the stall flag raised only on the
call that timed out. -/
theorem resume_cases (tick : TickId) (call : CallId) (result : Except PassError Value) :
    ∃ report stalled, p.resume tick call result =
        { p.report tick report with inFlightIsStalled := stalled } ∧
      (∀ failure, report = .failure failure →
        failure.reason = .timedOut ∨ failure.reason = .runFailed) ∧
      (stalled = p.inFlightIsStalled ∧ (p.inFlight = some call →
          ∀ name ms, result ≠ .error (.timeout name ms)) ∨
        p.inFlight = some call ∧ stalled = true ∧
          ∃ error, report = .failure { reason := .timedOut, error }) := by
  cases result with
  | ok value => exact ⟨.success value, _, rfl, nofun, .inl ⟨rfl, nofun⟩⟩
  | error error =>
    cases error with
    | other message =>
      refine ⟨.failure ⟨.runFailed, .other message⟩, _, rfl, ?_, .inl ⟨rfl, nofun⟩⟩
      rintro failure ⟨⟩
      exact .inr rfl
    | timeout name ms =>
      by_cases held : p.inFlight = some call
      · refine ⟨.failure ⟨.timedOut, .timeout name ms⟩, true, ?_, ?_, .inr ⟨held, rfl, _, rfl⟩⟩
        · simp [Pass.resume, Pass.markStalled, held, Pass.report]
        · rintro failure ⟨⟩
          exact .inl rfl
      · refine ⟨.failure ⟨.timedOut, .timeout name ms⟩, p.inFlightIsStalled, ?_, ?_,
          .inl ⟨rfl, fun own => absurd own held⟩⟩
        · simp [Pass.resume, Pass.markStalled, held, Pass.report]
        · rintro failure ⟨⟩
          exact .inl rfl

theorem report_ticks (tick i : TickId) (r : Report Value) :
    (p.report tick r).ticks[i]? = p.ticks[i]?.map fun t =>
      if tick = i then { t with awaiting := false, reports := t.reports ++ [r] } else t := by
  simp only [Pass.report, List.getElem?_modify]
  split <;> rfl

theorem Pass.Awaits.report {tick i : TickId} (h : p.Awaits i call) (other : tick ≠ i)
    (r : Report Value) : (p.report tick r).Awaits i call := by
  obtain ⟨t, at_i, rest⟩ := h
  exact ⟨t, by simp [report_ticks, at_i, other], rest⟩

theorem Pass.TimedOut.report (h : p.TimedOut call) (tick : TickId) (r : Report Value) :
    (p.report tick r).TimedOut call := by
  obtain ⟨i, t, error, at_i, makes, told⟩ := h
  by_cases same : tick = i
  · exact ⟨i, { t with awaiting := false, reports := t.reports ++ [r] }, error,
      by simp [report_ticks, at_i, same], makes, List.mem_append_left _ told⟩
  · exact ⟨i, t, error, by simp [report_ticks, at_i, same], makes, told⟩

theorem Pass.Valid.report (valid : p.Valid) {tick : TickId} (awaits : p.Awaits tick call)
    (r : Report Value) :
    (∀ t ∈ (p.report tick r).ticks, t.Sound) ∧
      ∀ t ∈ (p.report tick r).ticks, t.awaiting = true → t.call.isSome = true := by
  obtain ⟨own, at_tick, -, awaiting⟩ := awaits
  have none_yet : own.reports.length = 0 := by
    simpa [Tick.Sound, awaiting] using valid.ticks own (List.mem_of_getElem? at_tick)
  constructor <;> intro t mem <;> obtain ⟨i, at_i⟩ := List.mem_iff_getElem?.mp mem <;>
    rw [report_ticks] at at_i
  · by_cases same : tick = i
    · subst same
      simp only [at_tick, Option.map_some, if_true, Option.some.injEq] at at_i
      subst at_i
      simp [Tick.Sound, none_yet]
    · simp only [same, if_false, Option.map_id'] at at_i
      exact valid.ticks t (List.mem_of_getElem? at_i)
  · by_cases same : tick = i
    · subst same
      simp only [at_tick, Option.map_some, if_true, Option.some.injEq] at at_i
      subst at_i
      exact nofun
    · simp only [same, if_false, Option.map_id'] at at_i
      exact valid.calls t (List.mem_of_getElem? at_i)

/-- A tick is answered: by the call, which no longer holds the slot, or by the cap. -/
theorem Pass.Valid.resume (valid : p.Valid) {tick : TickId} {result : Except PassError Value}
    (awaits : p.Awaits tick call)
    (ended : p.inFlight = some call → ∃ name ms, result = .error (.timeout name ms)) :
    (p.resume tick call result).Valid := by
  obtain ⟨r, stalled, eq, -, raised⟩ := resume_cases (p := p) tick call result
  obtain ⟨sound, calls⟩ := valid.report awaits r
  rw [eq]
  refine ⟨valid.slot, ?_, sound, calls⟩
  intro other held
  change p.inFlight = some other at held
  rcases raised with ⟨rfl, spared⟩ | ⟨own, rfl, error, rfl⟩
  · have before := valid.flag other held
    change if p.inFlightIsStalled = true then _ else _
    split <;> rename_i flagged
    · rw [if_pos flagged] at before
      exact before.report tick r
    · rw [if_neg flagged] at before
      obtain ⟨i, waits⟩ := before
      have apart : tick ≠ i := by
        rintro rfl
        obtain ⟨t, at_t, makes, -⟩ := waits
        obtain ⟨t', at_t', makes', -⟩ := awaits
        cases at_t.symm.trans at_t'
        obtain rfl := Option.some.inj (makes.symm.trans makes')
        obtain ⟨name, ms, timeout⟩ := ended held
        exact spared held name ms timeout
      exact ⟨i, waits.report apart r⟩
  · obtain rfl := Option.some.inj (own.symm.trans held)
    obtain ⟨t, at_t, makes, -⟩ := awaits
    refine ⟨tick, { t with awaiting := false, reports := t.reports ++ [_] }, error, ?_, makes,
      List.mem_append_right _ List.mem_cons_self⟩
    change (Pass.report ..).ticks[tick]? = _
    simp [report_ticks, at_t]

theorem step_valid (h : Step options p q) (valid : p.Valid) : q.Valid := by
  cases h with
  | tick thrown => exact valid.runNow thrown
  | answer call result waits => exact valid.answer result waits
  | resume tick call result awaits answered =>
    apply valid.resume awaits
    intro held
    have waits := (valid.slot call).mpr held
    rw [Pass.Unanswered, answered] at waits
    cases waits
  | expire tick call awaits => exact valid.resume awaits fun _ => ⟨_, _, rfl⟩

theorem reachable_valid (h : Reachable options p) : p.Valid := by
  induction h with
  | refl => exact ⟨fun _ => by simp [Pass.Unanswered], nofun, nofun, nofun⟩
  | tail _ step ih => exact step_valid step ih

/-- A refusal that was not there before is that of a tick that found the slot taken. -/
theorem step_refused (h : Step options p q) {i : TickId} {reason : FailureReason}
    (told : q.Failed i reason) (new : ¬ p.Failed i reason)
    (refusal : reason = .stalled ∨ reason = .overlapped) :
    ∃ call, p.inFlight = some call ∧
      reason = if p.inFlightIsStalled then .stalled else .overlapped := by
  obtain ⟨t, error, at_i, mem⟩ := told
  have resumed : ∀ tick call result, q = p.resume tick call result → False := by
    rintro tick call result rfl
    obtain ⟨r, stalled, eq, answers, -⟩ := resume_cases (p := p) tick call result
    rw [eq] at at_i
    change (p.report tick r).ticks[i]? = _ at at_i
    rw [report_ticks, Option.map_eq_some_iff] at at_i
    obtain ⟨old, at_old, rfl⟩ := at_i
    have before : .failure { reason, error } ∉ old.reports := fun was => new ⟨old, error, at_old, was⟩
    split at mem
    · rcases List.mem_append.mp mem with was | now
      · exact before was
      · rcases answers _ (List.mem_singleton.mp now).symm with rfl | rfl <;>
          rcases refusal with h | h <;> cases h
    · exact before mem
  cases h with
  | answer call result waits =>
    refine absurd ⟨t, error, ?_, mem⟩ new
    unfold Pass.answer Pass.release at at_i
    split at at_i <;> exact at_i
  | resume tick call result => exact (resumed tick call result rfl).elim
  | expire tick call => exact (resumed tick call _ rfl).elim
  | tick thrown =>
    have appended : ∀ t', (p.ticks ++ [t'])[i]? = some t → t = t' := by
      intro t' at_i
      rcases getElem?_concat_cases at_i with ⟨-, same⟩ | ⟨-, old⟩
      · exact same
      · exact absurd ⟨t, error, old, mem⟩ new
    unfold Pass.runNow at at_i
    split at at_i
    · rename_i call held
      obtain rfl := appended _ at_i
      obtain ⟨same, -⟩ := Failure.mk.inj (Report.failure.inj (List.mem_singleton.mp mem))
      exact ⟨call, held, same⟩
    · split at at_i
      · obtain rfl := appended _ at_i
        obtain ⟨rfl, -⟩ := Failure.mk.inj (Report.failure.inj (List.mem_singleton.mp mem))
        rcases refusal with h | h <;> cases h
      · obtain rfl := appended _ at_i
        cases mem

end Steps

/-! ## The pass -/

variable {options : Options}

/-- At most one call of `run` is unanswered; a tick is answered once, unless it waits, and then the
cap can still answer it; `stalled` is said only while a call is unanswered whose tick timed out,
`overlapped` only while one is whose tick waits; and with no call unanswered a tick runs. -/
theorem passes_never_overlap {p : Pass Value} (h : Reachable options p) :
    (∀ c d, p.Unanswered c → p.Unanswered d → c = d) ∧
    (∀ t ∈ p.ticks, t.reports.length = if t.awaiting then 0 else 1) ∧
    (∀ (i : TickId) (t : Tick Value), p.ticks[i]? = some t → t.awaiting = true →
      ∃ q r, Step options p q ∧ q.ticks[i]? = some { t with awaiting := false, reports := [r] }) ∧
    (∀ q, Step options p q →
      (∀ i, q.Failed i .stalled → ¬ p.Failed i .stalled → ∃ c, p.Unanswered c ∧ p.TimedOut c) ∧
      (∀ i, q.Failed i .overlapped → ¬ p.Failed i .overlapped →
        ∃ c j, p.Unanswered c ∧ p.Awaits j c)) ∧
    ((∀ c, ¬ p.Unanswered c) → ∀ thrown, (p.runNow options thrown).runs =
      p.runs ++ [match thrown with | some error => .threw error | none => .unanswered]) := by
  have valid := reachable_valid h
  refine ⟨?_, valid.ticks, ?_, ?_, ?_⟩
  · intro c d waits waits'
    have held := (valid.slot c).mp waits
    rw [(valid.slot d).mp waits'] at held
    exact (Option.some.inj held).symm
  · intro i t at_i awaiting
    obtain ⟨call, makes⟩ := Option.isSome_iff_exists.mp
      (valid.calls t (List.mem_of_getElem? at_i) awaiting)
    have none_yet : t.reports = [] := by
      have := valid.ticks t (List.mem_of_getElem? at_i)
      simpa [Tick.Sound, awaiting] using this
    obtain ⟨r, stalled, eq, -⟩ := resume_cases (p := p) i call
      (.error (.timeout options.name options.timeoutMs))
    refine ⟨_, r, .expire p i call ⟨t, at_i, makes, awaiting⟩, ?_⟩
    rw [eq]
    change (p.report i r).ticks[i]? = _
    simp [report_ticks, at_i, none_yet]
  · intro q step
    constructor <;> intro i told new
    · obtain ⟨call, held, which⟩ := step_refused step told new (.inl rfl)
      have flag := valid.flag call held
      cases raised : p.inFlightIsStalled with
      | true =>
        rw [if_pos raised] at flag
        exact ⟨call, (valid.slot call).mpr held, flag⟩
      | false => simp [raised] at which
    · obtain ⟨call, held, which⟩ := step_refused step told new (.inr rfl)
      have flag := valid.flag call held
      cases raised : p.inFlightIsStalled with
      | true => simp [raised] at which
      | false =>
        rw [raised, if_neg Bool.false_ne_true] at flag
        obtain ⟨j, waits⟩ := flag
        exact ⟨call, j, (valid.slot call).mpr held, waits⟩
  · intro idle thrown
    have free : p.inFlight = none := by
      cases held : p.inFlight with
      | none => rfl
      | some call => exact absurd ((valid.slot call).mpr held) (idle call)
    cases thrown <;> simp [Pass.runNow, free]

/-- A sweep that outlives its cap: the tick after it finds it stalled. -/
theorem passes_never_overlap_stalled :
    let options : Options := { name := "room expiry sweep", timeoutMs := 30000 }
    let p := (Pass.runNow options none ({} : Pass Nat)).resume 0 0
      (.error (.timeout options.name options.timeoutMs))
    (p.runNow options none).Failed 1 .stalled ∧ ∃ c, p.Unanswered c ∧ p.TimedOut c := by
  intro options p
  have reached : Reachable options p :=
    (Relation.ReflTransGen.single (.tick _ none)).tail (.expire _ 0 0 ⟨_, rfl, rfl, rfl⟩)
  have told : (p.runNow options none).Failed 1 .stalled := ⟨_, _, rfl, List.mem_cons_self⟩
  refine ⟨told, ((passes_never_overlap reached).2.2.2.1 _ (.tick p none)).1 1 told ?_⟩
  rintro ⟨t, error, at_one, -⟩
  cases at_one

end BiliSyncPlay.MaintenancePass
