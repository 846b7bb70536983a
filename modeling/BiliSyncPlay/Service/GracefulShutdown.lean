import BiliSyncPlay.OrderedDrain
import Mathlib.Logic.Relation
import Mathlib.Algebra.GroupWithZero.Nat
import Mathlib.Algebra.Order.BigOperators.Group.List
import Mathlib.Data.Nat.Find

/-!
# Stopping a server

`installGracefulShutdown` with `runShutdownSteps` as the teardown it calls: signals, the end of
startup, the steps of the teardown and the timers, in any order. Times are in milliseconds.
-/

namespace BiliSyncPlay.GracefulShutdown

def DEFAULT_CLOSE_STEP_TIMEOUT_MS : Nat := 5000

inductive Signal where
  | SIGTERM
  | SIGINT
  deriving DecidableEq

structure ShutdownStep where
  name : String
  timeoutMs : Option Nat := none
  /-- A timer waits no longer. -/
  timeoutMs_le : timeoutMs.all (· ≤ OrderedDrain.MAX_TIMER_INTERVAL_MS) = true := by decide
  deriving DecidableEq

def ShutdownStep.cap (step : ShutdownStep) : Nat :=
  step.timeoutMs.getD DEFAULT_CLOSE_STEP_TIMEOUT_MS

inductive FailureResult where
  | timeout
  | error
  deriving DecidableEq

structure ShutdownStepFailure where
  step : String
  result : FailureResult
  error : String
  deriving DecidableEq

/-- What a step may throw: an `Error` with its message, or something else with its text. -/
structure Thrown where
  isError : Bool
  text : String

def timeoutMessage (step : ShutdownStep) : String := "Shutdown step timed out: " ++ step.name ++ "."

/-- A step that throws what the timer would have thrown counts as timed out. -/
def failureOf (step : ShutdownStep) (thrown : Thrown) : ShutdownStepFailure where
  step := step.name
  result := if thrown.isError = true ∧ thrown.text = timeoutMessage step then .timeout else .error
  error := thrown.text

inductive WatchdogKind where
  | startupAbort
  | forceExit
  deriving DecidableEq

structure Watchdog where
  kind : WatchdogKind
  deadline : Nat
  deriving DecidableEq

/-- How `exit` came to be called. -/
inductive Ending where
  | completed
  /-- `close` rejected. -/
  | rejected
  | secondSignal
  | timedOut (kind : WatchdogKind)
  deriving DecidableEq

/-- `runShutdownSteps` between two of its awaits. -/
structure Teardown where
  steps : List ShutdownStep
  /-- The steps that have been called; the last of them is waited for. -/
  begun : Nat
  failures : List ShutdownStepFailure
  deadline : Nat
  deriving DecidableEq

structure Config where
  forceExitTimeoutMs : Nat := 150000
  startupAbortTimeoutMs : Nat := 5000
  forceExitTimeoutMs_le : forceExitTimeoutMs ≤ OrderedDrain.MAX_TIMER_INTERVAL_MS := by decide
  startupAbortTimeoutMs_le : startupAbortTimeoutMs ≤ OrderedDrain.MAX_TIMER_INTERVAL_MS := by decide

structure Process where
  now : Nat := 0
  closeTarget : Option (List ShutdownStep) := none
  shuttingDown : Bool := false
  pendingStartupSignal : Option Signal := none
  watchdog : Option Watchdog := none
  /-- The signal handlers are installed. -/
  listening : Bool := true
  teardown : Option Teardown := none
  exitCode : Option Nat := none
  ended : Option Ending := none
  closeCalls : Nat := 0
  signalledAt : Nat := 0
  closedAt : Nat := 0
  deriving DecidableEq

namespace Process

def finish (ending : Ending) (code : Nat) (p : Process) : Process :=
  { p with watchdog := none, listening := false, ended := some ending, exitCode := some code }

/-- A step that ran out of its budget is logged, but does not fail the shutdown. -/
def exitCodeOf (failures : List ShutdownStepFailure) : Nat :=
  if failures.any fun failure => decide (failure.result = .error) then 1 else 0

/-- The head of the loop over the steps. -/
def runNext (t : Teardown) (p : Process) : Process :=
  match t.steps[t.begun]? with
  | some step =>
    { p with teardown := some { t with begun := t.begun + 1, deadline := p.now + step.cap } }
  | none => { p with teardown := some t }.finish .completed (exitCodeOf t.failures)

def runShutdown (steps : List ShutdownStep) (p : Process) : Process :=
  { p with closeCalls := p.closeCalls + 1, closedAt := p.now }.runNext ⟨steps, 0, [], p.now⟩

section Handlers

variable (config : Config)

def armForceExitWatchdog (p : Process) : Process :=
  { p with watchdog := some ⟨.forceExit, p.now + config.forceExitTimeoutMs⟩ }

def handleSignal (signal : Signal) (p : Process) : Process :=
  if p.shuttingDown then p.finish .secondSignal 1
  else
    let p := { p with shuttingDown := true, signalledAt := p.now }
    match p.closeTarget with
    | none =>
      { p with
        pendingStartupSignal := some signal
        watchdog := some ⟨.startupAbort, p.now + config.startupAbortTimeoutMs⟩ }
    | some close => (p.armForceExitWatchdog config).runShutdown close

/-- Whether the server may go on to listen, and the process after. -/
def attachCloseTarget (close : List ShutdownStep) (p : Process) : Bool × Process :=
  let p := { p with closeTarget := some close }
  match p.pendingStartupSignal with
  | none => (true, p)
  | some _ =>
    (false, ({ p with pendingStartupSignal := none }.armForceExitWatchdog config).runShutdown close)

end Handlers

end Process

section Steps

variable (config : Config) (steps : List ShutdownStep)

/-- What happens to a process that has not exited. -/
inductive Step : Process → Process → Prop where
  | signal (p : Process) (signal : Signal) (alive : p.ended = none)
    (listening : p.listening = true) : Step p (p.handleSignal config signal)
  | attach (p : Process) (alive : p.ended = none) : Step p (p.attachCloseTarget config steps).2
  /-- The step that is waited for resolves. -/
  | resolved (p : Process) (t : Teardown) (alive : p.ended = none)
    (running : p.teardown = some t) : Step p (p.runNext t)
  | threw (p : Process) (t : Teardown) (step : ShutdownStep) (thrown : Thrown)
    (alive : p.ended = none) (running : p.teardown = some t)
    (current : t.steps[t.begun - 1]? = some step) :
    Step p (p.runNext { t with failures := t.failures ++ [failureOf step thrown] })
  | overran (p : Process) (t : Teardown) (step : ShutdownStep) (alive : p.ended = none)
    (running : p.teardown = some t) (current : t.steps[t.begun - 1]? = some step)
    (due : t.deadline ≤ p.now) :
    Step p (p.runNext
      { t with failures := t.failures ++ [failureOf step ⟨true, timeoutMessage step⟩] })
  /-- `close` rejects. -/
  | rejected (p : Process) (t : Teardown) (alive : p.ended = none)
    (running : p.teardown = some t) : Step p (p.finish .rejected 1)
  | watchdog (p : Process) (watchdog : Watchdog) (alive : p.ended = none)
    (armed : p.watchdog = some watchdog) (due : watchdog.deadline ≤ p.now) :
    Step p (p.finish (.timedOut watchdog.kind) 1)
  | tick (p : Process) (now : Nat) (alive : p.ended = none) (later : p.now ≤ now) :
    Step p { p with now }

/-- Handlers have just been installed, before startup or with the server already there. -/
inductive Installed : Process → Prop where
  | starting (now : Nat) : Installed { now }
  | started (now : Nat) : Installed { now, closeTarget := some steps }

def Reachable (p : Process) : Prop :=
  ∃ p₀, Installed steps p₀ ∧ Relation.ReflTransGen (Step config steps) p₀ p

/-- The clock does not run past a timer that is armed. -/
def OnTime (p p' : Process) : Prop :=
  p'.now = p.now ∨ (∀ t, p.teardown = some t → p'.now ≤ t.deadline) ∧
    ∀ watchdog, p.watchdog = some watchdog → p'.now ≤ watchdog.deadline

/-- Runs whose timers are on time. -/
def Punctual (p : Process) : Prop :=
  ∃ p₀, Installed steps p₀ ∧
    Relation.ReflTransGen (fun p p' => Step config steps p p' ∧ OnTime p p') p₀ p

end Steps

/-! ## The steps of the server -/

def createSharedServerShutdownSteps (runtimeStoreStepName : Option String) : List ShutdownStep :=
  [{ name := "stop_room_index_reconciler" }, { name := "close_admin_action_service" },
    { name := "close_room_service" }, { name := "close_room_store" }] ++
  (runtimeStoreStepName.toList.map fun name =>
    { name, timeoutMs := some (DEFAULT_CLOSE_STEP_TIMEOUT_MS * 3) }) ++
  [{ name := "close_admin_command_bus" }, { name := "close_room_event_bus" },
    { name := "close_admin_services" }, { name := "close_event_store" }]

/-- The steps of `createSyncServer`, with or without a server for metrics and a shared store. -/
def serverShutdownSteps (metricsHttpServer sharedRuntimeStore : Bool) : List ShutdownStep :=
  [{ name := "stop_room_reaper" }, { name := "stop_node_heartbeat" },
    { name := "stop_announcement_broadcaster" },
    { name := "stop_runtime_index_reaper", timeoutMs := some 10000 },
    { name := "stop_ws_heartbeat" }, { name := "close_ws_clients" },
    { name := "close_network_servers" }] ++
  (if metricsHttpServer then [{ name := "close_metrics_http_server" }] else []) ++
  [{ name := "await_pending_session_cleanup", timeoutMs := some 30000 },
    { name := "flush_pending_room_event_publishes", timeoutMs := some 30000 },
    { name := "close_admin_command_consumer" }, { name := "close_room_event_consumer" }] ++
  createSharedServerShutdownSteps
    (if sharedRuntimeStore then some "close_shared_runtime_store" else none)

/-- The steps of the global admin server. -/
def globalAdminShutdownSteps (metricsHttpServer : Bool) : List ShutdownStep :=
  [{ name := "close_http_server" }] ++
  (if metricsHttpServer then [{ name := "close_http_server" }] else []) ++
  [{ name := "stop_runtime_index_reaper", timeoutMs := some 10000 }] ++
  createSharedServerShutdownSteps (some "close_runtime_store")

/-- The longest a teardown may take when every step keeps to its budget. -/
def budget (steps : List ShutdownStep) : Nat := (steps.map ShutdownStep.cap).sum

/-! ## Where a process may be -/

/-- The steps before the one that is waited for have been called, and what failed is among them. -/
structure Teardown.Ordered (steps : List ShutdownStep) (behind : Nat) (t : Teardown) : Prop where
  own : t.steps = steps
  size : t.begun ≤ steps.length
  failed : (t.failures.map ShutdownStepFailure.step).Sublist
    ((steps.take behind).map ShutdownStep.name)

inductive Mode (config : Config) (steps : List ShutdownStep) : Process → Prop where
  | idle (p : Process) (calm : p.shuttingDown = false) (alive : p.ended = none)
    (code : p.exitCode = none) (unarmed : p.watchdog = none) (unasked : p.teardown = none)
    (calls : p.closeCalls = 0) (unsignalled : p.pendingStartupSignal = none)
    (target : p.closeTarget = none ∨ p.closeTarget = some steps) : Mode config steps p
  | starting (p : Process) (stopping : p.shuttingDown = true) (alive : p.ended = none)
    (code : p.exitCode = none)
    (armed : p.watchdog = some ⟨.startupAbort, p.signalledAt + config.startupAbortTimeoutMs⟩)
    (unasked : p.teardown = none) (calls : p.closeCalls = 0)
    (signalled : p.pendingStartupSignal.isSome = true) (target : p.closeTarget = none) :
    Mode config steps p
  | closing (p : Process) (t : Teardown) (stopping : p.shuttingDown = true)
    (alive : p.ended = none) (code : p.exitCode = none)
    (armed : p.watchdog = some ⟨.forceExit, p.closedAt + config.forceExitTimeoutMs⟩)
    (running : p.teardown = some t) (calls : p.closeCalls = 1)
    (unsignalled : p.pendingStartupSignal = none) (target : p.closeTarget = some steps)
    (positive : 0 < t.begun) (ordered : t.Ordered steps (t.begun - 1)) : Mode config steps p
  | exited (p : Process) (ending : Ending) (code : Nat) (ended : p.ended = some ending)
    (exits : p.exitCode = some code) (calls : p.closeCalls ≤ 1)
    (ordered : ∀ t, p.teardown = some t → t.Ordered steps t.begun)
    (forced : ending ≠ .completed → code = 1)
    (complete : ending = .completed → ∃ t, p.teardown = some t ∧ t.begun = steps.length ∧
      code = Process.exitCodeOf t.failures) : Mode config steps p

variable {t : Teardown}

section Modes

variable {config : Config} {steps : List ShutdownStep} {p p' : Process}

theorem Teardown.Ordered.all (h : t.Ordered steps (t.begun - 1)) :
    t.Ordered steps t.begun := by
  refine ⟨h.own, h.size, h.failed.trans ?_⟩
  apply List.Sublist.map
  exact (List.take_sublist_take_left (by omega))

/-- The step that is waited for fails. -/
theorem Teardown.Ordered.fail (h : t.Ordered steps (t.begun - 1)) (positive : 0 < t.begun)
    {step : ShutdownStep} (current : t.steps[t.begun - 1]? = some step) (thrown : Thrown) :
    Teardown.Ordered steps t.begun
      { t with failures := t.failures ++ [failureOf step thrown] } := by
  refine ⟨h.own, h.size, ?_⟩
  rw [h.own] at current
  have last : steps.take t.begun = steps.take (t.begun - 1) ++ [step] := by
    have next : t.begun = t.begun - 1 + 1 := by omega
    conv_lhs => rw [next, List.take_add_one, current]
    rfl
  rw [last, List.map_append, List.map_append]
  exact h.failed.append (List.Sublist.refl _)

theorem mode_runNext (stopping : p.shuttingDown = true) (alive : p.ended = none)
    (code : p.exitCode = none)
    (armed : p.watchdog = some ⟨.forceExit, p.closedAt + config.forceExitTimeoutMs⟩)
    (calls : p.closeCalls = 1) (unsignalled : p.pendingStartupSignal = none)
    (target : p.closeTarget = some steps) (ordered : t.Ordered steps t.begun) :
    Mode config steps (p.runNext t) := by
  unfold Process.runNext
  cases current : t.steps[t.begun]? with
  | some step =>
    have inside := (List.getElem?_eq_some_iff.mp current).1
    rw [ordered.own] at inside
    exact .closing _ { t with begun := t.begun + 1, deadline := p.now + step.cap } stopping alive
      code armed rfl calls unsignalled target (Nat.succ_pos _) ⟨ordered.own, inside, ordered.failed⟩
  | none =>
    have outside := List.getElem?_eq_none_iff.mp current
    rw [ordered.own] at outside
    have all : t.begun = steps.length := Nat.le_antisymm ordered.size outside
    refine .exited _ .completed _ rfl rfl calls.le ?_ (by simp) fun _ => ⟨t, rfl, all, rfl⟩
    intro other same
    cases same
    exact ordered

theorem mode_runShutdown (stopping : p.shuttingDown = true) (alive : p.ended = none)
    (code : p.exitCode = none) (calls : p.closeCalls = 0)
    (unsignalled : p.pendingStartupSignal = none) (target : p.closeTarget = some steps) :
    Mode config steps ((p.armForceExitWatchdog config).runShutdown steps) := by
  have once : p.closeCalls + 1 = 1 := by rw [calls]
  exact mode_runNext
    (p := { p.armForceExitWatchdog config with closeCalls := p.closeCalls + 1, closedAt := p.now })
    stopping alive code rfl once unsignalled target ⟨rfl, Nat.zero_le _, by simp⟩

section
variable (mode : Mode config steps p)
include mode

theorem Mode.finish {ending : Ending} (alive : p.ended = none) (forced : ending ≠ .completed) :
    Mode config steps (p.finish ending 1) := by
  cases mode with
  | idle calm alive code unarmed unasked calls unsignalled target =>
    refine .exited _ ending 1 rfl rfl (by simp [Process.finish, calls]) ?_ (fun _ => rfl)
      fun own => absurd own forced
    simp [Process.finish, unasked]
  | starting stopping alive code armed unasked calls signalled target =>
    refine .exited _ ending 1 rfl rfl (by simp [Process.finish, calls]) ?_ (fun _ => rfl)
      fun own => absurd own forced
    simp [Process.finish, unasked]
  | closing t stopping alive code armed running calls unsignalled target positive ordered =>
    refine .exited _ ending 1 rfl rfl (by simp [Process.finish, calls]) ?_ (fun _ => rfl)
      fun own => absurd own forced
    intro other same
    simp only [Process.finish, running, Option.some.injEq] at same
    exact same ▸ ordered.all
  | exited ending code ended => simp [ended] at alive

theorem Mode.handleSignal (alive : p.ended = none) (signal : Signal) :
    Mode config steps (p.handleSignal config signal) := by
  unfold Process.handleSignal
  by_cases stopping : p.shuttingDown = true
  · rw [if_pos stopping]
    exact mode.finish alive (by simp)
  · rw [if_neg stopping]
    cases mode with
    | idle calm alive code unarmed unasked calls unsignalled target =>
      dsimp only
      rcases target with absent | attached
      · simp only [absent]
        exact .starting _ rfl alive code rfl unasked calls rfl rfl
      · simp only [attached]
        exact mode_runShutdown rfl alive code calls unsignalled rfl
    | starting stopping' => exact absurd stopping' stopping
    | closing t stopping' => exact absurd stopping' stopping
    | exited ending code ended => simp [ended] at alive

theorem Mode.attach (alive : p.ended = none) :
    Mode config steps (p.attachCloseTarget config steps).2 := by
  unfold Process.attachCloseTarget
  dsimp only
  cases mode with
  | idle calm alive code unarmed unasked calls unsignalled target =>
    simp only [unsignalled]
    exact .idle _ calm alive code unarmed unasked calls rfl (.inr rfl)
  | starting stopping alive code armed unasked calls signalled target =>
    obtain ⟨signal, known⟩ := Option.isSome_iff_exists.mp signalled
    simp only [known]
    exact mode_runShutdown stopping alive code calls rfl rfl
  | closing t stopping alive code armed running calls unsignalled target positive ordered =>
    simp only [unsignalled]
    exact .closing _ t stopping alive code armed running calls rfl rfl positive ordered
  | exited ending code ended => simp [ended] at alive

/-- Where a teardown stands that has not ended. -/
theorem Mode.proceed (alive : p.ended = none) (running : p.teardown = some t) {next : Teardown}
    (ordered : t.Ordered steps (t.begun - 1) → 0 < t.begun → next.Ordered steps next.begun) :
    Mode config steps (p.runNext next) := by
  cases mode with
  | idle calm alive code unarmed unasked => simp [unasked] at running
  | starting stopping alive code armed unasked => simp [unasked] at running
  | closing own stopping alive code armed known calls unsignalled target positive behind =>
    rw [known] at running
    cases running
    exact mode_runNext stopping alive code armed calls unsignalled target
      (ordered behind positive)
  | exited ending code ended => simp [ended] at alive

theorem Mode.step (step : Step config steps p p') :
    Mode config steps p' := by
  cases step with
  | signal signal alive listening => exact mode.handleSignal alive signal
  | attach alive => exact mode.attach alive
  | resolved t alive running => exact mode.proceed alive running fun ordered _ => ordered.all
  | threw t step thrown alive running current =>
    exact mode.proceed alive running fun ordered positive => ordered.fail positive current thrown
  | overran t step alive running current due =>
    exact mode.proceed alive running fun ordered positive => ordered.fail positive current _
  | rejected t alive running => exact mode.finish alive (by simp)
  | watchdog watchdog alive armed due => exact mode.finish alive (by simp)
  | tick now alive later =>
    cases mode with
    | idle calm alive code unarmed unasked calls unsignalled target =>
      exact .idle _ calm alive code unarmed unasked calls unsignalled target
    | starting stopping alive code armed unasked calls signalled target =>
      exact .starting _ stopping alive code armed unasked calls signalled target
    | closing t stopping alive code armed running calls unsignalled target positive ordered =>
      exact .closing _ t stopping alive code armed running calls unsignalled target positive ordered
    | exited ending code ended => simp [ended] at alive

end

theorem mode_installed (installed : Installed steps p) : Mode config steps p := by
  cases installed with
  | starting now => exact .idle _ rfl rfl rfl rfl rfl rfl rfl (.inl rfl)
  | started now => exact .idle _ rfl rfl rfl rfl rfl rfl rfl (.inr rfl)

theorem mode_of_reachable (reached : Reachable config steps p) : Mode config steps p := by
  obtain ⟨p₀, installed, run⟩ := reached
  induction run with
  | refl => exact mode_installed installed
  | tail _ step mode => exact mode.step step

end Modes

/-! ## Runs whose timers are on time -/

/-- No timer is overdue, and the steps so far have had no more than their budgets. -/
structure InTime (config : Config) (steps : List ShutdownStep) (p : Process) : Prop where
  watched : ∀ watchdog, p.watchdog = some watchdog → p.now ≤ watchdog.deadline
  waited : p.ended = none → ∀ t, p.teardown = some t →
    p.now ≤ t.deadline ∧ t.deadline ≤ p.closedAt + budget (steps.take t.begun)
  startup : p.ended = none → ∀ t, p.teardown = some t →
    p.closedAt ≤ p.signalledAt + config.startupAbortTimeoutMs
  spared : budget steps < config.forceExitTimeoutMs → p.ended ≠ some (.timedOut .forceExit)

section Time

variable {config : Config} {steps : List ShutdownStep} {p p' : Process}

theorem budget_take_succ {k : Nat} {step : ShutdownStep} (there : steps[k]? = some step) :
    budget (steps.take (k + 1)) = budget (steps.take k) + step.cap := by
  simp [budget, List.take_add_one, there]

theorem budget_take_le (steps : List ShutdownStep) (k : Nat) : budget (steps.take k) ≤ budget steps := by
  have parts : budget (steps.take k) + budget (steps.drop k) = budget steps := by
    simp only [budget, ← List.sum_append, ← List.map_append, List.take_append_drop]
  omega

theorem inTime_finish {ending : Ending} (kept : ending ≠ .timedOut .forceExit) :
    InTime config steps (p.finish ending 1) := by
  constructor <;> simp [Process.finish, kept]

theorem inTime_runNext (alive : p.ended = none) (own : t.steps = steps)
    (watched : ∀ watchdog, p.watchdog = some watchdog → p.now ≤ watchdog.deadline)
    (waited : p.now ≤ p.closedAt + budget (steps.take t.begun))
    (startup : p.closedAt ≤ p.signalledAt + config.startupAbortTimeoutMs) :
    InTime config steps (p.runNext t) := by
  unfold Process.runNext
  cases current : t.steps[t.begun]? with
  | some step =>
    refine ⟨watched, ?_, fun _ _ _ => startup, by simp [alive]⟩
    intro _ next same
    cases same
    rw [own] at current
    have more := budget_take_succ current
    dsimp only
    omega
  | none => constructor <;> simp [Process.finish]

theorem inTime_runShutdown (alive : p.ended = none)
    (startup : p.now ≤ p.signalledAt + config.startupAbortTimeoutMs) :
    InTime config steps ((p.armForceExitWatchdog config).runShutdown steps) := by
  have watched : ∀ watchdog, (p.armForceExitWatchdog config).watchdog = some watchdog →
      p.now ≤ watchdog.deadline := by
    intro watchdog armed
    cases armed
    exact Nat.le_add_right _ _
  exact inTime_runNext (t := ⟨steps, 0, [], p.now⟩)
    (p := { p.armForceExitWatchdog config with closeCalls := p.closeCalls + 1, closedAt := p.now })
    alive rfl watched (Nat.le_add_right _ _) startup

theorem inTime_handleSignal (mode : Mode config steps p) (alive : p.ended = none)
    (signal : Signal) :
    InTime config steps (p.handleSignal config signal) := by
  unfold Process.handleSignal
  by_cases stopping : p.shuttingDown = true
  · rw [if_pos stopping]
    exact inTime_finish (by simp)
  · rw [if_neg stopping]
    cases mode with
    | idle calm alive code unarmed unasked calls unsignalled target =>
      dsimp only
      rcases target with absent | attached
      · simp only [absent]
        constructor <;> simp [unasked, alive]
      · simp only [attached]
        exact inTime_runShutdown alive (Nat.le_add_right _ _)
    | starting stopping' => exact absurd stopping' stopping
    | closing t stopping' => exact absurd stopping' stopping
    | exited ending code ended => simp [ended] at alive

section
variable (h : InTime config steps p)
include h

theorem InTime.attach (mode : Mode config steps p) (alive : p.ended = none) :
    InTime config steps (p.attachCloseTarget config steps).2 := by
  unfold Process.attachCloseTarget
  dsimp only
  cases mode with
  | idle calm alive code unarmed unasked calls unsignalled target =>
    simp only [unsignalled]
    exact ⟨h.watched, h.waited, h.startup, h.spared⟩
  | starting stopping alive code armed unasked calls signalled target =>
    obtain ⟨signal, known⟩ := Option.isSome_iff_exists.mp signalled
    simp only [known]
    exact inTime_runShutdown alive (h.watched _ armed)
  | closing t stopping alive code armed running calls unsignalled target positive ordered =>
    simp only [unsignalled]
    exact ⟨h.watched, h.waited, h.startup, h.spared⟩
  | exited ending code ended => simp [ended] at alive

theorem InTime.proceed (mode : Mode config steps p) (alive : p.ended = none) {next : Teardown}
    (running : p.teardown = some t) (own : next.steps = t.steps) (begun : next.begun = t.begun) :
    InTime config steps (p.runNext next) := by
  have same : t.steps = steps := by
    cases mode with
    | idle calm alive code unarmed unasked => simp [unasked] at running
    | starting stopping alive code armed unasked => simp [unasked] at running
    | closing own stopping alive code armed known calls unsignalled target positive behind =>
      rw [known] at running
      cases running
      exact behind.own
    | exited ending code ended => simp [ended] at alive
  obtain ⟨early, bound⟩ := h.waited alive t running
  apply inTime_runNext alive (own.trans same) h.watched ?_ (h.startup alive t running)
  rw [begun]
  omega

/-- A watchdog that fires has waited for as long as the steps may take. -/
theorem InTime.fire (mode : Mode config steps p) (alive : p.ended = none) {watchdog : Watchdog}
    (armed : p.watchdog = some watchdog) (due : watchdog.deadline ≤ p.now) :
    InTime config steps (p.finish (.timedOut watchdog.kind) 1) := by
  cases mode with
  | idle calm alive code unarmed => simp [unarmed] at armed
  | starting stopping alive code known =>
    rw [known] at armed
    cases armed
    exact inTime_finish (by simp)
  | closing t stopping alive code known running calls unsignalled target positive ordered =>
    rw [known] at armed
    cases armed
    have bound := h.waited alive t running
    have part := budget_take_le steps t.begun
    refine ⟨by simp [Process.finish], by simp [Process.finish], by simp [Process.finish], ?_⟩
    intro short
    dsimp only at due
    omega
  | exited ending code ended => simp [ended] at alive

theorem InTime.tick {now : Nat} (alive : p.ended = none) (onTime : OnTime p { p with now }) :
    InTime config steps { p with now } := by
  rcases onTime with still | ⟨waits, watches⟩
  · dsimp only at still
    subst still
    exact h
  · refine ⟨watches, ?_, h.startup, h.spared⟩
    intro _ t running
    exact ⟨waits t running, (h.waited alive t running).2⟩

theorem InTime.step (mode : Mode config steps p) (step : Step config steps p p')
    (onTime : OnTime p p') : InTime config steps p' := by
  cases step with
  | signal signal alive listening => exact inTime_handleSignal mode alive signal
  | attach alive => exact h.attach mode alive
  | resolved t alive running => exact h.proceed mode alive running rfl rfl
  | threw t step thrown alive running current => exact h.proceed mode alive running rfl rfl
  | overran t step alive running current due => exact h.proceed mode alive running rfl rfl
  | rejected t alive running => exact inTime_finish (by simp)
  | watchdog watchdog alive armed due => exact h.fire mode alive armed due
  | tick now alive later => exact h.tick alive onTime

end

theorem inTime_of_punctual (punctual : Punctual config steps p) :
    Mode config steps p ∧ InTime config steps p := by
  obtain ⟨p₀, installed, run⟩ := punctual
  induction run with
  | refl =>
    refine ⟨mode_installed installed, ?_⟩
    cases installed <;> constructor <;> simp
  | tail _ step ih => exact ⟨ih.1.step step.1, ih.2.step ih.1 step.1 step.2⟩

/-- Every step so far has taken all of its budget. -/
structure Overrunning (config : Config) (steps : List ShutdownStep) (k : Nat) (p : Process)
    (t : Teardown) : Prop where
  alive : p.ended = none
  running : p.teardown = some t
  own : t.steps = steps
  begun : t.begun = k + 1
  now : p.now = budget (steps.take k)
  deadline : t.deadline = budget (steps.take (k + 1))
  armed : p.watchdog = some ⟨.forceExit, config.forceExitTimeoutMs⟩

theorem punctual_tail (punctual : Punctual config steps p) (step : Step config steps p p')
    (onTime : OnTime p p') : Punctual config steps p' := by
  obtain ⟨p₀, installed, run⟩ := punctual
  exact ⟨p₀, installed, run.tail ⟨step, onTime⟩⟩

/-- A signal that finds the server up starts the first step. -/
theorem overrunning_first {step : ShutdownStep} (there : steps[0]? = some step) :
    ∃ p t, Punctual config steps p ∧ Overrunning config steps 0 p t := by
  let p₀ : Process := { now := 0, closeTarget := some steps }
  have signalled : p₀.handleSignal config .SIGTERM =
      { p₀ with
        shuttingDown := true
        watchdog := some ⟨.forceExit, config.forceExitTimeoutMs⟩
        teardown := some ⟨steps, 1, [], step.cap⟩
        closeCalls := 1 } := by
    simp [p₀, Process.handleSignal, Process.runShutdown, Process.runNext, there,
      Process.armForceExitWatchdog]
  have first := budget_take_succ there
  refine ⟨_, ⟨steps, 1, [], step.cap⟩,
    ⟨p₀, .started 0, .single ⟨.signal p₀ .SIGTERM rfl rfl, .inl ?_⟩⟩, ?_⟩
  · rw [signalled]
  · rw [signalled]
    refine ⟨rfl, rfl, rfl, rfl, by simp [p₀, budget], ?_, rfl⟩
    rw [first]
    simp [budget]

/-- The step that is waited for runs out of its budget. -/
theorem Overrunning.next {k : Nat} {step current : ShutdownStep}
    (h : Overrunning config steps k p t) (punctual : Punctual config steps p)
    (here : steps[k]? = some current) (there : steps[k + 1]? = some step)
    (short : budget (steps.take (k + 1)) < config.forceExitTimeoutMs) :
    ∃ p' t', Punctual config steps p' ∧ Overrunning config steps (k + 1) p' t' := by
  have more := budget_take_succ here
  have last := budget_take_succ there
  have now := h.now
  have deadline := h.deadline
  let waited : Process := { p with now := t.deadline }
  have reached : Punctual config steps waited := by
    apply punctual_tail punctual (.tick p t.deadline h.alive (by omega)) (.inr ⟨?_, ?_⟩)
    · intro other running
      rw [h.running] at running
      cases running
      exact le_refl _
    · intro watchdog armed
      rw [h.armed] at armed
      cases armed
      dsimp only
      omega
  have index : t.steps[t.begun - 1]? = some current := by
    rw [h.own, h.begun]
    exact here
  have following : t.steps[t.begun]? = some step := by rw [h.own, h.begun, there]
  have overran := punctual_tail reached
    (.overran waited t current h.alive h.running index (le_refl _)) (.inl (by
      simp only [Process.runNext, following]))
  let failures := t.failures ++ [failureOf current ⟨true, timeoutMessage current⟩]
  have goes : waited.runNext { t with failures } =
      { waited with
        teardown := some ⟨t.steps, t.begun + 1, failures, t.deadline + step.cap⟩ } := by
    simp only [Process.runNext, following, waited]
  rw [goes] at overran
  refine ⟨_, ⟨t.steps, t.begun + 1, failures, t.deadline + step.cap⟩, overran, ?_⟩
  exact ⟨h.alive, rfl, h.own, by rw [h.begun], deadline, by dsimp only; omega, h.armed⟩

theorem overrunning_of_long (long : config.forceExitTimeoutMs ≤ budget steps) (k : Nat)
    (short : budget (steps.take k) < config.forceExitTimeoutMs) :
    ∃ p t, Punctual config steps p ∧ Overrunning config steps k p t := by
  have inside : ∀ {k : Nat}, budget (steps.take k) < config.forceExitTimeoutMs →
      ∃ step, steps[k]? = some step := by
    intro k short
    have bound : k < steps.length := by
      by_contra outside
      rw [List.take_of_length_le (by omega)] at short
      omega
    exact ⟨_, List.getElem?_eq_getElem bound⟩
  induction k with
  | zero =>
    obtain ⟨step, there⟩ := inside short
    exact overrunning_first there
  | succ k ih =>
    obtain ⟨step, there⟩ := inside short
    have bound := (List.getElem?_eq_some_iff.mp there).1
    have here := List.getElem?_eq_getElem (l := steps) (i := k) (by omega)
    have more := budget_take_succ here
    obtain ⟨p, t, punctual, overrunning⟩ := ih (by omega)
    exact overrunning.next punctual here there short

/-- The watchdog fires within a step that has some of its budget left. -/
theorem forced_of_long (positive : 0 < config.forceExitTimeoutMs)
    (long : config.forceExitTimeoutMs ≤ budget steps) :
    ∃ p, Punctual config steps p ∧ p.ended = some (.timedOut .forceExit) := by
  have some_long : ∃ k, config.forceExitTimeoutMs ≤ budget (steps.take k) :=
    ⟨steps.length, by rw [List.take_length]; exact long⟩
  obtain ⟨k, first⟩ : ∃ k, Nat.find some_long = k + 1 := by
    apply Nat.exists_eq_succ_of_ne_zero
    intro zero
    have found := Nat.find_spec some_long
    rw [zero] at found
    simp [budget] at found
    omega
  have enough := Nat.find_spec some_long
  have short := Nat.find_min some_long (m := k) (by omega)
  rw [first] at enough
  obtain ⟨p, t, punctual, h⟩ := overrunning_of_long long k (by omega)
  have now := h.now
  have deadline := h.deadline
  have late : Punctual config steps { p with now := config.forceExitTimeoutMs } := by
    apply punctual_tail punctual (.tick p _ h.alive (by omega)) (.inr ⟨?_, ?_⟩)
    · intro other running
      rw [h.running] at running
      cases running
      dsimp only
      omega
    · intro watchdog armed
      rw [h.armed] at armed
      cases armed
      exact le_refl _
  exact ⟨_, punctual_tail late (.watchdog _ _ h.alive h.armed (le_refl _)) (.inl rfl), rfl⟩

end Time

/-! ## What a shutdown keeps -/

section Results

variable {config : Config} {steps : List ShutdownStep} {p : Process}

theorem exitCodeOf_zero {failures : List ShutdownStepFailure} :
    Process.exitCodeOf failures = 0 ↔ ∀ failure ∈ failures, failure.result = .timeout := by
  have cases : ∀ failure : ShutdownStepFailure,
      failure.result ≠ .error ↔ failure.result = .timeout := by
    intro failure
    cases failure.result <;> simp
  simp [Process.exitCodeOf, ← cases]

theorem exitCodeOf_le (failures : List ShutdownStepFailure) : Process.exitCodeOf failures ≤ 1 := by
  unfold Process.exitCodeOf
  split <;> omega

theorem Mode.exit (mode : Mode config steps p) {code : Nat} (exits : p.exitCode = some code) :
    code ≤ 1 ∧ (code = 0 ↔ p.ended = some .completed ∧ ∃ t, p.teardown = some t ∧
      t.begun = steps.length ∧ ∀ failure ∈ t.failures, failure.result = .timeout) := by
  cases mode with
  | idle calm alive none => simp [none] at exits
  | starting stopping alive none => simp [none] at exits
  | closing t stopping alive none => simp [none] at exits
  | exited ending own ended known calls ordered forced complete =>
    rw [known] at exits
    cases exits
    by_cases completed : ending = .completed
    · obtain ⟨t, running, all, result⟩ := complete completed
      subst result completed
      refine ⟨exitCodeOf_le _, ?_⟩
      rw [exitCodeOf_zero]
      constructor
      · intro none
        exact ⟨ended, t, running, all, none⟩
      · rintro ⟨-, other, same, -, none⟩
        rw [running] at same
        cases same
        exact none
    · have one := forced completed
      subst one
      simp [ended, completed]

/-- Whatever signals, failures and timers come in whatever order: the teardown is called once at
most and its failures are of steps it has called, a process that is to stop always has a timer
armed, the server only goes on to listen when no signal has come, and exit code 0 means that every
step has been called and that none failed but for running out of its budget. -/
theorem shutdown_is_run_once (config : Config) (steps : List ShutdownStep) (p : Process)
    (reached : Reachable config steps p) :
    p.closeCalls ≤ 1 ∧
      (∀ t : Teardown, p.teardown = some t → (t.failures.map ShutdownStepFailure.step).Sublist
        ((steps.take t.begun).map ShutdownStep.name)) ∧
      (p.ended = none → p.shuttingDown = true → p.watchdog.isSome = true) ∧
      (p.ended = none → p.closeTarget = none →
        (p.attachCloseTarget config steps).1 = !p.shuttingDown) ∧
      ∀ code : Nat, p.exitCode = some code → code ≤ 1 ∧
        (code = 0 ↔ p.ended = some .completed ∧ ∃ t, p.teardown = some t ∧
          t.begun = steps.length ∧ ∀ failure ∈ t.failures, failure.result = .timeout) := by
  have mode := mode_of_reachable reached
  refine ⟨?_, ?_, ?_, ?_, fun code exits => mode.exit exits⟩
  · cases mode <;> omega
  · intro t running
    cases mode with
    | idle calm alive code unarmed unasked => simp [unasked] at running
    | starting stopping alive code armed unasked => simp [unasked] at running
    | closing own stopping alive code armed known calls unsignalled target positive ordered =>
      rw [known] at running
      cases running
      exact ordered.all.failed
    | exited ending code ended exits calls ordered => exact (ordered t running).failed
  · intro alive stopping
    cases mode with
    | idle calm => simp [calm] at stopping
    | starting stopping alive code armed => simp [armed]
    | closing t stopping alive code armed => simp [armed]
    | exited ending code ended => simp [ended] at alive
  · intro alive absent
    cases mode with
    | idle calm alive code unarmed unasked calls unsignalled =>
      simp [Process.attachCloseTarget, unsignalled, calm]
    | starting stopping alive code armed unasked calls signalled =>
      obtain ⟨signal, known⟩ := Option.isSome_iff_exists.mp signalled
      simp [Process.attachCloseTarget, known, stopping]
    | closing t stopping alive code armed running calls unsignalled target =>
      simp [target] at absent
    | exited ending code ended => simp [ended] at alive

/-- A second signal while a step is running. -/
theorem second_signal_exits : ∃ p, Reachable {} (globalAdminShutdownSteps false) p ∧
    p.exitCode = some 1 ∧ p.closeCalls ≤ 1 := by
  let p₀ : Process := { now := 0, closeTarget := some (globalAdminShutdownSteps false) }
  have first : Reachable {} (globalAdminShutdownSteps false) (p₀.handleSignal {} .SIGTERM) :=
    ⟨p₀, .started 0, .single (.signal p₀ .SIGTERM rfl rfl)⟩
  obtain ⟨p₁, installed, run⟩ := first
  have second : Reachable {} (globalAdminShutdownSteps false)
      ((p₀.handleSignal {} .SIGTERM).handleSignal {} .SIGINT) :=
    ⟨p₁, installed, run.tail (.signal _ .SIGINT rfl rfl)⟩
  exact ⟨_, second, rfl, (shutdown_is_run_once _ _ _ second).1⟩

theorem Mode.bound (mode : Mode config steps p) (inTime : InTime config steps p)
    (alive : p.ended = none) (stopping : p.shuttingDown = true) :
    p.now ≤ p.signalledAt + config.startupAbortTimeoutMs + config.forceExitTimeoutMs := by
  cases mode with
  | idle calm => simp [calm] at stopping
  | starting stopping alive code armed =>
    have early := inTime.watched _ armed
    dsimp only at early
    omega
  | closing t stopping alive code armed running =>
    have early := inTime.watched _ armed
    have started := inTime.startup alive t running
    dsimp only at early
    omega
  | exited ending code ended => simp [ended] at alive

/-- With timers on time a stop signal ends the process within both of its timeouts, and the
watchdog never cuts off a teardown whose steps keep to their budgets exactly when these budgets
add up to less than the watchdog waits. Those of the global admin server do, and those of a room
server, with whatever optional parts, do not. -/
theorem watchdog_spares_the_budget (config : Config) (steps : List ShutdownStep)
    (positive : 0 < config.forceExitTimeoutMs) :
    (∀ p : Process, Punctual config steps p → p.ended = none → p.shuttingDown = true →
      p.now ≤ p.signalledAt + config.startupAbortTimeoutMs + config.forceExitTimeoutMs) ∧
      ((∀ p : Process, Punctual config steps p → p.ended ≠ some (.timedOut .forceExit)) ↔
        budget steps < config.forceExitTimeoutMs) ∧
      (∀ metricsHttpServer : Bool,
        budget (globalAdminShutdownSteps metricsHttpServer) < ({} : Config).forceExitTimeoutMs) ∧
      ∀ metricsHttpServer sharedRuntimeStore : Bool,
        ({} : Config).forceExitTimeoutMs ≤
            budget (serverShutdownSteps metricsHttpServer sharedRuntimeStore) ∧
          budget (serverShutdownSteps metricsHttpServer sharedRuntimeStore) ≤ 170000 := by
  refine ⟨?_, ⟨?_, ?_⟩, by decide, by decide⟩
  · intro p punctual
    obtain ⟨mode, inTime⟩ := inTime_of_punctual punctual
    exact mode.bound inTime
  · intro spared
    by_contra long
    obtain ⟨p, punctual, forced⟩ := forced_of_long positive (Nat.le_of_not_lt long)
    exact spared p punctual forced
  · intro short p punctual
    exact (inTime_of_punctual punctual).2.spared short

/-- The global admin server has the time its steps may take; a room server has not. -/
theorem room_server_may_be_cut_off :
    (∀ metricsHttpServer : Bool, ∀ p, Punctual {} (globalAdminShutdownSteps metricsHttpServer) p →
      p.ended ≠ some (.timedOut .forceExit)) ∧
    ∀ metricsHttpServer sharedRuntimeStore : Bool,
      ∃ p, Punctual {} (serverShutdownSteps metricsHttpServer sharedRuntimeStore) p ∧
        p.ended = some (.timedOut .forceExit) := by
  constructor
  · intro metricsHttpServer
    have law := watchdog_spares_the_budget {} (globalAdminShutdownSteps metricsHttpServer)
      (by decide)
    exact law.2.1.mpr (law.2.2.1 metricsHttpServer)
  · intro metricsHttpServer sharedRuntimeStore
    have law := watchdog_spares_the_budget {}
      (serverShutdownSteps metricsHttpServer sharedRuntimeStore) (by decide)
    by_contra spared
    have short := law.2.1.mp fun p punctual forced => spared ⟨p, punctual, forced⟩
    exact Nat.not_lt.mpr (law.2.2.2 metricsHttpServer sharedRuntimeStore).1 short

end Results

end BiliSyncPlay.GracefulShutdown
