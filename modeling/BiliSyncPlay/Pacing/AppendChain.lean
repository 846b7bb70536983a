import BiliSyncPlay.Lists
import Mathlib.Logic.Relation

/-!
# The append chain

Writes and reads over one connection: appends chained one behind another, reads let through while
the connection answers, and a `close` that drains within a budget. A step is one synchronous
stretch, of a call or of what follows one of its awaits; what is awaited may have come any number
of steps before.
-/

namespace BiliSyncPlay.AppendChain

abbrev RunId := Nat
abbrev CallId := Nat
abbrev ReadId := Nat

structure AppendChainOptions where
  maxPendingAppends : Nat
  closeSettleTimeoutMs : Nat

inductive AppendChainRefusal where
  | closing | stalled | overflow
  deriving DecidableEq

inductive RedisQuitOutcome where
  | ok | failed | timedOut
  deriving DecidableEq

inductive AppendChainQuitOutcome where
  | quit (outcome : RedisQuitOutcome)
  | skipped
  deriving DecidableEq

structure AppendChainCloseReport where
  pendingWrites : Nat
  queuedAppends : Nat
  quitOutcome : AppendChainQuitOutcome
  budgetMs : Nat
  deriving DecidableEq

variable {Value : Type}

/-- What a `write` or a `read` comes to. -/
abbrev Answer (Value : Type) := Except String Value

inductive Outcome (Value : Type) where
  | abandoned
  /-- `write` threw before it gave a promise. -/
  | threw (error : String)
  | answered (call : CallId) (answer : Answer Value)

inductive RunStage (Value : Type) where
  | refused (reason : AppendChainRefusal)
  /-- Behind the `pendingAppend` it found. -/
  | chained
  /-- Its write races the cap. -/
  | writing (call : CallId)
  /-- The cap won, and the write is waited for still. -/
  | stalled (call : CallId)
  | settled (outcome : Outcome Value)

/-- A call of `run`. -/
structure Run (Value : Type) where
  previous : Option RunId := none
  stage : RunStage Value

structure Write (Value : Type) where
  run : RunId
  answer : Option (Answer Value) := none

inductive ReadStage (Value : Type) where
  /-- `makeUnavailableError`, before the read was issued. -/
  | refused
  /-- For the queue and for the write at the head of the connection. -/
  | waiting (headWrite : Option CallId)
  | threw (error : String)
  | reading
  /-- `makeUnavailableError`, the command still out there. -/
  | outlived
  | settled (answer : Answer Value)

/-- A call of `runRead`. -/
structure Read (Value : Type) where
  stage : ReadStage Value
  answer : Option (Answer Value) := none

inductive CloseStage where
  | draining (pendingAppend : Option RunId)
  | quitting
  | closed (report : Option AppendChainCloseReport)
  deriving DecidableEq

structure Chain (Value : Type) where
  closing : Bool := false
  abandonQueuedAppends : Bool := false
  pendingAppend : Option RunId := none
  queuedAppends : Nat := 0
  writeIsStalled : Bool := false
  writeInFlight : Option CallId := none
  stalledReads : Nat := 0
  runs : List (Run Value) := []
  /-- In the order they were started. -/
  writes : List (Write Value) := []
  reads : List (Read Value) := []
  closes : List CloseStage := []

namespace Chain

variable (options : AppendChainOptions)

/-- The bound that refuses a call of `run`, if one does. -/
def refusal (c : Chain Value) : Option AppendChainRefusal :=
  if c.closing then some .closing
  else if c.writeIsStalled then some .stalled
  else if options.maxPendingAppends ≤ c.queuedAppends then some .overflow
  else none

def run (c : Chain Value) : Chain Value :=
  match c.refusal options with
  | some reason => { c with runs := c.runs ++ [{ stage := .refused reason }] }
  | none =>
    { c with
      queuedAppends := c.queuedAppends + 1
      runs := c.runs ++ [{ previous := c.pendingAppend, stage := .chained }]
      pendingAppend := some c.runs.length }

def move (id : RunId) (r : Run Value) (stage : RunStage Value) (c : Chain Value) : Chain Value :=
  { c with runs := c.runs.set id { r with stage } }

/-- The link's `finally`, and the answer of its `run`. -/
def settle (id : RunId) (r : Run Value) (outcome : Outcome Value) (c : Chain Value) : Chain Value :=
  { c.move id r (.settled outcome) with queuedAppends := c.queuedAppends - 1 }

/-- A link up to where it waits for its write. `thrown`: what `write` throws, if it does. -/
def startLink (id : RunId) (r : Run Value) (thrown : Option String) (c : Chain Value) :
    Chain Value :=
  if c.abandonQueuedAppends then c.settle id r .abandoned
  else match thrown with
    | some error => c.settle id r (.threw error)
    | none =>
      { c.move id r (.writing c.writes.length) with
        writes := c.writes ++ [{ run := id }]
        writeInFlight := some c.writes.length }

def answerWrite (call : CallId) (w : Write Value) (answer : Answer Value) (c : Chain Value) :
    Chain Value :=
  { c with writes := c.writes.set call { w with answer := some answer } }

/-- The cap won: new appends stop queueing behind this write. -/
def outliveCap (id : RunId) (r : Run Value) (call : CallId) (c : Chain Value) : Chain Value :=
  { c.move id r (.stalled call) with writeIsStalled := true }

def settleStalled (id : RunId) (r : Run Value) (call : CallId) (answer : Answer Value)
    (c : Chain Value) : Chain Value :=
  { c with writeIsStalled := false }.settle id r (.answered call answer)

def runRead (c : Chain Value) : Chain Value :=
  let stage :=
    if c.writeIsStalled = true ∨ 0 < c.stalledReads then .refused else .waiting c.writeInFlight
  { c with reads := c.reads ++ [{ stage }] }

def moveRead (id : ReadId) (r : Read Value) (stage : ReadStage Value) (c : Chain Value) :
    Chain Value :=
  { c with reads := c.reads.set id { r with stage } }

/-- The command is remembered until it answers. -/
def outliveRead (id : ReadId) (r : Read Value) (c : Chain Value) : Chain Value :=
  { c.moveRead id r .outlived with stalledReads := c.stalledReads + 1 }

/-- The read's promise settles, and `release` runs if it hangs on it. -/
def answerRead (id : ReadId) (r : Read Value) (answer : Answer Value) (c : Chain Value) :
    Chain Value :=
  { c with
    reads := c.reads.set id { r with answer := some answer }
    stalledReads := match r.stage with
      | .outlived => c.stalledReads - 1
      | _ => c.stalledReads }

def close (c : Chain Value) : Chain Value :=
  { c with closing := true, closes := c.closes ++ [.draining c.pendingAppend] }

/-- `onCloseUnfinished` is called unless nothing was left and the connection went down as it
should. -/
def report (pendingWrites : Nat) (quitOutcome : AppendChainQuitOutcome) (c : Chain Value) :
    Option AppendChainCloseReport :=
  if pendingWrites = 0 ∧ (quitOutcome = .quit .ok ∨ quitOutcome = .skipped) then none
  else some
    { pendingWrites, queuedAppends := c.queuedAppends, quitOutcome
      budgetMs := options.closeSettleTimeoutMs }

/-- `drained` is false: nothing that has not started may start now. -/
def giveUp (id : Nat) (c : Chain Value) : Chain Value :=
  { c with
    abandonQueuedAppends := true
    closes := c.closes.set id
      (.closed (c.report options (c.writes.countP (·.answer.isNone)) .skipped)) }

def quit (id : Nat) (c : Chain Value) : Chain Value :=
  { c with closes := c.closes.set id .quitting }

def quitted (id : Nat) (outcome : RedisQuitOutcome) (c : Chain Value) : Chain Value :=
  { c with closes := c.closes.set id (.closed (c.report options 0 (.quit outcome))) }

/-- The promise `pendingAppend` stood for has resolved. -/
def Resolved (c : Chain Value) (pendingAppend : Option RunId) : Prop :=
  ∀ id ∈ pendingAppend, ∃ r outcome, c.runs[id]? = some r ∧ r.stage = .settled outcome

def Answered (c : Chain Value) (headWrite : Option CallId) : Prop :=
  ∀ call ∈ headWrite, ∃ w : Write Value, c.writes[call]? = some w ∧ w.answer.isSome = true

end Chain

inductive Step (options : AppendChainOptions) : Chain Value → Chain Value → Prop where
  | run (c : Chain Value) : Step options c (c.run options)
  | startLink (c : Chain Value) (id : RunId) (r : Run Value) (thrown : Option String)
      (at_id : c.runs[id]? = some r) (stage : r.stage = .chained)
      (resolved : c.Resolved r.previous) : Step options c (c.startLink id r thrown)
  | answerWrite (c : Chain Value) (call : CallId) (w : Write Value) (answer : Answer Value)
      (at_call : c.writes[call]? = some w) (waits : w.answer = none) :
      Step options c (c.answerWrite call w answer)
  | settle (c : Chain Value) (id : RunId) (r : Run Value) (call : CallId) (w : Write Value)
      (answer : Answer Value) (at_id : c.runs[id]? = some r) (stage : r.stage = .writing call)
      (at_call : c.writes[call]? = some w) (answered : w.answer = some answer) :
      Step options c (c.settle id r (.answered call answer))
  | outliveCap (c : Chain Value) (id : RunId) (r : Run Value) (call : CallId)
      (at_id : c.runs[id]? = some r) (stage : r.stage = .writing call) :
      Step options c (c.outliveCap id r call)
  | settleStalled (c : Chain Value) (id : RunId) (r : Run Value) (call : CallId) (w : Write Value)
      (answer : Answer Value) (at_id : c.runs[id]? = some r) (stage : r.stage = .stalled call)
      (at_call : c.writes[call]? = some w) (answered : w.answer = some answer) :
      Step options c (c.settleStalled id r call answer)
  | runRead (c : Chain Value) : Step options c c.runRead
  /-- The head did not answer within the read's budget. -/
  | turnAway (c : Chain Value) (id : ReadId) (r : Read Value) (headWrite : Option CallId)
      (at_id : c.reads[id]? = some r) (stage : r.stage = .waiting headWrite) :
      Step options c (c.moveRead id r .refused)
  /-- `read()`, whether or not the queue drained. -/
  | issue (c : Chain Value) (id : ReadId) (r : Read Value) (headWrite : Option CallId)
      (at_id : c.reads[id]? = some r) (stage : r.stage = .waiting headWrite)
      (answered : c.Answered headWrite) : Step options c (c.moveRead id r .reading)
  | issueThrows (c : Chain Value) (id : ReadId) (r : Read Value) (headWrite : Option CallId)
      (error : String) (at_id : c.reads[id]? = some r) (stage : r.stage = .waiting headWrite)
      (answered : c.Answered headWrite) : Step options c (c.moveRead id r (.threw error))
  | answerRead (c : Chain Value) (id : ReadId) (r : Read Value) (answer : Answer Value)
      (at_id : c.reads[id]? = some r) (stage : r.stage = .reading ∨ r.stage = .outlived)
      (waits : r.answer = none) : Step options c (c.answerRead id r answer)
  | outliveRead (c : Chain Value) (id : ReadId) (r : Read Value) (at_id : c.reads[id]? = some r)
      (stage : r.stage = .reading) (waits : r.answer = none) :
      Step options c (c.outliveRead id r)
  | settleRead (c : Chain Value) (id : ReadId) (r : Read Value) (answer : Answer Value)
      (at_id : c.reads[id]? = some r) (stage : r.stage = .reading)
      (answered : r.answer = some answer) : Step options c (c.moveRead id r (.settled answer))
  | close (c : Chain Value) : Step options c c.close
  | giveUp (c : Chain Value) (id : Nat) (pendingAppend : Option RunId)
      (stage : c.closes[id]? = some (.draining pendingAppend))
      (unresolved : ¬ c.Resolved pendingAppend) : Step options c (c.giveUp options id)
  | quit (c : Chain Value) (id : Nat) (pendingAppend : Option RunId)
      (stage : c.closes[id]? = some (.draining pendingAppend))
      (resolved : c.Resolved pendingAppend) : Step options c (c.quit id)
  | quitted (c : Chain Value) (id : Nat) (outcome : RedisQuitOutcome)
      (stage : c.closes[id]? = some .quitting) : Step options c (c.quitted options id outcome)

def Reachable (options : AppendChainOptions) : Chain Value → Prop :=
  Relation.ReflTransGen (Step options) {}

/-! ## Where an append stands -/

def RunStage.queued : RunStage Value → Bool
  | .chained | .writing _ | .stalled _ => true
  | _ => false

def RunStage.accepted : RunStage Value → Prop
  | .refused _ => False
  | _ => True

def RunStage.started : RunStage Value → Prop
  | .refused _ | .chained => False
  | _ => True

def RunStage.isSettled : RunStage Value → Prop
  | .settled _ => True
  | _ => False

/-- It has made this write, and has come to its answer if it has settled. -/
def RunStage.Wrote (call : CallId) (answer : Option (Answer Value)) : RunStage Value → Prop
  | .writing own | .stalled own => own = call
  | .settled (.answered own result) => own = call ∧ answer = some result
  | _ => False

def Read.owed (r : Read Value) : Bool :=
  match r.stage, r.answer with
  | .outlived, none => true
  | _, _ => false

/-- The write side of the chain: an append behind another has not started while that one has not
settled, and each write is that of one append. -/
structure Chain.Serial (options : AppendChainOptions) (c : Chain Value) : Prop where
  linked : ∀ (i j : RunId) (r s : Run Value), c.runs[i]? = some r → c.runs[j]? = some s →
    r.stage.accepted → s.stage.accepted → i < j → ∃ p, s.previous = some p ∧ i ≤ p
  last : ∀ (i : RunId) (r : Run Value), c.runs[i]? = some r → r.stage.accepted →
    ∃ p, c.pendingAppend = some p ∧ i ≤ p
  serial : ∀ (i j : RunId) (r s : Run Value), c.runs[i]? = some r → c.runs[j]? = some s →
    r.stage.accepted → s.stage.started → i < j → r.stage.isSettled
  wrote : ∀ (k : CallId) (w : Write Value), c.writes[k]? = some w →
    ∃ r, c.runs[w.run]? = some r ∧ r.stage.Wrote k w.answer
  own : ∀ (i : RunId) (r : Run Value) (k : CallId) answer, c.runs[i]? = some r →
    r.stage.Wrote k answer → ∃ w, c.writes[k]? = some w ∧ w.run = i
  order : ∀ (k l : CallId) (w v : Write Value), c.writes[k]? = some w → c.writes[l]? = some v →
    k < l → w.run < v.run ∧ w.answer.isSome = true
  queued : c.queuedAppends = c.runs.countP (·.stage.queued)
  bound : c.queuedAppends ≤ options.maxPendingAppends
  flag : ∀ (i : RunId) (r : Run Value) (k : CallId), c.runs[i]? = some r → r.stage = .stalled k →
    c.writeIsStalled = true

variable {i : RunId} {r : Run Value}

section Steps

variable {options : AppendChainOptions} {c c' : Chain Value}

/-- The write side is as it was. -/
theorem Chain.Serial.same (h : c.Serial options) (runs : c'.runs = c.runs)
    (writes : c'.writes = c.writes) (rest : c'.pendingAppend = c.pendingAppend ∧
      c'.queuedAppends = c.queuedAppends ∧ c'.writeIsStalled = c.writeIsStalled) :
    c'.Serial options := by
  obtain ⟨pending, queued, stalled⟩ := rest
  constructor
  · rw [runs]; exact h.linked
  · rw [runs, pending]; exact h.last
  · rw [runs]; exact h.serial
  · rw [runs, writes]; exact h.wrote
  · rw [runs, writes]; exact h.own
  · rw [writes]; exact h.order
  · rw [runs, queued]; exact h.queued
  · rw [queued]; exact h.bound
  · rw [runs, stalled]; exact h.flag

variable {stage : RunStage Value}

theorem RunStage.accepted_of_started (h : stage.started) :
    stage.accepted := by
  cases stage <;> trivial

theorem RunStage.started_of_wrote {k : CallId} {answer : Option (Answer Value)}
    (h : stage.Wrote k answer) : stage.started := by
  cases stage <;> trivial

theorem RunStage.wrote_unique {k l : CallId} {answer answer' : Option (Answer Value)}
    (h : stage.Wrote k answer) (h' : stage.Wrote l answer') : k = l := by
  unfold RunStage.Wrote at h h'
  split at h
  · exact h.symm.trans h'
  · exact h.symm.trans h'
  · exact h.1.symm.trans h'.1
  · exact h.elim

theorem Chain.refusal_none (h : c.refusal options = none) :
    c.closing = false ∧ c.writeIsStalled = false ∧ c.queuedAppends < options.maxPendingAppends := by
  unfold Chain.refusal at h
  split at h
  · cases h
  · rename_i opened
    split at h
    · cases h
    · rename_i flowing
      split at h
      · cases h
      · rename_i room
        exact ⟨by simpa using opened, by simpa using flowing, Nat.lt_of_not_le room⟩

/-- One more call of `run`. -/
theorem Chain.Serial.called (h : c.Serial options) (runs : c'.runs = c.runs ++ [r])
    (writes : c'.writes = c.writes) (stalled : c'.writeIsStalled = c.writeIsStalled)
    (unstarted : ¬ r.stage.started) (pending : r.stage.accepted → r.previous = c.pendingAppend ∧
      c'.pendingAppend = some c.runs.length)
    (pending' : ¬ r.stage.accepted → c'.pendingAppend = c.pendingAppend)
    (queued : c'.queuedAppends = c.queuedAppends + [r].countP (·.stage.queued))
    (bound : c'.queuedAppends ≤ options.maxPendingAppends) : c'.Serial options := by
  have silent : ∀ k (answer : Option (Answer Value)), ¬ r.stage.Wrote k answer :=
    fun k answer wrote => unstarted (RunStage.started_of_wrote wrote)
  constructor
  · intro i j s t at_i at_j ok ok' before
    rw [runs] at at_i at_j
    rcases getElem?_concat_cases at_j with ⟨rfl, rfl⟩ | ⟨within, old⟩
    · rcases getElem?_concat_cases at_i with ⟨rfl, -⟩ | ⟨-, old⟩
      · exact absurd before (Nat.lt_irrefl _)
      · obtain ⟨p, last, le⟩ := h.last i s old ok
        exact ⟨p, (pending ok').1.trans last, le⟩
    · rcases getElem?_concat_cases at_i with ⟨rfl, -⟩ | ⟨-, old'⟩
      · exact absurd (Nat.lt_trans before within) (Nat.lt_irrefl _)
      · exact h.linked i j s t old' old ok ok' before
  · intro i s at_i ok
    rw [runs] at at_i
    rcases getElem?_concat_cases at_i with ⟨rfl, rfl⟩ | ⟨within, old⟩
    · exact ⟨_, (pending ok).2, Nat.le_refl _⟩
    · by_cases taken : r.stage.accepted
      · exact ⟨_, (pending taken).2, Nat.le_of_lt within⟩
      · rw [pending' taken]
        exact h.last i s old ok
  · intro i j s t at_i at_j ok ok' before
    rw [runs] at at_i at_j
    rcases getElem?_concat_cases at_j with ⟨-, rfl⟩ | ⟨within, old⟩
    · exact absurd ok' unstarted
    · rcases getElem?_concat_cases at_i with ⟨rfl, -⟩ | ⟨-, old'⟩
      · exact absurd (Nat.lt_trans before within) (Nat.lt_irrefl _)
      · exact h.serial i j s t old' old ok ok' before
  · intro k w at_k
    rw [writes] at at_k
    obtain ⟨s, at_run, wrote⟩ := h.wrote k w at_k
    exact ⟨s, by rw [runs, getElem?_concat_of_some at_run], wrote⟩
  · intro i s k answer at_i wrote
    rw [runs] at at_i
    rw [writes]
    rcases getElem?_concat_cases at_i with ⟨-, rfl⟩ | ⟨-, old⟩
    · exact absurd wrote (silent k answer)
    · exact h.own i s k answer old wrote
  · rw [writes]
    exact h.order
  · rw [queued, runs, List.countP_append, h.queued]
  · exact bound
  · intro i s k at_i stage
    rw [runs] at at_i
    rw [stalled]
    rcases getElem?_concat_cases at_i with ⟨-, rfl⟩ | ⟨-, old⟩
    · rw [stage] at unstarted
      exact absurd trivial unstarted
    · exact h.flag i s k old stage

theorem Chain.Serial.run (h : c.Serial options) : (c.run options).Serial options := by
  unfold Chain.run
  cases refused : c.refusal options with
  | some reason => exact h.called rfl rfl rfl id nofun (fun _ => rfl) rfl h.bound
  | none =>
    have room := (Chain.refusal_none refused).2.2
    exact h.called rfl rfl rfl id (fun _ => ⟨rfl, rfl⟩) (fun no => absurd trivial no) rfl room

/-- An append that has started and not settled is the only one. -/
theorem Chain.Serial.alone (h : c.Serial options) {j : RunId} {s : Run Value}
    (at_i : c.runs[i]? = some r) (at_j : c.runs[j]? = some s) (started : r.stage.started)
    (started' : s.stage.started) (open_i : ¬ r.stage.isSettled) (open_j : ¬ s.stage.isSettled) :
    i = j := by
  rcases Nat.lt_trichotomy i j with before | same | after
  · exact absurd (h.serial i j r s at_i at_j (RunStage.accepted_of_started started) started' before)
      open_i
  · exact same
  · exact absurd (h.serial j i s r at_j at_i (RunStage.accepted_of_started started') started after)
      open_j

theorem RunStage.unsettled_of_queued (h : stage.queued = true) :
    ¬ stage.isSettled ∧ stage.accepted := by
  cases stage <;> first | exact ⟨id, trivial⟩ | cases h

/-- An append gets on. -/
theorem Chain.Serial.moved (h : c.Serial options) (at_i : c.runs[i]? = some r)
    (queued : r.stage.queued = true) (runs : c'.runs = c.runs.set i { r with stage })
    (pending : c'.pendingAppend = c.pendingAppend)
    (turn : ∀ (j : RunId) (s : Run Value), c.runs[j]? = some s → s.stage.accepted → j < i →
      s.stage.isSettled)
    (count : c'.queuedAppends + 1 = c.queuedAppends + [stage].countP (·.queued))
    (flag : ∀ (j : RunId) (s : Run Value) (k : CallId), c'.runs[j]? = some s →
      s.stage = .stalled k → c'.writeIsStalled = true)
    (wrote : ∀ (k : CallId) (w : Write Value), c'.writes[k]? = some w →
      ∃ s, c'.runs[w.run]? = some s ∧ s.stage.Wrote k w.answer)
    (own : ∀ (j : RunId) (s : Run Value) (k : CallId) answer, c'.runs[j]? = some s →
      s.stage.Wrote k answer → ∃ w, c'.writes[k]? = some w ∧ w.run = j)
    (order : ∀ (k l : CallId) (w v : Write Value), c'.writes[k]? = some w →
      c'.writes[l]? = some v → k < l → w.run < v.run ∧ w.answer.isSome = true) :
    c'.Serial options := by
  obtain ⟨unsettled, ok⟩ := RunStage.unsettled_of_queued queued
  have counted := countP_set_add (fun r : Run Value => r.stage.queued) at_i { r with stage }
  simp only [List.countP_cons, List.countP_nil, queued, if_true] at counted count
  constructor
  · intro j l s t at_j at_l ok_j ok_l before
    rw [runs] at at_j at_l
    have known : ∃ s', c.runs[j]? = some s' ∧ s'.stage.accepted := by
      rcases getElem?_set_cases at_j with ⟨rfl, -⟩ | ⟨-, old⟩
      · exact ⟨r, at_i, ok⟩
      · exact ⟨s, old, ok_j⟩
    obtain ⟨s', old_j, ok_j'⟩ := known
    rcases getElem?_set_cases at_l with ⟨rfl, rfl⟩ | ⟨-, old⟩
    · exact h.linked j l s' r old_j at_i ok_j' ok before
    · exact h.linked j l s' t old_j old ok_j' ok_l before
  · intro j s at_j ok_j
    rw [runs] at at_j
    rw [pending]
    rcases getElem?_set_cases at_j with ⟨rfl, -⟩ | ⟨-, old⟩
    · exact h.last j r at_i ok
    · exact h.last j s old ok_j
  · intro j l s t at_j at_l ok_j started before
    rw [runs] at at_j at_l
    rcases getElem?_set_cases at_l with ⟨rfl, rfl⟩ | ⟨other, old⟩
    · rcases getElem?_set_cases at_j with ⟨rfl, -⟩ | ⟨-, old⟩
      · exact absurd before (Nat.lt_irrefl _)
      · exact turn j s old ok_j before
    · rcases getElem?_set_cases at_j with ⟨rfl, -⟩ | ⟨-, old'⟩
      · exact absurd (h.serial j l r t at_i old ok started before) unsettled
      · exact h.serial j l s t old' old ok_j started before
  · exact wrote
  · exact own
  · exact order
  · rw [runs]
    have before := h.queued
    omega
  · have before := h.bound
    have less : (if stage.queued = true then 1 else 0) ≤ 1 := by split <;> omega
    omega
  · exact flag

/-- An append gets on, with the write it has made. -/
theorem Chain.Serial.advanced (h : c.Serial options) (at_i : c.runs[i]? = some r)
    (queued : r.stage.queued = true) (runs : c'.runs = c.runs.set i { r with stage })
    (rest : c'.pendingAppend = c.pendingAppend ∧ c'.writes = c.writes)
    (turn : ∀ (j : RunId) (s : Run Value), c.runs[j]? = some s → s.stage.accepted → j < i →
      s.stage.isSettled)
    (count : c'.queuedAppends + 1 = c.queuedAppends + [stage].countP (·.queued))
    (flag : ∀ (j : RunId) (s : Run Value) (k : CallId), c'.runs[j]? = some s →
      s.stage = .stalled k → c'.writeIsStalled = true)
    (keeps : ∀ (k : CallId) (w : Write Value), c.writes[k]? = some w →
      r.stage.Wrote k w.answer → stage.Wrote k w.answer)
    (back : ∀ k answer, stage.Wrote k answer → ∃ answer', r.stage.Wrote k answer') :
    c'.Serial options := by
  obtain ⟨pending, writes⟩ := rest
  apply h.moved at_i queued runs pending turn count flag
  · intro k w at_k
    rw [writes] at at_k
    obtain ⟨s, at_run, wrote⟩ := h.wrote k w at_k
    rw [runs]
    by_cases same : w.run = i
    · rw [same] at at_run ⊢
      obtain rfl := Option.some.inj (at_i.symm.trans at_run)
      exact ⟨_, getElem?_set_of_some at_i _, keeps k w at_k wrote⟩
    · exact ⟨s, by rw [List.getElem?_set_ne (Ne.symm same), at_run], wrote⟩
  · intro j s k answer at_j wrote
    rw [runs] at at_j
    rw [writes]
    rcases getElem?_set_cases at_j with ⟨rfl, rfl⟩ | ⟨-, old⟩
    · obtain ⟨answer', before⟩ := back k answer wrote
      exact h.own j r k answer' at_i before
    · exact h.own j s k answer old wrote
  · rw [writes]
    exact h.order

/-- Every append before one that may start has settled. -/
theorem Chain.Serial.turn (h : c.Serial options) (at_i : c.runs[i]? = some r)
    (queued : r.stage.queued = true) (resolved : r.stage.started ∨ c.Resolved r.previous)
    (j : RunId) (s : Run Value) (at_j : c.runs[j]? = some s) (ok : s.stage.accepted)
    (before : j < i) : s.stage.isSettled := by
  rcases resolved with started | resolved
  · exact h.serial j i s r at_j at_i ok started before
  · obtain ⟨p, previous, le⟩ :=
      h.linked j i s r at_j at_i ok (RunStage.unsettled_of_queued queued).2 before
    obtain ⟨t, outcome, at_p, stage⟩ := resolved p previous
    rcases Nat.eq_or_lt_of_le le with rfl | earlier
    · obtain rfl := Option.some.inj (at_j.symm.trans at_p)
      rw [stage]
      trivial
    · exact h.serial j p s t at_j at_p ok (by rw [stage]; trivial) earlier

theorem Chain.Serial.startLink (h : c.Serial options) (at_i : c.runs[i]? = some r)
    (stage : r.stage = .chained) (resolved : c.Resolved r.previous) (thrown : Option String) :
    (c.startLink i r thrown).Serial options := by
  have queued : r.stage.queued = true := by rw [stage]; rfl
  have turn := h.turn at_i queued (.inr resolved)
  have silent : ∀ k (answer : Option (Answer Value)), ¬ r.stage.Wrote k answer := by
    rw [stage]
    exact fun _ _ => id
  have waiting : 0 < c.queuedAppends := by
    rw [h.queued]
    exact List.countP_pos_iff.mpr ⟨r, List.mem_of_getElem? at_i, queued⟩
  have flag : ∀ (next : RunStage Value), (∀ k, next ≠ .stalled k) → ∀ (j : RunId) (s : Run Value)
      (k : CallId), (c.runs.set i { r with stage := next })[j]? = some s → s.stage = .stalled k →
      c.writeIsStalled = true := by
    intro next other j s k at_j stalled
    rcases getElem?_set_cases at_j with ⟨-, rfl⟩ | ⟨-, old⟩
    · exact absurd stalled (other k)
    · exact h.flag j s k old stalled
  have settles : ∀ outcome : Outcome Value, (∀ k answer, outcome ≠ .answered k answer) →
      (c.settle i r outcome).Serial options := by
    intro outcome other
    refine h.advanced at_i queued rfl ⟨rfl, rfl⟩ turn ?_ (flag _ nofun)
      (fun k w _ wrote => absurd wrote (silent k w.answer)) ?_
    · change c.queuedAppends - 1 + 1 = c.queuedAppends + 0
      omega
    · intro k answer wrote
      cases outcome with
      | answered call result => exact absurd rfl (other call result)
      | abandoned | threw => exact wrote.elim
  unfold Chain.startLink
  split
  · exact settles .abandoned nofun
  · split
    · exact settles (.threw _) nofun
    · have at_new : (c.runs.set i { r with stage := .writing c.writes.length })[i]? =
          some { r with stage := .writing c.writes.length } := getElem?_set_of_some at_i _
      refine h.moved at_i queued rfl rfl turn rfl (flag _ nofun) ?_ ?_ ?_
      · intro k w at_k
        rcases getElem?_concat_cases at_k with ⟨rfl, rfl⟩ | ⟨-, old⟩
        · exact ⟨_, at_new, rfl⟩
        · obtain ⟨s, at_run, wrote⟩ := h.wrote k w old
          have other : i ≠ w.run := by
            rintro rfl
            obtain rfl := Option.some.inj (at_i.symm.trans at_run)
            exact silent k w.answer wrote
          exact ⟨s, (List.getElem?_set_ne other).trans at_run, wrote⟩
      · intro j s k answer at_j wrote
        rcases getElem?_set_cases at_j with ⟨rfl, rfl⟩ | ⟨-, old⟩
        · obtain rfl : c.writes.length = k := wrote
          exact ⟨{ run := j }, by simp, rfl⟩
        · obtain ⟨w, at_k, same⟩ := h.own j s k answer old wrote
          exact ⟨w, getElem?_concat_of_some at_k _, same⟩
      · intro k l w v at_k at_l before
        rcases getElem?_concat_cases at_l with ⟨rfl, rfl⟩ | ⟨within, old⟩
        · rcases getElem?_concat_cases at_k with ⟨rfl, -⟩ | ⟨-, old⟩
          · exact absurd before (Nat.lt_irrefl _)
          · obtain ⟨s, at_run, wrote⟩ := h.wrote k w old
            have started := RunStage.started_of_wrote wrote
            have earlier : w.run < i := by
              rcases Nat.lt_trichotomy w.run i with before | same | after
              · exact before
              · rw [same] at at_run
                obtain rfl := Option.some.inj (at_i.symm.trans at_run)
                exact absurd wrote (silent k w.answer)
              · obtain ⟨unsettled, ok⟩ := RunStage.unsettled_of_queued queued
                exact absurd (h.serial i w.run r s at_i at_run ok started after) unsettled
            have settled := turn w.run s at_run (RunStage.accepted_of_started started) earlier
            refine ⟨earlier, ?_⟩
            unfold RunStage.Wrote at wrote
            split at wrote <;> rename_i own
            · rw [own] at settled
              exact settled.elim
            · rw [own] at settled
              exact settled.elim
            · rw [wrote.2]
              rfl
            · exact wrote.elim
        · rcases getElem?_concat_cases at_k with ⟨rfl, -⟩ | ⟨-, old'⟩
          · exact absurd (Nat.lt_trans before within) (Nat.lt_irrefl _)
          · exact h.order k l w v old' old before

theorem Chain.Serial.answerWrite (h : c.Serial options) {call : CallId} {w : Write Value}
    (at_call : c.writes[call]? = some w) (waits : w.answer = none) (answer : Answer Value) :
    (c.answerWrite call w answer).Serial options := by
  refine { h with wrote := ?_, own := ?_, order := ?_ }
  · intro k v at_k
    rcases getElem?_set_cases at_k with ⟨rfl, rfl⟩ | ⟨-, old⟩
    · obtain ⟨s, at_run, wrote⟩ := h.wrote k w at_call
      refine ⟨s, at_run, ?_⟩
      unfold RunStage.Wrote at wrote ⊢
      split at wrote
      · exact wrote
      · exact wrote
      · rw [waits] at wrote
        exact absurd wrote.2 nofun
      · exact wrote.elim
    · exact h.wrote k v old
  · intro i r k answer' at_i wrote
    obtain ⟨v, at_k, same⟩ := h.own i r k answer' at_i wrote
    by_cases own : k = call
    · subst own
      obtain rfl := Option.some.inj (at_call.symm.trans at_k)
      exact ⟨_, getElem?_set_of_some at_call _, same⟩
    · exact ⟨v, (List.getElem?_set_ne (Ne.symm own)).trans at_k, same⟩
  · intro k l v u at_k at_l before
    have answered : ∀ (k : CallId) (v : Write Value),
        (c.writes.set call { w with answer := some answer })[k]? = some v → ∃ v', c.writes[k]? = some v' ∧
          v.run = v'.run ∧ (v'.answer.isSome = true → v.answer.isSome = true) := by
      intro k v at_k
      rcases getElem?_set_cases at_k with ⟨rfl, rfl⟩ | ⟨-, old⟩
      · exact ⟨w, at_call, rfl, fun _ => rfl⟩
      · exact ⟨v, old, rfl, id⟩
    obtain ⟨v', old, same, grows⟩ := answered k v at_k
    obtain ⟨u', old', same', -⟩ := answered l u at_l
    obtain ⟨less, done⟩ := h.order k l v' u' old old' before
    exact ⟨by rw [same, same']; exact less, grows done⟩

theorem Chain.Serial.outliveCap (h : c.Serial options) {call : CallId} (at_i : c.runs[i]? = some r)
    (stage : r.stage = .writing call) :
    (c.outliveCap i r call).Serial options := by
  have queued : r.stage.queued = true := by rw [stage]; rfl
  refine h.advanced at_i queued rfl ⟨rfl, rfl⟩
    (h.turn at_i queued (.inl (by rw [stage]; trivial))) rfl (fun _ _ _ _ _ => rfl) ?_ ?_
  · intro k w _ wrote
    rw [stage] at wrote
    exact wrote
  · intro k answer wrote
    refine ⟨none, ?_⟩
    rw [stage]
    exact wrote

/-- A write's answer is that of its `run`. -/
theorem Chain.Serial.answered (h : c.Serial options) {i : RunId} {r : Run Value} {call : CallId}
    {w : Write Value} {answer : Answer Value} (at_i : c.runs[i]? = some r)
    (stage : r.stage = .writing call ∨ r.stage = .stalled call)
    (at_call : c.writes[call]? = some w) (answered : w.answer = some answer)
    (runs : c'.runs = c.runs.set i { r with stage := .settled (.answered call answer) })
    (rest : c'.pendingAppend = c.pendingAppend ∧ c'.writes = c.writes)
    (queued : c'.queuedAppends = c.queuedAppends - 1)
    (flag : c'.writeIsStalled = c.writeIsStalled ∨ r.stage = .stalled call) :
    c'.Serial options := by
  have open_i : r.stage.queued = true := by rcases stage with h | h <;> rw [h] <;> rfl
  have started : r.stage.started := by rcases stage with h | h <;> rw [h] <;> trivial
  have waiting : 0 < c.queuedAppends := by
    rw [h.queued]
    exact List.countP_pos_iff.mpr ⟨r, List.mem_of_getElem? at_i, open_i⟩
  have wrote : ∀ answer, r.stage.Wrote call answer := by
    intro answer
    rcases stage with h | h <;> rw [h] <;> rfl
  refine h.advanced at_i open_i runs rest (h.turn at_i open_i (.inl started)) ?_ ?_ ?_ ?_
  · rw [queued]
    change c.queuedAppends - 1 + 1 = c.queuedAppends + 0
    omega
  · intro j s k at_j stalled
    rw [runs] at at_j
    rcases getElem?_set_cases at_j with ⟨-, rfl⟩ | ⟨other, old⟩
    · cases stalled
    · rcases flag with same | own
      · rw [same]
        exact h.flag j s k old stalled
      · have unsettled := (RunStage.unsettled_of_queued open_i).1
        exact absurd (h.alone old at_i (by rw [stalled]; trivial) started
          (by rw [stalled]; exact id) unsettled) other
  · intro k v at_k was
    obtain rfl := RunStage.wrote_unique (wrote v.answer) was
    obtain rfl := Option.some.inj (at_call.symm.trans at_k)
    exact ⟨rfl, answered⟩
  · rintro k answer' ⟨rfl, -⟩
    exact ⟨none, wrote none⟩

theorem step_serial (h : Step options c c') (serial : c.Serial options) : c'.Serial options := by
  cases h with
  | run => exact serial.run
  | startLink id r thrown at_id stage resolved => exact serial.startLink at_id stage resolved thrown
  | answerWrite call w answer at_call waits => exact serial.answerWrite at_call waits answer
  | settle id r call w answer at_id stage at_call answered =>
    exact serial.answered at_id (.inl stage) at_call answered rfl ⟨rfl, rfl⟩ rfl (.inl rfl)
  | outliveCap id r call at_id stage => exact serial.outliveCap at_id stage
  | settleStalled id r call w answer at_id stage at_call answered =>
    exact serial.answered at_id (.inr stage) at_call answered rfl ⟨rfl, rfl⟩ rfl (.inr stage)
  | _ => exact serial.same rfl rfl ⟨rfl, rfl, rfl⟩

/-! ## Reads -/

theorem owed_false {r : Read Value} (h : r.stage ≠ .outlived) : r.owed = false := by
  unfold Read.owed
  split
  · rename_i stage _
    exact absurd stage h
  · rfl

/-- A read gets on that does not outlive its bound, and has not. -/
theorem counts_moveRead {i : ReadId} {r : Read Value} (stage : ReadStage Value)
    (counts : c.stalledReads = c.reads.countP Read.owed) (at_i : c.reads[i]? = some r)
    (before : r.stage ≠ .outlived) (after : stage ≠ .outlived) :
    (c.moveRead i r stage).stalledReads = (c.moveRead i r stage).reads.countP Read.owed := by
  have counted := countP_set_add Read.owed at_i { r with stage }
  have now : Read.owed { r with stage } = false := owed_false after
  refine counts.trans (Eq.symm ?_)
  change (c.reads.set i { r with stage }).countP Read.owed = _
  simpa [owed_false before, now] using counted

theorem startLink_reads (i : RunId) (r : Run Value) (thrown : Option String) :
    (c.startLink i r thrown).reads = c.reads ∧
      (c.startLink i r thrown).stalledReads = c.stalledReads := by
  unfold Chain.startLink
  split
  · exact ⟨rfl, rfl⟩
  · split <;> exact ⟨rfl, rfl⟩

theorem run_reads : (c.run options).reads = c.reads ∧
    (c.run options).stalledReads = c.stalledReads := by
  unfold Chain.run
  split <;> exact ⟨rfl, rfl⟩

theorem step_counts (h : Step options c c') (counts : c.stalledReads = c.reads.countP Read.owed) :
    c'.stalledReads = c'.reads.countP Read.owed := by
  cases h with
  | run => rw [run_reads.1, run_reads.2, counts]
  | startLink id r thrown =>
    rw [(startLink_reads id r thrown).1, (startLink_reads id r thrown).2, counts]
  | runRead =>
    change c.stalledReads = (c.reads ++ [_]).countP Read.owed
    rw [List.countP_append, counts]
    have fresh : ∀ stage : ReadStage Value, Read.owed { stage } = true → stage = .outlived := by
      intro stage owed
      by_contra other
      have none_owed : Read.owed { stage } = false := owed_false other
      rw [none_owed] at owed
      cases owed
    rw [List.countP_singleton, if_neg, Nat.add_zero]
    intro owed
    have := fresh _ owed
    split at this <;> cases this
  | turnAway id r head at_id stage =>
    exact counts_moveRead _ counts at_id (by rw [stage]; exact nofun) nofun
  | issue id r head at_id stage =>
    exact counts_moveRead _ counts at_id (by rw [stage]; exact nofun) nofun
  | issueThrows id r head error at_id stage =>
    exact counts_moveRead _ counts at_id (by rw [stage]; exact nofun) nofun
  | settleRead id r answer at_id stage =>
    exact counts_moveRead _ counts at_id (by rw [stage]; exact nofun) nofun
  | outliveRead id r at_id stage waits =>
    have counted := countP_set_add Read.owed at_id { r with stage := .outlived }
    have before : r.owed = false := owed_false (by rw [stage]; exact nofun)
    have now : Read.owed { r with stage := .outlived } = true := by simp [Read.owed, waits]
    simp only [List.countP_cons, List.countP_nil, before, now, if_true] at counted
    change c.stalledReads + 1 = (c.reads.set id _).countP Read.owed
    simp only [Bool.false_eq_true, if_false] at counted
    omega
  | answerRead id r answer at_id stage waits =>
    have counted := countP_set_add Read.owed at_id { r with answer := some answer }
    have now : Read.owed { r with answer := some answer } = false := by simp [Read.owed]
    unfold Chain.answerRead
    rcases stage with stage | stage
    · have before : r.owed = false := owed_false (by rw [stage]; exact nofun)
      simp only [stage]
      simp only [List.countP_cons, List.countP_nil, before, now] at counted
      simp only [stage] at counted
      omega
    · have before : r.owed = true := by simp [Read.owed, stage, waits]
      simp only [stage]
      simp only [List.countP_cons, List.countP_nil, before, now, if_true, Bool.false_eq_true,
        if_false] at counted
      simp only [stage] at counted
      omega
  | _ => exact counts

/-! ## What stays as it is -/

theorem set_queued_of_final {j : RunId} {s : Run Value} (at_i : c.runs[i]? = some r)
    (at_j : c.runs[j]? = some s) (final : r.stage.queued = false) (queued : s.stage.queued = true)
    (s' : Run Value) : (c.runs.set j s')[i]? = some r := by
  have other : j ≠ i := by
    rintro rfl
    obtain rfl := Option.some.inj (at_i.symm.trans at_j)
    rw [final] at queued
    cases queued
  rw [List.getElem?_set_ne other, at_i]

/-- A call of `run` that has its outcome keeps it. -/
theorem step_final (h : Step options c c') (at_i : c.runs[i]? = some r)
    (final : r.stage.queued = false) : c'.runs[i]? = some r := by
  cases h with
  | run =>
    unfold Chain.run
    split <;> exact getElem?_concat_of_some at_i _
  | startLink id s thrown at_id stage =>
    have kept := set_queued_of_final at_i at_id final (by rw [stage]; rfl)
    unfold Chain.startLink
    split
    · exact kept _
    · split <;> exact kept _
  | settle id s call w answer at_id stage =>
    exact set_queued_of_final at_i at_id final (by rw [stage]; rfl) _
  | outliveCap id s call at_id stage =>
    exact set_queued_of_final at_i at_id final (by rw [stage]; rfl) _
  | settleStalled id s call w answer at_id stage =>
    exact set_queued_of_final at_i at_id final (by rw [stage]; rfl) _
  | _ => exact at_i

/-- Once `close` gave up draining, no write starts. -/
theorem step_abandons (h : Step options c c') (abandons : c.abandonQueuedAppends = true) :
    c'.abandonQueuedAppends = true ∧ c'.writes.length = c.writes.length := by
  cases h with
  | run =>
    unfold Chain.run
    split <;> exact ⟨abandons, rfl⟩
  | startLink id r thrown =>
    unfold Chain.startLink
    rw [if_pos abandons]
    exact ⟨abandons, rfl⟩
  | answerWrite call w answer => exact ⟨abandons, List.length_set⟩
  | giveUp => exact ⟨rfl, rfl⟩
  | _ => exact ⟨abandons, rfl⟩

/-- A read that was refused is never issued. -/
theorem step_refused (h : Step options c c') {i : ReadId} {r : Read Value}
    (at_i : c.reads[i]? = some r) (refused : r.stage = .refused) : c'.reads[i]? = some r := by
  have kept : ∀ (j : ReadId) (s : Read Value), c.reads[j]? = some s → s.stage ≠ .refused →
      ∀ s', (c.reads.set j s')[i]? = some r := by
    intro j s at_j other s'
    have apart : j ≠ i := by
      rintro rfl
      obtain rfl := Option.some.inj (at_i.symm.trans at_j)
      exact other refused
    rw [List.getElem?_set_ne apart, at_i]
  cases h with
  | run => rw [run_reads.1, at_i]
  | startLink id s thrown => rw [(startLink_reads id s thrown).1, at_i]
  | runRead => exact getElem?_concat_of_some at_i _
  | turnAway id s head at_id stage => exact kept id s at_id (by rw [stage]; exact nofun) _
  | issue id s head at_id stage => exact kept id s at_id (by rw [stage]; exact nofun) _
  | issueThrows id s head error at_id stage => exact kept id s at_id (by rw [stage]; exact nofun) _
  | answerRead id s answer at_id stage =>
    refine kept id s at_id ?_ _
    rcases stage with stage | stage <;> rw [stage] <;> exact nofun
  | outliveRead id s at_id stage => exact kept id s at_id (by rw [stage]; exact nofun) _
  | settleRead id s answer at_id stage => exact kept id s at_id (by rw [stage]; exact nofun) _
  | _ => exact at_i

theorem run_final (h : Relation.ReflTransGen (Step options) c c') (at_i : c.runs[i]? = some r)
    (final : r.stage.queued = false) : c'.runs[i]? = some r := by
  induction h with
  | refl => exact at_i
  | tail _ step ih => exact step_final step ih final

theorem run_abandons (h : Relation.ReflTransGen (Step options) c c')
    (abandons : c.abandonQueuedAppends = true) :
    c'.abandonQueuedAppends = true ∧ c'.writes.length = c.writes.length := by
  induction h with
  | refl => exact ⟨abandons, rfl⟩
  | tail _ step ih =>
    obtain ⟨still, same⟩ := step_abandons step ih.1
    exact ⟨still, same.trans ih.2⟩

theorem run_refused (h : Relation.ReflTransGen (Step options) c c') {i : ReadId} {r : Read Value}
    (at_i : c.reads[i]? = some r) (refused : r.stage = .refused) : c'.reads[i]? = some r := by
  induction h with
  | refl => exact at_i
  | tail _ step ih => exact step_refused step ih refused

theorem reachable_serial (h : Reachable options c) :
    c.Serial options ∧ c.stalledReads = c.reads.countP Read.owed := by
  induction h with
  | refl => exact ⟨⟨nofun, nofun, nofun, nofun, nofun, nofun, rfl, Nat.zero_le _, nofun⟩, rfl⟩
  | tail _ step ih => exact ⟨step_serial step ih.1, step_counts step ih.2⟩

end Steps

/-! ## The chain -/

variable {options : AppendChainOptions}

/-- What a call of `run` has to show for the write it was given. -/
def Chain.Accounts (c : Chain Value) (i : RunId) : RunStage Value → Prop
  | .writing call | .stalled call => ∃ w, c.writes[call]? = some w ∧ w.run = i
  | .settled (.answered call answer) =>
    ∃ w, c.writes[call]? = some w ∧ w.run = i ∧ w.answer = some answer
  | _ => ∀ w ∈ c.writes, w.run ≠ i

/-- A write is past its cap, or a read outlived its bound and is unanswered. -/
def Chain.Unanswering (c : Chain Value) : Prop :=
  (∃ r ∈ c.runs, ∃ call, r.stage = .stalled call) ∨ 0 < c.stalledReads

theorem Chain.Serial.accounts {c : Chain Value} (h : c.Serial options) (at_i : c.runs[i]? = some r) :
    c.Accounts i r.stage := by
  have silent : (∀ k answer, ¬ r.stage.Wrote k answer) → ∀ w ∈ c.writes, w.run ≠ i := by
    rintro none_made w mem rfl
    obtain ⟨k, at_k⟩ := List.mem_iff_getElem?.mp mem
    obtain ⟨s, at_run, wrote⟩ := h.wrote k w at_k
    obtain rfl := Option.some.inj (at_i.symm.trans at_run)
    exact none_made k w.answer wrote
  have made := fun k answer => h.own i r k answer at_i
  cases stage : r.stage with
  | refused | chained => exact silent (by rw [stage]; exact fun _ _ => id)
  | writing call | stalled call => exact made call none (by rw [stage]; rfl)
  | settled outcome =>
    cases outcome with
    | abandoned | threw => exact silent (by rw [stage]; exact fun _ _ => id)
    | answered call answer =>
      have wrote : r.stage.Wrote call (some answer) := by rw [stage]; exact ⟨rfl, rfl⟩
      obtain ⟨w, at_call, same⟩ := made call (some answer) wrote
      obtain ⟨s, at_run, own⟩ := h.wrote call w at_call
      rw [same, at_i] at at_run
      obtain rfl := Option.some.inj at_run
      rw [stage] at own
      exact ⟨w, at_call, same, own.2⟩

/-- Writes are started in the order of the calls of `run`, each once those before it were answered,
and no append starts before those accepted earlier have settled; a call of `run` keeps its one
outcome, and one that its write answered has that write's answer; the counters count; a `runRead`
called while the connection is known not to answer issues no read; and once `close` gave up
draining no write starts. -/
theorem appends_in_order {c : Chain Value} (h : Reachable options c) :
    (∀ (k l : CallId) (w v : Write Value), c.writes[k]? = some w → c.writes[l]? = some v → k < l →
      w.run < v.run ∧ w.answer.isSome = true) ∧
    (∀ (i j : RunId) (r s : Run Value), c.runs[i]? = some r → c.runs[j]? = some s →
      r.stage.accepted → s.stage.started → i < j → r.stage.isSettled) ∧
    (∀ (i : RunId) (r : Run Value), c.runs[i]? = some r → c.Accounts i r.stage ∧
      (r.stage.queued = false → ∀ c', Relation.ReflTransGen (Step options) c c' →
        c'.runs[i]? = some r)) ∧
    c.queuedAppends = c.runs.countP (·.stage.queued) ∧
    c.queuedAppends ≤ options.maxPendingAppends ∧
    c.stalledReads = c.reads.countP Read.owed ∧
    (c.Unanswering → ∀ c', Relation.ReflTransGen (Step options) c.runRead c' →
      c'.reads[c.reads.length]? = some { stage := .refused }) ∧
    (c.abandonQueuedAppends = true → ∀ c', Relation.ReflTransGen (Step options) c c' →
      c'.writes.length = c.writes.length) := by
  obtain ⟨serial, counts⟩ := reachable_serial h
  refine ⟨serial.order, serial.serial, ?_, serial.queued, serial.bound, counts, ?_, ?_⟩
  · intro i r at_i
    exact ⟨serial.accounts at_i, fun final c' later => run_final later at_i final⟩
  · intro unanswering c' later
    have known : c.writeIsStalled = true ∨ 0 < c.stalledReads := by
      rcases unanswering with ⟨r, mem, call, stage⟩ | stalled
      · obtain ⟨i, at_i⟩ := List.mem_iff_getElem?.mp mem
        exact .inl (serial.flag i r call at_i stage)
      · exact .inr stalled
    have refused : c.runRead.reads[c.reads.length]? = some { stage := .refused } := by
      simp [Chain.runRead, known]
    exact run_refused later refused rfl
  · exact fun abandons c' later => (run_abandons later abandons).2

/-- A read that was behind one write when a second read was called, and outlives its bound while
the second waits for the queue: the second is issued behind it all the same. -/
theorem read_issued_behind_stalled : ∃ c c' : Chain Nat,
    Reachable { maxPendingAppends := 512, closeSettleTimeoutMs := 1500 } c ∧
    Step { maxPendingAppends := 512, closeSettleTimeoutMs := 1500 } c c' ∧ 0 < c.stalledReads ∧
    c.reads[1]? = some { stage := .waiting (some 1) } ∧ c'.reads[1]? = some { stage := .reading } := by
  have waits : Reachable { maxPendingAppends := 512, closeSettleTimeoutMs := 1500 } _ :=
    (((((Relation.ReflTransGen.single (.run _)).tail (.startLink _ 0 _ none rfl rfl nofun)).tail
      (.run _)).tail (.run _)).tail (.runRead _)).tail (.answerWrite _ 0 _ (.ok 0) rfl rfl)
  have behind := ((waits.tail (.settle _ 0 _ 0 _ _ rfl rfl rfl rfl)).tail
    (.startLink _ 1 _ none rfl rfl (by rintro _ ⟨⟩; exact ⟨_, _, rfl, rfl⟩))).tail
      (.issue _ 0 _ _ rfl rfl (by rintro _ ⟨⟩; exact ⟨_, rfl, rfl⟩))
  have outlived := ((((behind.tail (.runRead _)).tail (.answerWrite _ 1 _ (.ok 1) rfl rfl)).tail
    (.settle _ 1 _ 1 _ _ rfl rfl rfl rfl)).tail
      (.startLink _ 2 _ none rfl rfl (by rintro _ ⟨⟩; exact ⟨_, _, rfl, rfl⟩))).tail
        (.outliveRead _ 0 _ rfl rfl rfl)
  refine ⟨_, _, outlived, .issue _ 1 _ (some 1) rfl rfl ?_, Nat.one_pos, rfl, rfl⟩
  rintro _ ⟨⟩
  exact ⟨_, rfl, rfl⟩

/-- The same connection, called once more: that read is refused. -/
theorem appends_in_order_refused : ∃ c : Chain Nat,
    Reachable { maxPendingAppends := 512, closeSettleTimeoutMs := 1500 } c ∧ c.stalledReads = 1 ∧
    c.runRead.reads[1]? = some { stage := .refused } := by
  have outlived : @Reachable Nat { maxPendingAppends := 512, closeSettleTimeoutMs := 1500 } _ :=
    ((Relation.ReflTransGen.single (.runRead _)).tail (.issue _ 0 _ none rfl rfl nofun)).tail
      (.outliveRead _ 0 _ rfl rfl rfl)
  have refused := (appends_in_order outlived).2.2.2.2.2.2.1 (.inr Nat.one_pos) _ .refl
  exact ⟨_, outlived, rfl, refused⟩

end BiliSyncPlay.AppendChain
