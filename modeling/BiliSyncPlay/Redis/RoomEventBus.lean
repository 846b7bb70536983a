import BiliSyncPlay.JsMap
import BiliSyncPlay.Lists
import Mathlib.Logic.Relation

/-!
# The subscription of the room event bus

Many handlers share one subscription, and whoever finds it wrong drives it by one command that all
of them await. A step is one synchronous stretch. A command is answered by the socket, which is
read when no continuation is left to run, and what its answer does to `subscribed` comes with it;
a SUBSCRIBE whose time is up is one that was rejected.
-/

namespace BiliSyncPlay.RoomEventBus

/-! ## The bus -/

/-- A handler, by its identity. -/
abbrev Handler := Nat

/-- A call of `subscribe` or of an unsubscribe function; it stands for the listener it made. -/
abbrev CallId := Nat

abbrev OperationId := Nat

inductive Command where
  | subscribe
  | unsubscribe
  deriving DecidableEq

inductive Outcome where
  | acknowledged
  | rejected
  deriving DecidableEq

/-- `executed`: Redis has done it. -/
structure Operation where
  command : Command
  executed : Bool := false
  outcome : Option Outcome := none
  deriving DecidableEq

inductive Intent where
  | subscribe (handler : Handler)
  /-- By the function that this call of `subscribe` resolved with. -/
  | unsubscribe (call : CallId)
  deriving DecidableEq

inductive Phase where
  /-- In its first stretch. -/
  | running
  | waiting (operation : OperationId)
  /-- The subscription was not reconciled, and `subscribe` has not caught that yet. -/
  | throwing
  | resolved
  | rejected
  deriving DecidableEq

structure Call where
  intent : Intent
  phase : Phase
  deriving DecidableEq

/-- `channelSubscribed` is Redis's; `rejectedSince`: a command was rejected since the last that was
acknowledged. -/
structure Bus where
  subscribers : JsMap Handler CallId := .empty
  subscribed : Bool := false
  subscriptionOperation : Option OperationId := none
  closing : Bool := false
  operations : List Operation := []
  listeners : List CallId := []
  calls : List Call := []
  channelSubscribed : Bool := false
  rejectedSince : Bool := false

namespace Bus

/-- Up to where the caller awaits a command or leaves the loop. -/
def reconcileSubscription (intent : Intent) (b : Bus) : Phase × Bus :=
  if b.closing then
    match intent with
    | .unsubscribe _ => (.resolved, b)
    | .subscribe _ => (.throwing, b)
  else
    match b.subscriptionOperation with
    | some operation => (.waiting operation, b)
    | none =>
      let subscriptionDesired := decide (0 < b.subscribers.size)
      if subscriptionDesired = b.subscribed then (.resolved, b)
      else
        (.waiting b.operations.length,
          { b with
            operations := b.operations ++
              [{ command := if subscriptionDesired then .subscribe else .unsubscribe }]
            subscriptionOperation := some b.operations.length })

def proceed (i : CallId) (intent : Intent) (b : Bus) : Bus :=
  let (phase, b) := b.reconcileSubscription intent
  { b with calls := b.calls.set i { intent, phase } }

def answer (call : Call) (b : Bus) : Bus := { b with calls := b.calls ++ [call] }

def subscribe (handler : Handler) (b : Bus) : Bus :=
  if b.closing then b.answer { intent := .subscribe handler, phase := .resolved }
  else if b.subscribers.has handler then
    b.answer { intent := .subscribe handler, phase := .rejected }
  else
    let listener := b.calls.length
    let b := { b with
      subscribers := b.subscribers.set handler listener
      listeners := b.listeners ++ [listener] }
    (b.answer { intent := .subscribe handler, phase := .running }).proceed listener
      (.subscribe handler)

/-- The handler and its listener taken out. -/
def remove (handler : Handler) (listener : CallId) (b : Bus) : Bus :=
  { b with
    subscribers := b.subscribers.delete handler
    listeners := b.listeners.filter (· ≠ listener) }

def removeSubscriber (handler : Handler) (listener : CallId) (b : Bus) : Bus :=
  if b.subscribers.get? handler ≠ some listener then
    b.answer { intent := .unsubscribe listener, phase := .resolved }
  else
    ((b.remove handler listener).answer
      { intent := .unsubscribe listener, phase := .running }).proceed b.calls.length
        (.unsubscribe listener)

def close (b : Bus) : Bus :=
  { b with
    closing := true
    listeners := b.listeners.filter (· ∉ b.subscribers.values)
    subscribers := .empty
    subscribed := false }

/-- Redis does what the command says. -/
def execute (i : OperationId) (command : Command) (b : Bus) : Bus :=
  { b with
    operations := b.operations.set i { command, executed := true }
    channelSubscribed := command = .subscribe }

def acknowledge (i : OperationId) (command : Command) (b : Bus) : Bus :=
  { b with
    operations := b.operations.set i
      { command, executed := true, outcome := some .acknowledged }
    subscribed :=
      match command with
      | .subscribe => if b.closing then b.subscribed else true
      | .unsubscribe => false
    rejectedSince := false }

def reject (i : OperationId) (command : Command) (executed : Bool) (b : Bus) : Bus :=
  { b with
    operations := b.operations.set i { command, executed, outcome := some .rejected }
    rejectedSince := true }

/-- The `finally` of a caller. -/
def release (operation : OperationId) (b : Bus) : Bus :=
  if b.subscriptionOperation = some operation then { b with subscriptionOperation := none } else b

/-- A caller goes on with what the command it awaited came to. -/
def resume (i : CallId) (intent : Intent) (operation : OperationId) (outcome : Outcome) (b : Bus) :
    Bus :=
  match outcome with
  | .acknowledged => (b.release operation).proceed i intent
  | .rejected =>
    let phase :=
      match intent with
      | .subscribe _ => .throwing
      | .unsubscribe _ => if b.closing then .resolved else .rejected
    let b := b.release operation
    { b with calls := b.calls.set i { intent, phase } }

/-- The `catch` of `subscribe`. -/
def caught (i : CallId) (handler : Handler) (b : Bus) : Bus :=
  let b := if b.subscribers.get? handler = some i then b.remove handler i else b
  { b with calls := b.calls.set i { intent := .subscribe handler, phase := .rejected } }

/-- No continuation is left to run. -/
def drained (b : Bus) : Bool :=
  b.calls.all fun call =>
    match call.phase with
    | .waiting operation => ((b.operations[operation]?).bind (·.outcome)).isNone
    | .throwing => false
    | _ => true

end Bus

/-- `loses`: an UNSUBSCRIBE may be rejected that Redis executed. -/
inductive Step (loses : Bool) : Bus → Bus → Prop where
  | subscribe (b : Bus) (handler : Handler) : Step loses b (b.subscribe handler)
  | unsubscribe (b : Bus) (call : CallId) (handler : Handler)
      (given : b.calls[call]? = some { intent := .subscribe handler, phase := .resolved }) :
      Step loses b (b.removeSubscriber handler call)
  | close (b : Bus) : Step loses b b.close
  | execute (b : Bus) (i : OperationId) (command : Command)
      (sent : b.operations[i]? = some { command }) : Step loses b (b.execute i command)
  | acknowledge (b : Bus) (i : OperationId) (command : Command)
      (done : b.operations[i]? = some { command, executed := true })
      (drained : b.drained = true) : Step loses b (b.acknowledge i command)
  | reject (b : Bus) (i : OperationId) (command : Command) (executed : Bool)
      (sent : b.operations[i]? = some { command, executed }) (drained : b.drained = true)
      (spared : executed = true → command = .unsubscribe ∧ loses = true) :
      Step loses b (b.reject i command executed)
  | resume (b : Bus) (i : CallId) (intent : Intent) (operation : OperationId) (own : Operation)
      (outcome : Outcome) (waits : b.calls[i]? = some { intent, phase := .waiting operation })
      (awaited : b.operations[operation]? = some own) (settled : own.outcome = some outcome) :
      Step loses b (b.resume i intent operation outcome)
  | caught (b : Bus) (i : CallId) (handler : Handler)
      (threw : b.calls[i]? = some { intent := .subscribe handler, phase := .throwing }) :
      Step loses b (b.caught i handler)

def Reachable (loses : Bool) : Bus → Prop := Relation.ReflTransGen (Step loses) {}

/-! ## What every step keeps -/

/-- Some caller still has to hear of the operation, or finds it as the one to await. -/
def Bus.Awaited (b : Bus) (operation : OperationId) : Prop :=
  b.subscriptionOperation = some operation ∨
    ∃ call ∈ b.calls, call.phase = .waiting operation

/-- A subscriber whose call has resolved. -/
def Bus.Served (b : Bus) (handler : Handler) (call : CallId) : Prop :=
  b.calls[call]? = some { intent := .subscribe handler, phase := .resolved }

/-- What holds of the bus but for the subscription being the one that is desired. -/
structure Loose (loses : Bool) (b : Bus) : Prop where
  slot : ∀ (i : OperationId) (operation : Operation), b.operations[i]? = some operation →
    operation.outcome = none → b.subscriptionOperation = some i
  failed : ∀ (i : OperationId) (operation : Operation), b.operations[i]? = some operation →
    operation.outcome = some .rejected → b.Awaited i → b.rejectedSince = true
  throwing : b.closing = false → ∀ call ∈ b.calls, call.phase = .throwing →
    b.rejectedSince = true
  listed : ∀ (handler : Handler) (call : CallId), b.subscribers.get? handler = some call →
    call ∈ b.listeners ∧ ∃ phase, b.calls[call]? = some { intent := .subscribe handler, phase }
  served : b.closing = false → ∀ (handler : Handler) (call : CallId), b.Served handler call →
    (∀ other ∈ b.calls, other.intent ≠ .unsubscribe call) →
    b.subscribers.get? handler = some call
  joined : b.closing = false → ∀ (handler : Handler) (call : CallId) (operation : OperationId),
    b.calls[call]? = some { intent := .subscribe handler, phase := .waiting operation } →
    b.subscribers.get? handler = some call
  steady : b.closing = false → ∀ (handler : Handler) (call : CallId),
    b.subscribers.get? handler = some call → b.Served handler call →
    b.subscriptionOperation = none ∧ b.subscribed = true
  channel : loses = false → b.closing = false →
    (∀ operation ∈ b.operations, operation.outcome = none → operation.executed = false) →
    b.channelSubscribed = b.subscribed
  executed : loses = false → b.closing = false → ∀ operation ∈ b.operations,
    operation.outcome = none → operation.executed = true →
    b.channelSubscribed = decide (operation.command = .subscribe)

/-- Some call other than this one awaits the operation of the moment. -/
def Bus.AttendedBy (b : Bus) (others : CallId → Prop) : Prop :=
  ∀ operation, b.subscriptionOperation = some operation → operation < b.operations.length ∧
    ∃ (j : CallId) (call : Call), others j ∧ b.calls[j]? = some call ∧
      call.phase = .waiting operation

structure Valid (loses : Bool) (b : Bus) : Prop extends Loose loses b where
  attended : b.AttendedBy fun _ => True
  reconciled : b.closing = false → b.subscriptionOperation = none → b.rejectedSince = false →
    (b.subscribed = true ↔ 0 < b.subscribers.size)

section Steps

variable {loses : Bool} {b t : Bus} {i : CallId} {intent : Intent} {phase : Phase}

/-! ### Calls -/

variable {call : Call} {handler : Handler} {operation : OperationId}

theorem size_pos_of_get? {call : CallId} (held : b.subscribers.get? handler = some call) :
    0 < b.subscribers.size := by
  apply Nat.pos_of_ne_zero
  intro empty
  rw [JsMap.size_eq_zero_iff.mp empty handler] at held
  cases held

/-- A call moves on. -/
theorem Loose.moved (loose : Loose loses b) {old : Phase}
    (held : b.calls[i]? = some { intent, phase := old })
    (waits : ∀ operation, phase = .waiting operation → b.subscriptionOperation = some operation)
    (throws : phase = .throwing → b.closing = false → b.rejectedSince = true)
    (own : phase = .rejected ∨ phase = .throwing ∨ (b.closing = false → ∀ handler,
      intent = .subscribe handler → b.subscribers.get? handler = some i))
    (resolves : phase = .resolved → b.closing = false → ∀ handler, intent = .subscribe handler →
      b.subscriptionOperation = none ∧ b.subscribed = true) :
    Loose loses { b with calls := b.calls.set i { intent, phase } } := by
  constructor
  · exact loose.slot
  · intro j operation at_j rejected awaited
    apply loose.failed j operation at_j rejected
    rcases awaited with current | ⟨call, mem, waiting⟩
    · exact .inl current
    · rcases List.mem_or_eq_of_mem_set mem with was | rfl
      · exact .inr ⟨call, was, waiting⟩
      · exact .inl (waits j waiting)
  · intro opened call mem throwing
    rcases List.mem_or_eq_of_mem_set mem with was | rfl
    · exact loose.throwing opened call was throwing
    · exact throws throwing opened
  · intro handler call installed
    obtain ⟨listens, own, at_call⟩ := loose.listed handler call installed
    refine ⟨listens, ?_⟩
    by_cases same : call = i
    · subst same
      rw [held] at at_call
      cases at_call
      exact ⟨phase, getElem?_set_of_some held _⟩
    · exact ⟨own, by rw [List.getElem?_set_ne (Ne.symm same)]; exact at_call⟩
  · intro opened handler call served kept
    rcases getElem?_set_cases served with ⟨rfl, same⟩ | ⟨-, was⟩
    · cases same
      rcases own with rejected | throwing | own
      · cases rejected
      · cases throwing
      · exact own opened handler rfl
    · apply loose.served opened handler call was
      intro other mem undone
      obtain ⟨j, at_j⟩ := List.mem_iff_getElem?.mp mem
      by_cases here : j = i
      · subst here
        rw [held] at at_j
        cases at_j
        exact kept _ (List.mem_of_getElem? (getElem?_set_of_some held _)) undone
      · exact kept other (List.mem_of_getElem? (by
          rw [List.getElem?_set_ne (Ne.symm here)]; exact at_j)) undone
  · intro opened handler call operation waiting
    rcases getElem?_set_cases waiting with ⟨rfl, same⟩ | ⟨-, was⟩
    · cases same
      rcases own with rejected | throwing | own
      · cases rejected
      · cases throwing
      · exact own opened handler rfl
    · exact loose.joined opened handler call operation was
  · intro opened handler call installed served
    rcases getElem?_set_cases served with ⟨rfl, same⟩ | ⟨-, was⟩
    · cases same
      exact resolves rfl opened handler rfl
    · exact loose.steady opened handler call installed was
  · exact loose.channel
  · exact loose.executed

/-- A call is made that neither waits nor has a subscription. -/
theorem Loose.answer (loose : Loose loses b) (waits : ∀ operation, call.phase ≠ .waiting operation)
    (throws : call.phase ≠ .throwing) (resolves : call.phase = .resolved → b.closing = false →
      ∀ handler, call.intent ≠ .subscribe handler) : Loose loses (b.answer call) := by
  constructor
  · exact loose.slot
  · intro j operation at_j rejected awaited
    apply loose.failed j operation at_j rejected
    rcases awaited with current | ⟨other, mem, waiting⟩
    · exact .inl current
    · rcases List.mem_append.mp mem with was | new
      · exact .inr ⟨other, was, waiting⟩
      · rw [List.mem_singleton.mp new] at waiting
        exact absurd waiting (waits j)
  · intro opened other mem throwing
    rcases List.mem_append.mp mem with was | new
    · exact loose.throwing opened other was throwing
    · rw [List.mem_singleton.mp new] at throwing
      exact absurd throwing throws
  · intro handler other installed
    obtain ⟨listens, own, at_call⟩ := loose.listed handler other installed
    exact ⟨listens, own, getElem?_concat_of_some at_call call⟩
  · intro opened handler other served kept
    rcases getElem?_concat_cases served with ⟨-, same⟩ | ⟨-, was⟩
    · subst same
      exact absurd rfl (resolves rfl opened handler)
    · exact loose.served opened handler other was fun call mem =>
        kept call (List.mem_append_left _ mem)
  · intro opened handler other operation waiting
    rcases getElem?_concat_cases waiting with ⟨-, same⟩ | ⟨-, was⟩
    · subst same
      exact absurd rfl (waits operation)
    · exact loose.joined opened handler other operation was
  · intro opened handler other installed served
    rcases getElem?_concat_cases served with ⟨-, same⟩ | ⟨-, was⟩
    · subst same
      exact absurd rfl (resolves rfl opened handler)
    · exact loose.steady opened handler other installed was
  · exact loose.channel
  · exact loose.executed

theorem Loose.install (loose : Loose loses b) {listener : CallId}
    (absent : b.subscribers.get? handler = none)
    (held : b.calls[listener]? = some { intent := .subscribe handler, phase := .running }) :
    Loose loses { b with
      subscribers := b.subscribers.set handler listener
      listeners := b.listeners ++ [listener] } := by
  constructor
  · exact loose.slot
  · exact loose.failed
  · exact loose.throwing
  · intro other call installed
    dsimp only at installed
    by_cases same : other = handler
    · subst same
      rw [JsMap.get?_set_self] at installed
      cases installed
      exact ⟨List.mem_append_right _ (List.mem_singleton_self _), _, held⟩
    · rw [JsMap.get?_set_ne _ _ (Ne.symm same)] at installed
      obtain ⟨listens, own, at_call⟩ := loose.listed other call installed
      exact ⟨List.mem_append_left _ listens, own, at_call⟩
  · intro opened other call served kept
    have installed := loose.served opened other call served kept
    have different : handler ≠ other := by
      rintro rfl
      rw [absent] at installed
      cases installed
    dsimp only
    rw [JsMap.get?_set_ne _ _ different]
    exact installed
  · intro opened other call operation waiting
    have installed := loose.joined opened other call operation waiting
    have different : handler ≠ other := by
      rintro rfl
      rw [absent] at installed
      cases installed
    dsimp only
    rw [JsMap.get?_set_ne _ _ different]
    exact installed
  · intro opened other call installed served
    dsimp only at installed
    by_cases same : other = handler
    · subst same
      rw [JsMap.get?_set_self] at installed
      cases installed
      exact absurd (held.symm.trans served) nofun
    · rw [JsMap.get?_set_ne _ _ (Ne.symm same)] at installed
      exact loose.steady opened other call installed served
  · exact loose.channel
  · exact loose.executed

/-- A listener goes that no caller counts on. -/
theorem Loose.remove (loose : Loose loses b) {handler : Handler} {listener : CallId}
    (installed : b.subscribers.get? handler = some listener)
    (own : b.calls[listener]? = some { intent := .subscribe handler, phase })
    (resting : ∀ operation, phase ≠ .waiting operation)
    (undone : phase = .resolved → ∃ other ∈ b.calls, other.intent = .unsubscribe listener) :
    Loose loses (b.remove handler listener) := by
  have held {other : Handler} {call : CallId}
      (still : (b.subscribers.delete handler).get? other = some call) :
      other ≠ handler ∧ b.subscribers.get? other = some call := by
    by_cases same : other = handler
    · subst same
      rw [JsMap.get?_delete_self] at still
      cases still
    · rw [JsMap.get?_delete_ne _ (Ne.symm same)] at still
      exact ⟨same, still⟩
  constructor
  · exact loose.slot
  · exact loose.failed
  · exact loose.throwing
  · intro other call still
    obtain ⟨different, was⟩ := held still
    obtain ⟨listens, own, at_call⟩ := loose.listed other call was
    refine ⟨List.mem_filter.mpr ⟨listens, decide_eq_true ?_⟩, own, at_call⟩
    rintro rfl
    obtain ⟨-, own', at_call'⟩ := loose.listed handler call installed
    rw [at_call] at at_call'
    cases at_call'
    exact different rfl
  · intro opened other call served kept
    have was := loose.served opened other call served kept
    change (b.subscribers.delete handler).get? other = some call
    have different : handler ≠ other := by
      rintro rfl
      rw [installed] at was
      cases was
      cases own.symm.trans served
      obtain ⟨undoing, mem, intent⟩ := undone rfl
      exact kept undoing mem intent
    rw [JsMap.get?_delete_ne _ different]
    exact was
  · intro opened other call operation waiting
    have was := loose.joined opened other call operation waiting
    change (b.subscribers.delete handler).get? other = some call
    have different : handler ≠ other := by
      rintro rfl
      rw [installed] at was
      cases was
      cases own.symm.trans waiting
      exact resting operation rfl
    rw [JsMap.get?_delete_ne _ different]
    exact was
  · intro opened other call still served
    exact loose.steady opened other call (held still).2 served
  · exact loose.channel
  · exact loose.executed

/-! ### Operations -/

theorem Loose.release (loose : Loose loses b) {own : Operation}
    (awaited : b.operations[operation]? = some own) (settled : own.outcome ≠ none) :
    Loose loses (b.release operation) := by
  unfold Bus.release
  split
  · next current =>
    constructor
    · intro i other at_i pending
      have held := loose.slot i other at_i pending
      rw [current] at held
      cases held
      rw [awaited] at at_i
      cases at_i
      exact absurd pending settled
    · intro i other at_i rejected waited
      apply loose.failed i other at_i rejected
      rcases waited with none_ | waits
      · cases none_
      · exact .inr waits
    · exact loose.throwing
    · exact loose.listed
    · exact loose.served
    · exact loose.joined
    · intro opened handler call installed served
      exact ⟨rfl, (loose.steady opened handler call installed served).2⟩
    · exact loose.channel
    · exact loose.executed
  · exact loose

/-- A command is sent, where none is outstanding and the subscription is not the desired one. -/
theorem Loose.issue (loose : Loose loses b) (command : Command)
    (free : b.subscriptionOperation = none)
    (wrong : ¬ (b.subscribed = true ↔ 0 < b.subscribers.size)) :
    Loose loses { b with
      operations := b.operations ++ [{ command }]
      subscriptionOperation := some b.operations.length } := by
  have none_pending : ∀ operation ∈ b.operations, operation.outcome ≠ none := by
    intro operation mem pending
    obtain ⟨i, at_i⟩ := List.mem_iff_getElem?.mp mem
    have held := loose.slot i operation at_i pending
    rw [free] at held
    cases held
  constructor
  · intro i operation at_i pending
    rcases getElem?_concat_cases at_i with ⟨rfl, -⟩ | ⟨-, was⟩
    · rfl
    · exact absurd pending (none_pending operation (List.mem_of_getElem? was))
  · intro i operation at_i rejected awaited
    rcases getElem?_concat_cases at_i with ⟨-, rfl⟩ | ⟨below, was⟩
    · cases rejected
    · apply loose.failed i operation was rejected
      rcases awaited with current | waits
      · cases current
        exact absurd below (Nat.lt_irrefl _)
      · exact .inr waits
  · exact loose.throwing
  · exact loose.listed
  · exact loose.served
  · exact loose.joined
  · intro opened handler call installed served
    have right := (loose.steady opened handler call installed served).2
    exact absurd (iff_of_true right (size_pos_of_get? installed)) wrong
  · intro lossless opened idle
    exact loose.channel lossless opened fun operation mem pending =>
      absurd pending (none_pending operation mem)
  · intro lossless opened operation mem pending done
    rcases List.mem_append.mp mem with was | new
    · exact absurd pending (none_pending operation was)
    · rw [List.mem_singleton.mp new] at done
      cases done

/-- What a caller does once it has the loop: it leaves, or awaits the command of the moment. -/
inductive Proceeds (b : Bus) (i : CallId) (intent : Intent) : Bus → Prop where
  | closed (phase : Phase) (closing : b.closing = true)
      (left : ∀ operation, phase ≠ .waiting operation) (spared : phase ≠ .rejected) :
      Proceeds b i intent { b with calls := b.calls.set i { intent, phase } }
  | waits (operation : OperationId) (opened : b.closing = false)
      (held : b.subscriptionOperation = some operation) :
      Proceeds b i intent
        { b with calls := b.calls.set i { intent, phase := .waiting operation } }
  | resolves (opened : b.closing = false) (free : b.subscriptionOperation = none)
      (right : b.subscribed = true ↔ 0 < b.subscribers.size) :
      Proceeds b i intent { b with calls := b.calls.set i { intent, phase := .resolved } }
  | issues (command : Command) (opened : b.closing = false)
      (free : b.subscriptionOperation = none)
      (wrong : ¬ (b.subscribed = true ↔ 0 < b.subscribers.size)) :
      Proceeds b i intent { b with
        operations := b.operations ++ [{ command }]
        subscriptionOperation := some b.operations.length
        calls := b.calls.set i { intent, phase := .waiting b.operations.length } }

theorem proceeds (b : Bus) (i : CallId) (intent : Intent) :
    Proceeds b i intent (b.proceed i intent) := by
  unfold Bus.proceed Bus.reconcileSubscription
  by_cases closing : b.closing = true
  · rw [if_pos closing]
    cases intent with
    | subscribe handler => exact .closed .throwing closing nofun nofun
    | unsubscribe call => exact .closed .resolved closing nofun nofun
  · rw [if_neg closing]
    have opened := eq_false_of_ne_true closing
    cases held : b.subscriptionOperation with
    | some operation => exact .waits operation opened held
    | none =>
      dsimp only
      by_cases right : decide (0 < b.subscribers.size) = b.subscribed
      · rw [if_pos right]
        exact .resolves opened held (by rw [← right, decide_eq_true_iff])
      · rw [if_neg right]
        apply Proceeds.issues _ opened held
        intro same
        apply right
        rw [Bool.eq_iff_iff, decide_eq_true_iff]
        exact same.symm

theorem Bus.AttendedBy.moved (attended : b.AttendedBy (· ≠ i)) (call : Call) :
    ({ b with calls := b.calls.set i call } : Bus).AttendedBy fun _ => True := by
  intro operation current
  obtain ⟨below, j, other, apart, at_j, waiting⟩ := attended operation current
  exact ⟨below, j, other, trivial, by
    rw [List.getElem?_set_ne (Ne.symm apart)]
    exact at_j, waiting⟩

/-- After a stretch of `reconcileSubscription` the subscription is right, or on its way. -/
theorem Loose.proceed (loose : Loose loses b) {old : Phase}
    (held : b.calls[i]? = some { intent, phase := old })
    (own : b.closing = false → ∀ handler, intent = .subscribe handler →
      b.subscribers.get? handler = some i) (attended : b.AttendedBy (· ≠ i)) :
    Valid loses (b.proceed i intent) := by
  have made := proceeds b i intent
  generalize b.proceed i intent = t at made
  cases made with
  | closed phase closing left spared =>
    have open_ {P : Prop} (opened : b.closing = false) : P := by
      rw [closing] at opened
      cases opened
    refine ⟨loose.moved held ?_ (fun _ => open_) (.inr (.inr open_)) (fun _ => open_),
      attended.moved _, open_⟩
    intro operation same
    exact absurd same (left operation)
  | waits operation opened current =>
    refine ⟨loose.moved held ?_ nofun (.inr (.inr own)) nofun, attended.moved _, ?_⟩
    · rintro other ⟨⟩
      exact current
    · intro _ free
      exact absurd (current.symm.trans free) nofun
  | resolves opened free right =>
    refine ⟨loose.moved held nofun nofun (.inr (.inr own)) ?_, attended.moved _,
      fun _ _ _ => right⟩
    intro _ opened handler same
    exact ⟨free, right.mpr (size_pos_of_get? (own opened handler same))⟩
  | issues command opened free wrong =>
    refine ⟨(loose.issue command free wrong).moved held ?_ nofun (.inr (.inr own)) nofun, ?_, ?_⟩
    · rintro other ⟨⟩
      rfl
    · rintro other ⟨⟩
      exact ⟨by simp, i, _, trivial, getElem?_set_of_some held _, rfl⟩
    · intro _ free
      cases free

/-! ### Steps -/

theorem Bus.AttendedBy.weaken {others : CallId → Prop} (attended : b.AttendedBy others) :
    b.AttendedBy fun _ => True := by
  intro operation current
  obtain ⟨below, j, call, -, rest⟩ := attended operation current
  exact ⟨below, j, call, trivial, rest⟩

/-- Who attended before is not the call that is made. -/
theorem Bus.AttendedBy.answer (attended : b.AttendedBy fun _ => True) (call : Call) :
    (b.answer call).AttendedBy (· ≠ b.calls.length) := by
  intro operation current
  obtain ⟨sent, j, other, -, at_j, waiting⟩ := attended operation current
  have below := (List.getElem?_eq_some_iff.mp at_j).1
  exact ⟨sent, j, other, Nat.ne_of_lt below, getElem?_concat_of_some at_j call, waiting⟩

theorem Bus.AttendedBy.answered {others : CallId → Prop} (attended : b.AttendedBy others)
    (operations : t.operations.length = b.operations.length) (calls : t.calls = b.calls)
    (current : t.subscriptionOperation = b.subscriptionOperation) : t.AttendedBy others := by
  intro operation held
  obtain ⟨below, rest⟩ := attended operation (current ▸ held)
  exact ⟨by rw [operations]; exact below, by rw [calls]; exact rest⟩

theorem Valid.answer (valid : Valid loses b) (waits : ∀ operation, call.phase ≠ .waiting operation)
    (throws : call.phase ≠ .throwing) (resolves : call.phase = .resolved → b.closing = false →
      ∀ handler, call.intent ≠ .subscribe handler) : Valid loses (b.answer call) :=
  ⟨valid.toLoose.answer waits throws resolves, (valid.attended.answer call).weaken,
    valid.reconciled⟩

/-- A call that is made and goes into the loop. -/
theorem Loose.enter (loose : Loose loses b) (intent : Intent) :
    Loose loses (b.answer { intent, phase := .running }) ∧
      (b.answer { intent, phase := .running }).calls[b.calls.length]? =
        some { intent, phase := .running } := by
  refine ⟨?_, List.getElem?_concat_length⟩
  apply loose.answer
  · nofun
  · nofun
  · nofun

theorem Valid.subscribe (valid : Valid loses b) (handler : Handler) :
    Valid loses (b.subscribe handler) := by
  unfold Bus.subscribe
  by_cases closing : b.closing = true
  · rw [if_pos closing]
    refine valid.answer nofun nofun ?_
    intro _ opened
    rw [closing] at opened
    cases opened
  · rw [if_neg closing]
    by_cases present : b.subscribers.has handler = true
    · rw [if_pos present]
      exact valid.answer nofun nofun nofun
    · rw [if_neg present]
      obtain ⟨entered, held⟩ := valid.toLoose.enter (.subscribe handler)
      have absent : b.subscribers.get? handler = none := by simpa [JsMap.has] using present
      refine (entered.install absent held).proceed held ?_ (valid.attended.answer _)
      rintro _ other ⟨⟩
      exact JsMap.get?_set_self ..

theorem Valid.removeSubscriber (valid : Valid loses b) {listener : CallId}
    (given : b.Served handler listener) : Valid loses (b.removeSubscriber handler listener) := by
  unfold Bus.removeSubscriber
  by_cases installed : b.subscribers.get? handler = some listener
  · rw [if_neg (not_not.mpr installed)]
    obtain ⟨entered, held⟩ := valid.toLoose.enter (.unsubscribe listener)
    have removed := entered.remove installed (getElem?_concat_of_some given _) nofun
      fun _ => ⟨_, List.mem_of_getElem? held, rfl⟩
    exact removed.proceed held nofun (valid.attended.answer _)
  · rw [if_pos installed]
    exact valid.answer nofun nofun nofun

theorem Valid.close (valid : Valid loses b) : Valid loses b.close where
  slot := valid.slot
  failed := valid.failed
  throwing := nofun
  listed := nofun
  served := nofun
  joined := nofun
  steady := nofun
  channel := nofun
  executed := nofun
  attended := valid.attended
  reconciled := nofun

/-- With a command outstanding nobody's subscription is settled. -/
theorem Loose.unsettled (loose : Loose loses b) {operation : Operation}
    (sent : b.operations[i]? = some operation) (pending : operation.outcome = none)
    (opened : b.closing = false) {call : CallId}
    (installed : b.subscribers.get? handler = some call) : ¬ b.Served handler call := by
  intro served
  have free := (loose.steady opened handler call installed served).1
  rw [loose.slot i operation sent pending] at free
  cases free

/-- The command that is outstanding is the only one. -/
theorem Loose.sole (loose : Loose loses b) {operation other next : Operation} {j : OperationId}
    (sent : b.operations[i]? = some operation) (pending : operation.outcome = none)
    (later : (b.operations.set i next)[j]? = some other) (pending' : other.outcome = none) :
    j = i ∧ other = next := by
  rcases getElem?_set_cases later with same | ⟨different, was⟩
  · exact same
  · have held := loose.slot i operation sent pending
    rw [loose.slot j other was pending'] at held
    exact absurd (Option.some.inj held) different

theorem Valid.execute (valid : Valid loses b) {command : Command}
    (sent : b.operations[i]? = some { command }) : Valid loses (b.execute i command) where
  slot j other at_j pending := by
    obtain ⟨rfl, -⟩ := valid.sole sent rfl at_j pending
    exact valid.slot j _ sent rfl
  failed j other at_j rejected awaited := by
    rcases getElem?_set_cases at_j with ⟨-, rfl⟩ | ⟨-, was⟩
    · cases rejected
    · exact valid.failed j other was rejected awaited
  throwing := valid.throwing
  listed := valid.listed
  served := valid.served
  joined := valid.joined
  steady := valid.steady
  channel lossless opened idle := by
    have mine := idle _ (List.mem_of_getElem? (getElem?_set_of_some sent _)) rfl
    cases mine
  executed lossless opened operation mem pending done := by
    obtain ⟨j, at_j⟩ := List.mem_iff_getElem?.mp mem
    obtain ⟨-, rfl⟩ := valid.sole sent rfl at_j pending
    rfl
  attended := valid.attended.answered List.length_set rfl rfl
  reconciled := valid.reconciled

theorem waiting_of_drained (drained : b.drained = true) (mem : call ∈ b.calls) :
    call.phase ≠ .throwing ∧ ∀ (j : OperationId) (other : Operation),
      call.phase = .waiting j → b.operations[j]? = some other → other.outcome = none := by
  have idle := List.all_eq_true.mp drained call mem
  constructor
  · intro throwing
    rw [throwing] at idle
    cases idle
  · intro j other waiting at_j
    rw [waiting] at idle
    dsimp only at idle
    rw [at_j, Option.bind_some, Option.isNone_iff_eq_none] at idle
    exact idle

/-- Nobody awaits a command but the one that is outstanding. -/
theorem Loose.awaited (loose : Loose loses b) (drained : b.drained = true)
    {operation other : Operation} {j : OperationId} (sent : b.operations[i]? = some operation)
    (pending : operation.outcome = none) (at_j : b.operations[j]? = some other)
    (settled : other.outcome ≠ none) : ¬ b.Awaited j := by
  rintro (current | ⟨call, mem, waiting⟩)
  · rw [loose.slot i operation sent pending] at current
    cases current
    rw [sent] at at_j
    cases at_j
    exact settled pending
  · exact settled ((waiting_of_drained drained mem).2 j other waiting at_j)

theorem Valid.acknowledge (valid : Valid loses b) {command : Command}
    (done : b.operations[i]? = some { command, executed := true }) (drained : b.drained = true) :
    Valid loses (b.acknowledge i command) where
  slot j other at_j pending := by
    obtain ⟨-, rfl⟩ := valid.sole done rfl at_j pending
    cases pending
  failed j other at_j rejected awaited := by
    rcases getElem?_set_cases at_j with ⟨-, rfl⟩ | ⟨-, was⟩
    · cases rejected
    · exact absurd awaited (valid.awaited drained done rfl was (by rw [rejected]; nofun))
  throwing _ call mem throwing := absurd throwing (waiting_of_drained drained mem).1
  listed := valid.listed
  served := valid.served
  joined := valid.joined
  steady opened handler call installed served :=
    absurd served (valid.unsettled done rfl opened installed)
  channel lossless opened idle := by
    have open_ : b.closing = false := opened
    have told := valid.executed lossless open_ _ (List.mem_of_getElem? done) rfl rfl
    change b.channelSubscribed = _
    rw [told]
    cases command with
    | subscribe => simp [Bus.acknowledge, open_]
    | unsubscribe => rfl
  executed lossless opened operation mem pending executed := by
    obtain ⟨j, at_j⟩ := List.mem_iff_getElem?.mp mem
    obtain ⟨-, rfl⟩ := valid.sole done rfl at_j pending
    cases pending
  attended := valid.attended.answered List.length_set rfl rfl
  reconciled _ free := by
    have held := valid.slot i _ done rfl
    exact absurd (held.symm.trans free) nofun

theorem Valid.reject (valid : Valid loses b) {command : Command} {executed : Bool}
    (sent : b.operations[i]? = some { command, executed })
    (spared : executed = true → command = .unsubscribe ∧ loses = true) :
    Valid loses (b.reject i command executed) where
  slot j other at_j pending := by
    obtain ⟨-, rfl⟩ := valid.sole sent rfl at_j pending
    cases pending
  failed _ _ _ _ _ := rfl
  throwing _ _ _ _ := rfl
  listed := valid.listed
  served := valid.served
  joined := valid.joined
  steady opened handler call installed served :=
    absurd served (valid.unsettled sent rfl opened installed)
  channel lossless opened idle := by
    apply valid.channel lossless opened
    intro operation mem pending
    obtain ⟨j, at_j⟩ := List.mem_iff_getElem?.mp mem
    have mine := valid.slot i _ sent rfl
    rw [valid.slot j operation at_j pending] at mine
    cases mine
    rw [sent] at at_j
    cases at_j
    cases executed with
    | false => rfl
    | true => exact absurd ((spared rfl).2.symm.trans lossless) nofun
  executed lossless opened operation mem pending executed := by
    obtain ⟨j, at_j⟩ := List.mem_iff_getElem?.mp mem
    obtain ⟨-, rfl⟩ := valid.sole sent rfl at_j pending
    cases pending
  attended := valid.attended.answered List.length_set rfl rfl
  reconciled _ _ spared := by cases spared

theorem release_calls (operation : OperationId) (b : Bus) :
    (b.release operation).calls = b.calls ∧ (b.release operation).closing = b.closing ∧
      (b.release operation).subscribers = b.subscribers ∧
      (b.release operation).rejectedSince = b.rejectedSince ∧
      (b.release operation).operations = b.operations := by
  unfold Bus.release
  split <;> exact ⟨rfl, rfl, rfl, rfl, rfl⟩

theorem release_held {other : OperationId}
    (current : (b.release operation).subscriptionOperation = some other) :
    b.subscriptionOperation = some other := by
  unfold Bus.release at current
  split at current
  · cases current
  · exact current

theorem release_current {other : OperationId}
    (current : (b.release operation).subscriptionOperation = some other) : other ≠ operation := by
  rintro rfl
  have held := release_held current
  rw [Bus.release, if_pos held] at current
  cases current

theorem Valid.resume (valid : Valid loses b) {operation : OperationId} {own : Operation}
    {outcome : Outcome} (waits : b.calls[i]? = some { intent, phase := .waiting operation })
    (awaited : b.operations[operation]? = some own) (settled : own.outcome = some outcome) :
    Valid loses (b.resume i intent operation outcome) := by
  obtain ⟨calls, closing, subscribers, rejectedSince, operations⟩ := release_calls operation b
  have loose := valid.toLoose.release awaited (by rw [settled]; nofun)
  have held : (b.release operation).calls[i]? = some { intent, phase := .waiting operation } := by
    rw [calls]
    exact waits
  have attended : (b.release operation).AttendedBy (· ≠ i) := by
    intro other current
    have different : other ≠ operation := release_current current
    obtain ⟨below, j, call, -, at_j, waiting⟩ := valid.attended other (release_held current)
    refine ⟨by rw [operations]; exact below, j, call, ?_, by rw [calls]; exact at_j, waiting⟩
    rintro rfl
    cases waits.symm.trans at_j
    cases waiting
    exact different rfl
  cases outcome with
  | acknowledged =>
    refine loose.proceed held ?_ attended
    rintro opened handler rfl
    rw [subscribers]
    exact valid.joined (closing ▸ opened) handler i operation waits
  | rejected =>
    have failed : b.rejectedSince = true := valid.failed operation own awaited settled
      (.inr ⟨_, List.mem_of_getElem? waits, rfl⟩)
    have failed' : (b.release operation).rejectedSince = true := by rw [rejectedSince, failed]
    unfold Bus.resume
    cases intent with
    | subscribe handler =>
      refine ⟨loose.moved held nofun (fun _ _ => failed') (.inr (.inl rfl)) nofun,
        attended.moved _, ?_⟩
      intro _ _ spared
      exact absurd (failed'.symm.trans spared) nofun
    | unsubscribe call =>
      dsimp only
      have spared (_ : (b.release operation).closing = false)
          (_ : (b.release operation).subscriptionOperation = none)
          (spared : (b.release operation).rejectedSince = false) :
          (b.release operation).subscribed = true ↔ 0 < (b.release operation).subscribers.size :=
        absurd (failed'.symm.trans spared) nofun
      by_cases closing : b.closing = true
      · rw [if_pos closing]
        exact ⟨loose.moved held nofun nofun (.inr (.inr nofun)) nofun, attended.moved _, spared⟩
      · rw [if_neg closing]
        exact ⟨loose.moved held nofun nofun (.inl rfl) nofun, attended.moved _, spared⟩

theorem Valid.caught (valid : Valid loses b)
    (threw : b.calls[i]? = some { intent := .subscribe handler, phase := .throwing }) :
    Valid loses (b.caught i handler) := by
  have told (opened : b.closing = false) : b.rejectedSince = true :=
    valid.throwing opened _ (List.mem_of_getElem? threw) rfl
  have attended : b.AttendedBy (· ≠ i) := by
    intro operation current
    obtain ⟨below, j, call, -, at_j, waiting⟩ := valid.attended operation current
    refine ⟨below, j, call, ?_, at_j, waiting⟩
    rintro rfl
    cases threw.symm.trans at_j
    cases waiting
  unfold Bus.caught
  split
  · next installed =>
    have loose := valid.toLoose.remove installed threw (by simp) (by simp)
    refine ⟨loose.moved threw (by simp) (by simp) (.inl rfl) (by simp), attended.moved _, ?_⟩
    intro opened _ spared
    cases (told opened).symm.trans spared
  · refine ⟨valid.toLoose.moved threw (by simp) (by simp) (.inl rfl) (by simp),
      attended.moved _, ?_⟩
    intro opened _ spared
    cases (told opened).symm.trans spared

theorem step_valid (step : Step loses b t) (valid : Valid loses b) : Valid loses t := by
  cases step with
  | subscribe handler => exact valid.subscribe handler
  | unsubscribe call handler given => exact valid.removeSubscriber given
  | close => exact valid.close
  | execute i command sent => exact valid.execute sent
  | acknowledge i command done drained => exact valid.acknowledge done drained
  | reject i command executed sent drained spared => exact valid.reject sent spared
  | resume i intent operation own outcome waits awaited settled =>
    exact valid.resume waits awaited settled
  | caught i handler threw => exact valid.caught threw

theorem reachable_valid (run : Reachable loses b) : Valid loses b := by
  induction run with
  | refl =>
    exact ⟨⟨nofun, nofun, nofun, nofun, nofun, nofun, nofun, fun _ _ _ => rfl, nofun⟩, nofun,
      fun _ _ _ => iff_of_false nofun (Nat.lt_irrefl 0)⟩
  | tail _ step ih => exact step_valid step ih

/-! ### After a close -/

theorem proceed_closing (b : Bus) (i : CallId) (intent : Intent) :
    (b.proceed i intent).closing = b.closing := by
  have made := proceeds b i intent
  generalize b.proceed i intent = t at made
  cases made <;> rfl

/-- A call that a closed bus goes on with does not fail but by the error of `subscribe`. -/
theorem proceed_spares (closing : b.closing = true) {j : CallId}
    (after : (b.proceed i intent).calls[j]? = some call) (failed : call.phase = .rejected) :
    b.calls[j]? = some call := by
  have made := proceeds b i intent
  generalize b.proceed i intent = t at made after
  cases made with
  | closed phase _ left spared =>
    rcases getElem?_set_cases after with ⟨-, rfl⟩ | ⟨-, was⟩
    · exact absurd failed spared
    · exact was
  | waits _ opened | resolves opened | issues _ opened =>
    rw [closing] at opened
    cases opened

/-- On a closed bus no unsubscribe fails that had not failed before. -/
theorem step_spares (closing : b.closing = true) (step : Step loses b t) :
    t.closing = true ∧ ∀ (j : CallId) (call : CallId),
      t.calls[j]? = some { intent := .unsubscribe call, phase := .rejected } →
      b.calls[j]? = some { intent := .unsubscribe call, phase := .rejected } := by
  have added {own : Call} {j call : CallId}
      (after : (b.calls ++ [own])[j]? = some { intent := .unsubscribe call, phase := .rejected })
      (spared : own.phase = .rejected → own.intent ≠ .unsubscribe call) :
      b.calls[j]? = some { intent := .unsubscribe call, phase := .rejected } := by
    rcases getElem?_concat_cases after with ⟨-, rfl⟩ | ⟨-, was⟩
    · exact absurd rfl (spared rfl)
    · exact was
  cases step with
  | subscribe handler =>
    rw [Bus.subscribe, if_pos closing]
    exact ⟨closing, fun j call after => added after (by simp)⟩
  | unsubscribe listener handler given =>
    unfold Bus.removeSubscriber
    split
    · exact ⟨closing, fun j call after => added after (by simp)⟩
    · refine ⟨(proceed_closing ..).trans closing, fun j call after => ?_⟩
      have closed : ((b.remove handler listener).answer
        { intent := .unsubscribe listener, phase := .running }).closing = true := closing
      exact added (proceed_spares closed after rfl) (by simp)
  | close => exact ⟨rfl, fun _ _ after => after⟩
  | execute i command sent => exact ⟨closing, fun _ _ after => after⟩
  | acknowledge i command done drained => exact ⟨closing, fun _ _ after => after⟩
  | reject i command executed sent drained spared => exact ⟨closing, fun _ _ after => after⟩
  | resume i intent operation own outcome waits awaited settled =>
    obtain ⟨calls, closing', -⟩ := release_calls operation b
    cases outcome with
    | acknowledged =>
      refine ⟨(proceed_closing ..).trans (closing'.trans closing), fun j call after => ?_⟩
      have before := proceed_spares (closing'.trans closing) after rfl
      rwa [calls] at before
    | rejected =>
      refine ⟨closing'.trans closing, fun j call after => ?_⟩
      unfold Bus.resume at after
      dsimp only at after
      rw [calls] at after
      rcases getElem?_set_cases after with ⟨-, same⟩ | ⟨-, was⟩
      · cases intent with
        | subscribe handler => cases same
        | unsubscribe other =>
          dsimp only at same
          rw [if_pos closing] at same
          cases same
      · exact was
  | caught i handler threw =>
    unfold Bus.caught
    split <;> refine ⟨closing, fun j call after => ?_⟩ <;>
      rcases getElem?_set_cases after with ⟨-, same⟩ | ⟨-, was⟩
    · cases same
    · exact was
    · cases same
    · exact was

theorem run_spares (closing : b.closing = true) (run : Relation.ReflTransGen (Step loses) b t) :
    t.closing = true ∧ ∀ (j : CallId) (call : CallId),
      t.calls[j]? = some { intent := .unsubscribe call, phase := .rejected } →
      b.calls[j]? = some { intent := .unsubscribe call, phase := .rejected } := by
  induction run with
  | refl => exact ⟨closing, fun _ _ after => after⟩
  | tail _ step ih =>
    obtain ⟨closed, before⟩ := ih
    obtain ⟨closed', spared⟩ := step_spares closed step
    exact ⟨closed', fun j call after => before j call (spared j call after)⟩

end Steps

/-! ## The subscription -/

/-- One command is outstanding at most; whoever was subscribed and has not left is listening, on a
channel that is subscribed as far as no rejected command was executed; with nothing outstanding or
rejected the subscription is there exactly for its subscribers; and after a close no unsubscribe
fails. -/
theorem room_event_bus_reconciles {loses : Bool} {b : Bus} (run : Reachable loses b) :
    (∀ (i j : OperationId) (own other : Operation), b.operations[i]? = some own →
      b.operations[j]? = some other → own.outcome = none → other.outcome = none → i = j) ∧
    (b.closing = false → ∀ (handler : Handler) (call : CallId), b.Served handler call →
      (∀ other ∈ b.calls, other.intent ≠ .unsubscribe call) →
      call ∈ b.listeners ∧ b.subscribed = true ∧
        (loses = false → b.channelSubscribed = true)) ∧
    ((∀ operation ∈ b.operations, operation.outcome ≠ none) → b.drained = true →
      b.subscriptionOperation = none) ∧
    (b.closing = false → b.subscriptionOperation = none → b.rejectedSince = false →
      (b.subscribed = true ↔ 0 < b.subscribers.size)) ∧
    (b.closing = true → ∀ t, Relation.ReflTransGen (Step loses) b t → ∀ (j call : CallId),
      t.calls[j]? = some { intent := .unsubscribe call, phase := .rejected } →
      b.calls[j]? = some { intent := .unsubscribe call, phase := .rejected }) := by
  have valid := reachable_valid run
  refine ⟨?_, ?_, ?_, valid.reconciled, ?_⟩
  · intro i j own other at_i at_j pending pending'
    have held := valid.slot i own at_i pending
    rw [valid.slot j other at_j pending'] at held
    exact (Option.some.inj held).symm
  · intro opened handler call served kept
    have installed := valid.served opened handler call served kept
    obtain ⟨free, subscribed⟩ := valid.steady opened handler call installed served
    refine ⟨(valid.listed handler call installed).1, subscribed, fun lossless => ?_⟩
    rw [valid.channel lossless opened, subscribed]
    intro operation mem pending
    obtain ⟨i, at_i⟩ := List.mem_iff_getElem?.mp mem
    have held := valid.slot i operation at_i pending
    rw [free] at held
    cases held
  · intro settled drained
    cases current : b.subscriptionOperation with
    | none => rfl
    | some operation =>
      obtain ⟨below, j, call, -, at_j, waiting⟩ := valid.attended operation current
      have pending := (waiting_of_drained drained (List.mem_of_getElem? at_j)).2 operation _
        waiting (List.getElem?_eq_getElem below)
      exact absurd pending (settled _ (List.getElem_mem below))
  · intro closing t later
    exact (run_spares closing later).2

/-! ### On a run -/

/-- A first handler, whose SUBSCRIBE was acknowledged. -/
def listening : Bus :=
  (((Bus.subscribe 0 {}).execute 0 .subscribe).acknowledge 0 .subscribe).resume 0 (.subscribe 0) 0
    .acknowledged

theorem reachable_listening (loses : Bool) : Reachable loses listening := by
  have subscribed : Reachable loses (Bus.subscribe 0 {}) := .tail .refl (.subscribe {} 0)
  have executed := subscribed.tail (.execute _ 0 .subscribe rfl)
  have acknowledged := executed.tail (.acknowledge _ 0 .subscribe rfl rfl)
  exact acknowledged.tail (.resume _ 0 (.subscribe 0) 0 _ .acknowledged rfl rfl rfl)

theorem first_handler_is_heard :
    0 ∈ listening.listeners ∧ listening.subscribed = true ∧ listening.channelSubscribed = true := by
  have law := room_event_bus_reconciles (reachable_listening false)
  obtain ⟨listens, subscribed, channel⟩ := law.2.1 rfl 0 0 rfl (by decide)
  exact ⟨listens, subscribed, channel rfl⟩

/-- An UNSUBSCRIBE that Redis executed is rejected: the next handler finds the subscription there
that is gone. -/
theorem lost_unsubscribe_leaves_deaf :
    ∃ b, Reachable true b ∧ b.closing = false ∧ b.Served 1 2 ∧
      (∀ other ∈ b.calls, other.intent ≠ .unsubscribe 2) ∧ b.channelSubscribed = false := by
  have removed := (reachable_listening true).tail (.unsubscribe _ 0 0 rfl)
  have executed := removed.tail (.execute _ 1 .unsubscribe rfl)
  have rejected := executed.tail (.reject _ 1 .unsubscribe true rfl rfl fun _ => ⟨rfl, rfl⟩)
  have failed := rejected.tail (.resume _ 1 (.unsubscribe 0) 1 _ .rejected rfl rfl rfl)
  exact ⟨_, failed.tail (.subscribe _ 1), rfl, rfl, by decide, rfl⟩

end BiliSyncPlay.RoomEventBus
