import BiliSyncPlay.Admin.AdminCommands
import Mathlib.Logic.Relation

/-!
# The Redis admin command bus

`redis-admin-command-bus.ts`, one bus with its two connections. A step is what runs between two
awaits, with the time it reads. When the publisher's guard refuses an attempt and whether
`disconnect(true)` throws is left open, and so is the length of every wait.
-/

namespace BiliSyncPlay.CommandBus

open Json RedisRoomStore Protocol AdminCommands

/-! ## The subscriber's connection -/

inductive Channel where
  | command (instanceId : JsString)
  | result (requestId : JsString)
  deriving DecidableEq

inductive Operation where
  | subscribe (channels : List Channel)
  | unsubscribe (channel : Channel)
  deriving DecidableEq

def Operation.apply (subscribed : List Channel) : Operation → List Channel
  | .subscribe channels => subscribed ++ channels
  | .unsubscribe channel => subscribed.filter (· ≠ channel)

/-- The connection that is open, or the one that is being opened after it. -/
structure Connection where
  subscribed : List Channel := []
  /-- Its commands that are not executed, by number and in order. -/
  queue : List (Nat × Operation) := []
  /-- A `ready` event is to come. -/
  reconnecting : Bool := false
  deriving DecidableEq

/-- What is left of a connection that is dropped: the next one has to be opened. -/
def Connection.dropped : Connection := { reconnecting := true }

/-- What is subscribed once its commands are executed. -/
def Connection.eventually (connection : Connection) : List Channel :=
  connection.queue.foldl (fun subscribed entry => entry.2.apply subscribed) connection.subscribed

/-- Whose command it is. -/
inductive Owner where
  | reply (call : Nat)
  | cleanup (call : Nat)
  | registration (instanceId : JsString) (handler : Nat)
  | unregistration
  | restore
  deriving DecidableEq

/-- A command whose promise has not settled. -/
structure Submitted where
  number : Nat
  owner : Owner
  submittedGeneration : Nat
  deriving DecidableEq

/-! ## Requests and handlers -/

inductive Origin where
  | bus | reply
  deriving DecidableEq

/-- What a request resolves with, and where it comes from. -/
structure Answer where
  origin : Origin
  result : AdminCommandResult
  deriving DecidableEq

/-- The reply listener is installed while the response promise has no value. -/
inductive CallPhase where
  | subscribing
  | publishing (response : Option Answer)
  | awaiting (response : Option Answer)
  | cleaning (answer : Answer)
  | answered (answer : Answer)
  deriving DecidableEq

structure Call where
  command : AdminCommand
  requestSubscriberGeneration : Nat
  phase : CallPhase
  deriving DecidableEq

inductive ExecutionPhase where
  | running
  | publishing (retried : Bool) (result : AdminCommandResult)
  | retrying (result : AdminCommandResult)
  | done
  deriving DecidableEq

/-- A command that was handed to a handler. -/
structure Execution where
  command : AdminCommand
  instanceId : JsString
  handler : Nat
  phase : ExecutionPhase := .running
  deriving DecidableEq

inductive Source where
  | command (call : Nat)
  | result (execution : Nat)
  deriving DecidableEq

structure Publication where
  source : Source
  channel : Channel
  payload : Json.Source
  deriving DecidableEq

/-! ## The bus -/

structure Bus where
  maxActiveRequests : Nat
  maxPendingCommandsPerConnection : Nat
  handlers : List (JsString × Nat) := []
  /-- The handlers whose registration was answered with a way to take it back. -/
  registered : List (JsString × Nat) := []
  activeReplyChannels : List JsString := []
  closing : Bool := false
  subscriberGeneration : Nat := 0
  subscriberResetOwed : Bool := false
  subscriberResetInProgress : Bool := false
  subscriberRestoring : Bool := false
  subscriptionRestoreFailures : Nat := 0
  /-- The generations that failed drops and restores wait in. -/
  resetWaits : List Nat := []
  restoreWaits : List Nat := []
  connection : Connection := {}
  awaiting : List Submitted := []
  submitted : Nat := 0
  calls : List Call := []
  executions : List Execution := []
  /-- The publications that are not executed. -/
  outbox : List Publication := []
  disconnectThrows : Bool := false
  publisherResetting : Bool := false
  deriving DecidableEq

namespace Bus

/-- The registries own the desired set. -/
def desired (b : Bus) : List Channel :=
  b.handlers.map (fun entry => .command entry.1) ++ b.activeReplyChannels.map .result

def subscriberUnsettled (b : Bus) : Bool :=
  b.subscriberRestoring || b.subscriberResetOwed || b.subscriberResetInProgress

/-! ### Resets -/

def maybeResetSubscriber (b : Bus) : Bus :=
  if b.closing ∨ b.subscriberResetInProgress ∨ ¬ b.subscriberResetOwed ∨
      b.activeReplyChannels ≠ [] then b
  else if b.disconnectThrows then
    { b with
      subscriberResetInProgress := true
      resetWaits := b.resetWaits ++ [b.subscriberGeneration] }
  else { b with subscriberResetInProgress := true, connection := .dropped }

def resetWaitEnds (b : Bus) (resetGeneration : Nat) : Bus :=
  if b.closing ∨ resetGeneration ≠ b.subscriberGeneration ∨ ¬ b.subscriberResetOwed then b
  else { b with subscriberResetInProgress := false }.maybeResetSubscriber

def markSubscriberStateUnknown (b : Bus) (submittedGeneration : Nat) : Bus :=
  if b.closing ∨ submittedGeneration ≠ b.subscriberGeneration ∨ b.subscriberResetInProgress then b
  else { b with subscriberResetOwed := true }.maybeResetSubscriber

/-- A command of the subscriber's connection, unless admission refuses it. -/
def submit (b : Bus) (owner : Owner) (operation : Operation) : Option Bus :=
  if b.maxPendingCommandsPerConnection ≤ b.awaiting.length then none
  else some { b with
    awaiting := b.awaiting ++ [{
      number := b.submitted, owner, submittedGeneration := b.subscriberGeneration }]
    connection := { b.connection with
      queue := b.connection.queue ++ [(b.submitted, operation)] }
    submitted := b.submitted + 1 }

/-! ### Restores -/

/-- What follows the wait, where there is one. -/
def attemptRestoreDesiredSubscriptions (b : Bus) (restoreGeneration : Nat) : Bus :=
  if b.closing ∨ restoreGeneration ≠ b.subscriberGeneration then b
  else if b.desired = [] then
    { b with subscriberRestoring := false, subscriptionRestoreFailures := 0 }
  else
    match b.submit .restore (.subscribe b.desired) with
    | some b => b
    | none =>
      { b with
        subscriptionRestoreFailures := b.subscriptionRestoreFailures + 1
        restoreWaits := b.restoreWaits ++ [restoreGeneration] }

def restoreDesiredSubscriptions (b : Bus) : Bus :=
  let b := { b with
    subscriberGeneration := b.subscriberGeneration + 1
    subscriberResetInProgress := false
    subscriberResetOwed := false }
  if b.handlers = [] ∧ b.activeReplyChannels = [] then
    { b with subscriberRestoring := false, subscriptionRestoreFailures := 0 }
  else
    let b := { b with subscriberRestoring := true }
    if b.subscriptionRestoreFailures > 0 then
      { b with restoreWaits := b.restoreWaits ++ [b.subscriberGeneration] }
    else b.attemptRestoreDesiredSubscriptions b.subscriberGeneration

/-- The restore was answered; nothing where it succeeded. -/
def restoreSettled (b : Bus) (restoreGeneration : Nat) (error : Option JsString) : Bus :=
  let current := restoreGeneration = b.subscriberGeneration
  match error with
  | none =>
    if current then { b with subscriptionRestoreFailures := 0, subscriberRestoring := false } else b
  | some _ =>
    let failures := b.subscriptionRestoreFailures + if current then 1 else 0
    { b with subscriptionRestoreFailures := failures }.markSubscriberStateUnknown restoreGeneration

/-! ### What the bus makes of a request -/

section
variable (command : AdminCommand) (now : Rat)

def made (outcome : Outcome) : Answer where
  origin := .bus
  result := {
    requestId := command.requestId
    targetInstanceId := command.targetInstanceId
    executorInstanceId := command.targetInstanceId
    outcome
    completedAt := now }

def busUnavailable (error : JsString) : Answer :=
  made command now (.failed .error (js "command_bus_unavailable")
    (js "Admin command bus could not reach Redis: " ++ error))

def commandUnconfirmed (code message : String) : Answer :=
  made command now (.unconfirmed (js code) (js message))

def busClosed : Answer :=
  made command now (.failed .staleTarget (js "command_bus_closed")
    (js "Admin command bus is closed."))

def duplicateRequestId : Answer :=
  made command now (.failed .error (js "duplicate_request_id")
    (js "Admin command requestId " ++ command.requestId ++ js " is already in flight."))

def staleTarget : Answer :=
  made command now (.failed .staleTarget (js "stale_target") (js "Target instance is unavailable."))

def commandExecutionFailed (executorInstanceId error : JsString) : AdminCommandResult where
  requestId := command.requestId
  targetInstanceId := command.targetInstanceId
  executorInstanceId := executorInstanceId
  outcome := .failed .error (js "command_execution_failed") error
  completedAt := now

end

def admissionRefused (b : Bus) : JsString :=
  js ("Redis command admission reached " ++ toString b.maxPendingCommandsPerConnection ++ ".")

/-! ### Requests -/

def setPhase (b : Bus) (call : Nat) (phase : CallPhase) : Bus :=
  { b with calls := b.calls.modify call fun c => { c with phase } }

/-- `activeReplyChannels.delete`. -/
def withoutReply (b : Bus) (requestId : JsString) : Bus :=
  { b with activeReplyChannels := b.activeReplyChannels.filter (· ≠ requestId) }

/-- The `finally` of a request, with the answer it resolves with. -/
def finish (b : Bus) (call : Nat) (requestId : JsString) (replySubscriptionMayExist : Bool)
    (answer : Answer) : Bus :=
  let b := (b.withoutReply requestId).maybeResetSubscriber
  if replySubscriptionMayExist ∧ ¬ b.closing ∧ ¬ b.subscriberResetOwed ∧
      ¬ b.subscriberResetInProgress then
    match b.submit (.cleanup call) (.unsubscribe (.result requestId)) with
    | some b => b.setPhase call (.cleaning answer)
    | none => (b.markSubscriberStateUnknown b.subscriberGeneration).setPhase call (.answered answer)
  else b.setPhase call (.answered answer)

def entry (b : Bus) (command : AdminCommand) (phase : CallPhase) : Call :=
  { command, requestSubscriberGeneration := b.subscriberGeneration, phase }

/-- A request that takes its reply channel. -/
def entered (b : Bus) (command : AdminCommand) : Bus :=
  { b with
    activeReplyChannels := b.activeReplyChannels ++ [command.requestId]
    calls := b.calls ++ [b.entry command .subscribing] }

/-- A request that is answered at once. -/
def turnedAway (b : Bus) (command : AdminCommand) (answer : Answer) : Bus :=
  { b with calls := b.calls ++ [b.entry command (.answered answer)] }

def request (b : Bus) (now : Rat) (command : AdminCommand) : Bus :=
  if b.closing then b.turnedAway command (busClosed command now)
  else if b.subscriberUnsettled then
    b.turnedAway command
      (busUnavailable command now (js "Redis subscriber state is being restored."))
  else if b.maxActiveRequests ≤ b.activeReplyChannels.length then
    b.turnedAway command (busUnavailable command now (js ("Admin command bus admission reached " ++
      toString b.maxActiveRequests ++ " active requests.")))
  else if command.requestId ∈ b.activeReplyChannels then
    b.turnedAway command (duplicateRequestId command now)
  else
    let call := b.calls.length
    match (b.entered command).submit (.reply call) (.subscribe [.result command.requestId]) with
    | some b => b
    | none =>
      (b.entered command).finish call command.requestId false
        (busUnavailable command now b.admissionRefused)

def isPublishing (c : Call) : Bool :=
  match c.phase with
  | .publishing _ => true
  | _ => false

def isPublishingResult (execution : Execution) : Bool :=
  match execution.phase with
  | .publishing .. => true
  | _ => false

/-- What the publisher's guard and its admission refuse with. -/
def publisherRefusal (b : Bus) : Option JsString :=
  if b.publisherResetting then some (js "Redis publisher is reconnecting.")
  else if b.maxPendingCommandsPerConnection ≤
      b.calls.countP isPublishing + b.executions.countP isPublishingResult then
    some b.admissionRefused
  else none

/-- The reply channel's SUBSCRIBE was answered. -/
def replySettled (b : Bus) (now : Rat) (call submittedGeneration : Nat)
    (error : Option JsString) : Bus :=
  match b.calls[call]? with
  | none => b
  | some c =>
    let finished (b : Bus) (error : JsString) : Bus :=
      b.finish call c.command.requestId true (busUnavailable c.command now error)
    match error with
    | some error => finished (b.markSubscriberStateUnknown submittedGeneration) error
    | none =>
      if c.requestSubscriberGeneration ≠ b.subscriberGeneration ∨ b.subscriberUnsettled then
        finished b (js "Redis subscriber changed before the reply channel was ready.")
      else
        match b.publisherRefusal with
        | some refusal => finished b refusal
        | none =>
          let publication : Publication := {
            source := .command call
            channel := .command c.command.targetInstanceId
            payload := stringify c.command.toDoc }
          let b := { b with outbox := b.outbox ++ [publication] }
          b.setPhase call (.publishing none)

/-- The number of its receivers, or nothing where the PUBLISH was rejected. -/
def publishAnswered (b : Bus) (now : Rat) (call : Nat) (recipientCount : Option Nat) :
    Option Bus := do
  let c ← b.calls[call]?
  let .publishing response := c.phase | none
  match recipientCount with
  | none =>
    some (b.finish call c.command.requestId true (commandUnconfirmed c.command now
      "command_publish_unconfirmed" "The admin command publish was not confirmed."))
  | some 0 => some (b.finish call c.command.requestId true (staleTarget c.command now))
  | some _ => some (b.setPhase call (.awaiting response))

/-- The response promise has its value, and the request goes on. -/
def resumes (b : Bus) (call : Nat) : Option Bus := do
  let c ← b.calls[call]?
  let .awaiting (some answer) := c.phase | none
  some (b.finish call c.command.requestId true answer)

/-- `finish` of the response promise: the first value stays. -/
def respond (c : Call) (answer : Answer) : Call :=
  match c.phase with
  | .publishing none => { c with phase := .publishing (some answer) }
  | .awaiting none => { c with phase := .awaiting (some answer) }
  | _ => c

def isListening (c : Call) : Bool :=
  match c.phase with
  | .publishing none | .awaiting none => true
  | _ => false

def replyTimesOut (b : Bus) (now : Rat) (call : Nat) : Option Bus := do
  let c ← b.calls[call]?
  if isListening c then
    let answer := commandUnconfirmed c.command now "command_timeout"
      "Timed out waiting for the target instance."
    some { b with calls := b.calls.modify call (respond · answer) }
  else none

/-! ### Messages -/

/-- A message of a channel, at the listeners. -/
def deliver (b : Bus) (channel : Channel) (payload : Json.Source) : Bus :=
  match channel with
  | .command instanceId =>
    match if instanceId = [] then none else b.handlers.lookup instanceId, parseCommand payload with
    | some handler, some command =>
      { b with executions := b.executions ++ [{ command, instanceId, handler }] }
    | _, _ => b
  | .result requestId =>
    match parseResult payload with
    | none => b
    | some result =>
      { b with calls := b.calls.map fun c =>
          if c.command.requestId = requestId then respond c { origin := .reply, result }
          else c }

def setExecution (b : Bus) (execution : Nat) (phase : ExecutionPhase) : Bus :=
  { b with executions := b.executions.modify execution fun e => { e with phase } }

/-- One attempt to publish the result of a command. -/
def publishCommandResult (b : Bus) (execution : Nat) (requestId : JsString) (retried : Bool)
    (result : AdminCommandResult) : Bus :=
  if b.publisherRefusal.isSome then
    b.setExecution execution (if retried then .done else .retrying result)
  else
    let publication : Publication := {
      source := .result execution
      channel := .result requestId
      payload := stringify result.toDoc }
    let b := { b with outbox := b.outbox ++ [publication] }
    b.setExecution execution (.publishing retried result)

/-- What the handler produced, or what is made of what it threw. -/
def executed (execution : Execution) (now : Rat) :
    Except JsString AdminCommandResult → AdminCommandResult
  | .ok result => result
  | .error error => commandExecutionFailed execution.command now execution.instanceId error

def handlerSettles (b : Bus) (now : Rat) (execution : Nat)
    (outcome : Except JsString AdminCommandResult) : Option Bus := do
  let e ← b.executions[execution]?
  let .running := e.phase | none
  some (b.publishCommandResult execution e.command.requestId false (executed e now outcome))

def resultRetries (b : Bus) (execution : Nat) : Option Bus := do
  let e ← b.executions[execution]?
  let .retrying result := e.phase | none
  some (b.publishCommandResult execution e.command.requestId true result)

def resultAnswered (b : Bus) (execution : Nat) (published : Bool) : Option Bus := do
  let e ← b.executions[execution]?
  let .publishing retried result := e.phase | none
  some (b.setExecution execution (if published || retried then .done else .retrying result))

/-! ### Registrations -/

/-- `handlers.delete`, where the handler is still the one that is registered. -/
def unregister (b : Bus) (instanceId : JsString) (handler : Nat) : Bus :=
  { b with handlers := b.handlers.filter (· ≠ (instanceId, handler)) }

def register (b : Bus) (instanceId : JsString) (handler : Nat) : Bus :=
  { b with handlers := b.handlers ++ [(instanceId, handler)] }

def subscribe (b : Bus) (instanceId : JsString) (handler : Nat) : Bus :=
  if b.closing ∨ b.subscriberUnsettled ∨ b.handlers.any (·.1 = instanceId) then b
  else
    let b := b.register instanceId handler
    match b.submit (.registration instanceId handler) (.subscribe [.command instanceId]) with
    | some b => b
    | none => (b.unregister instanceId handler).maybeResetSubscriber

def registrationSettled (b : Bus) (instanceId : JsString) (handler registrationGeneration : Nat)
    (error : Option JsString) : Bus :=
  match error with
  | some _ =>
    ((b.markSubscriberStateUnknown registrationGeneration).unregister instanceId
      handler).maybeResetSubscriber
  | none =>
    if b.closing ∨ registrationGeneration ≠ b.subscriberGeneration ∨ b.subscriberUnsettled then
      let b := b.unregister instanceId handler
      if b.closing then b else b.markSubscriberStateUnknown b.subscriberGeneration
    else { b with registered := b.registered ++ [(instanceId, handler)] }

def unsubscribe (b : Bus) (instanceId : JsString) (handler : Nat) : Bus :=
  if (instanceId, handler) ∉ b.handlers then b
  else
    let b := b.unregister instanceId handler
    if b.closing then b
    else if b.subscriberResetOwed ∨ b.subscriberResetInProgress then b.maybeResetSubscriber
    else
      match b.submit .unregistration (.unsubscribe (.command instanceId)) with
      | some b => b
      | none => b.markSubscriberStateUnknown b.subscriberGeneration

/-- The UNSUBSCRIBE of a request that has its answer. -/
def cleanupSettled (b : Bus) (call submittedGeneration : Nat) (error : Option JsString) : Bus :=
  let b := if error.isSome then b.markSubscriberStateUnknown submittedGeneration else b
  { b with calls := b.calls.modify call fun c =>
      match c.phase with
      | .cleaning answer => { c with phase := .answered answer }
      | _ => c }

/-! ### Steps -/

/-- A command of the subscriber's connection is answered; nothing where it succeeded, which takes
that it was executed. -/
def settles (b : Bus) (now : Rat) (number : Nat) (error : Option JsString) : Option Bus :=
  match b.awaiting.find? (·.number = number) with
  | none => none
  | some submitted =>
    if error = none ∧ b.connection.queue.any (·.1 = number) then none
    else
      let b := { b with awaiting := b.awaiting.erase submitted }
      let generation := submitted.submittedGeneration
      some <| match submitted.owner with
        | .reply call => b.replySettled now call generation error
        | .cleanup call => b.cleanupSettled call generation error
        | .registration instanceId handler =>
          b.registrationSettled instanceId handler generation error
        | .unregistration =>
          if error.isSome then b.markSubscriberStateUnknown generation else b
        | .restore => b.restoreSettled generation error

end Bus

inductive Event where
  | request (command : AdminCommand)
  | subscribe (instanceId : JsString) (handler : Nat)
  | unsubscribe (instanceId : JsString) (handler : Nat)
  | close
  | settles (number : Nat) (error : Option JsString)
  | publishAnswered (call : Nat) (recipientCount : Option Nat)
  | replyTimesOut (call : Nat)
  | resumes (call : Nat)
  | deliver (channel : Channel) (payload : Json.Source)
  | handlerSettles (execution : Nat) (outcome : Except JsString AdminCommandResult)
  | resultRetries (execution : Nat)
  | resultAnswered (execution : Nat) (published : Bool)
  | resetWaitEnds (resetGeneration : Nat)
  | restoreWaitEnds (restoreGeneration : Nat)
  /-- Redis executes the next command of the subscriber's connection. -/
  | executes
  | connectionLost
  | ready
  | turns (disconnectThrows publisherResetting : Bool)

def Bus.exec (b : Bus) (now : Rat) : Event → Option Bus
  | .request command => some (b.request now command)
  | .subscribe instanceId handler => some (b.subscribe instanceId handler)
  | .unsubscribe instanceId handler =>
    if (instanceId, handler) ∈ b.registered then some (b.unsubscribe instanceId handler) else none
  | .close => some { b with closing := true, handlers := [], activeReplyChannels := [] }
  | .settles number error => b.settles now number error
  | .publishAnswered call recipientCount => b.publishAnswered now call recipientCount
  | .replyTimesOut call => b.replyTimesOut now call
  | .resumes call => b.resumes call
  | .deliver channel payload => some (b.deliver channel payload)
  | .handlerSettles execution outcome => b.handlerSettles now execution outcome
  | .resultRetries execution => b.resultRetries execution
  | .resultAnswered execution published => b.resultAnswered execution published
  | .resetWaitEnds resetGeneration =>
    if resetGeneration ∈ b.resetWaits then
      some ({ b with resetWaits := b.resetWaits.erase resetGeneration }.resetWaitEnds
        resetGeneration)
    else none
  | .restoreWaitEnds restoreGeneration =>
    if restoreGeneration ∈ b.restoreWaits then
      some ({ b with
        restoreWaits := b.restoreWaits.erase restoreGeneration
        }.attemptRestoreDesiredSubscriptions restoreGeneration)
    else none
  | .executes =>
    match b.connection.queue with
    | [] => none
    | (_, operation) :: queue =>
      some { b with connection := { b.connection with
        subscribed := operation.apply b.connection.subscribed, queue } }
  | .connectionLost => some { b with connection := .dropped }
  | .ready =>
    if b.connection.reconnecting then
      let b := { b with connection := { b.connection with reconnecting := false } }
      some (if b.closing then b else b.restoreDesiredSubscriptions)
    else none
  | .turns disconnectThrows publisherResetting =>
    some { b with disconnectThrows, publisherResetting }

end BiliSyncPlay.CommandBus
