import BiliSyncPlay.Admin.AdminCommands
import BiliSyncPlay.OrderedDrain
import BiliSyncPlay.Rooms.Store
import Mathlib.Logic.Relation

/-!
# The console's room actions

`closeRoom`, `expireRoom` and `clearRoomVideo` of `createAdminActionService`, any number at once. An
action starts an effect and waits for it under a cap; the effect goes on without the waiter and owes
the room its follow-ups. `close` refuses new actions and drains the others. Times are in
milliseconds. What the stores, the bus and the listings answer is left open, and each may throw.
-/

namespace BiliSyncPlay.ActionService

open Json RedisRoomStore AdminCommands OrderedDrain

structure Options where
  instanceId : JsString
  roomDeleteConfirmTimeoutMs : Nat := 5000
  roomVideoClearConfirmTimeoutMs : Nat := 5000
  closeBudgetMs : Nat := 4000
  closeBudgetMs_le : closeBudgetMs ≤ MAX_TIMER_INTERVAL_MS := by decide

/-- `AdminActionError`. -/
structure Rejection where
  statusCode : Nat
  code : JsString
  message : String
  deriving DecidableEq

def roomNotFound : Rejection := ⟨404, js "room_not_found", "Room not found."⟩

def roomActive : Rejection :=
  ⟨409, js "room_active",
    "Room still has active members. Close the room instead of expiring it early."⟩

def roomVersionConflict : Rejection :=
  ⟨409, js "room_version_conflict", "Room state update conflict."⟩

def serviceClosed : Rejection :=
  ⟨503, js "admin_action_service_closed", "Admin action service is shutting down."⟩

/-! ## Commands that failed -/

def isOk (result : AdminCommandResult) : Bool :=
  match result.outcome with
  | .ok .. => true
  | .failed .. | .unconfirmed .. => false

def codeOf (result : AdminCommandResult) : JsString :=
  match result.outcome with
  | .ok .. => []
  | .failed _ code _ => code
  | .unconfirmed code _ => code

def commandFailureStatusCode (result : AdminCommandResult) : Nat :=
  match result.outcome with
  | .failed .notFound _ _ => 404
  | .failed .staleTarget _ _ => 409
  | .unconfirmed .. => 409
  | .failed .error _ _ | .ok .. =>
    if codeOf result = js "command_bus_unavailable" then 503 else 502

def hasStatus (status : FailureStatus) (result : AdminCommandResult) : Bool :=
  match result.outcome with
  | .ok .. => false
  | .failed other _ _ => decide (other = status)
  | .unconfirmed .. => decide (status = .error)

/-- The failure that `closeRoom` answers with. -/
def representativeFailure (failures : List AdminCommandResult) : Option AdminCommandResult :=
  (failures.find? fun result => decide (commandFailureStatusCode result = 503)).or <|
    (failures.find? (hasStatus .error)).or <|
      (failures.find? (hasStatus .notFound)).or failures.head?

def closeRejected (result : AdminCommandResult) : Rejection where
  statusCode := commandFailureStatusCode result
  code := codeOf result
  message :=
    "Failed to close room because one or more member sessions could not be disconnected."

/-! ## Effects -/

inductive Action where
  | closeRoom | expireRoom | clearRoomVideo
  deriving DecidableEq

/-- What an effect awaits. -/
inductive EffectStep where
  | deleting
  | tearingDown (outcome : RoomDeleteOutcome)
  | announcing (outcome : RoomDeleteOutcome)
  | reading (attempt : Nat)
  | updating (attempt : Nat)
  | publishing
  deriving DecidableEq

inductive Fault where
  | rejected (rejection : Rejection)
  /-- What a store or the bus threw. -/
  | thrown
  deriving DecidableEq

inductive Stage where
  | running (step : EffectStep)
  | failed (step : EffectStep) (fault : Fault)
  /-- With the outcome of the deletion, if it is one. -/
  | done (outcome : Option RoomDeleteOutcome)
  deriving DecidableEq

/-- What an effect is answered by what it awaits. -/
inductive EffectAnswer where
  | deleted (outcome : RoomDeleteOutcome)
  | found (room : Option RedisRoomStore.PersistedRoom)
  | updated (result : RedisRoomStore.RoomUpdateResult)
  /-- A teardown or an announcement has ended. -/
  | settled
  | threw
  deriving DecidableEq

inductive EffectKind where
  | deletion (target : RedisRoomStore.PersistedRoom)
  | clear
  deriving DecidableEq

structure Effect where
  kind : EffectKind
  startedAt : Nat
  waiterGaveUp : Bool := false
  stage : Stage
  /-- What it was answered so far. -/
  answers : List EffectAnswer := []
  deriving DecidableEq

inductive Audit where
  | ok | commandFailed | unconfirmed
  deriving DecidableEq

/-- The calls and the records of an action; those without a code are about its room. -/
inductive Act where
  | disconnectSession (targetInstanceId sessionId : JsString)
  | deleteRoom (target : RedisRoomStore.PersistedRoom)
  | teardownRoomRuntime
  | publishRoomDeleted
  | updateRoom (code : RoomCode) (expected : RedisRoomStore.RoomUpdateGuard)
    (patch : RedisRoomStore.PersistedRoomPatch)
  | publishRoomStateUpdate
  | audit (audit : Audit)
  /-- The log line of an effect that ends without its waiter. -/
  | late (ok : Bool)
  deriving DecidableEq

/-- The write of one attempt at clearing the video. -/
def clearing (room : RedisRoomStore.PersistedRoom) (now : Nat) : Act :=
  .updateRoom room.code (.version room.version)
    { sharedVideo := some none, playback := some none, expiresAt := some none
      lastActiveAt := some now }

/-- What an effect does when what it awaits is answered. -/
inductive Next (action : Action) (now : Nat) :
    EffectStep → EffectAnswer → Stage → List Act → Prop where
  | superseded :
    Next action now .deleting (.deleted .superseded) (.done (some .superseded)) []
  | deleted (outcome : RoomDeleteOutcome) (current : outcome ≠ .superseded) :
    Next action now .deleting (.deleted outcome) (.running (.tearingDown outcome))
      [.teardownRoomRuntime]
  | announced (outcome : RoomDeleteOutcome) (announce : action = .closeRoom) :
    Next action now (.tearingDown outcome) .settled (.running (.announcing outcome))
      [.publishRoomDeleted]
  | tornDown (outcome : RoomDeleteOutcome) (quiet : action ≠ .closeRoom) :
    Next action now (.tearingDown outcome) .settled (.done (some outcome)) []
  | told (outcome : RoomDeleteOutcome) :
    Next action now (.announcing outcome) .settled (.done (some outcome)) []
  | unread (attempt : Nat) :
    Next action now (.reading attempt) (.found none)
      (.failed (.reading attempt) (.rejected roomNotFound)) []
  | read (attempt : Nat) (room : RedisRoomStore.PersistedRoom) :
    Next action now (.reading attempt) (.found (some room)) (.running (.updating attempt))
      [clearing room now]
  | cleared (attempt : Nat) (room : RedisRoomStore.PersistedRoom) :
    Next action now (.updating attempt) (.updated (.ok room)) (.running .publishing)
      [.publishRoomStateUpdate]
  | gone (attempt : Nat) :
    Next action now (.updating attempt) (.updated (.refused .notFound))
      (.failed (.updating attempt) (.rejected roomNotFound)) []
  | conflict (attempt : Nat) (more : attempt + 1 < 3) :
    Next action now (.updating attempt) (.updated (.refused .versionConflict))
      (.running (.reading (attempt + 1))) []
  | conflicts (attempt : Nat) (last : ¬ attempt + 1 < 3) :
    Next action now (.updating attempt) (.updated (.refused .versionConflict))
      (.failed (.updating attempt) (.rejected roomVersionConflict)) []
  | published : Next action now .publishing .settled (.done none) []
  | threw (step : EffectStep) : Next action now step .threw (.failed step .thrown) []

/-! ## Handlers -/

/-- What `listClusterSessionsByRoom` tells of a session. -/
structure Listed where
  id : JsString
  instanceId : Option JsString
  deriving DecidableEq

inductive Reply where
  | answered (result : AdminCommandResult)
  | threw
  deriving DecidableEq

/-- A task of the fan-out: it waits for its turn, then for the command bus. -/
structure Request where
  session : Listed
  sent : Bool := false
  reply : Option Reply := none
  deriving DecidableEq

inductive Answer where
  | ok
  | rejected (rejection : Rejection)
  | threw
  deriving DecidableEq

def Fault.answer : Fault → Answer
  | .rejected rejection => .rejected rejection
  | .thrown => .threw

inductive Phase where
  | reading
  | listing (target : RedisRoomStore.PersistedRoom)
  | disconnecting (target : RedisRoomStore.PersistedRoom)
  | confirming
  /-- `await getRoomStateByCode`. -/
  | reporting
  | answered (answer : Answer)
  deriving DecidableEq

structure Handler where
  action : Action
  phase : Phase
  /-- What it was told of the room's sessions. -/
  listed : Option (List Listed) := none
  requests : List Request := []
  effect : Option Effect := none
  acts : List Act := []
  deriving DecidableEq

namespace Handler

def isAnswered (h : Handler) : Bool :=
  match h.phase with
  | .answered _ => true
  | .reading | .listing _ | .disconnecting _ | .confirming | .reporting => false

def begin (now : Nat) : Action → Handler
  | .closeRoom => { action := .closeRoom, phase := .reading }
  | .expireRoom => { action := .expireRoom, phase := .reading }
  | .clearRoomVideo =>
    { action := .clearRoomVideo, phase := .confirming
      effect := some { kind := .clear, startedAt := now, stage := .running (.reading 0) } }

def startRoomDeletion (now : Nat) (target : RedisRoomStore.PersistedRoom) (h : Handler) :
    Handler :=
  { h with
    phase := .confirming
    effect := some { kind := .deletion target, startedAt := now, stage := .running .deleting }
    acts := h.acts ++ [.deleteRoom target] }

def read (room : Option RedisRoomStore.PersistedRoom) (h : Handler) : Handler :=
  match room with
  | none => { h with phase := .answered (.rejected roomNotFound) }
  | some target => { h with phase := .listing target }

def list (now : Nat) (target : RedisRoomStore.PersistedRoom) (sessions : List Listed)
    (h : Handler) : Handler :=
  let told := { h with listed := some sessions }
  if sessions.isEmpty then told.startRoomDeletion now target
  else if h.action = .expireRoom then { told with phase := .answered (.rejected roomActive) }
  else
    { told with
      phase := .disconnecting target
      requests := sessions.map fun session => { session } }

def results (h : Handler) : List AdminCommandResult :=
  h.requests.filterMap fun request =>
    match request.reply with
    | some (.answered result) => some result
    | some .threw | none => none

/-- All the disconnects have answered. -/
def judge (now : Nat) (target : RedisRoomStore.PersistedRoom) (h : Handler) : Handler :=
  match representativeFailure (h.results.filter fun result => !isOk result) with
  | none => h.startRoomDeletion now target
  | some failure =>
    { h with
      phase := .answered (.rejected (closeRejected failure))
      acts := h.acts ++ [.audit .commandFailed] }

/-- The command for a session of the room. -/
def disconnection (options : Options) (session : Listed) : Act :=
  .disconnectSession (session.instanceId.getD options.instanceId) session.id

def request (options : Options) (j : Nat) (request : Request) (h : Handler) : Handler :=
  { h with
    requests := h.requests.set j { request with sent := true }
    acts := h.acts ++ [disconnection options request.session] }

def replied (now : Nat) (j : Nat) (request : Request) (reply : Reply) (h : Handler) : Handler :=
  let h := { h with requests := h.requests.set j { request with reply := some reply } }
  match h.phase with
  | .disconnecting target =>
    if reply = .threw then { h with phase := .answered .threw }
    else if h.requests.all fun request => request.reply.isSome then h.judge now target
    else h
  | .reading | .listing _ | .confirming | .reporting | .answered _ => h

def confirmTimeoutMs (options : Options) : EffectKind → Nat
  | .deletion _ => options.roomDeleteConfirmTimeoutMs
  | .clear => options.roomVideoClearConfirmTimeoutMs

def unconfirmed : EffectKind → Rejection
  | .deletion _ =>
    ⟨503, js "room_delete_unconfirmed", "Room deletion was not confirmed before the deadline."⟩
  | .clear =>
    ⟨503, js "room_video_clear_unconfirmed",
      "Clearing the room's video was not confirmed before the deadline."⟩

def giveUp (e : Effect) (h : Handler) : Handler :=
  { h with
    phase := .answered (.rejected (unconfirmed e.kind))
    effect := some { e with waiterGaveUp := true }
    acts := h.acts ++ [.audit .unconfirmed] }

/-- The effect goes on, or it ends and the waiter is told, unless it gave up. -/
def proceed (e : Effect) (answer : EffectAnswer) (stage : Stage) (acts : List Act) (h : Handler) :
    Handler :=
  let gone :=
    { h with
      effect := some { e with stage, answers := e.answers ++ [answer] }
      acts := h.acts ++ acts }
  match stage with
  | .running _ => gone
  | .failed _ fault =>
    if e.waiterGaveUp then { gone with acts := gone.acts ++ [.late false] }
    else { gone with phase := .answered fault.answer }
  | .done _ =>
    if e.waiterGaveUp then { gone with acts := gone.acts ++ [.late true] }
    else
      { gone with
        phase := match e.kind with
          | .deletion _ => .answered .ok
          | .clear => .reporting
        acts := gone.acts ++ [.audit .ok] }

def runs (kind : EffectKind → Bool) (h : Handler) : Bool :=
  h.effect.any fun e => kind e.kind && match e.stage with
    | .running _ => true
    | .failed .. | .done _ => false

/-- The three pacers, in the order in which they are drained. -/
def counts : Nat → Handler → Bool
  | 0 => fun h => !h.isAnswered
  | 1 => runs fun kind => kind ≠ .clear
  | 2 => runs fun kind => kind = .clear
  | _ => fun _ => false

end Handler

/-! ## The service -/

/-- `admin_action_service_close_unfinished`. -/
structure Unfinished where
  pendingHandlers : Nat
  pendingRoomDeletions : Nat
  pendingRoomVideoClears : Nat
  deriving DecidableEq

/-- What `closeActionService` awaits. -/
inductive Drain where
  | handlers (snapshot : List Nat)
  | deletions (snapshot : List Nat)
  | videoClears (pendingHandlers : Nat) (snapshot : List Nat)
  | finished (endedAt : Nat) (report : Option Unfinished)
  deriving DecidableEq

structure Closing where
  startedAt : Nat
  drain : Drain
  deriving DecidableEq

structure Service where
  now : Nat := 0
  handlers : List Handler := []
  closing : Option Closing := none
  deriving DecidableEq

namespace Service

def pending (k : Nat) (p : Service) : List Nat :=
  places (Handler.counts k) p.handlers

def update (i : Nat) (h : Handler) (p : Service) : Service :=
  { p with handlers := p.handlers.set i h }

def runGuardedRoomEffect (action : Action) (p : Service) : Service :=
  let handler : Handler :=
    if p.closing.isSome then { action, phase := .answered (.rejected serviceClosed) }
    else .begin p.now action
  { p with handlers := p.handlers ++ [handler] }

def close (p : Service) : Service :=
  match p.closing with
  | some _ => p
  | none => { p with closing := some { startedAt := p.now, drain := .handlers (p.pending 0) } }

def setDrain (c : Closing) (drain : Drain) (p : Service) : Service :=
  { p with closing := some { c with drain } }

def finish (pendingHandlers : Nat) (p : Service) : Drain :=
  let pendingRoomDeletions := (p.pending 1).length
  let pendingRoomVideoClears := (p.pending 2).length
  .finished p.now <|
    if 0 < pendingHandlers ∨ 0 < pendingRoomDeletions ∨ 0 < pendingRoomVideoClears then
      some { pendingHandlers, pendingRoomDeletions, pendingRoomVideoClears }
    else none

def hasTime (options : Options) (c : Closing) (p : Service) : Prop :=
  p.now < c.startedAt + options.closeBudgetMs

instance (options : Options) (c : Closing) (p : Service) : Decidable (p.hasTime options c) :=
  inferInstanceAs (Decidable (_ < _))

/-- After the deletions: the handlers are counted, and the video clears are awaited. -/
def drainVideoClears (options : Options) (c : Closing) (p : Service) : Service :=
  let pendingHandlers := (p.pending 0).length
  p.setDrain c <|
    if p.hasTime options c then .videoClears pendingHandlers (p.pending 2)
    else p.finish pendingHandlers

/-- After the handlers. -/
def drainDeletions (options : Options) (c : Closing) (p : Service) : Service :=
  if p.hasTime options c then p.setDrain c (.deletions (p.pending 1))
  else p.drainVideoClears options c

end Service

/-- A snapshot has settled, or the wait for it is over. -/
def Settled (options : Options) (c : Closing) (k : Nat) (snapshot : List Nat) (p : Service) :
    Prop :=
  (∀ i ∈ snapshot, i ∉ p.pending k) ∨ timer c.startedAt options.closeBudgetMs ≤ p.now

inductive Step (options : Options) : Service → Service → Prop where
  | elapse (p : Service) (ms : Nat) : Step options p { p with now := p.now + ms }
  | called (p : Service) (action : Action) : Step options p (p.runGuardedRoomEffect action)
  | read (p : Service) (i : Nat) (h : Handler) (room : Option RedisRoomStore.PersistedRoom)
    (there : p.handlers[i]? = some h) (phase : h.phase = .reading) :
    Step options p (p.update i (h.read room))
  | listed (p : Service) (i : Nat) (h : Handler) (target : RedisRoomStore.PersistedRoom)
    (sessions : List Listed) (there : p.handlers[i]? = some h)
    (phase : h.phase = .listing target) :
    Step options p (p.update i (h.list p.now target sessions))
  | threw (p : Service) (i : Nat) (h : Handler) (there : p.handlers[i]? = some h)
    (awaits : h.phase = .reading ∨ (∃ target, h.phase = .listing target) ∨ h.phase = .reporting) :
    Step options p (p.update i { h with phase := .answered .threw })
  | requested (p : Service) (i : Nat) (h : Handler) (j : Nat) (request : Request)
    (there : p.handlers[i]? = some h) (waits : h.requests[j]? = some request)
    (unsent : request.sent = false) : Step options p (p.update i (h.request options j request))
  | replied (p : Service) (i : Nat) (h : Handler) (j : Nat) (request : Request) (reply : Reply)
    (there : p.handlers[i]? = some h) (waits : h.requests[j]? = some request)
    (sent : request.sent = true) (pending : request.reply = none) :
    Step options p (p.update i (h.replied p.now j request reply))
  | proceeded (p : Service) (i : Nat) (h : Handler) (e : Effect) (step : EffectStep)
    (answer : EffectAnswer) (stage : Stage) (acts : List Act) (there : p.handlers[i]? = some h)
    (effect : h.effect = some e) (running : e.stage = .running step)
    (next : Next h.action p.now step answer stage acts) :
    Step options p (p.update i (h.proceed e answer stage acts))
  | gaveUp (p : Service) (i : Nat) (h : Handler) (e : Effect) (there : p.handlers[i]? = some h)
    (effect : h.effect = some e) (phase : h.phase = .confirming)
    (due : timer e.startedAt (Handler.confirmTimeoutMs options e.kind) ≤ p.now) :
    Step options p (p.update i (h.giveUp e))
  | reported (p : Service) (i : Nat) (h : Handler) (there : p.handlers[i]? = some h)
    (phase : h.phase = .reporting) :
    Step options p (p.update i { h with phase := .answered .ok })
  | closed (p : Service) : Step options p p.close
  | handlersDrained (p : Service) (c : Closing) (snapshot : List Nat)
    (closing : p.closing = some c) (drain : c.drain = .handlers snapshot)
    (enough : Settled options c 0 snapshot p) : Step options p (p.drainDeletions options c)
  | deletionsDrained (p : Service) (c : Closing) (snapshot : List Nat)
    (closing : p.closing = some c) (drain : c.drain = .deletions snapshot)
    (enough : Settled options c 1 snapshot p) : Step options p (p.drainVideoClears options c)
  | videoClearsDrained (p : Service) (c : Closing) (pendingHandlers : Nat) (snapshot : List Nat)
    (closing : p.closing = some c) (drain : c.drain = .videoClears pendingHandlers snapshot)
    (enough : Settled options c 2 snapshot p) :
    Step options p (p.setDrain c (p.finish pendingHandlers))

def Reachable (options : Options) : Service → Prop :=
  Relation.ReflTransGen (Step options) {}

/-! ## What an action leaves behind -/

def Act.isEffect : Act → Bool
  | .deleteRoom _ | .teardownRoomRuntime | .publishRoomDeleted | .updateRoom ..
  | .publishRoomStateUpdate => true
  | .disconnectSession .. | .audit _ | .late _ => false

def Act.audit? : Act → Option Audit
  | .audit record => some record
  | _ => none

def Act.late? : Act → Option Bool
  | .late ok => some ok
  | _ => none

def Act.isDisconnection : Act → Bool
  | .disconnectSession .. => true
  | _ => false

def Handler.effectActs (h : Handler) : List Act := h.acts.filter Act.isEffect

def Handler.disconnections (h : Handler) : List Act := h.acts.filter Act.isDisconnection

def Handler.audits (h : Handler) : List Audit := h.acts.filterMap Act.audit?

def Handler.lates (h : Handler) : List Bool := h.acts.filterMap Act.late?

/-- The outcome of the deletion, once it is answered. -/
def outcomeOf (answers : List EffectAnswer) : Option RoomDeleteOutcome :=
  answers.findSome? fun answer =>
    match answer with
    | .deleted outcome => some outcome
    | .found _ | .updated _ | .settled | .threw => none

/-- The rooms that the attempts at a clear have read. -/
def roomsOf (answers : List EffectAnswer) : List RedisRoomStore.PersistedRoom :=
  answers.filterMap fun answer =>
    match answer with
    | .found room => room
    | .deleted _ | .updated _ | .settled | .threw => none

/-- What the writes of a clear were answered. -/
def updatesOf (answers : List EffectAnswer) : List RedisRoomStore.RoomUpdateResult :=
  answers.filterMap fun answer =>
    match answer with
    | .updated result => some result
    | .deleted _ | .found _ | .settled | .threw => none

/-- What a deletion has done after its write. The room's runtime is torn down, and its members are
told, unless the code was another room's by then. -/
def Stage.afterDelete (action : Action) (stage : Stage) (answers : List EffectAnswer)
    (acts : List Act) : Prop :=
  match stage with
  | .running .deleting | .failed .deleting _ => outcomeOf answers = none ∧ acts = []
  | .running (.tearingDown outcome) | .failed (.tearingDown outcome) _ =>
    outcomeOf answers = some outcome ∧ outcome ≠ .superseded ∧ acts = [.teardownRoomRuntime]
  | .running (.announcing outcome) | .failed (.announcing outcome) _ =>
    outcomeOf answers = some outcome ∧ outcome ≠ .superseded ∧ action = .closeRoom ∧
      acts = [.teardownRoomRuntime, .publishRoomDeleted]
  | .done (some outcome) =>
    outcomeOf answers = some outcome ∧ acts = if outcome = .superseded then []
      else if action = .closeRoom then [.teardownRoomRuntime, .publishRoomDeleted]
      else [.teardownRoomRuntime]
  | _ => False

/-- So many writes met another version. -/
def conflictsOf (attempts : Nat) : List RedisRoomStore.RoomUpdateResult :=
  List.replicate attempts (.refused .versionConflict)

/-- What a clear has done after so many writes: it writes again where another version was there,
three times at most, and tells the room only once a write took. -/
def Stage.afterClears (stage : Stage) (writes : Nat)
    (updates : List RedisRoomStore.RoomUpdateResult) (acts : List Act) : Prop :=
  match stage with
  | .running (.reading attempt) | .failed (.reading attempt) _ =>
    attempt < 3 ∧ writes = attempt ∧ updates = conflictsOf attempt ∧ acts = []
  | .running (.updating attempt) =>
    attempt < 3 ∧ writes = attempt + 1 ∧ updates = conflictsOf attempt ∧ acts = []
  | .failed (.updating attempt) fault =>
    attempt < 3 ∧ writes = attempt + 1 ∧ acts = [] ∧
      (fault = .thrown ∧ updates = conflictsOf attempt ∨
        fault = .rejected roomNotFound ∧
          updates = conflictsOf attempt ++ [.refused .notFound] ∨
        fault = .rejected roomVersionConflict ∧ updates = conflictsOf 3)
  | .running .publishing | .failed .publishing _ | .done none =>
    acts = [.publishRoomStateUpdate] ∧ ∃ attempt room, attempt < 3 ∧ writes = attempt + 1 ∧
      updates = conflictsOf attempt ++ [.ok room]
  | _ => False

/-- What an effect has done by its stage, whether its waiter is still there or not. -/
def Course (action : Action) : EffectKind → Stage → List EffectAnswer → List Act → Prop
  | .deletion target, stage, answers, acts =>
    ∃ rest, acts = .deleteRoom target :: rest ∧ stage.afterDelete action answers rest
  | .clear, stage, answers, acts =>
    ∃ writes rest, acts = writes ++ rest ∧
      List.Forall₂ (fun act room => ∃ now, act = clearing room now) writes (roomsOf answers) ∧
      stage.afterClears writes.length (updatesOf answers) rest

/-- The commands that were handed to the bus. -/
def Handler.sent (options : Options) (h : Handler) : List Act :=
  h.requests.filterMap fun request =>
    if request.sent then some (disconnection options request.session) else none

/-- A room is only deleted once its sessions were disconnected, each by a command of its own, or
when it has none. -/
structure Handler.Warranted (options : Options) (h : Handler) (sessions : List Listed) : Prop where
  listed : h.listed = some sessions
  commanded : h.disconnections.Perm (sessions.map (disconnection options))
  requests : h.requests.map (·.session) = sessions
  answered : ∀ request ∈ h.requests, ∃ result,
    request.reply = some (.answered result) ∧ isOk result = true
  action : h.action = .closeRoom ∨ sessions = []

def Effect.lateness (e : Effect) : List Bool :=
  match e.stage with
  | .running _ => []
  | .failed .. => [false]
  | .done _ => [true]

/-- The records of a handler by where it is. -/
def Handler.Told (h : Handler) : Prop :=
  match h.phase with
  | .reading | .listing _ =>
    h.action ≠ .clearRoomVideo ∧ h.effect = none ∧ h.requests = [] ∧ h.audits = [] ∧ h.lates = []
  | .disconnecting _ =>
    h.action = .closeRoom ∧ h.effect = none ∧ h.listed = some (h.requests.map (·.session)) ∧
      (∀ request ∈ h.requests, request.reply ≠ some .threw) ∧ h.audits = [] ∧ h.lates = []
  | .confirming =>
    ∃ e step, h.effect = some e ∧ e.stage = .running step ∧ e.waiterGaveUp = false ∧
      h.audits = [] ∧ h.lates = []
  | .reporting =>
    ∃ e, h.effect = some e ∧ e.stage = .done none ∧ e.waiterGaveUp = false ∧
      h.audits = [.ok] ∧ h.lates = []
  | .answered .ok =>
    ∃ e outcome, h.effect = some e ∧ e.stage = .done outcome ∧ e.waiterGaveUp = false ∧
      h.audits = [.ok] ∧ h.lates = []
  | .answered (.rejected rejection) =>
    (h.audits = [] ∧ h.lates = [] ∧ (h.effect = none ∨ ∃ e step, h.effect = some e ∧
      e.stage = .failed step (.rejected rejection) ∧ e.waiterGaveUp = false)) ∨
    (h.audits = [.commandFailed] ∧ h.lates = [] ∧ h.effect = none ∧ ∃ result ∈ h.results,
      isOk result = false ∧ rejection = closeRejected result) ∨
    ∃ e, h.effect = some e ∧ e.waiterGaveUp = true ∧ h.audits = [.unconfirmed] ∧
      rejection = Handler.unconfirmed e.kind ∧ h.lates = e.lateness
  | .answered .threw =>
    (h.audits = [] ∧ h.lates = [] ∧ (h.effect = none ∨ ∃ e step, h.effect = some e ∧
      e.stage = .failed step .thrown ∧ e.waiterGaveUp = false)) ∨
    ∃ e, h.effect = some e ∧ e.stage = .done none ∧ e.waiterGaveUp = false ∧
      h.audits = [.ok] ∧ h.lates = []

structure Handler.Valid (options : Options) (h : Handler) : Prop where
  idle : h.effect = none → h.effectActs = []
  course : ∀ e, h.effect = some e → Course h.action e.kind e.stage e.answers h.effectActs
  warranted : ∀ e target, h.effect = some e → e.kind = .deletion target →
    ∃ sessions, h.Warranted options sessions
  told : h.Told
  commands : h.disconnections.Perm (h.sent options)
  awaited : ∀ request ∈ h.requests, request.reply.isSome = true → request.sent = true

variable {more : List Act} {stage : Stage} {step : EffectStep}

section Handlers

variable {options : Options} {now : Nat} {h : Handler} {e : Effect}
  {target : RedisRoomStore.PersistedRoom}

variable {action : Action} {answers : List EffectAnswer} {j : Nat}

theorem outcomeOf_append {outcome : RoomDeleteOutcome} (told : outcomeOf answers = some outcome)
    (answer : EffectAnswer) :
    outcomeOf (answers ++ [answer]) = some outcome := by
  unfold outcomeOf at told ⊢
  rw [List.findSome?_append, told, Option.some_or]

theorem outcomeOf_concat (untold : outcomeOf answers = none) (outcome : RoomDeleteOutcome) :
    outcomeOf (answers ++ [.deleted outcome]) = some outcome := by
  unfold outcomeOf at untold ⊢
  rw [List.findSome?_append, untold]
  rfl

theorem outcomeOf_threw :
    outcomeOf (answers ++ [.threw]) = outcomeOf answers := by
  unfold outcomeOf
  rw [List.findSome?_append]
  exact Option.or_none

@[simp] theorem roomsOf_concat (answers : List EffectAnswer) (answer : EffectAnswer) :
    roomsOf (answers ++ [answer]) = roomsOf answers ++ roomsOf [answer] :=
  List.filterMap_append

@[simp] theorem updatesOf_concat (answers : List EffectAnswer) (answer : EffectAnswer) :
    updatesOf (answers ++ [answer]) = updatesOf answers ++ updatesOf [answer] :=
  List.filterMap_append

theorem conflictsOf_succ (attempts : Nat) :
    conflictsOf (attempts + 1) = conflictsOf attempts ++ [.refused .versionConflict] :=
  List.replicate_succ'

theorem Next.afterDelete {answer : EffectAnswer} {acts : List Act}
    (next : Next action now step answer stage more)
    (after : (Stage.running step).afterDelete action answers acts) :
    stage.afterDelete action (answers ++ [answer]) (acts ++ more) := by
  cases next with
  | superseded =>
    obtain ⟨untold, rfl⟩ := after
    exact ⟨outcomeOf_concat untold _, rfl⟩
  | deleted outcome current =>
    obtain ⟨untold, rfl⟩ := after
    exact ⟨outcomeOf_concat untold _, current, rfl⟩
  | announced outcome announce =>
    obtain ⟨told, current, rfl⟩ := after
    exact ⟨outcomeOf_append told _, current, announce, rfl⟩
  | tornDown outcome quiet =>
    obtain ⟨told, current, rfl⟩ := after
    exact ⟨outcomeOf_append told _, by simp [current, quiet]⟩
  | told outcome =>
    obtain ⟨told, current, announce, rfl⟩ := after
    exact ⟨outcomeOf_append told _, by simp [current, announce]⟩
  | threw step =>
    rw [List.append_nil]
    cases step with
    | deleting =>
      obtain ⟨untold, rfl⟩ := after
      exact ⟨outcomeOf_threw.trans untold, rfl⟩
    | tearingDown outcome =>
      obtain ⟨told, rest⟩ := after
      exact ⟨outcomeOf_threw.trans told, rest⟩
    | announcing outcome =>
      obtain ⟨told, rest⟩ := after
      exact ⟨outcomeOf_threw.trans told, rest⟩
    | reading | updating | publishing => exact after.elim
  | unread | read | cleared | gone | conflict | conflicts | published => exact after.elim

/-- What is not a room that was read, or an answer to a write, leaves the writes as they are. -/
theorem Next.afterClears {answer : EffectAnswer} {writes : Nat}
    {updates : List RedisRoomStore.RoomUpdateResult} {acts : List Act}
    (next : Next action now step answer stage more) (unread : ∀ room, answer ≠ .found (some room))
    (after : (Stage.running step).afterClears writes updates acts) :
    stage.afterClears writes (updates ++ updatesOf [answer]) (acts ++ more) := by
  cases next with
  | read attempt room => exact absurd rfl (unread room)
  | unread attempt =>
    obtain ⟨few, count, met, rfl⟩ := after
    exact ⟨few, count, by rw [met]; exact List.append_nil _, rfl⟩
  | cleared attempt room =>
    obtain ⟨few, count, met, rfl⟩ := after
    exact ⟨rfl, attempt, room, few, count, by rw [met]; rfl⟩
  | gone attempt =>
    obtain ⟨few, count, met, rfl⟩ := after
    exact ⟨few, count, rfl, .inr (.inl ⟨rfl, by rw [met]; rfl⟩)⟩
  | conflict attempt more =>
    obtain ⟨few, count, met, rfl⟩ := after
    exact ⟨more, count, by rw [met, conflictsOf_succ]; rfl, rfl⟩
  | conflicts attempt last =>
    obtain ⟨few, count, met, rfl⟩ := after
    obtain rfl : attempt = 2 := by omega
    exact ⟨few, count, rfl, .inr (.inr ⟨rfl, by rw [met]; rfl⟩)⟩
  | published =>
    obtain ⟨told, took⟩ := after
    refine ⟨by rw [told]; rfl, ?_⟩
    rw [show updatesOf [.settled] = [] from rfl, List.append_nil]
    exact took
  | threw step =>
    rw [List.append_nil, show updatesOf [.threw] = [] from rfl, List.append_nil]
    cases step with
    | deleting | tearingDown | announcing => exact after.elim
    | reading attempt => exact after
    | updating attempt =>
      obtain ⟨few, count, met, none_done⟩ := after
      exact ⟨few, count, none_done, .inl ⟨rfl, met⟩⟩
    | publishing => exact after
  | superseded | deleted | announced | tornDown | told => exact after.elim

theorem Next.course {kind : EffectKind} {answer : EffectAnswer} {acts : List Act}
    (next : Next action now step answer stage more)
    (course : Course action kind (.running step) answers acts) :
    Course action kind stage (answers ++ [answer]) (acts ++ more) := by
  cases kind with
  | deletion target =>
    obtain ⟨rest, whole, after⟩ := course
    exact ⟨rest ++ more, by rw [whole, List.cons_append], next.afterDelete after⟩
  | clear =>
    obtain ⟨writes, rest, whole, each, after⟩ := course
    by_cases reads : ∃ room, answer = .found (some room)
    · obtain ⟨room, rfl⟩ := reads
      cases next with
      | read attempt room =>
        obtain ⟨few, count, met, rfl⟩ := after
        refine ⟨writes ++ [clearing room now], [], by simp [whole], ?_, ?_⟩
        · rw [roomsOf_concat]
          exact List.rel_append each (.cons ⟨now, rfl⟩ .nil)
        · rw [updatesOf_concat]
          exact ⟨few, by simp [count], by rw [met]; exact List.append_nil _, rfl⟩
    · have same : roomsOf (answers ++ [answer]) = roomsOf answers := by
        rw [roomsOf_concat]
        cases answer with
        | found room =>
          cases room with
          | none => exact List.append_nil _
          | some room => exact absurd ⟨room, rfl⟩ reads
        | deleted | updated | settled | threw => exact List.append_nil _
      refine ⟨writes, rest ++ more, by rw [whole, List.append_assoc], ?_, ?_⟩
      · rw [same]
        exact each
      · rw [updatesOf_concat]
        exact next.afterClears (fun room found => reads ⟨room, found⟩) after

theorem Next.acts {answer : EffectAnswer} (next : Next action now step answer stage more) :
    more.filter Act.isEffect = more ∧ more.filterMap Act.audit? = [] ∧
      more.filterMap Act.late? = [] ∧ more.filter Act.isDisconnection = [] := by
  cases next <;> exact ⟨rfl, rfl, rfl, rfl⟩

theorem Handler.effectActs_of_acts {h' : Handler} (grown : h'.acts = h.acts ++ more) :
    h'.effectActs = h.effectActs ++ more.filter Act.isEffect := by
  rw [Handler.effectActs, grown, List.filter_append, Handler.effectActs]

theorem Handler.audits_of_acts {h' : Handler} (grown : h'.acts = h.acts ++ more) :
    h'.audits = h.audits ++ more.filterMap Act.audit? := by
  rw [Handler.audits, grown, List.filterMap_append, Handler.audits]

theorem Handler.lates_of_acts {h' : Handler} (grown : h'.acts = h.acts ++ more) :
    h'.lates = h.lates ++ more.filterMap Act.late? := by
  rw [Handler.lates, grown, List.filterMap_append, Handler.lates]

theorem Handler.disconnections_of_acts {k : Handler} (grown : k.acts = h.acts ++ more)
    (plain : more.filter Act.isDisconnection = []) :
    k.disconnections = h.disconnections := by
  rw [Handler.disconnections, grown, List.filter_append, plain, List.append_nil,
    Handler.disconnections]

/-- What else is recorded of a handler does not take back what its deletion rests on. -/
theorem Handler.Warranted.record {h' : Handler} {sessions : List Listed}
    (warranted : h.Warranted options sessions) (action : h'.action = h.action)
    (listed : h'.listed = h.listed) (requests : h'.requests = h.requests)
    (disconnections : h'.disconnections = h.disconnections) :
    h'.Warranted options sessions where
  listed := listed.trans warranted.listed
  commanded := by
    rw [disconnections]
    exact warranted.commanded
  requests := by
    rw [requests]
    exact warranted.requests
  answered := by
    rw [requests]
    exact warranted.answered
  action := by
    rw [action]
    exact warranted.action

/-- Only the phase of a handler without an effect changes. -/
theorem Handler.Valid.answer (valid : h.Valid options) {phase : Phase} (idle : h.effect = none)
    (told : ({ h with phase } : Handler).Told) : ({ h with phase } : Handler).Valid options where
  idle := valid.idle
  course e effect := by
    change h.effect = some e at effect
    rw [idle] at effect
    cases effect
  warranted e target effect := by
    change h.effect = some e at effect
    rw [idle] at effect
    cases effect
  told := told
  commands := valid.commands
  awaited := valid.awaited

theorem Handler.valid_begin (now : Nat) (action : Action) : (Handler.begin now action).Valid options := by
  cases action with
  | closeRoom | expireRoom =>
    refine ⟨fun _ => rfl, by simp [Handler.begin], by simp [Handler.begin], ?_, .refl _,
      by simp [Handler.begin]⟩
    exact ⟨by simp [Handler.begin], rfl, rfl, rfl, rfl⟩
  | clearRoomVideo =>
    refine ⟨by simp [Handler.begin], ?_, ?_, ⟨_, _, rfl, rfl, rfl, rfl, rfl⟩, .refl _,
      by simp [Handler.begin]⟩
    · rintro _ ⟨⟩
      exact ⟨[], [], rfl, .nil, by decide, rfl, rfl, rfl⟩
    · rintro _ target ⟨⟩ deletes
      cases deletes

theorem Handler.Valid.startRoomDeletion (valid : h.Valid options) (idle : h.effect = none)
    {sessions : List Listed} (warranted : h.Warranted options sessions) (audits : h.audits = [])
    (lates : h.lates = []) (now : Nat)
    (target : RedisRoomStore.PersistedRoom) : (h.startRoomDeletion now target).Valid options := by
  have grown : (h.startRoomDeletion now target).acts = h.acts ++ [.deleteRoom target] := rfl
  have same := Handler.disconnections_of_acts grown rfl
  refine ⟨by simp [Handler.startRoomDeletion], ?_, ?_, ?_, ?_, valid.awaited⟩
  · rintro _ ⟨⟩
    refine ⟨[], ?_, rfl, rfl⟩
    rw [Handler.effectActs_of_acts grown, valid.idle idle]
    rfl
  · intro _ _ _ _
    exact ⟨sessions, warranted.record rfl rfl rfl same⟩
  · refine ⟨_, _, rfl, rfl, rfl, ?_, ?_⟩
    · rw [Handler.audits_of_acts grown, audits]
      rfl
    · rw [Handler.lates_of_acts grown, lates]
      rfl
  · rw [same]
    exact valid.commands

theorem Handler.Valid.read (valid : h.Valid options) (phase : h.phase = .reading)
    (room : Option RedisRoomStore.PersistedRoom) : (h.read room).Valid options := by
  have told := valid.told
  rw [Handler.Told, phase] at told
  cases room with
  | none => exact valid.answer told.2.1 (.inl ⟨told.2.2.2.1, told.2.2.2.2, .inl told.2.1⟩)
  | some target => exact valid.answer told.2.1 told

theorem Handler.Valid.list (valid : h.Valid options) (phase : h.phase = .listing target) (now : Nat)
    (sessions : List Listed) : (h.list now target sessions).Valid options := by
  have told := valid.told
  rw [Handler.Told, phase] at told
  obtain ⟨action, idle, requests, audits, lates⟩ := told
  have listed : ({ h with listed := some sessions } : Handler).Valid options := by
    refine ⟨valid.idle, valid.course, by simp [idle], ?_, valid.commands, valid.awaited⟩
    unfold Handler.Told
    rw [phase]
    exact ⟨action, idle, requests, audits, lates⟩
  have unsent : h.disconnections = [] := by
    have commands := valid.commands
    rw [Handler.sent, requests] at commands
    exact commands.eq_nil
  unfold Handler.list
  split
  · next none_there =>
    obtain rfl := List.isEmpty_iff.mp none_there
    have warranted : Handler.Warranted options { h with listed := some [] } [] := by
      refine ⟨rfl, ?_, ?_, ?_, .inr rfl⟩
      · change h.disconnections.Perm []
        rw [unsent]
      · simp [requests]
      · simp [requests]
    exact listed.startRoomDeletion idle warranted audits lates _ _
  · split
    · exact listed.answer idle (.inl ⟨audits, lates, .inl idle⟩)
    · next expires =>
      refine ⟨valid.idle, valid.course, by simp [idle], ?_, ?_, by simp⟩
      · refine ⟨?_, idle, ?_, ?_, audits, lates⟩
        · change h.action = .closeRoom
          cases which : h.action with
          | closeRoom => rfl
          | expireRoom => exact absurd which expires
          | clearRoomVideo => exact absurd which action
        · simp [List.map_map, Function.comp_def]
        · simp
      · change h.disconnections.Perm _
        rw [unsent, Handler.sent, List.filterMap_map]
        simp

theorem mem_of_representativeFailure {failures : List AdminCommandResult}
    {result : AdminCommandResult} (found : representativeFailure failures = some result) :
    result ∈ failures := by
  unfold representativeFailure at found
  rcases Option.or_eq_some_iff.mp found with first | ⟨-, found⟩
  · exact List.mem_of_find?_eq_some first
  rcases Option.or_eq_some_iff.mp found with second | ⟨-, found⟩
  · exact List.mem_of_find?_eq_some second
  rcases Option.or_eq_some_iff.mp found with third | ⟨-, head⟩
  · exact List.mem_of_find?_eq_some third
  · exact List.mem_of_head? head

theorem eq_nil_of_representativeFailure {failures : List AdminCommandResult}
    (none_found : representativeFailure failures = none) : failures = [] := by
  unfold representativeFailure at none_found
  simp only [Option.or_eq_none_iff, List.head?_eq_none_iff] at none_found
  exact none_found.2.2.2

theorem Handler.mem_results {result : AdminCommandResult} : result ∈ h.results ↔
    ∃ request ∈ h.requests, request.reply = some (.answered result) := by
  unfold Handler.results
  rw [List.mem_filterMap]
  constructor
  · rintro ⟨request, mem, found⟩
    refine ⟨request, mem, ?_⟩
    split at found
    · next reply => rw [reply, Option.some.inj found]
    · cases found
    · cases found
  · rintro ⟨request, mem, reply⟩
    exact ⟨request, mem, by rw [reply]⟩

theorem Handler.sent_of_awaited
    (awaited : ∀ request ∈ h.requests, request.reply.isSome = true → request.sent = true)
    (all : ∀ request ∈ h.requests, request.reply.isSome = true) :
    h.sent options = (h.requests.map (·.session)).map (Handler.disconnection options) := by
  rw [Handler.sent, List.map_map, ← List.filterMap_eq_map]
  apply List.filterMap_congr
  intro request mem
  rw [if_pos (awaited request mem (all request mem))]
  rfl

theorem Handler.Valid.judge (valid : h.Valid options) (phase : h.phase = .disconnecting target)
    (all : ∀ request ∈ h.requests, request.reply.isSome = true) (now : Nat) :
    (h.judge now target).Valid options := by
  have told := valid.told
  rw [Handler.Told, phase] at told
  obtain ⟨action, idle, listed, unthrown, audits, lates⟩ := told
  unfold Handler.judge
  split
  · next none_failed =>
    have commanded : h.disconnections.Perm
        ((h.requests.map (·.session)).map (Handler.disconnection options)) := by
      rw [← Handler.sent_of_awaited valid.awaited all]
      exact valid.commands
    refine valid.startRoomDeletion idle ⟨listed, commanded, rfl, ?_, .inl action⟩ audits lates _ _
    intro request mem
    obtain ⟨reply, given⟩ := Option.isSome_iff_exists.mp (all request mem)
    cases reply with
    | threw => exact absurd given (unthrown request mem)
    | answered result =>
      refine ⟨result, given, ?_⟩
      have empty := List.filter_eq_nil_iff.mp (eq_nil_of_representativeFailure none_failed)
      simpa using empty result (Handler.mem_results.mpr ⟨request, mem, given⟩)
  · next failure found =>
    obtain ⟨mem, failed⟩ := List.mem_filter.mp (mem_of_representativeFailure found)
    have same := Handler.disconnections_of_acts (h := h) (k := { h with
      phase := .answered (.rejected (closeRejected failure))
      acts := h.acts ++ [.audit .commandFailed] }) rfl rfl
    refine ⟨?_, by simp [idle], by simp [idle], .inr (.inl ⟨?_, ?_, idle, failure, mem, ?_, rfl⟩),
      by rw [same]; exact valid.commands, valid.awaited⟩
    · intro _
      rw [Handler.effectActs_of_acts (h := h) rfl, valid.idle idle]
      rfl
    · rw [Handler.audits_of_acts (h := h) rfl, audits]
      rfl
    · rw [Handler.lates_of_acts (h := h) rfl, lates]
      rfl
    · simpa using failed

theorem Handler.map_session_set {old request : Request} (there : h.requests[j]? = some old)
    (session : request.session = old.session) :
    (h.requests.set j request).map (·.session) = h.requests.map (·.session) := by
  obtain ⟨within, rfl⟩ := List.getElem?_eq_some_iff.mp there
  have placed : j < (h.requests.map (·.session)).length := by simpa using within
  have here : h.requests[j].session = (h.requests.map (·.session))[j] := by simp
  rw [List.map_set, session, here, List.set_getElem_self]

/-- A request of the fan-out that is sent or answered, of which no record is made. -/
theorem Handler.Valid.setRequest (valid : h.Valid options) {j : Nat} {old : Request}
    (there : h.requests[j]? = some old) (request : Request) (more : List Act)
    (session : request.session = old.session)
    (kept : ∀ reply, old.reply = some reply → request.reply = some reply)
    (unthrown : ∀ target, h.phase = .disconnecting target → request.reply ≠ some .threw)
    (effects : more.filter Act.isEffect = [])
    (audits : more.filterMap Act.audit? = []) (lates : more.filterMap Act.late? = [])
    (quiet : old.reply.isSome = true → more.filter Act.isDisconnection = [])
    (commands : (h.disconnections ++ more.filter Act.isDisconnection).Perm
      (({ h with requests := h.requests.set j request } : Handler).sent options))
    (awaited : request.reply.isSome = true → request.sent = true) :
    ({ h with
      requests := h.requests.set j request
      acts := h.acts ++ more } : Handler).Valid options := by
  have old_mem := List.mem_of_getElem? there
  have sessions := Handler.map_session_set there session
  have same_effects : ({ h with
      requests := h.requests.set j request, acts := h.acts ++ more } : Handler).effectActs =
        h.effectActs := by
    rw [Handler.effectActs_of_acts (h := h) rfl, effects, List.append_nil]
  have same_audits : ({ h with
      requests := h.requests.set j request, acts := h.acts ++ more } : Handler).audits =
        h.audits := by
    rw [Handler.audits_of_acts (h := h) rfl, audits, List.append_nil]
  have same_lates : ({ h with
      requests := h.requests.set j request, acts := h.acts ++ more } : Handler).lates =
        h.lates := by
    rw [Handler.lates_of_acts (h := h) rfl, lates, List.append_nil]
  refine ⟨?_, ?_, ?_, ?_, ?_, ?_⟩
  · rw [same_effects]
    exact valid.idle
  · rw [same_effects]
    exact valid.course
  · intro e target effect deletes
    obtain ⟨asked, warranted⟩ := valid.warranted e target effect deletes
    obtain ⟨result, reply, ok⟩ := warranted.answered old old_mem
    have same := Handler.disconnections_of_acts (h := h) (k := { h with
      requests := h.requests.set j request
      acts := h.acts ++ more }) rfl (quiet (by rw [reply]; rfl))
    refine ⟨asked, warranted.listed, ?_, by rw [sessions]; exact warranted.requests, ?_,
      warranted.action⟩
    · rw [same]
      exact warranted.commanded
    · intro other mem
      rcases List.mem_or_eq_of_mem_set mem with before | rfl
      · exact warranted.answered other before
      · exact ⟨result, kept _ reply, ok⟩
  · have told := valid.told
    unfold Handler.Told at told ⊢
    rw [same_audits, same_lates, sessions]
    cases phase : h.phase with
    | reading | listing =>
      rw [phase] at told
      have empty := told.2.2.1
      rw [empty] at old_mem
      exact absurd old_mem List.not_mem_nil
    | disconnecting target =>
      rw [phase] at told
      obtain ⟨action, idle, listed, each, records⟩ := told
      refine ⟨action, idle, listed, ?_, records⟩
      intro other mem
      rcases List.mem_or_eq_of_mem_set mem with before | rfl
      · exact each other before
      · exact unthrown target phase
    | confirming | reporting =>
      rw [phase] at told
      exact told
    | answered answer =>
      rw [phase] at told
      cases answer with
      | ok | threw => exact told
      | rejected rejection =>
        rcases told with before | ⟨failed, never, idle, result, mem, rejected⟩ | gave_up
        · exact .inl before
        · refine .inr (.inl ⟨failed, never, idle, result, ?_, rejected⟩)
          obtain ⟨other, placed, reply⟩ := Handler.mem_results.mp mem
          obtain ⟨k, at_k⟩ := List.getElem?_of_mem placed
          apply Handler.mem_results.mpr
          by_cases same : j = k
          · subst same
            rw [there] at at_k
            cases at_k
            exact ⟨request, List.mem_of_getElem? (getElem?_set_of_some there request),
              kept _ reply⟩
          · refine ⟨other, List.mem_of_getElem? (i := k) ?_, reply⟩
            change (h.requests.set j request)[k]? = _
            rw [List.getElem?_set_ne same, at_k]
        · exact .inr (.inr gave_up)
  · change (List.filter _ (h.acts ++ more)).Perm _
    rw [List.filter_append]
    exact commands
  · intro other mem
    rcases List.mem_or_eq_of_mem_set mem with before | rfl
    · exact valid.awaited other before
    · exact awaited

theorem Handler.Valid.request (valid : h.Valid options) {request : Request}
    (there : h.requests[j]? = some request) (unsent : request.sent = false) :
    (h.request options j request).Valid options := by
  have pending : ¬ request.reply.isSome = true := by
    intro replied
    rw [valid.awaited request (List.mem_of_getElem? there) replied] at unsent
    cases unsent
  apply valid.setRequest there { request with sent := true }
    [Handler.disconnection options request.session] rfl (fun _ reply => reply)
  · intro target phase
    have told := valid.told
    rw [Handler.Told, phase] at told
    exact told.2.2.2.1 request (List.mem_of_getElem? there)
  · rfl
  · rfl
  · rfl
  · exact fun replied => absurd replied pending
  · have sent := filterMap_set_perm (f := fun request : Request =>
      if request.sent then some (Handler.disconnection options request.session) else none)
      (y := { request with sent := true }) there (by simp [unsent]) rfl
    exact (valid.commands.append_right _).trans sent.symm
  · exact fun _ => rfl

theorem Handler.Valid.replied (valid : h.Valid options) {request : Request}
    (there : h.requests[j]? = some request) (sent : request.sent = true)
    (pending : request.reply = none) (now : Nat) (reply : Reply) :
    (h.replied now j request reply).Valid options := by
  have commands : (h.disconnections ++ []).Perm (({ h with
      requests := h.requests.set j { request with reply := some reply } } :
        Handler).sent options) := by
    have same := filterMap_set_of_eq (f := fun request : Request =>
      if request.sent then some (Handler.disconnection options request.session) else none)
      (y := { request with reply := some reply }) there rfl
    rw [List.append_nil]
    exact valid.commands.trans (by rw [Handler.sent, ← same]; exact .refl _)
  have answered : (∀ target, h.phase = .disconnecting target → some reply ≠ some .threw) →
      ({ h with requests := h.requests.set j { request with reply := some reply } } :
        Handler).Valid options := by
    intro unthrown
    have set := valid.setRequest there { request with reply := some reply } [] rfl
      (by simp [pending]) unthrown rfl rfl rfl (fun _ => rfl) commands (fun _ => sent)
    rw [List.append_nil] at set
    exact set
  unfold Handler.replied
  dsimp only
  split
  · next target phase =>
    have told := valid.told
    rw [Handler.Told, phase] at told
    obtain ⟨action, idle, listed, each, audits, lates⟩ := told
    split
    · refine ⟨valid.idle, valid.course, by simp [idle], .inl ⟨audits, lates, .inl idle⟩, ?_, ?_⟩
      · rw [List.append_nil] at commands
        exact commands
      · intro other mem
        rcases List.mem_or_eq_of_mem_set mem with before | rfl
        · exact valid.awaited other before
        · exact fun _ => sent
    · next unthrown =>
      have set := answered (by simp [unthrown])
      split
      · next all => exact set.judge phase (by simpa using all) now
      · exact set
  all_goals next phase => exact answered (by simp [phase])

theorem Effect.lateness_of_running (running : e.stage = .running step) :
    e.lateness = [] := by
  rw [Effect.lateness, running]

section
variable (valid : h.Valid options)
include valid

/-- While an effect runs, its waiter waits or has given up. -/
theorem Handler.Valid.waiter (effect : h.effect = some e) (running : e.stage = .running step) :
    (h.phase = .confirming ∧ e.waiterGaveUp = false ∧ h.audits = [] ∧ h.lates = []) ∨
    (h.phase = .answered (.rejected (unconfirmed e.kind)) ∧ e.waiterGaveUp = true ∧
      h.audits = [.unconfirmed] ∧ h.lates = []) := by
  have told := valid.told
  unfold Handler.Told at told
  split at told
  · simp [effect] at told
  · simp [effect] at told
  · simp [effect] at told
  · next phase =>
    obtain ⟨_, step, same, -, patient, records⟩ := told
    rw [effect] at same
    cases same
    exact .inl ⟨phase, patient, records⟩
  · obtain ⟨_, same, ended, -⟩ := told
    rw [effect] at same
    cases same
    rw [running] at ended
    cases ended
  · obtain ⟨_, outcome, same, ended, -⟩ := told
    rw [effect] at same
    cases same
    rw [running] at ended
    cases ended
  · next rejection phase =>
    rcases told with ⟨-, -, idle | ⟨_, step, same, ended, -⟩⟩ | ⟨-, -, idle, -⟩ |
      ⟨_, same, gave_up, audits, rejected, lates⟩
    · rw [effect] at idle
      cases idle
    · rw [effect] at same
      cases same
      rw [running] at ended
      cases ended
    · rw [effect] at idle
      cases idle
    · rw [effect] at same
      cases same
      rw [rejected] at phase
      rw [Effect.lateness, running] at lates
      exact .inr ⟨phase, gave_up, audits, lates⟩
  · rcases told with ⟨-, -, idle | ⟨_, step, same, ended, -⟩⟩ | ⟨_, same, ended, -⟩
    · rw [effect] at idle
      cases idle
    · rw [effect] at same
      cases same
      rw [running] at ended
      cases ended
    · rw [effect] at same
      cases same
      rw [running] at ended
      cases ended

theorem Handler.Valid.proceed {answer : EffectAnswer} (effect : h.effect = some e)
    (running : e.stage = .running step) (next : Next h.action now step answer stage more) :
    (h.proceed e answer stage more).Valid options := by
  have before := valid.course e effect
  rw [running] at before
  have course := next.course before
  obtain ⟨only_effects, no_audits, no_lates, no_commands⟩ := next.acts
  -- What the handler records besides the effect's own acts, and where that leaves it.
  have whole : ∀ (phase : Phase) (records : List Act), records.filter Act.isEffect = [] →
      records.filter Act.isDisconnection = [] →
      ({ h with
        phase
        effect := some { e with stage, answers := e.answers ++ [answer] }
        acts := h.acts ++ more ++ records } : Handler).Told →
      ({ h with
        phase
        effect := some { e with stage, answers := e.answers ++ [answer] }
        acts := h.acts ++ more ++ records } : Handler).Valid options := by
    intro phase records plain silent told
    have same := Handler.disconnections_of_acts (h := h) (k := { h with
      phase
      effect := some { e with stage, answers := e.answers ++ [answer] }
      acts := h.acts ++ more ++ records }) (List.append_assoc ..)
      (by rw [List.filter_append, no_commands, silent, List.append_nil])
    refine ⟨by simp, ?_, ?_, told, by rw [same]; exact valid.commands, valid.awaited⟩
    · rintro _ ⟨⟩
      rw [Handler.effectActs_of_acts (h := h) (List.append_assoc ..), List.filter_append,
        only_effects, plain, List.append_nil]
      exact course
    · rintro _ target ⟨⟩ deletes
      obtain ⟨sessions, warranted⟩ := valid.warranted e target effect deletes
      exact ⟨sessions, warranted.record rfl rfl rfl same⟩
  have audits : ∀ (phase : Phase) (records : List Act), ({ h with
      phase
      effect := some { e with stage, answers := e.answers ++ [answer] }
      acts := h.acts ++ more ++ records } : Handler).audits =
        h.audits ++ records.filterMap Act.audit? := by
    intro phase records
    rw [Handler.audits_of_acts (h := h) (List.append_assoc ..), List.filterMap_append, no_audits,
      List.nil_append]
  have lates : ∀ (phase : Phase) (records : List Act), ({ h with
      phase
      effect := some { e with stage, answers := e.answers ++ [answer] }
      acts := h.acts ++ more ++ records } : Handler).lates =
        h.lates ++ records.filterMap Act.late? := by
    intro phase records
    rw [Handler.lates_of_acts (h := h) (List.append_assoc ..), List.filterMap_append, no_lates,
      List.nil_append]
  rcases valid.waiter effect running with ⟨phase, patient, none_audited, none_late⟩ |
    ⟨phase, gave_up, audited, none_late⟩
  · cases stage with
    | running later =>
      have kept := whole h.phase [] rfl rfl (by
        unfold Handler.Told
        rw [phase, audits, lates, none_audited, none_late]
        exact ⟨_, later, rfl, rfl, patient, rfl, rfl⟩)
      rw [List.append_nil] at kept
      exact kept
    | failed at_step fault =>
      have ended := whole (.answered fault.answer) [] rfl rfl (by
        unfold Handler.Told
        rw [audits, lates, none_audited, none_late]
        cases fault with
        | rejected rejection =>
          exact .inl ⟨rfl, rfl, .inr ⟨_, at_step, rfl, rfl, patient⟩⟩
        | thrown => exact .inl ⟨rfl, rfl, .inr ⟨_, at_step, rfl, rfl, patient⟩⟩)
      rw [List.append_nil] at ended
      unfold Handler.proceed
      dsimp only
      rw [if_neg (by simp [patient])]
      exact ended
    | done outcome =>
      unfold Handler.proceed
      dsimp only
      rw [if_neg (by simp [patient])]
      apply whole _ [.audit .ok] rfl rfl
      unfold Handler.Told
      rw [audits, lates, none_audited, none_late]
      cases kind : e.kind with
      | deletion target => exact ⟨_, outcome, rfl, rfl, patient, rfl, rfl⟩
      | clear =>
        rw [kind] at course
        obtain ⟨_, _, -, -, after⟩ := course
        cases outcome with
        | none => exact ⟨_, rfl, rfl, patient, rfl, rfl⟩
        | some outcome => exact after.elim
  · cases stage with
    | running later =>
      have kept := whole h.phase [] rfl rfl (by
        unfold Handler.Told
        rw [phase, audits, lates, audited, none_late]
        exact .inr (.inr ⟨_, rfl, gave_up, rfl, rfl, rfl⟩))
      rw [List.append_nil] at kept
      exact kept
    | failed at_step fault =>
      unfold Handler.proceed
      dsimp only
      rw [if_pos gave_up]
      apply whole h.phase [.late false] rfl rfl
      unfold Handler.Told
      rw [phase, audits, lates, audited, none_late]
      exact .inr (.inr ⟨_, rfl, gave_up, rfl, rfl, rfl⟩)
    | done outcome =>
      unfold Handler.proceed
      dsimp only
      rw [if_pos gave_up]
      apply whole h.phase [.late true] rfl rfl
      unfold Handler.Told
      rw [phase, audits, lates, audited, none_late]
      exact .inr (.inr ⟨_, rfl, gave_up, rfl, rfl, rfl⟩)

theorem Handler.Valid.giveUp (effect : h.effect = some e) (phase : h.phase = .confirming) :
    (h.giveUp e).Valid options := by
  have told := valid.told
  rw [Handler.Told, phase] at told
  obtain ⟨_, step, same, running, -, audits, lates⟩ := told
  rw [effect] at same
  cases same
  have quiet := Handler.disconnections_of_acts (h := h) (k := h.giveUp e) rfl rfl
  refine ⟨by simp [Handler.giveUp], ?_, ?_, .inr (.inr ⟨_, rfl, rfl, ?_, rfl, ?_⟩),
    by rw [quiet]; exact valid.commands, valid.awaited⟩
  · rintro _ ⟨⟩
    rw [Handler.effectActs_of_acts (h := h) rfl]
    change Course h.action e.kind e.stage e.answers (h.effectActs ++ [])
    rw [List.append_nil]
    exact valid.course e effect
  · rintro _ target ⟨⟩ deletes
    obtain ⟨sessions, warranted⟩ := valid.warranted e target effect deletes
    exact ⟨sessions, warranted.record rfl rfl rfl quiet⟩
  · rw [Handler.audits_of_acts (h := h) rfl, audits]
    rfl
  · rw [Handler.lates_of_acts (h := h) rfl, lates]
    exact (Effect.lateness_of_running (e := { e with waiterGaveUp := true }) running).symm

theorem Handler.Valid.reported (phase : h.phase = .reporting) :
    ({ h with phase := .answered .ok } : Handler).Valid options := by
  have told := valid.told
  rw [Handler.Told, phase] at told
  obtain ⟨e, effect, ended, records⟩ := told
  refine ⟨valid.idle, valid.course, ?_, ⟨e, none, effect, ended, records⟩, valid.commands,
    valid.awaited⟩
  intro e target effect deletes
  obtain ⟨sessions, warranted⟩ := valid.warranted e target effect deletes
  exact ⟨sessions, warranted.record rfl rfl rfl rfl⟩

theorem Handler.Valid.threw
    (awaits : h.phase = .reading ∨ (∃ target, h.phase = .listing target) ∨ h.phase = .reporting) :
    ({ h with phase := .answered .threw } : Handler).Valid options := by
  have told := valid.told
  refine ⟨valid.idle, valid.course, ?_, ?_, valid.commands, valid.awaited⟩
  · intro e target effect deletes
    obtain ⟨sessions, warranted⟩ := valid.warranted e target effect deletes
    exact ⟨sessions, warranted.record rfl rfl rfl rfl⟩
  rcases awaits with phase | ⟨target, phase⟩ | phase
  · rw [Handler.Told, phase] at told
    exact .inl ⟨told.2.2.2.1, told.2.2.2.2, .inl told.2.1⟩
  · rw [Handler.Told, phase] at told
    exact .inl ⟨told.2.2.2.1, told.2.2.2.2, .inl told.2.1⟩
  · rw [Handler.Told, phase] at told
    exact .inr told

end

end Handlers

def AllValid (options : Options) (p : Service) : Prop :=
  ∀ (i : Nat) (h : Handler), p.handlers[i]? = some h → h.Valid options

section Runs

variable {options : Options} {p p' : Service} {i : Nat} {h h' : Handler} {e : Effect} {c : Closing}

theorem AllValid.update (all : AllValid options p) (i : Nat) (valid : h.Valid options) :
    AllValid options (p.update i h) := by
  intro j other there
  rcases getElem?_set_cases there with ⟨-, rfl⟩ | ⟨-, before⟩
  · exact valid
  · exact all j other before

theorem Service.handlers_drainDeletions :
    (p.drainDeletions options c).handlers = p.handlers := by
  unfold Service.drainDeletions
  split <;> rfl

theorem Service.handlers_close : p.close.handlers = p.handlers := by
  unfold Service.close
  split <;> rfl

theorem Step.allValid (step : Step options p p') (all : AllValid options p) : AllValid options p' := by
  cases step with
  | elapse ms => exact all
  | called action =>
    intro j other there
    rcases getElem?_concat_cases there with ⟨-, rfl⟩ | ⟨-, before⟩
    · split
      · exact ⟨fun _ => rfl, by simp, by simp, .inl ⟨rfl, rfl, .inl rfl⟩, .refl _, by simp⟩
      · exact Handler.valid_begin p.now action
    · exact all j other before
  | read i h room there phase => exact all.update i ((all i h there).read phase room)
  | listed i h target sessions there phase =>
    exact all.update i ((all i h there).list phase p.now sessions)
  | threw i h there awaits => exact all.update i ((all i h there).threw awaits)
  | requested i h j request there waits unsent =>
    exact all.update i ((all i h there).request waits unsent)
  | replied i h j request reply there waits sent pending =>
    exact all.update i ((all i h there).replied waits sent pending p.now reply)
  | proceeded i h e step answer stage acts there effect running next =>
    exact all.update i ((all i h there).proceed effect running next)
  | gaveUp i h e there effect phase due =>
    exact all.update i ((all i h there).giveUp effect phase)
  | reported i h there phase => exact all.update i ((all i h there).reported phase)
  | closed =>
    unfold AllValid
    rw [Service.handlers_close]
    exact all
  | handlersDrained c snapshot closing drain enough =>
    unfold AllValid
    rw [Service.handlers_drainDeletions]
    exact all
  | deletionsDrained c snapshot closing drain enough => exact all
  | videoClearsDrained c pendingHandlers snapshot closing drain enough => exact all

theorem Reachable.allValid (reached : Reachable options p) : AllValid options p := by
  induction reached with
  | refl => simp [AllValid]
  | tail _ step ih => exact step.allValid ih

end Runs

/-- A deletion tears the room's runtime down, and tells its members where it closes it, after the
write and unless the code was another room's. A clear writes what it read, again where another
version was there and three times at most, and tells the room once a write took. They do so whether
the waiter is still there or not, and a late end is recorded once. A room is only deleted when each
of its sessions was disconnected by a command of its own or it had none, and the audit and the
answer of an action tell what became of it. -/
theorem room_action_is_accounted_for (options : Options) (p : Service)
    (reached : Reachable options p) (i : Nat) (h : Handler) (there : p.handlers[i]? = some h) :
    h.Told ∧ (h.effect = none → h.effectActs = []) ∧
      ∀ (e : Effect), h.effect = some e →
        Course h.action e.kind e.stage e.answers h.effectActs ∧
        ∀ target, e.kind = .deletion target → ∃ sessions, h.Warranted options sessions :=
  have valid := reached.allValid i h there
  ⟨valid.told, valid.idle, fun e effect =>
    ⟨valid.course e effect, fun target => valid.warranted e target effect⟩⟩

/-- A deletion that outlives its waiter still tears the room down and tells it, once its two
sessions were disconnected. A clear that meets another version three times tells nobody. -/
theorem late_deletion_still_tears_down :
    let options : Options := { instanceId := js "n" }
    let target : RedisRoomStore.PersistedRoom := ⟨⟨[], by decide⟩, js "t", 0, none, none, none,
      none, 0, 0, none⟩
    let a : Listed := ⟨js "a", some (js "m")⟩
    let b : Listed := ⟨js "b", none⟩
    let gone (session : Listed) : AdminCommandResult :=
      ⟨js "q", js "m", js "m", .ok none none (some session.id), 0⟩
    let ended : Effect := ⟨.deletion target, 0, true, .done (some .deleted),
      [.deleted .deleted, .settled, .settled]⟩
    let commands : List Act :=
      [.disconnectSession (js "n") (js "b"), .disconnectSession (js "m") (js "a")]
    let h : Handler :=
      { action := .closeRoom
        phase := .answered (.rejected (Handler.unconfirmed (.deletion target)))
        listed := some [a, b]
        requests := [⟨a, true, some (.answered (gone a))⟩, ⟨b, true, some (.answered (gone b))⟩]
        effect := some ended
        acts := commands ++ [.deleteRoom target, .audit .unconfirmed, .teardownRoomRuntime,
          .publishRoomDeleted, .late true] }
    let met : List EffectAnswer :=
      [.found (some target), .updated (.refused .versionConflict)]
    let failed : Effect := ⟨.clear, 0, false, .failed (.updating 2) (.rejected roomVersionConflict),
      met ++ met ++ met⟩
    let clear : Handler :=
      { action := .clearRoomVideo
        phase := .answered (.rejected roomVersionConflict)
        effect := some failed
        acts := [clearing target 0, clearing target 0, clearing target 0] }
    (h.Told ∧ (∃ sessions, h.Warranted options sessions) ∧
      Course .closeRoom (.deletion target) ended.stage ended.answers
        [.deleteRoom target, .teardownRoomRuntime, .publishRoomDeleted]) ∧
      clear.Told ∧ Course .clearRoomVideo .clear failed.stage failed.answers clear.acts := by
  intro options target a b gone ended commands h met failed clear
  let reading (k : Nat) (answers : List EffectAnswer) (acts : List Act) : Handler :=
    { clear with
      phase := .confirming
      effect := some { failed with stage := .running (.reading k), answers }
      acts }
  let updating (k : Nat) (answers : List EffectAnswer) (acts : List Act) : Handler :=
    { clear with
      phase := .confirming
      effect := some { failed with stage := .running (.updating k), answers }
      acts }
  let write := clearing target 0
  have cleared : Reachable options { handlers := [clear] } :=
    ((((((Relation.ReflTransGen.refl.tail
      (.called _ .clearRoomVideo)).tail
      (.proceeded _ 0 (reading 0 [] []) _ (.reading 0) _ _ _ rfl rfl rfl (.read 0 target))).tail
      (.proceeded _ 0 (updating 0 [.found (some target)] [write]) _ (.updating 0) _ _ _ rfl rfl rfl
        (.conflict 0 (by decide)))).tail
      (.proceeded _ 0 (reading 1 met [write]) _ (.reading 1) _ _ _ rfl rfl rfl
        (.read 1 target))).tail
      (.proceeded _ 0 (updating 1 (met ++ [.found (some target)]) [write, write]) _ (.updating 1)
        _ _ _ rfl rfl rfl (.conflict 1 (by decide)))).tail
      (.proceeded _ 0 (reading 2 (met ++ met) [write, write]) _ (.reading 2) _ _ _ rfl rfl rfl
        (.read 2 target))).tail
      (.proceeded _ 0 (updating 2 (met ++ met ++ [.found (some target)]) [write, write, write]) _
        (.updating 2) _ _ _ rfl rfl rfl (.conflicts 2 (by decide)))
  let listing : Handler := { action := .closeRoom, phase := .listing target }
  let asking (requests : List Request) (acts : List Act) : Handler :=
    { action := .closeRoom, phase := .disconnecting target, listed := some [a, b], requests, acts }
  let deleting (gaveUp : Bool) (phase : Phase) (step : EffectStep) (answers : List EffectAnswer)
      (acts : List Act) : Handler :=
    { h with
      phase
      effect := some ⟨.deletion target, 0, gaveUp, .running step, answers⟩
      acts := commands ++ acts }
  have asked : Reachable options { handlers := [clear, asking [⟨a, true, none⟩, ⟨b, true, none⟩]
      commands] } :=
    ((((cleared.tail
      (.called _ .closeRoom)).tail
      (.read _ 1 (.begin 0 .closeRoom) (some target) rfl rfl)).tail
      (.listed _ 1 listing target [a, b] rfl rfl)).tail
      (.requested _ 1 (asking [⟨a, false, none⟩, ⟨b, false, none⟩] []) 1 ⟨b, false, none⟩ rfl rfl
        rfl)).tail
      (.requested _ 1 (asking [⟨a, false, none⟩, ⟨b, true, none⟩]
        [.disconnectSession (js "n") (js "b")]) 0 ⟨a, false, none⟩ rfl rfl rfl)
  have deletes : Reachable options { handlers := [clear,
      deleting false .confirming .deleting [] [.deleteRoom target]] } :=
    (asked.tail
      (.replied _ 1 (asking [⟨a, true, none⟩, ⟨b, true, none⟩] commands) 0 ⟨a, true, none⟩
        (.answered (gone a)) rfl rfl rfl rfl)).tail
      (.replied _ 1 (asking [⟨a, true, some (.answered (gone a))⟩, ⟨b, true, none⟩] commands) 1
        ⟨b, true, none⟩ (.answered (gone b)) rfl rfl rfl rfl)
  have gave_up : Reachable options { now := 5000, handlers := [clear,
      deleting true h.phase .deleting [] [.deleteRoom target, .audit .unconfirmed]] } :=
    (deletes.tail
      (.elapse _ 5000)).tail
      (.gaveUp _ 1 (deleting false .confirming .deleting [] [.deleteRoom target]) _ rfl rfl rfl
        (by decide))
  have reached : Reachable options { now := 5000, handlers := [clear, h] } :=
    ((gave_up.tail
      (.proceeded _ 1 (deleting true h.phase .deleting [] [.deleteRoom target, .audit .unconfirmed])
        _ .deleting _ _ _ rfl rfl rfl (.deleted .deleted (by decide)))).tail
      (.proceeded _ 1 (deleting true h.phase (.tearingDown .deleted) [.deleted .deleted]
        [.deleteRoom target, .audit .unconfirmed, .teardownRoomRuntime]) _ (.tearingDown .deleted)
        _ _ _ rfl rfl rfl (.announced .deleted rfl))).tail
      (.proceeded _ 1 (deleting true h.phase (.announcing .deleted) [.deleted .deleted, .settled]
        [.deleteRoom target, .audit .unconfirmed, .teardownRoomRuntime, .publishRoomDeleted]) _
        (.announcing .deleted) _ _ _ rfl rfl rfl (.told .deleted))
  have closed := room_action_is_accounted_for options _ reached 1 h rfl
  have conflicting := room_action_is_accounted_for options _ reached 0 clear rfl
  obtain ⟨course, warranted⟩ := closed.2.2 ended rfl
  exact ⟨⟨closed.1, warranted target rfl, course⟩, conflicting.1,
    (conflicting.2.2 failed rfl).1⟩

/-! ## Closing -/

/-- What the pacers count of a handler they, or an earlier one, counted before. -/
def Handler.Goes (h h' : Handler) : Prop :=
  ∀ k, h'.counts k = true → ∃ j ≤ k, h.counts j = true

/-- Nothing is counted by a pacer. -/
def Service.AtRest (p : Service) : Prop :=
  ∀ (i : Nat) (h : Handler), p.handlers[i]? = some h → h.isAnswered = true ∧
    ∀ e, h.effect = some e → ∀ step, e.stage ≠ .running step

section Closing

variable {options : Options} {p p' : Service} {i : Nat} {h h' : Handler} {e : Effect} {c : Closing}

theorem Handler.goes_of_unanswered (unanswered : h.isAnswered = false) : h.Goes h' :=
  fun k _ => ⟨0, Nat.zero_le k, by simp [Handler.counts, unanswered]⟩

theorem Handler.goes_of_same (phase : h'.phase = h.phase) (effect : h'.effect = h.effect) :
    h.Goes h' := by
  intro k counted
  refine ⟨k, Nat.le_refl k, ?_⟩
  rw [← counted]
  unfold Handler.counts
  split <;> simp [Handler.isAnswered, Handler.runs, phase, effect]

theorem Handler.isAnswered_eq_false {phase : Phase} (same : h.phase = phase)
    (open_ : ∀ answer, phase ≠ .answered answer) : h.isAnswered = false := by
  unfold Handler.isAnswered
  rw [same]
  cases phase with
  | answered answer => exact absurd rfl (open_ answer)
  | reading | listing | disconnecting | confirming | reporting => rfl

theorem Handler.Valid.proceed_goes {answer : EffectAnswer} (valid : h.Valid options)
    (effect : h.effect = some e) (running : e.stage = .running step) :
    h.Goes (h.proceed e answer stage more) := by
  rcases valid.waiter effect running with ⟨phase, -⟩ | ⟨phase, gave_up, -⟩
  · exact Handler.goes_of_unanswered (Handler.isAnswered_eq_false phase (by simp))
  · have answered : (h.proceed e answer stage more).phase = h.phase := by
      unfold Handler.proceed
      cases stage <;> simp [gave_up]
    have goes_on : (h.proceed e answer stage more).effect = some { e with stage, answers := e.answers ++ [answer] } := by
      unfold Handler.proceed
      cases stage <;> simp [gave_up]
    have still : ∀ kind : EffectKind → Bool, (h.proceed e answer stage more).runs kind = true →
        h.runs kind = true := by
      intro kind runs
      simp only [Handler.runs, goes_on, Option.any_some, Bool.and_eq_true] at runs
      simp only [Handler.runs, effect, Option.any_some, running, Bool.and_true]
      exact runs.1
    intro k counted
    refine ⟨k, Nat.le_refl k, ?_⟩
    unfold Handler.counts at counted ⊢
    split at counted
    · have same : (h.proceed e answer stage more).isAnswered = h.isAnswered := by
        simp [Handler.isAnswered, answered]
      dsimp only at counted ⊢
      rw [← same]
      exact counted
    · exact still _ counted
    · exact still _ counted
    · exact counted

theorem Handler.replied_goes (now j : Nat) (request : Request) (reply : Reply) :
    h.Goes (h.replied now j request reply) := by
  cases phase : h.phase with
  | disconnecting target =>
    exact Handler.goes_of_unanswered (Handler.isAnswered_eq_false phase (by simp))
  | reading | listing | confirming | reporting | answered =>
    apply Handler.goes_of_same
    · simp [Handler.replied, phase]
    · simp [Handler.replied, phase]

/-- While the service is closing, what a pacer counts comes from what that or an earlier one did. -/
theorem Step.narrows (step : Step options p p') (all : AllValid options p) (closing : p.closing ≠ none) :
    Narrows Handler.counts p.handlers p'.handlers := by
  have updated : ∀ (i : Nat) (h h' : Handler), p.handlers[i]? = some h → h.Goes h' →
      Narrows Handler.counts p.handlers (p.update i h').handlers := by
    intro i h h' there goes j other k after counted
    rcases getElem?_set_cases after with ⟨rfl, rfl⟩ | ⟨-, before⟩
    · obtain ⟨m, le, was⟩ := goes k counted
      exact ⟨h, m, there, le, was⟩
    · exact ⟨other, k, before, Nat.le_refl k, counted⟩
  have unanswered : ∀ (i : Nat) (h h' : Handler) (phase : Phase), p.handlers[i]? = some h →
      h.phase = phase → (∀ answer, phase ≠ .answered answer) →
        Narrows Handler.counts p.handlers (p.update i h').handlers :=
    fun i h h' phase there same open_ => updated i h h' there
      (Handler.goes_of_unanswered (Handler.isAnswered_eq_false same open_))
  cases step with
  | elapse ms => exact .refl _ _
  | called action =>
    intro i other k after counted
    rcases getElem?_concat_cases after with ⟨-, rfl⟩ | ⟨-, before⟩
    · rw [if_pos (Option.isSome_iff_ne_none.mpr closing)] at counted
      unfold Handler.counts at counted
      split at counted <;> simp [Handler.isAnswered, Handler.runs] at counted
    · exact ⟨other, k, before, Nat.le_refl k, counted⟩
  | read i h room there phase => exact unanswered i h _ _ there phase (by simp)
  | listed i h target sessions there phase => exact unanswered i h _ _ there phase (by simp)
  | threw i h there awaits =>
    rcases awaits with phase | ⟨target, phase⟩ | phase
    · exact unanswered i h _ _ there phase (by simp)
    · exact unanswered i h _ _ there phase (by simp)
    · exact unanswered i h _ _ there phase (by simp)
  | requested i h j request there waits unsent =>
    exact updated i h _ there (Handler.goes_of_same rfl rfl)
  | replied i h j request reply there waits sent pending =>
    exact updated i h _ there (Handler.replied_goes _ _ _ _)
  | proceeded i h e step answer stage acts there effect running next =>
    exact updated i h _ there ((all i h there).proceed_goes effect running)
  | gaveUp i h e there effect phase due => exact unanswered i h _ _ there phase (by simp)
  | reported i h there phase => exact unanswered i h _ _ there phase (by simp)
  | closed =>
    rw [Service.handlers_close]
    exact .refl _ _
  | handlersDrained c snapshot _ drain enough =>
    rw [Service.handlers_drainDeletions]
    exact .refl _ _
  | deletionsDrained c snapshot _ drain enough => exact .refl _ _
  | videoClearsDrained c pendingHandlers snapshot _ drain enough => exact .refl _ _

end Closing

/-- How far the drain is, unless its budget is over. -/
def Service.Drains (options : Options) (c : Closing) (p : Service) : Prop :=
  match c.drain with
  | .handlers snapshot => Drained Handler.counts 0 snapshot p.handlers
  | .deletions snapshot => c.startedAt + options.closeBudgetMs ≤ p.now ∨
      Drained Handler.counts 1 snapshot p.handlers
  | .videoClears pendingHandlers snapshot => (pendingHandlers = 0 → p.pending 0 = []) ∧
      (c.startedAt + options.closeBudgetMs ≤ p.now ∨
        pendingHandlers = 0 ∧ Drained Handler.counts 2 snapshot p.handlers)
  | .finished endedAt report =>
    (report ≠ none → c.startedAt + options.closeBudgetMs ≤ endedAt) ∧
      (report = none → Drained Handler.counts 3 [] p.handlers)

section Drains

variable {options : Options} {p p' : Service} {c : Closing}

theorem Service.Drains.narrow (drains : p.Drains options c) (later : p.now ≤ p'.now)
    (narrows : Narrows Handler.counts p.handlers p'.handlers) : p'.Drains options c := by
  unfold Service.Drains at drains ⊢
  split at drains
  · exact drains.narrow narrows
  · exact drains.imp (fun due => due.trans later) fun drained => drained.narrow narrows
  · refine ⟨?_, ?_⟩
    · intro counted
      have empty := drains.1 counted
      apply List.eq_nil_iff_forall_not_mem.mpr
      intro i mem
      obtain ⟨j, le, before⟩ := narrows.places mem
      obtain rfl : j = 0 := by omega
      change i ∈ p.pending 0 at before
      rw [empty] at before
      exact List.not_mem_nil before
    · apply drains.2.imp (fun due => due.trans later)
      exact fun ⟨counted, drained⟩ => ⟨counted, drained.narrow narrows⟩
  · exact ⟨drains.1, fun quiet => (drains.2 quiet).narrow narrows⟩

theorem drained_iff : Drained Handler.counts 3 [] p.handlers ↔
    p.pending 0 = [] ∧ p.pending 1 = [] ∧ p.pending 2 = [] := by
  constructor
  · exact fun drained =>
      ⟨drained.past 0 (by decide), drained.past 1 (by decide), drained.past 2 (by decide)⟩
  · rintro ⟨answered, deleted, cleared⟩
    constructor
    · intro k before
      obtain rfl | rfl | rfl : k = 0 ∨ k = 1 ∨ k = 2 := by omega
      · exact answered
      · exact deleted
      · exact cleared
    · intro i counted
      obtain ⟨h, -, impossible⟩ := mem_places.mp counted
      cases impossible

/-- The report of a drain that is over is silent only if nothing is left. -/
theorem drains_finish {pendingHandlers : Nat} (counted : pendingHandlers = 0 → p.pending 0 = [])
    (enough : c.startedAt + options.closeBudgetMs ≤ p.now ∨
      pendingHandlers = 0 ∧ p.pending 1 = [] ∧ p.pending 2 = []) :
    (p.setDrain c (p.finish pendingHandlers)).Drains options
      { c with drain := p.finish pendingHandlers } := by
  unfold Service.Drains Service.finish
  dsimp only
  constructor
  · intro loud
    rcases enough with due | ⟨rfl, deleted, cleared⟩
    · exact due
    · simp [deleted, cleared] at loud
  · intro quiet
    have none_left : ¬ (0 < pendingHandlers ∨ 0 < (p.pending 1).length ∨
        0 < (p.pending 2).length) := by
      intro left
      rw [if_pos left] at quiet
      cases quiet
    have nobody : pendingHandlers = 0 := by omega
    have no_deletions : (p.pending 1).length = 0 := by omega
    have no_clears : (p.pending 2).length = 0 := by omega
    exact drained_iff.mpr ⟨counted nobody, List.eq_nil_of_length_eq_zero no_deletions,
      List.eq_nil_of_length_eq_zero no_clears⟩

theorem drains_drainVideoClears
    (enough : c.startedAt + options.closeBudgetMs ≤ p.now ∨
      Drained Handler.counts 2 (p.pending 2) p.handlers) :
    ∀ c', (p.drainVideoClears options c).closing = some c' →
      (p.drainVideoClears options c).Drains options c' := by
  rintro _ ⟨⟩
  have counted : (p.pending 0).length = 0 → p.pending 0 = [] := List.eq_nil_of_length_eq_zero
  by_cases time : p.hasTime options c
  · unfold Service.drainVideoClears
    dsimp only
    simp only [time, if_true]
    refine ⟨counted, ?_⟩
    apply enough.imp_right
    intro drained
    have answered : p.pending 0 = [] := drained.past 0 (by decide)
    exact ⟨by rw [answered]; rfl, drained⟩
  · unfold Service.drainVideoClears
    dsimp only
    simp only [time, if_false]
    exact drains_finish counted (.inl (Nat.le_of_not_lt time))

theorem Service.Drains.drainDeletions (drains : p.Drains options c) {snapshot : List Nat}
    (drain : c.drain = .handlers snapshot) (enough : Settled options c 0 snapshot p) :
    ∀ c', (p.drainDeletions options c).closing = some c' →
      (p.drainDeletions options c).Drains options c' := by
  rw [Service.Drains, drain] at drains
  unfold Service.drainDeletions
  split
  · rintro _ ⟨⟩
    rcases enough with settled | due
    · exact .inr (drains.next settled)
    · exact .inl (le_of_timer_le options.closeBudgetMs_le due)
  · next late => exact drains_drainVideoClears (.inl (Nat.le_of_not_lt late))

theorem Step.drains (step : Step options p p') (all : AllValid options p)
    (drains : ∀ c, p.closing = some c → p.Drains options c) :
    ∀ c, p'.closing = some c → p'.Drains options c := by
  have kept : ∀ {p' : Service}, Step options p p' → p'.closing = p.closing → p.now ≤ p'.now →
      ∀ c, p'.closing = some c → p'.Drains options c := by
    intro p' step same later c closing
    rw [same] at closing
    exact (drains c closing).narrow later (step.narrows all (by simp [closing]))
  cases step with
  | elapse ms => exact kept (.elapse p ms) rfl (Nat.le_add_right _ _)
  | called action => exact kept (.called p action) rfl (Nat.le_refl _)
  | read i h room there phase => exact kept (.read p i h room there phase) rfl (Nat.le_refl _)
  | listed i h target sessions there phase =>
    exact kept (.listed p i h target sessions there phase) rfl (Nat.le_refl _)
  | threw i h there awaits => exact kept (.threw p i h there awaits) rfl (Nat.le_refl _)
  | requested i h j request there waits unsent =>
    exact kept (.requested p i h j request there waits unsent) rfl (Nat.le_refl _)
  | replied i h j request reply there waits sent pending =>
    exact kept (.replied p i h j request reply there waits sent pending) rfl (Nat.le_refl _)
  | proceeded i h e step answer stage acts there effect running next =>
    exact kept (.proceeded p i h e step answer stage acts there effect running next) rfl (Nat.le_refl _)
  | gaveUp i h e there effect phase due =>
    exact kept (.gaveUp p i h e there effect phase due) rfl (Nat.le_refl _)
  | reported i h there phase => exact kept (.reported p i h there phase) rfl (Nat.le_refl _)
  | closed =>
    unfold Service.close
    split
    · exact drains
    · rintro _ ⟨⟩
      exact drained_start _ _
  | handlersDrained c snapshot closing drain enough =>
    exact (drains c closing).drainDeletions drain enough
  | deletionsDrained c snapshot closing drain enough =>
    have before := drains c closing
    rw [Service.Drains, drain] at before
    apply drains_drainVideoClears
    rcases before with due | drained
    · exact .inl due
    · exact enough.symm.imp (le_of_timer_le options.closeBudgetMs_le) drained.next
  | videoClearsDrained c pendingHandlers snapshot closing drain enough =>
    have before := drains c closing
    rw [Service.Drains, drain] at before
    rintro _ ⟨⟩
    apply drains_finish before.1
    rcases before.2 with due | ⟨nobody, drained⟩
    · exact .inl due
    · rcases enough with settled | due
      · have past := (drained.next settled).past
        exact .inr ⟨nobody, past 1 (by decide), past 2 (by decide)⟩
      · exact .inl (le_of_timer_le options.closeBudgetMs_le due)

theorem Reachable.drains (reached : Reachable options p) :
    ∀ c, p.closing = some c → p.Drains options c := by
  induction reached with
  | refl => simp
  | tail earlier step ih => exact step.drains (Reachable.allValid earlier) ih

theorem atRest_of_drained (drained : Drained Handler.counts 3 [] p.handlers) : p.AtRest := by
  obtain ⟨answered, deleted, cleared⟩ := drained_iff.mp drained
  intro i h there
  have uncounted : ∀ k, p.pending k = [] → h.counts k ≠ true := by
    intro k empty counted
    have mem : i ∈ p.pending k := mem_places.mpr ⟨h, there, counted⟩
    rw [empty] at mem
    exact List.not_mem_nil mem
  constructor
  · simpa [Handler.counts] using uncounted 0 answered
  · intro e effect step running
    cases kind : e.kind with
    | deletion target =>
      apply uncounted 1 deleted
      simp [Handler.counts, Handler.runs, effect, kind, running]
    | clear =>
      apply uncounted 2 cleared
      simp [Handler.counts, Handler.runs, effect, kind, running]

theorem Step.stays_closing (step : Step options p p') (closing : p.closing ≠ none) :
    p'.closing ≠ none := by
  cases step with
  | closed =>
    unfold Service.close
    split
    · exact closing
    · simp
  | handlersDrained c snapshot =>
    unfold Service.drainDeletions
    split <;> exact Option.some_ne_none _
  | deletionsDrained | videoClearsDrained => exact Option.some_ne_none _
  | elapse | called | read | listed | threw | requested | replied | proceeded | gaveUp
  | reported => exact closing

theorem drained_later (all : AllValid options p) (run : Relation.ReflTransGen (Step options) p p')
    (closing : p.closing ≠ none) (drained : Drained Handler.counts 3 [] p.handlers) :
    AllValid options p' ∧ p'.closing ≠ none ∧ Drained Handler.counts 3 [] p'.handlers := by
  induction run with
  | refl => exact ⟨all, closing, drained⟩
  | tail _ step ih =>
    obtain ⟨valid, still, before⟩ := ih
    exact ⟨step.allValid valid, step.stays_closing still, before.narrow (step.narrows valid still)⟩

end Drains

/-- A close that reports nothing unfinished leaves every action answered and no effect running, and
none ever runs again; one that reports something has used up its budget. -/
theorem action_close_leaves_nothing_running (options : Options) (p : Service)
    (reached : Reachable options p) (c : Closing) (closing : p.closing = some c) (endedAt : Nat)
    (report : Option Unfinished) (ended : c.drain = .finished endedAt report) :
    (report ≠ none → c.startedAt + options.closeBudgetMs ≤ endedAt) ∧
    (report = none → ∀ (p' : Service), Relation.ReflTransGen (Step options) p p' → p'.AtRest) := by
  have drains := reached.drains c closing
  rw [Service.Drains, ended] at drains
  refine ⟨drains.1, ?_⟩
  intro quiet p' run
  have begun : p.closing ≠ none := by simp [closing]
  exact atRest_of_drained (drained_later reached.allValid run begun (drains.2 quiet)).2.2

/-- A close awaits the deletion that an action starts while it drains, and that outlives the
answer. -/
theorem close_awaits_the_deletion :
    let target : RedisRoomStore.PersistedRoom := ⟨⟨[], by decide⟩, js "t", 0, none, none, none,
      none, 0, 0, none⟩
    let deleted : Handler :=
      { action := .closeRoom
        phase := .answered (.rejected (Handler.unconfirmed (.deletion target)))
        listed := some []
        effect := some ⟨.deletion target, 0, true, .done (some .deleted),
          [.deleted .deleted, .settled, .settled]⟩
        acts := [.deleteRoom target, .audit .unconfirmed, .teardownRoomRuntime,
          .publishRoomDeleted, .late true] }
    ({ now := 1000, handlers := [deleted], closing := some ⟨0, .finished 1000 none⟩ } :
      Service).AtRest := by
  intro target deleted
  let options : Options := { instanceId := js "n", roomDeleteConfirmTimeoutMs := 1000 }
  let deleting (gaveUp : Bool) (phase : Phase) (step : EffectStep) (answers : List EffectAnswer)
      (acts : List Act) : Handler :=
    { deleted with
      phase
      effect := some ⟨.deletion target, 0, gaveUp, .running step, answers⟩
      acts }
  have started : Reachable options
      { handlers := [deleting false .confirming .deleting [] [.deleteRoom target]]
        closing := some ⟨0, .handlers [0]⟩ } :=
    (((Relation.ReflTransGen.refl.tail
      (.called _ .closeRoom)).tail
      (.read _ 0 (.begin 0 .closeRoom) (some target) rfl rfl)).tail
      (.closed _)).tail
      (.listed _ 0 { action := .closeRoom, phase := .listing target } target [] rfl rfl)
  have gave_up : Reachable options
      { now := 1000
        handlers := [deleting true deleted.phase .deleting [] [.deleteRoom target,
          .audit .unconfirmed]]
        closing := some ⟨0, .handlers [0]⟩ } :=
    (started.tail
      (.elapse _ 1000)).tail
      (.gaveUp _ 0 (deleting false .confirming .deleting [] [.deleteRoom target]) _ rfl rfl rfl
        (by decide))
  have drained : Reachable options
      { now := 1000
        handlers := [deleting true deleted.phase .deleting [] [.deleteRoom target,
          .audit .unconfirmed]]
        closing := some ⟨0, .deletions [0]⟩ } :=
    gave_up.tail
      (.handlersDrained _ ⟨0, .handlers [0]⟩ [0] rfl rfl (.inl (by decide)))
  have ended : Reachable options
      { now := 1000, handlers := [deleted], closing := some ⟨0, .deletions [0]⟩ } :=
    ((drained.tail
      (.proceeded _ 0 (deleting true deleted.phase .deleting [] [.deleteRoom target,
        .audit .unconfirmed]) _ .deleting _ _ _ rfl rfl rfl (.deleted .deleted (by decide)))).tail
      (.proceeded _ 0 (deleting true deleted.phase (.tearingDown .deleted) [.deleted .deleted]
        [.deleteRoom target, .audit .unconfirmed, .teardownRoomRuntime]) _ (.tearingDown .deleted)
        _ _ _ rfl rfl rfl (.announced .deleted rfl))).tail
      (.proceeded _ 0 (deleting true deleted.phase (.announcing .deleted)
        [.deleted .deleted, .settled] [.deleteRoom target, .audit .unconfirmed,
          .teardownRoomRuntime, .publishRoomDeleted]) _ (.announcing .deleted) _ _ _ rfl rfl rfl
        (.told .deleted))
  have reached : Reachable options
      { now := 1000, handlers := [deleted], closing := some ⟨0, .finished 1000 none⟩ } :=
    (ended.tail
      (.deletionsDrained _ ⟨0, .deletions [0]⟩ [0] rfl rfl (.inl (by decide)))).tail
      (.videoClearsDrained _ ⟨0, .videoClears 0 []⟩ 0 [] rfl rfl (.inl (by simp)))
  exact (action_close_leaves_nothing_running options _ reached _ rfl 1000 none rfl).2 rfl _ .refl

end BiliSyncPlay.ActionService
