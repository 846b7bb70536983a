import BiliSyncPlay.Extension.RoomRequests
import Mathlib.Logic.Relation

/-!
# The events of the background

What the handlers of a socket do, and every event that the background can take: a call of its user
or of a page, the answer to a fetch, an event of a socket, a timer, and the end of a write to the
storage. What an event makes runnable runs before the next event.
-/

namespace BiliSyncPlay.Connection

open Json
open PlaybackAnchors (PlaybackState)

namespace Worker

/-! ## The handlers of a socket -/

/-- The request that an open socket is there for, if any. -/
def requestOnOpen (P : Platform) (s : Worker) : Worker :=
  if s.room.pendingCreateRoom then
    let s := { s with room.awaitingFreshRoomState := true, room.pendingCreateRoom := false }
    s.sendToServer P .create
  else if truthy s.room.pendingJoinRoomCode && truthy s.room.pendingJoinToken &&
      !s.room.pendingJoinRequestSent then
    let s := { s with room.awaitingFreshRoomState := true }
    s.sendPendingJoin P
  else if truthy s.room.roomCode && truthy s.room.joinToken then
    let s := { s with room.awaitingFreshRoomState := true }
    s.sendJoinRequest P (s.room.roomCode.getD "") (s.room.joinToken.getD "")
  else s

def onOpen (P : Platform) (s : Worker) (generation : Nat) : Worker :=
  if s.connection.socket ≠ some generation then s
  else
    let s := { s with
      connection.connected := true
      connection.lastError := none
      connection.serverRestarting := false
      connection.reconnectAttempt := 0
      connection.reconnectDeadlineMs := none }
    s.requestOnOpen P

def onMessage (P : Platform) (s : Worker) (generation : Nat) (message : ServerMessage) : Worker :=
  if s.connection.socket ≠ some generation then s
  else if !isServerMessage message then s
  else s.handleServerMessage P message

/-- A marker that no queued share can confirm any more is given up. -/
def clearUnlessQueued (s : Worker) : Worker :=
  if s.room.pendingSharedVideo.isNone then s.clearPendingLocalShare else s

def onError (s : Worker) (generation : Nat) (socket : Socket) : Worker :=
  if s.connection.socket ≠ some generation then s
  else
    let s := { s with
      connection.lastError :=
        some (getSocketErrorMessage socket.sawOpen true s.connection.serverRestarting)
      connection.connected := false }
    s.clearUnlessQueued

/-- An admin's close, of whichever socket, takes the connection of the session down. -/
def resetAdminSession (s : Worker) (generation : Nat) (message : Notice) : Worker :=
  let s := { s with
    connection.connectEpoch := s.connection.connectEpoch + 1
    connection.connectProbe := none
    teardowns := s.teardowns + 1 }
  let s := if s.connection.socket = some generation then
      { s with connection.socket := none, connection.connected := false }
    else s.dropSocket
  s.clearCurrentRoomContext (some message)

def CLOSE_CODE_GOING_AWAY : Nat := 1001

def SERVER_SHUTDOWN_CLOSE_REASON : JsString := RedisRoomStore.js "server_shutting_down"

def closeSuperseded (s : Worker) (generation : Nat) : Worker :=
  if s.room.pendingSharedVideo.isNone &&
      s.shareState.pendingLocalShareGeneration = some generation then
    s.clearPendingLocalShare
  else s

/-- The server said that it is going away on purpose. -/
def noteServerShutdown (s : Worker) (socket : Socket) (code : Nat) (reason : JsString) : Worker :=
  if code = CLOSE_CODE_GOING_AWAY ∧ reason = SERVER_SHUTDOWN_CLOSE_REASON then
    { s with
      connection.serverRestarting := true
      connection.lastError := some (getSocketErrorMessage socket.sawOpen true true) }
  else s

def closeCurrent (s : Worker) (socket : Socket) (code : Nat) (reason : JsString) : Worker :=
  let s := { s with connection.connected := false }
  let s := s.noteServerShutdown socket code reason
  s.clearUnlessQueued.scheduleReconnect

def onClose (s : Worker) (generation : Nat) (socket : Socket) (code : Nat) (reason : JsString) :
    Worker :=
  match formatAdminSessionResetReason reason with
  | some message => s.resetAdminSession generation message
  | none =>
    if s.connection.socket ≠ some generation then s.closeSuperseded generation
    else s.closeCurrent socket code reason

end Worker

/-! ## Events -/

inductive Event where
  /-- A popup, a page, the watchdog or a dropped message asks for a connection. -/
  | connects
  | createRoom
  /-- The code and the token as `requestJoinRoom` trims them. -/
  | joinRoom (roomCode : RoomCode) (joinToken : JoinToken)
  | leaveRoom
  | shares (video : SharedVideo) (playback : Option PlaybackState) (tabId : Option Nat)
  | autoShares (tabId : Nat) (previousSharedUrl targetNormalizedUrl : JsString)
  /-- The page of an auto-share answers what it shows. -/
  | readsTab (task : Nat) (payload : Option (SharedVideo × Option PlaybackState))
  | playbackUpdate (tabId : Nat) (playback : PlaybackState)
  /-- A tab is opened for the shared video, or closed. -/
  | binds (tabId : Option Nat)
  | updateServerUrl (nextServerUrl : JsString)
  | answers (probe : Nat) (answer : Answer)
  | opens (socket : Nat)
  | receives (socket : Nat) (message : ServerMessage)
  /-- A socket starts to close; its close event is still to come. -/
  | breaks (socket : Nat)
  | fails (socket : Nat)
  | closes (socket : Nat) (code : Nat) (reason : JsString)
  /-- A member comes or goes, or what was held back of that is applied. -/
  | membersChange
  | reconnectTimer
  | shareTimer
  /-- A write to the storage ends, or the wait for a probe that is over. -/
  | resumes (task : Nat)

/-- The close of an admin session reset. -/
def Event.isAdminReset : Event → Bool
  | .closes _ _ reason => (formatAdminSessionResetReason reason).isSome
  | _ => false

namespace Worker

/-- What the handler of a member's coming or going does beside the list of members. -/
def changeMembers (s : Worker) : Worker :=
  match s.room.roomState with
  | none => s
  | some state => { s with
      room.roomCode := some state.roomCode
      connection.lastError := none }

def isReady (probes : Nat → Option Probe) : Task → Bool
  | .awaitsCreate probe | .awaitsJoin probe => (probes probe).isNone
  | _ => false

/-- A probe is over that a task waits for. -/
def isRunnable (s : Worker) : Bool := s.tasks.any (isReady s.probes)

/-- What is left of a task runs; the task is not among the others any more. -/
def resume (P : Platform) (s : Worker) : Task → Option Worker
  | .persistsCreate =>
    let (s, probe) := s.connect P
    match probe with
    | some probe => some (s.start (.awaitsCreate probe))
    | none => some (s.finishCreate P)
  | .persistsJoin =>
    let (s, probe) := s.connect P
    match probe with
    | some probe => some (s.start (.awaitsJoin probe))
    | none => some (s.finishJoin P)
  | .persistsServerUrl => some (s.finishServerUrl P)
  | .persistsRoom => some (s.executeFlushPendingShare P)
  | .persistsRejection code => some (s.handleRejection code)
  | .awaitsCreate probe => if (s.probes probe).isNone then some (s.finishCreate P) else none
  | .awaitsJoin probe => if (s.probes probe).isNone then some (s.finishJoin P) else none
  | .readsTab _ => none

def atTime (s : Worker) (now : Rat) : Worker := { s with now }

def drop (s : Worker) (task : Nat) : Worker := { s with tasks := s.tasks.eraseIdx task }

def take (P : Platform) (s : Worker) : Event → Option Worker
  | .connects => some (s.connect P).1
  | .createRoom => some s.requestCreateRoom
  | .joinRoom roomCode joinToken => some (s.requestJoinRoom roomCode joinToken)
  | .leaveRoom => some (s.requestLeaveRoom P)
  | .shares video playback tabId =>
    some (s.queueOrSendSharedVideo P video playback tabId false)
  | .autoShares tabId previousSharedUrl targetNormalizedUrl =>
    some (s.autoShareNextVideo P tabId previousSharedUrl targetNormalizedUrl)
  | .readsTab task payload => match s.tasks[task]? with
    | some (.readsTab request) => some ((s.drop task).finishAutoShare P request payload)
    | _ => none
  | .playbackUpdate tabId playback => some (s.playbackUpdate P tabId playback)
  | .binds tabId => some { s with shareState.sharedTabId := tabId }
  | .updateServerUrl nextServerUrl => some (s.updateServerUrl P nextServerUrl)
  | .answers id answer => match s.probes id with
    | some probe => s.settleProbe P id probe answer
    | none => none
  | .opens generation => match s.sockets generation with
    | some socket =>
      if socket.readyState = .CONNECTING then
        let opened := { socket with readyState := .OPEN, sawOpen := true }
        some ((s.setSocket generation opened).onOpen P generation)
      else none
    | none => none
  | .receives generation message => match s.sockets generation with
    | some socket =>
      if socket.readyState = .OPEN then some (s.onMessage P generation message) else none
    | none => none
  | .breaks generation => some (s.closeSocket generation)
  | .fails generation => match s.sockets generation with
    | some socket =>
      if socket.closed then none
      else
        let failed := { socket with readyState := .CLOSED }
        some ((s.setSocket generation failed).onError generation failed)
    | none => none
  | .closes generation code reason => match s.sockets generation with
    | some socket =>
      if socket.closed then none
      else
        let closed := { socket with readyState := .CLOSED, closed := true }
        some ((s.setSocket generation closed).onClose generation closed code reason)
    | none => none
  | .membersChange => some s.changeMembers
  | .reconnectTimer => match s.connection.reconnectTimer with
    | some due =>
      if due ≤ s.now then some (s.clearReconnectTimer.connect P).1 else none
    | none => none
  | .shareTimer => match s.shareState.pendingLocalShareTimer with
    | some due => if due ≤ s.now then some s.expirePendingLocalShareIfNeeded else none
    | none => none
  | .resumes task => match s.tasks[task]? with
    | some t => (s.drop task).resume P t
    | none => none

/-- Nothing else happens before the tasks that can go on have done so. -/
def mayHappen (s : Worker) : Event → Bool
  | .resumes task => !s.isRunnable || s.tasks[task]?.any (isReady s.probes)
  | _ => !s.isRunnable

def exec (P : Platform) (s : Worker) (now : Rat) (event : Event) : Option Worker :=
  if now < s.now then none
  else if !s.mayHappen event then none
  else (s.atTime now).take P event

end Worker

/-! ## The start -/

/-- What the storage holds when the service worker starts: the room of a session, with its state
once it had one. -/
structure PersistedSnapshot where
  roomCode : Option RoomCode
  joinToken : Option JoinToken
  memberToken : Option MemberToken
  memberId : Option MemberId
  roomState : Option RoomState
  serverUrl : Option JsString
  filled : roomCode ≠ some ""
  roomed : ∀ state, roomState = some state → state.roomCode ≠ "" ∧ roomCode.isSome

/-- The server URL that is used, and whether it is one. -/
def resolvePersistedServerUrl (P : Platform) (input : Option JsString) : JsString × Bool :=
  let trimmed := Protocol.trim (input.getD [])
  if trimmed = [] then (P.defaultServerUrl, true)
  else match validateServerUrl P trimmed with
    | some normalizedUrl => (normalizedUrl, true)
    | none => (trimmed, false)

def bootstrapBackground (P : Platform) (persisted : PersistedSnapshot) : Worker :=
  let (serverUrl, shouldAutoConnect) := resolvePersistedServerUrl P persisted.serverUrl
  let s : Worker := {
    connection := {
      serverUrl
      lastError := if shouldAutoConnect then none else some .invalidServerUrl }
    room := {
      roomCode := persisted.roomCode
      joinToken := persisted.joinToken
      memberToken := persisted.memberToken
      memberId := persisted.memberId
      roomState := persisted.roomState } }
  if truthy s.room.roomCode && shouldAutoConnect then (s.connect P).1 else s

def Step (P : Platform) (s t : Worker) : Prop := ∃ now event, s.exec P now event = some t

def Run (P : Platform) : Worker → Worker → Prop := Relation.ReflTransGen (Step P)

/-- The run of a list of events that come at once. -/
def replay (P : Platform) (s : Worker) (events : List Event) : Option Worker :=
  events.foldlM (fun s event => s.exec P s.now event) s

theorem run_of_replay {P : Platform} {s t : Worker} (check : Worker → Event → Prop)
    {events : List Event} (replayed : replay P s events = some t)
    (checked : ∀ s event, event ∈ events → check s event) :
    Relation.ReflTransGen
      (fun s t => ∃ now event, check s event ∧ s.exec P now event = some t) s t := by
  induction events generalizing s with
  | nil =>
    cases replayed
    exact .refl
  | cons event rest ih =>
    obtain ⟨next, step, later⟩ := Option.bind_eq_some_iff.mp replayed
    exact .head ⟨s.now, event, checked s event (List.mem_cons_self ..), step⟩
      (ih later fun s event mem => checked s event (List.mem_cons_of_mem _ mem))

section
variable {P : Platform} {s t : Worker} (check : Worker → Event → Prop)
  [∀ s event, Decidable (check s event)]

/-- The events one after another, each of them checked where it happens. -/
def checkedReplay (P : Platform) (s : Worker) (events : List Event) : Option Worker :=
  events.foldlM (fun s event => if check s event then s.exec P s.now event else none) s

theorem run_of_checkedReplay {events : List Event}
    (replayed : checkedReplay check P s events = some t) : Relation.ReflTransGen
      (fun s t => ∃ now event, check s event ∧ s.exec P now event = some t) s t := by
  induction events generalizing s with
  | nil =>
    cases replayed
    exact .refl
  | cons event rest ih =>
    obtain ⟨next, step, later⟩ := Option.bind_eq_some_iff.mp replayed
    dsimp only at step
    split at step
    · next checked => exact .head ⟨s.now, event, checked, step⟩ (ih later)
    · cases step

end

theorem run_replay {P : Platform} {s t : Worker} {events : List Event}
    (replayed : replay P s events = some t) : Run P s t :=
  (run_of_replay (fun _ _ => True) replayed fun _ _ _ => trivial).lift id
    fun _ _ ⟨now, event, _, step⟩ => ⟨now, event, step⟩

end BiliSyncPlay.Connection
