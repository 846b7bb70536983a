import BiliSyncPlay.Protocol.Primitives
import BiliSyncPlay.Extension.PlaybackAnchors
import BiliSyncPlay.Extension.PlaybackSlots
import BiliSyncPlay.Extension.RoomSession
import Mathlib.Logic.Function.Basic

/-!
# The background's connection

The service worker's connection to its server: the probe that precedes a socket, the sockets and
their events, the timer of the next attempt, the requests of the user, and the shares that wait for
a socket or for their confirmation. A handler runs up to its first `await` in one step; what is left
of it is a task.
-/

namespace BiliSyncPlay.Connection

open Json Protocol
open PlaybackAnchors (PlaybackState)
open RedisRoomStore (js)
open RoomSession (ErrorCode)

/-- What the browser, the build and the protocol package supply. -/
structure Platform where
  defaultServerUrl : JsString
  /-- The protocol that `new URL` reads, unless it throws. -/
  protocol : JsString → Option JsString
  extensionOrigin : JsString
  normalizeBilibiliUrl : JsString → Option JsString

/-! ## Texts -/

/-- A text of the extension, by its key. -/
inductive Notice where
  | invalidServerUrl
  | connectionServerRestarting | connectionServerUnreachable
  | connectionHandshakeRejected
  | connectionOriginRejected (extensionOrigin : JsString)
  | connectionAllowedOriginsRejected
  | connectionLostReconnecting | connectionWebsocketFailed
  | adminRemovedFromRoom | adminDisconnectedSession | adminClosedRoom
  | popupErrorMemberTokenMissing
  | server (code : ErrorCode) (message : JsString)
  deriving DecidableEq

def getConnectionErrorMessage (healthcheckReachable : Bool) (extensionOrigin : JsString)
    (reason : Option JsString) (serverRestarting : Bool) : Notice :=
  if !healthcheckReachable then
    if serverRestarting then .connectionServerRestarting else .connectionServerUnreachable
  else
    let reason := reason.getD []
    if reason ≠ [] ∧ reason ≠ js "origin_not_allowed" ∧ reason ≠ js "origin_missing" then
      .connectionHandshakeRejected
    else if trim extensionOrigin ≠ [] then .connectionOriginRejected (trim extensionOrigin)
    else .connectionAllowedOriginsRejected

def getSocketErrorMessage (sawOpen healthcheckReachable serverRestarting : Bool) : Notice :=
  if serverRestarting then .connectionServerRestarting
  else if sawOpen then .connectionLostReconnecting
  else if !healthcheckReachable then .connectionServerUnreachable
  else .connectionWebsocketFailed

/-- The reasons of an admin session reset, with what the user is told. -/
def formatAdminSessionResetReason (reason : JsString) : Option Notice :=
  if reason = js "Admin kicked member" then some .adminRemovedFromRoom
  else if reason = js "Admin disconnected session" then some .adminDisconnectedSession
  else if reason = js "Admin closed room" then some .adminClosedRoom
  else none

/-! ## Addresses -/

def normalizedServerUrl (P : Platform) (input : JsString) : JsString :=
  if trim input ≠ [] then trim input else P.defaultServerUrl

def validateServerUrl (P : Platform) (input : JsString) : Option JsString :=
  let normalizedUrl := normalizedServerUrl P input
  if P.protocol normalizedUrl = some (js "ws:") ∨ P.protocol normalizedUrl = some (js "wss:") then
    some normalizedUrl
  else none

variable {P : Platform} {input : JsString}

theorem validate_eq_some {serverUrl : JsString} (valid : validateServerUrl P input = some serverUrl) :
    serverUrl = normalizedServerUrl P input := by
  unfold validateServerUrl at valid
  dsimp only at valid
  split at valid
  · exact (Option.some.inj valid).symm
  · cases valid

/-- A server URL that is not blank, or is the default, is normalised once and for all. -/
theorem normalizedServerUrl_normalized (settled : trim input ≠ [] ∨ input = P.defaultServerUrl) :
    normalizedServerUrl P (normalizedServerUrl P input) = normalizedServerUrl P input := by
  unfold normalizedServerUrl
  by_cases blank : trim input = []
  · have is_default : input = P.defaultServerUrl := settled.resolve_left (absurd blank)
    rw [← is_default]
    simp [blank]
  · simp [blank, trim_trim]

theorem validate_validate {serverUrl : JsString}
    (settled : trim input ≠ [] ∨ input = P.defaultServerUrl)
    (valid : validateServerUrl P input = some serverUrl) :
    validateServerUrl P serverUrl = some serverUrl := by
  obtain rfl := validate_eq_some valid
  rw [← valid]
  unfold validateServerUrl
  rw [normalizedServerUrl_normalized settled]

theorem settled_of_validate {serverUrl : JsString}
    (valid : validateServerUrl P input = some serverUrl) :
    trim serverUrl ≠ [] ∨ serverUrl = P.defaultServerUrl := by
  obtain rfl := validate_eq_some valid
  unfold normalizedServerUrl
  split
  · next filled => exact .inl (by rwa [trim_trim])
  · exact .inr rfl

def normalizeSharedVideoUrl (P : Platform) (url : Option JsString) : Option JsString :=
  match url with
  | none | some [] => none
  | some url => P.normalizeBilibiliUrl url

def areSharedVideoUrlsEqual (P : Platform) (left right : Option JsString) : Bool :=
  (normalizeSharedVideoUrl P left).isSome &&
    decide (normalizeSharedVideoUrl P left = normalizeSharedVideoUrl P right)

/-! ## Messages -/

abbrev RoomCode := String
abbrev JoinToken := String
abbrev MemberToken := String
abbrev MemberId := JsString

structure SharedVideo where
  url : JsString
  sharedByMemberId : Option MemberId := none
  deriving DecidableEq

/-- The state of a room, without its members and its playback. -/
structure RoomState where
  roomCode : RoomCode
  sharedVideo : Option SharedVideo
  deriving DecidableEq

/-- A call of `queueOrSendSharedVideo`. -/
structure Call where
  number : Nat
  isAutoShare : Bool
  deriving DecidableEq

/-- A video that was given to `queueOrSendSharedVideo`, as an object: with the call it came with. -/
structure Share where
  video : SharedVideo
  call : Call
  deriving DecidableEq

/-- The messages of the background that these claims are about; clock pings, profile updates and
requests for a room state are left out. -/
inductive ClientMessage where
  | create
  | join (roomCode : RoomCode) (joinToken : JoinToken) (memberToken : Option MemberToken)
  | leave (memberToken : Option MemberToken)
  | share (memberToken : MemberToken) (share : Share) (playback : Option PlaybackState)
  | playback (memberToken : MemberToken) (playback : PlaybackState)
  deriving DecidableEq

inductive ServerMessage where
  | created (roomCode : RoomCode) (joinToken : JoinToken) (memberToken : MemberToken)
    (memberId : MemberId)
  | joined (roomCode : RoomCode) (memberToken : MemberToken) (memberId : MemberId)
  | state (state : RoomState)
  | error (code : ErrorCode) (message : JsString)

/-- What of `isServerMessage` is used here: codes, tokens and ids are not empty. -/
def isServerMessage : ServerMessage → Bool
  | .created roomCode joinToken memberToken memberId =>
    roomCode ≠ "" && joinToken ≠ "" && memberToken ≠ "" && memberId ≠ []
  | .joined roomCode memberToken memberId => roomCode ≠ "" && memberToken ≠ "" && memberId ≠ []
  | .state state => state.roomCode ≠ ""
  | .error _ _ => true

/-! ## The state -/

inductive ReadyState where
  | CONNECTING | OPEN | CLOSING | CLOSED
  deriving DecidableEq

/-- A WebSocket, by its generation. -/
structure Socket where
  url : JsString
  /-- The probe that opened it. -/
  probe : Nat
  readyState : ReadyState := .CONNECTING
  sawOpen : Bool := false
  /-- Its close event was handled. -/
  closed : Bool := false
  deriving DecidableEq

def Socket.isLive (socket : Socket) : Bool :=
  socket.readyState = .OPEN || socket.readyState = .CONNECTING

/-- The fetch that a probe waits for. -/
inductive Stage where
  | connectionCheck | connectionCheckBody | healthcheck
  deriving DecidableEq

/-- A connect probe that has not ended. -/
structure Probe where
  serverUrl : JsString
  epoch : Nat
  stage : Stage := .connectionCheck
  /-- How many leaves and admin resets there were when it began. -/
  teardowns : Nat
  deriving DecidableEq

/-- How a fetch of a probe ends; the body of a connection check is an answer of its own. -/
inductive Answer where
  | throws
  | responds (status : Nat)
  | body (websocketAllowed : Bool) (reason : Option JsString)
  deriving DecidableEq

structure ConnectionState where
  socket : Option Nat := none
  serverUrl : JsString
  connected : Bool := false
  lastError : Option Notice := none
  connectProbe : Option Nat := none
  socketGeneration : Nat := 0
  connectEpoch : Nat := 0
  /-- When the timer is due. -/
  reconnectTimer : Option Rat := none
  reconnectAttempt : Nat := 0
  reconnectDeadlineMs : Option Rat := none
  serverRestarting : Bool := false
  deriving DecidableEq

structure RoomSessionState where
  roomCode : Option RoomCode := none
  joinToken : Option JoinToken := none
  memberToken : Option MemberToken := none
  memberId : Option MemberId := none
  roomState : Option RoomState := none
  pendingCreateRoom : Bool := false
  pendingJoinRoomCode : Option RoomCode := none
  pendingJoinToken : Option JoinToken := none
  pendingJoinRequestSent : Bool := false
  awaitingFreshRoomState : Bool := false
  pendingSharedVideo : Option Share := none
  pendingSharedPlayback : Option PlaybackState := none
  deriving DecidableEq

structure ShareState where
  sharedTabId : Option Nat := none
  pendingLocalShareUrl : Option JsString := none
  pendingLocalShareExpiresAt : Option Rat := none
  /-- When the timer is due. -/
  pendingLocalShareTimer : Option Rat := none
  pendingLocalShareGeneration : Option Nat := none
  pendingLocalShareIsAutoShare : Bool := false
  deriving DecidableEq

/-- An auto-share that waits for what its tab shows. -/
structure AutoShare where
  tabId : Nat
  previousSharedUrl : JsString
  targetNormalizedUrl : JsString
  isRememberedSourceTab : Bool
  deriving DecidableEq

/-- What is left of a handler that waits. -/
inductive Task where
  /-- A request for a room, or a share outside of any, that waits for the storage. -/
  | persistsCreate
  | persistsJoin
  | persistsServerUrl
  /-- A handler of `room:created` or `room:joined`. -/
  | persistsRoom
  /-- The handler of an error that ended a join. -/
  | persistsRejection (code : ErrorCode)
  | awaitsCreate (probe : Nat)
  | awaitsJoin (probe : Nat)
  | readsTab (request : AutoShare)
  deriving DecidableEq

/-- A frame that was written to a socket. -/
structure Sent where
  socket : Nat
  message : ClientMessage
  deriving DecidableEq

structure Worker where
  connection : ConnectionState
  room : RoomSessionState := {}
  shareState : ShareState := {}
  sockets : Nat → Option Socket := fun _ => none
  probes : Nat → Option Probe := fun _ => none
  probeCount : Nat := 0
  tasks : List Task := []
  now : Rat := 0
  sent : List Sent := []
  /-- How many calls of `queueOrSendSharedVideo` there were. -/
  calls : Nat := 0
  /-- How many leaves and admin resets there were. -/
  teardowns : Nat := 0

/-- A string that counts as true. -/
def truthy (text : Option String) : Bool := text.any fun text => decide (text ≠ "")

namespace Worker

def currentSocket (s : Worker) : Option Socket := s.connection.socket.bind s.sockets

def isSocketWritable (s : Worker) : Bool :=
  s.currentSocket.any fun socket => decide (socket.readyState = .OPEN)

def isSocketLive (s : Worker) : Bool := s.currentSocket.any Socket.isLive

def setSocket (s : Worker) (generation : Nat) (socket : Socket) : Worker :=
  { s with sockets := Function.update s.sockets generation (some socket) }

/-- `close()` of a socket: its close event is still to come. -/
def closeSocket (s : Worker) (generation : Nat) : Worker :=
  match s.sockets generation with
  | some socket =>
    if socket.isLive then s.setSocket generation { socket with readyState := .CLOSING } else s
  | none => s

def start (s : Worker) (task : Task) : Worker := { s with tasks := s.tasks ++ [task] }

/-! ## Reconnects -/

def clearReconnectTimer (s : Worker) : Worker :=
  { s with connection.reconnectTimer := none, connection.reconnectDeadlineMs := none }

def resetReconnectState (s : Worker) : Worker :=
  let s := s.clearReconnectTimer
  { s with connection.reconnectAttempt := 0, connection.serverRestarting := false }

def getReconnectDelayMs (reconnectAttempt : Nat) : Nat :=
  min (1000 * 2 ^ (reconnectAttempt - 1)) 30000

def shouldReconnect (s : Worker) : Bool :=
  if s.connection.connected || s.connection.reconnectTimer.isSome then false
  else truthy s.room.roomCode || s.room.pendingCreateRoom

def scheduleReconnect (s : Worker) : Worker :=
  if !s.shouldReconnect then s
  else
    let reconnectAttempt := s.connection.reconnectAttempt + 1
    let due := s.now + getReconnectDelayMs reconnectAttempt
    { s with
      connection.reconnectAttempt := reconnectAttempt
      connection.reconnectDeadlineMs := some due
      connection.reconnectTimer := some due }

/-! ## The probe -/

def refuseServerUrl (s : Worker) : Worker :=
  { s with connection.lastError := some .invalidServerUrl, connection.connected := false }

def beginProbe (s : Worker) (serverUrl : JsString) : Worker :=
  let probe : Probe := { serverUrl, epoch := s.connection.connectEpoch, teardowns := s.teardowns }
  { s with
    probes := Function.update s.probes s.probeCount (some probe)
    probeCount := s.probeCount + 1
    connection.connectProbe := some s.probeCount }

/-- `openSocketWithProbe` up to its first fetch, which a valid server URL has an address for. -/
def openSocketWithProbe (P : Platform) (s : Worker) (targetServerUrl : JsString) :
    Worker × Option Nat :=
  match validateServerUrl P targetServerUrl with
  | none => (s.refuseServerUrl, none)
  | some serverUrl => (s.beginProbe serverUrl, some s.probeCount)

/-- `connect`, with the probe it waits for. -/
def connect (P : Platform) (s : Worker) : Worker × Option Nat :=
  if s.isSocketLive then (s, none)
  else match s.connection.connectProbe with
    | some probe => (s, some probe)
    | none => match validateServerUrl P s.connection.serverUrl with
      | none => (s.refuseServerUrl, none)
      | some normalizedUrl => s.clearReconnectTimer.openSocketWithProbe P normalizedUrl

/-- What `connect` comes to. -/
inductive Connects (P : Platform) (s : Worker) : Worker × Option Nat → Prop where
  | live (is_live : s.isSocketLive = true) : Connects P s (s, none)
  | probing (dead : s.isSocketLive = false) (probe : Nat)
      (held : s.connection.connectProbe = some probe) : Connects P s (s, some probe)
  | refused (cleared : Worker) (is_cleared : cleared = s ∨ cleared = s.clearReconnectTimer)
      (invalid : ∀ serverUrl, validateServerUrl P s.connection.serverUrl = some serverUrl →
        validateServerUrl P serverUrl = none) :
      Connects P s (cleared.refuseServerUrl, none)
  | begins (dead : s.isSocketLive = false) (idle : s.connection.connectProbe = none)
      (normalizedUrl serverUrl : JsString)
      (normalized : validateServerUrl P s.connection.serverUrl = some normalizedUrl)
      (valid : validateServerUrl P normalizedUrl = some serverUrl) :
      Connects P s (s.clearReconnectTimer.beginProbe serverUrl, some s.probeCount)

theorem connect_cases (P : Platform) (s : Worker) : Connects P s (s.connect P) := by
  unfold connect
  split
  · next is_live => exact .live is_live
  · next dead =>
    rw [Bool.not_eq_true] at dead
    split
    · next probe held => exact .probing dead probe held
    · next idle =>
      split
      · next invalid =>
        exact .refused s (.inl rfl) fun serverUrl valid => by cases invalid.symm.trans valid
      · next normalizedUrl normalized =>
        unfold openSocketWithProbe
        split
        · next invalid =>
          refine .refused _ (.inr rfl) fun serverUrl valid => ?_
          obtain rfl := Option.some.inj (normalized.symm.trans valid)
          exact invalid
        · next serverUrl valid => exact .begins dead idle normalizedUrl serverUrl normalized valid

/-- The probe is over, and whoever waits for it goes on. -/
def endProbe (s : Worker) (probe : Nat) : Worker :=
  let connectProbe :=
    if s.connection.connectProbe = some probe then none else s.connection.connectProbe
  { s with
    probes := Function.update s.probes probe none
    connection.connectProbe := connectProbe }

def isProbeAborted (s : Worker) (probe : Probe) : Bool :=
  s.connection.connectEpoch ≠ probe.epoch

def advanceProbe (s : Worker) (id : Nat) (probe : Probe) (stage : Stage) : Worker :=
  { s with probes := Function.update s.probes id (some { probe with stage }) }

/-- A probe that found out that there is no connection to be had, and may try again later. -/
def failProbe (s : Worker) (lastError : Notice) : Worker :=
  let s := { s with connection.lastError := some lastError, connection.connected := false }
  s.scheduleReconnect

def createSocket (s : Worker) (id : Nat) (probe : Probe) : Worker :=
  let socketGeneration := s.connection.socketGeneration + 1
  let socket : Socket := { url := probe.serverUrl, probe := id }
  let s := s.setSocket socketGeneration socket
  { s with
    connection.socketGeneration := socketGeneration
    connection.connected := false
    connection.socket := some socketGeneration }

def settleProbe (P : Platform) (s : Worker) (id : Nat) (probe : Probe) :
    Answer → Option Worker
  | .throws => match probe.stage with
    | .connectionCheck | .connectionCheckBody => some (s.advanceProbe id probe .healthcheck)
    | .healthcheck =>
      if s.isProbeAborted probe then some (s.endProbe id)
      else
        let lastError := getConnectionErrorMessage false P.extensionOrigin none
          s.connection.serverRestarting
        some ((s.failProbe lastError).endProbe id)
  | .responds status => match probe.stage with
    | .connectionCheck =>
      if 200 ≤ status ∧ status < 300 then some (s.advanceProbe id probe .connectionCheckBody)
      else if 500 ≤ status then
        if s.isProbeAborted probe then some (s.endProbe id)
        else
          let lastError := getConnectionErrorMessage false P.extensionOrigin none
            s.connection.serverRestarting
          some ((s.failProbe lastError).endProbe id)
      else some (s.advanceProbe id probe .healthcheck)
    | .connectionCheckBody => none
    | .healthcheck =>
      if s.isProbeAborted probe then some (s.endProbe id)
      else some ((s.createSocket id probe).endProbe id)
  | .body websocketAllowed reason => match probe.stage with
    | .connectionCheckBody =>
      if s.isProbeAborted probe then some (s.endProbe id)
      else if !websocketAllowed then
        let lastError := getConnectionErrorMessage true P.extensionOrigin reason false
        some ((s.failProbe lastError).endProbe id)
      else some (s.advanceProbe id probe .healthcheck)
    | .connectionCheck | .healthcheck => none

/-- A message that cannot be written is dropped, and a connection is sought. -/
def sendToServer (P : Platform) (s : Worker) (message : ClientMessage) : Worker :=
  match s.connection.socket with
  | some generation =>
    if s.isSocketWritable then
      let frame : Sent := { socket := generation, message }
      { s with sent := s.sent ++ [frame] }
    else (s.connect P).1
  | none => (s.connect P).1

end Worker
end BiliSyncPlay.Connection
