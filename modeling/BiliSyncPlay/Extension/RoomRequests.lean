import BiliSyncPlay.Extension.Connection

/-!
# Shares and requests over the connection

`share-controller.ts`, `room-manager.ts`, `room-session-controller.ts` and `message-controller.ts`:
the marker of a share that waits for its confirmation, the share that waits for a socket, the
requests of the user and the messages of the server. What room states say of members, playback and
toasts is left out.
-/

namespace BiliSyncPlay.Connection

open Json
open PlaybackAnchors (PlaybackState)
open PlaybackSlots (decideSharedPlaybackTab)
open RoomSession (ErrorCode)

namespace Worker

/-! ## The marker -/

def PENDING_LOCAL_SHARE_TIMEOUT_MS : Rat := 10000

def getActivePendingLocalShareUrl (s : Worker) : Option JsString :=
  match s.shareState.pendingLocalShareUrl, s.shareState.pendingLocalShareExpiresAt with
  | some url, some expiresAt => if url ≠ [] ∧ s.now < expiresAt then some url else none
  | _, _ => none

def hasActivePendingManualShare (s : Worker) : Bool :=
  s.getActivePendingLocalShareUrl.isSome && !s.shareState.pendingLocalShareIsAutoShare

/-- The marker is set, as far as its readers are concerned. -/
def isPending (s : Worker) : Bool :=
  s.shareState.pendingLocalShareUrl.any fun url => decide (url ≠ [])

def hadPendingLocalShare (s : Worker) : Bool :=
  s.isPending || s.shareState.pendingLocalShareExpiresAt.isSome

def forgetPendingLocalShare (s : Worker) : Worker :=
  if s.hadPendingLocalShare then
    { s with
      shareState.pendingLocalShareUrl := none
      shareState.pendingLocalShareExpiresAt := none
      shareState.pendingLocalShareTimer := none }
  else s

def clearPendingLocalShare (s : Worker) : Worker :=
  let s := { s with
    shareState.pendingLocalShareGeneration := none
    shareState.pendingLocalShareIsAutoShare := false }
  s.forgetPendingLocalShare

def expirePendingLocalShareIfNeeded (s : Worker) : Worker :=
  if s.isPending && s.getActivePendingLocalShareUrl.isNone then s.clearPendingLocalShare else s

def setPendingLocalShare (s : Worker) (url : JsString) (isAutoShare : Bool) : Worker :=
  let due := s.now + PENDING_LOCAL_SHARE_TIMEOUT_MS
  { s with
    shareState.pendingLocalShareGeneration := some s.connection.socketGeneration
    shareState.pendingLocalShareIsAutoShare := isAutoShare
    shareState.pendingLocalShareUrl := some url
    shareState.pendingLocalShareExpiresAt := some due
    shareState.pendingLocalShareTimer := some due }

def resetRoomLifecycleTransientState (s : Worker) : Worker :=
  { s.forgetPendingLocalShare with
    room.pendingSharedVideo := none
    room.pendingSharedPlayback := none }

/-! ## The queue -/

/-- A playback as it is sent: the server stamps it, and it is the member's own. -/
def ownPlayback (s : Worker) (playback : PlaybackState) : PlaybackState :=
  { playback with serverTime := 0, actorId := s.room.memberId.getD playback.actorId }

def queueShare (s : Worker) (share : Share) (playback : Option PlaybackState) : Worker :=
  { s with
    room.pendingSharedVideo := some share
    room.pendingSharedPlayback := playback.map s.ownPlayback }

def executeFlushPendingShare (P : Platform) (s : Worker) : Worker :=
  match s.room.pendingSharedVideo, s.room.memberToken with
  | some share, some memberToken =>
    if s.connection.connected && s.isSocketWritable && truthy s.room.roomCode &&
        memberToken ≠ "" then
      let playback := s.room.pendingSharedPlayback
      let s := s.sendToServer P (.share memberToken share playback)
      let s := { s with room.pendingSharedVideo := none, room.pendingSharedPlayback := none }
      if s.shareState.pendingLocalShareUrl.isSome then
        { s with
          shareState.pendingLocalShareGeneration := some s.connection.socketGeneration }
      else s
    else s
  | _, _ => s

def rememberSharedSourceTab (s : Worker) (tabId : Option Nat) : Worker :=
  { s with shareState.sharedTabId := tabId <|> s.shareState.sharedTabId }

def forgetRoom (s : Worker) : Worker :=
  { s with
    room.roomCode := none, room.joinToken := none, room.memberToken := none
    room.memberId := none, room.roomState := none }

/-- The share is written at once, and takes the place of one that waits for a join to end. -/
def sendShare (P : Platform) (s : Worker) (share : Share) (playback : Option PlaybackState) :
    Worker :=
  if !truthy s.room.memberToken then
    { s with connection.lastError := some .popupErrorMemberTokenMissing }
  else
    let s := s.setPendingLocalShare share.video.url share.call.isAutoShare
    let s := s.sendToServer P
      (.share (s.room.memberToken.getD "") share (playback.map s.ownPlayback))
    if s.room.pendingSharedVideo.isSome then s.queueShare share playback else s

/-- The share waits for a connection; but outside a room, its handler has nothing to do then. -/
def keepShare (P : Platform) (s : Worker) (share : Share) (playback : Option PlaybackState) :
    Worker :=
  let s := s.setPendingLocalShare share.video.url share.call.isAutoShare
  let s := s.queueShare share playback
  if s.connection.socket.isSome && truthy s.room.roomCode && truthy s.room.memberToken then
    (s.connect P).1
  else if truthy s.room.roomCode then
    let s := { s with room.memberToken := none }
    (s.connect P).1
  else s.forgetRoom.start .persistsCreate

def queueOrSendSharedVideo (P : Platform) (s : Worker) (video : SharedVideo)
    (playback : Option PlaybackState) (tabId : Option Nat) (isAutoShare : Bool) : Worker :=
  let share : Share := { video, call := { number := s.calls, isAutoShare } }
  let s := { s.rememberSharedSourceTab tabId with calls := s.calls + 1 }
  if s.connection.connected && s.isSocketWritable && truthy s.room.roomCode then
    s.sendShare P share playback
  else s.keepShare P share playback

/-! ## The room session -/

def sendJoinRequest (P : Platform) (s : Worker) (roomCode : RoomCode) (joinToken : JoinToken) :
    Worker :=
  let s := { s with room.pendingJoinRequestSent := true }
  let memberToken := if truthy s.room.memberToken then s.room.memberToken else none
  s.sendToServer P (.join roomCode joinToken memberToken)

/-- The join that is pending is asked for, unless it was. -/
def sendPendingJoin (P : Platform) (s : Worker) : Worker :=
  if truthy s.room.pendingJoinRoomCode && truthy s.room.pendingJoinToken &&
      !s.room.pendingJoinRequestSent then
    s.sendJoinRequest P (s.room.pendingJoinRoomCode.getD "") (s.room.pendingJoinToken.getD "")
  else s

def clearCurrentRoomContext (s : Worker) (errorMessage : Option Notice) : Worker :=
  let s := s.forgetRoom
  let s := { s with
    room.awaitingFreshRoomState := false
    room.pendingCreateRoom := false
    room.pendingJoinRoomCode := none
    room.pendingJoinToken := none
    room.pendingJoinRequestSent := false
    connection.lastError := errorMessage }
  s.resetReconnectState.resetRoomLifecycleTransientState

def requestCreateRoom (s : Worker) : Worker :=
  let s := s.resetReconnectState.forgetRoom
  let s := { s with
    room.awaitingFreshRoomState := false
    room.pendingJoinRoomCode := none
    room.pendingJoinToken := none }
  s.resetRoomLifecycleTransientState.start .persistsCreate

/-- What a request to create a room does once it is connected, or once it is not. -/
def finishCreate (P : Platform) (s : Worker) : Worker :=
  if s.connection.connected then
    let s := { s with room.pendingCreateRoom := false }
    s.sendToServer P .create
  else { s with room.pendingCreateRoom := true }

def requestJoinRoom (s : Worker) (roomCode : RoomCode) (joinToken : JoinToken) : Worker :=
  let s := s.resetReconnectState.forgetRoom
  let s := { s with
    room.awaitingFreshRoomState := false
    room.pendingCreateRoom := false
    room.pendingJoinRoomCode := some roomCode
    room.pendingJoinToken := some joinToken
    room.pendingJoinRequestSent := false
    connection.lastError := none }
  s.resetRoomLifecycleTransientState.start .persistsJoin

def finishJoin (P : Platform) (s : Worker) : Worker :=
  if s.connection.connected then s.sendPendingJoin P else s

/-- The current socket, if any, is given up and closed. -/
def dropSocket (s : Worker) : Worker :=
  let dropped := { s with connection.socket := none, connection.connected := false }
  match s.connection.socket with
  | none => dropped
  | some socket => dropped.closeSocket socket

def disconnectSocket (s : Worker) : Worker :=
  let s := s.resetReconnectState.clearPendingLocalShare
  let s := { s with
    room.memberToken := none
    connection.connectEpoch := s.connection.connectEpoch + 1
    connection.connectProbe := none
    teardowns := s.teardowns + 1 }
  s.dropSocket

def requestLeaveRoom (P : Platform) (s : Worker) : Worker :=
  let memberToken := if truthy s.room.memberToken then s.room.memberToken else none
  let s := if s.connection.connected then s.sendToServer P (.leave memberToken) else s
  let s := s.forgetRoom
  let s := { s with
    room.awaitingFreshRoomState := false
    room.pendingJoinRoomCode := none
    room.pendingJoinToken := none
    room.pendingJoinRequestSent := false }
  let s := s.resetRoomLifecycleTransientState
  let s := { s with room.pendingCreateRoom := false }
  s.disconnectSocket

/-! ## Messages of the server -/

def roomCreated (s : Worker) (roomCode : RoomCode) (joinToken : JoinToken)
    (memberToken : MemberToken) (memberId : MemberId) : Worker :=
  let s := { s with
    room.awaitingFreshRoomState := true
    room.pendingJoinRoomCode := none
    room.pendingJoinToken := none
    room.roomCode := some roomCode
    room.joinToken := some joinToken
    room.memberToken := some memberToken
    room.memberId := some memberId
    connection.lastError := none }
  s.start .persistsRoom

def roomJoined (s : Worker) (roomCode : RoomCode) (memberToken : MemberToken)
    (memberId : MemberId) : Worker :=
  let joinToken := s.room.pendingJoinToken <|> s.room.joinToken
  let s := { s with
    room.awaitingFreshRoomState := true
    room.roomCode := some roomCode
    room.joinToken := joinToken
    room.memberToken := some memberToken
    room.memberId := some memberId
    room.pendingJoinRequestSent := false
    room.pendingJoinRoomCode := none
    room.pendingJoinToken := none
    connection.lastError := none }
  s.start .persistsRoom

def handleRoomStateMessage (P : Platform) (s : Worker) (nextState : RoomState) : Worker :=
  let s := s.expirePendingLocalShareIfNeeded
  let pending := normalizeSharedVideoUrl P s.getActivePendingLocalShareUrl
  let incoming := normalizeSharedVideoUrl P (nextState.sharedVideo.map (·.url))
  if pending.isSome ∧ incoming ≠ pending then s
  else
    let s := { s with
      room.awaitingFreshRoomState := false
      room.roomState := some nextState
      room.roomCode := some nextState.roomCode
      connection.lastError := none }
    if pending.isSome then s.clearPendingLocalShare else s

/-- Which errors end a join, and which the session of a room. -/
def endsJoin : ErrorCode → Bool
  | .roomNotFound | .joinTokenInvalid | .invalidMessage | .unsupportedProtocolVersion => true
  | .memberTokenInvalid | .other => false

def endsSession : ErrorCode → Bool
  | .roomNotFound | .joinTokenInvalid | .unsupportedProtocolVersion => true
  | .invalidMessage | .memberTokenInvalid | .other => false

def handleRejection (s : Worker) (code : ErrorCode) : Worker :=
  if truthy s.room.roomCode && !truthy s.room.pendingJoinRoomCode && endsSession code then
    s.clearCurrentRoomContext s.connection.lastError
  else if code = .memberTokenInvalid then { s with room.memberToken := none }
  else s

def handleError (s : Worker) (code : ErrorCode) (message : JsString) : Worker :=
  let s := { s with connection.lastError := some (.server code message) }
  if truthy s.room.pendingJoinRoomCode && endsJoin code then
    let s := s.forgetRoom
    let s := { s with
      room.awaitingFreshRoomState := false
      room.pendingJoinRequestSent := false
      room.pendingJoinRoomCode := none
      room.pendingJoinToken := none }
    s.start (.persistsRejection code)
  else s.handleRejection code

def handleServerMessage (P : Platform) (s : Worker) : ServerMessage → Worker
  | .created roomCode joinToken memberToken memberId =>
    s.roomCreated roomCode joinToken memberToken memberId
  | .joined roomCode memberToken memberId => s.roomJoined roomCode memberToken memberId
  | .state nextState => s.handleRoomStateMessage P nextState
  | .error code message => s.handleError code message

/-! ## The server URL -/

def updateServerUrl (P : Platform) (s : Worker) (nextServerUrl : JsString) : Worker :=
  match validateServerUrl P nextServerUrl with
  | none => { s with connection.lastError := some .invalidServerUrl }
  | some normalized =>
    if normalized = s.connection.serverUrl then s
    else
      let s := if s.shareState.pendingLocalShareUrl.isSome then s.clearPendingLocalShare else s
      let s := { s with connection.serverUrl := normalized, connection.lastError := none }
      s.start .persistsServerUrl

def finishServerUrl (P : Platform) (s : Worker) : Worker :=
  let s := if s.connection.socket.isSome then s.resetReconnectState.dropSocket else s
  if truthy s.room.roomCode || s.room.pendingCreateRoom then (s.connect P).1 else s

/-! ## Auto-shares -/

def canAutoShareNextVideoFromSender (s : Worker) : Bool :=
  let sharedByMemberId :=
    (s.room.roomState.bind RoomState.sharedVideo).bind SharedVideo.sharedByMemberId
  s.room.roomCode.isSome && s.room.memberToken.isSome && s.room.memberId.isSome &&
    decide (sharedByMemberId = s.room.memberId)

inductive RoomSchedule where
  | onScheduled | shareInFlight | movedOn
  deriving DecidableEq

def classifyRoomSchedule (P : Platform) (s : Worker) (previousSharedUrl : JsString) :
    RoomSchedule :=
  let sharedVideo := s.room.roomState.bind RoomState.sharedVideo
  if areSharedVideoUrlsEqual P (sharedVideo.map (·.url)) (some previousSharedUrl) &&
      s.room.memberId.isSome &&
      decide (sharedVideo.bind SharedVideo.sharedByMemberId = s.room.memberId) then .onScheduled
  else if areSharedVideoUrlsEqual P s.getActivePendingLocalShareUrl (some previousSharedUrl) then
    .shareInFlight
  else .movedOn

/-- The connection cannot be trusted with an auto-share: it is deferred. -/
def defersAutoShare (s : Worker) : Bool :=
  !s.connection.connected || !s.isSocketWritable || s.room.awaitingFreshRoomState

def autoShareNextVideo (P : Platform) (s : Worker) (tabId : Nat)
    (previousSharedUrl targetNormalizedUrl : JsString) : Worker :=
  if !s.canAutoShareNextVideoFromSender then s
  else if s.defersAutoShare then s
  else if s.classifyRoomSchedule P previousSharedUrl ≠ .onScheduled then s
  else
    let isRememberedSourceTab := decide (s.shareState.sharedTabId = some tabId)
    if !isRememberedSourceTab && s.shareState.sharedTabId.isSome then s
    else s.start
      (.readsTab { tabId, previousSharedUrl, targetNormalizedUrl, isRememberedSourceTab })

/-- A binding that was lost is claimed again for the tab. -/
def claimSharedSourceTab (s : Worker) (request : AutoShare) : Worker :=
  if request.isRememberedSourceTab then s
  else { s with shareState.sharedTabId := some request.tabId }

/-- The tab has answered: `none` if nothing can be played there. -/
def finishAutoShare (P : Platform) (s : Worker) (request : AutoShare)
    (payload : Option (SharedVideo × Option PlaybackState)) : Worker :=
  match payload with
  | none | some (_, none) => s
  | some (video, some playback) =>
    if !areSharedVideoUrlsEqual P (some video.url) (some request.targetNormalizedUrl) then s
    else if s.classifyRoomSchedule P request.previousSharedUrl ≠ .onScheduled then s
    else if !request.isRememberedSourceTab && s.shareState.sharedTabId.isSome then s
    else
      let s := s.claimSharedSourceTab request
      if s.defersAutoShare then s
      else if s.hasActivePendingManualShare then s
      else s.queueOrSendSharedVideo P video (some playback) (some request.tabId) true

/-- A page of a tab reports its playback. -/
def playbackUpdate (P : Platform) (s : Worker) (tabId : Nat) (playback : PlaybackState) : Worker :=
  if s.connection.connected && truthy s.room.memberToken then
    let sharedUrl := (s.room.roomState.bind RoomState.sharedVideo).map (·.url)
    let decision := decideSharedPlaybackTab (some tabId) s.shareState.sharedTabId
      (normalizeSharedVideoUrl P sharedUrl) (normalizeSharedVideoUrl P (some playback.url))
    let s := { s with shareState.sharedTabId := decision.nextSharedTabId }
    if decision.accepted then
      s.sendToServer P (.playback (s.room.memberToken.getD "") (s.ownPlayback playback))
    else s
  else s

end Worker
end BiliSyncPlay.Connection
