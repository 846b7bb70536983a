import BiliSyncPlay.Extension.ConnectionEvents

/-!
# The moves of probes and sockets

The part of the background that probes and sockets live in, and the few moves that every event is
made of there. What most handlers do beside is bookkeeping, and to seek a connection.
-/

namespace BiliSyncPlay.Connection

open Json Protocol
open PlaybackAnchors (PlaybackState)

/-! ## Moves -/

structure Link where
  socket : Option Nat
  serverUrl : JsString
  connectProbe : Option Nat
  socketGeneration : Nat
  connectEpoch : Nat
  sockets : Nat → Option Socket
  probes : Nat → Option Probe
  probeCount : Nat
  teardowns : Nat

def Worker.link (s : Worker) : Link where
  socket := s.connection.socket
  serverUrl := s.connection.serverUrl
  connectProbe := s.connection.connectProbe
  socketGeneration := s.connection.socketGeneration
  connectEpoch := s.connection.connectEpoch
  sockets := s.sockets
  probes := s.probes
  probeCount := s.probeCount
  teardowns := s.teardowns

namespace Link

def isLive (l : Link) : Bool := (l.socket.bind l.sockets).any Socket.isLive

def begin (l : Link) (serverUrl : JsString) : Link :=
  let probe : Probe := { serverUrl, epoch := l.connectEpoch, teardowns := l.teardowns }
  { l with
    probes := Function.update l.probes l.probeCount (some probe)
    probeCount := l.probeCount + 1
    connectProbe := some l.probeCount }

def setProbe (l : Link) (id : Nat) (probe : Probe) : Link :=
  { l with probes := Function.update l.probes id (some probe) }

def endProbe (l : Link) (id : Nat) : Link :=
  let connectProbe := if l.connectProbe = some id then none else l.connectProbe
  { l with probes := Function.update l.probes id none, connectProbe }

def setSocket (l : Link) (generation : Nat) (socket : Socket) : Link :=
  { l with sockets := Function.update l.sockets generation (some socket) }

def tearDown (l : Link) : Link :=
  { l with
    connectEpoch := l.connectEpoch + 1
    connectProbe := none
    teardowns := l.teardowns + 1 }

/-- The socket that a probe opens. -/
def create (l : Link) (id : Nat) (probe : Probe) : Link :=
  let socket : Socket := { url := probe.serverUrl, probe := id }
  { l with
    socketGeneration := l.socketGeneration + 1
    socket := some (l.socketGeneration + 1)
    sockets := Function.update l.sockets (l.socketGeneration + 1) (some socket) }

end Link

/-- What an event does to the probes and the sockets, unless it opens a socket or changes the
server URL, is made of these. -/
inductive Move (P : Platform) (l : Link) : Link → Prop where
  | begins (dead : l.isLive = false) (idle : l.connectProbe = none)
      (normalizedUrl serverUrl : JsString)
      (normalized : validateServerUrl P l.serverUrl = some normalizedUrl)
      (valid : validateServerUrl P normalizedUrl = some serverUrl) :
      Move P l (l.begin serverUrl)
  | advances (id : Nat) (probe : Probe) (held : l.probes id = some probe) (stage : Stage) :
      Move P l (l.setProbe id { probe with stage })
  | ends (id : Nat) (probe : Probe) (held : l.probes id = some probe) : Move P l (l.endProbe id)
  | fades (generation : Nat) (socket faded : Socket) (held : l.sockets generation = some socket)
      (stays : faded.isLive = true → socket.isLive = true) (same : faded.closed = socket.closed) :
      Move P l (l.setSocket generation faded)
  | drops (dead : l.isLive = false) : Move P l { l with socket := none }
  | tearsDown : Move P l l.tearDown

abbrev Moves (P : Platform) : Link → Link → Prop := Relation.ReflTransGen (Move P)

/-! ## What bookkeeping and connecting keep -/

/-- The probe that a request for a room waits for. -/
def Task.createProbe? : Task → Option Nat
  | .awaitsCreate probe => some probe
  | _ => none

/-- What the rest of the background's state has no part in: the link, and what is wanted of it. -/
structure Session where
  link : Link
  connected : Bool
  reconnectTimer : Option Rat
  roomCode : Option RoomCode
  roomState : Option RoomState
  pendingCreateRoom : Bool
  /-- The probes that requests for a room wait for. -/
  awaited : List Nat

def Worker.session (s : Worker) : Session where
  link := s.link
  connected := s.connection.connected
  reconnectTimer := s.connection.reconnectTimer
  roomCode := s.room.roomCode
  roomState := s.room.roomState
  pendingCreateRoom := s.room.pendingCreateRoom
  awaited := s.tasks.filterMap Task.createProbe?

/-- Whatever an event only records, and seeking a connection, keeps the property. -/
structure Stable (P : Platform) (Q : Worker → Prop) : Prop where
  same : ∀ {s t : Worker}, t.session = s.session → Q s → Q t
  connect : ∀ {s : Worker}, Q s → Q (s.connect P).1
  withdraw : ∀ {s : Worker}, Q s → Q { s with room.pendingCreateRoom := false }
  forget : ∀ {s : Worker}, Q s → Q s.forgetRoom
  start : ∀ {s : Worker} {task : Task}, task.createProbe? = none → Q s → Q (s.start task)

namespace Worker

variable {P : Platform} {Q : Worker → Prop} {s t : Worker}

theorem session_forgetPendingLocalShare (s : Worker) :
    s.forgetPendingLocalShare.session = s.session := by
  unfold forgetPendingLocalShare
  split <;> rfl

theorem session_clearPendingLocalShare (s : Worker) :
    s.clearPendingLocalShare.session = s.session := session_forgetPendingLocalShare _

theorem session_expirePendingLocalShareIfNeeded (s : Worker) :
    s.expirePendingLocalShareIfNeeded.session = s.session := by
  unfold expirePendingLocalShareIfNeeded
  split
  · exact session_clearPendingLocalShare s
  · rfl

theorem session_resetRoomLifecycleTransientState (s : Worker) :
    s.resetRoomLifecycleTransientState.session = s.session := session_forgetPendingLocalShare s

theorem session_clearUnlessQueued (s : Worker) : s.clearUnlessQueued.session = s.session := by
  unfold clearUnlessQueued
  split
  · exact session_clearPendingLocalShare s
  · rfl

theorem session_claimSharedSourceTab (s : Worker) (request : AutoShare) :
    (s.claimSharedSourceTab request).session = s.session := by
  unfold claimSharedSourceTab
  split <;> rfl

end Worker

namespace Stable

open Worker

variable {P : Platform} {Q : Worker → Prop} {s t : Worker} (stable : Stable P Q)
include stable

theorem sendToServer (holds : Q s) (message : ClientMessage) : Q (s.sendToServer P message) := by
  unfold Worker.sendToServer
  split
  · split
    · exact stable.same (by rfl) holds
    · exact stable.connect holds
  · exact stable.connect holds

theorem sendJoinRequest (holds : Q s) (roomCode : RoomCode) (joinToken : JoinToken) :
    Q (s.sendJoinRequest P roomCode joinToken) := by
  unfold Worker.sendJoinRequest
  apply stable.sendToServer
  exact stable.same (by rfl) holds

theorem sendPendingJoin (holds : Q s) : Q (s.sendPendingJoin P) := by
  unfold Worker.sendPendingJoin
  split
  · exact stable.sendJoinRequest holds _ _
  · exact holds

theorem finishJoin (holds : Q s) : Q (s.finishJoin P) := by
  unfold Worker.finishJoin
  split
  · exact stable.sendPendingJoin holds
  · exact holds

/-- A request for a room that finds itself connected. -/
theorem finishCreate (holds : Q s) (connected : s.connection.connected = true) :
    Q (s.finishCreate P) := by
  unfold Worker.finishCreate
  rw [if_pos connected]
  exact stable.sendToServer (stable.withdraw holds) _

theorem executeFlushPendingShare (holds : Q s) : Q (s.executeFlushPendingShare P) := by
  unfold Worker.executeFlushPendingShare
  split
  · split
    · have sent := stable.sendToServer holds
      dsimp only
      split <;> exact stable.same (by rfl) (sent _)
    · exact holds
  · exact holds

theorem sendShare (holds : Q s) (share : Share) (playback : Option PlaybackState) :
    Q (s.sendShare P share playback) := by
  unfold Worker.sendShare
  dsimp only
  split
  · exact stable.same (by rfl) holds
  · have marked : Q (s.setPendingLocalShare share.video.url share.call.isAutoShare) :=
      stable.same (by rfl) holds
    have sent := stable.sendToServer marked
    split
    · exact stable.same (by rfl) (sent _)
    · exact sent _

theorem keepShare (holds : Q s) (share : Share) (playback : Option PlaybackState) :
    Q (s.keepShare P share playback) := by
  unfold Worker.keepShare
  dsimp only
  generalize kept : (s.setPendingLocalShare share.video.url share.call.isAutoShare).queueShare
    share playback = k
  have holds : Q k := by
    rw [← kept]
    exact stable.same (by rfl) holds
  split
  · exact stable.connect holds
  · split
    · apply stable.connect
      exact stable.same (by rfl) holds
    · exact stable.start rfl (stable.forget holds)

theorem queueOrSendSharedVideo (holds : Q s) (video : SharedVideo)
    (playback : Option PlaybackState) (tabId : Option Nat) (isAutoShare : Bool) :
    Q (s.queueOrSendSharedVideo P video playback tabId isAutoShare) := by
  unfold Worker.queueOrSendSharedVideo
  dsimp only
  have remembered : Q { s.rememberSharedSourceTab tabId with calls := s.calls + 1 } :=
    stable.same (by rfl) holds
  split
  · exact stable.sendShare remembered _ _
  · exact stable.keepShare remembered _ _

theorem requestOnOpen (holds : Q s) : Q (s.requestOnOpen P) := by
  unfold Worker.requestOnOpen
  dsimp only
  split
  · apply stable.sendToServer
    exact stable.same (by rfl) (stable.withdraw holds)
  · split
    · apply stable.sendPendingJoin
      exact stable.same (by rfl) holds
    · split
      · apply stable.sendJoinRequest
        exact stable.same (by rfl) holds
      · exact holds

theorem playbackUpdate (holds : Q s) (tabId : Nat) (playback : PlaybackState) :
    Q (s.playbackUpdate P tabId playback) := by
  unfold Worker.playbackUpdate
  dsimp only
  split
  · generalize PlaybackSlots.decideSharedPlaybackTab _ _ _ _ = decision
    have bound : Q { s with shareState.sharedTabId := decision.nextSharedTabId } :=
      stable.same (by rfl) holds
    split
    · exact stable.sendToServer bound _
    · exact bound
  · exact holds

theorem autoShareNextVideo (holds : Q s) (tabId : Nat)
    (previousSharedUrl targetNormalizedUrl : JsString) :
    Q (s.autoShareNextVideo P tabId previousSharedUrl targetNormalizedUrl) := by
  unfold Worker.autoShareNextVideo
  dsimp only
  split
  · exact holds
  · split
    · exact holds
    · split
      · exact holds
      · split
        · exact holds
        · exact stable.start rfl holds

theorem finishAutoShare (holds : Q s) (request : AutoShare)
    (payload : Option (SharedVideo × Option PlaybackState)) :
    Q (s.finishAutoShare P request payload) := by
  unfold Worker.finishAutoShare
  split
  · exact holds
  · exact holds
  · dsimp only
    split
    · exact holds
    · split
      · exact holds
      · split
        · exact holds
        · have claimed : Q (s.claimSharedSourceTab request) :=
            stable.same (session_claimSharedSourceTab s request) holds
          split
          · exact claimed
          · split
            · exact claimed
            · exact stable.queueOrSendSharedVideo claimed _ _ _ _

end Stable

/-! ## The moves of an event -/

namespace Worker

variable {P : Platform} {s t : Worker}

theorem link_of_session (same : t.session = s.session) : t.link = s.link :=
  congrArg Session.link same

theorem link_scheduleReconnect (s : Worker) : s.scheduleReconnect.link = s.link := by
  unfold scheduleReconnect
  split <;> rfl

theorem link_failProbe (s : Worker) (lastError : Notice) : (s.failProbe lastError).link = s.link :=
  link_scheduleReconnect _

theorem link_resetRoomLifecycleTransientState (s : Worker) :
    s.resetRoomLifecycleTransientState.link = s.link :=
  link_of_session (session_resetRoomLifecycleTransientState s)

theorem link_clearCurrentRoomContext (s : Worker) (errorMessage : Option Notice) :
    (s.clearCurrentRoomContext errorMessage).link = s.link :=
  link_resetRoomLifecycleTransientState _

theorem link_handleRejection (s : Worker) (code : RoomSession.ErrorCode) :
    (s.handleRejection code).link = s.link := by
  unfold handleRejection
  split
  · exact link_clearCurrentRoomContext s _
  · split <;> rfl

theorem link_handleServerMessage (s : Worker) (message : ServerMessage) :
    (s.handleServerMessage P message).link = s.link := by
  have expired := link_of_session (session_expirePendingLocalShareIfNeeded s)
  cases message with
  | created | joined => rfl
  | state nextState =>
    unfold handleServerMessage handleRoomStateMessage
    dsimp only
    split
    · exact expired
    · split
      · exact (link_of_session (session_clearPendingLocalShare _)).trans expired
      · exact expired
  | error code text =>
    unfold handleServerMessage handleError
    dsimp only
    split
    · rfl
    · exact link_handleRejection _ code

theorem moves_connect (s : Worker) : Moves P s.link (s.connect P).1.link := by
  have outcome := connect_cases P s
  generalize s.connect P = r at outcome ⊢
  cases outcome with
  | live | probing => exact .refl
  | refused cleared is_cleared =>
    have same : cleared.refuseServerUrl.link = s.link := by
      rcases is_cleared with rfl | rfl <;> rfl
    rw [same]
  | begins dead idle normalizedUrl serverUrl normalized valid =>
    exact .single
      (Move.begins (l := s.link) dead idle normalizedUrl serverUrl normalized valid)

/-- What only bookkeeping and connecting lead to, moves lead to. -/
theorem stable_moves (l : Link) : Stable P fun t => Moves P l t.link where
  same := fun same moved => by rwa [link_of_session same]
  connect := fun moved => moved.trans (moves_connect _)
  withdraw := id
  forget := id
  start := fun _ => id

theorem moves_finishCreate (s : Worker) : Moves P s.link (s.finishCreate P).link := by
  by_cases connected : s.connection.connected = true
  · exact (stable_moves s.link).finishCreate .refl connected
  · unfold finishCreate
    rw [if_neg connected]
    exact .refl

/-! ### Closing -/

theorem moves_closeSocket (s : Worker) (generation : Nat) :
    Moves P s.link (s.closeSocket generation).link := by
  unfold closeSocket
  split
  · next socket held =>
    split
    · exact .single (.fades generation socket _ held (fun live => by cases live) rfl)
    · exact .refl
  · exact .refl

theorem dead_closeSocket (s : Worker) (generation : Nat) :
    ((s.closeSocket generation).sockets generation).any Socket.isLive = false := by
  unfold closeSocket
  split
  · next socket held =>
    split
    · unfold setSocket
      dsimp only
      rw [Function.update_self]
      rfl
    · next dead =>
      rw [held]
      exact Bool.eq_false_of_not_eq_true dead
  · next absent => rw [absent]; rfl

theorem connection_closeSocket (s : Worker) (generation : Nat) :
    (s.closeSocket generation).connection = s.connection := by
  unfold closeSocket
  split
  · split <;> rfl
  · rfl

/-- Once its socket is closed, the current connection is given up. -/
theorem moves_close_drop (s : Worker) {generation : Nat}
    (current : s.connection.socket = some generation) :
    Moves P s.link { (s.closeSocket generation).link with socket := none } := by
  refine (moves_closeSocket s generation).tail (.drops ?_)
  have still : (s.closeSocket generation).link.socket = some generation := by
    rw [link, connection_closeSocket, current]
  rw [Link.isLive, still]
  exact dead_closeSocket s generation

theorem room_forgetPendingLocalShare (s : Worker) : s.forgetPendingLocalShare.room = s.room := by
  unfold forgetPendingLocalShare
  split <;> rfl

theorem room_closeSocket (s : Worker) (g : Nat) : (s.closeSocket g).room = s.room := by
  unfold closeSocket
  split
  · split <;> rfl
  · rfl

theorem room_dropSocket (s : Worker) : s.dropSocket.room = s.room := by
  unfold dropSocket
  dsimp only
  split
  · rfl
  · exact room_closeSocket _ _

theorem connected_dropSocket (s : Worker) : s.dropSocket.connection.connected = false := by
  unfold dropSocket
  dsimp only
  split
  · rfl
  · rw [connection_closeSocket]

theorem room_disconnectSocket (s : Worker) :
    s.disconnectSocket.room = { s.room with memberToken := none } := by
  have same : s.resetReconnectState.clearPendingLocalShare.room = s.room :=
    room_forgetPendingLocalShare _
  unfold disconnectSocket
  dsimp only
  rw [room_dropSocket, same]

theorem connected_disconnectSocket (s : Worker) :
    s.disconnectSocket.connection.connected = false := connected_dropSocket _

theorem link_closeSocket_socketless (s : Worker) (generation : Nat) (connection : ConnectionState)
    (same : { s.connection with socket := none, connected := false } = connection) :
    ({ s with connection }.closeSocket generation).link =
      { (s.closeSocket generation).link with socket := none } := by
  subst same
  unfold closeSocket
  dsimp only
  split
  · split <;> rfl
  · rfl

theorem moves_dropSocket (s : Worker) : Moves P s.link s.dropSocket.link := by
  unfold dropSocket
  split
  · next absent =>
    have dead : s.link.isLive = false := by
      unfold Link.isLive link
      rw [absent]
      rfl
    exact .single (.drops dead)
  · next generation current =>
    rw [link_closeSocket_socketless s generation _ rfl]
    exact moves_close_drop s current

theorem moves_disconnectSocket (s : Worker) : Moves P s.link s.disconnectSocket.link := by
  unfold disconnectSocket
  dsimp only
  have same : s.resetReconnectState.clearPendingLocalShare.link = s.link :=
    (link_of_session (session_clearPendingLocalShare _)).trans rfl
  generalize s.resetReconnectState.clearPendingLocalShare = c at same ⊢
  rw [← same]
  have torn : Moves P c.link c.link.tearDown := .single .tearsDown
  exact torn.trans (moves_dropSocket { c with
    room.memberToken := none
    connection.connectEpoch := c.connection.connectEpoch + 1
    connection.connectProbe := none
    teardowns := c.teardowns + 1 })

theorem moves_requestLeaveRoom (s : Worker) : Moves P s.link (s.requestLeaveRoom P).link := by
  unfold requestLeaveRoom
  dsimp only
  generalize spoken : (if s.connection.connected then s.sendToServer P _ else s) = c
  have moved : Moves P s.link c.link := by
    rw [← spoken]
    split
    · exact (stable_moves s.link).sendToServer .refl _
    · exact .refl
  refine moved.trans ?_
  have same : ∀ (room : RoomSessionState), c.link =
      { ({ c with room } : Worker).resetRoomLifecycleTransientState with
        room.pendingCreateRoom := false }.link := fun room =>
    (link_resetRoomLifecycleTransientState { c with room }).symm
  rw [same]
  exact moves_disconnectSocket _

theorem moves_resetAdminSession (s : Worker) {generation : Nat}
    (dead : (s.sockets generation).any Socket.isLive = false) (message : Notice) :
    Moves P s.link (s.resetAdminSession generation message).link := by
  unfold resetAdminSession
  dsimp only
  rw [link_clearCurrentRoomContext]
  have torn : Moves P s.link s.link.tearDown := .single .tearsDown
  refine torn.trans ?_
  split
  · next current =>
    have still : s.link.tearDown.isLive = false := by
      unfold Link.isLive Link.tearDown link
      dsimp only
      rw [current]
      exact dead
    exact .single (.drops still)
  · exact moves_dropSocket { s with
      connection.connectEpoch := s.connection.connectEpoch + 1
      connection.connectProbe := none
      teardowns := s.teardowns + 1 }

theorem moves_finishServerUrl (s : Worker) : Moves P s.link (s.finishServerUrl P).link := by
  unfold finishServerUrl
  dsimp only
  generalize dropped :
    (if s.connection.socket.isSome then s.resetReconnectState.dropSocket else s) = d
  have moved : Moves P s.link d.link := by
    rw [← dropped]
    split
    · exact moves_dropSocket s.resetReconnectState
    · exact .refl
  split
  · exact moved.trans (moves_connect d)
  · exact moved

theorem moves_resume (s : Worker) (task : Task) (step : s.resume P task = some t) :
    Moves P s.link t.link := by
  unfold resume at step
  have connected := moves_connect (P := P) s
  cases task with
  | persistsCreate | persistsJoin =>
    dsimp only at step
    split at step <;> cases step
    · exact connected
    · first
      | exact connected.trans (moves_finishCreate _)
      | exact (stable_moves s.link).finishJoin connected
  | persistsServerUrl =>
    cases step
    exact moves_finishServerUrl s
  | persistsRoom =>
    cases step
    exact (stable_moves s.link).executeFlushPendingShare .refl
  | persistsRejection code =>
    cases step
    rw [link_handleRejection]
  | awaitsCreate probe | awaitsJoin probe =>
    dsimp only at step
    split at step <;> cases step
    first
    | exact moves_finishCreate s
    | exact (stable_moves s.link).finishJoin .refl
  | readsTab => cases step

/-- What an event is to the link: moves, the close or the opening of a socket, or another server
URL. -/
inductive Changes (P : Platform) (s t : Worker) : Event → Prop where
  | moves (event : Event) (moved : Moves P s.link t.link) : Changes P s t event
  | closes (generation : Nat) (socket : Socket) (held : s.sockets generation = some socket)
      (code : Nat) (reason : JsString)
      (moved : Moves P
        (s.link.setSocket generation { socket with readyState := .CLOSED, closed := true })
        t.link) :
      Changes P s t (.closes generation code reason)
  | creates (id : Nat) (probe : Probe) (held : s.probes id = some probe)
      (current : probe.epoch = s.connection.connectEpoch) (answer : Answer)
      (created : t.link = (s.link.create id probe).endProbe id) :
      Changes P s t (.answers id answer)
  | redirects (nextServerUrl serverUrl : JsString)
      (valid : validateServerUrl P nextServerUrl = some serverUrl)
      (other : serverUrl ≠ s.connection.serverUrl)
      (redirected : t.link = { s.link with serverUrl }) :
      Changes P s t (.updateServerUrl nextServerUrl)

theorem moves_failProbe {id : Nat} {probe : Probe} (held : s.probes id = some probe)
    (lastError : Notice) : Moves P s.link ((s.failProbe lastError).endProbe id).link := by
  have same : ((s.failProbe lastError).endProbe id).link = s.link.endProbe id := by
    have failed := link_failProbe s lastError
    generalize s.failProbe lastError = f at failed ⊢
    rw [← failed]
    rfl
  rw [same]
  exact .single (Move.ends (l := s.link) id probe held)

theorem changes_settleProbe {id : Nat} {probe : Probe} (held : s.probes id = some probe)
    {answer : Answer} (step : s.settleProbe P id probe answer = some t) :
    Changes P s t (.answers id answer) := by
  have ended : Changes P s (s.endProbe id) (.answers id answer) :=
    .moves _ (.single (Move.ends (l := s.link) id probe held))
  have advanced (stage : Stage) :
      Changes P s (s.advanceProbe id probe stage) (.answers id answer) :=
    .moves _ (.single (Move.advances (l := s.link) id probe held stage))
  have failed (lastError : Notice) :
      Changes P s ((s.failProbe lastError).endProbe id) (.answers id answer) :=
    .moves _ (moves_failProbe held lastError)
  unfold settleProbe at step
  split at step
  · split at step
    · cases step
      exact advanced .healthcheck
    · cases step
      exact advanced .healthcheck
    · split at step <;> cases step
      · exact ended
      · exact failed _
  · next status =>
    split at step
    · split at step
      · cases step
        exact advanced .connectionCheckBody
      · split at step
        · split at step <;> cases step
          · exact ended
          · exact failed _
        · cases step
          exact advanced .healthcheck
    · cases step
    · split at step <;> cases step
      · exact ended
      · next standing =>
        have current : probe.epoch = s.connection.connectEpoch := by
          unfold isProbeAborted at standing
          simpa using Eq.symm (not_not.mp (by simpa using standing))
        exact .creates id probe held current _ rfl
  · split at step
    · split at step
      · cases step
        exact ended
      · split at step <;> cases step
        · exact failed _
        · exact advanced .healthcheck
    · cases step
    · cases step

theorem changes_updateServerUrl (nextServerUrl : JsString) :
    Changes P s (s.updateServerUrl P nextServerUrl) (.updateServerUrl nextServerUrl) := by
  unfold updateServerUrl
  split
  · exact .moves _ .refl
  · next serverUrl valid =>
    split
    · exact .moves _ .refl
    · next other =>
      refine .redirects nextServerUrl serverUrl valid other ?_
      dsimp only
      generalize cleared :
        (if s.shareState.pendingLocalShareUrl.isSome then s.clearPendingLocalShare else s) = c
      have same : c.link = s.link := by
        rw [← cleared]
        split
        · exact link_of_session (session_clearPendingLocalShare s)
        · rfl
      rw [← same]
      rfl

variable (generation : Nat)

theorem link_onError (socket : Socket) :
    (s.onError generation socket).link = s.link := by
  unfold onError
  split
  · rfl
  · dsimp only
    exact (link_of_session (session_clearUnlessQueued _)).trans rfl

theorem link_noteServerShutdown (socket : Socket) (code : Nat) (reason : JsString) :
    (s.noteServerShutdown socket code reason).link = s.link := by
  unfold noteServerShutdown
  split <;> rfl

theorem link_closeSuperseded : (s.closeSuperseded generation).link = s.link := by
  unfold closeSuperseded
  split
  · exact link_of_session (session_clearPendingLocalShare s)
  · rfl

theorem link_closeCurrent (socket : Socket) (code : Nat) (reason : JsString) :
    (s.closeCurrent socket code reason).link = s.link := by
  unfold closeCurrent
  dsimp only
  rw [link_scheduleReconnect, link_of_session (session_clearUnlessQueued _),
    link_noteServerShutdown]
  rfl

theorem moves_onClose (socket : Socket) (code : Nat) (reason : JsString)
    (dead : (s.sockets generation).any Socket.isLive = false) :
    Moves P s.link (s.onClose generation socket code reason).link := by
  unfold onClose
  split
  · exact moves_resetAdminSession s dead _
  · split
    · rw [link_closeSuperseded]
    · rw [link_closeCurrent]

theorem moves_onOpen : Moves P s.link (s.onOpen P generation).link := by
  unfold onOpen
  split
  · exact .refl
  · apply (stable_moves s.link).requestOnOpen
    exact .refl

theorem link_onMessage (message : ServerMessage) :
    (s.onMessage P generation message).link = s.link := by
  unfold onMessage
  split
  · rfl
  · split
    · rfl
    · exact link_handleServerMessage s message

theorem changes_take {event : Event} (step : s.take P event = some t) : Changes P s t event := by
  unfold take at step
  cases event with
  | connects =>
    cases step
    exact .moves _ (moves_connect s)
  | createRoom =>
    cases step
    refine .moves _ ?_
    have same : s.requestCreateRoom.link = s.link := link_resetRoomLifecycleTransientState _
    rw [same]
  | joinRoom roomCode joinToken =>
    cases step
    refine .moves _ ?_
    have same : (s.requestJoinRoom roomCode joinToken).link = s.link :=
      link_resetRoomLifecycleTransientState _
    rw [same]
  | leaveRoom =>
    cases step
    exact .moves _ (moves_requestLeaveRoom s)
  | shares =>
    cases step
    exact .moves _ ((stable_moves s.link).queueOrSendSharedVideo .refl _ _ _ _)
  | autoShares =>
    cases step
    exact .moves _ ((stable_moves s.link).autoShareNextVideo .refl _ _ _)
  | readsTab task payload =>
    dsimp only at step
    split at step <;> cases step
    have kept : Moves P s.link (s.drop task).link := .refl
    exact .moves _ ((stable_moves s.link).finishAutoShare kept _ _)
  | playbackUpdate =>
    cases step
    exact .moves _ ((stable_moves s.link).playbackUpdate .refl _ _)
  | binds =>
    cases step
    exact .moves _ .refl
  | updateServerUrl =>
    cases step
    exact changes_updateServerUrl _
  | answers id answer =>
    dsimp only at step
    split at step
    · next probe held => exact changes_settleProbe held step
    · cases step
  | opens generation =>
    dsimp only at step
    split at step
    · next socket held =>
      split at step <;> cases step
      next connecting =>
        let opened := { socket with readyState := .OPEN, sawOpen := true }
        have faded : Move P s.link (s.setSocket generation opened).link :=
          Move.fades (l := s.link) generation socket opened held (fun _ => by
            rw [Socket.isLive, connecting]
            rfl) rfl
        exact .moves _ (.head faded (moves_onOpen generation))
    · cases step
  | receives generation message =>
    dsimp only at step
    split at step
    · split at step <;> cases step
      refine .moves _ ?_
      rw [link_onMessage]
    · cases step
  | breaks generation =>
    cases step
    exact .moves _ (moves_closeSocket s generation)
  | fails generation =>
    dsimp only at step
    split at step
    · next socket held =>
      split at step <;> cases step
      refine .moves _ ?_
      rw [link_onError]
      exact .single
        (Move.fades (l := s.link) generation socket _ held (fun live => by cases live) rfl)
    · cases step
  | closes generation code reason =>
    dsimp only at step
    split at step
    · next socket held =>
      split at step <;> cases step
      let closed := { socket with readyState := .CLOSED, closed := true }
      have dead :
          ((s.setSocket generation closed).sockets generation).any Socket.isLive = false := by
        unfold setSocket
        dsimp only
        rw [Function.update_self]
        rfl
      exact .closes generation socket held code reason
        (moves_onClose generation closed code reason dead)
    · cases step
  | membersChange =>
    cases step
    refine .moves _ ?_
    unfold changeMembers
    split <;> exact .refl
  | reconnectTimer =>
    dsimp only at step
    split at step
    · split at step <;> cases step
      exact .moves _ (moves_connect s.clearReconnectTimer)
    · cases step
  | shareTimer =>
    dsimp only at step
    split at step
    · split at step <;> cases step
      refine .moves _ ?_
      rw [link_of_session (session_expirePendingLocalShareIfNeeded s)]
    · cases step
  | resumes task =>
    dsimp only at step
    split at step
    · exact .moves _ (moves_resume (s.drop task) _ step)
    · cases step

end Worker

end BiliSyncPlay.Connection
