import BiliSyncPlay.Extension.Sockets

/-!
# The shares of the background

The part of the background that shares live in: the marker of the share that waits for its
confirmation, the share that waits for a socket, and the shares that were written. What an event
does to it is one of a few things.
-/

namespace BiliSyncPlay.Connection

open Json Protocol
open PlaybackAnchors (PlaybackState)
open RoomSession (ErrorCode)

/-- A share that was written, with the socket it was written to. -/
structure WrittenShare where
  socket : Nat
  share : Share
  playback : Option PlaybackState
  deriving DecidableEq

def Sent.share? (frame : Sent) : Option WrittenShare :=
  match frame.message with
  | .share _ share playback => some { socket := frame.socket, share, playback }
  | _ => none

structure Desk where
  pendingLocalShareUrl : Option JsString
  pendingLocalShareExpiresAt : Option Rat
  pendingLocalShareTimer : Option Rat
  pendingLocalShareGeneration : Option Nat
  pendingSharedVideo : Option Share
  written : List WrittenShare
  calls : Nat

def Worker.desk (s : Worker) : Desk where
  pendingLocalShareUrl := s.shareState.pendingLocalShareUrl
  pendingLocalShareExpiresAt := s.shareState.pendingLocalShareExpiresAt
  pendingLocalShareTimer := s.shareState.pendingLocalShareTimer
  pendingLocalShareGeneration := s.shareState.pendingLocalShareGeneration
  pendingSharedVideo := s.room.pendingSharedVideo
  written := s.sent.filterMap Sent.share?
  calls := s.calls

namespace Desk

def isPending (d : Desk) : Bool := d.pendingLocalShareUrl.any fun url => decide (url ≠ [])

/-- The marker is given up, and nothing else changes. -/
structure Cleared (d e : Desk) : Prop where
  unmarked : e.isPending = false
  url : e.pendingLocalShareUrl = none ∨ e.pendingLocalShareUrl = d.pendingLocalShareUrl
  timer : e.pendingLocalShareTimer = none ∧ e.pendingLocalShareExpiresAt = none ∨
    e.pendingLocalShareTimer = d.pendingLocalShareTimer ∧
      e.pendingLocalShareExpiresAt = d.pendingLocalShareExpiresAt
  queue : e.pendingSharedVideo = d.pendingSharedVideo
  written : e.written = d.written
  calls : e.calls = d.calls

theorem Cleared.trans {d e f : Desk} (first : d.Cleared e) (second : e.Cleared f) :
    d.Cleared f where
  unmarked := second.unmarked
  url := second.url.elim .inl fun same => same ▸ first.url
  timer := second.timer.elim .inl fun same => by
    rw [same.1, same.2]
    exact first.timer
  queue := second.queue.trans first.queue
  written := second.written.trans first.written
  calls := second.calls.trans first.calls

/-- The share that waits for a socket is given up. -/
def drop (d : Desk) : Desk := { d with pendingSharedVideo := none }

theorem Cleared.drop {d e : Desk} (cleared : d.Cleared e) : d.drop.Cleared e.drop :=
  { cleared with queue := rfl }

def mark (d : Desk) (url : JsString) (due : Rat) (generation : Nat) : Desk :=
  { d with
    pendingLocalShareUrl := some url
    pendingLocalShareExpiresAt := some due
    pendingLocalShareTimer := some due
    pendingLocalShareGeneration := some generation }

def write (d : Desk) (socket : Nat) (share : Share) (playback : Option PlaybackState) : Desk :=
  { d with written := d.written ++ [{ socket, share, playback }] }

end Desk

/-- The events at which a share is made, and whether it is an auto-share. -/
def Event.sharesAuto : Event → Option Bool
  | .shares .. => some false
  | .readsTab .. => some true
  | _ => none

/-- An error by which the server takes the room of the session away. -/
def Worker.rejectsRoom (s : Worker) (code : ErrorCode) : Bool :=
  truthy s.room.roomCode && !truthy s.room.pendingJoinRoomCode && endsSession code

/-- The events that end what the session was about: a request for another room, a leave, an admin
reset, and an error that takes the room away. -/
def Worker.EndsSession (s : Worker) : Event → Prop
  | .createRoom | .joinRoom _ _ | .leaveRoom => True
  | .closes _ _ reason => (formatAdminSessionResetReason reason).isSome = true
  | .receives _ (.error code _) => s.rejectsRoom code = true
  | .resumes task => ∃ code, s.tasks[task]? = some (.persistsRejection code) ∧
      s.rejectsRoom code = true
  | _ => False

/-- A share would be written at once, if there is a member token. -/
def Worker.canShare (s : Worker) : Bool :=
  s.connection.connected && s.isSocketWritable && truthy s.room.roomCode

/-- A share is refused that could be written, but for the member token. -/
def Worker.refusesShare (s : Worker) : Bool := s.canShare && !truthy s.room.memberToken

/-- The share that a call makes of a video. -/
def Worker.shareOf (s : Worker) (video : SharedVideo) (isAutoShare : Bool) : Share :=
  { video, call := { number := s.calls, isAutoShare } }

/-- The marker of a share that is made now. -/
def Worker.marked (s : Worker) (video : SharedVideo) : Desk :=
  s.desk.mark video.url (s.now + Worker.PENDING_LOCAL_SHARE_TIMEOUT_MS)
    s.connection.socketGeneration

/-- What a call of `queueOrSendSharedVideo` does to the desk. -/
inductive Shared (s : Worker) (video : SharedVideo) (playback : Option PlaybackState)
    (auto : Bool) : Desk → Prop where
  | refused (refuses : s.refusesShare = true) :
      Shared s video playback auto { s.desk with calls := s.calls + 1 }
  | written (g : Nat) (current : s.connection.socket = some g) (can : s.canShare = true)
      (accepts : s.refusesShare = false) :
      Shared s video playback auto {
        (s.marked video).write g (s.shareOf video auto) (playback.map s.ownPlayback) with
        pendingSharedVideo := s.room.pendingSharedVideo.map fun _ => s.shareOf video auto
        calls := s.calls + 1 }
  | queued (cannot : s.canShare = false) :
      Shared s video playback auto {
        s.marked video with
        pendingSharedVideo := some (s.shareOf video auto)
        calls := s.calls + 1 }

/-- The share that waited for a socket is written to the current one, and its marker with it. -/
structure Flushed (s : Worker) (share : Share) (g : Nat) (e : Desk) : Prop where
  queued : s.room.pendingSharedVideo = some share
  current : s.connection.socket = some g
  writable : s.isSocketWritable = true
  desk : e = {
    s.desk.write g share s.room.pendingSharedPlayback with
    pendingSharedVideo := none
    pendingLocalShareGeneration :=
      if s.shareState.pendingLocalShareUrl.isSome then some s.connection.socketGeneration
      else s.shareState.pendingLocalShareGeneration }

/-- What an event does to the desk. -/
inductive Deal (s : Worker) (event : Event) : Desk → Prop where
  | keeps (unclosed : ∀ g code reason, event = .closes g code reason →
      s.room.pendingSharedVideo.isSome = true ∨
        s.shareState.pendingLocalShareGeneration ≠ some g) : Deal s event s.desk
  | clears (e : Desk) (cleared : s.desk.Cleared e) : Deal s event e
  | discards (e : Desk) (ends : s.EndsSession event)
      (cleared : s.desk.drop.Cleared e) : Deal s event e
  | shares (auto : Bool) (asks : event.sharesAuto = some auto) (video : SharedVideo)
      (playback : Option PlaybackState) (e : Desk) (shared : Shared s video playback auto e) :
      Deal s event e
  | flushes (task : Nat) (resumes : event = .resumes task) (share : Share) (g : Nat) (e : Desk)
      (flushed : Flushed s share g e) : Deal s event e

namespace Worker

variable {P : Platform} {s t : Worker}

/-! ## What leaves the desk alone -/

theorem desk_connect (s : Worker) : (s.connect P).1.desk = s.desk := by
  have outcome := connect_cases P s
  generalize s.connect P = r at outcome ⊢
  cases outcome with
  | live | probing | begins => rfl
  | refused cleared is_cleared => rcases is_cleared with rfl | rfl <;> rfl

/-- Messages other than shares leave the desk alone. -/
theorem desk_sendToServer {message : ClientMessage}
    (plain : ∀ socket, Sent.share? { socket, message } = none) :
    (s.sendToServer P message).desk = s.desk := by
  unfold sendToServer
  split
  · split
    · unfold desk
      dsimp only
      rw [List.filterMap_append, List.filterMap_cons, plain, List.filterMap_nil, List.append_nil]
    · exact desk_connect s
  · exact desk_connect s

theorem desk_sendJoinRequest (roomCode : RoomCode) (joinToken : JoinToken) :
    (s.sendJoinRequest P roomCode joinToken).desk = s.desk := by
  unfold sendJoinRequest
  dsimp only
  rw [desk_sendToServer fun _ => rfl]
  rfl

theorem desk_sendPendingJoin : (s.sendPendingJoin P).desk = s.desk := by
  unfold sendPendingJoin
  split
  · exact desk_sendJoinRequest _ _
  · rfl

theorem desk_finishJoin : (s.finishJoin P).desk = s.desk := by
  unfold finishJoin
  split
  · exact desk_sendPendingJoin
  · rfl

theorem desk_finishCreate : (s.finishCreate P).desk = s.desk := by
  unfold finishCreate
  split
  · dsimp only
    rw [desk_sendToServer fun _ => rfl]
    rfl
  · rfl

theorem desk_requestOnOpen : (s.requestOnOpen P).desk = s.desk := by
  unfold requestOnOpen
  dsimp only
  split
  · rw [desk_sendToServer fun _ => rfl]
    rfl
  · split
    · rw [desk_sendPendingJoin]
      rfl
    · split
      · rw [desk_sendJoinRequest]
        rfl
      · rfl

theorem desk_onOpen (g : Nat) : (s.onOpen P g).desk = s.desk := by
  unfold onOpen
  split
  · rfl
  · dsimp only
    rw [desk_requestOnOpen]
    rfl

theorem desk_playbackUpdate (tabId : Nat) (playback : PlaybackState) :
    (s.playbackUpdate P tabId playback).desk = s.desk := by
  unfold playbackUpdate
  dsimp only
  split
  · split
    · rw [desk_sendToServer fun _ => rfl]
      rfl
    · rfl
  · rfl

theorem desk_autoShareNextVideo (tabId : Nat) (previousSharedUrl targetNormalizedUrl : JsString) :
    (s.autoShareNextVideo P tabId previousSharedUrl targetNormalizedUrl).desk = s.desk := by
  unfold autoShareNextVideo
  dsimp only
  repeat' split
  all_goals rfl

theorem desk_scheduleReconnect (s : Worker) : s.scheduleReconnect.desk = s.desk := by
  unfold scheduleReconnect
  split <;> rfl

theorem desk_failProbe (lastError : Notice) : (s.failProbe lastError).desk = s.desk :=
  desk_scheduleReconnect _

theorem desk_start (s : Worker) (task : Task) : (s.start task).desk = s.desk := rfl

theorem desk_settleProbe {id : Nat} {probe : Probe} {answer : Answer}
    (step : s.settleProbe P id probe answer = some t) : t.desk = s.desk := by
  unfold settleProbe at step
  dsimp only at step
  repeat' split at step
  all_goals first
    | cases step; rfl
    | cases step; exact desk_failProbe _
    | cases step

theorem desk_closeSocket (s : Worker) (g : Nat) : (s.closeSocket g).desk = s.desk := by
  unfold closeSocket
  split
  · split <;> rfl
  · rfl

theorem desk_dropSocket (s : Worker) : s.dropSocket.desk = s.desk := by
  unfold dropSocket
  dsimp only
  split
  · rfl
  · exact desk_closeSocket _ _

theorem desk_finishServerUrl (s : Worker) : (s.finishServerUrl P).desk = s.desk := by
  unfold finishServerUrl
  dsimp only
  have dropped : (if s.connection.socket.isSome then s.resetReconnectState.dropSocket
      else s).desk = s.desk := by
    split
    · exact desk_dropSocket _
    · rfl
  generalize (if s.connection.socket.isSome then s.resetReconnectState.dropSocket else s) = d
    at dropped ⊢
  split
  · rw [desk_connect, dropped]
  · exact dropped

theorem desk_noteServerShutdown (socket : Socket) (code : Nat) (reason : JsString) :
    (s.noteServerShutdown socket code reason).desk = s.desk := by
  unfold noteServerShutdown
  split <;> rfl

theorem desk_changeMembers (s : Worker) : s.changeMembers.desk = s.desk := by
  unfold changeMembers
  split <;> rfl

/-! ## What gives the marker up -/

theorem cleared_forgetPendingLocalShare (s : Worker) :
    s.desk.Cleared s.forgetPendingLocalShare.desk := by
  unfold forgetPendingLocalShare
  split
  · exact ⟨rfl, .inl rfl, .inl ⟨rfl, rfl⟩, rfl, rfl, rfl⟩
  · next had =>
    unfold hadPendingLocalShare at had
    rw [Bool.or_eq_true, not_or] at had
    exact ⟨Bool.eq_false_of_not_eq_true had.1, .inr rfl, .inr ⟨rfl, rfl⟩, rfl, rfl, rfl⟩

theorem cleared_clearPendingLocalShare (s : Worker) :
    s.desk.Cleared s.clearPendingLocalShare.desk :=
  { cleared_forgetPendingLocalShare _ with }

/-- A reset of the room forgets its shares, whatever else it did. -/
theorem cleared_resetRoomLifecycleTransientState (s : Worker) (room : RoomSessionState)
    (connection : ConnectionState) : s.desk.drop.Cleared
      ({ s with room, connection } : Worker).resetRoomLifecycleTransientState.desk :=
  (cleared_forgetPendingLocalShare { s with room, connection }).drop

theorem desk_expirePendingLocalShareIfNeeded (s : Worker) :
    s.expirePendingLocalShareIfNeeded.desk = s.desk ∨
      s.desk.Cleared s.expirePendingLocalShareIfNeeded.desk := by
  unfold expirePendingLocalShareIfNeeded
  split
  · exact .inr (cleared_clearPendingLocalShare s)
  · exact .inl rfl

theorem desk_clearUnlessQueued (s : Worker) :
    s.clearUnlessQueued.desk = s.desk ∧ s.room.pendingSharedVideo.isSome = true ∨
      s.desk.Cleared s.clearUnlessQueued.desk := by
  unfold clearUnlessQueued
  split
  · exact .inr (cleared_clearPendingLocalShare s)
  · next queued => exact .inl ⟨rfl, Option.isSome_iff_ne_none.mpr (by simpa using queued)⟩

theorem cleared_clearCurrentRoomContext (s : Worker) (errorMessage : Option Notice) :
    s.desk.drop.Cleared (s.clearCurrentRoomContext errorMessage).desk := by
  unfold clearCurrentRoomContext
  dsimp only
  exact cleared_resetRoomLifecycleTransientState s _ _

theorem cleared_requestCreateRoom (s : Worker) : s.desk.drop.Cleared s.requestCreateRoom.desk := by
  unfold requestCreateRoom
  dsimp only
  rw [desk_start]
  exact cleared_resetRoomLifecycleTransientState s _ _

theorem cleared_requestJoinRoom (s : Worker) (roomCode : RoomCode) (joinToken : JoinToken) :
    s.desk.drop.Cleared (s.requestJoinRoom roomCode joinToken).desk := by
  unfold requestJoinRoom
  dsimp only
  rw [desk_start]
  exact cleared_resetRoomLifecycleTransientState s _ _

theorem cleared_disconnectSocket (s : Worker) : s.desk.Cleared s.disconnectSocket.desk := by
  unfold disconnectSocket
  dsimp only
  rw [desk_dropSocket]
  exact cleared_clearPendingLocalShare s.resetReconnectState

theorem cleared_requestLeaveRoom (s : Worker) :
    s.desk.drop.Cleared (s.requestLeaveRoom P).desk := by
  unfold requestLeaveRoom
  dsimp only
  generalize spoken : (if s.connection.connected then s.sendToServer P _ else s) = c
  have same : c.desk = s.desk := by
    rw [← spoken]
    split
    · exact desk_sendToServer fun _ => rfl
    · rfl
  rw [← same]
  refine Desk.Cleared.trans ?_ (cleared_disconnectSocket _)
  exact cleared_resetRoomLifecycleTransientState c _ c.connection

theorem cleared_resetAdminSession (s : Worker) (g : Nat) (message : Notice) :
    s.desk.drop.Cleared (s.resetAdminSession g message).desk := by
  unfold resetAdminSession
  dsimp only
  generalize dropped : (if s.connection.socket = some g then _ else _) = c
  have same : c.desk = s.desk := by
    rw [← dropped]
    split
    · rfl
    · exact desk_dropSocket _
  rw [← same]
  exact cleared_clearCurrentRoomContext c (some message)

/-! ## What a call and a flush do -/

theorem desk_sendToServer_share {g : Nat} (current : s.connection.socket = some g)
    (writable : s.isSocketWritable = true) (memberToken : MemberToken) (share : Share)
    (playback : Option PlaybackState) :
    (s.sendToServer P (.share memberToken share playback)).desk =
      s.desk.write g share playback := by
  unfold sendToServer
  rw [current]
  dsimp only
  rw [if_pos writable]
  unfold desk
  dsimp only
  rw [List.filterMap_append]
  rfl

theorem room_sendToServer {g : Nat} (current : s.connection.socket = some g)
    (writable : s.isSocketWritable = true) (message : ClientMessage) :
    (s.sendToServer P message).room = s.room ∧
      (s.sendToServer P message).connection = s.connection := by
  unfold sendToServer
  rw [current]
  dsimp only
  rw [if_pos writable]
  exact ⟨rfl, rfl⟩

/-- A socket that can be written to is there. -/
theorem exists_socket_of_writable (writable : s.isSocketWritable = true) :
    ∃ g, s.connection.socket = some g := by
  obtain ⟨socket, held, -⟩ := (Option.any_eq_true ..).mp writable
  obtain ⟨g, current, -⟩ := Option.bind_eq_some_iff.mp held
  exact ⟨g, current⟩

theorem desk_sendShare (share : Share) (playback : Option PlaybackState) {g : Nat}
    (current : s.connection.socket = some g) (writable : s.isSocketWritable = true)
    (token : truthy s.room.memberToken = true) : (s.sendShare P share playback).desk =
      { (s.marked share.video).write g share (playback.map s.ownPlayback) with
        pendingSharedVideo := s.room.pendingSharedVideo.map fun _ => share } := by
  let marked := s.setPendingLocalShare share.video.url share.call.isAutoShare
  let message : ClientMessage :=
    .share (s.room.memberToken.getD "") share (playback.map s.ownPlayback)
  have sent : (marked.sendToServer P message).desk =
      (s.marked share.video).write g share (playback.map s.ownPlayback) :=
    desk_sendToServer_share (s := marked) current writable _ _ _
  have room : (marked.sendToServer P message).room = s.room :=
    (room_sendToServer (s := marked) current writable message).1
  unfold sendShare
  rw [token]
  change (if (marked.sendToServer P message).room.pendingSharedVideo.isSome = true then
    (marked.sendToServer P message).queueShare share playback
    else marked.sendToServer P message).desk = _
  generalize marked.sendToServer P message = w at sent room ⊢
  rw [room]
  cases queued : s.room.pendingSharedVideo with
  | none =>
    have empty : w.desk.pendingSharedVideo = none :=
      (congrArg RoomSessionState.pendingSharedVideo room).trans queued
    have same : { w.desk with pendingSharedVideo := none } = w.desk := by rw [← empty]
    rw [← sent]
    exact same.symm
  | some old =>
    rw [← sent]
    rfl

theorem desk_sendShare_tokenless (share : Share) (playback : Option PlaybackState)
    (tokenless : truthy s.room.memberToken = false) :
    (s.sendShare P share playback).desk = s.desk := by
  unfold sendShare
  rw [tokenless]
  rfl

theorem desk_keepShare (share : Share) (playback : Option PlaybackState) :
    (s.keepShare P share playback).desk =
      { s.marked share.video with pendingSharedVideo := some share } := by
  unfold keepShare
  dsimp only
  split
  · rw [desk_connect]
    rfl
  · split
    · rw [desk_connect]
      rfl
    · rfl

theorem writable_of_canShare (can : s.canShare = true) : s.isSocketWritable = true := by
  unfold canShare at can
  simp only [Bool.and_eq_true] at can
  exact can.1.2

theorem shared_queueOrSendSharedVideo (s : Worker) (video : SharedVideo)
    (playback : Option PlaybackState) (tabId : Option Nat) (isAutoShare : Bool) :
    Shared s video playback isAutoShare
      (s.queueOrSendSharedVideo P video playback tabId isAutoShare).desk := by
  unfold queueOrSendSharedVideo
  dsimp only
  split
  · next can =>
    have writable := writable_of_canShare (s := s) can
    let r : Worker := { s.rememberSharedSourceTab tabId with calls := s.calls + 1 }
    by_cases token : truthy s.room.memberToken = true
    · obtain ⟨g, current⟩ := exists_socket_of_writable writable
      have sent := desk_sendShare (P := P) (s := r) (s.shareOf video isAutoShare) playback current
        writable token
      have accepts : s.refusesShare = false := by
        unfold refusesShare
        rw [token, Bool.not_true, Bool.and_false]
      exact (congrArg (Shared s video playback isAutoShare) sent).mpr
        (.written g current can accepts)
    · have tokenless := Bool.eq_false_of_not_eq_true token
      have refused := desk_sendShare_tokenless (P := P) (s := r) (s.shareOf video isAutoShare)
        playback tokenless
      have refuses : s.refusesShare = true := by
        unfold refusesShare
        rw [tokenless, Bool.not_false, Bool.and_true]
        exact can
      exact (congrArg (Shared s video playback isAutoShare) refused).mpr (.refused refuses)
  · next cannot =>
    rw [desk_keepShare]
    exact .queued (Bool.eq_false_of_not_eq_true cannot)

theorem desk_executeFlushPendingShare (s : Worker) :
    (s.executeFlushPendingShare P).desk = s.desk ∨
      ∃ share g, Flushed s share g (s.executeFlushPendingShare P).desk := by
  unfold executeFlushPendingShare
  split
  · next share memberToken queued _ =>
    split
    · next ready =>
      have writable : s.isSocketWritable = true := by
        simp only [Bool.and_eq_true] at ready
        exact ready.1.1.2
      obtain ⟨g, current⟩ := exists_socket_of_writable writable
      have sent := desk_sendToServer_share (P := P) current writable memberToken share
        s.room.pendingSharedPlayback
      have connection := (room_sendToServer (P := P) current writable
        (.share memberToken share s.room.pendingSharedPlayback)).2
      refine .inr ⟨share, g, queued, current, writable, ?_⟩
      dsimp only
      generalize s.sendToServer P (.share memberToken share s.room.pendingSharedPlayback) = w
        at sent connection ⊢
      have url : w.shareState.pendingLocalShareUrl = s.shareState.pendingLocalShareUrl :=
        congrArg Desk.pendingLocalShareUrl sent
      have generation : w.shareState.pendingLocalShareGeneration =
          s.shareState.pendingLocalShareGeneration :=
        congrArg Desk.pendingLocalShareGeneration sent
      rw [← sent, ← url, ← generation, ← connection]
      split <;> rfl
    · exact .inl rfl
  · exact .inl rfl

/-- A share that is made on what is otherwise the same state. -/
theorem shared_of_same {c : Worker} {video : SharedVideo} {playback : Option PlaybackState}
    {auto : Bool} {e : Desk} (shared : Shared c video playback auto e) (desk : c.desk = s.desk)
    (connection : c.connection = s.connection) (room : c.room = s.room)
    (sockets : c.sockets = s.sockets) (now : c.now = s.now) :
    Shared s video playback auto e := by
  have calls : c.calls = s.calls := congrArg Desk.calls desk
  have share : c.shareOf video auto = s.shareOf video auto := by
    unfold Worker.shareOf
    rw [calls]
  have marked : c.marked video = s.marked video := by
    unfold Worker.marked
    rw [desk, connection, now]
  have own : c.ownPlayback = s.ownPlayback := by
    unfold ownPlayback
    rw [room]
  have same : c.canShare = s.canShare := by
    unfold canShare isSocketWritable currentSocket
    rw [connection, sockets, room]
  have refuses : c.refusesShare = s.refusesShare := by
    unfold refusesShare
    rw [same, room]
  cases shared with
  | refused is_refused =>
    rw [desk, calls]
    exact .refused (refuses ▸ is_refused)
  | written g current can accepts =>
    rw [marked, share, room, calls, own]
    exact .written g (connection ▸ current) (same ▸ can) (refuses ▸ accepts)
  | queued cannot =>
    rw [marked, share, calls]
    exact .queued (same ▸ cannot)

/-- What the handler of an auto-share finds before it shares. -/
structure PassesAutoShare (P : Platform) (s : Worker) (request : AutoShare) (video : SharedVideo) :
    Prop where
  target : areSharedVideoUrlsEqual P (some video.url) (some request.targetNormalizedUrl) = true
  schedule : s.classifyRoomSchedule P request.previousSharedUrl = .onScheduled
  source : request.isRememberedSourceTab = true ∨ s.shareState.sharedTabId = none
  online : s.defersAutoShare = false
  unblocked : s.hasActivePendingManualShare = false

theorem claimSharedSourceTab_guards (s : Worker) (request : AutoShare) :
    (s.claimSharedSourceTab request).defersAutoShare = s.defersAutoShare ∧
      (s.claimSharedSourceTab request).hasActivePendingManualShare =
        s.hasActivePendingManualShare := by
  unfold claimSharedSourceTab
  split <;> exact ⟨rfl, rfl⟩

theorem finishAutoShare_cases {task : Nat} (request : AutoShare)
    (payload : Option (SharedVideo × Option PlaybackState)) :
    ((s.drop task).finishAutoShare P request payload).desk = s.desk ∨
      ∃ video playback, payload = some (video, some playback) ∧ PassesAutoShare P s request video ∧
        Shared s video (some playback) true
          ((s.drop task).finishAutoShare P request payload).desk := by
  have claimed : ((s.drop task).claimSharedSourceTab request).desk = s.desk := by
    unfold claimSharedSourceTab
    split <;> rfl
  unfold finishAutoShare
  split
  · exact .inl rfl
  · exact .inl rfl
  · next video playback =>
    dsimp only
    split
    · exact .inl rfl
    · next target =>
      split
      · exact .inl rfl
      · next schedule =>
        split
        · exact .inl rfl
        · next source =>
          split
          · exact .inl claimed
          · next online =>
            split
            · exact .inl claimed
            · next unblocked =>
              refine .inr ⟨video, playback, rfl, ?_, shared_of_same
                (shared_queueOrSendSharedVideo _ _ _ _ _) claimed ?_ ?_ ?_ ?_⟩
              · have guards := claimSharedSourceTab_guards (s.drop task) request
                rw [guards.1] at online
                rw [guards.2] at unblocked
                exact {
                  target := by simpa using target
                  schedule := not_not.mp schedule
                  source := by simpa [or_iff_not_imp_left, drop] using source
                  online := Bool.eq_false_of_not_eq_true online
                  unblocked := Bool.eq_false_of_not_eq_true unblocked }
              all_goals
                unfold claimSharedSourceTab
                split <;> rfl

theorem deal_finishAutoShare {task : Nat} {payload : Option (SharedVideo × Option PlaybackState)}
    (request : AutoShare) : Deal s (.readsTab task payload)
      ((s.drop task).finishAutoShare P request payload).desk := by
  rcases finishAutoShare_cases (P := P) request payload with same | ⟨video, playback, -, -, shared⟩
  · rw [same]
    exact .keeps fun _ _ _ absent => nomatch absent
  · exact .shares true rfl video (some playback) _ shared

theorem desk_handleRejection (s : Worker) (code : ErrorCode) :
    (s.handleRejection code).desk = s.desk ∨
      s.rejectsRoom code = true ∧ s.desk.drop.Cleared (s.handleRejection code).desk := by
  unfold handleRejection
  split
  · next rejects => exact .inr ⟨rejects, cleared_clearCurrentRoomContext s _⟩
  · split <;> exact .inl rfl

theorem deal_handleServerMessage (s : Worker) (g : Nat) (message : ServerMessage) :
    Deal s (.receives g message) (s.handleServerMessage P message).desk := by
  have kept : Deal s (.receives g message) s.desk := .keeps fun _ _ _ absent => nomatch absent
  cases message with
  | created | joined => exact kept
  | state nextState =>
    unfold handleServerMessage handleRoomStateMessage
    dsimp only
    have expired := desk_expirePendingLocalShareIfNeeded s
    generalize s.expirePendingLocalShareIfNeeded = e at expired ⊢
    have deals : Deal s (.receives g (.state nextState)) e.desk := by
      rcases expired with same | cleared
      · rwa [same]
      · exact .clears _ cleared
    split
    · exact deals
    · split
      · have last := cleared_clearPendingLocalShare { e with
          room.awaitingFreshRoomState := false
          room.roomState := some nextState
          room.roomCode := some nextState.roomCode
          connection.lastError := none }
        refine .clears _ ?_
        rcases expired with same | cleared
        · exact same ▸ last
        · exact cleared.trans last
      · exact deals
  | error code text =>
    unfold handleServerMessage handleError
    dsimp only
    split
    · exact kept
    · have rejected := desk_handleRejection
        { s with connection.lastError := some (.server code text) } code
      rcases rejected with same | ⟨ends, cleared⟩
      · rwa [same]
      · exact .discards _ ends cleared

theorem deal_onClose {c : Worker} (desk : c.desk = s.desk) (g : Nat) (socket : Socket) (code : Nat)
    (reason : JsString) : Deal s (.closes g code reason) (c.onClose g socket code reason).desk := by
  have queue : c.room.pendingSharedVideo = s.room.pendingSharedVideo :=
    congrArg Desk.pendingSharedVideo desk
  have generation :
      c.shareState.pendingLocalShareGeneration = s.shareState.pendingLocalShareGeneration :=
    congrArg Desk.pendingLocalShareGeneration desk
  unfold onClose
  split
  · next message reset =>
    have cleared := cleared_resetAdminSession c g message
    rw [desk] at cleared
    exact .discards _ (by exact Option.isSome_iff_exists.mpr ⟨_, reset⟩) cleared
  · split
    · unfold closeSuperseded
      split
      · exact .clears _ (desk ▸ cleared_clearPendingLocalShare c)
      · next unclosed =>
        rw [desk]
        refine .keeps fun h _ _ same => ?_
        cases same
        by_contra neither
        rw [not_or, Option.isSome_iff_ne_none, not_not, not_not] at neither
        rw [← queue, ← generation] at neither
        exact unclosed (by simpa using neither)
    · unfold closeCurrent
      dsimp only
      rw [desk_scheduleReconnect]
      have same : (noteServerShutdown { c with connection.connected := false } socket code
          reason).desk = s.desk := (desk_noteServerShutdown socket code reason).trans desk
      generalize noteServerShutdown _ socket code reason = d at same ⊢
      rcases desk_clearUnlessQueued d with ⟨kept, queued⟩ | cleared
      · rw [kept, same]
        have is_queued : s.room.pendingSharedVideo.isSome = true :=
          (congrArg (fun d : Desk => d.pendingSharedVideo.isSome) same).symm.trans queued
        exact .keeps fun _ _ _ _ => .inl is_queued
      · exact .clears _ (same ▸ cleared)

theorem deal_resume {task : Nat} {left : Task} (held : s.tasks[task]? = some left)
    (step : (s.drop task).resume P left = some t) : Deal s (.resumes task) t.desk := by
  have kept : Deal s (.resumes task) s.desk := .keeps fun _ _ _ absent => nomatch absent
  have connected : ((s.drop task).connect P).1.desk = s.desk := desk_connect _
  unfold resume at step
  cases left with
  | persistsCreate =>
    dsimp only at step
    split at step <;> cases step
    · rwa [desk_start, connected]
    · rwa [desk_finishCreate, connected]
  | persistsJoin =>
    dsimp only at step
    split at step <;> cases step
    · rwa [desk_start, connected]
    · rwa [desk_finishJoin, connected]
  | persistsServerUrl =>
    cases step
    rw [desk_finishServerUrl]
    exact kept
  | persistsRoom =>
    cases step
    rcases desk_executeFlushPendingShare (P := P) (s.drop task) with same | ⟨share, g, flushed⟩
    · rw [same]
      exact kept
    · exact .flushes task rfl share g _
        ⟨flushed.queued, flushed.current, flushed.writable, flushed.desk⟩
  | persistsRejection code =>
    cases step
    rcases desk_handleRejection (s.drop task) code with same | ⟨ends, cleared⟩
    · rw [same]
      exact kept
    · exact .discards _ ⟨code, held, ends⟩ cleared
  | awaitsCreate probe =>
    dsimp only at step
    split at step <;> cases step
    rw [desk_finishCreate]
    exact kept
  | awaitsJoin probe =>
    dsimp only at step
    split at step <;> cases step
    rw [desk_finishJoin]
    exact kept
  | readsTab => cases step

theorem deal_take {event : Event} (step : s.take P event = some t) : Deal s event t.desk := by
  unfold take at step
  cases event with
  | connects =>
    cases step
    rw [desk_connect]
    exact .keeps fun _ _ _ absent => nomatch absent
  | createRoom =>
    cases step
    exact .discards _ trivial (cleared_requestCreateRoom s)
  | joinRoom roomCode joinToken =>
    cases step
    exact .discards _ trivial (cleared_requestJoinRoom s roomCode joinToken)
  | leaveRoom =>
    cases step
    exact .discards _ trivial (cleared_requestLeaveRoom s)
  | shares video playback tabId =>
    cases step
    exact .shares false rfl video playback _
      (shared_queueOrSendSharedVideo s video playback tabId false)
  | autoShares =>
    cases step
    rw [desk_autoShareNextVideo]
    exact .keeps fun _ _ _ absent => nomatch absent
  | readsTab task payload =>
    dsimp only at step
    split at step <;> cases step
    exact deal_finishAutoShare _
  | playbackUpdate =>
    cases step
    rw [desk_playbackUpdate]
    exact .keeps fun _ _ _ absent => nomatch absent
  | binds =>
    cases step
    exact .keeps fun _ _ _ absent => nomatch absent
  | updateServerUrl nextServerUrl =>
    cases step
    unfold updateServerUrl
    split
    · exact .keeps fun _ _ _ absent => nomatch absent
    · split
      · exact .keeps fun _ _ _ absent => nomatch absent
      · dsimp only
        rw [desk_start]
        split
        · exact .clears _ (cleared_clearPendingLocalShare s)
        · exact .keeps fun _ _ _ absent => nomatch absent
  | answers id answer =>
    dsimp only at step
    split at step
    · rw [desk_settleProbe step]
      exact .keeps fun _ _ _ absent => nomatch absent
    · cases step
  | opens g =>
    dsimp only at step
    split at step
    · split at step <;> cases step
      rw [desk_onOpen]
      exact .keeps fun _ _ _ absent => nomatch absent
    · cases step
  | receives g message =>
    dsimp only at step
    split at step
    · split at step <;> cases step
      unfold onMessage
      split
      · exact .keeps fun _ _ _ absent => nomatch absent
      · split
        · exact .keeps fun _ _ _ absent => nomatch absent
        · exact deal_handleServerMessage s g message
    · cases step
  | breaks g =>
    cases step
    rw [desk_closeSocket]
    exact .keeps fun _ _ _ absent => nomatch absent
  | fails g =>
    dsimp only at step
    split at step
    · next socket _ =>
      split at step <;> cases step
      unfold onError
      split
      · exact .keeps fun _ _ _ absent => nomatch absent
      · dsimp only
        generalize told : ({ s.setSocket g _ with connection := _ } : Worker) = c
        have same : c.desk = s.desk := by
          rw [← told]
          rfl
        rcases desk_clearUnlessQueued c with ⟨kept, -⟩ | cleared
        · rw [kept, same]
          exact .keeps fun _ _ _ absent => nomatch absent
        · exact .clears _ (same ▸ cleared)
    · cases step
  | closes g code reason =>
    dsimp only at step
    split at step
    · split at step <;> cases step
      apply deal_onClose
      rfl
    · cases step
  | membersChange =>
    cases step
    rw [desk_changeMembers]
    exact .keeps fun _ _ _ absent => nomatch absent
  | reconnectTimer =>
    dsimp only at step
    split at step
    · split at step <;> cases step
      rw [desk_connect]
      exact .keeps fun _ _ _ absent => nomatch absent
    · cases step
  | shareTimer =>
    dsimp only at step
    split at step
    · split at step <;> cases step
      rcases desk_expirePendingLocalShareIfNeeded s with same | cleared
      · rw [same]
        exact .keeps fun _ _ _ absent => nomatch absent
      · exact .clears _ cleared
    · cases step
  | resumes task =>
    dsimp only at step
    split at step
    · next left held => exact deal_resume held step
    · cases step

end Worker

end BiliSyncPlay.Connection
