import BiliSyncPlay.Extension.Reconnects
import BiliSyncPlay.Extension.ShareOrder

/-!
# Auto-shares

The next video of a page is shared on behalf of the member who shared the current one, and only
where the room still is at that one: in every run in which the source tab is still bound, and no
share waits for a socket, when the tab of an auto-share has answered.
-/

namespace BiliSyncPlay.Connection

open Json Protocol
open PlaybackAnchors (PlaybackState)
open RedisRoomStore (js)

variable {P : Platform} {s t u : Worker}

/-! ## Rooms and their states -/

/-- A room code is not empty, and there is one as long as there is a state of its room. -/
structure Roomed (s : Worker) : Prop where
  filled : s.room.roomCode ≠ some ""
  roomed : ∀ state, s.room.roomState = some state →
    state.roomCode ≠ "" ∧ s.room.roomCode.isSome = true

namespace Roomed

theorem of_same (roomed : Roomed s) (roomCode : t.room.roomCode = s.room.roomCode)
    (roomState : t.room.roomState = s.room.roomState) : Roomed t where
  filled := roomCode ▸ roomed.filled
  roomed := fun state held => by
    rw [roomCode]
    exact roomed.roomed state (roomState ▸ held)

theorem of_session (roomed : Roomed s) (same : t.session = s.session) : Roomed t :=
  roomed.of_same (congrArg Session.roomCode same) (congrArg Session.roomState same)

theorem of_room (roomed : Roomed s) (same : t.room = s.room) : Roomed t :=
  roomed.of_same (congrArg _ same) (congrArg _ same)

theorem none (roomCode : s.room.roomCode = none) (roomState : s.room.roomState = none) :
    Roomed s where
  filled := fun empty => by cases roomCode.symm.trans empty
  roomed := fun _ held => by cases roomState.symm.trans held

theorem stable : Stable P Roomed where
  same := fun same roomed => roomed.of_session same
  connect := fun {s} roomed => by
    have outcome := Worker.connect_cases P s
    generalize s.connect P = r at outcome ⊢
    cases outcome with
    | live | probing => exact roomed
    | refused cleared is_cleared =>
      rcases is_cleared with rfl | rfl <;> exact roomed.of_room rfl
    | begins => exact roomed.of_room rfl
  withdraw := fun roomed => roomed.of_same rfl rfl
  forget := fun _ => none rfl rfl
  start := fun _ roomed => roomed.of_room rfl

theorem clearCurrentRoomContext (errorMessage : Option Notice) :
    Roomed (s.clearCurrentRoomContext errorMessage) := by
  unfold Worker.clearCurrentRoomContext
  dsimp only
  exact (Roomed.none rfl rfl).of_session (Worker.session_resetRoomLifecycleTransientState _)

theorem requestCreateRoom : Roomed s.requestCreateRoom := by
  unfold Worker.requestCreateRoom
  dsimp only
  have reset := Worker.session_resetRoomLifecycleTransientState
  exact ((Roomed.none rfl rfl).of_session (reset _)).of_room rfl

theorem requestJoinRoom (roomCode : RoomCode) (joinToken : JoinToken) :
    Roomed (s.requestJoinRoom roomCode joinToken) := by
  unfold Worker.requestJoinRoom
  dsimp only
  have reset := Worker.session_resetRoomLifecycleTransientState
  exact ((Roomed.none rfl rfl).of_session (reset _)).of_room rfl

theorem requestLeaveRoom : Roomed (s.requestLeaveRoom P) := by
  unfold Worker.requestLeaveRoom
  dsimp only
  generalize (if s.connection.connected then s.sendToServer P _ else s) = c
  have reset := Worker.session_resetRoomLifecycleTransientState
  have left : Roomed { c.forgetRoom with
      room.awaitingFreshRoomState := false
      room.pendingJoinRoomCode := Option.none
      room.pendingJoinToken := Option.none
      room.pendingJoinRequestSent := false } := .none rfl rfl
  have withdrawn := (stable (P := P)).withdraw (left.of_session (reset _))
  refine withdrawn.of_same ?_ ?_
  all_goals rw [Worker.room_disconnectSocket]

theorem resetAdminSession (g : Nat) (message : Notice) :
    Roomed (s.resetAdminSession g message) := clearCurrentRoomContext _

section
variable (roomed : Roomed s)
include roomed

theorem handleRejection (code : RoomSession.ErrorCode) :
    Roomed (s.handleRejection code) := by
  unfold Worker.handleRejection
  split
  · exact clearCurrentRoomContext _
  · split
    · exact roomed.of_same rfl rfl
    · exact roomed

theorem handleServerMessage {message : ServerMessage} (valid : isServerMessage message = true) :
    Roomed (s.handleServerMessage P message) := by
  cases message with
  | created roomCode joinToken memberToken memberId =>
    have filled : roomCode ≠ "" := by simp_all [isServerMessage]
    exact {
      filled := fun empty => filled (Option.some.inj empty)
      roomed := fun state held => ⟨(roomed.roomed state held).1, rfl⟩ }
  | joined roomCode memberToken memberId =>
    have filled : roomCode ≠ "" := by simp_all [isServerMessage]
    exact {
      filled := fun empty => filled (Option.some.inj empty)
      roomed := fun state held => ⟨(roomed.roomed state held).1, rfl⟩ }
  | state nextState =>
    have filled : nextState.roomCode ≠ "" := of_decide_eq_true valid
    have expired := Worker.session_expirePendingLocalShareIfNeeded s
    unfold Worker.handleServerMessage Worker.handleRoomStateMessage
    dsimp only
    generalize s.expirePendingLocalShareIfNeeded = e at expired ⊢
    split
    · exact roomed.of_session expired
    · have entered : Roomed { e with
          room.awaitingFreshRoomState := false
          room.roomState := some nextState
          room.roomCode := some nextState.roomCode
          connection.lastError := Option.none } := {
        filled := fun empty => filled (Option.some.inj empty)
        roomed := fun state held => ⟨Option.some.inj held ▸ filled, rfl⟩ }
      split
      · exact entered.of_session (Worker.session_clearPendingLocalShare _)
      · exact entered
  | error code text =>
    unfold Worker.handleServerMessage Worker.handleError
    dsimp only
    split
    · exact Roomed.none rfl rfl
    · apply handleRejection
      exact roomed.of_room rfl

theorem settleProbe {id : Nat} {probe : Probe} {answer : Answer}
    (step : s.settleProbe P id probe answer = some t) : Roomed t := by
  have failed (lastError : Notice) : Roomed ((s.failProbe lastError).endProbe id) := by
    unfold Worker.failProbe Worker.scheduleReconnect
    dsimp only
    split <;> exact roomed.of_room rfl
  unfold Worker.settleProbe at step
  dsimp only at step
  repeat' split at step
  all_goals first
    | cases step; exact failed _
    | cases step; exact roomed.of_room rfl
    | cases step

theorem finishCreate : Roomed (s.finishCreate P) := by
  by_cases connected : s.connection.connected = true
  · exact stable.finishCreate roomed connected
  · unfold Worker.finishCreate
    rw [if_neg connected]
    exact roomed.of_same rfl rfl

theorem finishServerUrl : Roomed (s.finishServerUrl P) := by
  unfold Worker.finishServerUrl
  dsimp only
  have dropped : Roomed (if s.connection.socket.isSome then s.resetReconnectState.dropSocket
      else s) := by
    split
    · exact roomed.of_room (Worker.room_dropSocket _)
    · exact roomed
  generalize (if s.connection.socket.isSome then s.resetReconnectState.dropSocket else s) = d
    at dropped ⊢
  split
  · exact stable.connect dropped
  · exact dropped

theorem resume {task : Task} (step : s.resume P task = some t) : Roomed t := by
  unfold Worker.resume at step
  have connected : Roomed (s.connect P).1 := stable.connect roomed
  cases task with
  | persistsCreate =>
    dsimp only at step
    split at step <;> cases step
    · exact connected.of_room rfl
    · exact connected.finishCreate
  | persistsJoin =>
    dsimp only at step
    split at step <;> cases step
    · exact connected.of_room rfl
    · exact stable.finishJoin connected
  | persistsServerUrl =>
    cases step
    exact roomed.finishServerUrl
  | persistsRoom =>
    cases step
    exact stable.executeFlushPendingShare roomed
  | persistsRejection code =>
    cases step
    exact roomed.handleRejection code
  | awaitsCreate probe =>
    dsimp only at step
    split at step <;> cases step
    exact roomed.finishCreate
  | awaitsJoin probe =>
    dsimp only at step
    split at step <;> cases step
    exact stable.finishJoin roomed
  | readsTab => cases step

theorem onClose (g : Nat) (socket : Socket) (code : Nat) (reason : JsString) :
    Roomed (s.onClose g socket code reason) := by
  unfold Worker.onClose
  split
  · exact resetAdminSession _ _
  · split
    · unfold Worker.closeSuperseded
      split
      · exact roomed.of_session (Worker.session_clearPendingLocalShare _)
      · exact roomed
    · unfold Worker.closeCurrent
      dsimp only
      have told : Roomed (Worker.noteServerShutdown { s with connection.connected := false } socket
          code reason) := by
        unfold Worker.noteServerShutdown
        split <;> exact roomed.of_room rfl
      have cleared := told.of_session (Worker.session_clearUnlessQueued _)
      have scheduled := session_scheduleReconnect (Worker.clearUnlessQueued
        (Worker.noteServerShutdown { s with connection.connected := false } socket code reason))
      exact cleared.of_same (congrArg Session.roomCode scheduled)
        (congrArg Session.roomState scheduled)

theorem take {event : Event} (step : s.take P event = some t) : Roomed t := by
  unfold Worker.take at step
  cases event with
  | connects =>
    cases step
    exact stable.connect roomed
  | createRoom =>
    cases step
    exact requestCreateRoom
  | joinRoom roomCode joinToken =>
    cases step
    exact requestJoinRoom roomCode joinToken
  | leaveRoom =>
    cases step
    exact requestLeaveRoom
  | shares =>
    cases step
    exact stable.queueOrSendSharedVideo roomed _ _ _ _
  | autoShares =>
    cases step
    exact (stable (P := P)).autoShareNextVideo roomed _ _ _
  | readsTab task payload =>
    dsimp only at step
    split at step <;> cases step
    apply stable.finishAutoShare
    exact roomed.of_room rfl
  | playbackUpdate =>
    cases step
    exact stable.playbackUpdate roomed _ _
  | binds =>
    cases step
    exact roomed.of_room rfl
  | updateServerUrl nextServerUrl =>
    cases step
    unfold Worker.updateServerUrl
    split
    · exact roomed.of_room rfl
    · split
      · exact roomed
      · dsimp only
        have cleared : Roomed (if s.shareState.pendingLocalShareUrl.isSome then
            s.clearPendingLocalShare else s) := by
          split
          · exact roomed.of_session (Worker.session_clearPendingLocalShare s)
          · exact roomed
        exact cleared.of_room rfl
  | answers id answer =>
    dsimp only at step
    split at step
    · exact roomed.settleProbe step
    · cases step
  | opens g =>
    dsimp only at step
    split at step
    · split at step <;> cases step
      unfold Worker.onOpen
      split
      · exact roomed.of_room rfl
      · apply stable.requestOnOpen
        exact roomed.of_room rfl
    · cases step
  | receives g message =>
    dsimp only at step
    split at step
    · split at step <;> cases step
      unfold Worker.onMessage
      split
      · exact roomed
      · split
        · exact roomed
        · next valid => exact roomed.handleServerMessage (by simpa using valid)
    · cases step
  | breaks g =>
    cases step
    exact roomed.of_room (Worker.room_closeSocket s g)
  | fails g =>
    dsimp only at step
    split at step
    · split at step <;> cases step
      unfold Worker.onError
      split
      · exact roomed.of_room rfl
      · refine Roomed.of_session ?_ (Worker.session_clearUnlessQueued _)
        exact roomed.of_room rfl
    · cases step
  | closes g code reason =>
    dsimp only at step
    split at step
    · split at step <;> cases step
      apply onClose
      exact roomed.of_room rfl
    · cases step
  | membersChange =>
    cases step
    unfold Worker.changeMembers
    split
    · exact roomed
    · next state held =>
      have filled := (roomed.roomed state held).1
      exact {
        filled := fun empty => filled (Option.some.inj empty)
        roomed := fun other is_other => ⟨(roomed.roomed other is_other).1, rfl⟩ }
  | reconnectTimer =>
    dsimp only at step
    split at step
    · split at step <;> cases step
      apply stable.connect
      exact roomed.of_room rfl
    · cases step
  | shareTimer =>
    dsimp only at step
    split at step
    · split at step <;> cases step
      exact roomed.of_session (Worker.session_expirePendingLocalShareIfNeeded s)
    · cases step
  | resumes task =>
    dsimp only at step
    split at step
    · refine Roomed.resume ?_ step
      exact roomed.of_room rfl
    · cases step

end

end Roomed

theorem roomed_bootstrap (persisted : PersistedSnapshot) :
    Roomed (bootstrapBackground P persisted) := by
  unfold bootstrapBackground
  dsimp only
  split
  · apply Roomed.stable.connect
    exact { filled := persisted.filled, roomed := persisted.roomed }
  · exact { filled := persisted.filled, roomed := persisted.roomed }

/-! ## What an auto-share finds -/

def Worker.writtenShares (s : Worker) : List WrittenShare := s.desk.written

/-- What holds at the instant at which the frame of an auto-share is written. -/
structure SentInPlace (P : Platform) (s : Worker) (request : AutoShare) (frame : WrittenShare) :
    Prop where
  writable : s.connection.socket = some frame.socket ∧ s.isSocketWritable = true
  fresh : s.room.awaitingFreshRoomState = false
  owned : ∃ state sharedVideo,
    s.room.roomState = some state ∧ state.sharedVideo = some sharedVideo ∧
    areSharedVideoUrlsEqual P (some sharedVideo.url) (some request.previousSharedUrl) = true ∧
    s.room.memberId.isSome = true ∧ sharedVideo.sharedByMemberId = s.room.memberId
  target : areSharedVideoUrlsEqual P (some frame.share.video.url)
    (some request.targetNormalizedUrl) = true
  playback : frame.playback.isSome = true
  unblocked : s.hasActivePendingManualShare = false
  /-- The tab is the source tab, or it was admitted when none was, and none is still: before the
  handler claims the lost binding for it. -/
  source : s.shareState.sharedTabId = some request.tabId ∨
    request.isRememberedSourceTab = false ∧ s.shareState.sharedTabId = none

/-- A step writes auto-shares where the room still is, and leaves none waiting. -/
structure AutoSharesInPlace (P : Platform) (s t : Worker) (now : Rat) (event : Event) : Prop where
  sent : ∀ new, t.writtenShares = s.writtenShares ++ new →
    ∀ frame ∈ new, frame.share.call.isAutoShare = true →
      ∃ task payload request, event = .readsTab task payload ∧
        s.tasks[task]? = some (.readsTab request) ∧ SentInPlace P (s.atTime now) request frame
  unqueued : ∀ share, t.room.pendingSharedVideo = some share → share.call.isAutoShare = false

/-- When the tab of an auto-share that is to be sent has answered, it is still the source tab, and
no share waits for a socket. -/
def Worker.Unmoved (P : Platform) (s : Worker) (event : Event) : Prop :=
  ∀ task video playback request, event = .readsTab task (some (video, some playback)) →
    s.tasks[task]? = some (.readsTab request) → s.PassesAutoShare P request video →
      s.refusesShare = false →
        (request.isRememberedSourceTab = true → s.shareState.sharedTabId = some request.tabId) ∧
          s.room.pendingSharedVideo = none

def StepUnmoved (P : Platform) (s t : Worker) : Prop :=
  ∃ now event, (s.atTime now).Unmoved P event ∧ s.exec P now event = some t

theorem owned_of_onScheduled {previousSharedUrl : JsString}
    (schedule : s.classifyRoomSchedule P previousSharedUrl = .onScheduled) :
    ∃ state sharedVideo, s.room.roomState = some state ∧ state.sharedVideo = some sharedVideo ∧
      areSharedVideoUrlsEqual P (some sharedVideo.url) (some previousSharedUrl) = true ∧
      s.room.memberId.isSome = true ∧ sharedVideo.sharedByMemberId = s.room.memberId := by
  unfold Worker.classifyRoomSchedule at schedule
  dsimp only at schedule
  split at schedule
  · next owned =>
    simp only [Bool.and_eq_true, decide_eq_true_eq] at owned
    obtain ⟨⟨same, member⟩, sharer⟩ := owned
    cases shared : s.room.roomState.bind RoomState.sharedVideo with
    | none =>
      rw [shared] at same
      cases same
    | some sharedVideo =>
      obtain ⟨state, held, is_shared⟩ := Option.bind_eq_some_iff.mp shared
      rw [shared] at same sharer
      exact ⟨state, sharedVideo, held, is_shared, same, member, sharer⟩
  · split at schedule <;> cases schedule

/-- An auto-share that gets this far is one that can be written at once. -/
theorem canShare_of_passes (roomed : Roomed s) {request : AutoShare} {video : SharedVideo}
    (passes : s.PassesAutoShare P request video) : s.canShare = true := by
  obtain ⟨state, _, held, -⟩ := owned_of_onScheduled passes.schedule
  have in_room := truthy_of_isSome roomed.filled (roomed.roomed state held).2
  have online := passes.online
  unfold Worker.defersAutoShare at online
  unfold Worker.canShare
  simp_all

theorem sentInPlace_of_passes {request : AutoShare} {video : SharedVideo} {playback : PlaybackState}
    {g : Nat} (passes : s.PassesAutoShare P request video)
    (current : s.connection.socket = some g) (can : s.canShare = true)
    (bound : request.isRememberedSourceTab = true → s.shareState.sharedTabId = some request.tabId) :
    SentInPlace P s request {
      socket := g, share := s.shareOf video true, playback := some (s.ownPlayback playback) } where
  writable := ⟨current, Worker.writable_of_canShare can⟩
  fresh := by
    have online := passes.online
    unfold Worker.defersAutoShare at online
    simp_all
  owned := owned_of_onScheduled passes.schedule
  target := passes.target
  playback := rfl
  unblocked := passes.unblocked
  source := by
    cases remembered : request.isRememberedSourceTab with
    | true => exact .inl (bound remembered)
    | false => exact .inr ⟨rfl, passes.source.resolve_left (by simp [remembered])⟩

/-! ## Steps -/

/-- The share that waits is not an auto-share. -/
def QueuesNoAuto (d : Desk) : Prop :=
  ∀ share, d.pendingSharedVideo = some share → share.call.isAutoShare = false

/-- What a step makes of the written shares, where no auto-share waits for a socket. -/
theorem autoShares_deal {event : Event} {e : Desk} (unqueued : QueuesNoAuto s.desk)
    (deal : Deal s event e) (manual : event.sharesAuto ≠ some true) :
    QueuesNoAuto e ∧ ∃ new, e.written = s.desk.written ++ new ∧
      ∀ frame ∈ new, frame.share.call.isAutoShare = false := by
  have nothing : e.written = s.desk.written → ∃ new, e.written = s.desk.written ++ new ∧
      ∀ frame ∈ new, frame.share.call.isAutoShare = false := fun same =>
    ⟨[], by rw [same, List.append_nil], fun _ absent => nomatch absent⟩
  cases deal with
  | keeps => exact ⟨unqueued, nothing rfl⟩
  | clears _ cleared =>
    refine ⟨fun share queued => unqueued share ?_, nothing cleared.written⟩
    exact cleared.queue.symm.trans queued
  | discards _ _ cleared =>
    refine ⟨fun share queued => ?_, nothing cleared.written⟩
    cases cleared.queue.symm.trans queued
  | shares auto asks video playback _ shared =>
    have is_manual : auto = false := by
      cases auto
      · rfl
      · exact absurd asks manual
    subst is_manual
    cases shared with
    | refused => exact ⟨unqueued, nothing rfl⟩
    | written g =>
      refine ⟨fun share queued => ?_, [_], rfl, fun frame mem => ?_⟩
      · obtain ⟨_, _, rfl⟩ := Option.map_eq_some_iff.mp queued
        rfl
      · obtain rfl := List.mem_singleton.mp mem
        rfl
    | queued =>
      refine ⟨fun share queued => ?_, nothing rfl⟩
      obtain rfl := Option.some.inj queued
      rfl
  | flushes _ _ share g _ flushed =>
    obtain ⟨queued, -, -, rfl⟩ := flushed
    refine ⟨(fun _ absent => nomatch absent), [_], rfl, fun frame mem => ?_⟩
    obtain rfl := List.mem_singleton.mp mem
    exact unqueued share queued

/-- An auto-share whose tab has answered is written in its place, or is not made. -/
theorem autoShares_readsTab (roomed : Roomed s) (unqueued : QueuesNoAuto s.desk) {task : Nat}
    {payload : Option (SharedVideo × Option PlaybackState)}
    (unmoved : s.Unmoved P (.readsTab task payload))
    (step : s.take P (.readsTab task payload) = some t) :
    QueuesNoAuto t.desk ∧ ∃ new, t.desk.written = s.desk.written ++ new ∧ ∀ frame ∈ new,
      ∃ request, s.tasks[task]? = some (.readsTab request) ∧ SentInPlace P s request frame := by
  have nothing : t.desk.written = s.desk.written → ∃ new, t.desk.written = s.desk.written ++ new ∧
      ∀ frame ∈ new, ∃ request, s.tasks[task]? = some (.readsTab request) ∧
        SentInPlace P s request frame := fun same =>
    ⟨[], by rw [same, List.append_nil], fun _ absent => nomatch absent⟩
  unfold Worker.take at step
  dsimp only at step
  split at step <;> cases step
  next request held =>
    have outcome : (((s.drop task).finishAutoShare P request payload).desk = s.desk) ∨ _ :=
      Worker.finishAutoShare_cases request payload
    rcases outcome with same | ⟨video, playback, rfl, passes, shared⟩
    · rw [same] at nothing ⊢
      exact ⟨unqueued, nothing rfl⟩
    · generalize ((s.drop task).finishAutoShare P request _).desk = e at nothing shared ⊢
      cases shared with
      | refused => exact ⟨unqueued, nothing rfl⟩
      | written g current can accepts =>
        obtain ⟨bound, empty⟩ := unmoved task video playback request rfl held passes accepts
        refine ⟨fun share queued => ?_, [_], rfl, fun frame mem => ?_⟩
        · have none_queued :
              s.room.pendingSharedVideo.map (fun _ => s.shareOf video true) = none := by
            rw [empty]
            rfl
          cases none_queued.symm.trans queued
        · obtain rfl := List.mem_singleton.mp mem
          exact ⟨request, held, sentInPlace_of_passes passes current can bound⟩
      | queued cannot => cases cannot.symm.trans (canShare_of_passes roomed passes)

/-- One step that finds the source tab where it was: what it writes of auto-shares is in place, and
none is left waiting. -/
theorem autoShares_step (roomed : Roomed s) (unqueued : QueuesNoAuto s.desk) {event : Event}
    (unmoved : s.Unmoved P event) (step : s.take P event = some t) :
    QueuesNoAuto t.desk ∧ ∃ new, t.writtenShares = s.writtenShares ++ new ∧
      ∀ frame ∈ new, frame.share.call.isAutoShare = true →
        ∃ task payload request, event = .readsTab task payload ∧
          s.tasks[task]? = some (.readsTab request) ∧ SentInPlace P s request frame := by
  by_cases manual : event.sharesAuto = some true
  · cases event with
    | readsTab task payload =>
      obtain ⟨unqueued, new, written, in_place⟩ :=
        autoShares_readsTab roomed unqueued unmoved step
      refine ⟨unqueued, new, written, fun frame mem _ => ?_⟩
      obtain ⟨request, held, sent⟩ := in_place frame mem
      exact ⟨task, payload, request, rfl, held, sent⟩
    | _ => cases manual
  · obtain ⟨unqueued, new, written, manuals⟩ :=
      autoShares_deal unqueued (Worker.deal_take step) manual
    refine ⟨unqueued, new, written, fun frame mem auto => ?_⟩
    cases (manuals frame mem).symm.trans auto

/-! ## Runs -/

theorem roomed_and_unqueued (run : Relation.ReflTransGen (StepUnmoved P) s t) (roomed : Roomed s)
    (unqueued : QueuesNoAuto s.desk) : Roomed t ∧ QueuesNoAuto t.desk := by
  induction run with
  | refl => exact ⟨roomed, unqueued⟩
  | @tail b c _ last ih =>
    obtain ⟨now, event, unmoved, step⟩ := last
    have taken := take_of_exec step
    have timed : Roomed (b.atTime now) := ih.1.of_room rfl
    exact ⟨timed.take taken, (autoShares_step timed ih.2 unmoved taken).1⟩

theorem unqueued_bootstrap (persisted : PersistedSnapshot) :
    QueuesNoAuto (bootstrapBackground P persisted).desk := by
  intro share queued
  unfold bootstrapBackground at queued
  dsimp only at queued
  split at queued
  · rw [Worker.desk_connect] at queued
    cases queued
  · cases queued

/-- In every run in which the source tab is still bound, and no share waits for a socket, when the
tab of an auto-share has answered, auto-shares are sent in their place only. -/
theorem autoShares_are_sent_in_place {persisted : PersistedSnapshot} {now : Rat} {event : Event}
    (run : Relation.ReflTransGen (StepUnmoved P) (bootstrapBackground P persisted) s)
    (unmoved : (s.atTime now).Unmoved P event) (step : s.exec P now event = some t) :
    AutoSharesInPlace P s t now event := by
  obtain ⟨roomed, unqueued⟩ :=
    roomed_and_unqueued run (roomed_bootstrap persisted) (unqueued_bootstrap persisted)
  have timed : Roomed (s.atTime now) := roomed.of_room rfl
  obtain ⟨still, added, written, in_place⟩ :=
    autoShares_step timed unqueued unmoved (take_of_exec step)
  refine { sent := fun new is_new frame mem auto => ?_, unqueued := still }
  have same : new = added := List.append_cancel_left (is_new.symm.trans written)
  exact in_place frame (same ▸ mem) auto

/-! ## Runs on fixed inputs -/

def nextVideo : SharedVideo where
  url := js "https://www.bilibili.com/video/BV1yy411c7mE"

def otherVideo : SharedVideo where
  url := js "https://www.bilibili.com/video/BV1zz411c7mF"

def nextPlayback : PlaybackState where
  actorId := js "member"
  seq := 1
  serverTime := 0
  playState := .playing
  url := nextVideo.url
  currentTime := 0
  playbackRate := 1

/-- The room is at a video that the member of the restored session shared. -/
def sharedState : RoomState where
  roomCode := "ROOM0A"
  sharedVideo := some { sharedVideo with sharedByMemberId := some (js "member") }

/-- The restored session is back in its room. -/
def returns : List Event :=
  reaches 0 ++ [.opens 1, rejoined 1, .resumes 0, .receives 1 (.state sharedState)]

def asksNext : Event := .autoShares 7 sharedVideo.url nextVideo.url

def answersNext (task : Nat) : Event := .readsTab task (some (nextVideo, some nextPlayback))

def autoShareRequest : AutoShare where
  tabId := 7
  previousSharedUrl := sharedVideo.url
  targetNormalizedUrl := nextVideo.url
  isRememberedSourceTab := false

/-- The request of a tab that is the remembered source tab, or of one that is to claim the lost
binding. -/
def asksFrom (remembered : Bool) : List Event :=
  returns ++ (if remembered then [.binds (some 7)] else []) ++ [asksNext]

def SentFrom (remembered : Bool) : Prop :=
  ∃ s t, replay browser (bootstrapBackground browser restored) (asksFrom remembered) = some s ∧
    s.exec browser s.now (answersNext 0) = some t ∧
    (t.writtenShares.any fun frame => frame.share.call.isAutoShare) = true ∧
    s.shareState.sharedTabId = (if remembered then some 7 else none) ∧
    AutoSharesInPlace browser s t s.now (answersNext 0)

theorem next_video_is_sent_in_place : SentFrom true ∧ SentFrom false := by
  have sent (remembered : Bool) : SentFrom remembered := by
    have ends : (replay browser (bootstrapBackground browser restored) (asksFrom remembered)).any
        (fun s => decide (s.tasks =
            [.readsTab { autoShareRequest with isRememberedSourceTab := remembered }]) &&
          decide (s.shareState.sharedTabId = if remembered then some 7 else none) &&
          s.room.pendingSharedVideo.isNone && (s.exec browser s.now (answersNext 0)).any fun t =>
            t.writtenShares.any fun frame => frame.share.call.isAutoShare) = true := by
      cases remembered <;> decide +kernel
    obtain ⟨s, replayed, holds⟩ := (Option.any_eq_true ..).mp ends
    obtain ⟨found, later⟩ := Bool.and_eq_true_iff.mp holds
    obtain ⟨found, empty⟩ := Bool.and_eq_true_iff.mp found
    obtain ⟨tasks, bound⟩ := Bool.and_eq_true_iff.mp found
    have bound := of_decide_eq_true bound
    obtain ⟨t, step, sent⟩ := (Option.any_eq_true ..).mp later
    have run : Relation.ReflTransGen (StepUnmoved browser)
        (bootstrapBackground browser restored) s := by
      have plain : ∀ event ∈ asksFrom remembered, event.sharesAuto ≠ some true := by
        cases remembered <;> decide
      refine (run_of_replay (fun _ event => event.sharesAuto ≠ some true) replayed
        fun _ event mem => plain event mem).lift id ?_
      rintro a b ⟨now, event, manual, step⟩
      refine ⟨now, event, fun task video playback request same => ?_, step⟩
      subst same
      exact absurd rfl manual
    have unmoved : (s.atTime s.now).Unmoved browser (answersNext 0) := by
      intro task video playback request same held _ _
      cases same
      have is_request :
          request = { autoShareRequest with isRememberedSourceTab := remembered } := by
        have held : s.tasks[0]? = some (.readsTab request) := held
        rw [of_decide_eq_true tasks] at held
        cases held
        rfl
      subst is_request
      refine ⟨fun was : remembered = true => ?_, Option.isNone_iff_eq_none.mp empty⟩
      subst was
      exact bound
    exact ⟨s, t, replayed, step, sent, bound, autoShares_are_sent_in_place run unmoved step⟩
  exact ⟨sent true, sent false⟩

/-- Another tab becomes the source tab while the tab of an auto-share answers: the auto-share is
sent all the same. And an auto-share takes the place of a manual one that still waits for its
connection after its marker has expired. -/
theorem moved_autoShares_are_sent :
    (∃ s t, Run browser (bootstrapBackground browser restored) s ∧
      s.exec browser s.now (answersNext 0) = some t ∧
      ¬ AutoSharesInPlace browser s t s.now (answersNext 0)) ∧
    ∃ s share, Run browser (bootstrapBackground browser restored) s ∧
      s.room.pendingSharedVideo = some share ∧ share.call.isAutoShare = true := by
  constructor
  · have ends : (replay browser (bootstrapBackground browser restored)
        (returns ++ [.binds (some 7), asksNext, .binds (some 8)])).any (fun s =>
          decide (s.tasks = [.readsTab { autoShareRequest with isRememberedSourceTab := true }]) &&
          decide (s.shareState.sharedTabId = some 8) && s.writtenShares.isEmpty &&
          (s.exec browser s.now (answersNext 0)).any fun t =>
            t.writtenShares.any fun frame => frame.share.call.isAutoShare) = true := by
      decide +kernel
    obtain ⟨s, replayed, holds⟩ := (Option.any_eq_true ..).mp ends
    obtain ⟨found, later⟩ := Bool.and_eq_true_iff.mp holds
    obtain ⟨found, unwritten⟩ := Bool.and_eq_true_iff.mp found
    obtain ⟨tasks, bound⟩ := Bool.and_eq_true_iff.mp found
    obtain ⟨t, step, sent⟩ := (Option.any_eq_true ..).mp later
    obtain ⟨frame, mem, auto⟩ := List.any_eq_true.mp sent
    refine ⟨s, t, run_replay replayed, step, fun in_place => ?_⟩
    obtain ⟨task, payload, request, same, held, sent⟩ := in_place.sent t.writtenShares
      (by rw [List.isEmpty_iff.mp unwritten, List.nil_append]) frame mem auto
    cases same
    rw [of_decide_eq_true tasks] at held
    cases held
    rcases sent.source with source | ⟨unclaimed, -⟩
    · have source : s.shareState.sharedTabId = some 7 := source
      cases source.symm.trans (of_decide_eq_true bound)
    · cases unclaimed
  · have ends : ((replay browser (bootstrapBackground browser restored)
        (returns ++ [.breaks 1, .shares otherVideo none (some 7)] ++ reaches 1 ++
          [.opens 2, rejoined 2])).any
        fun s => (s.exec browser 10000 .shareTimer).any fun t => (replay browser t
          [.receives 2 (.state sharedState), asksNext, answersNext 1]).any fun u =>
            u.room.pendingSharedVideo.any fun share => share.call.isAutoShare) = true := by
      decide +kernel
    obtain ⟨s, replayed, later⟩ := (Option.any_eq_true ..).mp ends
    obtain ⟨t, expires, later⟩ := (Option.any_eq_true ..).mp later
    obtain ⟨u, finished, later⟩ := (Option.any_eq_true ..).mp later
    obtain ⟨share, queued, auto⟩ := (Option.any_eq_true ..).mp later
    have run : Run browser (bootstrapBackground browser restored) t :=
      (run_replay replayed).tail ⟨10000, .shareTimer, expires⟩
    exact ⟨u, share, run.trans (run_replay finished), queued, auto⟩

end BiliSyncPlay.Connection
