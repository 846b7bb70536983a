import BiliSyncPlay.Extension.SyncController

/-!
# Events of the content script

The handlers of `playback-binding-controller.ts` and `room-state-apply-controller.ts` as far as they
reach the rate of the element and the guards of a broadcast, with the tracking of gestures, rooms and
navigations. What the other controllers decide is an input. A pause that was queued, a repeated
broadcast and the answer of the page come whenever the environment lets them.
-/

namespace BiliSyncPlay.Player

open Json

/-- What the page and the resume and natural-end controllers say while a handler runs. -/
structure Page where
  /-- The address of `getSharedVideo()`. -/
  url : Option JsString
  /-- The video is known not to be the one of the room. -/
  knownNonShared : Bool := false
  /-- A resumed playback is held back, and with it the explicit actions may be dropped, the pause
  intended and a video the room does not share held. -/
  blocksResume : Bool := false
  forgetsActions : Bool := false
  intendsPause : Bool := false
  holdsNonShared : Bool := false
  /-- What the guards of a resumed playback make of the last action, the authorization and the video
  they last looked at. -/
  forgetsPlaybackAction : Bool := false
  explicitNonSharedPlaybackUrl : Option (Option JsString) := none
  lastNonSharedGuardUrl : Option (Option JsString) := none
  /-- `video.ended` -/
  ended : Bool := false
  /-- The pause is the one of `forcePauseVideo`, on this element. -/
  ownsPause : Bool := false
  /-- The natural end is dealt with: the sharer keeps quiet, or another member is held. -/
  endsQuietly : Bool := false
  endsHeld : Bool := false
  /-- The last broadcast is more than two seconds old. -/
  heartbeatDue : Bool := false
  playAllowed : Bool := true

inductive DomEvent where
  | play | pause | waiting | stalled | loadedmetadata | canplay | playing | seeking | seeked
  | ratechange | timeupdate | ended
  deriving DecidableEq

structure SharedVideo where
  url : JsString
  sharedByMemberId : Option JsString
  deriving DecidableEq

structure RoomState where
  sharedVideo : Option SharedVideo
  playback : Option PlaybackState
  deriving DecidableEq

/-- What else decides over a room state. -/
structure RoomReading where
  page : Page
  /-- The intent of the user, an override of the user or the version of the snapshot turns it
  away. -/
  ignored : Bool

/-- What the navigation controller makes of a navigation. -/
structure Navigation where
  /-- The page shows no supported video. -/
  leavesVideos : Bool := false
  explicitNonSharedPlaybackUrl : Option JsString
  resolvedSharedVideoUrl : Option JsString
  anchors : Bool
  intendedPlayState : PlayState
  pauseHoldUntil : Rat
  awaitsRoomState : Bool

namespace Content

section
variable (cfg : Config)

def normalizedUrl (url : Option JsString) : Option JsString := url.bind cfg.normalizeUrl

def activatePauseHold (c : Content) (durationMs : Rat) : Content :=
  { c with runtime := { c.runtime with pauseHoldUntil := c.now + durationMs } }

def forcePauseVideo (c : Content) (video : Nat) : Content :=
  { c.write video Video.pause with runtime := { c.runtime with
    lastForcedPauseAt := c.now, pauseStartedAt := c.now, pauseClassifiedAsBuffer := false } }

/-! ## Gestures -/

def hasRecentUserGesture (c : Content) : Bool :=
  c.within c.runtime.lastUserGestureAt cfg.userGestureGraceMs

/-- The user took the rate: a gesture in the player, or a key for the speed. -/
def takesRate (c : Content) : Bool :=
  c.within c.runtime.lastUserGestureInPlayerAt cfg.userGestureGraceMs ||
    c.within c.runtime.lastRateControlGestureAt cfg.userGestureGraceMs

def isProgrammaticEventEcho (c : Content) (kind : ExplicitUserActionKind) : Bool :=
  if c.runtime.programmaticApplyScope = .ratechange ∧ kind ≠ .ratechange then false
  else decide (c.now < c.runtime.programmaticApplyUntil) &&
    c.runtime.lastUserGestureInPlayerAt.all fun time =>
      decide (time < c.runtime.programmaticApplyAt)

/-- A gesture of the last moments that no forced pause has undone. -/
def hasStandingGesture (c : Content) : Bool :=
  c.hasRecentUserGesture cfg && c.runtime.lastUserGestureAt.any fun time =>
    decide (c.runtime.lastForcedPauseAt < time)

def rememberExplicitPlaybackAction (c : Content) (playState : PlayState) : Content :=
  if c.isProgrammaticEventEcho (if playState = .playing then .play else .pause) then c
  else if c.hasStandingGesture cfg then
    { c with runtime := { c.runtime with lastExplicitPlaybackAction := some ⟨playState, c.now⟩ } }
  else c

/-- The playback after a seek of the same gesture is not an action of its own. -/
def followsSeek (c : Content) : Bool :=
  c.hasRecent cfg .seek && c.runtime.lastExplicitUserAction.any fun action =>
    c.runtime.lastUserGestureAt.all fun time => decide (time ≤ action.at_)

def continuesInFlightSeek (c : Content) : Bool :=
  c.activeExplicitAction.any fun action =>
    decide (action.kind = .seek) && decide (c.now - action.at_ < cfg.userGestureGraceMs)

def rememberExplicitUserAction (c : Content) (kind : ExplicitUserActionKind) : Content :=
  if c.isProgrammaticEventEcho kind then c
  else if c.hasStandingGesture cfg then
    if kind = .play ∧ c.followsSeek cfg then c
    else { c with runtime := { c.runtime with
      lastExplicitUserAction := some ⟨kind, c.now⟩
      explicitSeekOriginPlayState :=
        if kind = .seek then
          if c.continuesInFlightSeek cfg then c.runtime.explicitSeekOriginPlayState
          else some c.runtime.intendedPlayState
        else none } }
  else c

/-! ## Pauses -/

def isInsideProgrammaticPausedWindow (c : Content) (page : Page) : Bool :=
  c.runtime.programmaticApplySignature.any fun signature =>
    decide (c.runtime.programmaticApplyScope = .all) && decide (signature.playState = .paused) &&
      decide (c.now < c.runtime.programmaticApplyUntil) &&
      decide (normalizedUrl cfg page.url = some signature.url)

def clearActivePauseClassification (c : Content) : Content :=
  { c with runtime := { c.runtime with pauseStartedAt := 0, pauseClassifiedAsBuffer := false } }

def clearActivePauseIfPlaying (c : Content) (video : Nat) : Content :=
  if (c.videos video).paused then c else c.clearActivePauseClassification

def classifyUnobservedPauseAsBuffer (c : Content) (video : Nat) (page : Page) : Content :=
  if ¬(c.videos video).paused then c.clearActivePauseClassification
  else if 0 < c.runtime.pauseStartedAt ∨ c.runtime.intendedPlayState ≠ .playing ∨
      c.hasRecentUserGesture cfg ∨ c.isInsideProgrammaticPausedWindow cfg page then c
  else { c with runtime := { c.runtime with
    pauseStartedAt := c.now, pauseClassifiedAsBuffer := true } }

def scheduleBroadcast (c : Content) (video : Nat) (page : Page) (eventSource : EventSource) :
    Content :=
  (c.classifyUnobservedPauseAsBuffer cfg video page).broadcastPlayback cfg video eventSource false

/-! ## Handlers -/

/-- A user who seeks or pauses ends the session. -/
def cancelForGesture (c : Content) (video : Nat) (reason : CancelReason) : Content :=
  if c.hasRecentUserGesture cfg then c.cancelActiveSoftApply cfg (some video) reason else c

/-- The user pressed play on a video that the room does not share. -/
def shouldPreRecordNonSharedExplicitPlay (c : Content) (page : Page) : Bool :=
  c.within c.runtime.lastUserGestureInPlayerAt cfg.userGestureGraceMs &&
    c.runtime.lastUserGestureInPlayerAt.any (fun time =>
      decide (c.runtime.lastForcedPauseAt < time)) && page.knownNonShared && !c.followsSeek cfg

def preAuthorizeExplicitNonSharedPlay (c : Content) (page : Page) : Content :=
  match normalizedUrl cfg page.url with
  | none => c
  | some url =>
    if page.knownNonShared then
      let remembered := c.rememberExplicitPlaybackAction cfg .playing
      { remembered with runtime := { remembered.runtime with
        explicitNonSharedPlaybackUrl := some url, pauseHoldUntil := 0 } }
    else c

def preRecord (c : Content) (page : Page) : Content :=
  if c.shouldPreRecordNonSharedExplicitPlay cfg page then
    c.preAuthorizeExplicitNonSharedPlay cfg page
  else c

/-- The pause itself is queued. -/
def enforceNonSharedLoadPause (c : Content) (video : Nat) (page : Page) : Content :=
  let url := normalizedUrl cfg page.url
  if (c.videos video).paused ∨ c.runtime.activeRoomCode = none ∨ c.runtime.activeSharedUrl = none ∨
      ¬page.knownNonShared ∨ url = none ∨ c.runtime.explicitNonSharedPlaybackUrl = url then c
  else if c.shouldPreRecordNonSharedExplicitPlay cfg page then
    c.preAuthorizeExplicitNonSharedPlay cfg page
  else
    { c with runtime := { c.runtime with
      intendedPlayState := .paused } }.activatePauseHold cfg.initialRoomStatePauseHoldMs

def guardUnexpectedResume (c : Content) (video : Nat) (page : Page) : Content :=
  let guarded := { c with runtime := { c.runtime with
    lastExplicitUserAction :=
      if page.forgetsActions then none else c.runtime.lastExplicitUserAction
    explicitSeekOriginPlayState :=
      if page.forgetsActions then none else c.runtime.explicitSeekOriginPlayState
    lastExplicitPlaybackAction :=
      if page.forgetsActions ∨ page.forgetsPlaybackAction then none
      else c.runtime.lastExplicitPlaybackAction
    intendedPlayState := if page.intendsPause then .paused else c.runtime.intendedPlayState
    explicitNonSharedPlaybackUrl :=
      page.explicitNonSharedPlaybackUrl.getD c.runtime.explicitNonSharedPlaybackUrl
    lastNonSharedGuardUrl :=
      page.lastNonSharedGuardUrl.getD c.runtime.lastNonSharedGuardUrl } }
  if page.holdsNonShared then guarded.enforceNonSharedLoadPause cfg video page else guarded

def onResume (c : Content) (video : Nat) (page : Page) (eventSource : EventSource) : Content :=
  let guarded := (c.preRecord cfg page).guardUnexpectedResume cfg video page
  if page.blocksResume then guarded
  else
    ((guarded.clearActivePauseClassification.rememberExplicitPlaybackAction cfg
      .playing).rememberExplicitUserAction cfg .play).scheduleBroadcast cfg video page eventSource

/-- The sharer keeps the end of the video quiet; another member is held at it. -/
def handleSharedVideoNaturalEnd (c : Content) (video : Nat) (page : Page) : Content :=
  if page.endsHeld then
    let held := { c with runtime := { c.runtime with
      intendedPlayState := .paused
      suppressedLocalEndPauseUrl := c.runtime.activeSharedUrl
      suppressedLocalEndPauseUntil := c.now + cfg.initialRoomStatePauseHoldMs } }
    (held.activatePauseHold cfg.initialRoomStatePauseHoldMs).forcePauseVideo video
  else { c with runtime := { c.runtime with
    sharerEndedSuppressionUrl := c.runtime.activeSharedUrl
    sharerEndedSuppressionUntil := c.now + cfg.initialRoomStatePauseHoldMs
    sharerEndedSuppressionArmedAt := c.now } }

def onPause (c : Content) (video : Nat) (page : Page) : Content :=
  if page.endsQuietly then c.handleSharedVideoNaturalEnd cfg video page
  else
    let c := c.cancelForGesture cfg video .pause
    let recentBufferSignal := decide (0 < c.runtime.lastBufferSignalAt) &&
      decide (c.now - c.runtime.lastBufferSignalAt < cfg.bufferSignalWindowMs)
    let recentVideoRebind := decide (0 < c.runtime.lastVideoElementBoundAt) &&
      decide (c.now - c.runtime.lastVideoElementBoundAt < cfg.videoRebindBufferSignalMs)
    let bufferInduced := !c.isInsideProgrammaticPausedWindow cfg page &&
      (recentBufferSignal || recentVideoRebind) && !page.ownsPause && !c.hasStandingGesture cfg
    let c := { c with runtime := { c.runtime with
      pauseStartedAt := if page.ownsPause then c.runtime.pauseStartedAt else c.now
      pauseClassifiedAsBuffer := bufferInduced
      explicitNonSharedPlaybackUrl :=
        if ¬page.ended ∧ normalizedUrl cfg page.url = c.runtime.explicitNonSharedPlaybackUrl then
          none
        else c.runtime.explicitNonSharedPlaybackUrl } }
    ((c.rememberExplicitPlaybackAction cfg .paused).rememberExplicitUserAction cfg
      .pause).scheduleBroadcast cfg video page .pause

def onBufferSignal (c : Content) (video : Nat) (page : Page) (eventSource : EventSource) :
    Content :=
  { c with runtime := { c.runtime with lastBufferSignalAt := c.now } }.scheduleBroadcast cfg video
    page eventSource

/-- Autoplay is held until the state of the room is known. -/
def forcePauseWhileWaitingForInitialRoomState (c : Content) (video : Nat) (page : Page) : Bool :=
  !page.knownNonShared && c.runtime.activeRoomCode.isSome &&
    c.runtime.pendingRoomStateHydration && !(c.videos video).paused

def onReady (c : Content) (video : Nat) (page : Page) : Content :=
  if c.forcePauseWhileWaitingForInitialRoomState video page then
    { c with runtime := { c.runtime with intendedPlayState := .paused } }
  else c.applyPendingPlaybackApplication cfg video page.playAllowed

def onSeeking (c : Content) (video : Nat) (page : Page) : Content :=
  ((c.cancelForGesture cfg video .seek).rememberExplicitUserAction cfg .seek).scheduleBroadcast cfg
    video page .seeking

def onSeeked (c : Content) (video : Nat) (page : Page) : Content :=
  let c := c.cancelForGesture cfg video .seek
  let renewed :=
    if c.activeExplicitAction.any fun action => decide (action.kind = .seek) then
      c.rememberExplicitUserAction cfg .seek
    else c
  renewed.scheduleBroadcast cfg video page .seeked

def shouldTreatRateChangeAsProgrammatic (c : Content) (video : Nat) (page : Page) : Bool :=
  c.runtime.programmaticApplySignature.any fun signature =>
    decide (c.now < c.runtime.programmaticApplyUntil) &&
      decide (normalizedUrl cfg page.url = some signature.url) &&
      !differs (c.videos video).playbackRate signature.playbackRate

def onRateChange (c : Content) (video : Nat) (page : Page) : Content :=
  let taken :=
    if c.shouldTreatRateChangeAsProgrammatic cfg video page then c
    else
      let remembered := c.rememberExplicitUserAction cfg .ratechange
      if remembered.takesRate cfg then
        remembered.cancelActiveSoftApply cfg (some video) .userRatechange
      else remembered
  taken.scheduleBroadcast cfg video page .ratechange

def onTimeUpdate (c : Content) (video : Nat) (page : Page) : Content :=
  let kept := (c.clearActivePauseIfPlaying video).maintainActiveSoftApply cfg video
  if page.heartbeatDue ∧ ¬(kept.videos video).paused then
    kept.broadcastPlayback cfg video .timeupdate false
  else kept

def onDomEvent (c : Content) (video : Nat) (page : Page) : DomEvent → Content
  | .play => c.onResume cfg video page .play
  | .playing => c.onResume cfg video page .playing
  | .pause => c.onPause cfg video page
  | .waiting => c.onBufferSignal cfg video page .waiting
  | .stalled => c.onBufferSignal cfg video page .stalled
  | .loadedmetadata => c.onReady cfg video page
  | .canplay => (c.onReady cfg video page).scheduleBroadcast cfg video page .canplay
  | .seeking => c.onSeeking cfg video page
  | .seeked => c.onSeeked cfg video page
  | .ratechange => c.onRateChange cfg video page
  | .timeupdate => c.onTimeUpdate cfg video page
  | .ended => if page.endsQuietly then c.handleSharedVideoNaturalEnd cfg video page else c

/-- The window of a pause that was taken for a stall closes. -/
def upgradeBufferPause (c : Content) (video : Nat) : Content :=
  if (c.videos video).paused ∧ c.runtime.pauseClassifiedAsBuffer ∧
      c.runtime.pauseStartedAt + cfg.bufferPauseUpgradeMs ≤ c.now then
    { c with runtime := { c.runtime with
      pauseClassifiedAsBuffer := false } }.broadcastPlayback cfg video .pause false
  else c

/-! ## Rooms -/

def invalidatePlayerSession (c : Content) : Content :=
  { c with runtime := { c.runtime with
    lastBufferSignalAt := 0, pauseStartedAt := 0, pauseClassifiedAsBuffer := false } }

def setRoomMembership (c : Content) (roomCode memberId : Option JsString) : Content :=
  let moved := { c with runtime := { c.runtime with
    activeRoomCode := roomCode, localMemberId := memberId } }
  if c.runtime.activeRoomCode = roomCode then moved else moved.invalidatePlayerSession

def switchActiveSharedUrlWithReset (c : Content) (page : Page)
    (normalizedSharedUrl sharedByMemberId : Option JsString) : Content :=
  let owned := { c with runtime := { c.runtime with
    activeSharedByMemberId := sharedByMemberId
    resolvedSharedVideoUrl :=
      if sharedByMemberId = c.runtime.activeSharedByMemberId then c.runtime.resolvedSharedVideoUrl
      else none } }
  if c.runtime.activeSharedUrl = normalizedSharedUrl then owned
  else
    let switched := { owned with runtime := { owned.runtime with
      activeSharedUrl := normalizedSharedUrl, resolvedSharedVideoUrl := none } }
    let reset := switched.resetPlaybackSyncState cfg (normalizedUrl cfg page.url)
    { reset with runtime := { reset.runtime with
      intendedPlayState := .paused, intendedPlaybackRate := 1 } }

def forcePauseIfPlaying (c : Content) : Content :=
  match c.current with
  | some video => if (c.videos video).paused then c else c.forcePauseVideo video
  | none => c

/-- The snapshot pauses, and the page may be the one of the room. -/
def shouldPreserveInitialPauseProtection (page : Page) (normalizedSharedUrl : Option JsString)
    (playback : PlaybackState) : Bool :=
  decide (playback.playState ≠ .playing) && normalizedSharedUrl.isSome &&
    decide (cfg.normalizeUrl playback.url = normalizedSharedUrl) &&
    ((normalizedUrl cfg page.url).isNone ||
      decide (normalizedUrl cfg page.url = normalizedSharedUrl))

/-- The intended playback becomes the one of the room, and stays paused for the start. -/
def intend (c : Content) (playback : PlaybackState) : Content :=
  { c with runtime := { c.runtime with
    intendedPlayState := playback.playState, intendedPlaybackRate := playback.playbackRate } }

def acceptInitialRoomStateHydration (c : Content) : Content :=
  { c with runtime := { c.runtime with
    pendingRoomStateHydration := false, hasReceivedInitialRoomState := true } }

def acceptInitialRoomStateHydrationIfPending (c : Content) : Content :=
  if c.runtime.pendingRoomStateHydration then c.acceptInitialRoomStateHydration else c

def applyEmptyRoom (c : Content) : Content :=
  let cancelled := c.cancelActiveSoftApply cfg c.current .roomEmpty
  let emptied := { cancelled with runtime := { cancelled.runtime with
    activeSharedUrl := none
    activeSharedByMemberId := none
    resolvedSharedVideoUrl := none
    suppressedLocalEndPauseUrl := none
    suppressedLocalEndPauseUntil := 0
    remoteFollowPlayingUntil := 0
    remoteFollowPlayingUrl := none } }
  if emptied.runtime.pendingRoomStateHydration then
    let held :=
      if emptied.runtime.intendedPlayState = .playing then emptied
      else
        let paused := { emptied with runtime := { emptied.runtime with
          intendedPlayState := .paused } }.activatePauseHold cfg.initialRoomStatePauseHoldMs
        if paused.hasRecentUserGesture cfg then paused else paused.forcePauseIfPlaying
    held.acceptInitialRoomStateHydration
  else emptied

def applyWithoutCurrentVideo (c : Content) (page : Page) (shared : SharedVideo)
    (playback : PlaybackState) : Content :=
  let url := cfg.normalizeUrl shared.url
  let switched := (c.cancelActiveSoftApply cfg c.current .noCurrentVideo).switchActiveSharedUrlWithReset
    cfg page url shared.sharedByMemberId
  if switched.runtime.pendingRoomStateHydration ∧
      shouldPreserveInitialPauseProtection cfg page url playback then
    ((switched.intend playback).activatePauseHold
      cfg.initialRoomStatePauseHoldMs).forcePauseIfPlaying
  else switched

def applyOnNonSharedPage (c : Content) (reading : RoomReading) (playback : PlaybackState) :
    Content :=
  let cancelled := c.cancelActiveSoftApply cfg c.current .nonSharedPage
  let held :=
    if cancelled.runtime.pendingRoomStateHydration ∧ playback.playState ≠ .playing ∧
        ¬reading.page.knownNonShared then
      ({ cancelled with runtime := { cancelled.runtime with
        intendedPlayState := playback.playState } }.activatePauseHold
          cfg.initialRoomStatePauseHoldMs).forcePauseIfPlaying
    else cancelled
  held.acceptInitialRoomStateHydrationIfPending

def shouldApplySelfPlayback (video : Video) (playback : PlaybackState) : Bool :=
  (decide (playback.playState ≠ .playing) && !video.paused) ||
    (decide (playback.playState = .playing) && video.paused) ||
    decide (6 / 10 < |video.currentTime - playback.currentTime|) ||
    differs video.playbackRate playback.playbackRate

def shouldIgnoreRemotePlaybackApply (video : Video) (playback : PlaybackState)
    (isSelfPlayback : Bool) : Bool :=
  !isSelfPlayback && decide (playback.playState = .playing) && !video.paused &&
    !differs video.playbackRate playback.playbackRate &&
    decide ((decidePlaybackReconcileMode video.currentTime playback.currentTime playback.playState
      (shouldTreatAsExplicitSeek playback.syncIntent playback.playState) 1 false).mode = .ignore)

/-- The snapshot reaches the element, now or once its metadata is there. -/
def applyToVideo (c : Content) (video : Nat) (page : Page) (playback : PlaybackState)
    (isSelfPlayback : Bool) : Content :=
  let remembered := c.rememberRemotePlaybackForSuppression cfg playback
  let followed :=
    if playback.playState ≠ .playing then
      remembered.clearRemoteFollowPlayingWindow.activatePauseHold
        (if c.runtime.pendingRoomStateHydration ∨ ¬c.runtime.hasReceivedInitialRoomState then
          cfg.initialRoomStatePauseHoldMs else cfg.pauseHoldMs)
    else if isSelfPlayback then remembered
    else remembered.rememberRemoteFollowPlayingWindow cfg playback
  let intended := followed.intend playback
  let pending := { intended with runtime := { intended.runtime with
    pendingPlaybackApplication := some playback } }
  (if canApplyPlaybackImmediately (pending.videos video) then
    pending.applyPendingPlaybackApplication cfg video page.playAllowed
  else pending.armProgrammaticApplyWindow cfg (createProgrammaticPlaybackSignature playback)
    .all).acceptInitialRoomStateHydration

/-- A session that no longer corrects to what the room plays ends. -/
def cancelOutdated (c : Content) (video : Nat) (playback : PlaybackState) : Content :=
  match c.shouldCancelActiveSoftApplyForPlayback cfg playback with
  | some reason => c.cancelActiveSoftApply cfg (some video) reason
  | none => c

def applyPlaybackOfRoom (c : Content) (video : Nat) (reading : RoomReading)
    (playback : PlaybackState) : Content :=
  let isSelfPlayback := decide (c.runtime.localMemberId = some playback.actorId)
  let c := c.cancelOutdated cfg video playback
  if isSelfPlayback ∧ ¬shouldApplySelfPlayback (c.videos video) playback then c
  else if shouldIgnoreRemotePlaybackApply (c.videos video) playback isSelfPlayback then
    (c.acceptInitialRoomStateHydrationIfPending.rememberRemoteFollowPlayingWindow cfg
      playback).intend playback
  else if c.shouldSuppressByCooldown cfg (c.videos video) playback then
    c.acceptInitialRoomStateHydrationIfPending.intend playback
  else c.applyToVideo cfg video reading.page playback isSelfPlayback

/-- The room plays another video than the one the navigation left. -/
def liftAnchor (c : Content) (url : Option JsString) : Content :=
  if c.runtime.postNavigationAnchorSharedUrl = url then c
  else { c with runtime := { c.runtime with
    postNavigationAnchorSharedUrl := none, postNavigationAnchorSetAt := 0 } }

/-- `applyRoomState`, past the deferral of a pause. -/
def applyRoomState (c : Content) (reading : RoomReading) (state : RoomState) : Content :=
  let url := state.sharedVideo.bind fun shared => cfg.normalizeUrl shared.url
  let c := c.liftAnchor url
  match state.sharedVideo, state.playback with
  | some shared, some playback =>
    match reading.page.url with
    | none => c.applyWithoutCurrentVideo cfg reading.page shared playback
    | some _ =>
      let c := c.switchActiveSharedUrlWithReset cfg reading.page url shared.sharedByMemberId
      if url.isNone ∨ normalizedUrl cfg reading.page.url ≠ url ∨
          cfg.normalizeUrl playback.url ≠ url then c.applyOnNonSharedPage cfg reading playback
      else
        match c.current with
        | none => c
        | some video =>
          if reading.ignored then c.acceptInitialRoomStateHydrationIfPending
          else c.applyPlaybackOfRoom cfg video reading playback
  | _, _ => c.applyEmptyRoom cfg

/-- The room echoes what this member told it. -/
def recordRoomConfirmedBroadcast (c : Content) (state : RoomState) : Content :=
  match state.playback with
  | none => c
  | some playback =>
    if c.runtime.localMemberId = some playback.actorId then
      let confirmed : Confirmed :=
        { normalizedUrl := cfg.normalizeUrl playback.url
          playState := playback.playState
          syncIntent := playback.syncIntent
          userInitiated := playback.userInitiated
          naturalEnd := playback.naturalEnd
          currentTime := playback.currentTime
          playbackRate := playback.playbackRate
          at_ := c.now }
      { c with roomConfirmedBroadcast := some confirmed }
    else c

/-- A tab that has just come to a paused room starts paused. -/
def preserveInitialPause (c : Content) (reading : RoomReading) (state : RoomState) : Content :=
  match state.sharedVideo, state.playback with
  | some shared, some playback =>
    let url := cfg.normalizeUrl shared.url
    if shouldPreserveInitialPauseProtection cfg reading.page url playback then
      let switched := c.switchActiveSharedUrlWithReset cfg reading.page url
        shared.sharedByMemberId
      let held := (switched.intend playback).activatePauseHold cfg.initialRoomStatePauseHoldMs
      if held.hasRecentUserGesture cfg then held else held.forcePauseIfPlaying
    else c
  | _, _ => c

/-- One hydration whose answer holds a room state. -/
def hydrateRoomState (c : Content) (reading : RoomReading) (roomCode memberId : Option JsString)
    (state : RoomState) : Content :=
  let joined := c.setRoomMembership (roomCode.or c.runtime.activeRoomCode) memberId
  let preserved := joined.preserveInitialPause cfg reading state
  let applied := preserved.applyRoomState cfg reading state
  { applied with runtime := { applied.runtime with hydrationReady := true } }

/-- One hydration whose answer holds no room state, or that has no answer. -/
def hydrateWithoutState (c : Content) : Option (Option JsString × Option JsString) → Content
  | none => { c with runtime := { c.runtime with hydrationReady := true } }
  | some (roomCode, memberId) =>
    let joined := c.setRoomMembership (roomCode.or c.runtime.activeRoomCode) memberId
    { joined with runtime := { joined.runtime with
      pendingRoomStateHydration := joined.runtime.pendingRoomStateHydration && roomCode.isSome
      hydrationReady := joined.runtime.hydrationReady || memberId.isNone } }

def clearRoomScopedSharedVideoState (c : Content) : Content :=
  { c with runtime := { c.runtime with
    activeSharedUrl := none
    activeSharedByMemberId := none
    resolvedSharedVideoUrl := none
    explicitNonSharedPlaybackUrl := none
    suppressedLocalEndPauseUrl := none
    suppressedLocalEndPauseUntil := 0
    lastNonSharedGuardUrl := none
    postNavigationAnchorSharedUrl := none
    postNavigationAnchorSetAt := 0 } }

/-- `handleSyncStatus` of `room-state-controller.ts`. -/
def handleSyncStatus (c : Content) (page : Page) (roomCode memberId : Option JsString)
    (rttMs : Option Rat) : Content :=
  let previous := c.runtime.activeRoomCode
  let joined := c.setRoomMembership roomCode memberId
  let measured := { joined with runtime := { joined.runtime with rttMs } }
  let left := if previous.isSome ∧ previous ≠ roomCode then
    measured.resetPlaybackSyncState cfg (normalizedUrl cfg page.url) else measured
  if roomCode.isNone then
    let cleared := left.clearRoomScopedSharedVideoState
    { cleared with runtime := { cleared.runtime with
      pendingRoomStateHydration := false
      hasReceivedInitialRoomState := false
      hydrationReady := false } }
  else
    let changed := if previous.isSome ∧ previous ≠ roomCode then
      let cleared := left.clearRoomScopedSharedVideoState
      { cleared with runtime := { cleared.runtime with hasReceivedInitialRoomState := false } }
      else left
    if changed.runtime.hasReceivedInitialRoomState then changed
    else { changed with runtime := { changed.runtime with
      pendingRoomStateHydration := true, hydrationReady := false } }

/-! ## Navigations -/

def navigate (c : Content) (navigation : Navigation) : Content :=
  if c.runtime.activeRoomCode = none ∨ navigation.leavesVideos then
    { c with runtime := { c.runtime with
      pendingPlaybackApplication := none
      explicitNonSharedPlaybackUrl := none
      resolvedSharedVideoUrl := none } }
  else
    { c with runtime := { c.runtime with
      pendingPlaybackApplication := none
      explicitNonSharedPlaybackUrl := navigation.explicitNonSharedPlaybackUrl
      resolvedSharedVideoUrl := navigation.resolvedSharedVideoUrl
      postNavigationAnchorSharedUrl :=
        if navigation.anchors then c.runtime.activeSharedUrl else none
      postNavigationAnchorSetAt := if navigation.anchors then c.now else 0
      playbackContextGeneration := c.runtime.playbackContextGeneration + 1
      lastUserGestureAt := none
      lastUserGestureInPlayerAt := none
      lastRateControlGestureAt := none
      lastExplicitPlaybackAction := none
      lastExplicitUserAction := none
      explicitSeekOriginPlayState := none
      lastNonSharedGuardUrl := none
      lastForcedPauseAt := 0
      suppressedLocalEndPauseUrl := none
      suppressedLocalEndPauseUntil := 0
      intendedPlayState := navigation.intendedPlayState
      pauseHoldUntil := navigation.pauseHoldUntil
      hasReceivedInitialRoomState :=
        c.runtime.hasReceivedInitialRoomState && !navigation.awaitsRoomState
      pendingRoomStateHydration :=
        c.runtime.pendingRoomStateHydration || navigation.awaitsRoomState } }.invalidatePlayerSession

end

/-! ## Runs -/

inductive Event where
  /-- The clock goes on. -/
  | elapse (ms : Rat)
  /-- The page shows another element, or none. -/
  | shows (video : Option Nat)
  /-- The element goes on by itself, or by the hand of the user. -/
  | moves (video : Nat) (currentTime : Rat) (paused : Bool) (readyState : Nat)
    (hasDuration : Bool)
  | loads (video : Nat)
  /-- Listeners are attached to a new element. -/
  | binds (page : Page)
  /-- The timer that attaches them looks for a video the room does not share. -/
  | checks (page : Page)
  | gesture (inPlayer rateControl : Bool)
  | dom (event : DomEvent) (page : Page)
  /-- A broadcast that was put off comes due. -/
  | rebroadcasts (eventSource : EventSource) (naturalEnd : Bool)
  /-- The page answers the broadcast at the index. -/
  | answers (index : Nat) (currentUrl : Option JsString)
  | confirms (url : JsString) (eventSource : EventSource) (naturalEnd : Bool)
  | bufferPauseUpgrade
  | softApplyTimeout
  /-- A pause that was queued lands. -/
  | forcesPause
  | roomState (reading : RoomReading) (state : RoomState)
  | hydrates (reading : RoomReading) (roomCode memberId : Option JsString) (state : RoomState)
  | hydratesWithoutState (answer : Option (Option JsString × Option JsString))
  | syncStatus (page : Page) (roomCode memberId : Option JsString) (rttMs : Option Rat)
  | navigates (navigation : Navigation)
  /-- The address of a bare route resolves. -/
  | resolvesShared (url : Option JsString)
  | shares (url : JsString)

section
variable (cfg : Config)

def gesture (c : Content) (inPlayer rateControl : Bool) : Content :=
  { c with runtime := { c.runtime with
    lastUserGestureAt := some c.now
    lastUserGestureInPlayerAt :=
      if inPlayer then some c.now else c.runtime.lastUserGestureInPlayerAt
    lastRateControlGestureAt :=
      if rateControl then some c.now else c.runtime.lastRateControlGestureAt } }

/-- Run `f` on the element of the page. -/
def onCurrent (c : Content) (f : Nat → Content) : Content :=
  match c.current with
  | none => c
  | some video => f video

def step (c : Content) : Event → Content
  | .elapse ms => { c with now := c.now + max 0 ms }
  | .shows video => { c with current := video }
  | .moves video currentTime paused readyState hasDuration =>
    c.write video fun element => { element with currentTime, paused, readyState, hasDuration }
  | .loads video => c.write video Video.load
  | .binds page =>
    let bound := c.onCurrent fun video =>
      if (c.videos video).paused ∧ ¬(0 < c.runtime.pauseStartedAt ∧ ¬page.ownsPause) then c
      else c.clearActivePauseClassification
    { bound with runtime := { bound.runtime with lastVideoElementBoundAt := c.now } }
  | .checks page => c.onCurrent fun video => c.enforceNonSharedLoadPause cfg video page
  | .gesture inPlayer rateControl => c.gesture inPlayer rateControl
  | .dom event page => c.onCurrent fun video => c.onDomEvent cfg video page event
  | .rebroadcasts eventSource naturalEnd =>
    c.onCurrent fun video => c.broadcastPlayback cfg video eventSource naturalEnd
  | .answers index currentUrl =>
    match c.flights[index]? with
    | none => c
    | some flight =>
      { c with flights := c.flights.eraseIdx index }.resumeBroadcast cfg flight currentUrl
  | .confirms url eventSource naturalEnd =>
    c.onCurrent fun video => c.broadcastConfirmedPlayback cfg video url eventSource naturalEnd
  | .bufferPauseUpgrade => c.onCurrent fun video => c.upgradeBufferPause cfg video
  | .softApplyTimeout => c.softApplyTimeout cfg
  | .forcesPause => c.onCurrent c.forcePauseVideo
  | .roomState reading state =>
    (c.recordRoomConfirmedBroadcast cfg state).applyRoomState cfg reading state
  | .hydrates reading roomCode memberId state =>
    c.hydrateRoomState cfg reading roomCode memberId state
  | .hydratesWithoutState answer => c.hydrateWithoutState answer
  | .syncStatus page roomCode memberId rttMs =>
    c.handleSyncStatus cfg page roomCode memberId rttMs
  | .navigates navigation => c.navigate navigation
  | .resolvesShared url => { c with runtime := { c.runtime with resolvedSharedVideoUrl := url } }
  | .shares url => c.share cfg url

end

end Content

end BiliSyncPlay.Player
