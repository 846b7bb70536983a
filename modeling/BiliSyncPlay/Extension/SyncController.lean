import BiliSyncPlay.Extension.SyncGuards

/-!
# The sync controller

`sync-controller.ts` and the share of `share-controller.ts`: applying a snapshot of the room to the
element, and telling the room about an event of the element. A broadcast that asks the page which
video it shows waits as a flight for the answer. A queued pause, which only pauses, is left to the
environment.
-/

namespace BiliSyncPlay.Player

open Json

namespace Content

section
variable (cfg : Config)

/-! ## Applying a snapshot -/

def rememberRemoteFollowPlayingWindow (c : Content) (playback : PlaybackState) : Content :=
  if playback.playState ≠ .playing then c.clearRemoteFollowPlayingWindow
  else { c with runtime := { c.runtime with
    remoteFollowPlayingUntil := c.now + cfg.remoteFollowPlayingWindowMs
    remoteFollowPlayingUrl := cfg.normalizeUrl playback.url } }

/-- A rate that is off the one of the room, which a session has to take back. -/
def isSelfRestoringRateAdjust (adjustment : AppliedPlaybackAdjustment) : Bool :=
  decide (adjustment.mode = .softApply) || (decide (adjustment.mode = .rateOnly) &&
    differs adjustment.playbackRate adjustment.restorePlaybackRate)

def isBufferingApply (adjustment : AppliedPlaybackAdjustment) : Bool :=
  decide (adjustment.reason = .bufferingNotAuthoritative)

/-- The cooldown survives an apply that catches up or wrote nothing for a stalled sender. -/
def reviewCooldown (c : Content) (adjustment : AppliedPlaybackAdjustment) : Content :=
  if !isSelfRestoringRateAdjust adjustment &&
      !(isBufferingApply adjustment && !adjustment.didChange) then c.clearSoftApplyCooldown
  else c

def onPlaybackAdjusted (c : Content) (adjustment : AppliedPlaybackAdjustment)
    (playback : PlaybackState) : Content :=
  let c := c.reviewCooldown adjustment
  if isBufferingApply adjustment then c
  else if isSelfRestoringRateAdjust adjustment then
    let driftSeconds := |adjustment.targetTime - adjustment.currentTime|
    let isSoftApply := decide (adjustment.mode = .softApply)
    c.upsertActiveSoftApply cfg playback driftSeconds isSoftApply
      (if isSoftApply then none
        else some ⟨driftSeconds, adjustment.playbackRate - adjustment.restorePlaybackRate⟩)
  else c.cancelActiveSoftApply cfg c.current (.apply adjustment.mode)

def needsPlayStateChange (video : Video) (playback : PlaybackState) : Bool :=
  (decide (playback.playState = .playing) && video.paused) ||
    (decide (playback.playState = .paused) && !video.paused)

/-- What `play()` and `pause()` of an apply leave. -/
def followPlayState (video : Video) (playState : PlayState) (playAllowed : Bool) : Video :=
  match playState with
  | .playing => video.play playAllowed
  | .buffering => video
  | .paused => video.pause

def synced (c : Content) (video : Nat) (playback : PlaybackState) :
    Video × AppliedPlaybackAdjustment :=
  let url := cfg.normalizeUrl playback.url
  syncPlaybackPosition (c.videos video) playback.currentTime playback.playState
    playback.syncIntent playback.playbackRate (c.isActiveRateOnlyCatchUp url)
    (c.hasActiveCorrectionSession url)

def writeSynced (c : Content) (video : Nat) (playback : PlaybackState) : Content :=
  { c.write video fun _ => (c.synced cfg video playback).1 with
    runtime := { c.runtime with pendingPlaybackApplication := none }
    applied := playback.playbackRate :: c.applied }

/-- The window is armed when the apply changed something. -/
def markProgrammaticApply (c : Content) (adjustment : AppliedPlaybackAdjustment)
    (playback : PlaybackState) (needsPlayStateChange : Bool) : Content :=
  if adjustment.didChange || needsPlayStateChange then
    c.armProgrammaticApplyWindow cfg
      { createProgrammaticPlaybackSignature playback with
        currentTime := adjustment.currentTime, playbackRate := adjustment.playbackRate } .all
  else c

def applyPlayback (c : Content) (video : Nat) (playback : PlaybackState) (playAllowed : Bool) :
    Content :=
  let adjustment := (c.synced cfg video playback).2
  (((c.writeSynced cfg video playback).onPlaybackAdjusted cfg adjustment
    playback).markProgrammaticApply cfg adjustment playback
      (needsPlayStateChange (c.videos video) playback)).write video
    fun element => followPlayState element playback.playState playAllowed

def applyPendingPlaybackApplication (c : Content) (video : Nat) (playAllowed : Bool) : Content :=
  match c.runtime.pendingPlaybackApplication with
  | none => c
  | some playback =>
    if canApplyPlaybackImmediately (c.videos video) then
      c.applyPlayback cfg video playback playAllowed
    else c

/-- `invalidatePlaybackContext` and the end of everything that belonged to the shared video. The
page shows the video `currentUrl`. -/
def resetPlaybackSyncState (c : Content) (currentUrl : Option JsString) : Content :=
  let c := { c with runtime := { c.runtime with
    playbackContextGeneration := c.runtime.playbackContextGeneration + 1 } }
  let c := c.cancelActiveSoftApply cfg c.current .reset
  let keeps := currentUrl.isSome && decide (currentUrl = c.runtime.explicitNonSharedPlaybackUrl)
  { c with
    roomConfirmedBroadcast := none
    runtime := { c.runtime with
      remoteFollowPlayingUntil := 0
      remoteFollowPlayingUrl := none
      suppressedRemotePlayback := none
      recentRemotePlayingIntent := none
      pendingPlaybackApplication := none
      programmaticApplyUntil := 0
      programmaticApplyAt := 0
      programmaticApplyScope := .all
      programmaticApplySignature := none
      softApplyCooldownUntil := 0
      softApplyCooldownUrl := none
      intendedPlaybackRate := 1
      lastNonSharedGuardUrl := none
      lastExplicitPlaybackAction := none
      explicitNonSharedPlaybackUrl :=
        if keeps then c.runtime.explicitNonSharedPlaybackUrl else none
      suppressedLocalEndPauseUrl := none
      suppressedLocalEndPauseUntil := 0
      postNavigationAnchorSharedUrl := none
      postNavigationAnchorSetAt := 0
      sharerEndedSuppressionUrl := none
      sharerEndedSuppressionUntil := 0
      sharerEndedSuppressionArmedAt := 0 } }

/-! ## Telling the room -/

end

/-- What one of the guards of a broadcast decides. -/
inductive Passage where
  | held (c : Content)
  | passed (c : Content)

namespace Passage

def content : Passage → Content
  | held c => c
  | passed c => c

def andThen : Passage → (Content → Passage) → Passage
  | held c, _ => .held c
  | passed c, next => next c

def holdIf (answer : Bool × Content) : Passage :=
  if answer.1 then .held answer.2 else .passed answer.2

@[simp] theorem content_holdIf (answer : Bool × Content) : (holdIf answer).content = answer.2 := by
  unfold holdIf
  split <;> rfl

theorem andThen_passed {passage : Passage} {next : Content → Passage} {d : Content}
    (passed : passage.andThen next = .passed d) :
    ∃ c, passage = .passed c ∧ next c = .passed d := by
  cases passage with
  | held c => exact nomatch passed
  | passed c => exact ⟨c, rfl, passed⟩

/-- What every guard keeps, their sequence keeps. -/
theorem andThen_keeps {P : Content → Prop} {passage : Passage} {next : Content → Passage}
    (first : P passage.content) (second : ∀ c, P c → P (next c).content) :
    P (passage.andThen next).content := by
  cases passage with
  | held c => exact first
  | passed c => exact second c first

end Passage

/-- What a broadcast knows once the page has answered. -/
structure Report where
  video : Nat
  eventSource : EventSource
  naturalEnd : Bool
  url : JsString
  /-- The caller had confirmed which video it is. -/
  confirmed : Bool

section
variable (cfg : Config)

def Report.normalizedUrl (report : Report) : Option JsString := cfg.normalizeUrl report.url

/-- The end of the sharer's own video is not told while the next one is on its way. -/
def sharerEndedGate (c : Content) (report : Report) : Passage :=
  match c.runtime.sharerEndedSuppressionUrl with
  | none => .passed c
  | some endedUrl =>
    let expired := decide (c.runtime.sharerEndedSuppressionUntil ≤ c.now)
    let movedOn := decide (report.normalizedUrl cfg ≠ some endedUrl)
    let userReplayed := c.within c.runtime.lastUserGestureAt cfg.userGestureGraceMs &&
      c.runtime.lastUserGestureAt.any fun time =>
        decide (c.runtime.sharerEndedSuppressionArmedAt < time)
    let ownershipLost := c.runtime.localMemberId.isNone ||
      decide (c.runtime.activeSharedByMemberId ≠ c.runtime.localMemberId)
    if !expired && !movedOn && !userReplayed && !ownershipLost then .held c
    else .passed { c with runtime := { c.runtime with
      sharerEndedSuppressionUrl := none
      sharerEndedSuppressionUntil := 0
      sharerEndedSuppressionArmedAt := 0 } }

def anchorAge (c : Content) : Rat :=
  if 0 < c.runtime.postNavigationAnchorSetAt then c.now - c.runtime.postNavigationAnchorSetAt
  else 0

/-- After a navigation the page may still name the video it left. -/
def postNavigationGate (c : Content) (report : Report) : Passage :=
  match c.runtime.postNavigationAnchorSharedUrl with
  | none => .passed c
  | some anchor =>
    if report.confirmed then .passed c
    else if c.anchorAge < cfg.initialRoomStatePauseHoldMs ∧ ((report.normalizedUrl cfg).isNone ∨
        report.normalizedUrl cfg = some anchor) then .held c
    else .passed { c with runtime := { c.runtime with
      postNavigationAnchorSharedUrl := none, postNavigationAnchorSetAt := 0 } }

/-- The room plays another video than the page. -/
def onNonSharedPage (c : Content) (normalizedUrl : Option JsString) : Bool :=
  c.runtime.activeRoomCode.isSome && c.runtime.activeSharedUrl.isSome &&
    decide (normalizedUrl ≠ c.runtime.activeSharedUrl)

def nonSharedGate (c : Content) (report : Report) : Passage :=
  let url := report.normalizedUrl cfg
  if c.onNonSharedPage url then
    .held (if url ≠ c.runtime.lastNonSharedGuardUrl ∧ url.isSome then
      { c with runtime := { c.runtime with
        lastNonSharedGuardUrl := url, lastExplicitPlaybackAction := none } }
    else c)
  else .passed { c with runtime := { c.runtime with lastNonSharedGuardUrl := none } }

/-- The pause of a held natural end. -/
def localEndPauseGate (c : Content) (report : Report) (playState : PlayState) : Passage :=
  let explicitAfterForcedPause :=
    c.within (c.activeExplicitAction.map ExplicitUserAction.at_) cfg.userGestureGraceMs
  if report.eventSource = .pause ∧ playState = .paused ∧
      c.runtime.suppressedLocalEndPauseUrl.isSome ∧
      c.now < c.runtime.suppressedLocalEndPauseUntil ∧
      report.normalizedUrl cfg = c.runtime.suppressedLocalEndPauseUrl ∧
      ¬explicitAfterForcedPause then .held c
  else if c.runtime.suppressedLocalEndPauseUrl.isSome ∧
      c.runtime.suppressedLocalEndPauseUntil ≤ c.now then
    .passed { c with runtime := { c.runtime with
      suppressedLocalEndPauseUrl := none, suppressedLocalEndPauseUntil := 0 } }
  else .passed c

def programmaticGate (c : Content) (report : Report) (playState : PlayState) : Passage :=
  .holdIf (c.shouldSuppressProgrammaticEvent cfg (report.normalizedUrl cfg) playState
    (c.videos report.video) report.eventSource)

/-- A real stall ends a catch-up by the rate alone, and is told. -/
def softApplyGate (c : Content) (report : Report) (playState : PlayState) : Passage :=
  let url := report.normalizedUrl cfg
  let c :=
    if playState ≠ .playing ∧ c.isActiveRateOnlyCatchUp url then
      (c.cancelActiveSoftApply cfg (some report.video) .bufferInterrupt).clearRemoteFollowPlayingWindow
    else c
  .holdIf (c.shouldSuppressActiveSoftApplyBroadcast cfg url, c)

def broadcastPlaybackRate (c : Content) (report : Report) : Rat :=
  (c.getActiveCorrectionBaseRate (report.normalizedUrl cfg)).getD
    (c.videos report.video).playbackRate

def unexpectedRateGate (c : Content) (report : Report) : Passage :=
  .holdIf (c.shouldSuppressUnexpectedPlaybackRateBroadcast cfg
    (c.broadcastPlaybackRate cfg report) report.eventSource, c)

def remoteFollowGate (c : Content) (report : Report) (playState : PlayState) : Passage :=
  .holdIf (c.shouldSuppressRemoteFollowupBroadcast cfg (report.normalizedUrl cfg) playState
    report.eventSource)

def remoteStopGate (c : Content) (report : Report) (playState : PlayState) : Passage :=
  if playState = .playing ∧ c.hasRecentRemoteStopIntent (report.normalizedUrl cfg) ∧
      ¬(c.hasRecent cfg .play ∨ c.hasRecent cfg .seek) ∧
      ¬c.within c.runtime.lastUserGestureAt cfg.userGestureGraceMs then
    .held { c with runtime := { c.runtime with intendedPlayState := .paused } }
  else .passed c

def localEchoGate (c : Content) (report : Report) (playState : PlayState) : Passage :=
  .holdIf (c.shouldSuppressLocalEcho (report.normalizedUrl cfg) playState
    (c.videos report.video))

def playTransitionGate (c : Content) (report : Report) (playState : PlayState) : Passage :=
  .holdIf (c.shouldSuppressRemotePlayTransition cfg (report.normalizedUrl cfg) playState
    (c.videos report.video).currentTime)

def duplicateBroadcastTimeEpsilonSeconds : Rat := 5 / 100

/-- The room holds this very state already. -/
def isDuplicate (c : Content) (report : Report) (playState : PlayState) : Bool :=
  let rate := c.broadcastPlaybackRate cfg report
  c.roomConfirmedBroadcast.any fun duplicate =>
    decide (c.now - duplicate.at_ < cfg.duplicateBroadcastWindowMs) &&
    decide (duplicate.normalizedUrl = report.normalizedUrl cfg) &&
    decide (duplicate.playState = playState) &&
    decide (duplicate.syncIntent = c.derivePlaybackSyncIntent cfg report.eventSource) &&
    decide (duplicate.userInitiated =
      c.deriveUserInitiatedPause cfg report.eventSource playState) &&
    decide (duplicate.naturalEnd = report.naturalEnd) &&
    decide (|duplicate.currentTime - (c.videos report.video).currentTime| ≤
      duplicateBroadcastTimeEpsilonSeconds) &&
    !differs duplicate.playbackRate rate &&
    decide (c.runtime.intendedPlayState = playState) &&
    !differs c.runtime.intendedPlaybackRate rate

def duplicateGate (c : Content) (report : Report) (playState : PlayState) : Passage :=
  if c.isDuplicate cfg report playState then
    .held { c with runtime := { c.runtime with
      lastLocalIntentAt := c.now, lastLocalIntentPlayState := some playState } }
  else .passed c

/-- The text a member without an id is told by. -/
def localActor : JsString := (ascii "local").units

def sendPlaybackUpdate (c : Content) (report : Report) (playState : PlayState) : Content :=
  let rate := c.broadcastPlaybackRate cfg report
  { c with
    runtime := { c.runtime with
      intendedPlayState := playState
      intendedPlaybackRate := rate
      lastLocalIntentAt := c.now
      lastLocalIntentPlayState := some playState }
    sent := {
      url := report.url
      currentTime := (c.videos report.video).currentTime
      playState
      syncIntent := c.derivePlaybackSyncIntent cfg report.eventSource
      playbackRate := rate
      userInitiated := c.deriveUserInitiatedPause cfg report.eventSource playState
      naturalEnd := report.naturalEnd
      actorId := c.runtime.localMemberId.getD localActor } :: c.sent }

/-- Whether the room is told of this video at all. -/
def pageGates (c : Content) (report : Report) : Passage :=
  ((c.sharerEndedGate cfg report).andThen (·.postNavigationGate cfg report)).andThen
    (·.nonSharedGate cfg report)

/-- Whether the event is one of our own. -/
def ownGates (c : Content) (report : Report) (playState : PlayState) : Passage :=
  (c.localEndPauseGate cfg report playState).andThen (·.programmaticGate cfg report playState)

/-- Whether the event follows what the room does, or tells it nothing new. -/
def remoteGates (c : Content) (report : Report) (playState : PlayState) : Passage :=
  ((((((c.softApplyGate cfg report playState).andThen (·.unexpectedRateGate cfg report)).andThen
    (·.remoteFollowGate cfg report playState)).andThen
    (·.remoteStopGate cfg report playState)).andThen
    (·.localEchoGate cfg report playState)).andThen
    (·.playTransitionGate cfg report playState)).andThen
    (·.duplicateGate cfg report playState)

/-- `broadcastPlaybackWithIdentity`, once the page has answered. -/
def broadcastPlaybackWithIdentity (c : Content) (report : Report) : Content :=
  match c.pageGates cfg report with
  | .held c => c
  | .passed c =>
    let playState := c.getBroadcastPlayState cfg report.video report.eventSource
    match (c.ownGates cfg report playState).andThen (·.remoteGates cfg report playState) with
    | .held c => c
    | .passed c => c.sendPlaybackUpdate cfg report playState

/-- Before the initial state of the room is known only the user is told. -/
def mayBroadcast (c : Content) : Bool :=
  c.runtime.hydrationReady && (!c.runtime.pendingRoomStateHydration ||
    c.within c.runtime.lastUserGestureAt cfg.userGestureGraceMs)

def broadcastPlayback (c : Content) (video : Nat) (eventSource : EventSource)
    (naturalEnd : Bool) : Content :=
  if c.mayBroadcast cfg then
    { c with flights := c.flights ++
      [⟨video, eventSource, naturalEnd, c.runtime.playbackContextGeneration⟩] }
  else c

/-- The page answers which video it shows. -/
def resumeBroadcast (c : Content) (flight : Flight) (currentUrl : Option JsString) : Content :=
  if flight.playbackContextGeneration = c.runtime.playbackContextGeneration ∧
      c.current = some flight.video then
    match currentUrl with
    | none => c
    | some url => c.broadcastPlaybackWithIdentity cfg
        ⟨flight.video, flight.eventSource, flight.naturalEnd, url, false⟩
  else c

/-- The caller brings the video. -/
def broadcastConfirmedPlayback (c : Content) (video : Nat) (url : JsString)
    (eventSource : EventSource) (naturalEnd : Bool) : Content :=
  if c.mayBroadcast cfg ∧ c.current = some video then
    c.broadcastPlaybackWithIdentity cfg ⟨video, eventSource, naturalEnd, url, true⟩
  else c

/-! ## Sharing the video -/

/-- `createSharePayload` of `share-controller.ts`; without an element the share says nothing of the
playback. -/
def createSharePayload (c : Content) (sharedUrl : JsString) : Option PlaybackState :=
  c.current.map fun video =>
    { url := sharedUrl
      currentTime := (c.videos video).currentTime
      playState := c.reportedPlayState cfg video
      playbackRate := (c.getActiveCorrectionBaseRate (cfg.normalizeUrl sharedUrl)).getD
        (c.videos video).playbackRate
      actorId := c.runtime.localMemberId.getD localActor }

def share (c : Content) (sharedUrl : JsString) : Content :=
  { c with shared := (c.createSharePayload cfg sharedUrl).toList ++ c.shared }

end

end Content

end BiliSyncPlay.Player
