import BiliSyncPlay.Extension.Player

/-!
# Soft apply

The state of the content script and `soft-apply-controller.ts`. Readings of the monotonic clock are
in milliseconds, and the clock stands still while a stretch of the code runs. Debug logs and toasts
are left out.
-/

namespace BiliSyncPlay.Player

open Json

inductive EventSource where
  | play | pause | waiting | stalled | loadedmetadata | canplay | playing | seeking | seeked
  | ratechange | timeupdate | manual
  deriving DecidableEq

inductive ExplicitUserActionKind where
  | play | pause | seek | ratechange
  deriving DecidableEq

structure ExplicitUserAction where
  kind : ExplicitUserActionKind
  at_ : Rat
  deriving DecidableEq

structure ExplicitPlaybackAction where
  playState : PlayState
  at_ : Rat
  deriving DecidableEq

structure SuppressedRemotePlayback where
  until_ : Rat
  url : JsString
  playState : PlayState
  currentTime : Rat
  playbackRate : Rat
  deriving DecidableEq

structure RecentRemotePlayingIntent where
  until_ : Rat
  url : JsString
  currentTime : Rat
  deriving DecidableEq

inductive ProgrammaticApplyScope where
  | all | ratechange
  deriving DecidableEq

/-- The part of `ContentRuntimeState` that playing together reads. A gesture that never happened
has no time. -/
structure RuntimeState where
  localMemberId : Option JsString := none
  rttMs : Option Rat := none
  activeSharedUrl : Option JsString := none
  activeSharedByMemberId : Option JsString := none
  activeRoomCode : Option JsString := none
  hydrationReady : Bool := false
  hasReceivedInitialRoomState : Bool := false
  pendingRoomStateHydration : Bool := true
  playbackContextGeneration : Nat := 0
  intendedPlayState : PlayState := .paused
  intendedPlaybackRate : Rat := 1
  lastLocalIntentAt : Rat := 0
  lastLocalIntentPlayState : Option PlayState := none
  lastUserGestureAt : Option Rat := none
  lastUserGestureInPlayerAt : Option Rat := none
  lastRateControlGestureAt : Option Rat := none
  lastExplicitPlaybackAction : Option ExplicitPlaybackAction := none
  explicitNonSharedPlaybackUrl : Option JsString := none
  suppressedLocalEndPauseUrl : Option JsString := none
  suppressedLocalEndPauseUntil : Rat := 0
  resolvedSharedVideoUrl : Option JsString := none
  lastForcedPauseAt : Rat := 0
  pauseHoldUntil : Rat := 0
  pendingPlaybackApplication : Option PlaybackState := none
  programmaticApplyUntil : Rat := 0
  programmaticApplyAt : Rat := 0
  programmaticApplyScope : ProgrammaticApplyScope := .all
  programmaticApplySignature : Option ProgrammaticPlaybackSignature := none
  softApplyCooldownUntil : Rat := 0
  softApplyCooldownUrl : Option JsString := none
  remoteFollowPlayingUntil : Rat := 0
  remoteFollowPlayingUrl : Option JsString := none
  suppressedRemotePlayback : Option SuppressedRemotePlayback := none
  recentRemotePlayingIntent : Option RecentRemotePlayingIntent := none
  lastExplicitUserAction : Option ExplicitUserAction := none
  explicitSeekOriginPlayState : Option PlayState := none
  lastNonSharedGuardUrl : Option JsString := none
  postNavigationAnchorSharedUrl : Option JsString := none
  postNavigationAnchorSetAt : Rat := 0
  sharerEndedSuppressionUrl : Option JsString := none
  sharerEndedSuppressionUntil : Rat := 0
  sharerEndedSuppressionArmedAt : Rat := 0
  lastBufferSignalAt : Rat := 0
  lastVideoElementBoundAt : Rat := 0
  pauseStartedAt : Rat := 0
  pauseClassifiedAsBuffer : Bool := false
  deriving DecidableEq

structure Session where
  normalizedUrl : JsString
  targetTime : Rat
  restorePlaybackRate : Rat
  deadlineAt : Rat
  armCooldownOnConverge : Bool
  convergeByRelativeDrift : Bool
  startedAt : Rat
  deriving DecidableEq

/-- What the room last echoed back of this member. -/
structure Confirmed where
  normalizedUrl : Option JsString
  playState : PlayState
  syncIntent : Option SyncIntent
  userInitiated : Bool
  naturalEnd : Bool
  currentTime : Rat
  playbackRate : Rat
  at_ : Rat
  deriving DecidableEq

/-- A broadcast that waits for the page to say which video it shows. -/
structure Flight where
  video : Nat
  eventSource : EventSource
  naturalEnd : Bool
  playbackContextGeneration : Nat
  deriving DecidableEq

/-- What `index.ts` wires in. `normalizeUrl` never answers with an empty text. -/
structure Config where
  normalizeUrl : JsString → Option JsString
  userGestureGraceMs : Rat := 1200
  programmaticApplyWindowMs : Rat := 700
  bufferPauseUpgradeMs : Rat := 1500
  bufferSignalWindowMs : Rat := 300
  videoRebindBufferSignalMs : Rat := 1000
  remoteEchoSuppressionMs : Rat := 700
  remotePlayTransitionGuardMs : Rat := 1800
  remoteFollowPlayingWindowMs : Rat := 3000
  pauseHoldMs : Rat := 1200
  initialRoomStatePauseHoldMs : Rat := 3000
  duplicateBroadcastWindowMs : Rat := 1000

/-- The content script and its page. `applied` holds the rates of the snapshots applied so far,
`sent` and `shared` what was built for the wire. -/
structure Content where
  runtime : RuntimeState := {}
  activeSoftApply : Option Session := none
  roomConfirmedBroadcast : Option Confirmed := none
  videos : Nat → Video
  /-- `document.querySelector("video")` -/
  current : Option Nat := none
  now : Rat := 0
  flights : List Flight := []
  applied : List Rat := []
  sent : List PlaybackState := []
  shared : List PlaybackState := []

namespace Content

def write (c : Content) (video : Nat) (f : Video → Video) : Content :=
  { c with videos := fun other => if other = video then f (c.videos video) else c.videos other }

/-- Something that happened less than `ms` ago. -/
def within (c : Content) (at_ : Option Rat) (ms : Rat) : Bool :=
  at_.any fun time => decide (c.now - time < ms)

section
variable (cfg : Config)

def reportedPlayState (c : Content) (video : Nat) : PlayState :=
  getReportedPlayState (c.videos video) c.runtime.pauseClassifiedAsBuffer c.runtime.pauseStartedAt
    c.now cfg.bufferPauseUpgradeMs

def armProgrammaticApplyWindow (c : Content) (signature : ProgrammaticPlaybackSignature)
    (scope : ProgrammaticApplyScope) : Content :=
  { c with runtime := { c.runtime with
    programmaticApplySignature :=
      some { signature with url := (cfg.normalizeUrl signature.url).getD signature.url }
    programmaticApplyAt := c.now
    programmaticApplyScope := scope
    programmaticApplyUntil := c.now + cfg.programmaticApplyWindowMs } }

/-! ## The cooldown -/

def softApplyCooldownMs : Rat := 2500

def armSoftApplyCooldown (c : Content) (normalizedUrl : JsString) : Content :=
  { c with runtime := { c.runtime with
    softApplyCooldownUrl := some normalizedUrl
    softApplyCooldownUntil := c.now + softApplyCooldownMs } }

def clearSoftApplyCooldown (c : Content) : Content :=
  { c with runtime := { c.runtime with
    softApplyCooldownUntil := 0, softApplyCooldownUrl := none } }

/-! ## Sessions -/

inductive CancelReason where
  | reset | roomEmpty | noCurrentVideo | nonSharedPage | missingPlayback | urlChanged
  | playStateChanged | explicitSeek | rateChanged | targetShifted | apply (mode : Mode)
  | converged | driftClosed | timeout | pause | seek | userRatechange | bufferInterrupt
  deriving DecidableEq

/-- The rate goes back to the one of the room, both the live and the default one. A user who takes
the rate has it. -/
def restoreRate (c : Content) (session : Session) (video : Option Nat) (reason : CancelReason) :
    Content :=
  match video with
  | none => c
  | some id =>
    if reason ≠ .userRatechange ∧
        (differs (c.videos id).playbackRate session.restorePlaybackRate ∨
          differs (c.videos id).defaultPlaybackRate session.restorePlaybackRate) then
      let restored := c.write id (setVideoPlaybackRate · session.restorePlaybackRate)
      restored.armProgrammaticApplyWindow cfg
        { url := session.normalizedUrl
          playState := restored.reportedPlayState cfg id
          currentTime := (restored.videos id).currentTime
          playbackRate := session.restorePlaybackRate } .ratechange
    else c

def settleCooldown (c : Content) (session : Session) (reason : CancelReason) : Content :=
  if session.armCooldownOnConverge ∧
      (reason = .converged ∨ reason = .apply .hardSeek ∨ reason = .driftClosed) then
    c.armSoftApplyCooldown session.normalizedUrl
  else if c.runtime.softApplyCooldownUrl = some session.normalizedUrl then
    c.clearSoftApplyCooldown
  else c

def cancelActiveSoftApply (c : Content) (video : Option Nat) (reason : CancelReason) : Content :=
  match c.activeSoftApply with
  | none => c
  | some session =>
    let ended := { c with activeSoftApply := none }
    (ended.restoreRate cfg session video reason).settleCooldown session reason

def softApplyRecoveryThresholdSeconds : Rat := 2 / 10
def softApplyMinTimeoutMs : Rat := 2000
def softApplyMaxTimeoutMs : Rat := 4500
def softApplyTimeoutPerSecondMs : Rat := 900
def rateOnlyMinRestoreMs : Rat := 600
def rateOnlyMaxRestoreMs : Rat := 8000

/-- `Math.round` -/
def round (x : Rat) : Rat := (x + 1 / 2).floor

def computeSoftApplyTimeoutMs (c : Content) (remainingDriftSeconds : Rat) : Rat :=
  let networkAllowanceMs := match c.runtime.rttMs with
    | none => 0
    | some rtt => round (rtt * (5 / 2))
  min softApplyMaxTimeoutMs (max softApplyMinTimeoutMs (round (softApplyMinTimeoutMs +
    networkAllowanceMs + max 0 (remainingDriftSeconds - softApplyRecoveryThresholdSeconds) *
      softApplyTimeoutPerSecondMs)))

structure RelativeDriftClose where
  driftSeconds : Rat
  rateOffsetSeconds : Rat

def computeRelativeDriftCloseMs (input : RelativeDriftClose) : Rat :=
  let offset := max (1 / 100) |input.rateOffsetSeconds|
  let closeMs := |input.driftSeconds| / offset * 1000
  min rateOnlyMaxRestoreMs (max rateOnlyMinRestoreMs (round closeMs))

def upsertActiveSoftApply (c : Content) (playback : PlaybackState) (remainingDriftSeconds : Rat)
    (armCooldownOnConverge : Bool) (relativeDriftClose : Option RelativeDriftClose) : Content :=
  match cfg.normalizeUrl playback.url with
  | none => { c with activeSoftApply := none }
  | some normalizedUrl =>
    let timeoutMs := match relativeDriftClose with
      | some input => computeRelativeDriftCloseMs input
      | none => c.computeSoftApplyTimeoutMs remainingDriftSeconds
    let same := c.activeSoftApply.filter fun session => decide (session.normalizedUrl = normalizedUrl)
    { c with activeSoftApply := some {
        normalizedUrl
        targetTime := playback.currentTime
        restorePlaybackRate := (same.map Session.restorePlaybackRate).getD playback.playbackRate
        deadlineAt := c.now + timeoutMs
        armCooldownOnConverge := same.any Session.armCooldownOnConverge || armCooldownOnConverge
        convergeByRelativeDrift := relativeDriftClose.isSome
        startedAt := c.now } }

def softApplyTargetShiftCancelThresholdSeconds : Rat := 6 / 10

def shouldCancelActiveSoftApplyForPlayback (c : Content) (playback : PlaybackState) :
    Option CancelReason :=
  match c.activeSoftApply with
  | none => none
  | some session =>
    if cfg.normalizeUrl playback.url ≠ some session.normalizedUrl then some .urlChanged
    else if playback.playState ≠ .playing ∧ playback.playState ≠ .buffering then
      some .playStateChanged
    else if shouldTreatAsExplicitSeek playback.syncIntent playback.playState then
      some .explicitSeek
    else if differs playback.playbackRate session.restorePlaybackRate then some .rateChanged
    else if playback.playState = .buffering then none
    else
      let elapsedSeconds := max 0 ((c.now - session.startedAt) / 1000)
      let expectedTargetTime := session.targetTime + elapsedSeconds * session.restorePlaybackRate
      if softApplyTargetShiftCancelThresholdSeconds < |playback.currentTime - expectedTargetTime|
      then some .targetShifted else none

/-- A session that has come to its deadline. The timer and the upkeep settle it alike. -/
def settle (c : Content) (video : Option Nat) (session : Session) : Content :=
  c.cancelActiveSoftApply cfg video
    (if session.convergeByRelativeDrift then .driftClosed else .timeout)

def maintainActiveSoftApply (c : Content) (video : Nat) : Content :=
  match c.activeSoftApply with
  | none => c
  | some session =>
    if session.deadlineAt ≤ c.now then c.settle cfg (some video) session
    else if session.convergeByRelativeDrift then c
    else if |(c.videos video).currentTime - session.targetTime| ≤
        softApplyRecoveryThresholdSeconds then
      c.cancelActiveSoftApply cfg (some video) .converged
    else c

/-- The timer of the session, at its deadline. -/
def softApplyTimeout (c : Content) : Content :=
  match c.activeSoftApply with
  | none => c
  | some session => if session.deadlineAt ≤ c.now then c.settle cfg c.current session else c

end

/-! ## What a session answers -/

def matchesActiveSession (c : Content) (normalizedUrl : Option JsString) : Bool :=
  match c.activeSoftApply, normalizedUrl with
  | some session, some url =>
    decide (url = session.normalizedUrl) ||
      (decide (some url = c.runtime.resolvedSharedVideoUrl) &&
        decide (some session.normalizedUrl = c.runtime.activeSharedUrl))
  | _, _ => false

def getActiveCorrectionBaseRate (c : Content) (normalizedUrl : Option JsString) : Option Rat :=
  if c.matchesActiveSession normalizedUrl then c.activeSoftApply.map Session.restorePlaybackRate
  else none

def hasActiveCorrectionSession (c : Content) (normalizedUrl : Option JsString) : Bool :=
  (c.getActiveCorrectionBaseRate normalizedUrl).isSome

def isActiveRateOnlyCatchUp (c : Content) (normalizedUrl : Option JsString) : Bool :=
  (c.activeSoftApply.any fun session =>
    session.convergeByRelativeDrift && !session.armCooldownOnConverge) &&
    c.matchesActiveSession normalizedUrl

def shouldSuppressActiveSoftApplyBroadcast (cfg : Config) (c : Content)
    (normalizedCurrentUrl : Option JsString) : Bool :=
  (c.activeSoftApply.any fun session => decide (c.now < session.deadlineAt)) &&
    c.matchesActiveSession normalizedCurrentUrl &&
    !c.within (c.runtime.lastExplicitUserAction.map ExplicitUserAction.at_) cfg.userGestureGraceMs

def shouldSuppressByCooldown (cfg : Config) (c : Content) (video : Video)
    (playback : PlaybackState) : Bool :=
  decide (c.now < c.runtime.softApplyCooldownUntil) &&
    c.runtime.softApplyCooldownUrl.any (fun url =>
      decide (cfg.normalizeUrl playback.url = some url)) &&
    !video.paused && decide (playback.playState = .playing) && playback.syncIntent.isNone &&
    (let decision := decidePlaybackReconcileMode video.currentTime playback.currentTime
      playback.playState (shouldTreatAsExplicitSeek playback.syncIntent playback.playState)
      playback.playbackRate false
    decide (decision.mode = .rateOnly ∨ decision.mode = .softApply))

end Content

end BiliSyncPlay.Player
