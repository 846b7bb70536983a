import BiliSyncPlay.Json.Strings
import Mathlib.Algebra.Order.Field.Rat
import Mathlib.Tactic.Linarith

/-!
# The player of the page

`playback-reconcile.ts` and the part of `player-binding.ts` that writes to the video element. Times
of the media are in seconds. What `play()` answers is an input.
-/

namespace BiliSyncPlay.Player

open Json

inductive PlayState where
  | playing | paused | buffering
  deriving DecidableEq

inductive SyncIntent where
  | explicitSeek | explicitRatechange
  deriving DecidableEq

structure PlaybackState where
  url : JsString
  currentTime : Rat
  playState : PlayState
  syncIntent : Option SyncIntent := none
  playbackRate : Rat
  userInitiated : Bool := false
  naturalEnd : Bool := false
  actorId : JsString
  deriving DecidableEq

/-! ## How far to go to meet the room -/

inductive Mode where
  | ignore | rateOnly | softApply | hardSeek
  deriving DecidableEq

inductive Reason where
  | withinThreshold | pausedOrBuffering | bufferingNotAuthoritative | playingRateAdjust
  | playingSoftDrift | playingHardDrift | explicitSeek
  deriving DecidableEq

structure Decision where
  mode : Mode
  delta : Rat
  reason : Reason
  deriving DecidableEq

def pausedHardSeekThreshold : Rat := 15 / 100
def playingIgnoreThreshold : Rat := 45 / 100
def playingCatchUpIgnoreThreshold : Rat := 5 / 100
def playingRateOnlyThreshold : Rat := 9 / 10
def playingSoftApplyThreshold : Rat := 12 / 10

structure Thresholds where
  ignore : Rat
  rateOnly : Rat
  softApply : Rat

def getAdaptivePlayingThresholds (playbackRate : Rat) (hasActiveCatchUp : Bool) : Thresholds :=
  let extraRate := max 1 playbackRate - 1
  let baseIgnore :=
    if hasActiveCatchUp then playingCatchUpIgnoreThreshold else playingIgnoreThreshold
  { ignore := baseIgnore * (1 + extraRate * (35 / 100))
    rateOnly := playingRateOnlyThreshold * (1 + extraRate * (7 / 10))
    softApply := playingSoftApplyThreshold * (1 + extraRate * (55 / 100)) }

def shouldTreatAsExplicitSeek (syncIntent : Option SyncIntent) (playState : PlayState) : Bool :=
  decide (playState = .playing) && decide (syncIntent = some .explicitSeek)

def decidePlaybackReconcileMode (localCurrentTime targetTime : Rat) (playState : PlayState)
    (isExplicitSeek : Bool) (playbackRate : Rat) (hasActiveCatchUp : Bool) : Decision :=
  let delta := |targetTime - localCurrentTime|
  if playState = .buffering ∧ targetTime < localCurrentTime then
    ⟨.ignore, delta, .bufferingNotAuthoritative⟩
  else if playState ≠ .playing then
    if pausedHardSeekThreshold < delta then ⟨.hardSeek, delta, .pausedOrBuffering⟩
    else ⟨.ignore, delta, .withinThreshold⟩
  else if isExplicitSeek then ⟨.hardSeek, delta, .explicitSeek⟩
  else
    let thresholds := getAdaptivePlayingThresholds playbackRate hasActiveCatchUp
    if delta ≤ thresholds.ignore then ⟨.ignore, delta, .withinThreshold⟩
    else if delta ≤ thresholds.rateOnly then ⟨.rateOnly, delta, .playingRateAdjust⟩
    else if delta ≤ thresholds.softApply then ⟨.softApply, delta, .playingSoftDrift⟩
    else ⟨.hardSeek, delta, .playingHardDrift⟩

/-- Only a snapshot that does not play is ever ignored because its sender is stalled. -/
theorem bufferingNotAuthoritative_mode (localTime target : Rat) (playState : PlayState)
    (seek : Bool) (rate : Rat) (catchUp : Bool)
    (stalled : (decidePlaybackReconcileMode localTime target playState seek rate catchUp).reason
      = .bufferingNotAuthoritative) :
    (decidePlaybackReconcileMode localTime target playState seek rate catchUp).mode = .ignore := by
  revert stalled
  unfold decidePlaybackReconcileMode
  dsimp only
  split
  · exact fun _ => rfl
  · repeat' split
    all_goals exact fun stalled => nomatch stalled

/-! ## The element -/

structure Video where
  currentTime : Rat
  playbackRate : Rat
  defaultPlaybackRate : Rat
  paused : Bool
  readyState : Nat
  /-- `Number.isFinite(video.duration)` -/
  hasDuration : Bool
  deriving DecidableEq

def Video.seek (video : Video) (time : Rat) : Video := { video with currentTime := time }

def Video.pause (video : Video) : Video := { video with paused := true }

/-- The autoplay policy of the browser may refuse. -/
def Video.play (video : Video) (allowed : Bool) : Video :=
  if allowed then { video with paused := false } else video

/-- Loading a source takes the rate back to the default one. -/
def Video.load (video : Video) : Video := { video with playbackRate := video.defaultPlaybackRate }

def setVideoPlaybackRate (video : Video) (playbackRate : Rat) : Video :=
  { video with defaultPlaybackRate := playbackRate, playbackRate := playbackRate }

def Video.rates (video : Video) : Rat × Rat := (video.playbackRate, video.defaultPlaybackRate)

def getPlayState (video : Video) : PlayState :=
  if ¬video.paused ∧ video.readyState < 3 then .buffering
  else if video.paused then .paused
  else .playing

def isInsideBufferPauseWindow (pauseClassifiedAsBuffer : Bool) (pauseStartedAt now : Rat)
    (bufferPauseUpgradeMs : Rat) : Bool :=
  pauseClassifiedAsBuffer && decide (0 < pauseStartedAt) &&
    decide (now - pauseStartedAt < bufferPauseUpgradeMs)

def getReportedPlayState (video : Video) (pauseClassifiedAsBuffer : Bool)
    (pauseStartedAt now bufferPauseUpgradeMs : Rat) : PlayState :=
  let playState := getPlayState video
  if playState ≠ .paused then playState
  else if isInsideBufferPauseWindow pauseClassifiedAsBuffer pauseStartedAt now
      bufferPauseUpgradeMs then .buffering
  else .paused

def canApplyPlaybackImmediately (video : Video) : Bool :=
  video.hasDuration && decide (1 ≤ video.readyState)

structure ProgrammaticPlaybackSignature where
  url : JsString
  playState : PlayState
  currentTime : Rat
  playbackRate : Rat
  deriving DecidableEq

def createProgrammaticPlaybackSignature (playback : PlaybackState) :
    ProgrammaticPlaybackSignature where
  url := playback.url
  playState := playback.playState
  currentTime := playback.currentTime
  playbackRate := playback.playbackRate

/-! ## Catching up -/

def clamp (value low high : Rat) : Rat := min (max value low) high

structure Tuning where
  rateOffsetLimit : Rat
  minPlaybackRate : Rat
  maxPlaybackRate : Rat
  minStepSeconds : Rat
  maxStepSeconds : Rat
  stepScale : Rat

def getPlaybackAdjustmentTuning (basePlaybackRate : Rat) : Tuning :=
  let extraRate := max 1 basePlaybackRate - 1
  let rateOffsetLimit := min (26 / 100) (16 / 100 + extraRate * (1 / 10))
  { rateOffsetLimit
    minPlaybackRate := max (1 / 10) (basePlaybackRate - rateOffsetLimit)
    maxPlaybackRate := basePlaybackRate + rateOffsetLimit
    minStepSeconds := max (16 / 100) (22 / 100 - extraRate * (3 / 100))
    maxStepSeconds := max (28 / 100) (4 / 10 - extraRate * (8 / 100))
    stepScale := max (3 / 10) (45 / 100 - extraRate * (8 / 100)) }

def getRateAdjustedPlaybackRate (localCurrentTime targetTime basePlaybackRate : Rat) : Rat :=
  let tuning := getPlaybackAdjustmentTuning basePlaybackRate
  let drift := targetTime - localCurrentTime
  let rateOffset := clamp (drift * (3 / 10)) (-tuning.rateOffsetLimit) tuning.rateOffsetLimit
  clamp (basePlaybackRate + rateOffset) tuning.minPlaybackRate tuning.maxPlaybackRate

def getSoftApplyCurrentTime (localCurrentTime targetTime basePlaybackRate : Rat) : Rat :=
  let tuning := getPlaybackAdjustmentTuning basePlaybackRate
  let drift := targetTime - localCurrentTime
  let stepLimit := min tuning.maxStepSeconds (max tuning.minStepSeconds (|drift| * tuning.stepScale))
  localCurrentTime + clamp drift (-stepLimit) stepLimit

structure AppliedPlaybackAdjustment where
  mode : Mode
  reason : Reason
  delta : Rat
  currentTime : Rat
  playbackRate : Rat
  targetTime : Rat
  restorePlaybackRate : Rat
  didWriteCurrentTime : Bool
  didWritePlaybackRate : Bool
  didChange : Bool
  deriving DecidableEq

/-- Two values the code takes for different: they are more than 0.01 apart. -/
def differs (a b : Rat) : Bool := decide (1 / 100 < |a - b|)

/-- Write the rate if the live one is off. -/
def Video.steer (video : Video) (rate : Rat) : Video :=
  if differs video.playbackRate rate then setVideoPlaybackRate video rate else video

def syncPlaybackPosition (video : Video) (targetTime : Rat) (playState : PlayState)
    (syncIntent : Option SyncIntent) (playbackRate : Rat)
    (hasActiveCatchUp hasActiveCorrectionSession : Bool) : Video × AppliedPlaybackAdjustment :=
  let decision := decidePlaybackReconcileMode video.currentTime targetTime playState
    (shouldTreatAsExplicitSeek syncIntent playState) playbackRate hasActiveCatchUp
  match decision.mode with
  | .hardSeek =>
    let writesTime := differs video.currentTime targetTime
    let writesRate := differs video.playbackRate playbackRate
    ((video.seek targetTime).steer playbackRate,
      { mode := .hardSeek, reason := decision.reason, delta := decision.delta
        currentTime := targetTime, playbackRate, targetTime
        restorePlaybackRate := playbackRate
        didWriteCurrentTime := writesTime, didWritePlaybackRate := writesRate
        didChange := writesTime || writesRate })
  | .softApply =>
    let time := getSoftApplyCurrentTime video.currentTime targetTime playbackRate
    let rate := getRateAdjustedPlaybackRate video.currentTime targetTime playbackRate
    let writesTime := differs video.currentTime time
    let writesRate := differs video.playbackRate rate
    ((if writesTime then video.seek time else video).steer rate,
      { mode := .softApply, reason := decision.reason, delta := decision.delta
        currentTime := time, playbackRate := rate, targetTime
        restorePlaybackRate := playbackRate
        didWriteCurrentTime := writesTime, didWritePlaybackRate := writesRate
        didChange := writesTime || writesRate })
  | .rateOnly =>
    let rate := getRateAdjustedPlaybackRate video.currentTime targetTime playbackRate
    let writesRate := differs video.playbackRate rate
    (video.steer rate,
      { mode := .rateOnly, reason := decision.reason, delta := decision.delta
        currentTime := video.currentTime, playbackRate := rate, targetTime
        restorePlaybackRate := playbackRate
        didWriteCurrentTime := false, didWritePlaybackRate := writesRate
        didChange := writesRate })
  | .ignore =>
    let isBufferingNoop := decide (decision.reason = .bufferingNotAuthoritative) &&
      hasActiveCorrectionSession && !decide (syncIntent = some .explicitRatechange)
    let writesRate := !isBufferingNoop && differs video.playbackRate playbackRate
    (if writesRate then setVideoPlaybackRate video playbackRate else video,
      { mode := .ignore, reason := decision.reason, delta := decision.delta
        currentTime := video.currentTime, playbackRate, targetTime
        restorePlaybackRate := playbackRate
        didWriteCurrentTime := false, didWritePlaybackRate := writesRate
        didChange := writesRate })

/-! ## What a synchronisation writes -/

theorem Video.steer_rates (video : Video) (rate : Rat) :
    (video.steer rate).rates = video.rates ∨ (video.steer rate).rates = (rate, rate) := by
  unfold Video.steer
  split
  · exact .inr rfl
  · exact .inl rfl

section
variable (video : Video) (targetTime : Rat) (playState : PlayState)
  (syncIntent : Option SyncIntent) (playbackRate : Rat) (catchUp session : Bool)

theorem syncPlaybackPosition_rates :
    let synced := syncPlaybackPosition video targetTime playState syncIntent playbackRate catchUp
      session
    synced.1.rates = video.rates ∨
      synced.1.rates = (synced.2.playbackRate, synced.2.playbackRate) := by
  unfold syncPlaybackPosition
  dsimp only
  split
  · exact (video.seek targetTime).steer_rates _
  · dsimp only
    split
    · exact (video.seek _).steer_rates _
    · exact video.steer_rates _
  · exact video.steer_rates _
  · dsimp only
    split
    · exact .inr rfl
    · exact .inl rfl

theorem syncPlaybackPosition_restore :
    (syncPlaybackPosition video targetTime playState syncIntent playbackRate catchUp
      session).2.restorePlaybackRate = playbackRate := by
  unfold syncPlaybackPosition
  dsimp only
  split <;> rfl

/-- Only a catch-up carries another rate than the one of the room. -/
theorem syncPlaybackPosition_base :
    let adjustment := (syncPlaybackPosition video targetTime playState syncIntent playbackRate
      catchUp session).2
    adjustment.mode = .softApply ∨ adjustment.mode = .rateOnly ∨
      adjustment.playbackRate = playbackRate := by
  unfold syncPlaybackPosition
  dsimp only
  split
  · exact .inr (.inr rfl)
  · exact .inl rfl
  · exact .inr (.inl rfl)
  · exact .inr (.inr rfl)

theorem syncPlaybackPosition_stalled
    (stalled : (syncPlaybackPosition video targetTime playState syncIntent playbackRate catchUp
      session).2.reason = .bufferingNotAuthoritative) :
    (syncPlaybackPosition video targetTime playState syncIntent playbackRate catchUp
      session).2.mode = .ignore := by
  have ignores := bufferingNotAuthoritative_mode video.currentTime targetTime playState
    (shouldTreatAsExplicitSeek syncIntent playState) playbackRate catchUp
  revert stalled
  unfold syncPlaybackPosition
  dsimp only
  split
  next mode => exact fun stalled => nomatch mode.symm.trans (ignores stalled)
  next mode => exact fun stalled => nomatch mode.symm.trans (ignores stalled)
  next mode => exact fun stalled => nomatch mode.symm.trans (ignores stalled)
  · exact fun _ => rfl

end

end BiliSyncPlay.Player
