import BiliSyncPlay.Service.World

/-!
# Playback acceptance

Which playback updates a room takes, judged against the last accepted one and the window of
authority its actor holds.
-/

namespace BiliSyncPlay

def isExplicitControlSyncIntent (intent : Option PlaybackSyncIntent) : Bool := intent.isSome

def PlaybackPlayState.stopLike : PlaybackPlayState → Bool
  | .paused | .buffering => true
  | .playing => false

inductive PlaybackDecision where
  | accept | ignoreAsFollow | ignoreStaleLike
  deriving DecidableEq

/-- A change of these kinds wants the playback it started to go on. -/
def PlaybackAuthorityKind.prefersContinuity : PlaybackAuthorityKind → Bool
  | .play | .seek | .ratechange | .share => true
  | .pause => false

/-- An authority whose window is open and whose actor is somebody else. -/
def PlaybackAuthority.vetoes (authority : PlaybackAuthority) (incoming : PlaybackState)
    (currentTime : Time) : Bool :=
  currentTime < authority.until_ && authority.actorId ≠ incoming.actorId

def followsPlaying (current incoming : PlaybackState) (authority : PlaybackAuthority)
    (closeInTimeline : Bool) : Bool :=
  incoming.playState = .playing &&
    (current.playState.stopLike || closeInTimeline ||
      (authority.kind.prefersContinuity && current.actorId = authority.actorId &&
        current.playState = .playing))

def followsStop (current incoming : PlaybackState) (authority : PlaybackAuthority)
    (closeInTimeline : Bool) : Bool :=
  authority.kind.prefersContinuity && incoming.playState.stopLike &&
    !current.playState.stopLike && closeInTimeline &&
    incoming.currentTime ≤ current.currentTime + 15 / 100

def decidePlaybackAcceptance (currentPlayback : Option PlaybackState)
    (authority : Option PlaybackAuthority) (incoming : PlaybackState) (currentTime : Time) :
    PlaybackDecision :=
  match currentPlayback with
  | none => .accept
  | some current =>
    if current.actorId = incoming.actorId then .accept
    else
      let explicit := isExplicitControlSyncIntent incoming.syncIntent
      let difference := incoming.currentTime - current.currentTime
      let closeInTimeline : Bool := difference < 12 / 10 ∧ -difference < 12 / 10
      let vetoed := match authority with
        | none => false
        | some authority => authority.vetoes incoming currentTime &&
            (followsPlaying current incoming authority closeInTimeline ||
              followsStop current incoming authority closeInTimeline)
      if !explicit && vetoed then .ignoreAsFollow
      else if !explicit && incoming.playState = .playing &&
          incoming.currentTime + 6 / 10 < current.currentTime then .ignoreStaleLike
      else .accept

def derivePlaybackAuthorityKind (currentPlayback : Option PlaybackState)
    (nextPlayback : PlaybackState) : Option PlaybackAuthorityKind :=
  match currentPlayback with
  | none => some .play
  | some current =>
    let rate := nextPlayback.playbackRate - current.playbackRate
    let jump := nextPlayback.currentTime - current.currentTime
    if nextPlayback.playState.stopLike then some .pause
    else if 1 / 100 < rate ∨ 1 / 100 < -rate then some .ratechange
    else if nextPlayback.syncIntent = some .explicitSeek ∧ nextPlayback.playState = .playing then
      some .seek
    else if 25 / 10 ≤ jump ∨ 25 / 10 ≤ -jump then some .seek
    else if current.playState ≠ .playing ∧ nextPlayback.playState = .playing then some .play
    else none

/-- Nothing moved but the clock, at the previous rate. -/
def isSteadyTick (previousPlayback : Option PlaybackState) (nextPlayback : PlaybackState) : Bool :=
  match previousPlayback with
  | none => false
  | some previous =>
    let elapsedSeconds : Rat := ((nextPlayback.serverTime : Rat) - previous.serverTime) / 1000
    let expected := if previous.playState ≠ .playing then 0 else previous.playbackRate * elapsedSeconds
    let drift := nextPlayback.currentTime - previous.currentTime - expected
    let rate := previous.playbackRate - nextPlayback.playbackRate
    previous.playState = nextPlayback.playState && (rate < 1 / 100 && -rate < 1 / 100) &&
      nextPlayback.syncIntent.isNone && (drift < 1 && -drift < 1)

end BiliSyncPlay
