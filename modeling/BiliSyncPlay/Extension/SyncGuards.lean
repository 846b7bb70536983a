import BiliSyncPlay.Extension.SoftApply

/-!
# Broadcast guards

`sync-guards.ts` and `playback-broadcast.ts` over the state of the content script: what keeps an
event of the player from being told to the room. A guard answers whether it holds the event back,
with the state it leaves.
-/

namespace BiliSyncPlay.Player

open Json

def isRemotePlaybackStateCompatibleForLocalEcho (localPlayState remotePlayState : PlayState) :
    Bool :=
  decide (localPlayState = remotePlayState) ||
    (decide (localPlayState = .buffering) && decide (remotePlayState = .playing))

def isProgrammaticPlaybackStateCompatible (eventPlayState signaturePlayState : PlayState) : Bool :=
  decide (eventPlayState = signaturePlayState) ||
    (decide (eventPlayState = .buffering) && decide (signaturePlayState = .playing)) ||
    (decide (eventPlayState = .paused) && decide (signaturePlayState = .buffering))

def getProgrammaticEventThreshold (eventSource : EventSource) (playState : PlayState) : Rat :=
  match eventSource with
  | .seeking | .seeked | .loadedmetadata | .canplay => 6 / 10
  | .timeupdate => 1
  | .ratechange => 12 / 10
  | _ => if playState = .playing then 9 / 10 else 25 / 100

def mapEventSourceToExplicitAction : EventSource → Option ExplicitUserActionKind
  | .play | .playing => some .play
  | .pause => some .pause
  | .seeking | .seeked => some .seek
  | .ratechange => some .ratechange
  | _ => none

namespace Content

section
variable (cfg : Config)

/-- The last explicit action of the user is `kind` and fresh. -/
def hasRecent (c : Content) (kind : ExplicitUserActionKind) : Bool :=
  c.runtime.lastExplicitUserAction.any fun action =>
    decide (action.kind = kind) && decide (c.now - action.at_ < cfg.userGestureGraceMs)

def shouldSuppressProgrammaticEvent (c : Content) (url : Option JsString) (playState : PlayState)
    (video : Video) (eventSource : EventSource) : Bool × Content :=
  match c.runtime.programmaticApplySignature with
  | none => (false, { c with runtime := { c.runtime with programmaticApplyUntil := 0 } })
  | some signature =>
    if c.runtime.programmaticApplyUntil ≤ c.now then
      (false, { c with runtime := { c.runtime with
        programmaticApplyUntil := 0, programmaticApplySignature := none } })
    else if url ≠ some signature.url then (false, c)
    else if c.runtime.programmaticApplyScope = .ratechange ∧ eventSource ≠ .ratechange then
      (false, c)
    else if c.runtime.lastExplicitUserAction.any (fun action =>
        decide (mapEventSourceToExplicitAction eventSource = some action.kind) &&
          decide (c.runtime.programmaticApplyAt ≤ action.at_) &&
          decide (c.now - action.at_ < cfg.userGestureGraceMs)) then (false, c)
    else if ¬isProgrammaticPlaybackStateCompatible playState signature.playState ∨
        differs video.playbackRate signature.playbackRate then (false, c)
    else (decide (|video.currentTime - signature.currentTime| ≤
      getProgrammaticEventThreshold eventSource playState), c)

def shouldSuppressLocalEcho (c : Content) (url : Option JsString) (playState : PlayState)
    (video : Video) : Bool × Content :=
  match c.runtime.suppressedRemotePlayback with
  | none => (false, c)
  | some remote =>
    if remote.until_ ≤ c.now then
      (false, { c with runtime := { c.runtime with suppressedRemotePlayback := none } })
    else if url ≠ some remote.url ∨
        ¬isRemotePlaybackStateCompatibleForLocalEcho playState remote.playState ∨
        differs video.playbackRate remote.playbackRate then (false, c)
    else
      let threshold :=
        if playState = .playing ∧ remote.playState = .playing then 9 / 10 else 2 / 10
      (decide (|video.currentTime - remote.currentTime| ≤ threshold), c)

def clearRemoteFollowPlayingWindow (c : Content) : Content :=
  { c with runtime := { c.runtime with
    remoteFollowPlayingUntil := 0, remoteFollowPlayingUrl := none } }

def shouldSuppressRemoteFollowupBroadcast (c : Content) (url : Option JsString)
    (playState : PlayState) (eventSource : EventSource) : Bool × Content :=
  if c.runtime.remoteFollowPlayingUrl.isNone ∨ c.runtime.remoteFollowPlayingUntil ≤ 0 ∨
      c.runtime.remoteFollowPlayingUntil ≤ c.now ∨ url.isNone ∨
      url ≠ c.runtime.remoteFollowPlayingUrl ∨ playState = .paused then
    (false, c.clearRemoteFollowPlayingWindow)
  else if playState = .buffering then
    (decide (eventSource = .waiting) || decide (eventSource = .stalled), c)
  else if (mapEventSourceToExplicitAction eventSource).any (c.hasRecent cfg) ∨
      (c.hasRecent cfg .seek ∧
        (eventSource = .play ∨ eventSource = .playing ∨ eventSource = .canplay)) then (false, c)
  else (true, c)

def hasRecentRemoteStopIntent (c : Content) (url : Option JsString) : Bool :=
  if c.runtime.pauseHoldUntil ≤ c.now ∨ url.isNone then false
  else if c.runtime.activeSharedUrl.isSome ∧ url ≠ c.runtime.activeSharedUrl then false
  else if c.runtime.intendedPlayState = .paused then true
  else c.runtime.suppressedRemotePlayback.any fun remote =>
    decide (url = some remote.url) && decide (remote.playState = .paused)

def shouldSuppressRemotePlayTransition (c : Content) (url : Option JsString)
    (playState : PlayState) (currentTime : Rat) : Bool × Content :=
  match c.runtime.recentRemotePlayingIntent with
  | none => (false, c)
  | some intent =>
    if intent.until_ ≤ c.now then
      (false, { c with runtime := { c.runtime with recentRemotePlayingIntent := none } })
    else if url ≠ some intent.url ∨ playState = .playing then (false, c)
    else if playState = .paused ∧ c.runtime.lastExplicitPlaybackAction.any (fun action =>
        decide (action.playState = .paused) &&
          decide (c.now - action.at_ < cfg.userGestureGraceMs)) then (false, c)
    else (decide (|currentTime - intent.currentTime| ≤ 15 / 10), c)

def rememberRemotePlaybackForSuppression (c : Content) (playback : PlaybackState) : Content :=
  let normalizedUrl := cfg.normalizeUrl playback.url
  { c with runtime := { c.runtime with
    suppressedRemotePlayback := normalizedUrl.map fun url =>
      { until_ := c.now + cfg.remoteEchoSuppressionMs
        url
        playState := playback.playState
        currentTime := playback.currentTime
        playbackRate := playback.playbackRate }
    recentRemotePlayingIntent := normalizedUrl.bind fun url =>
      if playback.playState = .playing then
        some ⟨c.now + cfg.remotePlayTransitionGuardMs, url, playback.currentTime⟩
      else none } }

def shouldSuppressUnexpectedPlaybackRateBroadcast (c : Content) (playbackRate : Rat)
    (eventSource : EventSource) : Bool :=
  let hasRecentExplicitUserAction :=
    c.within (c.runtime.lastExplicitUserAction.map ExplicitUserAction.at_) cfg.userGestureGraceMs
  if c.hasRecent cfg .ratechange ∨ (hasRecentExplicitUserAction ∧
      (eventSource = .play ∨ eventSource = .playing ∨ eventSource = .ratechange)) then false
  else differs playbackRate c.runtime.intendedPlaybackRate

/-! ## What an event is told as -/

/-- The last explicit action of the user that no forced pause has undone. -/
def activeExplicitAction (c : Content) : Option ExplicitUserAction :=
  c.runtime.lastExplicitUserAction.filter fun action =>
    decide (c.runtime.lastForcedPauseAt < action.at_)

def getBroadcastPlayState (c : Content) (video : Nat) (eventSource : EventSource) : PlayState :=
  let basePlayState := c.reportedPlayState cfg video
  let hasRecentExplicitSeek := c.activeExplicitAction.any fun action =>
    decide (action.kind = .seek) && decide (c.runtime.programmaticApplyAt ≤ action.at_) &&
      decide (c.now - action.at_ < cfg.userGestureGraceMs)
  let seekOrigin := if hasRecentExplicitSeek then c.runtime.explicitSeekOriginPlayState else none
  if hasRecentExplicitSeek ∧ seekOrigin ≠ some .paused ∧
      (eventSource = .seeking ∨ eventSource = .seeked) then .playing
  else if hasRecentExplicitSeek ∧ seekOrigin ≠ some .buffering ∧
      c.runtime.intendedPlayState = .playing ∧
      (eventSource = .pause ∨ eventSource = .waiting ∨ eventSource = .stalled) then .playing
  else basePlayState

def explicitSeekBroadcastGraceMs : Rat := 2500

def derivePlaybackSyncIntent (c : Content) (eventSource : EventSource) : Option SyncIntent :=
  match c.activeExplicitAction with
  | none => none
  | some action =>
    if eventSource = .ratechange ∧ action.kind = .ratechange ∧
        c.now - action.at_ < cfg.userGestureGraceMs then some .explicitRatechange
    else if (eventSource = .seeking ∨ eventSource = .seeked ∨ eventSource = .play ∨
        eventSource = .playing ∨ eventSource = .canplay) ∧ action.kind = .seek ∧
        c.now - action.at_ < max cfg.userGestureGraceMs explicitSeekBroadcastGraceMs then
      some .explicitSeek
    else none

def deriveUserInitiatedPause (c : Content) (eventSource : EventSource) (playState : PlayState) :
    Bool :=
  decide (eventSource = .pause) && decide (playState = .paused) &&
    (c.activeExplicitAction.any fun action =>
      decide (action.kind = .pause) && decide (c.now - action.at_ < cfg.userGestureGraceMs)) &&
    !(decide (c.runtime.programmaticApplyScope = .all) &&
      (c.runtime.programmaticApplySignature.any fun signature =>
        decide (signature.playState = .paused)) &&
      decide (c.now < c.runtime.programmaticApplyUntil))

end

end Content

end BiliSyncPlay.Player
