import BiliSyncPlay.Extension.AutoShareNext

/-!
# What a navigation is taken for

`createNavigationController`: the watcher of the page's address and of its resolved video. A
navigation inside a room is classified by what was recorded before it, and what was recorded is
cleared on the way. What the watcher calls is listed in its order.
-/

namespace BiliSyncPlay.Navigation

open Json RedisRoomStore Protocol
open PageVideo (Platform startsWith isAddressBarOpaqueVideoUrl)
open AutoShareNext (Page Input)

/-! ## Addresses -/

/-- `^\/bangumi\/play\/ss\d+$`, whatever the case of the letters. -/
def isSeasonPathname (path : JsString) : Bool :=
  ((js "/bangumi/play/ss").isPrefixOf? (path.map foldCase)).any isDigits

section
variable (P : Platform)

def isUnstableSharedVideoUrl (url : Option JsString) : Bool :=
  url.any fun url => decide (url ≠ []) && (P.URL url).any fun parsed =>
    startsWith parsed.pathname "/festival/" ||
      isSeasonPathname (withoutTrailingSlashes parsed.pathname)

def samePathname (a b : JsString) : Bool :=
  match P.URL a, P.URL b with
  | some left, some right =>
    decide (withoutTrailingSlashes left.pathname = withoutTrailingSlashes right.pathname)
  | _, _ => decide (a = b)

end

/-! ## What is recorded -/

inductive PlayState where
  | playing | paused | buffering
  deriving DecidableEq

/-- What other controllers write as well. -/
structure Playback where
  explicitNonSharedPlaybackUrl : Option JsString := none
  nonSharerAutoplayHoldUrl : Option JsString := none
  postNavigationAnchorSharedUrl : Option JsString := none
  postNavigationAnchorSetAt : Rat := 0
  intendedPlayState : PlayState := .paused
  pauseHoldUntil : Rat := 0
  hasReceivedInitialRoomState : Bool := false
  pendingRoomStateHydration : Bool := true
  deriving DecidableEq

/-- What the content script has recorded, and what the watcher saw last. -/
structure State extends Playback where
  activeRoomCode : Option JsString := none
  localMemberId : Option JsString := none
  activeSharedUrl : Option JsString := none
  activeSharedByMemberId : Option JsString := none
  /-- None stands for `GESTURE_NEVER_AT`. -/
  lastUserGestureAt : Option Rat := none
  sharedVideoNaturalEndUrl : Option JsString := none
  sharedVideoNaturalEndAt : Rat := 0
  resolvedSharedVideoUrl : Option JsString := none
  pendingAutoShareTargetUrl : Option JsString := none
  lastObservedPageUrl : JsString
  lastObservedNormalizedPageUrl : Option JsString
  pendingNaturalEndNavigationWait : Option Nat := none
  destroyed : Bool := false
  deriving DecidableEq

/-- What the page shows at one moment. -/
structure View extends Page where
  /-- The natural end that is being confirmed. -/
  pendingNaturalEnd : Option Nat := none
  /-- The video of the page, where there is one: whether it is paused. -/
  paused : Option Bool := none
  now : Rat
  deriving DecidableEq

structure Args extends AutoShareNext.Args where
  userGestureGraceMs : Rat
  initialRoomStatePauseHoldMs : Rat
  sharedVideoNaturalEndWindowMs : Rat
  isSupportedVideoPage : JsString → Bool

inductive Call where
  | waitForNaturalEnd (resolution : Nat)
  | clearFestivalSnapshot
  | cancelAutoShareNextVideo
  | attachPlaybackListeners
  | playVideo
  | scheduleAutoShareNextVideo (input : Input)
  | forcePauseVideo
  | hydrateRoomState
  deriving DecidableEq

/-- A text that is there and not empty. -/
def present (text : Option JsString) : Bool := text.any (· ≠ [])

/-! ## The watcher -/

section
variable (A : Args)

def State.isLocalSharedSource (s : State) : Bool :=
  s.localMemberId.isSome && decide (s.activeSharedByMemberId = s.localMemberId)

/-- The stable address of what the room shares, where one is known. -/
def State.effectiveSharedUrl (s : State) : Option JsString :=
  if isUnstableSharedVideoUrl A.platform s.activeSharedUrl then
    s.resolvedSharedVideoUrl.or s.activeSharedUrl
  else s.activeSharedUrl

def State.hadRecentUserGesture (s : State) (now : Rat) : Bool :=
  s.lastUserGestureAt.any fun at_ => decide (now - at_ ≤ A.userGestureGraceMs)

def State.gestureRefutesNaturalEnd (s : State) : Bool :=
  s.lastUserGestureAt.any fun at_ =>
    decide (s.sharedVideoNaturalEndAt - A.sharedVideoNaturalEndWindowMs ≤ at_)

/-- The recorded natural end is the evidence that the room's video advanced. -/
def State.navigatedFromSharedVideoEnd (s : State) (now : Rat) : Bool :=
  s.activeSharedUrl.isSome && decide (s.sharedVideoNaturalEndUrl = s.activeSharedUrl) &&
    decide (now - s.sharedVideoNaturalEndAt < A.sharedVideoNaturalEndWindowMs) &&
    !s.gestureRefutesNaturalEnd A

def State.navigatedFromSharedVideo (s : State) (now : Rat) : Bool :=
  s.navigatedFromSharedVideoEnd A now ||
    s.lastObservedNormalizedPageUrl.isSome &&
      (decide (s.lastObservedNormalizedPageUrl = s.effectiveSharedUrl A) ||
        decide (s.lastObservedNormalizedPageUrl = s.pendingAutoShareTargetUrl))

def State.canConfirmDifferentVideo (s : State) (next : Option JsString) : Bool :=
  (s.effectiveSharedUrl A).isSome &&
    !isUnstableSharedVideoUrl A.platform (s.effectiveSharedUrl A) && next.isSome &&
    !isUnstableSharedVideoUrl A.platform next && decide (next ≠ s.effectiveSharedUrl A)

def State.shouldTreatAsAutoplay (s : State) (now : Rat) : Bool :=
  !s.hadRecentUserGesture A now && s.navigatedFromSharedVideo A now && s.activeSharedUrl.isSome

def State.isUserDrivenLocalNavigation (s : State) (now : Rat) : Bool :=
  !s.shouldTreatAsAutoplay A now &&
    (s.hadRecentUserGesture A now ||
      s.lastObservedNormalizedPageUrl.isSome &&
        decide (s.lastObservedNormalizedPageUrl = s.explicitNonSharedPlaybackUrl))

/-- `resetUserGestureState`. -/
def State.resetUserGestureState (s : State) : State :=
  { s with lastUserGestureAt := none, nonSharerAutoplayHoldUrl := none }

def forcePause (view : View) : List Call :=
  if view.paused = some false then [.forcePauseVideo] else []

/-- The sharer's own video advanced: `before` is what was recorded when it did. -/
def autoShare (before s : State) (view : View) (shared next : JsString) : State × List Call :=
  let held := decide (before.nonSharerAutoplayHoldUrl = some next)
  let resumed := if held then
      { s with intendedPlayState := .playing, pauseHoldUntil := 0 }
    else s
  ({ resumed with
      explicitNonSharedPlaybackUrl := some next
      pendingAutoShareTargetUrl := some next
      resolvedSharedVideoUrl := if isUnstableSharedVideoUrl A.platform (some shared) then some next
        else resumed.resolvedSharedVideoUrl
      pauseHoldUntil := 0 },
    (if held && view.paused.isSome then [.playVideo] else []) ++
      [.scheduleAutoShareNextVideo ⟨shared, next, before.pendingAutoShareTargetUrl⟩])

/-- The page loads paused until the user plays it. -/
def holdPaused (s : State) (view : View) (next : Option JsString) : State × List Call :=
  ({ s with
      intendedPlayState := .paused
      nonSharerAutoplayHoldUrl := next
      explicitNonSharedPlaybackUrl := none
      pauseHoldUntil := view.now + A.initialRoomStatePauseHoldMs },
    forcePause view)

/-- A navigation inside a room to a video that may be the shared one. -/
def awaitRoomState (s : State) (view : View) : State × List Call :=
  ({ s with
      hasReceivedInitialRoomState := false
      pendingRoomStateHydration := true
      intendedPlayState := .paused
      pauseHoldUntil := view.now + A.initialRoomStatePauseHoldMs },
    forcePause view)

/-- A navigation is classified by what was recorded `before` it. -/
def classify (before s : State) (view : View) (next : Option JsString) : State × List Call :=
  if before.canConfirmDifferentVideo A next then
    match before.shouldTreatAsAutoplay A view.now && before.isLocalSharedSource,
        before.activeSharedUrl, next with
    | true, some shared, some next => autoShare A before s view shared next
    | _, _, _ =>
      if before.shouldTreatAsAutoplay A view.now && !before.isLocalSharedSource ||
          before.isUserDrivenLocalNavigation A view.now then holdPaused A s view next
      else ({ s with pauseHoldUntil := 0 }, [])
  else awaitRoomState A s view

/-- A navigation inside a room takes the natural end and the gestures with it. -/
def arrive (before s : State) (view : View) (next : Option JsString) : State × List Call :=
  let anchored := present before.activeSharedUrl && decide (next ≠ before.activeSharedUrl)
  let taken := ({ s with
    sharedVideoNaturalEndUrl := none
    sharedVideoNaturalEndAt := 0
    postNavigationAnchorSharedUrl := if anchored then before.activeSharedUrl else none
    postNavigationAnchorSetAt := if anchored then view.now else 0 }).resetUserGestureState
  let (after, calls) := classify A before taken view next
  (after, .attachPlaybackListeners :: calls ++ [.hydrateRoomState])

/-- The page has moved: everything an earlier navigation asked for is cancelled. -/
def leave (s : State) (view : View) (nextUrl : JsString) (next : Option JsString) :
    State × List Call :=
  let left := { s with
    lastObservedPageUrl := nextUrl
    lastObservedNormalizedPageUrl := next
    explicitNonSharedPlaybackUrl := none
    pendingAutoShareTargetUrl := none
    resolvedSharedVideoUrl := none }
  if !present s.activeRoomCode || !A.isSupportedVideoPage nextUrl then
    (left, [.clearFestivalSnapshot, .cancelAutoShareNextVideo])
  else
    let (after, calls) := arrive A s left view next
    (after, .clearFestivalSnapshot :: .cancelAutoShareNextVideo :: calls)

def handlePotentialNavigation (s : State) (view : View) : State × List Call :=
  if view.resolvedVideoUrl = none ∧ isAddressBarOpaqueVideoUrl A.platform view.currentPageUrl ∧
      samePathname A.platform view.currentPageUrl s.lastObservedPageUrl then (s, [])
  else
    let nextUrl := view.resolvedVideoUrl.getD view.currentPageUrl
    let next := A.normalizeVideoPageUrl nextUrl
    let sharedIsUnstableSamePageRoute := isUnstableSharedVideoUrl A.platform s.activeSharedUrl &&
      s.activeSharedUrl.any (samePathname A.platform · nextUrl)
    let isBareRouteShareResolution := view.resolvedVideoUrl.isSome && next.isSome &&
      !isUnstableSharedVideoUrl A.platform next && sharedIsUnstableSamePageRoute
    let resolvedSharedVideoUrl := if isBareRouteShareResolution then next
      else s.resolvedSharedVideoUrl
    if nextUrl = s.lastObservedPageUrl then
      ({ s with resolvedSharedVideoUrl := resolvedSharedVideoUrl }, [])
    else if next.isSome ∧ next = s.lastObservedNormalizedPageUrl then
      ({ s with
          resolvedSharedVideoUrl := resolvedSharedVideoUrl
          lastObservedPageUrl := nextUrl }, [])
    else match view.pendingNaturalEnd with
      | some resolution =>
        if s.pendingNaturalEndNavigationWait = some resolution then (s, [])
        else ({ s with pendingNaturalEndNavigationWait := some resolution },
          [.waitForNaturalEnd resolution])
      | none =>
        -- The first concrete identity of a route that named no video is no navigation.
        if view.resolvedVideoUrl.isSome ∧
            isUnstableSharedVideoUrl A.platform s.lastObservedNormalizedPageUrl ∧ next.isSome ∧
            !isUnstableSharedVideoUrl A.platform next ∧
            (!present s.activeRoomCode ∨ next = s.activeSharedUrl ∨
              sharedIsUnstableSamePageRoute) then
          ({ s with
              resolvedSharedVideoUrl := if sharedIsUnstableSamePageRoute then next
                else s.resolvedSharedVideoUrl
              lastObservedPageUrl := nextUrl
              lastObservedNormalizedPageUrl := next }, [])
        else leave A s view nextUrl next

/-- A natural end the watcher waited for is settled. -/
def retryAfterNaturalEnd (s : State) (resolution : Nat) (view : View) : State × List Call :=
  if s.destroyed ∨ s.pendingNaturalEndNavigationWait ≠ some resolution then (s, [])
  else handlePotentialNavigation A { s with pendingNaturalEndNavigationWait := none } view

end

/-! ## What one look at the page comes to -/

section
variable {A : Args}

/-- The sharer's video advanced by itself, as far as what was recorded tells. -/
structure Autoplay (A : Args) (before : State) (now : Rat) : Prop where
  unmoved : before.hadRecentUserGesture A now = false
  advanced : before.navigatedFromSharedVideo A now = true
  sharer : before.isLocalSharedSource = true

/-- A classification asks for a share once, by the sharer, or not at all. -/
inductive Asks (A : Args) (before : State) (now : Rat) : List Call → Prop
  | once {lead : List Call} {input : Input} (autoplay : Autoplay A before now)
      (other : ∀ call ∈ lead, call = .playVideo) :
      Asks A before now (lead ++ [.scheduleAutoShareNextVideo input])
  | never {calls : List Call} (other : ∀ call ∈ calls, call = .forcePauseVideo) :
      Asks A before now calls

theorem asks_forcePause (before : State) (view : View) (now : Rat) :
    Asks A before now (forcePause view) := by
  apply Asks.never
  intro call mem
  unfold forcePause at mem
  split at mem
  · exact List.mem_singleton.mp mem
  · cases mem

theorem asks_classify (before s : State) (view : View) (next : Option JsString) :
    Asks A before view.now (classify A before s view next).2 := by
  unfold classify
  split
  · split
    · next autoplay _ _ =>
      simp only [Bool.and_eq_true, State.shouldTreatAsAutoplay, Bool.not_eq_true'] at autoplay
      refine .once ⟨autoplay.1.1.1, autoplay.1.1.2, autoplay.2⟩ ?_
      intro call mem
      split at mem
      · exact List.mem_singleton.mp mem
      · cases mem
    · split
      · exact asks_forcePause ..
      · exact .never (by simp)
  · exact asks_forcePause ..

/-- What a navigation is classified by, and a natural end it uses up. -/
structure Recorded where
  lastUserGestureAt : Option Rat
  sharedVideoNaturalEndUrl : Option JsString
  deriving DecidableEq

def State.recorded (s : State) : Recorded := ⟨s.lastUserGestureAt, s.sharedVideoNaturalEndUrl⟩

theorem recorded_classify (before s : State) (view : View) (next : Option JsString) :
    (classify A before s view next).1.recorded = s.recorded := by
  unfold classify
  split
  · split
    · simp only [autoShare]
      split <;> rfl
    · split <;> rfl
  · rfl

/-- What one look at the page comes to. -/
inductive Outcome (A : Args) (s : State) (now : Rat) : State × List Call → Prop
  | quiet {after : State} {calls : List Call} (kept : after.recorded = s.recorded)
      (other : ∀ call ∈ calls, ∃ resolution, call = .waitForNaturalEnd resolution) :
      Outcome A s now (after, calls)
  | bailed {after : State} (kept : after.recorded = s.recorded) :
      Outcome A s now (after, [.clearFestivalSnapshot, .cancelAutoShareNextVideo])
  | arrived {after : State} {calls : List Call} (taken : after.recorded = ⟨none, none⟩)
      (asks : Asks A s now calls) :
      Outcome A s now (after, .clearFestivalSnapshot :: .cancelAutoShareNextVideo ::
        .attachPlaybackListeners :: calls ++ [.hydrateRoomState])

theorem outcome_leave (s : State) (view : View) (nextUrl : JsString) (next : Option JsString) :
    Outcome A s view.now (leave A s view nextUrl next) := by
  unfold leave
  dsimp only
  split
  · exact .bailed rfl
  · exact .arrived (recorded_classify ..) (asks_classify ..)

theorem outcome_handle (s : State) (view : View) :
    Outcome A s view.now (handlePotentialNavigation A s view) := by
  unfold handlePotentialNavigation
  split
  · exact .quiet rfl (by simp)
  · dsimp only
    split
    · exact .quiet rfl (by simp)
    · split
      · exact .quiet rfl (by simp)
      · split
        · split
          · exact .quiet rfl (by simp)
          · exact .quiet rfl (by simp)
        · split
          · exact .quiet rfl (by simp)
          · exact outcome_leave ..

end

end BiliSyncPlay.Navigation
