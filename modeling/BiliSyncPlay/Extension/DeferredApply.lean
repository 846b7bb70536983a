import BiliSyncPlay.Extension.CatchUpRuns
import Mathlib.Data.List.Induction

/-!
# A snapshot that waits for the metadata

A snapshot that meets an element without metadata is stored, and the next `loadedmetadata` or
`canplay` writes it. What the room says meanwhile either replaces it, drops it or leaves it where it
is.
-/

namespace BiliSyncPlay.Player

open Json

/-! ## What becomes of a room state -/

/-- The end of a snapshot that `lastAppliedVersionByActor` records. -/
inductive Disposal where
  | selfNoop | withinThreshold | cooldown | applied | deferred
  deriving DecidableEq

inductive Verdict where
  | emptied
  | turnedAway
  | accepted (playback : PlaybackState) (disposal : Disposal)
  deriving DecidableEq

/-- Something newer is taken over, and what is stored stays where it is. -/
def Verdict.keepsBack (sameVideo : Bool) : Verdict → Bool
  | .emptied => true
  | .turnedAway | .accepted _ .deferred | .accepted _ .applied => false
  | .accepted _ _ => sameVideo

namespace Content

section
variable (cfg : Config)

/-- The branch `applyPlaybackOfRoom` takes. -/
def disposal (c : Content) (video : Nat) (playback : PlaybackState) : Disposal :=
  let isSelfPlayback := decide (c.runtime.localMemberId = some playback.actorId)
  let c := c.cancelOutdated cfg video playback
  if isSelfPlayback ∧ ¬shouldApplySelfPlayback (c.videos video) playback then .selfNoop
  else if shouldIgnoreRemotePlaybackApply (c.videos video) playback isSelfPlayback then
    .withinThreshold
  else if c.shouldSuppressByCooldown cfg (c.videos video) playback then .cooldown
  else if canApplyPlaybackImmediately (c.videos video) then .applied
  else .deferred

/-- The branch `applyRoomState` takes. -/
def verdict (c : Content) (reading : RoomReading) (state : RoomState) : Verdict :=
  let url := state.sharedVideo.bind fun shared => cfg.normalizeUrl shared.url
  match state.sharedVideo, state.playback with
  | some shared, some playback =>
    if reading.page.url.isNone ∨ url.isNone ∨ normalizedUrl cfg reading.page.url ≠ url ∨
        cfg.normalizeUrl playback.url ≠ url then .turnedAway
    else
      let c := (c.liftAnchor url).switchActiveSharedUrlWithReset cfg reading.page url
        shared.sharedByMemberId
      match c.current with
      | none => .turnedAway
      | some video =>
        if reading.ignored then .turnedAway else .accepted playback (c.disposal cfg video playback)
  | _, _ => .emptied

/-- The room state an event brings, and the state it is applied to. -/
def roomStateOf (c : Content) : Event → Option (Content × RoomReading × RoomState)
  | .roomState reading state => some (c.recordRoomConfirmedBroadcast cfg state, reading, state)
  | .hydrates reading roomCode memberId state =>
    some ((c.setRoomMembership (roomCode.or c.runtime.activeRoomCode)
      memberId).preserveInitialPause cfg reading state, reading, state)
  | _ => none

def hears (c : Content) (event : Event) : Option Verdict :=
  (c.roomStateOf cfg event).map fun heard => heard.1.verdict cfg heard.2.1 heard.2.2

/-- The snapshot a step stores for later. -/
def stores (c : Content) (event : Event) : Option PlaybackState :=
  match c.hears cfg event with
  | some (.accepted playback .deferred) => some playback
  | _ => none

/-- A media event reaches what is stored. -/
def opens (c : Content) (video : Nat) (page : Page) : Bool :=
  !c.forcePauseWhileWaitingForInitialRoomState video page &&
    canApplyPlaybackImmediately (c.videos video)

/-- The stored snapshot a media event writes to the element. -/
def writes (c : Content) : Event → Option PlaybackState
  | .dom event page =>
    match c.current with
    | none => none
    | some video =>
      if (event = .loadedmetadata ∨ event = .canplay) ∧ c.opens video page then
        c.runtime.pendingPlaybackApplication
      else none
  | _ => none

end

/-! ## The slot -/

structure Slot where
  pending : Option PlaybackState
  activeSharedUrl : Option JsString

def slot (c : Content) : Slot where
  pending := c.runtime.pendingPlaybackApplication
  activeSharedUrl := c.runtime.activeSharedUrl

def Slot.cleared (slot : Slot) : Slot := { slot with pending := none }

theorem slot_of_bearing {c d : Content} (same : c.bearing = d.bearing) : c.slot = d.slot := by
  have pending := congrArg (Ledger.pending ∘ Bearing.ledger) same
  have active := congrArg Bearing.activeSharedUrl same
  change Slot.mk _ _ = Slot.mk _ _
  rw [Slot.mk.injEq]
  exact ⟨pending, active⟩

section
variable (cfg : Config) (c : Content) (video : Nat)

@[simp] theorem slot_write (f : Video → Video) : (c.write video f).slot = c.slot :=
  rfl

@[simp] theorem slot_clearRemoteFollow : c.clearRemoteFollowPlayingWindow.slot = c.slot := rfl

@[simp] theorem slot_activatePauseHold (ms : Rat) : (c.activatePauseHold ms).slot = c.slot := rfl

@[simp] theorem slot_intend (playback : PlaybackState) : (c.intend playback).slot = c.slot := rfl

@[simp] theorem slot_forcePauseVideo : (c.forcePauseVideo video).slot = c.slot := rfl

@[simp] theorem slot_accept : c.acceptInitialRoomStateHydration.slot = c.slot := rfl

@[simp] theorem slot_rememberSuppression (playback : PlaybackState) :
    (c.rememberRemotePlaybackForSuppression cfg playback).slot = c.slot := rfl

@[simp] theorem slot_clearPause : c.clearActivePauseClassification.slot = c.slot := rfl

@[simp] theorem slot_acceptIfPending :
    c.acceptInitialRoomStateHydrationIfPending.slot = c.slot := by
  unfold acceptInitialRoomStateHydrationIfPending
  split <;> rfl

@[simp] theorem slot_rememberFollow (playback : PlaybackState) :
    (c.rememberRemoteFollowPlayingWindow cfg playback).slot = c.slot := by
  unfold rememberRemoteFollowPlayingWindow
  split <;> rfl

@[simp] theorem slot_forcePauseIfPlaying : c.forcePauseIfPlaying.slot = c.slot := by
  unfold forcePauseIfPlaying
  split
  · split <;> rfl
  · rfl

@[simp] theorem slot_restoreRate (session : Session) (video : Option Nat)
    (reason : CancelReason) : (c.restoreRate cfg session video reason).slot = c.slot := by
  unfold restoreRate
  split
  · rfl
  · split <;> rfl

@[simp] theorem slot_settleCooldown (session : Session) (reason : CancelReason) :
    (c.settleCooldown session reason).slot = c.slot := by
  unfold settleCooldown
  split
  · rfl
  · split <;> rfl

@[simp] theorem slot_cancel (video : Option Nat) (reason : CancelReason) :
    (c.cancelActiveSoftApply cfg video reason).slot = c.slot := by
  unfold cancelActiveSoftApply
  split
  · rfl
  · simp only [slot_settleCooldown, slot_restoreRate]
    rfl

@[simp] theorem slot_upsert (playback : PlaybackState) (drift : Rat) (arm : Bool)
    (close : Option RelativeDriftClose) :
    (c.upsertActiveSoftApply cfg playback drift arm close).slot = c.slot := by
  unfold upsertActiveSoftApply
  split <;> rfl

@[simp] theorem slot_cancelOutdated (playback : PlaybackState) :
    (c.cancelOutdated cfg video playback).slot = c.slot := by
  unfold cancelOutdated
  split
  · exact slot_cancel ..
  · rfl

@[simp] theorem slot_reviewCooldown (adjustment : AppliedPlaybackAdjustment) :
    (c.reviewCooldown adjustment).slot = c.slot := by
  unfold reviewCooldown
  split <;> rfl

@[simp] theorem slot_onPlaybackAdjusted (adjustment : AppliedPlaybackAdjustment)
    (playback : PlaybackState) : (c.onPlaybackAdjusted cfg adjustment playback).slot = c.slot := by
  unfold onPlaybackAdjusted
  dsimp only
  split
  · exact slot_reviewCooldown ..
  · split
    · rw [slot_upsert, slot_reviewCooldown]
    · rw [slot_cancel, slot_reviewCooldown]

@[simp] theorem slot_markProgrammatic (adjustment : AppliedPlaybackAdjustment)
    (playback : PlaybackState) (change : Bool) :
    (c.markProgrammaticApply cfg adjustment playback change).slot = c.slot := by
  unfold markProgrammaticApply
  split <;> rfl

@[simp] theorem slot_liftAnchor (url : Option JsString) : (c.liftAnchor url).slot = c.slot := by
  unfold liftAnchor
  split <;> rfl

@[simp] theorem slot_setRoomMembership (roomCode memberId : Option JsString) :
    (c.setRoomMembership roomCode memberId).slot = c.slot := by
  unfold setRoomMembership
  split <;> rfl

@[simp] theorem slot_recordConfirmed (state : RoomState) :
    (c.recordRoomConfirmedBroadcast cfg state).slot = c.slot := by
  unfold recordRoomConfirmedBroadcast
  split
  · rfl
  · split <;> rfl

@[simp] theorem slot_broadcastPlayback (source : EventSource) (naturalEnd : Bool) :
    (c.broadcastPlayback cfg video source naturalEnd).slot = c.slot := by
  unfold broadcastPlayback
  split <;> rfl

@[simp] theorem slot_classify (page : Page) :
    (c.classifyUnobservedPauseAsBuffer cfg video page).slot = c.slot := by
  unfold classifyUnobservedPauseAsBuffer
  split
  · rfl
  · split <;> rfl

@[simp] theorem slot_scheduleBroadcast (page : Page) (source : EventSource) :
    (c.scheduleBroadcast cfg video page source).slot = c.slot := by
  simp only [scheduleBroadcast, slot_broadcastPlayback, slot_classify]

@[simp] theorem slot_rememberPlaybackAction (playState : PlayState) :
    (c.rememberExplicitPlaybackAction cfg playState).slot = c.slot := by
  unfold rememberExplicitPlaybackAction
  generalize c.isProgrammaticEventEcho _ = echo
  cases echo
  · simp only [Bool.false_eq_true, ↓reduceIte]
    split <;> rfl
  · rfl

@[simp] theorem slot_rememberUserAction (kind : ExplicitUserActionKind) :
    (c.rememberExplicitUserAction cfg kind).slot = c.slot := by
  unfold rememberExplicitUserAction
  split
  · rfl
  · split
    · split <;> rfl
    · rfl

@[simp] theorem slot_naturalEnd (page : Page) :
    (c.handleSharedVideoNaturalEnd cfg video page).slot = c.slot := by
  unfold handleSharedVideoNaturalEnd
  split <;> rfl

@[simp] theorem slot_cancelForGesture (reason : CancelReason) :
    (c.cancelForGesture cfg video reason).slot = c.slot := by
  unfold cancelForGesture
  split
  · exact slot_cancel ..
  · rfl

@[simp] theorem slot_maintain :
    (c.maintainActiveSoftApply cfg video).slot = c.slot := by
  unfold maintainActiveSoftApply settle
  split
  · rfl
  · split
    · exact slot_cancel ..
    · split
      · rfl
      · split
        · exact slot_cancel ..
        · rfl

@[simp] theorem slot_timeout : (c.softApplyTimeout cfg).slot = c.slot := by
  unfold softApplyTimeout settle
  split
  · rfl
  · split
    · exact slot_cancel ..
    · rfl

theorem slot_onCurrent {f : Nat → Content} (each : ∀ video, (f video).slot = c.slot) :
    (c.onCurrent f).slot = c.slot := by
  unfold onCurrent
  split
  · rfl
  · exact each _

@[simp] theorem slot_reset (url : Option JsString) :
    (c.resetPlaybackSyncState cfg url).slot = c.slot.cleared := by
  have same := slot_cancel cfg { c with runtime := { c.runtime with
    playbackContextGeneration := c.runtime.playbackContextGeneration + 1 } } c.current .reset
  exact congrArg (fun slot => Slot.mk none slot.activeSharedUrl) same

theorem slot_switch (page : Page) (url member : Option JsString) :
    (c.switchActiveSharedUrlWithReset cfg page url member).slot =
      if c.runtime.activeSharedUrl = url then c.slot else ⟨none, url⟩ := by
  unfold switchActiveSharedUrlWithReset
  dsimp only
  split
  · rfl
  · exact slot_reset cfg { c with runtime := { c.runtime with
      activeSharedByMemberId := member
      activeSharedUrl := url
      resolvedSharedVideoUrl := none } } (normalizedUrl cfg page.url)

@[simp] theorem slot_applyPlayback (playback : PlaybackState) (allowed : Bool) :
    (c.applyPlayback cfg video playback allowed).slot = c.slot.cleared := by
  unfold applyPlayback
  dsimp only
  rw [slot_write, slot_markProgrammatic, slot_onPlaybackAdjusted]
  rfl

/-- A media event or the room writes what is stored only onto an element that has its metadata. -/
theorem slot_applyPending (allowed : Bool) :
    (c.applyPendingPlaybackApplication cfg video allowed).slot =
      if canApplyPlaybackImmediately (c.videos video) then c.slot.cleared else c.slot := by
  unfold applyPendingPlaybackApplication
  split
  next empty =>
    split
    · exact congrArg (Slot.mk · c.runtime.activeSharedUrl) empty
    · rfl
  · split
    · exact slot_applyPlayback ..
    · rfl

/-! ### Events of the element -/

@[simp] theorem slot_softApplyGate (report : Report) (playState : PlayState) :
    (c.softApplyGate cfg report playState).content.slot = c.slot := by
  unfold softApplyGate
  dsimp only
  rw [Passage.content_holdIf]
  split
  · rw [slot_clearRemoteFollow, slot_cancel]
  · rfl

theorem slot_remoteGates (report : Report) (playState : PlayState) :
    (c.remoteGates cfg report playState).content.slot = c.slot := by
  have keeps {passage : Passage} {gate : Content → Passage} (first : passage.content.slot = c.slot)
      (next : ∀ d : Content, (gate d).content.bearing = d.bearing) :
      (passage.andThen gate).content.slot = c.slot :=
    Passage.andThen_keeps (P := fun d => d.slot = c.slot) first
      fun d same => (slot_of_bearing (next d)).trans same
  unfold remoteGates
  apply keeps _ fun d => bearing_duplicateGate cfg d report playState
  apply keeps _ fun d => bearing_playTransitionGate cfg d report playState
  apply keeps _ fun d => bearing_localEchoGate cfg d report playState
  apply keeps _ fun d => bearing_remoteStopGate cfg d report playState
  apply keeps _ fun d => bearing_remoteFollowGate cfg d report playState
  apply keeps (slot_softApplyGate cfg c report playState)
  intro d
  unfold unexpectedRateGate
  rw [Passage.content_holdIf]

theorem slot_broadcastWithIdentity (report : Report) :
    (c.broadcastPlaybackWithIdentity cfg report).slot = c.slot := by
  have page := slot_of_bearing (bearing_pageGates cfg c report)
  unfold broadcastPlaybackWithIdentity
  split
  next d held =>
    rw [held] at page
    exact page
  next d passed =>
    rw [passed] at page
    dsimp only
    generalize d.getBroadcastPlayState cfg report.video report.eventSource = playState
    have gates : ((d.ownGates cfg report playState).andThen
        (·.remoteGates cfg report playState)).content.slot = d.slot :=
      Passage.andThen_keeps (P := fun e => e.slot = d.slot)
        (slot_of_bearing (bearing_ownGates cfg d report playState))
        fun e same => (slot_remoteGates cfg e report playState).trans same
    split
    next e held =>
      rw [held] at gates
      exact gates.trans page
    next e sent =>
      rw [sent] at gates
      exact gates.trans page

theorem slot_onReady (page : Page) :
    (c.onReady cfg video page).slot = if c.opens video page then c.slot.cleared else c.slot := by
  unfold onReady opens
  cases c.forcePauseWhileWaitingForInitialRoomState video page with
  | true => rfl
  | false => simp [slot_applyPending]

theorem slot_onPause (page : Page) : (c.onPause cfg video page).slot = c.slot := by
  unfold onPause
  split
  · exact slot_naturalEnd ..
  · dsimp only
    rw [slot_scheduleBroadcast, slot_rememberUserAction, slot_rememberPlaybackAction]
    exact slot_cancelForGesture cfg c video .pause

theorem slot_onResume (page : Page) (source : EventSource) :
    (c.onResume cfg video page source).slot = c.slot := by
  have guarded := slot_of_bearing (c.bearing_guards cfg video page)
  unfold onResume
  dsimp only
  split
  · exact guarded
  · rw [slot_scheduleBroadcast, slot_rememberUserAction, slot_rememberPlaybackAction,
      slot_clearPause, guarded]

theorem slot_onBufferSignal (page : Page) (source : EventSource) :
    (c.onBufferSignal cfg video page source).slot = c.slot := by
  unfold onBufferSignal
  rw [slot_scheduleBroadcast]
  rfl

theorem slot_onSeeked (page : Page) : (c.onSeeked cfg video page).slot = c.slot := by
  unfold onSeeked
  dsimp only
  rw [slot_scheduleBroadcast]
  split
  · rw [slot_rememberUserAction, slot_cancelForGesture]
  · exact slot_cancelForGesture ..

theorem slot_onRateChange (page : Page) :
    (c.onRateChange cfg video page).slot = c.slot := by
  unfold onRateChange
  dsimp only
  rw [slot_scheduleBroadcast]
  split
  · rfl
  · split
    · rw [slot_cancel, slot_rememberUserAction]
    · exact slot_rememberUserAction ..

theorem slot_onTimeUpdate (page : Page) :
    (c.onTimeUpdate cfg video page).slot = c.slot := by
  have kept : ((c.clearActivePauseIfPlaying video).maintainActiveSoftApply cfg video).slot =
      c.slot := by
    rw [slot_maintain]
    unfold clearActivePauseIfPlaying
    split <;> rfl
  unfold onTimeUpdate
  dsimp only
  split
  · exact (slot_broadcastPlayback ..).trans kept
  · exact kept

theorem slot_onDomEvent (page : Page) (event : DomEvent) :
    (c.onDomEvent cfg video page event).slot =
      if (event = .loadedmetadata ∨ event = .canplay) ∧ c.opens video page then c.slot.cleared
      else c.slot := by
  cases event with
  | loadedmetadata => simp [onDomEvent, slot_onReady]
  | canplay => simp [onDomEvent, slot_onReady]
  | play => simp [onDomEvent, slot_onResume]
  | playing => simp [onDomEvent, slot_onResume]
  | pause => simp [onDomEvent, slot_onPause]
  | waiting => simp [onDomEvent, slot_onBufferSignal]
  | stalled => simp [onDomEvent, slot_onBufferSignal]
  | seeking => simp [onDomEvent, onSeeking]
  | seeked => simp [onDomEvent, slot_onSeeked]
  | ratechange => simp [onDomEvent, slot_onRateChange]
  | timeupdate => simp [onDomEvent, slot_onTimeUpdate]
  | ended =>
    simp only [onDomEvent, reduceCtorEq, or_self, false_and, ↓reduceIte]
    split
    · exact slot_naturalEnd ..
    · rfl

/-! ### Rooms -/

end

/-- The room shows this video from now on. -/
def Slot.shows (slot : Slot) (url : Option JsString) : Slot :=
  if slot.activeSharedUrl = url then slot else ⟨none, url⟩

def Slot.after (slot : Slot) (url : Option JsString) : Verdict → Slot
  | .emptied => ⟨slot.pending, none⟩
  | .turnedAway => slot.shows url
  | .accepted playback .deferred => ⟨some playback, url⟩
  | .accepted _ .applied => ⟨none, url⟩
  | .accepted _ _ => slot.shows url

def sharedUrl (cfg : Config) (state : RoomState) : Option JsString :=
  state.sharedVideo.bind fun shared => cfg.normalizeUrl shared.url

section
variable (cfg : Config) (c : Content) (video : Nat)

theorem slot_applyEmptyRoom : (c.applyEmptyRoom cfg).slot = ⟨c.slot.pending, none⟩ := by
  have cancelled := slot_cancel cfg c c.current .roomEmpty
  unfold applyEmptyRoom
  dsimp only
  split
  · rw [slot_accept]
    split
    · exact congrArg (fun slot => Slot.mk slot.pending none) cancelled
    · split
      · exact congrArg (fun slot => Slot.mk slot.pending none) cancelled
      · rw [slot_forcePauseIfPlaying]
        exact congrArg (fun slot => Slot.mk slot.pending none) cancelled
  · exact congrArg (fun slot => Slot.mk slot.pending none) cancelled

theorem slot_applyWithoutCurrentVideo (page : Page) (shared : SharedVideo)
    (playback : PlaybackState) :
    (c.applyWithoutCurrentVideo cfg page shared playback).slot =
      c.slot.shows (cfg.normalizeUrl shared.url) := by
  have switched : ((c.cancelActiveSoftApply cfg c.current
      .noCurrentVideo).switchActiveSharedUrlWithReset cfg page (cfg.normalizeUrl shared.url)
        shared.sharedByMemberId).slot = c.slot.shows (cfg.normalizeUrl shared.url) := by
    rw [slot_switch]
    exact congrArg (Slot.shows · (cfg.normalizeUrl shared.url))
      (slot_cancel cfg c c.current .noCurrentVideo)
  unfold applyWithoutCurrentVideo
  dsimp only
  split
  · rw [slot_forcePauseIfPlaying, slot_activatePauseHold, slot_intend]
    exact switched
  · exact switched

theorem slot_applyOnNonSharedPage (reading : RoomReading) (playback : PlaybackState) :
    (c.applyOnNonSharedPage cfg reading playback).slot = c.slot := by
  unfold applyOnNonSharedPage
  dsimp only
  rw [slot_acceptIfPending]
  split
  · rw [slot_forcePauseIfPlaying, slot_activatePauseHold]
    exact slot_cancel cfg c c.current .nonSharedPage
  · exact slot_cancel ..

theorem videos_rememberSuppression (playback : PlaybackState) :
    (c.rememberRemotePlaybackForSuppression cfg playback).videos = c.videos := rfl

theorem videos_rememberFollow (playback : PlaybackState) :
    (c.rememberRemoteFollowPlayingWindow cfg playback).videos = c.videos := by
  unfold rememberRemoteFollowPlayingWindow
  split <;> rfl

theorem slot_applyToVideo (page : Page) (playback : PlaybackState) (self : Bool) :
    (c.applyToVideo cfg video page playback self).slot =
      ⟨if canApplyPlaybackImmediately (c.videos video) then none else some playback,
        c.runtime.activeSharedUrl⟩ := by
  unfold applyToVideo
  dsimp only
  rw [slot_accept]
  generalize followed : (if playback.playState ≠ .playing then
    (c.rememberRemotePlaybackForSuppression cfg
      playback).clearRemoteFollowPlayingWindow.activatePauseHold _ else _) = d
  have same : d.slot = c.slot ∧ d.videos = c.videos := by
    rw [← followed]
    split
    · exact ⟨slot_rememberSuppression cfg c playback, videos_rememberSuppression cfg c playback⟩
    · split
      · exact ⟨slot_rememberSuppression cfg c playback, videos_rememberSuppression cfg c playback⟩
      · constructor
        · rw [slot_rememberFollow, slot_rememberSuppression]
        · rw [videos_rememberFollow, videos_rememberSuppression]
  have active : d.runtime.activeSharedUrl = c.runtime.activeSharedUrl :=
    congrArg Slot.activeSharedUrl same.1
  change (if canApplyPlaybackImmediately (d.videos video) then _ else _ : Content).slot = _
  rw [same.2]
  split
  next ready =>
    rw [slot_applyPending]
    change (if canApplyPlaybackImmediately (d.videos video) then _ else _) = _
    rw [same.2, if_pos ready]
    exact congrArg (Slot.mk none) active
  · exact congrArg (Slot.mk (some playback)) active

theorem slot_applyPlaybackOfRoom (reading : RoomReading) (playback : PlaybackState) :
    (c.applyPlaybackOfRoom cfg video reading playback).slot =
      c.slot.after c.runtime.activeSharedUrl
        (.accepted playback (c.disposal cfg video playback)) := by
  have kept := slot_cancelOutdated cfg c video playback
  have still : c.slot = c.slot.shows c.runtime.activeSharedUrl := (if_pos rfl).symm
  have active : (c.cancelOutdated cfg video playback).runtime.activeSharedUrl =
      c.runtime.activeSharedUrl := congrArg Slot.activeSharedUrl kept
  unfold applyPlaybackOfRoom disposal
  dsimp only
  split
  · exact kept.trans still
  · split
    · rw [slot_intend, slot_rememberFollow, slot_acceptIfPending]
      exact kept.trans still
    · split
      · rw [slot_intend, slot_acceptIfPending]
        exact kept.trans still
      · rw [slot_applyToVideo, active]
        split <;> rfl

theorem Slot.shows_shows (slot : Slot) (url : Option JsString) :
    (slot.shows url).shows url = slot.shows url := by
  unfold Slot.shows
  split
  · rfl
  · exact if_pos rfl

theorem Slot.after_shows (slot : Slot) (url : Option JsString) {verdict : Verdict}
    (some : verdict ≠ .emptied) : (slot.shows url).after url verdict = slot.after url verdict := by
  cases verdict with
  | emptied => exact absurd rfl some
  | turnedAway => exact slot.shows_shows url
  | accepted playback disposal =>
    cases disposal with
    | deferred => rfl
    | applied => rfl
    | selfNoop => exact slot.shows_shows url
    | withinThreshold => exact slot.shows_shows url
    | cooldown => exact slot.shows_shows url

theorem slot_switched (page : Page) (url member : Option JsString) :
    ((c.liftAnchor url).switchActiveSharedUrlWithReset cfg page url member).slot =
      c.slot.shows url := by
  have lifted := slot_liftAnchor c url
  rw [slot_switch, lifted]
  exact congrArg (fun slot => if slot.activeSharedUrl = url then c.slot else ⟨none, url⟩) lifted

theorem Slot.shows_active (slot : Slot) (url : Option JsString) :
    (slot.shows url).activeSharedUrl = url := by
  unfold Slot.shows
  split
  · assumption
  · rfl

/-- What a room state does to the slot is what its verdict says. -/
theorem slot_applyRoomState (reading : RoomReading) (state : RoomState) :
    (c.applyRoomState cfg reading state).slot =
      c.slot.after (sharedUrl cfg state) (c.verdict cfg reading state) := by
  have lifted := slot_liftAnchor c (sharedUrl cfg state)
  rcases state with ⟨shared, playback⟩
  unfold applyRoomState verdict
  cases shared with
  | none => exact (slot_applyEmptyRoom ..).trans (congrArg (Slot.mk · none) (congrArg _ lifted))
  | some shared =>
    cases playback with
    | none => exact (slot_applyEmptyRoom ..).trans (congrArg (Slot.mk · none) (congrArg _ lifted))
    | some playback =>
      dsimp only [Option.bind_some]
      have known : sharedUrl cfg ⟨some shared, some playback⟩ = cfg.normalizeUrl shared.url := rfl
      rw [known] at lifted ⊢
      cases shown : reading.page.url with
      | none =>
        simp only [Option.isNone_none, true_or, ↓reduceIte]
        exact (slot_applyWithoutCurrentVideo ..).trans (congrArg (Slot.shows · _) lifted)
      | some address =>
        have switched := slot_switched cfg c reading.page (cfg.normalizeUrl shared.url)
          shared.sharedByMemberId
        dsimp only
        generalize (c.liftAnchor (cfg.normalizeUrl shared.url)).switchActiveSharedUrlWithReset cfg
          reading.page (cfg.normalizeUrl shared.url) shared.sharedByMemberId = d at switched ⊢
        have active : d.runtime.activeSharedUrl = cfg.normalizeUrl shared.url :=
          (congrArg Slot.activeSharedUrl switched).trans (Slot.shows_active _ _)
        simp only [Option.isNone_some, Bool.false_eq_true, false_or]
        split
        · rw [slot_applyOnNonSharedPage]
          exact switched
        · cases d.current with
          | none => exact switched
          | some video =>
            dsimp only
            split
            · rw [slot_acceptIfPending]
              exact switched
            · rw [slot_applyPlaybackOfRoom, active, switched]
              apply Slot.after_shows
              simp

theorem slot_preserve (reading : RoomReading) (state : RoomState) :
    (c.preserveInitialPause cfg reading state).slot = c.slot ∨
      (c.preserveInitialPause cfg reading state).slot = c.slot.shows (sharedUrl cfg state) ∧
        ∀ d : Content, d.verdict cfg reading state ≠ .emptied := by
  rcases state with ⟨shared, playback⟩
  unfold preserveInitialPause
  cases shared with
  | none => exact .inl rfl
  | some shared =>
    cases playback with
    | none => exact .inl rfl
    | some playback =>
      dsimp only
      split
      · right
        constructor
        · have switched := slot_switch cfg c reading.page (cfg.normalizeUrl shared.url)
            shared.sharedByMemberId
          split
          · exact switched
          · rw [slot_forcePauseIfPlaying]
            exact switched
        · intro d
          unfold verdict
          dsimp only
          split
          · exact nofun
          · split
            · exact nofun
            · split <;> exact nofun
      · exact .inl rfl

/-- What a step does to the slot when the room says something. -/
theorem slot_step_heard {event : Event} {d : Content} {reading : RoomReading} {state : RoomState}
    (heard : c.roomStateOf cfg event = some (d, reading, state)) :
    (c.step cfg event).slot = c.slot.after (sharedUrl cfg state) (d.verdict cfg reading state) := by
  cases event with
  | roomState _ state =>
    simp only [roomStateOf, Option.some.injEq, Prod.mk.injEq] at heard
    obtain ⟨rfl, rfl, rfl⟩ := heard
    rw [← slot_recordConfirmed cfg c state]
    exact slot_applyRoomState ..
  | hydrates reading roomCode memberId state =>
    simp only [roomStateOf, Option.some.injEq, Prod.mk.injEq] at heard
    obtain ⟨rfl, rfl, rfl⟩ := heard
    rw [← slot_setRoomMembership c (roomCode.or c.runtime.activeRoomCode) memberId]
    have applied := slot_applyRoomState cfg ((c.setRoomMembership
      (roomCode.or c.runtime.activeRoomCode) memberId).preserveInitialPause cfg reading state)
      reading state
    rcases slot_preserve cfg (c.setRoomMembership (roomCode.or c.runtime.activeRoomCode) memberId)
      reading state with same | ⟨shown, some⟩
    · exact same ▸ applied
    · exact applied.trans (shown ▸ Slot.after_shows _ _ (some _))
  | _ => cases heard

/-- The tab of no room hears that it is in none. -/
def forgets (c : Content) : Event → Bool
  | .syncStatus _ none _ _ => c.runtime.activeRoomCode.isNone
  | _ => false

theorem slot_syncStatus (page : Page) (roomCode memberId : Option JsString) (rttMs : Option Rat) :
    (c.handleSyncStatus cfg page roomCode memberId rttMs).slot = c.slot ∨
      (c.handleSyncStatus cfg page roomCode memberId rttMs).slot.pending = none ∨
      c.forgets (.syncStatus page roomCode memberId rttMs) ∧
        (c.handleSyncStatus cfg page roomCode memberId rttMs).slot = ⟨c.slot.pending, none⟩ := by
  have measured : ({ c.setRoomMembership roomCode memberId with
      runtime := { (c.setRoomMembership roomCode memberId).runtime with
        rttMs := rttMs } } : Content).slot = c.slot := slot_setRoomMembership c roomCode memberId
  unfold handleSyncStatus
  dsimp only
  generalize left : (if c.runtime.activeRoomCode.isSome = true ∧
    c.runtime.activeRoomCode ≠ roomCode then _ else _) = d
  generalize entered : (if c.runtime.activeRoomCode.isSome = true ∧
    c.runtime.activeRoomCode ≠ roomCode then _ else _) = e
  by_cases moves : c.runtime.activeRoomCode.isSome = true ∧ c.runtime.activeRoomCode ≠ roomCode
  · have dropped : d.slot.pending = none := by
      rw [← left, if_pos moves, slot_reset]
      rfl
    have still : e.slot.pending = none := by
      rw [← entered, if_pos moves]
      exact dropped
    right; left
    split
    · exact dropped
    · split <;> exact still
  · have same : d.slot = c.slot := by
      rw [← left, if_neg moves]
      exact measured
    cases roomCode with
    | none =>
      right; right
      constructor
      · rw [forgets, Option.isNone_iff_eq_none, ← Option.not_isSome_iff_eq_none]
        exact fun inRoom => moves ⟨inRoom, fun none => by simp [none] at inRoom⟩
      · exact congrArg (fun slot => Slot.mk slot.pending none) same
    | some code =>
      left
      rw [if_neg moves] at entered
      rw [if_neg (by simp), ← entered]
      split <;> exact same

/-- What a step does to the slot when the room says nothing. -/
theorem slot_step_unheard {event : Event} (silent : c.roomStateOf cfg event = none) :
    (c.step cfg event).slot = c.slot ∨ (c.step cfg event).slot.pending = none ∨
      c.forgets event ∧ (c.step cfg event).slot = ⟨c.slot.pending, none⟩ := by
  cases event with
  | roomState => cases silent
  | hydrates => cases silent
  | syncStatus page roomCode memberId rttMs =>
    exact slot_syncStatus cfg c page roomCode memberId rttMs
  | navigates navigation =>
    right; left
    simp only [step, navigate]
    split <;> rfl
  | checks page =>
    left
    apply slot_onCurrent
    intro video
    exact slot_of_bearing (c.bearing_enforceNonSharedLoadPause cfg video page)
  | hydratesWithoutState answer =>
    left
    cases answer with
    | none => rfl
    | some joined =>
      exact slot_setRoomMembership c (joined.1.or c.runtime.activeRoomCode) joined.2
  | dom event page =>
    simp only [step, onCurrent]
    cases c.current with
    | none => exact .inl rfl
    | some video =>
      simp only [slot_onDomEvent]
      split
      · exact .inr (.inl rfl)
      · exact .inl rfl
  | answers index currentUrl =>
    left
    simp only [step]
    split
    · rfl
    · unfold resumeBroadcast
      split
      · split
        · rfl
        · exact slot_broadcastWithIdentity ..
      · rfl
  | confirms url source naturalEnd =>
    left
    apply slot_onCurrent
    intro video
    unfold broadcastConfirmedPlayback
    split
    · exact slot_broadcastWithIdentity ..
    · rfl
  | bufferPauseUpgrade =>
    left
    apply slot_onCurrent
    intro video
    unfold upgradeBufferPause
    split
    · exact slot_broadcastPlayback ..
    · rfl
  | rebroadcasts source naturalEnd =>
    left
    apply slot_onCurrent
    intro video
    exact slot_broadcastPlayback ..
  | forcesPause => exact .inl (slot_onCurrent c fun video => slot_forcePauseVideo c video)
  | softApplyTimeout => exact .inl (slot_timeout cfg c)
  | binds =>
    left
    exact slot_onCurrent c fun video => by split <;> rfl
  | _ => exact .inl rfl

end

/-! ## Runs -/

def run (cfg : Config) (c : Content) (events : List Event) : Content :=
  events.foldl (fun c event => c.step cfg event) c

/-- Every step of the run is one of these. -/
def Throughout (cfg : Config) (p : Content → Event → Prop) (c : Content) : List Event → Prop
  | [] => True
  | event :: events => p c event ∧ Throughout cfg p (c.step cfg event) events

theorem throughout_snoc {cfg : Config} {p : Content → Event → Prop} {c : Content}
    {events : List Event} {event : Event} :
    Throughout cfg p c (events ++ [event]) ↔
      Throughout cfg p c events ∧ p (run cfg c events) event := by
  induction events generalizing c with
  | nil => simp [Throughout, run]
  | cons first events ih =>
    simp only [List.cons_append, Throughout, ih, and_assoc]
    rfl

theorem run_append (cfg : Config) (c : Content) (before after : List Event) :
    run cfg c (before ++ after) = run cfg (run cfg c before) after := List.foldl_append

theorem run_snoc (cfg : Config) (c : Content) (events : List Event) (event : Event) :
    run cfg c (events ++ [event]) = (run cfg c events).step cfg event := by
  simp [run]

section
variable (cfg : Config) (c : Content)

/-- A step that leaves a stored snapshot behind. -/
def strands (event : Event) : Bool :=
  c.runtime.pendingPlaybackApplication.isSome && match c.roomStateOf cfg event with
    | some (d, reading, state) => (d.verdict cfg reading state).keepsBack
        (decide (c.runtime.activeSharedUrl = sharedUrl cfg state))
    | none => c.forgets event && c.runtime.activeSharedUrl.isSome

/-- No snapshot is accepted, no empty room is handled, and the video of the room stays. -/
def Calm (event : Event) : Prop :=
  (∀ verdict, c.hears cfg event = some verdict → verdict = .turnedAway) ∧
    (c.step cfg event).runtime.activeSharedUrl = c.runtime.activeSharedUrl

variable {cfg c}

theorem pending_of_shows {slot : Slot} {url : Option JsString} {playback : PlaybackState}
    (held : (slot.shows url).pending = some playback) :
    slot.pending = some playback ∧ slot.activeSharedUrl = url := by
  unfold Slot.shows at held
  split at held
  next same => exact ⟨held, same⟩
  · cases held

/-- What is stored after a step was stored by it, or was there before and is still up to date. -/
theorem held_step {event : Event} {playback : PlaybackState} (fair : c.strands cfg event = false)
    (held : (c.step cfg event).runtime.pendingPlaybackApplication = some playback) :
    c.stores cfg event = some playback ∨
      c.runtime.pendingPlaybackApplication = some playback ∧ c.Calm cfg event := by
  change (c.step cfg event).slot.pending = some playback at held
  cases heard : c.roomStateOf cfg event with
  | none =>
    have silent : c.hears cfg event = none := by rw [hears, heard]; rfl
    have quiet : ∀ verdict, c.hears cfg event = some verdict → verdict = .turnedAway := by
      intro verdict some
      exact nomatch silent.symm.trans some
    rcases slot_step_unheard cfg c heard with same | dropped | ⟨forgets, forgotten⟩
    · rw [same] at held
      exact .inr ⟨held, quiet, congrArg Slot.activeSharedUrl same⟩
    · exact nomatch dropped.symm.trans held
    · rw [forgotten] at held
      have none : c.runtime.activeSharedUrl = none := by
        simpa [strands, heard, forgets, show c.runtime.pendingPlaybackApplication = _ from held]
          using fair
      exact .inr ⟨held, quiet, (congrArg Slot.activeSharedUrl forgotten).trans none.symm⟩
  | some input =>
    obtain ⟨d, reading, state⟩ := input
    have slot := slot_step_heard cfg c heard
    have hears : c.hears cfg event = some (d.verdict cfg reading state) := by
      rw [hears, heard]; rfl
    have stale : c.runtime.pendingPlaybackApplication = some playback →
        (d.verdict cfg reading state).keepsBack
          (decide (c.runtime.activeSharedUrl = sharedUrl cfg state)) = false := by
      intro stored
      simpa [strands, heard, stored] using fair
    rw [slot] at held
    cases verdict : d.verdict cfg reading state with
    | emptied =>
      rw [verdict] at held stale
      exact nomatch stale held
    | turnedAway =>
      rw [verdict] at held slot hears
      obtain ⟨stored, same⟩ := pending_of_shows held
      refine .inr ⟨stored, ?_, ?_⟩
      · intro other some
        exact (Option.some.inj (hears.symm.trans some)).symm
      · exact (congrArg Slot.activeSharedUrl slot).trans
          ((Slot.shows_active _ _).trans same.symm)
    | accepted newer disposal =>
      rw [verdict] at held stale hears
      have kept (shows : (c.slot.shows (sharedUrl cfg state)).pending = some playback)
          (keeps : ∀ sameVideo, (Verdict.accepted newer disposal).keepsBack sameVideo =
            sameVideo) : False := by
        obtain ⟨stored, same⟩ := pending_of_shows shows
        have moved := stale stored
        rw [keeps, decide_eq_false_iff_not] at moved
        exact moved same
      cases disposal with
      | deferred =>
        left
        rw [stores, hears]
        exact held
      | applied => cases held
      | selfNoop => exact (kept held fun _ => rfl).elim
      | withinThreshold => exact (kept held fun _ => rfl).elim
      | cooldown => exact (kept held fun _ => rfl).elim

/-- What is stored was stored by some step, and nothing has happened to it since. -/
theorem held_run {own : Nat → Video} {events : List Event} {playback : PlaybackState}
    (fair : Throughout cfg (fun c event => c.strands cfg event = false) (start own) events)
    (held : (run cfg (start own) events).runtime.pendingPlaybackApplication = some playback) :
    ∃ before store between, events = before ++ store :: between ∧
      (run cfg (start own) before).stores cfg store = some playback ∧
      Throughout cfg (Calm cfg) (run cfg (start own) (before ++ [store])) between := by
  induction events using List.reverseRecOn with
  | nil => cases held
  | append_singleton events event ih =>
    rw [throughout_snoc] at fair
    rw [run_snoc] at held
    rcases held_step fair.2 held with stored | ⟨earlier, calm⟩
    · exact ⟨events, event, [], rfl, stored, trivial⟩
    · obtain ⟨before, store, between, rfl, stored, calmly⟩ := ih fair.1 earlier
      refine ⟨before, store, between ++ [event], by simp, stored, ?_⟩
      rw [throughout_snoc]
      refine ⟨calmly, ?_⟩
      rw [← run_append, List.append_assoc]
      exact calm

/-- The step after which `stores` names a snapshot holds it. -/
theorem pending_of_stores {event : Event} {playback : PlaybackState}
    (stored : c.stores cfg event = some playback) :
    (c.step cfg event).runtime.pendingPlaybackApplication = some playback := by
  unfold stores hears at stored
  cases heard : c.roomStateOf cfg event with
  | none => simp [heard] at stored
  | some input =>
    obtain ⟨d, reading, state⟩ := input
    have slot := slot_step_heard cfg c heard
    simp only [heard, Option.map_some] at stored
    split at stored
    next newer accepted =>
      cases stored
      rw [Option.some.inj accepted] at slot
      exact congrArg Slot.pending slot
    · cases stored

/-- The step before which `writes` names a snapshot applies it to the element. -/
theorem apply_of_writes {event : Event} {playback : PlaybackState}
    (written : c.writes event = some playback) :
    ∃ source video page, event = .dom source page ∧ c.current = some video ∧
      (source = .loadedmetadata ∨ source = .canplay) ∧
      c.onReady cfg video page = c.applyPlayback cfg video playback page.playAllowed := by
  unfold writes at written
  split at written
  next source page =>
    split at written
    · cases written
    next video shown =>
      split at written
      next opened =>
        obtain ⟨unheld, ready⟩ := Bool.and_eq_true_iff.mp opened.2
        refine ⟨source, video, page, rfl, shown, opened.1, ?_⟩
        rw [onReady, if_neg (by simpa using unheld), applyPendingPlaybackApplication, written]
        exact if_pos ready
      · cases written
  · cases written

end

/-- What a media event writes to the element is what was stored, and since then no snapshot was
accepted, no empty room was handled and the room plays the same video. -/
theorem stored_apply_is_up_to_date (cfg : Config) (own : Nat → Video) {events : List Event}
    {write : Event} {playback : PlaybackState}
    (fair : Throughout cfg (fun c event => c.strands cfg event = false) (start own) events)
    (written : (run cfg (start own) events).writes write = some playback) :
    (∃ source video page, write = .dom source page ∧
      (run cfg (start own) events).onReady cfg video page =
        (run cfg (start own) events).applyPlayback cfg video playback page.playAllowed) ∧
    ∃ before store between, events = before ++ store :: between ∧
      (run cfg (start own) before).stores cfg store = some playback ∧
      (run cfg (start own) (before ++ [store])).runtime.pendingPlaybackApplication =
        some playback ∧
      Throughout cfg (Calm cfg) (run cfg (start own) (before ++ [store])) between := by
  have pending : (run cfg (start own) events).runtime.pendingPlaybackApplication =
      some playback := by
    unfold writes at written
    split at written
    · split at written
      · cases written
      · split at written
        · exact written
        · cases written
    · cases written
  obtain ⟨source, video, page, own', -, -, applied⟩ := @apply_of_writes cfg _ write playback written
  obtain ⟨before, store, between, split, stored, calm⟩ := held_run fair pending
  refine ⟨⟨source, video, page, own', applied⟩, before, store, between, split, stored, ?_, calm⟩
  rw [run_snoc]
  exact pending_of_stores stored

/-- An element that has nothing to play yet. -/
def emptyVideo : Video where
  currentTime := 0
  playbackRate := 1
  defaultPlaybackRate := 1
  paused := false
  readyState := 0
  hasDuration := false

/-- The room plays the video of the page, at this time. -/
def playsAt (currentTime : Rat) : Event :=
  .roomState ⟨{ url := some roomUrl }, false⟩
    { sharedVideo := some ⟨roomUrl, none⟩
      playback := some
        { url := roomUrl, currentTime, playState := .playing, playbackRate := 1
          actorId := (ascii "peer").units } }

def getsMetadata : Event := .moves 0 0 false 4 true

def canPlay : Event := .dom .canplay { url := some roomUrl }

def wiring : Config where
  normalizeUrl := some

theorem stored_apply_on_canplay :
    ∃ playback before store between,
      [.shows (some 0), playsAt 50, getsMetadata] = before ++ store :: between ∧
      (run wiring (start fun _ => emptyVideo) before).stores wiring store = some playback ∧
      (run wiring (start fun _ => emptyVideo)
        (before ++ [store])).runtime.pendingPlaybackApplication = some playback ∧
      Throughout wiring (Calm wiring)
        (run wiring (start fun _ => emptyVideo) (before ++ [store])) between := by
  have law := @stored_apply_is_up_to_date wiring (fun _ => emptyVideo)
    [.shows (some 0), playsAt 50, getsMetadata] canPlay
    ⟨roomUrl, 50, .playing, none, 1, false, false, (ascii "peer").units⟩
  refine ⟨_, (law ?_ ?_).2⟩
  · exact ⟨by decide +kernel, by decide +kernel, by decide +kernel, trivial⟩
  · decide +kernel

/-- The room is back at the start of the video, which is where the element is. Its metadata then
takes the element to where the room was before. -/
theorem overtaken_snapshot_is_written :
    ∃ (old new : PlaybackState),
      (run wiring (start fun _ => emptyVideo) [.shows (some 0)]).stores wiring (playsAt 50) =
        some old ∧
      (run wiring (start fun _ => emptyVideo) [.shows (some 0), playsAt 50]).hears wiring
        (playsAt (1 / 5)) = some (.accepted new .withinThreshold) ∧ new ≠ old ∧
      (run wiring (start fun _ => emptyVideo)
        [.shows (some 0), playsAt 50, playsAt (1 / 5), getsMetadata]).writes canPlay = some old ∧
      ((run wiring (start fun _ => emptyVideo)
        [.shows (some 0), playsAt 50, playsAt (1 / 5), getsMetadata, canPlay]).videos
          0).currentTime = 50 := by
  refine ⟨⟨roomUrl, 50, .playing, none, 1, false, false, (ascii "peer").units⟩,
    ⟨roomUrl, 1 / 5, .playing, none, 1, false, false, (ascii "peer").units⟩, ?_, ?_, ?_, ?_, ?_⟩
  · decide +kernel
  · decide +kernel
  · decide +kernel
  · decide +kernel
  · decide +kernel

end Content

end BiliSyncPlay.Player
