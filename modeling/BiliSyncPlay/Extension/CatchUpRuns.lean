import BiliSyncPlay.Extension.CatchUpRates
import Mathlib.Logic.Relation

/-!
# The rate of a catch-up stays at home

Over every run in which only the extension writes a rate: the payloads for the wire carry a base
rate, and an element that no session holds up has one. The run is careful: the user is not taken for
the one who changed a rate of the extension, a payload is built for the address of the session, and
the page brings back no element that was left with another rate.
-/

namespace BiliSyncPlay.Player

open Json Relation

/-! ## What a broadcast carries -/

/-- The ledger with what decides whether a session is the one of an address. -/
structure Bearing where
  ledger : Ledger
  activeRoomCode : Option JsString
  activeSharedUrl : Option JsString
  resolvedSharedVideoUrl : Option JsString

namespace Content

def bearing (c : Content) : Bearing where
  ledger := c.ledger
  activeRoomCode := c.runtime.activeRoomCode
  activeSharedUrl := c.runtime.activeSharedUrl
  resolvedSharedVideoUrl := c.runtime.resolvedSharedVideoUrl

variable {d : Content}

theorem matches_of_bearing {c : Content} (same : c.bearing = d.bearing) (url : Option JsString) :
    c.matchesActiveSession url = d.matchesActiveSession url := by
  have session : c.activeSoftApply = d.activeSoftApply :=
    congrArg (Ledger.session ∘ Bearing.ledger) same
  have resolved := congrArg Bearing.resolvedSharedVideoUrl same
  have active := congrArg Bearing.activeSharedUrl same
  simp only [bearing] at resolved active
  unfold matchesActiveSession
  rw [session, resolved, active]

theorem nonShared_of_bearing {c : Content} (same : c.bearing = d.bearing) (url : Option JsString) :
    c.onNonSharedPage url = d.onNonSharedPage url := by
  have room := congrArg Bearing.activeRoomCode same
  have active := congrArg Bearing.activeSharedUrl same
  simp only [bearing] at room active
  unfold onNonSharedPage
  rw [room, active]

variable (cfg : Config)

theorem bearing_sharerEndedGate (c : Content) (report : Report) :
    (c.sharerEndedGate cfg report).content.bearing = c.bearing := by
  unfold sharerEndedGate
  split
  · rfl
  · dsimp only
    split <;> rfl

theorem bearing_postNavigationGate (c : Content) (report : Report) :
    (c.postNavigationGate cfg report).content.bearing = c.bearing := by
  unfold postNavigationGate
  split
  · rfl
  · split
    · rfl
    · split <;> rfl

theorem bearing_nonSharedGate (c : Content) (report : Report) :
    (c.nonSharedGate cfg report).content.bearing = c.bearing := by
  unfold nonSharedGate
  dsimp only
  split
  · dsimp only [Passage.content]
    split <;> rfl
  · rfl

theorem bearing_localEndPauseGate (c : Content) (report : Report) (playState : PlayState) :
    (c.localEndPauseGate cfg report playState).content.bearing = c.bearing := by
  unfold localEndPauseGate
  dsimp only
  split
  · rfl
  · split <;> rfl

theorem bearing_programmaticGate (c : Content) (report : Report) (playState : PlayState) :
    (c.programmaticGate cfg report playState).content.bearing = c.bearing := by
  unfold programmaticGate shouldSuppressProgrammaticEvent
  rw [Passage.content_holdIf]
  repeat' split
  all_goals rfl

theorem bearing_remoteFollowGate (c : Content) (report : Report) (playState : PlayState) :
    (c.remoteFollowGate cfg report playState).content.bearing = c.bearing := by
  unfold remoteFollowGate shouldSuppressRemoteFollowupBroadcast
  rw [Passage.content_holdIf]
  repeat' split
  all_goals rfl

theorem bearing_remoteStopGate (c : Content) (report : Report) (playState : PlayState) :
    (c.remoteStopGate cfg report playState).content.bearing = c.bearing := by
  unfold remoteStopGate
  split <;> rfl

theorem bearing_localEchoGate (c : Content) (report : Report) (playState : PlayState) :
    (c.localEchoGate cfg report playState).content.bearing = c.bearing := by
  unfold localEchoGate shouldSuppressLocalEcho
  rw [Passage.content_holdIf]
  repeat' split
  all_goals rfl

theorem bearing_playTransitionGate (c : Content) (report : Report) (playState : PlayState) :
    (c.playTransitionGate cfg report playState).content.bearing = c.bearing := by
  unfold playTransitionGate shouldSuppressRemotePlayTransition
  rw [Passage.content_holdIf]
  repeat' split
  all_goals rfl

theorem bearing_duplicateGate (c : Content) (report : Report) (playState : PlayState) :
    (c.duplicateGate cfg report playState).content.bearing = c.bearing := by
  unfold duplicateGate
  split <;> rfl

theorem bearing_pageGates (c : Content) (report : Report) :
    (c.pageGates cfg report).content.bearing = c.bearing :=
  Passage.andThen_keeps (P := fun d => d.bearing = c.bearing)
    (Passage.andThen_keeps (P := fun d => d.bearing = c.bearing)
      (c.bearing_sharerEndedGate cfg report)
      fun d same => (d.bearing_postNavigationGate cfg report).trans same)
    fun d same => (d.bearing_nonSharedGate cfg report).trans same

theorem bearing_ownGates (c : Content) (report : Report) (playState : PlayState) :
    (c.ownGates cfg report playState).content.bearing = c.bearing :=
  Passage.andThen_keeps (P := fun d => d.bearing = c.bearing)
    (c.bearing_localEndPauseGate cfg report playState)
    fun d same => (d.bearing_programmaticGate cfg report playState).trans same

theorem bearing_rememberPlaybackAction (c : Content) (playState : PlayState) :
    (c.rememberExplicitPlaybackAction cfg playState).bearing = c.bearing := by
  unfold rememberExplicitPlaybackAction
  generalize c.isProgrammaticEventEcho _ = echo
  cases echo
  · simp only [Bool.false_eq_true, ↓reduceIte]
    split <;> rfl
  · rfl

theorem bearing_preAuthorize (c : Content) (page : Page) :
    (c.preAuthorizeExplicitNonSharedPlay cfg page).bearing = c.bearing := by
  unfold preAuthorizeExplicitNonSharedPlay
  split
  · rfl
  · split
    · exact c.bearing_rememberPlaybackAction cfg .playing
    · rfl

theorem bearing_preRecord (c : Content) (page : Page) :
    (c.preRecord cfg page).bearing = c.bearing := by
  unfold preRecord
  split
  · exact c.bearing_preAuthorize cfg page
  · rfl

theorem bearing_enforceNonSharedLoadPause (c : Content) (video : Nat) (page : Page) :
    (c.enforceNonSharedLoadPause cfg video page).bearing = c.bearing := by
  unfold enforceNonSharedLoadPause
  dsimp only
  split
  · rfl
  · split
    · exact c.bearing_preAuthorize cfg page
    · rfl

/-- The guards of a resumed playback. -/
theorem bearing_guards (c : Content) (video : Nat) (page : Page) :
    ((c.preRecord cfg page).guardUnexpectedResume cfg video page).bearing = c.bearing := by
  rw [← c.bearing_preRecord cfg page]
  unfold guardUnexpectedResume
  dsimp only
  split
  · exact bearing_enforceNonSharedLoadPause ..
  · rfl

variable {report : Report}

/-- A broadcast that reaches its own guards is not about a video the room does not play. -/
theorem pageGates_passed {c : Content} (passed : c.pageGates cfg report = .passed d) :
    c.onNonSharedPage (report.normalizedUrl cfg) = false := by
  obtain ⟨mid, before, last⟩ := Passage.andThen_passed passed
  have same : mid.bearing = c.bearing := by
    have keeps := Passage.andThen_keeps (P := fun d => d.bearing = c.bearing)
      (c.bearing_sharerEndedGate cfg report)
      fun d same => (d.bearing_postNavigationGate cfg report).trans same
    rw [before] at keeps
    exact keeps
  rw [← nonShared_of_bearing same]
  unfold nonSharedGate at last
  dsimp only at last
  split at last
  · exact nomatch last
  next shared => exact Bool.not_eq_true _ ▸ shared

/-- A payload for the address carries a base rate: the session is the one of the address, or holds
nothing up. -/
def Tells (c : Content) (url : Option JsString) : Prop :=
  c.matchesActiveSession url = true ∨ ¬c.ledger.Elevated

theorem Tells.of_bearing {c : Content} {url : Option JsString} (tells : c.Tells url)
    (same : d.bearing = c.bearing) : d.Tells url := by
  have ledger : d.ledger = c.ledger := congrArg Bearing.ledger same
  exact tells.imp (matches_of_bearing same url).trans (ledger ▸ ·)

variable {own : Nat → Video}

/-- The rate a payload for the address would carry is near a base. -/
theorem near_payload {c : Content} {url : Option JsString} (sound : c.ledger.Sound cfg own)
    (tells : c.Tells url) (video : Nat) (shown : c.current = some video) :
    c.ledger.Near own
      ((c.getActiveCorrectionBaseRate url).getD (c.videos video).playbackRate) := by
  unfold getActiveCorrectionBaseRate
  split
  next same =>
    cases active : c.activeSoftApply with
    | none => simp [matchesActiveSession, active] at same
    | some session => exact (sound.restores session active).near
  next other => exact (sound.near (tells.resolve_left other) video shown).1

/-- A snapshot never ends a session as the user would. -/
theorem shouldCancel_forced (c : Content) (playback : PlaybackState) :
    c.shouldCancelActiveSoftApplyForPlayback cfg playback ≠ some .userRatechange := by
  unfold shouldCancelActiveSoftApplyForPlayback
  repeat' split
  all_goals simp

/-- What a broadcast that goes on rests on. -/
structure Telling (own : Nat → Video) (report : Report) (c : Content) : Prop where
  sound : c.ledger.Sound cfg own
  shown : c.current = some report.video
  tells : c.Tells (report.normalizedUrl cfg)

variable {cfg}

theorem Telling.of_bearing {c : Content} (telling : Telling cfg own report c)
    (same : d.bearing = c.bearing) : Telling cfg own report d := by
  have ledger : d.ledger = c.ledger := congrArg Bearing.ledger same
  have current : d.current = c.current := congrArg Ledger.current ledger
  exact ⟨ledger ▸ telling.sound, current.trans telling.shown, telling.tells.of_bearing same⟩

theorem Telling.softApplyGate {c : Content} (telling : Telling cfg own report c)
    (playState : PlayState) :
    Telling cfg own report (c.softApplyGate cfg report playState).content := by
  unfold Content.softApplyGate
  dsimp only
  rw [Passage.content_holdIf]
  split
  next interrupts =>
    have ledger : ((c.cancelActiveSoftApply cfg (some report.video)
        .bufferInterrupt).clearRemoteFollowPlayingWindow).ledger =
        c.ledger.cancelled .bufferInterrupt := by
      rw [ledger_clearRemoteFollow, ← telling.shown, ledger_cancel]
    have idle : (c.ledger.cancelled .bufferInterrupt).session = none := by
      unfold Ledger.cancelled
      split
      · assumption
      · rfl
    have current : (c.ledger.cancelled .bufferInterrupt).current = c.current := by
      unfold Ledger.cancelled
      split <;> rfl
    refine ⟨?_, ?_, .inr ?_⟩
    · rw [ledger]
      exact telling.sound.cancelled _ fun user => (nomatch user)
    · exact (congrArg Ledger.current ledger).trans (current.trans telling.shown)
    · rw [ledger]
      rintro ⟨session, -, active, -⟩
      exact nomatch idle.symm.trans active
  · exact telling

theorem Telling.remoteGates {c : Content} (telling : Telling cfg own report c)
    (playState : PlayState) :
    Telling cfg own report (c.remoteGates cfg report playState).content := by
  unfold Content.remoteGates
  refine Passage.andThen_keeps ?_ fun d t => t.of_bearing (d.bearing_duplicateGate cfg report _)
  refine Passage.andThen_keeps ?_ fun d t =>
    t.of_bearing (d.bearing_playTransitionGate cfg report _)
  refine Passage.andThen_keeps ?_ fun d t => t.of_bearing (d.bearing_localEchoGate cfg report _)
  refine Passage.andThen_keeps ?_ fun d t => t.of_bearing (d.bearing_remoteStopGate cfg report _)
  refine Passage.andThen_keeps ?_ fun d t => t.of_bearing (d.bearing_remoteFollowGate cfg report _)
  refine Passage.andThen_keeps ?_ fun d t => ?_
  · exact telling.softApplyGate playState
  · unfold Content.unexpectedRateGate
    rwa [Passage.content_holdIf]

theorem Telling.send {c : Content} (telling : Telling cfg own report c) (playState : PlayState) :
    (c.sendPlaybackUpdate cfg report playState).ledger.Sound cfg own := by
  have sound := telling.sound
  refine ⟨sound.restores, sound.idle, sound.addressed, ?_, sound.shared⟩
  intro playback mem
  rcases List.mem_cons.mp mem with rfl | old
  · exact near_payload cfg sound telling.tells report.video telling.shown
  · exact sound.sent playback old

theorem sound_broadcast {c : Content} (sound : c.ledger.Sound cfg own)
    (shown : c.current = some report.video)
    (careful : c.onNonSharedPage (report.normalizedUrl cfg) = true ∨
      c.Tells (report.normalizedUrl cfg)) :
    (c.broadcastPlaybackWithIdentity cfg report).ledger.Sound cfg own := by
  have page := c.bearing_pageGates cfg report
  unfold broadcastPlaybackWithIdentity
  split
  next d held =>
    rw [held] at page
    have same : d.ledger = c.ledger := congrArg Bearing.ledger page
    rw [same]
    exact sound
  next d passed =>
    have shared := pageGates_passed cfg passed
    rw [passed] at page
    have tells := careful.resolve_left (by simp [shared])
    have telling : Telling cfg own report d :=
      Telling.of_bearing ⟨sound, shown, tells⟩ page
    have gates : Telling cfg own report
        ((d.ownGates cfg report (d.getBroadcastPlayState cfg report.video
          report.eventSource)).andThen (·.remoteGates cfg report
            (d.getBroadcastPlayState cfg report.video report.eventSource))).content :=
      Passage.andThen_keeps (telling.of_bearing (d.bearing_ownGates cfg report _))
        fun e t => t.remoteGates _
    dsimp only
    split
    next e held =>
      rw [held] at gates
      exact gates.sound
    next e sent =>
      rw [sent] at gates
      exact gates.send _

/-! ## Every step -/

section
variable {c : Content}

theorem sound_of_bearing (sound : c.ledger.Sound cfg own) (same : d.bearing = c.bearing) :
    d.ledger.Sound cfg own := by
  have ledger : d.ledger = c.ledger := congrArg Bearing.ledger same
  exact ledger ▸ sound

theorem sound_cancel (sound : c.ledger.Sound cfg own) (reason : CancelReason)
    (forced : reason ≠ .userRatechange) :
    (c.cancelActiveSoftApply cfg c.current reason).ledger.Sound cfg own := by
  rw [ledger_cancel]
  exact sound.cancelled reason fun user => absurd user forced

variable {video : Nat}

theorem sound_cancel_shown (sound : c.ledger.Sound cfg own) (shown : c.current = some video)
    (reason : CancelReason) (forced : reason ≠ .userRatechange) :
    (c.cancelActiveSoftApply cfg (some video) reason).ledger.Sound cfg own :=
  shown ▸ sound_cancel sound reason forced

theorem current_cancel (shown : c.current = some video) (reason : CancelReason) :
    (c.cancelActiveSoftApply cfg (some video) reason).current = some video := by
  have ledger := c.ledger_cancel cfg reason
  rw [shown] at ledger
  refine (congrArg Ledger.current ledger).trans ?_
  unfold Ledger.cancelled
  split <;> exact shown

section
variable (sound : c.ledger.Sound cfg own)
include sound

theorem sound_settle (session : Session) :
    (c.settle cfg c.current session).ledger.Sound cfg own := by
  refine sound_cancel sound _ ?_
  split <;> exact fun user => nomatch user

theorem sound_timeout :
    (c.softApplyTimeout cfg).ledger.Sound cfg own := by
  unfold softApplyTimeout
  split
  · exact sound
  · split
    · exact sound_settle sound _
    · exact sound

theorem sound_maintain (shown : c.current = some video) :
    (c.maintainActiveSoftApply cfg video).ledger.Sound cfg own := by
  unfold maintainActiveSoftApply
  split
  · exact sound
  · split
    · exact shown ▸ sound_settle sound _
    · split
      · exact sound
      · split
        · exact sound_cancel_shown sound shown _ (nomatch ·)
        · exact sound

theorem sound_pending (shown : c.current = some video) (allowed : Bool) :
    (c.applyPendingPlaybackApplication cfg video allowed).ledger.Sound cfg own := by
  unfold applyPendingPlaybackApplication
  split
  · exact sound
  next playback pending =>
    split
    · exact sound.applyPlayback video shown playback (sound.addressed playback pending) allowed
    · exact sound

theorem sound_reset (url : Option JsString) :
    (c.resetPlaybackSyncState cfg url).ledger.Sound cfg own := by
  have cancelled : ({ c with runtime := { c.runtime with
      playbackContextGeneration := c.runtime.playbackContextGeneration + 1 } }.cancelActiveSoftApply
        cfg c.current .reset).ledger.Sound cfg own :=
    sound_cancel (c := { c with runtime := { c.runtime with
      playbackContextGeneration := c.runtime.playbackContextGeneration + 1 } }) sound _ (nomatch ·)
  exact cancelled.forget

/-! ### Handlers -/

theorem sound_cancelForGesture (shown : c.current = some video) (reason : CancelReason)
    (forced : reason ≠ .userRatechange) :
    (c.cancelForGesture cfg video reason).ledger.Sound cfg own := by
  unfold cancelForGesture
  split
  · exact sound_cancel_shown sound shown reason forced
  · exact sound

theorem sound_onReady (shown : c.current = some video) (page : Page) :
    (c.onReady cfg video page).ledger.Sound cfg own := by
  unfold onReady
  split
  · exact sound
  · exact sound_pending sound shown _

end

/-- The user may only be taken for the one who changed the rate while no session holds it up. -/
def TakesFairly (cfg : Config) (c : Content) (video : Nat) (page : Page) : Prop :=
  c.shouldTreatRateChangeAsProgrammatic cfg video page = false → c.takesRate cfg = true →
    ¬c.ledger.Elevated

theorem takesRate_remember (kind : ExplicitUserActionKind) :
    (c.rememberExplicitUserAction cfg kind).takesRate cfg = c.takesRate cfg := by
  unfold rememberExplicitUserAction
  split
  · rfl
  · split
    · split <;> rfl
    · rfl

section
variable (sound : c.ledger.Sound cfg own)
include sound

theorem sound_onRateChange (shown : c.current = some video) (page : Page)
    (fair : TakesFairly cfg c video page) :
    (c.onRateChange cfg video page).ledger.Sound cfg own := by
  have remembered := c.ledger_rememberUserAction cfg .ratechange
  unfold onRateChange
  dsimp only
  rw [ledger_scheduleBroadcast]
  split
  · exact sound
  next foreign =>
    split
    next takes =>
      have here : (c.rememberExplicitUserAction cfg .ratechange).current = some video :=
        (congrArg Ledger.current remembered).trans shown
      rw [← here, ledger_cancel, remembered]
      refine sound.cancelled _ fun _ => fair (Bool.not_eq_true _ ▸ foreign) ?_
      rw [← takesRate_remember .ratechange]
      exact takes
    · rw [remembered]
      exact sound

theorem sound_onTimeUpdate (shown : c.current = some video) (page : Page) :
    (c.onTimeUpdate cfg video page).ledger.Sound cfg own := by
  have cleared : (c.clearActivePauseIfPlaying video).ledger = c.ledger := by
    unfold clearActivePauseIfPlaying
    split <;> rfl
  have kept : ((c.clearActivePauseIfPlaying video).maintainActiveSoftApply cfg
      video).ledger.Sound cfg own := by
    refine sound_maintain (cleared ▸ sound) ?_
    exact (congrArg Ledger.current cleared).trans shown
  unfold onTimeUpdate
  dsimp only
  split
  · rw [ledger_broadcastPlayback]
    exact kept
  · exact kept

theorem sound_onPause (shown : c.current = some video) (page : Page) :
    (c.onPause cfg video page).ledger.Sound cfg own := by
  unfold onPause
  split
  · rw [ledger_naturalEnd]
    exact sound
  · dsimp only
    rw [ledger_scheduleBroadcast, ledger_rememberUserAction, ledger_rememberPlaybackAction]
    exact sound_cancelForGesture sound shown .pause (nomatch ·)

theorem sound_onDomEvent (shown : c.current = some video) (page : Page) (event : DomEvent)
    (fair : event = .ratechange → TakesFairly cfg c video page) :
    (c.onDomEvent cfg video page event).ledger.Sound cfg own := by
  have resumes : ∀ source, (c.onResume cfg video page source).ledger.Sound cfg own := by
    intro source
    have guarded := sound_of_bearing sound (c.bearing_guards cfg video page)
    unfold onResume
    dsimp only
    split
    · exact guarded
    · rw [ledger_scheduleBroadcast, ledger_rememberUserAction, ledger_rememberPlaybackAction]
      exact guarded
  have signals : ∀ source, (c.onBufferSignal cfg video page source).ledger.Sound cfg own := by
    intro source
    unfold onBufferSignal
    rw [ledger_scheduleBroadcast]
    exact sound
  cases event with
  | play => exact resumes _
  | playing => exact resumes _
  | pause => exact sound_onPause sound shown page
  | waiting => exact signals _
  | stalled => exact signals _
  | loadedmetadata => exact sound_onReady sound shown page
  | canplay =>
    simp only [onDomEvent, ledger_scheduleBroadcast]
    exact sound_onReady sound shown page
  | seeking =>
    simp only [onDomEvent, onSeeking, ledger_scheduleBroadcast, ledger_rememberUserAction]
    exact sound_cancelForGesture sound shown _ (nomatch ·)
  | seeked =>
    have cancelled := sound_cancelForGesture sound shown .seek (nomatch ·)
    simp only [onDomEvent, onSeeked, ledger_scheduleBroadcast]
    split
    · rw [ledger_rememberUserAction]
      exact cancelled
    · exact cancelled
  | ratechange => exact sound_onRateChange sound shown page (fair rfl)
  | timeupdate => exact sound_onTimeUpdate sound shown page
  | ended =>
    simp only [onDomEvent]
    split
    · rw [ledger_naturalEnd]
      exact sound
    · exact sound

/-! ### Rooms -/

theorem sound_switch (page : Page) (url member : Option JsString) :
    (c.switchActiveSharedUrlWithReset cfg page url member).ledger.Sound cfg own := by
  unfold switchActiveSharedUrlWithReset
  dsimp only
  split
  · exact sound
  · exact sound_reset (c := { c with runtime := { c.runtime with
      activeSharedByMemberId := member
      activeSharedUrl := url
      resolvedSharedVideoUrl := none } }) sound (normalizedUrl cfg page.url)

theorem sound_applyEmptyRoom :
    (c.applyEmptyRoom cfg).ledger.Sound cfg own := by
  have cancelled := sound_cancel sound .roomEmpty (nomatch ·)
  unfold applyEmptyRoom
  dsimp only
  split
  · rw [ledger_accept]
    split
    · exact cancelled
    · split
      · exact cancelled
      · rw [ledger_forcePauseIfPlaying]
        exact cancelled
  · exact cancelled

theorem sound_applyWithoutCurrentVideo (page : Page) (shared : SharedVideo)
    (playback : PlaybackState) :
    (c.applyWithoutCurrentVideo cfg page shared playback).ledger.Sound cfg own := by
  have switched := sound_switch (sound_cancel sound .noCurrentVideo (nomatch ·)) page
    (cfg.normalizeUrl shared.url) shared.sharedByMemberId
  unfold applyWithoutCurrentVideo
  dsimp only
  split
  · rw [ledger_forcePauseIfPlaying, ledger_activatePauseHold, ledger_intend]
    exact switched
  · exact switched

theorem sound_applyOnNonSharedPage (reading : RoomReading) (playback : PlaybackState) :
    (c.applyOnNonSharedPage cfg reading playback).ledger.Sound cfg own := by
  have cancelled := sound_cancel sound .nonSharedPage (nomatch ·)
  unfold applyOnNonSharedPage
  dsimp only
  rw [ledger_acceptIfPending]
  split
  · rw [ledger_forcePauseIfPlaying, ledger_activatePauseHold]
    exact cancelled
  · exact cancelled

theorem sound_applyToVideo (shown : c.current = some video) (page : Page) (playback : PlaybackState)
    (self : Bool) (addressed : (cfg.normalizeUrl playback.url).isSome) :
    (c.applyToVideo cfg video page playback self).ledger.Sound cfg own := by
  have pend : { c.ledger with pending := some playback }.Sound cfg own := by
    refine ⟨sound.restores, sound.idle, ?_, sound.sent, sound.shared⟩
    rintro _ ⟨⟩
    exact addressed
  unfold applyToVideo
  dsimp only
  rw [ledger_accept]
  generalize followed : (if playback.playState ≠ .playing then
    (c.rememberRemotePlaybackForSuppression cfg
      playback).clearRemoteFollowPlayingWindow.activatePauseHold _ else _) = d
  have same : d.ledger = c.ledger := by
    rw [← followed]
    split
    · rfl
    · split
      · rfl
      · rw [ledger_rememberFollow, ledger_rememberSuppression]
  have held : ({ d.intend playback with runtime := { (d.intend playback).runtime with
      pendingPlaybackApplication := some playback } } : Content).ledger.Sound cfg own := by
    have ledger : ({ d.intend playback with runtime := { (d.intend playback).runtime with
        pendingPlaybackApplication := some playback } } : Content).ledger =
        { d.ledger with pending := some playback } := rfl
    rw [ledger, same]
    exact pend
  have here : d.current = some video := (congrArg Ledger.current same).trans shown
  split
  · exact sound_pending held here _
  · exact held

theorem sound_applyPlaybackOfRoom (shown : c.current = some video) (reading : RoomReading)
    (playback : PlaybackState) (addressed : (cfg.normalizeUrl playback.url).isSome) :
    (c.applyPlaybackOfRoom cfg video reading playback).ledger.Sound cfg own := by
  unfold applyPlaybackOfRoom
  dsimp only
  have kept : (c.cancelOutdated cfg video playback).ledger.Sound cfg own ∧
      (c.cancelOutdated cfg video playback).current = some video := by
    unfold cancelOutdated
    split
    next reason cancels =>
      refine ⟨sound_cancel_shown sound shown reason ?_, current_cancel shown reason⟩
      rintro rfl
      exact c.shouldCancel_forced cfg playback cancels
    · exact ⟨sound, shown⟩
  split
  · exact kept.1
  · split
    · rw [ledger_intend, ledger_rememberFollow, ledger_acceptIfPending]
      exact kept.1
    · split
      · rw [ledger_intend, ledger_acceptIfPending]
        exact kept.1
      · exact sound_applyToVideo kept.1 kept.2 _ _ _ addressed

theorem sound_applyRoomState (reading : RoomReading) (state : RoomState) :
    (c.applyRoomState cfg reading state).ledger.Sound cfg own := by
  unfold applyRoomState
  dsimp only
  generalize state.sharedVideo.bind (fun shared => cfg.normalizeUrl shared.url) = url
  have kept : (c.liftAnchor url).ledger.Sound cfg own := by
    unfold liftAnchor
    split <;> exact sound
  split
  next shared playback _ _ =>
    split
    · exact sound_applyWithoutCurrentVideo kept _ _ _
    · have switched := sound_switch kept reading.page url shared.sharedByMemberId
      split
      · exact sound_applyOnNonSharedPage switched _ _
      next shown =>
        split
        · exact switched
        next video here =>
          split
          · rw [ledger_acceptIfPending]
            exact switched
          · refine sound_applyPlaybackOfRoom switched here _ _ ?_
            simp only [not_or, Bool.not_eq_true, ne_eq, not_not] at shown
            rw [shown.2.2]
            exact Option.isSome_iff_ne_none.mpr fun absent => by simp [absent] at shown
  · exact sound_applyEmptyRoom kept

theorem sound_hydrate (reading : RoomReading) (roomCode memberId : Option JsString)
    (state : RoomState) :
    (c.hydrateRoomState cfg reading roomCode memberId state).ledger.Sound cfg own := by
  have joined : (c.setRoomMembership (roomCode.or c.runtime.activeRoomCode)
      memberId).ledger.Sound cfg own := by
    rw [ledger_setRoomMembership]
    exact sound
  unfold hydrateRoomState
  refine sound_applyRoomState ?_ reading state
  unfold preserveInitialPause
  split
  next shared playback _ _ =>
    dsimp only
    split
    · have switched := sound_switch joined reading.page (cfg.normalizeUrl shared.url)
        shared.sharedByMemberId
      split
      · exact switched
      · rw [ledger_forcePauseIfPlaying]
        exact switched
    · exact joined
  · exact joined

theorem sound_syncStatus (page : Page) (roomCode memberId : Option JsString) (rttMs : Option Rat) :
    (c.handleSyncStatus cfg page roomCode memberId rttMs).ledger.Sound cfg own := by
  have measured : ({ c.setRoomMembership roomCode memberId with
      runtime := { (c.setRoomMembership roomCode memberId).runtime with
        rttMs := rttMs } } : Content).ledger.Sound cfg own := by
    have same : ({ c.setRoomMembership roomCode memberId with
      runtime := { (c.setRoomMembership roomCode memberId).runtime with
        rttMs := rttMs } } : Content).ledger = (c.setRoomMembership roomCode memberId).ledger := rfl
    rw [same, ledger_setRoomMembership]
    exact sound
  unfold handleSyncStatus
  dsimp only
  generalize left : (if c.runtime.activeRoomCode.isSome = true ∧
    c.runtime.activeRoomCode ≠ roomCode then _ else _) = d
  have kept : d.ledger.Sound cfg own := by
    rw [← left]
    split
    · exact sound_reset measured _
    · exact measured
  split
  · exact kept
  · split
    · split <;> exact kept
    · split <;> exact kept

end

/-! ### Runs -/

/-- What a careful step avoids. -/
def Careful (cfg : Config) (own : Nat → Video) (c : Content) : Event → Prop
  | .shows (some video) => c.activeSoftApply = none → c.ledger.BothNear own (c.videos video).rates
  | .dom .ratechange page => ∀ video, c.current = some video → TakesFairly cfg c video page
  | .answers _ (some url) => c.onNonSharedPage (cfg.normalizeUrl url) = true ∨
      c.Tells (cfg.normalizeUrl url)
  | .confirms url _ _ => c.onNonSharedPage (cfg.normalizeUrl url) = true ∨
      c.Tells (cfg.normalizeUrl url)
  | .shares url => c.Tells (cfg.normalizeUrl url)
  | _ => True

theorem sound_onCurrent (sound : c.ledger.Sound cfg own) {f : Nat → Content}
    (each : ∀ video, c.current = some video → (f video).ledger.Sound cfg own) :
    (c.onCurrent f).ledger.Sound cfg own := by
  unfold onCurrent
  split
  · exact sound
  next video shown => exact each video shown

theorem sound_write (sound : c.ledger.Sound cfg own) (video : Nat) (f : Video → Video)
    (among : ∀ element, (f element).rates = element.rates ∨
      (f element).rates = (element.rates.2, element.rates.2)) :
    (c.write video f).ledger.Sound cfg own := by
  refine ⟨sound.restores, ?_, sound.addressed, sound.sent, sound.shared⟩
  intro idle other shown
  have near := sound.idle idle other shown
  change c.ledger.BothNear own ((c.write video f).videos other).rates
  simp only [write]
  split
  next eq =>
    subst eq
    rcases among (c.videos other) with same | loaded
    · exact same ▸ near
    · exact loaded ▸ ⟨near.2, near.2⟩
  · exact near

theorem sound_step (sound : c.ledger.Sound cfg own) (event : Event)
    (careful : Careful cfg own c event) : (c.step cfg event).ledger.Sound cfg own := by
  cases event with
  | elapse ms => exact sound
  | shows video =>
    refine ⟨sound.restores, ?_, sound.addressed, sound.sent, sound.shared⟩
    intro idle other shown
    cases shown
    exact careful idle
  | moves => exact sound_write sound _ _ fun _ => .inl rfl
  | loads => exact sound_write sound _ _ fun _ => .inr rfl
  | binds page =>
    refine sound_onCurrent sound fun video _ => ?_
    split <;> exact sound
  | checks page =>
    apply sound_onCurrent sound
    intro video _
    exact sound_of_bearing sound (c.bearing_enforceNonSharedLoadPause cfg video page)
  | gesture => exact sound
  | dom event page =>
    refine sound_onCurrent sound fun video shown => sound_onDomEvent sound shown page event ?_
    rintro rfl
    exact careful video shown
  | rebroadcasts source naturalEnd =>
    refine sound_onCurrent sound fun video _ => ?_
    rw [ledger_broadcastPlayback]
    exact sound
  | answers index currentUrl =>
    simp only [step]
    split
    · exact sound
    next flight _ =>
      unfold resumeBroadcast
      split
      next alive =>
        split
        · exact sound
        next url =>
          have landed : ({ c with flights := c.flights.eraseIdx index } : Content).ledger.Sound
            cfg own := sound
          exact sound_broadcast landed alive.2 careful
      · exact sound
  | confirms url source naturalEnd =>
    refine sound_onCurrent sound fun video shown => ?_
    unfold broadcastConfirmedPlayback
    split
    · exact sound_broadcast sound shown careful
    · exact sound
  | bufferPauseUpgrade =>
    refine sound_onCurrent sound fun video _ => ?_
    unfold upgradeBufferPause
    split
    · rw [ledger_broadcastPlayback]
      exact sound
    · exact sound
  | softApplyTimeout => exact sound_timeout sound
  | forcesPause =>
    refine sound_onCurrent sound fun video _ => ?_
    rw [ledger_forcePauseVideo]
    exact sound
  | roomState reading state =>
    refine sound_applyRoomState ?_ reading state
    rw [ledger_recordConfirmed]
    exact sound
  | hydrates reading roomCode memberId state =>
    exact sound_hydrate sound reading roomCode memberId state
  | hydratesWithoutState answer =>
    cases answer with
    | none => exact sound
    | some joined =>
      have kept := c.ledger_setRoomMembership (joined.1.or c.runtime.activeRoomCode) joined.2
      exact kept ▸ sound
  | syncStatus page roomCode memberId rttMs =>
    exact sound_syncStatus sound page roomCode memberId rttMs
  | navigates navigation =>
    simp only [step, navigate]
    split <;> exact sound.forget
  | resolvesShared => exact sound
  | shares url =>
    refine ⟨sound.restores, sound.idle, sound.addressed, sound.sent, ?_⟩
    intro playback mem
    rcases List.mem_append.mp mem with built | old
    · unfold createSharePayload at built
      cases shown : c.current with
      | none => simp [shown] at built
      | some video =>
        simp only [shown, Option.map_some, Option.toList_some, List.mem_singleton] at built
        subst built
        exact near_payload cfg sound careful video shown
    · exact sound.shared playback old

/-- The content script of a page that was just loaded. -/
def start (own : Nat → Video) : Content := { videos := own }

def Move (cfg : Config) (own : Nat → Video) (c d : Content) : Prop :=
  ∃ event, Careful cfg own c event ∧ d = c.step cfg event

theorem sound_of_run (run : ReflTransGen (Move cfg own) (start own) d) :
    d.ledger.Sound cfg own := by
  induction run with
  | refl =>
    exact ⟨fun _ absent => (nomatch absent), fun _ _ absent => (nomatch absent),
      fun _ absent => (nomatch absent), fun _ mem => (nomatch mem), fun _ mem => (nomatch mem)⟩
  | tail _ move sound =>
    obtain ⟨event, careful, rfl⟩ := move
    exact sound_step sound event careful

end

/-- A base rate of the run so far: one the page gave an element, or one of a snapshot that was
applied. -/
def IsBase (own : Nat → Video) (c : Content) (rate : Rat) : Prop :=
  rate ∈ c.applied ∨ ∃ video, rate = (own video).playbackRate ∨
    rate = (own video).defaultPlaybackRate

def NearBase (own : Nat → Video) (c : Content) (rate : Rat) : Prop :=
  ∃ base, c.IsBase own base ∧ |rate - base| ≤ 1 / 100

theorem catch_up_rate_stays_at_home (cfg : Config) (own : Nat → Video) {c : Content}
    (run : ReflTransGen (Move cfg own) (start own) c) :
    (∀ playback ∈ c.sent, c.NearBase own playback.playbackRate) ∧
      (∀ playback ∈ c.shared, c.NearBase own playback.playbackRate) ∧
      (c.activeSoftApply = none → ∀ video, c.current = some video →
        c.NearBase own (c.videos video).playbackRate ∧
          c.NearBase own (c.videos video).defaultPlaybackRate) := by
  have sound := sound_of_run run
  exact ⟨sound.sent, sound.shared, sound.idle⟩

/-- An element at 10 seconds that plays at the plain rate. -/
def plainVideo : Video where
  currentTime := 10
  playbackRate := 1
  defaultPlaybackRate := 1
  paused := false
  readyState := 4
  hasDuration := true

def roomUrl : JsString := (ascii "https://www.bilibili.com/video/BV1xx411c7mD").units

def otherUrl : JsString := (ascii "https://www.bilibili.com/video/BV1GJ411x7h7").units

def roomName : JsString := (ascii "ABC123").units

/-- The room plays the video of the page, eight tenths of a second ahead. -/
def aheadOfPage : Event :=
  .roomState ⟨{ url := some roomUrl }, false⟩
    { sharedVideo := some ⟨roomUrl, none⟩
      playback := some
        { url := roomUrl, currentTime := 54 / 5, playState := .playing, playbackRate := 1
          actorId := (ascii "peer").units } }

/-- A share of the video of the room during a catch-up carries the rate of the room. -/
theorem shared_during_catch_up :
    ∃ c : Content, ReflTransGen (Move ⟨some, 1200, 700, 1500, 300, 1000, 700, 1800, 3000, 1200,
        3000, 1000⟩ fun _ => plainVideo) (start fun _ => plainVideo) c ∧
      c.activeSoftApply.isSome ∧ c.shared.length = 1 ∧
      ∀ playback ∈ c.shared, c.NearBase (fun _ => plainVideo) playback.playbackRate := by
  have base : ∀ c : Content, c.ledger.Base (fun _ => plainVideo) 1 :=
    fun _ => .inr ⟨0, .inl rfl⟩
  have run := ((ReflTransGen.refl (r := Move ⟨some, 1200, 700, 1500, 300, 1000, 700, 1800, 3000,
    1200, 3000, 1000⟩ fun _ => plainVideo) (a := start fun _ => plainVideo)).tail
    ⟨.shows (some 0), fun _ => (base _).both, rfl⟩).tail
    ⟨aheadOfPage, trivial, rfl⟩ |>.tail ⟨.shares roomUrl, .inl (by decide +kernel), rfl⟩
  exact ⟨_, run, by decide +kernel, by decide +kernel,
    (catch_up_rate_stays_at_home _ _ run).2.1⟩

/-- A share of another video during a catch-up carries the rate of the catch-up. -/
theorem other_video_shared_during_catch_up :
    ∃ (cfg : Config) (own : Nat → Video) (events : List Event), ∃ playback ∈
      (events.foldl (fun c event => c.step cfg event) (start own)).shared,
      ¬(events.foldl (fun c event => c.step cfg event) (start own)).NearBase own
        playback.playbackRate := by
  refine ⟨⟨some, 1200, 700, 1500, 300, 1000, 700, 1800, 3000, 1200, 3000, 1000⟩,
    fun _ => plainVideo, [.shows (some 0),
      .syncStatus { url := some roomUrl } (some roomName) none none, aheadOfPage,
      .navigates ⟨false, none, none, true, .paused, 3000, true⟩, .shares otherUrl], ?_⟩
  generalize ran : List.foldl _ _ _ = c
  have rates : c.shared.map PlaybackState.playbackRate = [29 / 25] := by
    rw [← ran]
    decide +kernel
  have applied : c.applied = [1] := by
    rw [← ran]
    decide +kernel
  obtain ⟨playback, mem, rate⟩ := List.mem_map.mp (rates ▸ List.mem_singleton_self (29 / 25 : Rat))
  refine ⟨playback, mem, ?_⟩
  rintro ⟨base, isBase, close⟩
  have plain : base = 1 := by
    rcases isBase with given | ⟨_, rate | rate⟩
    · exact List.mem_singleton.mp (applied ▸ given)
    · exact rate
    · exact rate
  rw [rate, plain] at close
  revert close
  decide +kernel

end Content

end BiliSyncPlay.Player
