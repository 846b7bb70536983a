import BiliSyncPlay.Extension.PlayerEvents

/-!
# What writes a rate

The rates of the elements, the session and what was built for the wire, and what each function of
the content script does to them. A base rate is one the page gave an element, or one of a snapshot
that was applied.
-/

namespace BiliSyncPlay.Player

open Json

/-! ## What is kept of rates -/

structure Ledger where
  session : Option Session
  current : Option Nat
  rates : Nat → Rat × Rat
  applied : List Rat
  pending : Option PlaybackState
  sent : List PlaybackState
  shared : List PlaybackState

variable (c : Content)

namespace Content

def ledger (c : Content) : Ledger where
  session := c.activeSoftApply
  current := c.current
  rates video := (c.videos video).rates
  applied := c.applied
  pending := c.runtime.pendingPlaybackApplication
  sent := c.sent
  shared := c.shared

theorem ledger_write (video : Nat) (f : Video → Video)
    (keeps : ∀ element, (f element).rates = element.rates) :
    (c.write video f).ledger = c.ledger := by
  have same : ∀ other, ((c.write video f).videos other).rates = (c.videos other).rates := by
    intro other
    simp only [write]
    split
    · next eq => rw [keeps, eq]
    · rfl
  simp only [ledger, write] at same ⊢
  simp only [same]

section
variable (cfg : Config)

@[simp] theorem ledger_arm (signature : ProgrammaticPlaybackSignature)
    (scope : ProgrammaticApplyScope) :
    (c.armProgrammaticApplyWindow cfg signature scope).ledger = c.ledger := rfl

@[simp] theorem ledger_settleCooldown (session : Session) (reason : CancelReason) :
    (c.settleCooldown session reason).ledger = c.ledger := by
  unfold settleCooldown
  split
  · rfl
  · split <;> rfl

@[simp] theorem ledger_clearRemoteFollow :
    c.clearRemoteFollowPlayingWindow.ledger = c.ledger := rfl

@[simp] theorem ledger_rememberFollow (playback : PlaybackState) :
    (c.rememberRemoteFollowPlayingWindow cfg playback).ledger = c.ledger := by
  unfold rememberRemoteFollowPlayingWindow
  split <;> rfl

@[simp] theorem ledger_rememberSuppression (playback : PlaybackState) :
    (c.rememberRemotePlaybackForSuppression cfg playback).ledger = c.ledger := rfl

@[simp] theorem ledger_activatePauseHold (ms : Rat) :
    (c.activatePauseHold ms).ledger = c.ledger := rfl

@[simp] theorem ledger_intend (playback : PlaybackState) :
    (c.intend playback).ledger = c.ledger := rfl

@[simp] theorem ledger_forcePauseVideo (video : Nat) :
    (c.forcePauseVideo video).ledger = c.ledger :=
  c.ledger_write video Video.pause fun _ => rfl

@[simp] theorem ledger_forcePauseIfPlaying :
    c.forcePauseIfPlaying.ledger = c.ledger := by
  unfold forcePauseIfPlaying
  split
  · split
    · rfl
    · exact c.ledger_forcePauseVideo _
  · rfl

@[simp] theorem ledger_acceptIfPending :
    c.acceptInitialRoomStateHydrationIfPending.ledger = c.ledger := by
  unfold acceptInitialRoomStateHydrationIfPending
  split <;> rfl

@[simp] theorem ledger_accept :
    c.acceptInitialRoomStateHydration.ledger = c.ledger := rfl

@[simp] theorem ledger_broadcastPlayback (video : Nat) (source : EventSource) (naturalEnd : Bool) :
    (c.broadcastPlayback cfg video source naturalEnd).ledger = c.ledger := by
  unfold broadcastPlayback
  split <;> rfl

@[simp] theorem ledger_classify (video : Nat) (page : Page) :
    (c.classifyUnobservedPauseAsBuffer cfg video page).ledger = c.ledger := by
  unfold classifyUnobservedPauseAsBuffer
  split
  · rfl
  · split <;> rfl

@[simp] theorem ledger_scheduleBroadcast (video : Nat) (page : Page) (source : EventSource) :
    (c.scheduleBroadcast cfg video page source).ledger = c.ledger := by
  simp only [scheduleBroadcast, ledger_broadcastPlayback, ledger_classify]

@[simp] theorem ledger_rememberPlaybackAction (playState : PlayState) :
    (c.rememberExplicitPlaybackAction cfg playState).ledger = c.ledger := by
  unfold rememberExplicitPlaybackAction
  generalize c.isProgrammaticEventEcho _ = echo
  cases echo
  · simp only [Bool.false_eq_true, ↓reduceIte]
    split <;> rfl
  · rfl

@[simp] theorem ledger_rememberUserAction (kind : ExplicitUserActionKind) :
    (c.rememberExplicitUserAction cfg kind).ledger = c.ledger := by
  unfold rememberExplicitUserAction
  split
  · rfl
  · split
    · split <;> rfl
    · rfl

@[simp] theorem ledger_naturalEnd (video : Nat) (page : Page) :
    (c.handleSharedVideoNaturalEnd cfg video page).ledger = c.ledger := by
  unfold handleSharedVideoNaturalEnd
  split
  · rw [ledger_forcePauseVideo]
    rfl
  · rfl

@[simp] theorem ledger_setRoomMembership (roomCode memberId : Option JsString) :
    (c.setRoomMembership roomCode memberId).ledger = c.ledger := by
  unfold setRoomMembership
  split <;> rfl

@[simp] theorem ledger_recordConfirmed (state : RoomState) :
    (c.recordRoomConfirmedBroadcast cfg state).ledger = c.ledger := by
  unfold recordRoomConfirmedBroadcast
  split
  · rfl
  · split <;> rfl

end

end Content

/-! ## Base rates -/

theorem differs_false {a b : Rat} : differs a b = false ↔ |a - b| ≤ 1 / 100 := by
  simp [differs]

/-- One of the two rates is not the one the session restores. -/
def Session.off (session : Session) (rates : Rat × Rat) : Prop :=
  differs rates.1 session.restorePlaybackRate ∨ differs rates.2 session.restorePlaybackRate

instance (session : Session) (rates : Rat × Rat) : Decidable (session.off rates) :=
  inferInstanceAs (Decidable (_ ∨ _))

namespace Ledger

def Base (own : Nat → Video) (l : Ledger) (rate : Rat) : Prop :=
  rate ∈ l.applied ∨ ∃ video, rate = (own video).playbackRate ∨
    rate = (own video).defaultPlaybackRate

def Near (own : Nat → Video) (l : Ledger) (rate : Rat) : Prop :=
  ∃ base, l.Base own base ∧ |rate - base| ≤ 1 / 100

def BothNear (own : Nat → Video) (l : Ledger) (rates : Rat × Rat) : Prop :=
  l.Near own rates.1 ∧ l.Near own rates.2

variable {own : Nat → Video} {l m : Ledger}

theorem Base.near {rate : Rat} (base : l.Base own rate) : l.Near own rate :=
  ⟨rate, base, by simp⟩

theorem Base.both {rate : Rat} (base : l.Base own rate) : l.BothNear own (rate, rate) :=
  ⟨base.near, base.near⟩

theorem Base.mono {rate : Rat} (base : l.Base own rate) (more : l.applied ⊆ m.applied) :
    m.Base own rate :=
  base.imp_left fun mem => more mem

theorem Near.mono {rate : Rat} (near : l.Near own rate) (more : l.applied ⊆ m.applied) :
    m.Near own rate := by
  obtain ⟨base, isBase, close⟩ := near
  exact ⟨base, isBase.mono more, close⟩

theorem BothNear.mono {rates : Rat × Rat} (near : l.BothNear own rates)
    (more : l.applied ⊆ m.applied) : m.BothNear own rates :=
  ⟨near.1.mono more, near.2.mono more⟩

/-- The rates an element has that a session does not have to restore. -/
theorem near_of_not_off {session : Session} {rates : Rat × Rat}
    (base : l.Base own session.restorePlaybackRate) (within : ¬session.off rates) :
    l.BothNear own rates := by
  simp only [Session.off, not_or, Bool.not_eq_true, differs_false] at within
  exact ⟨⟨_, base, within.1⟩, ⟨_, base, within.2⟩⟩

/-- What holds of the rates in every state. -/
structure Sound (cfg : Config) (own : Nat → Video) (l : Ledger) : Prop where
  restores : ∀ session, l.session = some session → l.Base own session.restorePlaybackRate
  idle : l.session = none → ∀ video, l.current = some video → l.BothNear own (l.rates video)
  addressed : ∀ playback, l.pending = some playback → (cfg.normalizeUrl playback.url).isSome
  sent : ∀ playback ∈ l.sent, l.Near own playback.playbackRate
  shared : ∀ playback ∈ l.shared, l.Near own playback.playbackRate

/-- A session holds the element of the page away from the rate of the room. -/
def Elevated (l : Ledger) : Prop :=
  ∃ session video, l.session = some session ∧ l.current = some video ∧
    session.off (l.rates video)

theorem Sound.forget {cfg : Config} (sound : l.Sound cfg own) :
    { l with pending := none }.Sound cfg own :=
  ⟨sound.restores, sound.idle, fun _ absent => (nomatch absent), sound.sent, sound.shared⟩

/-- An element that no session holds up has its rates near a base. -/
theorem Sound.near {cfg : Config} (sound : l.Sound cfg own) (plain : ¬l.Elevated) (video : Nat)
    (shown : l.current = some video) : l.BothNear own (l.rates video) := by
  cases active : l.session with
  | none => exact sound.idle active video shown
  | some session =>
    refine near_of_not_off (sound.restores session active) ?_
    exact fun off => plain ⟨session, video, active, shown, off⟩

/-- The end of a session, as far as rates go. -/
def cancelled (l : Ledger) (reason : Content.CancelReason) : Ledger :=
  match l.session with
  | none => l
  | some session =>
    { l with
      session := none
      rates := fun video =>
        if l.current = some video ∧ reason ≠ .userRatechange ∧ session.off (l.rates video) then
          (session.restorePlaybackRate, session.restorePlaybackRate)
        else l.rates video }

theorem Sound.cancelled {cfg : Config} (sound : l.Sound cfg own) (reason : Content.CancelReason)
    (careful : reason = .userRatechange → ¬l.Elevated) : (l.cancelled reason).Sound cfg own := by
  unfold Ledger.cancelled
  split
  · exact sound
  next session active =>
    refine ⟨fun _ absent => (nomatch absent), ?_, sound.addressed, sound.sent, sound.shared⟩
    intro _ video shown
    have base := sound.restores session active
    change BothNear own l (ite _ _ _)
    split
    · exact base.both
    next kept =>
      refine near_of_not_off base fun off => ?_
      by_cases user : reason = .userRatechange
      · exact careful user ⟨session, video, active, shown, off⟩
      · exact kept ⟨shown, user, off⟩

end Ledger

/-! ## What each function does to them -/

namespace Content

variable (cfg : Config)

theorem ledger_restoreRate (session : Session) (reason : CancelReason) :
    (c.restoreRate cfg session c.current reason).ledger =
      { c.ledger with rates := fun video =>
          if c.current = some video ∧ reason ≠ .userRatechange ∧
              session.off (c.videos video).rates then
            (session.restorePlaybackRate, session.restorePlaybackRate)
          else (c.videos video).rates } := by
  unfold restoreRate
  cases shown : c.current with
  | none => simp [ledger, shown]
  | some id =>
    dsimp only
    split
    next restores =>
      rw [ledger_arm]
      have rates : ∀ video, ((c.write id (setVideoPlaybackRate ·
          session.restorePlaybackRate)).videos video).rates =
          if some id = some video ∧ reason ≠ .userRatechange ∧
              session.off (c.videos video).rates then
            (session.restorePlaybackRate, session.restorePlaybackRate)
          else (c.videos video).rates := by
        intro video
        by_cases same : video = id
        · subst same
          have whole : some video = some video ∧ reason ≠ .userRatechange ∧
              session.off (c.videos video).rates := ⟨rfl, restores⟩
          rw [if_pos whole]
          simp [write, setVideoPlaybackRate, Video.rates]
        · simp [write, same, Ne.symm same]
      simp only [ledger, write] at rates ⊢
      simp only [rates, shown]
    next keeps =>
      have rates : ∀ video, (if some id = some video ∧ reason ≠ .userRatechange ∧
          session.off (c.videos video).rates then
            (session.restorePlaybackRate, session.restorePlaybackRate)
          else (c.videos video).rates) = (c.videos video).rates := by
        intro video
        rw [if_neg]
        rintro ⟨same, restores⟩
        cases same
        exact keeps restores
      simp only [ledger, rates, shown]

theorem ledger_cancel (reason : CancelReason) :
    (c.cancelActiveSoftApply cfg c.current reason).ledger = c.ledger.cancelled reason := by
  unfold cancelActiveSoftApply Ledger.cancelled
  cases active : c.activeSoftApply with
  | none => simp [ledger, active]
  | some session =>
    have whole := ({ c with activeSoftApply := none } : Content).ledger_restoreRate cfg session
      reason
    simp only [ledger_settleCooldown]
    rw [whole]
    simp [ledger, active]

theorem upsert_session (playback : PlaybackState) (drift : Rat) (arm : Bool)
    (close : Option RelativeDriftClose) (addressed : (cfg.normalizeUrl playback.url).isSome) :
    ∃ session, (c.upsertActiveSoftApply cfg playback drift arm close).ledger =
        { c.ledger with session := some session } ∧
      (session.restorePlaybackRate = playback.playbackRate ∨ ∃ before,
        c.activeSoftApply = some before ∧
          session.restorePlaybackRate = before.restorePlaybackRate) := by
  obtain ⟨url, known⟩ := Option.isSome_iff_exists.mp addressed
  unfold upsertActiveSoftApply
  rw [known]
  refine ⟨_, rfl, ?_⟩
  cases active : c.activeSoftApply with
  | none => exact .inl rfl
  | some before =>
    by_cases same : before.normalizedUrl = url
    · exact .inr ⟨before, rfl, by simp [Option.filter, same]⟩
    · exact .inl (by simp [Option.filter, same])

@[simp] theorem ledger_reviewCooldown (adjustment : AppliedPlaybackAdjustment) :
    (c.reviewCooldown adjustment).ledger = c.ledger := by
  unfold reviewCooldown
  split <;> rfl

theorem ledger_onPlaybackAdjusted (adjustment : AppliedPlaybackAdjustment)
    (playback : PlaybackState) (addressed : (cfg.normalizeUrl playback.url).isSome) :
    (adjustment.reason = .bufferingNotAuthoritative ∧
      (c.onPlaybackAdjusted cfg adjustment playback).ledger = c.ledger) ∨
    (∃ session, (c.onPlaybackAdjusted cfg adjustment playback).ledger =
        { c.ledger with session := some session } ∧
      (session.restorePlaybackRate = playback.playbackRate ∨ ∃ before,
        c.activeSoftApply = some before ∧
          session.restorePlaybackRate = before.restorePlaybackRate)) ∨
    (isSelfRestoringRateAdjust adjustment = false ∧
      (c.onPlaybackAdjusted cfg adjustment playback).ledger =
        c.ledger.cancelled (.apply adjustment.mode)) := by
  have same := c.ledger_reviewCooldown adjustment
  have session : (c.reviewCooldown adjustment).activeSoftApply = c.activeSoftApply :=
    congrArg Ledger.session same
  unfold onPlaybackAdjusted
  dsimp only
  split
  next stalled => exact .inl ⟨of_decide_eq_true stalled, same⟩
  next healthy =>
    split
    next restoring =>
      obtain ⟨started, ledger, restores⟩ := (c.reviewCooldown adjustment).upsert_session cfg
        playback |adjustment.targetTime - adjustment.currentTime|
        (decide (adjustment.mode = .softApply)) _ addressed
      rw [ledger, same, ← session]
      exact .inr (.inl ⟨started, rfl, restores⟩)
    next plain =>
      rw [ledger_cancel, same]
      exact .inr (.inr ⟨Bool.not_eq_true _ ▸ plain, rfl⟩)

/-- A write that no session takes back is close to the rate of the room. -/
theorem synced_steady (video : Nat) (playback : PlaybackState)
    (steady : isSelfRestoringRateAdjust (c.synced cfg video playback).2 = false) :
    |(c.synced cfg video playback).2.playbackRate - playback.playbackRate| ≤ 1 / 100 := by
  have room : (c.synced cfg video playback).2.restorePlaybackRate = playback.playbackRate :=
    syncPlaybackPosition_restore _ _ _ _ _ _ _
  have base : (c.synced cfg video playback).2.mode = .softApply ∨
      (c.synced cfg video playback).2.mode = .rateOnly ∨
      (c.synced cfg video playback).2.playbackRate = playback.playbackRate :=
    syncPlaybackPosition_base _ _ _ _ _ _ _
  simp only [isSelfRestoringRateAdjust, room, Bool.or_eq_false_iff, Bool.and_eq_false_iff,
    decide_eq_false_iff_not] at steady
  rcases base with soft | rate | same
  · exact absurd soft steady.1
  · exact differs_false.mp (steady.2.resolve_left (· rate))
  · simp [same]

theorem ledger_applyPlayback (video : Nat) (playback : PlaybackState) (allowed : Bool) :
    (c.applyPlayback cfg video playback allowed).ledger =
      ((c.writeSynced cfg video playback).onPlaybackAdjusted cfg (c.synced cfg video playback).2
        playback).ledger := by
  unfold applyPlayback
  rw [ledger_write]
  · unfold markProgrammaticApply
    split <;> rfl
  · intro element
    cases playback.playState
    · simp only [followPlayState, Video.play]
      split <;> rfl
    · rfl
    · rfl

end Content

namespace Ledger

variable {cfg : Config} {own : Nat → Video}

theorem Sound.applyPlayback {c : Content} (sound : c.ledger.Sound cfg own) (video : Nat)
    (shown : c.current = some video) (playback : PlaybackState)
    (addressed : (cfg.normalizeUrl playback.url).isSome) (allowed : Bool) :
    (c.applyPlayback cfg video playback allowed).ledger.Sound cfg own := by
  have more : c.ledger.applied ⊆ (c.writeSynced cfg video playback).ledger.applied :=
    List.subset_cons_self _ _
  have base : (c.writeSynced cfg video playback).ledger.Base own playback.playbackRate :=
    .inl List.mem_cons_self
  have rates : (c.writeSynced cfg video playback).ledger.rates video =
      (c.synced cfg video playback).1.rates := by
    simp [Content.ledger, Content.writeSynced, Content.write]
  have written : (c.activeSoftApply = none → (c.writeSynced cfg video playback).ledger.BothNear
      own (c.synced cfg video playback).1.rates) →
      (c.writeSynced cfg video playback).ledger.Sound cfg own := by
    intro near
    refine ⟨fun session active => (sound.restores session active).mono more, ?_,
      fun _ absent => (nomatch absent), fun sent mem => (sound.sent sent mem).mono more,
      fun shared mem => (sound.shared shared mem).mono more⟩
    intro idle other here
    obtain rfl : video = other := Option.some.inj (shown.symm.trans here)
    rw [rates]
    exact near idle
  have plain : Content.isSelfRestoringRateAdjust (c.synced cfg video playback).2 = false →
      c.activeSoftApply = none → (c.writeSynced cfg video playback).ledger.BothNear own
        (c.synced cfg video playback).1.rates := by
    intro steady idle
    rcases syncPlaybackPosition_rates (c.videos video) playback.currentTime playback.playState
      playback.syncIntent playback.playbackRate _ _ with kept | moved
    · exact kept ▸ (sound.idle idle video shown).mono more
    · have close := c.synced_steady cfg video playback steady
      exact moved ▸ ⟨⟨_, base, close⟩, ⟨_, base, close⟩⟩
  rw [Content.ledger_applyPlayback]
  rcases (c.writeSynced cfg video playback).ledger_onPlaybackAdjusted cfg
      (c.synced cfg video playback).2 playback addressed with
    ⟨stalled, same⟩ | ⟨session, same, restores⟩ | ⟨steady, same⟩
  · rw [same]
    refine written (plain ?_)
    have ignored := syncPlaybackPosition_stalled _ _ _ _ _ _ _ stalled
    have mode : (c.synced cfg video playback).2.mode = .ignore := ignored
    simp [Content.isSelfRestoringRateAdjust, mode]
  · rw [same]
    refine ⟨?_, fun absent => (nomatch absent), fun _ absent => (nomatch absent),
      fun sent mem => (sound.sent sent mem).mono more,
      fun shared mem => (sound.shared shared mem).mono more⟩
    rintro _ ⟨⟩
    rcases restores with room | ⟨before, active, kept⟩
    · exact room ▸ base
    · exact kept ▸ (sound.restores before active).mono more
  · rw [same]
    exact (written (plain steady)).cancelled _ fun user => (nomatch user)

end Ledger

end BiliSyncPlay.Player
