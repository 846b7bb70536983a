import BiliSyncPlay.JsMap
import BiliSyncPlay.Json.Strings
import Mathlib.Logic.Relation
import Mathlib.Algebra.Order.Field.Rat
import Mathlib.Tactic.Linarith

/-!
# Deferred remote pauses

`applyRoomState` of `room-state-apply-controller.ts` as far as it defers a pause, with the changes
of the tab's room. A timer that is armed fires before the clock passes its time. What the rest of
the function does to the page is left out.
-/

namespace BiliSyncPlay.DeferredPause

open Json

inductive PlayState where
  | playing | paused | buffering
  deriving DecidableEq

structure Version where
  serverTime : Rat
  seq : Rat
  deriving DecidableEq

structure PlaybackState where
  url : JsString
  currentTime : Rat
  playState : PlayState
  userInitiated : Bool
  actorId : JsString
  serverTime : Rat
  seq : Rat
  deriving DecidableEq

def PlaybackState.version (playback : PlaybackState) : Version where
  serverTime := playback.serverTime
  seq := playback.seq

structure RoomState where
  roomCode : JsString
  sharedUrl : Option JsString
  playback : Option PlaybackState
  deriving DecidableEq

def Version.isNewer (version other : Version) : Bool :=
  decide (other.serverTime < version.serverTime) ||
    (decide (version.serverTime = other.serverTime) && decide (other.seq < version.seq))

theorem Version.isNewer_trichotomy (version other : Version) :
    version.isNewer other = true ∨ other.isNewer version = true ∨ version = other := by
  obtain ⟨time, seq⟩ := version
  obtain ⟨time', seq'⟩ := other
  simp only [isNewer, Bool.or_eq_true, Bool.and_eq_true, decide_eq_true_eq, Version.mk.injEq]
  rcases lt_trichotomy time time' with less | rfl | more
  · exact .inr (.inl (.inl less))
  · rcases lt_trichotomy seq seq' with less | rfl | more
    · exact .inr (.inl (.inr ⟨rfl, less⟩))
    · exact .inr (.inr ⟨rfl, rfl⟩)
    · exact .inl (.inr ⟨rfl, more⟩)
  · exact .inl (.inl more)

/-! ## The decision -/

inductive Kind where
  | emptyRoom | noCurrentVideo | ignoreNonShared | ignoreLocalGuard | ignoreStalePlayback
  | ignoreSelfPlaybackVersion | apply
  deriving DecidableEq

/-- What the page and its tracking of the user say at the moment. -/
structure Reading where
  currentUrl : Option JsString
  lastLocalIntentAt : Rat
  lastLocalIntentPlayState : Option PlayState
  lastLocalPlaybackVersion : Option Version
  /-- The shared address switched, and the playback state was reset for it. -/
  switches : Bool
  /-- There is a video, and no override of the user is pending. -/
  reaches : Bool
  deriving DecidableEq

structure Config where
  remotePauseDebounceMs : Rat
  localIntentGuardMs : Rat
  normalizeUrl : Option JsString → Option JsString

structure Content where
  activeRoomCode : Option JsString := none
  localMemberId : Option JsString := none
  lastAppliedVersionByActor : JsMap JsString Version := .empty
  deferredRemotePausedState : Option RoomState := none
  /-- When the timer of the deferred state fires. -/
  deferredRemotePausedTimer : Option Rat := none
  destroyed : Bool := false
  now : Rat := 0
  /-- When the state was first deferred, and what was passed to `applyRoomState` since. -/
  deferredAt : Rat := 0
  passed : List RoomState := []
  deriving DecidableEq

section
variable (cfg : Config)

def decidePlaybackApplication (c : Content) (reading : Reading) (state : RoomState) : Kind :=
  match state.sharedUrl, state.playback with
  | some sharedUrl, some playback =>
    match reading.currentUrl with
    | none => .noCurrentVideo
    | some currentUrl =>
      let normalizedSharedUrl := cfg.normalizeUrl (some sharedUrl)
      if normalizedSharedUrl.isNone ∨ cfg.normalizeUrl (some currentUrl) ≠ normalizedSharedUrl ∨
          cfg.normalizeUrl (some playback.url) ≠ normalizedSharedUrl then .ignoreNonShared
      else if c.now - reading.lastLocalIntentAt < cfg.localIntentGuardMs ∧
          (reading.lastLocalIntentPlayState = some .paused ∨
            reading.lastLocalIntentPlayState = some .buffering) ∧
          playback.playState = .playing then .ignoreLocalGuard
      else if (c.lastAppliedVersionByActor.get? playback.actorId).any fun last =>
          last.isNewer playback.version || decide (playback.version = last) then
        .ignoreStalePlayback
      else if c.localMemberId = some playback.actorId ∧ playback.actorId ≠ [] ∧
          reading.lastLocalPlaybackVersion.any fun last => decide (playback.seq ≤ last.seq) then
        .ignoreSelfPlaybackVersion
      else .apply
  | _, _ => .emptyRoom

/-! ## Applying a room state -/

/-- A deferred pause that is applied: when it was first deferred, what was passed to
`applyRoomState` since, and the room the tab is in. -/
structure Fired where
  state : RoomState
  deferredAt : Rat
  passed : List RoomState
  firedAt : Rat
  activeRoomCode : Option JsString
  deriving DecidableEq

namespace Content

def clearDeferredRemotePaused (c : Content) : Content :=
  { c with deferredRemotePausedState := none, deferredRemotePausedTimer := none }

def isMatchingFlicker (playback deferred : PlaybackState) : Bool :=
  decide (playback.playState = .playing ∧
    cfg.normalizeUrl (some playback.url) = cfg.normalizeUrl (some deferred.url) ∧
    |playback.currentTime - deferred.currentTime| < 1 / 2)

/-- The deferred pause is dropped for what supersedes it. -/
def supersede (c : Content) (state : RoomState) : Content :=
  match c.deferredRemotePausedState.bind RoomState.playback with
  | none => c
  | some deferred =>
    match state.playback with
    | none => c.clearDeferredRemotePaused
    | some playback =>
      if isMatchingFlicker cfg playback deferred ∨
          playback.version.isNewer deferred.version then c.clearDeferredRemotePaused
      else c

def isRemotePause (c : Content) (playback : PlaybackState) : Bool :=
  decide (playback.playState = .paused) && c.localMemberId.any fun member =>
    decide (playback.actorId ≠ member)

/-- Whether the state is held back, once what it supersedes is dropped. -/
def isDeferred (c : Content) (kind : Kind) (playback : PlaybackState) : Bool :=
  let userInitiatedRemotePause :=
    c.isRemotePause playback && playback.userInitiated && c.deferredRemotePausedState.isNone
  !userInitiatedRemotePause && decide (0 < cfg.remotePauseDebounceMs) &&
    c.isRemotePause playback && decide (kind = .apply)

def isOlderThanDeferred (c : Content) (playback : PlaybackState) : Bool :=
  (c.deferredRemotePausedState.bind RoomState.playback).any fun deferred =>
    deferred.version.isNewer playback.version

def defer (c : Content) (state : RoomState) : Content :=
  let again := c.deferredRemotePausedState.isSome
  { c with
    deferredRemotePausedState := some state
    deferredRemotePausedTimer := some (c.now + cfg.remotePauseDebounceMs)
    deferredAt := if again then c.deferredAt else c.now
    passed := if again then c.passed ++ [state] else [] }

/-- The rest of the function: the versions it remembers. -/
def proceed (c : Content) (kind : Kind) (reading : Reading) (playback : Option PlaybackState) :
    Content :=
  let c := if reading.switches then { c with lastAppliedVersionByActor := .empty } else c
  match playback with
  | none => c
  | some playback =>
    if kind = .apply ∧ reading.reaches then
      { c with lastAppliedVersionByActor :=
          c.lastAppliedVersionByActor.set playback.actorId playback.version }
    else c

def applyRoomState (c : Content) (reading : Reading) (state : RoomState) : Content :=
  let kind := decidePlaybackApplication cfg c reading state
  let c := c.supersede cfg state
  let seen : Content := { c with passed := c.passed ++ [state] }
  match state.playback with
  | none => seen.proceed kind reading none
  | some playback =>
    if c.isDeferred cfg kind playback then
      if c.isOlderThanDeferred playback then seen else c.defer cfg state
    else seen.proceed kind reading (some playback)

/-- `setRoomMembership`, with the resets of `handleSyncStatus` where it is told of the change. -/
def enterRoom (c : Content) (roomCode memberId : Option JsString) (resets : Bool) : Content :=
  { c with
    activeRoomCode := roomCode
    localMemberId := memberId
    lastAppliedVersionByActor := if resets then .empty else c.lastAppliedVersionByActor }

/-- The timer of the deferred state: what it applies, if that is still fresh. -/
def fire (c : Content) : Content × Option RoomState :=
  let pending := c.deferredRemotePausedState
  let c := c.clearDeferredRemotePaused
  match pending with
  | none => (c, none)
  | some pending =>
    if c.destroyed then (c, none)
    else
      let stale := pending.playback.any fun playback =>
        (c.lastAppliedVersionByActor.get? playback.actorId).any fun last =>
          last.isNewer playback.version || decide (playback.version = last)
      if stale then (c, none) else (c, some pending)

end Content

structure Tab where
  content : Content := {}
  fired : List Fired := []
  deriving DecidableEq

inductive Event where
  | applyRoomState (reading : Reading) (state : RoomState)
  | fires (reading : Reading)
  | syncStatus (roomCode memberId : Option JsString)
  /-- The answer to a hydration request. -/
  | hydration (roomCode memberId : Option JsString)
  /-- The playback state is reset for another reason, such as a navigation. -/
  | resets
  | destroys

/-- A room code that counts as true. -/
def truthy (roomCode : Option JsString) : Bool := roomCode.any fun code => decide (code ≠ [])

namespace Tab

def act (tab : Tab) : Event → Option Tab
  | .applyRoomState reading state =>
    some { tab with content := tab.content.applyRoomState cfg reading state }
  | .fires reading =>
    if tab.content.deferredRemotePausedTimer = some tab.content.now then
      match tab.content.fire with
      | (content, none) => some { tab with content }
      | (content, some state) =>
        let fired : Fired := {
          state, deferredAt := tab.content.deferredAt, passed := tab.content.passed
          firedAt := tab.content.now, activeRoomCode := tab.content.activeRoomCode }
        let kind := decidePlaybackApplication cfg content reading state
        some {
          content := content.proceed kind reading state.playback
          fired := tab.fired ++ [fired] }
    else none
  | .syncStatus roomCode memberId =>
    let previousRoomCode := tab.content.activeRoomCode
    let resets := truthy previousRoomCode &&
      (!truthy roomCode || decide (previousRoomCode ≠ roomCode))
    some { tab with content := tab.content.enterRoom roomCode memberId resets }
  | .hydration roomCode memberId =>
    some { tab with
      content := tab.content.enterRoom (roomCode.or tab.content.activeRoomCode) memberId false }
  | .resets => some { tab with content := { tab.content with lastAppliedVersionByActor := .empty } }
  | .destroys =>
    some { tab with content := { tab.content.clearDeferredRemotePaused with destroyed := true } }

def atTime (tab : Tab) (now : Rat) : Tab := { tab with content := { tab.content with now } }

/-- The clock does not go back, nor past the time of a timer that is armed. -/
def exec (tab : Tab) (now : Rat) (event : Event) : Option Tab :=
  if tab.content.now ≤ now ∧ tab.content.deferredRemotePausedTimer.all (now ≤ ·) then
    (tab.atTime now).act cfg event
  else none

end Tab

/-! ## A pause that waits -/

/-- Nothing that was passed is newer than the pause, and all of it has a playback. -/
def Unsuperseded (passed : List RoomState) (deferred : PlaybackState) : Prop :=
  ∀ state ∈ passed, ∃ playback, state.playback = some playback ∧
    playback.version.isNewer deferred.version = false

/-- A deferred pause is applied in time, in its room, and while it is true. -/
structure Fired.Timely (f : Fired) : Prop where
  room : f.activeRoomCode = some f.state.roomCode
  unsuperseded : ∃ deferred, f.state.playback = some deferred ∧ Unsuperseded f.passed deferred
  inTime : f.firedAt ≤ f.deferredAt + cfg.remotePauseDebounceMs

/-- What a state that is still deferred has going for it. -/
structure Waits (c : Content) (state : RoomState) : Prop where
  timer : c.deferredRemotePausedTimer = some (c.deferredAt + cfg.remotePauseDebounceMs)
  notYet : c.now ≤ c.deferredAt + cfg.remotePauseDebounceMs
  room : c.activeRoomCode = some state.roomCode
  unsuperseded : ∃ deferred, state.playback = some deferred ∧ Unsuperseded c.passed deferred

structure Held (c : Content) : Prop where
  waits : ∀ state, c.deferredRemotePausedState = some state → Waits cfg c state
  idle : c.deferredRemotePausedState = none → c.deferredRemotePausedTimer = none

/-- The pause that waits is delivered again, and would be deferred again. -/
def rearms (c : Content) (reading : Reading) (state : RoomState) : Bool :=
  (c.deferredRemotePausedState.bind RoomState.playback).any fun deferred =>
    state.playback.any fun playback => decide (playback.version = deferred.version) &&
      c.isDeferred cfg (decidePlaybackApplication cfg c reading state) playback

/-- A pause that waits is not delivered again, the tab does not leave its room, and a pause is
deferred in the room it belongs to. -/
def Meets (c : Content) : Event → Prop
  | .applyRoomState reading state => rearms cfg c reading state = false ∧
    ∀ playback, state.playback = some playback →
      (c.supersede cfg state).isDeferred cfg (decidePlaybackApplication cfg c reading state)
        playback = true → c.activeRoomCode = some state.roomCode
  | .syncStatus roomCode _ => ∀ state, c.deferredRemotePausedState = some state →
    roomCode = some state.roomCode
  | .hydration roomCode _ => ∀ state, c.deferredRemotePausedState = some state →
    roomCode.or c.activeRoomCode = some state.roomCode
  | _ => True

def StepMeeting (tab next : Tab) : Prop :=
  ∃ now event, Meets cfg (tab.atTime now).content event ∧ tab.exec cfg now event = some next

variable {cfg} {c : Content} {tab next : Tab}

theorem Held.cleared (c : Content) : Held cfg c.clearDeferredRemotePaused where
  waits state waiting := by cases waiting
  idle _ := rfl

/-- A change that leaves the deferred state, its time and its room as they are. -/
theorem Held.same (held : Held cfg c) {d : Content}
    (state : d.deferredRemotePausedState = c.deferredRemotePausedState)
    (timer : d.deferredRemotePausedTimer = c.deferredRemotePausedTimer)
    (times : d.now = c.now ∧ d.deferredAt = c.deferredAt)
    (room : ∀ state, c.deferredRemotePausedState = some state →
      d.activeRoomCode = some state.roomCode)
    (passed : d.passed = c.passed) : Held cfg d where
  waits waiting deferred := by
    rw [state] at deferred
    have held := held.waits waiting deferred
    constructor
    · rw [timer, times.2, held.timer]
    · rw [times.1, times.2]
      exact held.notYet
    · exact room waiting deferred
    · rw [passed]
      exact held.unsuperseded
  idle none_waits := by
    rw [timer]
    exact held.idle (state ▸ none_waits)

theorem supersede_cases (cfg : Config) (c : Content) (state : RoomState) :
    c.supersede cfg state = c.clearDeferredRemotePaused ∨
      c.supersede cfg state = c ∧ ∀ deferred,
        c.deferredRemotePausedState.bind RoomState.playback = some deferred →
          ∃ playback, state.playback = some playback ∧
            playback.version.isNewer deferred.version = false := by
  unfold Content.supersede
  split
  · next none_waits =>
    refine .inr ⟨rfl, fun deferred waiting => ?_⟩
    rw [none_waits] at waiting
    cases waiting
  · next deferred waiting =>
    split
    · exact .inl rfl
    · next playback held =>
      split
      · exact .inl rfl
      · next keeps =>
        refine .inr ⟨rfl, fun other same => ⟨playback, held, ?_⟩⟩
        cases waiting.symm.trans same
        rw [not_or, Bool.not_eq_true, Bool.not_eq_true] at keeps
        exact keeps.2

/-- What is passed by does not make what waits untrue. -/
theorem Held.sees (held : Held cfg c) {state : RoomState}
    (harmless : ∀ deferred, c.deferredRemotePausedState.bind RoomState.playback = some deferred →
      ∃ playback, state.playback = some playback ∧
        playback.version.isNewer deferred.version = false) :
    Held cfg { c with passed := c.passed ++ [state] } where
  waits waiting deferred := by
    obtain ⟨timer, notYet, room, playback, here, unsuperseded⟩ := held.waits waiting deferred
    refine ⟨timer, notYet, room, playback, here, fun other mem => ?_⟩
    rcases List.mem_append.mp mem with mem | new
    · exact unsuperseded other mem
    · obtain rfl := List.mem_singleton.mp new
      apply harmless playback
      rw [show c.deferredRemotePausedState = some waiting from deferred]
      exact here
  idle := held.idle

theorem Held.supersedes (held : Held cfg c) (state : RoomState) :
    Held cfg { c.supersede cfg state with passed := (c.supersede cfg state).passed ++ [state] } := by
  rcases supersede_cases cfg c state with cleared | ⟨same, harmless⟩
  · rw [cleared]
    exact (Held.cleared c).sees fun deferred waiting => by cases waiting
  · rw [same]
    exact held.sees harmless

theorem Held.proceeds (held : Held cfg c) (kind : Kind) (reading : Reading)
    (playback : Option PlaybackState) : Held cfg (c.proceed kind reading playback) := by
  have kept (d : Content) (same : d = { c with
      lastAppliedVersionByActor := d.lastAppliedVersionByActor }) : Held cfg d := by
    rw [same]
    exact held.same rfl rfl ⟨rfl, rfl⟩ (fun state waiting => (held.waits state waiting).room) rfl
  apply kept
  unfold Content.proceed
  dsimp only
  split <;> split <;> try split
  all_goals rfl

theorem isDeferred_debounces {kind : Kind} {playback : PlaybackState}
    (deferred : c.isDeferred cfg kind playback = true) : 0 < cfg.remotePauseDebounceMs := by
  simp only [Content.isDeferred, Bool.and_eq_true, decide_eq_true_eq] at deferred
  exact deferred.1.1.2

theorem supersede_room (c : Content) (state : RoomState) :
    (c.supersede cfg state).activeRoomCode = c.activeRoomCode := by
  rcases supersede_cases cfg c state with cleared | ⟨same, -⟩
  · rw [cleared]
    rfl
  · rw [same]

theorem Held.applies (held : Held cfg c) {reading : Reading} {state : RoomState}
    (meets : Meets cfg c (.applyRoomState reading state)) :
    Held cfg (c.applyRoomState cfg reading state) := by
  have seen := held.supersedes state
  unfold Content.applyRoomState
  dsimp only
  split
  · exact seen.proceeds _ _ _
  · next playback here =>
    split
    · next deferred =>
      split
      · exact seen
      · next notOlder =>
        have room : (c.supersede cfg state).activeRoomCode = some state.roomCode := by
          rw [supersede_room]
          exact meets.2 playback here deferred
        have debounces := isDeferred_debounces deferred
        cases waiting : (c.supersede cfg state).deferredRemotePausedState with
        | none =>
          refine ⟨fun other same => ?_, fun nothing => by cases nothing⟩
          cases same
          refine ⟨?_, ?_, room, playback, here, ?_⟩
          · simp [Content.defer, waiting]
          · simp only [Content.defer, waiting, Option.isSome_none, Bool.false_eq_true, ↓reduceIte]
            linarith
          · intro other mem
            simp [Content.defer, waiting] at mem
        | some pending =>
          -- It is neither newer nor older, so the pause that waits is delivered again.
          exfalso
          rcases supersede_cases cfg c state with cleared | ⟨same, harmless⟩
          · rw [cleared] at waiting
            cases waiting
          · rw [same] at waiting deferred notOlder
            obtain ⟨-, -, -, q, is_q, -⟩ := held.waits pending waiting
            have bound : c.deferredRemotePausedState.bind RoomState.playback = some q := by
              rw [waiting]
              exact is_q
            obtain ⟨p, is_p, notNewer⟩ := harmless q bound
            cases here.symm.trans is_p
            have older : q.version.isNewer playback.version = false := by
              rw [Bool.not_eq_true] at notOlder
              simpa [Content.isOlderThanDeferred, bound] using notOlder
            have equal : playback.version = q.version := by
              rcases Version.isNewer_trichotomy playback.version q.version with newer | newer | equal
              · rw [newer] at notNewer
                cases notNewer
              · rw [newer] at older
                cases older
              · exact equal
            have again : rearms cfg c reading state = true := by
              unfold rearms
              rw [bound, here]
              simp [equal, deferred]
            rw [meets.1] at again
            cases again
    · exact seen.proceeds _ _ _

theorem Held.elapses (held : Held cfg tab.content) {now : Rat}
    (armed : tab.content.deferredRemotePausedTimer.all (now ≤ ·) = true) :
    Held cfg (tab.atTime now).content where
  waits state waiting := by
    obtain ⟨timer, -, room, unsuperseded⟩ := held.waits state waiting
    refine ⟨timer, ?_, room, unsuperseded⟩
    rw [timer] at armed
    exact of_decide_eq_true armed
  idle := held.idle

theorem fire_cases (c : Content) : ∃ content, (c.fire = (content, none) ∨
      ∃ state, c.deferredRemotePausedState = some state ∧ c.fire = (content, some state)) ∧
    content = c.clearDeferredRemotePaused := by
  unfold Content.fire
  dsimp only
  split
  · exact ⟨_, .inl rfl, rfl⟩
  · next state waiting =>
    split
    · exact ⟨_, .inl rfl, rfl⟩
    · split
      · exact ⟨_, .inl rfl, rfl⟩
      · exact ⟨_, .inr ⟨state, waiting, rfl⟩, rfl⟩

/-- The tab's deferred pause is held, and those that were applied were so in time. -/
structure Sound (cfg : Config) (tab : Tab) : Prop where
  held : Held cfg tab.content
  timely : ∀ f ∈ tab.fired, f.Timely cfg

theorem Sound.act (sound : Sound cfg tab) {event : Event} (meets : Meets cfg tab.content event)
    (step : tab.act cfg event = some next) : Sound cfg next := by
  obtain ⟨held, timely⟩ := sound
  cases event with
  | applyRoomState reading state =>
    cases Option.some.inj step
    exact ⟨held.applies meets, timely⟩
  | fires reading =>
    obtain ⟨due, step⟩ := Option.ite_none_right_eq_some.mp step
    obtain ⟨content, fired | ⟨state, waiting, fired⟩, rfl⟩ := fire_cases tab.content
    · rw [fired] at step
      cases Option.some.inj step
      exact ⟨Held.cleared _, timely⟩
    · rw [fired] at step
      cases Option.some.inj step
      refine ⟨(Held.cleared _).proceeds _ _ _, fun f mem => ?_⟩
      rcases List.mem_append.mp mem with mem | new
      · exact timely f mem
      · obtain rfl := List.mem_singleton.mp new
        obtain ⟨-, notYet, room, unsuperseded⟩ := held.waits state waiting
        exact ⟨room, unsuperseded, notYet⟩
  | syncStatus roomCode memberId =>
    cases Option.some.inj step
    exact ⟨held.same rfl rfl ⟨rfl, rfl⟩ meets rfl, timely⟩
  | hydration roomCode memberId =>
    cases Option.some.inj step
    exact ⟨held.same rfl rfl ⟨rfl, rfl⟩ meets rfl, timely⟩
  | resets =>
    cases Option.some.inj step
    exact ⟨held.same rfl rfl ⟨rfl, rfl⟩ (fun state waiting => (held.waits state waiting).room) rfl,
      timely⟩
  | destroys =>
    cases Option.some.inj step
    exact ⟨(Held.cleared tab.content).same rfl rfl ⟨rfl, rfl⟩ (fun _ waiting => by cases waiting)
      rfl, timely⟩

theorem sound_run (run : Relation.ReflTransGen (StepMeeting cfg) {} tab) : Sound cfg tab := by
  induction run with
  | refl => exact ⟨Held.cleared {}, fun f mem => by cases mem⟩
  | tail _ step ih =>
    obtain ⟨now, event, meets, step⟩ := step
    obtain ⟨⟨-, armed⟩, step⟩ := Option.ite_none_right_eq_some.mp step
    have elapsed := ih.held.elapses armed
    have sound : Sound cfg (Tab.atTime _ now) := ⟨elapsed, ih.timely⟩
    exact sound.act meets step

/-- A deferred pause is applied in time, in its room and while it is true, or it is dropped by
then. -/
theorem deferred_pause_is_timely (run : Relation.ReflTransGen (StepMeeting cfg) {} tab) :
    (∀ f ∈ tab.fired, f.Timely cfg) ∧ ∀ state, tab.content.deferredRemotePausedState = some state →
      tab.content.now ≤ tab.content.deferredAt + cfg.remotePauseDebounceMs := by
  have sound := sound_run run
  exact ⟨sound.timely, fun state waiting => (sound.held.waits state waiting).notYet⟩

end

/-! ## A pause that is delivered again, and one that is left behind -/

def standard : Config where
  remotePauseDebounceMs := 250
  localIntentGuardMs := 1200
  normalizeUrl := id

def onPage : Reading where
  currentUrl := some [118]
  lastLocalIntentAt := 0
  lastLocalIntentPlayState := none
  lastLocalPlaybackVersion := none
  switches := false
  reaches := true

def paused : RoomState where
  roomCode := [65]
  sharedUrl := some [118]
  playback := some {
    url := [118], currentTime := 10, playState := .paused, userInitiated := false, actorId := [109]
    serverTime := 1000, seq := 1 }

def replay (events : List (Rat × Event)) : Option Tab :=
  events.foldlM (fun tab event => Tab.exec standard tab event.1 event.2) {}

/-- An update from before the pause, which is delivered after it. -/
def older : RoomState := { paused with playback := some {
  url := [118], currentTime := 20, playState := .playing, userInitiated := false, actorId := [109]
  serverTime := 900, seq := 0 } }

/-- The older update is passed, and the room's status comes once more, while the pause waits. -/
theorem pause_is_applied_after_the_debounce : ∃ tab : Tab,
    (tab.fired.map fun f => f.passed) = [[older]] ∧ (∀ f ∈ tab.fired, f.Timely standard) ∧
      ∀ state, tab.content.deferredRemotePausedState = some state →
        tab.content.now ≤ tab.content.deferredAt + standard.remotePauseDebounceMs := by
  let joined : Content := { activeRoomCode := some [65], localMemberId := some [98] }
  let waiting : Content := { joined with
    deferredRemotePausedState := some paused, deferredRemotePausedTimer := some 250 }
  let passing (now : Rat) : Content := { waiting with
    lastAppliedVersionByActor := JsMap.empty.set [109] ⟨900, 0⟩, now, passed := [older] }
  let done : Content := { (passing 250).clearDeferredRemotePaused with
    lastAppliedVersionByActor := (passing 250).lastAppliedVersionByActor.set [109] ⟨1000, 1⟩ }
  let fired : Fired := {
    state := paused, deferredAt := 0, passed := [older], firedAt := 250
    activeRoomCode := some [65] }
  refine ⟨{ content := done, fired := [fired] }, rfl, deferred_pause_is_timely ?_⟩
  refine .head (b := { content := joined })
    ⟨0, .syncStatus (some [65]) (some [98]), (fun _ waits => nomatch waits), by decide +kernel⟩ ?_
  refine .head (b := { content := waiting })
    ⟨0, .applyRoomState onPage paused, ⟨by decide +kernel, fun _ _ _ => rfl⟩, by decide +kernel⟩ ?_
  refine .head (b := { content := passing 100 })
    ⟨100, .applyRoomState onPage older, ⟨by decide +kernel, fun _ _ _ => rfl⟩, by decide +kernel⟩ ?_
  refine .head (b := { content := passing 150 })
    ⟨150, .syncStatus (some [65]) (some [98]), ?_, by decide +kernel⟩
    (.single ⟨250, .fires onPage, trivial, by decide +kernel⟩)
  intro state waits
  cases waits
  rfl

/-- The same pause arrives again before its timer fires. -/
def redelivered : List (Rat × Event) :=
  [(0, .syncStatus (some [65]) (some [98])), (0, .applyRoomState onPage paused),
    (200, .applyRoomState onPage paused), (450, .fires onPage)]

/-- The tab leaves the room before the timer fires. -/
def departed : List (Rat × Event) :=
  [(0, .syncStatus (some [65]) (some [98])), (0, .applyRoomState onPage paused),
    (100, .syncStatus none none), (250, .fires onPage)]

theorem pause_outlives_its_debounce_and_its_room :
    (∃ tab f, replay redelivered = some tab ∧ f ∈ tab.fired ∧
      ¬ f.firedAt ≤ f.deferredAt + standard.remotePauseDebounceMs) ∧
    ∃ tab f, replay departed = some tab ∧ f ∈ tab.fired ∧
      ¬ f.activeRoomCode = some f.state.roomCode := by
  have late : (replay redelivered).any (fun tab => tab.fired.any fun f =>
      decide (f.deferredAt + standard.remotePauseDebounceMs < f.firedAt)) = true := by
    decide +kernel
  have astray : (replay departed).any (fun tab => tab.fired.any fun f =>
      decide (f.activeRoomCode ≠ some f.state.roomCode)) = true := by
    decide +kernel
  obtain ⟨tab, replayed, late⟩ := (Option.any_eq_true ..).mp late
  obtain ⟨f, fired, late⟩ := List.any_eq_true.mp late
  obtain ⟨tab', replayed', astray⟩ := (Option.any_eq_true ..).mp astray
  obtain ⟨f', fired', astray⟩ := List.any_eq_true.mp astray
  exact ⟨⟨tab, f, replayed, fired, not_le.mpr (of_decide_eq_true late)⟩,
    tab', f', replayed', fired', of_decide_eq_true astray⟩

end BiliSyncPlay.DeferredPause
