import BiliSyncPlay.Json.Strings
import Mathlib.Logic.Relation
import Mathlib.Algebra.Order.Field.Rat
import Mathlib.Tactic.Linarith
import Mathlib.Tactic.FieldSimp

/-!
# Anchors of playing snapshots

`clock-controller.ts` and `clock-sync.ts`, with the handlers of the room session that hand room
states to the pages. What a room state says of its members is left out. Times are read from one
monotonic clock.
-/

namespace BiliSyncPlay.PlaybackAnchors

open Json

inductive PlayState where
  | playing | paused | buffering
  deriving DecidableEq

def PlayState.text : PlayState → JsString
  | .playing => [112, 108, 97, 121, 105, 110, 103]
  | .paused => [112, 97, 117, 115, 101, 100]
  | .buffering => [98, 117, 102, 102, 101, 114, 105, 110, 103]

structure PlaybackState where
  actorId : JsString
  seq : Rat
  serverTime : Rat
  playState : PlayState
  url : JsString
  currentTime : Rat
  playbackRate : Rat
  deriving DecidableEq

/-- A room state, with its shared address as `normalizeUrl` leaves it. -/
structure RoomState where
  sharedUrl : Option JsString
  playback : Option PlaybackState
  deriving DecidableEq

def RoomState.isPlaying (state : RoomState) : Bool :=
  state.playback.any fun playback => decide (playback.playState = .playing)

theorem isPlaying_of {state : RoomState} {p : PlaybackState} (playback : state.playback = some p)
    (playing : p.playState = .playing) : state.isPlaying = true := by
  unfold RoomState.isPlaying
  rw [playback]
  exact decide_eq_true playing

/-- A room state as an object: no two that are assigned to the session have one version. -/
structure Snapshot where
  version : Nat
  state : RoomState
  deriving DecidableEq

/-! ## Ages -/

def MAX_TRUSTED_PLAYBACK_AGE_MS : Rat := 10000

/-- The age is that of a message that passed its guard: not there, or finite and not negative. -/
def resolvePlaybackAnchorAtMs (receivedAtMs : Rat) (playbackAgeMs : Option Rat) : Rat :=
  match playbackAgeMs with
  | none => receivedAtMs
  | some age =>
    if age ≤ 0 ∨ MAX_TRUSTED_PLAYBACK_AGE_MS < age then receivedAtMs else receivedAtMs - age

theorem resolve_le {receivedAtMs : Rat} {playbackAgeMs : Option Rat} :
    resolvePlaybackAnchorAtMs receivedAtMs playbackAgeMs ≤ receivedAtMs := by
  unfold resolvePlaybackAnchorAtMs
  split
  · exact le_refl _
  · split
    · exact le_refl _
    · next trusted =>
      rw [not_or, not_le] at trusted
      linarith [trusted.1]

theorem le_resolve {receivedAtMs : Rat} {playbackAgeMs : Option Rat} :
    receivedAtMs - MAX_TRUSTED_PLAYBACK_AGE_MS ≤
      resolvePlaybackAnchorAtMs receivedAtMs playbackAgeMs := by
  have positive : 0 ≤ MAX_TRUSTED_PLAYBACK_AGE_MS := by decide +kernel
  unfold resolvePlaybackAnchorAtMs
  split
  · linarith
  · split
    · linarith
    · next trusted =>
      rw [not_or, not_lt] at trusted
      linarith [trusted.2]

theorem declared_le_resolve {receivedAtMs age : Rat} (valid : 0 ≤ age) :
    receivedAtMs - age ≤ resolvePlaybackAnchorAtMs receivedAtMs (some age) := by
  unfold resolvePlaybackAnchorAtMs
  dsimp only
  split
  · linarith
  · exact le_refl _

/-! ## Anchors -/

/-- Where an anchor comes from. -/
inductive Evidence where
  | arrival (receivedAtMs : Rat) (playbackAgeMs : Option Rat)
  | reading
  deriving DecidableEq

/-- The anchor, with the snapshot and the evidence it was recorded for. -/
structure Anchor where
  key : JsString
  atMs : Rat
  playback : PlaybackState
  evidence : Evidence
  deriving DecidableEq

/-- An anchor is no earlier than the arrival says that it comes from, and comes from none only
where its snapshot was stored before the background started. -/
def Anchor.Supported (stored : Option RoomState) (anchor : Anchor) : Prop :=
  match anchor.evidence with
  | .arrival receivedAtMs playbackAgeMs => receivedAtMs - playbackAgeMs.getD 0 ≤ anchor.atMs
  | .reading => stored.bind RoomState.playback = some anchor.playback

def extrapolatePlayingRoomState (state : RoomState) (elapsedMs : Rat) : RoomState :=
  match state.playback with
  | none => state
  | some playback =>
    if playback.playState ≠ .playing then state
    else
      let advanceMs := max 0 elapsedMs
      { state with playback := some { playback with
          currentTime := playback.currentTime + advanceMs / 1000 * playback.playbackRate } }

/-- A room state that is handed to a page, and the message whose handler does it. -/
structure Handed where
  snapshot : RoomState
  state : RoomState
  atMs : Rat
  anchor : Option Anchor
  receivedAtMs : Option Rat
  deriving DecidableEq

/-- The anchor a handler brings for what it hands on: that of its message, or the present. -/
def anchorAtMs (now : Rat) : Option (Rat × Option Rat) → Rat
  | some (receivedAtMs, playbackAgeMs) => resolvePlaybackAnchorAtMs receivedAtMs playbackAgeMs
  | none => now

def evidence : Option (Rat × Option Rat) → Evidence
  | some (receivedAtMs, playbackAgeMs) => .arrival receivedAtMs playbackAgeMs
  | none => .reading

/-- What is left of a handler that waits; a handler of a room state keeps its arrival. -/
structure Task where
  snapshot : Snapshot
  received : Option (Rat × Option Rat)
  deriving DecidableEq

structure Background where
  roomState : Option Snapshot := none
  versions : Nat := 0
  /-- The share that waits for its confirmation. -/
  pendingLocalShareUrl : Option JsString := none
  playbackAnchor : Option Anchor := none
  tasks : List Task := []
  now : Rat := 0
  handed : List Handed := []
  deriving DecidableEq

inductive Event where
  | state (nextState : RoomState) (playbackAgeMs : Option Rat)
  /-- A member joins or leaves, or queued deltas are applied when their wait is over. -/
  | member
  | resumes (task : Nat)
  /-- A handler ends with nothing to hand on. -/
  | ends (task : Nat)
  /-- A page asks for the room state. -/
  | reads
  | shares (pendingLocalShareUrl : Option JsString)
  /-- The room's context is reset. -/
  | forgets

section
variable (number : Rat → JsString)

/-- The parts of the key, joined by `|`. -/
def playbackSnapshotKey (playback : PlaybackState) : JsString :=
  [124].intercalate [playback.actorId, number playback.seq, number playback.serverTime,
    playback.playState.text, playback.url, number playback.currentTime,
    number playback.playbackRate]

def markPlaybackArrival (playbackAnchor : Option Anchor) (playback : Option PlaybackState)
    (atMs : Rat) (evidence : Evidence) : Option Anchor :=
  match playback with
  | none => none
  | some playback =>
    if playback.playState ≠ .playing then none
    else
      let anchor : Anchor := { key := playbackSnapshotKey number playback, atMs, playback, evidence }
      match playbackAnchor with
      | none => some anchor
      | some standing =>
        if standing.key ≠ anchor.key then some anchor
        else if atMs < standing.atMs then some anchor
        else some standing

namespace Background

/-- `compensateRoomState`, and the handing over. -/
def hand (b : Background) (state : RoomState) (received : Option (Rat × Option Rat)) :
    Background :=
  if ¬ state.isPlaying then
    let handed : Handed := {
      snapshot := state, state, atMs := b.now, anchor := none
      receivedAtMs := received.map Prod.fst }
    { b with playbackAnchor := none, handed := b.handed ++ [handed] }
  else
    let playbackAnchor := markPlaybackArrival number b.playbackAnchor state.playback
      (anchorAtMs b.now received) (evidence received)
    let elapsedMs := (playbackAnchor.map fun anchor => b.now - anchor.atMs).getD 0
    let handed : Handed := {
      snapshot := state, state := extrapolatePlayingRoomState state elapsedMs, atMs := b.now
      anchor := playbackAnchor, receivedAtMs := received.map Prod.fst }
    { b with playbackAnchor, handed := b.handed ++ [handed] }

def assignRoomState (b : Background) (state : RoomState) (received : Option (Rat × Option Rat)) :
    Background :=
  let snapshot : Snapshot := { version := b.versions, state }
  let task : Task := { snapshot, received }
  { b with roomState := some snapshot, versions := b.versions + 1, tasks := b.tasks ++ [task] }

/-- `decideIncomingRoomState`: while a share waits, a state without it is stale. -/
def isStale (b : Background) (nextState : RoomState) : Bool :=
  b.pendingLocalShareUrl.any fun url => decide (url ≠ [] ∧ nextState.sharedUrl ≠ some url)

def handleRoomStateMessage (b : Background) (nextState : RoomState) (playbackAgeMs : Option Rat) :
    Background :=
  if b.isStale nextState then b
  else
    let confirmed := b.pendingLocalShareUrl.any fun url => decide (nextState.sharedUrl = some url)
    let playbackAnchor := markPlaybackArrival number b.playbackAnchor nextState.playback
      (resolvePlaybackAnchorAtMs b.now playbackAgeMs) (.arrival b.now playbackAgeMs)
    { b with
      playbackAnchor
      pendingLocalShareUrl := if confirmed then none else b.pendingLocalShareUrl
      }.assignRoomState nextState (some (b.now, playbackAgeMs))

def act (b : Background) : Event → Option Background
  | .state nextState playbackAgeMs =>
    if playbackAgeMs.all (0 ≤ ·) then some (b.handleRoomStateMessage number nextState playbackAgeMs)
    else none
  | .member => b.roomState.map fun snapshot => b.assignRoomState snapshot.state none
  | .resumes task => do
    let t ← b.tasks[task]?
    let b := { b with tasks := b.tasks.eraseIdx task }
    if (b.roomState.map Snapshot.version) = some t.snapshot.version then
      some (b.hand number t.snapshot.state t.received)
    else some b
  | .ends task =>
    if task < b.tasks.length then some { b with tasks := b.tasks.eraseIdx task } else none
  | .reads => b.roomState.map fun snapshot => b.hand number snapshot.state none
  | .shares pendingLocalShareUrl => some { b with pendingLocalShareUrl }
  | .forgets => some { b with roomState := none, pendingLocalShareUrl := none }

/-- The clock does not go back. -/
def exec (b : Background) (now : Rat) (event : Event) : Option Background :=
  if b.now ≤ now then { b with now }.act number event else none

end Background

/-! ## What is handed to a page -/

/-- A playing room state is advanced by the time since an anchor of its own, and one that has just
arrived by no more than the trusted age and the time since. -/
def Handed.Fair (stored : Option RoomState) (h : Handed) : Prop :=
  ∀ p, h.snapshot.playback = some p → p.playState = .playing →
    ∃ anchor, h.anchor = some anchor ∧ anchor.playback = p ∧ anchor.Supported stored ∧
      h.state = { h.snapshot with playback := some { p with
        currentTime := p.currentTime + (h.atMs - anchor.atMs) / 1000 * p.playbackRate } } ∧
      ∀ receivedAtMs, h.receivedAtMs = some receivedAtMs →
        h.atMs - anchor.atMs ≤ MAX_TRUSTED_PLAYBACK_AGE_MS + (h.atMs - receivedAtMs)

/-- An anchor that stands under the key of a snapshot that arrives is the snapshot's own, and no
older than an age that is trusted. -/
def Meets (b : Background) (now : Rat) : Event → Prop
  | .state nextState _ => b.isStale nextState = false →
    ∀ p, nextState.playback = some p → p.playState = .playing →
      ∀ standing, b.playbackAnchor = some standing → standing.key = playbackSnapshotKey number p →
        standing.playback = p ∧ now - MAX_TRUSTED_PLAYBACK_AGE_MS ≤ standing.atMs
  | _ => True

def StepMeeting (b t : Background) : Prop :=
  ∃ now event, Meets number b now event ∧ b.exec number now event = some t

variable {number : Rat → JsString} {stored : Option RoomState} {b t : Background}

/-- An anchor of a playing snapshot is a new one, or the one that stands under its key. -/
theorem mark_cases (number : Rat → JsString) (standing : Option Anchor) {p : PlaybackState}
    (playing : p.playState = .playing) (atMs : Rat) (evidence : Evidence) :
    (markPlaybackArrival number standing (some p) atMs evidence = some {
        key := playbackSnapshotKey number p, atMs, playback := p, evidence } ∧
      ∀ anchor, standing = some anchor → anchor.key = playbackSnapshotKey number p →
        atMs < anchor.atMs) ∨
      ∃ anchor, standing = some anchor ∧ anchor.key = playbackSnapshotKey number p ∧
        anchor.atMs ≤ atMs ∧ markPlaybackArrival number standing (some p) atMs evidence =
          some anchor := by
  unfold markPlaybackArrival
  dsimp only
  rw [if_neg (by rw [playing]; simp)]
  cases standing with
  | none => exact .inl ⟨rfl, fun anchor held => by cases held⟩
  | some anchor =>
    dsimp only
    split
    · next other =>
      refine .inl ⟨rfl, fun held same key => ?_⟩
      cases same
      exact absurd key other
    · next same =>
      rw [not_not] at same
      split
      · next earlier =>
        refine .inl ⟨rfl, fun held same _ => ?_⟩
        cases same
        exact earlier
      · next later => exact .inr ⟨anchor, rfl, same, not_lt.mp later, rfl⟩

theorem mark_idle (standing : Option Anchor) {playback : Option PlaybackState}
    (idle : ∀ p, playback = some p → p.playState ≠ .playing) (atMs : Rat) (evidence : Evidence) :
    markPlaybackArrival number standing playback atMs evidence = none := by
  unfold markPlaybackArrival
  split
  · rfl
  · next p => rw [if_pos (idle p rfl)]

/-- The snapshot that is shown, with its playback where it plays. -/
def Shows (b : Background) (s : Snapshot) (p : PlaybackState) : Prop :=
  b.roomState = some s ∧ s.state.playback = some p ∧ p.playState = .playing

structure Anchored (number : Rat → JsString) (stored : Option RoomState) (b : Background) :
    Prop where
  shown : ∀ s, b.roomState = some s → s.version < b.versions
  started : ∀ task ∈ b.tasks, task.snapshot.version < b.versions
  apart : b.tasks.Pairwise fun task other => task.snapshot.version ≠ other.snapshot.version
  same : ∀ task ∈ b.tasks, ∀ s, b.roomState = some s → task.snapshot.version = s.version →
    task.snapshot = s
  recorded : ∀ anchor, b.playbackAnchor = some anchor → anchor.atMs ≤ b.now ∧ anchor.Supported stored
  own : ∀ s p, Shows b s p → ∀ anchor, b.playbackAnchor = some anchor →
    anchor.key = playbackSnapshotKey number p → anchor.playback = p
  fresh : ∀ task ∈ b.tasks, ∀ receivedAtMs age, task.received = some (receivedAtMs, age) →
    receivedAtMs ≤ b.now ∧ age.all (0 ≤ ·) = true ∧ ∀ s p, Shows b s p →
      task.snapshot.version = s.version → ∀ anchor, b.playbackAnchor = some anchor →
        anchor.key = playbackSnapshotKey number p →
          receivedAtMs - MAX_TRUSTED_PLAYBACK_AGE_MS ≤ anchor.atMs
  known : ∀ s p, Shows b s p → stored.bind RoomState.playback = some p ∨
    ∃ anchor, b.playbackAnchor = some anchor ∧ anchor.key = playbackSnapshotKey number p
  fair : ∀ h ∈ b.handed, h.Fair stored

theorem supported_arrival {receivedAtMs : Rat} {age : Option Rat} (valid : age.all (0 ≤ ·) = true)
    (key : JsString) (p : PlaybackState) : ({
      key, atMs := resolvePlaybackAnchorAtMs receivedAtMs age, playback := p
      evidence := .arrival receivedAtMs age } : Anchor).Supported stored := by
  cases age with
  | none => exact le_of_eq (by simp [resolvePlaybackAnchorAtMs])
  | some age => exact declared_le_resolve (of_decide_eq_true valid)

/-- No other handler waits with the snapshot of one that is taken off. -/
theorem alone_of_erase {tasks : List Task} (apart : tasks.Pairwise fun task other =>
      task.snapshot.version ≠ other.snapshot.version) {i : Nat} {waiting task : Task}
    (held : tasks[i]? = some waiting) (kept : task ∈ tasks.eraseIdx i) :
    task.snapshot.version ≠ waiting.snapshot.version := by
  obtain ⟨i_bound, at_i⟩ := List.getElem?_eq_some_iff.mp held
  obtain ⟨j, j_bound, other, at_j⟩ := List.mem_eraseIdx_iff_getElem.mp kept
  rcases Nat.lt_or_gt_of_ne other with less | more
  · have distinct := List.pairwise_iff_getElem.mp apart j i j_bound i_bound less
    rw [at_i, at_j] at distinct
    exact distinct
  · have distinct := List.pairwise_iff_getElem.mp apart i j i_bound j_bound more
    rw [at_i, at_j] at distinct
    exact distinct.symm

namespace Anchored

variable (anchored : Anchored number stored b)
include anchored

theorem elapses {now : Rat} (later : b.now ≤ now) : Anchored number stored { b with now } :=
  { anchored with
    recorded := fun anchor standing =>
      ⟨(anchored.recorded anchor standing).1.trans later, (anchored.recorded anchor standing).2⟩
    fresh := fun task mem receivedAtMs age received => by
      obtain ⟨past, rest⟩ := anchored.fresh task mem receivedAtMs age received
      exact ⟨past.trans later, rest⟩ }

theorem erased (task : Nat) : Anchored number stored { b with tasks := b.tasks.eraseIdx task } :=
  { anchored with
    started := fun t mem => anchored.started t (List.mem_of_mem_eraseIdx mem)
    apart := anchored.apart.sublist (List.eraseIdx_sublist _ _)
    same := fun t mem => anchored.same t (List.mem_of_mem_eraseIdx mem)
    fresh := fun t mem => anchored.fresh t (List.mem_of_mem_eraseIdx mem) }

/-- While nothing is shown, any anchor may stand. -/
theorem hides {playbackAnchor : Option Anchor} (pendingLocalShareUrl : Option JsString)
    (recorded : ∀ anchor, playbackAnchor = some anchor → anchor.atMs ≤ b.now ∧ anchor.Supported stored) :
    Anchored number stored { b with roomState := none, playbackAnchor, pendingLocalShareUrl } where
  shown s shown := by cases shown
  started := anchored.started
  apart := anchored.apart
  same task _ s shown := by cases shown
  recorded := recorded
  own s p shows := by cases shows.1
  fresh task mem receivedAtMs age received := by
    obtain ⟨past, valid, -⟩ := anchored.fresh task mem receivedAtMs age received
    exact ⟨past, valid, fun s p shows => by cases shows.1⟩
  known s p shows := by cases shows.1
  fair := anchored.fair

/-- A room state that is shown anew, with what its arrival recorded. -/
theorem assigns (state : RoomState) (received : Option (Rat × Option Rat))
    (own : ∀ p, state.playback = some p → p.playState = .playing →
      ∀ anchor, b.playbackAnchor = some anchor → anchor.key = playbackSnapshotKey number p →
        anchor.playback = p)
    (fresh : ∀ receivedAtMs age, received = some (receivedAtMs, age) →
      receivedAtMs ≤ b.now ∧ age.all (0 ≤ ·) = true ∧ ∀ p, state.playback = some p →
        p.playState = .playing → ∀ anchor, b.playbackAnchor = some anchor →
          anchor.key = playbackSnapshotKey number p →
            receivedAtMs - MAX_TRUSTED_PLAYBACK_AGE_MS ≤ anchor.atMs)
    (known : ∀ p, state.playback = some p → p.playState = .playing →
      stored.bind RoomState.playback = some p ∨
        ∃ anchor, b.playbackAnchor = some anchor ∧ anchor.key = playbackSnapshotKey number p) :
    Anchored number stored (b.assignRoomState state received) where
  shown s shown := by
    cases shown
    exact Nat.lt_succ_self _
  started task mem := by
    rcases List.mem_append.mp mem with mem | new
    · exact Nat.lt_succ_of_lt (anchored.started task mem)
    · obtain rfl := List.mem_singleton.mp new
      exact Nat.lt_succ_self _
  apart := by
    refine List.pairwise_append.mpr ⟨anchored.apart, List.pairwise_singleton _ _, ?_⟩
    intro task mem other new
    obtain rfl := List.mem_singleton.mp new
    exact Nat.ne_of_lt (anchored.started task mem)
  same task mem s shown version := by
    cases shown
    rcases List.mem_append.mp mem with mem | new
    · exact absurd version (Nat.ne_of_lt (anchored.started task mem))
    · obtain rfl := List.mem_singleton.mp new
      rfl
  recorded := anchored.recorded
  own s p shows := by
    obtain ⟨shown, playback, playing⟩ := shows
    cases shown
    exact own p playback playing
  fresh task mem receivedAtMs age arrived := by
    rcases List.mem_append.mp mem with mem | new
    · obtain ⟨past, valid, -⟩ := anchored.fresh task mem receivedAtMs age arrived
      refine ⟨past, valid, fun s p shows version => ?_⟩
      cases shows.1
      exact absurd version (Nat.ne_of_lt (anchored.started task mem))
    · obtain rfl := List.mem_singleton.mp new
      obtain ⟨past, valid, bound⟩ := fresh receivedAtMs age arrived
      refine ⟨past, valid, fun s p shows _ => ?_⟩
      obtain ⟨shown, playback, playing⟩ := shows
      cases shown
      exact bound p playback playing
  known s p shows := by
    obtain ⟨shown, playback, playing⟩ := shows
    cases shown
    exact known p playback playing
  fair := anchored.fair

/-- What the handler of a snapshot that is shown brings with it. -/
def Brings (number : Rat → JsString) (b : Background) (s : Snapshot)
    (received : Option (Rat × Option Rat)) : Prop :=
  ∀ receivedAtMs age, received = some (receivedAtMs, age) →
    receivedAtMs ≤ b.now ∧ age.all (0 ≤ ·) = true ∧ ∀ p, Shows b s p →
      ∀ anchor, b.playbackAnchor = some anchor → anchor.key = playbackSnapshotKey number p →
        receivedAtMs - MAX_TRUSTED_PLAYBACK_AGE_MS ≤ anchor.atMs

/-- The anchor a playing snapshot is handed on with is its own, wherever it comes from. -/
theorem marks {s : Snapshot} {p : PlaybackState} (shows : Shows b s p)
    {received : Option (Rat × Option Rat)} (brings : Brings number b s received) : ∃ anchor,
      markPlaybackArrival number b.playbackAnchor (some p) (anchorAtMs b.now received)
        (evidence received) = some anchor ∧
      anchor.key = playbackSnapshotKey number p ∧ anchor.playback = p ∧
      anchor.Supported stored ∧ anchor.atMs ≤ b.now ∧
      (∀ receivedAtMs age, received = some (receivedAtMs, age) →
        receivedAtMs - MAX_TRUSTED_PLAYBACK_AGE_MS ≤ anchor.atMs) ∧
      (received = none → b.playbackAnchor = some anchor ∨ anchor.atMs = b.now) := by
  rcases mark_cases number b.playbackAnchor shows.2.2 (anchorAtMs b.now received)
    (evidence received) with ⟨made, earlier⟩ | ⟨anchor, standing, key, -, made⟩
  · cases received with
    | none =>
      -- A reading is no earlier than an anchor that stands, so none does.
      have untold : stored.bind RoomState.playback = some p := by
        rcases anchored.known s p shows with untold | ⟨anchor, standing, key⟩
        · exact untold
        · exact absurd (anchored.recorded anchor standing).1
            (not_le_of_gt (earlier anchor standing key))
      refine ⟨_, made, rfl, rfl, untold, le_refl _, ?_, fun _ => .inr rfl⟩
      intro receivedAtMs age arrived
      cases arrived
    | some arrival =>
      obtain ⟨receivedAtMs, age⟩ := arrival
      obtain ⟨past, valid, -⟩ := brings receivedAtMs age rfl
      refine ⟨_, made, rfl, rfl, supported_arrival valid _ p, resolve_le.trans past, ?_, ?_⟩
      · intro receivedAtMs age arrived
        cases arrived
        exact le_resolve
      · intro nothing
        cases nothing
  · obtain ⟨before, supported⟩ := anchored.recorded anchor standing
    refine ⟨anchor, made, key, anchored.own s p shows anchor standing key, supported, before, ?_,
      fun _ => .inl standing⟩
    intro receivedAtMs age arrived
    exact (brings receivedAtMs age arrived).2.2 p shows anchor standing key

/-- Nothing that plays is handed on with no anchor. -/
theorem handsIdle {s : Snapshot} (shown : b.roomState = some s)
    (idle : ¬ s.state.isPlaying = true)
    (received : Option (Rat × Option Rat)) :
    Anchored number stored (b.hand number s.state received) := by
  unfold Background.hand
  rw [if_pos idle]
  exact { anchored with
    recorded := fun anchor standing => by cases standing
    own := fun _ _ _ anchor standing => by cases standing
    fresh := fun task mem receivedAtMs age arrived => by
      obtain ⟨past, valid, -⟩ := anchored.fresh task mem receivedAtMs age arrived
      exact ⟨past, valid, fun _ _ _ _ anchor standing => by cases standing⟩
    known := fun s' p shows => by
      cases shown.symm.trans shows.1
      exact absurd (isPlaying_of shows.2.1 shows.2.2) idle
    fair := fun h mem => by
      rcases List.mem_append.mp mem with mem | new
      · exact anchored.fair h mem
      · obtain rfl := List.mem_singleton.mp new
        intro p playback playing
        exact absurd (isPlaying_of playback playing) idle }

/-- A room state is handed on as it is shown. -/
theorem hands {s : Snapshot} (shown : b.roomState = some s) {received : Option (Rat × Option Rat)}
    (alone : received.isSome = true → ∀ task ∈ b.tasks, task.snapshot.version ≠ s.version)
    (brings : Brings number b s received) : Anchored number stored (b.hand number s.state received) := by
  by_cases plays : s.state.isPlaying = true
  · obtain ⟨p, playback, playing⟩ := (Option.any_eq_true ..).mp plays
    have playing : p.playState = .playing := of_decide_eq_true playing
    have shows : Shows b s p := ⟨shown, playback, playing⟩
    obtain ⟨anchor, marked, key, mine, supported, before, close, later⟩ :=
      anchored.marks shows brings
    unfold Background.hand
    rw [if_neg (by rw [not_not]; exact plays), playback, marked]
    exact { anchored with
      recorded := fun other same => by
        cases same
        exact ⟨before, supported⟩
      own := fun s' p' shows' other same key => by
        cases same
        cases shown.symm.trans shows'.1
        cases playback.symm.trans shows'.2.1
        exact mine
      fresh := fun task mem receivedAtMs age arrived => by
        obtain ⟨arrivedBefore, valid, held⟩ := anchored.fresh task mem receivedAtMs age arrived
        refine ⟨arrivedBefore, valid, fun s' p' shows' version other same _ => ?_⟩
        cases same
        cases shown.symm.trans shows'.1
        cases received with
        | some arrival => exact absurd version (alone rfl task mem)
        | none =>
          rcases later rfl with standing | present
          · exact held s p shows version anchor standing key
          · have positive : 0 ≤ MAX_TRUSTED_PLAYBACK_AGE_MS := by decide +kernel
            rw [present]
            linarith
      known := fun s' p' shows' => by
        cases shown.symm.trans shows'.1
        cases playback.symm.trans shows'.2.1
        exact .inr ⟨anchor, rfl, key⟩
      fair := fun h mem => by
        rcases List.mem_append.mp mem with mem | new
        · exact anchored.fair h mem
        · obtain rfl := List.mem_singleton.mp new
          intro p' playback' _
          cases playback.symm.trans playback'
          refine ⟨anchor, rfl, mine, supported, ?_, ?_⟩
          · have forward : max 0 (b.now - anchor.atMs) = b.now - anchor.atMs :=
              max_eq_right (sub_nonneg.mpr before)
            simp [extrapolatePlayingRoomState, playback, playing, forward]
          · intro receivedAtMs arrived
            obtain ⟨arrival, same, rfl⟩ := Option.map_eq_some_iff.mp arrived
            have reached := close arrival.1 arrival.2 same
            linarith }
  · exact anchored.handsIdle shown plays received

theorem arrives {nextState : RoomState} {age : Option Rat} (valid : age.all (0 ≤ ·) = true)
    (meets : Meets number b b.now (.state nextState age)) :
    Anchored number stored (b.handleRoomStateMessage number nextState age) := by
  unfold Background.handleRoomStateMessage
  split
  · exact anchored
  · next fresh =>
    rw [Bool.not_eq_true] at fresh
    -- The mark of the arrival, before anything of it can be read.
    have marked (anchor : Anchor) (standing : markPlaybackArrival number b.playbackAnchor
        nextState.playback (resolvePlaybackAnchorAtMs b.now age) (.arrival b.now age) =
          some anchor) : anchor.atMs ≤ b.now ∧ anchor.Supported stored ∧
        ∀ p, nextState.playback = some p → p.playState = .playing → anchor.playback = p ∧
          b.now - MAX_TRUSTED_PLAYBACK_AGE_MS ≤ anchor.atMs := by
      by_cases plays : ∃ p, nextState.playback = some p ∧ p.playState = .playing
      · obtain ⟨p, playback, playing⟩ := plays
        rw [playback] at standing
        rcases mark_cases number b.playbackAnchor playing
          (resolvePlaybackAnchorAtMs b.now age) (.arrival b.now age) with
          ⟨made, -⟩ | ⟨before, held, key, -, made⟩
        · cases standing.symm.trans made
          refine ⟨resolve_le, supported_arrival valid _ p, fun p' playback' _ => ?_⟩
          cases playback.symm.trans playback'
          exact ⟨rfl, le_resolve⟩
        · cases standing.symm.trans made
          obtain ⟨past, supported⟩ := anchored.recorded anchor held
          refine ⟨past, supported, fun p' playback' _ => ?_⟩
          cases playback.symm.trans playback'
          exact meets fresh p playback playing anchor held key
      · rw [mark_idle _ fun p playback playing => plays ⟨p, playback, playing⟩] at standing
        cases standing
    have hidden := anchored.hides
      (if b.pendingLocalShareUrl.any fun url => decide (nextState.sharedUrl = some url) then none
        else b.pendingLocalShareUrl)
      fun anchor standing => ⟨(marked anchor standing).1, (marked anchor standing).2.1⟩
    refine hidden.assigns nextState (some (b.now, age)) ?_ ?_ ?_
    · intro p playback playing anchor standing _
      exact ((marked anchor standing).2.2 p playback playing).1
    · intro receivedAtMs declared arrived
      cases arrived
      refine ⟨le_refl _, valid, fun p playback playing anchor standing _ => ?_⟩
      exact ((marked anchor standing).2.2 p playback playing).2
    · intro p playback playing
      rw [playback]
      rcases mark_cases number b.playbackAnchor playing
        (resolvePlaybackAnchorAtMs b.now age) (.arrival b.now age) with
        ⟨made, -⟩ | ⟨before, held, key, -, made⟩
      · exact .inr ⟨_, made, rfl⟩
      · exact .inr ⟨before, made, key⟩

theorem exec {now : Rat} {event : Event} (meets : Meets number b now event)
    (step : b.exec number now event = some t) : Anchored number stored t := by
  obtain ⟨later, step⟩ := Option.ite_none_right_eq_some.mp step
  have elapsed := anchored.elapses later
  cases event with
  | state nextState age =>
    obtain ⟨valid, made⟩ := Option.ite_none_right_eq_some.mp step
    cases Option.some.inj made
    exact elapsed.arrives valid meets
  | member =>
    obtain ⟨s, shown, rfl⟩ := Option.map_eq_some_iff.mp step
    refine elapsed.assigns s.state none (fun p playback playing => ?_) (fun _ _ arrived => ?_)
      fun p playback playing => ?_
    · exact elapsed.own s p ⟨shown, playback, playing⟩
    · cases arrived
    · exact elapsed.known s p ⟨shown, playback, playing⟩
  | resumes task =>
    obtain ⟨waiting, held, step⟩ := Option.bind_eq_some_iff.mp step
    dsimp only at step
    have rest := elapsed.erased task
    split at step
    · next current =>
      cases Option.some.inj step
      obtain ⟨s, shown, version⟩ := Option.map_eq_some_iff.mp current
      have mem : waiting ∈ b.tasks := List.mem_of_getElem? held
      rw [anchored.same waiting mem s shown version.symm]
      refine rest.hands shown (fun _ other kept => ?_) fun receivedAtMs age arrived => ?_
      · rw [version]
        exact alone_of_erase anchored.apart held kept
      · obtain ⟨past, valid, bound⟩ := elapsed.fresh waiting mem receivedAtMs age arrived
        exact ⟨past, valid, fun p shows => bound s p shows version.symm⟩
    · cases Option.some.inj step
      exact rest
  | ends task =>
    obtain ⟨-, made⟩ := Option.ite_none_right_eq_some.mp step
    cases Option.some.inj made
    exact elapsed.erased task
  | reads =>
    obtain ⟨s, shown, rfl⟩ := Option.map_eq_some_iff.mp step
    refine elapsed.hands shown (fun arrived => ?_) fun _ _ none => ?_
    · cases arrived
    · cases none
  | shares pendingLocalShareUrl =>
    cases Option.some.inj step
    exact { elapsed with }
  | forgets =>
    cases Option.some.inj step
    exact elapsed.hides none elapsed.recorded

end Anchored

/-- The background starts with the room state that was stored, and no anchor. -/
def restored (state : Option RoomState) : Background :=
  match state with
  | none => {}
  | some state => { roomState := some { version := 0, state }, versions := 1 }

theorem anchored_restored (state : Option RoomState) : Anchored number state (restored state) := by
  cases state with
  | none => exact {
      shown := fun s shown => by cases shown
      started := fun task mem => by cases mem
      apart := .nil
      same := fun task mem => by cases mem
      recorded := fun anchor standing => by cases standing
      own := fun _ _ _ anchor standing => by cases standing
      fresh := fun task mem => by cases mem
      known := fun s p shows => by cases shows.1
      fair := fun h mem => by cases mem }
  | some state => exact {
      shown := fun s shown => by
        cases shown
        exact Nat.lt_succ_self _
      started := fun task mem => by cases mem
      apart := .nil
      same := fun task mem => by cases mem
      recorded := fun anchor standing => by cases standing
      own := fun _ _ _ anchor standing => by cases standing
      fresh := fun task mem => by cases mem
      known := fun s p shows => by
        obtain ⟨shown, playback, -⟩ := shows
        cases shown
        exact .inl playback
      fair := fun h mem => by cases mem }

theorem anchored_run
    (run : Relation.ReflTransGen (StepMeeting number) (restored stored) b) : Anchored number stored b := by
  induction run with
  | refl => exact anchored_restored stored
  | tail _ step ih =>
    obtain ⟨now, event, meets, step⟩ := step
    exact ih.exec meets step

/-- What the pages are handed has played on for as long as the evidence says. -/
theorem extrapolation_is_bounded
    (run : Relation.ReflTransGen (StepMeeting number) (restored stored) b) :
    ∀ h ∈ b.handed, h.Fair stored :=
  (anchored_run run).fair

end

/-! ## A snapshot that comes back -/

/-- The text of a whole number. -/
def wholeNumber (q : Rat) : JsString :=
  (Nat.toDigits 10 q.num.toNat).map fun digit => UInt16.ofNat digit.toNat

def broadcast : PlaybackState where
  actorId := [109]
  seq := 3
  serverTime := 1000
  playState := .playing
  url := [118]
  currentTime := 10
  playbackRate := 1

def watching : RoomState := { sharedUrl := some [118], playback := some broadcast }

def replay (events : List (Rat × Event)) (b : Background) : Option Background :=
  events.foldlM (fun b event => Background.exec wholeNumber b event.1 event.2) b

/-- A member joins a room that plays, five seconds after its last broadcast, and is told of it once
more four seconds later. -/
theorem late_join_is_bounded : ∃ b : Background, b.handed.length = 2 ∧
    ∀ h ∈ b.handed, h.Fair none := by
  let arrived := (restored none).handleRoomStateMessage wholeNumber watching (some 5000)
  let joined := { arrived with now := 3000, tasks := [] }.hand wholeNumber watching
    (some (0, some 5000))
  let again := { joined with now := 4000 }.handleRoomStateMessage wholeNumber watching (some 9000)
  refine ⟨{ again with now := 4500, tasks := [] }.hand wholeNumber watching
    (some (4000, some 9000)), by decide +kernel, ?_⟩
  apply @extrapolation_is_bounded wholeNumber none
  refine .head (b := arrived) ⟨0, .state watching (some 5000), ?_, by decide +kernel⟩ ?_
  · intro _ p playback playing standing none
    cases none
  refine .head (b := joined) ⟨3000, .resumes 0, trivial, by decide +kernel⟩ ?_
  refine .head (b := again) ⟨4000, .state watching (some 9000), ?_, by decide +kernel⟩
    (.single ⟨4500, .resumes 0, trivial, by decide +kernel⟩)
  intro _ p playback playing standing stands key
  cases playback
  have fresh : (joined.playbackAnchor.all fun standing => decide (standing.playback = broadcast ∧
      4000 - MAX_TRUSTED_PLAYBACK_AGE_MS ≤ standing.atMs)) = true := by decide +kernel
  rw [stands] at fresh
  exact of_decide_eq_true fresh

/-- The room is left and joined again a minute later; its last broadcast is still the same. -/
def rejoined : List (Rat × Event) :=
  [(0, .state watching (some 0)), (0, .resumes 0), (1000, .forgets),
    (60000, .state watching (some 60000)), (60000, .resumes 0)]

theorem old_snapshot_is_advanced_by_a_minute :
    ∃ b, replay rejoined (restored none) = some b ∧
      ¬ ∀ h ∈ b.handed, h.Fair none := by
  let anchor : Anchor := {
    key := playbackSnapshotKey wholeNumber broadcast, atMs := 0, playback := broadcast
    evidence := .arrival 0 (some 0) }
  let handed : Handed := {
    snapshot := watching
    state := { watching with playback := some { broadcast with currentTime := 70 } }
    atMs := 60000, anchor := some anchor, receivedAtMs := some 60000 }
  have ends : (replay rejoined (restored none)).any (fun b => decide (handed ∈ b.handed)) = true := by
    decide +kernel
  obtain ⟨b, replayed, mem⟩ := (Option.any_eq_true ..).mp ends
  refine ⟨b, replayed, fun fair => ?_⟩
  obtain ⟨held, standing, -, -, -, bound⟩ := fair handed (of_decide_eq_true mem) broadcast rfl rfl
  cases standing
  have advanced : (60000 : Rat) - 0 ≤ MAX_TRUSTED_PLAYBACK_AGE_MS + (60000 - 60000) :=
    bound 60000 rfl
  revert advanced
  decide +kernel

end BiliSyncPlay.PlaybackAnchors
