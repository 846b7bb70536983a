import BiliSyncPlay.Service.Discipline

/-!
# Rules for programs

`Phase.Does` is the weakest precondition of a program of the service, from the phase its call is
in. Each function has a rule for the phases it is called in.
-/

namespace BiliSyncPlay

open Interleave Prog

variable {cfg : Config} {calm : Prop} {α β : Type} {φ : Phase}

/-- Every path of the program is one its phases permit, and ends in `Q`. -/
def Phase.Does (cfg : Config) (calm : Prop) (φ : Phase) (p : Service α)
    (Q : Phase → Except Err α → Prop) : Prop :=
  p.Follows (roomDiscipline cfg calm).toProtocol φ Q

/-- What is left once the first of two programs has settled. -/
@[simp] def thenDo (cfg : Config) (calm : Prop) (f : α → Service β) (Q : Phase → Except Err β → Prop) :
    Phase → Except Err α → Prop
  | φ, .ok a => φ.Does cfg calm (f a) Q
  | φ, .error e => Q φ (.error e)

@[simp] def elseDo (cfg : Config) (calm : Prop) (h : Err → Service β) (Q : Phase → Except Err β → Prop) :
    Phase → Except Err β → Prop
  | φ, .ok b => Q φ (.ok b)
  | φ, .error e => φ.Does cfg calm (h e) Q

/-- What is left after an awaited store call answered. -/
@[simp] def orThrow (Q : Phase → Except Err α → Prop) : Phase → Except Err (Except Fault α) → Prop
  | φ, .ok (.ok a) => Q φ (.ok a)
  | φ, .ok (.error f) => Q φ (.error (.store f))
  | φ, .error e => Q φ (.error e)

/-- One command: what it takes to issue it, and what follows from each answer. -/
def Phase.Asks (cfg : Config) (calm : Prop) (φ : Phase) (c : Cmd)
    (Q : Phase → Except Err c.Ans → Prop) : Prop :=
  φ.permits cfg calm c ∧ ∀ a, c.Plausible a ∧ (calm → ¬c.Faulty a) → Q (φ.after c a) (.ok a)

@[simp] def thenLast (cfg : Config) (calm : Prop) (cleanup : Service Unit)
    (Q : Phase → Except Err α → Prop) (φ : Phase) (r : Except Err α) : Prop :=
  φ.Does cfg calm cleanup fun ψ c => Q ψ (c.bind fun _ => r)

section Rules

variable {Q : Phase → Except Err β → Prop}

@[simp] theorem does_pure {b : β} : φ.Does cfg calm (pure b) Q ↔ Q φ (.ok b) := Iff.rfl

@[simp] theorem does_throw {e : Err} : φ.Does cfg calm (throw e : Service β) Q ↔ Q φ (.error e) :=
  Iff.rfl

theorem Phase.Does.mono {p : Service β} {Q' : Phase → Except Err β → Prop}
    (h : φ.Does cfg calm p Q) (weaken : ∀ ψ r, Q ψ r → Q' ψ r) : φ.Does cfg calm p Q' :=
  Follows.mono h weaken

theorem does_congr {p : Service β} {Q' : Phase → Except Err β → Prop}
    (h : ∀ ψ r, Q ψ r ↔ Q' ψ r) : φ.Does cfg calm p Q ↔ φ.Does cfg calm p Q' :=
  ⟨fun d => d.mono fun ψ r => (h ψ r).mp, fun d => d.mono fun ψ r => (h ψ r).mpr⟩

@[simp] theorem does_bind {x : Service α} {f : α → Service β} :
    φ.Does cfg calm (x >>= f) Q ↔ φ.Does cfg calm x (thenDo cfg calm f Q) :=
  follows_bind.trans (does_congr fun ψ r => by cases r <;> exact Iff.rfl)

@[simp] theorem does_tryCatch {x : Service β} {h : Err → Service β} :
    φ.Does cfg calm (tryCatch x h) Q ↔ φ.Does cfg calm x (elseDo cfg calm h Q) :=
  follows_tryCatch.trans (does_congr fun ψ r => by cases r <;> exact Iff.rfl)

@[simp] theorem does_ensuring {x : Service β} {cleanup : Service Unit} :
    φ.Does cfg calm (x.ensuring cleanup) Q ↔ φ.Does cfg calm x (thenLast cfg calm cleanup Q) :=
  follows_ensuring

@[simp] theorem does_ite {c : Prop} [Decidable c] {p q : Service β} :
    φ.Does cfg calm (if c then p else q) Q ↔
      (c → φ.Does cfg calm p Q) ∧ (¬c → φ.Does cfg calm q Q) := by
  split <;> simp_all

@[simp] theorem does_ask {c : Cmd} {Q : Phase → Except Err c.Ans → Prop} :
    @Phase.Does (no_index c.Ans) cfg calm φ (ask c) Q ↔ φ.Asks cfg calm c Q := Iff.rfl

@[simp] theorem does_call {p : Service (Except Fault α)} {Q : Phase → Except Err α → Prop} :
    φ.Does cfg calm (call p) Q ↔ φ.Does cfg calm p (orThrow Q) := by
  unfold call
  rw [does_bind]
  refine does_congr fun ψ r => ?_
  cases r with
  | ok a => cases a <;> exact Iff.rfl
  | error e => exact Iff.rfl

@[simp] theorem does_attempt {p : Service α} {Q : Phase → Except Err (Except Err α) → Prop} :
    φ.Does cfg calm (attempt p) Q ↔ φ.Does cfg calm p fun ψ r => Q ψ (.ok r) := by
  unfold attempt
  rw [does_tryCatch, does_bind]
  refine does_congr fun ψ r => ?_
  cases r <;> exact Iff.rfl

theorem forall_except {ε : Type} {p : Except ε α → Prop} :
    (∀ x, p x) ↔ (∀ a, p (.ok a)) ∧ ∀ e, p (.error e) :=
  ⟨fun h => ⟨fun _ => h _, fun _ => h _⟩, fun h x => by cases x <;> [exact h.2 _; exact h.1 _]⟩

end Rules

/-! ## Commands -/

section Commands

/-- The rule of a command that is always permitted, moves nothing and answers anything. -/
theorem asks_free {c : Cmd} {Q : Phase → Except Err c.Ans → Prop} (may : φ.permits cfg calm c)
    (still : ∀ a, φ.after c a = φ) (any : ∀ a, c.Plausible a) (fine : ∀ a, ¬c.Faulty a) :
    φ.Asks cfg calm c Q ↔ ∀ a, Q φ (.ok a) := by
  constructor
  · intro h a
    have := h.2 a ⟨any a, fun _ => fine a⟩
    rwa [still] at this
  · intro h
    exact ⟨may, fun a _ => by rw [still]; exact h a⟩

@[simp] theorem asks_now {Q : Phase → Except Err (Time) → Prop} :
    φ.Asks cfg calm (.now) Q ↔ ∀ t, Q φ (.ok t) :=
  asks_free trivial (fun _ => rfl) (fun _ => trivial) fun _ => id

@[simp] theorem asks_readTenures {members : List (MemberId × SessionId)} {Q : Phase → Except Err (List SharedVideoOwnerCandidate) → Prop} :
    φ.Asks cfg calm (.readTenures members) Q ↔ ∀ owners, Q φ (.ok owners) :=
  asks_free trivial (fun _ => rfl) (fun _ => trivial) fun _ => id

variable {c : Code} {effect : EffectId} {n : NodeId} {t : Time} {tok : Token}

@[simp] theorem asks_getPlaybackAuthority {Q : Phase → Except Err (Option PlaybackAuthority) → Prop} :
    φ.Asks cfg calm (.getPlaybackAuthority n c) Q ↔ ∀ authority, Q φ (.ok authority) :=
  asks_free trivial (fun _ => rfl) (fun _ => trivial) fun _ => id

@[simp] theorem asks_removalDurable {Q : Phase → Except Err (Except Fault Unit) → Prop} :
    φ.Asks cfg calm (.removalDurable) Q ↔ ∀ result, Q φ (.ok result) :=
  asks_free trivial (fun _ => rfl) (fun _ => trivial) fun _ => id

@[simp] theorem asks_isMemberTokenBlocked {Q : Phase → Except Err (Except Fault Bool) → Prop} :
    φ.Asks cfg calm (.isMemberTokenBlocked c tok t) Q ↔ ∀ blocked, Q φ (.ok blocked) :=
  asks_free trivial (fun _ => rfl) (fun _ => trivial) fun _ => id

@[simp] theorem asks_hasRoomResidue {Q : Phase → Except Err (Except Fault Bool) → Prop} :
    φ.Asks cfg calm (.hasRoomResidue c) Q ↔ ∀ dirty, Q φ (.ok dirty) :=
  asks_free trivial (fun _ => rfl) (fun _ => trivial) fun _ => id

@[simp] theorem asks_tryClaimMessageSlot {key : SlotKey}
    {Q : Phase → Except Err (Except Fault Bool) → Prop} :
    φ.Asks cfg calm (.tryClaimMessageSlot c key tok t) Q ↔ ∀ granted, Q φ (.ok granted) :=
  asks_free trivial (fun _ => rfl) (fun _ => trivial) fun _ => id

@[simp] theorem asks_releaseMessageSlot {key : SlotKey}
    {Q : Phase → Except Err (Except Fault Bool) → Prop} :
    φ.Asks cfg calm (.releaseMessageSlot c key tok) Q ↔ ∀ released, Q φ (.ok released) :=
  asks_free trivial (fun _ => rfl) (fun _ => trivial) fun _ => id

@[simp] theorem asks_acquireDistributedJoinLock
    {Q : Phase → Except Err (Except Fault (Option JoinAdmissionLock)) → Prop} :
    φ.Asks cfg calm (.acquireDistributedJoinLock c t) Q ↔ ∀ lock, Q φ (.ok lock) :=
  asks_free trivial (fun _ => rfl) (fun _ => trivial) fun _ => id

@[simp] theorem asks_releaseRoomLock {Q : Phase → Except Err (Except Fault Bool) → Prop} :
    φ.Asks cfg calm (.releaseRoomLock c tok) Q ↔ ∀ released, Q φ (.ok released) :=
  asks_free trivial (fun _ => rfl) (fun _ => trivial) fun _ => id

@[simp] theorem asks_getOrStartExpiredRoomCollection {Q : Phase → Except Err (EffectId) → Prop} :
    φ.Asks cfg calm (.getOrStartExpiredRoomCollection n c) Q ↔ ∀ id, Q φ (.ok id) :=
  asks_free trivial (fun _ => rfl) (fun _ => trivial) fun _ => id

@[simp] theorem asks_awaitEffect {bound : WaitBound}
    {Q : Phase → Except Err (Option Settled) → Prop} :
    φ.Asks cfg calm (.awaitEffect effect bound) Q ↔ ∀ settled, Q φ (.ok settled) :=
  asks_free trivial (fun _ => rfl) (fun _ => trivial) fun _ => id

@[simp] theorem asks_pendingRuntimeTeardowns
    {Q : Phase → Except Err (List (Code × RuntimeTeardownDebt)) → Prop} :
    φ.Asks cfg calm (.pendingRuntimeTeardowns n) Q ↔ ∀ pending, Q φ (.ok pending) :=
  asks_free trivial (fun _ => rfl) (fun _ => trivial) fun _ => id

@[simp] theorem asks_runtimeTeardownDebt
    {Q : Phase → Except Err (Option RuntimeTeardownDebt) → Prop} :
    φ.Asks cfg calm (.runtimeTeardownDebt n c) Q ↔ ∀ debt, Q φ (.ok debt) :=
  asks_free trivial (fun _ => rfl) (fun _ => trivial) fun _ => id

variable {U : Phase → Except Err Unit → Prop}

variable {m : MemberId} {s : SessionId}

@[simp] theorem asks_closeSocket :
    φ.Asks cfg calm (.closeSocket s) U ↔ U φ (.ok ()) :=
  ⟨fun h => h.2 () ⟨trivial, fun _ => id⟩, fun h => ⟨trivial, fun _ _ => h⟩⟩

@[simp] theorem asks_recordPlaybackAuthority {actor : MemberId} {kind : PlaybackAuthorityKind}
    {source : PlaybackAuthoritySource} :
    φ.Asks cfg calm (.recordPlaybackAuthority n c actor kind source) U ↔ U φ (.ok ()) :=
  ⟨fun h => h.2 () ⟨trivial, fun _ => id⟩, fun h => ⟨trivial, fun _ _ => h⟩⟩

@[simp] theorem asks_rememberRuntimeTeardownDebt :
    φ.Asks cfg calm (.rememberRuntimeTeardownDebt n c) U ↔ U φ (.ok ()) :=
  ⟨fun h => h.2 () ⟨trivial, fun _ => id⟩, fun h => ⟨trivial, fun _ _ => h⟩⟩

@[simp] theorem asks_clearSessionRoom :
    φ.Asks cfg calm (.clearSessionRoom s) U ↔ φ.MayClearSessionRoom s ∧ U (φ.onClearSessionRoom) (.ok ()) :=
  ⟨fun h => ⟨h.1, h.2 () ⟨trivial, fun _ => id⟩⟩, fun h => ⟨h.1, fun _ _ => h.2⟩⟩

@[simp] theorem asks_setSessionRoom {j : JoinedSessionSnapshot} :
    φ.Asks cfg calm (.setSessionRoom s j) U ↔ φ.MaySetSessionRoom s j ∧ U (φ.onSetSessionRoom) (.ok ()) :=
  ⟨fun h => ⟨h.1, h.2 () ⟨trivial, fun _ => id⟩⟩, fun h => ⟨h.1, fun _ _ => h.2⟩⟩

@[simp] theorem asks_restoreJoinedSession {j : JoinedSessionSnapshot} :
    φ.Asks cfg calm (.restoreJoinedSession s j) U ↔ φ.MayRestoreJoinedSession s j ∧ U (φ.onRestoreJoinedSession) (.ok ()) :=
  ⟨fun h => ⟨h.1, h.2 () ⟨trivial, fun _ => id⟩⟩, fun h => ⟨h.1, fun _ _ => h.2⟩⟩

@[simp] theorem asks_setMemberId :
    φ.Asks cfg calm (.setMemberId s m) U ↔ φ.MaySetMemberId s m ∧ U (φ) (.ok ()) :=
  ⟨fun h => ⟨h.1, h.2 () ⟨trivial, fun _ => id⟩⟩, fun h => ⟨h.1, fun _ _ => h.2⟩⟩

@[simp] theorem asks_registerSession :
    φ.Asks cfg calm (.registerSession s) U ↔ φ.session? = some s ∧ U (φ) (.ok ()) :=
  ⟨fun h => ⟨h.1, h.2 () ⟨trivial, fun _ => id⟩⟩, fun h => ⟨h.1, fun _ _ => h.2⟩⟩

@[simp] theorem asks_unregisterSession :
    φ.Asks cfg calm (.unregisterSession s) U ↔ φ.MayUnregisterSession calm s ∧ U (φ.onUnregisterSession) (.ok ()) :=
  ⟨fun h => ⟨h.1, h.2 () ⟨trivial, fun _ => id⟩⟩, fun h => ⟨h.1, fun _ _ => h.2⟩⟩

@[simp] theorem asks_decrementConnectionCount :
    φ.Asks cfg calm (.decrementConnectionCount s) U ↔ φ = .gone s false ∧ U (φ.onDecrementConnectionCount) (.ok ()) :=
  ⟨fun h => ⟨h.1, h.2 () ⟨trivial, fun _ => id⟩⟩, fun h => ⟨h.1, fun _ _ => h.2⟩⟩

@[simp] theorem asks_awaitJoinTurn {t : Ticket} :
    φ.Asks cfg calm (.awaitJoinTurn n c t) U ↔ φ.MayJoinQueue n c t ∧ U (φ.onAwaitJoinTurn) (.ok ()) :=
  ⟨fun h => ⟨h.1, h.2 () ⟨trivial, fun _ => id⟩⟩, fun h => ⟨h.1, fun _ _ => h.2⟩⟩

@[simp] theorem asks_forgetRuntimeTeardownDebt :
    φ.Asks cfg calm (.forgetRuntimeTeardownDebt n c) U ↔
      (∃ owner, φ = .collecting owner (.live c)) ∧ U (φ.onCollected) (.ok ()) :=
  ⟨fun h => ⟨h.1, h.2 () ⟨trivial, fun _ => id⟩⟩, fun h => ⟨h.1, fun _ _ => h.2⟩⟩

@[simp] theorem asks_settleEffect {r : Settled} :
    φ.Asks cfg calm (.settleEffect effect r) U ↔ φ = .settling effect ∧ U (φ.onSettled) (.ok ()) :=
  ⟨fun h => ⟨h.1, h.2 () ⟨trivial, fun _ => id⟩⟩, fun h => ⟨h.1, fun _ _ => h.2⟩⟩

@[simp] theorem asks_settleExpiredRoomCollection {r : Settled} :
    φ.Asks cfg calm (.settleExpiredRoomCollection n c effect r) U ↔
      (∃ stage, φ = .collecting (some (n, c, effect)) stage) ∧ U (φ.onSettled) (.ok ()) :=
  ⟨fun h => ⟨h.1, h.2 () ⟨trivial, fun _ => id⟩⟩, fun h => ⟨h.1, fun _ _ => h.2⟩⟩

@[simp] theorem asks_settleRuntimeTeardown {g : Option Generation} {r : Except Fault Bool} :
    φ.Asks cfg calm (.settleRuntimeTeardown n c g effect r) U ↔ φ = .torn n c g effect r ∧ U (φ.onSettled) (.ok ()) :=
  ⟨fun h => ⟨h.1, h.2 () ⟨trivial, fun _ => id⟩⟩, fun h => ⟨h.1, fun _ _ => h.2⟩⟩

@[simp] theorem does_logEvent {event : String} {code : Option Code} {s : Option SessionId}
    {reason : Option String} :
    φ.Does cfg calm (logEvent event code s reason) U ↔
      φ.MayLog calm ⟨event, code, s, reason⟩ ∧ U (φ.onLogEvent ⟨event, code, s, reason⟩) (.ok ()) :=
  ⟨fun h => ⟨h.1, h.2 () ⟨trivial, fun _ => id⟩⟩, fun h => ⟨h.1, fun _ _ => h.2⟩⟩

/-- The rule of a command whose answers are all open. -/
theorem asks_moving {c : Cmd} {Q : Phase → Except Err c.Ans → Prop} (any : ∀ a, c.Plausible a)
    (fine : ∀ a, ¬c.Faulty a) :
    φ.Asks cfg calm c Q ↔ φ.permits cfg calm c ∧ ∀ a, Q (φ.after c a) (.ok a) :=
  and_congr_right fun _ => ⟨fun h a => h a ⟨any a, fun _ => fine a⟩, fun h a _ => h a⟩

@[simp] theorem asks_readSession {Q : Phase → Except Err (Session) → Prop} :
    φ.Asks cfg calm (.readSession s) Q ↔ φ.MayReadSession calm s ∧ ∀ session, Q (φ.onReadSession session) (.ok session) :=
  asks_moving (fun _ => trivial) fun _ => id

@[simp] theorem asks_setSessionDisplayName {name : Option String}
    {Q : Phase → Except Err (Bool) → Prop} :
    φ.Asks cfg calm (.setSessionDisplayName s name) Q ↔ φ.session? = some s ∧ ∀ changed, Q (φ) (.ok changed) :=
  asks_moving (fun _ => trivial) fun _ => id

@[simp] theorem asks_generateToken {Q : Phase → Except Err (Token) → Prop} :
    φ.Asks cfg calm (.generateToken) Q ↔ ∀ tok, Q (φ.onGenerateToken tok) (.ok tok) :=
  ⟨fun h a => h.2 a ⟨trivial, fun _ => id⟩, fun h => ⟨trivial, fun a _ => h a⟩⟩

@[simp] theorem asks_nextRoomCode {Q : Phase → Except Err (Code) → Prop} :
    φ.Asks cfg calm (.nextRoomCode) Q ↔ (φ.MayEnter calm ∨ ∃ s, φ = .creating s .founding) ∧ ∀ code, Q (φ.onNextRoomCode) (.ok code) :=
  asks_moving (fun _ => trivial) fun _ => id

@[simp] theorem asks_deleteExpiredRooms
    {Q : Phase → Except Err (Except Fault ExpiredRoomSweep) → Prop} :
    φ.Asks cfg calm (.deleteExpiredRooms t) Q ↔ (∃ stage, φ = .collecting none stage) ∧ ∀ swept, Q (φ) (.ok swept) :=
  asks_moving (fun _ => trivial) fun _ => id

@[simp] theorem asks_acknowledgeOrphanedIndexClaims {claims : List OrphanedIndexClaim} {Q : Phase → Except Err (Except Fault Unit) → Prop} :
    φ.Asks cfg calm (.acknowledgeOrphanedIndexClaims claims) Q ↔ (∃ stage, φ = .collecting none stage) ∧ ∀ result, Q (φ) (.ok result) :=
  asks_moving (fun _ => trivial) fun _ => id

@[simp] theorem asks_markSessionJoinedRoom {Q : Phase → Except Err (Except Fault Unit) → Prop} :
    φ.Asks cfg calm (.markSessionJoinedRoom s c) Q ↔ φ.MayMarkSessionJoinedRoom s c ∧ ∀ result, Q (φ.onMarkSessionJoinedRoom) (.ok result) :=
  asks_moving (fun _ => trivial) fun _ => id

@[simp] theorem asks_markSessionLeftRoom {Q : Phase → Except Err (Except Fault Unit) → Prop} :
    φ.Asks cfg calm (.markSessionLeftRoom s c) Q ↔ φ.session? = some s ∧ ∀ result, Q (φ.onMarkSessionLeftRoom c) (.ok result) :=
  asks_moving (fun _ => trivial) fun _ => id

@[simp] theorem asks_deleteExpiredRoom
    {Q : Phase → Except Err (Except Fault RoomDeleteOutcome) → Prop} :
    φ.Asks cfg calm (.deleteExpiredRoom c t) Q ↔ (∃ n id, φ = .expiring n id c) ∧ ∀ outcome, Q (φ.onDeleteExpiredRoom) (.ok outcome) :=
  asks_moving (fun _ => trivial) fun _ => id

@[simp] theorem asks_getActiveRoom {Q : Phase → Except Err (Option ActiveRoom) → Prop} :
    φ.Asks cfg calm (.getActiveRoom c) Q ↔ ∀ room, Q (φ.onGetActiveRoom c) (.ok room) :=
  ⟨fun h a => h.2 a ⟨trivial, fun _ => id⟩, fun h => ⟨trivial, fun a _ => h a⟩⟩

@[simp] theorem asks_viewMembers {room : ActiveRoom} {Q : Phase → Except Err (JsMap MemberId SessionId) → Prop} :
    φ.Asks cfg calm (.viewMembers room) Q ↔ φ.MayViewMembers room ∧ ∀ members, Q (φ.onViewMembers members) (.ok members) :=
  asks_moving (fun _ => trivial) fun _ => id

@[simp] theorem asks_findMemberIdByToken
    {Q : Phase → Except Err (Except Fault (Option MemberId)) → Prop} :
    φ.Asks cfg calm (.findMemberIdByToken c tok) Q ↔ φ.MayResolve c ∧ ∀ found, Q (φ.onFindMemberIdByToken found) (.ok found) :=
  asks_moving (fun _ => trivial) fun _ => id

@[simp] theorem asks_getRoomGeneration
    {Q : Phase → Except Err (Except Fault (Option Generation)) → Prop} :
    φ.Asks cfg calm (.getRoomGeneration c) Q ↔ ∀ found, Q (φ.onGetRoomGeneration c found) (.ok found) :=
  ⟨fun h a => h.2 a ⟨trivial, fun _ => id⟩, fun h => ⟨trivial, fun a _ => h a⟩⟩

@[simp] theorem asks_markRoomGeneration {g : Generation} {prev : Option Generation}
    {Q : Phase → Except Err (Except Fault Bool) → Prop} :
    φ.Asks cfg calm (.markRoomGeneration c g prev) Q ↔ (∃ s room, φ = .creating s (.named room g) ∧ c = room.code) ∧ ∀ result, Q (φ.onMarkRoomGeneration result) (.ok result) :=
  asks_moving (fun _ => trivial) fun _ => id

@[simp] theorem asks_deleteRoomRuntime {g : Option Generation}
    {Q : Phase → Except Err (Except Fault Bool) → Prop} :
    φ.Asks cfg calm (.deleteRoomRuntime c g) Q ↔ (∃ n id, φ = .tearing n c g id) ∧ ∀ result, Q (φ.onDeleteRoomRuntime result) (.ok result) :=
  asks_moving (fun _ => trivial) fun _ => id

@[simp] theorem asks_enterJoinQueue {Q : Phase → Except Err (Ticket) → Prop} :
    φ.Asks cfg calm (.enterJoinQueue n c) Q ↔ φ.MayEnter calm ∧ ∀ ticket, Q (φ.onEnterJoinQueue n c ticket) (.ok ticket) :=
  asks_moving (fun _ => trivial) fun _ => id

@[simp] theorem asks_track {task : Task} {Q : Phase → Except Err (EffectId) → Prop} :
    φ.Asks cfg calm (.track n task) Q ↔ φ.MayTrack task ∧ ∀ id, Q (φ.onTrack) (.ok id) :=
  asks_moving (fun _ => trivial) fun _ => id

@[simp] theorem asks_startRuntimeTeardownEffect {g : Option Generation}
    {Q : Phase → Except Err (EffectId) → Prop} :
    φ.Asks cfg calm (.startRuntimeTeardownEffect n c g) Q ↔ (∃ owner, φ = .collecting owner (.confirmed c g)) ∧ ∀ id, Q (φ.onCollected) (.ok id) :=
  asks_moving (fun _ => trivial) fun _ => id

@[simp] theorem asks_isClosing {Q : Phase → Except Err Bool → Prop} :
    φ.Asks cfg calm (.isClosing n) Q ↔
      Q (φ.onIsClosing false) (.ok false) ∧ (¬calm → Q (φ.onIsClosing true) (.ok true)) := by
  unfold Phase.Asks
  simp [Cmd.Plausible, Cmd.Faulty, Phase.after, Phase.permits]

/-- Splits the answers of an awaited call into results and faults. -/
theorem forall_answer {T : Type} {may : Prop} {expected Q : Except Fault T → Prop}
    {sound : T → Prop} {fails : Prop} (ok : ∀ a, expected (.ok a) ↔ sound a)
    (error : ∀ f, expected (.error f) ↔ fails) :
    (may ∧ ∀ a, expected a → Q a) ↔
      may ∧ (∀ a, sound a → Q (.ok a)) ∧ (fails → ∀ f, Q (.error f)) := by
  simp only [forall_except, ok, error]
  tauto

@[simp] theorem asks_flush {Q : Phase → Except Err (Except Fault Unit) → Prop} :
    φ.Asks cfg calm .flush Q ↔
      Q φ (.ok (.ok ())) ∧ (¬calm → ∀ f, Q φ (.ok (.error f))) :=
  (forall_answer (fun _ => ⟨fun _ => trivial, fun _ => ⟨trivial, fun _ => id⟩⟩)
    fun _ => ⟨fun h c => h.2 c trivial, fun h => ⟨trivial, fun c _ => h c⟩⟩).trans
    ⟨fun h => ⟨h.2.1 () trivial, h.2.2⟩, fun h => ⟨trivial, fun _ _ => h.1, h.2⟩⟩

@[simp] theorem asks_createRoom {input : CreatePersistedRoomInput}
    {Q : Phase → Except Err (Except Fault PersistedRoom) → Prop} :
    φ.Asks cfg calm (.createRoom input) Q ↔
      (∃ s, φ = .creating s (.minted input.joinToken)) ∧
        (∀ room, room = createPersistedRoom input →
          Q (φ.onCreateRoom input (.ok room)) (.ok (.ok room))) ∧
        (True → ∀ f, Q (φ.onCreateRoom input (.error f)) (.ok (.error f))) :=
  forall_answer (fun _ => ⟨fun h => h.1, fun h => ⟨h, fun _ => id⟩⟩)
    fun _ => ⟨fun _ => trivial, fun _ => ⟨trivial, fun _ => id⟩⟩

@[simp] theorem asks_getRoom {Q : Phase → Except Err (Except Fault (Option PersistedRoom)) → Prop} :
    φ.Asks cfg calm (.getRoom c) Q ↔ φ.MayGetRoom c ∧
      (∀ found : Option PersistedRoom, (∀ room, found = some room → room.code = c) →
        Q (φ.onGetRoom c (.ok found)) (.ok (.ok found))) ∧
      (¬calm → ∀ f, Q (φ.onGetRoom c (.error f)) (.ok (.error f))) := by
  refine forall_answer (fun found => ?_)
    fun _ => ⟨fun h c => h.2 c trivial, fun h => ⟨trivial, fun c _ => h c⟩⟩
  cases found with
  | none => exact ⟨fun _ _ h => (nomatch h), fun _ => ⟨trivial, fun _ => id⟩⟩
  | some room =>
    exact ⟨fun h r hr => Option.some.inj hr ▸ h.1, fun h => ⟨h room rfl, fun _ => id⟩⟩

/-- A conflict with an instance's own rollback only happens when something went wrong. -/
def conflicted (expected : RoomUpdateGuard) (result : RoomUpdateResult) : Prop :=
  (∃ joinToken, expected = .inst joinToken none) ∧ result = .refused .versionConflict

@[simp] theorem asks_updateRoom {expected : RoomUpdateGuard} {patch : PersistedRoomPatch}
    {Q : Phase → Except Err (Except Fault RoomUpdateResult) → Prop} :
    φ.Asks cfg calm (.updateRoom c expected patch) Q ↔
      φ.MayUpdateRoom cfg c expected patch ∧
      (∀ result, (∀ room, result = .ok room → room.code = c) ∧
        (calm → ¬conflicted expected result) →
        Q (φ.onUpdateRoom (.ok result)) (.ok (.ok result))) ∧
      (¬calm → ∀ f, Q (φ.onUpdateRoom (.error f)) (.ok (.error f))) := by
  refine forall_answer (fun result => ?_) fun f => ?_
  · refine and_congr ?_ (forall_congr' fun _ => not_congr ?_)
    · cases result with
      | ok room => exact ⟨fun h r hr => RoomUpdateResult.ok.inj hr ▸ h, fun h => h room rfl⟩
      | refused => exact ⟨fun _ _ h => (nomatch h), fun _ => trivial⟩
    · rcases expected with v | ⟨joinToken, _ | v⟩ <;> rcases result with room | _ | _ <;>
        simp [Cmd.Faulty, conflicted]
  · rcases expected with v | ⟨joinToken, _ | v⟩ <;>
      exact ⟨fun h c => h.2 c trivial, fun h => ⟨trivial, fun c _ => h c⟩⟩

@[simp] theorem asks_addMember {Q : Phase → Except Err (Except Fault Unit) → Prop} :
    φ.Asks cfg calm (.addMember c m s tok) Q ↔ φ.MayAddMember c m s ∧
      (∀ u, True → Q (φ.onAddMember (.ok u)) (.ok (.ok u))) ∧
      (¬calm → ∀ f, Q (φ.onAddMember (.error f)) (.ok (.error f))) :=
  forall_answer (fun _ => ⟨fun _ => trivial, fun _ => ⟨trivial, fun _ => id⟩⟩)
    fun _ => ⟨fun h c => h.2 c trivial, fun h => ⟨trivial, fun c _ => h c⟩⟩

@[simp] theorem asks_removeMember {Q : Phase → Except Err (Except Fault Removal) → Prop} :
    φ.Asks cfg calm (.removeMember c m s) Q ↔ φ.MayRemoveMember c m s ∧
      (∀ removal, True → Q (φ.onRemoveMember (.ok removal)) (.ok (.ok removal))) ∧
      (¬calm → ∀ f, Q (φ.onRemoveMember (.error f)) (.ok (.error f))) :=
  forall_answer (fun _ => ⟨fun _ => trivial, fun _ => ⟨trivial, fun _ => id⟩⟩)
    fun _ => ⟨fun h c => h.2 c trivial, fun h => ⟨trivial, fun c _ => h c⟩⟩

@[simp] theorem asks_revokeMemberToken {Q : Phase → Except Err (Except Fault Unit) → Prop} :
    φ.Asks cfg calm (.revokeMemberToken c m s) Q ↔ True ∧
      (∀ u, True → Q φ (.ok (.ok u))) ∧ (¬calm → ∀ f, Q φ (.ok (.error f))) :=
  forall_answer (fun _ => ⟨fun _ => trivial, fun _ => ⟨trivial, fun _ => id⟩⟩)
    fun _ => ⟨fun h c => h.2 c trivial, fun h => ⟨trivial, fun c _ => h c⟩⟩

@[simp] theorem asks_resolveActiveRoom
    {Q : Phase → Except Err (Except Fault (Option ActiveRoom)) → Prop} :
    φ.Asks cfg calm (.resolveActiveRoom c) Q ↔ φ.MayResolve c ∧
      (∀ found, True → Q (φ.onResolveActiveRoom (.ok found)) (.ok (.ok found))) ∧
      (¬calm → ∀ f, Q (φ.onResolveActiveRoom (.error f)) (.ok (.error f))) :=
  forall_answer (fun _ => ⟨fun _ => trivial, fun _ => ⟨trivial, fun _ => id⟩⟩)
    fun _ => ⟨fun h c => h.2 c trivial, fun h => ⟨trivial, fun c _ => h c⟩⟩

end Commands

end BiliSyncPlay
