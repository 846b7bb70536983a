import BiliSyncPlay.Service.Rules

/-!
# The service follows the protocol

One rule for each function of the service, in the phases it is called in, and from them that
every request follows the protocol of rooms from its first phase to a final one.
-/

namespace BiliSyncPlay

open Interleave Prog

variable {cfg : Config} {calm : Prop} {α β : Type} {φ : Phase}

/-! ## Reading a room -/

/-- A phase that may read a room, and to which a second reading is like the first. -/
structure Phase.Reads (calm : Prop) (φ : Phase) (code : Code) : Prop where
  may : φ.MayGetRoom code
  again : ∀ room, (φ.onGetRoom code (.ok (some room))).MayGetRoom code
  ok : ∀ room found, (φ.onGetRoom code (.ok (some room))).onGetRoom code (.ok found) =
    φ.onGetRoom code (.ok found)
  error : ∀ room f, (φ.onGetRoom code (.ok (some room))).onGetRoom code (.error f) =
    φ.onGetRoom code (.ok (some room)) ∨
    (φ.onGetRoom code (.ok (some room))).onGetRoom code (.error f) = φ.onGetRoom code (.error f)
  closing : ∀ room b, (φ.onGetRoom code (.ok (some room))).onIsClosing b =
    φ.onGetRoom code (.ok (some room))
  may_log : ∀ room line, (φ.onGetRoom code (.ok (some room))).MayLog calm line
  logs : ∀ room line, (φ.onGetRoom code (.ok (some room))).onLogEvent line =
    φ.onGetRoom code (.ok (some room))

variable {Q : Phase → Except Err Unit → Prop} {joinToken : Token} {m : Option MemberId}
  {reason : String} {room : PersistedRoom} {seen : Option Standing} {token : Option Token}

theorem reads_outside {s : SessionId} {code : Code} :
    (Phase.outside s seen).Reads calm code := by
  constructor <;> simp

theorem reads_vacated {s : SessionId} {code : Code} :
    (Phase.leaving s m code .vacated).Reads calm code := by
  constructor <;> simp [Option.forall]

theorem reads_turn {s : SessionId} {n : NodeId} {code : Code} {ticket : Ticket} :
    (Phase.joining s n code ticket .turn).Reads calm code := by
  constructor <;> simp

/-- Where reading a room can end: with the record just read, or without one, or short of an
answer. A record that was read and is not answered counts down. -/
def Resolved (calm : Prop) (φ : Phase) (code : Code) (ψ : Phase) :
    Except Err (Option PersistedRoom) → Prop
  | .ok (some room) => room.code = code ∧ ψ = φ.onGetRoom code (.ok (some room))
  | .ok none => ψ = φ.onGetRoom code (.ok none) ∨
      ∃ room, room.expiresAt.isSome = true ∧ ψ = φ.onGetRoom code (.ok (some room))
  | .error _ => (∃ room, room.expiresAt.isSome = true ∧ ψ = φ.onGetRoom code (.ok (some room))) ∨
      ¬calm ∧ ∃ f, ψ = φ.onGetRoom code (.error f)

theorem expires_of_expired {now : Time} (h : room.expired now = true) :
    room.expiresAt.isSome = true := by
  unfold PersistedRoom.expired at h
  cases hx : room.expiresAt with
  | none => rw [hx] at h; cases h
  | some t => rfl

theorem does_resolveRoom {n : NodeId} {code : Code}
    {Q : Phase → Except Err (Option PersistedRoom) → Prop} (reads : φ.Reads calm code)
    (done : ∀ ψ r, Resolved calm φ code ψ r → Q ψ r) :
    φ.Does cfg calm (resolveRoom n code) Q := by
  have stuck : ∀ room now e, room.expired now = true →
      Q (φ.onGetRoom code (.ok (some room))) (.error e) := fun room now e h =>
    done _ _ (.inl ⟨room, expires_of_expired h, rfl⟩)
  simp only [resolveRoom, unconfirmedRoomResolution, does_bind, does_call, does_ask, asks_getRoom,
    reads.may, true_and, orThrow, Option.forall, thenDo, does_pure, asks_now, does_ite,
    asks_isClosing, asks_getOrStartExpiredRoomCollection, asks_awaitEffect, does_logEvent,
    does_throw, reads.closing, reads.may_log, reads.logs, Bool.false_eq_true, ↓reduceIte]
  refine ⟨⟨?_, ?_⟩, ?_⟩
  · exact fun _ => done _ _ (.inl rfl)
  · intro room own now
    have own : room.code = code := own room rfl
    refine ⟨fun dead => ⟨fun effect => ⟨stuck room now _ dead, fun settled => ?_⟩,
      fun _ => stuck room now _ dead⟩, fun _ => done _ _ ⟨own, rfl⟩⟩
    cases settled with
    | deletion outcome =>
      cases outcome with
      | superseded =>
        simp only [does_bind, does_call, does_ask, asks_getRoom, reads.again, reads.ok, true_and,
          orThrow, thenDo, Option.forall, does_pure, asks_now, does_ite, does_logEvent, does_throw,
          reads.may_log, reads.logs]
        refine ⟨⟨fun _ => done _ _ (.inl rfl), ?_⟩, ?_⟩
        · intro fresh own later
          exact ⟨fun dead => stuck fresh later _ dead, fun _ => done _ _ ⟨own fresh rfl, rfl⟩⟩
        · intro faulty f
          rcases reads.error room f with h | h <;> rw [h]
          · exact stuck room now _ dead
          · exact done _ _ (.inr ⟨faulty, f, rfl⟩)
      | _ => exact done _ _ (.inr ⟨room, expires_of_expired dead, rfl⟩)
    | failed f => exact stuck room now _ dead
    | _ => exact done _ _ (.inr ⟨room, expires_of_expired dead, rfl⟩)
  · exact fun faulty f => done _ _ (.inr ⟨faulty, f, rfl⟩)

/-- A loop that reads the room and retries its action while it answers `none`. -/
theorem does_withVersionRetry {n : NodeId} {code : Code}
    {action : PersistedRoom → Service (Option α)} (Start : Phase → Prop)
    {Q : Phase → Except Err (Option α) → Prop} (reads : ∀ φ, Start φ → φ.Reads calm code)
    (quiet : ∀ φ line, Start φ → φ.MayLog calm line ∧ φ.onLogEvent line = φ)
    (exhausted : ∀ φ, Start φ → Q φ (.ok none))
    (missing : ∀ φ ψ, Start φ → Resolved calm φ code ψ (.ok none) → Q ψ (.ok none))
    (failed : ∀ φ ψ e, Start φ → Resolved calm φ code ψ (.error e) → Q ψ (.error e))
    (act : ∀ φ room, Start φ → room.code = code →
      (φ.onGetRoom code (.ok (some room))).Does cfg calm (action room) fun ψ r =>
        match r with
        | .ok none => Start ψ
        | r => Q ψ r) (attempts : Nat) (start : Start φ) :
    φ.Does cfg calm (withVersionRetry n code action attempts) Q := by
  induction attempts generalizing φ with
  | zero =>
    simp only [withVersionRetry, does_bind, does_logEvent, thenDo, does_pure, quiet φ _ start,
      true_and]
    exact exhausted φ start
  | succ attempts ih =>
    simp only [withVersionRetry, does_bind]
    refine does_resolveRoom (reads φ start) fun ψ r resolved => ?_
    cases r with
    | error e => exact failed φ ψ e start resolved
    | ok found =>
      cases found with
      | none => exact missing φ ψ start resolved
      | some room =>
        obtain ⟨own, h⟩ := resolved
        rw [h]
        simp only [thenDo, does_bind]
        refine (act φ room start own).mono fun χ r h => ?_
        cases r with
        | error e => exact h
        | ok answer =>
          cases answer with
          | none => exact ih h
          | some a => exact h

/-! ## Leaving -/

theorem does_restoreLeaveState {s : SessionId} {code : Code}
    {snapshot : Option JoinedSessionSnapshot}
    (own : ∀ joined, snapshot = some joined → joined.roomCode = code ∧ m = some joined.memberId)
    (back : ∀ stage r, stage = .recovering true ∨ stage = .returned →
      Q (.leaving s m code stage) r) :
    (Phase.leaving s m code (.recovering true)).Does cfg calm
      (restoreLeaveState s snapshot code reason) Q := by
  cases snapshot with
  | none => exact back _ _ (.inl rfl)
  | some joined =>
    obtain ⟨rfl, rfl⟩ := own joined rfl
    simp only [restoreLeaveState, does_bind, does_call, does_ask, asks_addMember]
    refine ⟨⟨rfl, rfl, rfl⟩, fun _ _ => ?_, fun _ f => back _ _ (.inl rfl)⟩
    simp [back]

theorem does_rethrowLeave {e : Err} {Q : Phase → Except Err α → Prop} (thrown : ∀ e, Q φ (.error e)) :
    φ.Does cfg calm (rethrowLeave e reason) Q := by
  cases e <;> exact thrown _

/-- The phases a recovery can end in: nothing put back, or everything. -/
def LeaveStage.Recovered (stage : LeaveStage) : Prop :=
  stage = .returned ∨ ∃ socketOpen, stage = .recovering socketOpen

theorem does_recoverRemovedMember {s : SessionId} {code : Code} {stage : LeaveStage}
    {snapshot : Option JoinedSessionSnapshot} {roomEmpty : Bool}
    {Q : Phase → Except Err Bool → Prop} (out : stage = .vacated ∨ ∃ room, stage = .read room)
    (discharged : calm → stage.Discharged)
    (own : ∀ joined, snapshot = some joined → joined.roomCode = code ∧ m = some joined.memberId)
    (swallowed : Q (.leaving s m code (.recovering false)) (.ok true))
    (failed : ∀ stage r, stage.Recovered → r ≠ .ok true → Q (.leaving s m code stage) r) :
    (Phase.leaving s m code stage).Does cfg calm
      (recoverRemovedMember s code snapshot roomEmpty reason) Q := by
  have reading : ∀ session, (Phase.leaving s m code stage).onReadSession session =
      .leaving s m code (.recovering session.socketOpen) := by
    obtain rfl | ⟨room, rfl⟩ := out <;> intro session <;> rfl
  simp only [recoverRemovedMember, does_bind, does_ask, asks_readSession, reading, thenDo, does_ite]
  refine ⟨⟨rfl, discharged⟩, fun session => ⟨fun isOpen => ?_, fun closed => ?_⟩⟩
  · have skip : (Phase.leaving s m code (.recovering true)).Does cfg calm
        (logEvent "room_leave_recovery_skipped" code s "room_deleted")
        (thenDo cfg calm (fun _ => pure false) Q) := by
      simpa using failed _ _ (.inr ⟨_, rfl⟩) (by simp)
    have restore : (Phase.leaving s m code (.recovering true)).Does cfg calm
        (restoreLeaveState s snapshot code reason) (thenDo cfg calm (fun _ => pure false) Q) := by
      refine does_restoreLeaveState own fun stage r h => ?_
      have done : stage.Recovered := h.symm.imp_right fun h => ⟨true, h⟩
      cases r with
      | ok u => simpa using failed stage _ done (by simp)
      | error e => exact failed stage _ done (by simp)
    simp [roomStillExists, isOpen, skip, restore]
  · have closed : session.socketOpen = false := by simpa using closed
    simp [closed, swallowed, failed _ _ (.inr ⟨false, rfl⟩)]

theorem does_recoverLeave {s : SessionId} {code : Code} {stage : LeaveStage}
    {snapshot : Option JoinedSessionSnapshot} {removed roomEmpty : Bool} {e : Err}
    {Q : Phase → Except Err LeaveResult → Prop}
    (out : removed = true → (stage = .vacated ∨ ∃ room, stage = .read room) ∧
      (calm → stage.Discharged))
    (own : ∀ joined, snapshot = some joined → joined.roomCode = code ∧ m = some joined.memberId)
    (swallowed : ∀ r, Q (.leaving s m code (.recovering false)) (.ok r))
    (kept : removed = false → ∀ e, Q (.leaving s m code stage) (.error e))
    (failed : ∀ stage e, stage.Recovered → Q (.leaving s m code stage) (.error e)) :
    (Phase.leaving s m code stage).Does cfg calm
      (recoverLeave s code snapshot removed roomEmpty e) Q := by
  cases removed with
  | false =>
    simp only [recoverLeave, Bool.false_eq_true, ↓reduceIte, does_bind, does_pure, thenDo,
      does_logEvent, Phase.MayLog, Phase.onLogEvent, true_and]
    exact does_rethrowLeave (kept rfl)
  | true =>
    obtain ⟨out, discharged⟩ := out rfl
    simp only [recoverLeave, ↓reduceIte, does_bind]
    refine does_recoverRemovedMember out discharged own ?_ fun stage r done hr => ?_
    · simp [swallowed]
    · cases r with
      | error e => exact failed stage e done
      | ok swallow =>
        cases swallow with
        | true => exact absurd rfl hr
        | false => simpa using does_rethrowLeave (failed stage · done)

theorem does_scheduleEmptiedRoom {s : SessionId} {code : Code}
    {Q : Phase → Except Err (Option PersistedRoom) → Prop}
    (ended : ∀ r, Q (.leaving s m code .over) (.ok r)) :
    (Phase.leaving s m code (.judged room)).Does cfg calm
      (scheduleEmptiedRoom cfg s code room) Q := by
  simp only [scheduleEmptiedRoom, does_bind, does_ask, asks_now, asks_isClosing, thenDo, does_ite]
  intro now
  refine ⟨⟨(by simp), fun _ => ?_⟩, fun _ => ⟨fun _ => by simp [ended], (by simp)⟩⟩
  simp only [does_bind, does_ask, asks_track, thenDo, asks_awaitEffect]
  refine ⟨⟨_, rfl⟩, fun effect settled => ?_⟩
  cases settled with
  | none => simp [ended]
  | some settled => cases settled <;> simp [ended]

/-- Where the part of a leave after its removal may fail: before the record was read, or at one
that counts down. -/
def LeaveStage.Failed (stage : LeaveStage) (calm : Prop) (start : LeaveStage) : Prop :=
  (∃ room, stage = .read room ∧ room.expiresAt.isSome = true) ∨
    ¬calm ∧ (stage = start ∨ stage = .vacated)

theorem does_leaveViewedRoom {s : SessionId} {session : Session} {code : Code} {removal : Removal}
    {confirmed : Bool} {members : JsMap MemberId SessionId}
    {Q : Phase → Except Err LeaveResult → Prop}
    (ended : ∀ r, Q (.leaving s session.memberId code .over) (.ok r)) :
    (if (othersOf session.memberId s members).length = 0
      then Phase.leaving s session.memberId code (.judged room)
      else Phase.leaving s session.memberId code .over).Does cfg calm
      (leaveViewedRoom cfg s session code removal confirmed room members) Q := by
  have same : (members.entries.filter fun e => e ≠ (session.memberId.getD s, s)) =
      othersOf session.memberId s members := rfl
  simp only [leaveViewedRoom, same]
  split
  · rw [does_bind]
    refine does_scheduleEmptiedRoom fun r => ?_
    simp [ended]
  · simp [ended]

theorem does_leaveResolvedRoom {s : SessionId} {session : Session} {code : Code} {removal : Removal}
    {confirmed : Bool} {Q : Phase → Except Err LeaveResult → Prop}
    (ended : ∀ r, Q (.leaving s session.memberId code .over) (.ok r)) :
    (Phase.leaving s session.memberId code (.read room)).Does cfg calm
      (leaveResolvedRoom cfg s session code removal confirmed room) Q := by
  simp only [leaveResolvedRoom, does_bind, does_ask, asks_resolveActiveRoom, thenDo]
  refine ⟨rfl, fun found _ => ?_, fun _ f => by simp [ended]⟩
  cases found with
  | none =>
    have judged : Phase.leaving s session.memberId code (.judged room) =
        if (othersOf session.memberId s .empty).length = 0
        then .leaving s session.memberId code (.judged room)
        else .leaving s session.memberId code .over := rfl
    simp only [viewMembers, does_pure, thenDo, Phase.onResolveActiveRoom]
    rw [judged]
    exact does_leaveViewedRoom ended
  | some shared =>
    simp only [viewMembers, does_ask, asks_viewMembers, thenDo, Phase.onResolveActiveRoom]
    exact ⟨rfl, fun members => does_leaveViewedRoom ended⟩

theorem does_leaveAfterRemoval {s : SessionId} {session : Session} {code : Code}
    {start : LeaveStage} {removal : Removal} {Q : Phase → Except Err LeaveResult → Prop}
    (here : start = .vacated ∨ start = .begun ∧ session.memberId = none)
    (left : ∀ stage r, stage.Out → stage.Discharged →
      Q (.leaving s session.memberId code stage) (.ok r))
    (failed : ∀ stage e, stage.Failed calm start →
      Q (.leaving s session.memberId code stage) (.error e)) :
    (Phase.leaving s session.memberId code start).Does cfg calm
      (leaveAfterRemoval cfg s session code removal) Q := by
  have ended : ∀ r, Q (.leaving s session.memberId code .over) (.ok r) := fun r =>
    left _ r trivial trivial
  have cleared : (Phase.leaving s session.memberId code start).MayClearSessionRoom s ∧
      (Phase.leaving s session.memberId code start).onClearSessionRoom =
        .leaving s session.memberId code .vacated := by
    obtain rfl | ⟨rfl, none⟩ := here
    · simp
    · simp [none]
  simp only [leaveAfterRemoval, does_bind, does_call, does_ask, asks_flush, asks_removalDurable,
    asks_clearSessionRoom, cleared.1, cleared.2, true_and, thenDo, orThrow]
  refine ⟨fun _ => does_resolveRoom reads_vacated fun ψ r resolved => ?_,
    fun faulty f => failed _ _ (.inr ⟨faulty, .inl rfl⟩)⟩
  cases r with
  | error e =>
    obtain ⟨room, counting, h⟩ | ⟨faulty, f, h⟩ := resolved
    · rw [h]
      exact failed _ _ (.inl ⟨room, rfl, counting⟩)
    · rw [h]
      exact failed _ _ (.inr ⟨faulty, .inr rfl⟩)
  | ok found =>
    cases found with
    | none =>
      obtain h | ⟨room, counting, h⟩ := resolved
      · rw [h]
        exact ended _
      · rw [h]
        exact left (.read room) _ trivial counting
    | some room =>
      obtain ⟨-, h⟩ := resolved
      rw [h]
      exact does_leaveResolvedRoom ended

/-- What a leave hands on: a session that sits nowhere, or the report of why it still does. -/
def LeaveEnds (calm : Prop) (s : SessionId) (ψ : Phase) : Except Err LeaveResult → Prop
  | .ok _ => ψ.session? = some s ∧ ψ.MayEnter calm
  | .error _ => ∃ m code stage, ψ = .leaving s m code stage ∧
      (calm → stage.Discharged ∧ stage ≠ .begun)

theorem does_leaveCurrentRoom {s : SessionId} {reason : LeaveRoomReason}
    {Q : Phase → Except Err LeaveResult → Prop} (done : ∀ ψ r, LeaveEnds calm s ψ r → Q ψ r) :
    (Phase.outside s seen).Does cfg calm (leaveCurrentRoom cfg s reason) Q := by
  have left : ∀ m code stage r, stage.Out → stage.Discharged →
      Q (.leaving s m code stage) (.ok r) := fun _ _ _ _ out discharged =>
    done _ _ ⟨rfl, out, fun _ => discharged⟩
  have recovered : ∀ m code stage e, stage.Recovered → Q (.leaving s m code stage) (.error e) := by
    intro m code stage e recovered
    refine done _ _ ⟨m, code, stage, rfl, fun _ => ?_⟩
    obtain rfl | ⟨b, rfl⟩ := recovered <;> simp
  have stopped : ∀ m code stage e, ¬calm → Q (.leaving s m code stage) (.error e) :=
    fun m code stage e faulty => done _ _ ⟨m, code, stage, rfl, fun c => absurd c faulty⟩
  simp only [leaveCurrentRoom, does_bind, does_ask, asks_readSession, thenDo, Phase.onReadSession]
  refine ⟨rfl, fun session => ?_⟩
  cases hroom : session.roomCode with
  | none => exact done _ _ ⟨rfl, hroom⟩
  | some code =>
    have begins : (Phase.outside s (some session.standing)).onGetActiveRoom code =
        .leaving s session.memberId code .begun := by
      simp [Session.standing, hroom]
    have own : ∀ joined, snapshotJoinedSession session = some joined →
        joined.roomCode = code ∧ session.memberId = some joined.memberId := by
      intro joined h
      unfold snapshotJoinedSession at h
      split at h
      · rename_i c m tok hc hm _
        cases h
        exact ⟨Option.some.inj (hc.symm.trans hroom), hm⟩
      · cases h
    have after : ∀ start (removal : Removal),
        start = .vacated ∨ start = .begun ∧ session.memberId = none →
        (removal.removed = true → start = .vacated) →
        (Phase.leaving s session.memberId code start).Does cfg calm
          (tryCatch (leaveAfterRemoval cfg s session code removal)
            (recoverLeave s code (snapshotJoinedSession session) removal.removed
              removal.roomEmpty)) Q := by
      intro start removal here removed
      rw [does_tryCatch]
      refine does_leaveAfterRemoval here (left _ _) fun stage e failed => ?_
      have discharged : calm → stage.Discharged ∧ stage ≠ .begun := by
        intro c
        obtain ⟨room, rfl, counting⟩ | ⟨faulty, -⟩ := failed
        · exact ⟨counting, (by simp)⟩
        · exact absurd c faulty
      refine does_recoverLeave ?_ own (fun r => left _ _ _ r trivial trivial)
        (fun _ e => done _ _ ⟨_, _, _, rfl, discharged⟩) (recovered _ _)
      intro isRemoved
      refine ⟨?_, fun c => (discharged c).1⟩
      obtain ⟨room, rfl, -⟩ | ⟨-, rfl | rfl⟩ := failed
      · exact .inr ⟨room, rfl⟩
      · exact .inl (removed isRemoved)
      · exact .inl rfl
    have refused : ∀ fault, ¬calm → (Phase.leaving s session.memberId code .begun).Does cfg calm
        (recoverLeave s code (snapshotJoinedSession session) false false (.store fault)) Q :=
      fun fault faulty => does_recoverLeave (by simp) own (fun r => left _ _ _ r trivial trivial)
        (fun _ e => stopped _ _ _ _ faulty) (recovered _ _)
    simp only [does_bind, does_ask, asks_getActiveRoom, thenDo, begins]
    intro current
    cases hm : session.memberId with
    | none =>
      rw [hm] at after
      exact after .begun ⟨current, false, false⟩ (.inr ⟨rfl, rfl⟩) (by simp)
    | some m =>
      rw [hm] at after refused
      have remove : ∀ next, (∀ removal, (Phase.leaving s (some m) code .vacated).Does cfg calm
            (next (.ok removal)) Q) →
          (∀ f, ¬calm → (Phase.leaving s (some m) code .begun).Does cfg calm
            (next (.error f)) Q) →
          (Phase.leaving s (some m) code .begun).Does cfg calm
            (ask (.removeMember code m s) >>= next) Q := by
        intro next removed refused
        simp only [does_bind, does_ask, asks_removeMember, thenDo]
        exact ⟨⟨rfl, rfl, rfl⟩, fun removal _ => removed removal,
          fun faulty f => refused f faulty⟩
      have removed := fun removal => after .vacated removal (.inl rfl) fun _ => rfl
      refine does_ite.mpr ⟨fun _ => ?_, fun _ => remove _ removed refused⟩
      simp only [does_bind, does_ask, asks_revokeMemberToken, thenDo]
      exact ⟨trivial, fun _ _ => remove _ removed refused, fun faulty f => refused f faulty⟩

/-! ## Joining -/

/-- The failure of a join that has taken no seat it keeps. -/
def Unentered (s : SessionId) (n : NodeId) (code : Code) (ticket : Ticket) (ψ : Phase) : Prop :=
  ∃ stage, ψ = .joining s n code ticket stage ∧ ∀ m, stage ≠ .entered m

section Joining

variable {s : SessionId} {n : NodeId} {code : Code} {ticket : Ticket} {stage : JoinStage}

variable {lock : JoinAdmissionLock}

theorem does_assertActive (any : ∀ r, Q φ r) : φ.Does cfg calm (assertActive lock) Q := by
  simp [assertActive, any]

theorem does_releaseJoinLock (released : Q (.joining s n code ticket stage) (.ok ())) :
    (Phase.joining s n code ticket stage).Does cfg calm (releaseJoinLock code lock) Q := by
  simp [releaseJoinLock, released]

theorem onEnterJoinQueue_of_enters {calm : Prop} (enters : φ.MayEnter calm)
    (own : φ.session? = some s) :
    φ.onEnterJoinQueue n code ticket = .joining s n code ticket .queued := by
  unfold Phase.MayEnter at enters
  split at enters <;> simp_all

theorem does_withRoomJoinLock {action : JoinAdmissionLock → Service α}
    {Q : Phase → Except Err α → Prop} (enters : φ.MayEnter calm) (own : φ.session? = some s)
    (act : ∀ ticket lock, (Phase.joining s n code ticket .turn).Does cfg calm (action lock)
      fun ψ r => ∃ stage, ψ = .joining s n code ticket stage ∧ Q ψ.onLeaveJoinQueue r)
    (locked : ∀ e, Q (.outside s none) (.error e)) :
    φ.Does cfg calm (withRoomJoinLock n code action) Q := by
  simp only [withRoomJoinLock, does_bind, does_ask, asks_enterJoinQueue, thenDo]
  refine ⟨enters, fun ticket => ?_⟩
  rw [onEnterJoinQueue_of_enters enters own]
  have leaves : ∀ stage (r : Except Err α),
      Q (Phase.joining s n code ticket stage).onLeaveJoinQueue r →
      thenLast cfg calm (ask (.leaveJoinQueue n code ticket)) Q
        (.joining s n code ticket stage) r := by
    intro stage r h
    exact ⟨⟨rfl, rfl, rfl⟩, fun _ _ => h⟩
  simp only [does_ensuring, does_bind, does_ask, asks_awaitJoinTurn, asks_now, thenDo, does_call,
    asks_acquireDistributedJoinLock]
  refine ⟨⟨rfl, rfl, rfl⟩, fun now answer => ?_⟩
  cases answer with
  | error f => exact leaves .turn _ (locked _)
  | ok granted =>
    cases granted with
    | none =>
      simp only [orThrow, thenDo, does_bind, does_logEvent, does_throw]
      exact ⟨trivial, leaves .turn _ (locked _)⟩
    | some lock =>
      simp only [orThrow, thenDo, does_ensuring]
      refine (act ticket lock).mono fun ψ r h => ?_
      obtain ⟨stage, rfl, h⟩ := h
      exact does_releaseJoinLock (leaves stage r h)

theorem does_ensureNotBlocked (any : ∀ r, Q (.joining s n code ticket stage) r) :
    (Phase.joining s n code ticket stage).Does cfg calm (ensureNotBlocked s code token) Q := by
  cases token with
  | none => exact any _
  | some token => simp [ensureNotBlocked, rejectJoinToken, forall_except, any]

theorem does_resolveJoinTargetState {Q : Phase → Except Err JoinTargetState → Prop}
    (found : ∀ activeRoom (reconnect : Option MemberId) (members : JsMap MemberId SessionId),
      Q (.joining s n code ticket (.viewed room (reconnect.getD s) members))
        (.ok ⟨activeRoom, reconnect, (reconnect.map fun m => members.has m).getD false,
          members.size⟩)) (failed : ∀ e, Q (.joining s n code ticket .turn) (.error e)) :
    (Phase.joining s n code ticket (.read room)).Does cfg calm
      (resolveJoinTargetState code token) Q := by
  simp only [resolveJoinTargetState, does_bind, does_call, does_ask, asks_resolveActiveRoom]
  refine ⟨rfl, fun shared _ => ?_, fun _ f => failed _⟩
  cases shared with
  | none =>
    have seen := found none none .empty
    cases token <;> simpa [viewMembers] using seen
  | some shared =>
    have view : ∀ reconnect, (Phase.joining s n code ticket (.resolved room shared reconnect)).Does
        cfg calm (viewMembers (some shared)) (thenDo cfg calm (fun members =>
          pure ⟨some shared, reconnect, (reconnect.map fun m => members.has m).getD false,
            members.size⟩) Q) := by
      intro reconnect
      simpa [viewMembers] using fun members => found (some shared) reconnect members
    cases token with
    | none => simpa using view none
    | some token => simp [forall_except, view, failed]

theorem does_ensureJoinRequestAllowed {Q : Phase → Except Err JoinTargetState → Prop}
    (allowed : ∀ (target : JoinTargetState) members,
      Phase.Admits cfg (target.reconnectMemberId.getD s) members →
      (target.reconnectHoldsSeat = true →
        members.has (target.reconnectMemberId.getD s) = true) →
      Q (.joining s n code ticket (.viewed room (target.reconnectMemberId.getD s) members))
        (.ok target)) (failed : ∀ ψ e, Unentered s n code ticket ψ → Q ψ (.error e)) :
    (Phase.joining s n code ticket (.read room)).Does cfg calm
      (ensureJoinRequestAllowed cfg s room code joinToken token) Q := by
  have stuck : ∀ stage e, (∀ m, stage ≠ .entered m) →
      Q (.joining s n code ticket stage) (.error e) := fun stage e h => failed _ e ⟨stage, rfl, h⟩
  simp only [ensureJoinRequestAllowed, does_ite, rejectJoinToken, does_bind, does_logEvent, thenDo,
    does_throw]
  refine ⟨fun _ => ⟨trivial, stuck _ _ (by simp)⟩, fun _ => does_ensureNotBlocked fun r => ?_⟩
  cases r with
  | error e => exact stuck _ _ (by simp)
  | ok u =>
    simp only [thenDo, does_bind]
    refine does_resolveJoinTargetState (fun activeRoom reconnect members => ?_)
      fun e => stuck _ _ (by simp)
    have holds : (reconnect.map fun m => members.has m).getD false = true →
        members.has (reconnect.getD s) = true := by
      cases reconnect <;> simp
    simp only [thenDo, does_ite, does_throw, does_pure]
    refine ⟨fun _ => stuck _ _ (by simp), fun fits => ?_⟩
    refine allowed ⟨activeRoom, reconnect, _, _⟩ members ?_ holds
    by_cases seated : (reconnect.map fun m => members.has m).getD false = true
    · exact .inr (holds seated)
    · exact .inl (not_le.mp fun full => fits ⟨full, by simpa using seated⟩)

theorem does_refreshJoinedRoom
    {Q : Phase → Except Err (Option (PersistedRoom × JoinTargetState)) → Prop}
    (again : Q (.joining s n code ticket .turn) (.ok none))
    (admitted : ∀ (joined : PersistedRoom) (target : JoinTargetState), joined.code = code →
      Q (.joining s n code ticket (.admitted (target.reconnectMemberId.getD s)))
        (.ok (some (joined, target))))
    (failed : ∀ ψ e, Unentered s n code ticket ψ → Q ψ (.error e)) :
    (Phase.joining s n code ticket (.read room)).Does cfg calm
      (refreshJoinedRoom cfg s code joinToken token room) Q := by
  have stuck : ∀ e, Q (.joining s n code ticket .turn) (.error e) := fun e =>
    failed _ e ⟨.turn, rfl, (by simp)⟩
  simp only [refreshJoinedRoom, does_bind, does_ask, asks_now, thenDo]
  intro now
  refine does_ensureJoinRequestAllowed (fun target members admits holds => ?_) failed
  simp only [thenDo, does_ite, does_bind, does_call, does_ask, asks_getRoom, asks_updateRoom]
  refine ⟨fun asks => ⟨⟨rfl, asks.1, holds asks.2.2⟩, ?_, fun _ f => stuck _⟩,
    fun _ => ⟨⟨rfl, rfl, admits, rfl⟩, ?_, fun _ f => ?_⟩⟩
  · intro latest own
    cases latest with
    | none => exact again
    | some latest =>
      simp only [orThrow, thenDo, Phase.onGetRoom, does_ite, does_pure]
      by_cases same : latest.version = room.version
      · simp [same, admitted latest target (own latest rfl)]
      · simp [same, again]
  · intro result own
    cases result with
    | refused reason => exact again
    | ok updated => exact admitted updated target (own.1 updated rfl)
  · simp [stuck]

theorem does_persistJoinedRoom
    {Q : Phase → Except Err (Option (PersistedRoom × JoinTargetState)) → Prop}
    (missing : ∀ stage, (∀ m, stage ≠ .entered m) → Q (.joining s n code ticket stage) (.ok none))
    (admitted : ∀ (joined : PersistedRoom) (target : JoinTargetState), joined.code = code →
      Q (.joining s n code ticket (.admitted (target.reconnectMemberId.getD s)))
        (.ok (some (joined, target))))
    (failed : ∀ ψ e, Unentered s n code ticket ψ → Q ψ (.error e)) :
    (Phase.joining s n code ticket .turn).Does cfg calm
      (persistJoinedRoom cfg s code joinToken token) Q := by
  refine does_withVersionRetry (· = Phase.joining s n code ticket .turn) ?_ ?_ ?_ ?_ ?_ ?_
    _ rfl
  · rintro φ rfl
    exact reads_turn
  · rintro φ line rfl
    exact ⟨trivial, rfl⟩
  · rintro φ rfl
    exact missing _ nofun
  · rintro φ ψ rfl (rfl | ⟨room, -, rfl⟩)
    · exact missing _ nofun
    · exact missing _ nofun
  · rintro φ ψ e rfl (⟨room, -, rfl⟩ | ⟨-, f, rfl⟩)
    · exact failed _ e ⟨_, rfl, nofun⟩
    · exact failed _ e ⟨_, rfl, nofun⟩
  · rintro φ room rfl own
    exact does_refreshJoinedRoom rfl admitted failed

theorem does_buildJoinIdentity {reconnect : Option MemberId}
    {Q : Phase → Except Err JoinIdentity → Prop}
    (built : ∀ tok, Q (.joining s n code ticket stage) (.ok ⟨reconnect.getD s, tok⟩)) :
    (Phase.joining s n code ticket stage).Does cfg calm
      (buildJoinIdentity s reconnect token) Q := by
  cases reconnect with
  | none => simpa [buildJoinIdentity] using built
  | some m =>
    cases token with
    | none => simpa [buildJoinIdentity] using built
    | some tok => exact built tok

theorem does_previousSessions {joined : PersistedRoom} {target : JoinTargetState} {m : MemberId}
    {Q : Phase → Except Err (Option SessionId × Option SessionId) → Prop}
    (any : ∀ r, Q (.joining s n code ticket (.admitted m)) (.ok r)) :
    (Phase.joining s n code ticket (.admitted m)).Does cfg calm
      (previousSessions joined target) Q := by
  unfold previousSessions
  cases target.reconnectMemberId with
  | none => exact any _
  | some _ => cases target.activeRoom <;> simp [viewMembers, any]

theorem does_readdPreviousSession {m : MemberId} {tok : Token} {previous current : Option SessionId}
    (any : ∀ stage r, stage = .undone m ∨ stage = .readded m →
      Q (.joining s n code ticket stage) r) :
    (Phase.joining s n code ticket (.undone m)).Does cfg calm
      (readdPreviousSession s code ⟨m, tok⟩ previous current) Q := by
  cases previous with
  | none => exact any _ _ (.inl rfl)
  | some previous => simp [readdPreviousSession, any]

theorem does_undoJoin {m : MemberId} {tok : Token} {previous : Option SessionId} {e : Err}
    {Q : Phase → Except Err α → Prop}
    (failed : ∀ ψ e, Unentered s n code ticket ψ → Q ψ (.error e)) :
    (Phase.joining s n code ticket (.seated m)).Does cfg calm
      (undoJoin s code ⟨m, tok⟩ previous e) Q := by
  have stuck : ∀ stage e, (∀ m, stage ≠ .entered m) →
      Q (.joining s n code ticket stage) (.error e) := fun stage e h => failed _ e ⟨stage, rfl, h⟩
  have readd : ∀ current, (Phase.joining s n code ticket (.undone m)).Does cfg calm
      (readdPreviousSession s code ⟨m, tok⟩ previous current)
      (thenDo cfg calm (fun _ => throw e) Q) := by
    intro current
    refine does_readdPreviousSession fun stage r h => ?_
    have unentered : ∀ m, stage ≠ .entered m := by
      obtain rfl | rfl := h <;> simp
    cases r <;> exact stuck _ _ unentered
  simp only [undoJoin, does_bind, does_call, does_ask, asks_removeMember]
  refine ⟨⟨rfl, rfl, rfl⟩, fun removal _ => ?_, fun _ f => stuck _ _ (by simp)⟩
  have view : ∀ shared, (Phase.joining s n code ticket (.undone m)).Does cfg calm
      (viewMembers shared) (thenDo cfg calm (fun members => do
        readdPreviousSession s code ⟨m, tok⟩ previous (members.get? m)
        throw e) Q) := by
    intro shared
    cases shared with
    | none => simpa [viewMembers] using readd _
    | some shared => simpa [viewMembers] using fun members => readd _
  simp only [orThrow, thenDo, does_bind, does_ask, asks_flush, does_call, asks_resolveActiveRoom,
    Phase.onRemoveMember]
  exact ⟨⟨rfl, fun shared _ => view shared, fun _ f => stuck _ _ (by simp)⟩,
    fun _ _ => ⟨rfl, fun shared _ => view shared, fun _ f => stuck _ _ (by simp)⟩⟩

theorem does_confirmJoin {m : MemberId} {tok : Token}
    (entered : Q (.joining s n code ticket (.entered m)) (.ok ()))
    (failed : ∀ e, Q (.joining s n code ticket (.seated m)) (.error e)) :
    (Phase.joining s n code ticket (.seated m)).Does cfg calm
      (confirmJoin s lock code ⟨m, tok⟩) Q := by
  simp [confirmJoin, assertActive, entered, failed]

theorem does_seatJoinedSession {joined : PersistedRoom} {target : JoinTargetState}
    {Q : Phase → Except Err (PersistedRoom × Token) → Prop} (own : joined.code = code)
    (entered : ∀ m tok, Q (.joining s n code ticket (.entered m)) (.ok (joined, tok)))
    (failed : ∀ ψ e, Unentered s n code ticket ψ → Q ψ (.error e)) :
    (Phase.joining s n code ticket (.admitted (target.reconnectMemberId.getD s))).Does cfg calm
      (seatJoinedSession s lock token joined target) Q := by
  subst own
  have stuck : ∀ stage e, (∀ m, stage ≠ .entered m) →
      Q (.joining s n joined.code ticket stage) (.error e) :=
    fun stage e h => failed _ e ⟨stage, rfl, h⟩
  simp only [seatJoinedSession, does_bind]
  refine does_buildJoinIdentity fun tok => ?_
  simp only [thenDo, does_bind]
  refine does_previousSessions fun previous => ?_
  obtain ⟨previousLocal, previousRuntime⟩ := previous
  simp only [thenDo, does_bind]
  refine does_assertActive fun r => ?_
  cases r with
  | error e => exact stuck _ _ (by simp)
  | ok u =>
    simp only [thenDo, does_bind, does_call, does_ask, asks_addMember]
    refine ⟨⟨rfl, rfl, rfl⟩, fun _ _ => ?_, fun _ f => stuck _ _ (by simp)⟩
    simp only [orThrow, thenDo, does_bind, does_tryCatch, Phase.onAddMember]
    refine does_confirmJoin ?_ fun e => ?_
    · simp only [elseDo, thenDo, does_bind]
      have rest : (Phase.joining s n joined.code ticket
            (.entered (target.reconnectMemberId.getD s))).Does cfg calm
          (disconnectReplacedSession s previousLocal) fun ψ r =>
            ψ = .joining s n joined.code ticket (.entered (target.reconnectMemberId.getD s)) ∧
              r = .ok () := by
        cases previousLocal with
        | none => exact ⟨rfl, rfl⟩
        | some previous => simp [disconnectReplacedSession]
      refine rest.mono ?_
      rintro ψ r ⟨rfl, rfl⟩
      simp [entered]
    · exact does_undoJoin fun ψ e h => failed ψ e h

end Joining

/-- How entering a room ends: seated and the session saying so, or stopped on the way. -/
def EnterEnds (calm : Prop) (s : SessionId) (ψ : Phase) : Except Err (PersistedRoom × Token) → Prop
  | .ok (room, _) => (∃ m, ψ = .outside s (some ⟨some room.code, some m⟩)) ∨
      ψ = .creating s (.live room)
  | .error _ => (∃ m code stage, ψ = .leaving s m code stage ∧
      (calm → stage.Discharged ∧ stage ≠ .begun)) ∨ ψ = .outside s none ∨
      ∃ stage, ψ = .creating s stage ∧ (Phase.creating s stage).Final calm ∧
        ∀ room, stage ≠ .live room

theorem does_joinRoomForSession {s : SessionId} {code : Code} {displayName : Option String}
    {Q : Phase → Except Err (PersistedRoom × Token) → Prop}
    (done : ∀ ψ r, EnterEnds calm s ψ r → Q ψ r) :
    (Phase.outside s seen).Does cfg calm
      (joinRoomForSession cfg s code joinToken displayName token) Q := by
  simp only [joinRoomForSession, does_bind, does_ask, asks_setSessionDisplayName, thenDo]
  refine ⟨rfl, fun _ => does_leaveCurrentRoom fun ψ r ends => ?_⟩
  cases r with
  | error e => exact done _ _ (.inl ends)
  | ok left =>
    obtain ⟨own, enters⟩ := ends
    refine does_withRoomJoinLock enters own (fun ticket lock => ?_) fun e =>
      done _ _ (.inr (.inl rfl))
    have failed : ∀ (ψ : Phase) (e : Err), Unentered s (cfg.nodeOf s) code ticket ψ →
        ∃ stage, ψ = .joining s (cfg.nodeOf s) code ticket stage ∧
          Q ψ.onLeaveJoinQueue (.error e) := by
      rintro ψ e ⟨stage, rfl, unentered⟩
      refine ⟨stage, rfl, done _ _ (.inr (.inl ?_))⟩
      cases stage <;> first | rfl | exact absurd rfl (unentered _)
    simp only [does_bind]
    refine does_persistJoinedRoom (fun stage h => ?_) (fun joined target own => ?_) failed
    · exact failed _ _ ⟨stage, rfl, h⟩
    · refine does_seatJoinedSession own (fun m tok => ?_) failed
      subst own
      exact ⟨_, rfl, done _ _ (.inl ⟨m, rfl⟩)⟩

/-! ## Creating -/

section Creating

variable {s : SessionId} {n : NodeId}

theorem does_expireOrphanedRoom {code : Code}
    (reported : Q (.creating s (.reported code joinToken)) (.ok ()))
    (handedOver : Q (.creating s (.handedOver code joinToken)) (.ok ())) :
    (Phase.creating s (.orphaned code joinToken)).Does cfg calm
      (expireOrphanedRoom n s code joinToken reason) Q := by
  simp only [expireOrphanedRoom, does_bind, does_ask, asks_isClosing, thenDo, does_ite]
  refine ⟨⟨(by simp), fun _ => ?_⟩, fun _ => ⟨fun _ => by simp [reported], (by simp)⟩⟩
  simp only [does_bind, does_ask, asks_track, thenDo, asks_awaitEffect]
  refine ⟨⟨_, rfl⟩, fun effect settled => ?_⟩
  cases settled <;> simp [handedOver]

/-- How an allocation ends, given that it tried at all. -/
def AllocationEnds (s : SessionId) (ψ : Phase) : Allocation → Prop
  | .created room => ψ = .creating s (.founded room)
  | .unconfirmed _ => ψ = .creating s .founding ∨
      ∃ code joinToken, ψ = .creating s (.reported code joinToken) ∨
        ψ = .creating s (.handedOver code joinToken)
  | .conflict => ψ = .creating s .founding

theorem does_createUnder {createdAt : Time} {code : Code}
    {Q : Phase → Except Err (Option Allocation) → Prop}
    (done : ∀ ψ a, AllocationEnds s ψ a → Q ψ (.ok (some a)))
    (again : Q (.creating s .founding) (.ok none)) :
    (Phase.creating s .founding).Does cfg calm (createUnder n s createdAt code) Q := by
  simp only [createUnder, does_bind, does_ask, asks_generateToken, asks_readSession,
    asks_createRoom, thenDo]
  refine fun joinToken => ⟨rfl, fun session => ⟨⟨s, rfl⟩, ?_, fun _ f => ?_⟩⟩
  · rintro room rfl
    exact done _ (.created _) rfl
  · cases f with
    | other => exact again
    | admission => exact done _ (.unconfirmed _) (.inl rfl)
    | timeout operation =>
      rw [does_bind]
      refine does_expireOrphanedRoom ?_ ?_
      · exact done _ (.unconfirmed _) (.inr ⟨code, joinToken, .inl rfl⟩)
      · exact done _ (.unconfirmed _) (.inr ⟨code, joinToken, .inr rfl⟩)

theorem does_allocateRoom {createdAt : Time} {Q : Phase → Except Err Allocation → Prop}
    (done : ∀ ψ a, AllocationEnds s ψ a → Q ψ (.ok a)) (attempts : Nat)
    (may : φ.MayEnter calm ∨ ∃ s, φ = .creating s .founding)
    (founding : φ.onNextRoomCode = .creating s .founding)
    (tries : attempts = 0 → φ = .creating s .founding) :
    φ.Does cfg calm (allocateRoom n s createdAt attempts) Q := by
  induction attempts generalizing φ with
  | zero => rw [tries rfl]; exact done _ .conflict rfl
  | succ attempts ih =>
    have again : (Phase.creating s .founding).Does cfg calm
        (allocateRoom n s createdAt attempts) Q := ih (.inr ⟨s, rfl⟩) rfl fun _ => rfl
    simp only [allocateRoom, does_bind, does_ask, asks_nextRoomCode, founding, thenDo,
      asks_hasRoomResidue]
    refine ⟨may, fun code dirty => ?_⟩
    cases dirty with
    | error f => exact again
    | ok dirty =>
      cases dirty with
      | false =>
        rw [does_bind]
        exact does_createUnder (fun ψ a ends => done ψ a ends) again
      | true => exact again

theorem does_stampRoom {Q : Phase → Except Err Bool → Prop}
    (stamped : Q (.creating s (.stamped room)) (.ok true))
    (refused : ∀ r, r ≠ .ok true → Q (.creating s (.orphaned room.code room.joinToken)) r) :
    (Phase.creating s (.founded room)).Does cfg calm (stampRoom room.code) Q := by
  simp only [stampRoom, does_bind, does_call, does_ask, asks_getRoomGeneration]
  intro found
  cases found with
  | error f => exact refused _ (by simp)
  | ok pinned =>
    simp only [orThrow, thenDo, does_bind, does_ask, asks_generateToken, does_call,
      asks_markRoomGeneration]
    refine fun generation => ⟨⟨s, room, rfl, rfl⟩, fun result => ?_⟩
    cases result with
    | error f => exact refused _ (by simp)
    | ok marked =>
      cases marked with
      | true => exact stamped
      | false => exact refused _ (by simp)

theorem does_rollbackUnstampedRoom {Q : Phase → Except Err α → Prop}
    (reported : ∀ e, Q (.creating s (.reported room.code room.joinToken)) (.error e))
    (handedOver : ∀ e, Q (.creating s (.handedOver room.code room.joinToken)) (.error e)) :
    (Phase.creating s (.orphaned room.code room.joinToken)).Does cfg calm
      (rollbackUnstampedRoom n s room reason) Q := by
  rw [rollbackUnstampedRoom, does_bind]
  refine does_expireOrphanedRoom ?_ ?_
  · simp [reported]
  · simp [handedOver]

theorem does_openRoom {createdAt : Time} {Q : Phase → Except Err (PersistedRoom × Token) → Prop}
    (live : ∀ tok, Q (.creating s (.live room)) (.ok (room, tok)))
    (stopped : ∀ stage e, (Phase.creating s stage).Final calm → (∀ room, stage ≠ .live room) →
      Q (.creating s stage) (.error e)) :
    (Phase.creating s (.founded room)).Does cfg calm (openRoom n s createdAt room) Q := by
  have rollback : ∀ reason, (Phase.creating s (.orphaned room.code room.joinToken)).Does
      cfg calm (rollbackUnstampedRoom n s room reason) Q := fun reason =>
    does_rollbackUnstampedRoom (fun e => stopped (.reported _ _) e trivial (by simp))
      fun e => stopped (.handedOver _ _) e trivial (by simp)
  simp only [openRoom, does_bind, does_attempt]
  refine does_stampRoom ?_ fun r refused => ?_
  · simp only [thenDo, does_bind, does_ask, asks_generateToken, asks_setMemberId, does_call,
      asks_addMember, Phase.onGenerateToken]
    refine fun tok => ⟨⟨rfl, rfl⟩, ⟨rfl, rfl, rfl⟩, fun _ _ => ?_, fun faulty f =>
      stopped _ _ faulty (by simp)⟩
    simp only [orThrow, thenDo, does_bind, does_ask, asks_setSessionRoom, Phase.onAddMember,
      Phase.onSetSessionRoom, does_logEvent, does_pure]
    exact ⟨⟨rfl, rfl, rfl⟩, trivial, live tok⟩
  · cases r with
    | error e => exact rollback _
    | ok marked =>
      cases marked with
      | true => exact absurd rfl refused
      | false => exact rollback _

theorem onNextRoomCode_of_enters (enters : φ.MayEnter calm) (own : φ.session? = some s) :
    φ.onNextRoomCode = .creating s .founding := by
  unfold Phase.MayEnter at enters
  split at enters <;> simp_all

theorem does_createRoomForSession {displayName : Option String}
    {Q : Phase → Except Err (PersistedRoom × Token) → Prop}
    (done : ∀ ψ r, EnterEnds calm s ψ r → Q ψ r) :
    (Phase.outside s seen).Does cfg calm (createRoomForSession cfg s displayName) Q := by
  have stopped : ∀ stage e, (Phase.creating s stage).Final calm → (∀ room, stage ≠ .live room) →
      Q (.creating s stage) (.error e) := fun stage e final dead =>
    done _ _ (.inr (.inr ⟨stage, rfl, final, dead⟩))
  simp only [createRoomForSession, does_bind, does_ask, asks_setSessionDisplayName, thenDo]
  refine ⟨rfl, fun _ => does_leaveCurrentRoom fun ψ r ends => ?_⟩
  cases r with
  | error e => exact done _ _ (.inl ends)
  | ok left =>
    obtain ⟨own, enters⟩ := ends
    simp only [thenDo, does_bind, does_ask, asks_now]
    refine fun createdAt => does_allocateRoom (fun χ allocation ends => ?_) MAX_CREATE_ATTEMPTS
      (.inl enters) (onNextRoomCode_of_enters enters own) (by simp [MAX_CREATE_ATTEMPTS])
    cases allocation with
    | conflict =>
      cases ends
      simp only [thenDo, does_bind, does_logEvent, does_throw]
      exact ⟨trivial, stopped .founding _ trivial (by simp)⟩
    | unconfirmed fault =>
      simp only [thenDo, does_bind, does_logEvent, does_throw]
      obtain rfl | ⟨code, joinToken, rfl | rfl⟩ := ends
      · exact ⟨trivial, stopped .founding _ trivial (by simp)⟩
      · exact ⟨trivial, stopped (.reported _ _) _ trivial (by simp)⟩
      · exact ⟨trivial, stopped (.handedOver _ _) _ trivial (by simp)⟩
    | created room =>
      cases ends
      exact does_openRoom (fun tok => done _ _ (.inr rfl)) stopped

end Creating

end BiliSyncPlay
