import BiliSyncPlay.Service.Protocol

/-!
# What a phase may do

The commands each phase issues, the answers it may meet, and the phases a call ends in. `calm`
stands for a run without store failures and without shutdown.
-/

namespace BiliSyncPlay

open Interleave

namespace Phase

/-- What a refreshed join asks of the seats it saw. -/
def Admits (cfg : Config) (m : MemberId) (members : JsMap MemberId SessionId) : Prop :=
  members.size < cfg.maxMembersPerRoom ∨ members.has m = true

@[simp] def MayReadSession (calm : Prop) (φ : Phase) (s : SessionId) : Prop :=
  match φ with
  | .leaving s' _ _ stage => s = s' ∧ (calm → stage.Discharged)
  | _ => φ.session? = some s

@[simp] def MayClearSessionRoom (φ : Phase) (s : SessionId) : Prop :=
  match φ with
  | .outside s' _ | .leaving s' none _ .begun | .leaving s' _ _ .vacated => s = s'
  | _ => False

@[simp] def MaySetSessionRoom (φ : Phase) (s : SessionId) (joined : JoinedSessionSnapshot) : Prop :=
  match φ with
  | .joining s' _ code _ (.seated m) => s = s' ∧ joined.roomCode = code ∧ joined.memberId = m
  | .creating s' (.seated room) => s = s' ∧ joined.roomCode = room.code ∧ joined.memberId = s'
  | _ => False

@[simp] def MayRestoreJoinedSession (φ : Phase) (s : SessionId) (snapshot : JoinedSessionSnapshot) :
    Prop :=
  match φ with
  | .leaving s' m code .restored =>
    s = s' ∧ snapshot.roomCode = code ∧ m = some snapshot.memberId
  | _ => False

@[simp] def MaySetMemberId (φ : Phase) (s : SessionId) (m : MemberId) : Prop :=
  match φ with
  | .creating s' (.stamped _) => s = s' ∧ m = s'
  | _ => False

@[simp] def MayMarkSessionJoinedRoom (φ : Phase) (s : SessionId) (code : Code) : Prop :=
  match φ with
  | .outside s' (some st) => s = s' ∧ st.roomCode = some code
  | .creating s' (.live room) => s = s' ∧ code = room.code
  | _ => False

@[simp] def MayUnregisterSession (calm : Prop) (φ : Phase) (s : SessionId) : Prop :=
  match φ with
  | .outside s' (some st) => s = s' ∧ st.roomCode = none
  | .leaving s' _ _ stage => s = s' ∧ (calm → stage ≠ .begun)
  | _ => False

@[simp] def MayEnter (calm : Prop) (φ : Phase) : Prop :=
  match φ with
  | .outside _ (some st) => st.roomCode = none
  | .leaving _ _ _ stage => stage.Out ∧ (calm → stage.Discharged)
  | _ => False

@[simp] def MayGetRoom (φ : Phase) (c : Code) : Prop :=
  match φ with
  | .leaving _ _ code _ => c = code
  | .joining _ _ code _ (.viewed room m members) =>
    c = code ∧ room.expiresAt = none ∧ members.has m = true
  | .joining _ _ code _ _ => c = code
  | _ => True

@[simp] def MayUpdateRoom (cfg : Config) (φ : Phase) (c : Code) (expected : RoomUpdateGuard)
    (patch : PersistedRoomPatch) : Prop :=
  match φ with
  | .outside _ _ | .clearing =>
    (∃ v, expected = .version v) ∧ (patch.expiresAt = none ∨ patch.expiresAt = some none)
  | .joining _ _ code _ (.viewed room m members) =>
    c = code ∧ expected = .version room.version ∧ Admits cfg m members ∧
      patch.expiresAt = if room.expiresAt.isSome then some none else none
  | .scheduling _ code joinToken version =>
    c = code ∧ expected = .inst joinToken (some version) ∧ ∃ t, patch.expiresAt = some (some t)
  | .rollingBack _ code joinToken =>
    c = code ∧ expected = .inst joinToken none ∧ ∃ t, patch.expiresAt = some (some t)
  | _ => False

@[simp] def MayViewMembers (φ : Phase) (room : ActiveRoom) : Prop :=
  match φ with
  | .leaving _ _ _ (.viewed _ shared) => room = shared
  | .joining _ _ _ _ (.resolved _ shared _) => room = shared
  | .joining .. => True
  | _ => False

@[simp] def MayAddMember (φ : Phase) (c : Code) (m : MemberId) (s : SessionId) : Prop :=
  match φ with
  | .leaving s' (some m') code (.recovering true) => c = code ∧ m = m' ∧ s = s'
  | .joining s' _ code _ (.admitted m') => c = code ∧ m = m' ∧ s = s'
  | .joining _ _ code _ (.undone m') => c = code ∧ m = m'
  | .creating s' (.stamped room) => c = room.code ∧ m = s' ∧ s = s'
  | _ => False

@[simp] def MayRemoveMember (φ : Phase) (c : Code) (m : MemberId) (s : SessionId) : Prop :=
  match φ with
  | .leaving s' (some m') code .begun => c = code ∧ m = m' ∧ s = s'
  | .joining s' _ code _ (.seated m') => c = code ∧ m = m' ∧ s = s'
  | _ => False

@[simp] def MayResolve (φ : Phase) (c : Code) : Prop :=
  match φ with
  | .leaving _ _ code _ | .joining _ _ code _ _ => c = code
  | _ => False

@[simp] def MayTrack (φ : Phase) (task : Task) : Prop :=
  match φ with
  | .leaving s _ code (.judged room) =>
    ∃ t, task = .scheduleExpiry s code room.joinToken room.version t
  | .creating s (.orphaned code joinToken) => ∃ reason, task = .runOrphanExpiry s code joinToken reason
  | _ => False

@[simp] def MayLog (calm : Prop) (φ : Phase) (line : LogLine) : Prop :=
  match φ with
  | .rollingBack _ code _ =>
    line.event = "room_rollback_failed" ∧ line.roomCode = some code ∧ ¬calm
  | _ => True

@[simp] def MayJoinQueue (φ : Phase) (n : NodeId) (c : Code) (ticket : Ticket) : Prop :=
  match φ with
  | .joining _ n' code ticket' _ => n = n' ∧ c = code ∧ ticket = ticket'
  | _ => False

@[simp] def permits (cfg : Config) (calm : Prop) (φ : Phase) : Cmd → Prop
  | .readSession s => φ.MayReadSession calm s
  | .clearSessionRoom s => φ.MayClearSessionRoom s
  | .setSessionRoom s joined => φ.MaySetSessionRoom s joined
  | .restoreJoinedSession s snapshot => φ.MayRestoreJoinedSession s snapshot
  | .setMemberId s m => φ.MaySetMemberId s m
  | .setSessionDisplayName s _ | .registerSession s | .markSessionLeftRoom s _ =>
    φ.session? = some s
  | .markSessionJoinedRoom s code => φ.MayMarkSessionJoinedRoom s code
  | .unregisterSession s => φ.MayUnregisterSession calm s
  | .decrementConnectionCount s => φ = .gone s false
  | .logEvent line => φ.MayLog calm line
  | .createRoom input => ∃ s, φ = .creating s (.minted input.joinToken)
  | .getRoom c => φ.MayGetRoom c
  | .updateRoom c expected patch => φ.MayUpdateRoom cfg c expected patch
  | .deleteExpiredRoom c _ => ∃ n id, φ = .expiring n id c
  | .deleteExpiredRooms _ | .acknowledgeOrphanedIndexClaims _ => ∃ stage, φ = .collecting none stage
  | .viewMembers room => φ.MayViewMembers room
  | .addMember c m s _ => φ.MayAddMember c m s
  | .removeMember c m s => φ.MayRemoveMember c m s
  | .resolveActiveRoom c | .findMemberIdByToken c _ => φ.MayResolve c
  | .markRoomGeneration c generation _ =>
    ∃ s room, φ = .creating s (.named room generation) ∧ c = room.code
  | .deleteRoomRuntime c g => ∃ n id, φ = .tearing n c g id
  | .enterJoinQueue .. => φ.MayEnter calm
  | .nextRoomCode => φ.MayEnter calm ∨ ∃ s, φ = .creating s .founding
  | .awaitJoinTurn n c ticket | .leaveJoinQueue n c ticket => φ.MayJoinQueue n c ticket
  | .track _ task => φ.MayTrack task
  | .forgetRuntimeTeardownDebt _ c => ∃ owner, φ = .collecting owner (.live c)
  | .startRuntimeTeardownEffect _ c g => ∃ owner, φ = .collecting owner (.confirmed c g)
  | .settleEffect id _ => φ = .settling id
  | .settleExpiredRoomCollection n c id _ => ∃ stage, φ = .collecting (some (n, c, id)) stage
  | .settleRuntimeTeardown n c g id result => φ = .torn n c g id result
  | _ => True

end Phase

/-- An answer names the room it was asked for. -/
def Cmd.Plausible : (c : Cmd) → c.Ans → Prop
  | .getRoom c, .ok (some room) => room.code = c
  | .updateRoom c _ _, .ok (.ok room) => room.code = c
  | .createRoom input, .ok room => room = createPersistedRoom input
  | _, _ => True

/-- A store failure or a shutdown, where it makes a call give up what it owes. -/
def Cmd.Faulty : (c : Cmd) → c.Ans → Prop
  | .isClosing _, closing => closing = true
  | .updateRoom _ (.inst _ none) _, .ok (.refused .versionConflict) => True
  | .getRoom _, .error _ | .updateRoom .., .error _ | .flush, .error _ | .addMember .., .error _
  | .removeMember .., .error _ | .resolveActiveRoom _, .error _
  | .revokeMemberToken .., .error _ => True
  | _, _ => False

namespace Phase

@[simp] def begin : Req → Phase
  | .create s _ | .join s _ _ _ _ | .leave s _ | .share s _ _ _ | .updatePlayback s _ _
  | .updateProfile s _ _ | .message s _ | .cleanup s => .outside s none
  | .clearRoomVideo _ _ => .clearing
  | .deleteExpiredRooms _ | .teardownRoomRuntime _ _ => .collecting none .idle
  | .effect n id task =>
    match task with
    | .scheduleExpiry _ code joinToken version _ => .scheduling id code joinToken version
    | .runOrphanExpiry _ code joinToken _ => .rollingBack id code joinToken
    | .collectExpiredRoom code => .expiring n id code
    | .teardown code g => .tearing n code g id

/-- A phase a call may settle in. -/
@[simp] def Final (calm : Prop) : Phase → Prop
  | .outside _ _ | .clearing | .settled => True
  | .leaving _ _ _ stage => calm → stage.Discharged
  | .creating _ stage =>
    match stage with
    | .founding | .reported _ _ | .handedOver _ _ | .live _ => True
    | .stamped _ => ¬calm
    | _ => False
  | .gone _ released => released = true
  | .collecting owner _ => owner = none
  | _ => False

def done (calm : Prop) (φ : Phase) (r : Except Err Res) : Prop :=
  φ.Final calm ∧ (r = .ok .closed → ∃ s, φ = .gone s true) ∧
    ∀ s room, φ = .creating s (.live room) → ∃ v, r = .ok v

/-- What a settled call leaves behind. -/
@[simp] def retire : Phase → Phase
  | .creating _ stage => .past stage
  | .gone s released => .gone s released
  | _ => .settled

end Phase

/-- The rooms' protocol as a discipline of the service. -/
abbrev roomDiscipline (cfg : Config) (calm : Prop) : Discipline (machine cfg) where
  Phase := Phase
  permits := Phase.permits cfg calm
  expects _ c a := c.Plausible a ∧ (calm → ¬c.Faulty a)
  after := Phase.after
  begin := Phase.begin
  done := Phase.done calm
  retire := Phase.retire

end BiliSyncPlay
