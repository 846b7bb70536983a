import BiliSyncPlay.Service.World

/-!
# What the commands do

`exec` performs one command on the world. A `Choice` resolves what the command leaves open:
whether a store call fails and whether its write lands all the same, when a bounded wait ends,
which code a creator draws.
-/

namespace BiliSyncPlay

open Interleave

inductive Choice where
  | ok
  /-- Answered by a fault; nothing was written. -/
  | fail (fault : Fault)
  /-- Answered by a fault after the write landed. -/
  | lost (fault : Fault)
  /-- Answered by a fault while the write is still out. -/
  | late (fault : Fault)
  /-- A concurrent writer changed the record between an update's own read and its write. -/
  | conflict
  | giveUp
  | code (code : Code)
  deriving DecidableEq

inductive Event where
  | tick (elapsed : Time)
  | closeSocket (session : SessionId)
  | beginShutdown (node : NodeId)
  | land (index : Nat)
  /-- An index entry was found without its room, and the claim that names it was recorded. -/
  | orphan (claim : OrphanedIndexClaim)
  deriving DecidableEq

def Session.joined (session : Session) (joined : JoinedSessionSnapshot) : Session :=
  { session with
    roomCode := some joined.roomCode, memberId := some joined.memberId
    memberToken := some joined.memberToken, joinedAt := joined.joinedAt }

def World.setSession (w : World) (s : SessionId) (session : Session) : World :=
  { w with sessions := fun t => if t = s then session else w.sessions t }

def World.setNode (w : World) (n : NodeId) (node : Node) : World :=
  { w with nodes := fun m => if m = n then node else w.nodes m }

/-- An answer of a synchronous command, or of a wait that ended. -/
def answer {α : Type} (a : α) (w : World) : Option (α × World × List Req) := some (a, w, [])

/-- An awaited store call that would answer `r.1` and leave `r.2`. -/
def World.call {α : Type} (w : World) (ch : Choice) (r : α × World)
    (write : Option LateWrite := none) : Option (Except Fault α × World × List Req) :=
  match ch with
  | .ok => answer (.ok r.1) r.2
  | .fail f => answer (.error f) w
  | .lost f => if f = .admission then none else answer (.error f) r.2
  | .late f =>
    match write with
    | some l => if f = .admission then none
      else answer (.error f) { w with lateWrites := w.lateWrites ++ [l] }
    | none => none
  | _ => none

/-- A synchronous store call: it takes effect, or throws before it does. -/
def World.attempt {α : Type} (w : World) (ch : Choice) (r : α × World) :
    Option (Except Fault α × World × List Req) :=
  match ch with
  | .ok => answer (.ok r.1) r.2
  | .fail f => answer (.error f) w
  | _ => none

def World.withStore {α : Type} (w : World) (r : α × RoomStore) : α × World :=
  (r.1, { w with roomStore := r.2 })

def World.withRuntime {α : Type} (w : World) (r : α × RuntimeStore) : α × World :=
  (r.1, { w with runtime := r.2 })

def World.setSessionDisplayName (w : World) (s : SessionId) (displayName : Option String) :
    Bool × World :=
  let session := w.sessions s
  let next := (displayName.map fun name => name.trimAscii.toString).getD ""
  if next = "" ∨ next = session.displayName then (false, w)
  else (true, { (w.setSession s { session with displayName := next }) with
    runtime := w.runtime.registerSession s })

/-- The registered session object learns the room its index entry names. -/
def World.markSessionJoinedRoom (w : World) (s : SessionId) (code : Code) : World :=
  let marked := { w with runtime := w.runtime.markSessionJoinedRoom s code }
  if s ∈ w.runtime.registered then marked.setSession s { w.sessions s with roomCode := some code }
  else marked

def World.markSessionLeftRoom (w : World) (s : SessionId) (code : Code) : World :=
  let marked := { w with runtime := w.runtime.markSessionLeftRoom s code }
  if s ∈ w.runtime.registered ∧ (w.sessions s).roomCode = some code then
    marked.setSession s { w.sessions s with roomCode := none }
  else marked

def World.decrementConnectionCount (w : World) (address : Option Address) : World :=
  match address with
  | none => w
  | some a => { w with
      connectionCounts := fun b => if b = a then w.connectionCounts a - 1 else w.connectionCounts b }

def World.sweepExpiredPlaybackAuthorities (w : World) (n : NodeId) : World :=
  let node := w.nodes n
  if w.clock - node.lastAuthoritySweepAt < PLAYBACK_AUTHORITY_SWEEP_INTERVAL_MS then w
  else w.setNode n { node with
    lastAuthoritySweepAt := w.clock
    playbackAuthorityByRoom := node.playbackAuthorityByRoom.entries.foldl
      (fun m e => if e.2.until_ ≤ w.clock then m.delete e.1 else m) node.playbackAuthorityByRoom }

def World.getPlaybackAuthority (w : World) (n : NodeId) (code : Code) :
    Option PlaybackAuthority × World :=
  let node := w.nodes n
  match node.playbackAuthorityByRoom.get? code with
  | none => (none, w)
  | some authority =>
    if authority.until_ ≤ w.clock then
      (none, w.setNode n { node with
        playbackAuthorityByRoom := node.playbackAuthorityByRoom.delete code })
    else (some authority, w)

def World.recordPlaybackAuthority (w : World) (n : NodeId) (code : Code) (actorId : MemberId)
    (kind : PlaybackAuthorityKind) (source : PlaybackAuthoritySource) : World :=
  let w := w.sweepExpiredPlaybackAuthorities n
  let node := w.nodes n
  w.setNode n { node with
    playbackAuthorityByRoom := node.playbackAuthorityByRoom.set code
      ⟨actorId, w.clock + PLAYBACK_AUTHORITY_WINDOW_MS, kind, source⟩ }

/-- The expired rooms of one sweep, in the order of the store's map. -/
def World.deleteExpiredRooms (w : World) (currentTime : Time) : ExpiredRoomSweep × World :=
  let dead := (w.roomStore.entries.filter fun e => e.2.expired currentTime).map Prod.fst
  (⟨dead, w.orphanedIndexClaims.map OrphanedIndexClaim.code, w.orphanedIndexClaims⟩,
    { w with roomStore := dead.foldl JsMap.delete w.roomStore })

def World.startEffect (w : World) : EffectId × World :=
  (w.fresh, { w with fresh := w.fresh + 1, effects := w.effects.set w.fresh {} })

def World.settle (w : World) (id : EffectId) (result : Settled) : World :=
  let effect := (w.effects.get? id).getD {}
  { w with effects := w.effects.set id { effect with result := some result } }

/-- One real teardown effect per code and generation; ownership is assigned on creation. -/
def World.startRuntimeTeardownEffect (w : World) (n : NodeId) (code : Code)
    (expectedGeneration : Option Generation) : EffectId × World × List Req :=
  let node := w.nodes n
  match node.runtimeTeardownEffects.get? (code, expectedGeneration) with
  | some existing => (existing, w, [])
  | none =>
    let (id, w) := w.startEffect
    (id, w.setNode n { node with
        runtimeTeardownEffects := node.runtimeTeardownEffects.set (code, expectedGeneration) id
        pendingRuntimeTeardowns := node.pendingRuntimeTeardowns.set code ⟨id, some id⟩ },
      [.effect n id (.teardown code expectedGeneration)])

/-- The completion callbacks of a teardown effect. -/
def World.settleRuntimeTeardown (w : World) (n : NodeId) (code : Code)
    (expectedGeneration : Option Generation) (id : EffectId) (result : Except Fault Bool) : World :=
  let node := w.nodes n
  let effects := node.runtimeTeardownEffects
  let pending := node.pendingRuntimeTeardowns
  let timedOut := ((w.effects.get? id).getD {}).confirmationTimedOut
  let settled := w.settle id (match result with | .ok b => .applied b | .error f => .failed f)
  let w := settled.setNode n { node with
    runtimeTeardownEffects := if effects.get? (code, expectedGeneration) = some id
      then effects.delete (code, expectedGeneration) else effects
    pendingRuntimeTeardowns := match pending.get? code with
      | some debt =>
        if debt.owner = some id then
          if result.toOption = some true then pending.delete code
          else pending.set code { debt with owner := none }
        else pending
      | none => pending }
  if timedOut then
    { w with log := (match result with
      | .ok b => ⟨"room_runtime_cleanup_late_settled", some code, none,
          some (if b then "ok" else "skipped")⟩
      | .error _ => ⟨"room_runtime_cleanup_late_failed", some code, none, some "error"⟩) :: w.log }
  else w

def World.awaitEffect (w : World) (ch : Choice) (id : EffectId) (bound : WaitBound) :
    Option (Option Settled × World × List Req) :=
  let effect := (w.effects.get? id).getD {}
  match ch with
  | .ok =>
    if bound = .shared ∧ effect.confirmationTimedOut then answer none w
    else match effect.result with
      | some result => answer (some result) w
      | none => none
  | .giveUp =>
    match bound with
    | .unbounded => none
    | .own => answer none w
    | .shared =>
      if effect.result.isSome then none
      else
        let given := { effect with confirmationTimedOut := true }
        answer none { w with effects := w.effects.set id given }
  | _ => none

def World.acquireDistributedJoinLock (w : World) (ch : Choice) (code : Code) (deadline : Time) :
    Option (Except Fault (Option JoinAdmissionLock) × World × List Req) :=
  let expiresAt := w.clock + JOIN_ADMISSION_LOCK_TTL_MS
  let attempt := w.runtime.acquireRoomLock code .joinAdmission w.fresh expiresAt w.clock
  let next := { w with runtime := attempt.2, fresh := w.fresh + 1 }
  if attempt.1 then w.call ch (some ⟨w.fresh, expiresAt⟩, next)
  else match ch with
    | .fail f => answer (.error f) w
    -- Refused attempts poll again until the deadline has passed.
    | .ok => if deadline ≤ w.clock then answer (.ok none) next else none
    | _ => none

def exec (cfg : Config) : (c : Cmd) → Choice → World → Option (c.Ans × World × List Req)
  | .now, _, w => answer w.clock w
  | .isClosing n, _, w => answer (w.nodes n).closing w
  | .readSession s, _, w => answer (w.sessions s) w
  | .readTenures members, _, w =>
    answer (members.map fun e => ⟨e.1, (w.sessions e.2).joinedAt⟩) w
  | .clearSessionRoom s, _, w => answer () (w.setSession s { w.sessions s with
      roomCode := none, memberId := none, memberToken := none, joinedAt := none })
  | .setSessionRoom s joined, _, w => answer () (w.setSession s ((w.sessions s).joined joined))
  | .restoreJoinedSession s snapshot, _, w =>
    answer () (w.setSession s ((w.sessions s).joined snapshot))
  | .setMemberId s memberId, _, w =>
    answer () (w.setSession s { w.sessions s with memberId := some memberId })
  | .setSessionDisplayName s displayName, _, w =>
    let (changed, w') := w.setSessionDisplayName s displayName
    answer changed w'
  | .closeSocket s, _, w => answer () (w.setSession s { w.sessions s with socketOpen := false })
  | .registerSession s, _, w => answer () { w with runtime := w.runtime.registerSession s }
  | .unregisterSession s, _, w => answer () { w with runtime := w.runtime.unregisterSession s }
  | .markSessionJoinedRoom s code, ch, w => w.call ch ((), w.markSessionJoinedRoom s code)
  | .markSessionLeftRoom s code, ch, w => w.call ch ((), w.markSessionLeftRoom s code)
  | .decrementConnectionCount s, _, w => answer () (w.decrementConnectionCount (cfg.addressOf s))
  | .generateToken, _, w => answer w.fresh { w with fresh := w.fresh + 1 }
  | .nextRoomCode, .code c, w => answer c w
  | .nextRoomCode, _, _ => none
  | .logEvent line, _, w => answer () { w with log := line :: w.log }
  | .getPlaybackAuthority n code, _, w =>
    let (authority, w') := w.getPlaybackAuthority n code
    answer authority w'
  | .recordPlaybackAuthority n code actorId kind source, _, w =>
    answer () (w.recordPlaybackAuthority n code actorId kind source)
  | .createRoom input, ch, w =>
    match w.roomStore.createRoom input with
    | some r => w.call ch (w.withStore r) (some (.create input))
    | none =>
      match ch with
      | .ok => answer (.error .other) w
      | _ => w.call ch (createPersistedRoom input, w) (some (.create input))
  | .getRoom code, ch, w => w.call ch (w.roomStore.getRoom code, w)
  | .updateRoom code expected patch, ch, w =>
    match expected, ch with
    | .inst _ none, .conflict => answer (.ok (.refused .versionConflict)) w
    | .inst joinToken _, _ =>
      -- One connection: a create still out for this instance reaches the store first.
      if w.lateWrites.any fun l => match l with
          | .create input => input.code = code ∧ input.joinToken = joinToken
          | _ => false
      then none
      else w.call ch (w.withStore (w.roomStore.updateRoom code expected patch w.clock))
        (some (.update code expected patch))
    | _, _ => w.call ch (w.withStore (w.roomStore.updateRoom code expected patch w.clock))
        (some (.update code expected patch))
  | .deleteExpiredRoom code currentTime, ch, w =>
    w.call ch (w.withStore (w.roomStore.deleteExpiredRoom code currentTime))
  | .deleteExpiredRooms currentTime, ch, w => w.call ch (w.deleteExpiredRooms currentTime)
  | .acknowledgeOrphanedIndexClaims claims, ch, w => w.call ch ((), { w with
      orphanedIndexClaims := w.orphanedIndexClaims.filter fun c => c ∉ claims })
  | .getActiveRoom code, _, w =>
    let (room, runtime) := w.runtime.getRoom code w.clock
    answer room { w with runtime }
  | .viewMembers room, _, w =>
    answer (if cfg.live then w.runtime.membersOf room else room.members) w
  | .addMember code memberId session memberToken, ch, w =>
    w.attempt ch ((), { w with
      runtime := w.runtime.addMember code memberId session memberToken w.clock })
  | .removeMember code memberId session, ch, w =>
    w.attempt ch (w.withRuntime
      (w.runtime.removeMember code memberId (some session) cfg.memberTokenRetentionMs w.clock))
  | .flush, ch, w => w.call ch ((), w)
  | .removalDurable, ch, w => w.call ch ((), w)
  | .resolveActiveRoom code, ch, w => w.call ch (w.withRuntime (w.runtime.getRoom code w.clock))
  | .findMemberIdByToken code memberToken, ch, w =>
    w.call ch (w.withRuntime (w.runtime.findMemberIdByToken code memberToken w.clock))
  | .isMemberTokenBlocked code memberToken currentTime, ch, w =>
    w.call ch (w.withRuntime (w.runtime.isMemberTokenBlocked code memberToken currentTime))
  | .revokeMemberToken code memberId session, ch, w =>
    w.call ch ((), { w with runtime := w.runtime.revokeMemberToken code memberId (some session) })
  | .hasRoomResidue code, ch, w => w.call ch (w.withRuntime (w.runtime.hasRoomResidue code w.clock))
  | .getRoomGeneration code, ch, w => w.call ch (w.runtime.getRoomGeneration code, w)
  | .markRoomGeneration code generation expectedPrevious, ch, w =>
    w.call ch (w.withRuntime (w.runtime.markRoomGeneration code generation expectedPrevious))
      (some (.mark code generation expectedPrevious))
  | .deleteRoomRuntime code expectedGeneration, ch, w =>
    w.call ch (w.withRuntime (w.runtime.deleteRoom code expectedGeneration))
  | .tryClaimMessageSlot code key token expiresAt, ch, w =>
    w.call ch (w.withRuntime (w.runtime.tryClaimMessageSlot code key token expiresAt w.clock))
  | .releaseMessageSlot code key token, ch, w =>
    w.call ch (w.withRuntime (w.runtime.releaseMessageSlot code key token))
  | .enterJoinQueue n code, _, w =>
    let node := w.nodes n
    answer w.fresh { (w.setNode n { node with
      joinQueues := node.joinQueues.set code
        ((node.joinQueues.get? code).getD [] ++ [w.fresh]) }) with fresh := w.fresh + 1 }
  | .awaitJoinTurn n code ticket, _, w =>
    if (((w.nodes n).joinQueues.get? code).getD []).head? = some ticket then answer () w else none
  | .leaveJoinQueue n code ticket, _, w =>
    let node := w.nodes n
    answer () (w.setNode n { node with
      joinQueues := node.joinQueues.set code
        (((node.joinQueues.get? code).getD []).erase ticket) })
  | .acquireDistributedJoinLock code deadline, ch, w =>
    w.acquireDistributedJoinLock ch code deadline
  | .releaseRoomLock code token, ch, w =>
    w.call ch (w.withRuntime (w.runtime.releaseRoomLock code .joinAdmission token))
  | .track n task, _, w =>
    let (id, w') := w.startEffect
    some (id, w', [.effect n id task])
  | .getOrStartExpiredRoomCollection n code, _, w =>
    let node := w.nodes n
    match node.expiredRoomCollectionEffects.get? code with
    | some existing => answer existing w
    | none =>
      let (id, w') := w.startEffect
      some (id, w'.setNode n { node with
        expiredRoomCollectionEffects := node.expiredRoomCollectionEffects.set code id },
        [.effect n id (.collectExpiredRoom code)])
  | .awaitEffect id bound, ch, w => w.awaitEffect ch id bound
  | .settleEffect id result, _, w => answer () (w.settle id result)
  | .settleExpiredRoomCollection n code id result, _, w =>
    let node := w.nodes n
    answer () ((w.settle id result).setNode n { node with
      expiredRoomCollectionEffects :=
        if node.expiredRoomCollectionEffects.get? code = some id
        then node.expiredRoomCollectionEffects.delete code
        else node.expiredRoomCollectionEffects })
  | .pendingRuntimeTeardowns n, _, w => answer (w.nodes n).pendingRuntimeTeardowns.entries w
  | .rememberRuntimeTeardownDebt n code, _, w =>
    let node := w.nodes n
    if node.pendingRuntimeTeardowns.has code then answer () w
    else answer () { (w.setNode n { node with
      pendingRuntimeTeardowns := node.pendingRuntimeTeardowns.set code ⟨w.fresh, none⟩ }) with
      fresh := w.fresh + 1 }
  | .forgetRuntimeTeardownDebt n code, _, w =>
    let node := w.nodes n
    answer () (w.setNode n { node with
      pendingRuntimeTeardowns := node.pendingRuntimeTeardowns.delete code })
  | .runtimeTeardownDebt n code, _, w =>
    answer ((w.nodes n).pendingRuntimeTeardowns.get? code) w
  | .startRuntimeTeardownEffect n code expectedGeneration, _, w =>
    some (w.startRuntimeTeardownEffect n code expectedGeneration)
  | .settleRuntimeTeardown n code expectedGeneration id result, _, w =>
    answer () (w.settleRuntimeTeardown n code expectedGeneration id result)

def occur : Event → World → Option World
  | .tick elapsed, w => some { w with clock := w.clock + elapsed }
  | .closeSocket s, w => some (w.setSession s { w.sessions s with socketOpen := false })
  | .beginShutdown n, w => some (w.setNode n { w.nodes n with closing := true })
  | .land i, w =>
    (w.lateWrites[i]?).map fun l =>
      let w := { w with lateWrites := w.lateWrites.eraseIdx i }
      match l with
      | .create input =>
        match w.roomStore.createRoom input with
        | some r => { w with roomStore := r.2 }
        | none => w
      | .update code expected patch =>
        { w with roomStore := (w.roomStore.updateRoom code expected patch w.clock).2 }
      | .mark code generation expectedPrevious =>
        { w with runtime := (w.runtime.markRoomGeneration code generation expectedPrevious).2 }
  | .orphan claim, w => some { w with orphanedIndexClaims := w.orphanedIndexClaims ++ [claim] }

end BiliSyncPlay
