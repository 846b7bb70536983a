import BiliSyncPlay.Redis.Keys
import BiliSyncPlay.WriteQueue.Queue

/-!
# The clients of the Redis keys

Every operation of the runtime store that the nodes run against the shared keys, one Redis
command at a time. A command may be refused, and a write that was given up on may still land
later. The history notes what happened to generations and to the seats a purge drops.
-/

namespace BiliSyncPlay.RedisRuntime

open Interleave DurableWriteQueue

/-- What a read of a generation key found, and which read it was. -/
structure Pin where
  code : Code
  value : Option RoomGeneration
  read : Nat
  deriving DecidableEq

/-- The binding a purge drops, and whether an identity is left whose clock it starts. -/
structure Unseat where
  code : Code
  memberId : MemberId
  expiresAt : Option Time
  deriving DecidableEq

inductive Write where
  | addMember (code : Code) (memberId : MemberId) (session : SessionId) (memberToken : Token)
  | removeMember (code : Code) (memberId : MemberId) (session : Option SessionId) (expiresAt : Time)
  | registerSession (id : SessionId) (record : SessionHash)
  | joinRoomIndex (pin : Pin) (id : SessionId) (roomCodeToLeave : Option Code) (record : SessionHash)
  | leaveRoomIndex (id : SessionId) (code : Code) (record : SessionHash)
  | unregisterSession (id : SessionId) (roomCode : Option Code)
  | purgeSession (instance_ : InstanceId) (id : SessionId) (roomCode : Option Code)
      (unseat : Option Unseat)
  | cleanupEmptyRoom (code : Code)
  | hasRoomResidue (code : Code) (now redisNow : Time)
  | pruneMemberTokens (code : Code) (now : Time)
  | markRoomGeneration (pin : Pin) (uuid : Nat)
  | deleteRoom (pin : Pin)

inductive Happening where
  | pinned (pin : Pin)
  | stamped (code : Code) (uuid : Nat)
  | tornDown (pin : Pin)
  | joined (pin : Pin)
  /-- A purge dropped a binding that named `bound`, and started the clock of the identity. -/
  | unseated (instance_ : InstanceId) (seat : Unseat) (bound : Option SessionId)

structure World where
  keys : Keys := {}
  reads : Nat := 0
  uuids : Nat := 0
  /-- Newest first. -/
  history : List Happening := []

def Keys.perform (keys : Keys) : Write → Bool × Keys
  | .addMember code memberId session memberToken =>
    (true, keys.onRoom code fun room => room.addMember memberId session memberToken)
  | .removeMember code memberId session expiresAt =>
    (true, keys.onRoom code fun room => room.removeMember memberId session expiresAt)
  | .registerSession id record => (true, keys.registerSession id record)
  | .joinRoomIndex pin id roomCodeToLeave record =>
    keys.joinRoomIndex pin.value id pin.code roomCodeToLeave record
  | .leaveRoomIndex id code record => (true, keys.leaveRoomIndex id code record)
  | .unregisterSession id roomCode => (true, keys.dropSession id roomCode)
  | .purgeSession _ id roomCode unseat =>
    (true, (keys.dropSession id roomCode).onRoom? (unseat.map Unseat.code) fun room =>
      unseat.elim room fun u =>
        { room with
          members := room.members.delete u.memberId
          memberTokenExpiry :=
            u.expiresAt.elim room.memberTokenExpiry (room.memberTokenExpiry.set u.memberId) })
  | .cleanupEmptyRoom code => (true, keys.cleanupEmptyRoom code)
  | .hasRoomResidue code now redisNow =>
    let (found, room) := (keys.room code).residue now redisNow
    (found, keys.onRoom code fun _ => room)
  | .pruneMemberTokens code now => (true, keys.onRoom code fun room => room.pruneMemberTokens now)
  | .markRoomGeneration pin uuid => keys.markRoomGeneration pin.code (.uuid uuid) pin.value
  | .deleteRoom pin => keys.deleteRoom pin.code pin.value

/-- What a write that was applied is noted as. -/
def Write.noted (keys : Keys) : Write → Option Happening
  | .joinRoomIndex pin .. => some (.joined pin)
  | .markRoomGeneration pin uuid => some (.stamped pin.code uuid)
  | .deleteRoom pin => some (.tornDown pin)
  | .purgeSession instance_ _ _ (some seat) =>
    some (.unseated instance_ seat ((keys.room seat.code).members.get? seat.memberId))
  | _ => none

def World.perform (w : World) (write : Write) : Bool × World :=
  let (applied, keys) := w.keys.perform write
  (applied, { w with
    keys
    history := if applied then (write.noted w.keys).toList ++ w.history else w.history })

inductive Cmd where
  | now
  | randomUUID
  | smembersSessions
  | hgetall (id : SessionId)
  | hgetMember (code : Code) (memberId : MemberId)
  | hgetMemberToken (code : Code) (memberId : MemberId)
  | getRoomGeneration (code : Code)
  /-- The room store, which may answer anything. -/
  | roomStore
  | write (write : Write)

namespace Cmd

abbrev Ans : Cmd → Type
  | now => Time
  | randomUUID => Nat
  | smembersSessions => Option (List SessionId)
  | hgetall _ => Option SessionHash
  | hgetMember .. => Option (Option SessionId)
  | hgetMemberToken .. => Option (Option Token)
  | getRoomGeneration _ => Option Pin
  | roomStore => Option Bool
  | write _ => Option Bool

end Cmd

inductive Choice where
  | ok
  /-- Refused: nothing of the command is left. -/
  | lost
  /-- Given up on, and still on its way. -/
  | late
  | time (now : Time)
  | order (sessions : List SessionId)
  | answer (found : Bool)

/-- One command, with the writes that are still on their way after it. -/
def exec : (c : Cmd) → Choice → World → Option (c.Ans × World × List Write)
  | .now, .time now, w => some (now, w, [])
  | .randomUUID, .ok, w => some (w.uuids, { w with uuids := w.uuids + 1 }, [])
  | .smembersSessions, .order sessions, w =>
    if sessions.Nodup ∧ sessions.toFinset = w.keys.sessions then some (some sessions, w, [])
    else none
  | .hgetall id, .ok, w => some (some (w.keys.hash id), w, [])
  | .hgetMember code memberId, .ok, w =>
    some (some ((w.keys.room code).members.get? memberId), w, [])
  | .hgetMemberToken code memberId, .ok, w =>
    some (some ((w.keys.room code).memberTokens.get? memberId), w, [])
  | .getRoomGeneration code, .ok, w =>
    let pin : Pin := ⟨code, (w.keys.room code).generation, w.reads⟩
    some (some pin, { w with reads := w.reads + 1, history := .pinned pin :: w.history }, [])
  | .roomStore, .answer found, w => some (some found, w, [])
  | .write write, .ok, w =>
    let (applied, w) := w.perform write
    some (some applied, w, [])
  | .write write, .late, w => some (none, w, [write])
  | .smembersSessions, .lost, w | .hgetall _, .lost, w | .hgetMember .., .lost, w
  | .hgetMemberToken .., .lost, w | .getRoomGeneration _, .lost, w | .roomStore, .lost, w
  | .write _, .lost, w => some (none, w, [])
  | _, _, _ => none

/-! ## What the nodes run -/

abbrev Client := Prog Cmd Cmd.Ans RunError

def ask (c : Cmd) : Client c.Ans := Prog.perform c

def orThrow {α : Type} : Option α → Client α
  | some a => pure a
  | none => throw (.other "Redis command failed.")

def perform (w : Write) : Client Bool := do orThrow (← ask (.write w))

def loadSession (id : SessionId) : Client (Option Session) := do
  return deserializeSession (← orThrow (← ask (.hgetall id)))

/-- Best-effort: a failure is reported and swallowed. -/
def cleanupEmptyRoomIndex : Option Code → Client Unit
  | none => pure ()
  | some code => do
    let _ ← ask (.write (.cleanupEmptyRoom code))
    pure ()

def addMember (code : Code) (memberId : MemberId) (session : SessionId) (memberToken : Token) :
    Client Unit := do
  let _ ← perform (.addMember code memberId session memberToken)
  pure ()

/-- An attempt of a removal. -/
def removeMember (retention : Time) (code : Code) (memberId : MemberId)
    (session : Option SessionId) : Client Unit := do
  let now ← ask .now
  let _ ← perform (.removeMember code memberId session (now + retention))
  pure ()

def registerSession (session : Session) : Client Unit := do
  let _ ← perform (.registerSession session.id (sessionHashRecord session session.roomCode))
  pure ()

/-- The room code a node has for a session, else the one Redis has. -/
def roomCodeOf (id : SessionId) : Option Code → Client (Option Code)
  | some code => pure (some code)
  | none => do
    let session ← loadSession id
    pure (session.bind Session.roomCode)

/-- An attempt, given the room code of the session this node had registered. -/
def unregisterSession (id : SessionId) (roomCode : Option Code) : Client Unit := do
  let roomCode ← roomCodeOf id roomCode
  let _ ← perform (.unregisterSession id roomCode)
  cleanupEmptyRoomIndex roomCode

def getPreviousRoomToLeave (currentRoomCode : Option Code) (nextRoomCode : Code) : Option Code :=
  if currentRoomCode = some nextRoomCode then none else currentRoomCode

def resolveRoomCodeToLeave (currentRoomCode requestedRoomCode : Option Code) : Option Code :=
  requestedRoomCode.or currentRoomCode

def pinGeneration (code : Code) : Client Pin := do
  match ← ask (.getRoomGeneration code) with
  | none => throw (.nonRetryable
      s!"Could not pin the generation of room {code}: Redis command failed."
      "room_generation_unreadable")
  | some pin =>
    if pin.value = some ROOM_GENERATION_TOMBSTONE then
      throw (.nonRetryable
        s!"Room {code} was torn down before the join index write was pinned." "room_deleted")
    else pure pin

/-- The record a join writes: this node's own session, else what Redis already has. -/
def joinRecord (id : SessionId) (code : Code) (stored localSession : Option Session) :
    SessionHash :=
  match localSession, stored with
  | some session, _ | none, some session => sessionHashRecord session (some code)
  | none, none => { id := some id, roomCode := some (some code) }

/-- An attempt of a join under a pin, with what the node's own store holds of the session. -/
def joinAttempt (pin : Pin) (id : SessionId) (localSession : Option Session) : Client Unit := do
  let code := pin.code
  let stored ← loadSession id
  let roomCodeToLeave := getPreviousRoomToLeave (stored.bind Session.roomCode) code
  let applied ← perform (.joinRoomIndex pin id roomCodeToLeave
    (joinRecord id code stored localSession))
  if applied then cleanupEmptyRoomIndex roomCodeToLeave
  else throw (.nonRetryable s!"Room {code} changed hands before the join index write landed."
    "room_generation_changed")

/-- The attempts of a join, each with what the node's own store held by then. -/
def joinAttempts (pin : Pin) (id : SessionId) : List (Option Session) → Client Unit
  | [] => throw (.other "No attempts are left.")
  | localSession :: rest =>
    tryCatch (joinAttempt pin id localSession) fun error =>
      if error.retryable then joinAttempts pin id rest else throw error

def markSessionJoinedRoom (id : SessionId) (code : Code) (locals : List (Option Session)) :
    Client Unit := do
  let pin ← pinGeneration code
  joinAttempts pin id locals

def leftRecord (localSession : Option Session) : SessionHash :=
  match localSession with
  | some session => sessionHashRecord session none
  | none => { roomCode := some none }

/-- An attempt. -/
def markSessionLeftRoom (id : SessionId) (code : Option Code) (localSession : Option Session) :
    Client Unit := do
  let stored ← loadSession id
  match resolveRoomCodeToLeave (stored.bind Session.roomCode) code with
  | none => pure ()
  | some target => do
    let _ ← perform (.leaveRoomIndex id target (leftRecord localSession))
    cleanupEmptyRoomIndex (some target)

/-! ## Rooms that come and go -/

/-- One code of `createRoomForSession`: free of residue, recorded, pinned and stamped. -/
def createRoom (code : Code) : Client Bool := do
  let now ← ask .now
  let redisNow ← ask .now
  let _ ← perform (.pruneMemberTokens code now)
  if ← perform (.hasRoomResidue code now redisNow) then pure false
  else if ← orThrow (← ask .roomStore) then do
    match ← ask (.getRoomGeneration code) with
    | none => throw (.other "The generation could not be read.")
    | some pin => do
      let uuid ← ask .randomUUID
      perform (.markRoomGeneration pin uuid)
  else pure false

/-- The teardown of a code whose record is gone, as `collectRuntimeStateForDeletedRooms` does it. -/
def collectRuntimeState (code : Code) : Client Bool := do
  match ← ask (.getRoomGeneration code) with
  | none => throw (.other "The generation could not be read.")
  | some expected =>
    if ← orThrow (← ask .roomStore) then pure false
    else do
      match ← ask (.getRoomGeneration code) with
      | none => throw (.other "The generation could not be read.")
      | some confirmed =>
        if confirmed.value ≠ expected.value then pure false
        else perform (.deleteRoom expected)

/-! ## The startup purge -/

/-- The binding a session of the previous run still holds. -/
def purgedSeat (retention : Time) (session : Session) : Client (Option Unseat) :=
  match session.roomCode, session.memberId with
  | some code, some memberId => do
    let current ← orThrow (← ask (.hgetMember code memberId))
    if current = some session.id then do
      let token ← orThrow (← ask (.hgetMemberToken code memberId))
      if token.isSome then do
        let now ← ask .now
        pure (some ⟨code, memberId, some (now + retention)⟩)
      else pure (some ⟨code, memberId, none⟩)
    else pure none
  | _, _ => pure none

def purgeSession (retention : Time) (instance_ : InstanceId) (id : SessionId) : Client Nat := do
  match ← loadSession id with
  | none => pure 0
  | some session =>
    if session.instanceId = some instance_ then do
      let unseat ← purgedSeat retention session
      let _ ← perform (.purgeSession instance_ id session.roomCode unseat)
      cleanupEmptyRoomIndex session.roomCode
      pure 1
    else pure 0

def purgeSessions (retention : Time) (instance_ : InstanceId) : List SessionId → Client Nat
  | [] => pure 0
  | id :: rest => do
    let purged ← purgeSession retention instance_ id
    let others ← purgeSessions retention instance_ rest
    pure (purged + others)

def purgeSessionsByInstance (retention : Time) (instance_ : InstanceId) : Client Nat := do
  let sessions ← orThrow (← ask .smembersSessions)
  purgeSessions retention instance_ sessions

/-! ## The machine -/

inductive Req where
  | addMember (code : Code) (memberId : MemberId) (session : SessionId) (memberToken : Token)
  | removeMember (code : Code) (memberId : MemberId) (session : Option SessionId)
  | registerSession (session : Session)
  | unregisterSession (id : SessionId) (roomCode : Option Code)
  | markSessionJoinedRoom (id : SessionId) (code : Code) (locals : List (Option Session))
  | markSessionLeftRoom (id : SessionId) (code : Option Code) (localSession : Option Session)
  | createRoom (code : Code)
  | collectRuntimeState (code : Code)
  | purgeSessionsByInstance (instance_ : InstanceId)
  /-- A write whose caller was answered already. -/
  | late (write : Write)

def body (retention : Time) : Req → Client Unit
  | .addMember code memberId session memberToken => addMember code memberId session memberToken
  | .removeMember code memberId session => removeMember retention code memberId session
  | .registerSession session => registerSession session
  | .unregisterSession id roomCode => unregisterSession id roomCode
  | .markSessionJoinedRoom id code locals => markSessionJoinedRoom id code locals
  | .markSessionLeftRoom id code localSession => markSessionLeftRoom id code localSession
  | .createRoom code => do
    let _ ← createRoom code
    pure ()
  | .collectRuntimeState code => do
    let _ ← collectRuntimeState code
    pure ()
  | .purgeSessionsByInstance instance_ => do
    let _ ← purgeSessionsByInstance retention instance_
    pure ()
  | .late write => do
    let _ ← ask (.write write)
    pure ()

/-- Any number of nodes against one Redis. Every call is a lane of its own. -/
abbrev machine (retention : Time) : Machine where
  Cmd := Cmd
  Ans := Cmd.Ans
  Err := RunError
  Res := Unit
  Req := Req
  Shared := World
  Choice := Choice
  Event := Empty
  body := body retention
  lane _ := 0
  sync := fun _ => false
  exec c choice w := (exec c choice w).map fun (a, w, late) => (a, w, late.map .late)
  occur e := nomatch e

end BiliSyncPlay.RedisRuntime
