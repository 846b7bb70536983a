import BiliSyncPlay.Stores.RuntimeStore
import Mathlib.Data.Finset.Card
import Mathlib.Data.List.Sort
import Mathlib.Logic.Function.Basic

/-!
# The Redis keys of the runtime store

What every node shares: session hashes and their indexes, and the keys of each room code. A
script or a transaction is one function of the keys, as Redis runs it.
-/

namespace BiliSyncPlay.RedisRuntime

abbrev InstanceId := Nat

/-- What is stored under a generation key: the UUID of a room instance, or the tombstone of the
last one. -/
inductive RoomGeneration where
  | uuid (value : Nat)
  | deleted
  deriving DecidableEq

def ROOM_GENERATION_TOMBSTONE : RoomGeneration := .deleted

def PRUNE_MEMBER_TOKENS_BATCH : Nat := 500
def PRUNE_MEMBER_TOKENS_MAX_BATCHES : Nat := 20

/-! ## Session records -/

structure SessionFields where
  instanceId : Option InstanceId := none
  remoteAddress : Option String := none
  origin : Option String := none
  memberId : Option MemberId := none
  displayName : String
  memberToken : Option Token := none
  joinedAt : Option Time := none
  invalidMessageCount : Nat := 0
  deriving DecidableEq

structure Session extends SessionFields where
  id : SessionId
  roomCode : Option Code := none
  deriving DecidableEq

/-- A session hash, by the fields that are written together. An empty `roomCode` is a field too. -/
structure SessionHash where
  id : Option SessionId := none
  roomCode : Option (Option Code) := none
  fields : Option SessionFields := none
  deriving DecidableEq

/-- The complete record of a session, with the room code it is to carry. -/
def sessionHashRecord (session : Session) (roomCode : Option Code) : SessionHash :=
  ⟨some session.id, some roomCode, some session.toSessionFields⟩

def SessionHash.hset (hash record : SessionHash) : SessionHash :=
  ⟨record.id.or hash.id, record.roomCode.or hash.roomCode, record.fields.or hash.fields⟩

def deserializeSession (hash : SessionHash) : Option Session :=
  hash.id.map fun id =>
    { hash.fields.getD { displayName := toString id } with id, roomCode := hash.roomCode.join }

/-! ## The keys -/

structure RoomKeys where
  generation : Option RoomGeneration := none
  members : JsMap MemberId SessionId := .empty
  memberTokens : JsMap MemberId Token := .empty
  memberTokenExpiry : JsMap MemberId Time := .empty
  blockedTokens : JsMap Token Time := .empty
  sessions : Finset SessionId := ∅
  /-- The claimed dedup slots, as the tracking set lists them. -/
  dedup : JsMap String Time := .empty

structure Keys where
  rooms : Finset Code := ∅
  sessions : Finset SessionId := ∅
  hash : SessionId → SessionHash := fun _ => {}
  room : Code → RoomKeys := fun _ => {}

def Keys.onRoom (keys : Keys) (code : Code) (f : RoomKeys → RoomKeys) : Keys :=
  { keys with room := Function.update keys.room code (f (keys.room code)) }

/-- For an optional room code: nothing is done without one. -/
def Keys.onRoom? (keys : Keys) (code : Option Code) (f : RoomKeys → RoomKeys) : Keys :=
  code.elim keys fun code => keys.onRoom code f

def Keys.setHash (keys : Keys) (id : SessionId) (hash : SessionHash) : Keys :=
  { keys with hash := Function.update keys.hash id hash }

theorem Keys.onRoom_room (keys : Keys) (code c : Code) (f : RoomKeys → RoomKeys) :
    (keys.onRoom code f).room c = if c = code then f (keys.room c) else keys.room c := by
  by_cases same : c = code
  · subst same
    simp [onRoom]
  · simp [onRoom, same]

theorem Keys.onRoom?_room (keys : Keys) (code : Option Code) (c : Code) (f : RoomKeys → RoomKeys) :
    (keys.onRoom? code f).room c = if some c = code then f (keys.room c) else keys.room c := by
  cases code with
  | none => rfl
  | some code => simp [onRoom?, onRoom_room]

/-! ## Members -/

def RoomKeys.addMember (room : RoomKeys) (memberId : MemberId) (session : SessionId)
    (memberToken : Token) : RoomKeys :=
  { room with
    members := room.members.set memberId session
    memberTokens := room.memberTokens.set memberId memberToken
    memberTokenExpiry := room.memberTokenExpiry.delete memberId }

/-- Drops a presence and, while the identity still exists, starts its retention clock. -/
def RoomKeys.unseat (room : RoomKeys) (memberId : MemberId) (expiresAt : Time) : RoomKeys :=
  { room with
    members := room.members.delete memberId
    memberTokenExpiry :=
      if room.memberTokens.has memberId then room.memberTokenExpiry.set memberId expiresAt
      else room.memberTokenExpiry }

/-- `REMOVE_MEMBER_LUA`. -/
def RoomKeys.removeMember (room : RoomKeys) (memberId : MemberId) (session : Option SessionId)
    (expiresAt : Time) : RoomKeys :=
  match session, room.members.get? memberId with
  | some expected, some bound =>
    if bound = expected then room.unseat memberId expiresAt else room
  | _, _ => room.unseat memberId expiresAt

def RoomKeys.forgetIdentities (room : RoomKeys) : List (MemberId × Time) → RoomKeys
  | [] => room
  | (memberId, _) :: rest =>
    { room with
      memberTokens := room.memberTokens.delete memberId
      memberTokenExpiry := room.memberTokenExpiry.delete memberId : RoomKeys }.forgetIdentities rest

/-- `PRUNE_MEMBER_TOKENS_LUA`: the identities that lapsed first, as many as its batches hold. -/
def RoomKeys.pruneMemberTokens (room : RoomKeys) (now : Time) : RoomKeys :=
  let expired := (room.memberTokenExpiry.entries.filter fun e => e.2 ≤ now).insertionSort
    fun d e => d.2 ≤ e.2
  room.forgetIdentities
    (expired.take (PRUNE_MEMBER_TOKENS_BATCH * PRUNE_MEMBER_TOKENS_MAX_BATCHES))

/-! ## Generations -/

/-- `ROOM_RESIDUE_LUA`, by the application's clock and by Redis's. -/
def RoomKeys.residue (room : RoomKeys) (now redisNow : Time) : Bool × RoomKeys :=
  let blocked := (room.blockedTokens.entries.filter fun e => e.2 ≤ now).map Prod.fst
  let lapsed := (room.dedup.entries.filter fun e => e.2 ≤ redisNow).map Prod.fst
  let room := { room with
    blockedTokens := blocked.foldl JsMap.delete room.blockedTokens
    dedup := lapsed.foldl JsMap.delete room.dedup }
  (room.members.size ≠ 0 || room.memberTokens.size ≠ 0 || room.memberTokenExpiry.size ≠ 0 ||
    room.blockedTokens.size ≠ 0 || room.sessions.card ≠ 0 || room.dedup.size ≠ 0, room)

/-- `MARK_ROOM_GENERATION_LUA`. -/
def Keys.markRoomGeneration (keys : Keys) (code : Code) (generation : RoomGeneration)
    (expected : Option RoomGeneration) : Bool × Keys :=
  if (keys.room code).generation ≠ expected then (false, keys)
  else (true, keys.onRoom code fun room => { room with generation := some generation })

/-- `DELETE_ROOM_LUA`. -/
def Keys.deleteRoom (keys : Keys) (code : Code) (expected : Option RoomGeneration) :
    Bool × Keys :=
  if (keys.room code).generation ≠ expected then (false, keys)
  else (true, { keys.onRoom code fun _ => { generation := some ROOM_GENERATION_TOMBSTONE } with
    rooms := keys.rooms.erase code })

/-! ## Session writes -/

/-- `CLEANUP_EMPTY_ROOM_LUA`. -/
def Keys.cleanupEmptyRoom (keys : Keys) (code : Code) : Keys :=
  if (keys.room code).sessions.card ≠ 0 then keys
  else if (keys.room code).members.size ≠ 0 then keys
  else { keys with rooms := keys.rooms.erase code }

def Keys.registerSession (keys : Keys) (id : SessionId) (record : SessionHash) : Keys :=
  { keys.setHash id ((keys.hash id).hset record) with sessions := insert id keys.sessions }

/-- `JOIN_ROOM_INDEX_LUA`. -/
def Keys.joinRoomIndex (keys : Keys) (expected : Option RoomGeneration) (id : SessionId)
    (code : Code) (roomCodeToLeave : Option Code) (record : SessionHash) : Bool × Keys :=
  if (keys.room code).generation ≠ expected then (false, keys)
  else
    let keys := keys.onRoom? roomCodeToLeave fun room =>
      { room with sessions := room.sessions.erase id }
    let keys := keys.registerSession id record
    let keys := keys.onRoom code fun room => { room with sessions := insert id room.sessions }
    (true, { keys with rooms := insert code keys.rooms })

def Keys.leaveRoomIndex (keys : Keys) (id : SessionId) (code : Code) (record : SessionHash) :
    Keys :=
  (keys.registerSession id record).onRoom code fun room =>
    { room with sessions := room.sessions.erase id }

/-- The removal of a session from every index, as `unregisterSession` and the purge do it. -/
def Keys.dropSession (keys : Keys) (id : SessionId) (roomCode : Option Code) : Keys :=
  ({ keys.setHash id {} with sessions := keys.sessions.erase id } : Keys).onRoom? roomCode
    fun room => { room with sessions := room.sessions.erase id }

end BiliSyncPlay.RedisRuntime
