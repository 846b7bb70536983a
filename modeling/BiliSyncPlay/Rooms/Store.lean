import BiliSyncPlay.Rooms.Scripts
import Mathlib.Data.List.Infix

/-!
# The Redis room store

The calls of `redis-room-store.ts` over its scripts, each run with nothing in between: what a call
reads first, and what it then hands to the script. `now` is the store's clock.
-/

namespace BiliSyncPlay.RedisRoomStore

open Json

structure CreatePersistedRoomInput where
  code : RoomCode
  joinToken : JsString
  createdAt : Rat
  ownerMemberId : Option JsString := none
  ownerDisplayName : Option JsString := none
  deriving DecidableEq

/-- `none` leaves a field alone; `some none` writes null. -/
structure PersistedRoomPatch where
  ownerDisplayName : Option (Option JsString) := none
  sharedVideo : Option (Option SharedVideo) := none
  playback : Option (Option PlaybackState) := none
  lastActiveAt : Option Rat := none
  expiresAt : Option (Option Rat) := none
  deriving DecidableEq

/-- What an update may overwrite: a version its caller read, or a room instance, possibly at
one version. -/
inductive RoomUpdateGuard where
  | version (expected : Nat)
  | inst (joinToken : JsString) (version : Option Nat)
  deriving DecidableEq

inductive RoomUpdateResult where
  | ok (room : PersistedRoom)
  | refused (reason : RoomUpdateRefusal)
  deriving DecidableEq

structure ExpiredRoomSweep where
  deletedRoomCodes : List RoomCode
  orphanedIndexClaims : List Database.OrphanedIndexClaim
  deriving DecidableEq

/-- What a call rejects with. -/
inductive StoreError where
  | alreadyExists | indexFailed | invalidBody | wrongType
  deriving DecidableEq

def createPersistedRoom (input : CreatePersistedRoomInput) : PersistedRoom where
  code := input.code
  joinToken := input.joinToken
  createdAt := input.createdAt
  ownerMemberId := input.ownerMemberId
  ownerDisplayName := input.ownerDisplayName
  sharedVideo := none
  playback := none
  version := 0
  lastActiveAt := input.createdAt
  expiresAt := none

/-- `{ ...currentRoom, ...patch, version: currentRoom.version + 1 }`. -/
def PersistedRoom.patched (room : PersistedRoom) (patch : PersistedRoomPatch) : PersistedRoom :=
  { room with
    ownerDisplayName := patch.ownerDisplayName.getD room.ownerDisplayName
    sharedVideo := patch.sharedVideo.getD room.sharedVideo
    playback := patch.playback.getD room.playback
    lastActiveAt := patch.lastActiveAt.getD room.lastActiveAt
    expiresAt := patch.expiresAt.getD room.expiresAt
    version := room.version + 1 }

/-- Why the guard refuses the room it was read with. -/
def RoomUpdateGuard.refusal (expected : RoomUpdateGuard) (currentRoom : PersistedRoom) :
    Option RoomUpdateRefusal :=
  match expected with
  | .version v => if currentRoom.version ≠ v then some .versionConflict else none
  | .inst joinToken pinned =>
    if currentRoom.joinToken ≠ joinToken then some .notFound
    else if pinned.any (currentRoom.version ≠ ·) then some .versionConflict
    else none

namespace Database

def createRoom (db : Database) (input : CreatePersistedRoomInput) (indexed : Bool := true) :
    Except StoreError PersistedRoom × Database :=
  let room := createPersistedRoom input
  match db.createRoomLua room.code (serializeRoom room) (expiryScore room) indexed with
  | (.ok, db) => (.ok room, db)
  | (.indexFailed, db) => (.error .indexFailed, db)
  | (.alreadyExists, db) => (.error .alreadyExists, db)

def getRoom (db : Database) (code : RoomCode) : Except StoreError (Option PersistedRoom) :=
  match db.get code with
  | .missing => .ok none
  | .wrongType => .error .wrongType
  | .raw raw =>
    match parseRoom raw code with
    | some room => .ok (some room)
    | none => .error .invalidBody

def updateRoom (db : Database) (code : RoomCode) (expected : RoomUpdateGuard)
    (patch : PersistedRoomPatch) (indexed : Bool := true) :
    Except StoreError RoomUpdateResult × Database :=
  match db.get code with
  | .missing => (.ok (.refused .notFound), db)
  | .wrongType => (.error .wrongType, db)
  | .raw rawRoom =>
    match parseRoom rawRoom code with
    | none => (.error .invalidBody, db)
    | some currentRoom =>
      match expected.refusal currentRoom with
      | some reason => (.ok (.refused reason), db)
      | none =>
        let nextRoom := currentRoom.patched patch
        match db.updateRoomCasLua code rawRoom (serializeRoom nextRoom) (expiryScore nextRoom)
          indexed with
        | (.ok .ok, db) => (.ok (.ok nextRoom), db)
        | (.ok .notFound, db) => (.ok (.refused .notFound), db)
        | (.ok .versionConflict, db) => (.ok (.refused .versionConflict), db)
        | (.ok .indexFailed, db) => (.error .indexFailed, db)
        | (.error .wrongType, db) => (.error .wrongType, db)

/-- The outcome of either guarded delete. -/
def deleteRoomWhen : Except ScriptError RoomDeleteOutcome × Database →
    Except StoreError RoomDeleteOutcome × Database
  | (.ok outcome, db) => (.ok outcome, db)
  | (.error .wrongType, db) => (.error .wrongType, db)

/-- The token travels as UTF-8. -/
def deleteRoom (db : Database) (code : RoomCode) (joinToken : JsString) :
    Except StoreError RoomDeleteOutcome × Database :=
  deleteRoomWhen (db.deleteRoomInstanceLua code joinToken.utf8)

def deleteExpiredRoom (db : Database) (code : RoomCode) (currentTime : Rat) :
    Except StoreError RoomDeleteOutcome × Database :=
  deleteRoomWhen (db.deleteExpiredRoomLua code currentTime)

def REPAIR_CHUNK_SIZE : Nat := 500

def deleteExpiredRooms (db : Database) (currentTime : Rat) (token : ClaimToken) :
    ExpiredRoomSweep × Database :=
  let swept := db.deleteExpiredRoomsLua currentTime REPAIR_CHUNK_SIZE token
  ({ deletedRoomCodes := swept.deletedCodes
     orphanedIndexClaims := swept.orphanClaims.entries.map fun (code, token) => ⟨code, token⟩ },
    swept.db)

/-! ## Listing and counting -/

inductive RoomSortBy where
  | createdAt | lastActiveAt

inductive SortOrder where
  | asc | desc

structure RoomStoreListQuery where
  keyword : Option JsString
  includeExpired : Bool
  /-- Counted from one. -/
  page : Nat
  pageSize : Nat
  sortBy : RoomSortBy
  sortOrder : SortOrder

def RoomSortBy.key (sortBy : RoomSortBy) (room : PersistedRoom) : Rat :=
  match sortBy with
  | .createdAt => room.createdAt
  | .lastActiveAt => room.lastActiveAt

/-- Whether the comparison leaves `left` before `right`. -/
def RoomStoreListQuery.precedes (query : RoomStoreListQuery) (left right : PersistedRoom) : Bool :=
  match query.sortOrder with
  | .asc => decide (query.sortBy.key left ≤ query.sortBy.key right)
  | .desc => decide (query.sortBy.key right ≤ query.sortBy.key left)

section
variable (toLowerCase : JsString → JsString)

/-- An empty keyword is none. -/
def includesKeyword (keyword : Option JsString) (code : RoomCode) : Bool :=
  match keyword with
  | none | some [] => true
  | some keyword => decide (toLowerCase keyword <:+: toLowerCase code.units)

def matchesQuery (room : PersistedRoom) (query : RoomStoreListQuery) (now : Rat) : Bool :=
  (query.includeExpired || room.expiresAt.all fun expiresAt => decide (now < expiresAt))
    && includesKeyword toLowerCase query.keyword room.code

/-- Null where the body could not be read. -/
def readRoomBody (db : Database) (code : RoomCode) : Option Raw :=
  match db.get code with
  | .raw raw => some raw
  | _ => none

def readRoomOrNull (db : Database) (code : RoomCode) : Option PersistedRoom :=
  (db.readRoomBody code).bind (parseRoom · code)

/-- A batch of codes: what was read of it, and the database once the members nothing could be read
of left the index. -/
def loadBatch (uuid : RoomCode → ClaimToken) (loaded : List PersistedRoom × Database)
    (batch : List RoomCode) : List PersistedRoom × Database :=
  let (rooms, db) := loaded
  let orphanedCodes := batch.filter fun code => (db.readRoomBody code).isNone
  let unreadable := batch.filter fun code => (db.readRoomOrNull code).isNone
  let pruned := match orphanedCodes with
    | [] => db
    | code :: _ => db.pruneOrphanedMembersLua (uuid code) orphanedCodes
  -- An unread body travels as an empty string.
  let quarantined := unreadable.foldl (fun next code =>
    (next.quarantineMemberLua code ((db.readRoomBody code).getD (.garbled [])) (uuid code)).2) pruned
  (rooms ++ batch.filterMap db.readRoomOrNull, quarantined)

def batches {α : Type} (size : Nat) (codes : List α) : List (List α) :=
  (List.range ((codes.length + size - 1) / size)).map fun i => (codes.drop (i * size)).take size

def fetchRooms (db : Database) (query : RoomStoreListQuery) (now : Rat)
    (uuid : RoomCode → ClaimToken) : List PersistedRoom × Database :=
  let codes := db.roomsByExpiry.zrange (-1)
  let (rooms, db) := (batches REPAIR_CHUNK_SIZE codes).foldl (loadBatch uuid) ([], db)
  let filtered := (rooms.insertionSort fun left right => query.precedes left right).filter
    fun room => matchesQuery toLowerCase room query now
  let start := (query.page - 1) * query.pageSize
  ((filtered.drop start).take query.pageSize, db)

def countRooms (db : Database) (query : RoomStoreListQuery) (now : Rat) : Nat :=
  let live := fun score : Score => decide (now < score)
  match query.keyword with
  | none | some [] =>
    if query.includeExpired then db.roomsByExpiry.zcard else db.roomsByExpiry.zcount live
  | some keyword =>
    let codes :=
      if query.includeExpired then db.roomsByExpiry.zrange (-1)
      else db.roomsByExpiry.zrangebyscore live
    (codes.filter fun code => decide (toLowerCase keyword <:+: toLowerCase code.units)).length

end

end Database

end BiliSyncPlay.RedisRoomStore
