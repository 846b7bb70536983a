import BiliSyncPlay.Rooms.Body
import BiliSyncPlay.SortedSet
import BiliSyncPlay.Stores.RoomStore
import Mathlib.Order.WithBot
import Mathlib.Algebra.Order.Ring.Rat

/-!
# The scripts of the Redis room store

One Lua script is one step: Redis runs nothing between its commands. A script reads and writes the
room bodies, the set that scores every room by its expiry, and the cleanup claims of index members
that did not die with their room: a hash of tokens, and a queue the sweep reads them from.
-/

namespace BiliSyncPlay.RedisRoomStore

open Json

/-- A key's value: a string, or a value `GET` raises on. -/
inductive Body where
  | text (raw : Raw)
  | otherType
  deriving DecidableEq

/-- `randomUUID` never returns a token twice. -/
abbrev ClaimToken := Nat

/-- `"inf"` is the top. -/
abbrev Score := WithTop Rat

structure Database where
  bodies : JsMap RoomCode Body := .empty
  roomsByExpiry : SortedSet RoomCode Score := JsMap.empty
  orphanedRoomCodes : JsMap RoomCode ClaimToken := .empty
  orphanedRoomQueue : SortedSet Text Nat := JsMap.empty
  deriving DecidableEq

def expiryScore (room : PersistedRoom) : Score :=
  match room.expiresAt with
  | none => ⊤
  | some expiresAt => expiresAt

/-- What `GET` says. -/
inductive Got where
  | missing
  | raw (raw : Raw)
  | wrongType

/-- A script a command of which raised. -/
inductive ScriptError where
  | wrongType
  deriving DecidableEq

namespace Database

def get (db : Database) (code : RoomCode) : Got :=
  match db.bodies.get? code with
  | none => .missing
  | some (.text raw) => .raw raw
  | some .otherType => .wrongType

/-! ## Writes -/

inductive CreateReply where
  | ok | alreadyExists | indexFailed
  deriving DecidableEq

/-- `indexed` tells whether the `ZADD` went through. -/
def createRoomLua (db : Database) (code : RoomCode) (raw : Source) (score : Score)
    (indexed : Bool) : CreateReply × Database :=
  if db.bodies.has code then (.alreadyExists, db)
  else
    let written := db.bodies.set code (.text (.document raw))
    if indexed then
      (.ok, { db with bodies := written, roomsByExpiry := db.roomsByExpiry.zadd score code })
    else (.indexFailed, { db with bodies := written.delete code })

inductive UpdateReply where
  | ok | notFound | versionConflict | indexFailed
  deriving DecidableEq

def updateRoomCasLua (db : Database) (code : RoomCode) (expected : Raw) (next : Source)
    (score : Score) (indexed : Bool) : Except ScriptError UpdateReply × Database :=
  match db.get code with
  | .missing => (.ok .notFound, db)
  | .wrongType => (.error .wrongType, db)
  | .raw raw =>
    if raw ≠ expected then (.ok .versionConflict, db)
    else
      let written := db.bodies.set code (.text (.document next))
      if indexed then
        (.ok .ok, { db with bodies := written, roomsByExpiry := db.roomsByExpiry.zadd score code })
      else (.ok .indexFailed, { db with bodies := written.set code (.text expected) })

/-- Both guarded deletes: the preamble, what the script asks of the room it decoded, and the
commit. -/
def deleteRoomLua (db : Database) (code : RoomCode) (guard : Doc Text → Bool) :
    Except ScriptError RoomDeleteOutcome × Database :=
  match db.get code with
  | .wrongType => (.error .wrongType, db)
  | .missing => (.ok .alreadyDeleted, { db with roomsByExpiry := db.roomsByExpiry.zrem code })
  | .raw raw =>
    match raw.decode with
    | none => (.ok .superseded, db)
    | some room =>
      if isTable (some room) && guard room then
        (.ok .deleted, { db with
          roomsByExpiry := db.roomsByExpiry.zrem code
          bodies := db.bodies.delete code })
      else (.ok .superseded, db)

def isInstance (joinToken : Text) (room : Doc Text) : Bool :=
  Lua.index (some room) "joinToken" == some (.str joinToken)

def hasExpired (now : Rat) (room : Doc Text) : Bool :=
  match Lua.index (some room) "expiresAt" with
  | some (.num expiresAt) => decide (expiresAt ≤ now)
  | _ => false

def deleteRoomInstanceLua (db : Database) (code : RoomCode) (joinToken : Text) :=
  db.deleteRoomLua code (isInstance joinToken)

def deleteExpiredRoomLua (db : Database) (code : RoomCode) (now : Rat) :=
  db.deleteRoomLua code (hasExpired now)

/-! ## Cleanup claims -/

def rotateOrphanClaim (db : Database) (code : RoomCode) : Database :=
  let nextScore := (db.orphanedRoomQueue.zscore sequenceMember).getD 0 + 1
  { db with
    orphanedRoomQueue :=
      (db.orphanedRoomQueue.zadd nextScore sequenceMember).zadd nextScore code.1 }

def stageOrphanClaim (db : Database) (code : RoomCode) (token : ClaimToken) : Database :=
  rotateOrphanClaim { db with orphanedRoomCodes := db.orphanedRoomCodes.set code token } code

/-- Whether the member was removed here. A loser puts back the claim it found. -/
def removeIndexWithOrphanClaim (db : Database) (code : RoomCode) (token : ClaimToken) :
    Bool × Database :=
  let previousToken := db.orphanedRoomCodes.get? code
  let previousScore := db.orphanedRoomQueue.zscore code.1
  let staged := db.stageOrphanClaim code token
  if staged.roomsByExpiry.has code then
    (true, { staged with roomsByExpiry := staged.roomsByExpiry.zrem code })
  else
    (false, { staged with
      orphanedRoomCodes := match previousToken with
        | some previous => staged.orphanedRoomCodes.set code previous
        | none => staged.orphanedRoomCodes.delete code
      orphanedRoomQueue := match previousScore with
        | some previous => staged.orphanedRoomQueue.zadd previous code.1
        | none => staged.orphanedRoomQueue.zrem code.1 })

/-! ## Repair -/

def pruneMember (token : ClaimToken) (db : Database) (code : RoomCode) : Database :=
  if db.bodies.has code then db else (db.removeIndexWithOrphanClaim code token).2

def pruneOrphanedMembersLua (db : Database) (token : ClaimToken) (codes : List RoomCode) :
    Database :=
  codes.foldl (pruneMember token) db

def reconcileMemberLua (db : Database) (code : RoomCode) (read : Raw) (score : Score) :
    Except ScriptError Bool × Database :=
  match db.get code with
  | .wrongType => (.error .wrongType, db)
  | .missing => (.ok false, db)
  | .raw raw =>
    if raw ≠ read then (.ok false, db)
    else (.ok true, { db with roomsByExpiry := db.roomsByExpiry.zadd score code })

def quarantineMemberLua (db : Database) (code : RoomCode) (read : Raw) (token : ClaimToken) :
    Bool × Database :=
  match db.get code with
  | .missing => (false, db)
  | .wrongType => db.removeIndexWithOrphanClaim code token
  | .raw raw => if raw ≠ read then (false, db) else db.removeIndexWithOrphanClaim code token

/-! ## The expiry sweep -/

inductive BodyState where
  | missing | usable | unusable
  deriving DecidableEq

def roomBodyState (db : Database) (code : RoomCode) : BodyState :=
  match db.get code with
  | .missing => .missing
  | .wrongType => .unusable
  | .raw raw => if Lua.isUsableRoom raw.decode code then .usable else .unusable

/-- The database and the two lists the script fills. -/
structure Sweep where
  db : Database
  deletedCodes : List RoomCode := []
  orphanClaims : JsMap RoomCode ClaimToken := .empty
  deriving DecidableEq

def Sweep.reportOrphan (s : Sweep) (code : RoomCode) (token : ClaimToken) : Sweep :=
  { s with orphanClaims := s.orphanClaims.set code token }

/-- One member of the batch read off the queue. -/
def Sweep.visitStaged (s : Sweep) (member : Text) : Sweep :=
  if reserved : member = sequenceMember then s
  else
    let code : RoomCode := ⟨member, reserved⟩
    match s.db.orphanedRoomCodes.get? code with
    | none =>
      { s with db.orphanedRoomQueue := s.db.orphanedRoomQueue.zrem member }
    | some token =>
      match s.db.roomBodyState code with
      | .missing =>
        let reported := s.reportOrphan code token
        { reported with db := s.db.rotateOrphanClaim code }
      | .usable =>
        { s with
          db.orphanedRoomCodes := s.db.orphanedRoomCodes.delete code
          db.orphanedRoomQueue := s.db.orphanedRoomQueue.zrem member }
      | .unusable => { s with db := s.db.rotateOrphanClaim code }

/-- One member of the index whose score has passed. -/
def Sweep.visitCandidate (now : Rat) (token : ClaimToken) (s : Sweep) (code : RoomCode) : Sweep :=
  match s.db.get code with
  | .wrongType => { s with db := (s.db.removeIndexWithOrphanClaim code token).2 }
  | .missing =>
    match s.db.removeIndexWithOrphanClaim code token with
    | (true, db) => Sweep.reportOrphan { s with db } code token
    | (false, db) => { s with db }
  | .raw raw =>
    if Lua.isUsableRoom raw.decode code then
      match Lua.index raw.decode "expiresAt" with
      | some .null =>
        { s with db.roomsByExpiry := s.db.roomsByExpiry.zadd ⊤ code }
      | some (.num expiresAt) =>
        if expiresAt ≤ now then
          { s with
            db.bodies := s.db.bodies.delete code
            db.roomsByExpiry := s.db.roomsByExpiry.zrem code
            deletedCodes := s.deletedCodes ++ [code] }
        else s
      | _ => s
    else s

def deleteExpiredRoomsLua (db : Database) (now : Rat) (orphanLimit : Int) (token : ClaimToken) :
    Sweep :=
  let candidates := db.roomsByExpiry.zrangebyscore fun score => decide (score ≤ now)
  let staged := db.orphanedRoomQueue.zrange (orphanLimit - 1)
  candidates.foldl (Sweep.visitCandidate now token) (staged.foldl Sweep.visitStaged { db })

structure OrphanedIndexClaim where
  code : RoomCode
  token : ClaimToken
  deriving DecidableEq

def acknowledge (db : Database) (claim : OrphanedIndexClaim) : Database :=
  if db.orphanedRoomCodes.get? claim.code = some claim.token then
    { db with
      orphanedRoomCodes := db.orphanedRoomCodes.delete claim.code
      orphanedRoomQueue := db.orphanedRoomQueue.zrem claim.code.1 }
  else db

def acknowledgeOrphanedIndexClaimsLua (db : Database) (claims : List OrphanedIndexClaim) :
    Database :=
  claims.foldl acknowledge db

/-! ## What the scripts leave alone -/

section
variable {db : Database} {code : RoomCode}

theorem get_of_missing (h : db.get code = .missing) : db.bodies.get? code = none := by
  unfold Database.get at h
  split at h
  · assumption
  · cases h
  · cases h

theorem get_of_raw {raw : Raw} (h : db.get code = .raw raw) :
    db.bodies.get? code = some (.text raw) := by
  unfold Database.get at h
  split at h
  · cases h
  · cases h
    assumption
  · cases h

theorem get_of_missing_body (h : db.bodies.get? code = none) : db.get code = .missing := by
  simp [Database.get, h]

theorem removeIndexWithOrphanClaim_bodies (db : Database) (code : RoomCode) (token : ClaimToken) :
    (db.removeIndexWithOrphanClaim code token).2.bodies = db.bodies := by
  unfold removeIndexWithOrphanClaim
  dsimp only
  split <;> rfl

theorem visitStaged_frame (s : Sweep) (member : Text) :
    (s.visitStaged member).db.bodies = s.db.bodies ∧
      (s.visitStaged member).db.roomsByExpiry = s.db.roomsByExpiry := by
  unfold Sweep.visitStaged
  split
  · exact ⟨rfl, rfl⟩
  · dsimp only
    split
    · exact ⟨rfl, rfl⟩
    · split <;> exact ⟨rfl, rfl⟩

theorem foldl_visitStaged_frame (members : List Text) (s : Sweep) :
    (members.foldl Sweep.visitStaged s).db.bodies = s.db.bodies ∧
      (members.foldl Sweep.visitStaged s).db.roomsByExpiry = s.db.roomsByExpiry := by
  induction members generalizing s with
  | nil => exact ⟨rfl, rfl⟩
  | cons member rest ih =>
    obtain ⟨bodies, index⟩ := ih (s.visitStaged member)
    obtain ⟨bodies', index'⟩ := visitStaged_frame s member
    exact ⟨bodies.trans bodies', index.trans index'⟩

/-- Writing a room leaves the claims alone. -/
theorem createRoomLua_frame (raw : Source) (score : Score) (indexed : Bool) :
    (db.createRoomLua code raw score indexed).2.orphanedRoomCodes = db.orphanedRoomCodes ∧
      (db.createRoomLua code raw score indexed).2.orphanedRoomQueue = db.orphanedRoomQueue := by
  unfold createRoomLua
  split
  · exact ⟨rfl, rfl⟩
  · cases indexed <;> exact ⟨rfl, rfl⟩

theorem updateRoomCasLua_frame (expected : Raw) (next : Source) (score : Score) (indexed : Bool) :
    (db.updateRoomCasLua code expected next score indexed).2.orphanedRoomCodes =
        db.orphanedRoomCodes ∧
      (db.updateRoomCasLua code expected next score indexed).2.orphanedRoomQueue =
        db.orphanedRoomQueue := by
  unfold updateRoomCasLua
  split
  · exact ⟨rfl, rfl⟩
  · exact ⟨rfl, rfl⟩
  · split
    · exact ⟨rfl, rfl⟩
    · cases indexed <;> exact ⟨rfl, rfl⟩

theorem reconcileMemberLua_frame (read : Raw) (score : Score) :
    (db.reconcileMemberLua code read score).2.orphanedRoomCodes = db.orphanedRoomCodes ∧
      (db.reconcileMemberLua code read score).2.orphanedRoomQueue = db.orphanedRoomQueue := by
  unfold reconcileMemberLua
  split
  · exact ⟨rfl, rfl⟩
  · exact ⟨rfl, rfl⟩
  · split <;> exact ⟨rfl, rfl⟩

/-- The guarded deletes are the normal way for a room to go, and leave the claims alone. -/
theorem deleteRoomLua_frame (guard : Doc Text → Bool) :
    (db.deleteRoomLua code guard).2.orphanedRoomCodes = db.orphanedRoomCodes ∧
      (db.deleteRoomLua code guard).2.orphanedRoomQueue = db.orphanedRoomQueue := by
  unfold deleteRoomLua
  split
  · exact ⟨rfl, rfl⟩
  · exact ⟨rfl, rfl⟩
  · split
    · exact ⟨rfl, rfl⟩
    · split <;> exact ⟨rfl, rfl⟩

theorem acknowledge_frame (claims : List OrphanedIndexClaim) :
    (db.acknowledgeOrphanedIndexClaimsLua claims).bodies = db.bodies ∧
      (db.acknowledgeOrphanedIndexClaimsLua claims).roomsByExpiry = db.roomsByExpiry := by
  unfold acknowledgeOrphanedIndexClaimsLua
  induction claims generalizing db with
  | nil => exact ⟨rfl, rfl⟩
  | cons claim rest ih =>
    obtain ⟨bodies, index⟩ := @ih (db.acknowledge claim)
    have one : (db.acknowledge claim).bodies = db.bodies ∧
        (db.acknowledge claim).roomsByExpiry = db.roomsByExpiry := by
      unfold Database.acknowledge
      split <;> exact ⟨rfl, rfl⟩
    exact ⟨bodies.trans one.1, index.trans one.2⟩

end

end Database

end BiliSyncPlay.RedisRoomStore
