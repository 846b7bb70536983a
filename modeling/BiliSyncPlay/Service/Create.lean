import BiliSyncPlay.Service.Leave

/-!
# Creating a room

A code is taken only when no runtime state remains under it. A record that was written, or may
have been, but does not go live is expired again.
-/

namespace BiliSyncPlay

open Interleave

def MAX_CREATE_ATTEMPTS : Nat := 5

/-- The room that was written, or why the store stopped answering. -/
inductive Allocation where
  | created (room : PersistedRoom)
  | unconfirmed (fault : Fault)
  | conflict

/-- One write under a free code; `none` asks for another code. -/
def createUnder (n : NodeId) (s : SessionId) (createdAt : Time) (code : Code) :
    Service (Option Allocation) := do
  let joinToken ← ask .generateToken
  let session ← ask (.readSession s)
  match ← ask (.createRoom ⟨code, joinToken, createdAt, some s, some session.displayName⟩) with
  | .ok room => pure (some (.created room))
  -- The code was taken, or its index write failed: another code can still work.
  | .error .other => pure none
  | .error .admission => pure (some (.unconfirmed .admission))
  | .error fault => do
    expireOrphanedRoom n s code joinToken "room_create_unconfirmed"
    pure (some (.unconfirmed fault))

def allocateRoom (n : NodeId) (s : SessionId) (createdAt : Time) : Nat → Service Allocation
  | 0 => pure .conflict
  | attempts + 1 => do
    let code ← ask .nextRoomCode
    match ← ask (.hasRoomResidue code) with
    | .ok false => do
      match ← createUnder n s createdAt code with
      | some allocation => pure allocation
      | none => allocateRoom n s createdAt attempts
    | _ => allocateRoom n s createdAt attempts

def rollbackUnstampedRoom {α : Type} (n : NodeId) (s : SessionId) (room : PersistedRoom)
    (reason : String) : Service α := do
  expireOrphanedRoom n s room.code room.joinToken reason
  logEvent "room_persist_failed" room.code s reason
  throw (internalError)

def stampRoom (code : Code) : Service Bool := do
  let pinnedGeneration ← call (ask (.getRoomGeneration code))
  let generation ← ask .generateToken
  call (ask (.markRoomGeneration code generation pinnedGeneration))

/-- Stamps a written record and seats its creator. -/
def openRoom (n : NodeId) (s : SessionId) (createdAt : Time) (room : PersistedRoom) :
    Service (PersistedRoom × Token) := do
  match ← attempt (stampRoom room.code) with
  | .error _ => rollbackUnstampedRoom n s room "room_generation_mark_failed"
  | .ok false => rollbackUnstampedRoom n s room "room_generation_superseded"
  | .ok true => do
    let memberToken ← ask .generateToken
    ask (.setMemberId s s)
    call (ask (.addMember room.code s s memberToken))
    ask (.setSessionRoom s ⟨room.code, s, memberToken, createdAt⟩)
    logEvent "room_persisted" room.code s
    pure (room, memberToken)

def createRoomForSession (cfg : Config) (s : SessionId) (displayName : Option String) :
    Service (PersistedRoom × Token) := do
  let _ ← ask (.setSessionDisplayName s displayName)
  let _ ← leaveCurrentRoom cfg s .clientRequest
  let createdAt ← ask .now
  match ← allocateRoom (cfg.nodeOf s) s createdAt MAX_CREATE_ATTEMPTS with
  | .conflict => do
    logEvent "room_persist_failed" none s "room_create_conflict"
    throw (internalError)
  | .unconfirmed _ => do
    logEvent "room_persist_failed" none s "room_create_unconfirmed"
    throw (internalError)
  | .created room => openRoom (cfg.nodeOf s) s createdAt room

end BiliSyncPlay
