import BiliSyncPlay.Service.Exec

/-!
# Collecting dead rooms

The runtime teardown of deleted rooms, the lazy collection a reader of an expired room starts,
the reaper's sweep, and the rollback of a room that never went live.
-/

namespace BiliSyncPlay

open Interleave

abbrev Service := Prog Cmd Cmd.Ans Err

def ask (c : Cmd) : Service c.Ans := Prog.perform c

/-- An awaited store call; its fault is thrown. -/
def call {α : Type} (p : Service (Except Fault α)) : Service α := do
  match ← p with
  | .ok a => pure a
  | .error f => throw (.store f)

/-- Runs a program and hands its failure over as a value. -/
def attempt {α : Type} (p : Service α) : Service (Except Err α) :=
  tryCatch (do pure (.ok (← p))) fun e => pure (.error e)

def logEvent (event : String) (code : Option Code := none) (session : Option SessionId := none)
    (reason : Option String := none) : Service Unit :=
  ask (.logEvent ⟨event, code, session, reason⟩)

def INTERNAL_SERVER_ERROR_MESSAGE : String := "Internal server error."
def ROOM_NOT_FOUND_MESSAGE : String := "Room not found."

def internalError (detail : Option String := none) : Err :=
  .service ⟨.internalError, INTERNAL_SERVER_ERROR_MESSAGE, .internalError, detail⟩

def roomNotFound : Err := .service ⟨.roomNotFound, ROOM_NOT_FOUND_MESSAGE, .roomNotFound, none⟩

def Err.fault : Err → Fault
  | .store f => f
  | .service _ => .other

inductive RoomReadCaller where
  | request | maintenancePass
  deriving DecidableEq

/-- A request stops waiting for a teardown at its confirmation timeout; a maintenance pass
does not. -/
def RoomReadCaller.bound : RoomReadCaller → WaitBound
  | .request => .shared
  | .maintenancePass => .unbounded

/-- Starts or joins the teardown effect and waits for it. The code counts as settled once the
wait ends without a throw, whatever the effect reported. -/
def awaitRuntimeTeardown (n : NodeId) (code : Code) (expectedGeneration : Option Generation)
    (caller : RoomReadCaller) : Service Bool := do
  let entry ← ask (.startRuntimeTeardownEffect n code expectedGeneration)
  match ← ask (.awaitEffect entry caller.bound) with
  | some (.failed _) => do
    logEvent "room_runtime_cleanup_failed" code
    pure false
  | some _ => pure true
  | none => do
    logEvent "room_runtime_cleanup_unconfirmed" code
    pure false

/-- One candidate of a collection; answers whether its code is settled. -/
def collectCandidate (n : NodeId) (caller : RoomReadCaller) (code : Code)
    (expectedDebt : Option RuntimeTeardownDebt) : Service Bool := do
  match ← ask (.getRoomGeneration code) with
  | .error _ => do
    ask (.rememberRuntimeTeardownDebt n code)
    pure false
  | .ok expectedGeneration =>
    match ← ask (.getRoom code) with
    | .error _ => do
      ask (.rememberRuntimeTeardownDebt n code)
      pure false
    | .ok (some _) => do
      ask (.forgetRuntimeTeardownDebt n code)
      pure true
    | .ok none =>
      match ← ask (.getRoomGeneration code) with
      | .error _ => do
        ask (.rememberRuntimeTeardownDebt n code)
        pure false
      | .ok confirmedGeneration =>
        if confirmedGeneration ≠ expectedGeneration then pure false
        else
          match expectedDebt with
          | none => awaitRuntimeTeardown n code expectedGeneration caller
          | some debt => do
            let current ← ask (.runtimeTeardownDebt n code)
            if current.map RuntimeTeardownDebt.identity ≠ some debt.identity then pure false
            else awaitRuntimeTeardown n code expectedGeneration caller

def collectCandidates (n : NodeId) (caller : RoomReadCaller) :
    List (Code × Option RuntimeTeardownDebt) → Service (List Code)
  | [] => pure []
  | (code, expectedDebt) :: rest => do
    let settled ← collectCandidate n caller code expectedDebt
    let settledCodes ← collectCandidates n caller rest
    pure (if settled then code :: settledCodes else settledCodes)

/-- Fresh codes supersede a backlog snapshot of the same code. -/
def candidatesOf (pending : List (Code × RuntimeTeardownDebt)) (freshCodes : List Code) :
    JsMap Code (Option RuntimeTeardownDebt) :=
  let backlog := pending.foldl (fun m e => m.set e.1 (some e.2)) JsMap.empty
  freshCodes.foldl (fun m code => m.set code none) backlog

def collectRuntimeStateForDeletedRooms (n : NodeId)
    (pendingCandidates : List (Code × RuntimeTeardownDebt)) (freshCodes : List Code)
    (caller : RoomReadCaller) : Service (List Code) :=
  collectCandidates n caller (candidatesOf pendingCandidates freshCodes).entries

def collectExpiredRoom (n : NodeId) (code : Code) : Service RoomDeleteOutcome := do
  let currentTime ← ask .now
  let outcome ← call (ask (.deleteExpiredRoom code currentTime))
  if outcome = .superseded then pure outcome
  else do
    let _ ← collectRuntimeStateForDeletedRooms n [] [code] .request
    pure outcome

def unconfirmedRoomResolution (code : Code) (trigger : String) : Service RoomServiceError := do
  logEvent "room_expiry_delete_unconfirmed" code none trigger
  pure ⟨.internalError, INTERNAL_SERVER_ERROR_MESSAGE, .roomResolutionUnconfirmed,
    some "room_expiry_resolution_unconfirmed"⟩

def resolveRoom (n : NodeId) (code : Code) : Service (Option PersistedRoom) := do
  match ← call (ask (.getRoom code)) with
  | none => pure none
  | some room => do
    let currentTime ← ask .now
    if room.expired currentTime then do
      if ← ask (.isClosing n) then do
        throw (.service (← unconfirmedRoomResolution code "service_closing"))
      else do
        let effect ← ask (.getOrStartExpiredRoomCollection n code)
        match ← ask (.awaitEffect effect .own) with
        | none => do
          throw (.service (← unconfirmedRoomResolution code "delete_timeout"))
        | some (.deletion .superseded) => do
          match ← call (ask (.getRoom code)) with
          | none => pure none
          | some fresh => do
            let later ← ask .now
            if fresh.expired later then do
              throw (.service
                (← unconfirmedRoomResolution code "still_expired_after_superseded"))
            else pure (some fresh)
        | some (.failed f) => throw (.store f)
        | some _ => pure none
    else pure (some room)

/-- Attempts against a live conflict; answers whether the instance needs nothing more. -/
def rollbackAttempts (code : Code) (joinToken : Token) : Nat → Service Bool
  | 0 => pure false
  | n + 1 => do
    let currentTime ← ask .now
    match ← call (ask (.updateRoom code (.inst joinToken none)
        { expiresAt := some (some currentTime) })) with
    | .ok _ => pure true
    | .refused .notFound => pure true
    | .refused .versionConflict => rollbackAttempts code joinToken n

def runOrphanExpiry (session : SessionId) (code : Code) (joinToken : Token) (_reason : String) :
    Service Unit := do
  match ← attempt (rollbackAttempts code joinToken ROOM_ROLLBACK_MAX_ATTEMPTS) with
  | .ok true => pure ()
  | .ok false => logEvent "room_rollback_failed" code session "version_conflict"
  | .error _ => logEvent "room_rollback_failed" code session "store_error"

def expireOrphanedRoom (n : NodeId) (session : SessionId) (code : Code) (joinToken : Token)
    (reason : String) : Service Unit := do
  if ← ask (.isClosing n) then logEvent "room_rollback_failed" code session "service_closing"
  else do
    let effect ← ask (.track n (.runOrphanExpiry session code joinToken reason))
    match ← ask (.awaitEffect effect .own) with
    | none => logEvent "room_rollback_unconfirmed" code session reason
    | some _ => pure ()

structure ExpiredRoomSweepCounts where
  deletedRooms : Nat
  orphanedIndexEntries : Nat

def deleteExpiredRooms (n : NodeId) : Service ExpiredRoomSweepCounts := do
  let currentTime ← ask .now
  let swept ← call (ask (.deleteExpiredRooms currentTime))
  let pending ← ask (.pendingRuntimeTeardowns n)
  let settledCodes ← collectRuntimeStateForDeletedRooms n pending
    (swept.deletedRoomCodes ++ swept.orphanedIndexCodes) .maintenancePass
  let settledClaims := swept.orphanedIndexClaims.filter fun claim => claim.code ∈ settledCodes
  if settledClaims.length > 0 then do
    match ← ask (.acknowledgeOrphanedIndexClaims settledClaims) with
    | .ok _ => pure ()
    | .error _ => logEvent "room_persist_failed" none none "orphan_runtime_cleanup_ack_failed"
  pure ⟨swept.deletedRoomCodes.length, swept.orphanedIndexCodes.length⟩

def teardownRoomRuntime (n : NodeId) (code : Code) : Service Unit := do
  let pending ← ask (.pendingRuntimeTeardowns n)
  let _ ← collectRuntimeStateForDeletedRooms n pending [code] .request
  pure ()

def withVersionRetry {α : Type} (n : NodeId) (code : Code)
    (action : PersistedRoom → Service (Option α)) : Nat → Service (Option α)
  | 0 => do
    logEvent "room_version_conflict" code
    pure none
  | attempts + 1 => do
    match ← resolveRoom n code with
    | none => pure none
    | some room => do
      match ← action room with
      | some updated => pure (some updated)
      | none => withVersionRetry n code action attempts

end BiliSyncPlay
