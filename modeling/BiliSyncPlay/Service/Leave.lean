import BiliSyncPlay.Service.Collect

/-!
# Leaving a room

The seat goes first, then the record is read and the shared members are judged against it, and
a room found empty is scheduled to expire at exactly the version that judgement read.
-/

namespace BiliSyncPlay

open Interleave

/-- The members a room entry shows; none without an entry. -/
def viewMembers (room : Option ActiveRoom) : Service (JsMap MemberId SessionId) :=
  match room with
  | some room => ask (.viewMembers room)
  | none => pure .empty

structure LeaveResult where
  room : Option PersistedRoom
  notifyRoom : Bool := false
  memberRemoved : Bool := false
  needsRoomStateResync : Bool := false

def snapshotJoinedSession (session : Session) : Option JoinedSessionSnapshot :=
  match session.roomCode, session.memberId, session.memberToken with
  | some roomCode, some memberId, some memberToken =>
    some ⟨roomCode, memberId, memberToken, session.joinedAt⟩
  | _, _, _ => none

def restoreLeaveState (s : SessionId) (snapshot : Option JoinedSessionSnapshot) (roomCode : Code)
    (reason : String) : Service Unit := do
  match snapshot with
  | none => pure ()
  | some joined => do
    call (ask (.addMember joined.roomCode joined.memberId s joined.memberToken))
    ask (.restoreJoinedSession s joined)
    let _ ← ask .flush
    logEvent "room_leave_recovered" roomCode s reason

def Err.leaveReason : Err → String
  | .service error => error.detail.getD "leave_room_persist_failed"
  | .store _ => "leave_room_persist_failed"

def roomStillExists (roomCode : Code) : Service Bool := do
  match ← ask (.getRoom roomCode) with
  | .ok room => pure room.isSome
  | .error _ => pure true

/-- What the `catch` of a leave does about a seat that is already given up; answers whether the
failure is swallowed. -/
def recoverRemovedMember (s : SessionId) (roomCode : Code)
    (snapshot : Option JoinedSessionSnapshot) (roomEmpty : Bool) (reason : String) :
    Service Bool := do
  let session ← ask (.readSession s)
  if session.socketOpen then do
    if ← roomStillExists roomCode then restoreLeaveState s snapshot roomCode reason
    else logEvent "room_leave_recovery_skipped" roomCode s "room_deleted"
    pure false
  else do
    logEvent "room_leave_recovery_skipped" roomCode s "socket_detached"
    if roomEmpty then do
      logEvent "room_leave_orphan_possible" roomCode s reason
      pure false
    else pure true

def rethrowLeave {α : Type} (error : Err) (reason : String) : Service α :=
  match error with
  | .service _ => throw error
  | .store _ => throw (internalError reason)

/-- The `catch` of a leave, given what the removal reported before the throw. -/
def recoverLeave (s : SessionId) (roomCode : Code) (snapshot : Option JoinedSessionSnapshot)
    (removed roomEmpty : Bool) (error : Err) : Service LeaveResult := do
  let reason := error.leaveReason
  let swallowWithNotifyRoom ←
    if removed then recoverRemovedMember s roomCode snapshot roomEmpty reason else pure false
  logEvent "room_persist_failed" roomCode s reason
  if swallowWithNotifyRoom then
    pure { room := none, notifyRoom := true, memberRemoved := removed, needsRoomStateResync := true }
  else rethrowLeave error reason

/-- One attempt, pinned to the instance and the version the room was judged empty at. -/
def scheduleExpiry (s : SessionId) (code : Code) (joinToken : Token) (version : Nat)
    (expiresAt : Time) : Service (Option PersistedRoom) := do
  let currentTime ← ask .now
  let result ← ask (.updateRoom code (.inst joinToken (some version))
    { expiresAt := some (some expiresAt), lastActiveAt := some currentTime })
  match result with
  | .ok (.ok room) => do
    logEvent "room_expiry_scheduled" code
    pure (some room)
  | _ => do
    logEvent "room_leave_orphan_possible" code s "leave_room_expiry_schedule_failed"
    pure none

/-- What a leave owes a room it found empty. -/
def scheduleEmptiedRoom (cfg : Config) (s : SessionId) (roomCode : Code)
    (persistedRoom : PersistedRoom) : Service (Option PersistedRoom) := do
  let currentTime ← ask .now
  let expiresAt := currentTime + cfg.emptyRoomTtlMs
  if ← ask (.isClosing (cfg.nodeOf s)) then do
    logEvent "room_leave_orphan_possible" roomCode s "leave_room_expiry_schedule_failed"
    pure none
  else do
    let effect ← ask (.track (cfg.nodeOf s) (.scheduleExpiry s roomCode persistedRoom.joinToken
      persistedRoom.version expiresAt))
    match ← ask (.awaitEffect effect .own) with
    | some (.scheduled room) => pure room
    | some _ => pure none
    | none => do
      logEvent "room_expiry_schedule_unconfirmed" roomCode s
      pure none

/-- Whether anyone else is left decides between the countdown and the owner's succession. -/
def leaveViewedRoom (cfg : Config) (s : SessionId) (session : Session) (roomCode : Code)
    (removal : Removal) (memberRemovalConfirmed : Bool) (persistedRoom : PersistedRoom)
    (members : JsMap MemberId SessionId) : Service LeaveResult := do
  let leavingMemberId := session.memberId.getD s
  let remainingMembers := members.entries.filter fun e => e ≠ (leavingMemberId, s)
  if remainingMembers.length = 0 then do
    let updatedRoom ← scheduleEmptiedRoom cfg s roomCode persistedRoom
    logEvent "room_left" roomCode s
    pure { room := some (updatedRoom.getD persistedRoom), memberRemoved := removal.removed }
  else do
    let membersAfter ← ask (.readTenures remainingMembers)
    logEvent "room_left" roomCode s
    pure { room := persistedRoom, memberRemoved := removal.removed
           needsRoomStateResync := !memberRemovalConfirmed ||
             sharedVideoOwnerChangedOnLeave
               (persistedRoom.sharedVideo.bind SharedVideo.sharedByMemberId) membersAfter
               ⟨leavingMemberId, session.joinedAt⟩ }

def leaveResolvedRoom (cfg : Config) (s : SessionId) (session : Session) (roomCode : Code)
    (removal : Removal) (memberRemovalConfirmed : Bool) (persistedRoom : PersistedRoom) :
    Service LeaveResult := do
  match ← ask (.resolveActiveRoom roomCode) with
  | .error _ => do
    logEvent "room_leave_orphan_possible" roomCode s "shared_member_view_unreadable"
    logEvent "room_left" roomCode s
    pure { room := persistedRoom, memberRemoved := removal.removed, needsRoomStateResync := true }
  | .ok sharedRoom => do
    let members ← viewMembers sharedRoom
    leaveViewedRoom cfg s session roomCode removal memberRemovalConfirmed persistedRoom members

/-- The leave from its removal on. -/
def leaveAfterRemoval (cfg : Config) (s : SessionId) (session : Session) (roomCode : Code)
    (removal : Removal) : Service LeaveResult := do
  call (ask .flush)
  let durable ← ask .removalDurable
  ask (.clearSessionRoom s)
  match ← resolveRoom (cfg.nodeOf s) roomCode with
  | none => pure { room := none }
  | some persistedRoom =>
    leaveResolvedRoom cfg s session roomCode removal durable.toBool persistedRoom

def leaveCurrentRoom (cfg : Config) (s : SessionId) (reason : LeaveRoomReason) :
    Service LeaveResult := do
  let session ← ask (.readSession s)
  match session.roomCode with
  | none => pure { room := none }
  | some roomCode => do
    let snapshot := snapshotJoinedSession session
    let current ← ask (.getActiveRoom roomCode)
    match session.memberId with
    | none =>
      tryCatch (leaveAfterRemoval cfg s session roomCode ⟨current, false, false⟩)
        (recoverLeave s roomCode snapshot false false)
    | some memberId => do
      -- Revoking comes first: a revocation that fails leaves the member where they were.
      let revoked ←
        if reason = .clientRequest then ask (.revokeMemberToken roomCode memberId s)
        else pure (.ok ())
      match revoked with
      | .error fault => recoverLeave s roomCode snapshot false false (.store fault)
      | .ok _ => do
        match ← ask (.removeMember roomCode memberId s) with
        | .error fault => recoverLeave s roomCode snapshot false false (.store fault)
        | .ok removal =>
          tryCatch (leaveAfterRemoval cfg s session roomCode removal)
            (recoverLeave s roomCode snapshot removal.removed removal.roomEmpty)

end BiliSyncPlay
