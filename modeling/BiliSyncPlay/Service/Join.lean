import BiliSyncPlay.Service.Leave

/-!
# Joining a room

Admission is serialized per code, in the process by a chain of tickets and across processes by
a lock with a lifetime. Under it the record is brought up to date, the capacity is checked, and
the seat is written.
-/

namespace BiliSyncPlay

open Interleave

def JOIN_TOKEN_INVALID_MESSAGE : String := "Join token is invalid."
def MEMBER_KICKED_REJOIN_MESSAGE : String :=
  "You were removed from the room by an admin. Rejoin the room."
def ROOM_FULL_MESSAGE : String := "Room is full."

structure JoinTargetState where
  activeRoom : Option ActiveRoom
  reconnectMemberId : Option MemberId
  /-- Whether the reclaimed identity still occupies a seat. -/
  reconnectHoldsSeat : Bool
  activeMemberCount : Nat

structure JoinIdentity where
  memberId : MemberId
  memberToken : Token

def releaseJoinLock (code : Code) (lock : JoinAdmissionLock) : Service Unit := do
  let currentTime ← ask .now
  if currentTime < lock.expiresAt then do
    let _ ← ask (.releaseRoomLock code lock.token)
    pure ()
  else logEvent "room_join_admission_lock_ttl_exceeded" code none "join_admission_lock_ttl_exceeded"

def withRoomJoinLock {α : Type} (n : NodeId) (code : Code)
    (action : JoinAdmissionLock → Service α) : Service α := do
  let ticket ← ask (.enterJoinQueue n code)
  Prog.ensuring (do
    ask (.awaitJoinTurn n code ticket)
    let currentTime ← ask .now
    match ← call (ask (.acquireDistributedJoinLock code
        (currentTime + JOIN_ADMISSION_LOCK_MAX_WAIT_MS))) with
    | none => do
      logEvent "room_join_admission_lock_unavailable" code none "join_admission_lock_timeout"
      throw (internalError "join_admission_lock_timeout")
    | some lock => Prog.ensuring (action lock) (releaseJoinLock code lock))
    (ask (.leaveJoinQueue n code ticket))

def assertActive (lock : JoinAdmissionLock) : Service Unit := do
  let currentTime ← ask .now
  if lock.expiresAt ≤ currentTime then throw (internalError "join_admission_lock_expired")
  else pure ()

def resolveJoinTargetState (code : Code) (previousMemberToken : Option Token) :
    Service JoinTargetState := do
  let activeRoom ← call (ask (.resolveActiveRoom code))
  let reconnectMemberId ← do
    match previousMemberToken, activeRoom with
    | some token, some _ => call (ask (.findMemberIdByToken code token))
    | _, _ => pure none
  let members ← viewMembers activeRoom
  pure ⟨activeRoom, reconnectMemberId,
    (reconnectMemberId.map fun m => members.has m).getD false, members.size⟩

def rejectJoinToken {α : Type} (s : SessionId) (code : Code) (reason message : String) :
    Service α := do
  logEvent "auth_failed" code s reason
  throw (.service ⟨.joinTokenInvalid, message, .joinTokenInvalid, none⟩)

def ensureNotBlocked (s : SessionId) (code : Code) (previousMemberToken : Option Token) :
    Service Unit := do
  match previousMemberToken with
  | none => pure ()
  | some token => do
    let currentTime ← ask .now
    if ← call (ask (.isMemberTokenBlocked code token currentTime)) then
      rejectJoinToken s code "member_kicked" MEMBER_KICKED_REJOIN_MESSAGE
    else pure ()

def ensureJoinRequestAllowed (cfg : Config) (s : SessionId) (room : PersistedRoom) (code : Code)
    (joinToken : Token) (previousMemberToken : Option Token) : Service JoinTargetState := do
  if room.joinToken ≠ joinToken then
    rejectJoinToken s code "join_token_invalid" JOIN_TOKEN_INVALID_MESSAGE
  else do
    ensureNotBlocked s code previousMemberToken
    let target ← resolveJoinTargetState code previousMemberToken
    if cfg.maxMembersPerRoom ≤ target.activeMemberCount ∧ !target.reconnectHoldsSeat then
      throw (.service ⟨.roomFull, ROOM_FULL_MESSAGE, .roomFull, none⟩)
    else pure target

/-- Brings the record up to date for one joiner; `none` asks for another attempt. -/
def refreshJoinedRoom (cfg : Config) (s : SessionId) (code : Code) (joinToken : Token)
    (previousMemberToken : Option Token) (room : PersistedRoom) :
    Service (Option (PersistedRoom × JoinTargetState)) := do
  let currentTime ← ask .now
  let target ← ensureJoinRequestAllowed cfg s room code joinToken previousMemberToken
  if room.expiresAt = none ∧ currentTime - room.lastActiveAt < ROOM_LAST_ACTIVE_WRITE_INTERVAL_MS ∧
      target.reconnectHoldsSeat then do
    match ← call (ask (.getRoom code)) with
    | none => pure none
    | some latestRoom =>
      if latestRoom.version ≠ room.version then pure none else pure (some (latestRoom, target))
  else do
    let revives := room.expiresAt.isSome
    match ← ask (.updateRoom code (.version room.version)
        { expiresAt := if revives then some none else none
          lastActiveAt := some currentTime }) with
    | .error fault => do
      if revives ∧ fault = .timeout .updateRoomCas then
        logEvent "room_join_revive_unconfirmed" code s "join_room_revive_unconfirmed"
      throw (.store fault)
    | .ok (.refused _) => pure none
    | .ok (.ok updated) => pure (some (updated, target))

def persistJoinedRoom (cfg : Config) (s : SessionId) (code : Code) (joinToken : Token)
    (previousMemberToken : Option Token) : Service (Option (PersistedRoom × JoinTargetState)) :=
  withVersionRetry (cfg.nodeOf s) code
    (refreshJoinedRoom cfg s code joinToken previousMemberToken) MAX_VERSION_RETRIES

def buildJoinIdentity (s : SessionId) (reconnectMemberId : Option MemberId)
    (previousMemberToken : Option Token) : Service JoinIdentity := do
  match reconnectMemberId, previousMemberToken with
  | some memberId, some token => pure ⟨memberId, token⟩
  | reconnect, _ => do
    let token ← ask .generateToken
    pure ⟨reconnect.getD s, token⟩

/-- Gives the seat back to the session it was taken from, unless a newer one holds it. -/
def readdPreviousSession (s : SessionId) (code : Code) (identity : JoinIdentity)
    (previousRuntimeSession currentRuntimeSession : Option SessionId) : Service Unit :=
  match previousRuntimeSession with
  | none => pure ()
  | some previous =>
    if currentRuntimeSession = none ∨ currentRuntimeSession = some s then do
      call (ask (.addMember code identity.memberId previous identity.memberToken))
      let _ ← ask .flush
      pure ()
    else pure ()

/-- Undoes a seat whose join failed after it was written, and rethrows. -/
def undoJoin {α : Type} (s : SessionId) (code : Code) (identity : JoinIdentity)
    (previousRuntimeSession : Option SessionId) (error : Err) : Service α := do
  let _ ← call (ask (.removeMember code identity.memberId s))
  let _ ← ask .flush
  let activeRoom ← call (ask (.resolveActiveRoom code))
  let members ← viewMembers activeRoom
  readdPreviousSession s code identity previousRuntimeSession (members.get? identity.memberId)
  throw error

def confirmJoin (s : SessionId) (lock : JoinAdmissionLock) (code : Code) (identity : JoinIdentity) :
    Service Unit := do
  call (ask .flush)
  assertActive lock
  let joinedAt ← ask .now
  ask (.setSessionRoom s ⟨code, identity.memberId, identity.memberToken, joinedAt⟩)

def previousSessions (joinedRoom : PersistedRoom) (target : JoinTargetState) :
    Service (Option SessionId × Option SessionId) := do
  match target.reconnectMemberId with
  | none => pure (none, none)
  | some memberId => do
    let localRoom ← ask (.getActiveRoom joinedRoom.code)
    let previousLocalSession := localRoom.bind fun room => room.members.get? memberId
    let members ← viewMembers target.activeRoom
    pure (previousLocalSession, (members.get? memberId).orElse fun _ => previousLocalSession)

def disconnectReplacedSession (current : SessionId) (previous : Option SessionId) : Service Unit :=
  match previous with
  | some p => if p = current then pure () else ask (.closeSocket p)
  | none => pure ()

def seatJoinedSession (s : SessionId) (lock : JoinAdmissionLock)
    (previousMemberToken : Option Token) (joinedRoom : PersistedRoom) (target : JoinTargetState) :
    Service (PersistedRoom × Token) := do
  let identity ← buildJoinIdentity s target.reconnectMemberId previousMemberToken
  let (previousLocalSession, previousRuntimeSession) ← previousSessions joinedRoom target
  assertActive lock
  call (ask (.addMember joinedRoom.code identity.memberId s identity.memberToken))
  tryCatch (confirmJoin s lock joinedRoom.code identity)
    (undoJoin s joinedRoom.code identity previousRuntimeSession)
  disconnectReplacedSession s previousLocalSession
  logEvent "room_restored" joinedRoom.code s
  pure (joinedRoom, identity.memberToken)

def joinRoomForSession (cfg : Config) (s : SessionId) (code : Code) (joinToken : Token)
    (displayName : Option String) (previousMemberToken : Option Token) :
    Service (PersistedRoom × Token) := do
  let _ ← ask (.setSessionDisplayName s displayName)
  let _ ← leaveCurrentRoom cfg s .clientRequest
  withRoomJoinLock (cfg.nodeOf s) code fun lock => do
    match ← persistJoinedRoom cfg s code joinToken previousMemberToken with
    | none => throw roomNotFound
    | some (joinedRoom, target) => seatJoinedSession s lock previousMemberToken joinedRoom target

end BiliSyncPlay
