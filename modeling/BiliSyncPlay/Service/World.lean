import BiliSyncPlay.Interleave.Pool
import BiliSyncPlay.Stores.RuntimeStore
import BiliSyncPlay.Service.SharedVideoOwner

/-!
# The room service's world

Any number of service nodes over one room store and one runtime store. A node's own state is
what `createRoomService` keeps in its closure; the commands are the store calls the service
awaits and the synchronous reads and writes between them.
-/

namespace BiliSyncPlay

abbrev NodeId := Nat
abbrev EffectId := Nat
abbrev Ticket := Nat
abbrev Address := Nat

def JOIN_ADMISSION_LOCK_TTL_MS : Time := 30000
def JOIN_ADMISSION_LOCK_MAX_WAIT_MS : Time := 5000
def ROOM_LAST_ACTIVE_WRITE_INTERVAL_MS : Time := 30000
def PLAYBACK_AUTHORITY_WINDOW_MS : Time := 1200
def PLAYBACK_AUTHORITY_SWEEP_INTERVAL_MS : Time := 60000
def MAX_VERSION_RETRIES : Nat := 3
def ROOM_ROLLBACK_MAX_ATTEMPTS : Nat := 3

structure Config where
  maxMembersPerRoom : Nat
  emptyRoomTtlMs : Time
  memberTokenRetentionMs : Time
  /-- A resolved room is the store's own object, as in the in-memory store, and not a copy. -/
  live : Bool
  nodeOf : SessionId → NodeId
  addressOf : SessionId → Option Address
  normalizeBilibiliUrl : String → Option String

structure Session where
  roomCode : Option Code := none
  memberId : Option MemberId := none
  memberToken : Option Token := none
  joinedAt : Option Time := none
  displayName : String := "Guest"
  socketOpen : Bool := true
  deriving DecidableEq

structure JoinedSessionSnapshot where
  roomCode : Code
  memberId : MemberId
  memberToken : Token
  joinedAt : Option Time
  deriving DecidableEq

inductive PlaybackAuthorityKind where
  | share | play | pause | seek | ratechange
  deriving DecidableEq

inductive PlaybackAuthoritySource where
  | videoShare | playbackUpdate
  deriving DecidableEq

structure PlaybackAuthority where
  actorId : MemberId
  until_ : Time
  kind : PlaybackAuthorityKind
  source : PlaybackAuthoritySource
  deriving DecidableEq

structure JoinAdmissionLock where
  token : Token
  expiresAt : Time
  deriving DecidableEq

structure OrphanedIndexClaim where
  code : Code
  token : Token
  deriving DecidableEq

structure ExpiredRoomSweep where
  deletedRoomCodes : List Code
  orphanedIndexCodes : List Code
  orphanedIndexClaims : List OrphanedIndexClaim

/-- Debts are told apart by identity: a replaced debt is not the one a collector captured. -/
structure RuntimeTeardownDebt where
  identity : Nat
  owner : Option EffectId
  deriving DecidableEq

inductive StoreOperation where
  | updateRoomCas | other
  deriving DecidableEq

/-- How an awaited store call answers without a result. `admission` proves that the command
was never issued. -/
inductive Fault where
  | admission
  | timeout (operation : StoreOperation)
  | other
  deriving DecidableEq

inductive ErrorCode where
  | roomNotFound | joinTokenInvalid | memberTokenInvalid | notInRoom | roomFull | invalidMessage
  | internalError
  deriving DecidableEq

inductive ServiceErrorReason where
  | roomNotFound | joinTokenInvalid | memberTokenInvalid | notInRoom | roomFull | invalidMessage
  | roomResolutionUnconfirmed | internalError
  deriving DecidableEq

structure RoomServiceError where
  code : ErrorCode
  message : String
  reason : ServiceErrorReason
  /-- `details.reason`. -/
  detail : Option String := none
  deriving DecidableEq

inductive Err where
  | service (error : RoomServiceError)
  | store (fault : Fault)
  deriving DecidableEq

structure LogLine where
  event : String
  roomCode : Option Code := none
  session : Option SessionId := none
  reason : Option String := none
  deriving DecidableEq

inductive LeaveRoomReason where
  | clientRequest | disconnect
  deriving DecidableEq

inductive Settled where
  | deletion (outcome : RoomDeleteOutcome)
  | applied (applied : Bool)
  | scheduled (room : Option PersistedRoom)
  | finished
  | failed (fault : Fault)
  deriving DecidableEq

structure Effect where
  result : Option Settled := none
  confirmationTimedOut : Bool := false
  deriving DecidableEq

/-- Work that outlives the request that started it. -/
inductive Task where
  | scheduleExpiry (session : SessionId) (code : Code) (joinToken : Token) (version : Nat)
      (expiresAt : Time)
  | runOrphanExpiry (session : SessionId) (code : Code) (joinToken : Token) (reason : String)
  | collectExpiredRoom (code : Code)
  | teardown (code : Code) (expectedGeneration : Option Generation)
  deriving DecidableEq

/-- The messages of a socket that enter, leave or change a room. -/
inductive ClientMessage where
  | roomCreate (displayName : Option String)
  | roomJoin (code : Code) (joinToken : Token) (displayName : Option String)
      (memberToken : Option Token)
  | roomLeave
  | videoShare (memberToken : Token) (video : SharedVideo) (playback : Option PlaybackState)
  | playbackUpdate (memberToken : Token) (playback : PlaybackState)
  | profileUpdate (memberToken : Token) (displayName : String)
  | syncRequest (memberToken : Token)
  deriving DecidableEq

inductive Req where
  | create (session : SessionId) (displayName : Option String)
  | join (session : SessionId) (code : Code) (joinToken : Token) (displayName : Option String)
      (previousMemberToken : Option Token)
  | leave (session : SessionId) (reason : LeaveRoomReason)
  | share (session : SessionId) (memberToken : Token) (video : SharedVideo)
      (playback : Option PlaybackState)
  | updatePlayback (session : SessionId) (memberToken : Token) (playback : PlaybackState)
  | updateProfile (session : SessionId) (memberToken : Token) (displayName : String)
  | clearRoomVideo (node : NodeId) (code : Code)
  | deleteExpiredRooms (node : NodeId)
  | teardownRoomRuntime (node : NodeId) (code : Code)
  | effect (node : NodeId) (id : EffectId) (task : Task)
  /-- A message taken from a socket's queue. -/
  | message (session : SessionId) (message : ClientMessage)
  /-- What follows the close of a socket, once its queue drained or the wait for it ended. -/
  | cleanup (session : SessionId)
  deriving DecidableEq

structure Node where
  closing : Bool := false
  /-- The chain of `roomJoinLocks`: who waits for whom, per code. -/
  joinQueues : JsMap Code (List Ticket) := .empty
  expiredRoomCollectionEffects : JsMap Code EffectId := .empty
  pendingRuntimeTeardowns : JsMap Code RuntimeTeardownDebt := .empty
  runtimeTeardownEffects : JsMap (Code × Option Generation) EffectId := .empty
  playbackAuthorityByRoom : JsMap Code PlaybackAuthority := .empty
  lastAuthoritySweepAt : Time := 0

/-- A write whose caller was answered before it reached the store. -/
inductive LateWrite where
  | create (input : CreatePersistedRoomInput)
  | update (code : Code) (expected : RoomUpdateGuard) (patch : PersistedRoomPatch)
  | mark (code : Code) (generation : Generation) (expectedPrevious : Option Generation)
  deriving DecidableEq

structure World where
  clock : Time := 0
  roomStore : RoomStore := .empty
  runtime : RuntimeStore := {}
  orphanedIndexClaims : List OrphanedIndexClaim := []
  sessions : SessionId → Session := fun _ => {}
  nodes : NodeId → Node := fun _ => {}
  effects : JsMap EffectId Effect := .empty
  lateWrites : List LateWrite := []
  connectionCounts : Address → Nat := fun _ => 0
  /-- Tokens, generations, tickets, effects and debts are all drawn from here. -/
  fresh : Nat := 0
  log : List LogLine := []

inductive WaitBound where
  | unbounded
  | own
  /-- One cap shared by every waiter on the effect. -/
  | shared
  deriving DecidableEq

inductive Cmd where
  | now
  | isClosing (node : NodeId)
  | readSession (session : SessionId)
  | readTenures (members : List (MemberId × SessionId))
  | clearSessionRoom (session : SessionId)
  | setSessionRoom (session : SessionId) (joined : JoinedSessionSnapshot)
  | restoreJoinedSession (session : SessionId) (snapshot : JoinedSessionSnapshot)
  | setMemberId (session : SessionId) (memberId : MemberId)
  | setSessionDisplayName (session : SessionId) (displayName : Option String)
  | closeSocket (session : SessionId)
  | registerSession (session : SessionId)
  | unregisterSession (session : SessionId)
  | markSessionJoinedRoom (session : SessionId) (code : Code)
  | markSessionLeftRoom (session : SessionId) (code : Code)
  | decrementConnectionCount (session : SessionId)
  | generateToken
  | nextRoomCode
  | logEvent (line : LogLine)
  | getPlaybackAuthority (node : NodeId) (code : Code)
  | recordPlaybackAuthority (node : NodeId) (code : Code) (actorId : MemberId)
      (kind : PlaybackAuthorityKind) (source : PlaybackAuthoritySource)
  | createRoom (input : CreatePersistedRoomInput)
  | getRoom (code : Code)
  | updateRoom (code : Code) (expected : RoomUpdateGuard) (patch : PersistedRoomPatch)
  | deleteExpiredRoom (code : Code) (currentTime : Time)
  | deleteExpiredRooms (currentTime : Time)
  | acknowledgeOrphanedIndexClaims (claims : List OrphanedIndexClaim)
  | getActiveRoom (code : Code)
  | viewMembers (room : ActiveRoom)
  | addMember (code : Code) (memberId : MemberId) (session : SessionId) (memberToken : Token)
  | removeMember (code : Code) (memberId : MemberId) (session : SessionId)
  | flush
  | removalDurable
  | resolveActiveRoom (code : Code)
  | findMemberIdByToken (code : Code) (memberToken : Token)
  | isMemberTokenBlocked (code : Code) (memberToken : Token) (currentTime : Time)
  | revokeMemberToken (code : Code) (memberId : MemberId) (session : SessionId)
  | hasRoomResidue (code : Code)
  | getRoomGeneration (code : Code)
  | markRoomGeneration (code : Code) (generation : Generation)
      (expectedPrevious : Option Generation)
  | deleteRoomRuntime (code : Code) (expectedGeneration : Option Generation)
  | tryClaimMessageSlot (code : Code) (key : SlotKey) (token : Token) (expiresAt : Time)
  | releaseMessageSlot (code : Code) (key : SlotKey) (token : Token)
  | enterJoinQueue (node : NodeId) (code : Code)
  | awaitJoinTurn (node : NodeId) (code : Code) (ticket : Ticket)
  | leaveJoinQueue (node : NodeId) (code : Code) (ticket : Ticket)
  | acquireDistributedJoinLock (code : Code) (deadline : Time)
  | releaseRoomLock (code : Code) (token : Token)
  | track (node : NodeId) (task : Task)
  | getOrStartExpiredRoomCollection (node : NodeId) (code : Code)
  | awaitEffect (id : EffectId) (bound : WaitBound)
  | settleEffect (id : EffectId) (result : Settled)
  | settleExpiredRoomCollection (node : NodeId) (code : Code) (id : EffectId) (result : Settled)
  | pendingRuntimeTeardowns (node : NodeId)
  | rememberRuntimeTeardownDebt (node : NodeId) (code : Code)
  | forgetRuntimeTeardownDebt (node : NodeId) (code : Code)
  | runtimeTeardownDebt (node : NodeId) (code : Code)
  | startRuntimeTeardownEffect (node : NodeId) (code : Code)
      (expectedGeneration : Option Generation)
  | settleRuntimeTeardown (node : NodeId) (code : Code) (expectedGeneration : Option Generation)
      (id : EffectId) (result : Except Fault Bool)

namespace Cmd

/-- What the command answers. An awaited store call may answer with a fault instead. -/
abbrev Ans : Cmd → Type
  | now => Time
  | isClosing _ => Bool
  | readSession _ => Session
  | readTenures _ => List SharedVideoOwnerCandidate
  | clearSessionRoom _ | setSessionRoom .. | restoreJoinedSession .. | setMemberId ..
  | closeSocket _ | logEvent _ | recordPlaybackAuthority .. => Unit
  | registerSession _ | unregisterSession _ | decrementConnectionCount _ => Unit
  | markSessionJoinedRoom .. | markSessionLeftRoom .. => Except Fault Unit
  | setSessionDisplayName .. => Bool
  | generateToken => Token
  | nextRoomCode => Code
  | getPlaybackAuthority .. => Option PlaybackAuthority
  | createRoom _ => Except Fault PersistedRoom
  | getRoom _ => Except Fault (Option PersistedRoom)
  | updateRoom .. => Except Fault RoomUpdateResult
  | deleteExpiredRoom .. => Except Fault RoomDeleteOutcome
  | deleteExpiredRooms _ => Except Fault ExpiredRoomSweep
  | acknowledgeOrphanedIndexClaims _ => Except Fault Unit
  | getActiveRoom _ => Option ActiveRoom
  | viewMembers _ => JsMap MemberId SessionId
  | addMember .. => Except Fault Unit
  | removeMember .. => Except Fault Removal
  | flush => Except Fault Unit
  | removalDurable => Except Fault Unit
  | resolveActiveRoom _ => Except Fault (Option ActiveRoom)
  | findMemberIdByToken .. => Except Fault (Option MemberId)
  | isMemberTokenBlocked .. => Except Fault Bool
  | revokeMemberToken .. => Except Fault Unit
  | hasRoomResidue _ => Except Fault Bool
  | getRoomGeneration _ => Except Fault (Option Generation)
  | markRoomGeneration .. => Except Fault Bool
  | deleteRoomRuntime .. => Except Fault Bool
  | tryClaimMessageSlot .. => Except Fault Bool
  | releaseMessageSlot .. => Except Fault Bool
  | enterJoinQueue .. => Ticket
  | awaitJoinTurn .. => Unit
  | leaveJoinQueue .. => Unit
  | acquireDistributedJoinLock .. => Except Fault (Option JoinAdmissionLock)
  | releaseRoomLock .. => Except Fault Bool
  | track .. => EffectId
  | getOrStartExpiredRoomCollection .. => EffectId
  | awaitEffect .. => Option Settled
  | settleEffect .. | settleExpiredRoomCollection .. => Unit
  | pendingRuntimeTeardowns _ => List (Code × RuntimeTeardownDebt)
  | rememberRuntimeTeardownDebt .. | forgetRuntimeTeardownDebt .. => Unit
  | runtimeTeardownDebt .. => Option RuntimeTeardownDebt
  | startRuntimeTeardownEffect .. => EffectId
  | settleRuntimeTeardown .. => Unit

/-- Commands that are not awaited: they complete within one synchronous stretch. -/
def sync : Cmd → Bool
  | markSessionJoinedRoom .. | markSessionLeftRoom ..
  | createRoom _ | getRoom _ | updateRoom .. | deleteExpiredRoom .. | deleteExpiredRooms _
  | acknowledgeOrphanedIndexClaims _ | flush | removalDurable | resolveActiveRoom _
  | findMemberIdByToken .. | isMemberTokenBlocked .. | revokeMemberToken .. | hasRoomResidue _
  | getRoomGeneration _ | markRoomGeneration .. | deleteRoomRuntime .. | tryClaimMessageSlot ..
  | releaseMessageSlot .. | awaitJoinTurn .. | acquireDistributedJoinLock ..
  | releaseRoomLock .. | awaitEffect .. => false
  | _ => true

end Cmd

end BiliSyncPlay
