import BiliSyncPlay.Service.Machine

/-!
# The protocol of rooms

What a call is in the middle of, as far as records, seats and sessions are concerned: a leave
that has given up its seat and not yet judged the room, a join that has brought the record up to
date and not yet taken its seat. The claims about interleavings are proved of these phases; the
programs are shown to follow them.
-/

namespace BiliSyncPlay

open Interleave

/-- What a session object says of where it sits. -/
structure Standing where
  roomCode : Option Code
  memberId : Option MemberId

def Session.standing (session : Session) : Standing := ⟨session.roomCode, session.memberId⟩

inductive LeaveStage where
  | begun
  /-- The seat is given up; the record has not been read since. -/
  | vacated
  | read (room : PersistedRoom)
  | viewed (room : PersistedRoom) (shared : ActiveRoom)
  /-- Nobody else was seated at the record this leave read. -/
  | judged (room : PersistedRoom)
  /-- In the `catch`, after a look at the socket. -/
  | recovering (socketOpen : Bool)
  /-- The seat is put back, the session not yet. -/
  | restored
  | returned
  | over

inductive JoinStage where
  | queued
  | turn
  | read (room : PersistedRoom)
  | resolved (room : PersistedRoom) (shared : ActiveRoom) (reconnect : Option MemberId)
  | viewed (room : PersistedRoom) (memberId : MemberId) (members : JsMap MemberId SessionId)
  /-- The record is up to date and kept alive; the seat is owed. -/
  | admitted (memberId : MemberId)
  | seated (memberId : MemberId)
  | entered (memberId : MemberId)
  | undone (memberId : MemberId)
  | readded (memberId : MemberId)

inductive CreateStage where
  | founding
  | minted (joinToken : Token)
  | founded (room : PersistedRoom)
  | named (room : PersistedRoom) (generation : Generation)
  | stamped (room : PersistedRoom)
  | seated (room : PersistedRoom)
  | live (room : PersistedRoom)
  /-- A record that exists, or may, and does not go live: a rollback is owed. -/
  | orphaned (code : Code) (joinToken : Token)
  /-- No rollback any more, only a line in the log. -/
  | muted (code : Code) (joinToken : Token)
  | reported (code : Code) (joinToken : Token)
  | handedOver (code : Code) (joinToken : Token)

inductive CollectStage where
  | idle
  | live (code : Code)
  | pinned (code : Code) (generation : Option Generation)
  | absent (code : Code) (generation : Option Generation)
  | confirmed (code : Code) (generation : Option Generation)

inductive Phase where
  | outside (s : SessionId) (seen : Option Standing)
  | leaving (s : SessionId) (member : Option MemberId) (code : Code) (stage : LeaveStage)
  | joining (s : SessionId) (node : NodeId) (code : Code) (ticket : Ticket) (stage : JoinStage)
  | creating (s : SessionId) (stage : CreateStage)
  /-- A closed session, out of the registry. -/
  | gone (s : SessionId) (released : Bool)
  /-- A creation that settled. -/
  | past (stage : CreateStage)
  | clearing
  | scheduling (id : EffectId) (code : Code) (joinToken : Token) (version : Nat)
  | rollingBack (id : EffectId) (code : Code) (joinToken : Token)
  | settling (id : EffectId)
  | expiring (node : NodeId) (id : EffectId) (code : Code)
  | collecting (owner : Option (NodeId × Code × EffectId)) (stage : CollectStage)
  | tearing (node : NodeId) (code : Code) (generation : Option Generation) (id : EffectId)
  | torn (node : NodeId) (code : Code) (generation : Option Generation) (id : EffectId)
      (result : Except Fault Bool)
  | settled

/-- The members a leave counts: everyone but itself. -/
def othersOf (member : Option MemberId) (s : SessionId) (members : JsMap MemberId SessionId) :
    List (MemberId × SessionId) :=
  members.entries.filter fun e => e ≠ (member.getD s, s)

/-- Whether a leave in this stage owes the room nothing any more. A record that already counts
down owes nothing. -/
@[simp] def LeaveStage.Discharged : LeaveStage → Prop
  | .vacated | .viewed .. | .judged _ => False
  | .read room => room.expiresAt.isSome = true
  | _ => True

/-- The seat is given up and not taken back. -/
@[simp] def LeaveStage.Out : LeaveStage → Prop
  | .begun | .restored | .returned | .recovering true => False
  | _ => True

namespace Phase

/-- The session whose call this is, while it is under way. -/
@[simp] def session? : Phase → Option SessionId
  | .outside s _ | .leaving s _ _ _ | .joining s _ _ _ _ | .creating s _ => some s
  | _ => none

@[simp] def onReadSession (φ : Phase) (session : Session) : Phase :=
  match φ with
  | .outside s _ | .leaving s _ _ .begun | .leaving s _ _ .restored | .leaving s _ _ .returned
  | .creating s (.live _) => .outside s (some session.standing)
  | .leaving s m code _ => .leaving s m code (.recovering session.socketOpen)
  | _ => φ

@[simp] def onClearSessionRoom (φ : Phase) : Phase :=
  match φ with
  | .outside s _ => .outside s (some ⟨none, none⟩)
  | .leaving s m code .begun => .leaving s m code .vacated
  | _ => φ

@[simp] def onSetSessionRoom (φ : Phase) : Phase :=
  match φ with
  | .joining s n code ticket (.seated m) => .joining s n code ticket (.entered m)
  | .creating s (.seated room) => .creating s (.live room)
  | _ => φ

@[simp] def onRestoreJoinedSession (φ : Phase) : Phase :=
  match φ with
  | .leaving s m code .restored => .leaving s m code .returned
  | _ => φ

@[simp] def onMarkSessionJoinedRoom (φ : Phase) : Phase :=
  match φ with
  | .outside s _ => .outside s none
  | _ => φ

@[simp] def onMarkSessionLeftRoom (φ : Phase) (code : Code) : Phase :=
  match φ with
  | .outside s (some st) => if st.roomCode = some code then .outside s none else φ
  | _ => φ

@[simp] def onUnregisterSession (φ : Phase) : Phase :=
  match φ with
  | .outside s _ | .leaving s _ _ _ => .gone s false
  | _ => φ

@[simp] def onDecrementConnectionCount (φ : Phase) : Phase :=
  match φ with
  | .gone s _ => .gone s true
  | _ => φ

@[simp] def onGenerateToken (φ : Phase) (token : Token) : Phase :=
  match φ with
  | .creating s .founding => .creating s (.minted token)
  | .creating s (.founded room) => .creating s (.named room token)
  | _ => φ

@[simp] def onNextRoomCode (φ : Phase) : Phase :=
  match φ with
  | .outside s _ | .leaving s _ _ _ => .creating s .founding
  | _ => φ

@[simp] def onLogEvent (φ : Phase) (line : LogLine) : Phase :=
  match φ with
  | .rollingBack id _ _ => .settling id
  | .creating s (.muted code joinToken) =>
    if line.event = "room_rollback_failed" ∧ line.roomCode = some code then
      .creating s (.reported code joinToken)
    else φ
  | _ => φ

@[simp] def onIsClosing (φ : Phase) (closing : Bool) : Phase :=
  match φ, closing with
  | .leaving s m code (.judged _), true => .leaving s m code .over
  | .creating s (.orphaned code joinToken), true => .creating s (.muted code joinToken)
  | _, _ => φ

@[simp] def onCreateRoom (φ : Phase) (input : CreatePersistedRoomInput)
    (result : Except Fault PersistedRoom) : Phase :=
  match φ with
  | .creating s (.minted _) =>
    match result with
    | .ok room => .creating s (.founded room)
    | .error (.timeout _) => .creating s (.orphaned input.code input.joinToken)
    | .error _ => .creating s .founding
  | _ => φ

@[simp] def onGetRoom (φ : Phase) (code : Code) (found : Except Fault (Option PersistedRoom)) : Phase :=
  match φ with
  | .leaving s m c .vacated | .leaving s m c (.read _) =>
    match found with
    | .ok (some room) => .leaving s m c (.read room)
    | .ok none => .leaving s m c .over
    | .error _ => φ
  | .joining s n c ticket .turn | .joining s n c ticket (.read _) =>
    match found with
    | .ok (some room) => .joining s n c ticket (.read room)
    | _ => .joining s n c ticket .turn
  | .joining s n c ticket (.viewed room m _) =>
    match found with
    | .ok (some latest) =>
      if latest.version = room.version then .joining s n c ticket (.admitted m)
      else .joining s n c ticket .turn
    | _ => .joining s n c ticket .turn
  | .collecting owner stage =>
    match found, stage with
    | .ok none, .pinned c g =>
      if code = c then .collecting owner (.absent c g) else .collecting owner .idle
    | .ok (some _), _ => .collecting owner (.live code)
    | _, _ => .collecting owner .idle
  | _ => φ

@[simp] def onUpdateRoom (φ : Phase) (result : Except Fault RoomUpdateResult) : Phase :=
  match φ with
  | .joining s n code ticket (.viewed _ m _) =>
    match result with
    | .ok (.ok _) => .joining s n code ticket (.admitted m)
    | _ => .joining s n code ticket .turn
  | .scheduling id _ _ _ => .settling id
  | .rollingBack id _ _ =>
    match result with
    | .ok (.ok _) | .ok (.refused .notFound) => .settling id
    | _ => φ
  | _ => φ

@[simp] def onDeleteExpiredRoom (φ : Phase) : Phase :=
  match φ with
  | .expiring n id code => .collecting (some (n, code, id)) .idle
  | _ => φ

@[simp] def onGetActiveRoom (φ : Phase) (code : Code) : Phase :=
  match φ with
  | .outside s (some st) => if st.roomCode = some code then .leaving s st.memberId code .begun else φ
  | _ => φ

@[simp] def onViewMembers (φ : Phase) (members : JsMap MemberId SessionId) : Phase :=
  match φ with
  | .leaving s m code (.viewed room _) =>
    if (othersOf m s members).length = 0 then .leaving s m code (.judged room)
    else .leaving s m code .over
  | .joining s n code ticket (.resolved room _ reconnect) =>
    .joining s n code ticket (.viewed room (reconnect.getD s) members)
  | _ => φ

@[simp] def onAddMember (φ : Phase) (result : Except Fault Unit) : Phase :=
  match φ, result with
  | .leaving s m code (.recovering _), .ok _ => .leaving s m code .restored
  | .joining s n code ticket (.admitted m), .ok _ => .joining s n code ticket (.seated m)
  | .joining s n code ticket (.undone m), .ok _ => .joining s n code ticket (.readded m)
  | .creating s (.stamped room), .ok _ => .creating s (.seated room)
  | _, _ => φ

@[simp] def onRemoveMember (φ : Phase) (result : Except Fault Removal) : Phase :=
  match φ, result with
  | .leaving s m code .begun, .ok _ => .leaving s m code .vacated
  | .joining s n code ticket (.seated m), .ok _ => .joining s n code ticket (.undone m)
  | _, _ => φ

@[simp] def onResolveActiveRoom (φ : Phase) (found : Except Fault (Option ActiveRoom)) : Phase :=
  match φ with
  | .leaving s m code (.read room) =>
    match found with
    | .ok (some shared) => .leaving s m code (.viewed room shared)
    | .ok none => .leaving s m code (.judged room)
    | .error _ => .leaving s m code .over
  | .joining s n code ticket (.read room) =>
    match found with
    | .ok (some shared) => .joining s n code ticket (.resolved room shared none)
    | .ok none => .joining s n code ticket (.viewed room s .empty)
    | .error _ => .joining s n code ticket .turn
  | _ => φ

@[simp] def onFindMemberIdByToken (φ : Phase) (found : Except Fault (Option MemberId)) : Phase :=
  match φ with
  | .joining s n code ticket (.resolved room shared _) =>
    match found with
    | .ok m => .joining s n code ticket (.resolved room shared m)
    | .error _ => .joining s n code ticket .turn
  | _ => φ

@[simp] def onGetRoomGeneration (φ : Phase) (code : Code) (found : Except Fault (Option Generation)) :
    Phase :=
  match φ with
  | .creating s (.founded room) =>
    match found with
    | .ok _ => φ
    | .error _ => .creating s (.orphaned room.code room.joinToken)
  | .collecting owner stage =>
    match found, stage with
    | .ok g, .absent c g' =>
      if code = c ∧ g = g' then .collecting owner (.confirmed c g) else .collecting owner .idle
    | .ok g, _ => .collecting owner (.pinned code g)
    | .error _, _ => .collecting owner .idle
  | _ => φ

@[simp] def onMarkRoomGeneration (φ : Phase) (result : Except Fault Bool) : Phase :=
  match φ with
  | .creating s (.named room _) =>
    match result with
    | .ok true => .creating s (.stamped room)
    | _ => .creating s (.orphaned room.code room.joinToken)
  | _ => φ

@[simp] def onDeleteRoomRuntime (φ : Phase) (result : Except Fault Bool) : Phase :=
  match φ with
  | .tearing n code g id => .torn n code g id result
  | _ => φ

@[simp] def onEnterJoinQueue (φ : Phase) (n : NodeId) (code : Code) (ticket : Ticket) : Phase :=
  match φ with
  | .outside s _ | .leaving s _ _ _ => .joining s n code ticket .queued
  | _ => φ

@[simp] def onAwaitJoinTurn (φ : Phase) : Phase :=
  match φ with
  | .joining s n code ticket .queued => .joining s n code ticket .turn
  | _ => φ

@[simp] def onLeaveJoinQueue (φ : Phase) : Phase :=
  match φ with
  | .joining s _ code _ (.entered m) => .outside s (some ⟨some code, some m⟩)
  | .joining s _ _ _ _ => .outside s none
  | _ => φ

@[simp] def onTrack (φ : Phase) : Phase :=
  match φ with
  | .leaving s m code (.judged _) => .leaving s m code .over
  | .creating s (.orphaned code joinToken) => .creating s (.handedOver code joinToken)
  | _ => φ

/-- A collector that started a teardown, or dropped a debt, is done with the code. -/
@[simp] def onCollected (φ : Phase) : Phase :=
  match φ with
  | .collecting owner _ => .collecting owner .idle
  | _ => φ

@[simp] def onSettled (φ : Phase) : Phase :=
  match φ with
  | .settling _ | .collecting (some _) _ | .torn .. => .settled
  | _ => φ

@[simp] def after (φ : Phase) : (c : Cmd) → c.Ans → Phase
  | .readSession _, session => φ.onReadSession session
  | .clearSessionRoom _, _ => φ.onClearSessionRoom
  | .setSessionRoom .., _ => φ.onSetSessionRoom
  | .restoreJoinedSession .., _ => φ.onRestoreJoinedSession
  | .markSessionJoinedRoom .., _ => φ.onMarkSessionJoinedRoom
  | .markSessionLeftRoom _ code, _ => φ.onMarkSessionLeftRoom code
  | .unregisterSession _, _ => φ.onUnregisterSession
  | .decrementConnectionCount _, _ => φ.onDecrementConnectionCount
  | .generateToken, token => φ.onGenerateToken token
  | .nextRoomCode, _ => φ.onNextRoomCode
  | .logEvent line, _ => φ.onLogEvent line
  | .isClosing _, closing => φ.onIsClosing closing
  | .createRoom input, result => φ.onCreateRoom input result
  | .getRoom code, found => φ.onGetRoom code found
  | .updateRoom .., result => φ.onUpdateRoom result
  | .deleteExpiredRoom .., _ => φ.onDeleteExpiredRoom
  | .getActiveRoom code, _ => φ.onGetActiveRoom code
  | .viewMembers _, members => φ.onViewMembers members
  | .addMember .., result => φ.onAddMember result
  | .removeMember .., result => φ.onRemoveMember result
  | .resolveActiveRoom _, found => φ.onResolveActiveRoom found
  | .findMemberIdByToken .., found => φ.onFindMemberIdByToken found
  | .getRoomGeneration code, found => φ.onGetRoomGeneration code found
  | .markRoomGeneration .., result => φ.onMarkRoomGeneration result
  | .deleteRoomRuntime .., result => φ.onDeleteRoomRuntime result
  | .enterJoinQueue n code, ticket => φ.onEnterJoinQueue n code ticket
  | .awaitJoinTurn .., _ => φ.onAwaitJoinTurn
  | .leaveJoinQueue .., _ => φ.onLeaveJoinQueue
  | .track .., _ => φ.onTrack
  | .forgetRuntimeTeardownDebt .., _ => φ.onCollected
  | .startRuntimeTeardownEffect .., _ => φ.onCollected
  | .settleEffect .., _ => φ.onSettled
  | .settleExpiredRoomCollection .., _ => φ.onSettled
  | .settleRuntimeTeardown .., _ => φ.onSettled
  | _, _ => φ

end Phase

/-- The commands that can move a call to another phase. -/
def Cmd.moves : Cmd → Bool
  | .readSession _ | .clearSessionRoom _ | .setSessionRoom .. | .restoreJoinedSession ..
  | .markSessionJoinedRoom .. | .markSessionLeftRoom .. | .unregisterSession _
  | .decrementConnectionCount _ | .generateToken | .nextRoomCode | .logEvent _ | .isClosing _
  | .createRoom _ | .getRoom _ | .updateRoom .. | .deleteExpiredRoom .. | .getActiveRoom _
  | .viewMembers _ | .addMember .. | .removeMember .. | .resolveActiveRoom _
  | .findMemberIdByToken .. | .getRoomGeneration _ | .markRoomGeneration ..
  | .deleteRoomRuntime .. | .enterJoinQueue .. | .awaitJoinTurn .. | .leaveJoinQueue ..
  | .track .. | .forgetRuntimeTeardownDebt .. | .startRuntimeTeardownEffect ..
  | .settleEffect .. | .settleExpiredRoomCollection .. | .settleRuntimeTeardown .. => true
  | _ => false

theorem Phase.after_of_still {c : Cmd} (h : c.moves = false) (φ : Phase) (a : c.Ans) :
    φ.after c a = φ := by
  cases c <;> first | rfl | cases h

/-- The kinds of calls, as far as phases tell them apart. -/
inductive Family where
  | session | past | clearing | expiry | collection | teardown | settled
  deriving DecidableEq

def Phase.family : Phase → Family
  | .outside .. | .leaving .. | .joining .. | .creating .. | .gone .. => .session
  | .past _ => .past
  | .clearing => .clearing
  | .scheduling .. | .rollingBack .. | .settling _ => .expiry
  | .expiring .. | .collecting .. => .collection
  | .tearing .. | .torn .. => .teardown
  | .settled => .settled

/-- A call stays one of its kind until it settles. -/
theorem family_after (φ : Phase) (c : Cmd) (a : c.Ans) :
    (φ.after c a).family = φ.family ∨ (φ.after c a).family = .settled := by
  by_cases moves : c.moves = true
  · cases c <;> first
    | (cases moves; done)
    | (simp only [Phase.after, Phase.onReadSession, Phase.onClearSessionRoom, Phase.onSetSessionRoom,
         Phase.onRestoreJoinedSession, Phase.onMarkSessionJoinedRoom, Phase.onMarkSessionLeftRoom,
         Phase.onUnregisterSession, Phase.onDecrementConnectionCount, Phase.onGenerateToken,
         Phase.onNextRoomCode, Phase.onLogEvent, Phase.onIsClosing, Phase.onCreateRoom,
         Phase.onGetRoom, Phase.onUpdateRoom, Phase.onDeleteExpiredRoom, Phase.onGetActiveRoom,
         Phase.onViewMembers, Phase.onAddMember, Phase.onRemoveMember, Phase.onResolveActiveRoom,
         Phase.onFindMemberIdByToken, Phase.onGetRoomGeneration, Phase.onMarkRoomGeneration,
         Phase.onDeleteRoomRuntime, Phase.onEnterJoinQueue, Phase.onAwaitJoinTurn,
         Phase.onLeaveJoinQueue, Phase.onTrack, Phase.onCollected, Phase.onSettled]
       repeat' split
       all_goals first | exact .inl rfl | exact .inr rfl)
  · rw [Phase.after_of_still (by simpa using moves)]
    exact .inl rfl

end BiliSyncPlay
