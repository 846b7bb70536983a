import Mathlib.Data.List.Basic
import Mathlib.Logic.Relation

/-!
# The room session of the extension

The background's record of the room it is in, the requests of its user, the messages of the server,
and the handlers of both, which do not wait for one another. A handler runs up to its first `await`
in one step, and what is left of it is a task that resumes at any later time.
-/

namespace BiliSyncPlay.RoomSession

abbrev RoomCode := String
abbrev JoinToken := String
abbrev MemberToken := String
abbrev MemberId := String

/-- A URL as `normalizeUrl` leaves it. -/
abbrev Url := String

structure RoomMember where
  id : MemberId
  name : String
  deriving DecidableEq

/-- The state of a room, without its playback. -/
structure RoomState where
  roomCode : RoomCode
  sharedUrl : Option Url
  members : List RoomMember
  deriving DecidableEq

/-- A room state as an object: no two that are assigned to the session have one version. -/
structure Snapshot where
  version : Nat
  state : RoomState
  deriving DecidableEq

inductive Change where
  | joined | left
  deriving DecidableEq

structure MemberDelta where
  change : Change
  roomCode : RoomCode
  member : RoomMember
  deriving DecidableEq

def applyMemberDelta (currentState : RoomState) (delta : MemberDelta) : RoomState :=
  if currentState.roomCode ≠ delta.roomCode then currentState
  else match delta.change with
    | .left =>
      let members := currentState.members.filter fun candidate =>
        decide (candidate.id ≠ delta.member.id)
      { currentState with members }
    | .joined =>
      let existingMemberIndex := currentState.members.findIdx? fun candidate =>
        decide (candidate.id = delta.member.id)
      let members := match existingMemberIndex with
        | none => currentState.members ++ [delta.member]
        | some index => currentState.members.set index delta.member
      { currentState with members }

theorem roomCode_applyMemberDelta (state : RoomState) (delta : MemberDelta) :
    (applyMemberDelta state delta).roomCode = state.roomCode := by
  unfold applyMemberDelta
  split
  · rfl
  · split <;> rfl

theorem roomCode_foldl (deltas : List MemberDelta) (state : RoomState) :
    (deltas.foldl applyMemberDelta state).roomCode = state.roomCode := by
  induction deltas generalizing state with
  | nil => rfl
  | cons delta rest ih => rw [List.foldl_cons, ih, roomCode_applyMemberDelta]

/-! ## Messages -/

inductive ErrorCode where
  | roomNotFound | joinTokenInvalid | invalidMessage | unsupportedProtocolVersion
  | memberTokenInvalid | other
  deriving DecidableEq

inductive ServerMessage where
  | created (roomCode : RoomCode) (joinToken : JoinToken) (memberToken : MemberToken)
    (memberId : MemberId)
  | joined (roomCode : RoomCode) (memberToken : MemberToken) (memberId : MemberId)
  | state (state : RoomState)
  | member (delta : MemberDelta)
  | error (code : ErrorCode)

inductive ClientMessage where
  | create
  | join (roomCode : RoomCode) (joinToken : JoinToken) (memberToken : Option MemberToken)
  | leave (memberToken : Option MemberToken)
  deriving DecidableEq

/-! ## The background -/

structure RoomSessionState where
  roomCode : Option RoomCode := none
  joinToken : Option JoinToken := none
  memberToken : Option MemberToken := none
  memberId : Option MemberId := none
  roomState : Option Snapshot := none
  pendingCreateRoom : Bool := false
  pendingJoinRoomCode : Option RoomCode := none
  pendingJoinToken : Option JoinToken := none
  pendingJoinRequestSent : Bool := false
  deriving DecidableEq

/-- What is left of a handler that waits. -/
inductive Task where
  /-- To send the snapshot to the content scripts, if it is still the session's and, after a
  bootstrap timeout, no other wait has begun. -/
  | delivers (snapshot : Snapshot) (generation : Option Nat)
  | creates
  | joins
  | rejects (code : ErrorCode)
  deriving DecidableEq

structure Background where
  session : RoomSessionState := {}
  connected : Bool := false
  pendingLocalShareUrl : Option Url := none
  pendingMemberDeltas : List MemberDelta := []
  waitingForBootstrapRoomState : Bool := false
  bootstrapRoomStateGeneration : Nat := 0
  bootstrapRoomStateTimer : Option Nat := none
  tasks : List Task := []
  /-- How many room states were assigned to the session. -/
  versions : Nat := 0
  /-- What was sent to the server, and to the content scripts, the latest last. -/
  sent : List ClientMessage := []
  delivered : List Snapshot := []
  deriving DecidableEq

/-- A string that counts as true. -/
def truthy (text : Option String) : Bool := text.any fun text => decide (text ≠ "")

namespace Background

def send (s : Background) (message : ClientMessage) : Background :=
  { s with sent := s.sent ++ [message] }

def start (s : Background) (task : Task) : Background := { s with tasks := s.tasks ++ [task] }

def assignRoomState (s : Background) (state : RoomState) : Background :=
  { s with
    session := { s.session with
      roomState := some { version := s.versions, state }
      roomCode := some state.roomCode }
    versions := s.versions + 1 }

/-- The deltas of the room that are queued. -/
def queued (s : Background) (roomCode : RoomCode) : List MemberDelta :=
  s.pendingMemberDeltas.filter fun delta => decide (delta.roomCode = roomCode)

/-- What `consumePendingMemberDeltas` makes of a state. -/
def resolve (s : Background) (nextState : RoomState) : RoomState :=
  (s.queued nextState.roomCode).foldl applyMemberDelta nextState

theorem roomCode_resolve (s : Background) (state : RoomState) :
    (s.resolve state).roomCode = state.roomCode := roomCode_foldl _ state

def clearPendingMemberDeltas (s : Background) : Background := { s with pendingMemberDeltas := [] }

def clearPendingMemberDeltasForRoom (s : Background) (roomCode : RoomCode) : Background :=
  { s with
    pendingMemberDeltas :=
      s.pendingMemberDeltas.filter fun delta => decide (delta.roomCode ≠ roomCode) }

def clearPendingMemberDeltasExceptRoom (s : Background) (roomCode : RoomCode) : Background :=
  { s with pendingMemberDeltas := s.queued roomCode }

def isAwaitingRoomBootstrapFor (s : Background) (roomCode : RoomCode) : Bool :=
  (s.waitingForBootstrapRoomState && decide (s.session.roomCode = some roomCode)) ||
    (s.session.pendingJoinRequestSent &&
      (decide (s.session.roomCode = some roomCode) ||
        decide (s.session.pendingJoinRoomCode = some roomCode)))

def stopWaitingForBootstrapRoomState (s : Background) : Background :=
  { s with
    waitingForBootstrapRoomState := false
    bootstrapRoomStateGeneration := s.bootstrapRoomStateGeneration + 1
    bootstrapRoomStateTimer := none }

def startWaitingForBootstrapRoomState (s : Background) : Background :=
  let s := s.stopWaitingForBootstrapRoomState
  let generation := s.bootstrapRoomStateGeneration + 1
  { s with
    waitingForBootstrapRoomState := true
    bootstrapRoomStateGeneration := generation
    bootstrapRoomStateTimer := some generation }

def expireBootstrapRoomStateWait (s : Background) (generation : Nat) : Background :=
  if !s.waitingForBootstrapRoomState || decide (generation ≠ s.bootstrapRoomStateGeneration) then s
  else
    let s := { s with waitingForBootstrapRoomState := false }
    match s.session.roomCode.filter fun roomCode => decide (roomCode ≠ "") with
    | none => s.clearPendingMemberDeltas
    | some roomCode =>
      if s.pendingMemberDeltas.any fun delta => decide (delta.roomCode = roomCode) then
        match s.session.roomState with
        | none => s.clearPendingMemberDeltasForRoom roomCode
        | some current =>
          if current.state.roomCode ≠ roomCode then s.clearPendingMemberDeltasForRoom roomCode
          else
            let snapshot : Snapshot := { version := s.versions, state := s.resolve current.state }
            ((s.clearPendingMemberDeltasForRoom roomCode).assignRoomState snapshot.state).start
              (.delivers snapshot (some generation))
      else s

def sendJoinRequest (s : Background) (roomCode : RoomCode) (joinToken : JoinToken) : Background :=
  { s with session := { s.session with pendingJoinRequestSent := true } }.send
    (.join roomCode joinToken s.session.memberToken)

/-! ### Messages of the server -/

def handleCreated (s : Background) (roomCode : RoomCode) (joinToken : JoinToken)
    (memberToken : MemberToken) (memberId : MemberId) : Background :=
  let s := s.clearPendingMemberDeltas.startWaitingForBootstrapRoomState
  { s with
    session := { s.session with
      pendingJoinRoomCode := none
      pendingJoinToken := none
      roomCode := some roomCode
      joinToken := some joinToken
      memberToken := some memberToken
      memberId := some memberId } }

def handleJoined (s : Background) (roomCode : RoomCode) (memberToken : MemberToken)
    (memberId : MemberId) : Background :=
  let s := (s.clearPendingMemberDeltasExceptRoom roomCode).startWaitingForBootstrapRoomState
  { s with
    session := { s.session with
      roomCode := some roomCode
      joinToken := s.session.pendingJoinToken.or s.session.joinToken
      memberToken := some memberToken
      memberId := some memberId
      pendingJoinRequestSent := false
      pendingJoinRoomCode := none
      pendingJoinToken := none } }

/-- While a share of this browser waits for its confirmation, a room state without it is stale. -/
def isStale (s : Background) (nextState : RoomState) : Bool :=
  s.pendingLocalShareUrl.any fun url => decide (url ≠ "" ∧ nextState.sharedUrl ≠ some url)

def handleRoomStateMessage (s : Background) (nextState : RoomState) : Background :=
  if s.isStale nextState then s
  else
    let confirmed := s.pendingLocalShareUrl.any fun url => decide (nextState.sharedUrl = some url)
    let snapshot : Snapshot := { version := s.versions, state := s.resolve nextState }
    let s := (s.clearPendingMemberDeltasForRoom nextState.roomCode).stopWaitingForBootstrapRoomState
    let s := s.assignRoomState snapshot.state
    { s with
      pendingLocalShareUrl := if confirmed then none else s.pendingLocalShareUrl }.start
      (.delivers snapshot none)

def applyRoomMemberState (s : Background) (nextState : RoomState) : Background :=
  (s.assignRoomState nextState).start (.delivers { version := s.versions, state := nextState } none)

/-- `handleRoomMemberJoined` and `handleRoomMemberLeft`. -/
def handleRoomMember (s : Background) (delta : MemberDelta) : Background :=
  if s.isAwaitingRoomBootstrapFor delta.roomCode then
    { s with pendingMemberDeltas := s.pendingMemberDeltas ++ [delta] }
  else match s.session.roomState with
    | none => s
    | some current =>
      if current.state.roomCode ≠ delta.roomCode then s
      else s.applyRoomMemberState (applyMemberDelta current.state delta)

/-- What create, join and leave requests and a cleared context have in common. -/
def forgetRoom (s : Background) : Background :=
  let s := s.clearPendingMemberDeltas.stopWaitingForBootstrapRoomState
  { s with
    session := { s.session with
      roomCode := none
      joinToken := none
      memberToken := none
      memberId := none
      roomState := none }
    pendingLocalShareUrl := none }

def clearCurrentRoomContext (s : Background) : Background :=
  let s := s.forgetRoom
  { s with
    session := { s.session with
      pendingCreateRoom := false
      pendingJoinRoomCode := none
      pendingJoinToken := none
      pendingJoinRequestSent := false } }

/-- The rest of the handler of an error, once a join that failed is dealt with. -/
def handleRejection (s : Background) (code : ErrorCode) : Background :=
  let ofRoom := decide
    (code = .roomNotFound ∨ code = .joinTokenInvalid ∨ code = .unsupportedProtocolVersion)
  if truthy s.session.roomCode && !truthy s.session.pendingJoinRoomCode && ofRoom then
    s.clearCurrentRoomContext
  else if code = .memberTokenInvalid then
    { s with session := { s.session with memberToken := none } }
  else s

def handleError (s : Background) (code : ErrorCode) : Background :=
  let ofJoin := decide (code = .roomNotFound ∨ code = .joinTokenInvalid ∨ code = .invalidMessage ∨
    code = .unsupportedProtocolVersion)
  if truthy s.session.pendingJoinRoomCode && ofJoin then
    let s := s.stopWaitingForBootstrapRoomState
    { s with
      session := { s.session with
        pendingJoinRequestSent := false
        pendingJoinRoomCode := none
        pendingJoinToken := none
        roomCode := none
        joinToken := none
        memberToken := none
        memberId := none
        roomState := none } }.start (.rejects code)
  else s.handleRejection code

def handleServerMessage (s : Background) : ServerMessage → Background
  | .created roomCode joinToken memberToken memberId =>
    s.handleCreated roomCode joinToken memberToken memberId
  | .joined roomCode memberToken memberId => s.handleJoined roomCode memberToken memberId
  | .state nextState => s.handleRoomStateMessage nextState
  | .member delta => s.handleRoomMember delta
  | .error code => s.handleError code

/-! ### Requests of the user -/

def requestCreateRoom (s : Background) : Background :=
  let s := s.forgetRoom
  { s with
    session := { s.session with
      pendingJoinRoomCode := none
      pendingJoinToken := none } }.start .creates

/-- The code is in upper case, and neither text has blanks around it. -/
def requestJoinRoom (s : Background) (roomCode : RoomCode) (joinToken : JoinToken) : Background :=
  let s := s.forgetRoom
  { s with
    session := { s.session with
      pendingCreateRoom := false
      pendingJoinRoomCode := some roomCode
      pendingJoinToken := some joinToken
      pendingJoinRequestSent := false } }.start .joins

def requestLeaveRoom (s : Background) : Background :=
  let s := if s.connected then s.send (.leave s.session.memberToken) else s
  let s := s.forgetRoom
  { s with
    session := { s.session with
      pendingJoinRoomCode := none
      pendingJoinToken := none
      pendingJoinRequestSent := false
      pendingCreateRoom := false }
    connected := false }

/-! ### Tasks and the socket -/

/-- The join that waits, sent unless it was. -/
def sendPendingJoin (s : Background) : Background :=
  match s.session.pendingJoinRoomCode, s.session.pendingJoinToken with
  | some roomCode, some joinToken =>
    if roomCode ≠ "" && joinToken ≠ "" && !s.session.pendingJoinRequestSent then
      s.sendJoinRequest roomCode joinToken
    else s
  | _, _ => s

def resume (s : Background) : Task → Background
  | .delivers snapshot generation =>
    if s.session.roomState.map (·.version) = some snapshot.version ∧
        generation.all fun generation => decide (generation = s.bootstrapRoomStateGeneration) then
      { s with delivered := s.delivered ++ [snapshot] }
    else s
  | .creates =>
    if s.connected then
      { s with session := { s.session with pendingCreateRoom := false } }.send .create
    else { s with session := { s.session with pendingCreateRoom := true } }
  | .joins => if s.connected then s.sendPendingJoin else s
  | .rejects code => s.handleRejection code

def hasPendingJoin (s : Background) : Bool :=
  truthy s.session.pendingJoinRoomCode && truthy s.session.pendingJoinToken &&
    !s.session.pendingJoinRequestSent

def rejoin (s : Background) : Background :=
  match s.session.roomCode, s.session.joinToken with
  | some roomCode, some joinToken =>
    if roomCode ≠ "" && joinToken ≠ "" then s.sendJoinRequest roomCode joinToken else s
  | _, _ => s

/-- The socket's `open` listener. -/
def onOpen (s : Background) : Background :=
  let s := { s with connected := true }
  if s.session.pendingCreateRoom then
    { s with session := { s.session with pendingCreateRoom := false } }.send .create
  else if s.hasPendingJoin then s.sendPendingJoin
  else s.rejoin

end Background

inductive Event where
  | createRoom
  | joinRoom (roomCode : RoomCode) (joinToken : JoinToken)
  | leaveRoom
  | receives (message : ServerMessage)
  | bootstrapTimeout
  | resumes (task : Nat)
  | opens
  | closes
  /-- The share controller sets or clears its pending share. -/
  | pendingShare (url : Option Url)
  /-- An admin reset the session, or the server is another. -/
  | contextCleared

def Background.exec (s : Background) : Event → Option Background
  | .createRoom => some s.requestCreateRoom
  | .joinRoom roomCode joinToken => some (s.requestJoinRoom roomCode joinToken)
  | .leaveRoom => some s.requestLeaveRoom
  | .receives message => some (s.handleServerMessage message)
  | .bootstrapTimeout => s.bootstrapRoomStateTimer.map fun generation =>
    { s with bootstrapRoomStateTimer := none }.expireBootstrapRoomStateWait generation
  | .resumes task => s.tasks[task]?.map fun resumed =>
    { s with tasks := s.tasks.eraseIdx task }.resume resumed
  | .opens => some s.onOpen
  | .closes => some { s with connected := false }
  | .pendingShare pendingLocalShareUrl => some { s with pendingLocalShareUrl }
  | .contextCleared => some s.clearCurrentRoomContext

end BiliSyncPlay.RoomSession
