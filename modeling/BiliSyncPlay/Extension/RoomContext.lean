import BiliSyncPlay.Extension.RoomSession

/-!
# The room context

The room state, the codes and the tokens of the session belong together while every room state
names the current room, and every answer the room that was asked for.
-/

namespace BiliSyncPlay.RoomSession

/-- A background with what its tokens were supplied or issued for, the rooms its user has left or
replaced by a later request, and the connection's answers so far. -/
structure Context where
  background : Background
  joinTokens : List (RoomCode × JoinToken) := []
  memberships : List (RoomCode × MemberToken × MemberId) := []
  replaced : List RoomCode := []
  /-- How many of the messages sent are answered, and the room of the last answer. -/
  answered : Nat := 0
  servedRoom : Option RoomCode := none
  deriving DecidableEq

namespace Context

def session (c : Context) : RoomSessionState := c.background.session

/-- The rooms a request gives up: the current one, and the one asked for before. -/
def givenUp (c : Context) : List RoomCode :=
  c.session.roomCode.toList ++ c.session.pendingJoinRoomCode.toList

def note (c : Context) : Event → Context
  | .createRoom | .leaveRoom => { c with replaced := c.replaced ++ c.givenUp }
  | .joinRoom roomCode joinToken =>
    { c with
      replaced := (c.replaced ++ c.givenUp).filter fun code => decide (code ≠ roomCode)
      joinTokens := c.joinTokens ++ [(roomCode, joinToken)] }
  | .receives (.created roomCode joinToken memberToken memberId) =>
    { c with
      joinTokens := c.joinTokens ++ [(roomCode, joinToken)]
      memberships := c.memberships ++ [(roomCode, memberToken, memberId)]
      answered := c.answered + 1
      servedRoom := some roomCode }
  | .receives (.joined roomCode memberToken memberId) =>
    { c with
      memberships := c.memberships ++ [(roomCode, memberToken, memberId)]
      answered := c.answered + 1
      servedRoom := some roomCode }
  | .opens => { c with answered := c.background.sent.length, servedRoom := none }
  | _ => c

def exec (c : Context) (e : Event) : Option Context :=
  (c.background.exec e).map fun background => { c.note e with background }

/-- The server answers creates and joins in order, and delivers the states and the deltas of the
room the session was in when it sent them. -/
def serves (c : Context) : Event → Bool
  | .receives (.created _ _ _ _) => decide (c.background.sent[c.answered]? = some .create)
  | .receives (.joined roomCode _ _) => match c.background.sent[c.answered]? with
    | some (.join asked _ _) => decide (asked = roomCode)
    | _ => false
  | .receives (.state state) => decide (c.servedRoom = some state.roomCode)
  | .receives (.member delta) => decide (c.servedRoom = some delta.roomCode)
  | _ => true

/-- A room state that is not ignored names the current room, a join that is answered is the one
asked for last, or one of the current room where none is asked for, and a room is not created while
the state of another one is held. -/
def Meets (c : Context) : Event → Prop
  | .receives (.state state) =>
    c.background.isStale state = false → c.session.roomCode = some state.roomCode
  | .receives (.joined roomCode _ _) => c.session.pendingJoinRoomCode = some roomCode ∨
    c.session.pendingJoinRoomCode = none ∧ (c.session.roomCode = some roomCode ∨
      c.session.roomCode = none ∧ roomCode ∉ c.replaced)
  | .receives (.created roomCode _ _ _) => roomCode ∉ c.replaced ∧
    ∀ snapshot, c.session.roomState = some snapshot → snapshot.state.roomCode = roomCode
  | _ => True

def StepWith (meets : Context → Event → Prop) (c d : Context) : Prop :=
  ∃ e, meets c e ∧ c.exec e = some d

def RunWith (meets : Context → Event → Prop) : Context → Context → Prop :=
  Relation.ReflTransGen (StepWith meets)

/-- The room state, the tokens and the room code are of one room, which the user has not left. -/
structure Consistent (c : Context) : Prop where
  sameRoom : ∀ snapshot, c.session.roomState = some snapshot →
    c.session.roomCode = some snapshot.state.roomCode
  joinToken : ∀ roomCode joinToken, c.session.roomCode = some roomCode →
    c.session.joinToken = some joinToken → (roomCode, joinToken) ∈ c.joinTokens
  memberToken : ∀ roomCode memberToken, c.session.roomCode = some roomCode →
    c.session.memberToken = some memberToken →
      ∃ memberId, (roomCode, memberToken, memberId) ∈ c.memberships
  memberId : ∀ roomCode memberId, c.session.roomCode = some roomCode →
    c.session.memberId = some memberId →
      ∃ memberToken, (roomCode, memberToken, memberId) ∈ c.memberships
  notReplaced : ∀ roomCode, c.session.roomCode = some roomCode → roomCode ∉ c.replaced

/-- What keeps the context consistent. -/
structure Kept (c : Context) : Prop extends Consistent c where
  roomless : c.session.roomCode = none → c.session.joinToken = none
  pendingRoom : ∀ roomCode, c.session.pendingJoinRoomCode = some roomCode →
    c.session.roomCode = none ∧ roomCode ∉ c.replaced
  pendingToken : ∀ joinToken, c.session.pendingJoinToken = some joinToken →
    ∃ roomCode, c.session.pendingJoinRoomCode = some roomCode ∧ (roomCode, joinToken) ∈ c.joinTokens

/-! ## Sessions that stay, forget or renew -/

variable {c d : Context}

theorem kept_start (background : Background) (empty : background.session = {}) :
    Kept { background } := by
  have session : Context.session { background } = {} := empty
  constructor
  · constructor <;> simp [session]
  · simp [session]
  · simp [session]
  · simp [session]

/-- Nothing of the context changes but the room state, which is none or one of the current room. -/
theorem Kept.stays (kept : Kept c) (noted : d = { c.note .closes with background := d.background })
    (roomCode : d.session.roomCode = c.session.roomCode)
    (joinToken : d.session.joinToken = c.session.joinToken)
    (memberToken : ∀ token, d.session.memberToken = some token →
      c.session.memberToken = some token)
    (memberId : d.session.memberId = c.session.memberId)
    (roomState : ∀ snapshot, d.session.roomState = some snapshot →
      c.session.roomCode = some snapshot.state.roomCode)
    (pendingRoom : d.session.pendingJoinRoomCode = c.session.pendingJoinRoomCode)
    (pendingToken : d.session.pendingJoinToken = c.session.pendingJoinToken) : Kept d := by
  have joinTokens : d.joinTokens = c.joinTokens := by rw [noted]; rfl
  have memberships : d.memberships = c.memberships := by rw [noted]; rfl
  have replaced : d.replaced = c.replaced := by rw [noted]; rfl
  exact {
    sameRoom := by rw [roomCode]; exact roomState
    joinToken := by rw [roomCode, joinToken, joinTokens]; exact kept.joinToken
    memberToken := by
      rw [roomCode, memberships]
      exact fun code token current held => kept.memberToken code token current
        (memberToken token held)
    memberId := by rw [roomCode, memberId, memberships]; exact kept.memberId
    notReplaced := by rw [roomCode, replaced]; exact kept.notReplaced
    roomless := by rw [roomCode, joinToken]; exact kept.roomless
    pendingRoom := by rw [roomCode, pendingRoom, replaced]; exact kept.pendingRoom
    pendingToken := by rw [pendingToken, pendingRoom, joinTokens]; exact kept.pendingToken }

/-- The session forgets its room. -/
theorem kept_of_roomless (roomCode : d.session.roomCode = none)
    (joinToken : d.session.joinToken = none) (roomState : d.session.roomState = none)
    (pendingRoom : ∀ code, d.session.pendingJoinRoomCode = some code → code ∉ d.replaced)
    (pendingToken : ∀ token, d.session.pendingJoinToken = some token →
      ∃ code, d.session.pendingJoinRoomCode = some code ∧ (code, token) ∈ d.joinTokens) :
    Kept d where
  sameRoom := by simp [roomState]
  joinToken := by simp [roomCode]
  memberToken := by simp [roomCode]
  memberId := by simp [roomCode]
  notReplaced := by simp [roomCode]
  roomless := fun _ => joinToken
  pendingRoom := fun code pending => ⟨roomCode, pendingRoom code pending⟩
  pendingToken := pendingToken

/-- The session is the same but for the marks of what was sent. -/
def SameContext (s t : Background) : Prop :=
  t.session = { s.session with
    pendingCreateRoom := t.session.pendingCreateRoom
    pendingJoinRequestSent := t.session.pendingJoinRequestSent }

theorem Kept.same (kept : Kept c) {t : Background} (same : SameContext c.background t) :
    Kept { c with background := t } := by
  have session : Context.session { c with background := t } = { c.session with
    pendingCreateRoom := t.session.pendingCreateRoom
    pendingJoinRequestSent := t.session.pendingJoinRequestSent } := same
  apply kept.stays rfl <;> rw [session]
  · exact fun _ held => held
  · exact kept.sameRoom

theorem sameContext_sendPendingJoin (s : Background) : SameContext s s.sendPendingJoin := by
  unfold Background.sendPendingJoin
  split
  · split <;> rfl
  · rfl

theorem sameContext_onOpen (s : Background) : SameContext s s.onOpen := by
  unfold Background.onOpen
  dsimp only
  split
  · rfl
  · split
    · exact sameContext_sendPendingJoin _
    · unfold Background.rejoin
      split
      · split <;> rfl
      · rfl

/-! ## Requests -/

theorem Kept.createRoom (step : c.exec .createRoom = some d) : Kept d := by
  cases Option.some.inj step
  apply kept_of_roomless <;> simp [session, Background.requestCreateRoom, Background.forgetRoom,
    Background.start]

theorem Kept.leaveRoom (step : c.exec .leaveRoom = some d) : Kept d := by
  cases Option.some.inj step
  apply kept_of_roomless <;> simp [session, Background.requestLeaveRoom, Background.forgetRoom]

theorem Kept.joinRoom {roomCode : RoomCode} {joinToken : JoinToken}
    (step : c.exec (.joinRoom roomCode joinToken) = some d) : Kept d := by
  cases Option.some.inj step
  apply kept_of_roomless rfl rfl rfl
  · intro code pending replaced
    cases Option.some.inj pending
    exact of_decide_eq_true (List.mem_filter.mp replaced).2 rfl
  · intro token pending
    cases Option.some.inj pending
    exact ⟨roomCode, rfl, List.mem_append_right _ List.mem_cons_self⟩

theorem kept_of_cleared {s : Background} (cleared : d.background = s.clearCurrentRoomContext) :
    Kept d := by
  apply kept_of_roomless <;> simp [session, cleared, Background.clearCurrentRoomContext,
    Background.forgetRoom]

/-! ## Messages -/

theorem Kept.created {roomCode : RoomCode} {joinToken : JoinToken}
    {memberToken : MemberToken} {memberId : MemberId}
    (meets : Meets c (.receives (.created roomCode joinToken memberToken memberId)))
    (step : c.exec (.receives (.created roomCode joinToken memberToken memberId)) = some d) :
    Kept d := by
  cases Option.some.inj step
  obtain ⟨notReplaced, held_room⟩ := meets
  exact {
    sameRoom := fun snapshot held => congrArg some (held_room snapshot held).symm
    joinToken := by
      rintro code token ⟨⟩ ⟨⟩
      exact List.mem_append_right _ List.mem_cons_self
    memberToken := by
      rintro code token ⟨⟩ ⟨⟩
      exact ⟨memberId, List.mem_append_right _ List.mem_cons_self⟩
    memberId := by
      rintro code id ⟨⟩ ⟨⟩
      exact ⟨memberToken, List.mem_append_right _ List.mem_cons_self⟩
    notReplaced := by
      rintro code ⟨⟩
      exact notReplaced
    roomless := nofun
    pendingRoom := nofun
    pendingToken := nofun }

theorem Kept.joined (kept : Kept c) {roomCode : RoomCode} {memberToken : MemberToken}
    {memberId : MemberId} (meets : Meets c (.receives (.joined roomCode memberToken memberId)))
    (step : c.exec (.receives (.joined roomCode memberToken memberId)) = some d) : Kept d := by
  cases Option.some.inj step
  have notReplaced : roomCode ∉ c.replaced := by
    rcases meets with asked | ⟨_, current | ⟨_, other⟩⟩
    · exact (kept.pendingRoom roomCode asked).2
    · exact kept.notReplaced roomCode current
    · exact other
  have held_room : ∀ snapshot, c.session.roomState = some snapshot →
      snapshot.state.roomCode = roomCode := by
    intro snapshot held
    have current := kept.sameRoom snapshot held
    rcases meets with asked | ⟨_, same | ⟨roomless, _⟩⟩
    · exact nomatch current.symm.trans (kept.pendingRoom roomCode asked).1
    · exact Option.some.inj (current.symm.trans same)
    · exact nomatch current.symm.trans roomless
  have token_of : ∀ token, c.session.pendingJoinToken.or c.session.joinToken = some token →
      (roomCode, token) ∈ c.joinTokens := by
    intro token taken
    cases pending : c.session.pendingJoinToken with
    | some asked =>
      obtain ⟨code, code_pending, supplied⟩ := kept.pendingToken asked pending
      rw [pending] at taken
      cases Option.some.inj taken
      rcases meets with named | ⟨absent, _⟩
      · cases Option.some.inj (named.symm.trans code_pending)
        exact supplied
      · exact nomatch absent.symm.trans code_pending
    | none =>
      rw [pending, Option.none_or] at taken
      rcases meets with named | ⟨_, same | ⟨roomless, _⟩⟩
      · exact nomatch (kept.roomless (kept.pendingRoom roomCode named).1).symm.trans taken
      · exact kept.joinToken roomCode token same taken
      · exact nomatch (kept.roomless roomless).symm.trans taken
  exact {
    sameRoom := fun snapshot held => congrArg some (held_room snapshot held).symm
    joinToken := by
      rintro code token ⟨⟩ held
      exact token_of token held
    memberToken := by
      rintro code token ⟨⟩ ⟨⟩
      exact ⟨memberId, List.mem_append_right _ List.mem_cons_self⟩
    memberId := by
      rintro code id ⟨⟩ ⟨⟩
      exact ⟨memberToken, List.mem_append_right _ List.mem_cons_self⟩
    notReplaced := by
      rintro code ⟨⟩
      exact notReplaced
    roomless := nofun
    pendingRoom := nofun
    pendingToken := nofun }

theorem Kept.rejected (kept : Kept c) {t : Background} (code : ErrorCode)
    (same : t.session = c.background.session) :
    Kept { c with background := t.handleRejection code } := by
  have roomCode : t.session.roomCode = c.session.roomCode := by rw [same, session]
  have joinToken : t.session.joinToken = c.session.joinToken := by rw [same, session]
  have memberId : t.session.memberId = c.session.memberId := by rw [same, session]
  have roomState : t.session.roomState = c.session.roomState := by rw [same, session]
  have pendingRoom : t.session.pendingJoinRoomCode = c.session.pendingJoinRoomCode := by
    rw [same, session]
  have pendingToken : t.session.pendingJoinToken = c.session.pendingJoinToken := by
    rw [same, session]
  unfold Background.handleRejection
  dsimp only
  split
  · exact kept_of_cleared rfl
  · split
    · exact kept.stays rfl roomCode joinToken nofun memberId
        (fun snapshot held => kept.sameRoom snapshot (roomState ▸ held)) pendingRoom pendingToken
    · apply kept.same
      unfold SameContext
      rw [same]

/-- A room state of the current room takes the place of the one held. -/
theorem Kept.renews (kept : Kept c) {t : Background} (snapshot : Snapshot)
    (current : c.session.roomCode = some snapshot.state.roomCode)
    (session : t.session = { c.session with
      roomState := some snapshot
      roomCode := some snapshot.state.roomCode }) : Kept { c with background := t } := by
  have renewed : Context.session { c with background := t } = { c.session with
    roomState := some snapshot
    roomCode := some snapshot.state.roomCode } := session
  apply kept.stays rfl <;> rw [renewed]
  · exact current.symm
  · exact fun _ held => held
  · rintro other ⟨⟩
    exact current

theorem Kept.state (kept : Kept c) {state : RoomState}
    (meets : Meets c (.receives (.state state)))
    (step : c.exec (.receives (.state state)) = some d) : Kept d := by
  cases Option.some.inj step
  by_cases stale : c.background.isStale state = true
  · have ignored : c.background.handleServerMessage (.state state) = c.background := if_pos stale
    rw [ignored]
    exact kept
  · have current := meets (Bool.not_eq_true _ |>.mp stale)
    have room := Background.roomCode_resolve c.background state
    apply kept.renews
      { version := c.background.versions
        state := c.background.resolve state }
    · rw [room]
      exact current
    · have applied : c.background.handleServerMessage (.state state) = _ := if_neg stale
      rw [applied]
      rfl

theorem Kept.member (kept : Kept c) {delta : MemberDelta}
    (step : c.exec (.receives (.member delta)) = some d) : Kept d := by
  cases Option.some.inj step
  dsimp only [Background.handleServerMessage, Background.handleRoomMember, note]
  split
  · exact kept.same rfl
  · split
    · exact kept.same rfl
    · next snapshot held =>
      split
      · exact kept.same rfl
      · apply kept.renews
          { version := c.background.versions
            state := applyMemberDelta snapshot.state delta }
        · rw [roomCode_applyMemberDelta]
          exact kept.sameRoom snapshot held
        · rfl

theorem Kept.error (kept : Kept c) {code : ErrorCode}
    (step : c.exec (.receives (.error code)) = some d) : Kept d := by
  cases Option.some.inj step
  dsimp only [Background.handleServerMessage, Background.handleError, note]
  split
  · apply kept_of_roomless <;> simp [session, Background.start]
  · exact kept.rejected code rfl

theorem Kept.timeout (kept : Kept c) (step : c.exec .bootstrapTimeout = some d) : Kept d := by
  obtain ⟨background, run, rfl⟩ := Option.map_eq_some_iff.mp step
  obtain ⟨generation, _, rfl⟩ := Option.map_eq_some_iff.mp run
  dsimp only [Background.expireBootstrapRoomStateWait, note]
  split
  · exact kept.same rfl
  · split
    · exact kept.same rfl
    · split
      · split
        · exact kept.same rfl
        · next snapshot held =>
          split
          · exact kept.same rfl
          · apply kept.renews
              { version := c.background.versions
                state := c.background.resolve snapshot.state }
            · rw [Background.roomCode_resolve]
              exact kept.sameRoom snapshot held
            · rfl
      · exact kept.same rfl

theorem Kept.resumes (kept : Kept c) {i : Nat} (step : c.exec (.resumes i) = some d) : Kept d := by
  obtain ⟨background, run, rfl⟩ := Option.map_eq_some_iff.mp step
  obtain ⟨task, _, rfl⟩ := Option.map_eq_some_iff.mp run
  cases task with
  | delivers snapshot generation =>
    apply kept.same
    unfold Background.resume
    dsimp only
    split <;> rfl
  | creates =>
    apply kept.same
    unfold Background.resume
    dsimp only
    split <;> rfl
  | joins =>
    apply kept.same
    unfold Background.resume
    dsimp only
    split
    · exact sameContext_sendPendingJoin _
    · rfl
  | rejects code => exact kept.rejected code rfl

/-! ## Runs -/

theorem Kept.exec (kept : Kept c) {e : Event} (meets : Meets c e) (step : c.exec e = some d) :
    Kept d := by
  match e with
  | .createRoom => exact Kept.createRoom step
  | .joinRoom roomCode joinToken => exact Kept.joinRoom step
  | .leaveRoom => exact Kept.leaveRoom step
  | .receives (.created roomCode joinToken memberToken memberId) => exact Kept.created meets step
  | .receives (.joined roomCode memberToken memberId) => exact kept.joined meets step
  | .receives (.state state) => exact kept.state meets step
  | .receives (.member delta) => exact kept.member step
  | .receives (.error code) => exact kept.error step
  | .bootstrapTimeout => exact kept.timeout step
  | .resumes i => exact kept.resumes step
  | .opens =>
    cases Option.some.inj step
    have opened := kept.same (sameContext_onOpen c.background)
    exact ⟨⟨opened.sameRoom, opened.joinToken, opened.memberToken, opened.memberId,
      opened.notReplaced⟩, opened.roomless, opened.pendingRoom, opened.pendingToken⟩
  | .closes =>
    cases Option.some.inj step
    exact kept.same rfl
  | .pendingShare url =>
    cases Option.some.inj step
    exact kept.same rfl
  | .contextCleared =>
    cases Option.some.inj step
    exact kept_of_cleared rfl

theorem room_context_is_consistent (run : RunWith Meets { background := {} } c) :
    Consistent c := by
  have kept : Kept c := by
    induction run with
    | refl => exact kept_start {} rfl
    | tail _ step kept =>
      obtain ⟨e, meets, step⟩ := step
      exact kept.exec meets step
  exact kept.toConsistent

/-! ## A room state that arrives late -/

def replay (check : Context → Event → Bool) (c : Context) (events : List Event) : Option Context :=
  events.foldlM (fun c e => if check c e then c.exec e else none) c

theorem runWith_of_replay {check : Context → Event → Bool} {meets : Context → Event → Prop}
    (checked : ∀ c e, check c e = true → meets c e) {events : List Event}
    (replayed : replay check c events = some d) : RunWith meets c d := by
  induction events generalizing c with
  | nil =>
    cases Option.some.inj replayed
    exact Relation.ReflTransGen.refl
  | cons e rest ih =>
    obtain ⟨next, step, rest⟩ := Option.bind_eq_some_iff.mp replayed
    obtain ⟨met, step⟩ := Option.ite_none_right_eq_some.mp step
    exact Relation.ReflTransGen.head ⟨e, checked c e met, step⟩ (ih rest)

/-- A state of the current room, a join asked for last, and nothing else from the server. -/
def calm (c : Context) : Event → Bool
  | .receives (.state state) => decide (c.session.roomCode = some state.roomCode)
  | .receives (.joined roomCode _ _) =>
    decide (c.session.pendingJoinRoomCode = some roomCode)
  | .receives _ => false
  | _ => true

theorem meets_of_calm (c : Context) (e : Event) (checked : calm c e = true) : Meets c e := by
  match e with
  | .receives (.state _) => exact fun _ => of_decide_eq_true checked
  | .receives (.joined ..) => exact .inl (of_decide_eq_true checked)
  | .receives (.member _) | .receives (.error _) => exact trivial
  | .createRoom | .joinRoom .. | .leaveRoom | .bootstrapTimeout | .resumes _ | .opens | .closes
  | .pendingShare _ | .contextCleared => exact trivial

def roomA : RoomState := { roomCode := "ROOM0A", sharedUrl := none, members := [] }

def joinsA : List Event :=
  [.opens, .joinRoom "ROOM0A" "token-a", .resumes 0,
    .receives (.joined "ROOM0A" "member-token-a" "member-a"), .receives (.state roomA), .resumes 0]

def inRoomA : Context where
  background := {
    session := {
      roomCode := some "ROOM0A"
      joinToken := some "token-a"
      memberToken := some "member-token-a"
      memberId := some "member-a"
      roomState := some { version := 0, state := roomA } }
    connected := true
    bootstrapRoomStateGeneration := 4
    versions := 1
    sent := [.join "ROOM0A" "token-a" none]
    delivered := [{ version := 0, state := roomA }] }
  joinTokens := [("ROOM0A", "token-a")]
  memberships := [("ROOM0A", "member-token-a", "member-a")]
  answered := 1
  servedRoom := some "ROOM0A"

theorem room_context_is_consistent_joined : Consistent inRoomA :=
  room_context_is_consistent (runWith_of_replay meets_of_calm
    (show replay calm { background := {} } joinsA = some inRoomA by decide +kernel))

/-- The user asks for another room, and a state of the first arrives before the answer. -/
def joinsB : List Event :=
  [.joinRoom "ROOM0B" "token-b", .resumes 0, .receives (.state roomA),
    .receives (.joined "ROOM0B" "member-token-b" "member-b")]

theorem late_room_state_mixes_rooms :
    ∃ c, RunWith (fun c e => c.serves e = true) { background := {} } c ∧ ¬ Consistent c := by
  have mixed : (replay serves { background := {} } (joinsA ++ joinsB)).any (fun c =>
      c.session.roomState.any fun snapshot =>
        decide (c.session.roomCode ≠ some snapshot.state.roomCode)) = true := by decide +kernel
  obtain ⟨c, replayed, held⟩ := (Option.any_eq_true ..).mp mixed
  obtain ⟨snapshot, current, apart⟩ := (Option.any_eq_true ..).mp held
  refine ⟨c, runWith_of_replay (fun _ _ met => met) replayed, fun consistent => ?_⟩
  exact of_decide_eq_true apart (consistent.sameRoom snapshot current)

end Context

end BiliSyncPlay.RoomSession
