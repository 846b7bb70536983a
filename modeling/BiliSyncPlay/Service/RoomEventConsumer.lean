import BiliSyncPlay.Protocol.Records
import Mathlib.Logic.Relation
import Mathlib.Logic.Function.Basic

/-!
# Room events at a node

`createRoomEventConsumer` over any number of events of the bus at once. A step is one synchronous
stretch of a handler; in between, the sessions of the node change in any way. What
`getRoomStateByCode` answers is left open, and it may throw.
-/

namespace BiliSyncPlay.RoomEventConsumer

open Json Protocol

def MEMBER_DELTA_PROTOCOL_VERSION : Rat := 2

/-- What the consumer reads of a session. -/
structure Session where
  attached : Bool
  roomCode : Option JsString
  memberId : Option JsString
  protocolVersion : Option Rat
  deriving DecidableEq

def roomCodeOf : RoomEventBusMessage → JsString
  | .room _ roomCode _ _ => roomCode
  | .member _ roomCode _ _ _ _ => roomCode

def supportsIncrementalMemberEvents (session : Session) : Bool :=
  decide (MEMBER_DELTA_PROTOCOL_VERSION ≤ session.protocolVersion.getD 1)

def isRoomEventRecipient (session : Session) (roomCode : JsString) : Bool :=
  session.attached && decide (session.roomCode = some roomCode)

def isMemberDeltaRecipient (session : Session) (roomCode memberId : JsString) : Bool :=
  isRoomEventRecipient session roomCode && decide (session.memberId ≠ some memberId)

def isRecipient (session : Session) : RoomEventBusMessage → Bool
  | .room _ roomCode _ _ => isRoomEventRecipient session roomCode
  | .member _ roomCode _ _ memberId _ => isMemberDeltaRecipient session roomCode memberId

/-- A call of `send`, with what the session was and what `now` answered just then. -/
structure Delivery where
  session : Nat
  recipient : Session
  message : Doc JsString
  sentAtMs : Rat
  deriving DecidableEq

inductive Phase where
  /-- `await getRoomStateByCode`, for these. -/
  | loading (recipients : List Nat)
  /-- `await getLegacyRoomState`, for this session with the others to come. -/
  | awaitingLegacyRoomState (memberMessage : Doc JsString) (session : Nat) (rest : List Nat)
  | consumed
  /-- There was no state to tell. -/
  | dropped
  | failed
  deriving DecidableEq

def Phase.pending : Phase → List Nat
  | .loading recipients => recipients
  | .awaitingLegacyRoomState _ session rest => session :: rest
  | .consumed | .dropped | .failed => []

def Phase.isWaiting : Phase → Bool
  | .loading _ | .awaitingLegacyRoomState .. => true
  | .consumed | .dropped | .failed => false

/-- The callback of the subscription, called with one message. -/
structure Handler where
  message : RoomEventBusMessage
  localSessions : List Nat
  /-- What `getRoomStateByCode` answered, kept in `legacyRoomState` for a member event. -/
  roomState : Option (Option RoomState) := none
  phase : Phase := .consumed
  sent : List Delivery := []
  /-- The calls of `getRoomStateByCode`, by the first session that wanted the state. -/
  reads : List Session := []
  deriving DecidableEq

section Stretch

variable (sessions : Nat → Session) (now : Nat → Rat)

def deliver (id : Nat) (message : Doc JsString) : Delivery :=
  { session := id, recipient := sessions id, message, sentAtMs := now id }

/-- The loop of a member event, up to its next await. -/
def deltaLoop (message : RoomEventBusMessage) (memberMessage : Doc JsString) :
    List Nat → List Delivery × Phase
  | [] => ([], .consumed)
  | id :: rest =>
    if isRecipient (sessions id) message then
      if supportsIncrementalMemberEvents (sessions id) then
        let loop := deltaLoop message memberMessage rest
        (deliver sessions now id memberMessage :: loop.1, loop.2)
      else ([], .awaitingLegacyRoomState memberMessage id rest)
    else deltaLoop message memberMessage rest

/-- The loop that tells a state, each recipient checked once more. -/
def stateLoop (message : RoomEventBusMessage) (state : RoomState) (recipients : List Nat) :
    List Delivery :=
  (recipients.filter fun id => isRecipient (sessions id) message).map fun id =>
    deliver sessions now id (Protocol.roomState state (now id))

/-- For whom `getLegacyRoomState` is called. -/
def Phase.wanting : Phase → List Session
  | .awaitingLegacyRoomState _ session _ => [sessions session]
  | .loading _ | .consumed | .dropped | .failed => []

namespace Handler

/-- The member loop is entered at these sessions. -/
def continueDelta (memberMessage : Doc JsString) (ids : List Nat) (h : Handler) : Handler :=
  let loop := deltaLoop sessions now h.message memberMessage ids
  { h with
    phase := loop.2
    sent := h.sent ++ loop.1
    reads := h.reads ++ if h.roomState.isNone then loop.2.wanting sessions else [] }

/-- The handler up to its first await. -/
def start (message : RoomEventBusMessage) (localSessions : List Nat) : Handler :=
  let h : Handler := { message, localSessions }
  match message, createMemberMessage message with
  | .member .., some memberMessage => h.continueDelta sessions now memberMessage localSessions
  | .member .., none => { h with phase := .dropped }
  | .room type roomCode _ _, _ =>
    match localSessions.filter fun id => isRecipient (sessions id) message with
    | [] => h
    | first :: others =>
      if type = .deleted then
        { h with
          sent := stateLoop sessions now message (deletedRoomState roomCode) (first :: others) }
      else { h with phase := .loading (first :: others), reads := [sessions first] }

/-- What the handler awaits has answered. -/
def resume (answer : Option RoomState) (h : Handler) : Handler :=
  match h.phase with
  | .loading recipients =>
    match answer with
    | some state =>
      { h with
        roomState := some (some state)
        phase := .consumed
        sent := h.sent ++ stateLoop sessions now h.message state recipients }
    | none => { h with roomState := some none, phase := .dropped }
  | .awaitingLegacyRoomState memberMessage session rest =>
    match answer with
    | some state =>
      { h with
        roomState := some (some state)
        sent := h.sent ++ stateLoop sessions now h.message state [session] }.continueDelta
          sessions now memberMessage rest
    | none => { h with roomState := some none }.continueDelta sessions now memberMessage rest
  | .consumed | .dropped | .failed => h

end Handler

end Stretch

structure Node where
  sessions : Nat → Session
  handlers : List Handler := []

namespace Node

def receive (message : RoomEventBusMessage) (localSessions : List Nat) (now : Nat → Rat)
    (n : Node) : Node :=
  { n with handlers := n.handlers ++ [.start n.sessions now message localSessions] }

def put (index : Nat) (handler : Handler) (n : Node) : Node :=
  { n with handlers := n.handlers.set index handler }

end Node

/-- `localSessions` comes out of a set; a state that was loaded is not loaded again. -/
inductive Step : Node → Node → Prop where
  | change (n : Node) (id : Nat) (session : Session) :
    Step n { n with sessions := Function.update n.sessions id session }
  | received (n : Node) (message : RoomEventBusMessage) (localSessions : List Nat)
    (listed : localSessions.Nodup) (now : Nat → Rat) :
    Step n (n.receive message localSessions now)
  | answered (n : Node) (index : Nat) (h : Handler) (answer : Option RoomState)
    (now : Nat → Rat) (there : n.handlers[index]? = some h) (waiting : h.phase.isWaiting = true)
    (loaded : h.roomState = none ∨ h.roomState = some answer)
    (named : ∀ state, answer = some state → state.roomCode = roomCodeOf h.message) :
    Step n (n.put index (h.resume n.sessions now answer))
  | rejected (n : Node) (index : Nat) (h : Handler) (there : n.handlers[index]? = some h)
    (waiting : h.phase.isWaiting = true) (reading : h.roomState = none) :
    Step n (n.put index { h with phase := .failed })

def Reachable (n : Node) : Prop :=
  ∃ sessions, Relation.ReflTransGen Step { sessions } n

/-! ## What a stretch sends -/

def isDeletion : RoomEventBusMessage → Bool
  | .room .deleted _ _ _ => true
  | .room .stateUpdated _ _ _ | .room .memberChanged _ _ _ | .member .. => false

section Loops

variable {sessions : Nat → Session} {now : Nat → Rat} {message : RoomEventBusMessage}
  {memberMessage : Doc JsString} {state : RoomState} {ids : List Nat}

theorem roomCode_of_recipient {session : Session} (h : isRecipient session message = true) :
    session.roomCode = some (roomCodeOf message) := by
  cases message with
  | room type roomCode sourceInstanceId emittedAt =>
    simp only [isRecipient, isRoomEventRecipient, Bool.and_eq_true, decide_eq_true_eq] at h
    exact h.2
  | member type roomCode sourceInstanceId emittedAt memberId displayName =>
    simp only [isRecipient, isMemberDeltaRecipient, isRoomEventRecipient, Bool.and_eq_true,
      decide_eq_true_eq] at h
    exact h.1.2

theorem isDeletion_of_made (made : createMemberMessage message = some memberMessage) :
    isDeletion message = false := by
  cases message with
  | room type roomCode sourceInstanceId emittedAt => simp [createMemberMessage] at made
  | member type roomCode sourceInstanceId emittedAt memberId displayName => rfl

theorem deltaLoop_order (sessions : Nat → Session) (now : Nat → Rat)
    (message : RoomEventBusMessage) (memberMessage : Doc JsString) (ids : List Nat) :
    (((deltaLoop sessions now message memberMessage ids).1.map Delivery.session) ++
      (deltaLoop sessions now message memberMessage ids).2.pending).Sublist ids := by
  induction ids with
  | nil => simp [deltaLoop, Phase.pending]
  | cons id rest ih =>
    unfold deltaLoop
    by_cases recipient : isRecipient (sessions id) message = true
    · by_cases incremental : supportsIncrementalMemberEvents (sessions id) = true
      · simp only [recipient, incremental, if_true, List.map_cons, List.cons_append]
        exact ih.cons_cons id
      · simp [recipient, incremental, Phase.pending]
    · simp only [recipient, if_false, Bool.false_eq_true]
      exact ih.cons id

theorem deltaLoop_sent {d : Delivery}
    (sent : d ∈ (deltaLoop sessions now message memberMessage ids).1) :
    isRecipient d.recipient message = true ∧ d.message = memberMessage ∧
      supportsIncrementalMemberEvents d.recipient = true := by
  induction ids with
  | nil => simp [deltaLoop] at sent
  | cons id rest ih =>
    unfold deltaLoop at sent
    by_cases recipient : isRecipient (sessions id) message = true
    · by_cases incremental : supportsIncrementalMemberEvents (sessions id) = true
      · simp only [recipient, incremental, if_true, List.mem_cons] at sent
        rcases sent with rfl | later
        · exact ⟨recipient, rfl, incremental⟩
        · exact ih later
      · simp [recipient, incremental] at sent
    · simp only [recipient, if_false, Bool.false_eq_true] at sent
      exact ih sent

/-- The loop ends, or it stops at a recipient of an older version. -/
theorem deltaLoop_phase (sessions : Nat → Session) (now : Nat → Rat)
    (message : RoomEventBusMessage) (memberMessage : Doc JsString) (ids : List Nat) :
    (deltaLoop sessions now message memberMessage ids).2 = .consumed ∨
      ∃ id rest, (deltaLoop sessions now message memberMessage ids).2 =
          .awaitingLegacyRoomState memberMessage id rest ∧
        isRecipient (sessions id) message = true ∧
        supportsIncrementalMemberEvents (sessions id) = false := by
  induction ids with
  | nil => exact .inl rfl
  | cons id rest ih =>
    unfold deltaLoop
    by_cases recipient : isRecipient (sessions id) message = true
    · by_cases incremental : supportsIncrementalMemberEvents (sessions id) = true
      · simp only [recipient, incremental, if_true]
        exact ih
      · simp only [recipient, incremental, if_true, if_false, Bool.false_eq_true]
        exact .inr ⟨id, rest, rfl, recipient, by simpa using incremental⟩
    · simp only [recipient, if_false, Bool.false_eq_true]
      exact ih

theorem deltaLoop_covers (now : Nat → Rat) (memberMessage : Doc JsString) {id : Nat}
    (listed : id ∈ ids) (recipient : isRecipient (sessions id) message = true) :
    id ∈ (deltaLoop sessions now message memberMessage ids).1.map Delivery.session ∨
      id ∈ (deltaLoop sessions now message memberMessage ids).2.pending := by
  induction ids with
  | nil => simp at listed
  | cons first rest ih =>
    unfold deltaLoop
    by_cases told : isRecipient (sessions first) message = true
    · by_cases incremental : supportsIncrementalMemberEvents (sessions first) = true
      · simp only [told, incremental, if_true, List.map_cons, List.mem_cons]
        rcases List.mem_cons.mp listed with rfl | later
        · exact .inl (.inl rfl)
        · rcases ih later with sent | pending
          · exact .inl (.inr sent)
          · exact .inr pending
      · simp only [told, incremental, if_true, if_false, Bool.false_eq_true]
        exact .inr listed
    · simp only [told, if_false, Bool.false_eq_true]
      rcases List.mem_cons.mp listed with rfl | later
      · contradiction
      · exact ih later

theorem stateLoop_sessions : (stateLoop sessions now message state ids).map Delivery.session =
    ids.filter fun id => isRecipient (sessions id) message := by
  unfold stateLoop
  rw [List.map_map]
  exact List.map_id _

theorem stateLoop_sent {d : Delivery} (sent : d ∈ stateLoop sessions now message state ids) :
    isRecipient d.recipient message = true ∧
      d.message = Protocol.roomState state d.sentAtMs := by
  obtain ⟨id, listed, rfl⟩ := List.mem_map.mp sent
  exact ⟨(List.mem_filter.mp listed).2, rfl⟩

end Loops

/-! ## One handler -/

namespace Handler

/-- What the handler knows of the room. -/
def toldState (h : Handler) : Option RoomState :=
  if isDeletion h.message then some (deletedRoomState (roomCodeOf h.message)) else h.roomState.join

/-- A message is the member delta, for who can read it, or the state of the room the recipient is
in, aged at its own sending. -/
def Tells (h : Handler) (d : Delivery) : Prop :=
  (createMemberMessage h.message = some d.message ∧
      supportsIncrementalMemberEvents d.recipient = true) ∨
    ∃ state, h.toldState = some state ∧ d.message = Protocol.roomState state d.sentAtMs ∧
      d.recipient.roomCode = some state.roomCode

/-- The room's state is read for this session. -/
def Wants (h : Handler) (session : Session) : Prop :=
  isRecipient session h.message = true ∧ isDeletion h.message = false ∧
    (createMemberMessage h.message ≠ none → supportsIncrementalMemberEvents session = false)

/-- What a handler has done when these sessions are still to be looked at. -/
structure Sound (pending : List Nat) (h : Handler) : Prop where
  listed : h.localSessions.Nodup
  order : (h.sent.map Delivery.session ++ pending).Sublist h.localSessions
  recipient : ∀ d ∈ h.sent, isRecipient d.recipient h.message = true
  tells : ∀ d ∈ h.sent, h.Tells d
  once : h.reads.length ≤ 1
  wanted : ∀ session ∈ h.reads, h.Wants session
  named : ∀ state, h.roomState = some (some state) → state.roomCode = roomCodeOf h.message

/-- What an awaiting handler has at hand. -/
structure Awaits (h : Handler) : Prop where
  made : ∀ memberMessage session rest,
    h.phase = .awaitingLegacyRoomState memberMessage session rest →
      createMemberMessage h.message = some memberMessage
  read : h.phase.isWaiting = true → isDeletion h.message = false

structure Holds (h : Handler) : Prop where
  sound : h.Sound h.phase.pending
  awaits : h.Awaits

section Sends

variable {sessions : Nat → Session} {now : Nat → Rat} {h : Handler} {ids pending : List Nat}
  {memberMessage : Doc JsString} {state : RoomState}

theorem resume_loading {recipients : List Nat} (loading : h.phase = .loading recipients) :
    h.resume sessions now (some state) =
      { h with
        roomState := some (some state)
        phase := .consumed
        sent := h.sent ++ stateLoop sessions now h.message state recipients } := by
  unfold Handler.resume
  rw [loading]

theorem resume_loading_none {recipients : List Nat} (loading : h.phase = .loading recipients) :
    h.resume sessions now none = { h with roomState := some none, phase := .dropped } := by
  unfold Handler.resume
  rw [loading]

theorem resume_awaiting {session : Nat} {rest : List Nat}
    (awaiting : h.phase = .awaitingLegacyRoomState memberMessage session rest) :
    h.resume sessions now (some state) =
      ({ h with
        roomState := some (some state)
        sent := h.sent ++ stateLoop sessions now h.message state [session] }).continueDelta
          sessions now memberMessage rest := by
  unfold Handler.resume
  rw [awaiting]

theorem resume_awaiting_none {session : Nat} {rest : List Nat}
    (awaiting : h.phase = .awaitingLegacyRoomState memberMessage session rest) :
    h.resume sessions now none =
      ({ h with roomState := some none }).continueDelta sessions now memberMessage rest := by
  unfold Handler.resume
  rw [awaiting]

theorem Sound.extend (sound : h.Sound ids) {more : List Delivery}
    (order : (more.map Delivery.session ++ pending).Sublist ids)
    (recipient : ∀ d ∈ more, isRecipient d.recipient h.message = true)
    (tells : ∀ d ∈ more, h.Tells d) : ({ h with sent := h.sent ++ more }).Sound pending := by
  constructor
  · exact sound.listed
  · rw [List.map_append, List.append_assoc]
    exact (order.append_left _).trans sound.order
  · intro d sent
    rcases List.mem_append.mp sent with before | new
    · exact sound.recipient d before
    · exact recipient d new
  · intro d sent
    rcases List.mem_append.mp sent with before | new
    · exact sound.tells d before
    · exact tells d new
  · exact sound.once
  · exact sound.wanted
  · exact sound.named

theorem Sound.drop (sound : h.Sound ids) : h.Sound [] := by
  refine { sound with order := ?_ }
  rw [List.append_nil]
  exact (List.sublist_append_left _ _).trans sound.order

theorem Sound.nodup (sound : h.Sound ids) : (h.sent.map Delivery.session).Nodup :=
  ((List.sublist_append_left _ _).trans sound.order).nodup sound.listed

/-- A state that was told has the code of the room. -/
theorem Sound.code (sound : h.Sound ids) (told : h.toldState = some state) :
    state.roomCode = roomCodeOf h.message := by
  unfold toldState at told
  split at told
  · cases told
    rfl
  · exact sound.named state (Option.join_eq_some_iff.mp told)

theorem Sound.tell (sound : h.Sound (ids ++ pending)) (told : h.toldState = some state) :
    ({ h with sent := h.sent ++ stateLoop sessions now h.message state ids }).Sound pending := by
  apply sound.extend
  · rw [stateLoop_sessions]
    exact (List.filter_sublist).append_right _
  · intro d sent
    exact (stateLoop_sent sent).1
  · intro d sent
    have facts := stateLoop_sent sent
    refine .inr ⟨state, told, facts.2, ?_⟩
    rw [sound.code told]
    exact roomCode_of_recipient facts.1

theorem Sound.turn (sound : h.Sound ids) (phase : Phase) : ({ h with phase }).Sound ids :=
  ⟨sound.listed, sound.order, sound.recipient, sound.tells, sound.once, sound.wanted, sound.named⟩

/-- The sessions at the head of the list are passed. -/
theorem Sound.pass (sound : h.Sound (ids ++ pending)) : h.Sound pending := by
  refine { sound with order := ?_ }
  exact ((List.sublist_append_right ids pending).append_left _).trans sound.order

theorem pending_of_ended {phase : Phase} (ended : phase.isWaiting = false) :
    phase.pending = [] := by
  cases phase with
  | loading recipients => contradiction
  | awaitingLegacyRoomState memberMessage session rest => contradiction
  | consumed => rfl
  | dropped => rfl
  | failed => rfl

/-- A handler that has ended awaits nothing. -/
theorem Sound.finish (sound : h.Sound []) (phase : Phase) (ended : phase.isWaiting = false) :
    ({ h with phase }).Holds := by
  constructor
  · simp only [pending_of_ended ended]
    exact sound.turn phase
  · constructor
    · intro memberMessage session rest awaiting
      simp only at awaiting
      rw [awaiting] at ended
      contradiction
    · intro waits
      rw [ended] at waits
      contradiction

theorem wanting_length (phase : Phase) : (phase.wanting sessions).length ≤ 1 := by
  cases phase <;> simp [Phase.wanting]

theorem continueDelta_holds (sound : h.Sound ids)
    (made : createMemberMessage h.message = some memberMessage)
    (unread : h.roomState = none → h.reads = []) :
    (h.continueDelta sessions now memberMessage ids).Holds := by
  have extended := sound.extend (deltaLoop_order sessions now h.message memberMessage ids)
    (fun d sent => (deltaLoop_sent sent).1) (by
      intro d sent
      have facts := deltaLoop_sent sent
      rw [← facts.2.1] at made
      exact .inl ⟨made, facts.2.2⟩)
  have stops := deltaLoop_phase sessions now h.message memberMessage ids
  have alive := isDeletion_of_made made
  constructor
  · constructor
    · exact extended.listed
    · exact extended.order
    · exact extended.recipient
    · exact extended.tells
    · unfold continueDelta
      by_cases loaded : h.roomState = none
      · simp [loaded, unread loaded, wanting_length]
      · simp [loaded, sound.once]
    · intro session read
      unfold continueDelta at read
      rcases List.mem_append.mp read with before | now_read
      · exact sound.wanted session before
      · split at now_read
        · rcases stops with ended | ⟨id, rest, awaiting, recipient, older⟩
          · simp [ended, Phase.wanting] at now_read
          · simp only [awaiting, Phase.wanting, List.mem_singleton] at now_read
            subst now_read
            exact ⟨recipient, alive, fun _ => older⟩
        · simp at now_read
    · exact extended.named
  · constructor
    · intro other session rest awaiting
      unfold continueDelta at awaiting
      simp only at awaiting
      rcases stops with ended | ⟨id, left, stopped, -⟩
      · rw [ended] at awaiting
        contradiction
      · rw [stopped] at awaiting
        cases awaiting
        exact made
    · intro waits
      exact alive

theorem start_holds (message : RoomEventBusMessage) {localSessions : List Nat}
    (listed : localSessions.Nodup) : (start sessions now message localSessions).Holds := by
  have empty : ∀ ids : List Nat, ids.Sublist localSessions →
      Handler.Sound ids { message, localSessions } := by
    intro ids part
    constructor <;> simp [listed, part]
  cases message with
  | member type roomCode sourceInstanceId emittedAt memberId displayName =>
    exact continueDelta_holds (empty localSessions (List.Sublist.refl _)) rfl fun _ => rfl
  | room type roomCode sourceInstanceId emittedAt =>
    unfold start
    simp only
    cases kept : localSessions.filter fun id =>
      isRecipient (sessions id) (.room type roomCode sourceInstanceId emittedAt) with
    | nil => exact (empty [] (List.nil_sublist _)).finish .consumed rfl
    | cons first others =>
      have part : (first :: others).Sublist localSessions := by
        rw [← kept]
        exact List.filter_sublist
      have recipient : isRecipient (sessions first)
          (.room type roomCode sourceInstanceId emittedAt) = true := by
        have inside : first ∈ localSessions.filter fun id =>
            isRecipient (sessions id) (.room type roomCode sourceInstanceId emittedAt) := by
          rw [kept]
          exact List.mem_cons_self
        exact (List.mem_filter.mp inside).2
      have all := empty (first :: others) part
      rw [← List.append_nil (first :: others)] at all
      by_cases deleted : type = .deleted
      · subst deleted
        simp only [if_true]
        exact (all.tell rfl).finish .consumed rfl
      · have alive : isDeletion (.room type roomCode sourceInstanceId emittedAt) = false := by
          cases type <;> simp_all [isDeletion]
        simp only [deleted, if_false]
        constructor
        · constructor
          · exact listed
          · exact part
          · simp
          · simp
          · simp
          · simp [Wants, recipient, alive, createMemberMessage]
          · simp
        · constructor
          · simp
          · intro waits
            exact alive

/-- The answer a handler takes up is the one it already had. -/
theorem Sound.answer (sound : h.Sound ids) {answer : Option RoomState}
    (loaded : h.roomState = none ∨ h.roomState = some answer)
    (named : ∀ state, answer = some state → state.roomCode = roomCodeOf h.message) :
    ({ h with roomState := some answer }).Sound ids := by
  have tells : ∀ d, h.Tells d → ({ h with roomState := some answer }).Tells d := by
    intro d told
    rcases told with delta | ⟨state, known, rest⟩
    · exact .inl delta
    · refine .inr ⟨state, ?_, rest⟩
      unfold toldState at known ⊢
      rcases loaded with unread | same
      · rw [unread] at known
        split at known
        · rename_i deleted
          rw [if_pos deleted]
          exact known
        · simp at known
      · rw [same] at known
        exact known
  constructor
  · exact sound.listed
  · exact sound.order
  · exact sound.recipient
  · exact fun d sent => tells d (sound.tells d sent)
  · exact sound.once
  · exact sound.wanted
  · intro state known
    apply named
    simpa using known

theorem Holds.resume (holds : h.Holds) {answer : Option RoomState}
    (waiting : h.phase.isWaiting = true)
    (loaded : h.roomState = none ∨ h.roomState = some answer)
    (named : ∀ state, answer = some state → state.roomCode = roomCodeOf h.message) :
    (h.resume sessions now answer).Holds := by
  have answered := holds.sound.answer loaded named
  have alive := holds.awaits.read waiting
  have known : ({ h with roomState := some answer } : Handler).toldState = answer := by
    simp [toldState, alive]
  cases phase : h.phase with
  | loading recipients =>
    have all : Sound (recipients ++ []) { h with roomState := some answer } := by
      have pending : h.phase.pending = recipients := by rw [phase]; rfl
      rw [pending] at answered
      rw [List.append_nil]
      exact answered
    cases answer with
    | none =>
      rw [resume_loading_none phase]
      exact all.drop.finish .dropped rfl
    | some state =>
      rw [resume_loading phase]
      exact (all.tell known).finish .consumed rfl
  | awaitingLegacyRoomState memberMessage session rest =>
    have made := holds.awaits.made memberMessage session rest phase
    have all : Sound ([session] ++ rest) { h with roomState := some answer } := by
      have pending : h.phase.pending = [session] ++ rest := by rw [phase]; rfl
      rw [pending] at answered
      exact answered
    cases answer with
    | none =>
      rw [resume_awaiting_none phase]
      exact continueDelta_holds all.pass made (by simp)
    | some state =>
      rw [resume_awaiting phase]
      exact continueDelta_holds (all.tell known) made (by simp)
  | consumed => simp [phase, Phase.isWaiting] at waiting
  | dropped => simp [phase, Phase.isWaiting] at waiting
  | failed => simp [phase, Phase.isWaiting] at waiting

theorem Holds.reject (holds : h.Holds) : ({ h with phase := .failed }).Holds :=
  holds.sound.drop.finish .failed rfl

theorem message_start (sessions : Nat → Session) (now : Nat → Rat)
    (message : RoomEventBusMessage) (localSessions : List Nat) :
    (start sessions now message localSessions).message = message := by
  cases message with
  | member type roomCode sourceInstanceId emittedAt memberId displayName => rfl
  | room type roomCode sourceInstanceId emittedAt =>
    unfold start
    simp only
    split
    · rfl
    · split <;> rfl

theorem message_resume (sessions : Nat → Session) (now : Nat → Rat) (answer : Option RoomState)
    (h : Handler) : (h.resume sessions now answer).message = h.message := by
  unfold Handler.resume
  split <;> cases answer <;> rfl

/-- The session is told, it is still to be looked at, or there was nothing to tell it. -/
def Covers (id : Nat) (h : Handler) : Prop :=
  id ∈ h.sent.map Delivery.session ∨ id ∈ h.phase.pending ∨ h.phase = .failed ∨
    h.roomState = some none

theorem covers_continueDelta {id : Nat} {message : RoomEventBusMessage}
    (recipient : isRecipient (sessions id) message = true) (handles : h.message = message)
    (covered : id ∈ h.sent.map Delivery.session ∨ id ∈ ids ∨ h.roomState = some none) :
    (h.continueDelta sessions now memberMessage ids).Covers id := by
  subst handles
  unfold continueDelta Covers
  simp only [List.map_append, List.mem_append]
  rcases covered with sent | inside | nothing
  · exact .inl (.inl sent)
  · rcases deltaLoop_covers now memberMessage inside recipient with told | pending
    · exact .inl (.inr told)
    · exact .inr (.inl pending)
  · exact .inr (.inr (.inr nothing))

theorem covers_start {message : RoomEventBusMessage} {localSessions : List Nat} {id : Nat}
    (inside : id ∈ localSessions) (recipient : isRecipient (sessions id) message = true) :
    (start sessions now message localSessions).Covers id := by
  cases message with
  | member type roomCode sourceInstanceId emittedAt memberId displayName =>
    exact covers_continueDelta recipient rfl (.inr (.inl inside))
  | room type roomCode sourceInstanceId emittedAt =>
    have kept : id ∈ localSessions.filter fun id =>
        isRecipient (sessions id) (.room type roomCode sourceInstanceId emittedAt) :=
      List.mem_filter.mpr ⟨inside, recipient⟩
    unfold start
    simp only
    cases filtered : localSessions.filter fun id =>
      isRecipient (sessions id) (.room type roomCode sourceInstanceId emittedAt) with
    | nil =>
      rw [filtered] at kept
      contradiction
    | cons first others =>
      rw [filtered] at kept
      by_cases deleted : type = .deleted
      · simp only [deleted, if_true]
        left
        rw [stateLoop_sessions]
        exact List.mem_filter.mpr ⟨kept, deleted ▸ recipient⟩
      · simp only [deleted, if_false]
        exact .inr (.inl kept)

theorem Covers.resume {id : Nat} (covers : h.Covers id)
    (recipient : isRecipient (sessions id) h.message = true) {answer : Option RoomState}
    (waiting : h.phase.isWaiting = true)
    (loaded : h.roomState = none ∨ h.roomState = some answer) :
    (h.resume sessions now answer).Covers id := by
  have unknown : answer ≠ none → h.roomState ≠ some none := by
    intro told nothing
    rw [nothing] at loaded
    rcases loaded with unread | same
    · contradiction
    · exact told (Option.some.inj same).symm
  unfold Covers at covers
  cases phase : h.phase with
  | loading recipients =>
    cases answer with
    | none =>
      rw [resume_loading_none phase]
      exact .inr (.inr (.inr rfl))
    | some state =>
      rw [resume_loading phase]
      left
      simp only [List.map_append, List.mem_append, stateLoop_sessions]
      rw [phase] at covers
      rcases covers with told | pending | failed | nothing
      · exact .inl told
      · exact .inr (List.mem_filter.mpr ⟨pending, recipient⟩)
      · contradiction
      · exact absurd nothing (unknown (by simp))
  | awaitingLegacyRoomState memberMessage session rest =>
    cases answer with
    | none =>
      rw [resume_awaiting_none phase]
      exact covers_continueDelta recipient rfl (.inr (.inr rfl))
    | some state =>
      rw [resume_awaiting phase]
      refine covers_continueDelta recipient rfl ?_
      simp only [List.map_append, List.mem_append, stateLoop_sessions]
      rw [phase] at covers
      rcases covers with told | pending | failed | nothing
      · exact .inl (.inl told)
      · rcases List.mem_cons.mp pending with rfl | later
        · exact .inl (.inr (List.mem_filter.mpr ⟨List.mem_singleton_self _, recipient⟩))
        · exact .inr (.inl later)
      · contradiction
      · exact absurd nothing (unknown (by simp))
  | consumed => simp [phase, Phase.isWaiting] at waiting
  | dropped => simp [phase, Phase.isWaiting] at waiting
  | failed => simp [phase, Phase.isWaiting] at waiting

end Sends

end Handler

/-! ## Runs -/

def Attends (id : Nat) (message : RoomEventBusMessage) (n : Node) : Prop :=
  isRecipient (n.sessions id) message = true

/-- A step at whose end the session is still where the event is told. -/
def StepAttending (id : Nat) (message : RoomEventBusMessage) (n n' : Node) : Prop :=
  Step n n' ∧ Attends id message n'

section Runs

variable {n n' u : Node} {h : Handler}

theorem Step.holds (step : Step n n') (all : ∀ h ∈ n.handlers, h.Holds) :
    ∀ h ∈ n'.handlers, h.Holds := by
  cases step with
  | change id session => exact all
  | received message localSessions listed now =>
    intro h held
    rcases List.mem_append.mp held with before | new
    · exact all h before
    · rw [List.mem_singleton.mp new]
      exact Handler.start_holds message listed
  | answered index old answer now there waiting loaded named =>
    intro h held
    rcases List.mem_or_eq_of_mem_set held with before | rfl
    · exact all h before
    · exact (all old (List.mem_of_getElem? there)).resume waiting loaded named
  | rejected index old there waiting reading =>
    intro h held
    rcases List.mem_or_eq_of_mem_set held with before | rfl
    · exact all h before
    · exact (all old (List.mem_of_getElem? there)).reject

theorem Reachable.next (reached : Reachable n) (step : Step n n') : Reachable n' := by
  obtain ⟨sessions, run⟩ := reached
  exact ⟨sessions, run.tail step⟩

theorem Reachable.holds (reached : Reachable n) : ∀ h ∈ n.handlers, h.Holds := by
  obtain ⟨sessions, run⟩ := reached
  induction run with
  | refl => simp
  | tail _ step ih => exact step.holds ih

/-- An event is told only to sessions that are in its room at that moment, a member's not to the
member itself, and to none of them twice. The room's state is read at most once for it, and for a
session that wants it. -/
theorem event_is_told_in_its_room (reached : Reachable n) (held : h ∈ n.handlers) :
    (∀ d ∈ h.sent, isRecipient d.recipient h.message = true ∧ h.Tells d) ∧
      (h.sent.map Delivery.session).Sublist h.localSessions ∧
      (h.sent.map Delivery.session).Nodup ∧
      h.reads.length ≤ 1 ∧ ∀ session ∈ h.reads, h.Wants session := by
  have sound := (reached.holds h held).sound
  exact ⟨fun d sent => ⟨sound.recipient d sent, sound.tells d sent⟩,
    (List.sublist_append_left _ _).trans sound.order, sound.nodup, sound.once, sound.wanted⟩

/-- Somebody joined a room in which a newer client and an older one are. -/
def joinedEvent : RoomEventBusMessage :=
  .member .joined (RedisRoomStore.js "ABC123") (RedisRoomStore.js "node-1") 0
    (RedisRoomStore.js "m3") (RedisRoomStore.js "Guest")

def seated (id : Nat) : Session where
  attached := true
  roomCode := some (RedisRoomStore.js "ABC123")
  memberId := none
  protocolVersion := if id = 0 then some 3 else none

def gone : Session := { seated 0 with roomCode := none }

def emptyState : RoomState := deletedRoomState (RedisRoomStore.js "ABC123")

def joined : Handler := .start seated (fun _ => 0) joinedEvent [0, 1]

/-- The newer client has left when the older one is told. -/
def consumed : Handler :=
  joined.resume (Function.update seated 0 gone) (fun _ => 5) (some emptyState)

def joinedNode : Node := { sessions := seated, handlers := [joined] }

def consumedNode : Node := { sessions := Function.update seated 0 gone, handlers := [consumed] }

theorem joined_steps :
    Relation.ReflTransGen (StepAttending 1 joinedEvent) joinedNode consumedNode := by
  have here (handlers : List Handler) :
      Attends 1 joinedEvent { sessions := Function.update seated 0 gone, handlers } := by
    change isRecipient (Function.update seated 0 gone 1) joinedEvent = true
    decide
  apply Relation.ReflTransGen.tail (.single ⟨.change _ 0 gone, here _⟩)
  refine ⟨.answered _ 0 joined (some emptyState) (fun _ => 5) rfl ?_ (.inl rfl) ?_, here _⟩
  · decide
  · intro state same
    cases same
    rfl

theorem joined_is_told_in_its_room : consumed.sent.map Delivery.session = [0, 1] ∧
    ∀ d ∈ consumed.sent, isRecipient d.recipient joinedEvent = true ∧ consumed.Tells d := by
  have steps : Reachable consumedNode := by
    refine ⟨seated, .head (.received _ joinedEvent [0, 1] (by decide) fun _ => 0) ?_⟩
    exact joined_steps.lift id fun _ _ step => step.1
  exact ⟨by decide, (event_is_told_in_its_room steps List.mem_cons_self).1⟩

/-- What the handler in this place handles, and whom it will not forget. -/
def Keeps (index id : Nat) (message : RoomEventBusMessage) (n : Node) : Prop :=
  ∃ h, n.handlers[index]? = some h ∧ h.message = message ∧ h.Covers id

theorem Keeps.put {index other id : Nat} {message : RoomEventBusMessage} {old : Handler}
    (new : Handler) (keeps : Keeps index id message n) (there : n.handlers[other]? = some old)
    (same : new.message = old.message)
    (covers : old.message = message → old.Covers id → new.Covers id) :
    Keeps index id message (n.put other new) := by
  obtain ⟨h, place, handles, covered⟩ := keeps
  unfold Keeps Node.put
  by_cases here : other = index
  · subst here
    rw [there] at place
    cases place
    have inside := (List.getElem?_eq_some_iff.mp there).1
    refine ⟨new, ?_, same.trans handles, covers handles covered⟩
    simp [inside]
  · refine ⟨h, ?_, handles, covered⟩
    rw [List.getElem?_set_ne here]
    exact place

theorem Step.keeps {index id : Nat} {message : RoomEventBusMessage} (step : Step n n')
    (attends : Attends id message n) (keeps : Keeps index id message n) :
    Keeps index id message n' := by
  cases step with
  | change other session => exact keeps
  | received event localSessions listed now =>
    obtain ⟨h, there, handles, covers⟩ := keeps
    have inside := (List.getElem?_eq_some_iff.mp there).1
    refine ⟨h, ?_, handles, covers⟩
    rw [← there]
    exact List.getElem?_append_left inside
  | answered other old answer now there waiting loaded named =>
    apply keeps.put (old.resume n.sessions now answer) there
      (old.message_resume n.sessions now answer)
    intro handles covers
    apply covers.resume _ waiting loaded
    rw [handles]
    exact attends
  | rejected other old there waiting reading =>
    apply keeps.put { old with phase := .failed } there rfl
    intro handles covers
    exact .inr (.inr (.inl rfl))

/-- A session that stays in the room from an event's arrival on is told of it exactly once,
whatever else happens at the node, unless the room's state could not be read. -/
theorem attending_session_is_told_once (reached : Reachable n) {message : RoomEventBusMessage}
    {localSessions : List Nat} (listed : localSessions.Nodup) {id : Nat}
    (inside : id ∈ localSessions) (attends : Attends id message n) {now : Nat → Rat}
    (run : Relation.ReflTransGen (StepAttending id message)
      (n.receive message localSessions now) u)
    (there : u.handlers[n.handlers.length]? = some h) (ended : h.phase.isWaiting = false) :
    (h.sent.map Delivery.session).count id = 1 ∨ h.phase = .failed ∨
      h.roomState = some none := by
  have started : Keeps n.handlers.length id message (n.receive message localSessions now) := by
    refine ⟨.start n.sessions now message localSessions, ?_, ?_, ?_⟩
    · simp [Node.receive]
    · exact Handler.message_start n.sessions now message localSessions
    · exact Handler.covers_start inside attends
  have kept : Reachable u ∧ Attends id message u ∧ Keeps n.handlers.length id message u := by
    clear there
    induction run with
    | refl => exact ⟨reached.next (.received n message localSessions listed now), attends, started⟩
    | tail _ step ih =>
      exact ⟨ih.1.next step.1, step.2, step.1.keeps ih.2.1 ih.2.2⟩
  obtain ⟨after, -, other, place, -, covers⟩ := kept
  rw [there] at place
  cases place
  rcases covers with told | pending | failed | nothing
  · left
    exact List.count_eq_one_of_mem (after.holds h (List.mem_of_getElem? there)).sound.nodup told
  · rw [Handler.pending_of_ended ended] at pending
    contradiction
  · exact .inr (.inl failed)
  · exact .inr (.inr nothing)

theorem older_client_is_told_once : (consumed.sent.map Delivery.session).count 1 = 1 := by
  have attends : Attends 1 joinedEvent { sessions := seated } := by
    unfold Attends
    decide
  exact (attending_session_is_told_once ⟨seated, .refl⟩ (by decide) (by decide) attends
    joined_steps rfl (by decide)).resolve_right (by decide)

end Runs

end BiliSyncPlay.RoomEventConsumer
