import BiliSyncPlay.Admission.UpgradeRuns
import BiliSyncPlay.Protocol.Guards

/-!
# The sockets of a node

`createWsConnectionHandler` over any number of sockets: the promise chain that handles what a
socket sent, and the cleanup after it closed. A step is one synchronous stretch. What a handled
message does is left open, as are the calls of the cleanup, each of which may throw.
-/

namespace BiliSyncPlay.WsSession

open Json Admission

/-- What arrived on a socket, by how far the callback of the queue takes it. -/
inductive Frame where
  | invalidJson
  | invalidClientMessage
  | clientMessage
  deriving DecidableEq

/-- What `JSON.parse` made of the text, or that it threw. -/
def Frame.of (URL : JsString → Option Protocol.Url) : Option Protocol.Unknown → Frame
  | none => .invalidJson
  | some parsed =>
    if Protocol.isClientMessage URL parsed then .clientMessage else .invalidClientMessage

/-- What the callback tells the socket with `sendError`. -/
inductive ErrorAnswer where
  | invalidJson
  | invalidClientMessage
  | internalError
  deriving DecidableEq

def ErrorAnswer.code : ErrorAnswer → String
  | .invalidJson | .invalidClientMessage => "invalid_message"
  | .internalError => "internal_error"

def ErrorAnswer.message : ErrorAnswer → String
  | .invalidJson => "Invalid JSON message."
  | .invalidClientMessage => "Invalid client message payload."
  | .internalError => "Internal server error."

inductive LinkState where
  | waiting
  /-- `handleClientMessage` has not answered. -/
  | handling
  | settled
  deriving DecidableEq

/-- One promise of the chain. -/
structure Link where
  frame : Frame
  /-- The promise it was chained to. -/
  after : Option Nat
  state : LinkState := .waiting
  deriving DecidableEq

inductive Cleanup where
  | connected
  /-- The socket closed with this promise at the end of the chain. -/
  | draining (inFlightMessageHandling : Option Nat)
  | leaving (timedOut : Bool)
  | finished (timedOut : Bool) (failures : List String)
  deriving DecidableEq

structure Socket where
  remoteAddress : Option JsString
  links : List Link := []
  messageQueue : Option Nat := none
  invalidMessageCount : Nat := 0
  cleanup : Cleanup := .connected
  /-- What the callback took up, in that order. -/
  handled : List Frame := []
  answers : List ErrorAnswer := []
  /-- Calls of `socket.close` with the code of a policy violation. -/
  policyCloses : Nat := 0
  /-- How much had arrived when the socket closed. -/
  arrivedAtClose : Nat := 0
  leaveRoomCalls : Nat := 0
  unregisterCalls : Nat := 0
  deriving DecidableEq

namespace Socket

/-- Whether a promise of the chain has settled; the chain starts with one that has. -/
def hasSettled (s : Socket) : Option Nat → Bool
  | none => true
  | some index => s.links[index]?.any fun link => decide (link.state = .settled)

def setState (index : Nat) (state : LinkState) (s : Socket) : Socket :=
  { s with links := s.links.modify index fun link => { link with state } }

/-- `socket.on("message")`. -/
def onMessage (frame : Frame) (s : Socket) : Socket :=
  { s with
    links := s.links ++ [{ frame, after := s.messageQueue }]
    messageQueue := some s.links.length }

def countInvalidMessage (invalidMessageCloseThreshold : Nat) (s : Socket) : Socket :=
  let count := s.invalidMessageCount + 1
  { s with
    invalidMessageCount := count
    policyCloses :=
      if invalidMessageCloseThreshold ≤ count then s.policyCloses + 1 else s.policyCloses }

def sendError (answer : ErrorAnswer) (s : Socket) : Socket :=
  { s with answers := s.answers ++ [answer] }

/-- The callback of the queue up to its first await. -/
def callback (invalidMessageCloseThreshold : Nat) (index : Nat) (frame : Frame) (s : Socket) :
    Socket :=
  let s := { s with handled := s.handled ++ [frame] }
  match frame with
  | .invalidJson =>
    ((s.sendError .invalidJson).countInvalidMessage invalidMessageCloseThreshold).setState index
      .settled
  | .invalidClientMessage =>
    ((s.sendError .invalidClientMessage).countInvalidMessage
      invalidMessageCloseThreshold).setState index .settled
  | .clientMessage => s.setState index .handling

/-- `handleClientMessage` answered, or threw. -/
def afterMessage (threw : Bool) (index : Nat) (s : Socket) : Socket :=
  (if threw then s.sendError .internalError else s).setState index .settled

/-- `socket.on("close")`. -/
def onClose (s : Socket) : Socket :=
  { s with cleanup := .draining s.messageQueue, arrivedAtClose := s.links.length }

/-- The race of the drain is decided, and `leaveRoom` is called. -/
def leaveRoom (timedOut : Bool) (s : Socket) : Socket :=
  { s with cleanup := .leaving timedOut, leaveRoomCalls := s.leaveRoomCalls + 1 }

/-- The steps whose failure is logged. -/
def failures (leaveThrew unregisterThrew : Bool) : List String :=
  (if leaveThrew then ["leave_room"] else []) ++
    if unregisterThrew then ["unregister_session"] else []

/-- `leaveRoom` answered or threw; the session is unregistered. -/
def finish (timedOut leaveThrew unregisterThrew : Bool) (s : Socket) : Socket :=
  { s with
    cleanup := .finished timedOut (failures leaveThrew unregisterThrew)
    unregisterCalls := s.unregisterCalls + 1 }

end Socket

/-- What happens on one socket between its connection, its close and the end of its cleanup. -/
inductive SocketStep (threshold : Nat) : Socket → Socket → Prop where
  | message (s : Socket) (URL : JsString → Option Protocol.Url)
    (parsed : Option Protocol.Unknown) : SocketStep threshold s (s.onMessage (.of URL parsed))
  | callback (s : Socket) (index : Nat) (link : Link) (there : s.links[index]? = some link)
    (waiting : link.state = .waiting) (ready : s.hasSettled link.after = true) :
    SocketStep threshold s (s.callback threshold index link.frame)
  | handled (s : Socket) (index : Nat) (link : Link) (threw : Bool)
    (there : s.links[index]? = some link) (handling : link.state = .handling) :
    SocketStep threshold s (s.afterMessage threw index)
  | drained (s : Socket) (inFlight : Option Nat) (draining : s.cleanup = .draining inFlight)
    (settled : s.hasSettled inFlight = true) : SocketStep threshold s (s.leaveRoom false)
  | drainTimeout (s : Socket) (inFlight : Option Nat) (draining : s.cleanup = .draining inFlight) :
    SocketStep threshold s (s.leaveRoom true)

structure Node where
  securityPolicy : SecurityPolicy := {}
  sockets : List Socket := []
  /-- The cleanups that have not ended, by their sockets. -/
  pendingSessionCleanup : List Nat := []
  isShuttingDown : Bool := false

namespace Node

/-- `wss.on("connection")`. -/
def onConnection (remoteAddress : Option JsString) (n : Node) : Node :=
  { n with
    securityPolicy := incrementConnectionCount n.securityPolicy remoteAddress
    sockets := n.sockets ++ [{ remoteAddress }] }

/-- An upgrade request; `completed` tells whether `wss` completes the handshake when it may. -/
def onUpgrade (URL : JsString → Option Origin) (config : SecurityConfig) (now : Int)
    (request : UpgradeRequest) (completed : Bool) (n : Node) : Node :=
  if n.isShuttingDown then n
  else
    let evaluated := evaluateUpgrade URL config n.securityPolicy now request
    let n := { n with securityPolicy := evaluated.2 }
    match evaluated.1 with
    | .ok context => if completed then n.onConnection context.remoteAddress else n
    | .refused .. => n

def put (id : Nat) (socket : Socket) (n : Node) : Node :=
  { n with sockets := n.sockets.set id socket }

def onClose (id : Nat) (socket : Socket) (n : Node) : Node :=
  { n.put id socket.onClose with
    pendingSessionCleanup := n.pendingSessionCleanup ++ [id] }

/-- The end of `cleanupSessionAfterClose`. -/
def finish (id : Nat) (socket : Socket) (timedOut leaveThrew unregisterThrew : Bool) (n : Node) :
    Node :=
  { n.put id (socket.finish timedOut leaveThrew unregisterThrew) with
    securityPolicy := decrementConnectionCount n.securityPolicy socket.remoteAddress
    pendingSessionCleanup := n.pendingSessionCleanup.filter (· ≠ id) }

end Node

section Steps

variable (URL : JsString → Option Origin) (config : SecurityConfig) (threshold : Nat)

inductive Step : Node → Node → Prop where
  | upgrade (n : Node) (now : Int) (request : UpgradeRequest) (completed : Bool) :
    Step n (n.onUpgrade URL config now request completed)
  | shutdown (n : Node) : Step n { n with isShuttingDown := true }
  | act (n : Node) (id : Nat) (socket socket' : Socket) (there : n.sockets[id]? = some socket)
    (acts : SocketStep threshold socket socket') : Step n (n.put id socket')
  | close (n : Node) (id : Nat) (socket : Socket) (there : n.sockets[id]? = some socket)
    (connected : socket.cleanup = .connected) : Step n (n.onClose id socket)
  | finish (n : Node) (id : Nat) (socket : Socket) (timedOut leaveThrew unregisterThrew : Bool)
    (there : n.sockets[id]? = some socket) (leaving : socket.cleanup = .leaving timedOut) :
    Step n (n.finish id socket timedOut leaveThrew unregisterThrew)

def Reachable : Node → Prop := Relation.ReflTransGen (Step URL config threshold) {}

end Steps

/-! ## One socket -/

def Frame.isInvalid : Frame → Bool
  | .invalidJson | .invalidClientMessage => true
  | .clientMessage => false

def Socket.frames (s : Socket) : List Frame := s.links.map Link.frame

/-- The first `done` promises have settled, and the callbacks behind the next one have not run. -/
structure Socket.Chained (done : Nat) (s : Socket) : Prop where
  after : ∀ (index : Nat) (link : Link), s.links[index]? = some link →
    link.after = if index = 0 then none else some (index - 1)
  queue : s.messageQueue = if s.links.length = 0 then none else some (s.links.length - 1)
  size : done ≤ s.links.length
  settled : ∀ (index : Nat) (link : Link), index < done → s.links[index]? = some link →
    link.state = .settled
  behind : ∀ (index : Nat) (link : Link), done < index → s.links[index]? = some link →
    link.state = .waiting
  turn : ((∀ link, s.links[done]? = some link → link.state = .waiting) ∧
      s.handled = s.frames.take done) ∨
    (∃ link, s.links[done]? = some link ∧ link.state = .handling) ∧
      s.handled = s.frames.take (done + 1)

def Cleanup.hasLeft : Cleanup → Bool
  | .connected | .draining _ => false
  | .leaving .. | .finished .. => true

def Cleanup.isOver : Cleanup → Bool
  | .finished .. => true
  | .connected | .draining _ | .leaving .. => false

/-- The cleanup left the room because the drain had ended. -/
def Cleanup.drained : Cleanup → Bool
  | .leaving timedOut | .finished timedOut _ => !timedOut
  | .connected | .draining _ => false

/-- What the cleanup has called so far, and that it did not go ahead of the messages. -/
structure Socket.CleansUp (done : Nat) (s : Socket) : Prop where
  left : s.leaveRoomCalls = if s.cleanup.hasLeft then 1 else 0
  unregistered : s.unregisterCalls = if s.cleanup.isOver then 1 else 0
  inFlight : ∀ last, s.cleanup = .draining last →
    last = if s.arrivedAtClose = 0 then none else some (s.arrivedAtClose - 1)
  waited : s.cleanup.drained = true → s.arrivedAtClose ≤ done
  arrived : s.arrivedAtClose ≤ s.links.length

/-- What the callbacks counted, and the closes they asked for. -/
def Socket.Counts (threshold : Nat) (s : Socket) : Prop :=
  s.invalidMessageCount = s.handled.countP Frame.isInvalid ∧
    s.policyCloses = s.invalidMessageCount - (threshold - 1)

section Sockets

variable {threshold index done : Nat} {s s' : Socket} {state : LinkState} {link : Link}

theorem getElem?_setState (s : Socket) (index other : Nat) (state : LinkState) :
    (s.setState index state).links[other]? =
      (s.links[other]?).map fun link => if index = other then { link with state } else link := by
  unfold Socket.setState
  rw [List.getElem?_modify]
  by_cases same : index = other <;> simp [same]

theorem frames_setState (s : Socket) (index : Nat) (state : LinkState) :
    (s.setState index state).frames = s.frames := by
  apply List.ext_getElem?
  intro other
  unfold Socket.frames
  rw [List.getElem?_map, List.getElem?_map, getElem?_setState, Option.map_map]
  congr 1
  funext link
  by_cases same : index = other <;> simp [same]

/-- What one promise of the chain becomes, the others left as they are. -/
structure Becomes (index : Nat) (state : LinkState) (s s' : Socket) : Prop where
  links : s'.links = (s.setState index state).links
  queue : s'.messageQueue = s.messageQueue

theorem Becomes.frames (h : Becomes index state s s') : s'.frames = s.frames := by
  rw [← frames_setState s index state]
  unfold Socket.frames
  rw [h.links]

theorem Becomes.length (h : Becomes index state s s') : s'.links.length = s.links.length := by
  rw [h.links]
  simp [Socket.setState]

theorem Becomes.cases {other : Nat} (h : Becomes index state s s')
    (there : s'.links[other]? = some link) :
    ∃ old, s.links[other]? = some old ∧
      link = if index = other then { old with state } else old := by
  rw [h.links, getElem?_setState] at there
  obtain ⟨old, before, rfl⟩ := Option.map_eq_some_iff.mp there
  exact ⟨old, before, rfl⟩

theorem Socket.Chained.lt_of_settled (h : s.Chained done) (there : s.links[index]? = some link)
    (settled : link.state = .settled) : index < done := by
  by_contra outside
  rcases Nat.lt_or_eq_of_le (Nat.le_of_not_lt outside) with behind | same
  · have waiting := h.behind index link behind there
    rw [waiting] at settled
    contradiction
  · subst same
    rcases h.turn with ⟨waits, -⟩ | ⟨⟨other, at_done, handling⟩, -⟩
    · have waiting := waits link there
      rw [waiting] at settled
      contradiction
    · rw [there] at at_done
      cases at_done
      rw [handling] at settled
      contradiction

/-- A promise that is still to be settled is none of the first ones. -/
theorem Socket.Chained.le_of_unsettled (h : s.Chained done) (there : s.links[index]? = some link)
    (unsettled : link.state ≠ .settled) : done ≤ index := by
  by_contra before
  exact unsettled (h.settled index link (Nat.lt_of_not_le before) there)

theorem hasSettled_some {inFlight : Nat} (there : s.links[inFlight]? = some link) :
    s.hasSettled (some inFlight) = true ↔ link.state = .settled := by
  simp [Socket.hasSettled, there]

section
variable (h : s.Chained done)
include h

/-- The callback whose turn it is. -/
theorem Socket.Chained.turn_of_ready (there : s.links[index]? = some link)
    (waiting : link.state = .waiting) (ready : s.hasSettled link.after = true) :
    index = done := by
  have beyond : done ≤ index := by
    apply h.le_of_unsettled there
    rw [waiting]
    decide
  rw [h.after index link there] at ready
  by_cases first : index = 0
  · omega
  · rw [if_neg first] at ready
    have inside : index - 1 < s.links.length := by
      have bound := (List.getElem?_eq_some_iff.mp there).1
      omega
    have settled := (hasSettled_some (List.getElem?_eq_getElem inside)).mp ready
    have earlier := h.lt_of_settled (List.getElem?_eq_getElem inside) settled
    omega

theorem Socket.Chained.turn_of_handling (there : s.links[index]? = some link)
    (handling : link.state = .handling) :
    index = done ∧ s.handled = s.frames.take (done + 1) := by
  have beyond : done ≤ index := by
    apply h.le_of_unsettled there
    rw [handling]
    decide
  have same : index = done := by
    by_contra other
    have waiting := h.behind index link (Nat.lt_of_le_of_ne beyond (Ne.symm other)) there
    rw [waiting] at handling
    contradiction
  subst same
  rcases h.turn with ⟨waits, -⟩ | ⟨-, handled⟩
  · have waiting := waits link there
    rw [waiting] at handling
    contradiction
  · exact ⟨rfl, handled⟩

theorem Socket.Chained.message (frame : Frame) :
    (s.onMessage frame).Chained done := by
  have frames : (s.onMessage frame).frames = s.frames ++ [frame] := by
    simp [Socket.onMessage, Socket.frames]
  have size : s.frames.length = s.links.length := by simp [Socket.frames]
  have last : (s.onMessage frame).links[s.links.length]? =
      some { frame, after := s.messageQueue } := by
    simp [Socket.onMessage]
  have old : ∀ index < s.links.length, (s.onMessage frame).links[index]? = s.links[index]? := by
    intro index inside
    exact List.getElem?_append_left inside
  have cases : ∀ (index : Nat) (link : Link), (s.onMessage frame).links[index]? = some link →
      s.links[index]? = some link ∨
        index = s.links.length ∧ link = { frame, after := s.messageQueue } := by
    intro index link there
    have bound := (List.getElem?_eq_some_iff.mp there).1
    simp only [Socket.onMessage, List.length_append, List.length_singleton] at bound
    by_cases inside : index < s.links.length
    · rw [old index inside] at there
      exact .inl there
    · have same : index = s.links.length := by omega
      subst same
      rw [last] at there
      cases there
      exact .inr ⟨rfl, rfl⟩
  constructor
  · intro index link there
    rcases cases index link there with before | ⟨rfl, rfl⟩
    · exact h.after index link before
    · exact h.queue
  · simp [Socket.onMessage]
  · simp only [Socket.onMessage, List.length_append, List.length_singleton]
    exact Nat.le_succ_of_le h.size
  · intro index link earlier there
    rw [old index (Nat.lt_of_lt_of_le earlier h.size)] at there
    exact h.settled index link earlier there
  · intro index link later there
    rcases cases index link there with before | ⟨rfl, rfl⟩
    · exact h.behind index link later before
    · rfl
  · rw [frames]
    rcases h.turn with ⟨waits, handled⟩ | ⟨⟨link, there, handling⟩, handled⟩
    · left
      constructor
      · intro link there
        rcases cases done link there with before | ⟨-, rfl⟩
        · exact waits link before
        · rfl
      · rw [List.take_append_of_le_length (by rw [size]; exact h.size)]
        exact handled
    · right
      have inside := (List.getElem?_eq_some_iff.mp there).1
      constructor
      · exact ⟨link, (old done inside).trans there, handling⟩
      · rw [List.take_append_of_le_length (by rw [size]; exact inside)]
        exact handled

/-- The promise whose turn it was settles. -/
theorem Socket.Chained.settle (there : s.links[done]? = some link)
    (becomes : Becomes done .settled s s') (handled : s'.handled = s.frames.take (done + 1)) :
    s'.Chained (done + 1) := by
  constructor
  · intro index link there
    obtain ⟨old, before, rfl⟩ := becomes.cases there
    have after := h.after index old before
    split <;> exact after
  · rw [becomes.queue, becomes.length]
    exact h.queue
  · rw [becomes.length]
    exact (List.getElem?_eq_some_iff.mp there).1
  · intro index link earlier there
    obtain ⟨old, before, rfl⟩ := becomes.cases there
    by_cases same : done = index
    · simp [same]
    · rw [if_neg same]
      exact h.settled index old (by omega) before
  · intro index link later there
    obtain ⟨old, before, rfl⟩ := becomes.cases there
    rw [if_neg (by omega)]
    exact h.behind index old (by omega) before
  · left
    constructor
    · intro link there
      obtain ⟨old, before, rfl⟩ := becomes.cases there
      rw [if_neg (by omega)]
      exact h.behind _ old (by omega) before
    · rw [becomes.frames]
      exact handled

/-- The promise whose turn it was is being handled. -/
theorem Socket.Chained.handle (there : s.links[done]? = some link)
    (becomes : Becomes done .handling s s') (handled : s'.handled = s.frames.take (done + 1)) :
    s'.Chained done := by
  constructor
  · intro index link there
    obtain ⟨old, before, rfl⟩ := becomes.cases there
    have after := h.after index old before
    split <;> exact after
  · rw [becomes.queue, becomes.length]
    exact h.queue
  · rw [becomes.length]
    exact h.size
  · intro index link earlier there
    obtain ⟨old, before, rfl⟩ := becomes.cases there
    rw [if_neg (by omega)]
    exact h.settled index old earlier before
  · intro index link later there
    obtain ⟨old, before, rfl⟩ := becomes.cases there
    rw [if_neg (by omega)]
    exact h.behind index old later before
  · right
    constructor
    · rw [becomes.links, getElem?_setState, there]
      simp
    · rw [becomes.frames]
      exact handled

/-- The callback whose turn it is takes up the next frame. -/
theorem Socket.Chained.next (there : s.links[done]? = some link) (waiting : link.state = .waiting) :
    s.handled ++ [link.frame] = s.frames.take (done + 1) := by
  have at_done : s.frames[done]? = some link.frame := by simp [Socket.frames, there]
  rcases h.turn with ⟨-, handled⟩ | ⟨⟨other, there', handling⟩, -⟩
  · rw [handled, List.take_add_one, at_done]
    rfl
  · rw [there] at there'
    cases there'
    rw [waiting] at handling
    contradiction

end

structure Socket.Valid (threshold done : Nat) (s : Socket) : Prop where
  chained : s.Chained done
  counts : s.Counts threshold
  cleansUp : s.CleansUp done

theorem Socket.CleansUp.later {next : Nat} (h : s.CleansUp done) (le : done ≤ next)
    (longer : s.links.length ≤ s'.links.length)
    (cleanup : s'.cleanup = s.cleanup) (arrived : s'.arrivedAtClose = s.arrivedAtClose)
    (left : s'.leaveRoomCalls = s.leaveRoomCalls)
    (unregistered : s'.unregisterCalls = s.unregisterCalls) : s'.CleansUp next := by
  constructor
  · rw [cleanup, left, h.left]
  · rw [cleanup, unregistered, h.unregistered]
  · intro last draining
    rw [cleanup] at draining
    rw [arrived]
    exact h.inFlight last draining
  · intro drained
    rw [cleanup] at drained
    rw [arrived]
    exact Nat.le_trans (h.waited drained) le
  · rw [arrived]
    exact Nat.le_trans h.arrived longer

theorem Socket.Counts.invalid (h : s.Counts threshold) (frame : Frame)
    (invalid : frame.isInvalid = true)
    (handled : s'.handled = s.handled ++ [frame])
    (count : s'.invalidMessageCount = s.invalidMessageCount + 1)
    (closes : s'.policyCloses =
      if threshold ≤ s.invalidMessageCount + 1 then s.policyCloses + 1 else s.policyCloses) :
    s'.Counts threshold := by
  obtain ⟨counted, closed⟩ := h
  constructor
  · rw [count, handled, counted]
    simp [invalid]
  · rw [closes, count, closed]
    split <;> omega

theorem length_callback (s : Socket) (threshold index : Nat) (frame : Frame) :
    (s.callback threshold index frame).links.length = s.links.length := by
  cases frame <;>
    simp [Socket.callback, Socket.setState, Socket.sendError, Socket.countInvalidMessage]

theorem length_afterMessage (s : Socket) (threw : Bool) (index : Nat) :
    (s.afterMessage threw index).links.length = s.links.length := by
  cases threw <;> simp [Socket.afterMessage, Socket.setState, Socket.sendError]

section
variable (h : s.Valid threshold done)
include h

theorem Socket.Valid.callback (there : s.links[index]? = some link)
    (waiting : link.state = .waiting) (ready : s.hasSettled link.after = true) :
    ∃ next, done ≤ next ∧ (s.callback threshold index link.frame).Valid threshold next := by
  have turn := h.chained.turn_of_ready there waiting ready
  subst turn
  have taken := h.chained.next there waiting
  cases frame : link.frame with
  | invalidJson =>
    rw [frame] at taken
    refine ⟨index + 1, Nat.le_succ _, h.chained.settle there ⟨rfl, rfl⟩ taken,
      h.counts.invalid .invalidJson rfl rfl rfl rfl,
      h.cleansUp.later (Nat.le_succ _) (length_callback ..).ge rfl rfl rfl rfl⟩
  | invalidClientMessage =>
    rw [frame] at taken
    refine ⟨index + 1, Nat.le_succ _, h.chained.settle there ⟨rfl, rfl⟩ taken,
      h.counts.invalid .invalidClientMessage rfl rfl rfl rfl,
      h.cleansUp.later (Nat.le_succ _) (length_callback ..).ge rfl rfl rfl rfl⟩
  | clientMessage =>
    rw [frame] at taken
    obtain ⟨counted, closed⟩ := h.counts
    refine ⟨index, Nat.le_refl _, h.chained.handle there ⟨rfl, rfl⟩ taken, ⟨?_, closed⟩,
      h.cleansUp.later (Nat.le_refl _) (length_callback ..).ge rfl rfl rfl rfl⟩
    simpa [Socket.callback, Socket.setState, Frame.isInvalid] using counted

theorem Socket.Valid.afterMessage (threw : Bool) (there : s.links[index]? = some link)
    (handling : link.state = .handling) :
    ∃ next, done ≤ next ∧ (s.afterMessage threw index).Valid threshold next := by
  obtain ⟨turn, handled⟩ := h.chained.turn_of_handling there handling
  subst turn
  cases threw with
  | true =>
    exact ⟨index + 1, Nat.le_succ _, h.chained.settle there ⟨rfl, rfl⟩ handled, h.counts,
      h.cleansUp.later (Nat.le_succ _) (length_afterMessage ..).ge rfl rfl rfl rfl⟩
  | false =>
    exact ⟨index + 1, Nat.le_succ _, h.chained.settle there ⟨rfl, rfl⟩ handled, h.counts,
      h.cleansUp.later (Nat.le_succ _) (length_afterMessage ..).ge rfl rfl rfl rfl⟩

theorem Socket.Valid.message (frame : Frame) :
    (s.onMessage frame).Valid threshold done :=
  ⟨h.chained.message frame, h.counts,
    h.cleansUp.later (Nat.le_refl _) (by simp [Socket.onMessage]) rfl rfl rfl rfl⟩

theorem Socket.Valid.close (connected : s.cleanup = .connected) :
    s.onClose.Valid threshold done := by
  have left := h.cleansUp.left
  have unregistered := h.cleansUp.unregistered
  rw [connected] at left unregistered
  refine ⟨⟨h.chained.after, h.chained.queue, h.chained.size, h.chained.settled, h.chained.behind,
    h.chained.turn⟩, h.counts, ⟨left, unregistered, ?_, by simp [Socket.onClose, Cleanup.drained],
      le_refl _⟩⟩
  intro last draining
  cases draining
  exact h.chained.queue

theorem Socket.Valid.leave {last : Option Nat} {timedOut : Bool}
    (draining : s.cleanup = .draining last) (waited : timedOut = false → s.hasSettled last = true) :
    (s.leaveRoom timedOut).Valid threshold done := by
  have left := h.cleansUp.left
  have unregistered := h.cleansUp.unregistered
  have inFlight := h.cleansUp.inFlight last draining
  rw [draining] at left unregistered
  refine ⟨⟨h.chained.after, h.chained.queue, h.chained.size, h.chained.settled, h.chained.behind,
    h.chained.turn⟩, h.counts, ⟨?_, unregistered, by simp [Socket.leaveRoom], ?_,
      h.cleansUp.arrived⟩⟩
  · simp only [Socket.leaveRoom, left]
    rfl
  · intro drained
    cases timedOut with
    | true => simp [Socket.leaveRoom, Cleanup.drained] at drained
    | false =>
      have settled := waited rfl
      by_cases nothing : s.arrivedAtClose = 0
      · simp [Socket.leaveRoom, nothing]
      · rw [if_neg nothing] at inFlight
        subst inFlight
        obtain ⟨link, there, state⟩ := (Option.any_eq_true _ _).mp settled
        have earlier := h.chained.lt_of_settled there (of_decide_eq_true state)
        simp only [Socket.leaveRoom]
        omega

theorem Socket.Valid.finish {timedOut : Bool} (leaveThrew unregisterThrew : Bool)
    (leaving : s.cleanup = .leaving timedOut) :
    (s.finish timedOut leaveThrew unregisterThrew).Valid threshold done := by
  have left := h.cleansUp.left
  have unregistered := h.cleansUp.unregistered
  have waited := h.cleansUp.waited
  rw [leaving] at left unregistered waited
  refine ⟨⟨h.chained.after, h.chained.queue, h.chained.size, h.chained.settled, h.chained.behind,
    h.chained.turn⟩, h.counts, ⟨left, ?_, by simp [Socket.finish], waited,
      h.cleansUp.arrived⟩⟩
  simp only [Socket.finish, unregistered]
  rfl

theorem Socket.Valid.step (step : SocketStep threshold s s') :
    ∃ next, s'.Valid threshold next := by
  cases step with
  | message URL parsed => exact ⟨done, h.message _⟩
  | callback index link there waiting ready =>
    obtain ⟨next, -, valid⟩ := h.callback there waiting ready
    exact ⟨next, valid⟩
  | handled index link threw there handling =>
    obtain ⟨next, -, valid⟩ := h.afterMessage threw there handling
    exact ⟨next, valid⟩
  | drained inFlight draining settled => exact ⟨done, h.leave draining fun _ => settled⟩
  | drainTimeout inFlight draining => exact ⟨done, h.leave draining (by simp)⟩

end

/-- No step of a socket is the end of its cleanup, or changes where it came from. -/
theorem step_address (step : SocketStep threshold s s') :
    s'.remoteAddress = s.remoteAddress ∧ s'.cleanup.isOver = s.cleanup.isOver ∧
      (s'.cleanup = .connected ↔ s.cleanup = .connected) := by
  cases step with
  | message URL parsed => exact ⟨rfl, rfl, Iff.rfl⟩
  | callback index link there waiting ready =>
    cases frame : link.frame <;> exact ⟨rfl, rfl, Iff.rfl⟩
  | handled index link threw there handling => cases threw <;> exact ⟨rfl, rfl, Iff.rfl⟩
  | drained inFlight draining settled => simp [Socket.leaveRoom, draining, Cleanup.isOver]
  | drainTimeout inFlight draining => simp [Socket.leaveRoom, draining, Cleanup.isOver]

end Sockets

/-! ## All sockets of a node -/

/-- The socket takes one of the connections its address may have. -/
def Socket.charges (address : JsString) (s : Socket) : Bool :=
  decide (s.remoteAddress = some address) && !s.cleanup.isOver

/-- The cleanup of the socket is under way. -/
def Socket.isClosing (s : Socket) : Bool := s.cleanup ≠ .connected && !s.cleanup.isOver

/-- Every socket is served in order, every address is charged for the sockets from it whose
cleanup has not ended, and the pending cleanups are those under way. -/
structure Node.Valid (config : SecurityConfig) (threshold : Nat) (n : Node) : Prop where
  served : ∀ socket ∈ n.sockets, ∃ done, socket.Valid threshold done
  charged : ∀ address, n.securityPolicy.connections address =
    n.sockets.countP (Socket.charges address)
  bounded : ∀ address, n.securityPolicy.connections address ≤ config.maxConnectionsPerIp
  named : ∀ socket ∈ n.sockets, socket.remoteAddress ≠ some []
  pending : ∀ id, id ∈ n.pendingSessionCleanup ↔
    (n.sockets[id]?).any Socket.isClosing = true

section Nodes

variable {URL : JsString → Option Origin} {config : SecurityConfig} {threshold : Nat}
  {n n' : Node} {id : Nat} {socket socket' : Socket} {address : JsString}

theorem countP_put (p : Socket → Bool) (socket' : Socket)
    (there : n.sockets[id]? = some socket) :
    (n.put id socket').sockets.countP p + (if p socket = true then 1 else 0) =
      n.sockets.countP p + if p socket' = true then 1 else 0 := by
  obtain ⟨inside, rfl⟩ := List.getElem?_eq_some_iff.mp there
  have counted : p n.sockets[id] = true → 0 < n.sockets.countP p := by
    intro holds
    exact List.countP_pos_iff.mpr ⟨_, List.getElem_mem inside, holds⟩
  simp only [Node.put, List.countP_set inside]
  by_cases holds : p n.sockets[id] = true
  · have positive := counted holds
    simp only [holds, if_true]
    omega
  · simp [holds]

theorem getElem?_put (there : n.sockets[id]? = some socket) (other : Nat) :
    (n.put id socket').sockets[other]? =
      if other = id then some socket' else n.sockets[other]? := by
  have inside := (List.getElem?_eq_some_iff.mp there).1
  simp only [Node.put, List.getElem?_set]
  by_cases same : id = other
  · subst same
    simp [inside]
  · rw [if_neg same, if_neg (Ne.symm same)]

theorem mem_put {other : Socket} (mem : other ∈ (n.put id socket').sockets) :
    other = socket' ∨ other ∈ n.sockets := (List.mem_or_eq_of_mem_set mem).symm

theorem valid_initial : ({} : Node).Valid config threshold := by
  constructor <;> simp [SecurityPolicy.connections]

theorem socket_initial (remoteAddress : Option JsString) :
    ({ remoteAddress } : Socket).Valid threshold 0 := by
  refine ⟨⟨?_, rfl, le_refl _, ?_, ?_, ?_⟩, ⟨rfl, ?_⟩, ⟨rfl, rfl, ?_, ?_, le_refl _⟩⟩ <;>
    simp [Socket.frames, Cleanup.drained]

section
variable (h : n.Valid config threshold)
include h

/-- The policy may change whatever it does not count. -/
theorem Node.Valid.evaluate {policy : SecurityPolicy}
    (same : ∀ address, policy.connections address = n.securityPolicy.connections address) :
    ({ n with securityPolicy := policy } : Node).Valid config threshold := by
  refine ⟨h.served, ?_, ?_, h.named, h.pending⟩
  · intro address
    rw [same, h.charged]
  · intro address
    rw [same]
    exact h.bounded address

theorem Node.Valid.connection {remoteAddress : Option JsString} (named : remoteAddress ≠ some [])
    (room : ∀ address, remoteAddress = some address →
      n.securityPolicy.connections address < config.maxConnectionsPerIp) :
    (n.onConnection remoteAddress).Valid config threshold := by
  have counts : ∀ address,
      (incrementConnectionCount n.securityPolicy remoteAddress).connections address =
        n.securityPolicy.connections address + if remoteAddress = some address then 1 else 0 := by
    intro address
    cases remoteAddress with
    | none => rfl
    | some own =>
      rw [connections_increment _ (by simpa using named)]
      simp
  constructor
  · intro socket mem
    rcases List.mem_append.mp mem with old | new
    · exact h.served socket old
    · rw [List.mem_singleton.mp new]
      exact ⟨0, socket_initial remoteAddress⟩
  · intro address
    simp only [Node.onConnection, counts, h.charged, List.countP_append, List.countP_singleton]
    simp [Socket.charges, Cleanup.isOver]
  · intro address
    simp only [Node.onConnection, counts]
    split
    · exact room address ‹_›
    · exact h.bounded address
  · intro socket mem
    rcases List.mem_append.mp mem with old | new
    · exact h.named socket old
    · rw [List.mem_singleton.mp new]
      exact named
  · intro id
    simp only [Node.onConnection, h.pending]
    by_cases inside : id < n.sockets.length
    · rw [List.getElem?_append_left inside]
    · rw [List.getElem?_eq_none (by omega), List.getElem?_append_right (by omega)]
      by_cases last : id - n.sockets.length = 0
      · simp [last, Socket.isClosing]
      · rw [List.getElem?_eq_none (by simp; omega)]

theorem Node.Valid.served_put (served : ∃ done, socket'.Valid threshold done) :
    ∀ other ∈ (n.put id socket').sockets, ∃ done, other.Valid threshold done := by
  intro other mem
  rcases mem_put mem with rfl | old
  · exact served
  · exact h.served other old

theorem Node.Valid.named_put (there : n.sockets[id]? = some socket)
    (address : socket'.remoteAddress = socket.remoteAddress) :
    ∀ other ∈ (n.put id socket').sockets, other.remoteAddress ≠ some [] := by
  intro other mem
  rcases mem_put mem with rfl | old
  · rw [address]
    exact h.named socket (List.mem_of_getElem? there)
  · exact h.named other old

/-- A socket takes a step that leaves its address charged as it was. -/
theorem Node.Valid.act (there : n.sockets[id]? = some socket)
    (acts : SocketStep threshold socket socket') : (n.put id socket').Valid config threshold := by
  obtain ⟨address, same, connected⟩ := step_address acts
  obtain ⟨done, valid⟩ := h.served socket (List.mem_of_getElem? there)
  refine ⟨h.served_put (valid.step acts), ?_, h.bounded, h.named_put there address, ?_⟩
  · intro charged
    have counted := countP_put (Socket.charges charged) socket' there
    have kept : socket'.charges charged = socket.charges charged := by
      simp [Socket.charges, address, same]
    rw [kept] at counted
    have charge := h.charged charged
    simp only [Node.put] at counted ⊢
    omega
  · intro other
    have closing : socket'.isClosing = socket.isClosing := by
      simp [Socket.isClosing, same, connected]
    rw [getElem?_put there]
    by_cases own : other = id
    · subst own
      simp only [Node.put, h.pending, there, if_true, Option.any_some, closing]
    · rw [if_neg own]
      exact h.pending other

theorem Node.Valid.close (there : n.sockets[id]? = some socket)
    (connected : socket.cleanup = .connected) :
    (n.onClose id socket).Valid config threshold := by
  obtain ⟨done, valid⟩ := h.served socket (List.mem_of_getElem? there)
  refine ⟨h.served_put ⟨done, valid.close connected⟩, ?_, h.bounded, h.named_put there rfl, ?_⟩
  · intro charged
    have counted := countP_put (Socket.charges charged) socket.onClose there
    have same : socket.onClose.charges charged = socket.charges charged := by
      unfold Socket.charges
      rw [connected]
      rfl
    rw [same] at counted
    have charge := h.charged charged
    simp only [Node.onClose, Node.put] at counted ⊢
    omega
  · intro other
    simp only [Node.onClose, getElem?_put there, List.mem_append, List.mem_singleton]
    by_cases own : other = id
    · simp [own, Socket.onClose, Socket.isClosing, Cleanup.isOver]
    · simp only [own, or_false, if_false]
      exact h.pending other

theorem Node.Valid.finish {timedOut : Bool} (leaveThrew unregisterThrew : Bool)
    (there : n.sockets[id]? = some socket) (leaving : socket.cleanup = .leaving timedOut) :
    (n.finish id socket timedOut leaveThrew unregisterThrew).Valid config threshold := by
  have own := List.mem_of_getElem? there
  obtain ⟨done, valid⟩ := h.served socket own
  have counts : ∀ address,
      (decrementConnectionCount n.securityPolicy socket.remoteAddress).connections address +
          (if socket.remoteAddress = some address then 1 else 0) =
        n.securityPolicy.connections address := by
    intro address
    cases from_ : socket.remoteAddress with
    | none => simp [decrementConnectionCount]
    | some from' =>
      have nonempty : from' ≠ [] := by
        have named := h.named socket own
        simpa [from_] using named
      have charges : socket.charges from' = true := by
        simp [Socket.charges, from_, leaving, Cleanup.isOver]
      have counted : 0 < n.securityPolicy.connections from' := by
        rw [h.charged]
        exact List.countP_pos_iff.mpr ⟨socket, own, charges⟩
      simpa using connections_decrement n.securityPolicy from' address counted nonempty
  refine ⟨h.served_put ⟨done, valid.finish leaveThrew unregisterThrew leaving⟩, ?_, ?_,
    h.named_put there rfl, ?_⟩
  · intro address
    have counted := countP_put (Socket.charges address)
      (socket.finish timedOut leaveThrew unregisterThrew) there
    have freed : (socket.finish timedOut leaveThrew unregisterThrew).charges address = false := by
      simp [Socket.charges, Socket.finish, Cleanup.isOver]
    have charges : socket.charges address = decide (socket.remoteAddress = some address) := by
      simp [Socket.charges, leaving, Cleanup.isOver]
    have charge := h.charged address
    have count := counts address
    rw [freed, charges] at counted
    simp only [Node.finish, decide_eq_true_eq, Bool.false_eq_true, if_false] at counted ⊢
    omega
  · intro address
    have count := counts address
    have bounded := h.bounded address
    simp only [Node.finish]
    omega
  · intro other
    simp only [Node.finish, getElem?_put there, List.mem_filter, h.pending]
    by_cases same : other = id
    · simp [same, Socket.finish, Socket.isClosing, Cleanup.isOver]
    · simp [same]

theorem Node.Valid.upgrade (now : Int) (request : UpgradeRequest) (completed : Bool) :
    (n.onUpgrade URL config now request completed).Valid config threshold := by
  unfold Node.onUpgrade
  by_cases closing : n.isShuttingDown = true
  · rw [if_pos closing]
    exact h
  · rw [if_neg closing]
    dsimp only
    have kept : ∀ address,
        (evaluateUpgrade URL config n.securityPolicy now request).2.connections address =
          n.securityPolicy.connections address :=
      connections_evaluate URL config n.securityPolicy now request
    have evaluated := h.evaluate kept
    cases decision : (evaluateUpgrade URL config n.securityPolicy now request).1 with
    | refused => exact evaluated
    | ok context =>
      dsimp only
      by_cases done : completed = true
      · rw [if_pos done]
        have spec := (evaluateUpgrade_spec URL config n.securityPolicy now request).1
        rw [decision] at spec
        obtain ⟨asked, room⟩ := upgradeDecision_ok spec.symm
        apply evaluated.connection
        · intro empty
          exact getRemoteAddress_ne_nil (asked.symm.trans empty) rfl
        · intro address known
          have key : ipKeyOf config request = address := by
            rw [ipKeyOf, asked.symm.trans known, Option.getD_some]
          rw [key] at room
          simpa only [kept] using room
      · rw [if_neg done]
        exact evaluated

theorem Node.Valid.step (step : Step URL config threshold n n') :
    n'.Valid config threshold := by
  cases step with
  | upgrade now request completed => exact h.upgrade now request completed
  | shutdown => exact ⟨h.served, h.charged, h.bounded, h.named, h.pending⟩
  | act id socket socket' there acts => exact h.act there acts
  | close id socket there connected => exact h.close there connected
  | finish id socket timedOut leaveThrew unregisterThrew there leaving =>
    exact h.finish leaveThrew unregisterThrew there leaving

end

theorem valid_of_reachable (reached : Reachable URL config threshold n) :
    n.Valid config threshold := by
  induction reached with
  | refl => exact valid_initial
  | tail _ step valid => exact valid.step step

end Nodes

/-! ## What a run of the sockets keeps -/

/-- What was taken up is what arrived first, a promise leaves its place in the chain only when all
before it have settled, and the cleanup calls everything once, behind what it waited for. -/
structure Socket.Served (threshold : Nat) (s : Socket) : Prop where
  inOrder : s.handled <+: s.frames
  oneByOne : ∀ (index : Nat) (link : Link), s.links[index]? = some link → link.state ≠ .waiting →
    ∀ earlier < index, ∃ before, s.links[earlier]? = some before ∧ before.state = .settled
  invalid : s.invalidMessageCount = s.handled.countP Frame.isInvalid
  closes : s.policyCloses = s.invalidMessageCount - (threshold - 1)
  leaves : s.leaveRoomCalls = if s.cleanup.hasLeft then 1 else 0
  unregisters : s.unregisterCalls = if s.cleanup.isOver then 1 else 0
  drained : s.cleanup.drained = true → ∀ index < s.arrivedAtClose,
    ∃ link, s.links[index]? = some link ∧ link.state = .settled

/-- No callback is due, no message is being handled, no drain has ended, no `leaveRoom` is out. -/
structure Socket.Idle (s : Socket) : Prop where
  callbacks : ∀ (index : Nat) (link : Link), s.links[index]? = some link →
    link.state = .waiting → s.hasSettled link.after = false
  handling : ∀ link ∈ s.links, link.state ≠ .handling
  draining : ∀ last, s.cleanup = .draining last → s.hasSettled last = false
  leaving : ∀ timedOut, s.cleanup ≠ .leaving timedOut

section Served

variable {threshold done : Nat} {s : Socket}

theorem Socket.Chained.settled_lt (h : s.Chained done) {index : Nat} (earlier : index < done) :
    ∃ link, s.links[index]? = some link ∧ link.state = .settled := by
  have inside : index < s.links.length := Nat.lt_of_lt_of_le earlier h.size
  exact ⟨_, List.getElem?_eq_getElem inside,
    h.settled index _ earlier (List.getElem?_eq_getElem inside)⟩

theorem Socket.Valid.served (h : s.Valid threshold done) : s.Served threshold where
  inOrder := by
    rcases h.chained.turn with ⟨-, handled⟩ | ⟨-, handled⟩ <;>
      exact handled ▸ List.take_prefix _ _
  oneByOne := by
    intro index link there moved earlier before
    apply h.chained.settled_lt
    by_contra outside
    exact moved (h.chained.behind index link (by omega) there)
  invalid := h.counts.1
  closes := h.counts.2
  leaves := h.cleansUp.left
  unregisters := h.cleansUp.unregistered
  drained := by
    intro drained index arrived
    apply h.chained.settled_lt
    have waited := h.cleansUp.waited drained
    omega

/-- Once nothing is left to do, everything that arrived has been handled. -/
theorem Socket.Valid.idle (h : s.Valid threshold done) (idle : s.Idle) :
    s.handled = s.frames ∧ (s.cleanup = .connected ∨ s.cleanup.isOver = true) := by
  have all : done = s.links.length := by
    by_contra short
    have inside : done < s.links.length := Nat.lt_of_le_of_ne h.chained.size short
    have there := List.getElem?_eq_getElem inside
    have waiting : s.links[done].state = .waiting := by
      rcases h.chained.turn with ⟨waits, -⟩ | ⟨⟨link, there', handling⟩, -⟩
      · exact waits _ there
      · exact absurd handling (idle.handling link (List.mem_of_getElem? there'))
    have unsettled := idle.callbacks done _ there waiting
    rw [h.chained.after done _ there] at unsettled
    by_cases first : done = 0
    · simp [first, Socket.hasSettled] at unsettled
    · have earlier : done - 1 < done := by omega
      obtain ⟨link, before, settled⟩ := h.chained.settled_lt earlier
      rw [if_neg first] at unsettled
      simp [Socket.hasSettled, before, settled] at unsettled
  constructor
  · have full : s.frames.length = done := by simp [Socket.frames, all]
    rcases h.chained.turn with ⟨-, handled⟩ | ⟨⟨link, there, -⟩, -⟩
    · rw [handled, ← full, List.take_length]
    · have inside := (List.getElem?_eq_some_iff.mp there).1
      omega
  · cases cleanup : s.cleanup with
    | connected => exact .inl rfl
    | draining last =>
      have unsettled := idle.draining last cleanup
      have arrived := h.cleansUp.arrived
      rw [h.cleansUp.inFlight last cleanup] at unsettled
      by_cases nothing : s.arrivedAtClose = 0
      · simp [nothing, Socket.hasSettled] at unsettled
      · have earlier : s.arrivedAtClose - 1 < done := by omega
        obtain ⟨link, before, settled⟩ := h.chained.settled_lt earlier
        rw [if_neg nothing] at unsettled
        simp [Socket.hasSettled, before, settled] at unsettled
    | leaving timedOut => exact absurd cleanup (idle.leaving timedOut)
    | finished timedOut failures => exact .inr rfl

end Served

/-- Whatever happens on the sockets of a node: each is served in the order of arrival, one message
at a time and to the end, its cleanup waits and calls everything once, and each address is charged
for exactly the sockets of it that are not over, which never are more than it may have. -/
theorem sockets_are_served_in_order (URL : JsString → Option Origin) (config : SecurityConfig)
    (threshold : Nat) (n : Node) (reached : Reachable URL config threshold n) :
    (∀ socket ∈ n.sockets, socket.Served threshold ∧ (socket.Idle →
      socket.handled = socket.frames ∧
        (socket.cleanup = .connected ∨ socket.cleanup.isOver = true))) ∧
      (∀ address : JsString,
        n.securityPolicy.connections address = n.sockets.countP (Socket.charges address) ∧
          n.securityPolicy.connections address ≤ config.maxConnectionsPerIp) ∧
      ∀ id : Nat, id ∈ n.pendingSessionCleanup ↔
        (n.sockets[id]?).any Socket.isClosing = true := by
  have valid := valid_of_reachable reached
  refine ⟨?_, ?_, valid.pending⟩
  · intro socket mem
    obtain ⟨done, served⟩ := valid.served socket mem
    exact ⟨served.served, served.idle⟩
  · intro address
    exact ⟨valid.charged address, valid.bounded address⟩

def visitedConfig : SecurityConfig where
  allowMissingOriginInDev := true
  maxConnectionsPerIp := 1
  connectionAttemptsPerMinute := 1

/-- A socket without an origin is let in. -/
def visited : Node :=
  ({} : Node).onUpgrade (fun _ => none) visitedConfig 0 { remoteAddress := none } true

/-- It sends one text that is no JSON, and closes. -/
theorem visitor_is_served : ∃ n, Reachable (fun _ => none) visitedConfig 1 n ∧
    n.sockets.map Socket.policyCloses = [1] ∧ ∀ socket ∈ n.sockets, socket.Served 1 := by
  let connected : Socket := { remoteAddress := none }
  let spoke := connected.onMessage .invalidJson
  let taken := spoke.callback 1 0 .invalidJson
  let closed := taken.onClose
  let left := closed.leaveRoom false
  have start : Reachable (fun _ => none) visitedConfig 1 visited := .single (.upgrade {} 0 _ true)
  have heard := start.tail (.act _ 0 connected spoke (by decide) (.message _ (fun _ => none) none))
  have served := heard.tail (.act _ 0 spoke taken (by decide)
    (.callback _ 0 ⟨.invalidJson, none, .waiting⟩ (by decide) rfl rfl))
  have gone := served.tail (.close _ 0 taken (by decide) rfl)
  have drained := gone.tail (.act _ 0 closed left (by decide)
    (.drained _ (some 0) rfl (by decide)))
  have ended := drained.tail (.finish _ 0 left false false false (by decide) rfl)
  refine ⟨_, ended, by decide, fun socket mem => ?_⟩
  exact ((sockets_are_served_in_order _ _ 1 _ ended).1 socket mem).1

end BiliSyncPlay.WsSession
