import BiliSyncPlay.Extension.Intent

/-!
# A wanted session is being connected

While the background is in a room, or is to create one, and is not connected, something is under
way that leads to a connection: a probe, a socket that has not closed, or the timer of a retry. It
is so in every run in which a room is wanted before the attempt to connect that is made for it can
fail, and in which no request calls off the retry of an earlier one.
-/

namespace BiliSyncPlay.Connection

open Json Protocol
open RedisRoomStore (js)

namespace Session

def Wanted (v : Session) : Prop := v.roomCode.isSome = true ∨ v.pendingCreateRoom = true

/-- The current socket has an event to come: it has not closed. -/
def HasSocket (v : Session) : Prop :=
  ∃ g socket, v.link.socket = some g ∧ v.link.sockets g = some socket ∧ socket.closed = false

def Attended (v : Session) : Prop :=
  v.link.connectProbe.isSome = true ∨ v.HasSocket ∨ v.reconnectTimer.isSome = true

/-- A probe is over that a request for a room waits for: the request is about to be recorded. -/
def Ready (v : Session) : Prop := ∃ probe ∈ v.awaited, v.link.probes probe = none

end Session

/-- What holds of a session whatever is wanted of it. -/
structure Consistent (P : Platform) (v : Session) : Prop where
  linked : Linked P v.link
  valid : validateServerUrl P v.link.serverUrl = some v.link.serverUrl
  heard : v.connected = true → v.HasSocket
  filled : v.roomCode ≠ some ""
  roomed : ∀ state, v.roomState = some state → state.roomCode ≠ "" ∧ v.roomCode.isSome = true

/-- A session that is wanted, or is about to be, is attended to. -/
structure Heeded (P : Platform) (v : Session) : Prop extends Consistent P v where
  attended : v.Wanted ∨ v.Ready → v.Attended

variable {P : Platform} {s t : Worker}

theorem hasSocket_of_live (linked : Linked P s.link) (is_live : s.isSocketLive = true) :
    s.session.HasSocket := by
  obtain ⟨socket, held, lives⟩ := (Option.any_eq_true ..).mp is_live
  obtain ⟨g, current, at_g⟩ := Option.bind_eq_some_iff.mp held
  exact ⟨g, socket, current, at_g, linked.alive g socket at_g lives⟩

variable {g id : Nat}

/-- An event of a socket that leaves open whether it closed, leaves open whether the current one
did. -/
theorem hasSocket_setSocket {socket next : Socket} (held : s.sockets g = some socket)
    (same : next.closed = socket.closed) (has : s.session.HasSocket) :
    (s.setSocket g next).session.HasSocket := by
  obtain ⟨c, current, is_current, at_c, stays⟩ := has
  have at_g : (s.setSocket g next).sockets c = if c = g then some next else s.sockets c :=
    Function.update_apply ..
  by_cases is_g : c = g
  · rw [if_pos is_g] at at_g
    have was : s.sockets c = some current := at_c
    rw [is_g, held] at was
    cases was
    exact ⟨c, next, is_current, at_g, same.trans stays⟩
  · rw [if_neg is_g] at at_g
    exact ⟨c, current, is_current, at_g.trans at_c, stays⟩

theorem truthy_of_isSome {roomCode : Option RoomCode} (filled : roomCode ≠ some "")
    (is_some : roomCode.isSome = true) : truthy roomCode = true := by
  obtain ⟨code, rfl⟩ := Option.isSome_iff_exists.mp is_some
  exact decide_eq_true fun empty => filled (congrArg some empty)

theorem session_scheduleReconnect (s : Worker) : s.scheduleReconnect.session =
    { s.session with reconnectTimer := s.scheduleReconnect.connection.reconnectTimer } := by
  unfold Worker.scheduleReconnect
  split <;> rfl

theorem session_start {task : Task} (plain : task.createProbe? = none) :
    (s.start task).session = s.session := by
  unfold Worker.session Worker.start
  simp [plain]
  rfl

namespace Consistent

variable (consistent : Consistent P s.session)
include consistent

theorem attended_connect : (s.connect P).1.session.Attended := by
  have outcome := Worker.connect_cases P s
  generalize s.connect P = r at outcome ⊢
  cases outcome with
  | live is_live => exact .inr (.inl (hasSocket_of_live consistent.linked is_live))
  | probing _ probe held =>
    refine .inl ?_
    change s.connection.connectProbe.isSome = true
    rw [held]
    rfl
  | refused _ _ invalid => cases (invalid _ consistent.valid).symm.trans consistent.valid
  | begins => exact .inl rfl

theorem connect : Heeded P (s.connect P).1.session := by
  have attended := consistent.attended_connect
  have linked := consistent.linked.moves (Worker.moves_connect s)
  have outcome := Worker.connect_cases P s
  generalize s.connect P = r at outcome attended linked ⊢
  cases outcome with
  | live | probing => exact { consistent with attended := fun _ => attended }
  | refused _ _ invalid => cases (invalid _ consistent.valid).symm.trans consistent.valid
  | begins => exact { consistent with linked, attended := fun _ => attended }

/-- A retry is scheduled for a wanted session that is not connected. -/
theorem timer_scheduleReconnect (offline : s.connection.connected = false)
    (wanted : s.session.Wanted) :
    s.scheduleReconnect.connection.reconnectTimer.isSome = true := by
  have asks : (truthy s.room.roomCode || s.room.pendingCreateRoom) = true := by
    rw [Bool.or_eq_true]
    exact wanted.imp_left (truthy_of_isSome consistent.filled)
  unfold Worker.scheduleReconnect Worker.shouldReconnect
  by_cases armed : s.connection.reconnectTimer.isSome = true
  · rw [armed, Bool.or_true]
    exact armed
  · rw [Bool.not_eq_true] at armed
    rw [offline, armed, asks]
    rfl

theorem scheduleReconnect (offline : s.connection.connected = false)
    (idle : ¬ s.session.Ready) : Heeded P s.scheduleReconnect.session := by
  have timer := consistent.timer_scheduleReconnect offline
  rw [session_scheduleReconnect]
  exact { consistent with
    attended := fun called => .inr (.inr (timer (called.resolve_right idle))) }

end Consistent

theorem heeded_of_unwanted {v : Session} (consistent : Consistent P v) (unwanted : ¬ v.Wanted)
    (idle : ¬ v.Ready) : Heeded P v :=
  { consistent with attended := fun called => (called.elim unwanted idle).elim }

theorem heeded_of_socket {v : Session} (consistent : Consistent P v) (has : v.HasSocket) :
    Heeded P v :=
  { consistent with attended := fun _ => .inr (.inl has) }

namespace Heeded

variable (heeded : Heeded P s.session)
include heeded

theorem withdraw : Heeded P { s with room.pendingCreateRoom := false }.session :=
  { heeded with
    attended := fun called => heeded.attended
      (called.imp_left fun wanted => wanted.imp_right fun absent => nomatch absent) }

theorem forget : Heeded P s.forgetRoom.session :=
  { heeded with
    filled := fun absent => nomatch absent
    roomed := fun _ absent => nomatch absent
    attended := fun called => heeded.attended
      (called.imp_left fun wanted => wanted.imp_left fun absent => nomatch absent) }

theorem start {task : Task} (plain : task.createProbe? = none) :
    Heeded P (s.start task).session := by
  rwa [session_start plain]

/-- A request for a room starts to wait for a probe. -/
theorem awaits (attended : s.session.Attended) (task : Task) : Heeded P (s.start task).session :=
  { heeded with attended := fun _ => attended }

theorem drop (task : Nat) : Heeded P (s.drop task).session :=
  { heeded with
    attended := fun called => heeded.attended (called.imp_right fun ready => by
      obtain ⟨probe, awaited, ended⟩ := ready
      exact ⟨probe, ((List.eraseIdx_sublist ..).filterMap _).subset awaited, ended⟩) }

end Heeded

theorem stable_heeded : Stable P fun s => Heeded P s.session where
  same := fun same heeded => by rwa [same]
  connect := fun heeded => heeded.toConsistent.connect
  withdraw := Heeded.withdraw
  forget := Heeded.forget
  start := fun plain heeded => heeded.start plain

/-! ## Tasks -/

namespace Heeded

variable (heeded : Heeded P s.session)
include heeded

/-- A request for a room that is not connected needs something under way. -/
theorem finishCreate (attended : s.session.Attended) : Heeded P (s.finishCreate P).session := by
  by_cases connected : s.connection.connected = true
  · exact stable_heeded.finishCreate heeded connected
  · rw [Bool.not_eq_true] at connected
    unfold Worker.finishCreate
    rw [connected]
    exact { heeded with attended := fun _ => attended }

/-- A request for a room calls the retry off that an earlier one may have. -/
theorem requestCreateRoom (idle : ¬ s.session.Ready)
    (unretried : s.room.pendingCreateRoom = true → s.connection.reconnectTimer = none) :
    Heeded P s.requestCreateRoom.session := by
  have same : s.requestCreateRoom.session = { s.session with
      reconnectTimer := none, roomCode := none, roomState := none } := by
    unfold Worker.requestCreateRoom
    dsimp only
    rw [session_start rfl, Worker.session_resetRoomLifecycleTransientState]
    rfl
  rw [same]
  exact { heeded with
    filled := fun absent => nomatch absent
    roomed := fun _ absent => nomatch absent
    attended := fun called => by
      rcases called with (absent | pending) | ready
      · cases absent
      · rcases heeded.attended (.inl (.inr pending)) with probing | has | timer
        · exact .inl probing
        · exact .inr (.inl has)
        · rw [show s.session.reconnectTimer = none from unretried pending] at timer
          cases timer
      · exact absurd ready idle }

end Heeded

/-! ## Leaving -/

/-- Nothing but the end of a probe has a request for a room be recorded. -/
theorem stable_idle : Stable P fun s => ¬ s.session.Ready where
  same := fun same idle => by rwa [same]
  connect := fun {s} idle => by
    have outcome := Worker.connect_cases P s
    generalize s.connect P = r at outcome ⊢
    cases outcome with
    | live | probing => exact idle
    | refused cleared is_cleared =>
      rcases is_cleared with rfl | rfl <;> exact idle
    | begins _ _ normalizedUrl serverUrl =>
      rintro ⟨probe, awaited, ended⟩
      refine idle ⟨probe, awaited, ?_⟩
      by_cases same : probe = s.probeCount
      · subst same
        cases (Function.update_self ..).symm.trans ended
      · exact (Function.update_of_ne same ..).symm.trans ended
  withdraw := id
  forget := id
  start := fun plain idle => by rwa [session_start plain]

theorem idle_dropSocket (idle : ¬ s.session.Ready) : ¬ s.dropSocket.session.Ready := by
  unfold Worker.dropSocket Worker.closeSocket
  dsimp only
  split
  · exact idle
  · split
    · split <;> exact idle
    · exact idle

theorem serverUrl_of_moves {l m : Link} (moved : Moves P l m) : m.serverUrl = l.serverUrl := by
  induction moved with
  | refl => rfl
  | tail _ last ih => cases last <;> exact ih

/-- A session that is left is not wanted. -/
theorem heeded_left (linked : Linked P s.link)
    (valid : validateServerUrl P s.connection.serverUrl = some s.connection.serverUrl)
    (heard : s.connection.connected = true → s.session.HasSocket)
    (roomless : s.room.roomCode = none ∧ s.room.roomState = none ∧
      s.room.pendingCreateRoom = false) (idle : ¬ s.session.Ready) : Heeded P s.session where
  linked
  valid
  heard
  filled := fun empty => by cases roomless.1.symm.trans empty
  roomed := fun _ held => by cases roomless.2.1.symm.trans held
  attended := fun called => by
    rcases called with (some_room | pending) | ready
    · rw [show s.session.roomCode = none from roomless.1] at some_room
      cases some_room
    · cases roomless.2.2.symm.trans pending
    · exact absurd ready idle

namespace Heeded

variable (heeded : Heeded P s.session)
include heeded

theorem requestJoinRoom (idle : ¬ s.session.Ready) (roomCode : RoomCode) (joinToken : JoinToken) :
    Heeded P (s.requestJoinRoom roomCode joinToken).session := by
  unfold Worker.requestJoinRoom
  dsimp only
  refine Heeded.start ?_ rfl
  apply stable_heeded.same (Worker.session_resetRoomLifecycleTransientState _)
  exact heeded_left heeded.linked heeded.valid heeded.heard ⟨rfl, rfl, rfl⟩ idle

theorem clearCurrentRoomContext (idle : ¬ s.session.Ready) (errorMessage : Option Notice) :
    Heeded P (s.clearCurrentRoomContext errorMessage).session := by
  unfold Worker.clearCurrentRoomContext
  dsimp only
  apply stable_heeded.same (Worker.session_resetRoomLifecycleTransientState _)
  exact heeded_left heeded.linked heeded.valid heeded.heard ⟨rfl, rfl, rfl⟩ idle

theorem handleRejection (idle : ¬ s.session.Ready) (code : RoomSession.ErrorCode) :
    Heeded P (s.handleRejection code).session := by
  unfold Worker.handleRejection
  split
  · exact heeded.clearCurrentRoomContext idle _
  · split
    · exact stable_heeded.same (by rfl) heeded
    · exact heeded

theorem requestLeaveRoom (idle : ¬ s.session.Ready) :
    Heeded P (s.requestLeaveRoom P).session := by
  have moved := Worker.moves_requestLeaveRoom (P := P) s
  have linked := heeded.linked.moves moved
  have valid := heeded.valid
  rw [show s.session.link = s.link from rfl, ← serverUrl_of_moves moved] at valid
  have offline : (s.requestLeaveRoom P).connection.connected = false :=
    Worker.connected_disconnectSocket _
  have spoken : ¬ (if s.connection.connected then s.sendToServer P (.leave
      (if truthy s.room.memberToken then s.room.memberToken else none)) else s).session.Ready := by
    split
    · exact stable_idle.sendToServer idle _
    · exact idle
  have left : ¬ (s.requestLeaveRoom P).session.Ready := by
    unfold Worker.requestLeaveRoom Worker.disconnectSocket
    dsimp only
    generalize (if s.connection.connected then s.sendToServer P _ else s) = c at spoken ⊢
    apply idle_dropSocket
    have cleared : ∀ d : Worker, ¬ d.session.Ready → ¬ d.clearPendingLocalShare.session.Ready :=
      fun d idle => stable_idle (P := P).same (Worker.session_clearPendingLocalShare d) idle
    have reset : ∀ d : Worker, ¬ d.session.Ready →
        ¬ d.resetRoomLifecycleTransientState.session.Ready := fun d idle =>
      stable_idle (P := P).same (Worker.session_resetRoomLifecycleTransientState d) idle
    exact cleared _ (reset _ spoken)
  refine heeded_left linked valid (fun heard => nomatch offline.symm.trans heard) ?_ left
  unfold Worker.requestLeaveRoom
  dsimp only
  rw [Worker.room_disconnectSocket]
  generalize (if s.connection.connected then s.sendToServer P _ else s) = c
  have reset : ∀ room, ({ c with room } : Worker).resetRoomLifecycleTransientState.room =
      { room with pendingSharedVideo := none, pendingSharedPlayback := none } := fun room => by
    unfold Worker.resetRoomLifecycleTransientState
    dsimp only
    rw [Worker.room_forgetPendingLocalShare]
  refine ⟨?_, ?_, rfl⟩
  · exact congrArg RoomSessionState.roomCode (reset _)
  · exact congrArg RoomSessionState.roomState (reset _)

end Heeded

/-! ## Events -/

/-- The answer takes the probe to its end, and to no socket: there is no connection to be had, or
the probe was aborted. -/
def Worker.givesUp (s : Worker) (probe : Probe) : Answer → Bool
  | .throws => decide (probe.stage = .healthcheck)
  | .responds status => match probe.stage with
    | .connectionCheck => decide (500 ≤ status)
    | .connectionCheckBody => false
    | .healthcheck => s.isProbeAborted probe
  | .body websocketAllowed _ => s.isProbeAborted probe || !websocketAllowed

/-- The close of a socket that is not the current one. -/
theorem hasSocket_superseded {next : Socket} (other : s.connection.socket ≠ some g)
    (has : s.session.HasSocket) : (s.setSocket g next).session.HasSocket := by
  obtain ⟨c, current, is_current, at_c, stays⟩ := has
  have at_g : (s.setSocket g next).sockets c = s.sockets c :=
    Function.update_of_ne (fun same => other (is_current.trans (congrArg some same))) ..
  exact ⟨c, current, is_current, at_g.trans at_c, stays⟩

/-- A session that has a request recorded once a probe is over is one that waits for this probe. -/
theorem wanted_endProbe (idle : ¬ s.session.Ready)
    (known : id ∈ s.session.awaited → s.session.Wanted)
    (called : (s.endProbe id).session.Wanted ∨ (s.endProbe id).session.Ready) :
    s.session.Wanted := by
  rcases called with wanted | ⟨probe, awaited, ended⟩
  · exact wanted
  · by_cases same : probe = id
    · exact known (same ▸ awaited)
    · have still : (s.endProbe id).session.link.probes probe = s.session.link.probes probe :=
        Function.update_of_ne same ..
      exact absurd ⟨probe, awaited, still.symm.trans ended⟩ idle

namespace Heeded

variable (heeded : Heeded P s.session)
include heeded

variable {probe : Probe}

theorem advanceProbe (held : s.probes id = some probe) (stage : Stage) :
    Heeded P (s.advanceProbe id probe stage).session :=
  { heeded with
    linked := heeded.linked.advances held stage
    attended := fun called => heeded.attended (called.imp_right fun ready => by
      obtain ⟨other, awaited, ended⟩ := ready
      refine ⟨other, awaited, ?_⟩
      by_cases same : other = id
      · subst same
        cases (Function.update_self ..).symm.trans ended
      · exact (Function.update_of_ne same ..).symm.trans ended) }

/-- A probe of a session that was left is not the one that the session waits for. -/
theorem aborted (held : s.probes id = some probe) (idle : ¬ s.session.Ready)
    (known : id ∈ s.session.awaited → s.session.Wanted) (aborted : s.isProbeAborted probe = true) :
    Heeded P (s.endProbe id).session := by
  have other : s.connection.connectProbe ≠ some id := fun probing => by
    obtain ⟨current, is_probe, epoch⟩ := heeded.linked.probing id probing
    obtain rfl : probe = current := Option.some.inj (held.symm.trans is_probe)
    exact of_decide_eq_true aborted epoch.symm
  have still : (s.endProbe id).session.link.connectProbe = s.session.link.connectProbe :=
    if_neg other
  exact { heeded with
    linked := heeded.linked.ends id
    attended := fun called => by
      rcases heeded.attended (.inl (wanted_endProbe idle known called)) with probing | has | timer
      · exact .inl (still ▸ probing)
      · exact .inr (.inl has)
      · exact .inr (.inr timer) }

theorem failProbe (idle : ¬ s.session.Ready) (known : id ∈ s.session.awaited → s.session.Wanted)
    (lastError : Notice) :
    Heeded P ((s.failProbe lastError).endProbe id).session := by
  have offline : Consistent P ({ s with
      connection.lastError := some lastError, connection.connected := false } : Worker).session :=
    { heeded with heard := fun absent => nomatch absent }
  have scheduled : Heeded P (s.failProbe lastError).session := offline.scheduleReconnect rfl idle
  have same : (s.failProbe lastError).session = { s.session with
      connected := false
      reconnectTimer := (s.failProbe lastError).connection.reconnectTimer } :=
    session_scheduleReconnect _
  have timer := offline.timer_scheduleReconnect rfl
  exact { scheduled with
    linked := scheduled.linked.ends id
    attended := fun called => .inr (.inr (timer (by
      have failed := wanted_endProbe (s := s.failProbe lastError) (by rwa [same])
        (by rwa [same]) called
      rwa [same] at failed))) }

theorem createSocket (held : s.probes id = some probe)
    (current : probe.epoch = s.connection.connectEpoch) :
    Heeded P ((s.createSocket id probe).endProbe id).session := by
  have linked : Linked P ((s.createSocket id probe).endProbe id).link :=
    heeded.linked.creates held current
  have at_g : ((s.createSocket id probe).endProbe id).sockets (s.connection.socketGeneration + 1) =
      some { url := probe.serverUrl, probe := id } := Function.update_self ..
  have has : ((s.createSocket id probe).endProbe id).session.HasSocket := ⟨_, _, rfl, at_g, rfl⟩
  apply heeded_of_socket _ has
  exact { heeded with linked, heard := fun absent => nomatch absent }

theorem settleProbe (held : s.probes id = some probe) (idle : ¬ s.session.Ready) {answer : Answer}
    (known : s.givesUp probe answer = true → id ∈ s.session.awaited → s.session.Wanted)
    (step : s.settleProbe P id probe answer = some t) : Heeded P t.session := by
  unfold Worker.settleProbe at step
  unfold Worker.givesUp at known
  split at step
  · split at step
    · cases step
      exact heeded.advanceProbe held _
    · cases step
      exact heeded.advanceProbe held _
    · next stage =>
      have known := known (decide_eq_true stage)
      split at step <;> cases step
      · next aborted => exact heeded.aborted held idle known aborted
      · exact heeded.failProbe idle known _
  · split at step
    · next stage =>
      rw [stage] at known
      split at step
      · cases step
        exact heeded.advanceProbe held _
      · split at step
        · next erring =>
          have known := known (decide_eq_true erring)
          split at step <;> cases step
          · next aborted => exact heeded.aborted held idle known aborted
          · exact heeded.failProbe idle known _
        · cases step
          exact heeded.advanceProbe held _
    · cases step
    · next stage =>
      rw [stage] at known
      split at step <;> cases step
      · next aborted => exact heeded.aborted held idle (known aborted) aborted
      · next standing =>
        unfold Worker.isProbeAborted at standing
        have current : s.connection.connectEpoch = probe.epoch :=
          not_not.mp (by simpa using standing)
        exact heeded.createSocket held current.symm
  · next websocketAllowed reason =>
    have known : (s.isProbeAborted probe || !websocketAllowed) = true →
        id ∈ s.session.awaited → s.session.Wanted := known
    split at step
    · split at step
      · next aborted =>
        cases step
        exact heeded.aborted held idle (known (by rw [aborted, Bool.true_or])) aborted
      · split at step <;> cases step
        · next refused => exact heeded.failProbe idle (known (by rw [refused, Bool.or_true])) _
        · exact heeded.advanceProbe held _
    · cases step
    · cases step

/-- What a socket hears leads to no session that is not being connected. -/
theorem handleServerMessage (idle : ¬ s.session.Ready) (has : s.session.HasSocket)
    {message : ServerMessage} (valid : isServerMessage message = true) :
    Heeded P (s.handleServerMessage P message).session := by
  cases message with
  | created roomCode joinToken memberToken memberId =>
    have filled : roomCode ≠ "" := by simp_all [isServerMessage]
    refine Heeded.start ?_ rfl
    exact heeded_of_socket { heeded with
      filled := fun empty => filled (Option.some.inj empty)
      roomed := fun state held => ⟨(heeded.roomed state held).1, rfl⟩ } has
  | joined roomCode memberToken memberId =>
    have filled : roomCode ≠ "" := by simp_all [isServerMessage]
    refine Heeded.start ?_ rfl
    exact heeded_of_socket { heeded with
      filled := fun empty => filled (Option.some.inj empty)
      roomed := fun state held => ⟨(heeded.roomed state held).1, rfl⟩ } has
  | state nextState =>
    have filled : nextState.roomCode ≠ "" := of_decide_eq_true valid
    have expired := Worker.session_expirePendingLocalShareIfNeeded s
    unfold Worker.handleServerMessage Worker.handleRoomStateMessage
    dsimp only
    generalize s.expirePendingLocalShareIfNeeded = e at expired ⊢
    rw [← expired] at heeded has
    split
    · exact heeded
    · have entered : Heeded P { e with
          room.awaitingFreshRoomState := false
          room.roomState := some nextState
          room.roomCode := some nextState.roomCode
          connection.lastError := none }.session :=
        heeded_of_socket { heeded with
          filled := fun empty => filled (Option.some.inj empty)
          roomed := fun state held => ⟨Option.some.inj held ▸ filled, rfl⟩ } has
      split
      · exact stable_heeded.same (Worker.session_clearPendingLocalShare _) entered
      · exact entered
  | error code text =>
    unfold Worker.handleServerMessage Worker.handleError
    dsimp only
    split
    · refine Heeded.start ?_ rfl
      exact stable_heeded.same (by rfl) heeded.forget
    · have told : Heeded P
          { s with connection.lastError := some (.server code text) }.session :=
        stable_heeded.same (by rfl) heeded
      exact told.handleRejection idle code

theorem onOpen (has : s.session.HasSocket) (g : Nat) : Heeded P (s.onOpen P g).session := by
  unfold Worker.onOpen
  split
  · exact heeded
  · apply stable_heeded.requestOnOpen
    exact heeded_of_socket { heeded with heard := fun _ => has } has

theorem onMessage (idle : ¬ s.session.Ready)
    (has : s.connection.socket = some g → s.session.HasSocket)
    (message : ServerMessage) : Heeded P (s.onMessage P g message).session := by
  unfold Worker.onMessage
  split
  · exact heeded
  · next current =>
    split
    · exact heeded
    · next valid =>
      exact heeded.handleServerMessage idle (has (not_not.mp current)) (by simpa using valid)

theorem onError (g : Nat) (socket : Socket) : Heeded P (s.onError g socket).session := by
  unfold Worker.onError
  split
  · exact heeded
  · apply stable_heeded.same (Worker.session_clearUnlessQueued _)
    exact { heeded with heard := fun absent => nomatch absent }

/-- An event of a socket that the background does not act on, and that leaves the current socket
one that has not closed. -/
theorem setSocket {next : Socket} (linked : Linked P (s.setSocket g next).link)
    (has : s.session.HasSocket → (s.setSocket g next).session.HasSocket) :
    Heeded P (s.setSocket g next).session :=
  { heeded with
    linked
    heard := fun heard => has (heeded.heard heard)
    attended := fun called => (heeded.attended called).imp_right (Or.imp_left has) }

theorem closeSocket (g : Nat) : Heeded P (s.closeSocket g).session := by
  have linked := heeded.linked.moves (Worker.moves_closeSocket s g)
  unfold Worker.closeSocket at linked ⊢
  cases held : s.sockets g with
  | none => exact heeded
  | some socket =>
    rw [held] at linked
    dsimp only at linked ⊢
    by_cases is_live : socket.isLive = true
    · rw [if_pos is_live] at linked ⊢
      exact heeded.setSocket linked (hasSocket_setSocket held rfl)
    · rw [if_neg is_live]
      exact heeded

end Heeded

/-- A session that an admin reset is not wanted. -/
theorem heeded_resetAdminSession (idle : ¬ s.session.Ready) (linked : Linked P s.link)
    (valid : validateServerUrl P s.link.serverUrl = some s.link.serverUrl) (g : Nat)
    (message : Notice) (moved : Moves P s.link (s.resetAdminSession g message).link) :
    Heeded P (s.resetAdminSession g message).session := by
  rw [← serverUrl_of_moves moved] at valid
  have room (c : Worker) : (c.clearCurrentRoomContext (some message)).room.roomCode = none ∧
      (c.clearCurrentRoomContext (some message)).room.roomState = none ∧
      (c.clearCurrentRoomContext (some message)).room.pendingCreateRoom = false := by
    unfold Worker.clearCurrentRoomContext Worker.resetRoomLifecycleTransientState
    dsimp only
    rw [Worker.room_forgetPendingLocalShare]
    exact ⟨rfl, rfl, rfl⟩
  have left : ¬ (s.resetAdminSession g message).session.Ready := by
    have reset : ∀ d : Worker, ¬ d.session.Ready →
        ¬ (d.clearCurrentRoomContext (some message)).session.Ready := fun d idle =>
      stable_idle (P := P).same (Worker.session_resetRoomLifecycleTransientState _) idle
    unfold Worker.resetAdminSession
    apply reset
    dsimp only
    split
    · exact idle
    · exact idle_dropSocket idle
  refine heeded_left (linked.moves moved) valid (fun heard => ?_) (room _) left
  have same : ∀ c : Worker, (c.clearCurrentRoomContext (some message)).session.connected =
      c.connection.connected := fun c => by
    unfold Worker.clearCurrentRoomContext
    dsimp only
    rw [Worker.session_resetRoomLifecycleTransientState]
    rfl
  have offline : (s.resetAdminSession g message).session.connected = false := by
    unfold Worker.resetAdminSession
    dsimp only
    rw [same]
    split
    · rfl
    · exact Worker.connected_dropSocket _
  exact nomatch offline.symm.trans heard

theorem session_noteServerShutdown (socket : Socket) (code : Nat) (reason : JsString) :
    (s.noteServerShutdown socket code reason).session = s.session := by
  unfold Worker.noteServerShutdown
  split <;> rfl

/-- After the close of the current socket a wanted session is retried. -/
theorem heeded_closeCurrent (idle : ¬ s.session.Ready)
    (consistent : Consistent P { s with connection.connected := false }.session) (socket : Socket)
    (code : Nat) (reason : JsString) : Heeded P (s.closeCurrent socket code reason).session := by
  unfold Worker.closeCurrent
  dsimp only
  have same := (Worker.session_clearUnlessQueued _).trans (session_noteServerShutdown
    (s := { s with connection.connected := false }) socket code reason)
  generalize Worker.clearUnlessQueued _ = c at same ⊢
  rw [← same] at consistent
  exact consistent.scheduleReconnect (congrArg Session.connected same) (by rwa [same])

/-- What is left of a consistent session when its current socket is given up. -/
theorem Consistent.dropSocket (consistent : Consistent P s.session) :
    Consistent P s.dropSocket.session := by
  have moved := Worker.moves_dropSocket (P := P) s
  have valid := consistent.valid
  rw [show s.session.link = s.link from rfl, ← serverUrl_of_moves moved] at valid
  have room := Worker.room_dropSocket s
  have filled := consistent.filled
  have roomed := consistent.roomed
  have offline : s.dropSocket.session.connected = false := Worker.connected_dropSocket s
  rw [show s.session.roomCode = s.room.roomCode from rfl, ← room] at filled roomed
  rw [show s.session.roomState = s.room.roomState from rfl, ← room] at roomed
  exact {
    linked := consistent.linked.moves moved, valid, filled, roomed
    heard := fun heard => nomatch offline.symm.trans heard }

theorem Heeded.finishServerUrl (heeded : Heeded P s.session) (idle : ¬ s.session.Ready) :
    Heeded P (s.finishServerUrl P).session := by
  unfold Worker.finishServerUrl
  dsimp only
  by_cases connected : s.connection.socket.isSome = true
  · rw [if_pos connected]
    have reset : Consistent P s.resetReconnectState.session := { heeded with }
    have dropped := reset.dropSocket
    split
    · exact dropped.connect
    · next unwanted =>
      have still : ¬ s.resetReconnectState.dropSocket.session.Ready := idle_dropSocket idle
      refine heeded_of_unwanted dropped (fun wanted => ?_) still
      apply unwanted
      rw [Bool.or_eq_true]
      exact wanted.imp_left (truthy_of_isSome dropped.filled)
  · rw [if_neg connected]
    split
    · exact heeded.toConsistent.connect
    · exact heeded

theorem Heeded.updateServerUrl (heeded : Heeded P s.session)
    (standard : validateServerUrl P P.defaultServerUrl = some P.defaultServerUrl)
    (nextServerUrl : JsString) : Heeded P (s.updateServerUrl P nextServerUrl).session := by
  unfold Worker.updateServerUrl
  split
  · exact stable_heeded.same (by rfl) heeded
  · next serverUrl valid =>
    split
    · exact heeded
    · dsimp only
      have same : (if s.shareState.pendingLocalShareUrl.isSome then s.clearPendingLocalShare
          else s).session = s.session := by
        split
        · exact Worker.session_clearPendingLocalShare s
        · rfl
      generalize (if s.shareState.pendingLocalShareUrl.isSome then s.clearPendingLocalShare
          else s) = c at same ⊢
      rw [← same] at heeded
      have settled : validateServerUrl P serverUrl = some serverUrl := by
        by_cases blank : trim nextServerUrl = []
        · obtain rfl := validate_eq_some valid
          unfold normalizedServerUrl
          rw [if_neg (not_not.mpr blank)]
          exact standard
        · exact validate_validate (.inl blank) valid
      refine Heeded.start ?_ rfl
      exact { heeded with
        linked := heeded.linked.redirects (settled_of_validate valid)
        valid := settled }

theorem Heeded.resume (heeded : Heeded P s.session) {task : Task}
    (ready : task.createProbe?.isSome = true → s.session.Attended)
    (idle : Worker.isReady s.probes task = false → ¬ s.session.Ready)
    (step : s.resume P task = some t) : Heeded P t.session := by
  have connected := heeded.toConsistent.connect
  have attended := heeded.toConsistent.attended_connect
  unfold Worker.resume at step
  cases task with
  | persistsCreate =>
    dsimp only at step
    split at step <;> cases step
    · exact connected.awaits attended _
    · exact connected.finishCreate attended
  | persistsJoin =>
    dsimp only at step
    split at step <;> cases step
    · exact connected.start rfl
    · exact stable_heeded.finishJoin connected
  | persistsServerUrl =>
    cases step
    exact heeded.finishServerUrl (idle rfl)
  | persistsRoom =>
    cases step
    exact stable_heeded.executeFlushPendingShare heeded
  | persistsRejection code =>
    cases step
    exact heeded.handleRejection (idle rfl) code
  | awaitsCreate probe =>
    dsimp only at step
    split at step <;> cases step
    exact heeded.finishCreate (ready rfl)
  | awaitsJoin probe =>
    dsimp only at step
    split at step <;> cases step
    exact stable_heeded.finishJoin heeded
  | readsTab => cases step

/-! ## Steps -/

/-- A request for a room can go on as soon as its probe is over. -/
theorem runnable_of_ready (ready : s.session.Ready) : s.isRunnable = true := by
  obtain ⟨probe, awaited, ended⟩ := ready
  obtain ⟨task, mem, is_probe⟩ := List.mem_filterMap.mp awaited
  refine List.any_eq_true.mpr ⟨task, mem, ?_⟩
  cases task with
  | awaitsCreate p =>
    cases is_probe
    exact Option.isNone_iff_eq_none.mpr ended
  | _ => cases is_probe

theorem Heeded.opens (heeded : Heeded P s.session) {socket : Socket}
    (held : s.sockets g = some socket) (connecting : socket.readyState = .CONNECTING) :
    Heeded P ((s.setSocket g { socket with readyState := .OPEN, sawOpen := true }).onOpen P
      g).session := by
  let opened : Socket := { socket with readyState := .OPEN, sawOpen := true }
  have is_live : socket.isLive = true := by
    unfold Socket.isLive
    rw [connecting]
    rfl
  have alive : socket.closed = false := heeded.linked.alive g socket held is_live
  have current : s.connection.socket = some g := heeded.linked.live g socket held is_live
  have at_g : (s.setSocket g opened).sockets g = some opened := Function.update_self ..
  have has : (s.setSocket g opened).session.HasSocket := ⟨g, opened, current, at_g, alive⟩
  have linked : Linked P (s.setSocket g opened).link :=
    heeded.linked.fades held fun _ => ⟨is_live, rfl⟩
  exact (heeded.setSocket linked fun _ => has).onOpen has g

theorem Heeded.closes (heeded : Heeded P s.session) (idle : ¬ s.session.Ready) {socket : Socket}
    (held : s.sockets g = some socket) (code : Nat) (reason : JsString) :
    Heeded P ((s.setSocket g { socket with readyState := .CLOSED, closed := true }).onClose g
      { socket with readyState := .CLOSED, closed := true } code reason).session := by
  let closed : Socket := { socket with readyState := .CLOSED, closed := true }
  have linked : Linked P (s.setSocket g closed).link :=
    heeded.linked.fades held fun live => by cases live
  have dead : ((s.setSocket g closed).sockets g).any Socket.isLive = false := by
    unfold Worker.setSocket
    dsimp only
    rw [Function.update_self]
    rfl
  have current_valid : validateServerUrl P (s.setSocket g closed).link.serverUrl =
      some (s.setSocket g closed).link.serverUrl := heeded.valid
  unfold Worker.onClose
  split
  · next message _ =>
    exact heeded_resetAdminSession (s := s.setSocket g closed) idle linked current_valid g message
      (Worker.moves_resetAdminSession _ dead message)
  · split
    · next other =>
      have same : ((s.setSocket g closed).closeSuperseded g).session =
          (s.setSocket g closed).session := by
        unfold Worker.closeSuperseded
        split
        · exact Worker.session_clearPendingLocalShare _
        · rfl
      exact stable_heeded.same same (heeded.setSocket linked (hasSocket_superseded other))
    · refine heeded_closeCurrent (s := s.setSocket g closed) idle ?_ _ _ _
      exact { heeded with linked, heard := fun absent => nomatch absent }

/-- No request for a room comes too late to be told to the retries: the probe it waits for does not
end without a socket before a room is wanted. And none calls off the retry of an earlier one. -/
def Worker.Heeds (s : Worker) : Event → Prop
  | .answers id answer => (s.probes id).any (s.givesUp · answer) = true →
      .awaitsCreate id ∈ s.tasks → s.room.roomCode.isSome = true ∨ s.room.pendingCreateRoom = true
  | .createRoom => s.room.pendingCreateRoom = true → s.connection.reconnectTimer = none
  | _ => True

/-- An event that happens where no task can go on. -/
theorem Heeded.happen (heeded : Heeded P s.session) (idle : ¬ s.session.Ready)
    (standard : validateServerUrl P P.defaultServerUrl = some P.defaultServerUrl) {event : Event}
    (other : ∀ task, event ≠ .resumes task) (heeds : s.Heeds event)
    (step : s.take P event = some t) : Heeded P t.session := by
  unfold Worker.take at step
  cases event with
  | connects =>
    cases step
    exact heeded.toConsistent.connect
  | createRoom =>
    cases step
    exact heeded.requestCreateRoom idle heeds
  | joinRoom roomCode joinToken =>
    cases step
    exact heeded.requestJoinRoom idle roomCode joinToken
  | leaveRoom =>
    cases step
    exact heeded.requestLeaveRoom idle
  | shares =>
    cases step
    exact stable_heeded.queueOrSendSharedVideo heeded _ _ _ _
  | autoShares =>
    cases step
    exact stable_heeded.autoShareNextVideo heeded _ _ _
  | readsTab task payload =>
    dsimp only at step
    split at step <;> cases step
    next request held =>
      exact stable_heeded.finishAutoShare (heeded.drop task) _ _
  | playbackUpdate =>
    cases step
    exact stable_heeded.playbackUpdate heeded _ _
  | binds =>
    cases step
    exact stable_heeded.same (by rfl) heeded
  | updateServerUrl =>
    cases step
    exact heeded.updateServerUrl standard _
  | answers id answer =>
    dsimp only at step
    split at step
    · next probe held =>
      refine heeded.settleProbe held idle (fun gives_up awaited => ?_) step
      obtain ⟨task, mem, is_probe⟩ := List.mem_filterMap.mp awaited
      cases task with
      | awaitsCreate p =>
        cases is_probe
        exact heeds (by rw [held]; exact gives_up) mem
      | _ => cases is_probe
    · cases step
  | opens g =>
    dsimp only at step
    split at step
    · next socket held =>
      split at step <;> cases step
      next connecting => exact heeded.opens held connecting
    · cases step
  | receives g message =>
    dsimp only at step
    split at step
    · next socket held =>
      split at step <;> cases step
      next opened =>
        refine heeded.onMessage idle (fun current => ?_) message
        have is_live : socket.isLive = true := by
          unfold Socket.isLive
          rw [opened]
          rfl
        exact ⟨g, socket, current, held, heeded.linked.alive g socket held is_live⟩
    · cases step
  | breaks g =>
    cases step
    exact heeded.closeSocket g
  | fails g =>
    dsimp only at step
    split at step
    · next socket held =>
      split at step <;> cases step
      have linked : Linked P (s.setSocket g { socket with readyState := .CLOSED }).link :=
        heeded.linked.fades held fun live => by cases live
      exact (heeded.setSocket linked (hasSocket_setSocket held rfl)).onError g _
    · cases step
  | closes g code reason =>
    dsimp only at step
    split at step
    · next socket held =>
      split at step <;> cases step
      exact heeded.closes idle held code reason
    · cases step
  | membersChange =>
    cases step
    unfold Worker.changeMembers
    split
    · exact heeded
    · next state held =>
      obtain ⟨filled, some_room⟩ := heeded.roomed state held
      exact { heeded with
        filled := fun empty => filled (Option.some.inj empty)
        roomed := fun other is_other => ⟨(heeded.roomed other is_other).1, rfl⟩
        attended := fun _ => heeded.attended (.inl (.inl some_room)) }
  | reconnectTimer =>
    dsimp only at step
    split at step
    · split at step <;> cases step
      have cleared : Consistent P s.clearReconnectTimer.session := { heeded with }
      exact cleared.connect
    · cases step
  | shareTimer =>
    dsimp only at step
    split at step
    · split at step <;> cases step
      exact stable_heeded.same (Worker.session_expirePendingLocalShareIfNeeded s) heeded
    · cases step
  | resumes task => exact absurd rfl (other task)

/-- A task goes on. -/
theorem Heeded.resumes (heeded : Heeded P s.session) {i : Nat}
    (may : s.mayHappen (.resumes i) = true) (step : s.take P (.resumes i) = some t) : Heeded P t.session := by
  unfold Worker.take at step
  dsimp only at step
  split at step
  · next task held =>
    have mem := List.mem_of_getElem? held
    refine (heeded.drop i).resume (fun awaits => ?_) (fun busy ready => ?_) step
    · cases task with
      | awaitsCreate probe =>
        unfold Worker.resume at step
        dsimp only at step
        split at step
        · next ended =>
          exact heeded.attended (.inr ⟨probe, List.mem_filterMap.mpr ⟨_, mem, rfl⟩,
            Option.isNone_iff_eq_none.mp ended⟩)
        · cases step
      | _ => cases awaits
    · obtain ⟨probe, awaited, ended⟩ := ready
      have runnable : s.isRunnable = true := runnable_of_ready
        ⟨probe, ((List.eraseIdx_sublist ..).filterMap _).subset awaited, ended⟩
      have busy : Worker.isReady s.probes task = false := busy
      have may : (!s.isRunnable || s.tasks[i]?.any (Worker.isReady s.probes)) = true := may
      rw [runnable, held] at may
      exact Bool.false_ne_true (busy.symm.trans may)
  · cases step

theorem Heeded.exec (heeded : Heeded P s.session)
    (standard : validateServerUrl P P.defaultServerUrl = some P.defaultServerUrl) {now : Rat}
    {event : Event} (heeds : s.Heeds event) (step : s.exec P now event = some t) :
    Heeded P t.session := by
  have taken := take_of_exec step
  have timed : Heeded P (s.atTime now).session := stable_heeded.same (by rfl) heeded
  have may : s.mayHappen event = true := by
    unfold Worker.exec at step
    split at step
    · cases step
    · split at step
      · cases step
      · next happens => simpa using happens
  by_cases resumption : ∃ i, event = .resumes i
  · obtain ⟨i, rfl⟩ := resumption
    exact timed.resumes may taken
  · have quiet : s.isRunnable = false := by
      cases event with
      | resumes i => exact absurd ⟨i, rfl⟩ resumption
      | _ => simpa [Worker.mayHappen] using may
    have idle : ¬ (s.atTime now).session.Ready := fun ready => by
      have runnable : s.isRunnable = true := runnable_of_ready (s := s) ready
      cases quiet.symm.trans runnable
    exact timed.happen idle standard (fun i is_event => resumption ⟨i, is_event⟩)
      (by cases event <;> exact heeds) taken

/-! ## Runs -/

def StepHeeding (P : Platform) (s t : Worker) : Prop :=
  ∃ now event, s.Heeds event ∧ s.exec P now event = some t

/-- No call can go on by itself. -/
def Worker.IsQuiet (s : Worker) : Prop := s.isRunnable = false

/-- The session is in a room, or is to be in one that it asks for; if it is not connected, then a
probe is under way, or the current socket has not closed, or a retry is scheduled. -/
def Worker.ConnectsWanted (s : Worker) : Prop :=
  s.room.roomCode.isSome = true ∨ s.room.pendingCreateRoom = true →
    s.connection.connected = false →
      (∃ p probe, s.connection.connectProbe = some p ∧ s.probes p = some probe) ∨
      (∃ g socket, s.connection.socket = some g ∧ s.sockets g = some socket ∧
        socket.closed = false) ∨
      s.connection.reconnectTimer.isSome = true

theorem resolved_valid
    (standard : validateServerUrl P P.defaultServerUrl = some P.defaultServerUrl)
    {input : Option JsString} (auto : (resolvePersistedServerUrl P input).2 = true) :
    validateServerUrl P (resolvePersistedServerUrl P input).1 =
      some (resolvePersistedServerUrl P input).1 := by
  unfold resolvePersistedServerUrl at auto ⊢
  dsimp only at auto ⊢
  split at auto
  · next blank =>
    rw [if_pos blank]
    exact standard
  · next filled =>
    rw [if_neg filled]
    split at auto
    · next normalizedUrl valid => exact validate_validate (.inl (by rwa [trim_trim])) valid
    · cases auto

/-- A session that is not connected yet. -/
theorem consistent_fresh {serverUrl : JsString}
    (valid : validateServerUrl P serverUrl = some serverUrl) (persisted : PersistedSnapshot)
    (lastError : Option Notice) : Consistent P ({
      connection := { serverUrl, lastError }
      room := {
        roomCode := persisted.roomCode
        joinToken := persisted.joinToken
        memberToken := persisted.memberToken
        memberId := persisted.memberId
        roomState := persisted.roomState } } : Worker).session where
  linked := linked_empty rfl rfl rfl rfl (settled_of_validate valid)
  valid
  heard := fun absent => nomatch absent
  filled := persisted.filled
  roomed := persisted.roomed

theorem heeded_bootstrap
    (standard : validateServerUrl P P.defaultServerUrl = some P.defaultServerUrl)
    {persisted : PersistedSnapshot}
    (auto : (resolvePersistedServerUrl P persisted.serverUrl).2 = true) :
    Heeded P (bootstrapBackground P persisted).session := by
  have fresh := consistent_fresh (resolved_valid standard auto) persisted
  unfold bootstrapBackground
  dsimp only
  split
  · exact (fresh _).connect
  · next roomless =>
    refine heeded_of_unwanted (fresh _) ?_ (fun ⟨_, absent, _⟩ => nomatch absent)
    rintro (some_room | absent)
    · apply roomless
      rw [auto, Bool.and_true]
      exact truthy_of_isSome persisted.filled some_room
    · cases absent

theorem heeded_run (standard : validateServerUrl P P.defaultServerUrl = some P.defaultServerUrl)
    (run : Relation.ReflTransGen (StepHeeding P) s t) (heeded : Heeded P s.session) :
    Heeded P t.session := by
  induction run with
  | refl => exact heeded
  | tail _ last ih =>
    obtain ⟨now, event, heeds, step⟩ := last
    exact ih.exec standard heeds step

theorem connectsWanted_of_heeded (heeded : Heeded P s.session) : s.ConnectsWanted := by
  intro wanted _
  rcases heeded.attended (.inl wanted) with probing | has | timer
  · obtain ⟨p, held⟩ := Option.isSome_iff_exists.mp probing
    obtain ⟨probe, is_probe, -⟩ := heeded.linked.probing p held
    exact .inl ⟨p, probe, held, is_probe⟩
  · exact .inr (.inl has)
  · exact .inr (.inr timer)

/-- In every run in which a room is wanted before the attempt to connect that is made for it can
fail, and no request calls off the retry of an earlier one, a wanted session is being connected in
every state. -/
theorem wanted_session_is_being_connected
    (standard : validateServerUrl P P.defaultServerUrl = some P.defaultServerUrl)
    {persisted : PersistedSnapshot}
    (auto : (resolvePersistedServerUrl P persisted.serverUrl).2 = true)
    (run : Relation.ReflTransGen (StepHeeding P) (bootstrapBackground P persisted) s) :
    s.ConnectsWanted :=
  connectsWanted_of_heeded (heeded_run standard run (heeded_bootstrap standard auto))

/-! ## Runs on fixed inputs -/

/-- A browser in which nothing was stored. -/
def unset : PersistedSnapshot where
  roomCode := none
  joinToken := none
  memberToken := none
  memberId := none
  roomState := none
  serverUrl := none
  filled := by decide
  roomed := fun _ absent => nomatch absent

instance (s : Worker) : Decidable s.IsQuiet := inferInstanceAs (Decidable (_ = _))

instance (s : Worker) (event : Event) : Decidable (s.Heeds event) := by
  cases event <;> unfold Worker.Heeds <;> infer_instance

/-- A request for a room whose attempt to connect reaches the server: `resumes` ends its write to
the storage, and its wait. -/
def requestsRoom : List Event :=
  [.createRoom, .resumes 0, .answers 0 (.responds 404), .answers 0 (.responds 200), .resumes 0]

/-- A restored session whose server is down retries; and so does a request for a room whose socket
closes before the server has answered, with a second request that is made meanwhile. -/
theorem restored_session_retries :
    (∃ s, checkedReplay Worker.Heeds browser (bootstrapBackground browser restored)
      [.answers 0 .throws, .answers 0 .throws] = some s ∧
      s.room.roomCode.isSome = true ∧ s.connection.connected = false ∧ s.ConnectsWanted) ∧
    ∃ s, checkedReplay Worker.Heeds browser (bootstrapBackground browser unset) (requestsRoom ++
      [.createRoom, .closes 1 1006 [], .resumes 0, .answers 1 .throws, .answers 1 .throws,
        .resumes 0]) = some s ∧
      s.room.pendingCreateRoom = true ∧ s.connection.connected = false ∧ s.ConnectsWanted := by
  have standard : validateServerUrl browser browser.defaultServerUrl =
      some browser.defaultServerUrl := by decide +kernel
  constructor
  · have ends : (checkedReplay Worker.Heeds browser (bootstrapBackground browser restored)
        [.answers 0 .throws, .answers 0 .throws]).any (fun s =>
          s.room.roomCode.isSome && !s.connection.connected) = true := by decide +kernel
    obtain ⟨s, replayed, holds⟩ := (Option.any_eq_true ..).mp ends
    obtain ⟨roomed, offline⟩ : _ ∧ _ := by simpa using holds
    exact ⟨s, replayed, roomed, offline, wanted_session_is_being_connected standard
      (by decide +kernel) (run_of_checkedReplay Worker.Heeds replayed)⟩
  · have ends : (checkedReplay Worker.Heeds browser (bootstrapBackground browser unset)
        (requestsRoom ++ [.createRoom, .closes 1 1006 [], .resumes 0, .answers 1 .throws,
          .answers 1 .throws, .resumes 0])).any (fun s =>
          s.room.pendingCreateRoom && !s.connection.connected) = true := by decide +kernel
    obtain ⟨s, replayed, holds⟩ := (Option.any_eq_true ..).mp ends
    obtain ⟨pending, offline⟩ : _ ∧ _ := by simpa using holds
    exact ⟨s, replayed, pending, offline, wanted_session_is_being_connected standard
      (by decide +kernel) (run_of_checkedReplay Worker.Heeds replayed)⟩

/-- Nothing is under way for a room that is wanted. -/
def Worker.isStranded (s : Worker) : Bool :=
  s.room.pendingCreateRoom && !s.connection.connected && s.connection.connectProbe.isNone &&
    s.connection.socket.isNone && s.connection.reconnectTimer.isNone

theorem Worker.not_connectsWanted (stranded : s.isStranded = true) :
    ¬ s.ConnectsWanted := by
  obtain ⟨⟨⟨⟨pending, offline⟩, idle⟩, socketless⟩, unarmed⟩ : (((_ ∧ _) ∧ _) ∧ _) ∧ _ := by
    simpa [Worker.isStranded] using stranded
  intro connects
  rcases connects (.inr pending) offline with ⟨p, _, probing, _⟩ | ⟨g, _, current, _⟩ | timer
  · cases idle.symm.trans probing
  · cases socketless.symm.trans current
  · rw [unarmed] at timer
    cases timer

/-- A room is created while the server is down: the attempt fails before the background knows that a
room is wanted, and nothing will ever ask for it. And a second request calls off the retry of one
that is wanted, before the storage lets it make an attempt of its own. -/
theorem create_request_is_stranded :
    (∃ s, Run browser (bootstrapBackground browser unset) s ∧ s.IsQuiet ∧ s.tasks = [] ∧
      ¬ s.ConnectsWanted) ∧
    ∃ s, Run browser (bootstrapBackground browser unset) s ∧ s.IsQuiet ∧ ¬ s.ConnectsWanted := by
  have ends : (replay browser (bootstrapBackground browser unset)
      [.createRoom, .resumes 0, .answers 0 .throws, .answers 0 .throws, .resumes 0]).any (fun s =>
        decide s.IsQuiet && s.tasks.isEmpty && s.isStranded &&
        (replay browser s [.connects, .answers 1 .throws, .answers 1 .throws, .createRoom]).any
          fun t => decide t.IsQuiet && t.isStranded) = true := by decide +kernel
  obtain ⟨s, replayed, holds⟩ := (Option.any_eq_true ..).mp ends
  obtain ⟨now, later⟩ := Bool.and_eq_true_iff.mp holds
  obtain ⟨⟨quiet, idle⟩, stranded⟩ : (_ ∧ _) ∧ _ := by simpa using now
  obtain ⟨t, again, holds⟩ := (Option.any_eq_true ..).mp later
  obtain ⟨waits, unretried⟩ := Bool.and_eq_true_iff.mp holds
  have run := run_replay replayed
  exact ⟨⟨s, run, quiet, idle, Worker.not_connectsWanted stranded⟩,
    t, run.trans (run_replay again), of_decide_eq_true waits, Worker.not_connectsWanted unretried⟩

end BiliSyncPlay.Connection
