import BiliSyncPlay.Extension.RoomSession
import Mathlib.Data.List.Nodup
import Mathlib.Data.List.Perm.Basic

/-!
# Room states on their way to the page

The room states a background assigns to its session reach the content scripts in that order, the
last one last, and none of them misses a member delta that is not held back or dropped.
-/

namespace BiliSyncPlay.RoomSession

/-- A background under observation. -/
structure Watch where
  background : Background
  /-- The room states assigned to the session, in that order. -/
  assigned : List Snapshot := []
  /-- How many of them were assigned before the last `room:created` or `room:joined`. -/
  established : Nat := 0
  /-- The last `room:state` that was not ignored, the deltas that were queued for its room when it
  arrived with those that arrived since, and the deltas dropped from the queue since. -/
  authority : Option RoomState := none
  deltas : List MemberDelta := []
  discarded : List MemberDelta := []
  deriving DecidableEq

namespace Watch

/-- What the arrival of a message, or a timeout, changes of the observation. -/
def observe (w : Watch) : Event → Watch
  | .receives (.created _ _ _ _) =>
    { w with
      established := w.background.versions
      discarded := w.discarded ++ w.background.pendingMemberDeltas }
  | .receives (.joined roomCode _ _) =>
    { w with
      established := w.background.versions
      discarded := w.discarded ++
        (w.background.clearPendingMemberDeltasForRoom roomCode).pendingMemberDeltas }
  | .receives (.state state) =>
    if w.background.isStale state then w
    else
      { w with
        authority := some state
        deltas := w.background.queued state.roomCode
        discarded := [] }
  | .receives (.member delta) => { w with deltas := w.deltas ++ [delta] }
  | .bootstrapTimeout =>
    if truthy w.background.session.roomCode then w
    else { w with discarded := w.discarded ++ w.background.pendingMemberDeltas }
  | _ => w

def newlyAssigned (s t : Background) : List Snapshot :=
  t.session.roomState.toList.filter fun snapshot => decide (s.versions ≤ snapshot.version)

def exec (w : Watch) (e : Event) : Option Watch :=
  (w.background.exec e).map fun background =>
    { w.observe e with
      background
      assigned := w.assigned ++ newlyAssigned w.background background }

def Step (w v : Watch) : Prop := ∃ e, w.exec e = some v

def Run : Watch → Watch → Prop := Relation.ReflTransGen Step

/-- No handler is left that may still send a room state. -/
def Settled (w : Watch) : Prop := ∀ snapshot generation,
  Task.delivers snapshot generation ∉ w.background.tasks

end Watch

/-! ## Tasks -/

def Task.undelivered : Task → Option Snapshot
  | .delivers snapshot _ => some snapshot
  | _ => none

def Background.undelivered (s : Background) : List Snapshot := s.tasks.filterMap Task.undelivered

variable {i : Nat} {roomCode : RoomCode} {task : Task}

theorem undelivered_start {s : Background} (other : task.undelivered = none) :
    (s.start task).undelivered = s.undelivered := by
  rw [Background.undelivered, Background.start, List.filterMap_append]
  simp [other, Background.undelivered]

theorem undelivered_eraseIdx {tasks : List Task} (found : tasks[i]? = some task) :
    (tasks.filterMap Task.undelivered).Perm
      (task.undelivered.toList ++ (tasks.eraseIdx i).filterMap Task.undelivered) := by
  obtain ⟨bound, at_i⟩ := List.getElem?_eq_some_iff.mp found
  have perm := (List.getElem_cons_eraseIdx_perm bound).symm
  rw [at_i] at perm
  have mapped := perm.filterMap Task.undelivered
  cases task <;> exact mapped

theorem mem_eraseIdx {tasks : List Task} {other : Task} (found : tasks[i]? = some task)
    (mem : other ∈ tasks) :
    other = task ∨ other ∈ tasks.eraseIdx i := by
  obtain ⟨bound, at_i⟩ := List.getElem?_eq_some_iff.mp found
  have perm := (List.getElem_cons_eraseIdx_perm bound).symm
  rw [at_i] at perm
  exact List.mem_cons.mp (perm.mem_iff.mp mem)

/-! ## Delivery -/

structure Delivery (w : Watch) : Prop where
  versions : w.assigned.map (·.version) = List.range w.background.versions
  sublist : w.background.delivered.Sublist w.assigned
  once : (w.background.delivered ++ w.background.undelivered).Nodup
  assigned : ∀ snapshot ∈ w.background.undelivered, snapshot ∈ w.assigned
  current : ∀ snapshot, w.background.session.roomState = some snapshot →
    w.assigned.getLast? = some snapshot
  scheduled : ∀ snapshot, w.background.session.roomState = some snapshot →
    w.established ≤ snapshot.version → snapshot ∈ w.background.delivered ∨
      ∃ generation, Task.delivers snapshot generation ∈ w.background.tasks ∧
        generation.all (fun g => decide (g = w.background.bootstrapRoomStateGeneration)) = true

theorem eq_of_version {l : List Snapshot} {n : Nat} (versions : l.map (·.version) = List.range n)
    {a b : Snapshot} (ha : a ∈ l) (hb : b ∈ l) (same : a.version = b.version) : a = b := by
  have nodup : (l.map (·.version)).Nodup := by
    rw [versions]
    exact List.nodup_range
  exact List.inj_on_of_nodup_map nodup ha hb same

theorem version_lt {l : List Snapshot} {n : Nat} (versions : l.map (·.version) = List.range n)
    {a : Snapshot} (ha : a ∈ l) : a.version < n := by
  have mem : a.version ∈ l.map (·.version) := List.mem_map_of_mem ha
  rw [versions] at mem
  exact List.mem_range.mp mem

theorem sublist_init {α : Type} {l init : List α} {x : α} (sub : l.Sublist (init ++ [x]))
    (absent : x ∉ l) : l.Sublist init := by
  obtain ⟨l₁, l₂, rfl, sub₁, sub₂⟩ := List.sublist_append_iff.mp sub
  have empty : l₂ = [] := by
    cases l₂ with
    | nil => rfl
    | cons y rest =>
      have y_mem := sub₂.subset List.mem_cons_self
      rw [List.mem_singleton] at y_mem
      exact absurd (List.mem_append_right l₁ (y_mem ▸ List.mem_cons_self)) absent
  rw [empty, List.append_nil]
  exact sub₁

/-! ## What the handlers leave alone -/

/-- A step that neither assigns nor sends a room state, and takes nothing out of the queue. -/
structure Keeps (s t : Background) : Prop where
  roomState : t.session.roomState = s.session.roomState
  delivered : t.delivered = s.delivered
  versions : t.versions = s.versions
  generation : t.bootstrapRoomStateGeneration = s.bootstrapRoomStateGeneration
  undelivered : t.undelivered.Sublist s.undelivered
  tasks : ∀ snapshot generation,
    Task.delivers snapshot generation ∈ s.tasks → Task.delivers snapshot generation ∈ t.tasks
  pending : t.pendingMemberDeltas = s.pendingMemberDeltas
  awaiting : ∀ roomCode, s.isAwaitingRoomBootstrapFor roomCode = true →
    t.isAwaitingRoomBootstrapFor roomCode = true

/-- A step that ends with no room state. -/
structure Forgets (s t : Background) : Prop where
  roomState : t.session.roomState = none
  delivered : t.delivered = s.delivered
  versions : t.versions = s.versions
  undelivered : t.undelivered.Sublist s.undelivered

/-- A step that assigns a room state, with nothing left in the queue for its room, and starts to
send it. -/
structure Assigns (s t : Background) (state : RoomState) : Prop where
  roomState : t.session.roomState = some { version := s.versions, state }
  delivered : t.delivered = s.delivered
  versions : t.versions = s.versions + 1
  tasks : ∃ generation, t.tasks = s.tasks ++ [.delivers { version := s.versions, state } generation] ∧
    generation.all (fun g => decide (g = t.bootstrapRoomStateGeneration)) = true
  pending : ∀ delta ∈ t.pendingMemberDeltas, delta.roomCode ≠ state.roomCode

section
variable {s t u : Background}

theorem Keeps.refl (s : Background) : Keeps s s :=
  ⟨rfl, rfl, rfl, rfl, List.Sublist.refl _, fun _ _ mem => mem, rfl, fun _ awaiting => awaiting⟩

theorem Keeps.trans (first : Keeps s t) (second : Keeps t u) : Keeps s u where
  roomState := second.roomState.trans first.roomState
  delivered := second.delivered.trans first.delivered
  versions := second.versions.trans first.versions
  generation := second.generation.trans first.generation
  undelivered := second.undelivered.trans first.undelivered
  tasks := fun snapshot generation mem => second.tasks _ _ (first.tasks snapshot generation mem)
  pending := second.pending.trans first.pending
  awaiting := fun roomCode awaiting => second.awaiting _ (first.awaiting roomCode awaiting)

theorem Keeps.forgets (first : Keeps s t) (second : Forgets t u) : Forgets s u where
  roomState := second.roomState
  delivered := second.delivered.trans first.delivered
  versions := second.versions.trans first.versions
  undelivered := second.undelivered.trans first.undelivered

theorem keeps_connected (s : Background) (connected : Bool) : Keeps s { s with connected } :=
  ⟨rfl, rfl, rfl, rfl, List.Sublist.refl _, fun _ _ mem => mem, rfl, fun _ awaiting => awaiting⟩

theorem keeps_pendingShare (s : Background) (pendingLocalShareUrl : Option Url) :
    Keeps s { s with pendingLocalShareUrl } :=
  ⟨rfl, rfl, rfl, rfl, List.Sublist.refl _, fun _ _ mem => mem, rfl, fun _ awaiting => awaiting⟩

theorem keeps_send (s : Background) (message : ClientMessage) : Keeps s (s.send message) :=
  ⟨rfl, rfl, rfl, rfl, List.Sublist.refl _, fun _ _ mem => mem, rfl, fun _ awaiting => awaiting⟩

theorem keeps_pendingCreateRoom (s : Background) (pendingCreateRoom : Bool) :
    Keeps s { s with session := { s.session with pendingCreateRoom } } :=
  ⟨rfl, rfl, rfl, rfl, List.Sublist.refl _, fun _ _ mem => mem, rfl, fun _ awaiting => awaiting⟩

theorem keeps_sendJoinRequest (s : Background) (roomCode : RoomCode) (joinToken : JoinToken) :
    Keeps s (s.sendJoinRequest roomCode joinToken) := by
  refine ⟨rfl, rfl, rfl, rfl, List.Sublist.refl _, fun _ _ mem => mem, rfl, fun code awaiting => ?_⟩
  rcases Bool.or_eq_true_iff.mp awaiting with waiting | sent
  · exact Bool.or_eq_true_iff.mpr (.inl waiting)
  · have named := (Bool.and_eq_true_iff.mp sent).2
    exact Bool.or_eq_true_iff.mpr (.inr (Bool.and_eq_true_iff.mpr ⟨rfl, named⟩))

theorem keeps_sendPendingJoin (s : Background) : Keeps s s.sendPendingJoin := by
  unfold Background.sendPendingJoin
  split
  · split
    · exact keeps_sendJoinRequest _ _ _
    · exact Keeps.refl s
  · exact Keeps.refl s

theorem keeps_onOpen (s : Background) : Keeps s s.onOpen := by
  have connected := keeps_connected s true
  unfold Background.onOpen
  dsimp only
  split
  · exact connected.trans ((keeps_pendingCreateRoom _ false).trans (keeps_send _ _))
  · split
    · exact connected.trans (keeps_sendPendingJoin _)
    · unfold Background.rejoin
      split
      · split
        · exact connected.trans (keeps_sendJoinRequest _ _ _)
        · exact connected
      · exact connected

theorem forgets_clearCurrentRoomContext (s : Background) : Forgets s s.clearCurrentRoomContext :=
  ⟨rfl, rfl, rfl, List.Sublist.refl _⟩

theorem forgets_requestCreateRoom (s : Background) : Forgets s s.requestCreateRoom := by
  refine ⟨rfl, rfl, rfl, ?_⟩
  unfold Background.requestCreateRoom
  rw [undelivered_start rfl]
  exact List.Sublist.refl _

theorem forgets_requestJoinRoom (s : Background) (roomCode : RoomCode) (joinToken : JoinToken) :
    Forgets s (s.requestJoinRoom roomCode joinToken) := by
  refine ⟨rfl, rfl, rfl, ?_⟩
  unfold Background.requestJoinRoom
  rw [undelivered_start rfl]
  exact List.Sublist.refl _

theorem forgets_requestLeaveRoom (s : Background) : Forgets s s.requestLeaveRoom := by
  unfold Background.requestLeaveRoom
  cases s.connected <;> exact ⟨rfl, rfl, rfl, List.Sublist.refl _⟩

/-- An error either changes nothing of the room or forgets it. -/
theorem handleRejection_effect (s : Background) (code : ErrorCode) :
    Keeps s (s.handleRejection code) ∨ Forgets s (s.handleRejection code) := by
  unfold Background.handleRejection
  dsimp only
  split
  · exact .inr (forgets_clearCurrentRoomContext s)
  · split
    · exact .inl ⟨rfl, rfl, rfl, rfl, List.Sublist.refl _, fun _ _ mem => mem, rfl, fun _ awaiting => awaiting⟩
    · exact .inl (Keeps.refl s)

theorem handleError_effect (s : Background) (code : ErrorCode) :
    Keeps s (s.handleError code) ∨ Forgets s (s.handleError code) := by
  unfold Background.handleError
  dsimp only
  split
  · refine .inr ⟨rfl, rfl, rfl, ?_⟩
    rw [undelivered_start rfl]
    exact List.Sublist.refl _
  · exact handleRejection_effect s code

theorem assigns_handleRoomStateMessage {state : RoomState} (fresh : ¬ s.isStale state = true) :
    Assigns s (s.handleRoomStateMessage state) (s.resolve state) := by
  unfold Background.handleRoomStateMessage
  rw [if_neg fresh]
  refine ⟨rfl, rfl, rfl, ⟨none, rfl, rfl⟩, ?_⟩
  intro delta mem
  rw [Background.resolve, roomCode_foldl]
  exact of_decide_eq_true (List.mem_filter.mp mem).2

theorem assigns_applyRoomMemberState {state : RoomState} (empty : s.queued state.roomCode = []) :
    Assigns s (s.applyRoomMemberState state) state := by
  refine ⟨rfl, rfl, rfl, ⟨none, rfl, rfl⟩, fun delta mem => ?_⟩
  have apart := List.filter_eq_nil_iff.mp empty delta mem
  simpa using apart

/-! ### The bootstrap timeout -/

/-- What is left of the queue and of the wait, where a timeout assigns nothing. -/
structure Expires (s t : Background) : Prop where
  roomState : t.session.roomState = s.session.roomState
  delivered : t.delivered = s.delivered
  versions : t.versions = s.versions
  generation : t.bootstrapRoomStateGeneration = s.bootstrapRoomStateGeneration
  tasks : t.tasks = s.tasks
  queue : ∀ snapshot, s.session.roomState = some snapshot →
    (t.queued snapshot.state.roomCode = s.queued snapshot.state.roomCode ∧
      (s.queued snapshot.state.roomCode ≠ [] →
        s.isAwaitingRoomBootstrapFor snapshot.state.roomCode = true →
          t.isAwaitingRoomBootstrapFor snapshot.state.roomCode = true)) ∨
    (¬ truthy s.session.roomCode = true ∧ t.pendingMemberDeltas = [])

/-- Without the wait, a room is awaited where its join is. -/
theorem awaiting_of_sent (elsewhere : s.session.roomCode ≠ some roomCode)
    (awaiting : s.isAwaitingRoomBootstrapFor roomCode = true) (sent : t.session = s.session) :
    t.isAwaitingRoomBootstrapFor roomCode = true := by
  simp only [Background.isAwaitingRoomBootstrapFor, sent, Bool.or_eq_true, Bool.and_eq_true,
    decide_eq_true_eq, elsewhere, and_false, false_or] at awaiting ⊢
  exact awaiting

theorem queued_other {other : RoomCode} (apart : other ≠ roomCode) :
    (s.clearPendingMemberDeltasForRoom roomCode).queued other = s.queued other := by
  rw [Background.queued, Background.clearPendingMemberDeltasForRoom, List.filter_filter]
  apply List.filter_congr
  intro delta _
  by_cases named : delta.roomCode = other
  · simp [named, apart]
  · simp [named]

theorem expire_effect (s : Background) (generation : Nat) :
    Expires s (s.expireBootstrapRoomStateWait generation) ∨
      ∃ snapshot, s.session.roomState = some snapshot ∧
        Assigns s (s.expireBootstrapRoomStateWait generation) (s.resolve snapshot.state) := by
  unfold Background.expireBootstrapRoomStateWait
  split
  · exact .inl ⟨rfl, rfl, rfl, rfl, rfl, fun _ _ => .inl ⟨rfl, fun _ awaiting => awaiting⟩⟩
  · next proceeds =>
    have same_generation : generation = s.bootstrapRoomStateGeneration := by
      simpa using (Bool.or_eq_false_iff.mp (Bool.not_eq_true _ |>.mp proceeds)).2
    dsimp only
    split
    · next falsy =>
      refine .inl ⟨rfl, rfl, rfl, rfl, rfl, fun _ _ => .inr ⟨?_, rfl⟩⟩
      cases code : s.session.roomCode with
      | none => simp [truthy]
      | some code =>
        rw [code] at falsy
        simpa [truthy, Option.filter_eq_none_iff] using falsy
    · next roomCode named =>
      obtain ⟨here, _⟩ := Option.filter_eq_some_iff.mp named
      split
      · next waiting =>
        split
        · next absent =>
          refine .inl ⟨rfl, rfl, rfl, rfl, rfl, fun snapshot held => ?_⟩
          rw [absent] at held
          cases held
        · next snapshot held =>
          split
          · next elsewhere =>
            refine .inl ⟨rfl, rfl, rfl, rfl, rfl, fun other other_held => .inl ⟨?_, ?_⟩⟩
            · obtain rfl : snapshot = other := Option.some.inj (held.symm.trans other_held)
              exact queued_other elsewhere
            · obtain rfl : snapshot = other := Option.some.inj (held.symm.trans other_held)
              intro _ awaiting
              refine awaiting_of_sent (fun same => elsewhere ?_) awaiting rfl
              exact Option.some.inj (same.symm.trans here)
          · next same_room =>
            refine .inr ⟨snapshot, held, ⟨rfl, rfl, rfl, ⟨some generation, rfl, ?_⟩, ?_⟩⟩
            · exact decide_eq_true same_generation
            · intro delta mem
              have kept := of_decide_eq_true (List.mem_filter.mp mem).2
              rw [Background.resolve, roomCode_foldl, not_not.mp same_room]
              exact kept
      · next idle =>
        refine .inl ⟨rfl, rfl, rfl, rfl, rfl, fun snapshot _ => .inl ⟨rfl, ?_⟩⟩
        intro nonempty awaiting
        refine awaiting_of_sent (fun same => nonempty ?_) awaiting rfl
        obtain rfl : snapshot.state.roomCode = roomCode := Option.some.inj (same.symm.trans here)
        simpa [Background.queued] using idle

end

/-! ## Delivery, step by step -/

section
variable {w v : Watch}

/-- No room state is assigned or sent, and the one held is still to be sent, sent already, or from
before the last room was established. -/
theorem Delivery.of_same (delivery : Delivery w) (assigned : v.assigned = w.assigned)
    (versions : v.background.versions = w.background.versions)
    (delivered : v.background.delivered = w.background.delivered)
    (undelivered : v.background.undelivered.Sublist w.background.undelivered)
    (current : ∀ snapshot, v.background.session.roomState = some snapshot →
      w.background.session.roomState = some snapshot)
    (scheduled : ∀ snapshot, v.background.session.roomState = some snapshot →
      v.established ≤ snapshot.version → snapshot ∈ v.background.delivered ∨
        ∃ generation, Task.delivers snapshot generation ∈ v.background.tasks ∧
          generation.all (fun g => decide (g = v.background.bootstrapRoomStateGeneration)) = true) :
    Delivery v where
  versions := by rw [assigned, versions, delivery.versions]
  sublist := by rw [assigned, delivered]; exact delivery.sublist
  once := by
    rw [delivered]
    exact delivery.once.sublist (List.Sublist.append_left undelivered _)
  assigned := by
    rw [assigned]
    exact fun snapshot mem => delivery.assigned snapshot (undelivered.subset mem)
  current := by
    rw [assigned]
    exact fun snapshot held => delivery.current snapshot (current snapshot held)
  scheduled := scheduled

theorem Delivery.keeps (delivery : Delivery w) (keeps : Keeps w.background v.background)
    (assigned : v.assigned = w.assigned) (established : v.established = w.established) :
    Delivery v := by
  apply delivery.of_same assigned keeps.versions keeps.delivered
  · exact keeps.undelivered
  · intro snapshot held
    exact keeps.roomState ▸ held
  · intro snapshot held after
    rw [keeps.roomState] at held
    rw [established] at after
    rw [keeps.delivered, keeps.generation]
    rcases delivery.scheduled snapshot held after with sent | ⟨generation, mem, current⟩
    · exact .inl sent
    · exact .inr ⟨generation, keeps.tasks _ _ mem, current⟩

theorem Delivery.forgets (delivery : Delivery w) (forgets : Forgets w.background v.background)
    (assigned : v.assigned = w.assigned) : Delivery v := by
  have nothing (snapshot : Snapshot) :
      v.background.session.roomState ≠ some snapshot := by
    rw [forgets.roomState]
    exact (Option.some_ne_none snapshot).symm
  apply delivery.of_same assigned forgets.versions forgets.delivered
  · exact forgets.undelivered
  · exact fun snapshot held => absurd held (nothing snapshot)
  · exact fun snapshot held => absurd held (nothing snapshot)

theorem Delivery.assigns (delivery : Delivery w) {state : RoomState}
    (assigns : Assigns w.background v.background state)
    (assigned : v.assigned = w.assigned ++ [{ version := w.background.versions, state }]) :
    Delivery v := by
  obtain ⟨generation, tasks, current⟩ := assigns.tasks
  have undelivered : v.background.undelivered =
      w.background.undelivered ++ [{ version := w.background.versions, state }] := by
    rw [Background.undelivered, tasks, List.filterMap_append]
    rfl
  have fresh {snapshot : Snapshot} (old : snapshot ∈ w.assigned) :
      snapshot ≠ { version := w.background.versions, state } := by
    rintro rfl
    exact absurd (version_lt delivery.versions old) (Nat.lt_irrefl _)
  exact {
    versions := by
      rw [assigned, assigns.versions, List.map_append, delivery.versions, List.range_succ]
      rfl
    sublist := by
      rw [assigned, assigns.delivered]
      exact delivery.sublist.trans (List.sublist_append_left _ _)
    once := by
      rw [assigns.delivered, undelivered, ← List.append_assoc]
      apply List.nodup_append.mpr
      refine ⟨delivery.once, List.nodup_singleton _, ?_⟩
      intro old mem new isNew
      rw [List.mem_singleton.mp isNew]
      rcases List.mem_append.mp mem with sent | waiting
      · exact fresh (delivery.sublist.subset sent)
      · exact fresh (delivery.assigned old waiting)
    assigned := by
      rw [assigned, undelivered]
      intro snapshot mem
      rcases List.mem_append.mp mem with old | new
      · exact List.mem_append_left _ (delivery.assigned snapshot old)
      · exact List.mem_append_right _ new
    current := by
      intro snapshot held
      rw [assigns.roomState] at held
      rw [assigned, List.getLast?_append, List.getLast?_singleton]
      exact held
    scheduled := by
      intro snapshot held _
      rw [assigns.roomState] at held
      cases held
      refine .inr ⟨generation, ?_, current⟩
      rw [tasks]
      exact List.mem_append_right _ List.mem_cons_self }

/-- A handler that is resumed sends its room state only where it is the session's. -/
theorem Delivery.delivers (delivery : Delivery w) {i : Nat} {snapshot : Snapshot}
    {generation : Option Nat}
    (found : w.background.tasks[i]? = some (.delivers snapshot generation))
    (background : v.background =
      { w.background with tasks := w.background.tasks.eraseIdx i }.resume
        (.delivers snapshot generation))
    (assigned : v.assigned = w.assigned) (established : v.established = w.established) :
    Delivery v := by
  have perm : w.background.undelivered.Perm
      (snapshot :: (w.background.tasks.eraseIdx i).filterMap Task.undelivered) :=
    undelivered_eraseIdx found
  have once := (delivery.once.perm ((List.Perm.append_left _ perm)))
  have mem_assigned : snapshot ∈ w.assigned :=
    delivery.assigned snapshot (perm.mem_iff.mpr List.mem_cons_self)
  have not_sent : snapshot ∉ w.background.delivered := fun sent =>
    (List.nodup_append.mp once).2.2 snapshot sent snapshot List.mem_cons_self rfl
  have erased : ((w.background.tasks.eraseIdx i).filterMap Task.undelivered).Sublist
      w.background.undelivered := (List.eraseIdx_sublist _ _).filterMap _
  have kept {other : Snapshot} {g : Option Nat}
      (mem : Task.delivers other g ∈ w.background.tasks) :
      Task.delivers other g = .delivers snapshot generation ∨
        Task.delivers other g ∈ w.background.tasks.eraseIdx i := mem_eraseIdx found mem
  unfold Background.resume at background
  dsimp only at background
  split at background
  · next current =>
    obtain ⟨held, held_current⟩ := Option.map_eq_some_iff.mp current.1
    have last := delivery.current held held_current.1
    have same : held = snapshot := eq_of_version delivery.versions
      (List.mem_of_getLast? last) mem_assigned held_current.2
    rw [same] at last
    have init : w.assigned = w.assigned.dropLast ++ [snapshot] := by
      rw [List.dropLast_append_getLast? _ last]
    have sublist : w.background.delivered.Sublist w.assigned.dropLast :=
      sublist_init (init ▸ delivery.sublist) not_sent
    exact {
      versions := by rw [assigned, background]; exact delivery.versions
      sublist := by
        rw [assigned, background, init]
        exact sublist.append_right _
      once := by
        rw [background]
        dsimp only [Background.undelivered]
        rw [List.append_assoc]
        exact once
      assigned := by
        rw [assigned, background]
        exact fun other mem => delivery.assigned other (erased.subset mem)
      current := by
        rw [assigned, background]
        exact delivery.current
      scheduled := by
        intro other other_held after
        rw [background] at other_held ⊢
        have is_held : other = held := Option.some.inj (other_held.symm.trans held_current.1)
        rw [is_held, same]
        exact .inl (List.mem_append_right _ List.mem_cons_self) }
  · next superseded =>
    apply delivery.of_same assigned
    · rw [background]
    · rw [background]
    · rw [background]
      exact erased
    · rw [background]
      exact fun _ held => held
    · intro other held after
      rw [background] at held ⊢
      rw [established] at after
      rcases delivery.scheduled other held after with sent | ⟨g, mem, current⟩
      · exact .inl sent
      · rcases kept mem with isIt | rest
        · cases isIt
          exact absurd ⟨by rw [held]; rfl, current⟩ superseded
        · exact .inr ⟨g, rest, current⟩

end

/-! ## Member deltas, step by step -/

/-- The room state held, with the queue applied, is the last authoritative one with its deltas
applied, unless some were dropped. The queue holds deltas of its room only while that is awaited. -/
structure Members (w : Watch) : Prop where
  resolved : ∀ snapshot, w.background.session.roomState = some snapshot →
    ∃ state, w.authority = some state ∧ snapshot.state.roomCode = state.roomCode ∧
      ((∀ delta ∈ w.discarded, delta.roomCode ≠ state.roomCode) →
        w.background.resolve snapshot.state = w.deltas.foldl applyMemberDelta state)
  awaited : ∀ snapshot, w.background.session.roomState = some snapshot →
    w.background.queued snapshot.state.roomCode ≠ [] →
      w.background.isAwaitingRoomBootstrapFor snapshot.state.roomCode = true

section
variable {w v : Watch}

/-- The room state held stays, and of the queue what belongs to its room stays or is dropped. -/
theorem Members.of_same (members : Members w)
    (roomState : v.background.session.roomState = w.background.session.roomState)
    (authority : v.authority = w.authority) (deltas : v.deltas = w.deltas)
    (discarded : ∀ delta ∈ w.discarded, delta ∈ v.discarded)
    (queue : ∀ snapshot, w.background.session.roomState = some snapshot →
      (v.background.queued snapshot.state.roomCode = w.background.queued snapshot.state.roomCode ∧
        (w.background.queued snapshot.state.roomCode ≠ [] →
          w.background.isAwaitingRoomBootstrapFor snapshot.state.roomCode = true →
            v.background.isAwaitingRoomBootstrapFor snapshot.state.roomCode = true)) ∨
      (v.background.queued snapshot.state.roomCode = [] ∧
        ∀ delta ∈ w.background.queued snapshot.state.roomCode, delta ∈ v.discarded)) :
    Members v where
  resolved := by
    intro snapshot held
    rw [roomState] at held
    obtain ⟨state, authoritative, same_room, resolved⟩ := members.resolved snapshot held
    refine ⟨state, authority.trans authoritative, same_room, fun complete => ?_⟩
    rw [deltas, ← resolved fun delta mem => complete delta (discarded delta mem)]
    unfold Background.resolve
    rcases queue snapshot held with ⟨same, _⟩ | ⟨empty, dropped⟩
    · rw [same]
    · have nothing : w.background.queued snapshot.state.roomCode = [] := by
        apply List.eq_nil_iff_forall_not_mem.mpr
        intro delta mem
        have named := of_decide_eq_true (List.mem_filter.mp mem).2
        exact complete delta (dropped delta mem) (named.trans same_room)
      rw [empty, nothing]
  awaited := by
    intro snapshot held nonempty
    rw [roomState] at held
    rcases queue snapshot held with ⟨same, awaiting⟩ | ⟨empty, _⟩
    · rw [same] at nonempty
      exact awaiting nonempty (members.awaited snapshot held nonempty)
    · exact absurd empty nonempty

theorem Members.keeps (members : Members w) (keeps : Keeps w.background v.background)
    (authority : v.authority = w.authority) (deltas : v.deltas = w.deltas)
    (discarded : v.discarded = w.discarded) : Members v := by
  apply members.of_same keeps.roomState authority deltas
  · rw [discarded]
    exact fun _ mem => mem
  · intro snapshot _
    have same : v.background.queued snapshot.state.roomCode =
        w.background.queued snapshot.state.roomCode := by
      rw [Background.queued, keeps.pending]
      rfl
    exact .inl ⟨same, fun _ => keeps.awaiting _⟩

theorem members_of_none (nothing : v.background.session.roomState = none) : Members v where
  resolved := by simp [nothing]
  awaited := by simp [nothing]

theorem queued_of_assigns {s t : Background} {state : RoomState} (assigns : Assigns s t state) :
    t.queued state.roomCode = [] := by
  apply List.filter_eq_nil_iff.mpr
  intro delta mem
  simpa using assigns.pending delta mem

theorem Members.assigns {state authority : RoomState}
    (assigns : Assigns w.background v.background state)
    (authoritative : v.authority = some authority) (same_room : state.roomCode = authority.roomCode)
    (resolved : (∀ delta ∈ v.discarded, delta.roomCode ≠ authority.roomCode) →
      state = v.deltas.foldl applyMemberDelta authority) : Members v where
  resolved := by
    intro snapshot held
    rw [assigns.roomState] at held
    cases held
    refine ⟨authority, authoritative, same_room, fun complete => ?_⟩
    rw [Background.resolve, queued_of_assigns assigns]
    exact resolved complete
  awaited := by
    intro snapshot held nonempty
    rw [assigns.roomState] at held
    cases held
    exact absurd (queued_of_assigns assigns) nonempty

theorem applyMemberDelta_other {state : RoomState} {delta : MemberDelta}
    (apart : delta.roomCode ≠ state.roomCode) : applyMemberDelta state delta = state :=
  if_pos (Ne.symm apart)

theorem queued_push (s : Background) (delta : MemberDelta) (roomCode : RoomCode) :
    Background.queued { s with pendingMemberDeltas := s.pendingMemberDeltas ++ [delta] } roomCode =
      s.queued roomCode ++ if delta.roomCode = roomCode then [delta] else [] := by
  rw [Background.queued, List.filter_append]
  by_cases named : delta.roomCode = roomCode <;> simp [named, Background.queued]

/-- A delta is queued, applied, or of another room than the one held. -/
theorem Members.member (members : Members w) (delta : MemberDelta)
    (background : v.background = w.background.handleRoomMember delta)
    (authority : v.authority = w.authority) (deltas : v.deltas = w.deltas ++ [delta])
    (discarded : v.discarded = w.discarded) : Members v := by
  unfold Background.handleRoomMember at background
  split at background
  · next awaiting =>
    have held_same : v.background.session = w.background.session := by rw [background]
    have awaiting_same (roomCode : RoomCode) : v.background.isAwaitingRoomBootstrapFor roomCode =
        w.background.isAwaitingRoomBootstrapFor roomCode := by
      rw [background]
      rfl
    constructor
    · intro snapshot held
      rw [held_same] at held
      obtain ⟨state, authoritative, same_room, resolved⟩ := members.resolved snapshot held
      refine ⟨state, authority.trans authoritative, same_room, fun complete => ?_⟩
      rw [discarded] at complete
      have before := resolved complete
      have room := roomCode_foldl (w.background.queued snapshot.state.roomCode) snapshot.state
      rw [deltas, List.foldl_append, ← before, background]
      unfold Background.resolve
      rw [queued_push, List.foldl_append]
      by_cases named : delta.roomCode = snapshot.state.roomCode
      · rw [if_pos named]
      · rw [if_neg named]
        symm
        apply applyMemberDelta_other
        rw [room]
        exact named
    · intro snapshot held nonempty
      rw [held_same] at held
      rw [awaiting_same]
      by_cases named : delta.roomCode = snapshot.state.roomCode
      · exact named ▸ awaiting
      · apply members.awaited snapshot held
        rw [background, queued_push, if_neg named, List.append_nil] at nonempty
        exact nonempty
  · next immediate =>
    split at background
    · next nothing =>
      exact members_of_none (background ▸ nothing)
    · next snapshot held =>
      obtain ⟨state, authoritative, same_room, resolved⟩ := members.resolved snapshot held
      split at background
      · next elsewhere =>
        constructor
        · intro other other_held
          rw [background] at other_held
          obtain rfl : snapshot = other := Option.some.inj (held.symm.trans other_held)
          refine ⟨state, authority.trans authoritative, same_room, fun complete => ?_⟩
          rw [discarded] at complete
          rw [background, resolved complete, deltas, List.foldl_append]
          refine (applyMemberDelta_other ?_).symm
          rw [roomCode_foldl, ← same_room]
          exact Ne.symm elsewhere
        · intro other other_held
          rw [background] at other_held ⊢
          exact members.awaited other other_held
      · next same_delta =>
        have named : snapshot.state.roomCode = delta.roomCode := not_not.mp same_delta
        have empty : w.background.queued snapshot.state.roomCode = [] := by
          by_contra nonempty
          exact immediate (named ▸ members.awaited snapshot held nonempty)
        have assigns : Assigns w.background v.background (applyMemberDelta snapshot.state delta) := by
          rw [background]
          apply assigns_applyRoomMemberState
          rw [roomCode_applyMemberDelta]
          exact empty
        apply Members.assigns assigns (authority.trans authoritative)
        · rw [roomCode_applyMemberDelta]
          exact same_room
        · intro complete
          rw [discarded] at complete
          have before := resolved complete
          rw [Background.resolve, empty] at before
          rw [deltas, List.foldl_append, ← before]
          rfl

end

/-! ## Runs -/

structure Sound (w : Watch) : Prop where
  delivery : Delivery w
  members : Members w

theorem sound_start (background : Background)
    (held : background.session.roomState = none) (tasks : background.tasks = [])
    (versions : background.versions = 0) (delivered : background.delivered = []) :
    Sound { background } where
  delivery := {
    versions := by rw [versions]; rfl
    sublist := by rw [delivered]
    once := by simp [Background.undelivered, delivered, tasks]
    assigned := by simp [Background.undelivered, tasks]
    current := by simp [held]
    scheduled := by simp [held] }
  members := members_of_none held

section
variable {w v : Watch}

theorem newlyAssigned_same (delivery : Delivery w) {t : Background}
    (held : t.session.roomState = w.background.session.roomState) :
    Watch.newlyAssigned w.background t = [] := by
  unfold Watch.newlyAssigned
  rw [held]
  cases current : w.background.session.roomState with
  | none => rfl
  | some snapshot =>
    have old := version_lt delivery.versions
      (List.mem_of_getLast? (delivery.current snapshot current))
    simpa using old

theorem assigned_same (delivery : Delivery w) {t : Background}
    (held : t.session.roomState = w.background.session.roomState) :
    w.assigned ++ Watch.newlyAssigned w.background t = w.assigned := by
  rw [newlyAssigned_same delivery held, List.append_nil]

theorem newlyAssigned_none {s t : Background} (held : t.session.roomState = none) :
    Watch.newlyAssigned s t = [] := by
  unfold Watch.newlyAssigned
  rw [held]
  rfl

theorem newlyAssigned_new {s t : Background} {state : RoomState} (assigns : Assigns s t state) :
    Watch.newlyAssigned s t = [{ version := s.versions, state }] := by
  unfold Watch.newlyAssigned
  rw [assigns.roomState]
  simp

/-- What a step of a watch that observes nothing comes to. -/
theorem Sound.keeps (sound : Sound w) {t : Background} (keeps : Keeps w.background t) :
    Sound { w with
      background := t
      assigned := w.assigned ++ Watch.newlyAssigned w.background t } := by
  have assigned := assigned_same sound.delivery keeps.roomState
  exact ⟨sound.delivery.keeps keeps assigned rfl, sound.members.keeps keeps rfl rfl rfl⟩

theorem Sound.forgets (sound : Sound w) {t : Background} (forgets : Forgets w.background t) :
    Sound { w with
      background := t
      assigned := w.assigned ++ Watch.newlyAssigned w.background t } := by
  have assigned : w.assigned ++ Watch.newlyAssigned w.background t = w.assigned := by
    rw [newlyAssigned_none forgets.roomState, List.append_nil]
  exact ⟨sound.delivery.forgets forgets assigned, members_of_none forgets.roomState⟩

theorem Sound.either (sound : Sound w) {t : Background}
    (effect : Keeps w.background t ∨ Forgets w.background t) :
    Sound { w with
      background := t
      assigned := w.assigned ++ Watch.newlyAssigned w.background t } :=
  effect.elim sound.keeps sound.forgets

/-- A room that is established before a room state arrives for it. -/
theorem Sound.establishes (sound : Sound w) {t : Background} {discarded : List MemberDelta}
    (held : t.session.roomState = w.background.session.roomState)
    (delivered : t.delivered = w.background.delivered)
    (versions : t.versions = w.background.versions) (tasks : t.tasks = w.background.tasks)
    (queue : ∀ roomCode, (t.queued roomCode = w.background.queued roomCode ∧
        t.isAwaitingRoomBootstrapFor roomCode = true) ∨
      (t.queued roomCode = [] ∧
        ∀ delta ∈ w.background.queued roomCode, delta ∈ w.discarded ++ discarded)) :
    Sound { w with
      background := t
      assigned := w.assigned ++ Watch.newlyAssigned w.background t
      established := w.background.versions
      discarded := w.discarded ++ discarded } := by
  constructor
  · apply sound.delivery.of_same
    · exact assigned_same sound.delivery held
    · exact versions
    · exact delivered
    · rw [Background.undelivered, tasks]
      exact List.Sublist.refl _
    · exact fun snapshot current => held ▸ current
    · intro snapshot current after
      have old := version_lt sound.delivery.versions
        (List.mem_of_getLast? (sound.delivery.current snapshot (held ▸ current)))
      exact absurd after (Nat.not_le.mpr old)
  · refine sound.members.of_same held rfl rfl (fun _ mem => List.mem_append_left _ mem) ?_
    intro snapshot _
    rcases queue snapshot.state.roomCode with ⟨same, awaiting⟩ | dropped
    · exact .inl ⟨same, fun _ _ => awaiting⟩
    · exact .inr dropped

theorem queued_except {s : Background} :
    (s.clearPendingMemberDeltasExceptRoom roomCode).queued roomCode = s.queued roomCode := by
  apply List.filter_eq_self.mpr
  intro delta mem
  exact (List.mem_filter.mp mem).2

theorem queued_except_other {s : Background} {other : RoomCode} (apart : other ≠ roomCode) :
    (s.clearPendingMemberDeltasExceptRoom roomCode).queued other = [] := by
  apply List.filter_eq_nil_iff.mpr
  intro delta mem
  have named := of_decide_eq_true (List.mem_filter.mp mem).2
  simpa [named] using apart.symm

theorem Sound.created (sound : Sound w) (roomCode : RoomCode) (joinToken : JoinToken)
    (memberToken : MemberToken) (memberId : MemberId)
    (step : w.exec (.receives (.created roomCode joinToken memberToken memberId)) = some v) :
    Sound v := by
  cases Option.some.inj step
  refine sound.establishes
    (t := w.background.handleCreated roomCode joinToken memberToken memberId) rfl rfl rfl rfl ?_
  intro code
  exact .inr ⟨rfl, fun delta mem => List.mem_append_right _ (List.mem_filter.mp mem).1⟩

theorem Sound.joined (sound : Sound w) (roomCode : RoomCode) (memberToken : MemberToken)
    (memberId : MemberId)
    (step : w.exec (.receives (.joined roomCode memberToken memberId)) = some v) : Sound v := by
  cases Option.some.inj step
  refine sound.establishes
    (t := w.background.handleJoined roomCode memberToken memberId) rfl rfl rfl rfl ?_
  intro code
  by_cases here : code = roomCode
  · subst here
    refine .inl ⟨queued_except, ?_⟩
    simp [Background.isAwaitingRoomBootstrapFor, Background.handleJoined,
      Background.startWaitingForBootstrapRoomState]
  · refine .inr ⟨queued_except_other here, fun delta mem => List.mem_append_right _ ?_⟩
    obtain ⟨queued, named⟩ := List.mem_filter.mp mem
    have apart : delta.roomCode ≠ roomCode := of_decide_eq_true named ▸ here
    exact List.mem_filter.mpr ⟨queued, decide_eq_true apart⟩

theorem Sound.state (sound : Sound w) (state : RoomState)
    (step : w.exec (.receives (.state state)) = some v) : Sound v := by
  cases Option.some.inj step
  by_cases stale : w.background.isStale state = true
  · have ignored : w.background.handleServerMessage (.state state) = w.background := if_pos stale
    have unobserved : w.observe (.receives (.state state)) = w := if_pos stale
    rw [ignored, unobserved]
    exact sound.keeps (Keeps.refl _)
  · have assigns : Assigns w.background (w.background.handleServerMessage (.state state))
        (w.background.resolve state) := assigns_handleRoomStateMessage stale
    have observed : w.observe (.receives (.state state)) = { w with
        authority := some state
        deltas := w.background.queued state.roomCode
        discarded := [] } := if_neg stale
    rw [observed]
    constructor
    · exact sound.delivery.assigns assigns (congrArg (w.assigned ++ ·) (newlyAssigned_new assigns))
    · exact Members.assigns assigns rfl (roomCode_foldl _ _) fun _ => rfl

/-- A delta that is applied at once is applied with nothing queued for its room. -/
theorem Members.handleRoomMember_effect (members : Members w) (delta : MemberDelta) :
    (∃ pendingMemberDeltas,
        w.background.handleRoomMember delta = { w.background with pendingMemberDeltas }) ∨
      ∃ state, Assigns w.background (w.background.handleRoomMember delta) state := by
  unfold Background.handleRoomMember
  split
  · exact .inl ⟨_, rfl⟩
  · next immediate =>
    split
    · exact .inl ⟨w.background.pendingMemberDeltas, rfl⟩
    · next snapshot held =>
      split
      · exact .inl ⟨w.background.pendingMemberDeltas, rfl⟩
      · next same_delta =>
        refine .inr ⟨_, assigns_applyRoomMemberState ?_⟩
        rw [roomCode_applyMemberDelta]
        by_contra nonempty
        exact immediate (not_not.mp same_delta ▸ members.awaited snapshot held nonempty)

theorem Sound.member (sound : Sound w) (delta : MemberDelta)
    (step : w.exec (.receives (.member delta)) = some v) : Sound v := by
  cases Option.some.inj step
  refine ⟨?_, sound.members.member delta rfl rfl rfl rfl⟩
  rcases sound.members.handleRoomMember_effect delta with ⟨queue, same⟩ | ⟨state, assigns⟩
  · have handled : w.background.handleServerMessage (.member delta) =
        { w.background with pendingMemberDeltas := queue } := same
    rw [handled]
    apply sound.delivery.of_same
    · exact assigned_same sound.delivery rfl
    · rfl
    · rfl
    · exact List.Sublist.refl _
    · exact fun _ held => held
    · exact sound.delivery.scheduled
  · exact sound.delivery.assigns assigns (congrArg (w.assigned ++ ·) (newlyAssigned_new assigns))

theorem Sound.timeout (sound : Sound w) (step : w.exec .bootstrapTimeout = some v) : Sound v := by
  obtain ⟨background, run, rfl⟩ := Option.map_eq_some_iff.mp step
  obtain ⟨generation, _, rfl⟩ := Option.map_eq_some_iff.mp run
  have observed : (w.observe .bootstrapTimeout).established = w.established ∧
      (w.observe .bootstrapTimeout).authority = w.authority ∧
      (w.observe .bootstrapTimeout).deltas = w.deltas ∧
      (∀ delta ∈ w.discarded, delta ∈ (w.observe .bootstrapTimeout).discarded) ∧
      (¬ truthy w.background.session.roomCode = true → ∀ delta ∈ w.background.pendingMemberDeltas,
        delta ∈ (w.observe .bootstrapTimeout).discarded) := by
    dsimp only [Watch.observe]
    split
    · next named => exact ⟨rfl, rfl, rfl, fun _ mem => mem, fun falsy => absurd named falsy⟩
    · exact ⟨rfl, rfl, rfl, fun _ mem => List.mem_append_left _ mem,
        fun _ _ mem => List.mem_append_right _ mem⟩
  obtain ⟨established, authority, deltas, discarded, dropped⟩ := observed
  rcases expire_effect { w.background with bootstrapRoomStateTimer := none } generation with
    expires | ⟨snapshot, held, assigns⟩
  · constructor
    · apply sound.delivery.of_same
      · exact assigned_same sound.delivery expires.roomState
      · exact expires.versions
      · exact expires.delivered
      · dsimp only [Background.undelivered]
        rw [expires.tasks]
      · exact fun _ held => expires.roomState ▸ held
      · intro snapshot held after
        dsimp only at held after ⊢
        rw [expires.delivered, expires.tasks, expires.generation]
        exact sound.delivery.scheduled snapshot (expires.roomState ▸ held) (established ▸ after)
    · refine sound.members.of_same expires.roomState authority deltas discarded ?_
      intro snapshot held
      rcases expires.queue snapshot held with same | ⟨falsy, empty⟩
      · exact .inl same
      · refine .inr ⟨?_, fun delta mem => dropped falsy delta (List.mem_filter.mp mem).1⟩
        dsimp only [Background.queued]
        rw [empty]
        rfl
  · have assigns : Assigns w.background _ _ := ⟨assigns.roomState, assigns.delivered,
      assigns.versions, assigns.tasks, assigns.pending⟩
    constructor
    · exact sound.delivery.assigns assigns (congrArg (w.assigned ++ ·) (newlyAssigned_new assigns))
    · obtain ⟨state, authoritative, same_room, resolved⟩ := sound.members.resolved snapshot held
      refine Members.assigns assigns (authority.trans authoritative)
        ((roomCode_foldl _ _).trans same_room) fun complete => ?_
      have before := resolved fun delta mem => complete delta (discarded delta mem)
      exact before.trans (congrArg (fun l => List.foldl applyMemberDelta state l) deltas.symm)

/-- What is left of a handler that does not send a room state. -/
theorem resume_effect {s : Background} (found : s.tasks[i]? = some task)
    (other : task.undelivered = none) :
    Keeps s ({ s with tasks := s.tasks.eraseIdx i }.resume task) ∨
      Forgets s ({ s with tasks := s.tasks.eraseIdx i }.resume task) := by
  have erased : Keeps s { s with tasks := s.tasks.eraseIdx i } := by
    refine ⟨rfl, rfl, rfl, rfl, ?_, ?_, rfl, fun _ awaiting => awaiting⟩
    · exact (List.eraseIdx_sublist _ _).filterMap _
    · intro snapshot generation mem
      rcases mem_eraseIdx found mem with same | kept
      · rw [← same] at other
        cases other
      · exact kept
  cases task with
  | delivers snapshot generation => cases other
  | creates =>
    unfold Background.resume
    dsimp only
    split
    · exact .inl (erased.trans ((keeps_pendingCreateRoom _ false).trans (keeps_send _ _)))
    · exact .inl (erased.trans (keeps_pendingCreateRoom _ true))
  | joins =>
    unfold Background.resume
    dsimp only
    split
    · exact .inl (erased.trans (keeps_sendPendingJoin _))
    · exact .inl erased
  | rejects code =>
    rcases handleRejection_effect { s with tasks := s.tasks.eraseIdx i } code with keeps | forgets
    · exact .inl (erased.trans keeps)
    · exact .inr (erased.forgets forgets)

theorem Sound.resumes (sound : Sound w) (step : w.exec (.resumes i) = some v) :
    Sound v := by
  obtain ⟨background, run, rfl⟩ := Option.map_eq_some_iff.mp step
  obtain ⟨task, found, rfl⟩ := Option.map_eq_some_iff.mp run
  cases other : task.undelivered with
  | none => exact sound.either (resume_effect found other)
  | some snapshot =>
    cases task with
    | delivers snapshot generation =>
      have same : ({ w.background with tasks := w.background.tasks.eraseIdx i }.resume
          (.delivers snapshot generation)).session.roomState = w.background.session.roomState := by
        unfold Background.resume
        dsimp only
        split <;> rfl
      have queue : ({ w.background with tasks := w.background.tasks.eraseIdx i }.resume
            (.delivers snapshot generation)).pendingMemberDeltas =
          w.background.pendingMemberDeltas := by
        unfold Background.resume
        dsimp only
        split <;> rfl
      have awaiting (roomCode : RoomCode) :
          ({ w.background with tasks := w.background.tasks.eraseIdx i }.resume
            (.delivers snapshot generation)).isAwaitingRoomBootstrapFor roomCode =
          w.background.isAwaitingRoomBootstrapFor roomCode := by
        unfold Background.resume
        dsimp only
        split <;> rfl
      constructor
      · exact sound.delivery.delivers found rfl (assigned_same sound.delivery same) rfl
      · refine sound.members.of_same same rfl rfl (fun _ mem => mem) fun held _ => .inl ⟨?_, ?_⟩
        · exact congrArg (List.filter _) queue
        · intro _ awaited
          exact (awaiting _).trans awaited
    | creates | joins | rejects code => cases other

theorem Sound.exec (sound : Sound w) {e : Event} (step : w.exec e = some v) : Sound v := by
  match e with
  | .receives (.created roomCode joinToken memberToken memberId) =>
    exact sound.created roomCode joinToken memberToken memberId step
  | .receives (.joined roomCode memberToken memberId) =>
    exact sound.joined roomCode memberToken memberId step
  | .receives (.state state) => exact sound.state state step
  | .receives (.member delta) => exact sound.member delta step
  | .receives (.error code) =>
    cases Option.some.inj step
    exact sound.either (handleError_effect _ code)
  | .bootstrapTimeout => exact sound.timeout step
  | .resumes i => exact sound.resumes step
  | .createRoom =>
    cases Option.some.inj step
    exact sound.forgets (forgets_requestCreateRoom _)
  | .joinRoom roomCode joinToken =>
    cases Option.some.inj step
    exact sound.forgets (forgets_requestJoinRoom _ roomCode joinToken)
  | .leaveRoom =>
    cases Option.some.inj step
    exact sound.forgets (forgets_requestLeaveRoom _)
  | .opens =>
    cases Option.some.inj step
    exact sound.keeps (keeps_onOpen _)
  | .closes =>
    cases Option.some.inj step
    exact sound.keeps (keeps_connected _ false)
  | .pendingShare url =>
    cases Option.some.inj step
    exact sound.keeps (keeps_pendingShare _ url)
  | .contextCleared =>
    cases Option.some.inj step
    exact sound.forgets (forgets_clearCurrentRoomContext _)

theorem sound_of_run (run : Watch.Run w v) (sound : Sound w) : Sound v := by
  induction run with
  | refl => exact sound
  | tail _ step sound =>
    obtain ⟨e, step⟩ := step
    exact sound.exec step

end

theorem getLast?_of_sublist {α : Type} {l whole : List α} {x : α} (sub : l.Sublist whole)
    (nodup : whole.Nodup) (last : whole.getLast? = some x) (mem : x ∈ l) :
    l.getLast? = some x := by
  have init : whole = whole.dropLast ++ [x] := (List.dropLast_append_getLast? _ last).symm
  rw [init] at sub nodup
  obtain ⟨l₁, l₂, rfl, sub₁, sub₂⟩ := List.sublist_append_iff.mp sub
  rcases List.mem_append.mp mem with earlier | later
  · have apart := (List.nodup_append.mp nodup).2.2 x (sub₁.subset earlier) x List.mem_cons_self
    exact absurd rfl apart
  · obtain rfl : l₂ = [x] := sub₂.eq_of_length_le (List.length_pos_of_mem later)
    rw [List.getLast?_append, List.getLast?_singleton]
    rfl

theorem room_states_reach_the_page {w : Watch} (run : Watch.Run { background := {} } w) :
    w.background.delivered.Sublist w.assigned ∧
      ∀ snapshot, w.Settled → w.background.session.roomState = some snapshot →
        w.established ≤ snapshot.version →
          w.background.delivered.getLast? = some snapshot ∧
            ∃ state, w.authority = some state ∧
              ((∀ delta ∈ w.discarded, delta.roomCode ≠ state.roomCode) →
                (w.background.resolve snapshot.state).members =
                  (w.deltas.foldl applyMemberDelta state).members) := by
  have sound := sound_of_run run (sound_start {} rfl rfl rfl rfl)
  refine ⟨sound.delivery.sublist, fun snapshot settled held after => ⟨?_, ?_⟩⟩
  · have nodup : w.assigned.Nodup := by
      apply List.Nodup.of_map (·.version)
      rw [sound.delivery.versions]
      exact List.nodup_range
    rcases sound.delivery.scheduled snapshot held after with sent | ⟨generation, waiting, _⟩
    · exact getLast?_of_sublist sound.delivery.sublist nodup
        (sound.delivery.current snapshot held) sent
    · exact absurd waiting (settled snapshot generation)
  · obtain ⟨state, authoritative, _, resolved⟩ := sound.members.resolved snapshot held
    exact ⟨state, authoritative, fun complete => congrArg RoomState.members (resolved complete)⟩

/-! ## A delta that waits for a join -/

def replay (w : Watch) (events : List Event) : Option Watch := events.foldlM Watch.exec w

theorem run_of_replay {events : List Event} {w v : Watch} (replayed : replay w events = some v) :
    Watch.Run w v := by
  induction events generalizing w with
  | nil =>
    cases Option.some.inj replayed
    exact Relation.ReflTransGen.refl
  | cons e rest ih =>
    obtain ⟨u, step, rest⟩ := Option.bind_eq_some_iff.mp replayed
    exact Relation.ReflTransGen.head ⟨e, step⟩ (ih rest)

def alice : RoomMember := { id := "member-1", name := "Alice" }

def bob : RoomMember := { id := "member-2", name := "Bob" }

def room04 : RoomState := { roomCode := "ROOM04", sharedUrl := none, members := [alice] }

def seating : List Event :=
  [.opens, .joinRoom "ROOM04" "join-token", .resumes 0,
    .receives (.joined "ROOM04" "member-token-1" "member-1"), .receives (.state room04),
    .resumes 0]

def seated : Watch where
  background := {
    session := {
      roomCode := some "ROOM04"
      joinToken := some "join-token"
      memberToken := some "member-token-1"
      memberId := some "member-1"
      roomState := some { version := 0, state := room04 } }
    connected := true
    bootstrapRoomStateGeneration := 4
    versions := 1
    sent := [.join "ROOM04" "join-token" none]
    delivered := [{ version := 0, state := room04 }] }
  assigned := [{ version := 0, state := room04 }]
  authority := some room04

theorem run_seated : Watch.Run { background := {} } seated :=
  run_of_replay (show replay { background := {} } seating = some seated by decide +kernel)

def bobJoins : MemberDelta := { change := .joined, roomCode := "ROOM04", member := bob }

def aliceLeaves : MemberDelta := { change := .left, roomCode := "ROOM04", member := alice }

/-- One delta waits for the first room state, the other one finds it. -/
def attending : List Event :=
  [.opens, .joinRoom "ROOM04" "join-token", .resumes 0,
    .receives (.joined "ROOM04" "member-token-1" "member-1"), .receives (.member bobJoins),
    .receives (.state room04), .resumes 0, .receives (.member aliceLeaves), .resumes 0]

theorem room_state_reaches_the_page : ∃ w, Watch.Run { background := {} } w ∧
    w.background.delivered.Sublist w.assigned ∧ w.assigned.length = 2 ∧
    w.deltas = [bobJoins, aliceLeaves] ∧
    w.background.delivered.getLast? =
      some { version := 1, state := { room04 with members := [bob] } } ∧
    ∃ state, w.authority = some state ∧
      ((∀ delta ∈ w.discarded, delta.roomCode ≠ state.roomCode) →
        (w.background.resolve { room04 with members := [bob] }).members =
          (w.deltas.foldl applyMemberDelta state).members) := by
  have ends : (replay { background := {} } attending).any (fun w => decide (
      w.background.tasks = [] ∧ w.assigned.length = 2 ∧ w.deltas = [bobJoins, aliceLeaves] ∧
        w.established ≤ 1 ∧ w.background.session.roomState =
          some { version := 1, state := { room04 with members := [bob] } })) = true := by
    decide +kernel
  obtain ⟨w, replayed, holds⟩ := (Option.any_eq_true ..).mp ends
  obtain ⟨idle, assigned, deltas, established, held⟩ := of_decide_eq_true holds
  have run := run_of_replay replayed
  obtain ⟨sublist, last⟩ := room_states_reach_the_page run
  have settled : w.Settled := fun _ _ mem => by
    rw [idle] at mem
    cases mem
  exact ⟨w, run, sublist, assigned, deltas, last _ settled held established⟩

/-- The socket is opened again, and the delta arrives before the join is answered. -/
theorem delta_waits_for_its_join : ∃ w, Watch.Run { background := {} } w ∧ w.Settled ∧
    ∃ snapshot state, w.background.session.roomState = some snapshot ∧
      w.established ≤ snapshot.version ∧ w.authority = some state ∧ w.discarded = [] ∧
      snapshot.state.members ≠ (w.deltas.foldl applyMemberDelta state).members := by
  let deferred : Watch := { seated with
    background := { seated.background with
      session := { seated.background.session with pendingJoinRequestSent := true }
      pendingMemberDeltas := [{ change := .joined, roomCode := "ROOM04", member := bob }]
      sent := [.join "ROOM04" "join-token" none,
        .join "ROOM04" "join-token" (some "member-token-1")] }
    deltas := [{ change := .joined, roomCode := "ROOM04", member := bob }] }
  have replayed : replay seated [.closes, .opens,
      .receives (.member { change := .joined, roomCode := "ROOM04", member := bob })] =
      some deferred := by decide +kernel
  refine ⟨deferred, run_seated.trans (run_of_replay replayed), fun _ _ mem => (nomatch mem),
    _, _, rfl, Nat.le_refl 0, rfl, rfl, ?_⟩
  decide +kernel

end BiliSyncPlay.RoomSession
