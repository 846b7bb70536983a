import BiliSyncPlay.Reaper.RuntimeIndex
import Mathlib.Logic.Relation

/-!
# What the reaper owes a room

A dead session leaves its room's index silently, so the room is owed an announcement from then on.
The reaper remembers it only once the loop of the sweep is over, and only for the writes whose
confirmation it waited out.
-/

namespace BiliSyncPlay.RuntimeIndexReaper

open Reaper

/-- The room is remembered, or a publish for it that started after the removal has succeeded. -/
def Reaper.Paid (s : Reaper) (removal : Removal) : Prop :=
  s.roomsAwaitingResync.has removal.roomCode = true ∨
    ∃ (id : PublishId) (p : Publish), s.publishes[id]? = some p ∧ removal.since ≤ id ∧
      p.roomCode = removal.roomCode ∧ p.answer = some true

/-- The room is paid what it is owed, or a later sweep still finds it in the session's record. -/
def Reaper.Announced (s : Reaper) (removal : Removal) : Prop :=
  s.Paid removal ∨ s.store.roomCode? removal.session = some removal.roomCode

/-- The rooms that only the variables of a sweep remember. -/
def Phase.roomsToResync : Phase → List RoomCode
  | .removing v .. | .indexing v .. | .confirming v => v.roomsToResync
  | _ => []

/-- The index write a sweep waits for. -/
def Phase.indexWrite : Phase → Option (WriteId × RoomCode × SessionId)
  | .indexing _ session code write => some (write, code, session)
  | _ => none

/-- The sweep under way is yet to remember the room, or to learn of the removal. -/
def Reaper.Holds (s : Reaper) (removal : Removal) : Prop :=
  removal.roomCode ∈ s.pendingSweep.roomsToResync ∨
    s.pendingSweep.indexWrite.map Prod.snd = some (removal.roomCode, removal.session)

/-! ## Conditions on a step -/

/-- The index entry a write would remove. -/
def Reaper.removedBy (s : Reaper) (write : WriteId) : Option (RoomCode × SessionId) :=
  s.writes[write]?.bind fun queued => s.store.removes queued.write

/-- No publish is taken for one that started after a removal it started before. -/
def Reaper.Timely (s : Reaper) (roomCode : RoomCode) (publish : PublishId) : Prop :=
  ∀ removal ∈ s.removals, removal.roomCode = roomCode → removal.since ≤ publish

/-- The publish whose success the step takes note of. -/
def Reaper.heard (s : Reaper) : Event → Option (RoomCode × PublishId)
  | .resumes _ =>
    match s.pendingSweep with
    | .publishing roomCode publish _ _ => some (roomCode, publish)
    | _ => none
  | .answersPass publish => s.lastPass.bind fun pass => pass.active.find? (·.2 = publish)
  | _ => none

/-- The calls that throw in the stretch the step begins. -/
def Event.refused : Event → List StoreCall
  | .resumes refused | .expires refused => refused
  | _ => []

/-- What the sweep learns of the write it waits for. -/
def Reaper.learns (s : Reaper) (write : WriteId) : Event → Option Bool
  | .resumes _ => s.verdict write
  | .expires _ => some false
  | _ => none

/-- The room index loses only rooms that are remembered already or whose index write the sweep waits
for. An index write that has removed the session is not given up, and no call of the store throws
while the sweep holds rooms of its own. -/
structure Reaper.Meets (s : Reaper) (e : Event) : Prop where
  timely : ∀ roomCode publish, s.heard e = some (roomCode, publish) → s.Timely roomCode publish
  awaited : ∀ write, e = .lands write → ∀ entry ∈ s.removedBy write,
    s.roomsAwaitingResync.has entry.1 = true ∨ s.pendingSweep.indexWrite = some (write, entry)
  confirmed : ∀ write code session, s.pendingSweep.indexWrite = some (write, code, session) →
    s.learns write e = some false → ∀ removal ∈ s.removals, removal.session = session →
    removal.roomCode = code → code ∈ s.pendingSweep.roomsToResync
  accepted : s.pendingSweep.roomsToResync ≠ [] ∨ s.pendingSweep.indexWrite.isSome = true →
    e.refused = []

def StepWith (meets : Reaper → Event → Prop) (s t : Reaper) : Prop :=
  ∃ e, meets s e ∧ s.exec e = some t

/-- A run each of whose steps meets the condition. -/
def RunWith (meets : Reaper → Event → Prop) : Reaper → Reaper → Prop :=
  Relation.ReflTransGen (StepWith meets)

/-! ## What the reaper does by itself -/

/-- A stretch in which nothing happens to the store, and no announcement is dropped. -/
structure Keeps (s t : Reaper) : Prop where
  store : t.store = s.store
  removals : t.removals = s.removals
  awaiting : ∀ code, s.roomsAwaitingResync.has code = true → t.roomsAwaitingResync.has code = true
  published : ∀ (id : PublishId) (p : Publish), s.publishes[id]? = some p → p.answer = some true →
    t.publishes[id]? = some p
  rooms : ∀ (id : PublishId) (p : Publish), s.publishes[id]? = some p →
    ∃ p', t.publishes[id]? = some p' ∧ p'.roomCode = p.roomCode
  started : s.publishes.length ≤ t.publishes.length

theorem Keeps.refl (s : Reaper) : Keeps s s where
  store := rfl
  removals := rfl
  awaiting _ h := h
  published _ _ h _ := h
  rooms _ p h := ⟨p, h, rfl⟩
  started := Nat.le_refl _

theorem Keeps.trans {s t u : Reaper} (first : Keeps s t) (second : Keeps t u) : Keeps s u where
  store := second.store.trans first.store
  removals := second.removals.trans first.removals
  awaiting code h := second.awaiting code (first.awaiting code h)
  published id p h ok := second.published id p (first.published id p h ok) ok
  rooms id p h := by
    obtain ⟨p', h', room'⟩ := first.rooms id p h
    obtain ⟨p'', h'', room''⟩ := second.rooms id p' h'
    exact ⟨p'', h'', room''.trans room'⟩
  started := Nat.le_trans first.started second.started

theorem Keeps.paid {s t : Reaper} (keeps : Keeps s t) {removal : Removal} (paid : s.Paid removal) :
    t.Paid removal := by
  rcases paid with remembered | ⟨id, p, out, since, room, ok⟩
  · exact .inl (keeps.awaiting _ remembered)
  · exact .inr ⟨id, p, keeps.published id p out ok, since, room, ok⟩

/-- Only the place of the sweep, its writes, and the other books of the reaper change. -/
theorem Keeps.of_eq {s t : Reaper} (store : t.store = s.store) (removals : t.removals = s.removals)
    (awaiting : t.roomsAwaitingResync = s.roomsAwaitingResync)
    (publishes : t.publishes = s.publishes) : Keeps s t where
  store := store
  removals := removals
  awaiting _ h := by rw [awaiting]; exact h
  published _ _ h _ := by rw [publishes]; exact h
  rooms _ p h := ⟨p, by rw [publishes]; exact h, rfl⟩
  started := Nat.le_of_eq (congrArg List.length publishes.symm)

theorem keeps_queue (s : Reaper) (write : Write) : Keeps s (s.queue write) :=
  .of_eq rfl rfl rfl rfl

theorem keeps_startPublish (s : Reaper) (roomCode : RoomCode) (phase : Phase) :
    Keeps s { s.startPublish roomCode with pendingSweep := phase } where
  store := rfl
  removals := rfl
  awaiting _ h := h
  published id p out _ := by
    have within : id < s.publishes.length := (List.getElem?_eq_some_iff.mp out).1
    exact (List.getElem?_append_left within).trans out
  rooms id p out := by
    have within : id < s.publishes.length := (List.getElem?_eq_some_iff.mp out).1
    exact ⟨p, (List.getElem?_append_left within).trans out, rfl⟩
  started := by simp [startPublish]

theorem keeps_rememberResync (s : Reaper) (code : RoomCode) : Keeps s (s.rememberResync code) where
  store := rfl
  removals := rfl
  awaiting other h := by
    unfold rememberResync JsMap.has
    rw [JsMap.get?_set]
    split
    · rfl
    · exact h
  published _ _ h _ := h
  rooms _ p h := ⟨p, h, rfl⟩
  started := Nat.le_refl _

theorem keeps_remember (s : Reaper) (rooms : List RoomCode) :
    Keeps s (rooms.foldl rememberResync s) ∧ (rooms.foldl rememberResync s).writes = s.writes ∧
      ∀ code ∈ rooms, (rooms.foldl rememberResync s).roomsAwaitingResync.has code = true := by
  induction rooms generalizing s with
  | nil => exact ⟨.refl s, rfl, fun _ mem => nomatch mem⟩
  | cons code rest ih =>
    have here : (s.rememberResync code).roomsAwaitingResync.has code = true := by
      simp [rememberResync, JsMap.has]
    obtain ⟨later, writes, held⟩ := ih (s.rememberResync code)
    refine ⟨(keeps_rememberResync s code).trans later, writes, ?_⟩
    intro other mem
    rcases List.mem_cons.mp mem with rfl | mem
    · exact later.awaiting _ here
    · exact held other mem

/-! ## The loop over the sessions -/

/-- The sessions the loop has still to visit. -/
def Phase.rest : Phase → List (SessionId × Record)
  | .judging sessions => sessions
  | .removing v .. | .indexing v .. | .confirming v => v.rest
  | _ => []

/-- What holds while a sweep remembers `rooms`, waits for the removal `own` and is to visit `rest`. -/
structure Holding (s : Reaper) (rooms : List RoomCode) (own : Option (RoomCode × SessionId))
    (rest : List (SessionId × Record)) : Prop where
  unregistered : ∀ q ∈ s.writes, ∀ session, q.write = .unregisterSession session →
    s.store.roomCode? session = none
  left : ∀ q ∈ s.writes, q.landed = true → ∀ session code,
    q.write = .markSessionLeftRoom session code → s.store.roomCode? session = none
  answered : ∀ q ∈ s.writes, q.answer = some true → q.landed = true
  listed : ∀ e ∈ rest, e.2.roomCode = none → s.store.roomCode? e.1 = none
  since : ∀ removal ∈ s.removals, removal.since ≤ s.publishes.length
  covered : ∀ removal ∈ s.removals, s.Paid removal ∨ removal.roomCode ∈ rooms ∨
    own = some (removal.roomCode, removal.session)

structure Sound (s : Reaper) : Prop where
  holding : Holding s s.pendingSweep.roomsToResync (s.pendingSweep.indexWrite.map Prod.snd)
    s.pendingSweep.rest
  asked : ∀ write code session, s.pendingSweep.indexWrite = some (write, code, session) →
    ∃ q, s.writes[write]? = some q ∧ q.write = .markSessionLeftRoom session code

section
variable {s t : Reaper} {rooms : List RoomCode} {own : Option (RoomCode × SessionId)}
  {rest : List (SessionId × Record)}

section
variable (holding : Holding s rooms own rest)
include holding

theorem Holding.keeps (keeps : Keeps s t) (writes : t.writes = s.writes) :
    Holding t rooms own rest where
  unregistered := by rw [writes, keeps.store]; exact holding.unregistered
  left := by rw [writes, keeps.store]; exact holding.left
  answered := by rw [writes]; exact holding.answered
  listed := by rw [keeps.store]; exact holding.listed
  since removal mem := by
    rw [keeps.removals] at mem
    exact Nat.le_trans (holding.since removal mem) keeps.started
  covered removal mem := by
    rw [keeps.removals] at mem
    exact (holding.covered removal mem).imp_left keeps.paid

theorem Holding.moved (phase : Phase) :
    Holding { s with pendingSweep := phase } rooms own rest :=
  holding.keeps (.of_eq rfl rfl rfl rfl) rfl

theorem Holding.queue {write : Write}
    (left : ∀ session, write = .unregisterSession session → s.store.roomCode? session = none) :
    Holding (s.queue write) rooms own rest where
  unregistered q mem := by
    rcases List.mem_append.mp mem with mem | mem
    · exact holding.unregistered q mem
    · rw [List.mem_singleton.mp mem]
      exact left
  left q mem landed := by
    rcases List.mem_append.mp mem with mem | mem
    · exact holding.left q mem landed
    · rw [List.mem_singleton.mp mem] at landed
      cases landed
  answered q mem ok := by
    rcases List.mem_append.mp mem with mem | mem
    · exact holding.answered q mem ok
    · rw [List.mem_singleton.mp mem] at ok
      cases ok
  listed := holding.listed
  since := holding.since
  covered := holding.covered

theorem Holding.shrink {fewer : List (SessionId × Record)} (sub : fewer ⊆ rest) :
    Holding s rooms own fewer :=
  { holding with listed := fun e mem => holding.listed e (sub mem) }

end

/-- A sweep that waits for no index write. -/
theorem Sound.of_holding (holding : Holding s rooms none rest)
    (at_rooms : s.pendingSweep.roomsToResync = rooms) (no_write : s.pendingSweep.indexWrite = none)
    (at_rest : s.pendingSweep.rest ⊆ rest) : Sound s where
  holding := by
    rw [at_rooms, no_write]
    exact holding.shrink at_rest
  asked write code session waits := by
    rw [no_write] at waits
    cases waits

theorem Sound.ended (holding : Holding s [] none rest) : Sound s.ended :=
  .of_holding (holding.moved .idle) rfl rfl (List.nil_subset _)

theorem Holding.flush (holding : Holding s [] none rest) (offline : Option (List InstanceId))
    (queue : List RoomCode) : Sound (s.flushPendingResyncs offline queue) := by
  have flushed : Sound (s.flushed offline) := by
    cases offline <;> exact .of_holding (holding.moved _) rfl rfl (List.nil_subset _)
  induction queue with
  | nil => exact flushed
  | cons roomCode queue ih =>
    unfold flushPendingResyncs
    split
    · exact flushed
    · split
      · exact ih
      · exact .of_holding (holding.keeps (keeps_startPublish s roomCode _) rfl) rfl rfl
          (List.nil_subset _)

variable {refused : List StoreCall}

/-- A call of the store that throws finds no room in the variables of the sweep. -/
theorem Sound.thrown (holding : Holding s rooms none rest) {call : StoreCall}
    (accepted : rooms ≠ [] → refused = []) (thrown : call ∈ refused) : Sound s.ended := by
  cases rooms with
  | nil => exact .ended holding
  | cons room rooms =>
    rw [accepted (by simp)] at thrown
    cases thrown

theorem Sound.confirmWrites (v : Visit) (holding : Holding s v.roomsToResync none v.rest)
    (accepted : v.roomsToResync ≠ [] → refused = []) : Sound (s.confirmWrites refused v) := by
  unfold Reaper.confirmWrites
  split
  · next thrown => exact .thrown holding accepted thrown
  · exact .of_holding (holding.moved _) rfl rfl (List.Subset.refl _)

theorem Sound.markSessionLeftRoom (v : Visit) (session : SessionId) (code : RoomCode)
    (holding : Holding s v.roomsToResync none v.rest)
    (accepted : v.roomsToResync ≠ [] → refused = []) :
    Sound (s.markSessionLeftRoom refused v session code) := by
  unfold Reaper.markSessionLeftRoom
  dsimp only
  split
  · next thrown => exact .thrown holding accepted thrown
  · have stays : ∀ other, Write.markSessionLeftRoom session code = .unregisterSession other →
        s.store.roomCode? other = none := nofun
    have queued := (holding.queue stays).moved (.indexing v session code s.writes.length)
    refine ⟨{ queued with covered := ?_ }, ?_⟩
    · intro removal mem
      rcases queued.covered removal mem with paid | held | absent
      · exact .inl paid
      · exact .inr (.inl held)
      · cases absent
    · rintro write code' session' ⟨⟩
      exact ⟨_, List.getElem?_concat_length, rfl⟩

theorem Sound.removeMember (v : Visit) (session : SessionId) (code : RoomCode)
    (memberId : MemberId) (holding : Holding s v.roomsToResync none v.rest)
    (accepted : v.roomsToResync ≠ [] → refused = []) :
    Sound (s.removeMember refused v session code memberId) := by
  unfold Reaper.removeMember
  dsimp only
  split
  · next thrown => exact .thrown holding accepted thrown
  · have stays : ∀ other, Write.removeMember code memberId session = .unregisterSession other →
        s.store.roomCode? other = none := nofun
    exact .of_holding ((holding.queue stays).moved _) rfl rfl (List.Subset.refl _)

theorem Sound.visit (offline : List InstanceId) (accepted : rooms ≠ [] → refused = []) :
    ∀ (rest : List (SessionId × Record)) {s : Reaper}, Holding s rooms none rest →
      Sound (visit refused offline rooms rest s)
  | [], s, holding => .confirmWrites ⟨offline, rooms, []⟩ holding accepted
  | (session, record) :: rest, s, holding => by
    have later := holding.shrink (List.subset_cons_self (session, record) rest)
    unfold Reaper.visit
    split
    · exact .confirmWrites ⟨offline, rooms, rest⟩ later accepted
    · split
      · exact Sound.visit offline accepted rest later
      · split
        · exact .removeMember ⟨offline, rooms, rest⟩ _ _ _ later accepted
        · exact .markSessionLeftRoom ⟨offline, rooms, rest⟩ _ _ later accepted
        · next none_left =>
          have left := holding.listed (session, record) List.mem_cons_self none_left
          split
          · next thrown => exact .thrown later accepted thrown
          · refine Sound.visit offline accepted rest (later.queue ?_)
            rintro other ⟨⟩
            exact left

end

/-! ## Writes and publishes -/

variable {ok : Bool} {roomCode : RoomCode} {session : SessionId}

theorem roomCode?_land {store : SharedStore} (left : store.roomCode? session = none) (write : Write) :
    (store.land write).roomCode? session = none := by
  unfold SharedStore.roomCode? at left ⊢
  cases write with
  | removeMember code memberId other =>
    unfold SharedStore.land
    dsimp only
    split <;> exact left
  | markSessionLeftRoom other code =>
    simp only [SharedStore.land, JsMap.get?_set]
    split
    · rfl
    · exact left
  | unregisterSession other =>
    simp only [SharedStore.land, JsMap.get?_delete]
    split
    · rfl
    · exact left

theorem roomCode?_land_mark (store : SharedStore) (session : SessionId) (code : RoomCode) :
    (store.land (.markSessionLeftRoom session code)).roomCode? session = none := by
  simp [SharedStore.land, SharedStore.roomCode?]

section
variable {s t : Reaper}

theorem Reaper.Paid.lands {write : WriteId} (landed : s.lands write = some t) {removal : Removal}
    (paid : s.Paid removal) : t.Paid removal := by
  obtain ⟨queued, -, rfl⟩ := Option.map_eq_some_iff.mp landed
  exact paid

theorem mem_removals_lands {write : WriteId} (landed : s.lands write = some t) {removal : Removal}
    (mem : removal ∈ t.removals) : removal ∈ s.removals ∨ ∃ entry, s.removedBy write = some entry ∧
      removal = ⟨entry.2, entry.1, s.publishes.length⟩ := by
  obtain ⟨queued, at_write, rfl⟩ := Option.map_eq_some_iff.mp landed
  rcases List.mem_append.mp mem with mem | mem
  · exact .inl mem
  · right
    rw [Option.mem_toList] at mem
    obtain ⟨entry, removed, rfl⟩ := Option.map_eq_some_iff.mp mem
    refine ⟨entry, ?_, rfl⟩
    unfold Reaper.removedBy
    rw [at_write]
    exact removed

theorem Sound.lands (sound : Sound s) {write : WriteId} (landed : s.lands write = some t)
    (awaited : ∀ entry ∈ s.removedBy write, s.roomsAwaitingResync.has entry.1 = true ∨
      s.pendingSweep.indexWrite = some (write, entry)) : Sound t := by
  have old := sound.holding
  have listed_removals := fun removal => @mem_removals_lands s t write landed removal
  obtain ⟨queued, at_write, rfl⟩ := Option.map_eq_some_iff.mp landed
  have asked_for : queued ∈ s.writes := List.mem_of_getElem? at_write
  have stays : ∀ session, s.store.roomCode? session = none →
      (s.store.land queued.write).roomCode? session = none := fun session left =>
    roomCode?_land left queued.write
  have written : ∀ q ∈ s.writes.set write { queued with landed := true }, ∃ q' ∈ s.writes,
      q.write = q'.write ∧ q.answer = q'.answer ∧ (q = q' ∨ q.landed = true ∧ q' = queued) := by
    intro q mem
    rcases List.mem_or_eq_of_mem_set mem with mem | rfl
    · exact ⟨q, mem, rfl, rfl, .inl rfl⟩
    · exact ⟨queued, asked_for, rfl, rfl, .inr ⟨rfl, rfl⟩⟩
  refine ⟨⟨?_, ?_, ?_, ?_, ?_, ?_⟩, ?_⟩
  · intro q mem session unregisters
    obtain ⟨q', mem', same, -⟩ := written q mem
    exact stays session (old.unregistered q' mem' session (same ▸ unregisters))
  · intro q mem done session code marks
    obtain ⟨q', mem', same, -, rfl | ⟨-, rfl⟩⟩ := written q mem
    · exact stays session (old.left q mem' done session code marks)
    · rw [same] at marks
      change (s.store.land q'.write).roomCode? session = none
      rw [marks]
      exact roomCode?_land_mark s.store session code
  · intro q mem ok
    obtain ⟨q', mem', -, same, rfl | ⟨done, -⟩⟩ := written q mem
    · exact old.answered q mem' ok
    · exact done
  · exact fun e mem none_left => stays e.1 (old.listed e mem none_left)
  · intro removal mem
    rcases listed_removals removal mem with mem | ⟨entry, -, rfl⟩
    · exact old.since removal mem
    · exact Nat.le_refl _
  · intro removal mem
    rcases listed_removals removal mem with mem | ⟨entry, removed, rfl⟩
    · exact old.covered removal mem
    · rcases awaited entry removed with remembered | waits
      · exact .inl (.inl remembered)
      · right; right
        change s.pendingSweep.indexWrite.map Prod.snd = _
        rw [waits]
        rfl
  · intro other code session waits
    obtain ⟨q, at_other, marks⟩ := sound.asked other code session waits
    by_cases same : write = other
    · subst same
      obtain rfl : queued = q := Option.some.inj (at_write.symm.trans at_other)
      have within : write < s.writes.length := (List.getElem?_eq_some_iff.mp at_other).1
      exact ⟨{ queued with landed := true }, List.getElem?_set_self within, marks⟩
    · exact ⟨q, (List.getElem?_set_ne same).trans at_other, marks⟩

theorem Sound.settles (sound : Sound s) {write : WriteId} (settled : s.settles write ok = some t) :
    Sound t := by
  have old := sound.holding
  unfold Reaper.settles at settled
  split at settled
  · next queued at_write =>
    split at settled
    · next open_ =>
      cases settled
      have asked_for : queued ∈ s.writes := List.mem_of_getElem? at_write
      have landed : ok = true → queued.landed = true := by
        rintro rfl
        simpa using (Bool.and_eq_true_iff.mp open_).2
      have written : ∀ q ∈ s.writes.set write { queued with answer := some ok }, ∃ q' ∈ s.writes,
          q.write = q'.write ∧ q.landed = q'.landed ∧ (q = q' ∨ q.answer = some ok ∧ q' = queued) := by
        intro q mem
        rcases List.mem_or_eq_of_mem_set mem with mem | rfl
        · exact ⟨q, mem, rfl, rfl, .inl rfl⟩
        · exact ⟨queued, asked_for, rfl, rfl, .inr ⟨rfl, rfl⟩⟩
      refine ⟨{ old with unregistered := ?_, left := ?_, answered := ?_ }, ?_⟩
      · intro q mem session unregisters
        obtain ⟨q', mem', same, -⟩ := written q mem
        exact old.unregistered q' mem' session (same ▸ unregisters)
      · intro q mem done session code marks
        obtain ⟨q', mem', same, landed_too, -⟩ := written q mem
        exact old.left q' mem' (landed_too ▸ done) session code (same ▸ marks)
      · intro q mem confirmed
        obtain ⟨q', mem', -, landed_too, rfl | ⟨answer, rfl⟩⟩ := written q mem
        · exact old.answered q mem' confirmed
        · rw [answer] at confirmed
          exact landed_too.trans (landed (Option.some.inj confirmed))
      · intro other code session waits
        obtain ⟨q, at_other, marks⟩ := sound.asked other code session waits
        by_cases same : write = other
        · subst same
          obtain rfl : queued = q := Option.some.inj (at_write.symm.trans at_other)
          have within : write < s.writes.length := (List.getElem?_eq_some_iff.mp at_other).1
          exact ⟨{ queued with answer := some ok }, List.getElem?_set_self within, marks⟩
        · exact ⟨q, (List.getElem?_set_ne same).trans at_other, marks⟩
    · cases settled
  · cases settled

theorem keeps_publishSettles {publish : PublishId} (settled : s.publishSettles publish ok = some t) :
    Keeps s t ∧ t.writes = s.writes ∧ t.pendingSweep = s.pendingSweep := by
  unfold Reaper.publishSettles at settled
  split at settled
  · next p at_publish =>
    split at settled
    · next open_ =>
      cases settled
      refine ⟨⟨rfl, rfl, fun _ h => h, ?_, ?_, ?_⟩, rfl, rfl⟩
      · intro id q out confirmed
        have apart : publish ≠ id := by
          rintro rfl
          obtain rfl : p = q := Option.some.inj (at_publish.symm.trans out)
          rw [confirmed] at open_
          cases open_
        exact (List.getElem?_set_ne apart).trans out
      · intro id q out
        by_cases same : publish = id
        · subst same
          obtain rfl : p = q := Option.some.inj (at_publish.symm.trans out)
          have within : publish < s.publishes.length := (List.getElem?_eq_some_iff.mp out).1
          exact ⟨{ p with answer := some ok }, List.getElem?_set_self within, rfl⟩
        · exact ⟨q, (List.getElem?_set_ne same).trans out, rfl⟩
      · simp
    · cases settled
  · cases settled

/-- A publish heard in time pays for every removal from its room so far. -/
theorem Reaper.Paid.published {removal : Removal} (paid : s.Paid removal)
    (mem : removal ∈ s.removals) {publish : PublishId} (timely : s.Timely roomCode publish)
    {p : Publish} (out : s.publishes[publish]? = some p) (room : p.roomCode = roomCode)
    (ok : p.answer = some true) : (s.published roomCode true).Paid removal := by
  rcases paid with remembered | sent
  · by_cases same : roomCode = removal.roomCode
    · exact .inr ⟨publish, p, out, timely removal mem same.symm, room.trans same, ok⟩
    · left
      simpa [Reaper.published, JsMap.has, JsMap.get?_delete, same] using remembered
  · exact .inr sent

end

/-! ## One step -/

def Phase.publish : Phase → Option (RoomCode × PublishId)
  | .publishing roomCode publish _ _ => some (roomCode, publish)
  | _ => none

/-- Every publish waited for is of the room it is waited for. -/
structure Booked (s : Reaper) : Prop where
  sweep : ∀ e, s.pendingSweep.publish = some e →
    ∃ p, s.publishes[e.2]? = some p ∧ p.roomCode = e.1
  lastPass : ∀ pass, s.lastPass = some pass → ∀ e ∈ pass.active,
    ∃ p, s.publishes[e.2]? = some p ∧ p.roomCode = e.1

/-- A stretch that ends without a publish. -/
structure Walks (s t : Reaper) : Prop where
  keeps : Keeps s t
  lastPass : t.lastPass = s.lastPass
  publish : t.pendingSweep.publish = none

section
variable {s t : Reaper}

theorem Booked.keeps (booked : Booked s) (keeps : Keeps s t)
    (sweep : ∀ e, t.pendingSweep.publish = some e → s.pendingSweep.publish = some e ∨
      ∃ p, t.publishes[e.2]? = some p ∧ p.roomCode = e.1)
    (lastPass : ∀ pass, t.lastPass = some pass → ∀ e ∈ pass.active,
      (∃ pass', s.lastPass = some pass' ∧ e ∈ pass'.active) ∨
      ∃ p, t.publishes[e.2]? = some p ∧ p.roomCode = e.1) : Booked t where
  sweep e waits := by
    rcases sweep e waits with before | booked'
    · obtain ⟨p, out, room⟩ := booked.sweep e before
      obtain ⟨p', out', room'⟩ := keeps.rooms e.2 p out
      exact ⟨p', out', room'.trans room⟩
    · exact booked'
  lastPass pass held e mem := by
    rcases lastPass pass held e mem with ⟨pass', held', mem'⟩ | booked'
    · obtain ⟨p, out, room⟩ := booked.lastPass pass' held' e mem'
      obtain ⟨p', out', room'⟩ := keeps.rooms e.2 p out
      exact ⟨p', out', room'.trans room⟩
    · exact booked'

theorem Booked.walks (booked : Booked s) (walks : Walks s t) : Booked t := by
  refine booked.keeps walks.keeps ?_ ?_
  · intro e waits
    rw [walks.publish] at waits
    cases waits
  · intro pass held e mem
    rw [walks.lastPass] at held
    exact .inl ⟨pass, held, mem⟩

theorem walks_phase (s : Reaper) (phase : Phase) (none : phase.publish = none) :
    Walks s { s with pendingSweep := phase } := ⟨.of_eq rfl rfl rfl rfl, rfl, none⟩

variable (refused : List StoreCall)

theorem walks_confirmWrites (s : Reaper) (v : Visit) : Walks s (s.confirmWrites refused v) := by
  unfold Reaper.confirmWrites
  split <;> exact walks_phase s _ rfl

theorem walks_markSessionLeftRoom (s : Reaper) (v : Visit) (session : SessionId) (code : RoomCode) :
    Walks s (s.markSessionLeftRoom refused v session code) := by
  unfold Reaper.markSessionLeftRoom
  dsimp only
  split
  · exact walks_phase s _ rfl
  · exact ⟨.of_eq rfl rfl rfl rfl, rfl, rfl⟩

theorem walks_removeMember (s : Reaper) (v : Visit) (session : SessionId) (code : RoomCode)
    (memberId : MemberId) : Walks s (s.removeMember refused v session code memberId) := by
  unfold Reaper.removeMember
  dsimp only
  split
  · exact walks_phase s _ rfl
  · exact ⟨.of_eq rfl rfl rfl rfl, rfl, rfl⟩

theorem walks_visit (offline : List InstanceId) (rooms : List RoomCode) :
    ∀ (rest : List (SessionId × Record)) (s : Reaper), Walks s (visit refused offline rooms rest s)
  | [], s => walks_confirmWrites refused s _
  | (session, record) :: rest, s => by
    unfold Reaper.visit
    split
    · exact walks_confirmWrites refused s _
    · split
      · exact walks_visit offline rooms rest s
      · split
        · exact walks_removeMember refused s _ _ _ _
        · exact walks_markSessionLeftRoom refused s _ _ _
        · split
          · exact walks_phase s _ rfl
          · have later := walks_visit offline rooms rest (s.queue (.unregisterSession session))
            exact ⟨(keeps_queue s _).trans later.keeps, later.lastPass, later.publish⟩

theorem walks_memberRemoved (s : Reaper) (v : Visit) (session : SessionId) (code : RoomCode)
    (confirmed : Bool) : Walks s (s.memberRemoved refused v session code confirmed) := by
  unfold memberRemoved
  split
  · exact walks_markSessionLeftRoom refused s v session code
  · exact walks_visit refused _ _ v.rest s

theorem walks_indexWritten (s : Reaper) (v : Visit) (session : SessionId) (code : RoomCode)
    (confirmed : Bool) : Walks s (s.indexWritten refused v session code confirmed) := by
  unfold indexWritten
  split
  · split
    · exact walks_phase s _ rfl
    · have later := walks_visit refused v.offlineInstanceIds (v.roomsToResync ++ [code]) v.rest
        (s.queue (.unregisterSession session))
      exact ⟨(keeps_queue s _).trans later.keeps, later.lastPass, later.publish⟩
  · exact walks_visit refused _ _ v.rest s

theorem walks_purgeNext (s : Reaper) (rest : List InstanceId) : Walks s (s.purgeNext rest) := by
  cases rest <;> exact walks_phase s _ rfl

theorem walks_listsOffline {offline : Option (List InstanceId)}
    (h : s.listsOffline refused offline = some t) : Walks s t := by
  unfold Reaper.listsOffline at h
  split at h
  · split at h
    · cases h
      exact walks_phase s _ rfl
    · cases h
      exact walks_phase s _ rfl
    · cases h
  · split at h
    · cases h
      split <;> exact walks_phase s _ rfl
    · cases h
      split
      · exact walks_phase s _ rfl
      · exact walks_visit refused _ _ _ s
    · cases h

theorem walks_listsSessions (h : s.listsSessions ok = some t) : Walks s t := by
  unfold Reaper.listsSessions at h
  split at h
  · cases h
    split <;> exact walks_phase s _ rfl
  · cases h
    split
    · exact walks_purgeNext s _
    · exact walks_phase s _ rfl
  · cases h

theorem walks_purges (h : s.purges ok = some t) : Walks s t := by
  unfold Reaper.purges at h
  split at h
  · cases h
    split
    · exact walks_purgeNext s _
    · exact walks_phase s _ rfl
  · cases h

theorem keeps_takes (h : s.takes = some t) : Keeps s t := by
  unfold Reaper.takes at h
  split at h
  · split at h
    · split at h
      · cases h
        exact .of_eq rfl rfl rfl rfl
      · next roomCode _ _ _ _ _ =>
        cases h
        have starts := keeps_startPublish s roomCode s.pendingSweep
        exact ⟨starts.store, starts.removals, starts.awaiting, starts.published, starts.rooms,
          starts.started⟩
    · cases h
  · cases h

theorem passPublished_cases {publish : PublishId} (h : s.passPublished publish ok = some t) :
    ∃ (pass : LastPass) (roomCode : RoomCode),
      s.lastPass = some pass ∧ pass.active.find? (·.2 = publish) = some (roomCode, publish) ∧
      t = { s.published roomCode ok with
        lastPass := some { pass with active := pass.active.filter (·.2 ≠ publish) } } := by
  unfold Reaper.passPublished at h
  split at h
  · next pass held =>
    split at h
    · next roomCode publish' found =>
      cases h
      have same := List.find?_some found
      obtain rfl : publish' = publish := of_decide_eq_true same
      exact ⟨pass, roomCode, held, found, rfl⟩
    · cases h
  · cases h

end

section
variable {s t : Reaper} {e : Event}

section
variable (booked : Booked s)
include booked

theorem Booked.flush (offline : Option (List InstanceId)) (queue : List RoomCode) :
    Booked (s.flushPendingResyncs offline queue) := by
  have flushed : Booked (s.flushed offline) := by
    cases offline <;> exact booked.walks (walks_phase s _ rfl)
  induction queue with
  | nil => exact flushed
  | cons roomCode queue ih =>
    unfold flushPendingResyncs
    split
    · exact flushed
    · split
      · exact ih
      · apply booked.keeps (keeps_startPublish s roomCode _)
        · rintro e ⟨⟩
          exact .inr ⟨_, List.getElem?_concat_length, rfl⟩
        · exact fun pass held e mem => .inl ⟨pass, held, mem⟩

theorem Booked.published (roomCode : RoomCode) (ok : Bool) :
    Booked (s.published roomCode ok) := by
  cases ok with
  | true => exact ⟨booked.sweep, booked.lastPass⟩
  | false => exact booked

theorem Booked.writesConfirmed (v : Visit) : Booked (s.writesConfirmed v) := by
  have remembered : ∀ rooms : List RoomCode, Booked (rooms.foldl rememberResync s) := by
    intro rooms
    induction rooms generalizing s with
    | nil => exact booked
    | cons code rest ih => exact ih ⟨booked.sweep, booked.lastPass⟩
  exact (remembered v.roomsToResync).flush _ _

theorem Booked.passPublished {publish : PublishId} (h : s.passPublished publish ok = some t) :
    Booked t := by
  obtain ⟨pass, roomCode, held, -, rfl⟩ := passPublished_cases h
  have before := booked.published roomCode ok
  refine ⟨before.sweep, ?_⟩
  rintro _ ⟨⟩ e mem
  have still : (s.published roomCode ok).lastPass = some pass := by
    cases ok <;> exact held
  exact before.lastPass pass still e (List.mem_of_mem_filter mem)

theorem Booked.exec (h : s.exec e = some t) : Booked t := by
  cases e with
  | tick =>
    change s.scheduleSweep = some t at h
    unfold scheduleSweep at h
    split at h
    · split at h
      · cases h
      · cases h
        exact booked.flush _ _
    · cases h
      exact booked
  | stop =>
    cases h
    exact ⟨booked.sweep, booked.lastPass⟩
  | lands write =>
    obtain ⟨queued, -, rfl⟩ := Option.map_eq_some_iff.mp h
    exact ⟨booked.sweep, booked.lastPass⟩
  | settles write ok =>
    change s.settles write ok = some t at h
    unfold Reaper.settles at h
    split at h
    · split at h
      · cases h
        exact ⟨booked.sweep, booked.lastPass⟩
      · cases h
    · cases h
  | publishSettles publish ok =>
    have same : t.lastPass = s.lastPass := by
      change s.publishSettles publish ok = some t at h
      unfold Reaper.publishSettles at h
      split at h
      · split at h
        · cases h
          rfl
        · cases h
      · cases h
    obtain ⟨keeps, -, phase⟩ := keeps_publishSettles h
    apply booked.keeps keeps
    · intro e waits
      rw [phase] at waits
      exact .inl waits
    · intro pass held e mem
      rw [same] at held
      exact .inl ⟨pass, held, mem⟩
  | listsOffline offline refused => exact booked.walks (walks_listsOffline refused h)
  | listsSessions ok => exact booked.walks (walks_listsSessions h)
  | purges ok => exact booked.walks (walks_purges h)
  | resumes refused =>
    change s.resumes refused = some t at h
    unfold Reaper.resumes at h
    split at h
    · next roomCode _ _ _ _ =>
      obtain ⟨ok, -, rfl⟩ := Option.map_eq_some_iff.mp h
      exact (booked.published roomCode ok).flush _ _
    · obtain ⟨ok, -, rfl⟩ := Option.map_eq_some_iff.mp h
      exact booked.walks (walks_memberRemoved refused s _ _ _ ok)
    · obtain ⟨ok, -, rfl⟩ := Option.map_eq_some_iff.mp h
      exact booked.walks (walks_indexWritten refused s _ _ _ ok)
    · cases h
      exact booked.writesConfirmed _
    · cases h
  | expires refused =>
    change s.expires refused = some t at h
    unfold Reaper.expires at h
    split at h
    · cases h
      exact booked.flush _ _
    · cases h
      exact booked.walks (walks_memberRemoved refused s _ _ _ false)
    · cases h
      exact booked.walks (walks_indexWritten refused s _ _ _ false)
    · cases h
  | startsLastPass =>
    change s.startsLastPass = some t at h
    unfold Reaper.startsLastPass at h
    split at h
    · split at h
      · cases h
        exact ⟨booked.sweep, fun _ held _ mem => by cases held; cases mem⟩
      · cases h
    · cases h
  | takes =>
    apply booked.keeps (keeps_takes h)
    · change s.takes = some t at h
      unfold Reaper.takes at h
      intro e waits
      left
      split at h
      · split at h
        · split at h <;> cases h <;> exact waits
        · cases h
      · cases h
    · change s.takes = some t at h
      unfold Reaper.takes at h
      intro pass held e mem
      split at h
      · next roomCode queued active before =>
        split at h
        · split at h
          · cases h
            cases held
            exact .inl ⟨_, before, mem⟩
          · cases h
            cases held
            rcases List.mem_append.mp mem with mem | mem
            · exact .inl ⟨_, before, mem⟩
            · rw [List.mem_singleton.mp mem]
              exact .inr ⟨_, List.getElem?_concat_length, rfl⟩
        · cases h
      · cases h
  | answersPass publish =>
    obtain ⟨ok, -, h⟩ := Option.bind_eq_some_iff.mp h
    exact booked.passPublished h
  | expiresPass publish => exact booked.passPublished h

theorem Booked.heard {publish : PublishId} (heard : s.heard e = some (roomCode, publish)) :
    ∃ p, s.publishes[publish]? = some p ∧ p.roomCode = roomCode := by
  unfold Reaper.heard at heard
  split at heard
  · split at heard
    · next waits =>
      cases heard
      exact booked.sweep (roomCode, publish) (by rw [waits]; rfl)
    · cases heard
  · obtain ⟨pass, held, found⟩ := Option.bind_eq_some_iff.mp heard
    exact booked.lastPass pass held _ (List.mem_of_find?_eq_some found)
  · cases heard

end

end

/-! ## Every step -/

section
variable {s t : Reaper} {e : Event}

theorem Holding.published {rooms : List RoomCode} {own : Option (RoomCode × SessionId)}
    {rest : List (SessionId × Record)} (holding : Holding s rooms own rest) {publish : PublishId}
    (timely : s.Timely roomCode publish) {p : Publish} (out : s.publishes[publish]? = some p)
    (room : p.roomCode = roomCode) (ok : p.answer = some true) :
    Holding (s.published roomCode true) rooms own rest :=
  { unregistered := holding.unregistered, left := holding.left, answered := holding.answered
    listed := holding.listed, since := holding.since
    covered := fun removal mem => (holding.covered removal mem).imp_left fun paid =>
      paid.published mem timely out room ok }

/-- Moving on leaves a holding sweep as it was, where the sweep does not move. -/
theorem Sound.stays (sound : Sound s) (keeps : Keeps s t) (writes : t.writes = s.writes)
    (phase : t.pendingSweep = s.pendingSweep) : Sound t where
  holding := by
    rw [phase]
    exact sound.holding.keeps keeps writes
  asked := by
    rw [phase, writes]
    exact sound.asked

variable {code : RoomCode} {v : Visit}

/-- A wait for an index write that ends without an answer finds the removal covered. -/
theorem Sound.unconfirmed {write : WriteId} (sound : Sound s)
    (waits : s.pendingSweep = .indexing v session code write)
    (learned : ∀ removal ∈ s.removals, removal.session = session → removal.roomCode = code →
      code ∈ v.roomsToResync) : Holding s v.roomsToResync none v.rest := by
  have holding := sound.holding
  rw [waits] at holding
  refine { holding with covered := ?_ }
  intro removal mem
  rcases holding.covered removal mem with paid | held | own
  · exact .inl paid
  · exact .inr (.inl held)
  · obtain ⟨rfl, rfl⟩ := Prod.mk.inj (Option.some.inj own)
    exact .inr (.inl (learned removal mem rfl rfl))

theorem Sound.unconfirmedWrite {write : WriteId} (sound : Sound s)
    (waits : s.pendingSweep = .indexing v session code write) (meets : s.Meets e)
    (verdict : s.learns write e = some false) :
    Sound (s.indexWritten e.refused v session code false) := by
  have write_is : s.pendingSweep.indexWrite = some (write, code, session) := by rw [waits]; rfl
  have accepted := meets.accepted (.inr (by rw [write_is]; rfl))
  have learned := meets.confirmed write code session write_is verdict
  rw [waits] at learned
  exact Sound.visit v.offlineInstanceIds (fun _ => accepted) v.rest
    (sound.unconfirmed waits learned)

theorem Sound.confirmedWrite {write : WriteId} (sound : Sound s)
    (waits : s.pendingSweep = .indexing v session code write) (meets : s.Meets e)
    (verdict : s.verdict write = some true) :
    Sound (s.indexWritten e.refused v session code true) := by
  have write_is : s.pendingSweep.indexWrite = some (write, code, session) := by rw [waits]; rfl
  have accepted := meets.accepted (.inr (by rw [write_is]; rfl))
  have holding := sound.holding
  rw [waits] at holding
  obtain ⟨q, at_write, marks⟩ := sound.asked write code session write_is
  have ok : q.answer = some true := by
    unfold Reaper.verdict at verdict
    split at verdict
    · cases verdict
    · rw [at_write] at verdict
      exact verdict
  have asked_for := List.mem_of_getElem? at_write
  have left := holding.left q asked_for (holding.answered q asked_for ok) session code marks
  have remembered : Holding s (v.roomsToResync ++ [code]) none v.rest := by
    refine { holding with covered := ?_ }
    intro removal mem
    rcases holding.covered removal mem with paid | held | own
    · exact .inl paid
    · exact .inr (.inl (List.mem_append_left _ held))
    · obtain ⟨rfl, rfl⟩ := Prod.mk.inj (Option.some.inj own)
      exact .inr (.inl (List.mem_append_right _ List.mem_cons_self))
  unfold indexWritten
  rw [if_pos rfl]
  split
  · next thrown =>
    rw [accepted] at thrown
    cases thrown
  · refine Sound.visit v.offlineInstanceIds (fun _ => accepted) v.rest (remembered.queue ?_)
    rintro other ⟨⟩
    exact left

theorem Sound.memberRemoved {write : WriteId} (sound : Sound s)
    (waits : s.pendingSweep = .removing v session code write) (meets : s.Meets e) (confirmed : Bool) :
    Sound (s.memberRemoved e.refused v session code confirmed) := by
  have holding := sound.holding
  rw [waits] at holding
  have accepted : v.roomsToResync ≠ [] → e.refused = [] := by
    intro rooms
    apply meets.accepted
    rw [waits]
    exact .inl rooms
  unfold Reaper.memberRemoved
  split
  · exact .markSessionLeftRoom v session code holding accepted
  · exact .visit v.offlineInstanceIds accepted v.rest holding

theorem Sound.writesConfirmed (sound : Sound s) (waits : s.pendingSweep = .confirming v) :
    Sound (s.writesConfirmed v) := by
  have holding := sound.holding
  rw [waits] at holding
  obtain ⟨keeps, writes, remembered⟩ := keeps_remember s v.roomsToResync
  have later := holding.keeps keeps writes
  have settled : Holding (v.roomsToResync.foldl rememberResync s) [] none v.rest := by
    refine { later with covered := ?_ }
    intro removal mem
    rcases later.covered removal mem with paid | held | absent
    · exact .inl paid
    · exact .inl (.inl (remembered _ held))
    · cases absent
  exact settled.flush _ _

/-- A sweep that is at none of the waits of its loop. -/
theorem Sound.outside (sound : Sound s) (rooms : s.pendingSweep.roomsToResync = [])
    (write : s.pendingSweep.indexWrite = none) : Holding s [] none s.pendingSweep.rest := by
  have holding := sound.holding
  rw [rooms, write] at holding
  exact holding

theorem Sound.purgeNext {rest : List (SessionId × Record)} (holding : Holding s [] none rest)
    (instances : List InstanceId) : Sound (s.purgeNext instances) := by
  cases instances <;> exact .of_holding (holding.moved _) rfl rfl (List.nil_subset _)

theorem Sound.listsOffline {offline : Option (List InstanceId)} {refused : List StoreCall}
    (sound : Sound s) (h : s.listsOffline refused offline = some t) : Sound t := by
  unfold Reaper.listsOffline at h
  split at h
  · split at h
    · next waits =>
      cases h
      exact .ended (sound.outside (by rw [waits]; rfl) (by rw [waits]; rfl))
    · next waits =>
      cases h
      exact .ended (sound.outside (by rw [waits]; rfl) (by rw [waits]; rfl))
    · cases h
  · split at h
    · next waits =>
      cases h
      have holding := sound.outside (by rw [waits]; rfl) (by rw [waits]; rfl)
      split
      · exact .ended holding
      · exact .of_holding (holding.moved _) rfl rfl (List.nil_subset _)
    · next sessions waits =>
      cases h
      have holding := sound.outside (by rw [waits]; rfl) (by rw [waits]; rfl)
      rw [waits] at holding
      split
      · exact .ended holding
      · exact Sound.visit _ (fun absurd => (absurd rfl).elim) sessions holding
    · cases h

theorem Sound.listsSessions (sound : Sound s) (h : s.listsSessions ok = some t) :
    Sound t := by
  unfold Reaper.listsSessions at h
  split at h
  · next waits =>
    cases h
    have holding := sound.outside (by rw [waits]; rfl) (by rw [waits]; rfl)
    split
    · have read : Holding s [] none s.store.sessions.entries := by
        refine { holding with listed := ?_ }
        rintro ⟨session, record⟩ mem blank
        have held := JsMap.mem_entries_iff.mp mem
        unfold SharedStore.roomCode?
        rw [held]
        exact blank
      exact .of_holding (read.moved _) rfl rfl (List.Subset.refl _)
    · exact .ended holding
  · next waits =>
    cases h
    have holding := sound.outside (by rw [waits]; rfl) (by rw [waits]; rfl)
    split
    · exact .purgeNext holding _
    · exact .ended holding
  · cases h

theorem Sound.purges (sound : Sound s) (h : s.purges ok = some t) : Sound t := by
  unfold Reaper.purges at h
  split at h
  · next waits =>
    cases h
    have holding := sound.outside (by rw [waits]; rfl) (by rw [waits]; rfl)
    split
    · exact .purgeNext holding _
    · exact .ended holding
  · cases h

theorem Sound.resumes {refused : List StoreCall} (sound : Sound s) (booked : Booked s)
    (meets : s.Meets (.resumes refused)) (h : s.resumes refused = some t) : Sound t := by
  unfold Reaper.resumes at h
  split at h
  · next roomCode publish queue offline waits =>
    obtain ⟨ok, answered, rfl⟩ := Option.map_eq_some_iff.mp h
    obtain ⟨p, out, answer⟩ := Option.bind_eq_some_iff.mp answered
    have holding := sound.outside (by rw [waits]; rfl) (by rw [waits]; rfl)
    cases ok with
    | true =>
      have heard : s.heard (.resumes refused) = some (roomCode, publish) := by
        simp only [Reaper.heard, waits]
      obtain ⟨p', out', room⟩ := booked.heard heard
      obtain rfl : p = p' := Option.some.inj (out.symm.trans out')
      have timely := meets.timely roomCode publish heard
      exact (holding.published timely out room answer).flush _ _
    | false => exact holding.flush _ _
  · next waits =>
    obtain ⟨ok, -, rfl⟩ := Option.map_eq_some_iff.mp h
    exact sound.memberRemoved waits meets ok
  · next waits =>
    obtain ⟨ok, verdict, rfl⟩ := Option.map_eq_some_iff.mp h
    cases ok with
    | true => exact sound.confirmedWrite waits meets verdict
    | false => exact sound.unconfirmedWrite waits meets verdict
  · next waits =>
    cases h
    exact sound.writesConfirmed waits
  · cases h

theorem Sound.expires {refused : List StoreCall} (sound : Sound s)
    (meets : s.Meets (.expires refused)) (h : s.expires refused = some t) : Sound t := by
  unfold Reaper.expires at h
  split at h
  · next waits =>
    cases h
    exact (sound.outside (by rw [waits]; rfl) (by rw [waits]; rfl)).flush _ _
  · next waits =>
    cases h
    exact sound.memberRemoved waits meets false
  · next waits =>
    cases h
    exact sound.unconfirmedWrite waits meets rfl
  · cases h

theorem Sound.published (sound : Sound s) {publish : PublishId} (timely : s.Timely roomCode publish)
    {p : Publish} (out : s.publishes[publish]? = some p) (room : p.roomCode = roomCode)
    (ok : p.answer = some true) : Sound (s.published roomCode true) :=
  ⟨sound.holding.published timely out room ok, sound.asked⟩

theorem Sound.exec (sound : Sound s) (booked : Booked s) (meets : s.Meets e)
    (h : s.exec e = some t) : Sound t := by
  cases e with
  | tick =>
    change s.scheduleSweep = some t at h
    unfold scheduleSweep at h
    split at h
    · next waits =>
      split at h
      · cases h
      · cases h
        exact (sound.outside (by rw [waits]; rfl) (by rw [waits]; rfl)).flush _ _
    · cases h
      exact sound
  | stop =>
    cases h
    exact sound.stays (.of_eq rfl rfl rfl rfl) rfl rfl
  | lands write => exact sound.lands h (meets.awaited write rfl)
  | settles write ok => exact sound.settles h
  | publishSettles publish ok =>
    obtain ⟨keeps, writes, phase⟩ := keeps_publishSettles h
    exact sound.stays keeps writes phase
  | listsOffline offline refused => exact sound.listsOffline h
  | listsSessions ok => exact sound.listsSessions h
  | purges ok => exact sound.purges h
  | resumes refused => exact sound.resumes booked meets h
  | expires refused => exact sound.expires meets h
  | startsLastPass =>
    change s.startsLastPass = some t at h
    unfold Reaper.startsLastPass at h
    split at h
    · split at h
      · cases h
        exact sound.stays (.of_eq rfl rfl rfl rfl) rfl rfl
      · cases h
    · cases h
  | takes =>
    have keeps := keeps_takes h
    change s.takes = some t at h
    unfold Reaper.takes at h
    split at h
    · split at h
      · split at h <;> cases h <;> exact sound.stays keeps rfl rfl
      · cases h
    · cases h
  | answersPass publish =>
    obtain ⟨ok, answered, h⟩ := Option.bind_eq_some_iff.mp h
    obtain ⟨p, out, answer⟩ := Option.bind_eq_some_iff.mp answered
    obtain ⟨pass, roomCode, held, found, rfl⟩ := passPublished_cases h
    cases ok with
    | true =>
      have heard : s.heard (.answersPass publish) = some (roomCode, publish) := by
        simp only [Reaper.heard, held, Option.bind_some, found]
      obtain ⟨p', out', room⟩ := booked.heard heard
      obtain rfl : p = p' := Option.some.inj (out.symm.trans out')
      have paid := sound.published (meets.timely roomCode publish heard) out room answer
      exact paid.stays (.of_eq rfl rfl rfl rfl) rfl rfl
    | false => exact sound.stays (.of_eq rfl rfl rfl rfl) rfl rfl
  | expiresPass publish =>
    obtain ⟨pass, roomCode, held, found, rfl⟩ := passPublished_cases h
    exact sound.stays (.of_eq rfl rfl rfl rfl) rfl rfl

/-! ## Runs -/

theorem Booked.start (store : SharedStore) : Booked { store } where
  sweep _ waits := by cases waits
  lastPass _ held := by cases held

theorem Sound.start (store : SharedStore) : Sound { store } where
  holding :=
    { unregistered := nofun, left := nofun, answered := nofun, listed := nofun, since := nofun
      covered := nofun }
  asked := nofun

theorem runWith_sound {store : SharedStore} (run : RunWith Reaper.Meets { store } s) :
    Booked s ∧ Sound s := by
  induction run with
  | refl => exact ⟨.start store, .start store⟩
  | tail _ step ih =>
    obtain ⟨e, meets, h⟩ := step
    exact ⟨ih.1.exec h, ih.2.exec ih.1 meets h⟩

theorem Sound.announced (sound : Sound s) {removal : Removal} (mem : removal ∈ s.removals) :
    s.Announced removal ∨ s.Holds removal := by
  rcases sound.holding.covered removal mem with paid | held | own
  · exact .inl (.inl paid)
  · exact .inr (.inl held)
  · exact .inr (.inr own)

/-- A removal that took effect is announced, or held by the sweep under way. Where no sweep is under
way it is announced. -/
theorem removals_are_announced {store : SharedStore} (run : RunWith Reaper.Meets { store } s) :
    (∀ removal ∈ s.removals, s.Announced removal ∨ s.Holds removal) ∧
      (s.pendingSweep = .idle → ∀ removal ∈ s.removals, s.Announced removal) := by
  obtain ⟨-, sound⟩ := runWith_sound run
  constructor
  · exact fun removal mem => sound.announced mem
  · intro idle removal mem
    rcases sound.announced mem with announced | held | own
    · exact announced
    · rw [idle] at held
      cases held
    · rw [idle] at own
      cases own

end

/-- Enough of the condition on a step to replay a run by. -/
def Reaper.calm (s : Reaper) (e : Event) : Bool :=
  (s.heard e).all (fun heard => s.removals.all fun removal => decide (removal.since ≤ heard.2)) &&
    (match e with
      | .lands write => (s.removedBy write).all fun entry =>
        decide (s.pendingSweep.indexWrite = some (write, entry))
      | _ => true) &&
    s.pendingSweep.indexWrite.all (fun waits => decide (s.learns waits.1 e ≠ some false)) &&
    decide (e.refused = [])

theorem Reaper.Meets.of_calm {s : Reaper} {e : Event} (calm : s.calm e = true) : s.Meets e := by
  simp only [Reaper.calm, Bool.and_eq_true, decide_eq_true_eq, Option.all_eq_true, List.all_eq_true,
    and_assoc] at calm
  obtain ⟨timely, awaited, confirmed, accepted⟩ := calm
  refine ⟨?_, ?_, ?_, fun _ => accepted⟩
  · intro roomCode publish heard removal mem _
    exact timely _ heard removal mem
  · rintro write rfl entry removed
    simp only [Option.all_eq_true, decide_eq_true_eq] at awaited
    exact .inr (awaited entry removed)
  · intro write code session waits given_up
    exact absurd given_up (confirmed _ waits)

def Reaper.replay : List Event → Reaper → Option Reaper
  | [], s => some s
  | e :: rest, s => if s.calm e then (s.exec e).bind (replay rest) else none

theorem runWith_of_replay {events : List Event} {s t : Reaper} (h : replay events s = some t) :
    RunWith Reaper.Meets s t := by
  induction events generalizing s with
  | nil =>
    cases h
    exact .refl
  | cons e rest ih =>
    unfold replay at h
    split at h
    · next calm =>
      obtain ⟨u, step, h⟩ := Option.bind_eq_some_iff.mp h
      exact .head ⟨e, .of_calm calm, step⟩ (ih h)
    · cases h

/-- One dead session in room 5. Its index write takes effect while the sweep waits for it, and is
then the sweep's alone; once the sweep is over the room is announced. -/
theorem removals_are_announced_reaped :
    let store : SharedStore :=
      { sessions := JsMap.empty.set 7 { instanceId := some 1, roomCode := some 5 }
        roomSessions := JsMap.empty.set (5, 7) ()
        members := .empty }
    (∃ s, RunWith Reaper.Meets { store } s ∧ s.removals = [⟨7, 5, 0⟩] ∧
      s.roomsAwaitingResync.has 5 = false ∧
      ∀ removal ∈ s.removals, s.Announced removal ∨ s.Holds removal) ∧
    ∃ s, RunWith Reaper.Meets { store } s ∧ s.pendingSweep = .idle ∧ s.removals = [⟨7, 5, 0⟩] ∧
      ∀ removal ∈ s.removals, s.Announced removal := by
  intro store
  let landing : List Event := [.tick, .listsOffline (some [1]) [], .listsSessions true,
    .listsOffline (some [1]) [], .lands 0]
  let ending : List Event := [.settles 0 true, .resumes [], .resumes [], .publishSettles 0 true,
    .resumes [], .listsSessions true]
  have lands : (replay landing { store }).map
      (fun s => (s.removals, s.roomsAwaitingResync.has 5)) = some ([⟨7, 5, 0⟩], false) := by
    decide
  have ends : (replay (landing ++ ending) { store }).map
      (fun s => (s.pendingSweep, s.removals)) = some (.idle, [⟨7, 5, 0⟩]) := by
    decide
  constructor
  · obtain ⟨s, ran, lands⟩ := Option.map_eq_some_iff.mp lands
    obtain ⟨removed, unremembered⟩ := Prod.mk.inj lands
    have run := runWith_of_replay ran
    exact ⟨s, run, removed, unremembered, (removals_are_announced run).1⟩
  · obtain ⟨s, ran, ends⟩ := Option.map_eq_some_iff.mp ends
    obtain ⟨idle, removed⟩ := Prod.mk.inj ends
    have run := runWith_of_replay ran
    exact ⟨s, run, idle, removed, (removals_are_announced run).2 idle⟩

/-- The index write takes effect once its cap has run out. The next sweep finds the session without a
room, unregisters it, and nothing announces the room. -/
theorem late_index_write_is_never_announced :
    let store : SharedStore :=
      { sessions := JsMap.empty.set 7 { instanceId := some 1, roomCode := some 5 }
        roomSessions := JsMap.empty.set (5, 7) ()
        members := .empty }
    let sweep : List Event :=
      [.tick, .listsOffline (some [1]) [], .listsSessions true, .listsOffline (some [1]) []]
    let late : List Event :=
      sweep ++ [.expires [], .resumes [], .listsSessions true, .lands 0] ++ sweep ++
        [.resumes [], .lands 1, .listsSessions true, .purges true]
    ∃ s, late.foldlM Reaper.exec { store } = some s ∧ s.pendingSweep = .idle ∧
      s.store.sessions.entries = [] ∧ ¬ ∀ removal ∈ s.removals, s.Announced removal := by
  intro store sweep late
  have ends : (late.foldlM Reaper.exec { store }).any (fun s =>
      decide (s.pendingSweep = .idle) && decide (s.store.sessions.entries = []) &&
        decide (s.removals = [⟨7, 5, 0⟩]) && decide (s.publishes = []) &&
        decide (s.roomsAwaitingResync.entries = [])) = true := by
    decide +kernel
  obtain ⟨s, ran, ends⟩ := (Option.any_eq_true ..).mp ends
  simp only [Bool.and_eq_true, decide_eq_true_eq, and_assoc] at ends
  obtain ⟨idle, sessions, removed, unpublished, forgotten⟩ := ends
  refine ⟨s, ran, idle, sessions, ?_⟩
  intro all
  have announced := all ⟨7, 5, 0⟩ (by rw [removed]; exact List.mem_cons_self)
  rcases announced with (remembered | ⟨id, p, out, -⟩) | recorded
  · unfold JsMap.has JsMap.get? at remembered
    rw [forgotten] at remembered
    cases remembered
  · rw [unpublished] at out
    cases out
  · unfold SharedStore.roomCode? JsMap.get? at recorded
    rw [sessions] at recorded
    cases recorded

end BiliSyncPlay.RuntimeIndexReaper
