import BiliSyncPlay.Service.Landing
import BiliSyncPlay.Service.Served

/-!
# What a version stands for

While nobody creates rooms, the version of a room's record only rises. So a record that was read
is still the stored one wherever a write that expects its version lands.
-/

namespace BiliSyncPlay

open Interleave

section
variable {cfg : Config} {may : Req → Prop} {p₀ p q : Pool (machine cfg)} {mv : Move (machine cfg)}

/-- Only such requests are made. -/
def asking (may : Req → Prop) : Guard (machine cfg)
  | _, .start r => may r
  | _, _ => True

instance [DecidablePred may] (p : Pool (machine cfg)) (mv : Move (machine cfg)) :
    Decidable (asking may p mv) := by
  cases mv <;> unfold asking <;> infer_instance

/-- Calls are those that were asked for, and the effects the service starts itself. -/
theorem calls_asked (idle : p₀.calls = []) (effects : ∀ n id task, may (.effect n id task))
    (run : Run (asking may) p₀ p) : ∀ call ∈ p.calls, may call.req := by
  induction run with
  | refl =>
    rw [idle]
    simp
  | step mv _ allowed step ih =>
    intro call mem
    cases mv with
    | start r =>
      cases step
      rcases List.mem_append.mp mem with old | new
      · exact ih call old
      · cases List.mem_singleton.mp new
        exact allowed
    | event e =>
      simp only [Pool.step?, Option.map_eq_some_iff] at step
      obtain ⟨w, -, rfl⟩ := step
      exact ih call mem
    | run i ch =>
      obtain ⟨own, c, k, a, w, spawned, at_i, -, hexec, rfl⟩ := Discipline.run?_cases step
      rcases List.mem_append.mp mem with old | new
      · rcases List.mem_or_eq_of_mem_set old with same | rfl
        · exact ih call same
        · exact ih own (List.mem_of_getElem? at_i)
      · obtain ⟨r, spawn, rfl⟩ := List.mem_map.mp new
        cases exec_spawned hexec with
        | none => cases spawn
        | tracked | collection | teardown =>
          cases List.mem_singleton.mp spawn
          exact effects ..

/-- The record is still stored as it is, unless a later version replaced it. -/
def Known (store : RoomStore) (access : PersistedRoom) : Prop :=
  ∀ room, store.getRoom access.code = some room → room = access ∨ access.version < room.version

/-- A known record is the stored one if its version is. -/
theorem Known.current {store : RoomStore} {access room : PersistedRoom} (known : Known store access)
    (found : store.getRoom access.code = some room) (same : room.version = access.version) :
    room = access := by
  rcases known room found with here | later
  · exact here
  · omega

theorem RecordStep.move {code : Code} (h : RecordStep cfg p mv q code)
    (unfounded : ∀ call ∈ p.calls, call.req.creates = false) : RecordMove cfg p mv q code := by
  cases h with
  | moved move => exact move
  | created vouched =>
    obtain ⟨call, mem, past, -, warranted⟩ := vouched
    cases warranted with
    | plain plain => cases plain
    | founds creates => simp [unfounded call mem] at creates

theorem Known.moved {access : PersistedRoom} (h : Known p.shared.roomStore access)
    (moved : RecordMove cfg p mv q access.code) : Known q.shared.roomStore access := by
  intro room found
  cases moved with
  | same still => exact h room (still ▸ found)
  | updated _ _ old _ now =>
    cases now.symm.trans found
    have version := patched_version ‹PersistedRoom› ‹_› p.shared.clock
    rcases h _ old with rfl | later
    · right; omega
    · right; omega
  | deleted now => cases now.symm.trans found

/-- Requests are of a kind, and nobody creates rooms. -/
structure Unfounded (may : Req → Prop) (p₀ : Pool (machine cfg)) : Prop where
  requests : ∀ r, may r → r.creates = false
  effects : ∀ n id task, may (.effect n id task)
  idle : p₀.calls = []
  settled : p₀.shared.lateWrites = []
  keyed : p₀.shared.roomStore.Keyed

/-- In every step of a run without creations, records are moved. -/
theorem step_moved (start : Unfounded may p₀) (run : Run (asking may) p₀ p)
    (step : p.step? mv = some q) (code : Code) : RecordMove cfg p mv q code :=
  (step_landed run start.idle start.settled step code).move fun call mem =>
    start.requests _ (calls_asked start.idle start.effects run call mem)

/-- What the store answered a call: a record it read, or the record its write made. -/
def WasTold (past : Past) (room : PersistedRoom) : Prop :=
  WasRead past room ∨
    ∃ code expected patch, ⟨.updateRoom code expected patch, .ok (.ok room)⟩ ∈ past

/-- An answered write was applied to the record it passed its guard on, and is stored. -/
theorem stored_of_written {call : Call (machine cfg)} {code : Code} {expected : RoomUpdateGuard}
    {patch : PersistedRoomPatch} {room : PersistedRoom} (keyed : p.shared.roomStore.Keyed)
    (did : p.Performs q call (.updateRoom code expected patch) (.ok (.ok room))) :
    room.code = code ∧ q.shared.roomStore.getRoom code = some room ∧
      ∃ old, p.shared.roomStore.getRoom code = some old ∧ expected.refusal old = none ∧
        room = old.patched patch p.shared.clock := by
  obtain ⟨i, ch, spawned, -, -, -, hexec⟩ := did
  change exec cfg (.updateRoom code expected patch) ch p.shared = _ at hexec
  rcases updateRoom_ok hexec with ⟨_, -, -, refused, -⟩ | ⟨result, world⟩
  · cases refused
  · rcases RoomStore.updateRoom_cases p.shared.roomStore code expected patch p.shared.clock with
      ⟨old, found, passes, ok, stored⟩ | ⟨reason, refused, -⟩
    · rw [ok] at result
      cases result
      refine ⟨keyed code old found, ?_, old, found, passes, rfl⟩
      rw [world]
      simpa using stored code
    · rw [refused] at result
      cases result

/-- Whatever a call was told is known. -/
theorem told_known (start : Unfounded may p₀) (run : Run (asking may) p₀ p) :
    ∀ call ∈ p.calls, ∀ room, WasTold call.hist room → Known p.shared.roomStore room := by
  induction run with
  | refl => simp [start.idle]
  | step mv run allowed step ih =>
    rename_i p q
    have keyed := run_keyed run start.idle start.settled start.keyed
    have kept : ∀ call ∈ p.calls, ∀ room, WasTold call.hist room →
        Known q.shared.roomStore room :=
      fun call mem room told => (ih call mem room told).moved (step_moved start run step _)
    intro call mem room told
    rcases Pool.call_of_step step mem with old | fresh | ⟨own, own_mem, c, a, -, grown, did⟩
    · exact kept call old room told
    · simp [fresh, WasTold, WasRead] at told
    · rw [grown] at told
      rcases told with ⟨asked, read⟩ | ⟨code, expected, patch, written⟩
      · rcases List.mem_cons.mp read with now | earlier
        · cases now
          have stored := stored_of_performs did
          have own := keyed asked room stored
          apply Known.moved _ (step_moved start run step _)
          intro found here
          rw [own, stored] at here
          exact .inl (Option.some.inj here).symm
        · exact kept own own_mem room (.inl ⟨asked, earlier⟩)
      · rcases List.mem_cons.mp written with now | earlier
        · cases now
          obtain ⟨own, stored, -⟩ := stored_of_written keyed did
          intro found here
          rw [own, stored] at here
          exact .inl (Option.some.inj here).symm
        · exact kept own own_mem room (.inr ⟨code, expected, patch, earlier⟩)

/-- No update is lost, through any faults and late writes: a write was applied to the record it
passed its guard on, is stored as it was told, one version later and with whatever it set, and no
call has been told that version of the room before; and whatever version a call was told, what is
stored is that very record or a later version of it. -/
theorem no_update_is_lost (start : Unfounded may p₀) (run : Run (asking may) p₀ p) :
    (∀ call ∈ p.calls, ∀ room, WasTold call.hist room → ∀ stored,
      p.shared.roomStore.getRoom room.code = some stored →
        stored = room ∨ room.version < stored.version) ∧
    (∀ mv q, p.step? mv = some q → ∀ writer code expected patch room,
      p.Performs q writer (.updateRoom code expected patch) (.ok (.ok room)) →
        (∃ old, p.shared.roomStore.getRoom code = some old ∧ expected.refusal old = none ∧
          room = old.patched patch p.shared.clock ∧ room.version = old.version + 1) ∧
        (∀ video, patch.sharedVideo = some video → room.sharedVideo = video) ∧
        (∀ playback, patch.playback = some playback → room.playback = playback) ∧
        q.shared.roomStore.getRoom code = some room ∧
        ∀ call ∈ p.calls, ∀ earlier, WasTold call.hist earlier → earlier.code = code →
          earlier.version < room.version) := by
  have known := told_known start run
  refine ⟨known, ?_⟩
  intro mv q step writer code expected patch room did
  have keyed := run_keyed run start.idle start.settled start.keyed
  obtain ⟨-, stored, old, found, passes, applied⟩ := stored_of_written keyed did
  have version : room.version = old.version + 1 := by rw [applied, patched_version]
  refine ⟨⟨old, found, passes, applied, version⟩, ?_, ?_, stored, ?_⟩
  · intro video sets
    simp [applied, PersistedRoom.patched, sets]
  · intro playback sets
    simp [applied, PersistedRoom.patched, sets]
  rintro call mem earlier told rfl
  rcases known call mem earlier told old found with rfl | later <;> omega

end

/-! ## A share and an update of it -/

/-- Two members in a room where nothing plays yet. -/
def twoInRoom : World where
  roomStore := JsMap.empty.set 1 (createPersistedRoom ⟨1, 7, 0, some 3, none⟩)
  runtime := { rooms := JsMap.empty.set 1 ⟨1, 0, (JsMap.empty.set 3 3).set 4 4,
    (JsMap.empty.set 3 9).set 4 10⟩ }
  sessions s := { roomCode := some 1, memberId := some s, memberToken := some (s + 6) }
  fresh := 100

/-- Whatever is asked of the one room is asked of every room. -/
theorem twoInRoom_room {P : Code → PersistedRoom → Prop}
    (h : P 1 (createPersistedRoom ⟨1, 7, 0, some 3, none⟩)) (code : Code) (room : PersistedRoom)
    (stored : twoInRoom.roomStore.getRoom code = some room) : P code room := by
  change (JsMap.empty.set 1 _).get? code = _ at stored
  rw [JsMap.get?_set] at stored
  split at stored
  · rename_i own
    cases stored
    exact own ▸ h
  · cases stored

def playingAt (position : Rat) (seq : Nat) : PlaybackState :=
  ⟨"url", position, .playing, none, none, none, 1, 0, 0, 0, seq⟩

def shareOf (s : SessionId) (playback : Option PlaybackState) : Req :=
  .share s (s + 6) ⟨"BV1", "url", "title", none, none⟩ playback

/-- A share to its end, and the sharer's update of it. -/
def sharedThenUpdated : List (Move (machine oneNode)) :=
  .start (shareOf 3 (some (playingAt 0 1))) :: turns oneNode 0 15 ++
    .start (.updatePlayback 3 9 (playingAt 5 2)) :: turns oneNode 1 13

/-- Anything but creating a room. -/
def Req.unfounding (req : Req) : Prop := req.creates = false

instance : DecidablePred Req.unfounding := fun _ => inferInstanceAs (Decidable (_ = _))

theorem twoInRoom_unfounded :
    Unfounded Req.unfounding (⟨twoInRoom, []⟩ : Pool (machine oneNode)) where
  requests _ := id
  effects _ _ _ := rfl
  idle := rfl
  settled := rfl
  keyed := twoInRoom_room (P := fun code room => room.code = code) rfl

/-- The write a call does next, and the record it is answered if nothing fails. -/
def written? (p : Pool (machine oneNode)) (call : Call (machine oneNode)) :
    Option (Code × RoomUpdateGuard × PersistedRoomPatch × PersistedRoom) :=
  match call.rest.next? with
  | some (.updateRoom code expected patch) =>
    match exec oneNode (.updateRoom code expected patch) .ok p.shared with
    | some (.ok (.ok room), _, _) => some (code, expected, patch, room)
    | _ => none
  | _ => none

theorem performs_of_written {p : Pool (machine oneNode)} {i : Nat} {call : Call (machine oneNode)}
    {code : Code} {expected : RoomUpdateGuard} {patch : PersistedRoomPatch} {room : PersistedRoom}
    (at_i : p.calls[i]? = some call) (may : p.mayRun call = true)
    (writes : written? p call = some (code, expected, patch, room)) :
    ∃ q, p.step? (.run i .ok) = some q ∧
      p.Performs q call (.updateRoom code expected patch) (.ok (.ok room)) := by
  unfold written? at writes
  split at writes
  · rename_i next
    split at writes
    · rename_i hexec
      cases writes
      exact Pool.performs_of_exec at_i may next hexec
    · cases writes
  · cases writes

theorem share_and_update_are_kept : ∃ p q : Pool (machine oneNode), ∃ room : PersistedRoom,
    Run (asking Req.unfounding) ⟨twoInRoom, []⟩ p ∧ p.step? (.run 1 .ok) = some q ∧
    (p.shared.roomStore.getRoom 1).map (fun r => (r.version, r.playback.map (·.currentTime))) =
      some (1, some 0) ∧
    q.shared.roomStore.getRoom 1 = some room ∧
    (room.version, room.playback.map (·.currentTime), room.sharedVideo.map (·.title)) =
      (2, some 5, some "title") ∧
    (∀ call ∈ p.calls, ∀ earlier, WasTold call.hist earlier → earlier.code = 1 →
      earlier.version < 2) ∧
    ∀ call ∈ p.calls, ∀ told, WasTold call.hist told → ∀ stored,
      p.shared.roomStore.getRoom told.code = some stored →
        stored = told ∨ told.version < stored.version := by
  have ran : ((Pool.replay (asking Req.unfounding) ⟨twoInRoom, []⟩ sharedThenUpdated.dropLast).bind
      fun p => (p.calls[1]?).bind fun call => (written? p call).map fun w =>
        ((p.shared.roomStore.getRoom 1).map fun r => (r.version, r.playback.map (·.currentTime)),
          p.mayRun call && w.1 == 1, w.2.2.1.playback.map fun next => next.map (·.currentTime),
          w.2.2.2.version == 2 && w.2.2.2.sharedVideo.map (·.title) == some "title")) =
      some (some (1, some 0), true, some (some 5), true) := by decide +kernel
  obtain ⟨p, replayed, ran⟩ := Option.bind_eq_some_iff.mp ran
  obtain ⟨call, at_1, ran⟩ := Option.bind_eq_some_iff.mp ran
  obtain ⟨⟨code, expected, patch, room⟩, writes, seen⟩ := Option.map_eq_some_iff.mp ran
  simp only [Prod.mk.injEq, Bool.and_eq_true, beq_iff_eq] at seen
  obtain ⟨was, ⟨may, rfl⟩, moves, version, title⟩ := seen
  have run := Pool.replay_run _ replayed
  obtain ⟨q, step, did⟩ := performs_of_written at_1 may writes
  obtain ⟨told, written⟩ := no_update_is_lost twoInRoom_unfounded run
  obtain ⟨-, -, plays, stored, newer⟩ := written _ q step call 1 expected patch room did
  obtain ⟨playback, sets, position⟩ := Option.map_eq_some_iff.mp moves
  refine ⟨p, q, room, run, step, was, stored, ?_, version ▸ newer, told⟩
  rw [version, title, plays playback sets, position]

end BiliSyncPlay
