import BiliSyncPlay.Service.Steps
import BiliSyncPlay.Service.Warrants

/-!
# What lands in the room store

A write reaches the store with its command, or late, after its caller was answered. Either way it
was issued by a call that was warranted to issue it.
-/

namespace BiliSyncPlay

open Interleave

/-- The command that left a write behind. -/
def LateWrite.cmd : LateWrite → Cmd
  | .create input => .createRoom input
  | .update code expected patch => .updateRoom code expected patch
  | .mark code generation expectedPrevious =>
    .markRoomGeneration code generation expectedPrevious

section
variable {α : Type} {w w' : World} {ch : Choice} {r : α × World} {a : Except Fault α}
  {rs : List Req}

theorem call_late {write : Option LateWrite} (h : w.call ch r write = some (a, w', rs))
    (same : r.2.lateWrites = w.lateWrites) {l : LateWrite} (mem : l ∈ w'.lateWrites) :
    l ∈ w.lateWrites ∨ write = some l := by
  obtain ⟨-, ⟨-, rfl⟩ | ⟨f, -, rfl | rfl | ⟨late, out, rfl⟩⟩⟩ := call_cases h
  · exact .inl (same ▸ mem)
  · exact .inl mem
  · exact .inl (same ▸ mem)
  · rcases List.mem_append.mp mem with old | new
    · exact .inl old
    · cases List.mem_singleton.mp new
      exact .inr out

theorem attempt_late (h : w.attempt ch r = some (a, w', rs))
    (same : r.2.lateWrites = w.lateWrites) {l : LateWrite} (mem : l ∈ w'.lateWrites) :
    l ∈ w.lateWrites := by
  obtain ⟨-, ⟨-, rfl⟩ | ⟨f, -, rfl⟩⟩ := attempt_cases h
  · exact same ▸ mem
  · exact mem

end

theorem exec_late {cfg : Config} {c : Cmd} {ch : Choice} {w w' : World} {a : c.Ans}
    {rs : List Req} (h : exec cfg c ch w = some (a, w', rs)) {l : LateWrite}
    (mem : l ∈ w'.lateWrites) : l ∈ w.lateWrites ∨ c = l.cmd := by
  have own {own : LateWrite} (same : some own = some l) : own.cmd = l.cmd := by
    rw [Option.some.inj same]
  cases c with
  | createRoom input =>
    simp only [exec] at h
    split at h
    · exact (call_late h rfl mem).imp_right own
    · split at h
      · cases h; exact .inl mem
      · exact (call_late h rfl mem).imp_right own
  | updateRoom code expected patch =>
    simp only [exec] at h
    split at h
    · cases h; exact .inl mem
    · split at h
      · cases h
      · exact (call_late h rfl mem).imp_right own
    · exact (call_late h rfl mem).imp_right own
  | markRoomGeneration =>
    simp only [exec] at h
    exact (call_late h rfl mem).imp_right own
  | awaitEffect => obtain ⟨-, effects, rfl⟩ := awaitEffect_cases h; exact .inl mem
  | acquireDistributedJoinLock =>
    simp only [exec, World.acquireDistributedJoinLock] at h
    split at h
    · exact (call_late h rfl mem).imp_right (by simp)
    · split at h
      · cases h; exact .inl mem
      · split at h <;> cases h; exact .inl mem
      · cases h
  | nextRoomCode => cases ch <;> cases h; exact .inl mem
  | awaitJoinTurn => simp only [exec] at h; split at h <;> cases h; exact .inl mem
  | getOrStartExpiredRoomCollection | rememberRuntimeTeardownDebt =>
    simp only [exec, answer] at h
    split at h <;> cases h <;> exact .inl mem
  | startRuntimeTeardownEffect =>
    simp only [exec, World.startRuntimeTeardownEffect] at h
    split at h <;> cases h <;> exact .inl mem
  | settleRuntimeTeardown =>
    cases h
    unfold World.settleRuntimeTeardown at mem
    dsimp only at mem
    split at mem <;> exact .inl mem
  | setSessionDisplayName =>
    simp only [exec, answer, Option.some.injEq, Prod.mk.injEq] at h
    rw [← h.2.1] at mem
    unfold World.setSessionDisplayName at mem
    dsimp only at mem
    split at mem <;> exact .inl mem
  | getPlaybackAuthority =>
    simp only [exec, answer, Option.some.injEq, Prod.mk.injEq] at h
    rw [← h.2.1] at mem
    unfold World.getPlaybackAuthority at mem
    dsimp only at mem
    split at mem
    · exact .inl mem
    · split at mem <;> exact .inl mem
  | recordPlaybackAuthority =>
    cases h
    unfold World.recordPlaybackAuthority World.sweepExpiredPlaybackAuthorities at mem
    dsimp only at mem
    split at mem <;> exact .inl mem
  | decrementConnectionCount s =>
    cases h
    unfold World.decrementConnectionCount at mem
    split at mem <;> exact .inl mem
  | markSessionJoinedRoom | markSessionLeftRoom =>
    simp only [exec] at h
    refine (call_late h ?_ mem).imp_right (by simp)
    simp only [World.markSessionJoinedRoom, World.markSessionLeftRoom]
    split <;> rfl
  | _ =>
    simp only [exec] at h
    first
    | (cases h; exact .inl mem)
    | exact (call_late h rfl mem).imp_right (by simp)
    | exact .inl (attempt_late h rfl mem)

/-- What an event does to the records is what one write that was left behind does. -/
inductive Arrived (w w' : World) : Event → Prop where
  | none {e : Event} (same : w'.roomStore = w.roomStore)
    (late : ∀ l ∈ w'.lateWrites, l ∈ w.lateWrites) : Arrived w w' e
  | write {i : Nat} {l : LateWrite} (at_i : w.lateWrites[i]? = some l)
    (late : ∀ l ∈ w'.lateWrites, l ∈ w.lateWrites)
    (recorded : ∀ code, Recorded w w' code (some l.cmd)) : Arrived w w' (.land i)

theorem occur_arrived {e : Event} {w w' : World} (h : occur e w = some w') : Arrived w w' e := by
  cases e with
  | tick | closeSocket | beginShutdown | orphan => cases h; exact .none rfl fun _ => id
  | land i =>
    simp only [occur, Option.map_eq_some_iff] at h
    obtain ⟨l, at_i, rfl⟩ := h
    cases l with
    | create input =>
      dsimp only
      split
      · rename_i r created
        apply Arrived.write at_i fun _ => List.mem_of_mem_eraseIdx
        intro code
        exact recorded_createRoom (w := w) code (fun _ h => (Option.some.inj h).symm) created rfl
      · exact .none rfl fun _ => List.mem_of_mem_eraseIdx
    | update c expected patch =>
      apply Arrived.write at_i fun _ => List.mem_of_mem_eraseIdx
      intro code
      exact recorded_updateRoom (w := w) code (fun _ h => (Option.some.inj h).symm) rfl
    | mark => exact .none rfl fun _ => List.mem_of_mem_eraseIdx

theorem Arrived.late {e : Event} {w w' : World} (h : Arrived w w' e) :
    ∀ l ∈ w'.lateWrites, l ∈ w.lateWrites := by
  cases h with
  | none _ late | write _ late => exact late

section
variable {cfg : Config} {ok : Guard (machine cfg)} {p₀ p q : Pool (machine cfg)}
  {mv : Move (machine cfg)}

/-- Some call issued this command, and was warranted to. -/
def HasWarrant (cfg : Config) (p : Pool (machine cfg)) (c : Cmd) : Prop :=
  ∃ call ∈ p.calls, ∃ past, call.Issued past c ∧ Warranted cfg call.req past c

theorem HasWarrant.step {c : Cmd} (h : HasWarrant cfg p c) (step : p.step? mv = some q) :
    HasWarrant cfg q c := by
  obtain ⟨call, mem, past, issued, warranted⟩ := h
  obtain ⟨later, mem', same, issued⟩ := Pool.issued_step step mem issued
  exact ⟨later, mem', past, issued, same ▸ warranted⟩

/-- Whatever is still on its way to the store was issued by a call that was warranted to. -/
theorem late_vouched (run : Run ok p₀ p) (idle : p₀.calls = [])
    (settled : p₀.shared.lateWrites = []) : ∀ l ∈ p.shared.lateWrites, HasWarrant cfg p l.cmd := by
  induction run with
  | refl => simp [settled]
  | step mv run allowed step ih =>
    rename_i p q
    have kept : ∀ l ∈ p.shared.lateWrites, HasWarrant cfg q l.cmd :=
      fun l mem => (ih l mem).step step
    intro l mem
    cases mv with
    | start r => cases step; exact kept l mem
    | event e =>
      have moved := step
      simp only [Pool.step?, Option.map_eq_some_iff] at moved
      obtain ⟨w, happened, rfl⟩ := moved
      exact kept l ((occur_arrived happened).late l mem)
    | run i ch =>
      obtain ⟨call, c, k, a, w, spawned, at_i, rest, hexec, rfl⟩ := Discipline.run?_cases step
      rcases exec_late hexec mem with old | rfl
      · exact kept l old
      · have genuine := Discipline.run_genuine run (Discipline.genuine_of_no_calls idle)
        have own := List.mem_of_getElem? at_i
        have issues : call.rest.next? = some l.cmd := congrArg Prog.next? rest
        have warranted := warranted_of_next genuine own issues
        have vouched : HasWarrant cfg p l.cmd :=
          ⟨call, own, call.hist, .inl ⟨rfl, issues⟩, warranted⟩
        exact vouched.step step

/-- The command whose effect a move may bring to the stores. -/
def landing? (p : Pool (machine cfg)) : Move (machine cfg) → Option Cmd
  | .start _ => none
  | .run i _ => (p.calls[i]?).bind fun call => call.rest.next?
  | .event (.land i) => (p.shared.lateWrites[i]?).map LateWrite.cmd
  | .event _ => none

/-- What a step that creates no room did to the record of one, and by whose warrant. -/
inductive RecordMove (cfg : Config) (p : Pool (machine cfg)) (mv : Move (machine cfg))
    (q : Pool (machine cfg)) (code : Code) : Prop where
  | same (still : q.shared.roomStore.getRoom code = p.shared.roomStore.getRoom code)
  | updated {expected : RoomUpdateGuard} {patch : PersistedRoomPatch} {room : PersistedRoom}
    (lands : landing? p mv = some (.updateRoom code expected patch))
    (vouched : HasWarrant cfg p (.updateRoom code expected patch))
    (found : p.shared.roomStore.getRoom code = some room)
    (passes : expected.refusal room = none)
    (now : q.shared.roomStore.getRoom code = some (room.patched patch p.shared.clock))
  | deleted (now : q.shared.roomStore.getRoom code = none)

/-- What a step did to the record of one room. -/
inductive RecordStep (cfg : Config) (p : Pool (machine cfg)) (mv : Move (machine cfg))
    (q : Pool (machine cfg)) (code : Code) : Prop where
  | created {input : CreatePersistedRoomInput} (vouched : HasWarrant cfg p (.createRoom input))
    (own : input.code = code) (free : p.shared.roomStore.getRoom code = none)
    (now : q.shared.roomStore.getRoom code = some (createPersistedRoom input))
  | moved (move : RecordMove cfg p mv q code)

theorem landed_of_recorded {c : Cmd} {code : Code}
    (recorded : Recorded p.shared q.shared code (some c)) (lands : landing? p mv = some c)
    (vouched : HasWarrant cfg p c) : RecordStep cfg p mv q code := by
  cases recorded with
  | same still => exact .moved (.same still)
  | created asked own free now =>
    cases asked c rfl
    exact .created vouched own free now
  | updated asked found passes now =>
    cases asked c rfl
    exact .moved (.updated lands vouched found passes now)
  | deleted _ _ _ now => exact .moved (.deleted now)

/-- Records change by warranted writes alone. -/
theorem step_landed (run : Run ok p₀ p) (idle : p₀.calls = [])
    (settled : p₀.shared.lateWrites = []) (step : p.step? mv = some q) (code : Code) :
    RecordStep cfg p mv q code := by
  cases mv with
  | start r => cases step; exact .moved (.same rfl)
  | event e =>
    simp only [Pool.step?, Option.map_eq_some_iff] at step
    obtain ⟨w, happened, rfl⟩ := step
    cases occur_arrived happened with
    | none same => exact .moved (.same (by rw [same]))
    | write at_i _ recorded =>
      have vouched := late_vouched run idle settled _ (List.mem_of_getElem? at_i)
      exact landed_of_recorded (recorded code) (congrArg (Option.map LateWrite.cmd) at_i) vouched
  | run i ch =>
    obtain ⟨call, c, k, a, w, spawned, at_i, rest, hexec, rfl⟩ := Discipline.run?_cases step
    have genuine := Discipline.run_genuine run (Discipline.genuine_of_no_calls idle)
    have own := List.mem_of_getElem? at_i
    have issues : call.rest.next? = some c := congrArg Prog.next? rest
    have lands : landing? p (.run i ch) = some c := by
      rw [← issues]
      exact congrArg (Option.bind · fun call => call.rest.next?) at_i
    exact landed_of_recorded (exec_record hexec code) lands
      ⟨call, own, call.hist, .inl ⟨rfl, issues⟩, warranted_of_next genuine own issues⟩

/-- Records stay under their own codes. -/
theorem run_keyed (run : Run ok p₀ p) (idle : p₀.calls = [])
    (settled : p₀.shared.lateWrites = []) (keyed : p₀.shared.roomStore.Keyed) :
    p.shared.roomStore.Keyed := by
  induction run with
  | refl => exact keyed
  | step mv run allowed step ih =>
    intro code room found
    cases step_landed run idle settled step code with
    | created _ own _ now => cases now.symm.trans found; exact own
    | moved move =>
      cases move with
      | same still => exact ih code room (still ▸ found)
      | updated _ _ old _ now =>
        cases now.symm.trans found
        exact (patched_code ..).trans (ih code _ old)
      | deleted now => cases now.symm.trans found

/-- An answered read is the stored record. -/
theorem stored_of_performs {call : Call (machine cfg)} {asked : Code} {access : PersistedRoom}
    (did : p.Performs q call (.getRoom asked) (.ok (some access))) :
    p.shared.roomStore.getRoom asked = some access := by
  obtain ⟨i, ch, spawned, -, -, -, hexec⟩ := did
  change exec cfg (.getRoom asked) ch p.shared = _ at hexec
  simp only [exec] at hexec
  exact (call_ok hexec).1.symm

/-- Records are read under their own codes. -/
theorem reads_keyed (run : Run ok p₀ p) (idle : p₀.calls = [])
    (settled : p₀.shared.lateWrites = []) (keyed : p₀.shared.roomStore.Keyed) :
    ∀ call ∈ p.calls, ∀ asked access, ⟨.getRoom asked, .ok (some access)⟩ ∈ call.hist →
      access.code = asked := by
  induction run with
  | refl => simp [idle]
  | step mv run allowed step ih =>
    intro call mem asked access read
    rcases Pool.call_of_step step mem with old | fresh | ⟨own, own_mem, c, a, -, grown, did⟩
    · exact ih call old asked access read
    · simp [fresh] at read
    · rw [grown] at read
      rcases List.mem_cons.mp read with now | earlier
      · cases now
        exact run_keyed run idle settled keyed asked access (stored_of_performs did)
      · exact ih own own_mem asked access earlier

end

end BiliSyncPlay
