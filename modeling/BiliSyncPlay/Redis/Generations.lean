import BiliSyncPlay.Interleave.Chronicle
import BiliSyncPlay.Redis.Purge

/-!
# The generation guard

A join or a teardown compares the generation it pinned with the one stored when it lands. A
generation once replaced does not come back, but for the tombstone.
-/

namespace BiliSyncPlay.RedisRuntime

open Interleave DurableWriteQueue

variable {honest : Prop} {owner : SessionId → InstanceId} {retention : Time}

/-! ## Histories of generations -/

/-- What a stretch of history left under the generation key of a code, if it wrote it. -/
def since (code : Code) : List Happening → Option RoomGeneration
  | [] => none
  | .stamped c uuid :: earlier => if c = code then some (.uuid uuid) else since code earlier
  | .tornDown pin :: earlier =>
    if pin.code = code then some ROOM_GENERATION_TOMBSTONE else since code earlier
  | _ :: earlier => since code earlier

theorem since_eq_none {code : Code} {stretch : List Happening} (h : since code stretch = none) :
    (∀ uuid, .stamped code uuid ∉ stretch) ∧
      ∀ pin : Pin, pin.code = code → .tornDown pin ∉ stretch := by
  induction stretch with
  | nil => exact ⟨nofun, nofun⟩
  | cons e earlier ih =>
    cases e with
    | stamped c uuid =>
      simp only [since] at h
      split at h
      · cases h
      · rename_i other
        obtain ⟨stamps, teardowns⟩ := ih h
        refine ⟨fun uuid' mem => ?_, fun pin own mem => ?_⟩
        · rcases List.mem_cons.mp mem with same | old
          · cases same
            exact other rfl
          · exact stamps uuid' old
        · exact teardowns pin own (by simpa using mem)
    | tornDown torn =>
      simp only [since] at h
      split at h
      · cases h
      · rename_i other
        obtain ⟨stamps, teardowns⟩ := ih h
        refine ⟨fun uuid' mem => stamps uuid' (by simpa using mem), fun pin own mem => ?_⟩
        rcases List.mem_cons.mp mem with same | old
        · cases same
          exact other own
        · exact teardowns pin own old
    | pinned | joined | unseated =>
      obtain ⟨stamps, teardowns⟩ := ih h
      exact ⟨fun uuid' mem => stamps uuid' (by simpa using mem),
        fun pin own mem => teardowns pin own (by simpa using mem)⟩

/-- A generation a stretch left was stamped in it, or is the tombstone. -/
theorem since_eq_some {code : Code} {stretch : List Happening} {g : RoomGeneration}
    (h : since code stretch = some g) :
    g = ROOM_GENERATION_TOMBSTONE ∨ ∃ uuid, g = .uuid uuid ∧ .stamped code uuid ∈ stretch := by
  induction stretch with
  | nil => cases h
  | cons e earlier ih =>
    have below : since code earlier = some g →
        g = ROOM_GENERATION_TOMBSTONE ∨ ∃ uuid, g = .uuid uuid ∧ .stamped code uuid ∈ e :: earlier := by
      intro h
      rcases ih h with torn | ⟨uuid, same, mem⟩
      · exact .inl torn
      · exact .inr ⟨uuid, same, List.mem_cons_of_mem _ mem⟩
    cases e with
    | stamped c uuid =>
      simp only [since] at h
      split at h
      · rename_i same
        subst same
        exact .inr ⟨uuid, (Option.some.inj h).symm, List.mem_cons_self⟩
      · exact below h
    | tornDown torn =>
      simp only [since] at h
      split at h
      · exact .inl (Option.some.inj h).symm
      · exact below h
    | pinned | joined | unseated => exact below h

/-- A pin was read in a history, and what happened since was as allowed. -/
def ReadBefore (earlier : List Happening) (pin : Pin) (allowed : List Happening → Prop) : Prop :=
  ∃ mid before, earlier = mid ++ .pinned pin :: before ∧ allowed mid

/-- No new instance of the code was stamped, or the last one was torn down again and the teardown
is of a code that was torn down already. -/
def NoNewInstance (pin : Pin) (mid : List Happening) : Prop :=
  (∀ uuid, .stamped pin.code uuid ∉ mid) ∨
    pin.value = some ROOM_GENERATION_TOMBSTONE ∧
      since pin.code mid = some ROOM_GENERATION_TOMBSTONE

def MayHappen (earlier : List Happening) : Happening → Prop
  | .pinned pin => ∀ pin' : Pin, .pinned pin' ∈ earlier → pin'.read ≠ pin.read
  | .joined pin => ReadBefore earlier pin fun mid => since pin.code mid = none
  | .tornDown pin => ReadBefore earlier pin (NoNewInstance pin)
  | _ => True

/-! ## What a pin is worth -/

/-- Where the pin a call holds was read, and what the generation has become since. -/
def Held (w : World) (pin : Pin) : Prop :=
  ReadBefore w.history pin fun mid =>
    (w.keys.room pin.code).generation = (since pin.code mid).or pin.value ∧
      ∀ uuid, pin.value = some (.uuid uuid) → ∀ code, .stamped code uuid ∉ mid

def Happening.Mentions (uuid : Nat) : Happening → Prop
  | .stamped _ u => u = uuid
  | .pinned pin => pin.value = some (.uuid uuid)
  | _ => False

/-- A UUID that is neither stored nor was ever read or stamped. -/
structure Unspent (w : World) (uuid : Nat) : Prop where
  stored : ∀ code, (w.keys.room code).generation ≠ some (.uuid uuid)
  mentioned : ∀ h ∈ w.history, ¬ h.Mentions uuid

def Phase.pin? : Phase → Option Pin
  | seating pin | founding pin | tearing pin => pin
  | stamping pin _ => some pin
  | _ => none

def Phase.uuid? : Phase → Option Nat
  | stamping _ uuid => some uuid
  | _ => none

structure Guarded (w : World) (φs : List Phase) : Prop where
  unused : ∀ uuid, w.uuids ≤ uuid → Unspent w uuid
  carried : ∀ φ ∈ φs, ∀ uuid, φ.uuid? = some uuid → uuid < w.uuids ∧ Unspent w uuid
  alone : Distinct Phase.uuid? φs
  held : ∀ φ ∈ φs, ∀ pin, φ.pin? = some pin → Held w pin
  reads : ∀ pin, .pinned pin ∈ w.history → pin.read < w.reads
  lawful : Lawful MayHappen w.history

section Steps

variable {w w' : World} {φ : Phase} {φs : List Phase} {pin : Pin}

/-- What is not about generations changes no pin's worth. -/
theorem Held.same (h : Held w pin)
    (generation : ∀ code, (w'.keys.room code).generation = (w.keys.room code).generation)
    (history : w'.history = w.history ∨
      ∃ e, w'.history = e :: w.history ∧ (∀ c rest, since c (e :: rest) = since c rest) ∧
        ∀ c uuid, e ≠ .stamped c uuid) : Held w' pin := by
  obtain ⟨mid, before, split, stored, unstamped⟩ := h
  rcases history with same | ⟨e, new, silent, other⟩
  · exact ⟨mid, before, same.trans split, (generation _).trans stored, unstamped⟩
  · refine ⟨e :: mid, before, by rw [new, split, List.cons_append], ?_, ?_⟩
    · rw [silent, generation, stored]
    · intro uuid own code mem
      rcases List.mem_cons.mp mem with here | old
      · exact other code uuid here.symm
      · exact unstamped uuid own code old

/-- A generation that is written, and noted. -/
theorem Held.written (h : Held w pin) {code : Code} {g : RoomGeneration} {e : Happening}
    (generation : ∀ c, (w'.keys.room c).generation =
      if c = code then some g else (w.keys.room c).generation)
    (history : w'.history = e :: w.history)
    (noted : ∀ c rest, since c (e :: rest) = if code = c then some g else since c rest)
    (fresh : ∀ c uuid, e = .stamped c uuid → pin.value ≠ some (.uuid uuid)) : Held w' pin := by
  obtain ⟨mid, before, split, stored, unstamped⟩ := h
  refine ⟨e :: mid, before, by rw [history, split, List.cons_append], ?_, ?_⟩
  · rw [noted, generation]
    by_cases here : pin.code = code
    · rw [if_pos here, if_pos here.symm]
      rfl
    · rw [if_neg here, if_neg (Ne.symm here), stored]
  · intro uuid own c mem
    rcases List.mem_cons.mp mem with here | old
    · exact fresh c uuid here.symm own
    · exact unstamped uuid own c old

/-- A pin that still matches, and is no tombstone, is as it was read. -/
theorem Held.unchanged (h : Held w pin) (live : pin.value ≠ some ROOM_GENERATION_TOMBSTONE)
    (now : (w.keys.room pin.code).generation = pin.value) :
    ReadBefore w.history pin fun mid => since pin.code mid = none := by
  obtain ⟨mid, before, split, stored, unstamped⟩ := h
  refine ⟨mid, before, split, ?_⟩
  cases left : since pin.code mid with
  | none => exact left
  | some g =>
    rw [left, Option.some_or, now] at stored
    rcases since_eq_some left with torn | ⟨uuid, same, mem⟩
    · exact absurd (torn ▸ stored) live
    · exact absurd mem (unstamped uuid (same ▸ stored) pin.code)

theorem Held.noNewInstance (h : Held w pin)
    (now : (w.keys.room pin.code).generation = pin.value) :
    ReadBefore w.history pin (NoNewInstance pin) := by
  by_cases live : pin.value = some ROOM_GENERATION_TOMBSTONE
  · obtain ⟨mid, before, split, stored, -⟩ := h
    refine ⟨mid, before, split, ?_⟩
    cases left : since pin.code mid with
    | none => exact .inl (since_eq_none left).1
    | some g =>
      rw [left, Option.some_or, now, live] at stored
      exact .inr ⟨live, left.trans stored.symm⟩
  · obtain ⟨mid, before, split, unchanged⟩ := h.unchanged live now
    exact ⟨mid, before, split, .inl (since_eq_none unchanged).1⟩

/-! ## What a command keeps -/

theorem Unspent.same {uuid : Nat} (h : Unspent w uuid)
    (generation : ∀ code, (w'.keys.room code).generation = (w.keys.room code).generation)
    (history : ∀ e ∈ w'.history, e ∈ w.history ∨ ¬ e.Mentions uuid) : Unspent w' uuid := by
  refine ⟨fun code => generation code ▸ h.stored code, fun e he => ?_⟩
  rcases history e he with old | silent
  · exact h.mentioned e old
  · exact silent

/-- What a write notes of generations, and what it does to them. -/
inductive Landed (w : World) : Write → World → Prop
  /-- It was declined, or is not about generations. -/
  | silent {write : Write} {next : World} : (∀ code, (next.keys.room code).generation = (w.keys.room code).generation) →
      next.uuids = w.uuids → next.reads = w.reads →
      (next.history = w.history ∨ ∃ i seat bound, next.history = .unseated i seat bound :: w.history) →
      Landed w write next
  | joined {pin : Pin} {id : SessionId} {roomCodeToLeave : Option Code}
      {record : SessionHash} {next : World} : (w.keys.room pin.code).generation = pin.value →
      (∀ code, (next.keys.room code).generation = (w.keys.room code).generation) →
      next.uuids = w.uuids → next.reads = w.reads → next.history = .joined pin :: w.history →
      Landed w (.joinRoomIndex pin id roomCodeToLeave record) next
  | stamped {pin : Pin} {uuid : Nat} {next : World} : (w.keys.room pin.code).generation = pin.value →
      (∀ code, (next.keys.room code).generation =
        if code = pin.code then some (.uuid uuid) else (w.keys.room code).generation) →
      next.uuids = w.uuids → next.reads = w.reads → next.history = .stamped pin.code uuid :: w.history →
      Landed w (.markRoomGeneration pin uuid) next
  | tornDown {pin : Pin} {next : World} : (w.keys.room pin.code).generation = pin.value →
      (∀ code, (next.keys.room code).generation =
        if code = pin.code then some ROOM_GENERATION_TOMBSTONE
        else (w.keys.room code).generation) →
      next.uuids = w.uuids → next.reads = w.reads → next.history = .tornDown pin :: w.history →
      Landed w (.deleteRoom pin) next

theorem landed_perform (w : World) (write : Write) : Landed w write (w.perform write).2 := by
  have plainly : ∀ write : Write, write.Plain → ∀ code,
      ((w.perform write).2.keys.room code).generation = (w.keys.room code).generation :=
    fun write plain code => (within_perform plain code).generation
  cases write with
  | joinRoomIndex pin id roomCodeToLeave record =>
    by_cases now : (w.keys.room pin.code).generation = pin.value
    · refine .joined now (plainly _ trivial) rfl rfl ?_
      simp [World.perform, Keys.perform, Keys.joinRoomIndex, now, Write.noted]
    · refine .silent (plainly _ trivial) rfl rfl (.inl ?_)
      simp [World.perform, Keys.perform, Keys.joinRoomIndex, now]
  | markRoomGeneration pin uuid =>
    by_cases now : (w.keys.room pin.code).generation = pin.value
    · refine .stamped now (fun code => ?_) rfl rfl ?_
      · simp only [World.perform, perform_markRoomGeneration, now, if_true, Keys.onRoom_room]
        split <;> rfl
      · simp [World.perform, perform_markRoomGeneration, now, Write.noted]
    · refine .silent (fun code => ?_) rfl rfl (.inl ?_)
      · simp [World.perform, perform_markRoomGeneration, now]
      · simp [World.perform, perform_markRoomGeneration, now]
  | deleteRoom pin =>
    by_cases now : (w.keys.room pin.code).generation = pin.value
    · refine .tornDown now (fun code => ?_) rfl rfl ?_
      · simp only [World.perform, perform_deleteRoom, now, if_true, Keys.onRoom_room]
        split <;> rfl
      · simp [World.perform, perform_deleteRoom, now, Write.noted]
    · refine .silent (fun code => ?_) rfl rfl (.inl ?_)
      · simp [World.perform, perform_deleteRoom, now]
      · simp [World.perform, perform_deleteRoom, now]
  | purgeSession i id roomCode seat =>
    refine .silent (plainly _ trivial) rfl rfl ?_
    cases seat with
    | none => exact .inl rfl
    | some seat => exact .inr ⟨i, seat, _, rfl⟩
  | addMember code m s token =>
    refine .silent (fun c => ?_) rfl rfl (.inl rfl)
    simp only [World.perform, Keys.perform, Keys.onRoom_room]
    split <;> rfl
  | hasRoomResidue code now redisNow =>
    refine .silent (plainly _ trivial) rfl rfl (.inl ?_)
    simp [World.perform, Write.noted]
  | _ => exact .silent (plainly _ trivial) rfl rfl (.inl rfl)

variable {i : Nat} {write : Write}

/-- A write that landed, seen from a call that stands where it may. -/
theorem Guarded.landed (inv : Guarded w φs) (at_i : φs[i]? = some φ) (may : φ.Writes write)
    (vouched : write.Vouched honest owner) (landed : Landed w write w') {ψ : Phase}
    (pins : ∀ pin, ψ.pin? = some pin → φ.pin? = some pin)
    (uuids : ∀ uuid, ψ.uuid? = some uuid → φ.uuid? = some uuid)
    (spent : ∀ pin uuid, write = .markRoomGeneration pin uuid → ψ.uuid? = none) :
    Guarded w' (φs.set i ψ ++ []) := by
  have mem : φ ∈ φs := List.mem_of_getElem? at_i
  have alone : Distinct Phase.uuid? (φs.set i ψ ++ []) :=
    distinct_step inv.alone at_i uuids distinct_nil fun _ h => nomatch h
  -- Who holds a pin, or carries a UUID, did so before.
  have heldBefore : ∀ χ ∈ φs.set i ψ ++ [], ∀ pin, χ.pin? = some pin → Held w pin := by
    intro χ hχ pin hp
    rw [List.append_nil] at hχ
    rcases List.mem_or_eq_of_mem_set hχ with same | rfl
    · exact inv.held χ same pin hp
    · exact inv.held φ mem pin (pins pin hp)
  have carriedBefore : ∀ χ ∈ φs.set i ψ ++ [], ∀ uuid, χ.uuid? = some uuid →
      (uuid < w.uuids ∧ Unspent w uuid) ∧
        ∀ pin stamp, write = .markRoomGeneration pin stamp → uuid ≠ stamp := by
    intro χ hχ uuid hu
    obtain ⟨j, hj⟩ := List.mem_iff_getElem?.mp hχ
    rcases getElem?_set_append hj with ⟨-, rfl⟩ | ⟨other, old⟩ | ⟨-, none⟩
    · refine ⟨inv.carried φ mem uuid (uuids uuid hu), fun pin stamp marks => ?_⟩
      rw [spent pin stamp marks] at hu
      cases hu
    · refine ⟨inv.carried χ (List.mem_of_getElem? old) uuid hu, fun pin stamp marks same => ?_⟩
      subst marks same
      rw [may] at at_i
      exact other (inv.alone j i χ _ uuid old at_i hu rfl)
    · cases none
  cases landed with
  | silent generation uuids reads history =>
    have kept : ∀ uuid, Unspent w uuid → Unspent w' uuid := by
      intro uuid unspent
      refine unspent.same generation fun e he => ?_
      rcases history with same | ⟨i, seat, bound, new⟩
      · exact .inl (same ▸ he)
      · rw [new] at he
        rcases List.mem_cons.mp he with rfl | old
        · exact .inr id
        · exact .inl old
    refine ⟨?_, ?_, alone, ?_, ?_, ?_⟩
    · exact fun uuid le => kept uuid (inv.unused uuid (uuids ▸ le))
    · intro χ hχ uuid hu
      obtain ⟨⟨lt, unspent⟩, -⟩ := carriedBefore χ hχ uuid hu
      exact ⟨uuids ▸ lt, kept uuid unspent⟩
    · intro χ hχ pin hp
      refine (heldBefore χ hχ pin hp).same generation ?_
      rcases history with same | ⟨i, seat, bound, new⟩
      · exact .inl same
      · exact .inr ⟨_, new, fun _ _ => rfl, nofun⟩
    · intro pin hp
      rw [reads]
      apply inv.reads pin
      rcases history with same | ⟨i, seat, bound, new⟩
      · exact same ▸ hp
      · simpa [new] using hp
    · rcases history with same | ⟨i, seat, bound, new⟩
      · exact same ▸ inv.lawful
      · rw [new]
        exact ⟨trivial, inv.lawful⟩
  | @joined pin _ _ _ _ now generation uuids reads history =>
    have kept : ∀ uuid, Unspent w uuid → Unspent w' uuid := by
      intro uuid unspent
      refine unspent.same generation fun e he => ?_
      rw [history] at he
      rcases List.mem_cons.mp he with rfl | old
      · exact .inr id
      · exact .inl old
    refine ⟨?_, ?_, alone, ?_, ?_, ?_⟩
    · exact fun uuid le => kept uuid (inv.unused uuid (uuids ▸ le))
    · intro χ hχ uuid hu
      obtain ⟨⟨lt, unspent⟩, -⟩ := carriedBefore χ hχ uuid hu
      exact ⟨uuids ▸ lt, kept uuid unspent⟩
    · intro χ hχ pin hp
      exact (heldBefore χ hχ pin hp).same generation (.inr ⟨_, history, fun _ _ => rfl, nofun⟩)
    · intro pin hp
      rw [reads]
      exact inv.reads pin (by simpa [history] using hp)
    · rw [history]
      have own : Held w pin := inv.held φ mem pin (by rw [may]; rfl)
      exact ⟨own.unchanged vouched.2 now, inv.lawful⟩
  | @stamped pin stamp _ now generation uuids reads history =>
    have kept : ∀ uuid, uuid ≠ stamp → Unspent w uuid → Unspent w' uuid := by
      intro uuid other unspent
      refine ⟨fun code => ?_, fun e he => ?_⟩
      · rw [generation]
        split
        · exact fun same => other (RoomGeneration.uuid.inj (Option.some.inj same)).symm
        · exact unspent.stored code
      · rw [history] at he
        rcases List.mem_cons.mp he with rfl | old
        · exact fun same => other same.symm
        · exact unspent.mentioned e old
    obtain ⟨own, unspent⟩ := inv.carried φ mem stamp (by rw [may]; rfl)
    refine ⟨?_, ?_, alone, ?_, ?_, ?_⟩
    · intro uuid le
      rw [uuids] at le
      exact kept uuid (by omega) (inv.unused uuid le)
    · intro χ hχ uuid hu
      obtain ⟨⟨lt, unspent⟩, other⟩ := carriedBefore χ hχ uuid hu
      exact ⟨uuids ▸ lt, kept uuid (other pin stamp rfl) unspent⟩
    · intro χ hχ pin' hp
      have before := heldBefore χ hχ pin' hp
      refine before.written generation history (fun _ _ => rfl) ?_
      intro c uuid same
      cases same
      obtain ⟨mid, earlier, split, -⟩ := before
      refine unspent.mentioned (.pinned pin') ?_
      rw [split]
      exact List.mem_append_right _ List.mem_cons_self
    · intro pin' hp
      rw [reads]
      exact inv.reads pin' (by simpa [history] using hp)
    · rw [history]
      exact ⟨trivial, inv.lawful⟩
  | @tornDown pin _ now generation uuids reads history =>
    have kept : ∀ uuid, Unspent w uuid → Unspent w' uuid := by
      intro uuid unspent
      refine ⟨fun code => ?_, fun e he => ?_⟩
      · rw [generation]
        split
        · exact nofun
        · exact unspent.stored code
      · rw [history] at he
        rcases List.mem_cons.mp he with rfl | old
        · exact id
        · exact unspent.mentioned e old
    refine ⟨?_, ?_, alone, ?_, ?_, ?_⟩
    · exact fun uuid le => kept uuid (inv.unused uuid (uuids ▸ le))
    · intro χ hχ uuid hu
      obtain ⟨⟨lt, unspent⟩, -⟩ := carriedBefore χ hχ uuid hu
      exact ⟨uuids ▸ lt, kept uuid unspent⟩
    · intro χ hχ pin' hp
      exact (heldBefore χ hχ pin' hp).written generation history (fun _ _ => rfl) nofun
    · intro pin' hp
      rw [reads]
      exact inv.reads pin' (by simpa [history] using hp)
    · rw [history]
      have own : Held w pin := inv.held φ mem pin (by rw [may]; rfl)
      exact ⟨own.noNewInstance now, inv.lawful⟩

/-- A pin that is held after an answer was held before it, or is the answer. -/
theorem after_pin {c : Cmd} {a : c.Ans} (h : (φ.after c a).pin? = some pin) :
    φ.pin? = some pin ∨
      ∃ code, (⟨c, a⟩ : (c : Cmd) × c.Ans) = ⟨.getRoomGeneration code, some pin⟩ := by
  unfold Phase.after at h
  split at h
  · simp only [Phase.read] at h
    split at h <;> cases h
  · simp only [Phase.read] at h
    split at h <;> cases h
  · split at h <;> cases h
  · cases h
  · cases h
  · cases h
    exact .inr ⟨_, rfl⟩
  · cases h
    exact .inr ⟨_, rfl⟩
  · exact .inl h
  · cases h
    exact .inr ⟨_, rfl⟩
  · cases h
  · exact .inl h

theorem after_uuid {c : Cmd} {a : c.Ans} {uuid : Nat} (h : (φ.after c a).uuid? = some uuid) :
    (φ.uuid? = some uuid ∧ ∀ pin stamp, c ≠ .write (.markRoomGeneration pin stamp)) ∨
      (⟨c, a⟩ : (c : Cmd) × c.Ans) = ⟨.randomUUID, uuid⟩ := by
  unfold Phase.after at h
  split at h
  · simp only [Phase.read] at h
    split at h <;> cases h
  · simp only [Phase.read] at h
    split at h <;> cases h
  · split at h <;> cases h
  · cases h
  · cases h
  · cases h
  · cases h
  · cases h
    exact .inr rfl
  · cases h
  · cases h
  · rename_i other
    refine .inl ⟨h, ?_⟩
    rintro pin stamp rfl
    cases φ <;> cases h
    exact other _ _ _ _ _ rfl rfl HEq.rfl

/-- What is on its way stands on what its caller stood on. -/
theorem late_pin (may : φ.Writes write) (h : (Phase.begin (.late write)).pin? = some pin) :
    φ.pin? = some pin := by
  cases write with
  | purgeSession i id roomCode seat => cases seat <;> cases h
  | joinRoomIndex | markRoomGeneration | deleteRoom =>
    cases may
    exact h
  | _ => cases h

theorem late_uuid (may : φ.Writes write) {uuid : Nat}
    (h : (Phase.begin (.late write)).uuid? = some uuid) :
    φ.uuid? = some uuid ∧ ∃ pin, write = .markRoomGeneration pin uuid := by
  cases write with
  | purgeSession i id roomCode seat => cases seat <;> cases h
  | markRoomGeneration pin stamp =>
    cases may
    cases h
    exact ⟨rfl, pin, rfl⟩
  | _ => cases h

/-- Calls that carry and hold what some call carried and held before. -/
theorem Guarded.calls (inv : Guarded w φs) {ψs : List Phase} (alone : Distinct Phase.uuid? ψs)
    (carried : ∀ ψ ∈ ψs, ∀ uuid, ψ.uuid? = some uuid → ∃ φ ∈ φs, φ.uuid? = some uuid)
    (held : ∀ ψ ∈ ψs, ∀ pin, ψ.pin? = some pin → ∃ φ ∈ φs, φ.pin? = some pin) : Guarded w ψs where
  unused := inv.unused
  carried ψ hψ uuid hu := by
    obtain ⟨φ, hφ, own⟩ := carried ψ hψ uuid hu
    exact inv.carried φ hφ uuid own
  alone := alone
  held ψ hψ pin hp := by
    obtain ⟨φ, hφ, own⟩ := held ψ hψ pin hp
    exact inv.held φ hφ pin own
  reads := inv.reads
  lawful := inv.lawful

theorem Guarded.late (inv : Guarded w φs) (at_i : φs[i]? = some φ) (may : φ.Writes write) :
    Guarded w (φs.set i (φ.after (.write write) none) ++ [Phase.begin (.late write)]) := by
  have mem : φ ∈ φs := List.mem_of_getElem? at_i
  have own : ∀ uuid, (φ.after (.write write) none).uuid? = some uuid →
      φ.uuid? = some uuid ∧ ∀ pin stamp, write ≠ .markRoomGeneration pin stamp := by
    intro uuid h
    rcases after_uuid h with ⟨before, other⟩ | new
    · exact ⟨before, fun pin stamp same => other pin stamp (by rw [same])⟩
    · cases new
  refine inv.calls ?_ ?_ ?_
  · by_cases marks : ∃ pin stamp, write = .markRoomGeneration pin stamp
    · obtain ⟨pin, stamp, rfl⟩ := marks
      refine distinct_handover inv.alone at_i ?_ fun uuid h => (late_uuid may h).1
      cases h : (φ.after (.write (.markRoomGeneration pin stamp)) none).uuid? with
      | none => rfl
      | some uuid => exact absurd rfl ((own uuid h).2 pin stamp)
    · refine distinct_step inv.alone at_i (fun uuid h => (own uuid h).1)
        (distinct_of_length_le_one (Nat.le_refl 1)) ?_
      intro χ hχ uuid h
      cases List.mem_singleton.mp hχ
      obtain ⟨-, pin, same⟩ := late_uuid may h
      exact absurd ⟨pin, uuid, same⟩ marks
  · intro ψ hψ uuid h
    rcases List.mem_append.mp hψ with old | new
    · rcases List.mem_or_eq_of_mem_set old with same | rfl
      · exact ⟨ψ, same, h⟩
      · exact ⟨φ, mem, (own uuid h).1⟩
    · cases List.mem_singleton.mp new
      exact ⟨φ, mem, (late_uuid may h).1⟩
  · intro ψ hψ pin h
    rcases List.mem_append.mp hψ with old | new
    · rcases List.mem_or_eq_of_mem_set old with same | rfl
      · exact ⟨ψ, same, h⟩
      · rcases after_pin h with before | ⟨code, answer⟩
        · exact ⟨φ, mem, before⟩
        · cases answer
    · cases List.mem_singleton.mp new
      exact ⟨φ, mem, late_pin may h⟩

theorem Guarded.minted (inv : Guarded w φs) (at_i : φs[i]? = some φ) :
    Guarded { w with uuids := w.uuids + 1 } (φs.set i (φ.after .randomUUID w.uuids) ++ []) := by
  have mem : φ ∈ φs := List.mem_of_getElem? at_i
  have kept : ∀ uuid, Unspent w uuid → Unspent { w with uuids := w.uuids + 1 } uuid :=
    fun _ unspent => ⟨unspent.stored, unspent.mentioned⟩
  have own : ∀ uuid, (φ.after .randomUUID w.uuids).uuid? = some uuid →
      φ.uuid? = some uuid ∨ uuid = w.uuids := by
    intro uuid h
    rcases after_uuid h with ⟨before, -⟩ | new
    · exact .inl before
    · cases new
      exact .inr rfl
  have fresh : ∀ (j : Nat) χ, φs[j]? = some χ → χ.uuid? ≠ some w.uuids := by
    intro j χ hj hu
    have lt := (inv.carried χ (List.mem_of_getElem? hj) _ hu).1
    exact Nat.lt_irrefl _ lt
  refine ⟨?_, ?_, ?_, ?_, inv.reads, inv.lawful⟩
  · intro uuid le
    exact kept uuid (inv.unused uuid (Nat.le_of_succ_le le))
  · intro χ hχ uuid hu
    rw [List.append_nil] at hχ
    have before : χ ∈ φs ∨ χ = φ.after .randomUUID w.uuids := List.mem_or_eq_of_mem_set hχ
    rcases before with same | rfl
    · obtain ⟨lt, unspent⟩ := inv.carried χ same uuid hu
      exact ⟨Nat.lt_succ_of_lt lt, kept uuid unspent⟩
    · rcases own uuid hu with carried | rfl
      · obtain ⟨lt, unspent⟩ := inv.carried φ mem uuid carried
        exact ⟨Nat.lt_succ_of_lt lt, kept uuid unspent⟩
      · exact ⟨Nat.lt_succ_self _, kept _ (inv.unused _ (Nat.le_refl _))⟩
  · intro j l χ χ' uuid hj hl hu hu'
    rcases getElem?_set_append hj with ⟨rfl, rfl⟩ | ⟨other, old⟩ | ⟨-, none⟩ <;>
      rcases getElem?_set_append hl with ⟨rfl, rfl⟩ | ⟨other', old'⟩ | ⟨-, none'⟩
    · rfl
    · rcases own uuid hu with carried | rfl
      · exact inv.alone _ _ _ _ uuid at_i old' carried hu'
      · exact absurd hu' (fresh l χ' old')
    · cases none'
    · rcases own uuid hu' with carried | rfl
      · exact inv.alone _ _ _ _ uuid old at_i hu carried
      · exact absurd hu (fresh j χ old)
    · exact inv.alone _ _ _ _ uuid old old' hu hu'
    · cases none'
    · cases none
    · cases none
    · cases none
  · intro χ hχ pin hp
    rw [List.append_nil] at hχ
    rcases List.mem_or_eq_of_mem_set hχ with same | rfl
    · exact inv.held χ same pin hp
    · rcases after_pin hp with before | ⟨code, answer⟩
      · exact inv.held φ mem pin before
      · cases answer

theorem Guarded.pinned (inv : Guarded w φs) (at_i : φs[i]? = some φ) (code : Code)
    (here : pin = ⟨code, (w.keys.room code).generation, w.reads⟩) :
    Guarded { w with reads := w.reads + 1, history := .pinned pin :: w.history }
      (φs.set i (φ.after (.getRoomGeneration code) (some pin)) ++ []) := by
  have mem : φ ∈ φs := List.mem_of_getElem? at_i
  have kept : ∀ uuid, Unspent w uuid →
      Unspent { w with reads := w.reads + 1, history := .pinned pin :: w.history } uuid := by
    intro uuid unspent
    refine ⟨unspent.stored, fun e he => ?_⟩
    rcases List.mem_cons.mp he with rfl | old
    · subst here
      exact unspent.stored code
    · exact unspent.mentioned e old
  have own : ∀ uuid, (φ.after (.getRoomGeneration code) (some pin)).uuid? = some uuid →
      φ.uuid? = some uuid := by
    intro uuid h
    rcases after_uuid h with ⟨before, -⟩ | new
    · exact before
    · cases new
  refine ⟨?_, ?_, ?_, ?_, ?_, ?_, inv.lawful⟩
  · exact fun uuid le => kept uuid (inv.unused uuid le)
  · intro χ hχ uuid hu
    rw [List.append_nil] at hχ
    rcases List.mem_or_eq_of_mem_set hχ with same | rfl
    · obtain ⟨lt, unspent⟩ := inv.carried χ same uuid hu
      exact ⟨lt, kept uuid unspent⟩
    · obtain ⟨lt, unspent⟩ := inv.carried φ mem uuid (own uuid hu)
      exact ⟨lt, kept uuid unspent⟩
  · exact distinct_step inv.alone at_i own distinct_nil fun _ h => nomatch h
  · intro χ hχ pin' hp
    have before : Held w pin' →
        Held { w with reads := w.reads + 1, history := .pinned pin :: w.history } pin' :=
      fun held => held.same (fun _ => rfl) (.inr ⟨_, rfl, fun _ _ => rfl, nofun⟩)
    rw [List.append_nil] at hχ
    rcases List.mem_or_eq_of_mem_set hχ with same | rfl
    · exact before (inv.held χ same pin' hp)
    · rcases after_pin hp with old | ⟨c, answer⟩
      · exact before (inv.held φ mem pin' old)
      · cases answer
        refine ⟨[], w.history, rfl, ?_, fun _ _ _ h => nomatch h⟩
        subst here
        rfl
  · intro pin' hp
    rcases List.mem_cons.mp hp with same | old
    · cases same
      subst here
      exact Nat.lt_succ_self _
    · exact Nat.lt_succ_of_lt (inv.reads pin' old)
  · intro pin' hp
    subst here
    exact Nat.ne_of_lt (inv.reads pin' hp)

theorem Guarded.act (inv : Guarded w φs) {c : Cmd} {ch : Choice} {a : c.Ans} {late : List Write}
    (at_i : φs[i]? = some φ) (may : Phase.Permits honest owner φ c)
    (h : exec c ch w = some (a, w', late)) :
    Guarded w' (φs.set i (φ.after c a) ++ late.map fun write => Phase.begin (.late write)) := by
  have mem : φ ∈ φs := List.mem_of_getElem? at_i
  cases exec_did h with
  | read unpinned unminted =>
    have own : ∀ uuid, (φ.after c a).uuid? = some uuid → φ.uuid? = some uuid := by
      intro uuid h
      rcases after_uuid h with ⟨before, -⟩ | new
      · exact before
      · exact absurd new (unminted uuid)
    refine inv.calls (distinct_step inv.alone at_i own distinct_nil fun _ h => nomatch h) ?_ ?_
    · intro ψ hψ uuid h
      rw [List.map_nil, List.append_nil] at hψ
      rcases List.mem_or_eq_of_mem_set hψ with same | rfl
      · exact ⟨ψ, same, h⟩
      · exact ⟨φ, mem, own uuid h⟩
    · intro ψ hψ pin h
      rw [List.map_nil, List.append_nil] at hψ
      rcases List.mem_or_eq_of_mem_set hψ with same | rfl
      · exact ⟨ψ, same, h⟩
      · rcases after_pin h with before | ⟨code, answer⟩
        · exact ⟨φ, mem, before⟩
        · exact absurd answer (unpinned code pin)
  | pinned code => exact inv.pinned at_i code rfl
  | minted => exact inv.minted at_i
  | landed write =>
    refine inv.landed at_i may.2 may.1 (landed_perform w write) ?_ ?_ ?_
    · intro pin h
      rcases after_pin h with before | ⟨code, answer⟩
      · exact before
      · cases answer
    · intro uuid h
      rcases after_uuid h with ⟨before, -⟩ | new
      · exact before
      · cases new
    · rintro pin stamp rfl
      obtain rfl := may.2
      rfl
  | late write => exact inv.late at_i may.2

end Steps

/-! ## Runs -/

/-- A Redis as any history may have left it: every UUID drawn from now on is a fresh one. -/
def Fresh (p : Pool (machine retention)) : Prop :=
  p.calls = [] ∧ p.shared.history = [] ∧
    ∀ code uuid, (p.shared.keys.room code).generation = some (.uuid uuid) → uuid < p.shared.uuids

/-- Anything goes. -/
abbrev anything (retention : Time) : (discipline False (fun _ => 0) retention).Terms where
  start _ _ r := r.entry = true
  act _ _ _ _ _ _ := True
  occur _ _ _ := True

theorem guarded_preserved :
    (discipline False (fun _ => 0) retention).Preserves (anything retention)
      (Req.Vouched False fun _ => 0) Guarded where
  body r vouched := ⟨body_unsettled r, follows_body vouched⟩
  start w φs r inv enters := by
    have bare : (Phase.begin r).uuid? = none ∧ (Phase.begin r).pin? = none ∧
        r.Vouched False fun _ => 0 := by
      cases r with
      | late => cases enters
      | registerSession | markSessionJoinedRoom | markSessionLeftRoom => exact ⟨rfl, rfl, False.elim⟩
      | _ => exact ⟨rfl, rfl, trivial⟩
    refine ⟨bare.2.2, inv.calls (distinct_append inv.alone bare.1) ?_ ?_⟩
    · intro ψ hψ uuid h
      rcases List.mem_append.mp hψ with old | new
      · exact ⟨ψ, old, h⟩
      · cases List.mem_singleton.mp new
        cases bare.1.symm.trans h
    · intro ψ hψ pin h
      rcases List.mem_append.mp hψ with old | new
      · exact ⟨ψ, old, h⟩
      · cases List.mem_singleton.mp new
        cases bare.2.1.symm.trans h
  occur _ _ e := nomatch e
  act w φs i φ c ch a w' spawned inv at_i may _ h := by
    obtain ⟨⟨a', w'', late⟩, done, same⟩ := Option.map_eq_some_iff.mp h
    cases same
    refine ⟨?_, ?_, ?_⟩
    · cases exec_did done with
      | pinned code => rfl
      | minted | landed | late => trivial
      | read unpinned =>
        change Phase.Expects False (fun _ => 0) c a
        unfold Phase.Expects
        split
        · exact False.elim
        · exact absurd rfl (unpinned _ _)
        · trivial
    · intro r hr
      obtain ⟨write, hw, rfl⟩ := List.mem_map.mp hr
      cases exec_did done with
      | late =>
        cases List.mem_singleton.mp hw
        exact may.1
      | _ => cases hw
    · rw [List.map_map]
      exact inv.act at_i may done
  settle w φs i φ r inv at_i _ := by
    have sub : ∀ ψ ∈ φs.set i .free, ψ ∈ φs ∨ ψ = .free := fun _ => List.mem_or_eq_of_mem_set
    refine inv.calls ?_ ?_ ?_
    · have alone : Distinct Phase.uuid? (φs.set i .free ++ []) :=
        distinct_step inv.alone at_i nofun distinct_nil fun _ h => nomatch h
      rwa [List.append_nil] at alone
    · intro ψ hψ uuid h
      rcases sub ψ hψ with old | rfl
      · exact ⟨ψ, old, h⟩
      · cases h
    · intro ψ hψ pin h
      rcases sub ψ hψ with old | rfl
      · exact ⟨ψ, old, h⟩
      · cases h

theorem run_guarded {p q : Pool (machine retention)} (start : Fresh p)
    (run : Run (anything retention).guard p q) : Lawful MayHappen q.shared.history := by
  obtain ⟨conf, none⟩ :=
    Discipline.conforming_of_no_calls (D := discipline False (fun _ => 0) retention) start.1
  have begun : Guarded p.shared ((discipline False (fun _ => 0) retention).phases p) := by
    rw [none]
    obtain ⟨-, empty, drawn⟩ := start
    refine ⟨?_, (fun _ h => nomatch h), distinct_nil, (fun _ h => nomatch h), ?_, ?_⟩
    · intro uuid le
      refine ⟨fun code same => ?_, fun e he => ?_⟩
      · exact Nat.lt_irrefl _ (Nat.lt_of_lt_of_le (drawn code uuid same) le)
      · rw [empty] at he
        cases he
    · intro pin hp
      rw [empty] at hp
      cases hp
    · rw [empty]
      trivial
  exact (Discipline.run_invariant guarded_preserved run conf begun).2.lawful

/-- In every run: a join takes effect only if its code was neither stamped nor torn down since its
pin was read, and a teardown only if no new instance was stamped since its expected generation was
read, or that was the tombstone and the last instance since is torn down again. No two reads are
the same. -/
theorem generations_guard {p q : Pool (machine retention)} (start : Fresh p)
    (run : Run (anything retention).guard p q) :
    (∀ later pin earlier, q.shared.history = later ++ .joined pin :: earlier →
      ∃ mid before, earlier = mid ++ .pinned pin :: before ∧
        (∀ uuid, .stamped pin.code uuid ∉ mid) ∧
          ∀ torn : Pin, torn.code = pin.code → .tornDown torn ∉ mid) ∧
    (∀ later pin earlier, q.shared.history = later ++ .tornDown pin :: earlier →
      ∃ mid before, earlier = mid ++ .pinned pin :: before ∧
        ((∀ uuid, .stamped pin.code uuid ∉ mid) ∨
          pin.value = some ROOM_GENERATION_TOMBSTONE ∧
            since pin.code mid = some ROOM_GENERATION_TOMBSTONE)) ∧
    ∀ later pin earlier, q.shared.history = later ++ .pinned pin :: earlier →
      ∀ pin' : Pin, .pinned pin' ∈ earlier → pin'.read ≠ pin.read := by
  have lawful := run_guarded start run
  have allowed : ∀ later e earlier, q.shared.history = later ++ e :: earlier →
      MayHappen earlier e := by
    intro later e earlier split
    rw [split] at lawful
    exact lawful.allowed
  refine ⟨?_, ?_, ?_⟩
  · intro later pin earlier split
    obtain ⟨mid, before, read, unchanged⟩ := allowed later (.joined pin) earlier split
    exact ⟨mid, before, read, since_eq_none unchanged⟩
  · exact fun later pin earlier split => allowed later (.tornDown pin) earlier split
  · exact fun later pin earlier split => allowed later (.pinned pin) earlier split

/-- One code, torn down once before. -/
abbrev tornDownOnce : Pool (machine 0) where
  shared :=
    { keys :=
        { room := Function.update (fun _ => {}) 7 { generation := some ROOM_GENERATION_TOMBSTONE } } }
  calls := []

theorem tornDownOnce_fresh : Fresh tornDownOnce := by
  refine ⟨rfl, rfl, ?_⟩
  intro code uuid h
  by_cases own : code = 7
  · subst own
    cases h
  · simp only [Function.update_of_ne own] at h
    cases h

/-- The commands of a creation that goes through. -/
abbrev creates (i : Nat) : List (Move (machine 0)) :=
  does i [.time 0, .time 0, .ok, .ok, .answer true, .ok, .ok, .ok]

theorem generations_guard_recycled : ∃ q : Pool (machine 0),
    (.tornDown ⟨7, some (.uuid 0), 2⟩ ∈ q.shared.history ∧
      .joined ⟨7, some (.uuid 0), 1⟩ ∈ q.shared.history) ∧
    (∀ later pin earlier, q.shared.history = later ++ .joined pin :: earlier →
      ∃ mid before, earlier = mid ++ .pinned pin :: before ∧
        (∀ uuid, .stamped pin.code uuid ∉ mid) ∧
          ∀ torn : Pin, torn.code = pin.code → .tornDown torn ∉ mid) ∧
    (∀ later pin earlier, q.shared.history = later ++ .tornDown pin :: earlier →
      ∃ mid before, earlier = mid ++ .pinned pin :: before ∧
        ((∀ uuid, .stamped pin.code uuid ∉ mid) ∨
          pin.value = some ROOM_GENERATION_TOMBSTONE ∧
            since pin.code mid = some ROOM_GENERATION_TOMBSTONE)) ∧
    ∀ later pin earlier, q.shared.history = later ++ .pinned pin :: earlier →
      ∀ pin' : Pin, .pinned pin' ∈ earlier → pin'.read ≠ pin.read := by
  obtain ⟨q, run, seen⟩ := Pool.replay_spec (anything 0).guard tornDownOnce
    ([.start (.createRoom 7)] ++ creates 0 ++ [.start (.markSessionJoinedRoom 3 7 [none])] ++
      does 1 [.ok, .ok, .ok] ++ [.start (.collectRuntimeState 7)] ++
      does 2 [.ok, .answer false, .ok, .ok])
    (fun q => q.shared.history)
    (b := [.tornDown ⟨7, some (.uuid 0), 2⟩, .pinned ⟨7, some (.uuid 0), 3⟩,
      .pinned ⟨7, some (.uuid 0), 2⟩, .joined ⟨7, some (.uuid 0), 1⟩,
      .pinned ⟨7, some (.uuid 0), 1⟩, .stamped 7 0, .pinned ⟨7, some .deleted, 0⟩]) (by rfl)
  refine ⟨q, ?_, generations_guard tornDownOnce_fresh run⟩
  rw [seen]
  simp

/-- A teardown that read the tombstone lands after another instance came and went. -/
theorem teardown_lands_on_tombstone : ∃ q : Pool (machine 0),
    Run (anything 0).guard tornDownOnce q ∧
      ¬ ∀ later pin earlier, q.shared.history = later ++ .tornDown pin :: earlier →
        ∃ mid before, earlier = mid ++ .pinned pin :: before ∧
          ∀ uuid, .stamped pin.code uuid ∉ mid := by
  obtain ⟨q, run, seen⟩ := Pool.replay_spec (anything 0).guard tornDownOnce
    ([.start (.collectRuntimeState 7)] ++ does 0 [.ok, .answer false] ++
      [.start (.createRoom 7)] ++ creates 1 ++ [.start (.collectRuntimeState 7)] ++
      does 2 [.ok, .answer false, .ok, .ok] ++ does 0 [.ok, .ok])
    (fun q => q.shared.history)
    (b := [.tornDown ⟨7, some .deleted, 0⟩, .pinned ⟨7, some .deleted, 4⟩,
      .tornDown ⟨7, some (.uuid 0), 2⟩, .pinned ⟨7, some (.uuid 0), 3⟩,
      .pinned ⟨7, some (.uuid 0), 2⟩, .stamped 7 0, .pinned ⟨7, some .deleted, 1⟩,
      .pinned ⟨7, some .deleted, 0⟩]) (by rfl)
  refine ⟨q, run, fun claim => ?_⟩
  have lawful := run_guarded tornDownOnce_fresh run
  rw [seen] at claim lawful
  obtain ⟨mid, before, split, unstamped⟩ := claim [] _ _ rfl
  have once : ∀ earlier, MayHappen earlier (.pinned ⟨7, some .deleted, 0⟩) →
      .pinned ⟨7, some .deleted, 0⟩ ∉ earlier := fun _ fresh mem => fresh _ mem rfl
  have read : (_ : List Happening) = ([.pinned ⟨7, some .deleted, 4⟩,
      .tornDown ⟨7, some (.uuid 0), 2⟩, .pinned ⟨7, some (.uuid 0), 3⟩,
      .pinned ⟨7, some (.uuid 0), 2⟩, .stamped 7 0, .pinned ⟨7, some .deleted, 1⟩] ++
      .pinned ⟨7, some .deleted, 0⟩ :: [] : List Happening) := rfl
  have last := lawful.2.past_unique once split read
  subst last
  have stamped : .stamped 7 0 ∈ mid ++ [.pinned ⟨7, some .deleted, 0⟩] := by
    rw [← split]
    simp
  exact unstamped 0 (by simpa using stamped)

end BiliSyncPlay.RedisRuntime
