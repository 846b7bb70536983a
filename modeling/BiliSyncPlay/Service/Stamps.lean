import BiliSyncPlay.Service.AuthorityWindow
import BiliSyncPlay.Service.Versions

/-!
# The order of the server's stamps

An update is stamped after its call read the record its write expects; a share is stamped before
its call reads any. So the stamps of a room go back only where a share lands on a playback that was
stamped after it.
-/

namespace BiliSyncPlay

open Interleave

/-- Neither creates a room nor clears its video. -/
def Req.ordinary (req : Req) : Prop := req.creates = false ∧ req.clears = false

instance : DecidablePred Req.ordinary := fun _ => inferInstanceAs (Decidable (_ ∧ _))

/-- The playback that a request brings. -/
def Req.carries? (req : Req) : Option PlaybackState :=
  match req.share? with
  | some (_, playback) => playback
  | none => req.update?

theorem Req.share?_of_update {req : Req} {playback : PlaybackState}
    (updates : req.update? = some playback) : req.share? = none := by
  cases req with
  | message s message => cases message <;> first | rfl | cases updates
  | _ => first | rfl | cases updates

theorem TakenAfter.of_cons {past : Past} {entry : (c : Cmd) × c.Ans} {room : PersistedRoom}
    {time : Time} (h : TakenAfter (entry :: past) room time) :
    TakenAfter past room time ∨ entry = ⟨.now, time⟩ ∧ WasRead past room := by
  obtain ⟨newer, earlier, asked, split, mem⟩ := h
  cases newer with
  | nil => cases mem
  | cons first newer =>
    obtain ⟨rfl, rfl⟩ := List.cons.inj split
    rcases List.mem_cons.mp mem with now | later
    · exact .inr ⟨now.symm, asked, by simp⟩
    · exact .inl ⟨newer, earlier, asked, rfl, later⟩

section
variable {cfg : Config} {p₀ p q : Pool (machine cfg)} {mv : Move (machine cfg)}

/-- What a move brings of a share: where to, what it expects there, and the playback. -/
def shareLanding? (p : Pool (machine cfg)) (mv : Move (machine cfg)) :
    Option (Code × RoomUpdateGuard × PlaybackState) :=
  match landing? p mv with
  | some (.updateRoom code expected patch) =>
    match patch.sharedVideo, patch.playback with
    | some (some _), some (some next) => some (code, expected, next)
    | _, _ => none
  | _ => none

/-- No share lands on a playback that was stamped after it. -/
def sharesInTime (p : Pool (machine cfg)) (mv : Move (machine cfg)) : Bool :=
  match shareLanding? p mv with
  | some (code, expected, next) => (p.shared.roomStore.getRoom code).all fun room =>
    (expected.refusal room).isSome ||
      room.playback.all fun stored => stored.serverTime ≤ next.serverTime
  | none => true

/-- Shares and updates, beside whatever else neither creates rooms nor clears them, in time. -/
def inTime : Guard (machine cfg) := fun p mv => asking Req.ordinary p mv ∧ sharesInTime p mv = true

instance (p : Pool (machine cfg)) (mv : Move (machine cfg)) : Decidable (inTime p mv) :=
  inferInstanceAs (Decidable (_ ∧ _))

theorem step_clock (step : p.step? mv = some q) : p.shared.clock ≤ q.shared.clock := by
  cases mv with
  | start r => cases step; exact le_rfl
  | event e =>
    simp only [Pool.step?, Option.map_eq_some_iff] at step
    obtain ⟨w, happened, rfl⟩ := step
    exact (occur_reckoned happened 0 0).1
  | run i ch =>
    obtain ⟨call, c, k, a, w, spawned, -, -, hexec, rfl⟩ := Discipline.run?_cases step
    exact Nat.le_of_eq (exec_reckoned hexec 0 0).1.symm

/-- Stamps are readings of the clock, and a call that read a record and then the clock read a
later time than the record's stamp. -/
structure Stamped (p : Pool (machine cfg)) : Prop where
  taken : ∀ call ∈ p.calls, ∀ t, ⟨.now, t⟩ ∈ call.hist → t ≤ p.shared.clock
  stored : ∀ code room, p.shared.roomStore.getRoom code = some room →
    ∀ P, room.playback = some P → P.serverTime ≤ p.shared.clock
  read : ∀ call ∈ p.calls, ∀ access, WasRead call.hist access →
    ∀ P, access.playback = some P → P.serverTime ≤ p.shared.clock
  after : ∀ call ∈ p.calls, ∀ access t, TakenAfter call.hist access t →
    ∀ P, access.playback = some P → P.serverTime ≤ t

/-- A warranted write of a playback stamps it with a time its call has taken. -/
theorem stamp_of_warranted {req : Req} {past : Past} {code : Code} {expected : RoomUpdateGuard}
    {patch : PersistedRoomPatch}
    (warranted : Warranted cfg req past (.updateRoom code expected patch)) {next : PlaybackState}
    (writes : patch.playback = some (some next)) : ⟨.now, next.serverTime⟩ ∈ past := by
  cases warranted with
  | plain untouched =>
    have untouched : (patch.sharedVideo.isNone && patch.playback.isNone) = true := untouched
    simp [writes] at untouched
  | clears => cases writes
  | shares bears shares admitted taken =>
    cases writes
    rwa [sharedPlayback_serverTime]
  | updates bears updates admitted taken =>
    cases writes
    obtain ⟨newer, earlier, asked, rfl, mem⟩ := taken
    exact List.mem_append_left _ mem

theorem Stamped.step (h : Stamped p) (moved : ∀ code, RecordMove cfg p mv q code)
    (step : p.step? mv = some q) : Stamped q := by
  have clock := step_clock step
  refine ⟨?_, ?_, ?_, ?_⟩
  · intro call mem t took
    rcases Pool.call_of_step step mem with old | fresh | ⟨own, own_mem, c, a, -, grown, did⟩
    · exact (h.taken call old t took).trans clock
    · simp [fresh] at took
    · rw [grown] at took
      rcases List.mem_cons.mp took with now | earlier
      · cases now
        obtain ⟨i, ch, spawned, -, -, -, hexec⟩ := did
        exact (Nat.le_of_eq (Prod.mk.inj (Option.some.inj hexec)).1.symm).trans clock
      · exact (h.taken own own_mem t earlier).trans clock
  · intro code room found P plays
    cases moved code with
    | same still => exact (h.stored code room (still ▸ found) P plays).trans clock
    | deleted gone => cases gone.symm.trans found
    | updated lands vouched was passes now =>
      rename_i expected patch old
      cases now.symm.trans found
      obtain ⟨call, mem, past, issued, warranted⟩ := vouched
      cases written : patch.playback with
      | none =>
        simp only [PersistedRoom.patched, written, Option.getD_none] at plays
        exact (h.stored code old was P plays).trans clock
      | some next =>
        simp only [PersistedRoom.patched, written, Option.getD_some] at plays
        subst plays
        have took := stamp_of_warranted warranted written
        exact (h.taken call mem _ (issued.suffix.subset took)).trans clock
  · rintro call mem access ⟨asked, read⟩ P plays
    rcases Pool.call_of_step step mem with old | fresh | ⟨own, own_mem, c, a, -, grown, did⟩
    · exact (h.read call old access ⟨asked, read⟩ P plays).trans clock
    · simp [fresh] at read
    · rw [grown] at read
      rcases List.mem_cons.mp read with now | earlier
      · cases now
        exact (h.stored asked access (stored_of_performs did) P plays).trans clock
      · exact (h.read own own_mem access ⟨asked, earlier⟩ P plays).trans clock
  · intro call mem access t took P plays
    rcases Pool.call_of_step step mem with old | fresh | ⟨own, own_mem, c, a, -, grown, did⟩
    · exact h.after call old access t took P plays
    · obtain ⟨newer, earlier, asked, split, -⟩ := took
      simp [fresh] at split
    · rw [grown] at took
      rcases took.of_cons with earlier | ⟨now, read⟩
      · exact h.after own own_mem access t earlier P plays
      · cases now
        obtain ⟨i, ch, spawned, -, -, -, hexec⟩ := did
        have same : p.shared.clock = t := (Prod.mk.inj (Option.some.inj hexec)).1
        exact same ▸ h.read own own_mem access read P plays

/-- Nothing is under way, and what plays was stamped by the clock. -/
structure ClockStamped (p₀ : Pool (machine cfg)) : Prop where
  idle : p₀.calls = []
  settled : p₀.shared.lateWrites = []
  keyed : p₀.shared.roomStore.Keyed
  stored : ∀ code room, p₀.shared.roomStore.getRoom code = some room →
    ∀ P, room.playback = some P → P.serverTime ≤ p₀.shared.clock

theorem ClockStamped.unfounded (start : ClockStamped p₀) : Unfounded Req.ordinary p₀ where
  requests _ ordinary := ordinary.1
  effects _ _ _ := ⟨rfl, rfl⟩
  idle := start.idle
  settled := start.settled
  keyed := start.keyed

theorem run_stamped (start : ClockStamped p₀) (run : Run (asking Req.ordinary) p₀ p) :
    Stamped p := by
  induction run with
  | refl =>
    refine ⟨?_, start.stored, ?_, ?_⟩ <;> simp [start.idle]
  | step mv run allowed step ih =>
    exact ih.step (step_moved start.unfounded run step) step

/-- Versions rise and stamps do not fall. -/
def IsLater (earlier later : PersistedRoom) : Prop :=
  later = earlier ∨ earlier.version < later.version ∧
    ∀ P, earlier.playback = some P → ∃ Q, later.playback = some Q ∧ P.serverTime ≤ Q.serverTime

theorem IsLater.trans {a b c : PersistedRoom} (h : IsLater a b) (h' : IsLater b c) :
    IsLater a c := by
  rcases h with rfl | ⟨newer, stamps⟩
  · exact h'
  · rcases h' with rfl | ⟨newer', stamps'⟩
    · exact .inr ⟨newer, stamps⟩
    · right
      refine ⟨newer.trans newer', ?_⟩
      intro P plays
      obtain ⟨Q, plays, le⟩ := stamps P plays
      obtain ⟨R, plays, le'⟩ := stamps' Q plays
      exact ⟨R, plays, le.trans le'⟩

/-- One step takes a room's record no further back. -/
theorem step_later (start : ClockStamped p₀) (run : Run (asking Req.ordinary) p₀ p)
    (inTime : sharesInTime p mv = true) (step : p.step? mv = some q) {code : Code}
    {room later : PersistedRoom} (found : p.shared.roomStore.getRoom code = some room)
    (now : q.shared.roomStore.getRoom code = some later) : IsLater room later := by
  cases step_moved start.unfounded run step code with
  | same still => exact .inl (Option.some.inj (now.symm.trans (still.trans found)))
  | deleted gone => cases gone.symm.trans now
  | updated lands vouched found' passes here =>
    rename_i expected patch old
    cases found.symm.trans found'
    cases here.symm.trans now
    refine .inr ⟨Nat.lt_succ_self _, ?_⟩
    intro P plays
    obtain ⟨call, mem, past, issued, warranted⟩ := vouched
    have ordinary := calls_asked start.idle start.unfounded.effects run call mem
    cases warranted with
    | plain untouched =>
      have untouched : (patch.sharedVideo.isNone && patch.playback.isNone) = true := untouched
      simp only [Bool.and_eq_true, Option.isNone_iff_eq_none] at untouched
      exact ⟨P, by simp [PersistedRoom.patched, untouched, plays], le_rfl⟩
    | clears clears =>
      rw [clears] at ordinary
      cases ordinary.2
    | shares =>
      refine ⟨_, rfl, ?_⟩
      simpa [sharesInTime, shareLanding?, lands, found, passes, plays] using inTime
    | updates bears updates admitted taken shown same acts =>
      rename_i access shared playback actorId takenAt
      have read := taken.read.mono issued.suffix
      have known := told_known start.unfounded run call mem access (.inl read)
      cases known.current found (refusal_version_eq_none.mp passes)
      refine ⟨_, rfl, ?_⟩
      exact (run_stamped start run).after call mem room takenAt (taken.mono issued.suffix) P plays

/-- Once a record is gone nobody makes another, and each record is later than those before. -/
theorem run_later (start : ClockStamped p₀) (before : Run inTime p₀ p) (after : Run inTime p q)
    {code : Code} :
    (p.shared.roomStore.getRoom code = none → q.shared.roomStore.getRoom code = none) ∧
    ∀ room, p.shared.roomStore.getRoom code = some room → ∀ later,
      q.shared.roomStore.getRoom code = some later → IsLater room later := by
  induction after with
  | refl =>
    refine ⟨id, ?_⟩
    intro room found later now
    exact .inl (Option.some.inj (now.symm.trans found))
  | step mv after allowed step ih =>
    rename_i q r
    have run := (before.trans after).mono fun _ _ => And.left
    constructor
    · intro gone
      have gone := ih.1 gone
      cases step_moved start.unfounded run step code with
      | same still => rw [still, gone]
      | updated lands vouched found => cases gone.symm.trans found
      | deleted now => exact now
    · intro room found later now
      cases between : q.shared.roomStore.getRoom code with
      | none =>
        cases step_moved start.unfounded run step code with
        | same still => cases (still.trans between).symm.trans now
        | updated lands vouched found => cases between.symm.trans found
        | deleted gone => cases gone.symm.trans now
      | some middle =>
        have earlier := ih.2 room found middle between
        exact earlier.trans (step_later start run allowed.2 step between now)

/-- A call of this request wrote this playback. -/
def Wrote (p : Pool (machine cfg)) (req : Req) (playback : PlaybackState) : Prop :=
  ∃ call ∈ p.calls, call.req = req ∧ ∃ code expected patch answer,
    ⟨.updateRoom code expected patch, answer⟩ ∈ call.hist ∧ patch.playback = some (some playback)

/-- A playback keeps the number that its request brought. -/
theorem seq_of_wrote (genuine : p.Genuine) {req : Req} {playback brought : PlaybackState}
    (wrote : Wrote p req playback) (carries : req.carries? = some brought) :
    playback.seq = brought.seq := by
  obtain ⟨call, mem, rfl, code, expected, patch, answer, entry, writes⟩ := wrote
  have permitted := (genuine call mem).permitted (body_warranted cfg call.req) _ entry
  obtain ⟨past, -, warranted⟩ := permitted
  cases warranted with
  | plain untouched =>
    have untouched : (patch.sharedVideo.isNone && patch.playback.isNone) = true := untouched
    simp [writes] at untouched
  | clears => cases writes
  | shares bears shares =>
    cases writes
    simp only [Req.carries?, shares] at carries
    rw [carries]
    rfl
  | updates bears updates =>
    cases writes
    simp only [Req.carries?, Req.share?_of_update updates, updates, Option.some.injEq] at carries
    rw [← carries]
    rfl

/-- In every run of shares and updates, from any sessions, beside everything else that neither
creates rooms nor clears them, in which no share lands on a playback stamped after it: what plays
at a later version of a room is stamped no earlier than what played before, and where requests
brought the two under rising numbers, the pair of stamp and number has risen. -/
theorem stamps_order_playback (start : ClockStamped p₀) (before : Run inTime p₀ p)
    (after : Run inTime p q) {code : Code} {room later : PersistedRoom} {P Q : PlaybackState}
    (found : p.shared.roomStore.getRoom code = some room)
    (now : q.shared.roomStore.getRoom code = some later) (newer : room.version < later.version)
    (played : room.playback = some P) (plays : later.playback = some Q) :
    P.serverTime ≤ Q.serverTime ∧
    ∀ r r' c d, Wrote p r P → Wrote q r' Q → r.carries? = some c → r'.carries? = some d →
      c.seq < d.seq →
      P.serverTime < Q.serverTime ∨ P.serverTime = Q.serverTime ∧ P.seq < Q.seq := by
  have stamps : P.serverTime ≤ Q.serverTime := by
    rcases (run_later start before after).2 room found later now with rfl | ⟨-, stamps⟩
    · exact absurd newer (Nat.lt_irrefl _)
    · obtain ⟨Q', plays', le⟩ := stamps P played
      cases plays.symm.trans plays'
      exact le
  refine ⟨stamps, ?_⟩
  intro r r' c d wrote wrote' carries carries' rising
  have genuine := Discipline.run_genuine before (Discipline.genuine_of_no_calls start.idle)
  have genuine' := Discipline.run_genuine after genuine
  rw [seq_of_wrote genuine wrote carries, seq_of_wrote genuine' wrote' carries']
  rcases Nat.lt_or_eq_of_le stamps with lt | same
  · exact .inl lt
  · exact .inr ⟨same, rising⟩

end

/-- A share of member 3 to its end, and seven ticks later an update of it. -/
def updatedOnce : List (Move (machine oneNode)) :=
  .start (shareOf 3 (some (playingAt 0 1))) :: turns oneNode 0 15 ++
    .event (.tick 7) :: .start (.updatePlayback 3 9 (playingAt 5 2)) :: turns oneNode 1 13

/-- One more update, at the same time. -/
def updatedAgain : List (Move (machine oneNode)) :=
  .start (.updatePlayback 3 9 (playingAt 6 3)) :: turns oneNode 2 13

theorem twoInRoom_stamped : ClockStamped (⟨twoInRoom, []⟩ : Pool (machine oneNode)) where
  idle := rfl
  settled := rfl
  keyed := twoInRoom_unfounded.keyed
  stored := twoInRoom_room
    (P := fun _ room => ∀ P, room.playback = some P → P.serverTime ≤ 0) fun _ plays => nomatch plays

def wroteIn (p : Pool (machine oneNode)) (req : Req) (playback : PlaybackState) : Bool :=
  p.calls.any fun call => decide (call.req = req) && call.hist.any fun
    | ⟨.updateRoom _ _ patch, _⟩ => decide (patch.playback = some (some playback))
    | _ => false

theorem wrote_of_wroteIn {p : Pool (machine oneNode)} {req : Req} {playback : PlaybackState}
    (wrote : wroteIn p req playback = true) : Wrote p req playback := by
  obtain ⟨call, mem, holds⟩ := List.any_eq_true.mp wrote
  obtain ⟨own, written⟩ := Bool.and_eq_true_iff.mp holds
  obtain ⟨⟨c, answer⟩, entry, writes⟩ := List.any_eq_true.mp written
  cases c with
  | updateRoom code expected patch =>
    exact ⟨call, mem, of_decide_eq_true own, code, expected, patch, answer, entry,
      of_decide_eq_true writes⟩
  | _ => cases writes

/-- Two updates of the sharer that are stamped alike are told apart by their numbers. -/
theorem sharer_updates_in_order : ∃ (p q : Pool (machine oneNode)) (P Q : PlaybackState),
    Wrote p (.updatePlayback 3 9 (playingAt 5 2)) P ∧
    Wrote q (.updatePlayback 3 9 (playingAt 6 3)) Q ∧ (P.serverTime, Q.serverTime) = (7, 7) ∧
    (P.serverTime < Q.serverTime ∨ P.serverTime = Q.serverTime ∧ P.seq < Q.seq) := by
  let first : PlaybackState := { playingAt 5 2 with serverTime := 7, actorId := 3 }
  let second : PlaybackState := { playingAt 6 3 with serverTime := 7, actorId := 3 }
  have ran : (Pool.replay inTime ⟨twoInRoom, []⟩ updatedOnce).any (fun p =>
      wroteIn p (.updatePlayback 3 9 (playingAt 5 2)) first &&
      (p.replay inTime updatedAgain).any fun q =>
        wroteIn q (.updatePlayback 3 9 (playingAt 6 3)) second &&
        (p.shared.roomStore.getRoom 1).any fun room =>
          (q.shared.roomStore.getRoom 1).any fun later => decide (room.version < later.version ∧
            room.playback = some first ∧ later.playback = some second)) = true := by
    decide +kernel
  obtain ⟨p, before, holds⟩ := (Option.any_eq_true ..).mp ran
  obtain ⟨wrote, holds⟩ := Bool.and_eq_true_iff.mp holds
  obtain ⟨q, after, holds⟩ := (Option.any_eq_true ..).mp holds
  obtain ⟨wrote', holds⟩ := Bool.and_eq_true_iff.mp holds
  obtain ⟨room, found, holds⟩ := (Option.any_eq_true ..).mp holds
  obtain ⟨later, now, holds⟩ := (Option.any_eq_true ..).mp holds
  obtain ⟨newer, played, plays⟩ := of_decide_eq_true holds
  have wrote := wrote_of_wroteIn wrote
  have wrote' := wrote_of_wroteIn wrote'
  exact ⟨p, q, first, second, wrote, wrote', rfl, (stamps_order_playback twoInRoom_stamped
    (Pool.replay_run _ before) (Pool.replay_run _ after) found now newer played plays).2 _ _ _ _
    wrote wrote' rfl rfl (by decide)⟩

end BiliSyncPlay
