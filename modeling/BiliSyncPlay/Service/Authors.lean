import BiliSyncPlay.Service.Versions

/-!
# Who writes what plays

What a room shares and plays changes in the name of a session that was seated in it, under the
token of its member, or because an admin cleared it.
-/

namespace BiliSyncPlay

open Interleave

section
variable {cfg : Config} {ok : Guard (machine cfg)} {p₀ p q : Pool (machine cfg)}
  {moves : List (Move (machine cfg))} {mv : Move (machine cfg)}

/-- The node's room has the session seated as this member, under this token. -/
def Seats (w : World) (code : Code) (m : MemberId) (s : SessionId) (memberToken : Token) : Prop :=
  ∃ active, (w.runtime.getRoom code w.clock).1 = some active ∧
    active.members.get? m = some s ∧ active.memberTokens.get? m = some memberToken

/-- What a call was told of a session was so. -/
theorem answered_session (path : Path ok p₀ moves p) (idle : p₀.calls = []) {s : SessionId}
    {session : Session} {call : Call (machine cfg)} (mem : call ∈ p.calls)
    (read : ⟨.readSession s, session⟩ ∈ call.hist) :
    Along ok p₀ moves fun _ q _ => q.shared.sessions s = session := by
  apply (path.answered idle call mem _ read).mono
  rintro _ q r ⟨earlier, -, i, ch, spawned, -, -, -, hexec⟩
  exact (Prod.mk.inj (Option.some.inj hexec)).1

theorem answered_room (path : Path ok p₀ moves p) (idle : p₀.calls = []) {code : Code}
    {active : ActiveRoom} {call : Call (machine cfg)} (mem : call ∈ p.calls)
    (read : ⟨.getActiveRoom code, some active⟩ ∈ call.hist) :
    Along ok p₀ moves fun _ q _ =>
      (q.shared.runtime.getRoom code q.shared.clock).1 = some active := by
  apply (path.answered idle call mem _ read).mono
  rintro _ q r ⟨earlier, -, i, ch, spawned, -, -, -, hexec⟩
  exact (Prod.mk.inj (Option.some.inj hexec)).1

/-- A request in the name of a session that, earlier on, held the seat and the token it needs. -/
def Authorized (ok : Guard (machine cfg)) (p₀ : Pool (machine cfg))
    (moves : List (Move (machine cfg))) (req : Req) (code : Code) (actorId : MemberId) : Prop :=
  ∃ s memberToken m, req.bearer? = some (s, memberToken) ∧
    Along ok p₀ moves (fun _ q _ => Seats q.shared code m s memberToken) ∧
    Along ok p₀ moves (fun _ q _ => (q.shared.sessions s).memberId = some m ∧
      (q.shared.sessions s).memberToken = some memberToken) ∧
    Along ok p₀ moves fun _ q _ => (q.shared.sessions s).actor s = actorId

theorem authorized_of_admitted (path : Path ok p₀ moves p) (idle : p₀.calls = [])
    {call : Call (machine cfg)} (mem : call ∈ p.calls) {s : SessionId} {memberToken : Token}
    {code : Code} {actorId : MemberId} (bears : call.req.bearer? = some (s, memberToken))
    (admitted : Admitted call.hist s memberToken code) (acts : ActsAs call.hist s actorId) :
    Authorized ok p₀ moves call.req code actorId := by
  obtain ⟨active, session, m, seated, read, known, holds, seat, token⟩ := admitted
  obtain ⟨actor, acting, rfl⟩ := acts
  refine ⟨s, memberToken, m, bears, ?_, ?_, ?_⟩
  · apply (answered_room path idle mem seated).mono
    intro _ q r here
    exact ⟨active, here, seat, token⟩
  · apply (answered_session path idle mem read).mono
    rintro _ q r rfl
    exact ⟨known, holds⟩
  · apply (answered_session path idle mem acting).mono
    rintro _ q r rfl
    rfl

/-- In every run, whatever else happens in it: when a step changes what a stored room shares or
plays, it lands a write of that room that a call of the run issued, and that call cleared this very
room for an admin and left nothing, or shared or updated in the name of a session that the run had
seated in this room as a member whose token the request bears, and what plays then is stamped with
who that session was at some moment of the run. A room that appears shares and plays nothing. -/
theorem only_members_write (path : Path ok p₀ moves p) (idle : p₀.calls = [])
    (settled : p₀.shared.lateWrites = []) (keyed : p₀.shared.roomStore.Keyed)
    (step : p.step? mv = some q) (code : Code) (room : PersistedRoom)
    (now : q.shared.roomStore.getRoom code = some room) :
    (p.shared.roomStore.getRoom code = none → room.sharedVideo = none ∧ room.playback = none) ∧
    ∀ before, p.shared.roomStore.getRoom code = some before →
      room.sharedVideo ≠ before.sharedVideo ∨ room.playback ≠ before.playback →
      ∃ expected patch, landing? p mv = some (.updateRoom code expected patch) ∧
        room = before.patched patch p.shared.clock ∧
        ∃ call ∈ p.calls, (∃ past, call.Issued past (.updateRoom code expected patch)) ∧
          (((∃ n, call.req = .clearRoomVideo n code) ∧
              room.sharedVideo = none ∧ room.playback = none) ∨
            ∃ playback, room.playback = some playback ∧
              Authorized ok p₀ moves call.req code playback.actorId) := by
  cases step_landed path.run idle settled step code with
  | created _ _ free fresh =>
    cases fresh.symm.trans now
    exact ⟨fun _ => ⟨rfl, rfl⟩, fun before found => nomatch free.symm.trans found⟩
  | moved move =>
    cases move with
      | same still =>
        rw [still] at now
        refine ⟨fun gone => (nomatch now.symm.trans gone), ?_⟩
        rintro before found (changed | changed)
        · cases found.symm.trans now
          exact absurd rfl changed
        · cases found.symm.trans now
          exact absurd rfl changed
      | deleted gone => cases gone.symm.trans now
      | updated lands vouched found passes here =>
        rename_i expected patch old
        cases here.symm.trans now
        refine ⟨fun gone => (nomatch found.symm.trans gone), ?_⟩
        intro before found' changed
        cases found.symm.trans found'
        obtain ⟨call, mem, past, issued, warranted⟩ := vouched
        have suffix := issued.suffix
        refine ⟨expected, patch, lands, rfl, call, mem, ⟨past, issued⟩, ?_⟩
        cases warranted with
        | plain untouched =>
          have untouched : (patch.sharedVideo.isNone && patch.playback.isNone) = true := untouched
          simp only [Bool.and_eq_true, Option.isNone_iff_eq_none] at untouched
          simp [PersistedRoom.patched, untouched] at changed
        | clears clears read =>
          rw [reads_keyed path.run idle settled keyed call mem _ _ (suffix.subset read)]
          exact .inl ⟨⟨_, clears⟩, rfl, rfl⟩
        | shares bears shares admitted taken read acts =>
          right
          refine ⟨_, rfl, ?_⟩
          have same := reads_keyed path.run idle settled keyed call mem _ _ (suffix.subset read)
          rw [same]
          have authorized := authorized_of_admitted path idle mem bears (admitted.mono suffix)
            (acts.mono suffix)
          rwa [sharedPlayback_actorId]
        | updates bears updates admitted taken shown same acts =>
          right
          refine ⟨_, rfl, ?_⟩
          exact authorized_of_admitted path idle mem bears (admitted.mono suffix) (acts.mono suffix)

end

/-- A share up to the write of its video. -/
def sharedUpToWrite : List (Move (machine oneNode)) :=
  .start (shareOf 3 (some (playingAt 0 1))) :: turns oneNode 0 12

theorem share_is_authorized : ∃ (p q : Pool (machine oneNode)) (room : PersistedRoom),
    p.step? (.run 0 .ok) = some q ∧ q.shared.roomStore.getRoom 1 = some room ∧
    ∃ expected patch, landing? p (.run 0 .ok) = some (.updateRoom 1 expected patch) ∧
      ∃ call ∈ p.calls, (∃ past, call.Issued past (.updateRoom 1 expected patch)) ∧
        (((∃ n, call.req = .clearRoomVideo n 1) ∧
            room.sharedVideo = none ∧ room.playback = none) ∨
          ∃ playback, room.playback = some playback ∧
            Authorized (asking fun _ => True) ⟨twoInRoom, []⟩ sharedUpToWrite call.req 1
              playback.actorId) := by
  have ran : ((Pool.replay (asking fun _ => True) ⟨twoInRoom, []⟩ sharedUpToWrite).bind fun p =>
      (p.step? (.run 0 .ok)).bind fun q => (q.shared.roomStore.getRoom 1).map fun room =>
        ((p.shared.roomStore.getRoom 1).map (·.playback), room.playback.isSome)) =
          some (some none, true) := by decide +kernel
  obtain ⟨p, path, ran⟩ := Option.bind_eq_some_iff.mp ran
  obtain ⟨q, step, ran⟩ := Option.bind_eq_some_iff.mp ran
  obtain ⟨room, stored, seen⟩ := Option.map_eq_some_iff.mp ran
  obtain ⟨was, plays⟩ := Prod.mk.inj seen
  obtain ⟨before, found, silent⟩ := Option.map_eq_some_iff.mp was
  have changed : room.playback ≠ before.playback := by
    rw [silent]
    exact Option.isSome_iff_ne_none.mp plays
  obtain ⟨expected, patch, lands, -, author⟩ :=
    (only_members_write (Pool.replay_path path) rfl rfl twoInRoom_unfounded.keyed step 1 room
      stored).2 before found (.inr changed)
  exact ⟨p, q, room, step, stored, expected, patch, lands, author⟩

end BiliSyncPlay
