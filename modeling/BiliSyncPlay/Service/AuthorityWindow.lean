import BiliSyncPlay.Service.Warrants
import BiliSyncPlay.Service.Steps
import BiliSyncPlay.Service.Served

/-!
# No rolling veto

The window in which a room's updates may be turned away opens with an earned record and closes
by the clock alone. Nothing else that happens to a node moves it.
-/

namespace BiliSyncPlay

open Interleave

/-! ## What moves a window -/

namespace World

variable {w w' : World} {n m : NodeId} {code : Code}

/-- The authority that still stands. -/
def openAuthority (w : World) (n : NodeId) (code : Code) : Option PlaybackAuthority :=
  (w.getPlaybackAuthority n code).1

/-- A sweep drops the entries it finds dead, and no others. -/
theorem get?_swept {authorities : JsMap Code PlaybackAuthority} {now : Time} {code : Code} :
    (authorities.entries.foldl (fun m e => if e.2.until_ ≤ now then m.delete e.1 else m)
      authorities).get? code = (authorities.get? code).filter fun a => now < a.until_ := by
  have dead : authorities.entries.foldl
      (fun m e => if e.2.until_ ≤ now then m.delete e.1 else m) authorities =
      ((authorities.entries.filter fun e => e.2.until_ ≤ now).map Prod.fst).foldl JsMap.delete
        authorities := by
    simp [List.foldl_map, List.foldl_filter]
  have gone : code ∈ (authorities.entries.filter fun e => e.2.until_ ≤ now).map Prod.fst ↔
      ∃ a, authorities.get? code = some a ∧ a.until_ ≤ now := by
    simp [List.mem_map, List.mem_filter, JsMap.mem_entries_iff]
  rw [dead, JsMap.get?_foldl_delete]
  cases stands : authorities.get? code with
  | none => simp
  | some a =>
    by_cases past : a.until_ ≤ now
    · rw [if_pos (gone.mpr ⟨a, stands, past⟩)]
      simp [Option.filter, past]
    · rw [if_neg fun mem => by
        obtain ⟨a', same, past'⟩ := gone.mp mem
        cases stands.symm.trans same
        exact past past']
      simp [Option.filter, Nat.lt_of_not_le past]

theorem openAuthority_eq : w.openAuthority n code =
    ((w.nodes n).playbackAuthorityByRoom.get? code).filter fun a => w.clock < a.until_ := by
  unfold openAuthority getPlaybackAuthority
  dsimp only
  cases stands : (w.nodes n).playbackAuthorityByRoom.get? code with
  | none => rfl
  | some a =>
    by_cases past : a.until_ ≤ w.clock
    · simp [Option.filter, past]
    · simp [Option.filter, past, Nat.lt_of_not_le past]

theorem openAuthority_setNode {node : Node} : (w.setNode m node).openAuthority n code =
    ((if n = m then node else w.nodes n).playbackAuthorityByRoom.get? code).filter
      fun a => w.clock < a.until_ := openAuthority_eq

theorem open_of_openAuthority {a : PlaybackAuthority} (h : w.openAuthority n code = some a) :
    w.clock < a.until_ := by
  rw [openAuthority_eq, Option.filter_eq_some_iff] at h
  simpa using h.2

end World

/-- What a node's windows are read off. -/
def windowsOf (n : NodeId) : Part (Time × JsMap Code PlaybackAuthority) :=
  ⟨fun w => (w.clock, (w.nodes n).playbackAuthorityByRoom), fun _ _ => rfl⟩

theorem openAuthority_frame {w w' : World} {n : NodeId}
    (same : (windowsOf n).of w' = (windowsOf n).of w) (code : Code) :
    w'.openAuthority n code = w.openAuthority n code := by
  obtain ⟨clock, windows⟩ := Prod.mk.inj same
  rw [World.openAuthority_eq, World.openAuthority_eq, clock, windows]

theorem windows_setNode {w w' : World} {n m : NodeId} {node : Node}
    (clock : w'.clock = w.clock) (nodes : w'.nodes n = if n = m then node else w.nodes n)
    (same : node.playbackAuthorityByRoom = (w.nodes m).playbackAuthorityByRoom) :
    (windowsOf n).of w' = (windowsOf n).of w := by
  simp only [windowsOf, clock, nodes]
  split
  · rename_i own
    rw [same, own]
  · rfl

/-- The commands that touch the authorities. -/
def Cmd.reckons : Cmd → Bool
  | .recordPlaybackAuthority .. | .getPlaybackAuthority .. => true
  | _ => false

theorem exec_windows {cfg : Config} {c : Cmd} {ch : Choice} {w w' : World} {a : c.Ans}
    {rs : List Req} (h : exec cfg c ch w = some (a, w', rs)) (hc : c.reckons = false)
    (n : NodeId) : (windowsOf n).of w' = (windowsOf n).of w := by
  cases c with
  | recordPlaybackAuthority | getPlaybackAuthority => cases hc
  | awaitEffect => obtain ⟨-, effects, rfl⟩ := awaitEffect_cases h; rfl
  | acquireDistributedJoinLock => exact (acquireJoinLock_frame (windowsOf n) h fun _ _ => rfl).1
  | createRoom => exact (createRoom_frame (windowsOf n) (fun _ _ => rfl) h).1
  | updateRoom => exact (updateRoom_frame (windowsOf n) (fun _ _ => rfl) h).1
  | nextRoomCode => cases ch <;> cases h; rfl
  | awaitJoinTurn => simp only [exec] at h; split at h <;> cases h; rfl
  | enterJoinQueue | leaveJoinQueue | settleExpiredRoomCollection | forgetRuntimeTeardownDebt =>
    cases h
    exact windows_setNode rfl (World.setNode_nodes ..) rfl
  | getOrStartExpiredRoomCollection =>
    simp only [exec, answer] at h
    split at h <;> cases h
    · rfl
    · exact windows_setNode rfl (World.setNode_nodes ..) rfl
  | rememberRuntimeTeardownDebt =>
    simp only [exec, answer] at h
    split at h <;> cases h
    · rfl
    · exact windows_setNode rfl (World.setNode_nodes ..) rfl
  | startRuntimeTeardownEffect =>
    simp only [exec, World.startRuntimeTeardownEffect] at h
    split at h <;> cases h
    · rfl
    · exact windows_setNode rfl (World.setNode_nodes ..) rfl
  | settleRuntimeTeardown m code g id result =>
    cases h
    refine windows_setNode ?_ (World.settleRuntimeTeardown_nodes ..) rfl
    unfold World.settleRuntimeTeardown
    dsimp only
    split <;> rfl
  | setSessionDisplayName s name =>
    simp only [exec, answer, Option.some.injEq, Prod.mk.injEq] at h
    rw [← h.2.1]
    unfold World.setSessionDisplayName
    dsimp only
    split <;> rfl
  | decrementConnectionCount s => cases h; cases cfg.addressOf s <;> rfl
  | markSessionJoinedRoom | markSessionLeftRoom =>
    simp only [exec] at h
    refine call_frame (windowsOf n) h ?_
    simp only [World.markSessionJoinedRoom, World.markSessionLeftRoom]
    split <;> rfl
  | _ =>
    simp only [exec] at h
    first
    | (cases h; rfl)
    | exact call_frame (windowsOf n) h rfl
    | exact attempt_frame (windowsOf n) h rfl

/-- What a command did to the window of a room. -/
inductive Reckoned (w w' : World) (n : NodeId) (code : Code) : Cmd → Prop where
  | same {c : Cmd} (still : w'.openAuthority n code = w.openAuthority n code) :
    Reckoned w w' n code c
  | recorded {actorId : MemberId} {kind : PlaybackAuthorityKind}
      {source : PlaybackAuthoritySource}
      (now : w'.openAuthority n code =
        some ⟨actorId, w.clock + PLAYBACK_AUTHORITY_WINDOW_MS, kind, source⟩) :
    Reckoned w w' n code (.recordPlaybackAuthority n code actorId kind source)

theorem sweep_windows (w : World) (n m : NodeId) (code : Code) :
    (w.sweepExpiredPlaybackAuthorities m).clock = w.clock ∧
      (w.sweepExpiredPlaybackAuthorities m).openAuthority n code = w.openAuthority n code := by
  unfold World.sweepExpiredPlaybackAuthorities
  dsimp only
  split
  · exact ⟨rfl, rfl⟩
  · refine ⟨rfl, ?_⟩
    rw [World.openAuthority_setNode, World.openAuthority_eq]
    by_cases own : n = m
    · subst own
      rw [if_pos rfl, World.get?_swept, Option.filter_filter]
      simp only [Bool.and_self]
    · rw [if_neg own]

theorem exec_reckoned {cfg : Config} {c : Cmd} {ch : Choice} {w w' : World} {a : c.Ans}
    {rs : List Req} (h : exec cfg c ch w = some (a, w', rs)) (n : NodeId) (code : Code) :
    w'.clock = w.clock ∧ Reckoned w w' n code c := by
  cases c with
  | getPlaybackAuthority m other =>
    simp only [exec, answer, Option.some.injEq, Prod.mk.injEq] at h
    rw [← h.2.1]
    unfold World.getPlaybackAuthority
    dsimp only
    split
    · exact ⟨rfl, .same rfl⟩
    · rename_i authority stands
      split
      · rename_i past
        refine ⟨rfl, .same ?_⟩
        rw [World.openAuthority_setNode, World.openAuthority_eq]
        by_cases own : n = m
        · subst own
          rw [if_pos rfl]
          dsimp only
          by_cases same : other = code
          · subst same
            simp [stands, Option.filter, past]
          · rw [JsMap.get?_delete_ne _ same]
        · rw [if_neg own]
      · exact ⟨rfl, .same rfl⟩
  | recordPlaybackAuthority m other actorId kind source =>
    cases h
    have swept := sweep_windows w n m code
    refine ⟨swept.1, ?_⟩
    unfold World.recordPlaybackAuthority
    dsimp only
    generalize w.sweepExpiredPlaybackAuthorities m = v at swept
    by_cases own : n = m
    · subst own
      by_cases same : other = code
      · subst same
        apply Reckoned.recorded
        rw [World.openAuthority_setNode, if_pos rfl]
        simp [Option.filter, swept.1, PLAYBACK_AUTHORITY_WINDOW_MS]
      · apply Reckoned.same
        rw [World.openAuthority_setNode, if_pos rfl, ← swept.2, World.openAuthority_eq]
        dsimp only
        rw [JsMap.get?_set_ne _ _ same]
    · apply Reckoned.same
      rw [World.openAuthority_setNode, if_neg own, ← swept.2, World.openAuthority_eq]
  | _ =>
    have frame := exec_windows h rfl n
    exact ⟨congrArg Prod.fst frame, .same (openAuthority_frame frame code)⟩

theorem occur_windows {e : Event} {w w' : World} (h : occur e w = some w') (n : NodeId) :
    (windowsOf n).of w' = (windowsOf n).of w ∨
      ∃ elapsed, e = .tick elapsed ∧ w' = { w with clock := w.clock + elapsed } := by
  cases e with
  | tick elapsed => cases h; exact .inr ⟨elapsed, rfl, rfl⟩
  | closeSocket | orphan => cases h; exact .inl rfl
  | beginShutdown m =>
    cases h
    exact .inl (windows_setNode rfl (World.setNode_nodes ..) rfl)
  | land i =>
    simp only [occur, Option.map_eq_some_iff] at h
    obtain ⟨l, -, rfl⟩ := h
    cases l with
    | create input => dsimp only; split <;> exact .inl rfl
    | update | mark => exact .inl rfl

/-- An event closes a window at most, and only by letting time pass. -/
theorem occur_reckoned {e : Event} {w w' : World} (h : occur e w = some w') (n : NodeId)
    (code : Code) : w.clock ≤ w'.clock ∧ (w'.openAuthority n code = w.openAuthority n code ∨
      (w'.openAuthority n code = none ∧ ∃ elapsed, e = .tick elapsed)) := by
  rcases occur_windows h n with same | ⟨elapsed, rfl, rfl⟩
  · have clock := congrArg Prod.fst same
    exact ⟨Nat.le_of_eq clock.symm, .inl (openAuthority_frame same code)⟩
  · refine ⟨Nat.le_add_right .., ?_⟩
    rw [World.openAuthority_eq, World.openAuthority_eq]
    dsimp only
    cases (w.nodes n).playbackAuthorityByRoom.get? code with
    | none => exact .inl rfl
    | some a =>
      by_cases past : a.until_ ≤ w.clock + elapsed
      · exact .inr ⟨by simp [Option.filter, past], elapsed, rfl⟩
      · left
        have stands := Nat.lt_of_not_le past
        have stood := Nat.lt_of_le_of_lt (Nat.le_add_right w.clock elapsed) stands
        simp [Option.filter, stands, stood]

/-! ## What opens a window -/

variable {cfg : Config} {ok : Guard (machine cfg)} {p₀ p q : Pool (machine cfg)}
  {moves : List (Move (machine cfg))}

/-- In this step the store answers a call of the request with the record that holds `next`. -/
def Persists (req : Req) (code : Code) (next : PlaybackState) (room : PersistedRoom)
    (q r : Pool (machine cfg)) : Prop :=
  ∃ call expected patch, call.req = req ∧
    q.Performs r call (.updateRoom code expected patch) (.ok (.ok room)) ∧
    patch.playback = some (some next) ∧ r.shared.roomStore.getRoom code = some room ∧
    room.playback = some next

/-- In this step a call records the authority, for a write it made that earned it and that an
earlier move persisted. -/
def ClaimsWindow (ok : Guard (machine cfg)) (p₀ : Pool (machine cfg)) (n : NodeId) (code : Code)
    (a : PlaybackAuthority) (before : List (Move (machine cfg))) (q r : Pool (machine cfg)) :
    Prop :=
  ∃ call next room,
    q.Performs r call (.recordPlaybackAuthority n code next.actorId a.kind a.source) () ∧
    a.actorId = next.actorId ∧ a.until_ = q.shared.clock + PLAYBACK_AUTHORITY_WINDOW_MS ∧
    EarnsAuthority n code next room a.kind a.source call.hist ∧
    Along ok p₀ before fun _ => Persists call.req code next room

theorem EarnsAuthority.written {n : NodeId} {code : Code} {next : PlaybackState}
    {room : PersistedRoom}
    {kind : PlaybackAuthorityKind} {source : PlaybackAuthoritySource} {past : Past}
    (h : EarnsAuthority n code next room kind source past) : ∃ expected patch,
      patch.playback = some (some next) ∧
      ⟨.updateRoom code expected patch, .ok (.ok room)⟩ ∈ past := by
  cases h with
  | share | update => exact ⟨_, _, rfl, List.mem_cons_self⟩

/-- A write that was answered with a record left that record in the store. -/
theorem persists_of_performs {call : Call (machine cfg)} {code : Code} {expected : RoomUpdateGuard}
    {patch : PersistedRoomPatch} {next : PlaybackState} {room : PersistedRoom}
    {q r : Pool (machine cfg)} (writes : patch.playback = some (some next))
    (h : q.Performs r call (.updateRoom code expected patch) (.ok (.ok room))) :
    Persists call.req code next room q r := by
  refine ⟨call, expected, patch, rfl, h, writes, ?_⟩
  obtain ⟨i, ch, spawned, -, -, -, hexec⟩ := h
  have hexec : exec cfg (.updateRoom code expected patch) ch q.shared =
      some (.ok (.ok room), r.shared, spawned) := hexec
  rcases updateRoom_ok hexec with ⟨_, -, -, refused, -⟩ | ⟨result, landed⟩
  · cases refused
  · rw [landed]
    rcases RoomStore.updateRoom_cases q.shared.roomStore code expected patch q.shared.clock with
      ⟨old, -, -, stored, next_⟩ | ⟨reason, refused, -⟩
    · rw [stored] at result
      cases result
      exact ⟨(next_ code).trans (if_pos rfl), by simp [PersistedRoom.patched, writes]⟩
    · rw [refused] at result
      cases result

/-- Whatever moves a window was earned, or is the clock. -/
theorem window_moved (path : Path ok p₀ moves p) (idle : p₀.calls = []) {mv : Move (machine cfg)}
    (step : p.step? mv = some q) (n : NodeId) (code : Code) :
    p.shared.clock ≤ q.shared.clock ∧
    (q.shared.openAuthority n code = p.shared.openAuthority n code ∨
      (∃ a, q.shared.openAuthority n code = some a ∧ ClaimsWindow ok p₀ n code a moves p q) ∨
      (q.shared.openAuthority n code = none ∧ ∃ elapsed, mv = .event (.tick elapsed))) := by
  cases mv with
  | start r => cases step; exact ⟨le_rfl, .inl rfl⟩
  | event e =>
    simp only [Pool.step?, Option.map_eq_some_iff] at step
    obtain ⟨w, happened, rfl⟩ := step
    obtain ⟨clock, same | ⟨closed, elapsed, rfl⟩⟩ := occur_reckoned happened n code
    · exact ⟨clock, .inl same⟩
    · exact ⟨clock, .inr (.inr ⟨closed, elapsed, rfl⟩)⟩
  | run i ch =>
    obtain ⟨call, c, k, a, w, spawned, at_i, rest, hexec, rfl⟩ := Discipline.run?_cases step
    have mem := List.mem_of_getElem? at_i
    obtain ⟨clock, reckoned⟩ := exec_reckoned hexec n code
    refine ⟨Nat.le_of_eq clock.symm, ?_⟩
    cases reckoned with
    | same still => exact .inl still
    | recorded now =>
      have genuine := Discipline.run_genuine path.run (Discipline.genuine_of_no_calls idle)
      have next := congrArg Prog.next? rest
      cases warranted_of_next genuine mem next with
      | plain touches => cases touches
      | records earned =>
        rename_i stored room
        obtain ⟨expected, patch, writes, written⟩ := earned.written
        refine .inr (.inl ⟨_, now, call, stored, room, ?_, rfl, rfl, earned, ?_⟩)
        · exact ⟨i, ch, spawned, step, at_i, next, hexec⟩
        · apply (path.answered idle call mem _ written).mono
          rintro before q r ⟨earlier, same, performs⟩
          rw [← same]
          exact persists_of_performs writes performs

/-- A standing authority was claimed by some move, no longer ago than the window lasts. -/
theorem standing_is_claimed (path : Path ok p₀ moves p) (idle : p₀.calls = [])
    (bare : ∀ n, (p₀.shared.nodes n).playbackAuthorityByRoom = .empty) :
    ∀ n code a, p.shared.openAuthority n code = some a → Along ok p₀ moves fun before q r =>
      ClaimsWindow ok p₀ n code a before q r ∧ q.shared.clock ≤ p.shared.clock := by
  induction path with
  | start =>
    intro n code a stands
    rw [World.openAuthority_eq, bare] at stands
    cases stands
  | move mv path allowed step ih =>
    intro n code a stands
    obtain ⟨clock, same | ⟨b, now, claims⟩ | ⟨closed, -⟩⟩ := window_moved path idle step n code
    · rw [same] at stands
      apply (ih n code a stands).later.mono
      rintro before q r ⟨claims, earlier⟩
      exact ⟨claims, earlier.trans clock⟩
    · cases now.symm.trans stands
      exact Along.last path step ⟨claims, clock⟩
    · cases closed.symm.trans stands

/-- Updates are turned away as followers only by an authority that still stands. -/
theorem ignored_in_window {current : Option PlaybackState} {authority : Option PlaybackAuthority}
    {incoming : PlaybackState} {now : Time}
    (h : decidePlaybackAcceptance current authority incoming now = .ignoreAsFollow) :
    ∃ a, authority = some a ∧ now < a.until_ ∧ a.actorId ≠ incoming.actorId := by
  cases current with
  | none => cases h
  | some current =>
    unfold decidePlaybackAcceptance at h
    dsimp only at h
    split at h
    · cases h
    · cases authority with
      | none =>
        simp only [Bool.and_false, Bool.false_eq_true, ↓reduceIte] at h
        split at h <;> cases h
      | some a =>
        dsimp only at h
        split at h
        · rename_i vetoed
          simp only [PlaybackAuthority.vetoes, Bool.and_eq_true, decide_eq_true_eq] at vetoed
          exact ⟨a, rfl, vetoed.2.1⟩
        · split at h <;> cases h

/-- At any point of any run in which rooms are shared and updated by anybody, beside everything
else the service does: a standing authority was recorded less than a window ago by a share or an
update that was accepted, persisted before and no steady tick; one more move changes what stands
only by such a record, or by letting time close it; and updates are turned away as followers
only while it stands. -/
theorem no_rolling_veto (path : Path ok p₀ moves p) (idle : p₀.calls = [])
    (bare : ∀ n, (p₀.shared.nodes n).playbackAuthorityByRoom = .empty) :
    (∀ n code a, (p.shared.getPlaybackAuthority n code).1 = some a →
      Along ok p₀ moves fun before q r => ClaimsWindow ok p₀ n code a before q r ∧
        q.shared.clock ≤ p.shared.clock ∧
        p.shared.clock < q.shared.clock + PLAYBACK_AUTHORITY_WINDOW_MS) ∧
    (∀ mv q, p.step? mv = some q → ∀ n code,
      (q.shared.getPlaybackAuthority n code).1 = (p.shared.getPlaybackAuthority n code).1 ∨
      (∃ a, (q.shared.getPlaybackAuthority n code).1 = some a ∧
        ClaimsWindow ok p₀ n code a moves p q) ∨
      ((q.shared.getPlaybackAuthority n code).1 = none ∧
        ∃ elapsed, mv = .event (.tick elapsed))) ∧
    (∀ current authority incoming now,
      decidePlaybackAcceptance current authority incoming now = .ignoreAsFollow →
        ∃ a, authority = some a ∧ now < a.until_ ∧ a.actorId ≠ incoming.actorId) := by
  refine ⟨?_, ?_, fun _ _ _ _ => ignored_in_window⟩
  · intro n code a stands
    apply (standing_is_claimed path idle bare n code a stands).mono
    rintro before q r ⟨claims, earlier⟩
    refine ⟨claims, earlier, ?_⟩
    obtain ⟨_, _, _, -, -, until_, -⟩ := claims
    rw [← until_]
    exact World.open_of_openAuthority stands
  · intro mv q step n code
    exact (window_moved path idle step n code).2

/-! ## A share, answered soon and late -/

/-- One member alone in a room. -/
def aloneInRoom : World where
  roomStore := JsMap.empty.set 1 (createPersistedRoom ⟨1, 7, 0, some 3, none⟩)
  runtime := { rooms := JsMap.empty.set 1 ⟨1, 0, JsMap.empty.set 3 3, JsMap.empty.set 3 9⟩ }
  sessions _ := { roomCode := some 1, memberId := some 3, memberToken := some 9 }
  fresh := 100

abbrev unguarded : Guard (machine oneNode) := fun _ _ => True

/-- A share up to the write of its video. -/
def shareToWrite : List (Move (machine oneNode)) :=
  .start (.share 3 9 ⟨"BV1", "url", "title", none, none⟩ none) :: turns oneNode 0 13

/-- The share is answered at once, and seven ticks later its member pauses. -/
def sharedThenPaused : List (Move (machine oneNode)) :=
  shareToWrite ++ turns oneNode 0 2 ++ .event (.tick 7) :: .start (.updatePlayback 3 9
    ⟨"url", 5, .paused, none, none, none, 1, 0, 0, 0, 2⟩) :: turns oneNode 1 14

theorem shared_window_is_claimed :
    ∃ p a, Path unguarded ⟨aloneInRoom, []⟩ sharedThenPaused p ∧
      (p.shared.getPlaybackAuthority 0 1).1 = some a ∧ (a.until_, a.kind) = (1207, .pause) ∧
      Along unguarded ⟨aloneInRoom, []⟩ sharedThenPaused fun before q r =>
        ClaimsWindow unguarded ⟨aloneInRoom, []⟩ 0 1 a before q r ∧
          q.shared.clock ≤ p.shared.clock ∧
          p.shared.clock < q.shared.clock + PLAYBACK_AUTHORITY_WINDOW_MS := by
  have ran : ((Pool.replay unguarded ⟨aloneInRoom, []⟩ sharedThenPaused).map fun p =>
      (p.shared.getPlaybackAuthority 0 1).1) = some (some ⟨3, 1207, .pause, .playbackUpdate⟩) := by
    decide +kernel
  obtain ⟨p, path, stands⟩ := Option.map_eq_some_iff.mp ran
  have path := Pool.replay_path path
  exact ⟨p, _, path, stands, rfl, (no_rolling_veto path rfl fun _ => rfl).1 0 1 _ stands⟩

/-- The store wrote at once, and its answer took five seconds. -/
def answeredLate : List (Move (machine oneNode)) :=
  shareToWrite ++ [.event (.tick 5000), .run 0 .ok]

/-- Whether some call is about to write a record. -/
def aboutToWrite (p : Pool (machine oneNode)) : Bool :=
  p.calls.any fun call => match call.rest.next? with
    | some (.updateRoom ..) => true
    | _ => false

theorem aboutToWrite_of_persists {req : Req} {code : Code} {next : PlaybackState}
    {room : PersistedRoom} {q r : Pool (machine oneNode)} (h : Persists req code next room q r) :
    aboutToWrite q = true := by
  obtain ⟨call, expected, patch, -, ⟨i, ch, spawned, -, at_i, asks, -⟩, -⟩ := h
  rw [aboutToWrite, List.any_eq_true]
  exact ⟨call, List.mem_of_getElem? at_i, by rw [asks]⟩

theorem late_answer_outlives_its_write : ∃ p a, Path unguarded ⟨aloneInRoom, []⟩ answeredLate p ∧
    (p.shared.getPlaybackAuthority 0 1).1 = some a ∧
    ¬Along unguarded ⟨aloneInRoom, []⟩ answeredLate fun _ q r =>
      (∃ req code next room, Persists req code next room q r) ∧
        q.shared.clock ≤ p.shared.clock ∧
        p.shared.clock < q.shared.clock + PLAYBACK_AUTHORITY_WINDOW_MS := by
  have ran : ((Pool.replay unguarded ⟨aloneInRoom, []⟩ answeredLate).map fun p =>
      (p.shared.clock, (p.shared.getPlaybackAuthority 0 1).1)) =
        some (5000, some ⟨3, 6200, .share, .videoShare⟩) := by decide +kernel
  have old : ∀ i < answeredLate.length,
      ((Pool.replay unguarded ⟨aloneInRoom, []⟩ (answeredLate.take i)).all fun q =>
        q.shared.clock + PLAYBACK_AUTHORITY_WINDOW_MS ≤ 5000 || !aboutToWrite q) = true := by
    decide +kernel
  obtain ⟨p, path, seen⟩ := Option.map_eq_some_iff.mp ran
  obtain ⟨clock, stands⟩ := Prod.mk.inj seen
  refine ⟨p, _, Pool.replay_path path, stands, ?_⟩
  rintro ⟨before, mv, after, q, r, split, earlier, -, ⟨req, code, next, room, persists⟩, -, recent⟩
  have here := old before.length (by simp [split])
  rw [split, List.take_left, earlier.replay] at here
  rw [clock] at recent
  simp only [Option.all_some, aboutToWrite_of_persists persists, Bool.not_true, Bool.or_false,
    decide_eq_true_eq] at here
  exact absurd recent (Nat.not_lt.mpr here)

end BiliSyncPlay
