import BiliSyncPlay.Service.Conform

/-!
# Every request follows the protocol

The collections, the updates and the socket handlers, and from these and the rules of leaving,
joining and creating that every request stays inside the protocol of rooms.
-/

namespace BiliSyncPlay

open Interleave Prog

variable {cfg : Config} {calm : Prop} {α β : Type} {φ : Phase}

/-! ## Collecting -/

variable {Q : Phase → Except Err Unit → Prop} {seen : Option Standing}

section Collecting

variable {n : NodeId} {code : Code} {owner : Option (NodeId × Code × EffectId)}
  {stage : CollectStage} {caller : RoomReadCaller}

/-- Between two candidates of a collection. -/
def CollectStage.Between (stage : CollectStage) : Prop := ∀ code g, stage ≠ .absent code g

theorem between_idle : CollectStage.Between .idle := by simp [CollectStage.Between]

theorem onGetRoomGeneration_of_between (between : stage.Between) (g : Option Generation) :
    (Phase.collecting owner stage).onGetRoomGeneration code (.ok g) =
      .collecting owner (.pinned code g) := by
  cases stage with
  | absent c g' => exact absurd rfl (between c g')
  | _ => rfl

theorem does_awaitRuntimeTeardown {g : Option Generation} {Q : Phase → Except Err Bool → Prop}
    (done : ∀ b, Q (.collecting owner .idle) (.ok b)) :
    (Phase.collecting owner (.confirmed code g)).Does cfg calm
      (awaitRuntimeTeardown n code g caller) Q := by
  simp only [awaitRuntimeTeardown, does_bind, does_ask, asks_startRuntimeTeardownEffect, thenDo,
    asks_awaitEffect]
  refine ⟨⟨_, rfl⟩, fun entry settled => ?_⟩
  cases settled with
  | none => simp [done]
  | some settled =>
    cases settled with
    | failed f => simp [done]
    | _ => exact done true

theorem does_collectCandidate {debt : Option RuntimeTeardownDebt}
    {Q : Phase → Except Err Bool → Prop} (between : stage.Between)
    (done : ∀ stage' b, CollectStage.Between stage' → Q (.collecting owner stage') (.ok b)) :
    (Phase.collecting owner stage).Does cfg calm (collectCandidate n caller code debt) Q := by
  have idle : ∀ b, Q (.collecting owner .idle) (.ok b) := fun b => done _ b between_idle
  simp only [collectCandidate, does_bind, does_ask, asks_getRoomGeneration, thenDo]
  intro pinned
  cases pinned with
  | error f =>
    simp only [does_bind, does_ask, asks_rememberRuntimeTeardownDebt, thenDo, does_pure,
      Phase.onGetRoomGeneration, idle]
  | ok g =>
    rw [onGetRoomGeneration_of_between between]
    simp only [does_bind, does_ask, asks_getRoom, thenDo]
    refine ⟨trivial, fun found _ => ?_, fun _ f => ?_⟩
    · cases found with
      | some room =>
        simp only [does_bind, does_ask, Phase.onGetRoom, asks_forgetRuntimeTeardownDebt, thenDo,
          does_pure, Phase.onCollected]
        exact ⟨⟨owner, rfl⟩, idle true⟩
      | none =>
        simp only [Phase.onGetRoom, ↓reduceIte, does_bind, does_ask, asks_getRoomGeneration,
          thenDo]
        intro confirmed
        cases confirmed with
        | error f =>
          simp only [does_bind, does_ask, asks_rememberRuntimeTeardownDebt, thenDo, does_pure,
            Phase.onGetRoomGeneration, idle]
        | ok g' =>
          by_cases same : g' = g
          · subst same
            have await : (Phase.collecting owner (.confirmed code g')).Does cfg calm
                (awaitRuntimeTeardown n code g' caller) Q := does_awaitRuntimeTeardown idle
            cases debt with
            | none => simpa using await
            | some debt =>
              simp only [ne_eq, not_true_eq_false, ↓reduceIte, Phase.onGetRoomGeneration,
                and_self, does_bind, does_ask, asks_runtimeTeardownDebt, thenDo, does_ite,
                does_pure]
              refine fun current => ⟨fun _ => done _ _ ?_, fun _ => await⟩
              simp [CollectStage.Between]
          · simp [same, idle]
    · simp only [asks_rememberRuntimeTeardownDebt, thenDo, does_pure, Phase.onGetRoom, idle]

theorem does_collectCandidates (candidates : List (Code × Option RuntimeTeardownDebt))
    {Q : Phase → Except Err (List Code) → Prop} (between : stage.Between)
    (done : ∀ stage' codes, CollectStage.Between stage' → Q (.collecting owner stage') (.ok codes)) :
    (Phase.collecting owner stage).Does cfg calm (collectCandidates n caller candidates) Q := by
  induction candidates generalizing stage Q with
  | nil => exact done stage [] between
  | cons candidate rest ih =>
    simp only [collectCandidates, does_bind]
    refine does_collectCandidate between fun stage' settled between' => ?_
    simp only [thenDo, does_bind]
    exact ih between' fun stage'' codes between'' => done _ _ between''

theorem does_collectRuntimeStateForDeletedRooms {pending : List (Code × RuntimeTeardownDebt)}
    {fresh : List Code} {Q : Phase → Except Err (List Code) → Prop} (between : stage.Between)
    (done : ∀ stage' codes, Q (.collecting owner stage') (.ok codes)) :
    (Phase.collecting owner stage).Does cfg calm
      (collectRuntimeStateForDeletedRooms n pending fresh caller) Q :=
  does_collectCandidates _ between fun stage' codes _ => done stage' codes

theorem does_collectExpiredRoom {id : EffectId} {Q : Phase → Except Err RoomDeleteOutcome → Prop}
    (done : ∀ stage r, Q (.collecting (some (n, code, id)) stage) r) :
    (Phase.expiring n id code).Does cfg calm (collectExpiredRoom n code) Q := by
  simp only [collectExpiredRoom, does_bind, does_ask, asks_now, does_call, asks_deleteExpiredRoom,
    thenDo, Phase.onDeleteExpiredRoom]
  refine fun now => ⟨⟨n, id, rfl⟩, fun outcome => ?_⟩
  cases outcome with
  | error f => exact done _ _
  | ok outcome =>
    simp only [orThrow, thenDo, does_ite, does_pure, does_bind]
    refine ⟨fun _ => done _ _, fun _ => ?_⟩
    apply does_collectRuntimeStateForDeletedRooms (by simp [CollectStage.Between])
    exact fun stage _ => done stage _

theorem does_deleteExpiredRooms {Q : Phase → Except Err ExpiredRoomSweepCounts → Prop}
    (done : ∀ stage r, Q (.collecting none stage) r) :
    (Phase.collecting none .idle).Does cfg calm (deleteExpiredRooms n) Q := by
  simp only [deleteExpiredRooms, does_bind, does_ask, asks_now, does_call, asks_deleteExpiredRooms,
    thenDo]
  refine fun now => ⟨⟨_, rfl⟩, fun swept => ?_⟩
  cases swept with
  | error f => exact done _ _
  | ok swept =>
    simp only [orThrow, thenDo, does_bind, does_ask, asks_pendingRuntimeTeardowns]
    refine fun pending => does_collectRuntimeStateForDeletedRooms (by simp [CollectStage.Between])
      fun stage settled => ?_
    simp only [thenDo, does_bind, does_ite, does_ask, asks_acknowledgeOrphanedIndexClaims, does_pure]
    refine ⟨fun _ => ⟨⟨_, rfl⟩, fun result => ?_⟩, fun _ => done _ _⟩
    cases result with
    | ok _ => exact done _ _
    | error f => simp [done]

theorem does_teardownRoomRuntime (done : ∀ stage r, Q (.collecting none stage) r) :
    (Phase.collecting none .idle).Does cfg calm (teardownRoomRuntime n code) Q := by
  simp only [teardownRoomRuntime, does_bind, does_ask, asks_pendingRuntimeTeardowns, thenDo]
  refine fun pending => does_collectRuntimeStateForDeletedRooms (by simp [CollectStage.Between])
    fun stage settled => ?_
  exact done _ _

end Collecting

/-! ## Updating -/

section Updating

variable {s : SessionId} {code : Code}

/-- The session is in no leave, join or creation. -/
def Phase.IsOutside (s : SessionId) (φ : Phase) : Prop := ∃ seen, φ = .outside s seen

theorem resolved_outside {ψ : Phase} {r : Except Err (Option PersistedRoom)}
    (h : Resolved calm (.outside s seen) code ψ r) : ψ = .outside s seen := by
  match r, h with
  | .ok (some _), ⟨_, h⟩ => exact h
  | .ok none, .inl h => exact h
  | .ok none, .inr ⟨_, _, h⟩ => exact h
  | .error _, .inl ⟨_, _, h⟩ => exact h
  | .error _, .inr ⟨_, _, h⟩ => exact h

variable {token : Token}

theorem does_requireJoinedRoomSession {Q : Phase → Except Err PersistedRoom → Prop}
    (start : φ.IsOutside s ∨ ∃ room, φ = .creating s (.live room))
    (done : ∀ ψ r, ψ.IsOutside s → Q ψ r) :
    φ.Does cfg calm (requireJoinedRoomSession cfg s token) Q := by
  have ends : ∀ seen r, Q (.outside s seen) r := fun seen r => done _ r ⟨seen, rfl⟩
  have reading : φ.MayReadSession calm s ∧
      ∀ session, φ.onReadSession session = .outside s (some session.standing) := by
    obtain ⟨seen, rfl⟩ | ⟨room, rfl⟩ := start
    · exact ⟨rfl, fun _ => rfl⟩
    · exact ⟨rfl, fun _ => rfl⟩
  simp only [requireJoinedRoomSession, does_bind, does_ask, asks_readSession, thenDo]
  refine ⟨reading.1, fun session => ?_⟩
  rw [reading.2]
  cases hroom : session.roomCode with
  | none => simp [ends]
  | some roomCode =>
    rw [does_bind]
    refine does_resolveRoom reads_outside fun ψ r resolved => ?_
    obtain rfl := resolved_outside resolved
    cases r with
    | error e => exact ends _ _
    | ok found =>
      cases found with
      | none => simp [ends]
      | some room =>
        simp only [thenDo, does_bind, does_ask, asks_getActiveRoom, asks_readSession]
        intro active
        have back : ∀ ψ : Phase,
            ψ = (Phase.outside s (some session.standing)).onGetActiveRoom room.code →
            ψ.MayReadSession calm s ∧
              ∀ later, ψ.onReadSession later = .outside s (some later.standing) := by
          rintro ψ rfl
          simp only [Phase.onGetActiveRoom]
          split <;> simp
        refine ⟨(back _ rfl).1, fun later => ?_⟩
        rw [(back _ rfl).2]
        have refused : ∀ event : String, (Phase.outside s (some later.standing)).Does cfg calm (do
            ask (.clearSessionRoom s)
            logEvent "auth_failed" room.code s "member_token_invalid"
            throw memberTokenInvalid) Q := by
          simp [ends]
        cases active with
        | none => exact refused ""
        | some active =>
          cases later.memberId with
          | none => exact refused ""
          | some m => simp [ends]

theorem does_releaseMessageSlotBestEffort {key : SlotKey} (done : Q (.outside s seen) (.ok ())) :
    (Phase.outside s seen).Does cfg calm (releaseMessageSlotBestEffort code key token) Q := by
  simp only [releaseMessageSlotBestEffort, does_bind, does_ask, asks_releaseMessageSlot, thenDo]
  intro released
  cases released <;> simp [done]

/-- A retried write of a seated session. -/
theorem does_writeRetry {n : NodeId} {action : PersistedRoom → Service (Option PersistedRoom)}
    {Q : Phase → Except Err (Option PersistedRoom) → Prop}
    (act : ∀ seen room, (Phase.outside s seen).Does cfg calm (action room) fun ψ _ => ψ.IsOutside s)
    (done : ∀ ψ r, ψ.IsOutside s → Q ψ r) (attempts : Nat) :
    (Phase.outside s seen).Does cfg calm (withVersionRetry n code action attempts) Q := by
  refine does_withVersionRetry (Phase.IsOutside s) ?_ ?_ (fun φ h => done φ _ h) ?_ ?_ ?_ attempts
    ⟨seen, rfl⟩
  · rintro _ ⟨seen, rfl⟩
    exact reads_outside
  · rintro _ line ⟨seen, rfl⟩
    exact ⟨trivial, rfl⟩
  · rintro _ ψ ⟨seen, rfl⟩ resolved
    exact done _ _ ⟨seen, resolved_outside resolved⟩
  · rintro _ ψ e ⟨seen, rfl⟩ resolved
    exact done _ _ ⟨seen, resolved_outside resolved⟩
  · rintro _ room ⟨seen, rfl⟩ _
    refine (act seen room).mono fun ψ r h => ?_
    match r with
    | .ok none => exact h
    | .ok (some _) => exact done _ _ h
    | .error e => exact done _ _ h

theorem does_writeSharedVideo {video : SharedVideo} {playback : Option PlaybackState} {now : Time}
    {room : PersistedRoom} :
    (Phase.outside s seen).Does cfg calm (writeSharedVideo cfg s video playback now room)
      fun ψ _ => ψ.IsOutside s := by
  simp only [writeSharedVideo, does_bind, does_ask, asks_readSession, thenDo, does_call,
    asks_updateRoom, Phase.onReadSession]
  refine ⟨rfl, fun session => ⟨⟨⟨_, rfl⟩, .inr rfl⟩, fun result _ => ?_, fun _ f => ⟨_, rfl⟩⟩⟩
  cases result with
  | refused r => exact ⟨_, rfl⟩
  | ok room => simp [Phase.IsOutside]

theorem does_shareVideoForSession {video : SharedVideo} {playback : Option PlaybackState}
    {Q : Phase → Except Err PersistedRoom → Prop} (done : ∀ ψ r, ψ.IsOutside s → Q ψ r) :
    (Phase.outside s seen).Does cfg calm (shareVideoForSession cfg s token video playback) Q := by
  simp only [shareVideoForSession, does_bind]
  refine does_requireJoinedRoomSession (.inl ⟨seen, rfl⟩) ?_
  rintro _ r ⟨seen, rfl⟩
  cases r with
  | error e => exact done _ _ ⟨_, rfl⟩
  | ok access =>
    simp only [thenDo, does_bind, does_ask, asks_now, asks_readSession, asks_generateToken,
      does_call, asks_tryClaimMessageSlot, Phase.onReadSession, Phase.onGenerateToken]
    refine fun now => ⟨rfl, fun session tok claimed => ?_⟩
    cases claimed with
    | error f => exact done _ _ ⟨_, rfl⟩
    | ok claimed =>
      cases claimed with
      | false => simpa using done _ _ ⟨_, rfl⟩
      | true =>
        simp only [orThrow, thenDo, Bool.not_true, Bool.false_eq_true, ↓reduceIte, does_bind,
          does_attempt]
        refine does_writeRetry (fun _ _ => does_writeSharedVideo) ?_ _
        rintro _ r ⟨seen, rfl⟩
        cases r with
        | error e =>
          simp only [does_bind]
          exact does_releaseMessageSlotBestEffort (done _ _ ⟨_, rfl⟩)
        | ok written =>
          cases written with
          | none =>
            simp only [does_bind]
            refine does_releaseMessageSlotBestEffort ?_
            simpa using done _ _ ⟨_, rfl⟩
          | some room => simpa using done _ _ ⟨_, rfl⟩

theorem does_reportAppliedPlayback {access : PersistedRoom} {next : PlaybackState}
    (done : Q (.outside s seen) (.ok ())) :
    (Phase.outside s seen).Does cfg calm (reportAppliedPlayback cfg s access next) Q := by
  have reported : (Phase.outside s seen).Does cfg calm (do
      let _ ← ask (.getPlaybackAuthority (cfg.nodeOf s) access.code)
      if !isSteadyTick access.playback next then
        logEvent "playback_update_applied" access.code s) Q := by
    simp only [does_bind, does_ask, asks_getPlaybackAuthority, thenDo]
    intro _
    split <;> simp [done]
  simp only [reportAppliedPlayback]
  cases derivePlaybackAuthorityKind access.playback next with
  | none => simpa using reported
  | some kind =>
    by_cases steady : isSteadyTick access.playback next = true
    · simpa [steady] using reported
    · simpa [steady] using reported

theorem does_writePlayback {access : PersistedRoom} {key : SlotKey} {next : PlaybackState}
    {now : Time} {Q : Phase → Except Err PlaybackResult → Prop}
    (done : ∀ ψ r, ψ.IsOutside s → Q ψ r) :
    (Phase.outside s seen).Does cfg calm (writePlayback cfg s access key token next now) Q := by
  simp only [writePlayback, does_bind, does_ask, asks_updateRoom, thenDo]
  refine ⟨⟨⟨_, rfl⟩, .inr rfl⟩, fun result _ => ?_, fun _ f => ?_⟩
  · cases result with
    | ok room =>
      simp only [does_bind]
      exact does_reportAppliedPlayback (done _ _ ⟨_, rfl⟩)
    | refused reason =>
      cases reason with
      | versionConflict => simpa using done _ _ ⟨_, rfl⟩
      | notFound =>
        simp only [does_bind]
        exact does_releaseMessageSlotBestEffort (done _ _ ⟨_, rfl⟩)
  · exact does_releaseMessageSlotBestEffort (done _ _ ⟨_, rfl⟩)

theorem does_updatePlaybackForSession {playback : PlaybackState}
    {Q : Phase → Except Err PlaybackResult → Prop} (done : ∀ ψ r, ψ.IsOutside s → Q ψ r) :
    (Phase.outside s seen).Does cfg calm (updatePlaybackForSession cfg s token playback) Q := by
  simp only [updatePlaybackForSession, does_bind]
  refine does_requireJoinedRoomSession (.inl ⟨seen, rfl⟩) ?_
  rintro _ r ⟨seen, rfl⟩
  cases r with
  | error e => exact done _ _ ⟨_, rfl⟩
  | ok access =>
    simp only [thenDo, does_bind, does_ask, asks_now, asks_readSession, asks_generateToken,
      does_call, asks_tryClaimMessageSlot, Phase.onReadSession, Phase.onGenerateToken]
    refine ⟨rfl, fun session tok now claimed => ?_⟩
    cases claimed with
    | error f => exact done _ _ ⟨_, rfl⟩
    | ok claimed =>
      cases claimed with
      | false => simpa using done _ _ ⟨_, rfl⟩
      | true =>
        simp only [orThrow, thenDo, Bool.not_true, Bool.false_eq_true, ↓reduceIte]
        cases access.sharedVideo with
        | none =>
          simp only [does_bind]
          exact does_releaseMessageSlotBestEffort (done _ _ ⟨_, rfl⟩)
        | some shared =>
          simp only [does_ite, does_bind]
          refine ⟨fun _ => does_releaseMessageSlotBestEffort (done _ _ ⟨_, rfl⟩), fun _ => ?_⟩
          simp only [does_ask, asks_now, asks_readSession, thenDo, does_bind, Phase.onReadSession,
            asks_getPlaybackAuthority, does_ite]
          refine fun now => ⟨rfl, fun session authority => ⟨fun _ => ?_, fun _ => ?_⟩⟩
          · simpa using done _ _ ⟨_, rfl⟩
          · exact does_writePlayback done

theorem does_writeOwnerDisplayName {room : PersistedRoom} :
    (Phase.outside s seen).Does cfg calm (writeOwnerDisplayName s room)
      fun ψ _ => ψ.IsOutside s := by
  simp only [writeOwnerDisplayName, does_bind, does_ask, asks_readSession, thenDo, asks_now,
    does_call, asks_updateRoom, Phase.onReadSession]
  refine ⟨rfl, fun session now => ⟨⟨⟨_, rfl⟩, .inl rfl⟩, fun result _ => ?_, fun _ f => ⟨_, rfl⟩⟩⟩
  cases result with
  | refused r => exact ⟨_, rfl⟩
  | ok room => exact ⟨_, rfl⟩

theorem does_updateProfileForSession {displayName : String}
    {Q : Phase → Except Err PersistedRoom → Prop} (done : ∀ ψ r, ψ.IsOutside s → Q ψ r) :
    (Phase.outside s seen).Does cfg calm (updateProfileForSession cfg s token displayName) Q := by
  have flushed : ∀ seen (room : PersistedRoom), (Phase.outside s seen).Does cfg calm (do
      call (ask .flush)
      pure room) Q := by
    intro seen room
    simp only [does_bind, does_call, does_ask, asks_flush, orThrow, thenDo, does_pure]
    exact ⟨done _ _ ⟨_, rfl⟩, fun _ f => done _ _ ⟨_, rfl⟩⟩
  simp only [updateProfileForSession, does_bind]
  refine does_requireJoinedRoomSession (.inl ⟨seen, rfl⟩) ?_
  rintro _ r ⟨seen, rfl⟩
  cases r with
  | error e => exact done _ _ ⟨_, rfl⟩
  | ok access =>
    simp only [thenDo, does_bind, does_ask, asks_setSessionDisplayName, asks_readSession, does_ite,
      Phase.onReadSession]
    refine ⟨rfl, fun changed => ⟨rfl, fun session => ⟨fun _ => ?_, fun _ => flushed _ access⟩⟩⟩
    refine does_writeRetry (fun _ _ => does_writeOwnerDisplayName) ?_ _
    rintro _ r ⟨seen, rfl⟩
    cases r with
    | error e => exact done _ _ ⟨_, rfl⟩
    | ok written =>
      cases written with
      | none => simpa using flushed seen access
      | some updated => exact flushed _ updated

theorem does_clearVideoAttempts {Q : Phase → Except Err PersistedRoom → Prop}
    (done : ∀ r, Q .clearing r) (attempts : Nat) :
    Phase.clearing.Does cfg calm (clearVideoAttempts code attempts) Q := by
  induction attempts with
  | zero => exact done _
  | succ attempts ih =>
    simp only [clearVideoAttempts, does_bind, does_call, does_ask, asks_getRoom]
    refine ⟨trivial, fun found _ => ?_, fun _ f => done _⟩
    cases found with
    | none => exact done _
    | some room =>
      simp only [orThrow, thenDo, does_bind, does_ask, asks_now, does_call, asks_updateRoom]
      refine fun now => ⟨⟨⟨_, rfl⟩, .inr rfl⟩, fun result _ => ?_, fun _ f => done _⟩
      cases result with
      | ok updated => exact done _
      | refused reason =>
        cases reason with
        | notFound => exact done _
        | versionConflict => exact ih

end Updating

/-! ## Sockets -/

section Sockets

variable {s : SessionId} {code : Code}

theorem does_runRoomJoinedHook {room : PersistedRoom} {Q : Phase → Except Err Bool → Prop}
    (start : (∃ st, φ = .outside s (some st) ∧ st.roomCode = some room.code) ∨
      φ = .creating s (.live room))
    (done : ∀ ψ b, ψ.IsOutside s ∨ ψ = .creating s (.live room) → Q ψ (.ok b)) :
    φ.Does cfg calm (runRoomJoinedHook s room.code) Q := by
  simp only [runRoomJoinedHook, does_bind, does_ask, asks_registerSession,
    asks_markSessionJoinedRoom, thenDo]
  obtain ⟨st, rfl, here⟩ | rfl := start
  · refine ⟨rfl, ⟨rfl, here⟩, fun result => ?_⟩
    cases result with
    | error f => simpa using done _ _ (.inl ⟨_, rfl⟩)
    | ok _ =>
      simp only [Phase.onMarkSessionJoinedRoom, does_bind, does_ask, asks_flush, thenDo, does_pure]
      refine ⟨done _ _ (.inl ⟨_, rfl⟩), fun _ f => ?_⟩
      simpa using done _ _ (.inl ⟨_, rfl⟩)
  · refine ⟨rfl, ⟨rfl, rfl⟩, fun result => ?_⟩
    cases result with
    | error f => simpa using done _ _ (.inr rfl)
    | ok _ =>
      simp only [Phase.onMarkSessionJoinedRoom, does_bind, does_ask, asks_flush, thenDo, does_pure]
      refine ⟨done _ _ (.inr rfl), fun _ f => ?_⟩
      simpa using done _ _ (.inr rfl)

theorem onLogEvent_of_session {line : LogLine} (own : φ.session? = some s)
    (unmuted : ∀ code joinToken, φ ≠ .creating s (.muted code joinToken)) :
    φ.MayLog calm line ∧ φ.onLogEvent line = φ := by
  cases φ with
  | creating s' stage =>
    cases Option.some.inj own
    refine ⟨trivial, ?_⟩
    cases stage with
    | muted code joinToken => exact absurd rfl (unmuted code joinToken)
    | _ => rfl
  | outside | leaving | joining => exact ⟨trivial, rfl⟩
  | _ => cases own

/-- The hook of a room left behind, in a phase it does not move. -/
theorem does_runRoomLeftHook {Q : Phase → Except Err Bool → Prop} (own : φ.session? = some s)
    (unmuted : ∀ code joinToken, φ ≠ .creating s (.muted code joinToken))
    (still : φ.onMarkSessionLeftRoom code = φ) (done : ∀ b, Q φ (.ok b)) :
    φ.Does cfg calm (runRoomLeftHook s code) Q := by
  have logs : ∀ line, φ.MayLog calm line ∧ φ.onLogEvent line = φ := fun line =>
    onLogEvent_of_session own unmuted
  have failed : φ.Does cfg calm (do
      logEvent "room_left_hook_failed" code s
      pure false) Q := by
    simp only [does_bind, does_logEvent, thenDo, does_pure, (logs _).2, done, and_true]
    exact (logs _).1
  simp only [runRoomLeftHook, does_bind, does_ask, asks_registerSession, asks_markSessionLeftRoom,
    thenDo, still]
  refine ⟨own, own, fun result => ?_⟩
  cases result with
  | error f => exact failed
  | ok _ =>
    simp only [does_bind, does_ask, asks_flush, thenDo]
    exact ⟨done true, fun _ f => failed⟩

/-- How the message handler's leave ends. -/
def LeftEnds (calm : Prop) (s : SessionId) (ψ : Phase) : Prop :=
  (∃ st, ψ = .outside s (some st) ∧ st.roomCode = none) ∨
    ∃ m code stage, ψ = .leaving s m code stage ∧ (calm → stage.Discharged ∧ stage ≠ .begun)

theorem left_of_enters (own : φ.session? = some s) (enters : φ.MayEnter calm) :
    LeftEnds calm s φ := by
  unfold Phase.MayEnter at enters
  split at enters
  · cases own
    exact .inl ⟨_, rfl, enters⟩
  · cases own
    refine .inr ⟨_, _, _, rfl, fun c => ⟨enters.2 c, ?_⟩⟩
    rintro rfl
    exact enters.1
  · cases enters

theorem left_still (h : LeftEnds calm s φ) (code : Code) :
    φ.session? = some s ∧ (∀ c t, φ ≠ .creating s (.muted c t)) ∧
      φ.onMarkSessionLeftRoom code = φ := by
  obtain ⟨⟨r, m⟩, rfl, rfl⟩ | ⟨m, c, stage, rfl, -⟩ := h
  · exact ⟨rfl, fun _ _ => nofun, by simp⟩
  · exact ⟨rfl, fun _ _ => nofun, rfl⟩

theorem does_leaveRoom {reason : LeaveRoomReason} {Q : Phase → Except Err Bool → Prop}
    (start : φ.IsOutside s ∨ ∃ room, φ = .creating s (.live room))
    (done : ∀ ψ r, LeftEnds calm s ψ → Q ψ r) :
    φ.Does cfg calm (leaveRoom cfg s reason) Q := by
  have reading : φ.MayReadSession calm s ∧
      ∀ session, φ.onReadSession session = .outside s (some session.standing) := by
    obtain ⟨seen, rfl⟩ | ⟨room, rfl⟩ := start
    · exact ⟨rfl, fun _ => rfl⟩
    · exact ⟨rfl, fun _ => rfl⟩
  simp only [leaveRoom, does_bind, does_ask, asks_readSession, thenDo]
  refine ⟨reading.1, fun session => ?_⟩
  rw [reading.2]
  refine does_leaveCurrentRoom fun ψ r ends => ?_
  cases r with
  | error e => exact done _ _ (.inr ends)
  | ok result =>
    have left := left_of_enters ends.1 ends.2
    simp only [thenDo]
    cases session.roomCode with
    | none => exact done _ _ left
    | some code =>
      obtain ⟨own, unmuted, still⟩ := left_still left code
      refine does_ite.mpr ⟨fun _ => done _ _ left, fun _ => ?_⟩
      exact does_runRoomLeftHook own unmuted still fun b => done _ _ left

theorem left_logs {line : LogLine} (h : LeftEnds calm s φ) :
    φ.MayLog calm line ∧ φ.onLogEvent line = φ := by
  obtain ⟨st, rfl, -⟩ | ⟨m, c, stage, rfl, -⟩ := h <;> exact ⟨trivial, rfl⟩

theorem left_final (h : LeftEnds calm s φ) :
    φ.Final calm ∧ ∀ s room, φ ≠ .creating s (.live room) := by
  obtain ⟨st, rfl, -⟩ | ⟨m, c, stage, rfl, discharged⟩ := h
  · exact ⟨trivial, fun _ _ => nofun⟩
  · exact ⟨fun c => (discharged c).1, fun _ _ => nofun⟩

theorem does_abortJoin (start : φ.IsOutside s ∨ ∃ room, φ = .creating s (.live room))
    (done : ∀ ψ r, LeftEnds calm s ψ → Q ψ r) :
    φ.Does cfg calm (abortJoin cfg s code) Q := by
  have aborted : ∀ ψ, LeftEnds calm s ψ → ∀ rolledBack : Bool, ψ.Does cfg calm (do
      logEvent "room_join_aborted" code s "room_index_write_failed"
      if !rolledBack then ask (.closeSocket s)) Q := by
    intro ψ left rolledBack
    rw [does_bind, does_logEvent, (left_logs left).2]
    refine ⟨(left_logs left).1, ?_⟩
    cases rolledBack
    · simpa using done ψ _ left
    · exact done ψ _ left
  simp only [abortJoin, does_bind, does_attempt]
  refine does_leaveRoom start fun ψ r left => ?_
  cases r with
  | ok verdict => exact does_bind.mp (aborted ψ left verdict)
  | error e =>
    simp only [thenDo, does_bind, does_logEvent, (left_logs left).2, does_pure]
    exact ⟨(left_logs left).1, (left_logs left).1, (by simpa using done ψ _ left)⟩

/-- The phase after the failure of an entry, once the session has been read again. -/
theorem refused_reading (h : EnterEnds calm s φ (.error (internalError))) (session : Session) :
    φ.MayReadSession calm s ∧ (φ.onReadSession session).Final calm ∧
      (φ.onReadSession session).session? = some s ∧
      (∀ c t, φ.onReadSession session ≠ .creating s (.muted c t)) ∧
      ∀ code, session.roomCode ≠ some code →
        (φ.onReadSession session).onMarkSessionLeftRoom code = φ.onReadSession session := by
  obtain ⟨m, c, stage, rfl, discharged⟩ | rfl | ⟨stage, rfl, final, dead⟩ := h
  · refine ⟨⟨rfl, fun h => (discharged h).1⟩, ?_⟩
    cases stage <;> simp +contextual [Session.standing]
  · simp +contextual [Session.standing]
  · refine ⟨rfl, ?_⟩
    cases stage with
    | live room => exact absurd rfl (dead room)
    | muted => cases final
    | _ => exact ⟨final, rfl, (by simp), fun _ _ => rfl⟩

theorem does_enterRoom {enter : Service (PersistedRoom × Token)}
    (enters : ∀ seen {R : Phase → Except Err (PersistedRoom × Token) → Prop},
      (∀ ψ r, EnterEnds calm s ψ r → R ψ r) → (Phase.outside s seen).Does cfg calm enter R)
    (done : ∀ ψ r, ψ.Final calm → Q ψ r) :
    (Phase.outside s seen).Does cfg calm (enterRoom cfg s enter) Q := by
  have left : ∀ ψ r, LeftEnds calm s ψ → Q ψ r :=
    fun ψ r left => done ψ r (left_final left).1
  simp only [enterRoom, does_bind, does_ask, asks_readSession, thenDo, does_attempt,
    Phase.onReadSession]
  refine ⟨rfl, fun previous => enters _ fun ψ r ends => ?_⟩
  cases r with
  | error e =>
    simp only [thenDo, does_bind, does_ask, asks_readSession]
    refine ⟨(refused_reading ends {}).1, fun session => ?_⟩
    obtain ⟨-, final, own, unmuted, still⟩ := refused_reading ends session
    cases previous.roomCode with
    | none => exact done _ _ final
    | some code =>
      refine does_ite.mpr ⟨fun elsewhere => ?_, fun _ => done _ _ final⟩
      rw [does_bind]
      exact does_runRoomLeftHook own unmuted (still code elsewhere) fun _ => done _ _ final
  | ok seat =>
    obtain ⟨room, tok⟩ := seat
    have entered : ψ.Does cfg calm (do
        if ← runRoomJoinedHook s room.code then do
          let _ ← attempt (requireJoinedRoomSession cfg s tok)
          pure ()
        else abortJoin cfg s room.code) Q := by
      rw [does_bind]
      have start : (∃ st, ψ = .outside s (some st) ∧ st.roomCode = some room.code) ∨
          ψ = .creating s (.live room) := by
        obtain ⟨m, rfl⟩ | rfl := ends
        · exact .inl ⟨_, rfl, rfl⟩
        · exact .inr rfl
      refine does_runRoomJoinedHook start fun χ b here => ?_
      have here : χ.IsOutside s ∨ ∃ room, χ = .creating s (.live room) :=
        here.imp_right fun h => ⟨room, h⟩
      cases b with
      | true =>
        simp only [thenDo, ↓reduceIte, does_bind, does_attempt]
        refine does_requireJoinedRoomSession here ?_
        rintro _ r ⟨seen, rfl⟩
        exact done _ _ trivial
      | false => exact does_abortJoin here left
    have still : ∀ code, code ≠ room.code →
        ψ.session? = some s ∧ (∀ c t, ψ ≠ .creating s (.muted c t)) ∧
          ψ.onMarkSessionLeftRoom code = ψ := by
      intro code elsewhere
      obtain ⟨m, rfl⟩ | rfl := ends
      · exact ⟨rfl, (by simp), by simp [Ne.symm elsewhere]⟩
      · exact ⟨rfl, (by simp), rfl⟩
    cases previous.roomCode with
    | none => exact entered
    | some code =>
      refine does_ite.mpr ⟨fun elsewhere => ?_, fun _ => entered⟩
      rw [does_bind]
      obtain ⟨own, unmuted, same⟩ := still code elsewhere
      exact does_runRoomLeftHook own unmuted same fun _ => entered

theorem does_handleClientMessage {message : ClientMessage} (done : ∀ ψ r, ψ.Final calm → Q ψ r) :
    (Phase.outside s seen).Does cfg calm (handleClientMessage cfg s message) Q := by
  have outside : ∀ (ψ : Phase) r, ψ.IsOutside s → Q ψ r := by
    rintro _ r ⟨seen, rfl⟩
    exact done _ _ trivial
  have forwarded : ∀ {α : Type} (ψ : Phase) (r : Except Err α), ψ.IsOutside s →
      thenDo cfg calm (fun _ => pure ()) Q ψ r := by
    intro α ψ r h
    cases r <;> exact outside ψ _ h
  cases message with
  | roomCreate displayName => exact does_enterRoom (fun _ => does_createRoomForSession) done
  | roomJoin code joinToken displayName token =>
    exact does_enterRoom (fun _ => does_joinRoomForSession) done
  | roomLeave =>
    rw [handleClientMessage, does_bind]
    refine does_leaveRoom (.inl ⟨_, rfl⟩) fun ψ r left => ?_
    cases r <;> exact done _ _ (left_final left).1
  | videoShare => rw [handleClientMessage, does_bind]; exact does_shareVideoForSession forwarded
  | playbackUpdate =>
    rw [handleClientMessage, does_bind]; exact does_updatePlaybackForSession forwarded
  | profileUpdate =>
    rw [handleClientMessage, does_bind]; exact does_updateProfileForSession forwarded
  | syncRequest =>
    rw [handleClientMessage, does_bind]
    exact does_requireJoinedRoomSession (.inl ⟨_, rfl⟩) forwarded

theorem does_cleanupSessionAfterClose (done : Q (.gone s true) (.ok ())) :
    (Phase.outside s seen).Does cfg calm (cleanupSessionAfterClose cfg s) Q := by
  have unregistered : ∀ ψ code, LeftEnds calm s ψ → ψ.Does cfg calm (do
      ask (.unregisterSession s)
      ask (.decrementConnectionCount s)
      logEvent "ws_connection_closed" code s) Q := by
    intro ψ code left
    simp only [does_bind, does_ask, asks_unregisterSession, thenDo]
    obtain ⟨st, rfl, empty⟩ | ⟨m, c, stage, rfl, discharged⟩ := left
    · refine ⟨⟨rfl, empty⟩, ?_⟩
      simpa using done
    · refine ⟨⟨rfl, fun c => (discharged c).2⟩, ?_⟩
      simpa using done
  simp only [cleanupSessionAfterClose, does_bind, does_ask, asks_readSession, thenDo, does_attempt,
    Phase.onReadSession]
  refine ⟨rfl, fun session => does_leaveRoom (.inl ⟨_, rfl⟩) fun ψ r left => ?_⟩
  cases r with
  | ok _ => exact does_bind.mp (unregistered ψ _ left)
  | error e =>
    simp only [thenDo, does_bind, does_logEvent, (left_logs left).2]
    exact ⟨(left_logs left).1, does_bind.mp (unregistered ψ _ left)⟩

end Sockets

/-! ## Effects -/

section Effects

variable {n : NodeId} {id : EffectId} {code : Code}

theorem does_scheduleExpiry {s : SessionId} {joinToken : Token} {version : Nat} {t : Time}
    {Q : Phase → Except Err (Option PersistedRoom) → Prop}
    (done : ∀ r, Q (.settling id) (.ok r)) :
    (Phase.scheduling id code joinToken version).Does cfg calm
      (scheduleExpiry s code joinToken version t) Q := by
  simp only [scheduleExpiry, does_bind, does_ask, asks_now, asks_updateRoom, thenDo,
    Phase.onUpdateRoom]
  refine fun now => ⟨⟨rfl, rfl, t, rfl⟩, fun result _ => ?_, fun _ f => ?_⟩
  · cases result with
    | ok room => simpa using done _
    | refused r => simpa using done _
  · simpa using done _

theorem does_rollbackAttempts {joinToken : Token} {Q : Phase → Except Err Bool → Prop}
    (settled : Q (.settling id) (.ok true))
    (owed : ∀ r, ¬calm → r ≠ .ok true → Q (.rollingBack id code joinToken) r) (attempts : Nat)
    (tries : attempts = 0 → ¬calm) :
    (Phase.rollingBack id code joinToken).Does cfg calm (rollbackAttempts code joinToken attempts) Q := by
  induction attempts with
  | zero => exact owed _ (tries rfl) (by simp)
  | succ attempts ih =>
    simp only [rollbackAttempts, does_bind, does_ask, asks_now, does_call, asks_updateRoom, thenDo]
    refine fun now => ⟨⟨rfl, rfl, now, rfl⟩, fun result sound => ?_, fun faulty f =>
      owed _ faulty (by simp)⟩
    cases result with
    | ok room => exact settled
    | refused reason =>
      cases reason with
      | notFound => exact settled
      | versionConflict => exact ih fun _ c => sound.2 c ⟨⟨joinToken, rfl⟩, rfl⟩

theorem does_runOrphanExpiry {s : SessionId} {joinToken : Token} {reason : String}
    (done : Q (.settling id) (.ok ())) :
    (Phase.rollingBack id code joinToken).Does cfg calm (runOrphanExpiry s code joinToken reason) Q := by
  simp only [runOrphanExpiry, does_bind, does_attempt]
  refine does_rollbackAttempts done (fun r faulty failed => ?_) _
    (by simp [ROOM_ROLLBACK_MAX_ATTEMPTS])
  cases r with
  | error e => simpa using ⟨faulty, done⟩
  | ok settled =>
    cases settled with
    | true => exact absurd rfl failed
    | false => simpa using ⟨faulty, done⟩

theorem does_runTask {task : Task} (done : Q .settled (.ok ())) :
    (Phase.begin (.effect n id task)).Does cfg calm (runTask n id task) Q := by
  cases task with
  | scheduleExpiry s code joinToken version t =>
    rw [runTask, does_bind]
    exact does_scheduleExpiry fun r => by simpa using done
  | runOrphanExpiry s code joinToken reason =>
    rw [runTask, does_bind]
    exact does_runOrphanExpiry (by simpa using done)
  | collectExpiredRoom code =>
    simp only [runTask, does_bind, does_attempt]
    refine does_collectExpiredRoom fun stage r => ?_
    cases r <;> simpa using done
  | teardown code g =>
    simp only [runTask, does_bind, does_ask, asks_deleteRoomRuntime, thenDo, Phase.begin]
    refine ⟨⟨n, id, rfl⟩, fun result => ?_⟩
    simpa using done

end Effects

theorem body_unsettled (r : Req) : (body cfg r).settled = false := by
  cases r with
  | effect n id task => cases task <;> rfl
  | message s message => cases message <;> rfl
  | _ => rfl

theorem done_of_final {ψ : Phase} {r : Except Err Res} (final : ψ.Final calm)
    (closed : r ≠ .ok .closed) (live : ∀ s room, ψ = .creating s (.live room) → ∃ v, r = .ok v) :
    ψ.done calm r := ⟨final, fun h => absurd h closed, live⟩

/-- Every request follows the protocol, from its first phase to a final one. -/
theorem follows_body (cfg : Config) (calm : Prop) (r : Req) :
    (body cfg r).Follows (roomDiscipline cfg calm).toProtocol (Phase.begin r) (Phase.done calm) := by
  change (Phase.begin r).Does cfg calm (body cfg r) (Phase.done calm)
  have outside : ∀ {α : Type} {s : SessionId} {f : α → Res} (ψ : Phase) (r : Except Err α),
      (∀ a, f a ≠ .closed) → ψ.IsOutside s →
      thenDo cfg calm (fun a => (pure (f a) : Service Res)) (Phase.done calm) ψ r := by
    rintro α s f _ r open_ ⟨seen, rfl⟩
    cases r with
    | ok a => exact done_of_final trivial (by simpa using open_ a) (by simp)
    | error e => exact done_of_final trivial (by simp) (by simp)
  have entered : ∀ {s : SessionId} (ψ : Phase) (r : Except Err (PersistedRoom × Token)),
      EnterEnds calm s ψ r →
      thenDo cfg calm (fun p => (pure (.entered p.1 p.2) : Service Res)) (Phase.done calm) ψ r := by
    intro s ψ r ends
    cases r with
    | ok seat =>
      obtain ⟨m, h⟩ | h := ends
      · subst h
        exact done_of_final trivial (by simp) (by simp)
      · subst h
        exact done_of_final trivial (by simp) fun _ _ _ => ⟨_, rfl⟩
    | error e =>
      obtain ⟨m, c, stage, h, discharged⟩ | h | ⟨stage, h, final, dead⟩ := ends
      · subst h
        exact done_of_final (fun c => (discharged c).1) (by simp) (by simp)
      · subst h
        exact done_of_final trivial (by simp) (by simp)
      · subst h
        refine done_of_final final (by simp) fun s room h => ?_
        cases h
        exact absurd rfl (dead room)
  have collected : ∀ {α : Type} {f : α → Res} (stage : CollectStage) (r : Except Err α),
      (∀ a, f a ≠ .closed) →
      thenDo cfg calm (fun a => (pure (f a) : Service Res)) (Phase.done calm)
        (.collecting none stage) r := by
    intro α f stage r open_
    cases r with
    | ok a => exact done_of_final rfl (by simpa using open_ a) (by simp)
    | error e => exact done_of_final rfl (by simp) (by simp)
  cases r with
  | create s displayName =>
    rw [body, does_bind]
    exact does_createRoomForSession entered
  | join s code joinToken displayName token =>
    rw [body, does_bind]
    exact does_joinRoomForSession entered
  | leave s reason =>
    rw [body, does_bind]
    refine does_leaveCurrentRoom fun ψ r ends => ?_
    have left : LeftEnds calm s ψ := by
      cases r with
      | ok _ => exact left_of_enters ends.1 ends.2
      | error _ => exact .inr ends
    obtain ⟨final, dead⟩ := left_final left
    cases r with
    | ok _ => exact done_of_final final (by simp) fun s room h => absurd h (dead s room)
    | error e => exact done_of_final final (by simp) fun s room h => absurd h (dead s room)
  | share s token video playback =>
    rw [body, does_bind]
    exact does_shareVideoForSession fun ψ r => outside ψ r (by simp)
  | updatePlayback s token playback =>
    rw [body, does_bind]
    exact does_updatePlaybackForSession fun ψ r => outside ψ r (by simp)
  | updateProfile s token displayName =>
    rw [body, does_bind]
    exact does_updateProfileForSession fun ψ r => outside ψ r (by simp)
  | clearRoomVideo n code =>
    rw [body, clearRoomVideo, does_bind]
    refine does_clearVideoAttempts (fun r => ?_) _
    cases r with
    | ok room => exact done_of_final trivial (by simp) (by simp)
    | error e => exact done_of_final trivial (by simp) (by simp)
  | deleteExpiredRooms n =>
    rw [body, does_bind]
    exact does_deleteExpiredRooms fun stage r => collected stage r (by simp)
  | teardownRoomRuntime n code =>
    rw [body, does_bind]
    exact does_teardownRoomRuntime fun stage r => collected stage r (by simp)
  | effect n id task =>
    rw [body, does_bind]
    exact does_runTask (done_of_final trivial (by simp) (by simp))
  | message s message =>
    simp only [body, does_bind, does_attempt]
    refine does_handleClientMessage fun ψ r final => ?_
    exact done_of_final final (by simp) fun _ _ _ => ⟨_, rfl⟩
  | cleanup s =>
    rw [body, does_bind]
    exact does_cleanupSessionAfterClose ⟨rfl, fun _ => ⟨s, rfl⟩, (by simp)⟩

/-! ## Runs of the service -/

/-- Calls that come from outside: effects are started by the service alone. -/
def Req.entry : Req → Bool
  | .effect .. => false
  | _ => true

/-- Anything goes: every entry point, every interleaving, every failure. -/
abbrev served (cfg : Config) (calm : Prop) : (roomDiscipline cfg calm).Terms where
  start _ _ r := r.entry = true
  act _ _ _ _ _ _ := True
  occur _ _ _ := True

/-- Nodes just started, over whatever the stores hold. -/
structure World.Booted (w : World) : Prop where
  keyed : w.roomStore.Keyed
  idle : ∀ n, w.nodes n = {}
  effects : w.effects = .empty

/-- A node of its own, for runs that are looked at step by step. -/
def oneNode : Config := ⟨8, 1000, 100000, true, fun _ => 0, fun _ => none, some⟩

def turns (cfg : Config) (i n : Nat) : List (Move (machine cfg)) := List.replicate n (.run i .ok)

end BiliSyncPlay
