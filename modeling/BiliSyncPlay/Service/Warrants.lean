import BiliSyncPlay.Service.Quiet

/-!
# What calls are warranted to do

Each write of what plays, and each record of an authority, is accounted for by the request of the
call that issues it and by what the call was answered before: a share stores what was shared, an
update is judged against a record that was read, under a stamp taken after the reading, and an
authority is recorded right after the write it stands for.
-/

namespace BiliSyncPlay

open Interleave Prog

abbrev Past := List ((c : Cmd) × c.Ans)

/-- The store answered this record. -/
def WasRead (past : Past) (room : PersistedRoom) : Prop :=
  ∃ asked, ⟨.getRoom asked, .ok (some room)⟩ ∈ past

variable {c : Cmd} {later : Past} {memberToken : Token} {room : PersistedRoom}

theorem WasRead.mono {past : Past} (h : WasRead past room) (grown : past <:+ later) :
    WasRead later room := by
  obtain ⟨asked, mem⟩ := h
  exact ⟨asked, grown.subset mem⟩

theorem WasRead.cons {past : Past} {entry : (c : Cmd) × c.Ans} (h : WasRead past room) :
    WasRead (entry :: past) room :=
  h.mono (List.suffix_cons ..)

/-- The time was taken after the store answered this record. -/
def TakenAfter (past : Past) (room : PersistedRoom) (time : Time) : Prop :=
  ∃ later earlier asked, past = later ++ ⟨.getRoom asked, .ok (some room)⟩ :: earlier ∧
    ⟨.now, time⟩ ∈ later

theorem WasRead.taken {past : Past} (h : WasRead past room) (time : Time) :
    TakenAfter (⟨.now, time⟩ :: past) room time := by
  obtain ⟨asked, mem⟩ := h
  obtain ⟨later, earlier, rfl⟩ := List.append_of_mem mem
  exact ⟨⟨.now, time⟩ :: later, earlier, asked, rfl, List.mem_cons_self⟩

theorem TakenAfter.read {past : Past} {time : Time} (h : TakenAfter past room time) :
    WasRead past room := by
  obtain ⟨newer, earlier, asked, rfl, -⟩ := h
  exact ⟨asked, by simp⟩

theorem TakenAfter.mono {past : Past} {time : Time} (h : TakenAfter past room time)
    (grown : past <:+ later) : TakenAfter later room time := by
  obtain ⟨newer, earlier, asked, rfl, mem⟩ := h
  obtain ⟨newest, rfl⟩ := grown
  exact ⟨newest ++ newer, earlier, asked, by simp, List.mem_append_right _ mem⟩

theorem TakenAfter.cons {past : Past} {time : Time} {entry : (c : Cmd) × c.Ans}
    (h : TakenAfter past room time) :
    TakenAfter (entry :: past) room time :=
  h.mono (List.suffix_cons ..)

/-- What a request shares, with the playback it carries. -/
def Req.share? : Req → Option (SharedVideo × Option PlaybackState)
  | .share _ _ video playback | .message _ (.videoShare _ video playback) => some (video, playback)
  | _ => none

/-- The playback a request updates to. -/
def Req.update? : Req → Option PlaybackState
  | .updatePlayback _ _ playback | .message _ (.playbackUpdate _ playback) => some playback
  | _ => none

/-- In whose name a share or an update is asked for, and by which token. -/
def Req.bearer? : Req → Option (SessionId × Token)
  | .share s memberToken _ _ | .message s (.videoShare memberToken _ _)
  | .updatePlayback s memberToken _ | .message s (.playbackUpdate memberToken _) =>
    some (s, memberToken)
  | _ => none

/-- The session was found seated in the room, and the token to be its member's. -/
def Admitted (past : Past) (s : SessionId) (memberToken : Token) (code : Code) : Prop :=
  ∃ (active : ActiveRoom) (session : Session) (m : MemberId),
    ⟨.getActiveRoom code, some active⟩ ∈ past ∧ ⟨.readSession s, session⟩ ∈ past ∧
    session.memberId = some m ∧ session.memberToken = some memberToken ∧
    active.members.get? m = some s ∧ active.memberTokens.get? m = some memberToken

theorem Admitted.mono {past : Past} {s : SessionId} {code : Code}
    (h : Admitted past s memberToken code) (grown : past <:+ later) :
    Admitted later s memberToken code := by
  obtain ⟨active, session, m, seated, read, rest⟩ := h
  exact ⟨active, session, m, grown.subset seated, grown.subset read, rest⟩

/-- Who the session was when asked. -/
def ActsAs (past : Past) (s : SessionId) (actorId : MemberId) : Prop :=
  ∃ session : Session, ⟨.readSession s, session⟩ ∈ past ∧ session.actor s = actorId

theorem ActsAs.mono {past : Past} {s : SessionId} {actorId : MemberId} (h : ActsAs past s actorId)
    (grown : past <:+ later) : ActsAs later s actorId := by
  obtain ⟨session, read, same⟩ := h
  exact ⟨session, grown.subset read, same⟩

/-- Whether a request creates a room. -/
def Req.creates : Req → Bool
  | .create .. | .message _ (.roomCreate _) => true
  | _ => false

/-- Whether a request clears the video of a room. -/
def Req.clears : Req → Bool
  | .clearRoomVideo .. => true
  | _ => false

/-- The write that `kind` and `source` stand for, at the head of a call's past: `next` is what it
stored, and `room` the record the store answered. -/
inductive EarnsAuthority (n : NodeId) (code : Code) (next : PlaybackState) (room : PersistedRoom) :
    PlaybackAuthorityKind → PlaybackAuthoritySource → Past → Prop where
  | share {version : Nat} {video : SharedVideo} {storedAt : Time} {past : Past} :
    EarnsAuthority n code next room .share .videoShare
      (⟨.updateRoom code (.version version)
        { sharedVideo := some (some video), playback := some (some next), expiresAt := some none
          lastActiveAt := some storedAt }, .ok (.ok room)⟩ :: past)
  | update {access : PersistedRoom} {authority : Option PlaybackAuthority} {asked : Code}
      {judgedAt : Time} {kind : PlaybackAuthorityKind} {past : Past}
      (read : ⟨.getRoom asked, .ok (some access)⟩ ∈ past)
      (judged : ⟨.getPlaybackAuthority n code, authority⟩ ∈ past)
      (accepted : decidePlaybackAcceptance access.playback authority next judgedAt = .accept)
      (changed : isSteadyTick access.playback next = false)
      (derived : derivePlaybackAuthorityKind access.playback next = some kind) :
    EarnsAuthority n code next room kind .playbackUpdate
      (⟨.updateRoom code (.version access.version)
        { playback := some (some next), expiresAt := some none, lastActiveAt := some judgedAt },
        .ok (.ok room)⟩ :: past)

/-- What a call of this request may issue after this past. -/
inductive Warranted (cfg : Config) (req : Req) (past : Past) : Cmd → Prop where
  | plain {c : Cmd} (plain : c.plain = true) : Warranted cfg req past c
  | founds {input : CreatePersistedRoomInput} (creates : req.creates = true) :
    Warranted cfg req past (.createRoom input)
  | clears {n : NodeId} {code : Code} {room : PersistedRoom} {clearedAt : Time}
      (clears : req = .clearRoomVideo n code) (read : ⟨.getRoom code, .ok (some room)⟩ ∈ past) :
    Warranted cfg req past (.updateRoom room.code (.version room.version)
      { sharedVideo := some none, playback := some none, expiresAt := some none
        lastActiveAt := some clearedAt })
  | shares {s : SessionId} {memberToken : Token} {code : Code} {room : PersistedRoom}
      {video : SharedVideo} {playback : Option PlaybackState} {actorId : MemberId}
      {displayName : String} {takenAt : Time} (bears : req.bearer? = some (s, memberToken))
      (shares : req.share? = some (video, playback)) (admitted : Admitted past s memberToken code)
      (taken : ⟨.now, takenAt⟩ ∈ past) (read : ⟨.getRoom code, .ok (some room)⟩ ∈ past)
      (acts : ActsAs past s actorId) :
    Warranted cfg req past (.updateRoom room.code (.version room.version)
      { sharedVideo := some (some { video with
          sharedByMemberId := some actorId
          sharedByDisplayName := some displayName })
        playback := some (some (sharedPlayback video playback actorId takenAt))
        expiresAt := some none
        lastActiveAt := some takenAt })
  | updates {s : SessionId} {memberToken : Token} {access : PersistedRoom} {shared : SharedVideo}
      {playback : PlaybackState} {actorId : MemberId} {takenAt : Time}
      (bears : req.bearer? = some (s, memberToken)) (updates : req.update? = some playback)
      (admitted : Admitted past s memberToken access.code)
      (taken : TakenAfter past access takenAt) (shown : access.sharedVideo = some shared)
      (same : urlsMatch cfg shared playback = true) (acts : ActsAs past s actorId) :
    Warranted cfg req past (.updateRoom access.code (.version access.version)
      { playback := some (some (stampedPlayback playback actorId takenAt))
        expiresAt := some none
        lastActiveAt := some takenAt })
  | records {n : NodeId} {code : Code} {next : PlaybackState} {room : PersistedRoom}
      {kind : PlaybackAuthorityKind} {source : PlaybackAuthoritySource}
      (earned : EarnsAuthority n code next room kind source past) :
    Warranted cfg req past (.recordPlaybackAuthority n code next.actorId kind source)

/-- Everything a call issues is warranted. -/
abbrev warrants (cfg : Config) (req : Req) : Protocol Cmd Cmd.Ans := recording (Warranted cfg req)

section
variable {α β : Type} {cfg : Config} {req : Req} {n : NodeId} {s : SessionId} {code : Code}
  {past : Past} {Q : Past → Except Err β → Prop}

theorem Quiet.warranted {p : Service α} (h : Quiet p) :
    p.Follows (warrants cfg req) past fun _ _ => True :=
  Issues.follows h fun _ _ => .plain

theorem Founds.warranted {p : Service α} (h : Founds p) (creates : req.creates = true) :
    p.Follows (warrants cfg req) past fun _ _ => True := by
  apply Issues.follows h
  rintro past c (plain | ⟨input, rfl⟩)
  · exact .plain plain
  · exact .founds creates

/-- A quiet beginning leaves the rest to be warranted. -/
theorem warranted_after {x : Service α} {f : α → Service β} (quiet : Quiet x)
    (rest : ∀ later a, past <:+ later → (f a).Follows (warrants cfg req) later fun _ _ => True) :
    (x >>= f).Follows (warrants cfg req) past fun _ _ => True := by
  rw [follows_bind]
  apply quiet.warranted.grown.mono
  intro later r grown
  cases r with
  | ok a => exact rest later a grown.1
  | error e => trivial

/-- What follows an awaited store call, whichever way it answered. -/
def orFault (Q : Past → Except Err α → Prop) (past : Past) : Except Err (Except Fault α) → Prop
  | .ok (.ok a) => Q past (.ok a)
  | .ok (.error fault) => Q past (.error (.store fault))
  | .error e => Q past (.error e)

theorem warranted_call {p : Service (Except Fault α)} {Q : Past → Except Err α → Prop}
    (h : p.Follows (warrants cfg req) past (orFault Q)) :
    (call p).Follows (warrants cfg req) past Q := by
  unfold call
  rw [follows_bind]
  apply h.mono
  intro later r end_
  match r with
  | .ok (.ok _) | .ok (.error _) | .error _ => exact end_

theorem warranted_ask {Q : Past → Except Err c.Ans → Prop} (plain : c.plain = true)
    (rest : ∀ a, Q (⟨c, a⟩ :: past) (.ok a)) : (ask c).Follows (warrants cfg req) past Q :=
  ⟨.plain plain, fun a _ => rest a⟩

theorem warranted_step {f : c.Ans → Service β} (may : Warranted cfg req past c)
    (rest : ∀ a, (f a).Follows (warrants cfg req) (⟨c, a⟩ :: past) Q) :
    (ask c >>= f).Follows (warrants cfg req) past Q :=
  ⟨may, fun a _ => rest a⟩

theorem warranted_next {f : c.Ans → Service β} (plain : c.plain = true)
    (rest : ∀ a, (f a).Follows (warrants cfg req) (⟨c, a⟩ :: past) Q) :
    (ask c >>= f).Follows (warrants cfg req) past Q :=
  warranted_step (.plain plain) rest

theorem warranted_logged {event : String} {code : Option Code} {session : Option SessionId}
    {reason : Option String} {f : Unit → Service β}
    (rest : ∀ past, (f ()).Follows (warrants cfg req) past fun _ _ => True) :
    (logEvent event code session reason >>= f).Follows (warrants cfg req) past fun _ _ => True :=
  warranted_next rfl fun _ => rest _

/-! ## What was read -/

/-- The record a room resolves to is one the store answered. -/
theorem reads_resolveRoom : (resolveRoom n code).Follows (warrants cfg req) past fun later r =>
    ∀ room, r = .ok (some room) → ⟨.getRoom code, .ok (some room)⟩ ∈ later := by
  have dead (past : Past) {x : Service RoomServiceError} (quiet : Quiet x) :
      (do throw (.service (← x)) : Service (Option PersistedRoom)).Follows (warrants cfg req) past
        fun later r => ∀ room, r = .ok (some room) →
          ⟨.getRoom code, .ok (some room)⟩ ∈ later := by
    rw [follows_bind]
    apply quiet.warranted.mono
    intro later r _
    cases r <;> simp
  have unconfirmed (past : Past) (trigger : String) := dead past
    (Quiet.logged trivial : Quiet (unconfirmedRoomResolution code trigger))
  unfold resolveRoom
  rw [follows_bind]
  apply warranted_call
  apply warranted_ask rfl
  intro answer
  match answer with
  | .error _ | .ok none => simp [orFault]
  | .ok (some room) =>
    apply warranted_next rfl
    intro currentTime
    split
    · apply warranted_next rfl
      intro closing
      split
      · exact unconfirmed ..
      · apply warranted_next rfl
        intro effect
        apply warranted_next rfl
        intro settled
        match settled with
        | none => exact unconfirmed ..
        | some (.deletion .superseded) =>
          dsimp only
          rw [follows_bind]
          apply warranted_call
          apply warranted_ask rfl
          intro answer
          match answer with
          | .error _ | .ok none => simp [orFault]
          | .ok (some fresh) =>
            apply warranted_next rfl
            intro later
            split
            · exact unconfirmed ..
            · rintro room' same
              cases same
              simp
        | some (.failed _) | some (.deletion .deleted) | some (.deletion .alreadyDeleted)
        | some (.applied _) | some (.scheduled _) | some .finished => simp
    · rintro room' same
      cases same
      simp

/-- Whoever gets access to a room was found to be seated in it. -/
theorem admits_requireJoinedRoomSession (memberToken : Token) :
    (requireJoinedRoomSession cfg s memberToken).Follows (warrants cfg req) past fun later r =>
      ∀ access, r = .ok access →
        WasRead later access ∧ Admitted later s memberToken access.code := by
  have refused (past : Past) {x : Service Unit} {error : Err} (quiet : Quiet x) :
      (do x; throw error : Service PersistedRoom).Follows (warrants cfg req) past
        fun later r => ∀ access, r = .ok access →
          WasRead later access ∧ Admitted later s memberToken access.code := by
    rw [follows_bind]
    apply quiet.warranted.mono
    intro later r _
    cases r <;> simp
  have outside (past : Past) {x : Service Unit} {error : Err} (quiet : Quiet x) :
      (do ask (.clearSessionRoom s); x; throw error : Service PersistedRoom).Follows
        (warrants cfg req) past
        fun later r => ∀ access, r = .ok access →
          WasRead later access ∧ Admitted later s memberToken access.code :=
    warranted_next rfl fun _ => refused _ quiet
  apply warranted_next rfl
  intro session
  cases session.roomCode with
  | none => exact refused _ (quiet_logEvent ..)
  | some roomCode =>
    dsimp only
    rw [follows_bind]
    apply reads_resolveRoom.mono
    intro later r read
    cases r with
    | error _ => simp
    | ok found =>
      cases found with
      | none => exact outside _ (quiet_logEvent ..)
      | some room =>
        rw [andThen_ok]
        apply warranted_next rfl
        intro activeRoom
        apply warranted_next rfl
        intro session
        cases activeRoom with
        | none => exact outside _ (quiet_logEvent ..)
        | some active =>
          cases known : session.memberId with
          | none => exact outside _ (quiet_logEvent ..)
          | some memberId =>
            dsimp only
            split
            · exact outside _ (quiet_logEvent ..)
            · rename_i seated
              split
              · exact refused _ (quiet_logEvent ..)
              · rename_i holds
                rintro access same
                cases same
                refine ⟨⟨_, List.mem_cons_of_mem _ (List.mem_cons_of_mem _ (read room rfl))⟩, ?_⟩
                have holds := not_or.mp holds
                exact ⟨active, session, memberId, by simp, by simp, known, not_not.mp holds.1,
                  not_not.mp seated, not_not.mp holds.2⟩

/-! ## Sharing and updating -/

theorem warranted_withVersionRetry {action : PersistedRoom → Service (Option α)}
    (h : ∀ later room, past <:+ later → ⟨.getRoom code, .ok (some room)⟩ ∈ later →
      (action room).Follows (warrants cfg req) later fun _ _ => True) (attempts : Nat) :
    (withVersionRetry n code action attempts).Follows (warrants cfg req) past
      fun _ _ => True := by
  induction attempts generalizing past with
  | zero => exact warranted_logged fun _ => trivial
  | succ attempts ih =>
    rw [withVersionRetry, follows_bind]
    apply reads_resolveRoom.grown.mono
    rintro later r ⟨grown, read⟩
    match r with
    | .error _ | .ok none => trivial
    | .ok (some room) =>
      rw [andThen_ok]
      dsimp only
      rw [follows_bind]
      apply (h later room grown (read room rfl)).grown.mono
      rintro latest r ⟨further, -⟩
      match r with
      | .ok (some _) | .error _ => trivial
      | .ok none => exact ih fun last room more => h last room ((grown.trans further).trans more)

theorem warranted_writeSharedVideo {video : SharedVideo} {playback : Option PlaybackState}
    {takenAt : Time} (bears : req.bearer? = some (s, memberToken))
    (shares : req.share? = some (video, playback)) (admitted : Admitted past s memberToken code)
    (taken : ⟨.now, takenAt⟩ ∈ past) (read : ⟨.getRoom code, .ok (some room)⟩ ∈ past) :
    (writeSharedVideo cfg s video playback takenAt room).Follows (warrants cfg req) past
      fun _ _ => True := by
  apply warranted_next rfl
  intro session
  dsimp only
  rw [follows_bind]
  apply warranted_call
  have later : past <:+ ⟨.readSession s, session⟩ :: past := List.suffix_cons ..
  refine ⟨.shares bears shares (admitted.mono later) (later.subset taken) (later.subset read)
    ⟨session, by simp, rfl⟩, fun result _ => ?_⟩
  match result with
  | .error _ | .ok (.refused _) => trivial
  | .ok (.ok stored) => exact ⟨.records .share, fun _ _ => trivial⟩

theorem warranted_shareVideoForSession {video : SharedVideo} {playback : Option PlaybackState}
    (bears : req.bearer? = some (s, memberToken)) (shares : req.share? = some (video, playback)) :
    (shareVideoForSession cfg s memberToken video playback).Follows (warrants cfg req) past
      fun _ _ => True := by
  unfold shareVideoForSession
  rw [follows_bind]
  apply (admits_requireJoinedRoomSession memberToken).mono
  intro past r admits
  cases r with
  | error e => trivial
  | ok access =>
    have admitted := (admits access rfl).2
    rw [andThen_ok]
    apply warranted_next rfl
    intro takenAt
    apply warranted_next rfl
    intro session
    apply warranted_next rfl
    intro dedupToken
    apply warranted_after (quiet_call (quiet_ask rfl))
    intro past claimed grown
    dsimp only
    split
    · exact warranted_logged fun _ => trivial
    · have taken : ⟨.now, takenAt⟩ ∈ past := grown.subset (by simp)
      have admitted := admitted.mono (.trans ⟨[_, _, _], rfl⟩ grown)
      rw [follows_bind, attempt, follows_tryCatch, follows_bind]
      apply (warranted_withVersionRetry (fun later room further read =>
        warranted_writeSharedVideo bears shares (admitted.mono further) (further.subset taken)
          read) _).mono
      intro later r _
      match r with
      | .error _ =>
        exact warranted_after (quiet_releaseMessageSlotBestEffort ..) fun _ _ _ => trivial
      | .ok none =>
        exact warranted_after (quiet_releaseMessageSlotBestEffort ..) fun _ _ _ =>
          warranted_logged fun _ => trivial
      | .ok (some _) => exact warranted_logged fun _ => trivial

theorem warranted_reportAppliedPlayback {access : PersistedRoom} {next : PlaybackState}
    (earned : ∀ kind, derivePlaybackAuthorityKind access.playback next = some kind →
      isSteadyTick access.playback next = false →
      ∃ room, EarnsAuthority (cfg.nodeOf s) access.code next room kind .playbackUpdate past) :
    (reportAppliedPlayback cfg s access next).Follows (warrants cfg req) past
      fun _ _ => True := by
  unfold reportAppliedPlayback
  dsimp only
  split
  · rename_i kind derived
    split
    · rename_i changed
      obtain ⟨room, earned⟩ := earned kind derived (by simpa using changed)
      refine ⟨.records earned, fun _ _ => ?_⟩
      exact warranted_next rfl fun _ => (quiet_logEvent ..).warranted
    · exact warranted_next rfl fun _ => trivial
  · apply warranted_next rfl
    intro _
    split
    · exact (quiet_logEvent ..).warranted
    · trivial

theorem warranted_writePlayback {access : PersistedRoom} {shared : SharedVideo}
    {playback : PlaybackState} {actorId : MemberId} {takenAt : Time}
    {authority : Option PlaybackAuthority} (bears : req.bearer? = some (s, memberToken))
    (updates : req.update? = some playback) (key : SlotKey) (dedupToken : Token)
    (admitted : Admitted past s memberToken access.code) (acts : ActsAs past s actorId)
    (taken : TakenAfter past access takenAt) (video : access.sharedVideo = some shared)
    (same : urlsMatch cfg shared playback = true)
    (judged : ⟨.getPlaybackAuthority (cfg.nodeOf s) access.code, authority⟩ ∈ past)
    (accepted : decidePlaybackAcceptance access.playback authority
      (stampedPlayback playback actorId takenAt) takenAt = .accept) :
    (writePlayback cfg s access key dedupToken (stampedPlayback playback actorId takenAt)
      takenAt).Follows (warrants cfg req) past fun _ _ => True := by
  have released : Quiet (releaseMessageSlotBestEffort access.code key dedupToken) :=
    quiet_releaseMessageSlotBestEffort ..
  obtain ⟨asked, read⟩ := taken.read
  apply warranted_step (.updates bears updates admitted taken video same acts)
  intro result
  match result with
  | .error _ | .ok (.refused .notFound) => exact warranted_after released fun _ _ _ => trivial
  | .ok (.refused .versionConflict) => exact warranted_logged fun _ => trivial
  | .ok (.ok room) =>
    dsimp only
    rw [follows_bind]
    apply Follows.mono (warranted_reportAppliedPlayback fun kind derived changed =>
      ⟨room, .update read judged accepted changed derived⟩)
    intro later r _
    cases r <;> trivial

theorem warranted_updatePlaybackForSession {playback : PlaybackState}
    (bears : req.bearer? = some (s, memberToken)) (updates : req.update? = some playback) :
    (updatePlaybackForSession cfg s memberToken playback).Follows (warrants cfg req) past
      fun _ _ => True := by
  unfold updatePlaybackForSession
  rw [follows_bind]
  apply (admits_requireJoinedRoomSession memberToken).mono
  intro past r admits
  cases r with
  | error e => trivial
  | ok access =>
    obtain ⟨read, admitted⟩ := admits access rfl
    rw [andThen_ok]
    apply warranted_next rfl
    intro session
    apply warranted_next rfl
    intro dedupToken
    apply warranted_next rfl
    intro claimedAt
    rw [follows_bind]
    apply warranted_call
    apply warranted_ask rfl
    intro claimed
    match claimed with
    | .error _ => trivial
    | .ok claimed =>
      dsimp only [orFault, andThen_ok]
      split
      · exact warranted_logged fun _ => trivial
      · split
        · exact warranted_after (quiet_releaseMessageSlotBestEffort ..) fun _ _ _ => trivial
        · rename_i shared video
          split
          · exact warranted_after (quiet_releaseMessageSlotBestEffort ..) fun _ _ _ => trivial
          · rename_i same
            apply warranted_next rfl
            intro currentTime
            apply warranted_next rfl
            intro session
            apply warranted_next rfl
            intro authority
            split
            · exact warranted_logged fun _ => trivial
            · rename_i accepted
              refine warranted_writePlayback bears updates _ _
                (admitted.mono ⟨[_, _, _, _, _, _, _], rfl⟩) ⟨session, by simp, rfl⟩ ?_ video
                (by simpa using same) List.mem_cons_self (not_not.mp accepted)
              iterate 2 apply TakenAfter.cons
              apply WasRead.taken
              iterate 4 apply WasRead.cons
              exact read

/-! ## Every entry point -/

theorem warranted_clearVideoAttempts (clears : req = .clearRoomVideo n code) (attempts : Nat) :
    (clearVideoAttempts code attempts).Follows (warrants cfg req) past fun _ _ => True := by
  induction attempts generalizing past with
  | zero => trivial
  | succ attempts ih =>
    unfold clearVideoAttempts
    rw [follows_bind]
    apply warranted_call
    apply warranted_ask rfl
    intro answer
    match answer with
    | .error _ | .ok none => trivial
    | .ok (some room) =>
      apply warranted_next rfl
      intro currentTime
      rw [follows_bind]
      apply warranted_call
      refine ⟨.clears clears (by simp), fun result _ => ?_⟩
      match result with
      | .error _ | .ok (.ok _) | .ok (.refused .notFound) => trivial
      | .ok (.refused .versionConflict) => exact ih

theorem warranted_handleClientMessage (message : ClientMessage) (own : req = .message s message) :
    (handleClientMessage cfg s message).Follows (warrants cfg req) past fun _ _ => True := by
  have answered {α : Type} {p : Service α}
      (h : p.Follows (warrants cfg req) past fun _ _ => True) :
      (do let _ ← p; pure () : Service Unit).Follows (warrants cfg req) past
        fun _ _ => True := by
    rw [follows_bind]
    apply h.mono
    intro later r _
    cases r <;> trivial
  subst own
  cases message with
  | roomCreate displayName =>
    have founds : Founds (enterRoom cfg s (createRoomForSession cfg s displayName)) :=
      issues_enterRoom (fun _ => .inl) (founds_createRoomForSession _)
    exact founds.warranted rfl
  | roomJoin code joinToken displayName memberToken =>
    have quiet : Quiet (enterRoom cfg s
        (joinRoomForSession cfg s code joinToken displayName memberToken)) :=
      issues_enterRoom (fun _ => id) (quiet_joinRoomForSession ..)
    exact quiet.warranted
  | roomLeave => exact answered (quiet_leaveRoom _).warranted
  | videoShare memberToken video playback => exact answered (warranted_shareVideoForSession rfl rfl)
  | playbackUpdate memberToken playback =>
    exact answered (warranted_updatePlaybackForSession rfl rfl)
  | profileUpdate memberToken displayName =>
    exact answered (quiet_updateProfileForSession ..).warranted
  | syncRequest memberToken => exact answered (quiet_requireJoinedRoomSession _).warranted

/-- Whatever a call of the service issues is warranted. -/
theorem body_warranted (cfg : Config) (req : Req) :
    (body cfg req).Follows (warrants cfg req) past fun _ _ => True := by
  have settled {α : Type} {p : Service α} {f : α → Res}
      (h : p.Follows (warrants cfg req) past fun _ _ => True) :
      (do pure (f (← p)) : Service Res).Follows (warrants cfg req) past fun _ _ => True := by
    rw [follows_bind]
    apply h.mono
    intro later r _
    cases r <;> trivial
  cases req with
  | create s displayName =>
    have founds : Founds (body cfg (.create s displayName)) :=
      issues_bind (founds_createRoomForSession _) fun _ => trivial
    exact founds.warranted rfl
  | join s code joinToken displayName memberToken =>
    exact warranted_after (quiet_joinRoomForSession ..) fun _ _ _ => trivial
  | leave s reason => exact settled (quiet_leaveCurrentRoom _).warranted
  | share s memberToken video playback => exact settled (warranted_shareVideoForSession rfl rfl)
  | updatePlayback s memberToken playback =>
    exact settled (warranted_updatePlaybackForSession rfl rfl)
  | updateProfile s memberToken displayName =>
    exact settled (quiet_updateProfileForSession ..).warranted
  | clearRoomVideo n code => exact settled (warranted_clearVideoAttempts rfl _)
  | deleteExpiredRooms n => exact settled quiet_deleteExpiredRooms.warranted
  | teardownRoomRuntime n code =>
    exact warranted_after quiet_teardownRoomRuntime fun _ _ _ => trivial
  | effect n id task => exact warranted_after (quiet_runTask id task) fun _ _ _ => trivial
  | message s message =>
    change Follows (warrants cfg _) past (attempt (handleClientMessage cfg s message) >>= _) _
    rw [follows_bind, attempt, follows_tryCatch, follows_bind]
    apply (warranted_handleClientMessage message rfl).mono
    intro later r _
    cases r <;> trivial
  | cleanup s => exact warranted_after quiet_cleanupSessionAfterClose fun _ _ _ => trivial

end

/-- Whatever a call of a pool is about to issue is warranted. -/
theorem warranted_of_next {cfg : Config} {p : Pool (machine cfg)} (genuine : p.Genuine)
    {call : Call (machine cfg)} (mem : call ∈ p.calls) (next : call.rest.next? = some c) :
    Warranted cfg call.req call.hist c := by
  have follows := (genuine call mem).follows (body_warranted cfg call.req)
  match rest : call.rest with
  | .op c' k =>
    rw [rest] at follows next
    cases next
    exact follows.1
  | .ret _ | .fail _ => rw [rest] at next; cases next

end BiliSyncPlay
