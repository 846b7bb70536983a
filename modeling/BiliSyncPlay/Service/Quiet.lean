import BiliSyncPlay.Interleave.Past
import BiliSyncPlay.Service.Machine

/-!
# What leaves the playback alone

Shares, playback updates and the clearing of a video write what plays, and the first two record
whose doing it was. Everything else the service does, their own admission and the collection of
dead rooms included, touches neither; only a creation makes a record.
-/

namespace BiliSyncPlay

open Interleave Prog

/-- Neither makes a record nor touches the playback or the authority of one. -/
def Cmd.plain : Cmd → Bool
  | .recordPlaybackAuthority .. | .createRoom _ => false
  | .updateRoom _ _ patch => patch.sharedVideo.isNone && patch.playback.isNone
  | _ => true

/-- No path of the program leaves the plain commands. -/
abbrev Quiet {α : Type} (p : Service α) : Prop := p.Issues fun c => c.plain = true

/-- Beside plain commands, the program may make records. -/
abbrev Founds {α : Type} (p : Service α) : Prop :=
  p.Issues fun c => c.plain = true ∨ ∃ input, c = .createRoom input

section
variable {α β : Type} {cfg : Config} {n : NodeId} {s : SessionId} {code : Code}

theorem quiet_ask {c : Cmd} (plain : c.plain = true) : Quiet (ask c) := issues_perform.mpr plain

theorem quiet_logEvent (event : String) (code : Option Code) (session : Option SessionId)
    (reason : Option String) : Quiet (logEvent event code session reason) := quiet_ask rfl

theorem Quiet.bind {x : Service α} {f : α → Service β} (hx : Quiet x) (hf : ∀ a, Quiet (f a)) :
    Quiet (x >>= f) := issues_bind hx hf

/-- A plain command first. -/
theorem Quiet.after {c : Cmd} {f : c.Ans → Service β} (plain : c.plain = true)
    (hf : ∀ a, Quiet (f a)) : Quiet (ask c >>= f) := (quiet_ask plain).bind hf

/-- A line of the log first. -/
theorem Quiet.logged {event : String} {code : Option Code} {session : Option SessionId}
    {reason : Option String} {f : Unit → Service β} (hf : Quiet (f ())) :
    Quiet (logEvent event code session reason >>= f) :=
  (quiet_logEvent ..).bind fun _ => hf

theorem Quiet.founds {x : Service α} (h : Quiet x) : Founds x := h.mono fun _ => .inl

theorem Founds.after {c : Cmd} {f : c.Ans → Service β}
    (may : c.plain = true ∨ ∃ input, c = .createRoom input) (hf : ∀ a, Founds (f a)) :
    Founds (ask c >>= f) := issues_bind (issues_perform.mpr may) hf

theorem quiet_call {p : Service (Except Fault α)} (h : Quiet p) : Quiet (call p) := by
  apply h.bind
  intro result
  cases result with
  | ok a => trivial
  | error f => trivial

theorem issues_attempt {may : Cmd → Prop} {p : Service α} (h : p.Issues may) :
    (attempt p).Issues may := by
  apply issues_tryCatch
  · exact issues_bind h fun _ => trivial
  · intro _
    trivial

theorem quiet_attempt {p : Service α} (h : Quiet p) : Quiet (attempt p) := issues_attempt h

/-! ## Collecting dead rooms -/

theorem quiet_awaitRuntimeTeardown (expected : Option Generation) (caller : RoomReadCaller) :
    Quiet (awaitRuntimeTeardown n code expected caller) := by
  apply Quiet.after rfl
  intro entry
  apply Quiet.after rfl
  intro settled
  match settled with
  | some (.failed _) | none => exact Quiet.logged trivial
  | some (.applied _) | some (.scheduled _) | some (.deletion _) | some .finished => trivial

theorem quiet_collectCandidate (caller : RoomReadCaller) (debt : Option RuntimeTeardownDebt) :
    Quiet (collectCandidate n caller code debt) := by
  apply Quiet.after rfl
  intro generation
  match generation with
  | .error _ => exact Quiet.after rfl fun _ => trivial
  | .ok expected =>
    apply Quiet.after rfl
    intro room
    match room with
    | .error _ | .ok (some _) => exact Quiet.after rfl fun _ => trivial
    | .ok none =>
      apply Quiet.after rfl
      intro confirmed
      match confirmed with
      | .error _ => exact Quiet.after rfl fun _ => trivial
      | .ok confirmed =>
        dsimp only
        split
        · trivial
        · cases debt with
          | none => exact quiet_awaitRuntimeTeardown expected caller
          | some debt =>
            apply Quiet.after rfl
            intro current
            split
            · trivial
            · exact quiet_awaitRuntimeTeardown expected caller

theorem quiet_collectCandidates (caller : RoomReadCaller)
    (candidates : List (Code × Option RuntimeTeardownDebt)) :
    Quiet (collectCandidates n caller candidates) := by
  induction candidates with
  | nil => trivial
  | cons first rest ih =>
    exact (quiet_collectCandidate caller first.2).bind fun _ => ih.bind fun _ => trivial

theorem quiet_collectExpiredRoom : Quiet (collectExpiredRoom n code) := by
  apply Quiet.after rfl
  intro currentTime
  apply (quiet_call (quiet_ask rfl)).bind
  intro outcome
  split
  · trivial
  · exact (quiet_collectCandidates ..).bind fun _ => trivial

theorem quiet_unconfirmed (trigger : String) :
    Quiet (do throw (.service (← unconfirmedRoomResolution code trigger)) : Service α) :=
  (Quiet.logged trivial : Quiet (unconfirmedRoomResolution code trigger)).bind fun _ => trivial

theorem quiet_resolveRoom : Quiet (resolveRoom n code) := by
  apply (quiet_call (quiet_ask rfl)).bind
  intro room
  cases room with
  | none => trivial
  | some room =>
    apply Quiet.after rfl
    intro currentTime
    split
    · apply Quiet.after rfl
      intro closing
      split
      · exact quiet_unconfirmed _
      · apply Quiet.after rfl
        intro effect
        apply Quiet.after rfl
        intro settled
        match settled with
        | none => exact quiet_unconfirmed _
        | some (.deletion .superseded) =>
          apply (quiet_call (quiet_ask rfl)).bind
          intro fresh
          cases fresh with
          | none => trivial
          | some fresh =>
            apply Quiet.after rfl
            intro later
            split
            · exact quiet_unconfirmed _
            · trivial
        | some (.failed _) => trivial
        | some (.deletion .deleted) | some (.deletion .alreadyDeleted) | some (.applied _)
        | some (.scheduled _) | some .finished => trivial
    · trivial

theorem quiet_rollbackAttempts (joinToken : Token) (attempts : Nat) :
    Quiet (rollbackAttempts code joinToken attempts) := by
  induction attempts with
  | zero => trivial
  | succ attempts ih =>
    apply Quiet.after rfl
    intro currentTime
    apply (quiet_call (quiet_ask rfl)).bind
    intro result
    match result with
    | .ok _ | .refused .notFound => trivial
    | .refused .versionConflict => exact ih

theorem quiet_runOrphanExpiry (joinToken : Token) (reason : String) :
    Quiet (runOrphanExpiry s code joinToken reason) := by
  apply (quiet_attempt (quiet_rollbackAttempts joinToken _)).bind
  intro result
  match result with
  | .ok true => trivial
  | .ok false | .error _ => exact quiet_logEvent ..

theorem quiet_expireOrphanedRoom (joinToken : Token) (reason : String) :
    Quiet (expireOrphanedRoom n s code joinToken reason) := by
  apply Quiet.after rfl
  intro closing
  split
  · exact quiet_logEvent ..
  · apply Quiet.after rfl
    intro effect
    apply Quiet.after rfl
    intro settled
    cases settled with
    | none => exact quiet_logEvent ..
    | some _ => trivial

theorem quiet_deleteExpiredRooms : Quiet (deleteExpiredRooms n) := by
  apply Quiet.after rfl
  intro currentTime
  apply (quiet_call (quiet_ask rfl)).bind
  intro swept
  apply Quiet.after rfl
  intro pending
  apply (quiet_collectCandidates ..).bind
  intro settledCodes
  dsimp only
  split
  · apply Quiet.after rfl
    intro acknowledged
    match acknowledged with
    | .ok _ => trivial
    | .error _ => exact Quiet.logged trivial
  · trivial

theorem quiet_teardownRoomRuntime : Quiet (teardownRoomRuntime n code) :=
  Quiet.after rfl fun _ => (quiet_collectCandidates ..).bind fun _ => trivial

theorem quiet_withVersionRetry {action : PersistedRoom → Service (Option α)}
    (h : ∀ room, Quiet (action room)) (attempts : Nat) :
    Quiet (withVersionRetry n code action attempts) := by
  induction attempts with
  | zero => exact Quiet.logged trivial
  | succ attempts ih =>
    apply quiet_resolveRoom.bind
    intro room
    cases room with
    | none => trivial
    | some room =>
      apply (h room).bind
      intro updated
      cases updated with
      | some _ => trivial
      | none => exact ih

/-! ## Leaving -/

theorem quiet_viewMembers (room : Option ActiveRoom) : Quiet (viewMembers room) := by
  cases room with
  | none => trivial
  | some room => exact quiet_ask rfl

theorem quiet_restoreLeaveState (snapshot : Option JoinedSessionSnapshot) (reason : String) :
    Quiet (restoreLeaveState s snapshot code reason) := by
  cases snapshot with
  | none => trivial
  | some joined =>
    apply (quiet_call (quiet_ask rfl)).bind
    intro _
    exact Quiet.after rfl fun _ => Quiet.after rfl fun _ => quiet_logEvent ..

theorem quiet_recoverRemovedMember (snapshot : Option JoinedSessionSnapshot) (roomEmpty : Bool)
    (reason : String) : Quiet (recoverRemovedMember s code snapshot roomEmpty reason) := by
  apply Quiet.after rfl
  intro session
  split
  · have exists_ : Quiet (roomStillExists code) := by
      apply Quiet.after rfl
      intro room
      cases room <;> trivial
    apply exists_.bind
    intro exists_
    split
    · exact (quiet_restoreLeaveState snapshot reason).bind fun _ => trivial
    · exact Quiet.logged trivial
  · apply Quiet.logged
    split
    · exact Quiet.logged trivial
    · trivial

theorem quiet_recoverLeave (snapshot : Option JoinedSessionSnapshot) (removed roomEmpty : Bool)
    (error : Err) : Quiet (recoverLeave s code snapshot removed roomEmpty error) := by
  have rest (swallow : Bool) : Quiet (do
      logEvent "room_persist_failed" code s error.leaveReason
      if swallow then
        pure { room := none, notifyRoom := true, memberRemoved := removed
               needsRoomStateResync := true }
      else rethrowLeave error error.leaveReason : Service LeaveResult) := by
    apply Quiet.logged
    split
    · trivial
    · cases error <;> trivial
  unfold recoverLeave
  dsimp only
  split
  · exact (quiet_recoverRemovedMember ..).bind rest
  · exact issues_bind trivial rest

theorem quiet_scheduleExpiry (joinToken : Token) (version : Nat) (expiresAt : Time) :
    Quiet (scheduleExpiry s code joinToken version expiresAt) := by
  apply Quiet.after rfl
  intro currentTime
  apply Quiet.after rfl
  intro result
  match result with
  | .ok (.ok room) | .ok (.refused _) | .error _ => exact Quiet.logged trivial

theorem quiet_scheduleEmptiedRoom (room : PersistedRoom) :
    Quiet (scheduleEmptiedRoom cfg s code room) := by
  apply Quiet.after rfl
  intro currentTime
  apply Quiet.after rfl
  intro closing
  split
  · exact Quiet.logged trivial
  · apply Quiet.after rfl
    intro effect
    apply Quiet.after rfl
    intro settled
    match settled with
    | none => exact Quiet.logged trivial
    | some (.scheduled _) | some (.deletion _) | some (.applied _) | some .finished
    | some (.failed _) => trivial

theorem quiet_leaveViewedRoom (session : Session) (removal : Removal) (confirmed : Bool)
    (room : PersistedRoom) (members : JsMap MemberId SessionId) :
    Quiet (leaveViewedRoom cfg s session code removal confirmed room members) := by
  unfold leaveViewedRoom
  dsimp only
  split
  · exact (quiet_scheduleEmptiedRoom room).bind fun _ => Quiet.logged trivial
  · exact Quiet.after rfl fun _ => Quiet.logged trivial

theorem quiet_leaveAfterRemoval (session : Session) (removal : Removal) :
    Quiet (leaveAfterRemoval cfg s session code removal) := by
  apply (quiet_call (quiet_ask rfl)).bind
  intro _
  apply Quiet.after rfl
  intro durable
  apply Quiet.after rfl
  intro _
  apply quiet_resolveRoom.bind
  intro room
  cases room with
  | none => trivial
  | some room =>
    apply Quiet.after rfl
    intro shared
    match shared with
    | .error _ => exact Quiet.logged (Quiet.logged trivial)
    | .ok shared => exact (quiet_viewMembers shared).bind fun _ => quiet_leaveViewedRoom ..

theorem quiet_leaveCurrentRoom (reason : LeaveRoomReason) :
    Quiet (leaveCurrentRoom cfg s reason) := by
  apply Quiet.after rfl
  intro session
  dsimp only
  cases session.roomCode with
  | none => trivial
  | some code =>
    apply Quiet.after rfl
    intro current
    cases session.memberId with
    | none => exact issues_tryCatch (quiet_leaveAfterRemoval ..) fun _ => quiet_recoverLeave ..
    | some memberId =>
      dsimp only
      split
      · apply Quiet.after rfl
        intro revoked
        cases revoked with
        | error fault => exact quiet_recoverLeave ..
        | ok _ =>
          apply Quiet.after rfl
          intro removal
          cases removal with
          | error fault => exact quiet_recoverLeave ..
          | ok removal =>
            exact issues_tryCatch (quiet_leaveAfterRemoval ..) fun _ => quiet_recoverLeave ..
      · apply Quiet.after rfl
        intro removal
        cases removal with
        | error fault => exact quiet_recoverLeave ..
        | ok removal =>
          exact issues_tryCatch (quiet_leaveAfterRemoval ..) fun _ => quiet_recoverLeave ..

/-! ## Joining -/

theorem quiet_releaseJoinLock (lock : JoinAdmissionLock) : Quiet (releaseJoinLock code lock) := by
  apply Quiet.after rfl
  intro currentTime
  split
  · exact Quiet.after rfl fun _ => trivial
  · exact quiet_logEvent ..

theorem quiet_withRoomJoinLock {action : JoinAdmissionLock → Service α}
    (h : ∀ lock, Quiet (action lock)) : Quiet (withRoomJoinLock n code action) := by
  apply Quiet.after rfl
  intro ticket
  apply issues_ensuring _ (quiet_ask rfl)
  apply Quiet.after rfl
  intro _
  apply Quiet.after rfl
  intro currentTime
  apply (quiet_call (quiet_ask rfl)).bind
  intro lock
  cases lock with
  | none => exact Quiet.logged trivial
  | some lock => exact issues_ensuring (h lock) (quiet_releaseJoinLock lock)

theorem quiet_assertActive (lock : JoinAdmissionLock) : Quiet (assertActive lock) := by
  apply Quiet.after rfl
  intro currentTime
  split <;> trivial

theorem quiet_resolveJoinTargetState (previousMemberToken : Option Token) :
    Quiet (resolveJoinTargetState code previousMemberToken) := by
  apply (quiet_call (quiet_ask rfl)).bind
  intro activeRoom
  have target (reconnect : Option MemberId) : Quiet (do
      let members ← viewMembers activeRoom
      pure ⟨activeRoom, reconnect, (reconnect.map fun m => members.has m).getD false,
        members.size⟩ : Service JoinTargetState) :=
    (quiet_viewMembers activeRoom).bind fun _ => trivial
  match previousMemberToken, activeRoom with
  | some token, some room => exact (quiet_call (quiet_ask rfl)).bind target
  | none, _ | some _, none => exact issues_bind trivial target

theorem quiet_rejectJoinToken (reason message : String) :
    Quiet (rejectJoinToken s code reason message : Service α) := Quiet.logged trivial

theorem quiet_ensureNotBlocked (previousMemberToken : Option Token) :
    Quiet (ensureNotBlocked s code previousMemberToken) := by
  cases previousMemberToken with
  | none => trivial
  | some token =>
    apply Quiet.after rfl
    intro currentTime
    apply (quiet_call (quiet_ask rfl)).bind
    intro blocked
    split
    · exact quiet_rejectJoinToken ..
    · trivial

theorem quiet_ensureJoinRequestAllowed (room : PersistedRoom) (joinToken : Token)
    (previousMemberToken : Option Token) :
    Quiet (ensureJoinRequestAllowed cfg s room code joinToken previousMemberToken) := by
  unfold ensureJoinRequestAllowed
  split
  · exact quiet_rejectJoinToken ..
  · apply (quiet_ensureNotBlocked _).bind
    intro _
    apply (quiet_resolveJoinTargetState _).bind
    intro target
    split <;> trivial

theorem quiet_refreshJoinedRoom (joinToken : Token) (previousMemberToken : Option Token)
    (room : PersistedRoom) :
    Quiet (refreshJoinedRoom cfg s code joinToken previousMemberToken room) := by
  apply Quiet.after rfl
  intro currentTime
  apply (quiet_ensureJoinRequestAllowed ..).bind
  intro target
  split
  · apply (quiet_call (quiet_ask rfl)).bind
    intro latest
    cases latest with
    | none => trivial
    | some latest =>
      dsimp only
      split <;> trivial
  · apply Quiet.after rfl
    intro updated
    match updated with
    | .error _ =>
      dsimp only
      split
      · exact Quiet.logged trivial
      · trivial
    | .ok (.refused _) | .ok (.ok _) => trivial

theorem quiet_buildJoinIdentity (reconnectMemberId : Option MemberId)
    (previousMemberToken : Option Token) :
    Quiet (buildJoinIdentity s reconnectMemberId previousMemberToken) := by
  match reconnectMemberId, previousMemberToken with
  | some _, some _ => trivial
  | none, _ | some _, none => exact Quiet.after rfl fun _ => trivial

theorem quiet_readdPreviousSession (identity : JoinIdentity)
    (previous current : Option SessionId) :
    Quiet (readdPreviousSession s code identity previous current) := by
  cases previous with
  | none => trivial
  | some previous =>
    unfold readdPreviousSession
    dsimp only
    split
    · exact (quiet_call (quiet_ask rfl)).bind fun _ => Quiet.after rfl fun _ => trivial
    · trivial

theorem quiet_undoJoin (identity : JoinIdentity) (previous : Option SessionId) (error : Err) :
    Quiet (undoJoin s code identity previous error : Service α) := by
  apply (quiet_call (quiet_ask rfl)).bind
  intro _
  apply Quiet.after rfl
  intro _
  apply (quiet_call (quiet_ask rfl)).bind
  intro activeRoom
  apply (quiet_viewMembers activeRoom).bind
  intro members
  exact (quiet_readdPreviousSession ..).bind fun _ => trivial

theorem quiet_confirmJoin (lock : JoinAdmissionLock) (identity : JoinIdentity) :
    Quiet (confirmJoin s lock code identity) := by
  apply (quiet_call (quiet_ask rfl)).bind
  intro _
  apply (quiet_assertActive lock).bind
  intro _
  exact Quiet.after rfl fun _ => quiet_ask rfl

theorem quiet_previousSessions (room : PersistedRoom) (target : JoinTargetState) :
    Quiet (previousSessions room target) := by
  unfold previousSessions
  cases target.reconnectMemberId with
  | none => trivial
  | some memberId =>
    exact Quiet.after rfl fun _ => (quiet_viewMembers _).bind fun _ => trivial

theorem quiet_disconnectReplacedSession (previous : Option SessionId) :
    Quiet (disconnectReplacedSession s previous) := by
  cases previous with
  | none => trivial
  | some previous =>
    unfold disconnectReplacedSession
    dsimp only
    split
    · trivial
    · exact quiet_ask rfl

theorem quiet_seatJoinedSession (lock : JoinAdmissionLock) (previousMemberToken : Option Token)
    (room : PersistedRoom) (target : JoinTargetState) :
    Quiet (seatJoinedSession s lock previousMemberToken room target) := by
  apply (quiet_buildJoinIdentity ..).bind
  intro identity
  apply (quiet_previousSessions room target).bind
  intro previous
  apply (quiet_assertActive lock).bind
  intro _
  apply (quiet_call (quiet_ask rfl)).bind
  intro _
  apply issues_bind (issues_tryCatch (quiet_confirmJoin lock identity) fun _ => quiet_undoJoin ..)
  intro _
  apply (quiet_disconnectReplacedSession _).bind
  intro _
  exact Quiet.logged trivial

theorem quiet_joinRoomForSession (joinToken : Token) (displayName : Option String)
    (previousMemberToken : Option Token) :
    Quiet (joinRoomForSession cfg s code joinToken displayName previousMemberToken) := by
  apply Quiet.after rfl
  intro _
  apply (quiet_leaveCurrentRoom _).bind
  intro _
  apply quiet_withRoomJoinLock
  intro lock
  apply (quiet_withVersionRetry (fun room => quiet_refreshJoinedRoom ..) _).bind
  intro joined
  cases joined with
  | none => trivial
  | some joined => exact quiet_seatJoinedSession ..

/-! ## Creating -/

theorem founds_createUnder (createdAt : Time) : Founds (createUnder n s createdAt code) := by
  apply Founds.after (.inl rfl)
  intro joinToken
  apply Founds.after (.inl rfl)
  intro session
  apply Founds.after (.inr ⟨_, rfl⟩)
  intro written
  match written with
  | .ok _ | .error .other | .error .admission => trivial
  | .error (.timeout _) =>
    apply issues_bind (quiet_expireOrphanedRoom ..).founds
    intro _
    trivial

theorem founds_allocateRoom (createdAt : Time) (attempts : Nat) :
    Founds (allocateRoom n s createdAt attempts) := by
  induction attempts with
  | zero => trivial
  | succ attempts ih =>
    apply Founds.after (.inl rfl)
    intro code
    apply Founds.after (.inl rfl)
    intro residue
    match residue with
    | .ok false =>
      apply issues_bind (founds_createUnder createdAt)
      intro allocation
      cases allocation with
      | none => exact ih
      | some allocation => trivial
    | .ok true | .error _ => exact ih

theorem quiet_rollbackUnstampedRoom (room : PersistedRoom) (reason : String) :
    Quiet (rollbackUnstampedRoom n s room reason : Service α) :=
  (quiet_expireOrphanedRoom ..).bind fun _ => Quiet.logged trivial

theorem quiet_stampRoom : Quiet (stampRoom code) := by
  apply (quiet_call (quiet_ask rfl)).bind
  intro pinned
  exact Quiet.after rfl fun _ => quiet_call (quiet_ask rfl)

theorem quiet_openRoom (createdAt : Time) (room : PersistedRoom) :
    Quiet (openRoom n s createdAt room) := by
  apply (quiet_attempt quiet_stampRoom).bind
  intro stamped
  match stamped with
  | .error _ | .ok false => exact quiet_rollbackUnstampedRoom ..
  | .ok true =>
    apply Quiet.after rfl
    intro memberToken
    apply Quiet.after rfl
    intro _
    apply (quiet_call (quiet_ask rfl)).bind
    intro _
    exact Quiet.after rfl fun _ => Quiet.logged trivial

theorem founds_createRoomForSession (displayName : Option String) :
    Founds (createRoomForSession cfg s displayName) := by
  apply Founds.after (.inl rfl)
  intro _
  apply issues_bind (quiet_leaveCurrentRoom _).founds
  intro _
  apply Founds.after (.inl rfl)
  intro createdAt
  apply issues_bind (founds_allocateRoom createdAt _)
  intro allocation
  cases allocation with
  | created room => exact (quiet_openRoom createdAt room).founds
  | unconfirmed _ | conflict => exact Founds.after (.inl rfl) fun _ => trivial

/-! ## Updating -/

theorem quiet_requireJoinedRoomSession (memberToken : Token) :
    Quiet (requireJoinedRoomSession cfg s memberToken) := by
  apply Quiet.after rfl
  intro session
  cases session.roomCode with
  | none => exact Quiet.logged trivial
  | some code =>
    apply quiet_resolveRoom.bind
    intro room
    cases room with
    | none => exact Quiet.after rfl fun _ => Quiet.logged trivial
    | some room =>
      apply Quiet.after rfl
      intro activeRoom
      apply Quiet.after rfl
      intro session
      match activeRoom, session.memberId with
      | some active, some memberId =>
        dsimp only
        split
        · exact Quiet.after rfl fun _ => Quiet.logged trivial
        · split
          · exact Quiet.logged trivial
          · trivial
      | none, _ | some _, none => exact Quiet.after rfl fun _ => Quiet.logged trivial

theorem quiet_releaseMessageSlotBestEffort (key : SlotKey) (token : Token) :
    Quiet (releaseMessageSlotBestEffort code key token) := by
  apply Quiet.after rfl
  intro released
  match released with
  | .ok _ => trivial
  | .error _ => exact quiet_logEvent ..

theorem quiet_writeOwnerDisplayName (room : PersistedRoom) :
    Quiet (writeOwnerDisplayName s room) := by
  apply Quiet.after rfl
  intro session
  apply Quiet.after rfl
  intro currentTime
  apply (quiet_call (quiet_ask rfl)).bind
  intro result
  cases result <;> trivial

theorem quiet_updateProfileForSession (memberToken : Token) (displayName : String) :
    Quiet (updateProfileForSession cfg s memberToken displayName) := by
  apply (quiet_requireJoinedRoomSession memberToken).bind
  intro access
  apply Quiet.after rfl
  intro changed
  apply Quiet.after rfl
  intro session
  have flushed (room : PersistedRoom) : Quiet (do
      call (ask .flush)
      pure room : Service PersistedRoom) := (quiet_call (quiet_ask rfl)).bind fun _ => trivial
  dsimp only
  split
  · apply (quiet_withVersionRetry (fun room => quiet_writeOwnerDisplayName room) _).bind
    intro updated
    cases updated with
    | some updated => exact flushed updated
    | none => exact Quiet.logged (flushed access)
  · exact flushed access

/-! ## Sockets -/

theorem quiet_runRoomJoinedHook : Quiet (runRoomJoinedHook s code) := by
  apply Quiet.after rfl
  intro _
  apply Quiet.after rfl
  intro marked
  match marked with
  | .error _ => exact Quiet.logged trivial
  | .ok _ =>
    apply Quiet.after rfl
    intro flushed
    match flushed with
    | .error _ => exact Quiet.logged trivial
    | .ok _ => trivial

theorem quiet_runRoomLeftHook : Quiet (runRoomLeftHook s code) := by
  apply Quiet.after rfl
  intro _
  apply Quiet.after rfl
  intro marked
  match marked with
  | .error _ => exact Quiet.logged trivial
  | .ok _ =>
    apply Quiet.after rfl
    intro flushed
    match flushed with
    | .error _ => exact Quiet.logged trivial
    | .ok _ => trivial

theorem quiet_leaveRoom (reason : LeaveRoomReason) : Quiet (leaveRoom cfg s reason) := by
  apply Quiet.after rfl
  intro session
  apply (quiet_leaveCurrentRoom reason).bind
  intro result
  cases session.roomCode with
  | none => trivial
  | some code =>
    dsimp only
    split
    · trivial
    · exact quiet_runRoomLeftHook

theorem quiet_abortJoin : Quiet (abortJoin cfg s code) := by
  have aborted (rolledBack : Bool) : Quiet (do
      logEvent "room_join_aborted" code s "room_index_write_failed"
      if !rolledBack then ask (.closeSocket s) : Service Unit) := by
    apply Quiet.logged
    split
    · exact quiet_ask rfl
    · trivial
  apply (quiet_attempt (quiet_leaveRoom _)).bind
  intro left
  match left with
  | .ok verdict => exact aborted verdict
  | .error _ => exact Quiet.logged (aborted false)

/-- Entering a room adds nothing to what its own part does. -/
theorem issues_enterRoom {may : Cmd → Prop} {enter : Service (PersistedRoom × Token)}
    (plain : ∀ c, c.plain = true → may c) (h : enter.Issues may) :
    (enterRoom cfg s enter).Issues may := by
  have left (code : Code) {f : Bool → Service Unit} (hf : ∀ b, (f b).Issues may) :
      (runRoomLeftHook s code >>= f).Issues may :=
    issues_bind (quiet_runRoomLeftHook.mono plain) hf
  apply issues_bind (issues_perform.mpr (plain _ rfl))
  intro previous
  apply issues_bind (issues_attempt h)
  intro entered
  match entered with
  | .error error =>
    apply issues_bind (issues_perform.mpr (plain _ rfl))
    intro session
    cases previous.roomCode with
    | none => trivial
    | some code =>
      dsimp only
      split
      · exact left code fun _ => trivial
      · trivial
  | .ok (room, memberToken) =>
    have joined : Quiet (do
        if ← runRoomJoinedHook s room.code then do
          let _ ← attempt (requireJoinedRoomSession cfg s memberToken)
          pure ()
        else abortJoin cfg s room.code : Service Unit) := by
      apply quiet_runRoomJoinedHook.bind
      intro indexed
      split
      · exact (quiet_attempt (quiet_requireJoinedRoomSession _)).bind fun _ => trivial
      · exact quiet_abortJoin
    cases previous.roomCode with
    | none => exact joined.mono plain
    | some code =>
      dsimp only
      split
      · exact left code fun _ => joined.mono plain
      · exact joined.mono plain

theorem quiet_cleanupSessionAfterClose : Quiet (cleanupSessionAfterClose cfg s) := by
  apply Quiet.after rfl
  intro session
  have cleaned : Quiet (do
      ask (.unregisterSession s)
      ask (.decrementConnectionCount s)
      logEvent "ws_connection_closed" session.roomCode s : Service Unit) :=
    Quiet.after rfl fun _ => Quiet.after rfl fun _ => quiet_logEvent ..
  apply (quiet_attempt (quiet_leaveRoom _)).bind
  intro left
  match left with
  | .ok _ => exact cleaned
  | .error _ => exact Quiet.logged cleaned

theorem quiet_runTask (id : EffectId) (task : Task) : Quiet (runTask n id task) := by
  cases task with
  | scheduleExpiry s code joinToken version expiresAt =>
    exact (quiet_scheduleExpiry ..).bind fun _ => quiet_ask rfl
  | runOrphanExpiry s code joinToken reason =>
    exact (quiet_runOrphanExpiry ..).bind fun _ => quiet_ask rfl
  | collectExpiredRoom code =>
    apply (quiet_attempt quiet_collectExpiredRoom).bind
    intro outcome
    match outcome with
    | .ok _ | .error _ => exact quiet_ask rfl
  | teardown code expectedGeneration => exact Quiet.after rfl fun _ => quiet_ask rfl

end

end BiliSyncPlay
