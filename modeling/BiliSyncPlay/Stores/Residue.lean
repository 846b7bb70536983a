import BiliSyncPlay.Stores.IdentityRuns

/-!
# What keeps a code

What lives under a code, what is left there though it is spent, and that `hasRoomResidue` answers
for both: blocked tokens and slots are pruned by the next block or claim only, and an entry that
was made for nobody is pruned by nothing.
-/

namespace BiliSyncPlay

namespace RuntimeStore

variable (store : RuntimeStore) (code : Code) (now : Time)

def sessionIds : List SessionId := (store.roomSessionIds.get? code).getD []

def blocks : List KickedMemberBlock := (store.blockedMemberTokens.get? code).getD []

def slots : JsMap SlotKey Held := (store.claimedSlots.get? code).getD .empty

/-- Somebody in a seat, an identity that has not lapsed, a session in the index, a token that is
still blocked or a slot that is still claimed. -/
def Live : Prop :=
  (∃ m, (store.identity code m).seat.isSome) ∨
  (∃ m deadline, (store.identity code m).token.isSome ∧
    (store.identity code m).deadline = some deadline ∧ now < deadline) ∨
  (∃ s, s ∈ store.sessionIds code) ∨
  (∃ block ∈ store.blocks code, now < block.expiresAt) ∨
  ∃ key held, (store.slots code).get? key = some held ∧ now < held.expiresAt

/-- A list of blocks, a map of slots or an entry with nothing in it that counts. -/
def Spent : Prop :=
  (store.blockedMemberTokens.has code ∧ ∀ block ∈ store.blocks code, block.expiresAt ≤ now) ∨
  (store.claimedSlots.has code ∧
    ∀ key held, (store.slots code).get? key = some held → held.expiresAt ≤ now) ∨
  store.rooms.Bare code

end RuntimeStore

/-! ## The index -/

/-- A room whose index empties is dropped from it. -/
def Full (index : JsMap Code (List SessionId)) : Prop := ∀ code, index.get? code ≠ some []

section
variable (store : RuntimeStore) (code : Code) (now : Time)

@[simp] theorem roomSessionIds_prune :
    (store.pruneExpiredMemberTokens code now).roomSessionIds = store.roomSessionIds := by
  unfold RuntimeStore.pruneExpiredMemberTokens
  split <;> rfl

@[simp] theorem roomSessionIds_drop (m : MemberId) :
    (store.dropTokenExpiry code m).roomSessionIds = store.roomSessionIds := by
  unfold RuntimeStore.dropTokenExpiry
  split <;> rfl

@[simp] theorem roomSessionIds_revoke (m : MemberId) (session : Option SessionId) :
    (store.revokeMemberToken code m session).roomSessionIds = store.roomSessionIds := by
  unfold RuntimeStore.revokeMemberToken
  simp only
  split
  · split <;> rfl
  · rfl

end

section
variable {index : JsMap Code (List SessionId)} (full : Full index) (code : Code)
include full

theorem full_delete : Full (index.delete code) := by
  intro c
  rw [JsMap.get?_delete]
  split
  · simp
  · exact full c

theorem full_set {ids : List SessionId} (nonempty : ids ≠ []) : Full (index.set code ids) := by
  intro c
  rw [JsMap.get?_set]
  split
  · simpa using nonempty
  · exact full c

theorem full_put (ids : List SessionId) :
    Full (if ids.isEmpty then index.delete code else index.set code ids) := by
  split
  · exact full_delete full code
  · next stays => exact full_set full code (by simpa using stays)

theorem full_detach (s : SessionId) (keys : List Code) :
    Full (keys.foldl (fun index code =>
      match index.get? code with
      | some ids =>
        if (ids.erase s).isEmpty then index.delete code else index.set code (ids.erase s)
      | none => index) index) := by
  induction keys generalizing index with
  | nil => exact full
  | cons key rest ih =>
    apply ih
    dsimp only
    split
    · exact full_put full key _
    · exact full

end

theorem full_apply {retention now : Time} {store : RuntimeStore} (full : Full store.roomSessionIds)
    (call : StoreCall) : Full (call.apply retention store now).roomSessionIds := by
  cases call with
  | unregisterSession s => exact full_detach full s _
  | markSessionJoinedRoom s code =>
    simp only [StoreCall.apply, RuntimeStore.markSessionJoinedRoom]
    split
    · exact full_set (full_detach full s _) code (List.ne_nil_of_mem List.mem_insert_self)
    · exact full
  | markSessionLeftRoom s code =>
    simp only [StoreCall.apply, RuntimeStore.markSessionLeftRoom]
    split
    · exact full
    · exact full_put full code _
  | deleteRoom code generation =>
    simp only [StoreCall.apply, RuntimeStore.deleteRoom]
    split
    · exact full
    · exact full_delete full code
  | addMember code m s tok =>
    simp only [StoreCall.apply, RuntimeStore.addMember, roomSessionIds_drop, roomSessionIds_prune]
    exact full
  | removeMember code m session =>
    simp only [StoreCall.apply, RuntimeStore.removeMember, roomSessionIds_prune]
    exact full
  | revokeMemberToken code m session =>
    simp only [StoreCall.apply, roomSessionIds_revoke]
    exact full
  | evictMemberToken code m tok blockedUntil =>
    simp only [StoreCall.apply, RuntimeStore.evictMemberToken, roomSessionIds_revoke]
    exact full
  | findMemberIdByToken code tok =>
    simp only [StoreCall.apply, RuntimeStore.findMemberIdByToken, roomSessionIds_prune]
    exact full
  | getRoom code =>
    simp only [StoreCall.apply, RuntimeStore.getRoom, roomSessionIds_prune]
    exact full
  | hasRoomResidue code =>
    simp only [StoreCall.apply, RuntimeStore.hasRoomResidue, roomSessionIds_prune]
    exact full
  | getOrCreateRoom code =>
    simp only [StoreCall.apply, RuntimeStore.getOrCreateRoom]
    split <;> exact full
  | markRoomGeneration code generation previous =>
    simp only [StoreCall.apply, RuntimeStore.markRoomGeneration]
    split <;> exact full
  | releaseMessageSlot code key tok =>
    simp only [StoreCall.apply, RuntimeStore.releaseMessageSlot]
    split
    · exact full
    · split <;> exact full
  | releaseRoomLock code key tok =>
    simp only [StoreCall.apply, RuntimeStore.releaseRoomLock]
    split
    · exact full
    · split <;> exact full
  | isMemberTokenBlocked | tryClaimMessageSlot | acquireRoomLock | registerSession => exact full

theorem full_run {retention : Time} {store : RuntimeStore} (full : Full store.roomSessionIds)
    (calls : Calls) : Full (store.run retention calls).roomSessionIds := by
  induction calls generalizing store with
  | nil => exact full
  | cons call rest ih => exact ih (full_apply full call.2)

/-! ## Residue -/

/-- The deadlines of a code are dropped with the last of them. -/
theorem deadline_of_has {store : RuntimeStore} {code : Code} {now : Time}
    (has : (store.pruneExpiredMemberTokens code now).memberTokenExpiry.has code = true) :
    ∃ m deadline, ((store.pruneExpiredMemberTokens code now).deadlines code).get? m =
      some deadline := by
  unfold RuntimeStore.pruneExpiredMemberTokens RuntimeStore.deadlines at *
  cases known : store.memberTokenExpiry.get? code with
  | none => simp [known, JsMap.has] at has
  | some expiryByMember =>
    simp only [known] at has ⊢
    split at has
    · simp [JsMap.has] at has
    · next some =>
      rw [if_neg some, JsMap.get?_set_self, Option.getD_some]
      rw [JsMap.size_eq_zero_iff] at some
      push Not at some
      obtain ⟨m, due⟩ := some
      obtain ⟨deadline, due⟩ := Option.ne_none_iff_exists'.mp due
      exact ⟨m, deadline, due⟩

section
variable {store : RuntimeStore} {code : Code} {now : Time}

/-- What is left of an identity that is pruned is the whole of it. -/
theorem pruned_identity {m : MemberId}
    (due : ((store.pruneExpiredMemberTokens code now).identity code m).deadline.isSome ∨
      ((store.pruneExpiredMemberTokens code now).identity code m).token.isSome) :
    (store.pruneExpiredMemberTokens code now).identity code m = store.identity code m ∧
      ¬ (store.identity code m).deadline.any (· ≤ now) = true := by
  rw [RuntimeStore.identity_prune, if_pos rfl] at due ⊢
  unfold Identity.prune at due ⊢
  split
  · next past =>
    rw [if_pos past] at due
    rcases due with gone | gone <;> cases gone
  · next soon => exact ⟨rfl, soon⟩

theorem unexpired_of_not {deadline : Option Time} {due : Time} (held : deadline = some due)
    (soon : ¬ deadline.any (· ≤ now) = true) : now < due := by
  subst held
  simpa using soon

/-- An identity with a deadline that has not passed lives. -/
theorem live_of_deadline (kept : ∀ m, (store.identity code m).Kept) {m : MemberId}
    (due : ((store.pruneExpiredMemberTokens code now).identity code m).deadline.isSome) :
    store.Live code now := by
  obtain ⟨same, soon⟩ := pruned_identity (.inl due)
  rw [same] at due
  obtain ⟨deadline, held⟩ := Option.isSome_iff_exists.mp due
  exact .inr (.inl ⟨m, deadline, (kept m).redeemable due, held, unexpired_of_not held soon⟩)

/-- An entry that stays has somebody in it, an identity that lives, or nothing at all. -/
theorem entry_live (kept : ∀ m, (store.identity code m).Kept)
    (has : (store.pruneExpiredMemberTokens code now).rooms.has code = true) :
    store.Live code now ∨ store.rooms.Bare code := by
  obtain ⟨room, held⟩ := Option.isSome_iff_exists.mp has
  by_cases seats : room.members.size = 0
  · by_cases tokens : room.memberTokens.size = 0
    · exact .inr (bare_prune ⟨room, held, seats, tokens⟩)
    · left
      rw [JsMap.size_eq_zero_iff] at tokens
      push Not at tokens
      obtain ⟨m, some⟩ := tokens
      have token : ((store.pruneExpiredMemberTokens code now).identity code m).token.isSome := by
        rw [RuntimeStore.identity, tokens_of_get? held]
        exact Option.isSome_iff_ne_none.mpr some
      obtain ⟨same, soon⟩ := pruned_identity (.inr token)
      rw [same] at token
      rcases (kept m).clocked token with seated | clocked
      · exact .inl ⟨m, seated⟩
      · exact live_of_deadline kept (by rw [same]; exact clocked)
  · left
    rw [JsMap.size_eq_zero_iff] at seats
    push Not at seats
    obtain ⟨m, some⟩ := seats
    refine .inl ⟨m, ?_⟩
    have same : (store.pruneExpiredMemberTokens code now).rooms.members code =
        store.rooms.members code := RuntimeStore.seats_prune store code code now
    rw [RuntimeStore.identity, ← same, members_of_get? held]
    exact Option.isSome_iff_ne_none.mpr some

theorem entry_of_bare (kept : ∀ m, (store.identity code m).Kept) (bare : store.rooms.Bare code) :
    (store.pruneExpiredMemberTokens code now).rooms.has code = true := by
  obtain ⟨room, held, -, tokens⟩ := bare
  have undue (m : MemberId) : (store.deadlines code).get? m = none := by
    by_contra due
    have token := (kept m).redeemable (Option.isSome_iff_ne_none.mpr due)
    rw [RuntimeStore.identity, tokens_of_get? held, JsMap.eq_empty_of_size tokens] at token
    cases token
  unfold RuntimeStore.pruneExpiredMemberTokens
  cases known : store.memberTokenExpiry.get? code with
  | none => simp [JsMap.has, held]
  | some expiryByMember =>
    have empty : expiryByMember = .empty := by
      apply JsMap.eq_empty_of_size
      rw [JsMap.size_eq_zero_iff]
      intro m
      simpa [RuntimeStore.deadlines, known] using undue m
    subst empty
    simp [JsMap.has, held, JsMap.empty]

theorem residue_eq :
    (store.hasRoomResidue code now).1 =
      ((store.pruneExpiredMemberTokens code now).rooms.has code || store.roomSessionIds.has code ||
        store.blockedMemberTokens.has code ||
        (store.pruneExpiredMemberTokens code now).memberTokenExpiry.has code ||
        store.claimedSlots.has code) := by
  have blocks : (store.pruneExpiredMemberTokens code now).blockedMemberTokens =
      store.blockedMemberTokens := by
    unfold RuntimeStore.pruneExpiredMemberTokens
    split <;> rfl
  have slots : (store.pruneExpiredMemberTokens code now).claimedSlots = store.claimedSlots := by
    unfold RuntimeStore.pruneExpiredMemberTokens
    split <;> rfl
  rw [RuntimeStore.hasRoomResidue, roomSessionIds_prune, blocks, slots]

theorem live_residue (live : store.Live code now) : (store.hasRoomResidue code now).1 = true := by
  rw [residue_eq]
  simp only [Bool.or_eq_true]
  rcases live with ⟨m, seated⟩ | ⟨m, deadline, -, due, soon⟩ | ⟨s, mem⟩ | ⟨block, mem, -⟩ |
      ⟨key, held, claimed, -⟩
  · refine .inl (.inl (.inl (.inl ?_)))
    have same : (store.pruneExpiredMemberTokens code now).rooms.members code =
        store.rooms.members code := RuntimeStore.seats_prune store code code now
    cases known : (store.pruneExpiredMemberTokens code now).rooms.get? code with
    | none =>
      rw [RuntimeStore.identity, ← same, members_of_absent known] at seated
      cases seated
    | some room => simp [JsMap.has, known]
  · refine .inl (.inr ?_)
    have kept : (store.pruneExpiredMemberTokens code now).identity code m =
        store.identity code m := by
      rw [RuntimeStore.identity_prune, if_pos rfl, Identity.prune_early due soon]
    have clocked : ((store.pruneExpiredMemberTokens code now).deadlines code).get? m =
        some deadline := (congrArg Identity.deadline kept).trans due
    cases known : (store.pruneExpiredMemberTokens code now).memberTokenExpiry.get? code with
    | none => simp [RuntimeStore.deadlines, known] at clocked
    | some expiryByMember => simp [JsMap.has, known]
  · refine .inl (.inl (.inl (.inr ?_)))
    cases known : store.roomSessionIds.get? code with
    | none => simp [RuntimeStore.sessionIds, known] at mem
    | some ids => simp [JsMap.has, known]
  · refine .inl (.inl (.inr ?_))
    cases known : store.blockedMemberTokens.get? code with
    | none => simp [RuntimeStore.blocks, known] at mem
    | some blocks => simp [JsMap.has, known]
  · refine .inr ?_
    cases known : store.claimedSlots.get? code with
    | none => simp [RuntimeStore.slots, known] at claimed
    | some slots => simp [JsMap.has, known]

/-- The answer counts what lives and what is spent alike. -/
theorem residue_iff (kept : ∀ m, (store.identity code m).Kept)
    (full : Full store.roomSessionIds) :
    (store.hasRoomResidue code now).1 = true ↔ store.Live code now ∨ store.Spent code now := by
  constructor
  · intro residue
    rw [residue_eq] at residue
    simp only [Bool.or_eq_true] at residue
    rcases residue with (((entry | indexed) | blocked) | clocked) | claimed
    · rcases entry_live kept entry with live | bare
      · exact .inl live
      · exact .inr (.inr (.inr bare))
    · left
      obtain ⟨ids, held⟩ := Option.isSome_iff_exists.mp indexed
      cases ids with
      | nil => exact absurd held (full code)
      | cons s rest =>
        exact .inr (.inr (.inl ⟨s, by simp [RuntimeStore.sessionIds, held]⟩))
    · by_cases current : ∃ block ∈ store.blocks code, now < block.expiresAt
      · exact .inl (.inr (.inr (.inr (.inl current))))
      · push Not at current
        exact .inr (.inl ⟨blocked, current⟩)
    · obtain ⟨m, deadline, due⟩ := deadline_of_has clocked
      have clock : ((store.pruneExpiredMemberTokens code now).identity code m).deadline =
          some deadline := due
      exact .inl (live_of_deadline kept (by rw [clock]; rfl))
    · by_cases current : ∃ key held, (store.slots code).get? key = some held ∧ now < held.expiresAt
      · exact .inl (.inr (.inr (.inr (.inr current))))
      · push Not at current
        exact .inr (.inr (.inl ⟨claimed, current⟩))
  · rintro (live | spent)
    · exact live_residue live
    · rw [residue_eq]
      simp only [Bool.or_eq_true]
      rcases spent with ⟨blocked, -⟩ | ⟨claimed, -⟩ | bare
      · exact .inl (.inl (.inr blocked))
      · exact .inr claimed
      · exact .inl (.inl (.inl (.inl (entry_of_bare kept bare))))

end

/-- In every run the answer is exact as long as nothing spent is left, or something lives anyway. -/
theorem residue_is_exact_iff (retention : Time) (calls : Calls) (code : Code) (now : Time) :
    let store := RuntimeStore.run retention {} calls
    ((store.hasRoomResidue code now).1 = true ↔ store.Live code now) ↔
      (store.Spent code now → store.Live code now) := by
  intro store
  have same : (store.hasRoomResidue code now).1 = true ↔
      store.Live code now ∨ store.Spent code now :=
    residue_iff (kept_run kept_start calls code) (full_run (by intro code none; cases none) calls)
  rw [same]
  constructor
  · intro exact spent
    exact exact.mp (.inr spent)
  · intro covered
    exact ⟨fun some => some.elim id covered, .inl⟩

/-- Nothing lives where nobody came and every block and slot is over. -/
theorem not_live {store : RuntimeStore} {code : Code} {now : Time} (rooms : store.rooms = .empty)
    (index : store.roomSessionIds = .empty)
    (blocks : ∀ block ∈ store.blocks code, block.expiresAt ≤ now)
    (slots : ∀ slot ∈ (store.slots code).entries, slot.2.expiresAt ≤ now) :
    ¬ store.Live code now := by
  rintro (⟨m, seated⟩ | ⟨m, deadline, token, -⟩ | ⟨s, mem⟩ | ⟨block, mem, soon⟩ |
    ⟨key, held, claimed, soon⟩)
  · rw [RuntimeStore.identity, rooms] at seated
    cases seated
  · rw [RuntimeStore.identity, rooms] at token
    cases token
  · rw [RuntimeStore.sessionIds, index] at mem
    cases mem
  · exact absurd soon (not_lt_of_ge (blocks block mem))
  · have lapsed := slots (key, held) (JsMap.mem_entries_iff.mpr claimed)
    exact absurd soon (not_lt_of_ge lapsed)

/-- A slot is claimed and released. -/
def claimedOnce : RuntimeStore :=
  .run 50 {} [(0, .tryClaimMessageSlot 1 (.playback 10 100 1) 7 10),
    (1, .releaseMessageSlot 1 (.playback 10 100 1) 7)]

/-- A token is blocked for a while. -/
def blockedOnce : RuntimeStore := .run 50 {} [(0, .evictMemberToken 1 10 7 20)]

/-- Neither code is ever free again. -/
theorem spent_entries_keep_the_code :
    ((claimedOnce.hasRoomResidue 1 1000).1 = true ∧ ¬ claimedOnce.Live 1 1000) ∧
      (blockedOnce.hasRoomResidue 1 1000).1 = true ∧ ¬ blockedOnce.Live 1 1000 := by
  refine ⟨⟨by decide +kernel, ?_⟩, by decide +kernel, ?_⟩
  · exact not_live (by decide +kernel) (by decide +kernel) (by decide +kernel) (by decide +kernel)
  · exact not_live (by decide +kernel) (by decide +kernel) (by decide +kernel) (by decide +kernel)

end BiliSyncPlay
