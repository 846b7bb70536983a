import BiliSyncPlay.Stores.Identities
import Mathlib.Data.List.Induction

/-!
# How long an identity lives

Every call of the in-memory store, and what holds of each identity in every run of them: a member
in a seat keeps the token, one who left keeps it up to the deadline, and nothing else is kept.
-/

namespace BiliSyncPlay

/-! ## Calls -/

inductive StoreCall where
  | addMember (code : Code) (memberId : MemberId) (session : SessionId) (memberToken : Token)
  | removeMember (code : Code) (memberId : MemberId) (session : Option SessionId)
  | revokeMemberToken (code : Code) (memberId : MemberId) (session : Option SessionId)
  | evictMemberToken (code : Code) (memberId : MemberId) (memberToken : Token)
      (blockedUntil : Time)
  | findMemberIdByToken (code : Code) (memberToken : Token)
  | isMemberTokenBlocked (code : Code) (memberToken : Token) (currentTime : Time)
  | getRoom (code : Code)
  | getOrCreateRoom (code : Code)
  | hasRoomResidue (code : Code)
  | deleteRoom (code : Code) (expectedGeneration : Option Generation)
  | markRoomGeneration (code : Code) (generation : Generation)
      (expectedPrevious : Option Generation)
  | tryClaimMessageSlot (code : Code) (key : SlotKey) (token : Token) (expiresAt : Time)
  | releaseMessageSlot (code : Code) (key : SlotKey) (token : Token)
  | acquireRoomLock (code : Code) (key : RoomLockKey) (token : Token) (expiresAt : Time)
  | releaseRoomLock (code : Code) (key : RoomLockKey) (token : Token)
  | registerSession (session : SessionId)
  | unregisterSession (session : SessionId)
  | markSessionJoinedRoom (session : SessionId) (code : Code)
  | markSessionLeftRoom (session : SessionId) (code : Code)
  deriving DecidableEq

def StoreCall.apply (retention : Time) (store : RuntimeStore) (now : Time) :
    StoreCall → RuntimeStore
  | .addMember code m s tok => store.addMember code m s tok now
  | .removeMember code m session => (store.removeMember code m session retention now).2
  | .revokeMemberToken code m session => store.revokeMemberToken code m session
  | .evictMemberToken code m tok blockedUntil =>
    store.evictMemberToken code m tok blockedUntil now
  | .findMemberIdByToken code tok => (store.findMemberIdByToken code tok now).2
  | .isMemberTokenBlocked code tok currentTime =>
    (store.isMemberTokenBlocked code tok currentTime).2
  | .getRoom code => (store.getRoom code now).2
  | .getOrCreateRoom code => store.getOrCreateRoom code
  | .hasRoomResidue code => (store.hasRoomResidue code now).2
  | .deleteRoom code expectedGeneration => (store.deleteRoom code expectedGeneration).2
  | .markRoomGeneration code generation previous =>
    (store.markRoomGeneration code generation previous).2
  | .tryClaimMessageSlot code key tok expiresAt =>
    (store.tryClaimMessageSlot code key tok expiresAt now).2
  | .releaseMessageSlot code key tok => (store.releaseMessageSlot code key tok).2
  | .acquireRoomLock code key tok expiresAt => (store.acquireRoomLock code key tok expiresAt now).2
  | .releaseRoomLock code key tok => (store.releaseRoomLock code key tok).2
  | .registerSession s => store.registerSession s
  | .unregisterSession s => store.unregisterSession s
  | .markSessionJoinedRoom s code => store.markSessionJoinedRoom s code
  | .markSessionLeftRoom s code => store.markSessionLeftRoom s code

/-- Calls with the times they are made at. -/
abbrev Calls := List (Time × StoreCall)

def RuntimeStore.run (retention : Time) (store : RuntimeStore) (calls : Calls) : RuntimeStore :=
  calls.foldl (fun store call => call.2.apply retention store call.1) store

section
variable (retention now : Time) (store : RuntimeStore) (c : Code) (j : MemberId)

def StoreCall.move : StoreCall → Identity.Move
  | .addMember code m s tok => if code = c then if m = j then .add s tok else .lapse else .idle
  | .removeMember code m session =>
    if code = c then if m = j then .remove session else .lapse else .idle
  | .revokeMemberToken code m session => if code = c ∧ m = j then .revoke session else .idle
  | .evictMemberToken code m _ _ => if code = c ∧ m = j then .revoke none else .idle
  | .findMemberIdByToken code _ | .getRoom code | .hasRoomResidue code =>
    if code = c then .lapse else .idle
  | .deleteRoom code generation =>
    if code = c ∧ store.getRoomGeneration code = generation then .drop else .idle
  | _ => .idle

/-- The calls that touch neither the entries nor the deadlines. -/
def StoreCall.Aside : StoreCall → Prop
  | .isMemberTokenBlocked .. | .markRoomGeneration .. | .tryClaimMessageSlot ..
  | .releaseMessageSlot .. | .acquireRoomLock .. | .releaseRoomLock .. | .registerSession _
  | .unregisterSession _ | .markSessionJoinedRoom .. | .markSessionLeftRoom .. => True
  | _ => False

theorem aside_apply {call : StoreCall} (aside : call.Aside) :
    (call.apply retention store now).rooms = store.rooms ∧
      (call.apply retention store now).memberTokenExpiry = store.memberTokenExpiry := by
  cases call with
  | isMemberTokenBlocked code tok currentTime => exact ⟨rfl, rfl⟩
  | markRoomGeneration code generation previous =>
    simp only [StoreCall.apply, RuntimeStore.markRoomGeneration]
    split <;> exact ⟨rfl, rfl⟩
  | tryClaimMessageSlot code key tok expiresAt => exact ⟨rfl, rfl⟩
  | releaseMessageSlot code key tok =>
    simp only [StoreCall.apply, RuntimeStore.releaseMessageSlot]
    split
    · exact ⟨rfl, rfl⟩
    · split <;> exact ⟨rfl, rfl⟩
  | acquireRoomLock code key tok expiresAt => exact ⟨rfl, rfl⟩
  | releaseRoomLock code key tok =>
    simp only [StoreCall.apply, RuntimeStore.releaseRoomLock]
    split
    · exact ⟨rfl, rfl⟩
    · split <;> exact ⟨rfl, rfl⟩
  | registerSession s => exact ⟨rfl, rfl⟩
  | unregisterSession s => exact ⟨rfl, rfl⟩
  | markSessionJoinedRoom s code =>
    simp only [StoreCall.apply, RuntimeStore.markSessionJoinedRoom]
    split <;> exact ⟨rfl, rfl⟩
  | markSessionLeftRoom s code =>
    simp only [StoreCall.apply, RuntimeStore.markSessionLeftRoom]
    split <;> exact ⟨rfl, rfl⟩
  | _ => cases aside

/-- Every call is a move of each identity. -/
theorem identity_apply (call : StoreCall) :
    (call.apply retention store now).identity c j =
      (store.identity c j).after retention now (call.move store c j) := by
  by_cases aside : call.Aside
  · obtain ⟨rooms, expiry⟩ := aside_apply retention now store aside
    have still : call.move store c j = .idle := by
      cases call <;> first | rfl | cases aside
    rw [still, RuntimeStore.identity, RuntimeStore.deadlines, rooms, expiry]
    rfl
  have lapsed (code : Code) :
      (store.pruneExpiredMemberTokens code now).identity c j =
        (store.identity c j).after retention now (if code = c then .lapse else .idle) := by
    rw [RuntimeStore.identity_prune]
    split <;> rfl
  cases call with
  | addMember code m s tok =>
    simp only [StoreCall.apply, RuntimeStore.identity_addMember, RuntimeStore.identity_prune,
      StoreCall.move]
    by_cases same : code = c
    · by_cases here : m = j <;> simp [same, here, Identity.after]
    · simp [same, Identity.after]
  | removeMember code m session =>
    simp only [StoreCall.apply, RuntimeStore.identity_removeMember, RuntimeStore.identity_prune,
      StoreCall.move]
    by_cases same : code = c
    · by_cases here : m = j <;> simp [same, here, Identity.after]
    · simp [same, Identity.after]
  | revokeMemberToken code m session =>
    simp only [StoreCall.apply, RuntimeStore.identity_revoke, StoreCall.move]
    split <;> rfl
  | evictMemberToken code m tok blockedUntil =>
    simp only [StoreCall.apply, RuntimeStore.identity_evict, StoreCall.move]
    split <;> rfl
  | findMemberIdByToken code tok => exact lapsed code
  | getRoom code => exact lapsed code
  | hasRoomResidue code => exact lapsed code
  | getOrCreateRoom code => exact RuntimeStore.identity_getOrCreateRoom ..
  | deleteRoom code generation =>
    simp only [StoreCall.apply, RuntimeStore.identity_deleteRoom, StoreCall.move]
    split <;> rfl
  | _ => exact absurd trivial aside

theorem bare_apply {call : StoreCall} (bare : (call.apply retention store now).rooms.Bare c) :
    store.rooms.Bare c ∨ call = .getOrCreateRoom c ∧ store.rooms.get? c = none := by
  by_cases aside : call.Aside
  · rw [(aside_apply retention now store aside).1] at bare
    exact .inl bare
  cases call with
  | addMember code m s tok =>
    simp only [StoreCall.apply, RuntimeStore.addMember, RuntimeStore.rooms_drop] at bare
    exact .inl (bare_prune (bare_add bare))
  | removeMember code m session => exact .inl (bare_prune (bare_remove bare))
  | revokeMemberToken code m session =>
    simp only [StoreCall.apply, RuntimeStore.rooms_revoke] at bare
    exact .inl (bare_revoke bare)
  | evictMemberToken code m tok blockedUntil =>
    simp only [StoreCall.apply, RuntimeStore.evictMemberToken, RuntimeStore.rooms_revoke] at bare
    exact .inl (bare_revoke bare)
  | findMemberIdByToken code tok => exact .inl (bare_prune bare)
  | getRoom code => exact .inl (bare_prune bare)
  | hasRoomResidue code => exact .inl (bare_prune bare)
  | getOrCreateRoom code =>
    simp only [StoreCall.apply, RuntimeStore.getOrCreateRoom] at bare
    split at bare
    · exact .inl bare
    next absent =>
      by_cases same : code = c
      · exact .inr ⟨by rw [same], same ▸ absent⟩
      · obtain ⟨room, held, empty⟩ := bare
        rw [JsMap.get?_set_ne _ _ same] at held
        exact .inl ⟨room, held, empty⟩
  | deleteRoom code generation =>
    left
    simp only [StoreCall.apply, RuntimeStore.deleteRoom] at bare
    split at bare
    · exact bare
    · exact bare_delete bare
  | _ => exact absurd trivial aside

end

/-! ## Runs -/

section
variable {retention : Time} {store : RuntimeStore} {c : Code} {j : MemberId}

theorem kept_run (kept : ∀ c j, (store.identity c j).Kept) (calls : Calls) (c : Code)
    (j : MemberId) : ((store.run retention calls).identity c j).Kept := by
  induction calls generalizing store with
  | nil => exact kept c j
  | cons call rest ih =>
    apply ih
    intro c j
    rw [identity_apply]
    exact (kept c j).after ..

theorem kept_start (c : Code) (j : MemberId) :
    (({} : RuntimeStore).identity c j).Kept := by
  constructor <;> intro some <;> cases some

theorem run_concat (calls : Calls) (call : Time × StoreCall) :
    store.run retention (calls ++ [call]) =
      call.2.apply retention (store.run retention calls) call.1 := by
  simp [RuntimeStore.run]

/-- The room has had an entry with neither members nor tokens ever since `getOrCreateRoom` made
it. -/
def MadeBare (retention : Time) (store : RuntimeStore) (calls : Calls) (c : Code) : Prop :=
  ∃ before now after, calls = before ++ (now, .getOrCreateRoom c) :: after ∧
    (store.run retention before).rooms.get? c = none ∧ ∀ part, part <+: after →
      (store.run retention (before ++ (now, .getOrCreateRoom c) :: part)).rooms.Bare c

theorem bare_run {calls : Calls} (bare : (store.run retention calls).rooms.Bare c) :
    store.rooms.Bare c ∨ MadeBare retention store calls c := by
  induction calls using List.reverseRecOn with
  | nil => exact .inl bare
  | append_singleton calls call ih =>
    have here := bare
    rw [run_concat] at bare
    rcases bare_apply retention call.1 _ c bare with earlier | ⟨made, absent⟩
    · refine (ih earlier).imp_right ?_
      rintro ⟨before, now, after, rfl, absent, since⟩
      refine ⟨before, now, after ++ [call], by simp, absent, fun part starts => ?_⟩
      rcases List.prefix_concat_iff.mp starts with rfl | shorter
      · simpa using here
      · exact since part shorter
    · obtain ⟨now, call⟩ := call
      obtain rfl : call = .getOrCreateRoom c := made
      refine .inr ⟨calls, now, [], rfl, absent, fun part starts => ?_⟩
      rw [List.prefix_nil.mp starts]
      exact here

/-- What is neither added, revoked nor torn down only lapses. A teardown of another generation is
declined. -/
def StoreCall.Spares (store : RuntimeStore) (c : Code) (j : MemberId) : StoreCall → Prop
  | .addMember code m _ _ | .revokeMemberToken code m _ | .evictMemberToken code m _ _ =>
    ¬ (code = c ∧ m = j)
  | .deleteRoom code generation => ¬ (code = c ∧ store.getRoomGeneration code = generation)
  | _ => True

/-- Each of the calls spares the member where it is made. -/
def Spared (retention : Time) (c : Code) (j : MemberId) (store : RuntimeStore) : Calls → Prop
  | [] => True
  | call :: rest =>
    call.2.Spares store c j ∧ Spared retention c j (call.2.apply retention store call.1) rest

theorem spared_apply {now : Time} {call : StoreCall} (spares : call.Spares store c j)
    (away : (store.identity c j).seat = none) :
    (call.apply retention store now).identity c j = store.identity c j ∨
      (call.apply retention store now).identity c j = (store.identity c j).prune now := by
  have empty : ((store.identity c j).prune now).seat = none := by
    unfold Identity.prune
    split <;> exact away
  rw [identity_apply]
  cases call with
  | addMember code m s tok =>
    simp only [StoreCall.move]
    by_cases same : code = c
    · have other : m ≠ j := fun here => spares ⟨same, here⟩
      rw [if_pos same, if_neg other]
      exact .inr rfl
    · rw [if_neg same]
      exact .inl rfl
  | removeMember code m session =>
    simp only [StoreCall.move]
    split
    · right
      split
      · simp [Identity.after, Identity.remove, empty]
      · rfl
    · exact .inl rfl
  | revokeMemberToken code m session => exact .inl (by rw [StoreCall.move, if_neg spares]; rfl)
  | evictMemberToken code m tok blockedUntil =>
    exact .inl (by rw [StoreCall.move, if_neg spares]; rfl)
  | deleteRoom code generation =>
    exact .inl (by rw [StoreCall.move, if_neg spares]; rfl)
  | findMemberIdByToken code tok => simp only [StoreCall.move]; split <;> simp [Identity.after]
  | getRoom code => simp only [StoreCall.move]; split <;> simp [Identity.after]
  | hasRoomResidue code => simp only [StoreCall.move]; split <;> simp [Identity.after]
  | _ => exact .inl rfl

/-- Up to its deadline an identity that is spared stays what it is. -/
theorem spared_early {calls : Calls} {deadline : Time}
    (spares : Spared retention c j store calls) (early : ∀ call ∈ calls, call.1 < deadline)
    (away : (store.identity c j).seat = none)
    (due : (store.identity c j).deadline = some deadline) :
    (store.run retention calls).identity c j = store.identity c j := by
  induction calls generalizing store with
  | nil => rfl
  | cons call rest ih =>
    obtain ⟨first, others⟩ := spares
    have kept : (call.2.apply retention store call.1).identity c j = store.identity c j := by
      rcases spared_apply first away with same | pruned
      · exact same
      · rw [pruned, Identity.prune_early due (early call List.mem_cons_self)]
    have later := ih others (fun other mem => early other (List.mem_cons_of_mem _ mem)) (kept ▸ away) (kept ▸ due)
    exact later.trans kept

/-- Whenever it lapses, an identity that is spared has its deadline or nothing. -/
theorem spared_late {calls : Calls} {deadline now : Time}
    (spares : Spared retention c j store calls) (kept : (store.identity c j).Kept)
    (away : (store.identity c j).seat = none)
    (due : ∀ other, (store.identity c j).deadline = some other → other = deadline)
    (late : deadline ≤ now) :
    (((store.run retention calls).identity c j).prune now).token = none := by
  induction calls generalizing store with
  | nil => exact kept.lapsed away due late
  | cons call rest ih =>
    obtain ⟨first, others⟩ := spares
    have kept' : ((call.2.apply retention store call.1).identity c j).Kept := by
      rw [identity_apply]
      exact kept.after ..
    rcases spared_apply first away with same | pruned
    · exact ih others kept' (same ▸ away) (same ▸ due)
    · apply ih others kept'
      · rw [pruned]
        unfold Identity.prune
        split <;> exact away
      · rw [pruned]
        unfold Identity.prune
        split
        · intro other none
          cases none
        · exact due

end

/-! ## Retention -/

/-- Who is removed from a seat has a deadline for the token. -/
theorem removed_identity {retention now : Time} {store : RuntimeStore} {c : Code} {m : MemberId}
    {session : Option SessionId} {tok : Token} (kept : (store.identity c m).Kept)
    (holds : (store.identity c m).token = some tok)
    (removed : (store.removeMember c m session retention now).1.removed = true) :
    (store.removeMember c m session retention now).2.identity c m =
      { token := some tok, deadline := some (now + retention) } := by
  have seats : (store.pruneExpiredMemberTokens c now).rooms.members c = store.rooms.members c :=
    RuntimeStore.seats_prune store c c now
  obtain ⟨seated, own⟩ := (removed_iff _ c m session).mp removed
  rw [seats] at seated own
  have seat : (store.identity c m).seat.isSome := seated
  have out : ¬ ((store.identity c m).seat.isNone ∨ taken (store.identity c m).seat session) := by
    rintro (none | busy)
    · simp [Option.isNone_iff_eq_none.mp none] at seat
    · exact absurd (own.symm.trans busy) (by decide)
  rw [RuntimeStore.identity_removeMember, if_pos ⟨rfl, rfl⟩, RuntimeStore.identity_prune,
    if_pos rfl, kept.seated seat, Identity.remove, if_neg out, holds]
  rfl

theorem identities_neither_leak_nor_lapse_early (retention : Time) (calls : Calls) (c : Code)
    (m : MemberId) :
    let store := RuntimeStore.run retention {} calls
    ((store.identity c m).token.isSome →
        (store.identity c m).seat.isSome ∨ (store.identity c m).deadline.isSome) ∧
    ((store.identity c m).deadline.isSome →
        (store.identity c m).seat = none ∧ (store.identity c m).token.isSome) ∧
    (store.rooms.Bare c → MadeBare retention {} calls c) ∧
    (∀ now, (store.identity c m).seat.isSome →
      (store.pruneExpiredMemberTokens c now).identity c m = store.identity c m) ∧
    ∀ session tok now, (store.identity c m).token = some tok →
      (store.removeMember c m session retention now).1.removed = true →
      ∀ later : Calls,
      Spared retention c m (store.removeMember c m session retention now).2 later →
      let left := (store.removeMember c m session retention now).2.run retention later
      (∀ t < now + retention, (∀ call ∈ later, call.1 ≤ t) →
        (∃ found, (left.findMemberIdByToken c tok t).1 = some found) ∧
        ((∀ other ≠ m,
            ((left.pruneExpiredMemberTokens c t).identity c other).token ≠ some tok) →
          (left.findMemberIdByToken c tok t).1 = some m)) ∧
      ∀ t ≥ now + retention, ∀ any, (left.findMemberIdByToken c any t).1 ≠ some m := by
  intro store
  have kept : (store.identity c m).Kept := kept_run kept_start calls c m
  refine ⟨kept.clocked, fun due => ⟨kept.empty due, kept.redeemable due⟩, ?_, ?_, ?_⟩
  · intro bare
    rcases bare_run bare with ⟨room, held, -⟩ | made
    · cases held
    · exact made
  · intro now seated
    rw [RuntimeStore.identity_prune, if_pos rfl, kept.seated seated]
  · intro session tok now holds removed later spares left
    have gone := removed_identity kept holds removed
    constructor
    · intro t soon early
      have same : left.identity c m =
          { token := some tok, deadline := some (now + retention) } := by
        have still : left.identity c m =
            (store.removeMember c m session retention now).2.identity c m :=
          spared_early spares (fun call mem => (early call mem).trans_lt soon) (by rw [gone])
            (by rw [gone])
        exact still.trans gone
      have held : ((left.pruneExpiredMemberTokens c t).identity c m).token = some tok := by
        rw [RuntimeStore.identity_prune, if_pos rfl, same, Identity.prune_early rfl soon]
      obtain ⟨found, answer⟩ := RuntimeStore.findMemberIdByToken_isSome c m left t held
      refine ⟨⟨found, answer⟩, fun only => ?_⟩
      by_cases own : found = m
      · rw [answer, own]
      · exact absurd (RuntimeStore.findMemberIdByToken_some c found left t answer) (only found own)
    · intro t late any answer
      have token := RuntimeStore.findMemberIdByToken_some c m left t answer
      have keeps : ((store.removeMember c m session retention now).2.identity c m).Kept := by
        rw [gone]
        constructor <;> simp
      have none : ((left.identity c m).prune t).token = none :=
        spared_late spares keeps (by rw [gone])
          (by rw [gone]; intro other same; exact (Option.some.inj same).symm) late
      rw [RuntimeStore.identity_prune, if_pos rfl] at token
      exact absurd (none.symm.trans token) (by simp)

def arrivals : Calls :=
  [(0, .addMember 1 10 100 1000), (0, .addMember 1 20 200 2000), (0, .addMember 1 30 300 3000)]

/-- A removal, a teardown of a generation the room does not have, and a look at what is left. -/
def departures : Calls :=
  [(7, .removeMember 1 10 none), (8, .deleteRoom 1 (some 3)), (9, .hasRoomResidue 1)]

/-- The store after the second member left, and the first. -/
def departed : RuntimeStore :=
  (RuntimeStore.removeMember (.run 50 {} arrivals) 1 20 (some 200) 50 5).2.run 50 departures

theorem departed_member_is_found : (departed.findMemberIdByToken 1 2000 54).1 = some 20 := by
  have laws := identities_neither_leak_nor_lapse_early 50 arrivals 1 20
  have left := laws.2.2.2.2 (some 200) 2000 5 (by decide +kernel) (by decide +kernel)
    departures ⟨trivial, fun torn => absurd torn.2 (by decide +kernel), trivial, trivial⟩
  refine (left.1 54 (by decide) (by decide)).2 ?_
  intro other apart same
  have tokens : ((departed.pruneExpiredMemberTokens 1 54).rooms.tokens 1).entries =
      [(10, 1000), (20, 2000), (30, 3000)] := by decide +kernel
  have listed := JsMap.mem_entries_iff.mpr same
  change (other, 2000) ∈ ((departed.pruneExpiredMemberTokens 1 54).rooms.tokens 1).entries at listed
  rw [tokens] at listed
  simp [apart] at listed

/-- A token two members were given finds the first of them. -/
theorem shared_token_finds_the_first :
    let store := RuntimeStore.run 50 {}
      [(0, .addMember 1 10 100 1000), (0, .addMember 1 20 200 1000)]
    (store.removeMember 1 20 (some 200) 50 5).1.removed = true ∧
      ((store.removeMember 1 20 (some 200) 50 5).2.findMemberIdByToken 1 1000 6).1 = some 10 := by
  decide +kernel

end BiliSyncPlay
