import BiliSyncPlay.Stores.RuntimeStore

/-!
# Identities

Under every code a member has a seat, a token and a deadline, or some of them. Every operation of
the store acts on these three of one member at a time; what it does to them is stated without the
maps, and what holds of them is proved there.
-/

namespace BiliSyncPlay

/-! ## The rest of the store -/

/-- `existingBlock`, put off, or a new block. -/
def blockToken (memberToken : Token) (blockedUntil : Time) :
    List KickedMemberBlock → List KickedMemberBlock
  | [] => [⟨memberToken, blockedUntil⟩]
  | entry :: rest =>
    if entry.memberToken = memberToken then
      { entry with expiresAt := max entry.expiresAt blockedUntil } :: rest
    else entry :: blockToken memberToken blockedUntil rest

namespace RuntimeStore

def getOrCreateRoom (store : RuntimeStore) (code : Code) : RuntimeStore :=
  match store.rooms.get? code with
  | some _ => store
  | none =>
    { store with
      rooms := store.rooms.set code ⟨code, store.nextIdentity, .empty, .empty⟩
      nextIdentity := store.nextIdentity + 1 }

def evictMemberToken (store : RuntimeStore) (code : Code) (memberId : MemberId)
    (memberToken : Token) (blockedUntil now : Time) : RuntimeStore :=
  let active := filterActiveBlockedMemberTokens
    ((store.blockedMemberTokens.get? code).getD []) now
  revokeMemberToken
    { store with
      blockedMemberTokens :=
        store.blockedMemberTokens.set code (blockToken memberToken blockedUntil active) }
    code memberId none

end RuntimeStore

/-! ## Identities -/

structure Identity where
  seat : Option SessionId := none
  token : Option Token := none
  deadline : Option Time := none
  deriving DecidableEq

/-- Whether another session than this one has the seat. -/
def taken (seat session : Option SessionId) : Bool :=
  match session, seat with
  | some s, some current => current ≠ s
  | _, _ => false

namespace Identity

def prune (i : Identity) (now : Time) : Identity :=
  if i.deadline.any (· ≤ now) then { i with token := none, deadline := none } else i

def added (session : SessionId) (memberToken : Token) : Identity where
  seat := some session
  token := some memberToken

def remove (i : Identity) (session : Option SessionId) (deadline : Time) : Identity :=
  if i.seat.isNone ∨ taken i.seat session then i
  else { i with seat := none, deadline := if i.token.isSome then some deadline else i.deadline }

def revoke (i : Identity) (session : Option SessionId) : Identity :=
  if taken i.seat session then i
  else { i with token := none, deadline := if i.token.isSome then none else i.deadline }

/-- A token has somebody in the seat or a deadline; a deadline has a token and an empty seat. -/
structure Kept (i : Identity) : Prop where
  clocked : i.token.isSome → i.seat.isSome ∨ i.deadline.isSome
  empty : i.deadline.isSome → i.seat = none
  redeemable : i.deadline.isSome → i.token.isSome

variable {i : Identity}

theorem Kept.prune (kept : Kept i) (now : Time) : Kept (i.prune now) := by
  unfold Identity.prune
  split
  · constructor <;> simp
  · exact kept

theorem kept_added (session : SessionId) (memberToken : Token) :
    Kept (added session memberToken) := by
  constructor <;> simp [added]

theorem Kept.remove (kept : Kept i) (session : Option SessionId) (deadline : Time) :
    Kept (i.remove session deadline) := by
  unfold Identity.remove
  split
  · exact kept
  · next out =>
    have seated : i.seat ≠ none := fun none => out (.inl (by simp [none]))
    have free : i.deadline = none := by
      by_contra due
      exact seated (kept.empty (Option.isSome_iff_ne_none.mpr due))
    constructor <;> simp [free]

theorem Kept.revoke (kept : Kept i) (session : Option SessionId) :
    Kept (i.revoke session) := by
  unfold Identity.revoke
  split
  · exact kept
  · constructor
    · simp
    · intro due
      dsimp only at due ⊢
      split at due
      · cases due
      · exact kept.empty due
    · intro due
      dsimp only at due
      split at due
      · cases due
      · next bare => exact absurd (kept.redeemable due) bare

/-- What a call is to one identity. -/
inductive Move where
  | idle
  | lapse
  | add (session : SessionId) (memberToken : Token)
  | remove (session : Option SessionId)
  | revoke (session : Option SessionId)
  | drop
  deriving DecidableEq

def after (i : Identity) (retention now : Time) : Move → Identity
  | .idle => i
  | .lapse => i.prune now
  | .add session memberToken => added session memberToken
  | .remove session => (i.prune now).remove session (now + retention)
  | .revoke session => i.revoke session
  | .drop => {}

theorem Kept.after (kept : Kept i) (retention now : Time) (move : Move) :
    Kept (i.after retention now move) := by
  cases move with
  | idle => exact kept
  | lapse => exact kept.prune now
  | add session memberToken => exact kept_added session memberToken
  | remove session => exact (kept.prune now).remove session _
  | revoke session => exact kept.revoke session
  | drop => constructor <;> simp [Identity.after]

theorem prune_early {deadline now : Time} (due : i.deadline = some deadline)
    (early : now < deadline) : i.prune now = i := by
  have soon : ¬ i.deadline.any (· ≤ now) = true := by simp [due, early]
  rw [prune, if_neg soon]

/-- From its deadline on, a token nobody uses is gone. -/
theorem Kept.lapsed {deadline now : Time} (kept : Kept i) (away : i.seat = none)
    (due : ∀ other, i.deadline = some other → other = deadline) (late : deadline ≤ now) :
    (i.prune now).token = none := by
  cases held : i.deadline with
  | some other =>
    have past : i.deadline.any (· ≤ now) = true := by simp [held, due other held, late]
    rw [Identity.prune, if_pos past]
  | none =>
    have soon : ¬ i.deadline.any (· ≤ now) = true := by simp [held]
    rw [Identity.prune, if_neg soon]
    by_contra some
    rcases kept.clocked (Option.isSome_iff_ne_none.mpr some) with seated | clocked
    · rw [away] at seated
      cases seated
    · rw [held] at clocked
      cases clocked

/-- Nobody in a seat is pruned. -/
theorem Kept.seated (kept : Kept i) (seated : i.seat.isSome) (now : Time) :
    i.prune now = i := by
  have free : i.deadline = none := by
    by_contra due
    rw [kept.empty (Option.isSome_iff_ne_none.mpr due)] at seated
    cases seated
  simp [Identity.prune, free]

end Identity

/-! ## The maps -/

def ActiveRooms.tokens (rooms : ActiveRooms) (code : Code) : JsMap MemberId Token :=
  match rooms.get? code with
  | some room => room.memberTokens
  | none => .empty

variable (rooms : ActiveRooms) (code c : Code) (m j : MemberId)

theorem tokens_set (room : ActiveRoom) :
    ActiveRooms.tokens (rooms.set code room) c =
      if code = c then room.memberTokens else rooms.tokens c := by
  unfold ActiveRooms.tokens
  by_cases same : code = c <;> simp [same]

theorem tokens_delete :
    ActiveRooms.tokens (rooms.delete code) c = if code = c then .empty else rooms.tokens c := by
  unfold ActiveRooms.tokens
  by_cases same : code = c <;> simp [same]

variable {rooms code} in
theorem tokens_of_get? {room : ActiveRoom} (held : rooms.get? code = some room) :
    rooms.tokens code = room.memberTokens := by
  simp only [ActiveRooms.tokens, held]

variable {rooms code} in
theorem tokens_of_absent (absent : rooms.get? code = none) : rooms.tokens code = .empty := by
  simp only [ActiveRooms.tokens, absent]

theorem tokens_addMemberToRoom (identity : Nat) (s : SessionId) (tok : Token) :
    (addMemberToRoom rooms identity code m s tok).tokens c =
      if code = c then (rooms.tokens code).set m tok else rooms.tokens c := by
  unfold addMemberToRoom
  rw [tokens_set]
  cases held : rooms.get? code with
  | none => simp [tokens_of_absent held]
  | some room => simp [tokens_of_get? held]

theorem tokens_removeMemberFromRoom (session : Option SessionId) :
    (removeMemberFromRoom rooms code m session).2.tokens c = rooms.tokens c := by
  unfold removeMemberFromRoom
  cases held : rooms.get? code with
  | none => rfl
  | some room =>
    have same : (if code = c then room.memberTokens else rooms.tokens c) = rooms.tokens c := by
      split
      · next eq => rw [← eq, tokens_of_get? held]
      · rfl
    simp only
    split
    · rfl
    · simp only
      split
      · next dropped => rw [tokens_delete, ← JsMap.eq_empty_of_size dropped.2, same]
      · rw [tokens_set, same]

variable {code m} in
theorem heldByAnother_eq {room : ActiveRoom} (held : rooms.get? code = some room)
    (session : Option SessionId) :
    heldByAnother room m session = taken ((rooms.members code).get? m) session := by
  rw [members_of_get? held]
  rfl

theorem get?_tokens_revoke (session : Option SessionId) :
    ((revokeMemberTokenInRoom rooms code m session).2.tokens c).get? j =
      if code = c ∧ m = j ∧ taken ((rooms.members code).get? m) session = false then none
      else (rooms.tokens c).get? j := by
  unfold revokeMemberTokenInRoom
  cases held : rooms.get? code with
  | none =>
    simp only
    split
    · next here => rw [← here.1, tokens_of_absent held, JsMap.get?_empty]
    · rfl
  | some room =>
    simp only [heldByAnother_eq rooms held]
    by_cases busy : taken ((rooms.members code).get? m) session = true
    · simp [busy]
    · have free := (Bool.not_eq_true _).mp busy
      have kept : (if code = c then room.memberTokens.delete m else rooms.tokens c).get? j =
          if code = c ∧ m = j then none else (rooms.tokens c).get? j := by
        by_cases same : code = c
        · subst same
          rw [if_pos rfl, JsMap.get?_delete, tokens_of_get? held]
          simp
        · simp [same]
      simp only [free, Bool.false_eq_true, if_false, and_true]
      rw [← kept]
      split
      · next dropped => rw [tokens_delete, ← JsMap.eq_empty_of_size dropped.2]
      · rw [tokens_set]

theorem get?_members_remove (session : Option SessionId) :
    ((removeMemberFromRoom rooms code m session).2.members c).get? j =
      if code = c ∧ m = j ∧ taken ((rooms.members code).get? m) session = false then none
      else (rooms.members c).get? j := by
  cases session with
  | none =>
    rw [members_removeMemberFromRoom_none]
    by_cases same : code = c
    · subst same
      rw [if_pos rfl, JsMap.get?_delete]
      simp [taken]
    · simp [same]
  | some s =>
    rw [members_removeMemberFromRoom]
    by_cases same : code = c
    · subst same
      cases seat : (rooms.members code).get? m with
      | none =>
        by_cases here : m = j
        · subst here
          simp [taken, seat]
        · simp [here]
      | some t =>
        by_cases own : t = s
        · subst own
          simp [taken, JsMap.get?_delete]
        · simp [taken, own]
    · simp [same]

theorem removed_iff (session : Option SessionId) :
    (removeMemberFromRoom rooms code m session).1.removed = true ↔
      ((rooms.members code).get? m).isSome ∧
        taken ((rooms.members code).get? m) session = false := by
  unfold removeMemberFromRoom
  cases held : rooms.get? code with
  | none => simp [members_of_absent held]
  | some room =>
    simp only [heldByAnother_eq rooms held]
    rw [members_of_get? held]
    by_cases busy : taken (room.members.get? m) session = true
    · simp [busy]
    · simp [busy, JsMap.has]

theorem revoked_iff (session : Option SessionId) :
    (revokeMemberTokenInRoom rooms code m session).1 = true ↔
      ((rooms.tokens code).get? m).isSome ∧
        taken ((rooms.members code).get? m) session = false := by
  unfold revokeMemberTokenInRoom
  cases held : rooms.get? code with
  | none => simp [tokens_of_absent held]
  | some room =>
    simp only [heldByAnother_eq rooms held]
    rw [tokens_of_get? held]
    by_cases busy : taken ((rooms.members code).get? m) session = true
    · simp [busy]
    · simp [busy, JsMap.has]

/-! ### Pruning -/

theorem get?_foldl_delete {κ ν ω : Type} [DecidableEq κ] (gone : List (κ × ω)) (map : JsMap κ ν)
    (k : κ) :
    (gone.foldl (fun m e => m.delete e.1) map).get? k =
      if k ∈ gone.map Prod.fst then none else map.get? k := by
  rw [← JsMap.get?_foldl_delete, List.foldl_map]

theorem get?_tokens_foldl_revoke (gone : List (MemberId × Time)) :
    ((gone.foldl (fun r e => (revokeMemberTokenInRoom r code e.1 none).2) rooms).tokens c).get? j =
      if code = c ∧ j ∈ gone.map Prod.fst then none else (rooms.tokens c).get? j := by
  induction gone generalizing rooms with
  | nil => simp
  | cons e rest ih =>
    rw [List.foldl_cons, ih, get?_tokens_revoke]
    simp only [List.map_cons, List.mem_cons]
    by_cases same : code = c
    · by_cases later : j ∈ rest.map Prod.fst
      · simp [same, later]
      · by_cases here : e.1 = j
        · simp [same, here, taken]
        · simp [same, later, here, Ne.symm here]
    · simp [same]

/-- The keys whose value has lapsed. -/
theorem mem_lapsed (map : JsMap MemberId Time) (now : Time) :
    j ∈ (map.entries.filter fun e => e.2 ≤ now).map Prod.fst ↔ (map.get? j).any (· ≤ now) := by
  rw [List.mem_map]
  constructor
  · rintro ⟨⟨k, d⟩, mem, rfl⟩
    obtain ⟨listed, due⟩ := List.mem_filter.mp mem
    rw [JsMap.mem_entries_iff.mp listed]
    exact due
  · intro due
    cases known : map.get? j with
    | none => simp [known] at due
    | some d =>
      rw [known] at due
      exact ⟨(j, d), List.mem_filter.mpr ⟨JsMap.mem_entries_iff.mpr known, due⟩, rfl⟩

namespace RuntimeStore

variable (store : RuntimeStore) (now : Time)

def deadlines (code : Code) : JsMap MemberId Time :=
  (store.memberTokenExpiry.get? code).getD .empty

def identity (code : Code) (m : MemberId) : Identity where
  seat := (store.rooms.members code).get? m
  token := (store.rooms.tokens code).get? m
  deadline := (store.deadlines code).get? m

/-- A map that is dropped when it empties reads like the empty map. -/
theorem getD_put {κ ν : Type} [DecidableEq κ] (outer : JsMap Code (JsMap κ ν))
    (left : JsMap κ ν) (code c : Code) :
    ((if left.size = 0 then outer.delete code else outer.set code left).get? c).getD .empty =
      if code = c then left else (outer.get? c).getD .empty := by
  split
  · next none =>
    rw [JsMap.get?_delete]
    by_cases same : code = c
    · simp [same, JsMap.eq_empty_of_size none]
    · simp [same]
  · rw [JsMap.get?_set]
    by_cases same : code = c <;> simp [same]

theorem identity_prune :
    (store.pruneExpiredMemberTokens code now).identity c j =
      if code = c then (store.identity c j).prune now else store.identity c j := by
  unfold pruneExpiredMemberTokens
  cases known : store.memberTokenExpiry.get? code with
  | none =>
    by_cases same : code = c
    · subst same
      simp [Identity.prune, identity, deadlines, known]
    · simp [same]
  | some expiryByMember =>
    have held : store.deadlines code = expiryByMember := by simp [deadlines, known]
    simp only [identity, deadlines, members_foldl_revoke, get?_tokens_foldl_revoke, getD_put,
      mem_lapsed]
    by_cases same : code = c
    · subst same
      simp only [true_and, if_true, get?_foldl_delete, mem_lapsed, known, Option.getD_some]
      by_cases due : (expiryByMember.get? j).any (· ≤ now) = true
      · simp [Identity.prune, due]
      · simp [Identity.prune, due]
    · simp [same]

theorem get?_deadlines_drop :
    ((store.dropTokenExpiry code m).deadlines c).get? j =
      if code = c ∧ m = j then none else (store.deadlines c).get? j := by
  unfold dropTokenExpiry
  cases known : store.memberTokenExpiry.get? code with
  | none =>
    simp only
    split
    · next here => simp [deadlines, ← here.1, known]
    · rfl
  | some expiryByMember =>
    simp only [deadlines, JsMap.get?_set]
    by_cases same : code = c
    · subst same
      simp [known, JsMap.get?_delete]
    · simp [same]

@[simp] theorem rooms_drop : (store.dropTokenExpiry code m).rooms = store.rooms := by
  unfold dropTokenExpiry
  split <;> rfl

theorem identity_addMember (s : SessionId) (tok : Token) :
    (store.addMember code m s tok now).identity c j =
      if code = c ∧ m = j then .added s tok
      else (store.pruneExpiredMemberTokens code now).identity c j := by
  have deadline : ((store.addMember code m s tok now).deadlines c).get? j =
      if code = c ∧ m = j then none
      else ((store.pruneExpiredMemberTokens code now).deadlines c).get? j :=
    get?_deadlines_drop ..
  rw [identity, deadline]
  simp only [addMember, members_addMemberToRoom, tokens_addMemberToRoom, rooms_drop]
  by_cases same : code = c
  · subst same
    by_cases here : m = j <;> simp [here, Identity.added, identity]
  · simp [same, identity]

@[simp] theorem rooms_revoke (session : Option SessionId) :
    (store.revokeMemberToken code m session).rooms =
      (revokeMemberTokenInRoom store.rooms code m session).2 := by
  unfold revokeMemberToken
  simp only
  split
  · split <;> rfl
  · rfl

theorem identity_revoke (session : Option SessionId) :
    (store.revokeMemberToken code m session).identity c j =
      if code = c ∧ m = j then (store.identity c j).revoke session else store.identity c j := by
  have seat : ((store.revokeMemberToken code m session).rooms.members c).get? j =
      (store.rooms.members c).get? j := congrArg (·.get? j) (seats_revokeMemberToken ..)
  have token : ((store.revokeMemberToken code m session).rooms.tokens c).get? j =
      if code = c ∧ m = j ∧ taken ((store.rooms.members code).get? m) session = false then none
      else (store.rooms.tokens c).get? j := by
    rw [← get?_tokens_revoke, rooms_revoke]
  have deadline : ((store.revokeMemberToken code m session).deadlines c).get? j =
      if code = c ∧ m = j ∧ ((store.rooms.tokens code).get? m).isSome ∧
        taken ((store.rooms.members code).get? m) session = false then none
      else (store.deadlines c).get? j := by
    simp only [← revoked_iff]
    unfold revokeMemberToken
    by_cases revoked : (revokeMemberTokenInRoom store.rooms code m session).1 = true
    · simp only [revoked, if_true]
      cases known : store.memberTokenExpiry.get? code with
      | none =>
        simp only
        split
        · next here => simp [deadlines, ← here.1, known]
        · rfl
      | some expiryByMember =>
        simp only [deadlines, getD_put]
        by_cases same : code = c
        · subst same
          simp [known, JsMap.get?_delete]
        · simp [same]
    · simp [revoked, deadlines]
  rw [identity, seat, token, deadline]
  by_cases here : code = c ∧ m = j
  · obtain ⟨rfl, rfl⟩ := here
    cases held : (store.rooms.tokens code).get? m <;>
      cases busy : taken ((store.rooms.members code).get? m) session <;>
      simp [Identity.revoke, identity, held, busy]
  · have apart : ∀ p : Prop, ¬ (code = c ∧ m = j ∧ p) := fun p all => here ⟨all.1, all.2.1⟩
    simp only [here, apart, if_false, identity]

theorem identity_removeMember (session : Option SessionId) (retention : Time) :
    (store.removeMember code m session retention now).2.identity c j =
      if code = c ∧ m = j then
        ((store.pruneExpiredMemberTokens code now).identity c j).remove session (now + retention)
      else (store.pruneExpiredMemberTokens code now).identity c j := by
  let pruned := store.pruneExpiredMemberTokens code now
  let removal := removeMemberFromRoom pruned.rooms code m session
  have tokens : ((removal.2.get? code).map fun room => room.memberTokens.has m).getD false =
      ((pruned.rooms.tokens code).get? m).isSome := by
    have same := tokens_removeMemberFromRoom pruned.rooms code code m session
    cases held : removal.2.get? code with
    | none =>
      rw [tokens_of_absent held] at same
      rw [← same]
      rfl
    | some room =>
      rw [tokens_of_get? held] at same
      rw [← same]
      rfl
  have seat : ((store.removeMember code m session retention now).2.rooms.members c).get? j =
      if code = c ∧ m = j ∧ taken ((pruned.rooms.members code).get? m) session = false then none
      else (pruned.rooms.members c).get? j := get?_members_remove ..
  have token : ((store.removeMember code m session retention now).2.rooms.tokens c).get? j =
      (pruned.rooms.tokens c).get? j :=
    congrArg (·.get? j) (tokens_removeMemberFromRoom ..)
  have deadline : ((store.removeMember code m session retention now).2.deadlines c).get? j =
      if code = c ∧ m = j ∧ removal.1.removed = true ∧
        ((pruned.rooms.tokens code).get? m).isSome then some (now + retention)
      else (pruned.deadlines c).get? j := by
    unfold removeMember deadlines
    simp only [removal, pruned] at tokens ⊢
    simp only [tokens]
    by_cases kept : (removeMemberFromRoom (store.pruneExpiredMemberTokens code now).rooms code m
        session).1.removed = true ∧
          (((store.pruneExpiredMemberTokens code now).rooms.tokens code).get? m).isSome
    · simp only [kept, Bool.and_self, if_true, and_self, and_true, JsMap.get?_set]
      by_cases same : code = c
      · subst same
        simp [JsMap.get?_set]
      · simp [same]
    · have lost : ((removeMemberFromRoom (store.pruneExpiredMemberTokens code now).rooms code m
          session).1.removed &&
            (((store.pruneExpiredMemberTokens code now).rooms.tokens code).get? m).isSome) =
          false := by
        rw [← Bool.not_eq_true, Bool.and_eq_true]
        exact kept
      simp [lost, kept]
  simp only [removal, removed_iff] at deadline
  rw [identity, seat, token, deadline]
  by_cases here : code = c ∧ m = j
  · obtain ⟨rfl, rfl⟩ := here
    cases sat : (pruned.rooms.members code).get? m <;>
      cases held : (pruned.rooms.tokens code).get? m <;>
      cases busy : taken ((pruned.rooms.members code).get? m) session <;>
      simp_all [Identity.remove, identity, pruned]
  · have apart : ∀ p : Prop, ¬ (code = c ∧ m = j ∧ p) := fun p all => here ⟨all.1, all.2.1⟩
    simp only [here, apart, if_false, identity, pruned]

theorem identity_deleteRoom (generation : Option Generation) :
    (store.deleteRoom code generation).2.identity c j =
      if code = c ∧ store.getRoomGeneration code = generation then {} else store.identity c j := by
  unfold deleteRoom
  by_cases current : store.getRoomGeneration code = generation
  · simp only [current, ne_eq, not_true_eq_false, if_false, identity, deadlines, members_delete,
      tokens_delete, JsMap.get?_delete, and_true]
    by_cases same : code = c <;> simp [same]
  · simp [current]

theorem identity_getOrCreateRoom :
    (store.getOrCreateRoom code).identity c j = store.identity c j := by
  unfold getOrCreateRoom
  cases held : store.rooms.get? code with
  | some room => rfl
  | none =>
    simp only [identity, deadlines, members_set, tokens_set]
    by_cases same : code = c
    · subst same
      simp [members_of_absent held, tokens_of_absent held]
    · simp [same]

theorem identity_evict (memberToken : Token) (blockedUntil : Time) :
    (store.evictMemberToken code m memberToken blockedUntil now).identity c j =
      if code = c ∧ m = j then (store.identity c j).revoke none else store.identity c j :=
  identity_revoke ..

/-- The member a token is found to be: the first whose token it is. -/
theorem findMemberIdByToken_some {memberToken : Token}
    (found : (store.findMemberIdByToken code memberToken now).1 = some m) :
    ((store.pruneExpiredMemberTokens code now).identity code m).token = some memberToken := by
  obtain ⟨room, held, first⟩ := Option.bind_eq_some_iff.mp found
  obtain ⟨⟨k, tok⟩, here, rfl⟩ := Option.map_eq_some_iff.mp first
  have same := List.find?_some here
  simp only [decide_eq_true_eq] at same
  subst same
  rw [identity, tokens_of_get? held]
  exact JsMap.mem_entries_iff.mp (List.mem_of_find?_eq_some here)

theorem findMemberIdByToken_isSome {memberToken : Token}
    (holds : ((store.pruneExpiredMemberTokens code now).identity code m).token =
      some memberToken) :
    ∃ found, (store.findMemberIdByToken code memberToken now).1 = some found := by
  cases held : (store.pruneExpiredMemberTokens code now).rooms.get? code with
  | none =>
    rw [identity, tokens_of_absent held] at holds
    cases holds
  | some room =>
    rw [identity, tokens_of_get? held] at holds
    have listed := JsMap.mem_entries_iff.mpr holds
    cases first : room.memberTokens.entries.find? fun e => e.2 = memberToken with
    | none => exact absurd (decide_eq_true rfl) (List.find?_eq_none.mp first _ listed)
    | some e =>
      refine ⟨e.1, ?_⟩
      simp [findMemberIdByToken, held, findMemberIdByTokenEntries, first]

end RuntimeStore

/-! ## Entries -/

/-- An entry with nobody in it and no token. -/
def ActiveRooms.Bare (rooms : ActiveRooms) (code : Code) : Prop :=
  ∃ room, rooms.get? code = some room ∧ room.members.size = 0 ∧ room.memberTokens.size = 0

variable {rooms} {code c : Code}

theorem bare_set {room : ActiveRoom} (full : ¬ (room.members.size = 0 ∧ room.memberTokens.size = 0))
    (bare : ActiveRooms.Bare (rooms.set code room) c) : rooms.Bare c := by
  obtain ⟨entry, held, empty⟩ := bare
  rw [JsMap.get?_set] at held
  split at held
  · cases held
    exact absurd empty full
  · exact ⟨entry, held, empty⟩

theorem bare_delete (bare : ActiveRooms.Bare (rooms.delete code) c) : rooms.Bare c := by
  obtain ⟨entry, held, empty⟩ := bare
  rw [JsMap.get?_delete] at held
  split at held
  · cases held
  · exact ⟨entry, held, empty⟩

theorem bare_revoke {m : MemberId} {session : Option SessionId}
    (bare : (revokeMemberTokenInRoom rooms code m session).2.Bare c) : rooms.Bare c := by
  unfold revokeMemberTokenInRoom at bare
  split at bare
  · exact bare
  · split at bare
    · exact bare
    · simp only at bare
      split at bare
      · exact bare_delete bare
      · next full => exact bare_set full bare

theorem bare_remove {m : MemberId} {session : Option SessionId}
    (bare : (removeMemberFromRoom rooms code m session).2.Bare c) : rooms.Bare c := by
  unfold removeMemberFromRoom at bare
  split at bare
  · exact bare
  · split at bare
    · exact bare
    · simp only at bare
      split at bare
      · exact bare_delete bare
      · next full =>
        apply bare_set _ bare
        rintro ⟨none, clear⟩
        exact full ⟨by simp [none], clear⟩

theorem bare_add {identity : Nat} {m : MemberId} {s : SessionId} {tok : Token}
    (bare : (addMemberToRoom rooms identity code m s tok).Bare c) : rooms.Bare c := by
  unfold addMemberToRoom at bare
  apply bare_set _ bare
  rintro ⟨none, -⟩
  have seat := (JsMap.size_eq_zero_iff.mp none) m
  simp at seat

theorem bare_prune {store : RuntimeStore} {now : Time}
    (bare : (store.pruneExpiredMemberTokens code now).rooms.Bare c) : store.rooms.Bare c := by
  unfold RuntimeStore.pruneExpiredMemberTokens at bare
  split at bare
  · exact bare
  · have kept (gone : List (MemberId × Time)) (rooms : ActiveRooms)
        (bare : (gone.foldl (fun r e => (revokeMemberTokenInRoom r code e.1 none).2)
          rooms).Bare c) : rooms.Bare c := by
      induction gone generalizing rooms with
      | nil => exact bare
      | cons e rest ih => exact bare_revoke (ih _ bare)
    exact kept _ _ bare

end BiliSyncPlay
