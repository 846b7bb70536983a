import BiliSyncPlay.Protocol.Records
import Mathlib.Data.List.Lex
import Mathlib.Data.List.MinMax
import Mathlib.Data.Prod.Lex

/-!
# Who owns the share

The stored sharer while seated, else the member of the longest tenure. Members are ranked by
tenure, then by id; the election is the least of them, whatever order they are listed in.
-/

namespace BiliSyncPlay.Protocol

open Json RedisRoomStore

/-! ## Rank -/

instance : LinearOrder CodeUnit where
  le_refl := UInt16.le_refl
  le_trans _ _ _ := UInt16.le_trans
  le_antisymm _ _ := UInt16.le_antisymm
  le_total := UInt16.le_total
  lt_iff_le_not_ge _ _ := by rw [UInt16.not_le]; exact (and_iff_right_of_imp UInt16.le_of_lt).symm
  toDecidableLE := inferInstance
  toDecidableEq := inferInstance
  toDecidableLT := inferInstance

/-- `joinedAt ?? Infinity`. -/
def SharedVideoOwnerCandidate.tenure (candidate : SharedVideoOwnerCandidate) : WithTop ℚ :=
  match candidate.joinedAt with
  | some joinedAt => joinedAt
  | none => ⊤

def SharedVideoOwnerCandidate.rank (candidate : SharedVideoOwnerCandidate) :
    WithTop ℚ ×ₗ JsString :=
  toLex (candidate.tenure, candidate.id)

theorem rank_injective : Function.Injective SharedVideoOwnerCandidate.rank := by
  intro left right same
  have parts := Prod.ext_iff.mp (toLex.injective same)
  obtain ⟨id, joinedAt⟩ := left
  obtain ⟨id', joinedAt'⟩ := right
  cases joinedAt <;> cases joinedAt' <;> simp_all [SharedVideoOwnerCandidate.tenure]

theorem compareCandidates_lt_iff (left right : SharedVideoOwnerCandidate) :
    compareCandidates left right = .lt ↔ left.rank < right.rank := by
  obtain ⟨id, joinedAt⟩ := left
  obtain ⟨id', joinedAt'⟩ := right
  have byId : (if id < id' then Ordering.lt else if id' < id then .gt else .eq) = .lt ↔
      id < id' := by
    by_cases smaller : id < id'
    · simp [smaller]
    · by_cases greater : id' < id <;> simp [smaller, greater]
  rw [SharedVideoOwnerCandidate.rank, SharedVideoOwnerCandidate.rank, Prod.Lex.toLex_lt_toLex]
  cases joinedAt with
  | none =>
    cases joinedAt' with
    | none => exact byId.trans (by simp [SharedVideoOwnerCandidate.tenure])
    | some r => simp [compareCandidates, SharedVideoOwnerCandidate.tenure]
  | some l =>
    cases joinedAt' with
    | none => simp [compareCandidates, SharedVideoOwnerCandidate.tenure]
    | some r =>
      by_cases same : l = r
      · subst same
        unfold compareCandidates
        dsimp only
        rw [if_pos rfl]
        exact byId.trans (by simp [SharedVideoOwnerCandidate.tenure])
      · simp [compareCandidates, SharedVideoOwnerCandidate.tenure, same, compare_lt_iff_lt]

/-! ## The election -/

theorem longestTenured_eq (members : List SharedVideoOwnerCandidate) :
    longestTenured members = members.argmin SharedVideoOwnerCandidate.rank := by
  unfold longestTenured List.argmin
  congr
  funext successor member
  cases successor with
  | none => rfl
  | some best => simp only [compareCandidates_lt_iff, List.argAux]

@[simp] theorem longestTenured_nil : longestTenured [] = none := rfl

variable {left members right : List SharedVideoOwnerCandidate}

/-- The least in rank, and the only one. -/
theorem longestTenured_eq_some_iff {best : SharedVideoOwnerCandidate} :
    longestTenured members = some best ↔
      best ∈ members ∧ ∀ member ∈ members, best.rank ≤ member.rank := by
  rw [longestTenured_eq]
  constructor
  · intro elected
    exact ⟨List.argmin_mem elected, fun member listed => List.le_of_mem_argmin listed elected⟩
  · rintro ⟨listed, least⟩
    cases elected : members.argmin SharedVideoOwnerCandidate.rank with
    | none =>
      rw [List.argmin_eq_none.mp elected] at listed
      cases listed
    | some other =>
      have below := List.le_of_mem_argmin listed elected
      have above := least other (List.argmin_mem elected)
      rw [rank_injective (le_antisymm below above)]

theorem longestTenured_eq_none_iff :
    longestTenured members = none ↔ members = [] := by
  rw [longestTenured_eq, List.argmin_eq_none]

theorem longestTenured_perm (same : left.Perm right) :
    longestTenured left = longestTenured right := by
  cases elected : longestTenured right with
  | none =>
    rw [longestTenured_eq_none_iff.mp elected] at same
    rw [same.eq_nil, longestTenured_nil]
  | some best =>
    obtain ⟨listed, least⟩ := longestTenured_eq_some_iff.mp elected
    apply longestTenured_eq_some_iff.mpr
    exact ⟨same.mem_iff.mpr listed, fun member here => least member (same.mem_iff.mp here)⟩

/-- A member who does not come first changes nothing. -/
theorem longestTenured_cons {other best : SharedVideoOwnerCandidate}
    (elected : longestTenured members = some best) (later : best.rank ≤ other.rank) :
    longestTenured (other :: members) = some best := by
  obtain ⟨listed, least⟩ := longestTenured_eq_some_iff.mp elected
  apply longestTenured_eq_some_iff.mpr
  exact ⟨List.mem_cons_of_mem _ listed, List.forall_mem_cons.mpr ⟨later, least⟩⟩

/-! ## The owner -/

/-- The sharer is seated. -/
def Seated (owner : JsString) (members : List SharedVideoOwnerCandidate) : Prop :=
  ∃ member ∈ members, member.id = owner

instance (owner : JsString) (members : List SharedVideoOwnerCandidate) :
    Decidable (Seated owner members) :=
  inferInstanceAs (Decidable (∃ member ∈ members, member.id = owner))

theorem resolve_seated {owner : JsString} (shared : owner ≠ []) (seated : Seated owner members) :
    resolveSharedVideoOwnerId (some owner) members = some owner := by
  cases owner with
  | nil => exact absurd rfl shared
  | cons c rest => exact if_pos (by simpa [Seated] using seated)

theorem resolve_absent {owner : JsString} (shared : owner ≠ []) (absent : ¬ Seated owner members) :
    resolveSharedVideoOwnerId (some owner) members =
      some (((longestTenured members).map SharedVideoOwnerCandidate.id).getD owner) := by
  cases owner with
  | nil => exact absurd rfl shared
  | cons c rest => exact if_neg (by simpa [Seated] using absent)

/-- What the owner depends on: the ids seated and who is elected. -/
theorem resolve_congr (stored : Option JsString)
    (ids : ∀ owner, stored = some owner → (Seated owner left ↔ Seated owner right))
    (elected : (∀ owner, stored = some owner → ¬ Seated owner right) →
      longestTenured left = longestTenured right) :
    resolveSharedVideoOwnerId stored left = resolveSharedVideoOwnerId stored right := by
  cases stored with
  | none => rfl
  | some owner =>
    by_cases shared : owner = []
    · subst shared
      rfl
    · by_cases seated : Seated owner right
      · rw [resolve_seated shared seated, resolve_seated shared ((ids owner rfl).mpr seated)]
      · have same := elected fun other same => by cases same; exact seated
        rw [resolve_absent shared seated, resolve_absent shared fun here =>
          seated ((ids owner rfl).mp here), same]

theorem seated_perm {owner : JsString} (same : left.Perm right) :
    Seated owner left ↔ Seated owner right := by
  simp only [Seated, same.mem_iff]

theorem seated_cons {owner : JsString} {other : SharedVideoOwnerCandidate} :
    Seated owner (other :: members) ↔ other.id = owner ∨ Seated owner members := by
  simp [Seated]

theorem resolve_perm (stored : Option JsString) (same : left.Perm right) :
    resolveSharedVideoOwnerId stored left = resolveSharedVideoOwnerId stored right :=
  resolve_congr stored (fun _ _ => seated_perm same) fun _ => longestTenured_perm same

theorem resolve_stored_or_listed (stored : Option JsString)
    (members : List SharedVideoOwnerCandidate) :
    resolveSharedVideoOwnerId stored members = stored.filter (· ≠ []) ∨
      ∃ member ∈ members, resolveSharedVideoOwnerId stored members = some member.id := by
  cases stored with
  | none => exact .inl rfl
  | some owner =>
    by_cases shared : owner = []
    · subst shared
      exact .inl rfl
    · have kept : Option.filter (· ≠ []) (some owner) = some owner := by simp [shared]
      rw [kept]
      by_cases seated : Seated owner members
      · exact .inl (resolve_seated shared seated)
      · rw [resolve_absent shared seated]
        cases elected : longestTenured members with
        | none => exact .inl rfl
        | some best => exact .inr ⟨best, (longestTenured_eq_some_iff.mp elected).1, rfl⟩

/-- Who leaves without owning the share leaves it where it is. -/
theorem resolve_remove {stored : Option JsString} {gone : SharedVideoOwnerCandidate}
    (absent : ∀ owner, stored = some owner → ¬ Seated owner (gone :: members))
    (other : resolveSharedVideoOwnerId stored (gone :: members) ≠ some gone.id) :
    resolveSharedVideoOwnerId stored members =
      resolveSharedVideoOwnerId stored (gone :: members) := by
  cases stored with
  | none => rfl
  | some owner =>
    by_cases shared : owner = []
    · subst shared
      rfl
    · have before := absent owner rfl
      have after : ¬ Seated owner members := fun here => before (seated_cons.mpr (.inr here))
      rw [resolve_absent shared before] at other
      rw [resolve_absent shared before, resolve_absent shared after]
      cases elected : longestTenured (gone :: members) with
      | none => cases longestTenured_eq_none_iff.mp elected
      | some best =>
        obtain ⟨listed, least⟩ := longestTenured_eq_some_iff.mp elected
        have apart : best ≠ gone := by
          rintro rfl
          exact other (by rw [elected]; rfl)
        have stays := (List.mem_cons.mp listed).resolve_left apart
        have same : longestTenured members = some best :=
          longestTenured_eq_some_iff.mpr ⟨stays, fun member here =>
            least member (List.mem_cons_of_mem _ here)⟩
        rw [same]

/-- A newcomer does not take the share, unless it is the sharer's. -/
theorem resolve_add {stored : Option JsString} {added : SharedVideoOwnerCandidate}
    (later : ∃ member ∈ members, member.tenure < added.tenure)
    (newcomer : stored = some added.id → Seated added.id members) :
    resolveSharedVideoOwnerId stored (added :: members) =
      resolveSharedVideoOwnerId stored members := by
  apply resolve_congr
  · intro owner held
    rw [seated_cons]
    constructor
    · rintro (rfl | seated)
      · exact newcomer held
      · exact seated
    · exact .inr
  · intro _
    obtain ⟨member, listed, before⟩ := later
    cases elected : longestTenured members with
    | none =>
      rw [longestTenured_eq_none_iff.mp elected] at listed
      cases listed
    | some best =>
      have least := (longestTenured_eq_some_iff.mp elected).2 member listed
      have ranked : member.rank < added.rank := by
        rw [SharedVideoOwnerCandidate.rank, SharedVideoOwnerCandidate.rank,
          Prod.Lex.toLex_lt_toLex]
        exact .inl before
      exact longestTenured_cons elected (least.trans ranked.le)

/-! ## Leaving -/

def sharedVideoOwnerChangedOnLeave (sharedByMemberId : Option JsString)
    (membersAfter : List SharedVideoOwnerCandidate) (leavingMember : SharedVideoOwnerCandidate) :
    Bool :=
  let membersBefore :=
    if membersAfter.any fun member => member.id = leavingMember.id then
      membersAfter.map fun member => if member.id = leavingMember.id then leavingMember else member
    else membersAfter ++ [leavingMember]
  resolveSharedVideoOwnerId sharedByMemberId membersBefore ≠
    resolveSharedVideoOwnerId sharedByMemberId membersAfter

/-- Of a member whose seat is gone, the list before the leave is the list with the member in it. -/
theorem changedOnLeave_iff (stored : Option JsString) {before after : List SharedVideoOwnerCandidate}
    {leaving : SharedVideoOwnerCandidate} (left : before.Perm (leaving :: after))
    (distinct : (before.map SharedVideoOwnerCandidate.id).Nodup) :
    sharedVideoOwnerChangedOnLeave stored after leaving = true ↔
      resolveSharedVideoOwnerId stored before ≠ resolveSharedVideoOwnerId stored after := by
  have apart : ¬ ∃ member ∈ after, member.id = leaving.id := by
    have unique := ((left.map _).nodup_iff).mp distinct
    rw [List.map_cons, List.nodup_cons] at unique
    simpa using unique.1
  have put : (after.any fun member => decide (member.id = leaving.id)) = false := by
    simpa using apart
  have same : resolveSharedVideoOwnerId stored (after ++ [leaving]) =
      resolveSharedVideoOwnerId stored before :=
    resolve_perm stored ((List.perm_append_singleton leaving after).trans left.symm)
  unfold sharedVideoOwnerChangedOnLeave
  simp only [put, same, Bool.false_eq_true, if_false, decide_eq_true_eq]

/-! ## What the clients see -/

def Session.candidate (session : Session) : SharedVideoOwnerCandidate where
  id := session.actorId
  joinedAt := session.joinedAt

def storedSharer (room : RedisRoomStore.PersistedRoom) : Option JsString :=
  asString (property (room.sharedVideo.map Subtype.val) "sharedByMemberId")

def RoomState.owner (state : RoomState) : Option JsString :=
  asString (property state.sharedVideo "sharedByMemberId")

theorem owner_withResolved (sharedVideo : Option (Doc JsString)) (members : JsMap JsString JsString)
    (candidates : List SharedVideoOwnerCandidate) :
    asString (property (withResolvedSharedOwner sharedVideo members candidates)
        "sharedByMemberId") =
      resolveSharedVideoOwnerId (asString (property sharedVideo "sharedByMemberId"))
        candidates := by
  cases sharedVideo with
  | none => rfl
  | some video =>
    by_cases kept : resolveSharedVideoOwnerId
        (asString (property (some video) "sharedByMemberId")) candidates =
          asString (property (some video) "sharedByMemberId")
    · rw [withResolvedSharedOwner, Option.map_some, if_pos kept, kept]
    · have apart : js "sharedByDisplayName" ≠ js "sharedByMemberId" := by decide
      rw [withResolvedSharedOwner, Option.map_some, if_neg kept, property_withField,
        if_neg apart, property_withField, if_pos rfl]
      cases resolveSharedVideoOwnerId (asString (property (some video) "sharedByMemberId"))
        candidates <;> rfl

theorem owner_roomStateFromSessions (room : RedisRoomStore.PersistedRoom)
    (sessions : List Session) :
    (roomStateFromSessions room sessions).owner =
      resolveSharedVideoOwnerId (storedSharer room)
        ((seated room sessions).map Session.candidate) :=
  owner_withResolved ..

theorem changedOnLeave_iff_shown (room : RedisRoomStore.PersistedRoom) {before after : List Session}
    {leaving : Session} (member : leaving ∈ seated room before)
    (distinct : ((seated room before).map Session.actorId).Nodup)
    (left : (seated room after).Perm ((seated room before).erase leaving))
    {membersAfter : List SharedVideoOwnerCandidate}
    (listed : membersAfter.Perm ((seated room after).map Session.candidate)) :
    sharedVideoOwnerChangedOnLeave (storedSharer room) membersAfter leaving.candidate = true ↔
      (roomStateFromSessions room before).owner ≠ (roomStateFromSessions room after).owner := by
  have all : ((seated room before).map Session.candidate).Perm
      (leaving.candidate :: membersAfter) := by
    have taken := (List.perm_cons_erase member).map Session.candidate
    rw [List.map_cons] at taken
    exact taken.trans (((listed.trans (left.map _)).symm).cons _)
  have ids : (((seated room before).map Session.candidate).map
      SharedVideoOwnerCandidate.id).Nodup := by
    rw [List.map_map]
    exact distinct
  rw [owner_roomStateFromSessions, owner_roomStateFromSessions, changedOnLeave_iff _ all ids,
    resolve_perm _ listed]

/-! ## The laws -/

/-- Neither the order of the members, nor one who leaves or comes later without being the
sharer, moves the share; and a leave is announced exactly when it does. -/
theorem share_owner_election_laws :
    (∀ (stored : Option JsString) (members : List SharedVideoOwnerCandidate),
      (∀ other, other.Perm members →
        resolveSharedVideoOwnerId stored other = resolveSharedVideoOwnerId stored members) ∧
      (resolveSharedVideoOwnerId stored members = stored.filter (· ≠ []) ∨
        ∃ member ∈ members, resolveSharedVideoOwnerId stored members = some member.id) ∧
      (∀ front gone rest, members = front ++ gone :: rest →
        (∀ owner, stored = some owner → ¬ Seated owner members) →
        resolveSharedVideoOwnerId stored members ≠ some gone.id →
        resolveSharedVideoOwnerId stored (front ++ rest) =
          resolveSharedVideoOwnerId stored members) ∧
      ∀ front added rest, members = front ++ rest →
        (∃ member ∈ members, member.tenure < added.tenure) →
        (stored = some added.id → Seated added.id members) →
        resolveSharedVideoOwnerId stored (front ++ added :: rest) =
          resolveSharedVideoOwnerId stored members) ∧
    ∀ (room : RedisRoomStore.PersistedRoom) (before after : List Session) (leaving : Session)
      (membersAfter : List SharedVideoOwnerCandidate),
      leaving ∈ seated room before → ((seated room before).map Session.actorId).Nodup →
      (seated room after).Perm ((seated room before).erase leaving) →
      membersAfter.Perm ((seated room after).map Session.candidate) →
      (sharedVideoOwnerChangedOnLeave (storedSharer room) membersAfter leaving.candidate = true ↔
        (roomStateFromSessions room before).owner ≠ (roomStateFromSessions room after).owner) := by
  refine ⟨fun stored members => ⟨?_, resolve_stored_or_listed stored members, ?_, ?_⟩, ?_⟩
  · intro other same
    exact resolve_perm stored same
  · rintro front gone rest rfl absent other
    have moved : (front ++ gone :: rest).Perm (gone :: (front ++ rest)) := List.perm_middle
    rw [resolve_perm stored moved] at other ⊢
    apply resolve_remove _ other
    intro owner held
    rw [← seated_perm moved]
    exact absent owner held
  · rintro front added rest rfl later newcomer
    rw [resolve_perm stored List.perm_middle]
    exact resolve_add later newcomer
  · intro room before after leaving membersAfter member distinct left listed
    exact changedOnLeave_iff_shown room member distinct left listed

def alice : Session where
  id := js "alice"
  displayName := js "Alice"
  roomCode := some (createRoomCode fun _ => 0).val.units
  joinedAt := some 2

def bob : Session where
  id := js "bob"
  displayName := js "Bob"
  roomCode := some (createRoomCode fun _ => 0).val.units
  joinedAt := some 1

/-- What Alice shares. -/
def aliceVideo : RedisRoomStore.SharedVideo :=
  ⟨.obj (object [("videoId", .str (js "BV1")), ("url", .str (js "u")), ("title", .str (js "t")),
    ("sharedByMemberId", .str alice.id)]), by decide⟩

def aliceRoom : RedisRoomStore.PersistedRoom where
  code := createRoomCode fun _ => 0
  joinToken := js "token"
  createdAt := 0
  ownerMemberId := none
  ownerDisplayName := none
  sharedVideo := some aliceVideo
  playback := none
  version := 0
  lastActiveAt := 0
  expiresAt := none

theorem bob_joined_first : bob.candidate.tenure < alice.candidate.tenure := by
  change ((1 : ℚ) : WithTop ℚ) < ((2 : ℚ) : WithTop ℚ)
  exact WithTop.coe_lt_coe.mpr (by norm_num)

theorem alice_leaves_bob :
    resolveSharedVideoOwnerId (some (js "carol")) [bob.candidate] =
        resolveSharedVideoOwnerId (some (js "carol")) [alice.candidate, bob.candidate] ∧
      resolveSharedVideoOwnerId (some (js "carol")) [alice.candidate, bob.candidate] =
        resolveSharedVideoOwnerId (some (js "carol")) [bob.candidate] ∧
      (sharedVideoOwnerChangedOnLeave (storedSharer aliceRoom) [bob.candidate]
          alice.candidate = true ↔
        (roomStateFromSessions aliceRoom [alice, bob]).owner ≠
          (roomStateFromSessions aliceRoom [bob]).owner) := by
  have laws := share_owner_election_laws
  have pair := laws.1 (some (js "carol")) [alice.candidate, bob.candidate]
  have single := laws.1 (some (js "carol")) [bob.candidate]
  refine ⟨?_, ?_, ?_⟩
  · apply pair.2.2.1 [] alice.candidate [bob.candidate] rfl
    · intro owner held
      cases held
      decide
    · decide
  · apply single.2.2.2 [] alice.candidate [bob.candidate] rfl
    · exact ⟨bob.candidate, List.mem_singleton_self _, bob_joined_first⟩
    · intro held
      exact absurd held (by decide)
  · apply laws.2 aliceRoom [alice, bob] [bob] alice [bob.candidate] <;> decide

/-- The sharer who comes back gets the share back, and an empty room's first guest gets it. -/
theorem sharer_and_first_guest_take_the_share :
    ((∀ member ∈ [bob.candidate], member.tenure < alice.candidate.tenure) ∧
      resolveSharedVideoOwnerId (some alice.id) [bob.candidate] ≠
        resolveSharedVideoOwnerId (some alice.id) [bob.candidate, alice.candidate]) ∧
    ((∀ member ∈ ([] : List SharedVideoOwnerCandidate), member.tenure < bob.candidate.tenure) ∧
      resolveSharedVideoOwnerId (some alice.id) [] ≠
        resolveSharedVideoOwnerId (some alice.id) [bob.candidate]) := by
  refine ⟨⟨?_, by decide⟩, by simp, by decide⟩
  intro member here
  rw [List.mem_singleton.mp here]
  exact bob_joined_first

end BiliSyncPlay.Protocol
