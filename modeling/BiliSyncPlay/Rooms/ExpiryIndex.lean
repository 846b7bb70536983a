import BiliSyncPlay.Lists
import BiliSyncPlay.Rooms.Store
import Mathlib.Logic.Relation

/-!
# The expiry index

Bodies and index are two keys that every script keeps in step: a code has either both a body and
a member scored by that body's expiry, or neither. Counting then needs no body.
-/

namespace BiliSyncPlay.RedisRoomStore.ExpiryIndex

open Json Database

/-- Any script of the store, with what a caller can hand it: an update and a reconcile carry some
body their caller read and parsed, a quarantine one it could not parse. -/
inductive Step (db : Database) : Database → Prop
  | createRoom (input : CreatePersistedRoomInput) (indexed : Bool) :
    Step db (db.createRoom input indexed).2
  | updateRoom {code : RoomCode} {read : Raw} {currentRoom : PersistedRoom}
      (parsed : parseRoom read code = some currentRoom) (patch : PersistedRoomPatch)
      (indexed : Bool) :
    Step db (db.updateRoomCasLua code read (serializeRoom (currentRoom.patched patch))
      (expiryScore (currentRoom.patched patch)) indexed).2
  | deleteRoom (code : RoomCode) (joinToken : Text) :
    Step db (db.deleteRoomInstanceLua code joinToken).2
  | deleteExpiredRoom (code : RoomCode) (now : Rat) : Step db (db.deleteExpiredRoomLua code now).2
  | sweep (now : Rat) (orphanLimit : Int) (token : ClaimToken) :
    Step db (db.deleteExpiredRoomsLua now orphanLimit token).db
  | acknowledge (claims : List OrphanedIndexClaim) :
    Step db (db.acknowledgeOrphanedIndexClaimsLua claims)
  | reconcile {code : RoomCode} {read : Raw} {room : PersistedRoom}
      (parsed : parseRoom read code = some room) :
    Step db (db.reconcileMemberLua code read (expiryScore room)).2
  | quarantine {code : RoomCode} {read : Raw} (unreadable : parseRoom read code = none)
      (token : ClaimToken) :
    Step db (db.quarantineMemberLua code read token).2
  | prune (token : ClaimToken) (codes : List RoomCode) :
    Step db (db.pruneOrphanedMembersLua token codes)

def Reachable : Database → Prop := Relation.ReflTransGen Step {}

/-- A body the store wrote under this code, and the score that goes with it. -/
inductive Shelved (code : RoomCode) : Option Body → Option Score → Prop
  | vacant : Shelved code none none
  | kept (room : PersistedRoom) (named : room.code = code) :
    Shelved code (some (.text (.document (serializeRoom room)))) (some (expiryScore room))

def Indexed (db : Database) : Prop :=
  ∀ code, Shelved code (db.bodies.get? code) (db.roomsByExpiry.zscore code)

theorem Indexed.same {db db' : Database} (indexed : Indexed db) (bodies : db'.bodies = db.bodies)
    (index : db'.roomsByExpiry = db.roomsByExpiry) : Indexed db' := by
  intro code
  rw [bodies, index]
  exact indexed code

section
variable {db : Database} {code : RoomCode}

theorem Indexed.not_wrongType (indexed : Indexed db) : db.get code ≠ .wrongType := by
  intro h
  have shelved := indexed code
  unfold Database.get at h
  split at h
  · cases h
  · cases h
  · next held =>
    rw [held] at shelved
    cases shelved

theorem Indexed.unscored (indexed : Indexed db) (missing : db.bodies.get? code = none) :
    db.roomsByExpiry.zscore code = none := by
  have shelved := indexed code
  generalize db.roomsByExpiry.zscore code = score at shelved ⊢
  rw [missing] at shelved
  cases shelved
  rfl

/-- A body is some room of the code, and scored by it. -/
theorem Indexed.room (indexed : Indexed db) {raw : Raw}
    (held : db.bodies.get? code = some (.text raw)) :
    ∃ room, parseRoom raw code = some room ∧ raw = .document (serializeRoom room) ∧
      room.code = code ∧ db.roomsByExpiry.zscore code = some (expiryScore room) := by
  have shelved := indexed code
  rw [held] at shelved
  generalize at_code : db.roomsByExpiry.zscore code = score at shelved
  cases shelved with
  | kept room named =>
    subst named
    exact ⟨room, parseRoom_serializeRoom room, rfl, rfl, rfl⟩

/-! ## What each script writes -/

section
variable (indexed : Indexed db)
include indexed

theorem Indexed.put (room : PersistedRoom) (named : room.code = code) :
    Indexed { db with
      bodies := db.bodies.set code (.text (.document (serializeRoom room)))
      roomsByExpiry := db.roomsByExpiry.zadd (expiryScore room) code } := by
  intro other
  simp only [JsMap.get?_set, SortedSet.zscore_zadd]
  by_cases same : code = other
  · subst same
    rw [if_pos rfl, if_pos rfl]
    exact .kept room named
  · rw [if_neg same, if_neg same]
    exact indexed other

theorem Indexed.drop :
    Indexed { db with
      bodies := db.bodies.delete code
      roomsByExpiry := db.roomsByExpiry.zrem code } := by
  intro other
  simp only [JsMap.get?_delete, SortedSet.zscore_zrem]
  by_cases same : code = other
  · rw [if_pos same, if_pos same]
    exact .vacant
  · rw [if_neg same, if_neg same]
    exact indexed other

/-- A member no body stands behind is none. -/
theorem Indexed.unlist (missing : db.bodies.get? code = none) :
    Indexed { db with roomsByExpiry := db.roomsByExpiry.zrem code } := by
  intro other
  simp only [SortedSet.zscore_zrem]
  by_cases same : code = other
  · subst same
    rw [if_pos rfl, missing]
    exact .vacant
  · rw [if_neg same]
    exact indexed other

/-- A score written again is the score that was there. -/
theorem Indexed.rescore {score : Score} (at_code : db.roomsByExpiry.zscore code = some score) :
    Indexed { db with roomsByExpiry := db.roomsByExpiry.zadd score code } := by
  intro other
  simp only [SortedSet.zscore_zadd]
  by_cases same : code = other
  · subst same
    rw [if_pos rfl, ← at_code]
    exact indexed code
  · rw [if_neg same]
    exact indexed other

theorem Indexed.createRoomLua (room : PersistedRoom) (zadded : Bool) :
    Indexed (db.createRoomLua room.code (serializeRoom room) (expiryScore room) zadded).2 := by
  unfold Database.createRoomLua
  split
  · exact indexed
  · next free =>
    have missing : db.bodies.get? room.code = none := by
      simpa [JsMap.has] using free
    cases zadded with
    | true => exact indexed.put room rfl
    | false =>
      intro other
      have back := indexed other
      simp only [Bool.false_eq_true, ↓reduceIte, JsMap.get?_delete, JsMap.get?_set]
      by_cases same : room.code = other
      · subst same
        rw [if_pos rfl, ← missing]
        exact back
      · rw [if_neg same, if_neg same]
        exact back

theorem Indexed.updateRoomCasLua {read : Raw} {next : PersistedRoom} (named : next.code = code)
    (zadded : Bool) :
    Indexed (db.updateRoomCasLua code read (serializeRoom next) (expiryScore next) zadded).2 := by
  unfold Database.updateRoomCasLua
  split
  · exact indexed
  · exact indexed
  · next raw got =>
    split
    · exact indexed
    · next matching =>
      obtain rfl : raw = read := not_not.mp matching
      cases zadded with
      | true => exact indexed.put next named
      | false =>
        intro other
        have back := indexed other
        simp only [Bool.false_eq_true, ↓reduceIte, JsMap.get?_set]
        by_cases same : code = other
        · subst same
          rw [if_pos rfl, ← get_of_raw got]
          exact back
        · rw [if_neg same, if_neg same]
          exact back

theorem Indexed.deleteRoomLua (guard : Doc Text → Bool) :
    Indexed (db.deleteRoomLua code guard).2 := by
  unfold Database.deleteRoomLua
  split
  · exact indexed
  · next missing => exact indexed.unlist (get_of_missing missing)
  · split
    · exact indexed
    · split
      · exact indexed.drop
      · exact indexed

theorem Indexed.reconcileMemberLua {read : Raw} {room : PersistedRoom}
    (parsed : parseRoom read code = some room) :
    Indexed (db.reconcileMemberLua code read (expiryScore room)).2 := by
  unfold Database.reconcileMemberLua
  split
  · exact indexed
  · exact indexed
  · next raw got =>
    split
    · exact indexed
    · next matching =>
      obtain rfl : raw = read := not_not.mp matching
      obtain ⟨room', parsed', -, -, at_code⟩ := indexed.room (get_of_raw got)
      obtain rfl : room = room' := Option.some.inj (parsed.symm.trans parsed')
      exact indexed.rescore at_code

/-- Only a member that is there is removed with a claim. -/
theorem Indexed.removeIndexWithOrphanClaim (missing : db.bodies.get? code = none)
    (token : ClaimToken) :
    Indexed (db.removeIndexWithOrphanClaim code token).2 := by
  have unlisted : db.roomsByExpiry.has code = false := by
    have unscored : db.roomsByExpiry.get? code = none := indexed.unscored missing
    rw [JsMap.has, unscored]
    rfl
  have lost : ¬ (db.stageOrphanClaim code token).roomsByExpiry.has code = true :=
    ne_true_of_eq_false unlisted
  unfold Database.removeIndexWithOrphanClaim
  dsimp only
  rw [if_neg lost]
  exact indexed.same rfl rfl

theorem Indexed.quarantineMemberLua {read : Raw} (unreadable : parseRoom read code = none)
    (token : ClaimToken) :
    Indexed (db.quarantineMemberLua code read token).2 := by
  unfold Database.quarantineMemberLua
  split
  · exact indexed
  · next wrong => exact absurd wrong indexed.not_wrongType
  · next raw got =>
    split
    · exact indexed
    · next matching =>
      obtain rfl : raw = read := not_not.mp matching
      obtain ⟨room, parsed, -⟩ := indexed.room (get_of_raw got)
      rw [unreadable] at parsed
      cases parsed

theorem Indexed.pruneOrphanedMembersLua (token : ClaimToken) (codes : List RoomCode) :
    Indexed (db.pruneOrphanedMembersLua token codes) := by
  unfold Database.pruneOrphanedMembersLua
  induction codes generalizing db with
  | nil => exact indexed
  | cons code rest ih =>
    apply ih
    unfold pruneMember
    split
    · exact indexed
    · next absent =>
      have missing : db.bodies.get? code = none := by simpa [JsMap.has] using absent
      exact indexed.removeIndexWithOrphanClaim missing token

end

theorem Indexed.visitCandidate {s : Sweep} (indexed : Indexed s.db) (now : Rat) (token : ClaimToken)
    (code : RoomCode) : Indexed (Sweep.visitCandidate now token s code).db := by
  unfold Sweep.visitCandidate
  split
  · next wrong => exact absurd wrong indexed.not_wrongType
  · next missing =>
    have removed := indexed.removeIndexWithOrphanClaim (get_of_missing missing) token
    split
    · next db' eq =>
      rw [eq] at removed
      exact removed
    · next db' eq =>
      rw [eq] at removed
      exact removed
  · next raw got =>
    split
    · next usable =>
      split
      · next unending =>
        obtain ⟨room, -, rfl, -, at_code⟩ := indexed.room (get_of_raw got)
        have top : expiryScore room = ⊤ := by
          change Lua.index (decode (serializeRoom room)) "expiresAt" = some .null at unending
          cases read : decode (serializeRoom room) with
          | none =>
            rw [read] at unending
            cases unending
          | some decoded =>
            rw [read, index_expiresAt read] at unending
            unfold expiryScore
            cases expiry : room.expiresAt with
            | none => rfl
            | some q =>
              rw [expiry] at unending
              cases unending
        rw [← top]
        exact indexed.rescore at_code
      · split
        · exact indexed.drop
        · exact indexed
      · exact indexed
    · exact indexed

theorem Indexed.deleteExpiredRoomsLua (indexed : Indexed db) (now : Rat) (orphanLimit : Int)
    (token : ClaimToken) : Indexed (db.deleteExpiredRoomsLua now orphanLimit token).db := by
  have swept (codes : List RoomCode) (s : Sweep) (h : Indexed s.db) :
      Indexed (codes.foldl (Sweep.visitCandidate now token) s).db := by
    induction codes generalizing s with
    | nil => exact h
    | cons code rest ih => exact ih _ (h.visitCandidate now token code)
  obtain ⟨bodies, index⟩ :=
    foldl_visitStaged_frame (db.orphanedRoomQueue.zrange (orphanLimit - 1)) { db }
  exact swept _ _ (indexed.same bodies index)

end

theorem parseRoom_code {raw : Raw} {code : RoomCode} {room : PersistedRoom}
    (parsed : parseRoom raw code = some room) : room.code = code := by
  unfold parseRoom at parsed
  split at parsed
  · cases parsed
  · dsimp only at parsed
    split at parsed
    · cases parsed
      rfl
    · cases parsed

theorem createRoom_database (db : Database) (input : CreatePersistedRoomInput) (indexed : Bool) :
    (db.createRoom input indexed).2 =
      (db.createRoomLua input.code (serializeRoom (createPersistedRoom input))
        (expiryScore (createPersistedRoom input)) indexed).2 := by
  unfold Database.createRoom
  dsimp only
  split <;> next eq => exact (congrArg Prod.snd eq).symm

/-- An update is one script, or none where it is refused before. -/
theorem Reachable.updateRoom {db : Database} (reached : Reachable db) (code : RoomCode)
    (expected : RoomUpdateGuard) (patch : PersistedRoomPatch) (zadded : Bool) :
    Reachable (db.updateRoom code expected patch zadded).2 := by
  unfold Database.updateRoom
  split
  · exact reached
  · exact reached
  · split
    · exact reached
    · next parsed =>
      split
      · exact reached
      · have written := reached.tail (.updateRoom parsed patch zadded)
        dsimp only
        split <;> next eq => rw [eq] at written; exact written

theorem step_indexed {db db' : Database} (step : Step db db') (indexed : Indexed db) :
    Indexed db' := by
  cases step with
  | createRoom input zadded =>
    rw [createRoom_database]
    exact indexed.createRoomLua (createPersistedRoom input) zadded
  | @updateRoom code read currentRoom parsed patch zadded =>
    have read := parseRoom_code parsed
    have named : (currentRoom.patched patch).code = code := read
    exact indexed.updateRoomCasLua named zadded
  | deleteRoom code joinToken => exact indexed.deleteRoomLua _
  | deleteExpiredRoom code now => exact indexed.deleteRoomLua _
  | sweep now orphanLimit token => exact indexed.deleteExpiredRoomsLua now orphanLimit token
  | acknowledge claims =>
    obtain ⟨bodies, index⟩ := @acknowledge_frame db claims
    exact indexed.same bodies index
  | reconcile parsed => exact indexed.reconcileMemberLua parsed
  | quarantine unreadable token => exact indexed.quarantineMemberLua unreadable token
  | prune token codes => exact indexed.pruneOrphanedMembersLua token codes

theorem reachable_indexed {db : Database} (reached : Reachable db) : Indexed db := by
  induction reached with
  | refl => exact fun _ => .vacant
  | tail _ step ih => exact step_indexed step ih

/-! ## Counting what is listed -/

section
variable {db : Database} (toLowerCase : JsString → JsString)

theorem Indexed.readRoomOrNull (indexed : Indexed db) {code : RoomCode} {score : Score}
    (at_code : db.roomsByExpiry.zscore code = some score) :
    ∃ room, db.readRoomOrNull code = some room ∧ (db.readRoomBody code).isSome ∧
      room.code = code ∧ score = expiryScore room := by
  have shelved := indexed code
  rw [at_code] at shelved
  generalize held : db.bodies.get? code = body at shelved
  cases shelved with
  | kept room named =>
    subst named
    have got : db.get room.code = .raw (.document (serializeRoom room)) := by
      simp [Database.get, held]
    refine ⟨room, ?_, ?_, rfl, rfl⟩
    · simp [Database.readRoomOrNull, readRoomBody, got, parseRoom_serializeRoom]
    · simp [readRoomBody, got]

/-- Nothing is repaired where every member can be read. -/
theorem loadBatch_readable (uuid : RoomCode → ClaimToken) {batch : List RoomCode}
    (readable : ∀ code ∈ batch,
      (db.readRoomBody code).isSome ∧ (db.readRoomOrNull code).isSome)
    (rooms : List PersistedRoom) :
    loadBatch uuid (rooms, db) batch = (rooms ++ batch.filterMap db.readRoomOrNull, db) := by
  have orphaned : batch.filter (fun code => (db.readRoomBody code).isNone) = [] :=
    List.filter_eq_nil_iff.mpr fun code mem => by
      simpa using Option.isSome_iff_ne_none.mp (readable code mem).1
  have unreadable : batch.filter (fun code => (db.readRoomOrNull code).isNone) = [] :=
    List.filter_eq_nil_iff.mpr fun code mem => by
      simpa using Option.isSome_iff_ne_none.mp (readable code mem).2
  simp only [loadBatch, orphaned, unreadable, List.foldl_nil]

theorem foldl_loadBatch_readable (uuid : RoomCode → ClaimToken) (bs : List (List RoomCode))
    (readable : ∀ code ∈ bs.flatten,
      (db.readRoomBody code).isSome ∧ (db.readRoomOrNull code).isSome)
    (rooms : List PersistedRoom) :
    bs.foldl (loadBatch uuid) (rooms, db) =
      (rooms ++ bs.flatten.filterMap db.readRoomOrNull, db) := by
  induction bs generalizing rooms with
  | nil => simp
  | cons batch rest ih =>
    rw [List.flatten_cons] at readable ⊢
    have first := loadBatch_readable uuid
      (fun code mem => readable code (List.mem_append_left _ mem)) rooms
    rw [List.foldl_cons, first, ih (fun code mem => readable code (List.mem_append_right _ mem)),
      List.filterMap_append, List.append_assoc]

theorem flatten_batches {α : Type} (codes : List α) :
    (batches REPAIR_CHUNK_SIZE codes).flatten = codes := by
  unfold batches
  rw [flatten_slices]
  apply List.take_of_length_le
  unfold REPAIR_CHUNK_SIZE
  omega

/-- The rooms a query lists, before they are cut into pages. -/
def listed (db : Database) (query : RoomStoreListQuery) (now : Rat) : List PersistedRoom :=
  ((db.roomsByExpiry.members.filterMap db.readRoomOrNull).insertionSort
    fun left right => query.precedes left right).filter
      fun room => matchesQuery toLowerCase room query now

theorem Indexed.fetchRooms (indexed : Indexed db) (query : RoomStoreListQuery) (now : Rat)
    (uuid : RoomCode → ClaimToken) :
    db.fetchRooms toLowerCase query now uuid =
      (((listed toLowerCase db query now).drop ((query.page - 1) * query.pageSize)).take
        query.pageSize, db) := by
  have readable : ∀ code ∈ (batches REPAIR_CHUNK_SIZE db.roomsByExpiry.members).flatten,
      (db.readRoomBody code).isSome ∧ (db.readRoomOrNull code).isSome := by
    intro code mem
    rw [flatten_batches, SortedSet.mem_members] at mem
    obtain ⟨score, at_code⟩ := Option.isSome_iff_exists.mp mem
    obtain ⟨room, read, body, -⟩ := indexed.readRoomOrNull at_code
    exact ⟨body, by rw [read]; rfl⟩
  have loaded := foldl_loadBatch_readable uuid _ readable []
  rw [flatten_batches, List.nil_append] at loaded
  unfold Database.fetchRooms
  dsimp only
  rw [SortedSet.zrange_all, loaded]
  rfl

theorem lt_expiryScore (room : PersistedRoom) (now : Rat) :
    decide ((now : Score) < expiryScore room) =
      room.expiresAt.all fun expiresAt => decide (now < expiresAt) := by
  unfold expiryScore
  cases room.expiresAt with
  | none => simp
  | some expiresAt => simp

/-- What the index alone says of a member. -/
def counts (query : RoomStoreListQuery) (now : Rat) (entry : RoomCode × Score) : Bool :=
  (query.includeExpired || decide ((now : Score) < entry.2))
    && includesKeyword toLowerCase query.keyword entry.1

theorem Indexed.length_listed (indexed : Indexed db) (query : RoomStoreListQuery) (now : Rat) :
    (listed toLowerCase db query now).length =
      db.roomsByExpiry.ranked.countP (counts toLowerCase query now) := by
  have each (entries : List (RoomCode × Score))
      (scored : ∀ entry ∈ entries, db.roomsByExpiry.zscore entry.1 = some entry.2) :
      ((entries.map Prod.fst).filterMap db.readRoomOrNull).countP
          (fun room => matchesQuery toLowerCase room query now) =
        entries.countP (counts toLowerCase query now) := by
    induction entries with
    | nil => rfl
    | cons entry rest ih =>
      obtain ⟨room, read, -, named, score⟩ :=
        indexed.readRoomOrNull (scored entry List.mem_cons_self)
      have same : matchesQuery toLowerCase room query now = counts toLowerCase query now entry := by
        rw [matchesQuery, counts, score, lt_expiryScore, named]
      rw [List.map_cons, List.filterMap_cons_some read, List.countP_cons, List.countP_cons, same,
        ih fun entry mem => scored entry (List.mem_cons_of_mem _ mem)]
  unfold listed
  rw [← List.countP_eq_length_filter,
    (List.perm_insertionSort (fun left right => query.precedes left right) _).countP_eq]
  exact each db.roomsByExpiry.ranked fun entry mem => SortedSet.mem_ranked.mp mem

theorem countRooms_eq (query : RoomStoreListQuery) (now : Rat) :
    db.countRooms toLowerCase query now =
      db.roomsByExpiry.ranked.countP (counts toLowerCase query now) := by
  have unfiltered (keyword : Option JsString) (same : query.keyword = keyword)
      (anything : ∀ code, includesKeyword toLowerCase keyword code = true) :
      (if query.includeExpired then db.roomsByExpiry.zcard
        else db.roomsByExpiry.zcount fun score => decide ((now : Score) < score)) =
      db.roomsByExpiry.ranked.countP (counts toLowerCase query now) := by
    unfold counts
    simp only [same, anything, Bool.and_true]
    cases query.includeExpired with
    | true => simp [SortedSet.zcard, SortedSet.ranked, JsMap.size]
    | false =>
      simp [SortedSet.zcount, SortedSet.zrangebyscore, List.countP_eq_length_filter]
  unfold Database.countRooms
  dsimp only
  split
  · next absent => exact unfiltered none absent fun _ => rfl
  · next empty => exact unfiltered (some []) empty fun _ => rfl
  · next keyword nonempty asked =>
    have searched (code : RoomCode) : includesKeyword toLowerCase query.keyword code =
        decide (toLowerCase keyword <:+: toLowerCase code.units) := by
      rw [asked]
      cases keyword with
      | nil => exact absurd rfl nonempty
      | cons u us => rfl
    unfold counts
    simp only [searched]
    cases query.includeExpired with
    | true =>
      simp only [↓reduceIte, Bool.true_or, Bool.true_and, SortedSet.zrange_all, SortedSet.members,
        List.filter_map, List.length_map, List.countP_eq_length_filter]
      rfl
    | false =>
      simp only [Bool.false_eq_true, ↓reduceIte, Bool.false_or, SortedSet.zrangebyscore,
        List.filter_map, List.length_map, List.filter_filter, List.countP_eq_length_filter,
        Function.comp_apply, Bool.and_comm]

end

/-- Every body is a room the index scores by its expiry, every member has a body, and a count is
the number of rooms on all pages of the listing, which repairs nothing. -/
theorem count_is_listed {db : Database} (reached : Reachable db) :
    (∀ code raw, db.get code = .raw raw → ∃ room, parseRoom raw code = some room ∧
      db.roomsByExpiry.zscore code = some (expiryScore room)) ∧
    (∀ code ∈ db.roomsByExpiry.members, db.bodies.has code = true) ∧
    ∀ toLowerCase query now uuid pages,
      db.countRooms toLowerCase query now ≤ pages * query.pageSize →
      (∀ page, (db.fetchRooms toLowerCase { query with page } now uuid).2 = db) ∧
      ((List.range pages).map fun i =>
        (db.fetchRooms toLowerCase { query with page := i + 1 } now uuid).1).flatten.length =
          db.countRooms toLowerCase query now := by
  have indexed := reachable_indexed reached
  refine ⟨fun code raw got => ?_, fun code mem => ?_, fun toLowerCase query now uuid pages all => ?_⟩
  · obtain ⟨room, parsed, -, -, at_code⟩ := indexed.room (get_of_raw got)
    exact ⟨room, parsed, at_code⟩
  · by_contra absent
    have missing : db.bodies.get? code = none := by simpa [JsMap.has] using absent
    have listed := SortedSet.mem_members.mp mem
    rw [indexed.unscored missing] at listed
    cases listed
  · have paged (page : Nat) := indexed.fetchRooms toLowerCase { query with page } now uuid
    have total : (listed toLowerCase db query now).length = db.countRooms toLowerCase query now :=
      (indexed.length_listed toLowerCase query now).trans (countRooms_eq toLowerCase query now).symm
    constructor
    · intro page
      rw [paged]
    · have same (page : Nat) : listed toLowerCase db { query with page } now =
          listed toLowerCase db query now := rfl
      simp only [paged, same, Nat.add_sub_cancel]
      rw [flatten_slices, List.length_take, total]
      exact Nat.min_eq_right all

/-- Of two rooms one runs out at 5: at 7, one is counted and one is found on the two pages. -/
theorem count_is_listed_expiring :
    let query page : RoomStoreListQuery := ⟨none, false, page, 1, .createdAt, .asc⟩
    ∃ db, Reachable db ∧ db.bodies.size = 2 ∧ db.countRooms id (query 1) 7 = 1 ∧
      ((List.range 2).map fun i =>
        (db.fetchRooms id (query (i + 1)) 7 fun _ => 0).1).flatten.length = 1 := by
  intro query
  let first : CreatePersistedRoomInput :=
    { code := ⟨ascii "AAAAAA", by decide⟩, joinToken := js "a", createdAt := 1 }
  let second : CreatePersistedRoomInput :=
    { code := ⟨ascii "BBBBBB", by decide⟩, joinToken := js "b", createdAt := 2 }
  have created : Reachable (({} : Database).createRoom first).2 := .single (.createRoom first true)
  have both := created.tail (.createRoom second true)
  have emptied := both.tail (.updateRoom (parseRoom_serializeRoom (createPersistedRoom first))
    { expiresAt := some (some 5) } true)
  have counted := (count_is_listed emptied).2.2 id (query 1) 7 (fun _ => 0) 2 (by decide)
  exact ⟨_, emptied, rfl, rfl, counted.2⟩

end BiliSyncPlay.RedisRoomStore.ExpiryIndex
