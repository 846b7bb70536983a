import BiliSyncPlay.Rooms.Scripts

/-!
# Orphan cleanup claims

A claim names a room code whose index member went without its room, and the token of that
discovery. Claims are read in batches off a queue that sends every claim it hands out to the tail,
and each is kept until the sweep's caller acknowledges it or the code is seen in use again.
-/

namespace BiliSyncPlay.RedisRoomStore.OrphanClaims

open Json Database

/-! ## What a script may do to a claim -/

/-- The score of the sequence member, which every rotation moves past. -/
def top (db : Database) : Nat := (db.orphanedRoomQueue.zscore sequenceMember).getD 0

/-- The token and the score of one claim, before and after. Only `token` is ever written, and
scores are only ever taken from above `low`. -/
inductive Fate (token : ClaimToken) (low high : Nat) :
    Option ClaimToken → Option Nat → Option ClaimToken → Option Nat → Prop
  | kept (t : Option ClaimToken) (s : Option Nat) : Fate token low high t s t s
  | dropped (t : Option ClaimToken) (s : Option Nat) : Fate token low high t s none none
  | rotated (t : ClaimToken) (s : Option Nat) {s' : Nat} (behind : low < s') (last : s' ≤ high) :
    Fate token low high (some t) s (some t) (some s')
  | staged (t : Option ClaimToken) (s : Option Nat) {s' : Nat} (behind : low < s')
      (last : s' ≤ high) :
    Fate token low high t s (some token) (some s')

structure Moved (token : ClaimToken) (db db' : Database) : Prop where
  top : top db ≤ top db'
  fate : ∀ code : RoomCode, Fate token (OrphanClaims.top db) (OrphanClaims.top db')
    (db.orphanedRoomCodes.get? code) (db.orphanedRoomQueue.zscore code.1)
    (db'.orphanedRoomCodes.get? code) (db'.orphanedRoomQueue.zscore code.1)

variable {db db' db'' : Database} {code : RoomCode} {token : ClaimToken}

variable {high low : Nat} {s : Option Nat} {t t' : Option ClaimToken}

theorem Fate.trans {mid : Nat} {t'' : Option ClaimToken} {s' s'' : Option Nat}
    (first : Fate token low mid t s t' s') (second : Fate token mid high t' s' t'' s'')
    (up : low ≤ mid) (up' : mid ≤ high) : Fate token low high t s t'' s'' := by
  cases second with
  | dropped => exact .dropped t s
  | staged _ _ behind last => exact .staged t s (Nat.lt_of_le_of_lt up behind) last
  | kept =>
    cases first with
    | kept => exact .kept t s
    | dropped => exact .dropped t s
    | rotated t _ behind last => exact .rotated t s behind (Nat.le_trans last up')
    | staged _ _ behind last => exact .staged t s behind (Nat.le_trans last up')
  | rotated _ _ behind last =>
    have behind' := Nat.lt_of_le_of_lt up behind
    cases first with
    | kept => exact .rotated _ _ behind' last
    | rotated => exact .rotated _ _ behind' last
    | staged => exact .staged t s behind' last

theorem Moved.trans (first : Moved token db db') (second : Moved token db' db'') :
    Moved token db db'' where
  top := Nat.le_trans first.top second.top
  fate code := (first.fate code).trans (second.fate code) first.top second.top

theorem Moved.same (codes : db'.orphanedRoomCodes = db.orphanedRoomCodes)
    (queue : db'.orphanedRoomQueue = db.orphanedRoomQueue) : Moved token db db' where
  top := by
    unfold OrphanClaims.top
    rw [queue]
  fate code := by
    rw [codes, queue]
    exact .kept _ _

/-! ## The primitives -/

theorem reserved_ne (code : RoomCode) : sequenceMember ≠ code.1 := Ne.symm code.2

theorem top_rotate (db : Database) (code : RoomCode) :
    top (db.rotateOrphanClaim code) = top db + 1 := by
  unfold top rotateOrphanClaim
  rw [SortedSet.zscore_zadd, if_neg (Ne.symm (reserved_ne code)), SortedSet.zscore_zadd,
    if_pos rfl]
  rfl

theorem zscore_rotate (db : Database) (code other : RoomCode) :
    (db.rotateOrphanClaim code).orphanedRoomQueue.zscore other.1 =
      if code = other then some (top db + 1) else db.orphanedRoomQueue.zscore other.1 := by
  unfold rotateOrphanClaim
  simp only [SortedSet.zscore_zadd, Subtype.val_inj, reserved_ne, ↓reduceIte]
  rfl

theorem moved_rotate {t : ClaimToken} (claimed : db.orphanedRoomCodes.get? code = some t) :
    Moved token db (db.rotateOrphanClaim code) where
  top := by
    rw [top_rotate]
    omega
  fate other := by
    have codes : (db.rotateOrphanClaim code).orphanedRoomCodes = db.orphanedRoomCodes := rfl
    rw [zscore_rotate, top_rotate, codes]
    by_cases same : code = other
    · subst same
      rw [if_pos rfl, claimed]
      exact .rotated t _ (Nat.lt_succ_self _) (Nat.le_refl _)
    · rw [if_neg same]
      exact .kept _ _

theorem moved_stage (db : Database) (code : RoomCode) (token : ClaimToken) :
    Moved token db (db.stageOrphanClaim code token) where
  top := by
    unfold stageOrphanClaim
    rw [top_rotate]
    exact Nat.le_succ (top db)
  fate other := by
    have high : top (db.stageOrphanClaim code token) = top db + 1 := top_rotate _ code
    have codes : (db.stageOrphanClaim code token).orphanedRoomCodes.get? other =
        if code = other then some token else db.orphanedRoomCodes.get? other :=
      JsMap.get?_set _ _ _ _
    have score : (db.stageOrphanClaim code token).orphanedRoomQueue.zscore other.1 =
        if code = other then some (top db + 1) else db.orphanedRoomQueue.zscore other.1 :=
      zscore_rotate _ code other
    rw [high, codes, score]
    by_cases same : code = other
    · rw [if_pos same, if_pos same]
      exact .staged _ _ (Nat.lt_succ_self _) (Nat.le_refl _)
    · rw [if_neg same, if_neg same]
      exact .kept _ _

/-- A claim that is dropped leaves both the hash and the queue. -/
theorem moved_drop (db : Database) (code : RoomCode) (token : ClaimToken) :
    Moved token db { db with
      orphanedRoomCodes := db.orphanedRoomCodes.delete code
      orphanedRoomQueue := db.orphanedRoomQueue.zrem code.1 } where
  top := by
    unfold top
    rw [SortedSet.zscore_zrem, if_neg (Ne.symm (reserved_ne code))]
  fate other := by
    simp only [JsMap.get?_delete, SortedSet.zscore_zrem, Subtype.val_inj]
    by_cases same : code = other
    · rw [if_pos same, if_pos same]
      exact .dropped _ _
    · rw [if_neg same, if_neg same]
      exact .kept _ _

theorem moved_unqueue (unclaimed : db.orphanedRoomCodes.get? code = none) :
    Moved token db { db with orphanedRoomQueue := db.orphanedRoomQueue.zrem code.1 } := by
  have same : db.orphanedRoomCodes.delete code = db.orphanedRoomCodes :=
    JsMap.delete_of_get?_none unclaimed
  have moved := moved_drop db code token
  rw [same] at moved
  exact moved

/-- The loser of a removal puts every claim back; only the sequence moved on. -/
theorem removeIndex_lost (unlisted : db.roomsByExpiry.has code = false) (token : ClaimToken) :
    (db.removeIndexWithOrphanClaim code token).1 = false ∧
    (db.removeIndexWithOrphanClaim code token).2.roomsByExpiry = db.roomsByExpiry ∧
    top (db.removeIndexWithOrphanClaim code token).2 = top db + 1 ∧
    ∀ other : RoomCode,
      (db.removeIndexWithOrphanClaim code token).2.orphanedRoomCodes.get? other =
        db.orphanedRoomCodes.get? other ∧
      (db.removeIndexWithOrphanClaim code token).2.orphanedRoomQueue.zscore other.1 =
        db.orphanedRoomQueue.zscore other.1 := by
  have lost : ¬ (db.stageOrphanClaim code token).roomsByExpiry.has code = true :=
    ne_true_of_eq_false unlisted
  have high : top (db.stageOrphanClaim code token) = top db + 1 := top_rotate _ code
  have codes (other : RoomCode) : (db.stageOrphanClaim code token).orphanedRoomCodes.get? other =
      if code = other then some token else db.orphanedRoomCodes.get? other :=
    JsMap.get?_set _ _ _ _
  have score (other : RoomCode) :
      (db.stageOrphanClaim code token).orphanedRoomQueue.zscore other.1 =
        if code = other then some (top db + 1) else db.orphanedRoomQueue.zscore other.1 :=
    zscore_rotate _ code other
  unfold removeIndexWithOrphanClaim
  dsimp only
  rw [if_neg lost]
  refine ⟨rfl, rfl, ?_, fun other => ⟨?_, ?_⟩⟩ <;> dsimp only
  · rw [← high]
    unfold top
    dsimp only
    split
    · rw [SortedSet.zscore_zadd, if_neg (Ne.symm (reserved_ne code))]
    · rw [SortedSet.zscore_zrem, if_neg (Ne.symm (reserved_ne code))]
  · by_cases same : code = other
    · subst same
      split
      · next previous found => rw [JsMap.get?_set_self, found]
      · next found => rw [JsMap.get?_delete_self, found]
    · split
      · rw [JsMap.get?_set_ne _ _ same, codes, if_neg same]
      · rw [JsMap.get?_delete_ne _ same, codes, if_neg same]
  · by_cases same : code = other
    · subst same
      split
      · next previous found => rw [SortedSet.zscore_zadd, if_pos rfl, found]
      · next found => rw [SortedSet.zscore_zrem, if_pos rfl, found]
    · have apart : code.1 ≠ other.1 := fun h => same (Subtype.ext h)
      split
      · rw [SortedSet.zscore_zadd, if_neg apart, score, if_neg same]
      · rw [SortedSet.zscore_zrem, if_neg apart, score, if_neg same]

theorem removeIndex_won (listed : db.roomsByExpiry.has code = true) (token : ClaimToken) :
    db.removeIndexWithOrphanClaim code token = (true, { db.stageOrphanClaim code token with
      roomsByExpiry := db.roomsByExpiry.zrem code }) := by
  have won : (db.stageOrphanClaim code token).roomsByExpiry.has code = true := listed
  unfold removeIndexWithOrphanClaim
  dsimp only
  rw [if_pos won]
  rfl

theorem moved_removeIndex (db : Database) (code : RoomCode) (token : ClaimToken) :
    Moved token db (db.removeIndexWithOrphanClaim code token).2 := by
  cases listed : db.roomsByExpiry.has code with
  | true =>
    rw [removeIndex_won listed]
    exact (moved_stage db code token).trans (.same rfl rfl)
  | false =>
    obtain ⟨-, -, high, same⟩ := removeIndex_lost listed token
    constructor
    · omega
    · intro other
      rw [(same other).1, (same other).2]
      exact .kept _ _

/-! ## The scripts -/

/-! Each script that removes members keeps whatever one removal keeps. -/

section
variable (P : Database → Prop)
  (removes : ∀ db code, P db → P (db.removeIndexWithOrphanClaim code token).2)

include removes

theorem prune_preserves (codes : List RoomCode) (held : P db) :
    P (db.pruneOrphanedMembersLua token codes) := by
  unfold pruneOrphanedMembersLua
  induction codes generalizing db with
  | nil => exact held
  | cons code rest ih =>
    apply ih
    unfold pruneMember
    split
    · exact held
    · exact removes db code held

theorem quarantine_preserves (read : Raw) (held : P db) :
    P (db.quarantineMemberLua code read token).2 := by
  unfold quarantineMemberLua
  split
  · exact held
  · exact removes db code held
  · split
    · exact held
    · exact removes db code held

/-- A property of the claims alone. -/
theorem candidates_preserves
    (congr : ∀ db db', db'.orphanedRoomCodes = db.orphanedRoomCodes →
      db'.orphanedRoomQueue = db.orphanedRoomQueue → P db → P db')
    (now : Rat) (codes : List RoomCode) {s : Sweep} (held : P s.db) :
    P (codes.foldl (Sweep.visitCandidate now token) s).db := by
  induction codes generalizing s with
  | nil => exact held
  | cons code rest ih =>
    apply ih
    have removed := removes s.db code held
    unfold Sweep.visitCandidate
    split
    · exact removed
    · split
      · next eq =>
        rw [eq] at removed
        exact removed
      · next eq =>
        rw [eq] at removed
        exact removed
    · split
      · split
        · exact congr s.db _ rfl rfl held
        · split
          · exact congr s.db _ rfl rfl held
          · exact held
        · exact held
      · exact held

end

/-- An acknowledgement keeps whatever dropping one claim keeps. -/
theorem acknowledge_preserves (P : Database → Prop)
    (drops : ∀ db (code : RoomCode), P db → P { db with
      orphanedRoomCodes := db.orphanedRoomCodes.delete code
      orphanedRoomQueue := db.orphanedRoomQueue.zrem code.1 })
    (claims : List OrphanedIndexClaim) (held : P db) :
    P (db.acknowledgeOrphanedIndexClaimsLua claims) := by
  unfold acknowledgeOrphanedIndexClaimsLua
  induction claims generalizing db with
  | nil => exact held
  | cons claim rest ih =>
    apply ih
    unfold acknowledge
    split
    · exact drops db claim.code held
    · exact held

theorem moved_visitStaged (s : Sweep) (member : Text) (token : ClaimToken) :
    Moved token s.db (s.visitStaged member).db := by
  unfold Sweep.visitStaged
  split
  · exact .same rfl rfl
  · next ordinary =>
    dsimp only
    split
    · next unclaimed => exact moved_unqueue unclaimed
    · next claimed =>
      split
      · exact moved_rotate claimed
      · exact moved_drop s.db ⟨member, ordinary⟩ token
      · exact moved_rotate claimed

theorem moved_staged (members : List Text) (s : Sweep) (token : ClaimToken) :
    Moved token s.db (members.foldl Sweep.visitStaged s).db := by
  induction members generalizing s with
  | nil => exact .same rfl rfl
  | cons member rest ih => exact (moved_visitStaged s member token).trans (ih _)

theorem moved_sweep (db : Database) (now : Rat) (orphanLimit : Int) (token : ClaimToken) :
    Moved token db (db.deleteExpiredRoomsLua now orphanLimit token).db := by
  apply candidates_preserves (Moved token db)
    (fun db' code moved => moved.trans (moved_removeIndex db' code token))
    (fun _ _ codes queue moved => moved.trans (.same codes queue))
  exact moved_staged _ { db } token

/-! ## Runs -/

/-- What may happen to the store: any of its scripts, whoever calls it with whatever it holds, and
an operator who writes or deletes a body past them. -/
inductive Act where
  | createRoom (code : RoomCode) (raw : Source) (score : Score) (indexed : Bool)
  | updateRoom (code : RoomCode) (expected : Raw) (next : Source) (score : Score) (indexed : Bool)
  | deleteRoom (code : RoomCode) (joinToken : Text)
  | deleteExpiredRoom (code : RoomCode) (now : Rat)
  | reconcile (code : RoomCode) (read : Raw) (score : Score)
  | overwrite (code : RoomCode) (body : Option Body)
  | prune (codes : List RoomCode)
  | quarantine (code : RoomCode) (read : Raw)
  | sweep (now : Rat) (orphanLimit : Int)
  | acknowledge (claims : List OrphanedIndexClaim)

/-- `token` is the one drawn for this act. -/
def Act.exec (token : ClaimToken) (db : Database) : Act → Database
  | .createRoom code raw score indexed => (db.createRoomLua code raw score indexed).2
  | .updateRoom code expected next score indexed =>
    (db.updateRoomCasLua code expected next score indexed).2
  | .deleteRoom code joinToken => (db.deleteRoomInstanceLua code joinToken).2
  | .deleteExpiredRoom code now => (db.deleteExpiredRoomLua code now).2
  | .reconcile code read score => (db.reconcileMemberLua code read score).2
  | .overwrite code none => { db with bodies := db.bodies.delete code }
  | .overwrite code (some body) => { db with bodies := db.bodies.set code body }
  | .prune codes => db.pruneOrphanedMembersLua token codes
  | .quarantine code read => (db.quarantineMemberLua code read token).2
  | .sweep now orphanLimit => (db.deleteExpiredRoomsLua now orphanLimit token).db
  | .acknowledge claims => db.acknowledgeOrphanedIndexClaimsLua claims

def Act.handlesClaims : Act → Bool
  | .prune _ | .quarantine .. | .sweep .. | .acknowledge _ => true
  | _ => false

/-- The database, and how many tokens were drawn. -/
structure World where
  db : Database := {}
  issued : ClaimToken := 0

def World.exec (w : World) (act : Act) : World := ⟨act.exec w.issued w.db, w.issued + 1⟩

def World.run (w : World) (acts : List Act) : World := acts.foldl World.exec w

/-- Every claim is held in both places, ranked within the sequence, and by a token drawn before. -/
structure Sound (w : World) : Prop where
  claimed : ∀ code : RoomCode, (w.db.orphanedRoomCodes.get? code).isSome ↔
    (w.db.orphanedRoomQueue.zscore code.1).isSome
  ranked : ∀ (code : RoomCode) s, w.db.orphanedRoomQueue.zscore code.1 = some s → s ≤ top w.db
  minted : ∀ code t, w.db.orphanedRoomCodes.get? code = some t → t < w.issued

theorem exec_frame {act : Act} (token : ClaimToken) (db : Database)
    (ordinary : act.handlesClaims = false) :
    (act.exec token db).orphanedRoomCodes = db.orphanedRoomCodes ∧
      (act.exec token db).orphanedRoomQueue = db.orphanedRoomQueue := by
  cases act with
  | createRoom code raw score indexed => exact createRoomLua_frame raw score indexed
  | updateRoom code expected next score indexed =>
    exact updateRoomCasLua_frame expected next score indexed
  | deleteRoom code joinToken => exact deleteRoomLua_frame _
  | deleteExpiredRoom code now => exact deleteRoomLua_frame _
  | reconcile code read score => exact reconcileMemberLua_frame read score
  | overwrite code body => cases body <;> exact ⟨rfl, rfl⟩
  | prune | quarantine | sweep | acknowledge => cases ordinary

theorem moved_exec (act : Act) (token : ClaimToken) (db : Database) :
    Moved token db (act.exec token db) := by
  have removes (db' : Database) (code : RoomCode) (moved : Moved token db db') :
      Moved token db (db'.removeIndexWithOrphanClaim code token).2 :=
    moved.trans (moved_removeIndex db' code token)
  by_cases handles : act.handlesClaims = true
  · cases act with
    | prune codes => exact prune_preserves (Moved token db) removes codes (.same rfl rfl)
    | quarantine code read => exact quarantine_preserves (Moved token db) removes read (.same rfl rfl)
    | sweep now orphanLimit => exact moved_sweep db now orphanLimit token
    | acknowledge claims =>
      exact acknowledge_preserves (Moved token db)
        (fun db' code moved => moved.trans (moved_drop db' code token)) claims (.same rfl rfl)
    | _ => cases handles
  · obtain ⟨codes, queue⟩ := exec_frame token db (eq_false_of_ne_true handles)
    exact .same codes queue

theorem Fate.claimed {s' : Option Nat} (fate : Fate token low high t s t' s')
    (both : t.isSome ↔ s.isSome) : t'.isSome ↔ s'.isSome := by
  cases fate with
  | kept => exact both
  | dropped => exact Iff.rfl
  | rotated | staged => simp

theorem Fate.ranked {s' : Nat} (fate : Fate token low high t s t' (some s')) (up : low ≤ high)
    (within : ∀ r ∈ s, r ≤ low) :
    s' ≤ high := by
  cases fate with
  | kept => exact Nat.le_trans (within s' rfl) up
  | rotated _ _ _ last => exact last
  | staged _ _ _ last => exact last

/-- A score is the old one, or comes after all that were. -/
theorem Fate.score {s' : Nat} (fate : Fate token low high t s t' (some s')) :
    s = some s' ∨ low < s' := by
  cases fate with
  | kept => exact .inl rfl
  | rotated _ _ behind => exact .inr behind
  | staged _ _ behind => exact .inr behind

theorem Fate.minted {s' : Option Nat} {t' : ClaimToken}
    (fate : Fate token low high t s (some t') s') : t = some t' ∨ t' = token := by
  cases fate with
  | kept => exact .inl rfl
  | rotated => exact .inl rfl
  | staged => exact .inr rfl

variable {w : World}

theorem Sound.exec (sound : Sound w) (act : Act) : Sound (w.exec act) := by
  have moved := moved_exec act w.issued w.db
  constructor
  · intro code
    exact (moved.fate code).claimed (sound.claimed code)
  · intro code s at_code
    have fate := moved.fate code
    rw [show (act.exec w.issued w.db).orphanedRoomQueue.zscore code.1 = some s from at_code] at fate
    exact fate.ranked moved.top (sound.ranked code)
  · intro code t held
    have fate := moved.fate code
    rw [show (act.exec w.issued w.db).orphanedRoomCodes.get? code = some t from held] at fate
    rcases fate.minted with before | fresh
    · exact Nat.lt_succ_of_lt (sound.minted code t before)
    · rw [fresh]
      exact Nat.lt_succ_self w.issued

theorem Sound.run (sound : Sound w) (acts : List Act) : Sound (w.run acts) := by
  unfold World.run
  induction acts generalizing w with
  | nil => exact sound
  | cons act rest ih => exact ih (sound.exec act)

theorem sound_booted : Sound {} := ⟨fun _ => Iff.rfl, nofun, nofun⟩

/-! ## A member that goes leaves a claim -/

def Claimed (db : Database) (code : RoomCode) : Prop := (db.orphanedRoomCodes.get? code).isSome

theorem claimed_congr (codes : db'.orphanedRoomCodes = db.orphanedRoomCodes)
    (claimed : Claimed db code) : Claimed db' code := by
  unfold Claimed
  rw [codes]
  exact claimed

/-- A member of the index, or one that left a claim. -/
def Tracked (db : Database) (code : RoomCode) : Prop :=
  db.roomsByExpiry.has code = true ∨ Claimed db code

theorem claimed_removeIndex {other : RoomCode} (claimed : Claimed db other) :
    Claimed (db.removeIndexWithOrphanClaim code token).2 other := by
  unfold Claimed
  cases listed : db.roomsByExpiry.has code with
  | true =>
    rw [removeIndex_won listed]
    have codes : (db.stageOrphanClaim code token).orphanedRoomCodes.get? other =
        if code = other then some token else db.orphanedRoomCodes.get? other :=
      JsMap.get?_set _ _ _ _
    dsimp only
    rw [codes]
    split
    · rfl
    · exact claimed
  | false =>
    rw [((removeIndex_lost listed token).2.2.2 other).1]
    exact claimed

theorem Tracked.removeIndex {other : RoomCode} (tracked : Tracked db other) :
    Tracked (db.removeIndexWithOrphanClaim code token).2 other := by
  rcases tracked with member | claimed
  · cases listed : db.roomsByExpiry.has code with
    | false =>
      left
      rw [(removeIndex_lost listed token).2.1]
      exact member
    | true =>
      rw [removeIndex_won listed]
      by_cases same : code = other
      · subst same
        right
        have staged : Claimed (db.stageOrphanClaim code token) code :=
          Option.isSome_iff_exists.mpr ⟨token, JsMap.get?_set_self _ _ _⟩
        exact claimed_congr rfl staged
      · left
        have kept := JsMap.get?_delete_ne db.roomsByExpiry same
        have has : (db.roomsByExpiry.delete code).has other = true := by
          rw [JsMap.has, kept]
          exact member
        exact has
  · exact .inr (claimed_removeIndex claimed)

theorem tracked_visitCandidate (now : Rat) {s : Sweep} {other : RoomCode}
    (tracked : Tracked s.db other ∨ other ∈ s.deletedCodes) :
    Tracked (Sweep.visitCandidate now token s code).db other ∨
      other ∈ (Sweep.visitCandidate now token s code).deletedCodes := by
  have removed : Tracked s.db other →
      Tracked (s.db.removeIndexWithOrphanClaim code token).2 other := Tracked.removeIndex
  unfold Sweep.visitCandidate
  split
  · exact tracked.imp_left removed
  · split
    · next eq =>
      rw [eq] at removed
      exact tracked.imp_left removed
    · next eq =>
      rw [eq] at removed
      exact tracked.imp_left removed
  · split
    · split
      · apply tracked.imp_left
        apply Or.imp_left
        intro member
        unfold JsMap.has SortedSet.zadd at *
        rw [JsMap.get?_set]
        split
        · rfl
        · exact member
      · split
        · by_cases same : code = other
          · subst same
            exact .inr (List.mem_append_right _ (List.mem_singleton_self code))
          · refine tracked.imp (Or.imp_left fun member => ?_) (List.mem_append_left _)
            unfold JsMap.has SortedSet.zrem at *
            rw [JsMap.get?_delete_ne _ same]
            exact member
        · exact tracked
      · exact tracked
    · exact tracked

theorem tracked_sweep (now : Rat) (orphanLimit : Int)
    (listed : db.roomsByExpiry.has code = true) :
    Tracked (db.deleteExpiredRoomsLua now orphanLimit token).db code ∨
      code ∈ (db.deleteExpiredRoomsLua now orphanLimit token).deletedCodes := by
  have swept (codes : List RoomCode) (s : Sweep)
      (tracked : Tracked s.db code ∨ code ∈ s.deletedCodes) :
      Tracked (codes.foldl (Sweep.visitCandidate now token) s).db code ∨
        code ∈ (codes.foldl (Sweep.visitCandidate now token) s).deletedCodes := by
    induction codes generalizing s with
    | nil => exact tracked
    | cons other rest ih => exact ih _ (tracked_visitCandidate now tracked)
  apply swept
  left
  left
  rw [(foldl_visitStaged_frame _ { db }).2]
  exact listed

/-- The acts that take a member out of the index without its room. -/
def Act.repairs : Act → Bool
  | .prune _ | .quarantine .. | .sweep .. => true
  | _ => false

/-- The rooms an act deletes as expired. -/
def World.deleted (w : World) : Act → List RoomCode
  | .sweep now orphanLimit => (w.db.deleteExpiredRoomsLua now orphanLimit w.issued).deletedCodes
  | _ => []

theorem claimed_of_unlisted {act : Act} (repairs : act.repairs = true)
    (listed : w.db.roomsByExpiry.has code = true)
    (unlisted : (w.exec act).db.roomsByExpiry.has code = false) (alive : code ∉ w.deleted act) :
    Claimed (w.exec act).db code := by
  have start : Tracked w.db code := .inl listed
  have tracked : Tracked (w.exec act).db code := by
    cases act with
    | prune codes => exact prune_preserves (Tracked · code) (fun _ _ => Tracked.removeIndex) codes start
    | quarantine other read =>
      exact quarantine_preserves (Tracked · code) (fun _ _ => Tracked.removeIndex) read start
    | sweep now orphanLimit => exact (tracked_sweep now orphanLimit listed).resolve_right alive
    | _ => cases repairs
  exact tracked.resolve_left (ne_true_of_eq_false unlisted)

/-! ## Only an acknowledgement or a body in use ends a claim -/

/-- What ends the claim on a code: an acknowledgement that carries its current token, and a sweep
that finds a usable body under the code. -/
def Releases (db : Database) (code : RoomCode) : Act → Prop
  | .acknowledge claims => ∃ t, db.orphanedRoomCodes.get? code = some t ∧ ⟨code, t⟩ ∈ claims
  | .sweep .. => db.roomBodyState code = .usable
  | _ => False

theorem claim_acknowledge (claims : List OrphanedIndexClaim) (db : Database)
    (code : RoomCode) :
    (db.acknowledgeOrphanedIndexClaimsLua claims).orphanedRoomCodes.get? code =
      db.orphanedRoomCodes.get? code ∨
    (db.acknowledgeOrphanedIndexClaimsLua claims).orphanedRoomCodes.get? code = none ∧
      Releases db code (.acknowledge claims) := by
  unfold acknowledgeOrphanedIndexClaimsLua
  induction claims generalizing db with
  | nil => exact .inl rfl
  | cons claim rest ih =>
    have one : (db.acknowledge claim).orphanedRoomCodes.get? code =
          db.orphanedRoomCodes.get? code ∨
        (db.acknowledge claim).orphanedRoomCodes.get? code = none ∧
          db.orphanedRoomCodes.get? code = some claim.token ∧ claim.code = code := by
      unfold acknowledge
      split
      · next current =>
        by_cases same : claim.code = code
        · rw [same] at current
          exact .inr ⟨by simp [same], current, same⟩
        · exact .inl (JsMap.get?_delete_ne _ same)
      · exact .inl rfl
    rcases one with kept | ⟨gone, current, rfl⟩
    · rcases ih (db.acknowledge claim) with later | ⟨later, t, current, mem⟩
      · exact .inl (later.trans kept)
      · exact .inr ⟨later, t, kept.symm.trans current, List.mem_cons_of_mem _ mem⟩
    · right
      refine ⟨?_, claim.token, current, List.mem_cons_self⟩
      rcases ih (db.acknowledge claim) with later | ⟨later, -⟩
      · exact later.trans gone
      · exact later

theorem roomBodyState_congr (same : db'.bodies = db.bodies) (code : RoomCode) :
    db'.roomBodyState code = db.roomBodyState code := by
  unfold roomBodyState Database.get
  rw [same]

theorem claimed_visitStaged {s : Sweep} (member : Text)
    (claimed : Claimed s.db code) (unused : s.db.roomBodyState code ≠ .usable) :
    Claimed (s.visitStaged member).db code := by
  unfold Sweep.visitStaged
  split
  · exact claimed
  · next ordinary =>
    dsimp only
    split
    · exact claimed
    · split
      · exact claimed
      · next used =>
        have apart : (⟨member, ordinary⟩ : RoomCode) ≠ code := fun same => unused (same ▸ used)
        unfold Claimed
        dsimp only
        rw [JsMap.get?_delete_ne _ apart]
        exact claimed
      · exact claimed

theorem claimed_sweep (now : Rat) (orphanLimit : Int)
    (claimed : Claimed db code) (unused : db.roomBodyState code ≠ .usable) :
    Claimed (db.deleteExpiredRoomsLua now orphanLimit token).db code := by
  have staged (members : List Text) (s : Sweep) (claimed : Claimed s.db code)
      (unused : s.db.roomBodyState code ≠ .usable) :
      Claimed (members.foldl Sweep.visitStaged s).db code := by
    induction members generalizing s with
    | nil => exact claimed
    | cons member rest ih =>
      apply ih _ (claimed_visitStaged member claimed unused)
      rw [roomBodyState_congr (visitStaged_frame s member).1]
      exact unused
  apply candidates_preserves (Claimed · code) (fun _ _ => claimed_removeIndex)
    (fun _ _ codes _ => claimed_congr codes)
  exact staged _ { db } claimed unused

theorem claimed_exec {act : Act} (claimed : Claimed w.db code) (held : ¬ Releases w.db code act) :
    Claimed (w.exec act).db code := by
  by_cases handles : act.handlesClaims = true
  · cases act with
    | prune codes => exact prune_preserves (Claimed · code) (fun _ _ => claimed_removeIndex) codes claimed
    | quarantine other read =>
      exact quarantine_preserves (Claimed · code) (fun _ _ => claimed_removeIndex) read claimed
    | sweep now orphanLimit => exact claimed_sweep now orphanLimit claimed held
    | acknowledge claims =>
      rcases claim_acknowledge claims w.db code with kept | ⟨-, released⟩
      · unfold Claimed at claimed
        rw [← kept] at claimed
        exact claimed
      · exact absurd released held
    | _ => cases handles
  · have codes := (exec_frame w.issued w.db (eq_false_of_ne_true handles)).1
    exact claimed_congr codes claimed

theorem claimed_run (acts : List Act) (claimed : Claimed w.db code) :
    Claimed (w.run acts).db code ∨
      ∃ before act after, acts = before ++ act :: after ∧
        Releases (w.run before).db code act := by
  induction acts generalizing w with
  | nil => exact .inl claimed
  | cons act rest ih =>
    by_cases released : Releases w.db code act
    · exact .inr ⟨[], act, rest, rfl, released⟩
    · rcases ih (claimed_exec claimed released) with later | ⟨before, act', after, rfl, released'⟩
      · exact .inl later
      · exact .inr ⟨act :: before, act', after, rfl, released'⟩

/-! ## A token that was replaced never returns -/

theorem replaced_exec {t : ClaimToken} (act : Act) (drawn : t < w.issued)
    (replaced : w.db.orphanedRoomCodes.get? code ≠ some t) :
    (w.exec act).db.orphanedRoomCodes.get? code ≠ some t := by
  intro back
  have fate := (moved_exec act w.issued w.db).fate code
  rw [show (act.exec w.issued w.db).orphanedRoomCodes.get? code = some t from back] at fate
  rcases fate.minted with before | fresh
  · exact replaced before
  · exact absurd fresh (Nat.ne_of_lt drawn)

theorem replaced_run {t : ClaimToken} (acts : List Act) (drawn : t < w.issued)
    (replaced : w.db.orphanedRoomCodes.get? code ≠ some t) :
    (w.run acts).db.orphanedRoomCodes.get? code ≠ some t := by
  induction acts generalizing w with
  | nil => exact replaced
  | cons act rest ih => exact ih (Nat.lt_succ_of_lt drawn) (replaced_exec act drawn replaced)

/-- A replaced token in a batch of acknowledgements might as well be missing from it. -/
theorem acknowledge_replaced {t : ClaimToken} (before after : List OrphanedIndexClaim)
    (replaced : db.orphanedRoomCodes.get? code ≠ some t) :
    db.acknowledgeOrphanedIndexClaimsLua (before ++ ⟨code, t⟩ :: after) =
      db.acknowledgeOrphanedIndexClaimsLua (before ++ after) := by
  have still : (before.foldl acknowledge db).orphanedRoomCodes.get? code ≠ some t := by
    rcases claim_acknowledge before db code with kept | ⟨gone, -⟩
    · rw [show (before.foldl acknowledge db).orphanedRoomCodes.get? code = _ from kept]
      exact replaced
    · rw [show (before.foldl acknowledge db).orphanedRoomCodes.get? code = none from gone]
      exact nofun
  unfold acknowledgeOrphanedIndexClaimsLua
  rw [List.foldl_append, List.foldl_append, List.foldl_cons]
  congr 1
  unfold acknowledge
  exact if_neg still

end BiliSyncPlay.RedisRoomStore.OrphanClaims
