import BiliSyncPlay.Rooms.Claims
import Mathlib.Data.List.Perm.Subperm

/-!
# Claims are conserved, and reported in turn

Every batch the sweep reads goes to the tail of the queue, so what stands ahead of a claim gets
shorter with each sweep that does not reach it.
-/

namespace BiliSyncPlay.RedisRoomStore.OrphanClaims

open Json Database

variable {db db' db'' : Database} {code : RoomCode} {token : ClaimToken}

/-! ## A sweep shortens what stands ahead of a claim -/

/-- The codes whose claims a batch takes before one on `code` with score `s`. -/
def ahead (db : Database) (code : RoomCode) (s : Nat) : List Text :=
  (db.orphanedRoomQueue.ranked.filter fun e => decide
    (e.1 ≠ sequenceMember ∧ e.1 ≠ code.1 ∧ SortedSet.Before e (code.1, s))).map Prod.fst

variable {L : Nat} {m : Text} {s : Sweep} {t : ClaimToken} {w : World}

theorem mem_ahead {s : Nat} :
    m ∈ ahead db code s ↔ m ≠ sequenceMember ∧ m ≠ code.1 ∧
      ∃ r, db.orphanedRoomQueue.zscore m = some r ∧ SortedSet.Before (m, r) (code.1, s) := by
  unfold ahead
  simp only [List.mem_map, List.mem_filter, decide_eq_true_eq]
  constructor
  · rintro ⟨⟨_, r⟩, ⟨ranked, ordinary, apart, before⟩, rfl⟩
    exact ⟨ordinary, apart, r, SortedSet.mem_ranked.mp ranked, before⟩
  · rintro ⟨ordinary, apart, r, at_m, before⟩
    exact ⟨(m, r), ⟨SortedSet.mem_ranked.mpr at_m, ordinary, apart, before⟩, rfl⟩

theorem nodup_ahead (db : Database) (code : RoomCode) (s : Nat) : (ahead db code s).Nodup :=
  (db.orphanedRoomQueue.nodup_members).sublist (List.filter_sublist.map Prod.fst)

/-- Whatever is written goes behind a claim that is ranked. -/
theorem ahead_moved (moved : Moved token db db') {s : Nat} (ranked : s ≤ top db) :
    ahead db' code s ⊆ ahead db code s := by
  intro m mem
  obtain ⟨ordinary, apart, r, at_m, before⟩ := mem_ahead.mp mem
  have low : r ≤ s := before.score_le
  have fate := moved.fate ⟨m, ordinary⟩
  rw [at_m] at fate
  apply mem_ahead.mpr
  rcases fate.score with same | behind
  · exact ⟨ordinary, apart, r, same, before⟩
  · omega

/-- The claim is behind `low`, or gone. -/
def Behind (low : Nat) (db : Database) (m : Text) : Prop :=
  ∀ r, db.orphanedRoomQueue.zscore m = some r → low < r

theorem Behind.moved {low : Nat} (behind : Behind low db m) (ordinary : m ≠ sequenceMember)
    (moved : Moved token db db') (up : low ≤ top db) : Behind low db' m := by
  intro r at_m
  have fate := moved.fate ⟨m, ordinary⟩
  rw [at_m] at fate
  rcases fate.score with same | after
  · exact behind r same
  · omega

theorem behind_visitStaged {low : Nat} (ordinary : m ≠ sequenceMember) (up : low ≤ top s.db) :
    Behind low (s.visitStaged m).db m := by
  have removed : Behind low { s.db with orphanedRoomQueue := s.db.orphanedRoomQueue.zrem m } m := by
    intro r at_m
    rw [SortedSet.zscore_zrem, if_pos rfl] at at_m
    cases at_m
  have rotated : Behind low (s.db.rotateOrphanClaim ⟨m, ordinary⟩) m := by
    intro r at_m
    have score := zscore_rotate s.db ⟨m, ordinary⟩ ⟨m, ordinary⟩
    rw [if_pos rfl, at_m] at score
    cases score
    omega
  unfold Sweep.visitStaged
  rw [dif_neg ordinary]
  dsimp only
  split
  · exact removed
  · split
    · exact rotated
    · exact removed
    · exact rotated

theorem behind_staged {low : Nat} {members : List Text} (ordinary : m ≠ sequenceMember)
    (up : low ≤ top s.db) (mem : m ∈ members) :
    Behind low (members.foldl Sweep.visitStaged s).db m := by
  induction members generalizing s with
  | nil => cases mem
  | cons k rest ih =>
    have first := moved_visitStaged s k 0
    by_cases same : k = m
    · subst same
      have later := moved_staged rest (s.visitStaged k) 0
      exact (behind_visitStaged ordinary up).moved ordinary later (Nat.le_trans up first.top)
    · have mem' : m ∈ rest := (List.mem_cons.mp mem).resolve_left (Ne.symm same)
      exact ih (Nat.le_trans up first.top) mem'

/-- A sweep that does not reach a claim has handed out, or dropped, a whole batch ahead of it. -/
theorem ahead_sweep {s : Nat} (now : Rat) (positive : 0 < L)
    (at_code : db.orphanedRoomQueue.zscore code.1 = some s) (ranked : s ≤ top db)
    (missed : code.1 ∉ db.orphanedRoomQueue.zrange ((L : Int) - 1)) :
    (ahead (db.deleteExpiredRoomsLua now L token).db code s).length + (L - 1) ≤
      (ahead db code s).length := by
  let batch := db.orphanedRoomQueue.members.take L
  have whole : db.orphanedRoomQueue.zrange ((L : Int) - 1) = batch := by
    have stop : ¬ ((L : Int) - 1 < 0) := by omega
    have length : ((L : Int) - 1 + 1).toNat = L := by omega
    unfold SortedSet.zrange
    rw [if_neg stop, length]
  have missed' : code.1 ∉ batch := whole ▸ missed
  obtain ⟨full, before⟩ := SortedSet.before_of_not_mem_take at_code missed'
  have nodup : batch.Nodup := db.orphanedRoomQueue.nodup_members.sublist (List.take_sublist _ _)
  have moved := moved_sweep db now L token
  -- The sequence member may sit in the batch, and takes one of its places.
  let handed := batch.erase sequenceMember
  have places : L - 1 ≤ handed.length := by
    have erased := List.le_length_erase (a := sequenceMember) (l := batch)
    rw [full] at erased
    exact erased
  have ordinary : ∀ m ∈ handed, m ≠ sequenceMember := fun m mem same =>
    nodup.not_mem_erase (same ▸ mem)
  have were_ahead : handed ⊆ ahead db code s := by
    intro m mem
    have taken : m ∈ batch := List.mem_of_mem_erase mem
    exact mem_ahead.mpr ⟨ordinary m mem, fun same => missed' (same ▸ taken), before m taken⟩
  have no_longer : ∀ m ∈ handed, m ∉ ahead (db.deleteExpiredRoomsLua now L token).db code s := by
    intro m mem still
    obtain ⟨-, -, r, at_m, low⟩ := mem_ahead.mp still
    have taken : m ∈ db.orphanedRoomQueue.zrange ((L : Int) - 1) :=
      whole ▸ List.mem_of_mem_erase mem
    have staged : Behind (top db)
        ((db.orphanedRoomQueue.zrange ((L : Int) - 1)).foldl Sweep.visitStaged { db }).db m :=
      behind_staged (ordinary m mem) (Nat.le_refl _) taken
    have swept : Moved token db (db.deleteExpiredRoomsLua now L token).db ∧
        Behind (top db) (db.deleteExpiredRoomsLua now L token).db m := by
      apply candidates_preserves (fun db' => Moved token db db' ∧ Behind (top db) db' m)
      · rintro db' other ⟨moved', behind⟩
        have removed := moved_removeIndex db' other token
        exact ⟨moved'.trans removed, behind.moved (ordinary m mem) removed moved'.top⟩
      · rintro db' db'' codes queue ⟨moved', behind⟩
        have same : Moved token db' db'' := .same codes queue
        exact ⟨moved'.trans same, behind.moved (ordinary m mem) same moved'.top⟩
      · exact ⟨moved_staged _ { db } token, staged⟩
    have later : top db < r := swept.2 r at_m
    have sooner : r ≤ s := low.score_le
    omega
  have disjoint : (ahead (db.deleteExpiredRoomsLua now L token).db code s ++ handed).Nodup :=
    List.nodup_append'.mpr ⟨nodup_ahead _ _ _, nodup.erase _, fun m old new => no_longer m new old⟩
  have inside : ahead (db.deleteExpiredRoomsLua now L token).db code s ++ handed ⊆
      ahead db code s :=
    List.append_subset.mpr ⟨ahead_moved moved ranked, were_ahead⟩
  have length := (List.subperm_of_subset disjoint inside).length_le
  rw [List.length_append] at length
  omega

/-! ## A claim that is not reached keeps its place -/

/-- The claim is where it was, unless its token went. -/
def Steady (token : ClaimToken) (code : RoomCode) (db db' : Database) : Prop :=
  (db'.orphanedRoomCodes.get? code = db.orphanedRoomCodes.get? code ∧
    db'.orphanedRoomQueue.zscore code.1 = db.orphanedRoomQueue.zscore code.1) ∨
  db'.orphanedRoomCodes.get? code = none ∨ db'.orphanedRoomCodes.get? code = some token

theorem Steady.after (steady : Steady token code db db')
    (codes : db''.orphanedRoomCodes.get? code = db'.orphanedRoomCodes.get? code)
    (queue : db''.orphanedRoomQueue.zscore code.1 = db'.orphanedRoomQueue.zscore code.1) :
    Steady token code db db'' := by
  unfold Steady
  rw [codes, queue]
  exact steady

theorem Steady.removeIndex {other : RoomCode} (steady : Steady token code db db') :
    Steady token code db (db'.removeIndexWithOrphanClaim other token).2 := by
  cases listed : db'.roomsByExpiry.has other with
  | false =>
    obtain ⟨codes, queue⟩ := (removeIndex_lost listed token).2.2.2 code
    exact steady.after codes queue
  | true =>
    rw [removeIndex_won listed]
    have staged : (db'.stageOrphanClaim other token).orphanedRoomCodes.get? code =
        if other = code then some token else db'.orphanedRoomCodes.get? code :=
      JsMap.get?_set _ _ _ _
    by_cases same : other = code
    · rw [if_pos same] at staged
      exact .inr (.inr staged)
    · rw [if_neg same] at staged
      have score := zscore_rotate { db' with
        orphanedRoomCodes := db'.orphanedRoomCodes.set other token } other code
      rw [if_neg same] at score
      exact steady.after staged score

theorem Steady.drop {other : RoomCode} (steady : Steady token code db db') :
    Steady token code db { db' with
      orphanedRoomCodes := db'.orphanedRoomCodes.delete other
      orphanedRoomQueue := db'.orphanedRoomQueue.zrem other.1 } := by
  by_cases same : other = code
  · subst same
    exact .inr (.inl (JsMap.get?_delete_self _ _))
  · apply steady.after
    · exact JsMap.get?_delete_ne _ same
    · rw [SortedSet.zscore_zrem, if_neg fun h => same (Subtype.ext h)]

theorem visitStaged_elsewhere {member : Text} (apart : member ≠ code.1) :
    (s.visitStaged member).db.orphanedRoomCodes.get? code = s.db.orphanedRoomCodes.get? code ∧
    (s.visitStaged member).db.orphanedRoomQueue.zscore code.1 =
      s.db.orphanedRoomQueue.zscore code.1 ∧
    (s.visitStaged member).orphanClaims.get? code = s.orphanClaims.get? code := by
  unfold Sweep.visitStaged
  split
  · exact ⟨rfl, rfl, rfl⟩
  · next ordinary =>
    have other : (⟨member, ordinary⟩ : RoomCode) ≠ code := fun same => apart (congrArg Subtype.val same)
    have removed : (s.db.orphanedRoomQueue.zrem member).zscore code.1 =
        s.db.orphanedRoomQueue.zscore code.1 := by
      rw [SortedSet.zscore_zrem, if_neg apart]
    have rotated : (s.db.rotateOrphanClaim ⟨member, ordinary⟩).orphanedRoomQueue.zscore code.1 =
        s.db.orphanedRoomQueue.zscore code.1 := by
      rw [zscore_rotate, if_neg other]
    dsimp only
    split
    · exact ⟨rfl, removed, rfl⟩
    · split
      · exact ⟨rfl, rotated, JsMap.get?_set_ne _ _ other⟩
      · exact ⟨JsMap.get?_delete_ne _ other, removed, rfl⟩
      · exact ⟨rfl, rotated, rfl⟩

theorem staged_elsewhere {members : List Text} (apart : code.1 ∉ members) (s : Sweep) :
    (members.foldl Sweep.visitStaged s).db.orphanedRoomCodes.get? code =
        s.db.orphanedRoomCodes.get? code ∧
      (members.foldl Sweep.visitStaged s).db.orphanedRoomQueue.zscore code.1 =
        s.db.orphanedRoomQueue.zscore code.1 := by
  induction members generalizing s with
  | nil => exact ⟨rfl, rfl⟩
  | cons member rest ih =>
    rw [List.mem_cons, not_or] at apart
    obtain ⟨codes, queue, -⟩ := visitStaged_elsewhere (s := s) (Ne.symm apart.1)
    obtain ⟨codes', queue'⟩ := ih apart.2 (s.visitStaged member)
    exact ⟨codes'.trans codes, queue'.trans queue⟩

theorem steady_sweep (now : Rat) {orphanLimit : Int}
    (missed : code.1 ∉ db.orphanedRoomQueue.zrange (orphanLimit - 1)) :
    Steady token code db (db.deleteExpiredRoomsLua now orphanLimit token).db := by
  obtain ⟨codes, queue⟩ := staged_elsewhere missed { db }
  apply candidates_preserves (Steady token code db) (fun _ _ => Steady.removeIndex)
  · intro db' db'' codes queue steady
    exact steady.after (by rw [codes]) (by rw [queue])
  · exact .inl ⟨codes, queue⟩

/-! ## A claim that is reached is reported -/

/-- A claim whose room is gone. -/
def Standing (db : Database) (code : RoomCode) (t : ClaimToken) : Prop :=
  db.orphanedRoomCodes.get? code = some t ∧ db.bodies.get? code = none

theorem standing_visitStaged {member : Text} (standing : Standing s.db code t)
    (reported : s.orphanClaims.get? code = some t ∨ member = code.1) :
    (s.visitStaged member).orphanClaims.get? code = some t := by
  by_cases same : member = code.1
  · subst same
    have missing : s.db.roomBodyState code = .missing := by
      simp [roomBodyState, Database.get, standing.2]
    unfold Sweep.visitStaged
    rw [dif_neg code.2]
    simp only [standing.1, missing]
    exact JsMap.get?_set_self _ _ _
  · rw [(visitStaged_elsewhere same).2.2]
    exact reported.resolve_right same

theorem Standing.visitStaged {member : Text} (standing : Standing s.db code t) :
    Standing (s.visitStaged member).db code t := by
  constructor
  · by_cases same : member = code.1
    · subst same
      have missing : s.db.roomBodyState code = .missing := by
        simp [roomBodyState, Database.get, standing.2]
      unfold Sweep.visitStaged
      rw [dif_neg code.2]
      simp only [standing.1, missing]
      exact standing.1
    · rw [(visitStaged_elsewhere same).1]
      exact standing.1
  · rw [(visitStaged_frame s member).1]
    exact standing.2

theorem reported_staged {members : List Text} (standing : Standing s.db code t)
    (reported : s.orphanClaims.get? code = some t ∨ code.1 ∈ members) :
    (members.foldl Sweep.visitStaged s).orphanClaims.get? code = some t := by
  induction members generalizing s with
  | nil => exact reported.resolve_right List.not_mem_nil
  | cons member rest ih =>
    apply ih standing.visitStaged
    by_cases here : s.orphanClaims.get? code = some t ∨ member = code.1
    · exact .inl (standing_visitStaged standing here)
    · rw [not_or] at here
      have later := (List.mem_cons.mp (reported.resolve_left here.1)).resolve_left (Ne.symm here.2)
      exact .inr later

/-- The report names the token until the claim is staged anew. -/
theorem reported_candidate (now : Rat) {other : RoomCode}
    (reported : s.orphanClaims.get? code = some t ∨ s.db.orphanedRoomCodes.get? code = some token) :
    (Sweep.visitCandidate now token s other).orphanClaims.get? code = some t ∨
      (Sweep.visitCandidate now token s other).db.orphanedRoomCodes.get? code = some token := by
  have kept : s.db.orphanedRoomCodes.get? code = some token →
      (s.db.removeIndexWithOrphanClaim other token).2.orphanedRoomCodes.get? code =
        some token := by
    intro held
    have fate := (moved_removeIndex s.db other token).fate code
    have claimed : Claimed (s.db.removeIndexWithOrphanClaim other token).2 code :=
      claimed_removeIndex (Option.isSome_iff_exists.mpr ⟨token, held⟩)
    obtain ⟨t', held'⟩ := Option.isSome_iff_exists.mp claimed
    rw [held, held'] at fate
    rcases fate.minted with same | fresh
    · rw [held', ← same]
    · rw [held', fresh]
  unfold Sweep.visitCandidate
  split
  · exact reported.imp_right kept
  · split
    · next db' eq =>
      rw [eq] at kept
      by_cases same : other = code
      · subst same
        cases listed : s.db.roomsByExpiry.has other with
        | true =>
          rw [removeIndex_won listed] at eq
          cases eq
          exact .inr (JsMap.get?_set_self _ _ _)
        | false =>
          have lost := (removeIndex_lost listed token).1
          rw [eq] at lost
          cases lost
      · exact reported.imp (fun here => (JsMap.get?_set_ne _ _ same).trans here) kept
    · next eq =>
      rw [eq] at kept
      exact reported.imp_right kept
  · split
    · split
      · exact reported
      · split <;> exact reported
      · exact reported
    · exact reported

theorem reported_sweep (now : Rat) {orphanLimit : Int} (standing : Standing db code t)
    (reached : code.1 ∈ db.orphanedRoomQueue.zrange (orphanLimit - 1)) :
    (db.deleteExpiredRoomsLua now orphanLimit token).orphanClaims.get? code = some t ∨
      (db.deleteExpiredRoomsLua now orphanLimit token).db.orphanedRoomCodes.get? code =
        some token := by
  have swept (codes : List RoomCode) (s : Sweep)
      (reported : s.orphanClaims.get? code = some t ∨
        s.db.orphanedRoomCodes.get? code = some token) :
      (codes.foldl (Sweep.visitCandidate now token) s).orphanClaims.get? code = some t ∨
        (codes.foldl (Sweep.visitCandidate now token) s).db.orphanedRoomCodes.get? code =
          some token := by
    induction codes generalizing s with
    | nil => exact reported
    | cons other rest ih => exact ih _ (reported_candidate now reported)
  apply swept
  left
  exact reported_staged (s := { db }) standing (.inr reached)

/-! ## The next sweeps -/

def Act.isSweep : Act → Bool
  | .sweep .. => true
  | _ => false

/-- The claims an act hands to its caller. -/
def World.report (w : World) : Act → JsMap RoomCode ClaimToken
  | .sweep now orphanLimit => (w.db.deleteExpiredRoomsLua now orphanLimit w.issued).orphanClaims
  | _ => .empty

/-- Every sweep reads batches of one size, and finds no body under the code. -/
def SweptAt (L : Nat) (code : RoomCode) (w : World) : Act → Prop
  | .sweep _ orphanLimit => orphanLimit = L ∧ w.db.bodies.get? code = none
  | _ => True

/-- An act that leaves a claim standing and does not report it leaves it in its place, and as a
sweep takes a batch from ahead of it. -/
theorem unreported_exec (sound : Sound w) {act : Act} {s : Nat} (positive : 0 < L)
    (held : w.db.orphanedRoomCodes.get? code = some t)
    (at_code : w.db.orphanedRoomQueue.zscore code.1 = some s)
    (still : (w.exec act).db.orphanedRoomCodes.get? code = some t) (swept : SweptAt L code w act)
    (unreported : (w.report act).get? code ≠ some t) :
    (w.exec act).db.orphanedRoomQueue.zscore code.1 = some s ∧
      (ahead (w.exec act).db code s).length + (if act.isSweep then L - 1 else 0) ≤
        (ahead w.db code s).length := by
  have ranked : s ≤ top w.db := sound.ranked code s at_code
  have old : t ≠ w.issued := Nat.ne_of_lt (sound.minted code t held)
  have renewed : ¬ (act.exec w.issued w.db).orphanedRoomCodes.get? code = some w.issued := by
    intro fresh
    exact old (Option.some.inj (still.symm.trans fresh))
  have moved := moved_exec act w.issued w.db
  have unmoved (steady : Steady w.issued code w.db (act.exec w.issued w.db)) :
      (w.exec act).db.orphanedRoomQueue.zscore code.1 = some s := by
    rcases steady with ⟨-, same⟩ | gone | fresh
    · exact same.trans at_code
    · exact absurd (still.symm.trans gone) nofun
    · exact absurd fresh renewed
  have start : Steady w.issued code w.db w.db := .inl ⟨rfl, rfl⟩
  have no_more : (ahead (w.exec act).db code s).length ≤ (ahead w.db code s).length :=
    (List.subperm_of_subset (nodup_ahead _ _ _) (ahead_moved moved ranked)).length_le
  by_cases handles : act.handlesClaims = true
  · cases act with
    | prune codes =>
      exact ⟨unmoved (prune_preserves (Steady w.issued code w.db)
        (fun _ _ => Steady.removeIndex) codes start), no_more⟩
    | quarantine other read =>
      exact ⟨unmoved (quarantine_preserves (Steady w.issued code w.db)
        (fun _ _ => Steady.removeIndex) read start), no_more⟩
    | acknowledge claims =>
      exact ⟨unmoved (acknowledge_preserves (Steady w.issued code w.db)
        (fun _ _ => Steady.drop) claims start), no_more⟩
    | sweep now orphanLimit =>
      obtain ⟨rfl, missing⟩ := swept
      have missed : code.1 ∉ w.db.orphanedRoomQueue.zrange ((L : Int) - 1) := by
        intro reached
        rcases reported_sweep now ⟨held, missing⟩ reached with told | fresh
        · exact unreported told
        · exact renewed fresh
      exact ⟨unmoved (steady_sweep now missed), ahead_sweep now positive at_code ranked missed⟩
    | _ => cases handles
  · obtain ⟨codes, queue⟩ := exec_frame w.issued w.db (eq_false_of_ne_true handles)
    have steady : Steady w.issued code w.db (act.exec w.issued w.db) :=
      start.after (by rw [codes]) (by rw [queue])
    have noSweep : act.isSweep = false := by
      cases act with
      | sweep => exact absurd rfl handles
      | _ => rfl
    rw [noSweep]
    exact ⟨unmoved steady, no_more⟩

theorem unreported_run (sound : Sound w) (acts : List Act) {s : Nat} (positive : 0 < L)
    (at_code : w.db.orphanedRoomQueue.zscore code.1 = some s)
    (held : ∀ before after, acts = before ++ after →
      (w.run before).db.orphanedRoomCodes.get? code = some t)
    (swept : ∀ before act after, acts = before ++ act :: after → SweptAt L code (w.run before) act)
    (unreported : ∀ before act after, acts = before ++ act :: after →
      ((w.run before).report act).get? code ≠ some t) :
    acts.countP Act.isSweep * (L - 1) ≤ (ahead w.db code s).length := by
  induction acts generalizing w with
  | nil =>
    rw [List.countP_nil, Nat.zero_mul]
    exact Nat.zero_le _
  | cons act rest ih =>
    obtain ⟨at_code', shorter⟩ := unreported_exec sound positive (held [] _ rfl) at_code
      (held [act] rest rfl) (swept [] act rest rfl) (unreported [] act rest rfl)
    have later := ih (sound.exec act) at_code'
      (fun before after split => held (act :: before) after (congrArg (act :: ·) split))
      (fun before act' after split => swept (act :: before) act' after (congrArg (act :: ·) split))
      (fun before act' after split =>
        unreported (act :: before) act' after (congrArg (act :: ·) split))
    rw [List.countP_cons, Nat.add_mul]
    have here : (if act.isSweep = true then 1 else 0) * (L - 1) =
        if act.isSweep = true then L - 1 else 0 := by
      split
      · exact Nat.one_mul _
      · exact Nat.zero_mul _
    omega

theorem ahead_lt_claims (sound : Sound w) {s : Nat} (claimed : Claimed w.db code) :
    (ahead w.db code s).length < w.db.orphanedRoomCodes.size := by
  have fields : code.1 :: ahead w.db code s ⊆
      w.db.orphanedRoomCodes.keys.map (Subtype.val : RoomCode → Text) := by
    have listed (other : RoomCode) (held : Claimed w.db other) :
        other.1 ∈ w.db.orphanedRoomCodes.keys.map (Subtype.val : RoomCode → Text) := by
      apply List.mem_map_of_mem
      by_contra absent
      have none := JsMap.lookup_eq_none_iff.mpr absent
      unfold Claimed JsMap.get? at held
      rw [none] at held
      cases held
    intro m mem
    rcases List.mem_cons.mp mem with rfl | mem
    · exact listed code claimed
    · obtain ⟨ordinary, -, r, at_m, -⟩ := mem_ahead.mp mem
      exact listed ⟨m, ordinary⟩
        ((sound.claimed ⟨m, ordinary⟩).mpr (Option.isSome_iff_exists.mpr ⟨r, at_m⟩))
  have distinct : (code.1 :: ahead w.db code s).Nodup := by
    rw [List.nodup_cons]
    exact ⟨fun mem => (mem_ahead.mp mem).2.1 rfl, nodup_ahead _ _ _⟩
  have length := (List.subperm_of_subset distinct fields).length_le
  rw [List.length_cons, List.length_map] at length
  have keys : w.db.orphanedRoomCodes.keys.length = w.db.orphanedRoomCodes.size := List.length_map _
  omega

theorem reported_in_time (sound : Sound w) (acts : List Act) {n : Nat} (limit : 2 ≤ L)
    (outstanding : w.db.orphanedRoomCodes.size ≤ n) (held : ∀ before after, acts = before ++ after →
      (w.run before).db.orphanedRoomCodes.get? code = some t)
    (swept : ∀ before act after, acts = before ++ act :: after → SweptAt L code (w.run before) act)
    (enough : (n + (L - 2)) / (L - 1) ≤ acts.countP Act.isSweep) :
    ∃ before act after, acts = before ++ act :: after ∧
      ((w.run before).report act).get? code = some t := by
  by_contra never
  push Not at never
  have claimed : Claimed w.db code := Option.isSome_iff_exists.mpr ⟨t, held [] acts rfl⟩
  obtain ⟨s, at_code⟩ := Option.isSome_iff_exists.mp ((sound.claimed code).mp claimed)
  have taken := unreported_run sound acts (by omega) at_code held swept never
  have few := ahead_lt_claims (s := s) sound claimed
  have batches : n + (L - 2) < (acts.countP Act.isSweep + 1) * (L - 1) :=
    (Nat.div_lt_iff_lt_mul (by omega)).mp (by omega)
  rw [Nat.succ_mul] at batches
  omega

/-- In every run, hash and queue name the same codes. A member that a prune, a quarantine or a sweep
takes out of the index without its room leaves a claim. A claim lasts until it is acknowledged by
its current token, or a sweep finds the code in use. A token that was replaced acknowledges nothing
from then on. And a claim that stands while sweeps read batches of `L` is reported by one of the
next `n / (L - 1)`, rounded up, where no more than `n` stand. -/
theorem orphan_claims_are_conserved (acts : List Act) :
    let w := World.run {} acts
    (∀ code : RoomCode, w.db.orphanedRoomCodes.has code = true ↔
      code.1 ∈ w.db.orphanedRoomQueue.members) ∧
    (∀ act code, act.repairs = true → w.db.roomsByExpiry.has code = true →
      (w.exec act).db.roomsByExpiry.has code = false → code ∉ w.deleted act →
      Claimed (w.exec act).db code) ∧
    (∀ code later, Claimed w.db code → Claimed (w.run later).db code ∨
      ∃ before act after, later = before ++ act :: after ∧
        Releases (w.run before).db code act) ∧
    (∀ code t between later, w.db.orphanedRoomCodes.get? code = some t →
      (w.run between).db.orphanedRoomCodes.get? code ≠ some t → ∀ before after,
      ((w.run between).run later).db.acknowledgeOrphanedIndexClaimsLua
          (before ++ ⟨code, t⟩ :: after) =
        ((w.run between).run later).db.acknowledgeOrphanedIndexClaimsLua (before ++ after)) ∧
    ∀ code t n L later, 2 ≤ L → w.db.orphanedRoomCodes.size ≤ n →
      (∀ before after, later = before ++ after →
        (w.run before).db.orphanedRoomCodes.get? code = some t) →
      (∀ before act after, later = before ++ act :: after →
        SweptAt L code (w.run before) act) →
      (n + (L - 2)) / (L - 1) ≤ later.countP Act.isSweep →
      ∃ before act after, later = before ++ act :: after ∧
        ((w.run before).report act).get? code = some t := by
  intro w
  have sound : Sound w := sound_booted.run acts
  refine ⟨fun code => ?_, fun act code repairs listed unlisted alive => ?_,
    fun code later claimed => claimed_run later claimed,
    fun code t between later held replaced before after => ?_,
    fun code t n L later limit outstanding held swept enough => ?_⟩
  · rw [SortedSet.mem_members]
    exact sound.claimed code
  · exact claimed_of_unlisted repairs listed unlisted alive
  · apply acknowledge_replaced
    apply replaced_run later _ replaced
    have drawn : t < w.issued := sound.minted code t held
    have grown (acts : List Act) (w : World) : w.issued ≤ (w.run acts).issued := by
      induction acts generalizing w with
      | nil => exact Nat.le_refl _
      | cons act rest ih => exact Nat.le_trans (Nat.le_succ w.issued) (ih (w.exec act))
    exact Nat.lt_of_lt_of_le drawn (grown between w)
  · exact reported_in_time sound later limit outstanding held swept enough

/-- A room whose body an operator deleted is pruned, and reported by the next sweep. -/
theorem orphan_claims_are_conserved_pruned :
    let code : RoomCode := ⟨ascii "AAAAAA", by decide⟩
    let w := World.run {} [.createRoom code .null ⊤ true, .overwrite code none, .prune [code]]
    ∃ before act after, [Act.sweep 0 2] = before ++ act :: after ∧
      ((w.run before).report act).get? code = some 2 := by
  intro code w
  apply (orphan_claims_are_conserved _).2.2.2.2 code 2 1 2 [.sweep 0 2] (by decide) (by decide)
  · intro before after split
    rcases before with _ | ⟨act, rest⟩
    · decide
    · rw [List.cons_append, List.cons.injEq] at split
      obtain ⟨rfl, nothing⟩ := split
      obtain ⟨rfl, -⟩ := List.append_eq_nil_iff.mp nothing.symm
      decide +kernel
  · intro before act after split
    rcases before with _ | ⟨act', rest⟩
    · rw [List.nil_append, List.cons.injEq] at split
      obtain ⟨rfl, -⟩ := split
      exact ⟨rfl, by decide⟩
    · rw [List.cons_append, List.cons.injEq] at split
      exact absurd split.2 (by simp)
  · decide

/-- A guarded delete that finds no body takes the member out of the index and leaves no claim. -/
theorem vacant_delete_leaves_no_claim :
    let code : RoomCode := ⟨ascii "AAAAAA", by decide⟩
    let w := World.run {} [.createRoom code .null ⊤ true, .overwrite code none]
    let deleted := w.exec (.deleteRoom code (ascii "token"))
    w.db.bodies.has code = false ∧ w.db.roomsByExpiry.has code = true ∧
      deleted.db.roomsByExpiry.has code = false ∧ ¬ Claimed deleted.db code := by
  intro code w deleted
  have unclaimed : deleted.db.orphanedRoomCodes.get? code = none := rfl
  exact ⟨rfl, rfl, rfl, fun claimed => by simp [Claimed, unclaimed] at claimed⟩

end BiliSyncPlay.RedisRoomStore.OrphanClaims
