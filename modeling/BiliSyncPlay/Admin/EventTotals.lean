import BiliSyncPlay.JsMap
import Mathlib.Data.List.Perm.Basic
import Mathlib.Logic.Relation

/-!
# Event totals

The keys the totals of the Redis event store come from, and the nodes that start up, append and read
against them. Each Redis command is one step, and the steps of several nodes come in any order.
-/

namespace BiliSyncPlay.EventTotals

abbrev EventName := {name : String // name ≠ ""}

/-- A hash of counts. It exists as a key once it has a field. -/
abbrev Hash := JsMap EventName Nat

def Hash.count (hash : Hash) (name : EventName) : Nat := (hash.get? name).getD 0

/-- Older versions left a string where the snapshot of the legacy counts is kept. -/
inductive Snapshot where
  | marker
  | hash (fields : Hash)
  deriving DecidableEq

def Snapshot.fields : Snapshot → Hash
  | .marker => .empty
  | .hash fields => fields

structure Keys where
  /-- The event field of each entry of the stream. -/
  stream : List EventName
  counts : Hash
  legacyCounts : Hash
  snapshot : Snapshot
  deriving DecidableEq

namespace Keys

def exist (keys : Keys) : Bool := decide (keys.counts.size ≠ 0)

/-- One field of the legacy hash, merged into the counts and the snapshot. -/
def mergeField (merged : Hash × Hash) (field : EventName × Nat) : Hash × Hash :=
  let (counts, snapshot) := merged
  let (name, value) := field
  let delta := value - snapshot.count name
  (if 0 < delta then counts.set name (counts.count name + delta) else counts,
    snapshot.set name value)

def mergeLegacyCountsLua (keys : Keys) : Keys :=
  let merge (fields : Hash) : Keys :=
    let (counts, snapshot) := keys.legacyCounts.entries.foldl mergeField (keys.counts, fields)
    { keys with counts, snapshot := .hash snapshot }
  match keys.snapshot with
  | .marker =>
    if keys.exist then { keys with snapshot := .hash keys.legacyCounts } else merge .empty
  | .hash fields => merge fields

def hincrby (keys : Keys) (name : EventName) : Keys :=
  { keys with counts := keys.counts.set name (keys.counts.count name + 1) }

def hset (keys : Keys) (fields : Hash) : Keys :=
  { keys with
    counts := fields.entries.foldl (fun counts field => counts.set field.1 field.2) keys.counts }

/-- The counts of the entries of the stream, as the backfill adds them up. -/
def backfill (stream : List EventName) : Hash :=
  stream.foldl (fun counts name => counts.set name (counts.count name + 1)) .empty

/-- `totalCountsByEvent`, which merges before it reads. -/
def totalCountsByEvent (keys : Keys) (name : EventName) : Nat :=
  keys.mergeLegacyCountsLua.counts.count name

end Keys

/-! ## Nodes -/

/-- The next command of a store that starts up, or that it has started. A backfill that writes
holds the entries it read. -/
inductive Node where
  | merging | checking | reading
  | writing (entries : List EventName)
  | ready
  deriving DecidableEq

/-- The node found no counts hash, and is to write one. -/
def Node.backfills : Node → Prop
  | .reading | .writing _ => True
  | _ => False

structure Cluster where
  keys : Keys
  nodes : List Node := []
  /-- Where in the stream the entries are whose increment is still to come. -/
  pending : List Nat := []
  deriving DecidableEq

inductive Event where
  | starts
  /-- The next command of a node's startup. -/
  | startup (node : Nat)
  /-- `XADD` by a node that has started. -/
  | appends (node : Nat) (name : EventName)
  /-- The `HINCRBY` of an append. -/
  | increments (append : Nat)
  /-- The merge of a read, by a node that has started. -/
  | reads (node : Nat)
  /-- A node of an older version counts events of its own. -/
  | legacyGrows (name : EventName) (more : Nat)

namespace Cluster

def startup (s : Cluster) (id : Nat) : Node → Option Cluster
  | .merging =>
    some { s with keys := s.keys.mergeLegacyCountsLua, nodes := s.nodes.set id .checking }
  | .checking =>
    some { s with nodes := s.nodes.set id (if s.keys.exist then .ready else .reading) }
  | .reading =>
    let next := if s.keys.stream = [] then .ready else .writing s.keys.stream
    some { s with nodes := s.nodes.set id next }
  | .writing entries =>
    some { s with keys := s.keys.hset (Keys.backfill entries), nodes := s.nodes.set id .ready }
  | .ready => none

def exec (s : Cluster) : Event → Option Cluster
  | .starts => some { s with nodes := s.nodes ++ [.merging] }
  | .startup id => s.nodes[id]?.bind (s.startup id)
  | .appends id name =>
    if s.nodes[id]? = some .ready then
      some { s with
        keys := { s.keys with stream := s.keys.stream ++ [name] }
        pending := s.pending ++ [s.keys.stream.length] }
    else none
  | .increments id =>
    (s.pending[id]?.bind (s.keys.stream[·]?)).map fun name =>
      { s with keys := s.keys.hincrby name, pending := s.pending.eraseIdx id }
  | .reads id =>
    if s.nodes[id]? = some .ready then some { s with keys := s.keys.mergeLegacyCountsLua } else none
  | .legacyGrows name more =>
    let legacyCounts := s.keys.legacyCounts.set name (s.keys.legacyCounts.count name + more)
    some { s with keys := { s.keys with legacyCounts } }

/-- Before the first startup that keeps counts. -/
def start (stream : List EventName) (legacyCounts : Hash) : Cluster where
  keys := { stream, counts := .empty, legacyCounts, snapshot := .hash .empty }

/-- The store that is asked has started, and no startup and no append is under way. -/
structure Settled (s : Cluster) : Prop where
  started : .ready ∈ s.nodes
  ready : ∀ node ∈ s.nodes, node = .ready
  pending : s.pending = []

end Cluster

/-! ## The condition on a step -/

/-- No merge has anything to add. -/
def Cluster.Unmerged (s : Cluster) : Prop :=
  ∀ name, s.keys.legacyCounts.count name = 0

/-- The increment of every entry of the stream is still to come. -/
def Cluster.Uncounted (s : Cluster) : Prop :=
  ∀ i < s.keys.stream.length, i ∈ s.pending

/-- Nothing the backfill writes over was counted apart from it: of the names it read, the entries it
read have had their increment, those added since have not, and no legacy count was merged. -/
structure Cluster.Undisturbed (s : Cluster) (entries : List EventName) : Prop where
  increments : ∀ i name, s.keys.stream[i]? = some name → name ∈ entries →
    (i ∈ s.pending ↔ entries.length ≤ i)
  merges : ∀ name ∈ entries, s.keys.snapshot.fields.count name = 0

/-- A merge that brings the counts hash into being leaves nothing to backfill, or a backfill is under
way already; and a backfill is not disturbed. -/
def Cluster.Meets (s : Cluster) : Event → Prop
  | .startup id => match s.nodes[id]? with
    | some .merging => s.keys.counts.size = 0 →
      s.Unmerged ∨ s.Uncounted ∨ ∃ node ∈ s.nodes, node.backfills
    | some (.writing entries) => s.Undisturbed entries
    | _ => True
  | _ => True

def StepWith (meets : Cluster → Event → Prop) (s t : Cluster) : Prop :=
  ∃ e, meets s e ∧ s.exec e = some t

def RunWith (meets : Cluster → Event → Prop) : Cluster → Cluster → Prop :=
  Relation.ReflTransGen (StepWith meets)

/-! ## Hashes -/

theorem count_set (hash : Hash) (name other : EventName) (value : Nat) :
    Hash.count (hash.set name value) other = if name = other then value else hash.count other := by
  unfold Hash.count
  rw [JsMap.get?_set]
  split <;> rfl

theorem size_set_pos (hash : Hash) (name : EventName) (value : Nat) :
    (hash.set name value).size ≠ 0 := by
  intro missing
  have absent := JsMap.size_eq_zero_iff.mp missing name
  rw [JsMap.get?_set_self] at absent
  cases absent

/-- Folding over the entries of a hash, each name is met once. -/
theorem count_foldl_mergeField (fields : List (EventName × Nat))
    (nodup : (fields.map Prod.fst).Nodup) (counts snapshot : Hash) (name : EventName) :
    let merged := fields.foldl Keys.mergeField (counts, snapshot)
    (Hash.count merged.1 name = counts.count name + (match JsMap.lookup name fields with
      | some value => value - snapshot.count name
      | none => 0)) ∧
    Hash.count merged.2 name = (JsMap.lookup name fields).getD (snapshot.count name) := by
  induction fields generalizing counts snapshot with
  | nil => exact ⟨rfl, rfl⟩
  | cons field rest ih =>
    obtain ⟨other, value⟩ := field
    rw [List.map_cons, List.nodup_cons] at nodup
    obtain ⟨fresh, nodup⟩ := nodup
    obtain ⟨counted, snapped⟩ := ih nodup (Keys.mergeField (counts, snapshot) (other, value)).1
      (Keys.mergeField (counts, snapshot) (other, value)).2
    dsimp only at counted snapped ⊢
    rw [List.foldl_cons]
    by_cases same : other = name
    · subst same
      have absent : JsMap.lookup other rest = none := JsMap.lookup_eq_none_iff.mpr fresh
      rw [absent] at counted snapped
      rw [JsMap.lookup, if_pos rfl]
      refine ⟨counted.trans ?_, snapped.trans ?_⟩
      · unfold Keys.mergeField
        dsimp only
        split
        · rw [count_set, if_pos rfl]
          rfl
        · omega
      · unfold Keys.mergeField
        dsimp only
        exact (count_set ..).trans (if_pos rfl)
    · have apart : ∀ hash : Hash, ∀ v, Hash.count (hash.set other v) name = hash.count name := by
        intro hash v
        rw [count_set, if_neg same]
      have kept : Hash.count (Keys.mergeField (counts, snapshot) (other, value)).2 name =
          snapshot.count name := apart snapshot value
      have counted_kept : Hash.count (Keys.mergeField (counts, snapshot) (other, value)).1 name =
          counts.count name := by
        unfold Keys.mergeField
        dsimp only
        split
        · exact apart counts _
        · rfl
      rw [kept, counted_kept] at counted
      rw [kept] at snapped
      rw [JsMap.lookup, if_neg same]
      exact ⟨counted, snapped⟩

theorem count_foldl_set (fields : List (EventName × Nat)) (nodup : (fields.map Prod.fst).Nodup)
    (counts : Hash) (name : EventName) :
    Hash.count (fields.foldl (fun counts field => counts.set field.1 field.2) counts) name =
      (JsMap.lookup name fields).getD (counts.count name) := by
  induction fields generalizing counts with
  | nil => rfl
  | cons field rest ih =>
    obtain ⟨other, value⟩ := field
    rw [List.map_cons, List.nodup_cons] at nodup
    rw [List.foldl_cons, ih nodup.2, count_set, JsMap.lookup]
    by_cases same : other = name
    · subst same
      rw [JsMap.lookup_eq_none_iff.mpr nodup.1, if_pos rfl, if_pos rfl]
      rfl
    · rw [if_neg same, if_neg same]

theorem size_foldl_set (fields : List (EventName × Nat)) (counts : Hash)
    (some_field : fields ≠ [] ∨ counts.size ≠ 0) :
    (fields.foldl (fun counts field => counts.set field.1 field.2) counts).size ≠ 0 := by
  induction fields generalizing counts with
  | nil => exact some_field.resolve_left (fun none_left => none_left rfl)
  | cons field rest ih => exact ih _ (.inr (size_set_pos _ _ _))

theorem get?_backfill (stream : List EventName) (name : EventName) :
    (Keys.backfill stream).get? name = if name ∈ stream then some (stream.count name) else none := by
  have added : ∀ counts : Hash, JsMap.get? (stream.foldl (fun counts name =>
      counts.set name (Hash.count counts name + 1)) counts) name =
      if name ∈ stream then some (counts.count name + stream.count name) else counts.get? name := by
    induction stream with
    | nil => intro counts; rfl
    | cons first rest ih =>
      intro counts
      rw [List.foldl_cons, ih, count_set, JsMap.get?_set]
      by_cases same : first = name
      · subst same
        by_cases again : first ∈ rest
        · simp [again]
          omega
        · simp [again, List.count_eq_zero_of_not_mem again]
      · simp [same, Ne.symm same, List.count_cons_of_ne same]
  have none_before : Hash.count (.empty : Hash) name = 0 := rfl
  rw [Keys.backfill, added, none_before, Nat.zero_add]
  rfl

theorem size_backfill {stream : List EventName} (some_event : stream ≠ []) :
    (Keys.backfill stream).size ≠ 0 := by
  intro missing
  obtain ⟨name, rest, rfl⟩ := List.exists_cons_of_ne_nil some_event
  have absent := JsMap.size_eq_zero_iff.mp missing name
  rw [get?_backfill, if_pos List.mem_cons_self] at absent
  cases absent

section
variable {keys : Keys} {fields : Hash}

theorem size_foldl_mergeField (entries : List (EventName × Nat)) (merged : Hash × Hash)
    (exist : merged.1.size ≠ 0) : (entries.foldl Keys.mergeField merged).1.size ≠ 0 := by
  induction entries generalizing merged with
  | nil => exact exist
  | cons field rest ih =>
    apply ih
    unfold Keys.mergeField
    dsimp only
    split
    · exact size_set_pos _ _ _
    · exact exist

theorem foldl_mergeField_zero (entries : List (EventName × Nat)) (merged : Hash × Hash)
    (zero : ∀ e ∈ entries, e.2 = 0) : (entries.foldl Keys.mergeField merged).1 = merged.1 := by
  induction entries generalizing merged with
  | nil => rfl
  | cons field rest ih =>
    have none_first : field.2 = 0 := zero field List.mem_cons_self
    rw [List.foldl_cons, ih _ fun e mem => zero e (List.mem_cons_of_mem field mem)]
    unfold Keys.mergeField
    dsimp only
    rw [none_first, if_neg (by omega)]

section
variable (snapshot : keys.snapshot = .hash fields)
include snapshot

theorem exist_merge (exist : keys.counts.size ≠ 0) :
    keys.mergeLegacyCountsLua.counts.size ≠ 0 := by
  unfold Keys.mergeLegacyCountsLua
  rw [snapshot]
  exact size_foldl_mergeField _ _ exist

theorem counts_merge_zero (zero : ∀ name, keys.legacyCounts.count name = 0) :
    keys.mergeLegacyCountsLua.counts = keys.counts := by
  unfold Keys.mergeLegacyCountsLua
  rw [snapshot]
  apply foldl_mergeField_zero
  rintro ⟨name, value⟩ mem
  have held : keys.legacyCounts.get? name = some value := JsMap.mem_entries_iff.mp mem
  have none_left := zero name
  unfold Hash.count at none_left
  rw [held] at none_left
  exact none_left

/-- What the script does where the snapshot is a hash that is never ahead of the legacy counts. -/
theorem mergeLegacyCountsLua_counts
    (behind : ∀ name, fields.count name ≤ keys.legacyCounts.count name) (name : EventName) :
    keys.mergeLegacyCountsLua.counts.count name =
        keys.counts.count name + (keys.legacyCounts.count name - fields.count name) ∧
      keys.mergeLegacyCountsLua.snapshot.fields.count name = keys.legacyCounts.count name := by
  obtain ⟨counted, snapped⟩ := count_foldl_mergeField keys.legacyCounts.entries
    keys.legacyCounts.nodup keys.counts fields name
  have ahead := behind name
  unfold Hash.count at ahead
  unfold Keys.mergeLegacyCountsLua
  rw [snapshot]
  refine ⟨counted.trans ?_, snapped.trans ?_⟩
  · unfold Hash.count JsMap.get?
    cases JsMap.lookup name keys.legacyCounts.entries with
    | none => simp
    | some value => rfl
  · unfold JsMap.get? at ahead
    unfold Hash.count JsMap.get?
    cases at_name : JsMap.lookup name keys.legacyCounts.entries with
    | none =>
      rw [at_name] at ahead
      exact Nat.le_zero.mp ahead
    | some value => rfl

theorem mergeLegacyCountsLua_rest :
    keys.mergeLegacyCountsLua.stream = keys.stream ∧
      keys.mergeLegacyCountsLua.legacyCounts = keys.legacyCounts ∧
      ∃ merged, keys.mergeLegacyCountsLua.snapshot = .hash merged := by
  unfold Keys.mergeLegacyCountsLua
  rw [snapshot]
  exact ⟨rfl, rfl, _, rfl⟩

end

theorem count_hset (keys : Keys) (fields : Hash) (name : EventName) :
    (keys.hset fields).counts.count name = (fields.get? name).getD (keys.counts.count name) :=
  count_foldl_set fields.entries fields.nodup keys.counts name

end

/-! ## The entries still to be counted -/

/-- The names of the entries whose increment is still to come. -/
def Cluster.due (s : Cluster) : List EventName := s.pending.filterMap (s.keys.stream[·]?)

theorem count_filterMap_getElem? (stream : List EventName) (at_ : List Nat) (name : EventName) :
    (at_.filterMap (stream[·]?)).count name =
      (at_.filter fun i => stream[i]? = some name).length := by
  induction at_ with
  | nil => rfl
  | cons i rest ih =>
    cases found : stream[i]? with
    | none => simp [found, ih]
    | some other =>
      by_cases same : other = name
      · simp [found, same, ih]
      · simp [found, same, ih]

/-- Two lists without repetition that hold the same places of a name name it equally often. -/
theorem count_filterMap_congr {stream : List EventName} {at_ at_' : List Nat} {name : EventName}
    (nodup : at_.Nodup) (nodup' : at_'.Nodup)
    (same : ∀ i, stream[i]? = some name → (i ∈ at_ ↔ i ∈ at_')) :
    (at_.filterMap (stream[·]?)).count name = (at_'.filterMap (stream[·]?)).count name := by
  rw [count_filterMap_getElem?, count_filterMap_getElem?]
  apply List.Perm.length_eq
  rw [List.perm_ext_iff_of_nodup (nodup.filter _) (nodup'.filter _)]
  intro i
  simp only [List.mem_filter, decide_eq_true_eq, and_congr_left_iff]
  exact same i

theorem filterMap_range' (entries later : List EventName) :
    (List.range' entries.length later.length).filterMap ((entries ++ later)[·]?) = later := by
  induction later generalizing entries with
  | nil => rfl
  | cons name rest ih =>
    have shifted := ih (entries ++ [name])
    rw [List.length_append, List.append_assoc] at shifted
    rw [List.length_cons, List.range'_succ, List.filterMap_cons_some
      (show (entries ++ name :: rest)[entries.length]? = some name by simp)]
    exact congrArg (name :: ·) shifted

/-! ## What the counts are short of -/

/-- The counts and the increments still to come add up to the stream and the legacy counts that were
merged, up to what the stream held at first: that is owed until a backfill has written it. -/
structure Sound (stream owed : List EventName) (s : Cluster) : Prop where
  kept : stream <+: s.keys.stream
  owed_eq : owed = stream ∨ owed = []
  snapshot : ∃ fields, s.keys.snapshot = .hash fields
  behind : ∀ name, s.keys.snapshot.fields.count name ≤ s.keys.legacyCounts.count name
  distinct : s.pending.Nodup
  placed : ∀ i ∈ s.pending, stream.length ≤ i ∧ i < s.keys.stream.length
  counted : ∀ name, s.keys.counts.count name + s.due.count name + owed.count name =
    s.keys.stream.count name + s.keys.snapshot.fields.count name
  covered : owed ≠ [] → s.keys.counts.size = 0 ∨ ∃ node ∈ s.nodes, node.backfills
  read : ∀ entries, .writing entries ∈ s.nodes →
    entries ≠ [] ∧ stream <+: entries ∧ entries <+: s.keys.stream
  ready : s.keys.counts.size = 0 → .ready ∈ s.nodes → stream = []
  added : s.keys.counts.size = 0 → s.pending ≠ [] → stream = []

section
variable {stream owed : List EventName} {s t : Cluster}

theorem Sound.owed_nil (sound : Sound stream owed s) (empty : stream = []) : owed = [] := by
  rcases sound.owed_eq with rfl | rfl
  · exact empty
  · rfl

/-- Entries that were there at first have no increment to come. -/
theorem Sound.owed_of_uncounted (sound : Sound stream owed s) (uncounted : s.Uncounted) :
    owed = [] := by
  apply sound.owed_nil
  by_contra some_event
  have first := List.length_pos_of_ne_nil some_event
  have within := sound.kept.length_le
  have at_first := (sound.placed 0 (uncounted 0 (by omega))).1
  omega

/-- What the first stream is owed outlasts a merge: where that brings the hash into being, a backfill
is under way. -/
theorem Sound.merge (sound : Sound stream owed s)
    (meets : s.keys.counts.size = 0 →
      s.Unmerged ∨ owed = [] ∨ ∃ node ∈ s.nodes, node.backfills) :
    Sound stream owed { s with keys := s.keys.mergeLegacyCountsLua } := by
  obtain ⟨fields, snapshot⟩ := sound.snapshot
  have behind := sound.behind
  have counted := sound.counted
  rw [snapshot] at behind counted
  obtain ⟨same_stream, same_legacy, snapshot'⟩ := mergeLegacyCountsLua_rest snapshot
  have after := mergeLegacyCountsLua_counts snapshot behind
  have still : s.keys.mergeLegacyCountsLua.counts.size = 0 → s.keys.counts.size = 0 := by
    intro missing
    by_contra exist
    exact exist_merge snapshot exist missing
  refine ⟨?_, sound.owed_eq, snapshot', ?_, sound.distinct, ?_, ?_, ?_, ?_, ?_, ?_⟩
  · change stream <+: s.keys.mergeLegacyCountsLua.stream
    rw [same_stream]
    exact sound.kept
  · intro name
    have copied : s.keys.mergeLegacyCountsLua.snapshot.fields.count name =
        s.keys.mergeLegacyCountsLua.legacyCounts.count name := by
      rw [(after name).2, same_legacy]
    exact Nat.le_of_eq copied
  · intro i mem
    change stream.length ≤ i ∧ i < s.keys.mergeLegacyCountsLua.stream.length
    rw [same_stream]
    exact sound.placed i mem
  · intro name
    have ahead := behind name
    have was := counted name
    change s.keys.counts.count name + s.due.count name + owed.count name =
      s.keys.stream.count name + fields.count name at was
    change fields.count name ≤ s.keys.legacyCounts.count name at ahead
    change s.keys.mergeLegacyCountsLua.counts.count name +
      (s.pending.filterMap (s.keys.mergeLegacyCountsLua.stream[·]?)).count name + owed.count name =
      s.keys.mergeLegacyCountsLua.stream.count name +
        s.keys.mergeLegacyCountsLua.snapshot.fields.count name
    rw [(after name).1, (after name).2, same_stream]
    change _ + s.due.count name + _ = _
    omega
  · intro some_owed
    rcases sound.covered some_owed with missing | under_way
    · rcases meets missing with nothing | none_owed | under_way
      · left
        change s.keys.mergeLegacyCountsLua.counts.size = 0
        rw [counts_merge_zero snapshot nothing]
        exact missing
      · exact absurd none_owed some_owed
      · exact .inr under_way
    · exact .inr under_way
  · intro entries mem
    change _ ∧ _ ∧ entries <+: s.keys.mergeLegacyCountsLua.stream
    rw [same_stream]
    exact sound.read entries mem
  · exact fun missing => sound.ready (still missing)
  · exact fun missing => sound.added (still missing)

theorem mem_of_mem_set {nodes : List Node} {id : Nat} {next node : Node}
    (mem : node ∈ nodes.set id next) (apart : node ≠ next) : node ∈ nodes :=
  (List.mem_or_eq_of_mem_set mem).resolve_right apart

theorem mem_set_of_mem {nodes : List Node} {id : Nat} {next node before : Node}
    (at_id : nodes[id]? = some before) (mem : node ∈ nodes) (apart : node ≠ before) :
    node ∈ nodes.set id next := by
  obtain ⟨i, at_i⟩ := List.mem_iff_getElem?.mp mem
  have other : id ≠ i := by
    rintro rfl
    exact apart (Option.some.inj (at_i.symm.trans at_id))
  apply List.mem_iff_getElem?.mpr
  exact ⟨i, (List.getElem?_set_ne other).trans at_i⟩

section
variable (sound : Sound stream owed s)
include sound

/-- A node moves on, and neither drops a backfill that is owed, nor has started too early. -/
theorem Sound.moved {id : Nat} {before next : Node} (at_id : s.nodes[id]? = some before)
    (goes_on : before.backfills → next.backfills ∨ owed = [])
    (read : ∀ entries, next = .writing entries →
      entries ≠ [] ∧ stream <+: entries ∧ entries <+: s.keys.stream)
    (ready : next = .ready → s.keys.counts.size = 0 → stream = []) :
    Sound stream owed { s with nodes := s.nodes.set id next } := by
  refine { sound with covered := ?_, read := ?_, ready := ?_ }
  · intro some_owed
    rcases sound.covered some_owed with missing | ⟨node, mem, under_way⟩
    · exact .inl missing
    · right
      by_cases same : node = before
      · subst same
        have follows := (goes_on under_way).resolve_right some_owed
        have within := (List.getElem?_eq_some_iff.mp at_id).1
        exact ⟨next, List.mem_set within next, follows⟩
      · exact ⟨node, mem_set_of_mem at_id mem same, under_way⟩
  · intro entries mem
    rcases List.mem_or_eq_of_mem_set mem with mem | is
    · exact sound.read entries mem
    · exact read entries is.symm
  · intro missing mem
    rcases List.mem_or_eq_of_mem_set mem with mem | is
    · exact sound.ready missing mem
    · exact ready is.symm missing

/-- An undisturbed backfill leaves due, of the names it read, what was added since. -/
theorem Sound.due_undisturbed {entries later : List EventName}
    (whole : s.keys.stream = entries ++ later) (undisturbed : s.Undisturbed entries)
    {name : EventName} (mem : name ∈ entries) : s.due.count name = later.count name := by
  have placed : s.due.count name =
      ((List.range' entries.length later.length).filterMap (s.keys.stream[·]?)).count name := by
    apply count_filterMap_congr sound.distinct List.nodup_range'
    intro i named
    rw [undisturbed.increments i name named mem, List.mem_range'_1]
    have within := (List.getElem?_eq_some_iff.mp named).1
    rw [whole, List.length_append] at within
    omega
  rw [placed, whole, filterMap_range']

theorem Sound.write {id : Nat} {entries : List EventName}
    (at_id : s.nodes[id]? = some (.writing entries)) (undisturbed : s.Undisturbed entries) :
    Sound stream [] { s with
      keys := s.keys.hset (Keys.backfill entries)
      nodes := s.nodes.set id .ready } := by
  obtain ⟨some_entry, covers, later, whole⟩ := sound.read entries (List.mem_of_getElem? at_id)
  have written : (s.keys.hset (Keys.backfill entries)).counts.size ≠ 0 :=
    size_foldl_set _ s.keys.counts (.inl (fun none_read =>
      size_backfill some_entry (List.length_eq_zero_iff.mpr none_read)))
  refine ⟨sound.kept, .inr rfl, sound.snapshot, sound.behind, sound.distinct, sound.placed, ?_,
    fun owes => absurd rfl owes, ?_, fun missing => absurd missing written,
    fun missing => absurd missing written⟩
  · intro name
    change (s.keys.hset (Keys.backfill entries)).counts.count name + s.due.count name + 0 =
      s.keys.stream.count name + s.keys.snapshot.fields.count name
    rw [count_hset, get?_backfill]
    by_cases mem : name ∈ entries
    · have since := sound.due_undisturbed whole.symm undisturbed mem
      have unmerged := undisturbed.merges name mem
      have split : s.keys.stream.count name = entries.count name + later.count name := by
        rw [← whole, List.count_append]
      rw [if_pos mem, Option.getD_some]
      omega
    · have none_first : owed.count name = 0 := by
        apply List.count_eq_zero_of_not_mem
        intro owes
        rcases sound.owed_eq with rfl | rfl
        · exact mem (covers.subset owes)
        · cases owes
      have was := sound.counted name
      rw [if_neg mem, Option.getD_none]
      omega
  · intro entries' mem
    exact sound.read entries' (mem_of_mem_set mem (by intro is; cases is))

theorem Sound.startup {id : Nat} {node : Node} (at_id : s.nodes[id]? = some node)
    (meets : s.Meets (.startup id)) (h : s.startup id node = some t) :
    ∃ owed', Sound stream owed' t := by
  simp only [Cluster.Meets, at_id] at meets
  cases node with
  | merging =>
    cases h
    have merged := sound.merge fun missing =>
      (meets missing).imp_right (Or.imp_left sound.owed_of_uncounted)
    refine ⟨owed, merged.moved at_id ?_ ?_ ?_⟩
    · exact fun under_way => under_way.elim
    · intro entries is
      cases is
    · intro is
      cases is
  | checking =>
    cases h
    refine ⟨owed, sound.moved at_id ?_ ?_ ?_⟩
    · exact fun under_way => under_way.elim
    · intro entries is
      split at is <;> cases is
    · intro is missing
      split at is
      · next exist => exact absurd missing (of_decide_eq_true exist)
      · cases is
  | reading =>
    cases h
    refine ⟨owed, sound.moved at_id ?_ ?_ ?_⟩
    · intro _
      split
      · next none_yet =>
        right
        apply sound.owed_nil
        exact List.prefix_nil.mp (none_yet ▸ sound.kept)
      · exact .inl trivial
    · intro entries is
      split at is
      · cases is
      · next some_event =>
        cases is
        exact ⟨some_event, sound.kept, List.prefix_rfl⟩
    · intro is missing
      split at is
      · next none_yet => exact List.prefix_nil.mp (none_yet ▸ sound.kept)
      · cases is
  | writing entries =>
    cases h
    exact ⟨[], sound.write at_id meets⟩
  | ready => cases h

theorem due_appended (name : EventName) :
    (s.pending ++ [s.keys.stream.length]).filterMap ((s.keys.stream ++ [name])[·]?) =
      s.due ++ [name] := by
  have before : s.pending.filterMap ((s.keys.stream ++ [name])[·]?) = s.due := by
    apply List.filterMap_congr
    intro i mem
    exact List.getElem?_append_left (sound.placed i mem).2
  rw [List.filterMap_append, before]
  simp

theorem Sound.append {id : Nat} (started : s.nodes[id]? = some .ready) (name : EventName) :
    Sound stream owed { s with
      keys := { s.keys with stream := s.keys.stream ++ [name] }
      pending := s.pending ++ [s.keys.stream.length] } := by
  refine { sound with
    kept := sound.kept.trans (List.prefix_append _ _), distinct := ?_, placed := ?_, counted := ?_,
    read := ?_, added := ?_ }
  · rw [List.nodup_append]
    refine ⟨sound.distinct, List.nodup_singleton _, ?_⟩
    intro i mem j last same
    have before := (sound.placed i mem).2
    cases List.mem_singleton.mp last
    omega
  · intro i mem
    have within := sound.kept.length_le
    rw [List.length_append, List.length_singleton]
    rcases List.mem_append.mp mem with mem | last
    · have placed := sound.placed i mem
      omega
    · cases List.mem_singleton.mp last
      omega
  · intro other
    have was := sound.counted other
    change s.keys.counts.count other +
      ((s.pending ++ [s.keys.stream.length]).filterMap ((s.keys.stream ++ [name])[·]?)).count other +
        owed.count other = (s.keys.stream ++ [name]).count other + s.keys.snapshot.fields.count other
    rw [due_appended sound, List.count_append, List.count_append]
    omega
  · intro entries mem
    obtain ⟨some_entry, covers, within⟩ := sound.read entries mem
    exact ⟨some_entry, covers, within.trans (List.prefix_append _ _)⟩
  · exact fun missing _ => sound.ready missing (List.mem_of_getElem? started)

theorem Sound.increment {id i : Nat} {name : EventName} (at_id : s.pending[id]? = some i)
    (named : s.keys.stream[i]? = some name) :
    Sound stream owed { s with
      keys := s.keys.hincrby name
      pending := s.pending.eraseIdx id } := by
  have written : (s.keys.hincrby name).counts.size ≠ 0 := size_set_pos _ _ _
  have fewer : s.pending.eraseIdx id ⊆ s.pending := (List.eraseIdx_sublist s.pending id).subset
  refine ⟨sound.kept, sound.owed_eq, sound.snapshot, sound.behind,
    sound.distinct.sublist (List.eraseIdx_sublist s.pending id),
    fun i mem => sound.placed i (fewer mem), ?_, ?_, sound.read,
    fun missing => absurd missing written, fun missing => absurd missing written⟩
  · intro other
    have was := sound.counted other
    have shorter : s.due.count other =
        ((s.pending.eraseIdx id).filterMap (s.keys.stream[·]?)).count other +
          if name = other then 1 else 0 := by
      obtain ⟨within, rfl⟩ := List.getElem?_eq_some_iff.mp at_id
      have perm := (List.getElem_cons_eraseIdx_perm within).filterMap (s.keys.stream[·]?)
      rw [Cluster.due, ← perm.count_eq other, List.filterMap_cons_some named]
      split
      · next same => rw [same, List.count_cons_self]
      · next apart => rw [List.count_cons_of_ne apart, Nat.add_zero]
    have counted : (s.keys.hincrby name).counts.count other =
        s.keys.counts.count other + if name = other then 1 else 0 := by
      unfold Keys.hincrby
      dsimp only
      rw [count_set]
      split
      · next same => rw [same]
      · rfl
    change (s.keys.hincrby name).counts.count other +
      ((s.pending.eraseIdx id).filterMap (s.keys.stream[·]?)).count other + owed.count other =
        s.keys.stream.count other + s.keys.snapshot.fields.count other
    omega
  · intro some_owed
    rcases sound.covered some_owed with missing | under_way
    · exfalso
      apply some_owed
      apply sound.owed_nil
      apply sound.added missing
      intro none_pending
      rw [none_pending] at at_id
      cases at_id
    · exact .inr under_way

theorem Sound.exec {e : Event} (meets : s.Meets e) (h : s.exec e = some t) :
    ∃ owed', Sound stream owed' t := by
  cases e with
  | starts =>
    cases h
    refine ⟨owed, { sound with covered := ?_, read := ?_, ready := ?_ }⟩
    · intro some_owed
      rcases sound.covered some_owed with missing | ⟨node, mem, under_way⟩
      · exact .inl missing
      · exact .inr ⟨node, List.mem_append_left _ mem, under_way⟩
    · intro entries mem
      rcases List.mem_append.mp mem with mem | mem
      · exact sound.read entries mem
      · cases List.mem_singleton.mp mem
    · intro missing mem
      rcases List.mem_append.mp mem with mem | mem
      · exact sound.ready missing mem
      · cases List.mem_singleton.mp mem
  | startup id =>
    obtain ⟨node, at_id, h⟩ := Option.bind_eq_some_iff.mp h
    exact sound.startup at_id meets h
  | appends id name =>
    simp only [Cluster.exec] at h
    split at h
    · next started =>
      cases h
      exact ⟨owed, sound.append started name⟩
    · cases h
  | increments id =>
    obtain ⟨name, found, rfl⟩ := Option.map_eq_some_iff.mp h
    obtain ⟨i, at_id, named⟩ := Option.bind_eq_some_iff.mp found
    exact ⟨owed, sound.increment at_id named⟩
  | reads id =>
    simp only [Cluster.exec] at h
    split at h
    · next started =>
      cases h
      -- A store that has started without a counts hash found nothing to backfill.
      refine ⟨owed, sound.merge fun missing => .inr (.inl ?_)⟩
      exact sound.owed_nil (sound.ready missing (List.mem_of_getElem? started))
    · cases h
  | legacyGrows name more =>
    cases h
    refine ⟨owed, { sound with behind := ?_ }⟩
    intro other
    have was := sound.behind other
    change s.keys.snapshot.fields.count other ≤
      Hash.count (s.keys.legacyCounts.set name (s.keys.legacyCounts.count name + more)) other
    rw [count_set]
    split
    · next same =>
      rw [← same] at was
      rw [← same]
      omega
    · exact was

end

theorem Sound.start (stream : List EventName) (legacyCounts : Hash) :
    Sound stream stream (Cluster.start stream legacyCounts) where
  kept := List.prefix_rfl
  owed_eq := .inl rfl
  snapshot := ⟨.empty, rfl⟩
  behind _ := Nat.zero_le _
  distinct := List.nodup_nil
  placed _ mem := by cases mem
  counted name := by
    change 0 + 0 + stream.count name = stream.count name + 0
    omega
  covered _ := .inl rfl
  read _ mem := by cases mem
  ready _ mem := by cases mem
  added _ some_pending := absurd rfl some_pending

theorem runWith_sound {legacyCounts : Hash}
    (run : RunWith Cluster.Meets (Cluster.start stream legacyCounts) s) :
    ∃ owed, Sound stream owed s := by
  induction run with
  | refl => exact ⟨stream, .start stream legacyCounts⟩
  | tail _ step ih =>
    obtain ⟨e, meets, h⟩ := step
    obtain ⟨owed, sound⟩ := ih
    exact sound.exec meets h

theorem Sound.settled (sound : Sound stream owed s) (settled : s.Settled) : owed = [] := by
  by_contra some_owed
  rcases sound.covered some_owed with missing | ⟨node, mem, under_way⟩
  · exact some_owed (sound.owed_nil (sound.ready missing settled.started))
  · rw [settled.ready node mem] at under_way
    exact under_way

/-- A settled cluster counts every event of the stream once, and every legacy count. -/
theorem Sound.total (sound : Sound stream owed s) (settled : s.Settled) (name : EventName) :
    s.keys.totalCountsByEvent name = s.keys.stream.count name + s.keys.legacyCounts.count name := by
  obtain ⟨fields, snapshot⟩ := sound.snapshot
  have behind := sound.behind
  have counted := sound.counted name
  rw [snapshot] at behind counted
  rw [sound.settled settled, Cluster.due, settled.pending] at counted
  have merged := (mergeLegacyCountsLua_counts snapshot behind name).1
  have ahead := behind name
  change fields.count name ≤ s.keys.legacyCounts.count name at ahead
  change s.keys.counts.count name + 0 + 0 = s.keys.stream.count name + fields.count name at counted
  unfold Keys.totalCountsByEvent
  rw [merged]
  omega

/-- As long as a merge that brings the counts hash into being finds nothing to backfill, or a backfill
under way, and no backfill is disturbed, the totals of a settled cluster are those of the stream and
the legacy counts. -/
theorem totals_are_exact {legacyCounts : Hash}
    (run : RunWith Cluster.Meets (Cluster.start stream legacyCounts) s) (settled : s.Settled)
    (name : EventName) : s.keys.totalCountsByEvent name =
      s.keys.stream.count name + s.keys.legacyCounts.count name := by
  obtain ⟨owed, sound⟩ := runWith_sound run
  exact sound.total settled name

end

/-- A node backfills an event. Another merges a legacy count of another name meanwhile, so that it
finds a counts hash, and adds an event of a third name, which it counts before the backfill is
written, and one more of the first. -/
theorem totals_are_exact_appended :
    let x : EventName := ⟨"x", by decide⟩
    let y : EventName := ⟨"y", by decide⟩
    let z : EventName := ⟨"z", by decide⟩
    ∃ s, RunWith Cluster.Meets (Cluster.start [x] .empty) s ∧ s.keys.stream = [x, z, x] ∧
      s.keys.totalCountsByEvent x = s.keys.stream.count x + s.keys.legacyCounts.count x ∧
      s.keys.totalCountsByEvent y = s.keys.stream.count y + s.keys.legacyCounts.count y ∧
      s.keys.totalCountsByEvent z = s.keys.stream.count z + s.keys.legacyCounts.count z := by
  intro x y z
  let first : Cluster := Cluster.start [x] .empty
  let reading : Cluster := { first with nodes := [.writing [x]] }
  let joining : Cluster := { reading with
    keys := { reading.keys with legacyCounts := JsMap.empty.set y 3 }
    nodes := [.writing [x], .merging] }
  let merged : Cluster := { joining with
    keys := joining.keys.mergeLegacyCountsLua
    nodes := [.writing [x], .ready] }
  let counted : Cluster := { merged with
    keys := { merged.keys with stream := [x, z] }.hincrby z }
  let added : Cluster := { counted with
    keys := { counted.keys with stream := [x, z, x] }
    pending := [2] }
  let written : Cluster := { added with
    keys := added.keys.hset (Keys.backfill [x])
    nodes := [.ready, .ready] }
  let last : Cluster := { written with keys := written.keys.hincrby x, pending := [] }
  have nothing_yet : StepWith Cluster.Meets { first with nodes := [.merging] }
      { first with nodes := [.checking] } := ⟨.startup 0, fun _ => .inl fun _ => rfl, rfl⟩
  have reads : RunWith Cluster.Meets first reading :=
    .head ⟨.starts, trivial, rfl⟩ <| .head nothing_yet <| .head ⟨.startup 0, trivial, rfl⟩ <|
      .single ⟨.startup 0, trivial, rfl⟩
  have joins : RunWith Cluster.Meets reading joining :=
    .head ⟨.legacyGrows y 3, trivial, rfl⟩ <| .single ⟨.starts, trivial, rfl⟩
  have under_way : ∃ node ∈ joining.nodes, node.backfills :=
    ⟨.writing [x], List.mem_cons_self, trivial⟩
  have merges : RunWith Cluster.Meets joining merged :=
    .head ⟨.startup 1, fun _ => .inr (.inr under_way), rfl⟩ <| .single ⟨.startup 1, trivial, rfl⟩
  have adds : RunWith Cluster.Meets merged added :=
    .head ⟨.appends 1 z, trivial, rfl⟩ <| .head ⟨.increments 0, trivial, rfl⟩ <|
      .single ⟨.appends 1 x, trivial, rfl⟩
  have undisturbed : added.Undisturbed [x] := by
    constructor
    · intro i name named mem
      obtain rfl := List.mem_singleton.mp mem
      have places : i = 0 ∨ i = 2 := by
        have within := (List.getElem?_eq_some_iff.mp named).1
        change i < 3 at within
        have apart : i ≠ 1 := by
          rintro rfl
          exact absurd (Option.some.inj named) (by decide)
        omega
      rcases places with rfl | rfl
      · decide
      · decide
    · intro name mem
      obtain rfl := List.mem_singleton.mp mem
      rfl
  have writes : RunWith Cluster.Meets added last :=
    .head ⟨.startup 0, undisturbed, rfl⟩ <| .single ⟨.increments 0, trivial, rfl⟩
  have run : RunWith Cluster.Meets first last :=
    (((reads.trans joins).trans merges).trans adds).trans writes
  have settled : last.Settled := by
    refine ⟨List.mem_cons_self, ?_, rfl⟩
    decide
  exact ⟨last, run, rfl, totals_are_exact run settled x, totals_are_exact run settled y,
    totals_are_exact run settled z⟩

/-- A node that has started adds an event while another backfills, and counts it once the backfill
has: the total is two. And a legacy count merged first leaves the stream without a backfill. -/
theorem totals_are_wrong :
    let x : EventName := ⟨"x", by decide⟩
    let y : EventName := ⟨"y", by decide⟩
    let rolling : List Event := [.starts, .startup 0, .startup 0, .startup 0, .starts, .startup 1,
      .startup 1, .appends 0 x, .startup 1, .startup 1, .increments 0]
    let upgrade : List Event := [.starts, .startup 0, .startup 0]
    (∃ s, rolling.foldlM Cluster.exec (Cluster.start [] .empty) = some s ∧ s.Settled ∧
      s.keys.totalCountsByEvent x = 2 ∧
      s.keys.stream.count x + s.keys.legacyCounts.count x = 1) ∧
    ∃ s, upgrade.foldlM Cluster.exec (Cluster.start [x] (JsMap.empty.set y 3)) = some s ∧
      s.Settled ∧ s.keys.totalCountsByEvent x = 0 ∧
      s.keys.stream.count x + s.keys.legacyCounts.count x = 1 := by
  intro x y rolling upgrade
  refine ⟨⟨_, rfl, ⟨?_, ?_, rfl⟩, rfl, rfl⟩, _, rfl, ⟨?_, ?_, rfl⟩, rfl, rfl⟩
  · decide
  · decide
  · decide
  · decide

end BiliSyncPlay.EventTotals
