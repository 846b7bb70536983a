import BiliSyncPlay.Admin.EventStores
import Mathlib.Data.List.Pairwise
import Mathlib.Data.Nat.Cast.Order.Ring

/-!
# The event stores agree

Both stores answer the same calls, one at a time, with one clock. What they answer comes from what
was appended, except for the order of events of one time and for texts that UTF-8 does not carry.
-/

namespace BiliSyncPlay.EventStores

open Json

/-- Both stores, the clock, and the events appended since both were empty. -/
structure Stores where
  now : Rat
  memory : EventStore := {}
  redis : RedisEventStore := {}
  history : List RuntimeEvent := []

namespace Stores

def memoryCall (s : Stores) (dates : Dates) (capacity : Nat) (call : Call) : Answer × EventStore :=
  s.memory.call dates capacity s.now call

def redisCall (s : Stores) (dates : Dates) (capacity : Nat) (call : Call) :
    Answer × RedisEventStore :=
  s.redis.call dates capacity s.now call

def appended (s : Stores) (dates : Dates) : Call → List RuntimeEvent
  | .append input => [runtimeEvent dates s.now input]
  | _ => []

def exec (s : Stores) (dates : Dates) (capacity : Nat) (call : Call) : Stores :=
  { s with
    memory := (s.memoryCall dates capacity call).2
    redis := (s.redisCall dates capacity call).2
    history := s.history ++ s.appended dates call }

end Stores

/-! ## The calls, and the condition on them -/

def RuntimeEvent.fields (event : RuntimeEvent) : List (Option JsString) :=
  [some event.timestamp, some event.event, event.roomCode, event.sessionId, event.remoteAddress,
    event.origin, event.result]

structure Posed.Append (dates : Dates) (capacity : Nat) (s : Stores) (event : RuntimeEvent) :
    Prop where
  nonempty : some [] ∉ event.fields
  timed : ∃ t, eventTime dates event = some t ∧ t ≤ s.now ∧
    ∀ earlier ∈ s.history, ∀ u, eventTime dates earlier = some u → u ≤ t
  fits : s.history.length < capacity

/-- The calls that are made: appended times do not decrease and do not lie in the future, at most
`capacity` events are appended, and windows start no more than 24 hours before the present. -/
def Posed (dates : Dates) (capacity : Nat) (s : Stores) : Call → Prop
  | .append input => Posed.Append dates capacity s (runtimeEvent dates s.now input)
  | .countsByEventInWindow _ (some fromMs) _ => s.now - windowRetentionMs ≤ fromMs
  | _ => True

/-- No text that is sent has an unpaired surrogate, no name that is asked for is sent as the name of
another event, and a query finds no other event of a time that its page shows. -/
def Meets (dates : Dates) (s : Stores) : Call → Prop
  | .append input =>
    ∀ text, some text ∈ (runtimeEvent dates s.now input).fields → JsString.WellFormed text
  | .query query =>
    let found := s.history.filter (matchesQuery dates query)
    ∀ shown ∈ pageOf query found.reverse, ∀ other ∈ found,
      eventTime dates other = eventTime dates shown → other = shown
  | .totalCountsByEvent names =>
    ∀ name ∈ names, ∀ event ∈ s.history, event.event.utf8 = name.utf8 → event.event = name
  | .countsByEventInWindow names (some fromMs) (some toMs) =>
    fromMs ≤ toMs → ∀ name ∈ names, JsString.WellFormed name
  | _ => True

def StepWith (dates : Dates) (capacity : Nat) (meets : Stores → Call → Prop) (s t : Stores) : Prop :=
  (∃ ms : Nat, t = { s with now := s.now + ms }) ∨
    ∃ call, meets s call ∧ t = s.exec dates capacity call

def RunWith (dates : Dates) (capacity : Nat) (meets : Stores → Call → Prop) :
    Stores → Stores → Prop :=
  Relation.ReflTransGen (StepWith dates capacity meets)

/-- The indexed events of a name in a window. -/
def trueCount (dates : Dates) (history : List RuntimeEvent) (name : JsString) (fromMs toMs : Rat) :
    Nat :=
  history.countP fun event => isWindowIndexedEvent event.event && decide (event.event = name) &&
    (eventTime dates event).any fun t => decide (fromMs ≤ t ∧ t ≤ toMs)

/-! ## Entries of the stream -/

theorem normalize_encode {value : Option JsString} (nonempty : value ≠ some [])
    (well : ∀ text, value = some text → JsString.WellFormed text) :
    normalizeNullable (encodeNullable value) = value := by
  cases value with
  | none => rfl
  | some text =>
    have back : text.utf8.units = text := (well text rfl).units_utf8
    have filled : text.utf8 ≠ [] := by
      intro empty
      rw [empty] at back
      exact nonempty (congrArg some back.symm)
    rw [encodeNullable, Option.getD_some, normalizeNullable, if_neg filled, back]

theorem parse_encode {event : RuntimeEvent} (nonempty : some [] ∉ event.fields)
    (well : ∀ text, some text ∈ event.fields → JsString.WellFormed text) :
    parseEvent (encodeEvent event) = some event := by
  have round (value : Option JsString) (mem : value ∈ event.fields) :
      normalizeNullable (encodeNullable value) = value := by
    apply normalize_encode
    · rintro rfl
      exact nonempty mem
    · rintro text rfl
      exact well text mem
  have text_round (text : JsString) (mem : some text ∈ event.fields) :
      text.utf8 ≠ [] ∧ text.utf8.units = text := by
    have back : text.utf8.units = text := (well text mem).units_utf8
    refine ⟨fun empty => nonempty ?_, back⟩
    have text_empty : text = [] := by
      rw [← back, empty]
      rfl
    exact text_empty ▸ mem
  obtain ⟨timestamp_filled, timestamp_back⟩ := text_round event.timestamp
    (by simp [RuntimeEvent.fields])
  obtain ⟨event_filled, event_back⟩ := text_round event.event
    (by simp [RuntimeEvent.fields])
  have filled : ¬ ((encodeEvent event).event = [] ∨ (encodeEvent event).timestamp = []) := by
    simp [encodeEvent, timestamp_filled, event_filled]
  rw [parseEvent, if_neg filled]
  simp only [encodeEvent, timestamp_back, event_back, parse_stringify]
  rw [round event.roomCode (by simp [RuntimeEvent.fields]),
    round event.sessionId (by simp [RuntimeEvent.fields]),
    round event.remoteAddress (by simp [RuntimeEvent.fields]),
    round event.origin (by simp [RuntimeEvent.fields]),
    round event.result (by simp [RuntimeEvent.fields])]

theorem encodeURIComponent_inj {left right : JsString} {key : Text}
    (l : encodeURIComponent left = some key) (r : encodeURIComponent right = some key) :
    left = right := by
  have left_back := units_of_decode l
  have right_back := units_of_decode r
  rw [units_quote] at left_back right_back
  exact left_back.symm.trans right_back

/-! ## What a window index keeps -/

/-- An index holds every event that is not older than its retention, and none else that is not. -/
def Retains (now : Rat) (kept times : List Rat) : Prop :=
  (kept.filter fun t => decide (now - windowRetentionMs ≤ t)).Perm
    (times.filter fun t => decide (now - windowRetentionMs ≤ t))

section
variable {now : Rat} {kept times : List Rat}

theorem Retains.add (retains : Retains now kept times) {kept' : List Rat} {t : Rat}
    (added : kept'.Perm (t :: kept)) : Retains now kept' (times ++ [t]) := by
  unfold Retains
  have whole : (t :: kept).filter (fun t => decide (now - windowRetentionMs ≤ t)) =
      [t].filter (fun t => decide (now - windowRetentionMs ≤ t)) ++
        kept.filter fun t => decide (now - windowRetentionMs ≤ t) :=
    List.filter_append [t] kept
  apply (added.filter _).trans
  rw [whole, List.filter_append]
  exact (retains.append_left _).trans List.perm_append_comm

theorem Retains.skip (retains : Retains now kept times) {t : Rat}
    (old : t < now - windowRetentionMs) : Retains now kept (times ++ [t]) := by
  unfold Retains
  rw [List.filter_append, List.filter_cons_of_neg (by rw [decide_eq_true_eq]; exact old.not_ge),
    List.filter_nil, List.append_nil]
  exact retains

theorem Retains.prune (retains : Retains now kept times) {c : Rat}
    (old : c ≤ now - windowRetentionMs) :
    Retains now (kept.filter fun t => decide (c ≤ t)) times := by
  unfold Retains
  have same : (kept.filter fun t => decide (c ≤ t)).filter
      (fun t => decide (now - windowRetentionMs ≤ t)) =
      kept.filter fun t => decide (now - windowRetentionMs ≤ t) := by
    rw [List.filter_filter]
    apply List.filter_congr
    intro t _
    simpa using fun recent => old.trans recent
  rw [same]
  exact retains

theorem countP_recent {p : Rat → Bool} {c : Rat} (recent : ∀ t, p t = true → c ≤ t)
    (l : List Rat) : l.countP p = (l.filter fun t => decide (c ≤ t)).countP p := by
  rw [List.countP_filter]
  apply List.countP_congr
  intro t _
  simpa using recent t

theorem Retains.count (retains : Retains now kept times) {p : Rat → Bool}
    (recent : ∀ t, p t = true → now - windowRetentionMs ≤ t) : kept.countP p = times.countP p := by
  rw [countP_recent recent kept, countP_recent recent times]
  exact retains.countP_eq p

theorem Retains.passes (retains : Retains now kept times) {later : Rat} (le : now ≤ later) :
    Retains later kept times := by
  have again (l : List Rat) : l.filter (fun t => decide (later - windowRetentionMs ≤ t)) =
      (l.filter fun t => decide (now - windowRetentionMs ≤ t)).filter
        fun t => decide (later - windowRetentionMs ≤ t) := by
    rw [List.filter_filter]
    apply List.filter_congr
    intro t _
    have wider (recent : later - windowRetentionMs ≤ t) : now - windowRetentionMs ≤ t :=
      (sub_le_sub_right le _).trans recent
    simpa using wider
  unfold Retains
  rw [again kept, again times]
  exact retains.filter _

end

/-! ## Recording and pruning -/

section
variable {now : Rat}

/-- Every index of the store of a single node is sorted and reaches no later than the present. -/
structure EventStore.Sorted (s : EventStore) (now : Rat) : Prop where
  latest : ∀ t, s.latestWindowTimestampMs = some t → t ≤ now
  ascending : ∀ name, Ascending (s.windowEventTimes name)

theorem EventStore.Sorted.prune {s : EventStore} (sorted : s.Sorted now) {current : Rat}
    (le : current ≤ now) : (s.pruneWindowEventTimesIfNeeded current).Sorted now ∧
      ∀ name times, Retains now (occurrences (s.windowEventTimes name)) times →
        Retains now
          (occurrences ((s.pruneWindowEventTimesIfNeeded current).windowEventTimes name)) times := by
  unfold EventStore.pruneWindowEventTimesIfNeeded
  split
  · exact ⟨sorted, fun _ _ retains => retains⟩
  · constructor
    · exact ⟨sorted.latest, fun name => (sorted.ascending name).prune _⟩
    · intro name times retains
      rw [occurrences_prune (sorted.ascending name)]
      exact retains.prune (sub_le_sub_right le _)

/-- What a record adds to the index of a name. -/
def recorded (eventName : JsString) (time : Option Rat) (name : JsString) : List Rat :=
  if isWindowIndexedEvent eventName && decide (eventName = name) then time.toList else []

theorem recorded_self {eventName : JsString} {t : Rat}
    (indexed : isWindowIndexedEvent eventName = true) :
    recorded eventName (some t) eventName = [t] := by
  simp [recorded, indexed]

theorem recorded_ne {eventName name : JsString} (time : Option Rat) (apart : eventName ≠ name) :
    recorded eventName time name = [] := by
  simp [recorded, apart]

theorem recorded_unindexed {eventName : JsString} (time : Option Rat) (name : JsString)
    (indexed : ¬ isWindowIndexedEvent eventName = true) : recorded eventName time name = [] := by
  simp [recorded, indexed]

theorem EventStore.Sorted.record {s : EventStore} (sorted : s.Sorted now) (eventName : JsString)
    (time : Option Rat) : (s.recordWindowEventTime now eventName time).Sorted now ∧
      ∀ name times, Retains now (occurrences (s.windowEventTimes name)) times →
        Retains now
          (occurrences ((s.recordWindowEventTime now eventName time).windowEventTimes name))
          (times ++ recorded eventName time name) := by
  cases time with
  | none =>
    have nothing (name : JsString) : recorded eventName none name = [] := by simp [recorded]
    refine ⟨sorted, fun name times retains => ?_⟩
    rw [nothing, List.append_nil]
    exact retains
  | some t =>
    simp only [EventStore.recordWindowEventTime]
    split
    · next indexed =>
      have latest_le : s.latestWindowTimestampMs.elim (min t now) (max · (min t now)) ≤ now := by
        cases at_t : s.latestWindowTimestampMs with
        | none => exact min_le_right t now
        | some l => exact max_le (sorted.latest l at_t) (min_le_right t now)
      generalize s.latestWindowTimestampMs.elim (min t now) (max · (min t now)) = latest
        at latest_le ⊢
      split
      · next old =>
        refine ⟨⟨fun u at_u => Option.some.inj at_u ▸ latest_le, sorted.ascending⟩, ?_⟩
        intro name times retains
        by_cases same : eventName = name
        · rw [← same, recorded_self indexed]
          exact (same ▸ retains).skip (old.trans_le (sub_le_sub_right latest_le _))
        · rw [recorded_ne _ same, List.append_nil]
          exact retains
      · have added : EventStore.Sorted { s with
            latestWindowTimestampMs := some latest
            windowEventTimes := Function.update s.windowEventTimes eventName
              (addTimestamp (s.windowEventTimes eventName) t) } now := by
          refine ⟨fun u at_u => Option.some.inj at_u ▸ latest_le, fun name => ?_⟩
          by_cases same : name = eventName
          · subst same
            simpa using (sorted.ascending name).addTimestamp t
          · simpa [same] using sorted.ascending name
        obtain ⟨kept, pruned⟩ := added.prune latest_le
        refine ⟨kept, fun name times retains => pruned name _ ?_⟩
        by_cases same : eventName = name
        · subst same
          rw [recorded_self indexed]
          dsimp only
          rw [Function.update_self]
          exact retains.add (occurrences_addTimestamp _ t)
        · rw [recorded_ne _ same, List.append_nil]
          dsimp only
          rw [Function.update_of_ne (Ne.symm same)]
          exact retains
    · next unindexed =>
      refine ⟨sorted, fun name times retains => ?_⟩
      rw [recorded_unindexed _ _ unindexed, List.append_nil]
      exact retains

theorem EventStore.record_rest (s : EventStore) (eventName : JsString) (time : Option Rat) :
    (s.recordWindowEventTime now eventName time).events = s.events ∧
      (s.recordWindowEventTime now eventName time).cumulativeCounts = s.cumulativeCounts := by
  have prune_rest (s : EventStore) (current : Rat) :
      (s.pruneWindowEventTimesIfNeeded current).events = s.events ∧
        (s.pruneWindowEventTimesIfNeeded current).cumulativeCounts = s.cumulativeCounts := by
    unfold EventStore.pruneWindowEventTimesIfNeeded
    split <;> exact ⟨rfl, rfl⟩
  cases time with
  | none => exact ⟨rfl, rfl⟩
  | some t =>
    simp only [EventStore.recordWindowEventTime]
    split
    · split
      · exact ⟨rfl, rfl⟩
      · exact prune_rest _ _
    · exact ⟨rfl, rfl⟩

theorem RedisEventStore.prune_keeps (s : RedisEventStore) (eventName : JsString)
    (current : Option Rat) {key : Text} {times : List Rat}
    (retains : Retains now (s.windowIndexes key) times) :
    Retains now ((s.pruneEventWindowIndexIfNeeded now eventName current).windowIndexes key)
      times := by
  cases current with
  | none => exact retains
  | some t =>
    unfold RedisEventStore.pruneEventWindowIndexIfNeeded
    dsimp only
    split
    · exact retains
    · cases spelt : encodeURIComponent eventName with
      | none => exact retains
      | some pruned =>
        by_cases same : key = pruned
        · subst same
          simp only [Option.elim_some, RedisEventStore.zremrangebyscore, Function.update_self]
          exact retains.prune (sub_le_sub_right (min_le_right t now) _)
        · simpa [RedisEventStore.zremrangebyscore, same] using retains

theorem RedisEventStore.prune_rest (s : RedisEventStore) (eventName : JsString)
    (current : Option Rat) :
    (s.pruneEventWindowIndexIfNeeded now eventName current).stream = s.stream ∧
      (s.pruneEventWindowIndexIfNeeded now eventName current).counts = s.counts := by
  cases current with
  | none => exact ⟨rfl, rfl⟩
  | some t =>
    unfold RedisEventStore.pruneEventWindowIndexIfNeeded
    dsimp only
    split
    · exact ⟨rfl, rfl⟩
    · cases encodeURIComponent eventName <;> exact ⟨rfl, rfl⟩

end

/-! ## Appending -/

section
variable {dates : Dates} {capacity : Nat} {now : Rat} (event : RuntimeEvent)

theorem EventStore.append_events (s : EventStore) (fits : s.events.length < capacity) :
    (s.append dates capacity now event).events = s.events ++ [event] := by
  have kept := (@EventStore.record_rest now
    { s with
      events := s.events ++ [event]
      cumulativeCounts :=
        Function.update s.cumulativeCounts event.event (s.cumulativeCounts event.event + 1) }
    event.event (eventTime dates event)).1
  have short : ¬ capacity < (s.events ++ [event]).length := by
    rw [List.length_append, List.length_singleton]
    omega
  simp only [EventStore.append, kept, if_neg short]

theorem EventStore.append_counts (s : EventStore) (name : JsString) :
    (s.append dates capacity now event).cumulativeCounts name =
      s.cumulativeCounts name + if event.event = name then 1 else 0 := by
  simp only [EventStore.append, (EventStore.record_rest _ _ _).2]
  by_cases same : event.event = name
  · rw [same, Function.update_self, if_pos rfl]
  · rw [Function.update_of_ne (Ne.symm same), if_neg same, Nat.add_zero]

theorem EventStore.Sorted.append {s : EventStore} (sorted : s.Sorted now) :
    (s.append dates capacity now event).Sorted now ∧
      ∀ name times, Retains now (occurrences (s.windowEventTimes name)) times →
        Retains now (occurrences ((s.append dates capacity now event).windowEventTimes name))
          (times ++ recorded event.event (eventTime dates event) name) := by
  have counted : EventStore.Sorted { s with
      events := s.events ++ [event]
      cumulativeCounts :=
        Function.update s.cumulativeCounts event.event (s.cumulativeCounts event.event + 1) } now :=
    ⟨sorted.latest, sorted.ascending⟩
  obtain ⟨kept, retains⟩ := counted.record event.event (eventTime dates event)
  exact ⟨⟨kept.latest, kept.ascending⟩, retains⟩

theorem RedisEventStore.append_stream (s : RedisEventStore) (fits : s.stream.length < capacity) :
    (s.performAppendWrite dates capacity now event).stream = s.stream ++ [encodeEvent event] := by
  have short : (s.stream ++ [encodeEvent event]).length - capacity = 0 := by
    rw [List.length_append, List.length_singleton]
    omega
  simp only [RedisEventStore.performAppendWrite, short, List.drop_zero]
  split
  · rw [(RedisEventStore.prune_rest _ _ _).1]
    cases encodeURIComponent event.event <;> cases eventTime dates event <;> rfl
  · rfl

theorem RedisEventStore.append_counts (s : RedisEventStore) (field : Text) :
    (s.performAppendWrite dates capacity now event).counts field =
      s.counts field + if event.event.utf8 = field then 1 else 0 := by
  have counted : (s.performAppendWrite dates capacity now event).counts =
      Function.update s.counts event.event.utf8 (s.counts event.event.utf8 + 1) := by
    simp only [RedisEventStore.performAppendWrite]
    split
    · rw [(RedisEventStore.prune_rest _ _ _).2]
      cases encodeURIComponent event.event <;> cases eventTime dates event <;> rfl
    · rfl
  rw [counted]
  by_cases same : event.event.utf8 = field
  · rw [same, Function.update_self, if_pos rfl]
  · rw [Function.update_of_ne (Ne.symm same), if_neg same, Nat.add_zero]

theorem RedisEventStore.append_windows (s : RedisEventStore) {name : JsString} {key : Text}
    {times : List Rat} (spelt : encodeURIComponent name = some key)
    (retains : Retains now (s.windowIndexes key) times) :
    Retains now ((s.performAppendWrite dates capacity now event).windowIndexes key)
      (times ++ recorded event.event (eventTime dates event) name) := by
  simp only [RedisEventStore.performAppendWrite]
  split
  · next indexed =>
    apply RedisEventStore.prune_keeps
    cases at_t : eventTime dates event with
    | none =>
      have nothing : recorded event.event none name = [] := by simp [recorded]
      rw [nothing, List.append_nil]
      cases encodeURIComponent event.event <;> exact retains
    | some t =>
      by_cases same : event.event = name
      · rw [same, recorded_self (same ▸ indexed), spelt]
        simp only [Option.elim_some, RedisEventStore.zadd, Function.update_self]
        exact retains.add List.perm_append_comm
      · rw [recorded_ne _ same, List.append_nil]
        cases other : encodeURIComponent event.event with
        | none => exact retains
        | some added =>
          have apart : key ≠ added := by
            rintro rfl
            exact same (encodeURIComponent_inj other spelt)
          simp only [Option.elim_some, RedisEventStore.zadd]
          rw [Function.update_of_ne apart]
          exact retains
  · next unindexed =>
    rw [recorded_unindexed _ _ unindexed, List.append_nil]
    exact retains

end

/-! ## What holds between calls -/

/-- The times a window index of the name is to hold. -/
def indexedTimes (dates : Dates) (history : List RuntimeEvent) (name : JsString) : List Rat :=
  history.filterMap fun event =>
    if isWindowIndexedEvent event.event && decide (event.event = name) then eventTime dates event
    else none

structure Agree (dates : Dates) (s : Stores) : Prop where
  events : s.memory.events = s.history
  stream : s.redis.stream = s.history.map encodeEvent
  nonempty : ∀ event ∈ s.history, some [] ∉ event.fields
  wellFormed : ∀ event ∈ s.history, ∀ text, some text ∈ event.fields → JsString.WellFormed text
  timed : ∀ event ∈ s.history, (eventTime dates event).isSome
  inOrder : s.history.Pairwise fun earlier later =>
    ∀ t u, eventTime dates earlier = some t → eventTime dates later = some u → t ≤ u
  memoryCounts : ∀ name,
    s.memory.cumulativeCounts name = s.history.countP fun event => decide (event.event = name)
  redisCounts : ∀ field,
    s.redis.counts field = s.history.countP fun event => decide (event.event.utf8 = field)
  sorted : s.memory.Sorted s.now
  memoryWindows : ∀ name, Retains s.now (occurrences (s.memory.windowEventTimes name))
    (indexedTimes dates s.history name)
  redisWindows : ∀ name key, encodeURIComponent name = some key →
    Retains s.now (s.redis.windowIndexes key) (indexedTimes dates s.history name)

theorem agree_start (dates : Dates) (now : Rat) : Agree dates { now } where
  events := rfl
  stream := rfl
  nonempty := by simp
  wellFormed := by simp
  timed := by simp
  inOrder := List.Pairwise.nil
  memoryCounts := fun _ => rfl
  redisCounts := fun _ => rfl
  sorted := ⟨by simp, fun _ => List.Pairwise.nil⟩
  memoryWindows := fun _ => List.Perm.refl _
  redisWindows := fun _ _ _ => List.Perm.refl _

section
variable {dates : Dates} {capacity : Nat} {s : Stores}

theorem Agree.passes (agree : Agree dates s) (ms : Nat) :
    Agree dates { s with now := s.now + ms } := by
  have le : s.now ≤ s.now + (ms : Rat) := le_add_of_nonneg_right (Nat.cast_nonneg ms)
  exact { agree with
    sorted := ⟨fun t at_t => (agree.sorted.latest t at_t).trans le, agree.sorted.ascending⟩
    memoryWindows := fun name => (agree.memoryWindows name).passes le
    redisWindows := fun name key spelt => (agree.redisWindows name key spelt).passes le }

theorem indexedTimes_append (dates : Dates) (history : List RuntimeEvent) (event : RuntimeEvent)
    (name : JsString) : indexedTimes dates (history ++ [event]) name =
      indexedTimes dates history name ++ recorded event.event (eventTime dates event) name := by
  rw [indexedTimes, List.filterMap_append]
  congr 1
  rw [List.filterMap_cons, List.filterMap_nil, recorded]
  by_cases named : (isWindowIndexedEvent event.event && decide (event.event = name)) = true
  · rw [if_pos named, if_pos named]
    cases eventTime dates event <;> rfl
  · rw [if_neg named, if_neg named]

theorem Agree.append (agree : Agree dates s) {input : AppendInput}
    (posed : Posed dates capacity s (.append input)) (meets : Meets dates s (.append input)) :
    Agree dates (s.exec dates capacity (.append input)) := by
  obtain ⟨nonempty, ⟨t, at_t, t_le, in_order⟩, fits⟩ := posed
  dsimp only [Meets] at meets
  dsimp only [Stores.exec, Stores.appended, Stores.memoryCall, Stores.redisCall, EventStore.call,
    RedisEventStore.call]
  generalize runtimeEvent dates s.now input = event at *
  have memory_fits : s.memory.events.length < capacity := by
    rw [agree.events]
    exact fits
  have redis_fits : s.redis.stream.length < capacity := by
    rw [agree.stream, List.length_map]
    exact fits
  obtain ⟨sorted, memoryWindows⟩ :=
    @EventStore.Sorted.append dates capacity _ event _ agree.sorted
  exact {
    events := by
      dsimp only
      rw [EventStore.append_events event _ memory_fits, agree.events]
    stream := by
      dsimp only
      rw [RedisEventStore.append_stream event _ redis_fits, agree.stream, List.map_append]
      rfl
    nonempty := by
      intro e mem
      rcases List.mem_append.mp mem with old | new
      · exact agree.nonempty e old
      · exact List.mem_singleton.mp new ▸ nonempty
    wellFormed := by
      intro e mem
      rcases List.mem_append.mp mem with old | new
      · exact agree.wellFormed e old
      · exact List.mem_singleton.mp new ▸ meets
    timed := by
      intro e mem
      rcases List.mem_append.mp mem with old | new
      · exact agree.timed e old
      · rw [List.mem_singleton.mp new, at_t]
        rfl
    inOrder := by
      apply List.pairwise_append.mpr
      refine ⟨agree.inOrder, List.pairwise_singleton _ _, ?_⟩
      intro earlier mem later new u v at_u at_v
      rw [List.mem_singleton.mp new, at_t] at at_v
      exact Option.some.inj at_v ▸ in_order earlier mem u at_u
    memoryCounts := by
      intro name
      dsimp only
      rw [EventStore.append_counts, agree.memoryCounts, List.countP_append, List.countP_singleton]
      simp only [decide_eq_true_eq]
    redisCounts := by
      intro field
      dsimp only
      rw [RedisEventStore.append_counts, agree.redisCounts, List.countP_append,
        List.countP_singleton]
      simp only [decide_eq_true_eq]
    sorted := sorted
    memoryWindows := by
      intro name
      rw [indexedTimes_append]
      exact memoryWindows name _ (agree.memoryWindows name)
    redisWindows := by
      intro name key spelt
      rw [indexedTimes_append]
      exact RedisEventStore.append_windows event _ spelt (agree.redisWindows name key spelt) }

theorem pruneAsked_keeps (now toMs : Rat) (names : List JsString) (s : RedisEventStore) :
    (names.foldl (RedisEventStore.pruneAsked now toMs) s).stream = s.stream ∧
      (names.foldl (RedisEventStore.pruneAsked now toMs) s).counts = s.counts ∧
      ∀ key times, Retains now (s.windowIndexes key) times →
        Retains now ((names.foldl (RedisEventStore.pruneAsked now toMs) s).windowIndexes key)
          times := by
  induction names generalizing s with
  | nil => exact ⟨rfl, rfl, fun _ _ retains => retains⟩
  | cons name rest ih =>
    rw [List.foldl_cons]
    obtain ⟨stream, counts, windows⟩ := ih (s.pruneAsked now toMs name)
    by_cases indexed : isWindowIndexedEvent name = true
    · have pruned : s.pruneAsked now toMs name =
          s.pruneEventWindowIndexIfNeeded now name (some toMs) := if_pos indexed
      rw [pruned] at stream counts windows ⊢
      obtain ⟨same_stream, same_counts⟩ :=
        @RedisEventStore.prune_rest now s name (some toMs)
      refine ⟨stream.trans same_stream, counts.trans same_counts, fun key times retains => ?_⟩
      exact windows key times (RedisEventStore.prune_keeps s name (some toMs) retains)
    · have same : s.pruneAsked now toMs name = s := if_neg indexed
      rw [same] at stream counts windows ⊢
      exact ⟨stream, counts, windows⟩

theorem countsByEventInWindow_keeps (s : RedisEventStore) (now : Rat) (names : List JsString)
    (fromMs toMs : Option Rat) :
    (s.countsByEventInWindow now names fromMs toMs).2.stream = s.stream ∧
      (s.countsByEventInWindow now names fromMs toMs).2.counts = s.counts ∧
      ∀ key times, Retains now (s.windowIndexes key) times →
        Retains now ((s.countsByEventInWindow now names fromMs toMs).2.windowIndexes key) times := by
  match fromMs, toMs with
  | some f, some t =>
    simp only [RedisEventStore.countsByEventInWindow]
    split
    · exact ⟨rfl, rfl, fun _ _ retains => retains⟩
    · exact pruneAsked_keeps now t names s
  | none, _ | some _, none => exact ⟨rfl, rfl, fun _ _ retains => retains⟩

theorem Agree.reads (agree : Agree dates s) {call : Call}
    (posed : Posed dates capacity s call) (meets : Meets dates s call) :
    Agree dates (s.exec dates capacity call) := by
  cases call with
  | append input => exact agree.append posed meets
  | query query =>
    have kept : s.exec dates capacity (.query query) = s := by simp [Stores.exec, Stores.appended,
      Stores.memoryCall, Stores.redisCall, EventStore.call, RedisEventStore.call]
    rw [kept]
    exact agree
  | totalCountsByEvent names =>
    have kept : s.exec dates capacity (.totalCountsByEvent names) = s := by simp [Stores.exec,
      Stores.appended, Stores.memoryCall, Stores.redisCall, EventStore.call, RedisEventStore.call]
    rw [kept]
    exact agree
  | countsByEventInWindow names fromMs toMs =>
    obtain ⟨streams, counts, windows⟩ := countsByEventInWindow_keeps s.redis s.now names fromMs toMs
    have history : s.history ++ s.appended dates (.countsByEventInWindow names fromMs toMs) =
      s.history := List.append_nil _
    dsimp only [Stores.exec]
    rw [history]
    exact { agree with
      stream := streams.trans agree.stream
      redisCounts := fun field => (congrFun counts field).trans (agree.redisCounts field)
      redisWindows := fun name key spelt =>
        windows key _ (agree.redisWindows name key spelt) }

/-! ## Queries -/

/-- Two orders of the same items agree on a stretch where they have the same times, and no other
item has a time that is shown. -/
theorem stretch_congr {α β : Type} {time : α → β} {l₁ l₂ : List α} (perm : l₁.Perm l₂)
    (times : l₁.map time = l₂.map time) {start stop : Nat}
    (ties : ∀ shown ∈ (l₂.take stop).drop start, ∀ other ∈ l₂, time other = time shown →
      other = shown) : (l₁.take stop).drop start = (l₂.take stop).drop start := by
  apply List.ext_getElem?
  intro i
  have at_i : (l₁[start + i]?).map time = (l₂[start + i]?).map time := by
    rw [← List.getElem?_map, ← List.getElem?_map, times]
  rw [List.getElem?_drop, List.getElem?_drop]
  by_cases inside : start + i < stop
  · rw [List.getElem?_take_of_lt inside, List.getElem?_take_of_lt inside]
    cases shown : l₂[start + i]? with
    | none => simpa [shown] using at_i
    | some y =>
      rw [shown, Option.map_some, Option.map_eq_some_iff] at at_i
      obtain ⟨x, there, same⟩ := at_i
      have y_mem : y ∈ (l₂.take stop).drop start := by
        apply List.mem_of_getElem? (i := i)
        rw [List.getElem?_drop, List.getElem?_take_of_lt inside, shown]
      rw [there, ties y y_mem x (perm.mem_iff.mp (List.mem_of_getElem? there)) same]
  · rw [List.getElem?_take_eq_none (not_lt.mp inside), List.getElem?_take_eq_none (not_lt.mp inside)]

theorem slice_congr {α β : Type} {time : α → β} {l₁ l₂ : List α} (perm : l₁.Perm l₂)
    (times : l₁.map time = l₂.map time) {start stop : Int}
    (ties : ∀ shown ∈ slice l₂ start stop, ∀ other ∈ l₂, time other = time shown →
      other = shown) : slice l₁ start stop = slice l₂ start stop := by
  unfold slice at ties ⊢
  rw [perm.length_eq]
  exact stretch_congr perm times ties

/-- Events in the order of their times, sorted by the latest first, have the times of the reversed
list. -/
theorem sorted_times {l : List RuntimeEvent}
    (timed : ∀ event ∈ l, (eventTime dates event).isSome)
    (inOrder : l.Pairwise fun earlier later =>
      ∀ t u, eventTime dates earlier = some t → eventTime dates later = some u → t ≤ u) :
    (l.insertionSort fun left right => latestFirst dates left right = true).map (eventTime dates) =
      l.reverse.map (eventTime dates) := by
  let time (event : RuntimeEvent) : Rat := (eventTime dates event).getD 0
  have at_time {event : RuntimeEvent} (mem : event ∈ l) :
      eventTime dates event = some (time event) := by
    obtain ⟨t, at_t⟩ := Option.isSome_iff_exists.mp (timed event mem)
    simp [time, at_t]
  have same_order : ∀ left ∈ l, ∀ right ∈ l,
      latestFirst dates left right = true ↔ time right ≤ time left := by
    intro left left_mem right right_mem
    simp [latestFirst, at_time left_mem, at_time right_mem]
  have by_time : l.insertionSort (fun left right => latestFirst dates left right = true) =
      l.insertionSort fun left right => time right ≤ time left := by
    have mapped := List.map_insertionSort (fun left right => latestFirst dates left right = true)
      (fun left right => time right ≤ time left) id l same_order
    simpa only [List.map_id] using mapped
  have : Std.Total fun left right => time right ≤ time left :=
    ⟨fun left right => le_total (time right) (time left)⟩
  have : IsTrans RuntimeEvent fun left right => time right ≤ time left :=
    ⟨fun _ _ _ first second => second.trans first⟩
  have sorted := List.perm_insertionSort (fun left right => time right ≤ time left) l
  have permuted := (sorted.trans (List.reverse_perm l).symm).map time
  have times : (l.insertionSort fun left right => time right ≤ time left).map time =
      l.reverse.map time := by
    apply permuted.eq_of_pairwise (fun _ _ _ _ le ge => le_antisymm ge le)
    · exact List.pairwise_map.mpr (List.pairwise_insertionSort _ l)
    · rw [List.pairwise_map, List.pairwise_reverse]
      exact inOrder.imp_of_mem fun left_mem right_mem le =>
        le _ _ (at_time left_mem) (at_time right_mem)
  have known : ∀ {l' : List RuntimeEvent}, (∀ event ∈ l', event ∈ l) →
      l'.map (eventTime dates) = (l'.map time).map some := by
    intro l' within
    rw [List.map_map]
    exact List.map_congr_left fun event mem => at_time (within event mem)
  rw [by_time, known fun event mem => sorted.mem_iff.mp mem,
    known fun event mem => List.mem_reverse.mp mem, times]

theorem Agree.query (agree : Agree dates s) {query : EventQuery}
    (meets : Meets dates s (.query query)) :
    (s.memoryCall dates capacity (.query query)).1 =
      (s.redisCall dates capacity (.query query)).1 := by
  have parsed : s.history.reverse.filterMap (fun event => parseEvent (encodeEvent event)) =
      s.history.reverse := by
    have all_some : ∀ event ∈ s.history.reverse, parseEvent (encodeEvent event) = some event := by
      intro event mem
      have old := List.mem_reverse.mp mem
      exact parse_encode (agree.nonempty event old) (agree.wellFormed event old)
    rw [List.filterMap_congr all_some, List.filterMap_some]
  have perm : ((s.history.filter (matchesQuery dates query)).insertionSort
      fun left right => latestFirst dates left right = true).Perm
        (s.history.filter (matchesQuery dates query)).reverse :=
    (List.perm_insertionSort _ _).trans (List.reverse_perm _).symm
  have times := @sorted_times dates _
    (fun event mem => agree.timed event (List.mem_filter.mp mem).1)
    (agree.inOrder.sublist (List.filter_sublist (p := matchesQuery dates query)))
  have page := slice_congr perm times fun shown mem other there =>
    meets shown mem other (List.mem_reverse.mp there)
  simp only [Stores.memoryCall, Stores.redisCall, EventStore.call, RedisEventStore.call,
    EventStore.query, RedisEventStore.queryEvents, agree.events, agree.stream]
  rw [← List.map_reverse, List.filterMap_map, Function.comp_def, parsed, List.filter_reverse,
    perm.length_eq, pageOf, page]
  rfl

/-! ## Counts -/

theorem Agree.totals (agree : Agree dates s) {names : List JsString}
    (meets : Meets dates s (.totalCountsByEvent names)) :
    (s.memoryCall dates capacity (.totalCountsByEvent names)).1 =
      (s.redisCall dates capacity (.totalCountsByEvent names)).1 := by
  simp only [Stores.memoryCall, Stores.redisCall, EventStore.call, RedisEventStore.call,
    agree.memoryCounts, agree.redisCounts]
  congr 1
  apply List.map_congr_left
  intro name mem
  congr 1
  apply List.countP_congr
  intro event old
  simp only [decide_eq_true_eq]
  exact ⟨fun same => congrArg _ same, meets name mem event old⟩

theorem countP_indexedTimes (history : List RuntimeEvent) (name : JsString) (fromMs toMs : Rat) :
    (indexedTimes dates history name).countP (fun t => decide (fromMs ≤ t ∧ t ≤ toMs)) =
      trueCount dates history name fromMs toMs := by
  unfold indexedTimes trueCount
  rw [List.countP_filterMap]
  apply List.countP_congr
  intro event _
  by_cases named : (isWindowIndexedEvent event.event && decide (event.event = name)) = true
  · rw [if_pos named, named, Bool.true_and]
    cases eventTime dates event <;> rfl
  · rw [if_neg named, Bool.not_eq_true _ |>.mp named, Bool.false_and]
    rfl

theorem trueCount_of_gt {fromMs toMs : Rat} (reversed : toMs < fromMs)
    (history : List RuntimeEvent) (name : JsString) :
    trueCount dates history name fromMs toMs = 0 := by
  unfold trueCount
  rw [List.countP_eq_zero]
  intro event _ counted
  have inside := (Bool.and_eq_true_iff.mp counted).2
  obtain ⟨t, _, within⟩ := (Option.any_eq_true ..).mp inside
  have window := of_decide_eq_true within
  exact absurd (window.1.trans window.2) reversed.not_ge

theorem Agree.memory_windows (agree : Agree dates s) {names : List JsString} {fromMs toMs : Rat}
    (recent : s.now - windowRetentionMs ≤ fromMs) :
    (s.memoryCall dates capacity (.countsByEventInWindow names (some fromMs) (some toMs))).1 =
      .counts (names.map fun name => (name, trueCount dates s.history name fromMs toMs)) := by
  simp only [Stores.memoryCall, EventStore.call, EventStore.countsByEventInWindow]
  by_cases reversed : toMs < fromMs
  · simp only [if_pos reversed, trueCount_of_gt reversed]
  · rw [if_neg reversed]
    congr 1
    apply List.map_congr_left
    intro name _
    rw [countTimestampEntriesInWindow_eq (agree.sorted.ascending name),
      (agree.memoryWindows name).count, countP_indexedTimes]
    intro t inside
    exact recent.trans (of_decide_eq_true inside).1

theorem mapM_eq_some {α β : Type} {f : α → Option β} {g : α → β} {l : List α}
    (each : ∀ x ∈ l, f x = some (g x)) : l.mapM f = some (l.map g) := by
  induction l with
  | nil => rfl
  | cons x rest ih =>
    rw [List.mapM_cons, each x List.mem_cons_self, ih fun y mem => each y (List.mem_cons_of_mem x mem)]
    rfl

theorem Agree.redis_windows (agree : Agree dates s) {names : List JsString} {fromMs toMs : Rat}
    (recent : s.now - windowRetentionMs ≤ fromMs)
    (meets : Meets dates s (.countsByEventInWindow names (some fromMs) (some toMs))) :
    (s.redisCall dates capacity (.countsByEventInWindow names (some fromMs) (some toMs))).1 =
      .counts (names.map fun name => (name, trueCount dates s.history name fromMs toMs)) := by
  simp only [Stores.redisCall, RedisEventStore.call, RedisEventStore.countsByEventInWindow]
  by_cases reversed : toMs < fromMs
  · simp only [if_pos reversed, trueCount_of_gt reversed]
  · rw [if_neg reversed]
    have counted : ∀ name ∈ names,
        (names.foldl (RedisEventStore.pruneAsked s.now toMs) s.redis).zcount fromMs toMs name =
          some (name, trueCount dates s.history name fromMs toMs) := by
      intro name mem
      obtain ⟨key, spelt⟩ := Option.isSome_iff_exists.mp
        ((isSome_decode_quote name).mpr (meets (not_lt.mp reversed) name mem))
      have kept := (pruneAsked_keeps s.now toMs names s.redis).2.2 key _
        (agree.redisWindows name key spelt)
      rw [RedisEventStore.zcount, encodeURIComponent, spelt, Option.map_some, kept.count,
        countP_indexedTimes]
      intro t inside
      exact recent.trans (of_decide_eq_true inside).1
    rw [mapM_eq_some counted]
    rfl

theorem Agree.answers (agree : Agree dates s) {call : Call}
    (posed : Posed dates capacity s call) (meets : Meets dates s call) :
    (s.memoryCall dates capacity call).1 = (s.redisCall dates capacity call).1 := by
  match call with
  | .append input => rfl
  | .query query => exact agree.query meets
  | .totalCountsByEvent names => exact agree.totals meets
  | .countsByEventInWindow names none toMs => rfl
  | .countsByEventInWindow names (some fromMs) none => rfl
  | .countsByEventInWindow names (some fromMs) (some toMs) =>
    rw [agree.memory_windows posed, agree.redis_windows posed meets]

end

/-! ## Runs -/

section
variable {dates : Dates} {capacity : Nat} {now : Rat} {s : Stores}

theorem agree_of_run (run : RunWith dates capacity
    (fun s call => Posed dates capacity s call ∧ Meets dates s call) { now } s) : Agree dates s := by
  induction run with
  | refl => exact agree_start dates now
  | tail _ step agree =>
    rcases step with ⟨ms, rfl⟩ | ⟨call, ⟨posed, meets⟩, rfl⟩
    · exact agree.passes ms
    · exact agree.reads posed meets

theorem event_stores_agree (dates : Dates) (capacity : Nat)
    (run : RunWith dates capacity
      (fun s call => Posed dates capacity s call ∧ Meets dates s call) { now } s)
    {call : Call} (posed : Posed dates capacity s call) (meets : Meets dates s call) :
    (s.memoryCall dates capacity call).1 = (s.redisCall dates capacity call).1 ∧
      ∀ names fromMs toMs, call = .countsByEventInWindow names (some fromMs) (some toMs) →
        (s.memoryCall dates capacity call).1 =
          .counts (names.map fun name => (name, trueCount dates s.history name fromMs toMs)) := by
  have agree := agree_of_run run
  refine ⟨agree.answers posed meets, ?_⟩
  rintro names fromMs toMs rfl
  exact agree.memory_windows posed

end

/-! ## Two events of one millisecond -/

def newYear : Rat := 1767225600000

def newYearText : JsString := (ascii "2026-01-01T00:00:00.000Z").units

def newYearDates : Dates where
  parse text := if text = newYearText then some newYear else none
  toISOString _ := newYearText

def leaves (roomCode : String) : AppendInput where
  event := (ascii "room_left").units
  timestamp := none
  data := .cons (ascii "roomCode").units (.str (ascii roomCode).units) .nil

theorem posed_leaves {s : Stores} (roomCode : String) (present : s.now = newYear)
    (fits : s.history.length < 1000)
    (nonempty : some [] ∉ (runtimeEvent newYearDates newYear (leaves roomCode)).fields) :
    Posed newYearDates 1000 s (.append (leaves roomCode)) := by
  refine ⟨by rw [present]; exact nonempty, ⟨newYear, rfl, present.ge, ?_⟩, fits⟩
  intro earlier _ u at_u
  simp only [eventTime, newYearDates, Option.ite_none_right_eq_some, Option.some.injEq] at at_u
  exact at_u.2.ge

def afterOne : Stores :=
  Stores.exec { now := newYear } newYearDates 1000 (.append (leaves "ABC234"))

theorem posed_append {s : Stores} {input : AppendInput} {dates : Dates} {t : Rat}
    (nonempty : some [] ∉ (runtimeEvent dates s.now input).fields)
    (at_t : eventTime dates (runtimeEvent dates s.now input) = some t) (present : t ≤ s.now)
    (inOrder : (s.history.all fun earlier =>
      (eventTime dates earlier).all fun u => decide (u ≤ t)) = true)
    (fits : s.history.length < 1000) : Posed dates 1000 s (.append input) := by
  refine ⟨nonempty, ⟨t, at_t, present, ?_⟩, fits⟩
  intro earlier mem u at_u
  have before := List.all_eq_true.mp inOrder earlier mem
  rw [at_u] at before
  exact of_decide_eq_true before

def laterText : JsString := (ascii "2026-01-01T00:00:00.001Z").units

def twoDates : Dates where
  parse text :=
    if text = newYearText then some newYear
    else if text = laterText then some (newYear + 1) else none
  toISOString t := if t = newYear then newYearText else laterText

def joins (roomCode : String) : AppendInput where
  event := (ascii "room_joined").units
  timestamp := none
  data := .cons (ascii "roomCode").units (.str (ascii roomCode).units) .nil

/-- Two rooms are joined in one millisecond, one of them again in the next. -/
def joinedOnce : Stores :=
  Stores.exec { now := newYear } twoDates 1000 (.append (joins "ABC234"))

def joinedTwice : Stores := joinedOnce.exec twoDates 1000 (.append (joins "XYZ789"))

def nextMillisecond : Stores := { joinedTwice with now := joinedTwice.now + (1 : Nat) }

def joinedAgain : Stores := nextMillisecond.exec twoDates 1000 (.append (joins "ABC234"))

theorem meets_joins {s : Stores} {roomCode : String} {t : JsString}
    (fields : (runtimeEvent twoDates s.now (joins roomCode)).fields =
      [some t, some (ascii "room_joined").units, some (ascii roomCode).units,
        none, none, none, none]) (spelt : JsString.WellFormed t) :
    Meets twoDates s (.append (joins roomCode)) := by
  intro text mem
  rw [fields] at mem
  simp only [List.mem_cons, Option.some.injEq, reduceCtorEq, List.not_mem_nil, or_false] at mem
  rcases mem with rfl | rfl | rfl
  · exact spelt
  · exact ⟨_, rfl⟩
  · exact ⟨_, rfl⟩

theorem meets_query {s : Stores} {query : EventQuery}
    (alone : ((pageOf query (s.history.filter (matchesQuery twoDates query)).reverse).all fun shown =>
      (s.history.filter (matchesQuery twoDates query)).all fun other =>
        decide (eventTime twoDates other = eventTime twoDates shown → other = shown)) = true) :
    Meets twoDates s (.query query) := by
  intro shown mem other there
  exact of_decide_eq_true (List.all_eq_true.mp (List.all_eq_true.mp alone shown mem) other there)

/-- The first page of all events, the second page of a room's, and the joins of a window that
begins with the first two. -/
theorem event_stores_agree_once :
    let newest : Call := .query { includeSystem := true, page := 1, pageSize := 1 }
    let older : Call := .query
      { roomCode := some (ascii "ABC234").units, includeSystem := true, page := 2, pageSize := 1 }
    let joined : Call :=
      .countsByEventInWindow [(ascii "room_joined").units] (some newYear) (some (newYear + 1))
    (joinedAgain.memoryCall twoDates 1000 newest).1 = (joinedAgain.redisCall twoDates 1000 newest).1 ∧
      (joinedAgain.memoryCall twoDates 1000 older).1 =
        (joinedAgain.redisCall twoDates 1000 older).1 ∧
      (joinedAgain.redisCall twoDates 1000 joined).1 =
        .counts [((ascii "room_joined").units, 3)] := by
  have first : StepWith twoDates 1000
      (fun s call => Posed twoDates 1000 s call ∧ Meets twoDates s call)
      { now := newYear } joinedOnce :=
    .inr ⟨_, ⟨posed_append (by decide +kernel) (by decide +kernel) (le_refl newYear) rfl
      (by decide), meets_joins (t := newYearText) (by decide +kernel) ⟨_, rfl⟩⟩, rfl⟩
  have second : StepWith twoDates 1000
      (fun s call => Posed twoDates 1000 s call ∧ Meets twoDates s call) joinedOnce joinedTwice :=
    .inr ⟨_, ⟨posed_append (by decide +kernel) (by decide +kernel) (le_refl newYear)
      (by decide +kernel) (by decide +kernel), meets_joins (t := newYearText) (by decide +kernel) ⟨_, rfl⟩⟩, rfl⟩
  have third : StepWith twoDates 1000
      (fun s call => Posed twoDates 1000 s call ∧ Meets twoDates s call)
      nextMillisecond joinedAgain :=
    .inr ⟨_, ⟨posed_append (t := newYear + 1) (by decide +kernel) (by decide +kernel) (by decide +kernel)
      (by decide +kernel) (by decide +kernel), meets_joins (t := laterText) (by decide +kernel) ⟨_, rfl⟩⟩, rfl⟩
  have run := (((Relation.ReflTransGen.single first).tail second).tail
    (.inl ⟨1, rfl⟩)).tail third
  have window : Posed twoDates 1000 joinedAgain (.countsByEventInWindow
      [(ascii "room_joined").units] (some newYear) (some (newYear + 1))) := by
    change joinedAgain.now - windowRetentionMs ≤ newYear
    decide +kernel
  refine ⟨(@event_stores_agree newYear joinedAgain twoDates 1000 run (.query _) trivial
    (meets_query (by decide +kernel))).1, (@event_stores_agree newYear joinedAgain twoDates 1000 run
      (.query _) trivial (meets_query (by decide +kernel))).1, ?_⟩
  obtain ⟨same, counted⟩ := event_stores_agree twoDates 1000 run window fun _ name mem => by
    obtain rfl := List.mem_singleton.mp mem
    exact ⟨_, rfl⟩
  have indexed : isWindowIndexedEvent (ascii "room_joined").units = true := by decide +kernel
  have named : ∀ event ∈ joinedAgain.history, event.event = (ascii "room_joined").units := by
    change ∀ event ∈ [runtimeEvent twoDates newYear (joins "ABC234"),
      runtimeEvent twoDates newYear (joins "XYZ789"),
      runtimeEvent twoDates (newYear + (1 : Nat)) (joins "ABC234")], _
    simp [runtimeEvent, joins]
  have three : trueCount twoDates joinedAgain.history (ascii "room_joined").units newYear
      (newYear + 1) = 3 := by
    have all : trueCount twoDates joinedAgain.history (ascii "room_joined").units newYear
        (newYear + 1) = joinedAgain.history.countP fun event =>
          (eventTime twoDates event).any fun t => decide (newYear ≤ t ∧ t ≤ newYear + 1) := by
      apply List.countP_congr
      intro event mem
      simp [named event mem, indexed]
    rw [all]
    decide +kernel
  rw [← same, counted _ _ _ rfl, List.map_singleton, three]

def afterTwo : Stores := afterOne.exec newYearDates 1000 (.append (leaves "XYZ789"))

theorem event_stores_differ : RunWith newYearDates 1000 (Posed newYearDates 1000) { now := newYear }
      afterTwo ∧ Posed newYearDates 1000 afterTwo (.query { page := 1, pageSize := 20 }) ∧
    (afterTwo.memoryCall newYearDates 1000 (.query { page := 1, pageSize := 20 })).1 ≠
      (afterTwo.redisCall newYearDates 1000 (.query { page := 1, pageSize := 20 })).1 := by
  refine ⟨?_, trivial, by decide +kernel⟩
  have first : StepWith newYearDates 1000 (Posed newYearDates 1000) { now := newYear } afterOne :=
    .inr ⟨_, posed_leaves "ABC234" rfl (by decide) (by decide +kernel), rfl⟩
  have second : StepWith newYearDates 1000 (Posed newYearDates 1000) afterOne afterTwo :=
    .inr ⟨_, posed_leaves "XYZ789" rfl (by decide) (by decide +kernel), rfl⟩
  exact (Relation.ReflTransGen.single first).tail second

end BiliSyncPlay.EventStores
