import BiliSyncPlay.Admin.EventWindows
import BiliSyncPlay.Json.Documents
import Mathlib.Data.List.Sort
import Mathlib.Logic.Function.Basic
import Mathlib.Logic.Relation

/-!
# Event stores

The event store of a single node and the one a cluster keeps in Redis, and the calls both answer.
Event ids are left out.
-/

namespace BiliSyncPlay.EventStores

open Json

abbrev Data := Fields JsString

/-- The `Date` of JavaScript. A text that spells no date has no time. -/
structure Dates where
  parse : JsString → Option Rat
  toISOString : Rat → JsString

def windowRetentionMs : Rat := 24 * 60 * 60000

def minute (timestampMs : Rat) : Int := (timestampMs / 60000).floor

def windowIndexedEvents : List JsString :=
  ["room_created", "room_joined", "rate_limited", "ws_connection_rejected"].map fun name =>
    (ascii name).units

def isWindowIndexedEvent (eventName : JsString) : Bool := decide (eventName ∈ windowIndexedEvents)

def hiddenSystemEvents : List JsString :=
  ["admin_audit_appends_abandoned_at_shutdown", "admin_audit_log_append_failed",
    "admin_action_service_close_unfinished", "admin_command_bus_close_unfinished",
    "admin_command_bus_command_failed", "admin_command_bus_connection_reset",
    "admin_command_consumer_close_unfinished", "admin_command_result_publish_failed",
    "admin_session_store_close_unfinished", "admin_session_store_command_failed",
    "announcement_poll_failed", "announcement_poll_stop_unsettled", "announcement_polled",
    "node_heartbeat_abandoned_at_shutdown", "node_heartbeat_failed", "node_heartbeat_sent",
    "node_heartbeat_skipped", "redis_runtime_store_operation_failed",
    "room_event_bus_close_unfinished", "room_event_bus_invalid_message", "room_event_consumed",
    "room_event_handler_failed", "room_event_bus_error", "room_event_publish_failed",
    "room_event_published", "room_index_reconcile_abandoned_at_shutdown",
    "room_reaper_sweep_abandoned_at_shutdown", "room_service_close_unfinished",
    "room_store_close_unfinished", "runtime_index_reaper_failed", "runtime_index_sessions_reaped",
    "runtime_store_close_unfinished", "server_shutdown_step_failed"].map fun name =>
    (ascii name).units

def shouldIncludeRuntimeEvent (eventName : JsString) (includeSystem : Bool) : Bool :=
  includeSystem || !decide (eventName ∈ hiddenSystemEvents)

/-! ## Events -/

structure AppendInput where
  event : JsString
  timestamp : Option JsString
  data : Data

structure RuntimeEvent where
  timestamp : JsString
  event : JsString
  roomCode : Option JsString
  sessionId : Option JsString
  remoteAddress : Option JsString
  origin : Option JsString
  result : Option JsString
  details : Doc JsString
  deriving DecidableEq

def stringField (data : Data) (name : String) : Option JsString :=
  match data.get? (ascii name).units with
  | some (.str s) => some s
  | _ => none

def runtimeEvent (dates : Dates) (now : Rat) (input : AppendInput) : RuntimeEvent where
  timestamp := input.timestamp.getD (dates.toISOString now)
  event := input.event
  roomCode := stringField input.data "roomCode"
  sessionId := stringField input.data "sessionId"
  remoteAddress := stringField input.data "remoteAddress"
  origin := stringField input.data "origin"
  result := stringField input.data "result"
  details := .obj input.data

def eventTime (dates : Dates) (event : RuntimeEvent) : Option Rat := dates.parse event.timestamp

structure EventQuery where
  event : Option JsString := none
  roomCode : Option JsString := none
  sessionId : Option JsString := none
  remoteAddress : Option JsString := none
  origin : Option JsString := none
  result : Option JsString := none
  includeSystem : Bool := false
  fromMs : Option Rat := none
  toMs : Option Rat := none
  page : Int
  pageSize : Int

/-- An empty text asks for nothing. -/
def asksFor (wanted : Option JsString) (value : Option JsString) : Bool :=
  match wanted with
  | none | some [] => true
  | some wanted => decide (value = some wanted)

/-- The filter of both stores. -/
def matchesQuery (dates : Dates) (query : EventQuery) (event : RuntimeEvent) : Bool :=
  let timestamp := eventTime dates event
  shouldIncludeRuntimeEvent event.event query.includeSystem &&
    asksFor query.event (some event.event) &&
    asksFor query.roomCode event.roomCode &&
    asksFor query.sessionId event.sessionId &&
    asksFor query.remoteAddress event.remoteAddress &&
    asksFor query.origin event.origin &&
    asksFor query.result event.result &&
    !(query.fromMs.any fun fromMs => timestamp.any fun t => decide (t < fromMs)) &&
    !(query.toMs.any fun toMs => timestamp.any fun t => decide (toMs < t))

/-- `Array.prototype.slice`, which counts from the end where an index is negative. -/
def slice {α : Type} (items : List α) (start stop : Int) : List α :=
  let place (i : Int) : Nat := if i < 0 then (items.length + i).toNat else i.toNat
  (items.take (place stop)).drop (place start)

def pageOf (query : EventQuery) (events : List RuntimeEvent) : List RuntimeEvent :=
  let start := (query.page - 1) * query.pageSize
  slice events start (start + query.pageSize)

inductive Call where
  | append (input : AppendInput)
  | query (query : EventQuery)
  | totalCountsByEvent (eventNames : List JsString)
  /-- A bound that is not a finite number is `none`. -/
  | countsByEventInWindow (eventNames : List JsString) (fromMs toMs : Option Rat)

inductive Answer where
  | appended (event : RuntimeEvent)
  | found (items : List RuntimeEvent) (total : Nat)
  | counts (byName : List (JsString × Nat))
  | rejected
  deriving DecidableEq

/-! ## The store of a single node -/

/-- The order `query` sorts by, where times that are equal, or are no times, stay in place. -/
def latestFirst (dates : Dates) (left right : RuntimeEvent) : Bool :=
  match eventTime dates left, eventTime dates right with
  | some l, some r => decide (r ≤ l)
  | _, _ => true

/-- A name without a key in one of the maps has its count 0 or its list empty. -/
structure EventStore where
  events : List RuntimeEvent := []
  cumulativeCounts : JsString → Nat := fun _ => 0
  windowEventTimes : JsString → List TimestampCount := fun _ => []
  latestWindowTimestampMs : Option Rat := none
  lastPrunedMinute : Option Int := none

namespace EventStore

def pruneWindowEventTimesIfNeeded (s : EventStore) (currentTimestampMs : Rat) : EventStore :=
  if s.lastPrunedMinute = some (minute currentTimestampMs) then s
  else
    { s with
      lastPrunedMinute := some (minute currentTimestampMs)
      windowEventTimes := fun name =>
        pruneTimestampEntries (s.windowEventTimes name) (currentTimestampMs - windowRetentionMs) }

def recordWindowEventTime (s : EventStore) (now : Rat) (eventName : JsString) :
    Option Rat → EventStore
  | none => s
  | some timestampMs =>
    if isWindowIndexedEvent eventName then
      let retentionReferenceMs := min timestampMs now
      let latest := s.latestWindowTimestampMs.elim retentionReferenceMs (max · retentionReferenceMs)
      let s := { s with latestWindowTimestampMs := some latest }
      if timestampMs < latest - windowRetentionMs then s
      else
        let entries := addTimestamp (s.windowEventTimes eventName) timestampMs
        let windowEventTimes := Function.update s.windowEventTimes eventName entries
        { s with windowEventTimes }.pruneWindowEventTimesIfNeeded latest
    else s

def append (s : EventStore) (dates : Dates) (capacity : Nat) (now : Rat) (event : RuntimeEvent) :
    EventStore :=
  let events := s.events ++ [event]
  let cumulativeCounts :=
    Function.update s.cumulativeCounts event.event (s.cumulativeCounts event.event + 1)
  let s := { s with events, cumulativeCounts }.recordWindowEventTime now event.event
    (eventTime dates event)
  { s with events := if capacity < s.events.length then s.events.tail else s.events }

def query (s : EventStore) (dates : Dates) (query : EventQuery) : Answer :=
  let filtered := (s.events.filter (matchesQuery dates query)).insertionSort
    fun left right => latestFirst dates left right = true
  .found (pageOf query filtered) filtered.length

def countsByEventInWindow (s : EventStore) (eventNames : List JsString) :
    Option Rat → Option Rat → List (JsString × Nat)
  | some fromMs, some toMs =>
    if toMs < fromMs then eventNames.map fun name => (name, 0)
    else eventNames.map fun name =>
      (name, countTimestampEntriesInWindow (s.windowEventTimes name) fromMs toMs)
  | _, _ => eventNames.map fun name => (name, 0)

def call (s : EventStore) (dates : Dates) (capacity : Nat) (now : Rat) : Call → Answer × EventStore
  | .append input =>
    let event := runtimeEvent dates now input
    (.appended event, s.append dates capacity now event)
  | .query query => (s.query dates query, s)
  | .totalCountsByEvent names => (.counts (names.map fun name => (name, s.cumulativeCounts name)), s)
  | .countsByEventInWindow names fromMs toMs =>
    (.counts (s.countsByEventInWindow names fromMs toMs), s)

end EventStore

/-! ## The store in Redis -/

/-- The fields of an entry, as UTF-8 carries them. -/
structure StreamEntry where
  timestamp : Text
  event : Text
  roomCode : Text
  sessionId : Text
  remoteAddress : Text
  origin : Text
  result : Text
  details : Source

def encodeNullable (value : Option JsString) : Text := (value.getD []).utf8

def normalizeNullable (value : Text) : Option JsString := if value = [] then none else some value.units

/-- The text of a JSON document is never empty, and it is well formed. -/
def encodeEvent (event : RuntimeEvent) : StreamEntry where
  timestamp := event.timestamp.utf8
  event := event.event.utf8
  roomCode := encodeNullable event.roomCode
  sessionId := encodeNullable event.sessionId
  remoteAddress := encodeNullable event.remoteAddress
  origin := encodeNullable event.origin
  result := encodeNullable event.result
  details := stringify event.details

def parseEvent (entry : StreamEntry) : Option RuntimeEvent :=
  if entry.event = [] ∨ entry.timestamp = [] then none
  else some {
    timestamp := entry.timestamp.units
    event := entry.event.units
    roomCode := normalizeNullable entry.roomCode
    sessionId := normalizeNullable entry.sessionId
    remoteAddress := normalizeNullable entry.remoteAddress
    origin := normalizeNullable entry.origin
    result := normalizeNullable entry.result
    details := parse entry.details }

/-- The text that `encodeURIComponent` spells, which throws on an unpaired surrogate. -/
def encodeURIComponent (s : JsString) : Option Text := (quote s).decode

/-- The stream, the hash of counts, the sorted set of times of each window index, and what the node
remembers of its pruning. Each entry of the stream has an id of its own, so that none is added twice
to a window index. -/
structure RedisEventStore where
  stream : List StreamEntry := []
  counts : Text → Nat := fun _ => 0
  windowIndexes : Text → List Rat := fun _ => []
  lastPrunedMinuteByEvent : JsString → Option Int := fun _ => none

namespace RedisEventStore

def zremrangebyscore (s : RedisEventStore) (key : Text) (oldestKeptMs : Rat) : RedisEventStore :=
  let kept := (s.windowIndexes key).filter fun score => decide (oldestKeptMs ≤ score)
  { s with windowIndexes := Function.update s.windowIndexes key kept }

def zadd (s : RedisEventStore) (key : Text) (score : Rat) : RedisEventStore :=
  { s with windowIndexes := Function.update s.windowIndexes key (s.windowIndexes key ++ [score]) }

def pruneEventWindowIndexIfNeeded (s : RedisEventStore) (now : Rat) (eventName : JsString) :
    Option Rat → RedisEventStore
  | none => s
  | some currentTimestampMs =>
    let retentionReferenceMs := min currentTimestampMs now
    let currentMinute := minute retentionReferenceMs
    if s.lastPrunedMinuteByEvent eventName = some currentMinute then s
    else
      let lastPrunedMinuteByEvent :=
        Function.update s.lastPrunedMinuteByEvent eventName (some currentMinute)
      let s := { s with lastPrunedMinuteByEvent }
      (encodeURIComponent eventName).elim s fun key =>
        s.zremrangebyscore key (retentionReferenceMs - windowRetentionMs)

def performAppendWrite (s : RedisEventStore) (dates : Dates) (maxLen : Nat) (now : Rat)
    (event : RuntimeEvent) : RedisEventStore :=
  let stream := s.stream ++ [encodeEvent event]
  let field := event.event.utf8
  let s := { s with
    stream := stream.drop (stream.length - maxLen)
    counts := Function.update s.counts field (s.counts field + 1) }
  if isWindowIndexedEvent event.event then
    let timestampMs := eventTime dates event
    let s := (encodeURIComponent event.event).elim s fun key =>
      timestampMs.elim s fun score => s.zadd key score
    s.pruneEventWindowIndexIfNeeded now event.event timestampMs
  else s

/-- `XREVRANGE` answers the latest entry first. -/
def queryEvents (s : RedisEventStore) (dates : Dates) (query : EventQuery) : Answer :=
  let parsedEvents := (s.stream.reverse.filterMap parseEvent).filter (matchesQuery dates query)
  .found (pageOf query parsedEvents) parsedEvents.length

def pruneAsked (now toMs : Rat) (s : RedisEventStore) (eventName : JsString) : RedisEventStore :=
  if isWindowIndexedEvent eventName then s.pruneEventWindowIndexIfNeeded now eventName (some toMs)
  else s

def zcount (s : RedisEventStore) (fromMs toMs : Rat) (eventName : JsString) :
    Option (JsString × Nat) :=
  (encodeURIComponent eventName).map fun key =>
    (eventName, (s.windowIndexes key).countP fun score => decide (fromMs ≤ score ∧ score ≤ toMs))

def countsByEventInWindow (s : RedisEventStore) (now : Rat) (eventNames : List JsString) :
    Option Rat → Option Rat → Answer × RedisEventStore
  | some fromMs, some toMs =>
    if toMs < fromMs then (.counts (eventNames.map fun name => (name, 0)), s)
    else
      let s := eventNames.foldl (pruneAsked now toMs) s
      ((eventNames.mapM (s.zcount fromMs toMs)).elim .rejected .counts, s)
  | _, _ => (.counts (eventNames.map fun name => (name, 0)), s)

def call (s : RedisEventStore) (dates : Dates) (maxLen : Nat) (now : Rat) :
    Call → Answer × RedisEventStore
  | .append input =>
    let event := runtimeEvent dates now input
    (.appended event, s.performAppendWrite dates maxLen now event)
  | .query query => (s.queryEvents dates query, s)
  | .totalCountsByEvent names => (.counts (names.map fun name => (name, s.counts name.utf8)), s)
  | .countsByEventInWindow names fromMs toMs => s.countsByEventInWindow now names fromMs toMs

end RedisEventStore

end BiliSyncPlay.EventStores
