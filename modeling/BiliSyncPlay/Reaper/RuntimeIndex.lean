import BiliSyncPlay.JsMap

/-!
# The runtime index reaper

A step is one synchronous stretch of the reaper, up to where it waits again, or one thing that
happens to it: a write takes effect in the shared store, a call is answered, the cap on a wait runs
out, `stop` is called. A write that was given up may still take effect at any later step.
-/

namespace BiliSyncPlay.RuntimeIndexReaper

abbrev RoomCode := Nat
abbrev SessionId := Nat
abbrev MemberId := Nat
abbrev InstanceId := Nat

/-- Its place among the writes asked for. -/
abbrev WriteId := Nat

/-- Its place among the publishes started. -/
abbrev PublishId := Nat

/-! ## The shared store -/

/-- The hash of a session. A blank room code is none. -/
structure Record where
  instanceId : Option InstanceId := none
  roomCode : Option RoomCode := none
  memberId : Option MemberId := none
  deriving DecidableEq

structure SharedStore where
  /-- The cluster index, with the hashes of its sessions. -/
  sessions : JsMap SessionId Record
  /-- The room indexes. -/
  roomSessions : JsMap (RoomCode × SessionId) Unit
  members : JsMap (RoomCode × MemberId) SessionId

inductive Write where
  | removeMember (code : RoomCode) (memberId : MemberId) (session : SessionId)
  | markSessionLeftRoom (session : SessionId) (code : RoomCode)
  | unregisterSession (session : SessionId)
  deriving DecidableEq

namespace SharedStore

def roomCode? (store : SharedStore) (session : SessionId) : Option RoomCode :=
  (store.sessions.get? session).bind Record.roomCode

/-- What a write does when it takes effect. -/
def land (store : SharedStore) : Write → SharedStore
  | .removeMember code memberId session =>
    -- A binding that went to another session is left alone.
    if store.members.get? (code, memberId) = some session then
      { store with members := store.members.delete (code, memberId) }
    else store
  | .markSessionLeftRoom session code =>
    let record := (store.sessions.get? session).getD {}
    { store with
      sessions := store.sessions.set session { record with roomCode := none }
      roomSessions := store.roomSessions.delete (code, session) }
  | .unregisterSession session =>
    { store with
      sessions := store.sessions.delete session
      roomSessions := match store.roomCode? session with
        | some code => store.roomSessions.delete (code, session)
        | none => store.roomSessions }

/-- The room index entry a write removes. -/
def removes (store : SharedStore) : Write → Option (RoomCode × SessionId)
  | .removeMember .. => none
  | .markSessionLeftRoom session code =>
    if store.roomSessions.has (code, session) then some (code, session) else none
  | .unregisterSession session =>
    match store.roomCode? session with
    | some code => if store.roomSessions.has (code, session) then some (code, session) else none
    | none => none

end SharedStore

/-! ## The reaper -/

structure QueuedWrite where
  write : Write
  landed : Bool := false
  /-- How its promise settled. -/
  answer : Option Bool := none
  deriving DecidableEq

structure Publish where
  roomCode : RoomCode
  answer : Option Bool := none
  deriving DecidableEq

/-- A removal from a room index that took effect. -/
structure Removal where
  session : SessionId
  roomCode : RoomCode
  /-- The publishes started by then. -/
  since : Nat
  deriving DecidableEq

/-- The variables of the loop over the sessions. -/
structure Visit where
  offlineInstanceIds : List InstanceId
  roomsToResync : List RoomCode
  rest : List (SessionId × Record)
  deriving DecidableEq

/-- Where a sweep waits. -/
inductive Phase where
  | idle
  /-- In `flushPendingResyncs`, at the start of a sweep or, with the offline instances, after its
  loop. -/
  | publishing (roomCode : RoomCode) (publish : PublishId) (queue : List RoomCode)
    (offlineInstanceIds : Option (List InstanceId))
  | gating
  | listing
  | judging (sessions : List (SessionId × Record))
  | removing (visit : Visit) (session : SessionId) (roomCode : RoomCode) (write : WriteId)
  | indexing (visit : Visit) (session : SessionId) (roomCode : RoomCode) (write : WriteId)
  | confirming (visit : Visit)
  | relisting (offlineInstanceIds : List InstanceId)
  | purging (instanceId : InstanceId) (rest : List InstanceId)
  deriving DecidableEq

/-- `flushPendingResyncsWithinBudget`: the rooms no worker has taken, and the publishes the workers
wait for. -/
structure LastPass where
  queued : List RoomCode
  active : List (RoomCode × PublishId) := []

structure Reaper where
  store : SharedStore
  writes : List QueuedWrite := []
  publishes : List Publish := []
  removals : List Removal := []
  roomsAwaitingResync : JsMap RoomCode Unit := .empty
  inFlightResyncByRoom : JsMap RoomCode PublishId := .empty
  stopped : Bool := false
  pendingSweep : Phase := .idle
  lastPass : Option LastPass := none

/-- A call of the store that may throw. -/
inductive StoreCall where
  | write (write : Write)
  | confirmWrites
  deriving DecidableEq

def SHUTDOWN_RESYNC_CONCURRENCY : Nat := 8

namespace Reaper

def rememberResync (s : Reaper) (roomCode : RoomCode) : Reaper :=
  { s with roomsAwaitingResync := s.roomsAwaitingResync.set roomCode () }

def startPublish (s : Reaper) (roomCode : RoomCode) : Reaper :=
  { s with
    publishes := s.publishes ++ [{ roomCode }]
    inFlightResyncByRoom := s.inFlightResyncByRoom.set roomCode s.publishes.length }

/-- What `publishPendingResync` does once its wait has ended. -/
def published (s : Reaper) (roomCode : RoomCode) (ok : Bool) : Reaper :=
  if ok then { s with roomsAwaitingResync := s.roomsAwaitingResync.delete roomCode } else s

/-- After a flush: at the start of a sweep the gate, after its loop the sessions that remain. -/
def flushed (s : Reaper) : Option (List InstanceId) → Reaper
  | none => { s with pendingSweep := .gating }
  | some offlineInstanceIds => { s with pendingSweep := .relisting offlineInstanceIds }

/-- Up to the first publish it waits for. A room whose publish is still out is passed over. -/
def flushPendingResyncs (s : Reaper) (offlineInstanceIds : Option (List InstanceId)) :
    List RoomCode → Reaper
  | [] => s.flushed offlineInstanceIds
  | roomCode :: queue =>
    if s.stopped then s.flushed offlineInstanceIds
    else if s.inFlightResyncByRoom.has roomCode then
      s.flushPendingResyncs offlineInstanceIds queue
    else { s.startPublish roomCode with
      pendingSweep := .publishing roomCode s.publishes.length queue offlineInstanceIds }

/-- The sweep ends, with an error or without. -/
def ended (s : Reaper) : Reaper := { s with pendingSweep := .idle }

def queue (s : Reaper) (write : Write) : Reaper := { s with writes := s.writes ++ [{ write }] }

section
variable (refused : List StoreCall)

/-- After the loop. -/
def confirmWrites (s : Reaper) (visit : Visit) : Reaper :=
  if .confirmWrites ∈ refused then s.ended else { s with pendingSweep := .confirming visit }

def markSessionLeftRoom (s : Reaper) (visit : Visit) (session : SessionId) (code : RoomCode) :
    Reaper :=
  let write := Write.markSessionLeftRoom session code
  if .write write ∈ refused then s.ended
  else { s.queue write with pendingSweep := .indexing visit session code s.writes.length }

def removeMember (s : Reaper) (visit : Visit) (session : SessionId) (code : RoomCode)
    (memberId : MemberId) : Reaper :=
  let write := Write.removeMember code memberId session
  if .write write ∈ refused then s.ended
  else { s.queue write with pendingSweep := .removing visit session code s.writes.length }

/-- The loop over the sessions, up to the first write it waits for. -/
def visit (offlineInstanceIds : List InstanceId) (roomsToResync : List RoomCode) :
    List (SessionId × Record) → Reaper → Reaper
  | [], s => s.confirmWrites refused ⟨offlineInstanceIds, roomsToResync, []⟩
  | (session, record) :: rest, s =>
    if s.stopped then s.confirmWrites refused ⟨offlineInstanceIds, roomsToResync, rest⟩
    else if record.instanceId.all (· ∉ offlineInstanceIds) then
      visit offlineInstanceIds roomsToResync rest s
    else
      match record.roomCode, record.memberId with
      | some code, some memberId =>
        s.removeMember refused ⟨offlineInstanceIds, roomsToResync, rest⟩ session code memberId
      | some code, none =>
        s.markSessionLeftRoom refused ⟨offlineInstanceIds, roomsToResync, rest⟩ session code
      | none, _ =>
        if .write (.unregisterSession session) ∈ refused then s.ended
        else visit offlineInstanceIds roomsToResync rest (s.queue (.unregisterSession session))

def next (s : Reaper) (v : Visit) : Reaper :=
  visit refused v.offlineInstanceIds v.roomsToResync v.rest s

def memberRemoved (s : Reaper) (v : Visit) (session : SessionId) (code : RoomCode)
    (confirmed : Bool) : Reaper :=
  if confirmed then s.markSessionLeftRoom refused v session code else s.next refused v

def indexWritten (s : Reaper) (v : Visit) (session : SessionId) (code : RoomCode)
    (confirmed : Bool) : Reaper :=
  if confirmed then
    if .write (.unregisterSession session) ∈ refused then s.ended
    else (s.queue (.unregisterSession session)).next refused
      { v with roomsToResync := v.roomsToResync ++ [code] }
  else s.next refused v

end

def writesConfirmed (s : Reaper) (v : Visit) : Reaper :=
  let remembered := v.roomsToResync.foldl rememberResync s
  remembered.flushPendingResyncs (some v.offlineInstanceIds) remembered.roomsAwaitingResync.keys

def purgeNext (s : Reaper) : List InstanceId → Reaper
  | [] => s.ended
  | instanceId :: rest => { s with pendingSweep := .purging instanceId rest }

/-- The verdict of `confirmCleanupWrite`, once the wait for a write can end. -/
def verdict (s : Reaper) (write : WriteId) : Option Bool :=
  if s.stopped then some false else s.writes[write]?.bind QueuedWrite.answer

end Reaper

/-! ## Steps -/

/-- `refused`: the calls of the store that throw in the stretch that follows. -/
inductive Event where
  | tick
  | stop
  | lands (write : WriteId)
  | settles (write : WriteId) (ok : Bool)
  | publishSettles (publish : PublishId) (ok : Bool)
  /-- `listNodeStatuses` answers, or rejects. -/
  | listsOffline (offlineInstanceIds : Option (List InstanceId)) (refused : List StoreCall)
  /-- `listClusterSessions` answers, or rejects. -/
  | listsSessions (ok : Bool)
  | purges (ok : Bool)
  /-- The sweep goes on. -/
  | resumes (refused : List StoreCall)
  /-- The cap on the sweep's wait runs out. -/
  | expires (refused : List StoreCall)
  | startsLastPass
  /-- A worker takes the next room. -/
  | takes
  | answersPass (publish : PublishId)
  | expiresPass (publish : PublishId)

namespace Reaper

def scheduleSweep (s : Reaper) : Option Reaper :=
  match s.pendingSweep with
  | .idle =>
    if s.stopped then none else some (s.flushPendingResyncs none s.roomsAwaitingResync.keys)
  | _ => some s

def lands (s : Reaper) (write : WriteId) : Option Reaper :=
  s.writes[write]?.map fun queued =>
    { s with
      store := s.store.land queued.write
      writes := s.writes.set write { queued with landed := true }
      removals := s.removals ++ ((s.store.removes queued.write).map fun (code, session) =>
        ⟨session, code, s.publishes.length⟩).toList }

/-- A write is confirmed only once it has taken effect. -/
def settles (s : Reaper) (write : WriteId) (ok : Bool) : Option Reaper :=
  match s.writes[write]? with
  | some queued =>
    if queued.answer.isNone && (!ok || queued.landed) then
      some { s with writes := s.writes.set write { queued with answer := some ok } }
    else none
  | none => none

def publishSettles (s : Reaper) (publish : PublishId) (ok : Bool) : Option Reaper :=
  match s.publishes[publish]? with
  | some p =>
    if p.answer.isNone then
      some { s with
        publishes := s.publishes.set publish { p with answer := some ok }
        inFlightResyncByRoom :=
          if s.inFlightResyncByRoom.get? p.roomCode = some publish then
            s.inFlightResyncByRoom.delete p.roomCode
          else s.inFlightResyncByRoom }
    else none
  | none => none

def listsOffline (s : Reaper) (refused : List StoreCall) :
    Option (List InstanceId) → Option Reaper
  | none =>
    match s.pendingSweep with
    | .gating | .judging _ => some s.ended
    | _ => none
  | some offlineInstanceIds =>
    match s.pendingSweep with
    | .gating =>
      some (if offlineInstanceIds = [] then s.ended else { s with pendingSweep := .listing })
    | .judging sessions =>
      some (if offlineInstanceIds = [] then s.ended
        else s.next refused ⟨offlineInstanceIds, [], sessions⟩)
    | _ => none

def listsSessions (s : Reaper) (ok : Bool) : Option Reaper :=
  match s.pendingSweep with
  | .listing =>
    some (if ok then { s with pendingSweep := .judging s.store.sessions.entries } else s.ended)
  | .relisting offlineInstanceIds =>
    let activeInstanceIds := s.store.sessions.values.filterMap Record.instanceId
    some (if ok then s.purgeNext (offlineInstanceIds.filter (· ∉ activeInstanceIds)) else s.ended)
  | _ => none

def purges (s : Reaper) (ok : Bool) : Option Reaper :=
  match s.pendingSweep with
  | .purging _ rest => some (if ok then s.purgeNext rest else s.ended)
  | _ => none

def resumes (s : Reaper) (refused : List StoreCall) : Option Reaper :=
  match s.pendingSweep with
  | .publishing roomCode publish queue offlineInstanceIds =>
    (s.publishes[publish]?.bind Publish.answer).map fun ok =>
      (s.published roomCode ok).flushPendingResyncs offlineInstanceIds queue
  | .removing v session code write =>
    (s.verdict write).map (s.memberRemoved refused v session code)
  | .indexing v session code write =>
    (s.verdict write).map (s.indexWritten refused v session code)
  | .confirming v => some (s.writesConfirmed v)
  | _ => none

def expires (s : Reaper) (refused : List StoreCall) : Option Reaper :=
  match s.pendingSweep with
  | .publishing roomCode _ queue offlineInstanceIds =>
    some ((s.published roomCode false).flushPendingResyncs offlineInstanceIds queue)
  | .removing v session code _ => some (s.memberRemoved refused v session code false)
  | .indexing v session code _ => some (s.indexWritten refused v session code false)
  | _ => none

/-- `stop` goes on once no sweep is pending. -/
def startsLastPass (s : Reaper) : Option Reaper :=
  match s.pendingSweep, s.lastPass with
  | .idle, none =>
    if s.stopped then some { s with lastPass := some { queued := s.roomsAwaitingResync.keys } }
    else none
  | _, _ => none

def takes (s : Reaper) : Option Reaper :=
  match s.lastPass with
  | some ⟨roomCode :: queued, active⟩ =>
    if active.length < SHUTDOWN_RESYNC_CONCURRENCY then
      if s.inFlightResyncByRoom.has roomCode then some { s with lastPass := some ⟨queued, active⟩ }
      else some { s.startPublish roomCode with
        lastPass := some ⟨queued, active ++ [(roomCode, s.publishes.length)]⟩ }
    else none
  | _ => none

/-- A worker's wait for its publish ends. -/
def passPublished (s : Reaper) (publish : PublishId) (ok : Bool) : Option Reaper :=
  match s.lastPass with
  | some pass =>
    match pass.active.find? (·.2 = publish) with
    | some (roomCode, _) =>
      some { s.published roomCode ok with
        lastPass := some { pass with active := pass.active.filter (·.2 ≠ publish) } }
    | none => none
  | none => none

def exec (s : Reaper) : Event → Option Reaper
  | .tick => s.scheduleSweep
  | .stop => some { s with stopped := true }
  | .lands write => s.lands write
  | .settles write ok => s.settles write ok
  | .publishSettles publish ok => s.publishSettles publish ok
  | .listsOffline offlineInstanceIds refused => s.listsOffline refused offlineInstanceIds
  | .listsSessions ok => s.listsSessions ok
  | .purges ok => s.purges ok
  | .resumes refused => s.resumes refused
  | .expires refused => s.expires refused
  | .startsLastPass => s.startsLastPass
  | .takes => s.takes
  | .answersPass publish =>
    (s.publishes[publish]?.bind Publish.answer).bind fun ok => s.passPublished publish ok
  | .expiresPass publish => s.passPublished publish false

end Reaper

end BiliSyncPlay.RuntimeIndexReaper
