import BiliSyncPlay.Interleave.Pool
import BiliSyncPlay.JsMap
import Mathlib.Algebra.Group.Nat.Defs

/-!
# The durable write queue

Ordered, retrying, confirmable writes to a write-behind store. What a request's `run` and
`settle` do is left to a `Backend`: any programs over any shared state, answering late, failing
or never answering as they please.
-/

namespace BiliSyncPlay.DurableWriteQueue

open Interleave

abbrev WriteId := Nat
abbrev SettleId := Nat
abbrev ConfirmId := Nat

def DEFAULT_MAX_ATTEMPTS : Int := 5
def DEFAULT_INITIAL_RETRY_DELAY_MS : Nat := 50
def DEFAULT_MAX_RETRY_DELAY_MS : Nat := 1000
def MAX_REMEMBERED_FAILURES : Nat := 64

/-- What a `run` or a `settle` rejects with. -/
inductive RunError where
  | nonRetryable (message reason : String)
  | other (message : String)
  deriving DecidableEq

def RunError.retryable : RunError → Bool
  | nonRetryable .. => false
  | other _ => true

/-- What `enqueue` rejects with. -/
inductive WriteError where
  | run (error : RunError)
  | superseded (key operationName : String)
  /-- The queue is shutting down. -/
  | dropped (key operationName : String)
  deriving DecidableEq

def WriteError.isSuperseded : WriteError → Bool
  | superseded .. => true
  | _ => false

structure Backend where
  Cmd : Type
  Ans : Cmd → Type
  Shared : Type
  Choice : Type
  /-- What a request is to write. -/
  Op : Type
  /-- Calls of its own, beside those the queue makes. -/
  Task : Type
  sync : Cmd → Bool
  exec : (c : Cmd) → Choice → Shared → Option (Ans c × Shared × List Task)
  /-- What its caller does in the same stretch as it enqueues. -/
  uponEnqueue : Op → Shared → Shared := fun _ shared => shared
  run : WriteId → Op → Prog Cmd Ans RunError Unit
  settle : WriteId → Op → Prog Cmd Ans RunError Unit
  task : Task → Prog Cmd Ans RunError Unit
  task_waits : ∀ t, (task t).settled = false

variable {B : Backend}

structure DurableWriteRequest (B : Backend) where
  /-- Writes sharing a key are serialized and may supersede one another. -/
  key : String
  operationName : String
  op : B.Op

structure DurableWriteQueueOptions where
  maxAttempts : Option Int := none
  initialRetryDelayMs : Option Nat := none
  maxRetryDelayMs : Option Nat := none

def DurableWriteQueueOptions.attempts (options : DurableWriteQueueOptions) : Nat :=
  (max 1 (options.maxAttempts.getD DEFAULT_MAX_ATTEMPTS)).toNat

/-- Exponential, capped; `attempt` counts from one. -/
def DurableWriteQueueOptions.delayFor (options : DurableWriteQueueOptions) (attempt : Nat) : Nat :=
  min (options.initialRetryDelayMs.getD DEFAULT_INITIAL_RETRY_DELAY_MS * 2 ^ (attempt - 1))
    (options.maxRetryDelayMs.getD DEFAULT_MAX_RETRY_DELAY_MS)

/-- One enqueued request: the flag its chain entry's `supersede` sets, its answer, and whether
its chain entry's `settled` has resolved. -/
structure Write where
  key : String
  previous : Option WriteId
  superseded : Bool := false
  outcome : Option (Except WriteError Unit) := none
  settled : Bool := false

/-- A call of a request's `settle`: after the attempt it follows, or before the key is
released. -/
structure Settle where
  write : WriteId
  attempt : Option Nat
  result : Option (Except RunError Unit) := none

/-- What an observer of the queue sees happen. -/
inductive Happening where
  | enqueued (write : WriteId) (key : String)
  | runStarted (write : WriteId) (attempt : Nat)
  | runResolved (write : WriteId)
  | answered (write : WriteId) (result : Except WriteError Unit)
  | settleResolved (write : WriteId) (attempt : Option Nat)
  | stopped
  | confirmCalled (confirm : ConfirmId)
  | confirmed (confirm : ConfirmId)
  | confirmRejected (confirm : ConfirmId) (failures : List (WriteId × WriteError))

structure Queue where
  stopped : Bool := false
  chains : JsMap String WriteId := .empty
  writes : List Write := []
  /-- The answers `confirm` waits for. -/
  outcomes : List WriteId := []
  released : List WriteId := []
  /-- Failures remembered since the last `confirm`, each with the write it is an answer to. -/
  abandoned : List (WriteId × WriteError) := []
  settles : List Settle := []
  confirms : Nat := 0
  /-- Newest first. -/
  history : List Happening := []

structure World (B : Backend) where
  queue : Queue := {}
  backend : B.Shared

/-- A promise that `raceStopped` is handed. -/
inductive Work where
  | settledOf (previous : Option WriteId)
  | settle (id : SettleId)

inductive Cmd (B : Backend) where
  | enqueue (request : DurableWriteRequest B)
  | raceStopped (work : Work)
  | awaitSettled (write : Option WriteId)
  | awaitReported (write : WriteId)
  | awaitSettle (id : SettleId)
  | stopped
  | isSuperseded (write : WriteId)
  /-- Starts a `run`, unless the queue was told to stop. -/
  | beginRun (write : WriteId) (attempt : Nat)
  | runResolved (write : WriteId)
  | wait (delayMs : Nat)
  | startSettle (write : WriteId) (request : DurableWriteRequest B) (attempt : Option Nat)
  | finishSettle (id : SettleId) (result : Except RunError Unit)
  | answer (write : WriteId) (result : Except WriteError Unit)
  | settle (write : WriteId)
  | forget (write : WriteId)
  | callConfirm
  | allSettled (outcomes : List WriteId)
  /-- The loop of `drain`: comes back once no key is left to release. -/
  | allReleased
  | takeAbandoned (confirm : ConfirmId)
  | stopRetrying
  | backend (cmd : B.Cmd)

namespace Cmd

abbrev Ans : Cmd B → Type
  | enqueue _ => WriteId
  | raceStopped _ => Option (Except RunError Unit)
  | awaitSettled _ | awaitReported _ | wait _ | allSettled _ | allReleased => Unit
  | awaitSettle _ => Except RunError Unit
  | stopped | isSuperseded _ | beginRun .. => Bool
  | startSettle .. => SettleId
  | runResolved _ | finishSettle .. | answer .. | settle _ | forget _ | stopRetrying => Unit
  | callConfirm => ConfirmId × List WriteId
  | takeAbandoned _ => List (WriteId × WriteError)
  | backend c => B.Ans c

def sync : Cmd B → Bool
  | raceStopped _ | awaitSettled _ | awaitReported _ | awaitSettle _ | wait _ | allSettled _
  | allReleased => false
  | backend c => B.sync c
  | _ => true

end Cmd

/-! ## Requests -/

abbrev Client (B : Backend) := Prog (Cmd B) Cmd.Ans WriteError

def ask (c : Cmd B) : Client B c.Ans := Prog.perform c

/-- A program of the backend, its rejection handed over as a value. -/
def awaited {α : Type} : Prog B.Cmd B.Ans RunError α → Client B (Except RunError α)
  | .ret a => .ret (.ok a)
  | .fail e => .ret (.error e)
  | .op c k => .op (.backend c) fun a => awaited (k a)

/-- Waits for `work`, or until the queue is told to stop; throws what `work` rejects with. -/
def raceStopped (work : Work) : Client B Unit := do
  match ← ask (.raceStopped work) with
  | some (.error e) => throw (.run e)
  | _ => pure ()

def dropped (request : DurableWriteRequest B) : WriteError :=
  .dropped request.key request.operationName

def supersededBy (request : DurableWriteRequest B) : WriteError :=
  .superseded request.key request.operationName

/-- The backoff after a failed attempt; `again` is what is left to try. -/
def retry (options : DurableWriteQueueOptions) (w : WriteId) (request : DurableWriteRequest B)
    (attempt : Nat) (error : RunError) (again : Client B Unit) : Client B Unit := do
  if ← ask .stopped then throw (.run error)
  else if ← ask (.isSuperseded w) then throw (supersededBy request)
  else do
    ask (.wait (options.delayFor attempt))
    let settle ← ask (.startSettle w request (some attempt))
    raceStopped (.settle settle)
    if ← ask (.isSuperseded w) then throw (supersededBy request)
    else if ← ask (.beginRun w (attempt + 1)) then again
    else throw (.run error)

/-- An attempt that was begun, with `left` more after it. -/
def attempts (options : DurableWriteQueueOptions) (w : WriteId) (request : DurableWriteRequest B) :
    Nat → Nat → Client B Unit
  | 0, _ => do
    match ← awaited (B.run w request.op) with
    | .ok () => ask (.runResolved w)
    | .error error => throw (.run error)
  | left + 1, attempt => do
    match ← awaited (B.run w request.op) with
    | .ok () => ask (.runResolved w)
    | .error error =>
      if error.retryable then
        retry options w request attempt error (attempts options w request left (attempt + 1))
      else throw (.run error)

def runWithRetries (options : DurableWriteQueueOptions) (w : WriteId)
    (request : DurableWriteRequest B) : Client B Unit := do
  if ← ask (.beginRun w 1) then attempts options w request (options.attempts - 1) 1
  else throw (dropped request)

/-- The promise `enqueue` returns. -/
def outcome (options : DurableWriteQueueOptions) (w : WriteId) (previous : Option WriteId)
    (request : DurableWriteRequest B) : Client B Unit := do
  raceStopped (.settledOf previous)
  if ← ask .stopped then throw (dropped request)
  else do
    ask (.awaitSettled previous)
    runWithRetries options w request

/-- The outcome as it is reported: a failure nobody awaits stays quiet, and is remembered. -/
def reported (options : DurableWriteQueueOptions) (w : WriteId) (previous : Option WriteId)
    (request : DurableWriteRequest B) : Client B Unit := do
  let result ← tryCatch (do
    outcome options w previous request
    pure (.ok ())) fun e => pure (.error e)
  ask (.answer w result)

/-- Releases the key once the underlying commands have really finished. -/
def settled (w : WriteId) (previous : Option WriteId) (request : DurableWriteRequest B) :
    Client B Unit := do
  ask (.awaitReported w)
  ask (.awaitSettled previous)
  let settle ← ask (.startSettle w request none)
  let _ ← ask (.awaitSettle settle)
  ask (.settle w)
  ask (.awaitSettled (some w))
  ask (.forget w)

/-- The failures `confirm` rejects with; it resolves when there are none. -/
def confirm : Client B (List (WriteId × WriteError)) := do
  let (id, outcomes) ← ask .callConfirm
  ask (.allSettled outcomes)
  ask (.takeAbandoned id)

inductive Req (B : Backend) where
  | enqueue (request : DurableWriteRequest B)
  | drain
  | confirm
  | stopRetrying
  | reported (write : WriteId) (previous : Option WriteId) (request : DurableWriteRequest B)
  | settled (write : WriteId) (previous : Option WriteId) (request : DurableWriteRequest B)
  | settle (id : SettleId) (write : WriteId) (request : DurableWriteRequest B)
  | task (task : B.Task)

def body (options : DurableWriteQueueOptions) : Req B → Client B Unit
  | .enqueue request => do
    let _ ← ask (.enqueue request)
    pure ()
  | .drain => ask .allReleased
  | .confirm => do
    let _ ← confirm
    pure ()
  | .stopRetrying => ask .stopRetrying
  | .reported w previous request => reported options w previous request
  | .settled w previous request => settled w previous request
  | .settle id w request => do
    let result ← awaited (B.settle w request.op)
    ask (.finishSettle id result)
  | .task t => do
    let _ ← awaited (B.task t)
    pure ()

/-! ## What the commands do -/

inductive Choice (B : Backend) where
  | go
  /-- `raceStopped` is won by the stop. -/
  | stop
  | backend (choice : B.Choice)

def Queue.note (q : Queue) (h : Happening) : Queue := { q with history := h :: q.history }

def Queue.setWrite (q : Queue) (w : WriteId) (f : Write → Write) : Queue :=
  { q with writes := q.writes.modify w f }

def Queue.supersede (q : Queue) (previous : Option WriteId) : Queue :=
  match previous with
  | some v => q.setWrite v fun write => { write with superseded := true }
  | none => q

/-- `enqueue` up to its first suspension. -/
def Queue.enqueue (q : Queue) (key : String) : WriteId × Queue :=
  let previous := q.chains.get? key
  let w := q.writes.length
  let q := q.supersede previous
  (w, { q with
    chains := q.chains.set key w
    writes := q.writes ++ [{ key, previous }]
    outcomes := q.outcomes ++ [w]
    released := q.released ++ [w]
    history := .enqueued w key :: q.history })

/-- A promise's state: `none` while it is pending. -/
def Queue.work (q : Queue) : Work → Option (Except RunError Unit)
  | .settledOf none => some (.ok ())
  | .settledOf (some w) => if (q.writes[w]?).any Write.settled then some (.ok ()) else none
  | .settle id => (q.settles[id]?).bind Settle.result

def Queue.hasSettled (q : Queue) (w : Option WriteId) : Bool := (q.work (.settledOf w)).isSome

def Queue.hasAnswered (q : Queue) (w : WriteId) : Bool :=
  (q.writes[w]?).any fun write => write.outcome.isSome

/-- The failure is remembered, unless a newer write took over or enough are remembered. -/
def Queue.remember (q : Queue) (w : WriteId) (result : Except WriteError Unit) : Queue :=
  match result with
  | .ok () => q
  | .error e =>
    if !e.isSuperseded && q.abandoned.length < MAX_REMEMBERED_FAILURES then
      { q with abandoned := q.abandoned ++ [(w, e)] }
    else q

def Queue.answer (q : Queue) (w : WriteId) (result : Except WriteError Unit) : Queue :=
  ((q.setWrite w fun write => { write with outcome := some result }).remember w result).note
    (.answered w result)

def Queue.finishSettle (q : Queue) (id : SettleId) (result : Except RunError Unit) : Queue :=
  let q' := { q with settles := q.settles.modify id fun s => { s with result := some result } }
  match q.settles[id]?, result with
  | some s, .ok () => q'.note (.settleResolved s.write s.attempt)
  | _, _ => q'

def Queue.forget (q : Queue) (w : WriteId) : Queue :=
  let key := ((q.writes[w]?).map Write.key).getD ""
  { q with
    outcomes := q.outcomes.erase w
    released := q.released.erase w
    chains := if q.chains.get? key = some w then q.chains.delete key else q.chains }

def Queue.takeAbandoned (q : Queue) (c : ConfirmId) : Queue :=
  if q.abandoned.length = 0 then q.note (.confirmed c)
  else { q with abandoned := [], history := .confirmRejected c q.abandoned :: q.history }

def World.on (w : World B) (f : Queue → Queue) : World B := { w with queue := f w.queue }

def exec : (c : Cmd B) → Choice B → World B → Option (c.Ans × World B × List (Req B))
  | .enqueue request, _, w =>
    let previous := w.queue.chains.get? request.key
    let (id, queue) := w.queue.enqueue request.key
    some (id, { queue, backend := B.uponEnqueue request.op w.backend },
      [.reported id previous request, .settled id previous request])
  | .raceStopped work, ch, w =>
    match ch with
    | .stop => if w.queue.stopped then some (none, w, []) else none
    | _ => (w.queue.work work).map fun result => (some result, w, [])
  | .awaitSettled v, _, w => if w.queue.hasSettled v then some ((), w, []) else none
  | .awaitReported v, _, w => if w.queue.hasAnswered v then some ((), w, []) else none
  | .awaitSettle id, _, w => (w.queue.work (.settle id)).map fun result => (result, w, [])
  | .stopped, _, w => some (w.queue.stopped, w, [])
  | .isSuperseded v, _, w => some ((w.queue.writes[v]?).any Write.superseded, w, [])
  | .beginRun v attempt, _, w =>
    if w.queue.stopped then some (false, w, [])
    else some (true, w.on (·.note (.runStarted v attempt)), [])
  | .runResolved v, _, w => some ((), w.on (·.note (.runResolved v)), [])
  | .wait _, _, w => some ((), w, [])
  | .startSettle v request attempt, _, w =>
    some (w.queue.settles.length,
      w.on fun q => { q with settles := q.settles ++ [{ write := v, attempt }] },
      [.settle w.queue.settles.length v request])
  | .finishSettle id result, _, w => some ((), w.on (·.finishSettle id result), [])
  | .answer v result, _, w => some ((), w.on (·.answer v result), [])
  | .settle v, _, w =>
    some ((), w.on (·.setWrite v fun write => { write with settled := true }), [])
  | .forget v, _, w => some ((), w.on (·.forget v), [])
  | .callConfirm, _, w =>
    some ((w.queue.confirms, w.queue.outcomes),
      w.on fun q => { q with
        confirms := q.confirms + 1
        history := .confirmCalled q.confirms :: q.history }, [])
  | .allSettled outcomes, _, w =>
    if outcomes.all w.queue.hasAnswered then some ((), w, []) else none
  | .allReleased, _, w => if w.queue.released.length = 0 then some ((), w, []) else none
  | .takeAbandoned c, _, w => some (w.queue.abandoned, w.on (·.takeAbandoned c), [])
  | .stopRetrying, _, w =>
    some ((), w.on fun q => { q with stopped := true, history := .stopped :: q.history }, [])
  | .backend c, ch, w =>
    match ch with
    | .backend choice => (B.exec c choice w.backend).map fun (a, backend, tasks) =>
        (a, { w with backend }, tasks.map .task)
    | _ => none

/-- The queue and its backend in one process. -/
abbrev machine (B : Backend) (options : DurableWriteQueueOptions) : Machine where
  Cmd := Cmd B
  Ans := Cmd.Ans
  Err := WriteError
  Res := Unit
  Req := Req B
  Shared := World B
  Choice := Choice B
  Event := Empty
  body := body options
  lane _ := 0
  sync := Cmd.sync
  exec := exec
  occur e := nomatch e

end BiliSyncPlay.DurableWriteQueue
