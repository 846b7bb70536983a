import BiliSyncPlay.Interleave.Chronicle
import BiliSyncPlay.WriteQueue.Queue

/-!
# The order of writes

Where a call of the queue stands, what it may do from there, and what of the queue's state makes
the writes of one key follow one another.
-/

namespace BiliSyncPlay.DurableWriteQueue

open Interleave

variable {B : Backend}

/-! ## Where a call stands -/

inductive Phase where
  | idle
  /-- Behind the previous write of its key. -/
  | queued (w : WriteId) (previous : Option WriteId)
  | raced (w : WriteId) (previous : Option WriteId)
  | ready (w : WriteId)
  | running (w : WriteId) (attempt : Nat)
  | settling (w : WriteId) (attempt : Nat) (id : SettleId)
  /-- Whether the wait for `settle` ended because it resolved. -/
  | retrying (w : WriteId) (attempt : Nat) (clean : Bool)
  /-- Superseded, and giving up for it. -/
  | yielded (w : WriteId)
  | resolved (w : WriteId)
  | awaiting (w : WriteId) (previous : Option WriteId)
  | reported (w : WriteId) (previous : Option WriteId)
  | clear (w : WriteId)
  | closing (w : WriteId) (id : SettleId)
  | closed (w : WriteId)
  | released (w : WriteId)
  | cleanup (id : SettleId)
  | asking
  | waiting (c : ConfirmId) (outcomes : List WriteId)
  | counting (c : ConfirmId) (outcomes : List WriteId)

namespace Phase

def after : Phase → (c : Cmd B) → c.Ans → Phase
  | queued w previous, .raceStopped _, _ => raced w previous
  | raced w _, .awaitSettled _, _ => ready w
  | ready w, .beginRun _ _, true => running w 1
  | running w _, .runResolved _, _ => resolved w
  | running w _, .isSuperseded _, true => yielded w
  | retrying w _ _, .isSuperseded _, true => yielded w
  | running w attempt, .startSettle .., id => settling w attempt id
  | settling w attempt _, .raceStopped _, result => retrying w attempt result.isSome
  | retrying w attempt _, .beginRun _ _, true => running w (attempt + 1)
  | awaiting w previous, .awaitReported _, _ => reported w previous
  | reported w _, .awaitSettled _, _ => clear w
  | clear w, .startSettle .., id => closing w id
  | closing w _, .awaitSettle _, _ => closed w
  | closed w, .settle _, _ => released w
  | asking, .callConfirm, (c, outcomes) => waiting c outcomes
  | waiting c outcomes, .allSettled _, _ => counting c outcomes
  | _, .answer .., _ | _, .forget _, _ | _, .finishSettle .., _ | _, .takeAbandoned _, _ => idle
  | φ, _, _ => φ

/-- The write whose answer the call will give. -/
def writer? : Phase → Option WriteId
  | queued w _ | raced w _ | ready w | running w _ | settling w _ _ | retrying w _ _ | yielded w
  | resolved w => some w
  | _ => none

/-- What a call issues from where it stands. -/
inductive Permits (options : DurableWriteQueueOptions) : Phase → Cmd B → Prop
  | enqueue (request) : Permits options idle (.enqueue request)
  | stopRetrying : Permits options idle .stopRetrying
  | allReleased : Permits options idle .allReleased
  | task (c) : Permits options idle (.backend c)
  | queued (w previous) : Permits options (queued w previous) (.raceStopped (.settledOf previous))
  | stopped (w previous) : Permits options (raced w previous) .stopped
  | awaitPrevious (w previous) : Permits options (raced w previous) (.awaitSettled previous)
  | begin (w) : Permits options (ready w) (.beginRun w 1)
  | run (w attempt c) : Permits options (running w attempt) (.backend c)
  | resolve (w attempt) : Permits options (running w attempt) (.runResolved w)
  | failing (w attempt) : Permits options (running w attempt) .stopped
  | yielding (w attempt) : Permits options (running w attempt) (.isSuperseded w)
  | wait (w attempt delayMs) : Permits options (running w attempt) (.wait delayMs)
  | settle (w attempt request) : attempt < options.attempts →
      Permits options (running w attempt) (.startSettle w request (some attempt))
  | race (w attempt id) : Permits options (settling w attempt id) (.raceStopped (.settle id))
  | yieldingAgain (w attempt clean) : Permits options (retrying w attempt clean) (.isSuperseded w)
  | again (w attempt clean) : attempt < options.attempts →
      Permits options (retrying w attempt clean) (.beginRun w (attempt + 1))
  | fail (φ w error) : writer? φ = some w → (∀ v, φ ≠ resolved v) →
      (error.isSuperseded = true → φ = yielded w) → Permits options φ (.answer w (.error error))
  | succeed (w) : Permits options (resolved w) (.answer w (.ok ()))
  | awaiting (w previous) : Permits options (awaiting w previous) (.awaitReported w)
  | reported (w previous) : Permits options (reported w previous) (.awaitSettled previous)
  | close (w request) : Permits options (clear w) (.startSettle w request none)
  | closing (w id) : Permits options (closing w id) (.awaitSettle id)
  | closed (w) : Permits options (closed w) (.settle w)
  | released (w) : Permits options (released w) (.awaitSettled (some w))
  | forget (w) : Permits options (released w) (.forget w)
  | cleanup (id c) : Permits options (cleanup id) (.backend c)
  | finish (id result) : Permits options (cleanup id) (.finishSettle id result)
  | ask : Permits options asking .callConfirm
  | waiting (c outcomes) : Permits options (waiting c outcomes) (.allSettled outcomes)
  | counting (c outcomes) : Permits options (counting c outcomes) (.takeAbandoned c)

def begin : Req B → Phase
  | .enqueue _ | .drain | .stopRetrying | .task _ => idle
  | .confirm => asking
  | .reported w previous _ => queued w previous
  | .settled w previous _ => awaiting w previous
  | .settle id _ _ => cleanup id

end Phase

abbrev protocol (B : Backend) (options : DurableWriteQueueOptions) : Protocol (Cmd B) Cmd.Ans where
  Phase := Phase
  permits := Phase.Permits options
  expects _ _ _ := True
  after := Phase.after

abbrev discipline (B : Backend) (options : DurableWriteQueueOptions) :
    Discipline (machine B options) where
  toProtocol := protocol B options
  begin := Phase.begin
  done φ _ := φ = .idle
  retire φ := φ

/-! ## Every call follows the discipline -/

section Follows

variable {options : DurableWriteQueueOptions} {φ : Phase} {α : Type}

theorem follows_awaited {p : Prog B.Cmd B.Ans RunError α}
    {Q : Phase → Except WriteError (Except RunError α) → Prop}
    (may : ∀ c, Phase.Permits (B := B) options φ (.backend c))
    (stays : ∀ (c : B.Cmd) a, Phase.after φ (.backend c) a = φ) (all : ∀ r, Q φ (.ok r)) :
    (awaited p : Client B _).Follows (protocol B options) φ Q := by
  induction p with
  | ret a => exact all (.ok a)
  | fail e => exact all (.error e)
  | op c k ih =>
    refine ⟨may c, fun a _ => ?_⟩
    rw [show (protocol B options).after φ (.backend c) a = φ from stays c a]
    exact ih a

/-- An attempt ends resolved, or with its write still to be answered. -/
def Ended (w : WriteId) (φ : Phase) : Except WriteError Unit → Prop
  | .ok () => φ = .resolved w
  | .error e => φ.writer? = some w ∧ (∀ v, φ ≠ .resolved v) ∧
    (e.isSuperseded = true → φ = .yielded w)

theorem follows_raceStopped {work : Work} {Q : Phase → Except WriteError Unit → Prop}
    (may : Phase.Permits (B := B) options φ (.raceStopped work))
    (ended : ∀ result : Option (Except RunError Unit),
      Q (Phase.after (B := B) φ (.raceStopped work) result) (.ok ()))
    (failed : ∀ (result : Option (Except RunError Unit)) e,
      Q (Phase.after (B := B) φ (.raceStopped work) result) (.error (.run e))) :
    (raceStopped work : Client B Unit).Follows (protocol B options) φ Q := by
  rw [raceStopped, Prog.follows_bind]
  refine ⟨may, fun result _ => ?_⟩
  cases result with
  | none => exact ended none
  | some answer =>
    cases answer with
    | error e => exact failed (some (.error e)) e
    | ok => exact ended (some (.ok ()))

variable {request : DurableWriteRequest B} {w : WriteId}

theorem follows_retry {attempt : Nat} {error : RunError} {again : Client B Unit}
    (left : attempt < options.attempts)
    (tries : again.Follows (protocol B options) (.running w (attempt + 1)) (Ended w)) :
    (retry options w request attempt error again).Follows (protocol B options)
      (.running w attempt) (Ended w) := by
  have yields : Ended w (.yielded w) (.error (supersededBy request)) :=
    ⟨rfl, nofun, fun _ => rfl⟩
  have fails : ∀ clean e, Ended w (.retrying w attempt clean) (.error (.run e)) :=
    fun _ _ => ⟨rfl, nofun, nofun⟩
  rw [retry, Prog.follows_bind]
  refine ⟨.failing w attempt, fun stopped _ => ?_⟩
  cases stopped with
  | true => exact ⟨rfl, nofun, nofun⟩
  | false =>
    refine ⟨.yielding w attempt, fun superseded _ => ?_⟩
    cases superseded with
    | true => exact yields
    | false =>
      refine ⟨.wait w attempt _, fun _ _ => ⟨.settle w attempt request left, fun id _ => ?_⟩⟩
      change Prog.Follows _ _ (raceStopped (.settle id) >>= _) _
      rw [Prog.follows_bind]
      apply follows_raceStopped (.race w attempt id)
      · intro result
        refine ⟨.yieldingAgain w attempt _, fun superseded _ => ?_⟩
        cases superseded with
        | true => exact yields
        | false =>
          refine ⟨.again w attempt _ left, fun begun _ => ?_⟩
          cases begun with
          | true => exact tries
          | false => exact fails _ error
      · exact fun _ e => fails _ e

theorem follows_attempts (left attempt : Nat) (enough : attempt + left = options.attempts) :
    (attempts options w request left attempt).Follows (protocol B options) (.running w attempt)
      (Ended w) := by
  have fails : ∀ e, Ended w (.running w attempt) (.error (.run e)) := fun _ => ⟨rfl, nofun, nofun⟩
  induction left generalizing attempt with
  | zero =>
    rw [attempts, Prog.follows_bind]
    apply follows_awaited (.run w attempt) (fun _ _ => rfl)
    intro r
    cases r with
    | ok => exact ⟨.resolve w attempt, fun _ _ => rfl⟩
    | error e => exact fails e
  | succ left ih =>
    rw [attempts, Prog.follows_bind]
    apply follows_awaited (.run w attempt) (fun _ _ => rfl)
    intro r
    cases r with
    | ok => exact ⟨.resolve w attempt, fun _ _ => rfl⟩
    | error e =>
      have again := ih (attempt + 1) (by omega) fun _ => ⟨rfl, nofun, nofun⟩
      change Prog.Follows _ _ (ite _ _ _) _
      split
      · exact follows_retry (by omega) again
      · exact fails e

theorem follows_outcome {previous : Option WriteId} :
    (outcome options w previous request).Follows (protocol B options) (.queued w previous)
      (Ended w) := by
  rw [outcome, Prog.follows_bind]
  apply follows_raceStopped (.queued w previous)
  · intro result
    refine ⟨.stopped w previous, fun stopped _ => ?_⟩
    cases stopped with
    | true => exact ⟨rfl, nofun, nofun⟩
    | false =>
      refine ⟨.awaitPrevious w previous, fun _ _ => ⟨.begin w, fun begun _ => ?_⟩⟩
      cases begun with
      | true =>
        have one : 1 ≤ options.attempts := by
          unfold DurableWriteQueueOptions.attempts
          omega
        exact follows_attempts (options.attempts - 1) 1 (by omega)
      | false => exact ⟨rfl, nofun, nofun⟩
  · exact fun _ _ => ⟨rfl, nofun, nofun⟩

theorem follows_reported {previous : Option WriteId} :
    (reported options w previous request).Follows (protocol B options) (.queued w previous)
      fun φ _ => φ = .idle := by
  rw [reported, Prog.follows_bind, Prog.follows_tryCatch, Prog.follows_bind]
  refine follows_outcome.mono fun φ r ended => ?_
  cases r with
  | ok =>
    cases ended
    exact ⟨.succeed w, fun _ _ => rfl⟩
  | error e =>
    obtain ⟨own, unresolved, yields⟩ := ended
    exact ⟨.fail φ w e own unresolved yields, fun _ _ => by cases φ <;> rfl⟩

theorem follows_settled {previous : Option WriteId} :
    (settled w previous request).Follows (protocol B options) (.awaiting w previous)
      fun φ _ => φ = .idle := by
  refine ⟨.awaiting w previous, fun _ _ => ⟨.reported w previous, fun _ _ => ?_⟩⟩
  refine ⟨.close w request, fun id _ => ⟨.closing w id, fun _ _ => ?_⟩⟩
  exact ⟨.closed w, fun _ _ => ⟨.released w, fun _ _ => ⟨.forget w, fun _ _ => rfl⟩⟩⟩

/-- Every call, from where it begins to its end. -/
theorem follows_body (r : Req B) : (body options r).Follows (protocol B options) (Phase.begin r)
    fun φ _ => φ = .idle := by
  cases r with
  | enqueue request => exact ⟨.enqueue request, fun _ _ => rfl⟩
  | drain => exact ⟨.allReleased, fun _ _ => rfl⟩
  | confirm =>
    refine ⟨.ask, fun answer _ => ?_⟩
    exact ⟨.waiting answer.1 answer.2, fun _ _ => ⟨.counting answer.1 answer.2, fun _ _ => rfl⟩⟩
  | stopRetrying => exact ⟨.stopRetrying, fun _ _ => rfl⟩
  | reported w previous request => exact follows_reported
  | settled w previous request => exact follows_settled
  | settle id w request =>
    rw [body, Prog.follows_bind]
    apply follows_awaited (.cleanup id) (fun _ _ => rfl)
    exact fun result => ⟨.finish id result, fun _ _ => rfl⟩
  | task t =>
    rw [body, Prog.follows_bind]
    exact follows_awaited .task (fun _ _ => rfl) fun _ => rfl

theorem body_unsettled (r : Req B) : (body options r).settled = false := by
  cases r with
  | settle id w request =>
    change Prog.settled (Prog.bind (awaited (B.settle w request.op)) _) = false
    cases B.settle w request.op <;> rfl
  | task t =>
    have waits := B.task_waits t
    change Prog.settled (Prog.bind (awaited (B.task t)) _) = false
    cases h : B.task t with
    | op c k => rfl
    | ret a => rw [h] at waits; cases waits
    | fail e => rw [h] at waits; cases waits
  | _ => rfl

end Follows

end BiliSyncPlay.DurableWriteQueue
