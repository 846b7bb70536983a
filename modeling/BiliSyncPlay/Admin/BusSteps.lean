import BiliSyncPlay.Admin.CommandBus

/-!
# What the bus's operations can do

Most of them touch the subscriber's connection alone, or all but it.
-/

namespace BiliSyncPlay.CommandBus

open Json AdminCommands

variable {b t u : Bus} {now : Rat}

/-! ## The subscriber's connection -/

/-- Only the subscriber's connection and what is known of it differ. -/
def SubscriberOnly (b t : Bus) : Prop :=
  t = { b with
    subscriberGeneration := t.subscriberGeneration
    subscriberResetOwed := t.subscriberResetOwed
    subscriberResetInProgress := t.subscriberResetInProgress
    subscriberRestoring := t.subscriberRestoring
    subscriptionRestoreFailures := t.subscriptionRestoreFailures
    resetWaits := t.resetWaits
    restoreWaits := t.restoreWaits
    connection := t.connection
    awaiting := t.awaiting
    submitted := t.submitted }

namespace SubscriberOnly

theorem refl (b : Bus) : SubscriberOnly b b := rfl

theorem trans (first : SubscriberOnly b t) (second : SubscriberOnly t u) : SubscriberOnly b u := by
  unfold SubscriberOnly at *
  rw [second, first]

theorem closing (only : SubscriberOnly b t) : t.closing = b.closing := by rw [only]

theorem desired (only : SubscriberOnly b t) : t.desired = b.desired := by
  rw [only]
  rfl

theorem activeReplyChannels (only : SubscriberOnly b t) :
    t.activeReplyChannels = b.activeReplyChannels := by rw [only]

theorem calls (only : SubscriberOnly b t) : t.calls = b.calls := by rw [only]

end SubscriberOnly

theorem submit_eq_some {owner : Owner} {operation : Operation}
    (submitted : b.submit owner operation = some t) :
    t = { b with
      awaiting := b.awaiting ++ [{
        number := b.submitted, owner, submittedGeneration := b.subscriberGeneration }]
      connection := { b.connection with
        queue := b.connection.queue ++ [(b.submitted, operation)] }
      submitted := b.submitted + 1 } := by
  unfold Bus.submit at submitted
  split at submitted
  · cases submitted
  · exact (Option.some.inj submitted).symm

theorem submit_only {owner : Owner} {operation : Operation}
    (submitted : b.submit owner operation = some t) : SubscriberOnly b t := by
  rw [submit_eq_some submitted]
  rfl

theorem maybeReset_cases (b : Bus) : b.maybeResetSubscriber = b ∧ (b.closing = true ∨
      b.subscriberResetInProgress = true ∨ b.subscriberResetOwed = false ∨
      b.activeReplyChannels ≠ []) ∨
    b.subscriberResetOwed = true ∧ b.activeReplyChannels = [] ∧
      (b.maybeResetSubscriber = { b with
          subscriberResetInProgress := true
          resetWaits := b.resetWaits ++ [b.subscriberGeneration] } ∨
        b.maybeResetSubscriber = { b with
          subscriberResetInProgress := true, connection := .dropped }) := by
  unfold Bus.maybeResetSubscriber
  split
  · next skip =>
    simp only [Bool.not_eq_true] at skip
    exact .inl ⟨rfl, skip⟩
  · next act =>
    simp only [not_or, not_not, ne_eq] at act
    split
    · exact .inr ⟨act.2.2.1, act.2.2.2, .inl rfl⟩
    · exact .inr ⟨act.2.2.1, act.2.2.2, .inr rfl⟩

theorem maybeReset_only (b : Bus) : SubscriberOnly b b.maybeResetSubscriber := by
  rcases maybeReset_cases b with ⟨same, -⟩ | ⟨-, -, made | made⟩
  · rw [same]
    rfl
  · rw [made]
    rfl
  · rw [made]
    rfl

theorem mark_cases (b : Bus) (g : Nat) : b.markSubscriberStateUnknown g = b ∧ (b.closing = true ∨
      g ≠ b.subscriberGeneration ∨ b.subscriberResetInProgress = true) ∨
    g = b.subscriberGeneration ∧ b.subscriberResetInProgress = false ∧
      b.markSubscriberStateUnknown g = { b with subscriberResetOwed := true }.maybeResetSubscriber := by
  unfold Bus.markSubscriberStateUnknown
  split
  · next skip => exact .inl ⟨rfl, skip⟩
  · next act =>
    simp only [not_or, not_not, Bool.not_eq_true, ne_eq] at act
    exact .inr ⟨act.2.1, act.2.2, rfl⟩

theorem mark_only (b : Bus) (g : Nat) : SubscriberOnly b (b.markSubscriberStateUnknown g) := by
  rcases mark_cases b g with ⟨same, -⟩ | ⟨-, -, made⟩
  · rw [same]
    rfl
  · rw [made]
    exact maybeReset_only { b with subscriberResetOwed := true }

theorem resetWaitEnds_only (b : Bus) (g : Nat) : SubscriberOnly b (b.resetWaitEnds g) := by
  unfold Bus.resetWaitEnds
  split
  · rfl
  · exact maybeReset_only { b with subscriberResetInProgress := false }

theorem attempt_only (b : Bus) (g : Nat) :
    SubscriberOnly b (b.attemptRestoreDesiredSubscriptions g) := by
  unfold Bus.attemptRestoreDesiredSubscriptions
  split
  · rfl
  · split
    · rfl
    · split
      · next submitted => exact submit_only submitted
      · rfl

theorem restore_only (b : Bus) : SubscriberOnly b b.restoreDesiredSubscriptions := by
  unfold Bus.restoreDesiredSubscriptions
  dsimp only
  split
  · rfl
  · split
    · rfl
    · exact attempt_only { b with
        subscriberGeneration := b.subscriberGeneration + 1
        subscriberResetInProgress := false
        subscriberResetOwed := false
        subscriberRestoring := true } (b.subscriberGeneration + 1)

theorem restoreSettled_only (b : Bus) (g : Nat) (error : Option JsString) :
    SubscriberOnly b (b.restoreSettled g error) := by
  unfold Bus.restoreSettled
  dsimp only
  split
  · split <;> rfl
  · exact mark_only { b with subscriptionRestoreFailures := _ } g

/-! ## Calls and executions -/

/-- Only calls, executions and the publisher's queue differ. -/
def Elsewhere (b t : Bus) : Prop :=
  t = { b with calls := t.calls, executions := t.executions, outbox := t.outbox }

theorem Elsewhere.closing (elsewhere : Elsewhere b t) : t.closing = b.closing := by
  rw [elsewhere]

/-- Only executions and the publisher's queue differ. -/
def ExecutionsOnly (b t : Bus) : Prop :=
  t = { b with executions := t.executions, outbox := t.outbox }

theorem ExecutionsOnly.elsewhere (only : ExecutionsOnly b t) : Elsewhere b t := by
  unfold Elsewhere
  rw [only]

theorem ExecutionsOnly.requests (only : ExecutionsOnly b t) :
    t.activeReplyChannels = b.activeReplyChannels ∧ t.calls = b.calls := by
  rw [only]
  exact ⟨rfl, rfl⟩

theorem publishCommandResult_only (b : Bus) (execution : Nat) (requestId : JsString)
    (retried : Bool) (result : AdminCommandResult) :
    ExecutionsOnly b (b.publishCommandResult execution requestId retried result) := by
  unfold Bus.publishCommandResult
  split <;> rfl

theorem deliver_elsewhere (b : Bus) (channel : Channel) (payload : Json.Source) :
    Elsewhere b (b.deliver channel payload) := by
  unfold Bus.deliver
  split <;> split <;> rfl

theorem replyTimesOut_elsewhere {call : Nat} (step : b.replyTimesOut now call = some t) :
    Elsewhere b t := by
  simp only [Bus.replyTimesOut, Option.bind_eq_bind, Option.bind_eq_some_iff,
    Option.ite_none_right_eq_some] at step
  obtain ⟨c, -, -, made⟩ := step
  cases Option.some.inj made
  rfl

theorem handlerSettles_only {execution : Nat} {outcome : Except JsString AdminCommandResult}
    (step : b.handlerSettles now execution outcome = some t) : ExecutionsOnly b t := by
  simp only [Bus.handlerSettles, Option.bind_eq_bind, Option.bind_eq_some_iff] at step
  obtain ⟨e, -, step⟩ := step
  split at step
  · cases Option.some.inj step
    exact publishCommandResult_only _ _ _ _ _
  · cases step

theorem resultRetries_only {execution : Nat} (step : b.resultRetries execution = some t) :
    ExecutionsOnly b t := by
  simp only [Bus.resultRetries, Option.bind_eq_bind, Option.bind_eq_some_iff] at step
  obtain ⟨e, -, step⟩ := step
  split at step
  · cases Option.some.inj step
    exact publishCommandResult_only _ _ _ _ _
  · cases step

theorem resultAnswered_only {execution : Nat} {published : Bool}
    (step : b.resultAnswered execution published = some t) : ExecutionsOnly b t := by
  simp only [Bus.resultAnswered, Option.bind_eq_bind, Option.bind_eq_some_iff] at step
  obtain ⟨e, -, step⟩ := step
  split at step
  · cases Option.some.inj step
    rfl
  · cases step

/-- A request that is published waits for its reply, or is finished. -/
theorem publishAnswered_cases {call : Nat} {recipientCount : Option Nat}
    (step : b.publishAnswered now call recipientCount = some t) :
    (∃ requestId answer, t = b.finish call requestId true answer) ∨
      ∃ phase, t = b.setPhase call phase := by
  simp only [Bus.publishAnswered, Option.bind_eq_bind, Option.bind_eq_some_iff] at step
  obtain ⟨c, -, step⟩ := step
  split at step
  · split at step
    · exact .inl ⟨_, _, (Option.some.inj step).symm⟩
    · exact .inl ⟨_, _, (Option.some.inj step).symm⟩
    · exact .inr ⟨_, (Option.some.inj step).symm⟩
  · cases step

theorem resumes_eq_some {call : Nat} (step : b.resumes call = some t) :
    ∃ requestId answer, t = b.finish call requestId true answer := by
  simp only [Bus.resumes, Option.bind_eq_bind, Option.bind_eq_some_iff] at step
  obtain ⟨c, -, step⟩ := step
  split at step
  · exact ⟨_, _, (Option.some.inj step).symm⟩
  · cases step

/-! ## Requests -/

/-- A call that is in its `finally` has an answer, and nothing else happened to the calls. -/
theorem finish_cases (b : Bus) (call : Nat) (requestId : JsString) (mayExist : Bool)
    (answer : Answer) : ∃ phase, (phase = .cleaning answer ∨ phase = .answered answer) ∧
      SubscriberOnly ((b.withoutReply requestId).setPhase call phase)
        (b.finish call requestId mayExist answer) := by
  have reset := maybeReset_only (b.withoutReply requestId)
  have phased {t u : Bus} (only : SubscriberOnly t u) (phase : CallPhase) :
      SubscriberOnly (t.setPhase call phase) (u.setPhase call phase) := by
    rw [only]
    rfl
  unfold Bus.finish
  dsimp only
  split
  · split
    · next submitted =>
      exact ⟨_, .inl rfl, phased (reset.trans (submit_only submitted)) _⟩
    · exact ⟨_, .inr rfl, phased (reset.trans (mark_only _ _)) _⟩
  · exact ⟨_, .inr rfl, phased reset _⟩

theorem finish_closing (b : Bus) (call : Nat) (requestId : JsString) (mayExist : Bool)
    (answer : Answer) : (b.finish call requestId mayExist answer).closing = b.closing := by
  obtain ⟨phase, -, only⟩ := finish_cases b call requestId mayExist answer
  exact only.closing

theorem request_closing (b : Bus) (now : Rat) (command : AdminCommand) :
    (b.request now command).closing = b.closing := by
  unfold Bus.request
  dsimp only
  split
  · rfl
  · split
    · rfl
    · split
      · rfl
      · split
        · rfl
        · split
          · next submitted =>
            have kept := (submit_only submitted).closing
            exact kept
          · exact finish_closing _ _ _ _ _

theorem replySettled_closing (b : Bus) (now : Rat) (call g : Nat) (error : Option JsString) :
    (b.replySettled now call g error).closing = b.closing := by
  unfold Bus.replySettled
  split
  · rfl
  · dsimp only
    split
    · exact (finish_closing _ _ _ _ _).trans (mark_only _ _).closing
    · split
      · exact finish_closing _ _ _ _ _
      · split
        · exact finish_closing _ _ _ _ _
        · rfl

theorem cleanupSettled_closing (b : Bus) (call g : Nat) (error : Option JsString) :
    (b.cleanupSettled call g error).closing = b.closing := by
  unfold Bus.cleanupSettled
  dsimp only
  split
  · exact (mark_only _ _).closing
  · rfl

/-! ## Registrations -/

/-- No request and no handler at work is any further. -/
def SameTraffic (b t : Bus) : Prop :=
  SubscriberOnly { b with
    handlers := t.handlers
    registered := t.registered
    disconnectThrows := t.disconnectThrows
    publisherResetting := t.publisherResetting } t

theorem SameTraffic.closing (same : SameTraffic b t) : t.closing = b.closing := by
  rw [same]

theorem SameTraffic.requests (same : SameTraffic b t) :
    t.activeReplyChannels = b.activeReplyChannels ∧ t.calls = b.calls := by
  rw [same]
  exact ⟨rfl, rfl⟩

theorem SubscriberOnly.traffic (only : SubscriberOnly b t) : SameTraffic b t := by
  unfold SameTraffic
  rw [only]
  rfl

theorem registrationSettled_traffic (b : Bus) (instanceId : JsString) (handler g : Nat)
    (error : Option JsString) : SameTraffic b (b.registrationSettled instanceId handler g error) := by
  unfold Bus.registrationSettled
  split
  · have marked := mark_only b g
    generalize b.markSubscriberStateUnknown g = after at *
    have reset := maybeReset_only (after.unregister instanceId handler)
    unfold SameTraffic
    rw [reset, marked]
    rfl
  · split
    · dsimp only
      split
      · rfl
      · exact (mark_only _ _).traffic
    · rfl

theorem subscribe_traffic (b : Bus) (instanceId : JsString) (handler : Nat) :
    SameTraffic b (b.subscribe instanceId handler) := by
  unfold Bus.subscribe
  split
  · rfl
  · dsimp only
    split
    · next submitted =>
      have only := (submit_only submitted).traffic
      exact only
    · exact (maybeReset_only _).traffic

theorem unsubscribe_traffic (b : Bus) (instanceId : JsString) (handler : Nat) :
    SameTraffic b (b.unsubscribe instanceId handler) := by
  unfold Bus.unsubscribe
  split
  · rfl
  · dsimp only
    split
    · rfl
    · split
      · exact (maybeReset_only _).traffic
      · split
        · next submitted =>
          have only := (submit_only submitted).traffic
          exact only
        · exact (mark_only _ _).traffic

/-! ## Steps -/

theorem settles_eq_some {number : Nat} {error : Option JsString}
    (settled : b.settles now number error = some t) :
    ∃ a, b.awaiting.find? (·.number = number) = some a ∧ ∃ rest, rest = { b with
        awaiting := b.awaiting.erase a } ∧
      (SameTraffic b t ∨
        (∃ call, a.owner = .reply call ∧
          t = rest.replySettled now call a.submittedGeneration error) ∨
        ∃ call, a.owner = .cleanup call ∧
          t = rest.cleanupSettled call a.submittedGeneration error) := by
  unfold Bus.settles at settled
  split at settled
  · cases settled
  · next a found =>
    split at settled
    · cases settled
    · refine ⟨a, found, _, rfl, ?_⟩
      dsimp only at settled
      cases Option.some.inj settled
      split
      · next owner => exact .inr (.inl ⟨_, owner, rfl⟩)
      · next owner => exact .inr (.inr ⟨_, owner, rfl⟩)
      · exact .inl (registrationSettled_traffic { b with awaiting := b.awaiting.erase a } _ _ _ _)
      · split
        · exact .inl (mark_only { b with awaiting := b.awaiting.erase a } _).traffic
        · exact .inl rfl
      · exact .inl (restoreSettled_only { b with awaiting := b.awaiting.erase a } _ _).traffic

/-- Which events leave requests and handlers at work alone. -/
def isQuiet : Event → Bool
  | .subscribe .. | .unsubscribe .. | .resetWaitEnds _ | .restoreWaitEnds _ | .executes
  | .connectionLost | .ready | .turns .. => true
  | _ => false

theorem exec_traffic {event : Event} (quiet : isQuiet event = true)
    (step : b.exec now event = some t) : SameTraffic b t := by
  cases event with
  | subscribe instanceId handler =>
    cases Option.some.inj step
    exact subscribe_traffic _ _ _
  | unsubscribe instanceId handler =>
    obtain ⟨-, made⟩ := Option.ite_none_right_eq_some.mp step
    cases made
    exact unsubscribe_traffic _ _ _
  | resetWaitEnds g =>
    obtain ⟨-, made⟩ := Option.ite_none_right_eq_some.mp step
    cases Option.some.inj made
    exact (resetWaitEnds_only { b with resetWaits := b.resetWaits.erase g } g).traffic
  | restoreWaitEnds g =>
    obtain ⟨-, made⟩ := Option.ite_none_right_eq_some.mp step
    cases Option.some.inj made
    exact (attempt_only { b with restoreWaits := b.restoreWaits.erase g } g).traffic
  | executes =>
    simp only [Bus.exec] at step
    split at step
    · cases step
    · cases Option.some.inj step
      rfl
  | connectionLost =>
    cases Option.some.inj step
    rfl
  | ready =>
    obtain ⟨-, made⟩ := Option.ite_none_right_eq_some.mp step
    dsimp only at made
    split at made
    · cases Option.some.inj made
      rfl
    · cases Option.some.inj made
      exact (restore_only { b with
        connection := { b.connection with reconnecting := false } }).traffic
  | turns disconnectThrows publisherResetting =>
    cases Option.some.inj step
    rfl
  | request _ | close | settles _ _ | publishAnswered _ _ | replyTimesOut _ | resumes _
  | deliver _ _ | handlerSettles _ _ | resultRetries _ | resultAnswered _ _ => cases quiet

/-- A bus that is closed stays closed. -/
theorem exec_closing {event : Event} (step : b.exec now event = some t)
    (closed : b.closing = true) : t.closing = true := by
  rw [← closed]
  cases event with
  | subscribe _ _ | unsubscribe _ _ | resetWaitEnds _ | restoreWaitEnds _ | executes
  | connectionLost | ready | turns _ _ => exact (exec_traffic rfl step).closing
  | request command =>
    cases Option.some.inj step
    exact request_closing _ _ _
  | close =>
    cases Option.some.inj step
    exact closed.symm
  | settles number error =>
    obtain ⟨a, -, rest, rfl, same | ⟨call, -, rfl⟩ | ⟨call, -, rfl⟩⟩ := settles_eq_some step
    · exact same.closing
    · exact replySettled_closing _ _ _ _ _
    · exact cleanupSettled_closing _ _ _ _
  | publishAnswered call recipientCount =>
    rcases publishAnswered_cases step with ⟨requestId, answer, rfl⟩ | ⟨phase, rfl⟩
    · exact finish_closing _ _ _ _ _
    · rfl
  | replyTimesOut call => exact (replyTimesOut_elsewhere step).closing
  | resumes call =>
    obtain ⟨requestId, answer, rfl⟩ := resumes_eq_some step
    exact finish_closing _ _ _ _ _
  | deliver channel payload =>
    cases Option.some.inj step
    exact (deliver_elsewhere _ _ _).closing
  | handlerSettles execution outcome => exact (handlerSettles_only step).elsewhere.closing
  | resultRetries execution => exact (resultRetries_only step).elsewhere.closing
  | resultAnswered execution published => exact (resultAnswered_only step).elsewhere.closing

end BiliSyncPlay.CommandBus
