import BiliSyncPlay.Admin.AdminCommands
import BiliSyncPlay.OrderedDrain
import Mathlib.Logic.Relation

/-!
# Carrying out admin commands

`createAdminCommandConsumer` over any number of commands at once: the effect of a kick outlives the
answer to it, and `close` drains what is running within one budget. Times are in milliseconds. A
step is one synchronous stretch with the promise callbacks it causes.
-/

namespace BiliSyncPlay.CommandConsumer

open Json RedisRoomStore AdminCommands OrderedDrain

structure Options where
  instanceId : JsString
  memberEvictionConfirmTimeoutMs : Nat := 4000
  closeBudgetMs : Nat := 4000
  closeBudgetMs_le : closeBudgetMs ≤ MAX_TIMER_INTERVAL_MS := by decide

/-- What the consumer reads of a session. -/
structure Session where
  id : JsString
  /-- The node lists it. -/
  registered : Bool
  roomCode : Option JsString
  memberId : Option JsString
  memberToken : Option JsString
  deriving DecidableEq

/-- `getLocalSession`, and `listLocalSessionsByRoom` with its `find`. -/
def wants (kind : CommandKind) (session : Session) : Bool :=
  session.registered && match kind with
    | .disconnectSession sessionId => decide (session.id = sessionId)
    | .kickMember roomCode memberId =>
      decide (session.roomCode = some roomCode) && decide (session.memberId = some memberId)

inductive FailureCode where
  | blockFailed | disconnectFailed
  deriving DecidableEq

inductive Stage where
  /-- `runKickEffect` runs in a microtask. -/
  | queued
  | evicting
  | disconnecting
  | ended (failure : Option FailureCode)
  deriving DecidableEq

/-- What a command does to the session it found. -/
structure Effect where
  session : Nat
  found : Session
  stage : Stage
  deriving DecidableEq

/-- The calls an effect makes, and the log lines about it. -/
inductive Act where
  | evictMemberToken (roomCode memberId memberToken : JsString) (blockedUntil : Nat)
  | disconnectSessionSocket (session : Nat) (reason : String)
  /-- `admin_command_executed`. -/
  | executed (failure : Option FailureCode) (blockApplied : Bool)
  /-- `admin_command_confirmation_timed_out`. -/
  | confirmationTimedOut
  deriving DecidableEq

/-- A call of `dispatchCommand`. -/
structure Handling where
  command : AdminCommand
  dispatchedAt : Nat
  /-- It was not refused: `commandHandlerPacer` tracks it until it answers. -/
  accepted : Bool
  effect : Option Effect := none
  answer : Option AdminCommandResult := none
  acts : List Act := []
  deriving DecidableEq

def answerTo (options : Options) (command : AdminCommand) (outcome : Outcome) (completedAt : Nat) :
    AdminCommandResult where
  requestId := command.requestId
  targetInstanceId := command.targetInstanceId
  executorInstanceId := options.instanceId
  outcome := outcome
  completedAt := completedAt

def refused : Outcome :=
  .failed .staleTarget (js "command_consumer_closed") (js "Target instance is shutting down.")

def notFound : CommandKind → Outcome
  | .disconnectSession _ => .failed .notFound (js "session_not_found") (js "Session not found.")
  | .kickMember .. => .failed .notFound (js "member_not_found") (js "Member not found.")

def unconfirmed : Outcome :=
  .unconfirmed (js "block_unconfirmed")
    (js "Member eviction was not confirmed before the deadline.")

def reasonOf : CommandKind → String
  | .disconnectSession _ => "Admin disconnected session"
  | .kickMember .. => "Admin kicked member"

/-! ## One handler -/

namespace Handling

/-- `if (memberToken)` of a kick. -/
def token (h : Handling) (e : Effect) : Option JsString :=
  match h.command.kind with
  | .disconnectSession _ => none
  | .kickMember .. => e.found.memberToken.filter fun token => !token.isEmpty

def eviction (h : Handling) (e : Effect) (blockedUntil : Nat) : List Act :=
  match h.command.kind, h.token e with
  | .kickMember roomCode memberId, some token =>
    [.evictMemberToken roomCode memberId token blockedUntil]
  | _, _ => []

def disconnection (h : Handling) (e : Effect) : Act :=
  .disconnectSessionSocket e.session (reasonOf h.command.kind)

def disconnect (e : Effect) (h : Handling) : Handling :=
  { h with
    effect := some { e with stage := .disconnecting }
    acts := h.acts ++ [h.disconnection e] }

/-- `runKickEffect`, up to its first await. -/
def runKickEffect (now : Nat) (e : Effect) (h : Handling) : Handling :=
  if (h.token e).isSome then
    { h with
      effect := some { e with stage := .evicting }
      acts := h.acts ++ h.eviction e (now + 60000) }
  else h.disconnect e

/-- What the handler answers when its effect ends; `roomCode` is that of the session by then. -/
def outcome (h : Handling) (e : Effect) (roomCode : Option JsString) :
    Option FailureCode → Outcome
  | none =>
    match h.command.kind with
    | .disconnectSession sessionId => .ok roomCode none (some sessionId)
    | .kickMember room memberId => .ok (some room) (some memberId) (some e.found.id)
  | some .blockFailed =>
    .failed .error (js "block_failed") (js "Failed to block member token.")
  | some .disconnectFailed =>
    .failed .error (js "disconnect_failed") <| match h.command.kind with
      | .disconnectSession _ => js "Failed to disconnect session."
      | .kickMember .. =>
        if (h.token e).isSome then
          js "Member token was blocked but the session disconnect failed."
        else js "Failed to disconnect member session."

def blockApplied (h : Handling) (e : Effect) (failure : Option FailureCode) : Bool :=
  decide (failure = some .disconnectFailed) && (h.token e).isSome

def finish (options : Options) (now : Nat) (roomCode : Option JsString) (e : Effect)
    (failure : Option FailureCode) (h : Handling) : Handling :=
  { h with
    effect := some { e with stage := .ended failure }
    acts := h.acts ++ [.executed failure (h.blockApplied e failure)]
    answer := h.answer.or (some (answerTo options h.command (h.outcome e roomCode failure) now)) }

/-- The confirmation cap answers, the effect goes on. -/
def giveUp (options : Options) (now : Nat) (h : Handling) : Handling :=
  { h with
    acts := h.acts ++ [.confirmationTimedOut]
    answer := some (answerTo options h.command unconfirmed now) }

def isTracked (h : Handling) : Bool :=
  h.accepted && h.answer.isNone

/-- `memberEvictionPacer` tracks the effect of a kick with a token until it ends. -/
def isEvicting (h : Handling) : Bool :=
  h.effect.any fun e => (h.token e).isSome && match e.stage with
    | .ended _ => false
    | .queued | .evicting | .disconnecting => true

end Handling

/-! ## The consumer -/

/-- The two pacers, in the order in which they are drained. -/
def Handling.counts : Nat → Handling → Bool
  | 0 => Handling.isTracked
  | 1 => Handling.isEvicting
  | _ => fun _ => false

inductive Drain where
  | handlers (snapshot : List Nat)
  | evictions (snapshot : List Nat)
  | settled
  deriving DecidableEq

/-- `admin_command_consumer_close_unfinished`. -/
structure Unfinished where
  pendingHandlers : Nat
  pendingMemberEvictions : Nat
  unsubscribePending : Bool
  deriving DecidableEq

/-- How `closeConsumer` ended; it throws when unsubscribing failed. -/
structure Ended where
  endedAt : Nat
  report : Option Unfinished
  threw : Bool
  deriving DecidableEq

structure Closing where
  startedAt : Nat
  /-- Whether `unsubscribe` succeeded, once it has settled. -/
  unsubscribed : Option Bool := none
  drain : Drain
  ended : Option Ended := none
  deriving DecidableEq

structure Consumer where
  now : Nat := 0
  sessions : List Session := []
  handlings : List Handling := []
  closing : Option Closing := none
  deriving DecidableEq

namespace Consumer

def those (which : Handling → Bool) (p : Consumer) : List Nat :=
  places which p.handlings

def update (i : Nat) (h : Handling) (p : Consumer) : Consumer :=
  { p with handlings := p.handlings.set i h }

def roomCodeOf (e : Effect) (p : Consumer) : Option JsString :=
  p.sessions[e.session]?.bind (·.roomCode)

/-- The order in which the node lists its sessions is left open. -/
def Finds (kind : CommandKind) (p : Consumer) : Option (Nat × Session) → Prop
  | some (k, session) => p.sessions[k]? = some session ∧ wants kind session = true
  | none => ∀ session ∈ p.sessions, wants kind session = false

def dispatchCommand (options : Options) (command : AdminCommand) (found : Option (Nat × Session))
    (p : Consumer) : Consumer :=
  let handling : Handling :=
    if p.closing.isSome then
      { command, dispatchedAt := p.now, accepted := false
        answer := some (answerTo options command refused p.now) }
    else
      match found with
      | none =>
        { command, dispatchedAt := p.now, accepted := true
          answer := some (answerTo options command (notFound command.kind) p.now) }
      | some (session, found) =>
        let h : Handling :=
          { command, dispatchedAt := p.now, accepted := true
            effect := some { session, found, stage := .queued } }
        match command.kind with
        | .disconnectSession _ => h.disconnect { session, found, stage := .queued }
        | .kickMember .. => h
  { p with handlings := p.handlings ++ [handling] }

def close (p : Consumer) : Consumer :=
  match p.closing with
  | some _ => p
  | none =>
    { p with
      closing := some { startedAt := p.now, drain := .handlers (p.those Handling.isTracked) } }

/-- What `settleAcceptedEffects` does once its handlers are done or its time is over. -/
def drainHandlers (options : Options) (c : Closing) (p : Consumer) : Consumer :=
  { p with
    closing := some { c with
      drain :=
        if p.now < c.startedAt + options.closeBudgetMs then
          .evictions (p.those Handling.isEvicting)
        else .settled } }

def drainEvictions (c : Closing) (p : Consumer) : Consumer :=
  { p with closing := some { c with drain := .settled } }

def unsubscribe (ok : Bool) (c : Closing) (p : Consumer) : Consumer :=
  { p with closing := some { c with unsubscribed := some ok } }

def report (settled : Bool) (c : Closing) (p : Consumer) : Option Unfinished :=
  let pendingHandlers := (p.those Handling.isTracked).length
  let pendingMemberEvictions := (p.those Handling.isEvicting).length
  if !settled || c.unsubscribed.isNone || decide (0 < pendingHandlers) ||
      decide (0 < pendingMemberEvictions) then
    some { pendingHandlers, pendingMemberEvictions, unsubscribePending := c.unsubscribed.isNone }
  else none

def endClose (settled : Bool) (c : Closing) (p : Consumer) : Consumer :=
  { p with
    closing := some { c with
      ended := some
        { endedAt := p.now, report := p.report settled c, threw := c.unsubscribed = some false } } }

end Consumer

inductive Step (options : Options) : Consumer → Consumer → Prop where
  | elapse (p : Consumer) (ms : Nat) : Step options p { p with now := p.now + ms }
  | joined (p : Consumer) (session : Session) :
    Step options p { p with sessions := p.sessions ++ [session] }
  | moved (p : Consumer) (k : Nat) (old session : Session) (there : p.sessions[k]? = some old)
    (same : session.id = old.id) : Step options p { p with sessions := p.sessions.set k session }
  | dispatched (p : Consumer) (command : AdminCommand) (found : Option (Nat × Session))
    (finds : p.Finds command.kind found) : Step options p (p.dispatchCommand options command found)
  | started (p : Consumer) (i : Nat) (h : Handling) (e : Effect)
    (there : p.handlings[i]? = some h) (effect : h.effect = some e) (stage : e.stage = .queued) :
    Step options p (p.update i (h.runKickEffect p.now e))
  | evicted (p : Consumer) (i : Nat) (h : Handling) (e : Effect) (ok : Bool)
    (there : p.handlings[i]? = some h) (effect : h.effect = some e) (stage : e.stage = .evicting) :
    Step options p (p.update i (if ok then h.disconnect e
      else h.finish options p.now (p.roomCodeOf e) e (some .blockFailed)))
  | disconnected (p : Consumer) (i : Nat) (h : Handling) (e : Effect) (ok : Bool)
    (there : p.handlings[i]? = some h) (effect : h.effect = some e)
    (stage : e.stage = .disconnecting) :
    Step options p (p.update i (h.finish options p.now (p.roomCodeOf e) e
      (if ok then none else some .disconnectFailed)))
  | confirmationTimedOut (p : Consumer) (i : Nat) (h : Handling) (e : Effect)
    (there : p.handlings[i]? = some h) (effect : h.effect = some e)
    (capped : (h.token e).isSome = true) (waits : h.answer = none)
    (due : timer h.dispatchedAt options.memberEvictionConfirmTimeoutMs ≤ p.now) :
    Step options p (p.update i (h.giveUp options p.now))
  | closed (p : Consumer) : Step options p p.close
  | unsubscribed (p : Consumer) (c : Closing) (ok : Bool) (closing : p.closing = some c)
    (pending : c.unsubscribed = none) (running : c.ended = none) :
    Step options p (p.unsubscribe ok c)
  | handlersDrained (p : Consumer) (c : Closing) (snapshot : List Nat)
    (closing : p.closing = some c) (drain : c.drain = .handlers snapshot) (running : c.ended = none)
    (enough : (∀ i ∈ snapshot, i ∉ p.those Handling.isTracked) ∨
      timer c.startedAt options.closeBudgetMs ≤ p.now) :
    Step options p (p.drainHandlers options c)
  | evictionsDrained (p : Consumer) (c : Closing) (snapshot : List Nat)
    (closing : p.closing = some c) (drain : c.drain = .evictions snapshot)
    (running : c.ended = none)
    (enough : (∀ i ∈ snapshot, i ∉ p.those Handling.isEvicting) ∨
      timer c.startedAt options.closeBudgetMs ≤ p.now) :
    Step options p (p.drainEvictions c)
  | closeSettled (p : Consumer) (c : Closing) (closing : p.closing = some c)
    (running : c.ended = none) (drain : c.drain = .settled) (unsubscribed : c.unsubscribed ≠ none) :
    Step options p (p.endClose true c)
  | closeTimedOut (p : Consumer) (c : Closing) (closing : p.closing = some c)
    (running : c.ended = none) (due : timer c.startedAt options.closeBudgetMs ≤ p.now) :
    Step options p (p.endClose false c)

def Reachable (options : Options) : Consumer → Prop :=
  Relation.ReflTransGen (Step options) {}

/-! ## What becomes of a command -/

namespace Handling

/-- Its calls and its report, without the report of a wait that was cut short. -/
def performed (h : Handling) : List Act :=
  h.acts.filter fun act => act ≠ .confirmationTimedOut

/-- What an effect has done by its stage. -/
def course (h : Handling) (e : Effect) (blockedUntil : Nat) : List Act :=
  match e.stage with
  | .queued => []
  | .evicting => h.eviction e blockedUntil
  | .disconnecting => h.eviction e blockedUntil ++ [h.disconnection e]
  | .ended (some .blockFailed) =>
    h.eviction e blockedUntil ++ [.executed (some .blockFailed) false]
  | .ended failure =>
    h.eviction e blockedUntil ++ [h.disconnection e, .executed failure (h.blockApplied e failure)]

structure Performed (h : Handling) (e : Effect) : Prop where
  accepted : h.accepted = true
  found : wants h.command.kind e.found = true
  course : ∃ blockedUntil, h.dispatchedAt + 60000 ≤ blockedUntil ∧
    h.performed = h.course e blockedUntil
  evicts : e.stage = .evicting ∨ e.stage = .ended (some .blockFailed) → (h.token e).isSome = true

/-- What the answer says of the effect. -/
def Answered (options : Options) (h : Handling) (e : Effect) : Prop :=
  match h.answer with
  | none => (∀ failure, e.stage ≠ .ended failure) ∧ .confirmationTimedOut ∉ h.acts
  | some result =>
    ((h.token e).isSome = true ∧ h.acts.count .confirmationTimedOut = 1 ∧
      ∃ completedAt, timer h.dispatchedAt options.memberEvictionConfirmTimeoutMs ≤ completedAt ∧
        result = answerTo options h.command unconfirmed completedAt) ∨
    (.confirmationTimedOut ∉ h.acts ∧ ∃ failure roomCode completedAt, e.stage = .ended failure ∧
      result = answerTo options h.command (h.outcome e roomCode failure) completedAt)

structure Valid (options : Options) (now : Nat) (h : Handling) : Prop where
  began : h.dispatchedAt ≤ now
  idle : h.effect = none → h.answer.isSome = true ∧ h.acts = []
  performed : ∀ e, h.effect = some e → h.Performed e
  answered : ∀ e, h.effect = some e → h.Answered options e

end Handling

section Handlings

variable {options : Options} {now : Nat} {h : Handling} {e : Effect} {blockedUntil : Nat}

theorem Handling.eviction_of_token (untokened : (h.token e).isSome = false) (blockedUntil : Nat) :
    h.eviction e blockedUntil = [] := by
  have missing : h.token e = none := by simpa using untokened
  unfold Handling.eviction
  rw [missing]
  cases h.command.kind <;> rfl

theorem Handling.performed_eviction :
    (h.eviction e blockedUntil).filter (fun act => act ≠ .confirmationTimedOut) =
      h.eviction e blockedUntil := by
  unfold Handling.eviction
  split <;> simp

theorem Handling.notMem_eviction : .confirmationTimedOut ∉ h.eviction e blockedUntil := by
  unfold Handling.eviction
  split <;> simp

theorem Handling.Valid.later (valid : h.Valid options now) (ms : Nat) :
    h.Valid options (now + ms) :=
  { valid with began := by have began := valid.began; omega }

/-- The next act of an effect that is not answered by it. -/
theorem Handling.Answered.proceed (answered : h.Answered options e) {acts : List Act}
    {stage : Stage} (plain : .confirmationTimedOut ∉ acts)
    (before : ∀ failure, e.stage ≠ .ended failure) (after : ∀ failure, stage ≠ .ended failure) :
    ({ h with
      effect := some { e with stage }
      acts := h.acts ++ acts } : Handling).Answered options { e with stage } := by
  unfold Handling.Answered at answered ⊢
  split at answered
  · next open_ =>
    rw [open_]
    refine ⟨after, ?_⟩
    rw [List.mem_append]
    exact fun mem => mem.elim answered.2 plain
  · next result given =>
    rw [given]
    rcases answered with ⟨capped, once, cut⟩ | ⟨-, failure, -, -, ended, -⟩
    · refine .inl ⟨capped, ?_, cut⟩
      change (h.acts ++ acts).count _ = 1
      rw [List.count_append, once, List.count_eq_zero_of_not_mem plain]
    · exact absurd ended (before failure)

theorem Handling.Valid.disconnect (valid : h.Valid options now) (effect : h.effect = some e)
    (stage : e.stage = .evicting ∨ e.stage = .queued ∧ (h.token e).isSome = false) :
    (h.disconnect e).Valid options now := by
  have performed := valid.performed e effect
  constructor
  · exact valid.began
  · intro idle
    cases idle
  · rintro _ ⟨⟩
    refine ⟨performed.accepted, performed.found, ?_, ?_⟩
    · obtain ⟨blockedUntil, late, course⟩ := performed.course
      refine ⟨blockedUntil, late, ?_⟩
      have acts : (h.disconnect e).performed = h.performed ++ [h.disconnection e] := by
        simp [Handling.performed, Handling.disconnect, Handling.disconnection]
      rw [acts, course]
      rcases stage with evicting | ⟨queued, untokened⟩
      · simp only [Handling.course, evicting]
        rfl
      · simp only [Handling.course, queued, List.nil_append]
        change _ = h.eviction e blockedUntil ++ [h.disconnection e]
        rw [Handling.eviction_of_token untokened, List.nil_append]
    · simp
  · rintro _ ⟨⟩
    apply (valid.answered e effect).proceed
    · simp [Handling.disconnection]
    · intro failure ended
      rw [ended] at stage
      simp at stage
    · simp

theorem Handling.Valid.runKickEffect (valid : h.Valid options now) (effect : h.effect = some e)
    (stage : e.stage = .queued) : (h.runKickEffect now e).Valid options now := by
  unfold Handling.runKickEffect
  split
  · next capped =>
    have performed := valid.performed e effect
    have began := valid.began
    constructor
    · exact began
    · intro idle
      cases idle
    · rintro _ ⟨⟩
      refine ⟨performed.accepted, performed.found, ⟨now + 60000, ?_, ?_⟩, ?_⟩
      · change h.dispatchedAt + 60000 ≤ now + 60000
        omega
      · obtain ⟨_, -, course⟩ := performed.course
        simp only [Handling.course, stage] at course
        change (h.acts ++ h.eviction e (now + 60000)).filter _ = h.eviction e (now + 60000)
        rw [List.filter_append, Handling.performed_eviction]
        change h.performed ++ _ = _
        rw [course, List.nil_append]
      · exact fun _ => capped
    · rintro _ ⟨⟩
      apply (valid.answered e effect).proceed Handling.notMem_eviction
      · simp [stage]
      · simp
  · next untokened => exact valid.disconnect effect (.inr ⟨stage, by simpa using untokened⟩)

theorem Handling.Valid.finish (valid : h.Valid options now) (effect : h.effect = some e)
    (failure : Option FailureCode) (roomCode : Option JsString)
    (stage : if failure = some .blockFailed then e.stage = .evicting
      else e.stage = .disconnecting) :
    (h.finish options now roomCode e failure).Valid options now := by
  have performed := valid.performed e effect
  have running : ∀ failure, e.stage ≠ .ended failure := by
    intro _ ended
    rw [ended] at stage
    split at stage <;> cases stage
  constructor
  · exact valid.began
  · intro idle
    cases idle
  · rintro _ ⟨⟩
    refine ⟨performed.accepted, performed.found, ?_, ?_⟩
    · obtain ⟨blockedUntil, late, course⟩ := performed.course
      refine ⟨blockedUntil, late, ?_⟩
      have acts : (h.finish options now roomCode e failure).performed =
          h.performed ++ [.executed failure (h.blockApplied e failure)] := by
        simp [Handling.performed, Handling.finish]
      rw [acts, course]
      split at stage
      · next blocked =>
        subst blocked
        simp only [Handling.course, stage]
        rfl
      · next unblocked =>
        simp only [Handling.course, stage, List.append_assoc, List.singleton_append]
        cases failure with
        | none => rfl
        | some code =>
          cases code with
          | blockFailed => exact absurd rfl unblocked
          | disconnectFailed => rfl
    · rintro (evicting | blocked)
      · cases evicting
      · cases blocked
        exact performed.evicts (.inl (by simpa using stage))
  · rintro _ ⟨⟩
    have answered := valid.answered e effect
    unfold Handling.Answered at answered ⊢
    split at answered
    · next open_ =>
      simp only [Handling.finish, open_, Option.none_or]
      refine .inr ⟨?_, failure, roomCode, now, rfl, rfl⟩
      simp [answered.2]
    · next result given =>
      simp only [Handling.finish, given, Option.some_or]
      rcases answered with ⟨capped, once, cut⟩ | ⟨-, early, -, -, ended, -⟩
      · refine .inl ⟨capped, ?_, cut⟩
        rw [List.count_append, once]
        simp
      · exact absurd ended (running early)

theorem Handling.Valid.giveUp (valid : h.Valid options now) (effect : h.effect = some e)
    (capped : (h.token e).isSome = true) (waits : h.answer = none)
    (due : timer h.dispatchedAt options.memberEvictionConfirmTimeoutMs ≤ now) :
    (h.giveUp options now).Valid options now := by
  have performed := valid.performed e effect
  have answered := valid.answered e effect
  rw [Handling.Answered, waits] at answered
  have same : (h.giveUp options now).effect = some e := effect
  constructor
  · exact valid.began
  · intro idle
    rw [same] at idle
    cases idle
  · intro other found
    rw [same] at found
    cases found
    refine ⟨performed.accepted, performed.found, ?_, performed.evicts⟩
    obtain ⟨blockedUntil, late, course⟩ := performed.course
    refine ⟨blockedUntil, late, ?_⟩
    have acts : (h.giveUp options now).performed = h.performed := by
      simp [Handling.performed, Handling.giveUp]
    rw [acts, course]
    rfl
  · intro other found
    rw [same] at found
    cases found
    refine .inl ⟨capped, ?_, now, due, rfl⟩
    simp only [Handling.giveUp, List.count_append, List.count_eq_zero_of_not_mem answered.2]
    simp

end Handlings

section Runs

variable {options : Options} {p p' : Consumer} {i : Nat} {h : Handling} {c : Closing}

def AllValid (options : Options) (p : Consumer) : Prop :=
  ∀ (i : Nat) (h : Handling), p.handlings[i]? = some h → h.Valid options p.now

theorem AllValid.update (all : AllValid options p) (i : Nat) (valid : h.Valid options p.now) :
    AllValid options (p.update i h) := by
  intro j other there
  rcases getElem?_set_cases there with ⟨-, rfl⟩ | ⟨-, before⟩
  · exact valid
  · exact all j other before

/-- What is dispatched finds the session as it was asked for, or is answered at once. -/
theorem AllValid.dispatchCommand (all : AllValid options p) {command : AdminCommand}
    {found : Option (Nat × Session)} (finds : p.Finds command.kind found) :
    AllValid options (p.dispatchCommand options command found) := by
  intro j other there
  rcases getElem?_concat_cases there with ⟨-, rfl⟩ | ⟨-, before⟩
  · split
    · exact ⟨Nat.le_refl _, fun _ => ⟨rfl, rfl⟩, by simp, by simp⟩
    · cases found with
      | none => exact ⟨Nat.le_refl _, fun _ => ⟨rfl, rfl⟩, by simp, by simp⟩
      | some pair =>
        obtain ⟨k, session⟩ := pair
        have queued : ({
            command, dispatchedAt := p.now, accepted := true
            effect := some ⟨k, session, .queued⟩ } : Handling).Valid options p.now := by
          constructor
          · exact Nat.le_refl _
          · intro idle
            cases idle
          · rintro _ ⟨⟩
            exact ⟨rfl, finds.2, ⟨_, Nat.le_refl _, rfl⟩, by simp⟩
          · rintro _ ⟨⟩
            exact ⟨by simp, by simp⟩
        cases kind : command.kind with
        | disconnectSession sessionId =>
          apply queued.disconnect rfl
          exact .inr ⟨rfl, by simp [Handling.token, kind]⟩
        | kickMember roomCode memberId => exact queued
  · exact all j other before

theorem Step.allValid (step : Step options p p') (all : AllValid options p) :
    AllValid options p' := by
  cases step with
  | elapse ms => exact fun i h there => (all i h there).later ms
  | joined session => exact all
  | moved k old session there same => exact all
  | dispatched command found finds => exact all.dispatchCommand finds
  | started i h e there effect stage =>
    exact all.update i ((all i h there).runKickEffect effect stage)
  | evicted i h e ok there effect stage =>
    apply all.update
    cases ok with
    | true => exact (all i h there).disconnect effect (.inl stage)
    | false => exact (all i h there).finish effect _ _ (by simpa using stage)
  | disconnected i h e ok there effect stage =>
    apply all.update
    cases ok with
    | true => exact (all i h there).finish effect _ _ (by simpa using stage)
    | false => exact (all i h there).finish effect _ _ (by simpa using stage)
  | confirmationTimedOut i h e there effect capped waits due =>
    exact all.update i ((all i h there).giveUp effect capped waits due)
  | closed =>
    unfold Consumer.close
    split <;> exact all
  | unsubscribed c ok closing pending running => exact all
  | handlersDrained c snapshot closing drain running enough => exact all
  | evictionsDrained c snapshot closing drain running enough => exact all
  | closeSettled c closing running drain unsubscribed => exact all
  | closeTimedOut c closing running due => exact all

theorem Reachable.allValid (reached : Reachable options p) : AllValid options p := by
  induction reached with
  | refl => simp [AllValid]
  | tail _ step ih => exact step.allValid ih

end Runs

/-! ## Where an effect comes from -/

/-- The dispatch of a command, and what is left of the session it found. -/
structure Consumer.Found (options : Options) (i : Nat) (h : Handling) (e : Effect) (p : Consumer) :
    Prop where
  /-- The state in which it was dispatched. -/
  dispatched : ∃ before : Consumer, Reachable options before ∧
    Relation.ReflTransGen (Step options) before p ∧ before.handlings.length = i ∧
    before.now = h.dispatchedAt ∧ before.closing = none ∧
    before.sessions[e.session]? = some e.found ∧ wants h.command.kind e.found = true
  /-- The effect still goes to that session. -/
  now : ∃ session : Session, p.sessions[e.session]? = some session ∧ session.id = e.found.id

/-- An effect keeps its command, its session and what it read of it. -/
structure Handling.Keeps (h h' : Handling) (e' : Effect) : Prop where
  command : h'.command = h.command
  dispatchedAt : h'.dispatchedAt = h.dispatchedAt
  effect : ∃ e, h.effect = some e ∧ e'.session = e.session ∧ e'.found = e.found

section Provenance

variable {options : Options} {p p' : Consumer} {i : Nat} {h h' : Handling} {e e' : Effect}

theorem Handling.Keeps.refl (effect : h.effect = some e) : h.Keeps h e :=
  ⟨rfl, rfl, e, effect, rfl, rfl⟩

theorem Handling.keeps_disconnect (effect : h.effect = some e)
    (after : (h.disconnect e).effect = some e') : h.Keeps (h.disconnect e) e' := by
  cases after
  exact ⟨rfl, rfl, e, effect, rfl, rfl⟩

theorem Handling.keeps_runKickEffect {now : Nat} (effect : h.effect = some e)
    (after : (h.runKickEffect now e).effect = some e') : h.Keeps (h.runKickEffect now e) e' := by
  unfold Handling.runKickEffect at after ⊢
  split at after
  · next capped =>
    rw [if_pos capped]
    cases after
    exact ⟨rfl, rfl, e, effect, rfl, rfl⟩
  · next untokened =>
    rw [if_neg untokened]
    exact Handling.keeps_disconnect effect after

theorem Handling.keeps_finish {now : Nat} {roomCode : Option JsString} {failure : Option FailureCode}
    (effect : h.effect = some e) (after : (h.finish options now roomCode e failure).effect = some e') :
    h.Keeps (h.finish options now roomCode e failure) e' := by
  cases after
  exact ⟨rfl, rfl, e, effect, rfl, rfl⟩

/-- The sessions of a node stay where they are, and who they are. -/
theorem Step.session (step : Step options p p') {k : Nat} {session : Session}
    (there : p.sessions[k]? = some session) :
    ∃ session' : Session, p'.sessions[k]? = some session' ∧ session'.id = session.id := by
  cases step with
  | joined added =>
    refine ⟨session, ?_, rfl⟩
    change (p.sessions ++ [added])[k]? = some session
    rw [List.getElem?_append_left (List.getElem?_eq_some_iff.mp there).1]
    exact there
  | moved j old other at_j same =>
    by_cases here : j = k
    · subst here
      refine ⟨other, ?_, ?_⟩
      · exact List.getElem?_set_self (List.getElem?_eq_some_iff.mp there).1
      · rw [there] at at_j
        cases at_j
        exact same
    · exact ⟨session, by rw [← there]; exact List.getElem?_set_ne here, rfl⟩
  | closed =>
    refine ⟨session, ?_, rfl⟩
    unfold Consumer.close
    split <;> exact there
  | elapse ms => exact ⟨session, there, rfl⟩
  | dispatched command found finds => exact ⟨session, there, rfl⟩
  | started j h e at_j effect stage => exact ⟨session, there, rfl⟩
  | evicted j h e ok at_j effect stage => exact ⟨session, there, rfl⟩
  | disconnected j h e ok at_j effect stage => exact ⟨session, there, rfl⟩
  | confirmationTimedOut j h e at_j effect capped waits due => exact ⟨session, there, rfl⟩
  | unsubscribed c ok closing pending running => exact ⟨session, there, rfl⟩
  | handlersDrained c snapshot closing drain running enough => exact ⟨session, there, rfl⟩
  | evictionsDrained c snapshot closing drain running enough => exact ⟨session, there, rfl⟩
  | closeSettled c closing running drain unsubscribed => exact ⟨session, there, rfl⟩
  | closeTimedOut c closing running due => exact ⟨session, there, rfl⟩

/-- What is dispatched goes to the session that was found. -/
theorem Consumer.dispatched_effect {command : AdminCommand} {found : Option (Nat × Session)}
    (finds : p.Finds command.kind found)
    (there : (p.dispatchCommand options command found).handlings[p.handlings.length]? = some h)
    (effect : h.effect = some e) : p.closing = none ∧ h.dispatchedAt = p.now ∧
      p.sessions[e.session]? = some e.found ∧ wants h.command.kind e.found = true := by
  unfold Consumer.dispatchCommand at there
  simp only [List.getElem?_concat_length, Option.some.injEq] at there
  split at there
  · subst there
    cases effect
  · next still =>
    refine ⟨by simpa using still, ?_⟩
    cases found with
    | none =>
      subst there
      cases effect
    | some pair =>
      obtain ⟨k, session⟩ := pair
      cases kind : command.kind with
      | disconnectSession sessionId =>
        simp only [kind] at there
        subst there
        cases effect
        exact ⟨rfl, finds⟩
      | kickMember roomCode memberId =>
        simp only [kind] at there
        subst there
        cases effect
        exact ⟨rfl, finds⟩

/-- A step dispatches a command, or goes on with the effect it had. -/
theorem Step.effect (step : Step options p p') (there : p'.handlings[i]? = some h')
    (effect : h'.effect = some e') :
    (∃ h, p.handlings[i]? = some h ∧ h.Keeps h' e') ∨
      (i = p.handlings.length ∧ p.closing = none ∧ h'.dispatchedAt = p.now ∧
        p.sessions[e'.session]? = some e'.found ∧ wants h'.command.kind e'.found = true) := by
  cases step with
  | dispatched command found finds =>
    rcases getElem?_concat_cases there with ⟨last, -⟩ | ⟨-, before⟩
    · subst last
      exact .inr ⟨rfl, Consumer.dispatched_effect finds there effect⟩
    · exact .inl ⟨h', before, .refl effect⟩
  | started j h e at_j had stage =>
    rcases getElem?_set_cases there with ⟨rfl, rfl⟩ | ⟨-, before⟩
    · exact .inl ⟨h, at_j, Handling.keeps_runKickEffect had effect⟩
    · exact .inl ⟨h', before, .refl effect⟩
  | evicted j h e ok at_j had stage =>
    rcases getElem?_set_cases there with ⟨rfl, rfl⟩ | ⟨-, before⟩
    · cases ok with
      | true => exact .inl ⟨h, at_j, Handling.keeps_disconnect had effect⟩
      | false => exact .inl ⟨h, at_j, Handling.keeps_finish had effect⟩
    · exact .inl ⟨h', before, .refl effect⟩
  | disconnected j h e ok at_j had stage =>
    rcases getElem?_set_cases there with ⟨rfl, rfl⟩ | ⟨-, before⟩
    · exact .inl ⟨h, at_j, Handling.keeps_finish had effect⟩
    · exact .inl ⟨h', before, .refl effect⟩
  | confirmationTimedOut j h e at_j had capped waits due =>
    rcases getElem?_set_cases there with ⟨rfl, rfl⟩ | ⟨-, before⟩
    · exact .inl ⟨h, at_j, ⟨rfl, rfl, e', effect, rfl, rfl⟩⟩
    · exact .inl ⟨h', before, .refl effect⟩
  | closed =>
    refine .inl ⟨h', ?_, .refl effect⟩
    unfold Consumer.close at there
    split at there <;> exact there
  | elapse ms => exact .inl ⟨h', there, .refl effect⟩
  | joined session => exact .inl ⟨h', there, .refl effect⟩
  | moved k old session at_k same => exact .inl ⟨h', there, .refl effect⟩
  | unsubscribed c ok closing pending running => exact .inl ⟨h', there, .refl effect⟩
  | handlersDrained c snapshot closing drain running enough =>
    exact .inl ⟨h', there, .refl effect⟩
  | evictionsDrained c snapshot closing drain running enough =>
    exact .inl ⟨h', there, .refl effect⟩
  | closeSettled c closing running drain unsubscribed => exact .inl ⟨h', there, .refl effect⟩
  | closeTimedOut c closing running due => exact .inl ⟨h', there, .refl effect⟩

theorem Step.found (step : Step options p p') (reached : Reachable options p)
    (all : ∀ (i : Nat) (h : Handling) (e : Effect), p.handlings[i]? = some h →
      h.effect = some e → p.Found options i h e)
    (there : p'.handlings[i]? = some h') (effect : h'.effect = some e') :
    p'.Found options i h' e' := by
  rcases step.effect there effect with ⟨h, before, keeps⟩ | ⟨last, open_, began, found, wanted⟩
  · obtain ⟨e, had, session, read⟩ := keeps.effect
    obtain ⟨⟨start, from_, run, length, began, open_, found, wanted⟩, now⟩ := all i h e before had
    constructor
    · refine ⟨start, from_, run.tail step, length, ?_, open_, ?_, ?_⟩
      · rw [began, keeps.dispatchedAt]
      · rw [session, read]
        exact found
      · rw [keeps.command, read]
        exact wanted
    · obtain ⟨still, at_, same⟩ := now
      obtain ⟨next, at_', same'⟩ := step.session at_
      refine ⟨next, ?_, ?_⟩
      · rw [session]
        exact at_'
      · rw [read, same', same]
  · constructor
    · exact ⟨p, reached, .single step, last.symm, began.symm, open_, found, wanted⟩
    · exact step.session found

theorem Reachable.found (reached : Reachable options p) (there : p.handlings[i]? = some h)
    (effect : h.effect = some e) : p.Found options i h e := by
  induction reached generalizing i h e with
  | refl => simp at there
  | tail earlier step ih => exact step.found earlier (fun i h e => ih) there effect

end Provenance

/-- A command acts only on the session that the node listed, when it was dispatched, as the one it
asks for. Its eviction, its disconnection and its report come in this order and once each, the
disconnection only where no eviction was needed or it succeeded. The answer tells how the effect
ended or, after the full wait for a kick with a token, that nothing is confirmed. The effect then
goes on and is reported too. -/
theorem command_is_carried_out_once (options : Options) (p : Consumer)
    (reached : Reachable options p) (i : Nat) (h : Handling) (e : Effect)
    (there : p.handlings[i]? = some h) (effect : h.effect = some e) :
    p.Found options i h e ∧ h.Performed e ∧ h.Answered options e :=
  have valid := reached.allValid i h there
  ⟨reached.found there effect, valid.performed e effect, valid.answered e effect⟩

/-- A kick whose eviction takes longer than its cap is answered as unconfirmed, and lands. -/
theorem late_kick_still_lands :
    let options : Options := { instanceId := js "n" }
    let other : Session := ⟨js "o", true, some (js "R"), some (js "l"), none⟩
    let session : Session := ⟨js "s", true, some (js "R"), some (js "m"), some (js "t")⟩
    let kick : AdminCommand :=
      { kind := .kickMember (js "R") (js "m"), requestId := js "q", targetInstanceId := js "n"
        requestedAt := 0 }
    let ended : Effect := ⟨1, session, .ended none⟩
    let h : Handling :=
      { command := kick, dispatchedAt := 0, accepted := true, effect := some ended
        answer := some (answerTo options kick unconfirmed 4000)
        acts := [.evictMemberToken (js "R") (js "m") (js "t") 60000, .confirmationTimedOut,
          .disconnectSessionSocket 1 "Admin kicked member", .executed none false] }
    let p : Consumer := { now := 4000, sessions := [other, session], handlings := [h] }
    p.Found options 0 h ended ∧ h.Performed ended ∧ h.Answered options ended := by
  intro options other session kick ended h p
  let queued : Effect := ⟨1, session, .queued⟩
  let evicting : Effect := ⟨1, session, .evicting⟩
  let disconnecting : Effect := ⟨1, session, .disconnecting⟩
  let waiting : Handling :=
    { command := kick, dispatchedAt := 0, accepted := true, effect := some queued }
  let capped : Handling := (waiting.runKickEffect 0 queued).giveUp options 4000
  have reached : Reachable options p :=
    (((((((Relation.ReflTransGen.refl.tail
      (.joined _ other)).tail
      (.joined _ session)).tail
      (.dispatched _ kick (some (1, session)) ⟨rfl, by decide⟩)).tail
      (.started _ 0 waiting queued rfl rfl rfl)).tail
      (.elapse _ 4000)).tail
      (.confirmationTimedOut _ 0 (waiting.runKickEffect 0 queued) evicting rfl rfl
        (by decide) rfl (by decide))).tail
      (.evicted _ 0 capped evicting true rfl rfl rfl)).tail
      (.disconnected _ 0 (capped.disconnect evicting) disconnecting true rfl rfl rfl)
  exact command_is_carried_out_once options p reached 0 h ended rfl rfl

/-! ## The gate and the drain -/

/-- The handler moved on: it was still at work before, and is tracked only if it was. -/
structure Handling.Goes (h h' : Handling) : Prop where
  works : ∃ e, h.effect = some e ∧ ((∀ failure, e.stage ≠ .ended failure) ∨ h.answer = none)
  tracked : h'.isTracked = true → h.isTracked = true
  evicting : h'.isEvicting = true → h.isEvicting = true

structure Handling.Refused (options : Options) (h : Handling) : Prop where
  effect : h.effect = none
  acts : h.acts = []
  answer : ∃ completedAt, h.answer = some (answerTo options h.command refused completedAt)

section Closing

variable {options : Options} {p p' : Consumer} {i : Nat} {h h' : Handling} {e : Effect}
  {c : Closing}

theorem Handling.isEvicting_of_effect (effect : h.effect = some e)
    (running : ∀ failure, e.stage ≠ .ended failure) : h.isEvicting = (h.token e).isSome := by
  unfold Handling.isEvicting
  rw [effect, Option.any_some]
  cases stage : e.stage with
  | queued => simp
  | evicting => simp
  | disconnecting => simp
  | ended failure => exact absurd stage (running failure)

theorem Handling.disconnect_goes (effect : h.effect = some e)
    (running : ∀ failure, e.stage ≠ .ended failure) : h.Goes (h.disconnect e) := by
  refine ⟨⟨e, effect, .inl running⟩, id, ?_⟩
  rw [Handling.isEvicting_of_effect effect running,
    Handling.isEvicting_of_effect (h := h.disconnect e) rfl (by simp)]
  exact id

theorem Handling.runKickEffect_goes (now : Nat) (effect : h.effect = some e)
    (running : ∀ failure, e.stage ≠ .ended failure) : h.Goes (h.runKickEffect now e) := by
  unfold Handling.runKickEffect
  split
  · next capped =>
    refine ⟨⟨e, effect, .inl running⟩, id, ?_⟩
    rw [Handling.isEvicting_of_effect effect running]
    exact fun _ => capped
  · exact Handling.disconnect_goes effect running

theorem Handling.finish_goes (now : Nat) (roomCode : Option JsString)
    (failure : Option FailureCode) (effect : h.effect = some e)
    (running : ∀ failure, e.stage ≠ .ended failure) :
    h.Goes (h.finish options now roomCode e failure) := by
  refine ⟨⟨e, effect, .inl running⟩, ?_, ?_⟩
  · simp [Handling.isTracked, Handling.finish]
  · simp [Handling.isEvicting, Handling.finish]

theorem Handling.giveUp_goes (now : Nat) (effect : h.effect = some e) (waits : h.answer = none) :
    h.Goes (h.giveUp options now) := by
  refine ⟨⟨e, effect, .inr waits⟩, ?_, ?_⟩
  · simp [Handling.isTracked, Handling.giveUp]
  · exact id

/-- What a step does to the handlers while the consumer is closing. -/
theorem Step.handling (step : Step options p p') (closing : p.closing ≠ none)
    (there : p'.handlings[i]? = some h') :
    (∃ h, p.handlings[i]? = some h ∧ (h' = h ∨ h.Goes h')) ∨
      p.handlings.length ≤ i ∧ h'.Refused options := by
  have updated : ∀ (j : Nat) (h other : Handling), p.handlings[j]? = some h → h.Goes other →
      (p.update j other).handlings[i]? = some h' →
        ∃ h, p.handlings[i]? = some h ∧ (h' = h ∨ h.Goes h') := by
    intro j h other before goes after
    rcases getElem?_set_cases after with ⟨rfl, rfl⟩ | ⟨-, same⟩
    · exact ⟨h, before, .inr goes⟩
    · exact ⟨h', same, .inl rfl⟩
  cases step with
  | dispatched command found finds =>
    rcases getElem?_concat_cases there with ⟨last, rfl⟩ | ⟨-, before⟩
    · rw [if_pos (Option.isSome_iff_ne_none.mpr closing)]
      exact .inr ⟨by omega, rfl, rfl, _, rfl⟩
    · exact .inl ⟨h', before, .inl rfl⟩
  | started j h e before effect stage =>
    have running : ∀ failure, e.stage ≠ .ended failure := by simp [stage]
    exact .inl (updated j h _ before (Handling.runKickEffect_goes _ effect running) there)
  | evicted j h e ok before effect stage =>
    have running : ∀ failure, e.stage ≠ .ended failure := by simp [stage]
    left
    cases ok with
    | true => exact updated j h _ before (Handling.disconnect_goes effect running) there
    | false => exact updated j h _ before (Handling.finish_goes _ _ _ effect running) there
  | disconnected j h e ok before effect stage =>
    have running : ∀ failure, e.stage ≠ .ended failure := by simp [stage]
    exact .inl (updated j h _ before (Handling.finish_goes _ _ _ effect running) there)
  | confirmationTimedOut j h e before effect capped waits due =>
    exact .inl (updated j h _ before (Handling.giveUp_goes _ effect waits) there)
  | closed =>
    unfold Consumer.close at there
    split at there <;> exact .inl ⟨h', there, .inl rfl⟩
  | elapse ms => exact .inl ⟨h', there, .inl rfl⟩
  | joined session => exact .inl ⟨h', there, .inl rfl⟩
  | moved k old session _ same => exact .inl ⟨h', there, .inl rfl⟩
  | unsubscribed c ok _ pending running => exact .inl ⟨h', there, .inl rfl⟩
  | handlersDrained c snapshot _ drain running enough => exact .inl ⟨h', there, .inl rfl⟩
  | evictionsDrained c snapshot _ drain running enough => exact .inl ⟨h', there, .inl rfl⟩
  | closeSettled c _ running drain unsubscribed => exact .inl ⟨h', there, .inl rfl⟩
  | closeTimedOut c _ running due => exact .inl ⟨h', there, .inl rfl⟩

theorem Step.narrows (step : Step options p p') (closing : p.closing ≠ none) :
    Narrows Handling.counts p.handlings p'.handlings := by
  intro i h' k there counted
  rcases step.handling closing there with ⟨h, before, rfl | goes⟩ | ⟨-, late⟩
  · exact ⟨_, k, before, Nat.le_refl k, counted⟩
  · refine ⟨h, k, before, Nat.le_refl k, ?_⟩
    cases k with
    | zero => exact goes.tracked counted
    | succ k =>
      cases k with
      | zero => exact goes.evicting counted
      | succ k => cases counted
  · obtain ⟨completedAt, answer⟩ := late.answer
    cases k with
    | zero => simp [Handling.counts, Handling.isTracked, answer] at counted
    | succ k =>
      cases k with
      | zero => simp [Handling.counts, Handling.isEvicting, late.effect] at counted
      | succ k => cases counted

end Closing

/-- How far the drain is, unless its budget is over. -/
def Consumer.Drains (options : Options) (c : Closing) (p : Consumer) : Prop :=
  match c.drain with
  | .handlers snapshot => Drained Handling.counts 0 snapshot p.handlings
  | .evictions snapshot => c.startedAt + options.closeBudgetMs ≤ p.now ∨
      Drained Handling.counts 1 snapshot p.handlings
  | .settled => c.startedAt + options.closeBudgetMs ≤ p.now ∨
      Drained Handling.counts 2 [] p.handlings

/-- A close that reports nothing has left nothing at work, any other has used up its budget. -/
structure Consumer.Closes (options : Options) (c : Closing) (p : Consumer) : Prop where
  drains : p.Drains options c
  clean : ∀ e, c.ended = some e → e.report = none → c.unsubscribed ≠ none ∧
    Drained Handling.counts 2 [] p.handlings
  late : ∀ e, c.ended = some e → e.report ≠ none →
    c.startedAt + options.closeBudgetMs ≤ e.endedAt
  throws : ∀ e, c.ended = some e → (e.threw = true ↔ c.unsubscribed = some false)

section Closes

variable {options : Options} {p p' : Consumer} {c : Closing}

theorem drained_iff : Drained Handling.counts 2 [] p.handlings ↔
    p.those Handling.isTracked = [] ∧ p.those Handling.isEvicting = [] := by
  constructor
  · exact fun drained => ⟨drained.past 0 (by decide), drained.past 1 (by decide)⟩
  · rintro ⟨answered, evicted⟩
    constructor
    · intro k before
      obtain rfl | rfl : k = 0 ∨ k = 1 := by omega
      · exact answered
      · exact evicted
    · intro i counted
      obtain ⟨h, -, impossible⟩ := mem_places.mp counted
      cases impossible

theorem Consumer.Closes.narrow (closes : p.Closes options c) (later : p.now ≤ p'.now)
    (narrows : Narrows Handling.counts p.handlings p'.handlings) : p'.Closes options c := by
  refine ⟨?_, ?_, closes.late, closes.throws⟩
  · have drains := closes.drains
    unfold Consumer.Drains at drains ⊢
    split at drains
    · exact drains.narrow narrows
    · exact drains.imp (fun due => due.trans later) fun drained => drained.narrow narrows
    · exact drains.imp (fun due => due.trans later) fun drained => drained.narrow narrows
  · intro e ended quiet
    obtain ⟨settled, drained⟩ := closes.clean e ended quiet
    exact ⟨settled, drained.narrow narrows⟩

theorem Consumer.Closes.drainHandlers (closes : p.Closes options c) (running : c.ended = none)
    {snapshot : List Nat} (drain : c.drain = .handlers snapshot)
    (enough : (∀ i ∈ snapshot, i ∉ p.those Handling.isTracked) ∨
      timer c.startedAt options.closeBudgetMs ≤ p.now) :
    ∀ c', (p.drainHandlers options c).closing = some c' →
      (p.drainHandlers options c).Closes options c' := by
  have drains := closes.drains
  rw [Consumer.Drains, drain] at drains
  rintro _ ⟨⟩
  refine ⟨?_, by simp [running], by simp [running], by simp [running]⟩
  unfold Consumer.Drains
  by_cases time : p.now < c.startedAt + options.closeBudgetMs
  · simp only [time, if_true]
    rcases enough with answered | due
    · exact .inr (drains.next answered)
    · exact .inl (le_of_timer_le options.closeBudgetMs_le due)
  · simp only [time, if_false]
    exact .inl (Nat.le_of_not_lt time)

theorem Consumer.Closes.drainEvictions (closes : p.Closes options c) (running : c.ended = none)
    {snapshot : List Nat} (drain : c.drain = .evictions snapshot)
    (enough : (∀ i ∈ snapshot, i ∉ p.those Handling.isEvicting) ∨
      timer c.startedAt options.closeBudgetMs ≤ p.now) :
    ∀ c', (p.drainEvictions c).closing = some c' → (p.drainEvictions c).Closes options c' := by
  have drains := closes.drains
  rw [Consumer.Drains, drain] at drains
  rintro _ ⟨⟩
  refine ⟨?_, by simp [running], by simp [running], by simp [running]⟩
  change c.startedAt + options.closeBudgetMs ≤ p.now ∨ Drained Handling.counts 2 [] p.handlings
  rcases drains with due | drained
  · exact .inl due
  · rcases enough with ended | due
    · have past := (drained.next ended).past
      exact .inr (drained_iff.mpr ⟨past 0 (by decide), past 1 (by decide)⟩)
    · exact .inl (le_of_timer_le options.closeBudgetMs_le due)

theorem Consumer.report_eq_none {settled : Bool} : p.report settled c = none ↔
    settled = true ∧ c.unsubscribed ≠ none ∧ p.those Handling.isTracked = [] ∧
      p.those Handling.isEvicting = [] := by
  unfold Consumer.report
  simp only [ite_eq_right_iff, reduceCtorEq, imp_false, Bool.or_eq_true, not_or,
    Bool.not_eq_eq_eq_not, Bool.not_true, Bool.not_eq_false, Option.isNone_iff_eq_none,
    decide_eq_true_eq, Nat.not_lt, Nat.le_zero, List.length_eq_zero_iff, and_assoc, ne_eq]

theorem Consumer.Closes.endClose (closes : p.Closes options c) (settled : Bool)
    (enough : settled = true ∧ c.drain = .settled ∧ c.unsubscribed ≠ none ∨
      timer c.startedAt options.closeBudgetMs ≤ p.now) :
    ∀ c', (p.endClose settled c).closing = some c' →
      (p.endClose settled c).Closes options c' := by
  rintro _ ⟨⟩
  refine ⟨closes.drains, ?_, ?_, ?_⟩
  · rintro _ ⟨⟩ quiet
    obtain ⟨-, unsubscribed, empty⟩ := Consumer.report_eq_none.mp quiet
    exact ⟨unsubscribed, drained_iff.mpr empty⟩
  · rintro _ ⟨⟩ loud
    change c.startedAt + options.closeBudgetMs ≤ p.now
    rcases enough with ⟨whole, drain, unsubscribed⟩ | due
    · have drains := closes.drains
      rw [Consumer.Drains, drain] at drains
      rcases drains with late | drained
      · exact late
      · have empty := drained_iff.mp drained
        exact absurd (Consumer.report_eq_none.mpr ⟨whole, unsubscribed, empty⟩) loud
    · exact le_of_timer_le options.closeBudgetMs_le due
  · rintro _ ⟨⟩
    exact decide_eq_true_iff

theorem Step.closes (step : Step options p p')
    (closes : ∀ c, p.closing = some c → p.Closes options c) :
    ∀ c, p'.closing = some c → p'.Closes options c := by
  have kept : ∀ {p' : Consumer}, Step options p p' → p'.closing = p.closing → p.now ≤ p'.now →
      ∀ c, p'.closing = some c → p'.Closes options c := by
    intro p' step same later c closing
    rw [same] at closing
    exact (closes c closing).narrow later (step.narrows (by simp [closing]))
  cases step with
  | elapse ms => exact kept (.elapse p ms) rfl (Nat.le_add_right _ _)
  | joined session => exact kept (.joined p session) rfl (Nat.le_refl _)
  | moved k old session there same =>
    exact kept (.moved p k old session there same) rfl (Nat.le_refl _)
  | dispatched command found finds =>
    exact kept (.dispatched p command found finds) rfl (Nat.le_refl _)
  | started i h e there effect stage =>
    exact kept (.started p i h e there effect stage) rfl (Nat.le_refl _)
  | evicted i h e ok there effect stage =>
    exact kept (.evicted p i h e ok there effect stage) rfl (Nat.le_refl _)
  | disconnected i h e ok there effect stage =>
    exact kept (.disconnected p i h e ok there effect stage) rfl (Nat.le_refl _)
  | confirmationTimedOut i h e there effect capped waits due =>
    exact kept (.confirmationTimedOut p i h e there effect capped waits due) rfl (Nat.le_refl _)
  | closed =>
    unfold Consumer.close
    split
    · exact closes
    · rintro _ ⟨⟩
      exact ⟨drained_start _ _, by simp, by simp, by simp⟩
  | unsubscribed c ok closing pending running =>
    rintro _ ⟨⟩
    exact ⟨(closes c closing).drains, by simp [running], by simp [running], by simp [running]⟩
  | handlersDrained c snapshot closing drain running enough =>
    exact (closes c closing).drainHandlers running drain enough
  | evictionsDrained c snapshot closing drain running enough =>
    exact (closes c closing).drainEvictions running drain enough
  | closeSettled c closing running drain unsubscribed =>
    exact (closes c closing).endClose true (.inl ⟨rfl, drain, unsubscribed⟩)
  | closeTimedOut c closing running due =>
    exact (closes c closing).endClose false (.inr due)

theorem Reachable.closes (reached : Reachable options p) :
    ∀ c, p.closing = some c → p.Closes options c := by
  induction reached with
  | refl => simp
  | tail _ step ih => exact step.closes ih

end Closes

/-- Everything that was dispatched is answered, and what it set going has ended. -/
def Consumer.AtRest (p : Consumer) : Prop :=
  ∀ (i : Nat) (h : Handling), p.handlings[i]? = some h → h.answer.isSome = true ∧
    ∀ e, h.effect = some e → ∃ failure, e.stage = .ended failure

section Rest

variable {options : Options} {p p' : Consumer} {i : Nat} {h h' : Handling}

theorem AllValid.atRest (all : AllValid options p) (answered : p.those Handling.isTracked = [])
    (evicted : p.those Handling.isEvicting = []) : p.AtRest := by
  intro i h there
  have valid := all i h there
  have untracked : h.isTracked ≠ true := by
    intro tracked
    have mem : i ∈ p.those Handling.isTracked := mem_places.mpr ⟨h, there, tracked⟩
    simp [answered] at mem
  have unevicting : h.isEvicting ≠ true := by
    intro evicting
    have mem : i ∈ p.those Handling.isEvicting := mem_places.mpr ⟨h, there, evicting⟩
    simp [evicted] at mem
  cases effect : h.effect with
  | none => exact ⟨(valid.idle effect).1, by simp⟩
  | some e =>
    have accepted := (valid.performed e effect).accepted
    have answer := valid.answered e effect
    have given : h.answer.isSome = true := by
      cases waits : h.answer with
      | none => exact absurd (by simp [Handling.isTracked, accepted, waits]) untracked
      | some result => rfl
    refine ⟨given, ?_⟩
    rintro _ ⟨⟩
    by_contra going
    have running : ∀ failure, e.stage ≠ .ended failure := fun failure ended =>
      going ⟨failure, ended⟩
    obtain ⟨result, found⟩ := Option.isSome_iff_exists.mp given
    rw [Handling.Answered, found] at answer
    rcases answer with ⟨capped, -⟩ | ⟨-, failure, -, -, ended, -⟩
    · exact unevicting (by rw [Handling.isEvicting_of_effect effect running, capped])
    · exact running failure ended

theorem Step.stays_closing (step : Step options p p') (closing : p.closing ≠ none) :
    p'.closing ≠ none := by
  cases step with
  | closed =>
    unfold Consumer.close
    split
    · exact closing
    · simp
  | elapse | joined | moved | dispatched | started | evicted | disconnected
  | confirmationTimedOut => exact closing
  | unsubscribed | handlersDrained | evictionsDrained | closeSettled | closeTimedOut =>
    exact Option.some_ne_none _

theorem Step.length_handlings (step : Step options p p') :
    p.handlings.length ≤ p'.handlings.length := by
  cases step with
  | dispatched command found finds => simp [Consumer.dispatchCommand]
  | closed =>
    unfold Consumer.close
    split <;> exact Nat.le_refl _
  | started | evicted | disconnected | confirmationTimedOut => simp [Consumer.update]
  | elapse | joined | moved | unsubscribed | handlersDrained | evictionsDrained | closeSettled
  | closeTimedOut => exact Nat.le_refl _

theorem Consumer.AtRest.handling (rest : p.AtRest) (step : Step options p p')
    (closing : p.closing ≠ none) (there : p'.handlings[i]? = some h') :
    p.handlings[i]? = some h' ∨ p.handlings.length ≤ i ∧ h'.Refused options := by
  rcases step.handling closing there with ⟨h, before, rfl | goes⟩ | late
  · exact .inl before
  · obtain ⟨answered, ended⟩ := rest i h before
    obtain ⟨e, effect, running | waits⟩ := goes.works
    · obtain ⟨failure, past⟩ := ended e effect
      exact absurd past (running failure)
    · rw [waits] at answered
      cases answered
  · exact .inr late

theorem Consumer.AtRest.step (rest : p.AtRest) (step : Step options p p')
    (closing : p.closing ≠ none) : p'.AtRest := by
  intro i h' there
  rcases rest.handling step closing there with before | ⟨-, late⟩
  · exact rest i h' before
  · obtain ⟨completedAt, answer⟩ := late.answer
    exact ⟨by rw [answer]; rfl, by simp [late.effect]⟩

theorem Consumer.AtRest.frozen (rest : p.AtRest) (step : Step options p p')
    (closing : p.closing ≠ none) (before : p.handlings[i]? = some h) :
    p'.handlings[i]? = some h := by
  have within := (List.getElem?_eq_some_iff.mp before).1
  have there := List.getElem?_eq_getElem (Nat.lt_of_lt_of_le within step.length_handlings)
  rcases rest.handling step closing there with same | ⟨beyond, -⟩
  · rw [there, ← before, same]
  · omega

/-- Whatever comes after `close`, what was not dispatched before it is refused. -/
theorem refused_after_close (run : Relation.ReflTransGen (Step options) p p')
    (closing : p.closing ≠ none) : p'.closing ≠ none ∧
      p.handlings.length ≤ p'.handlings.length ∧
      ∀ (i : Nat) (h : Handling), p'.handlings[i]? = some h → p.handlings.length ≤ i →
        h.Refused options := by
  induction run with
  | refl =>
    refine ⟨closing, Nat.le_refl _, ?_⟩
    intro i h there beyond
    have within := (List.getElem?_eq_some_iff.mp there).1
    omega
  | tail _ step ih =>
    obtain ⟨still, grown, refused⟩ := ih
    refine ⟨step.stays_closing still, grown.trans step.length_handlings, ?_⟩
    intro i h' there beyond
    rcases step.handling still there with ⟨h, before, rfl | goes⟩ | ⟨-, late⟩
    · exact refused i _ before beyond
    · obtain ⟨e, effect, -⟩ := goes.works
      rw [(refused i h before beyond).effect] at effect
      cases effect
    · exact late

theorem frozen_at_rest (run : Relation.ReflTransGen (Step options) p p')
    (closing : p.closing ≠ none) (rest : p.AtRest) :
    p'.AtRest ∧ ∀ (i : Nat) (h : Handling), p.handlings[i]? = some h →
      p'.handlings[i]? = some h := by
  induction run with
  | refl => exact ⟨rest, fun _ _ there => there⟩
  | tail earlier step ih =>
    have still := (refused_after_close earlier closing).1
    exact ⟨ih.1.step step still, fun i h there => ih.1.frozen step still (ih.2 i h there)⟩

end Rest

/-- From `close` on, every command is refused and does nothing. A close that throws had its
unsubscribe fail. One that ends without a report, and does not throw, has unsubscribed; without a
report every command before it is answered and nothing it set going is at work, then or ever after.
A close that reports has used up its budget. -/
theorem close_leaves_nothing_behind (options : Options) (p : Consumer)
    (reached : Reachable options p) (c : Closing) (closing : p.closing = some c) :
    (∀ (p' : Consumer), Relation.ReflTransGen (Step options) p p' →
      ∀ (i : Nat) (h : Handling), p'.handlings[i]? = some h → p.handlings.length ≤ i →
        h.Refused options) ∧
    ∀ (e : Ended), c.ended = some e →
      (e.report ≠ none → c.startedAt + options.closeBudgetMs ≤ e.endedAt) ∧
      (e.threw = true → c.unsubscribed = some false) ∧
      (e.report = none → (e.threw = false → c.unsubscribed = some true) ∧ p.AtRest ∧
        ∀ (p' : Consumer), Relation.ReflTransGen (Step options) p p' →
          p'.AtRest ∧ ∀ (i : Nat) (h : Handling), p.handlings[i]? = some h →
            p'.handlings[i]? = some h) := by
  have closes := reached.closes c closing
  have begun : p.closing ≠ none := by simp [closing]
  constructor
  · exact fun p' run => (refused_after_close run begun).2.2
  · intro e ended
    have throws := closes.throws e ended
    refine ⟨closes.late e ended, throws.mp, ?_⟩
    intro quiet
    obtain ⟨settled, drained⟩ := closes.clean e ended quiet
    obtain ⟨answered, evicted⟩ := drained_iff.mp drained
    have rest := reached.allValid.atRest answered evicted
    refine ⟨?_, rest, fun p' run => frozen_at_rest run begun rest⟩
    intro silent
    obtain ⟨ok, told⟩ := Option.ne_none_iff_exists'.mp settled
    cases ok with
    | true => exact told
    | false => exact absurd (throws.mpr told) (by simp [silent])

/-- A close awaits the kick that was answered before it, and refuses what comes later. -/
theorem close_awaits_the_late_kick :
    let options : Options := { instanceId := js "n" }
    let session : Session := ⟨js "s", true, some (js "R"), some (js "m"), some (js "t")⟩
    let kick : AdminCommand :=
      { kind := .kickMember (js "R") (js "m"), requestId := js "q", targetInstanceId := js "n"
        requestedAt := 0 }
    let h : Handling :=
      { command := kick, dispatchedAt := 0, accepted := true
        effect := some ⟨0, session, .ended none⟩
        answer := some (answerTo options kick unconfirmed 4000)
        acts := [.evictMemberToken (js "R") (js "m") (js "t") 60000, .confirmationTimedOut,
          .disconnectSessionSocket 0 "Admin kicked member", .executed none false] }
    let c : Closing :=
      { startedAt := 4000, unsubscribed := some true, drain := .settled
        ended := some { endedAt := 4000, report := none, threw := false } }
    let p : Consumer :=
      { now := 4000, sessions := [session], handlings := [h], closing := some c }
    let later := p.dispatchCommand options kick (some (0, session))
    c.unsubscribed = some true ∧ p.AtRest ∧ later.handlings[0]? = some h ∧
      ∀ (h' : Handling), later.handlings[1]? = some h' → h'.Refused options := by
  intro options session kick h c p later
  let queued : Effect := ⟨0, session, .queued⟩
  let evicting : Effect := ⟨0, session, .evicting⟩
  let disconnecting : Effect := ⟨0, session, .disconnecting⟩
  let waiting : Handling :=
    { command := kick, dispatchedAt := 0, accepted := true, effect := some queued }
  let capped : Handling := (waiting.runKickEffect 0 queued).giveUp options 4000
  have kicked : Reachable options { now := 4000, sessions := [session], handlings := [capped] } :=
    ((((Relation.ReflTransGen.refl.tail
      (.joined _ session)).tail
      (.dispatched _ kick (some (0, session)) ⟨rfl, by decide⟩)).tail
      (.started _ 0 waiting queued rfl rfl rfl)).tail
      (.elapse _ 4000)).tail
      (.confirmationTimedOut _ 0 (waiting.runKickEffect 0 queued) evicting rfl rfl
        (by decide) rfl (by decide))
  have reached : Reachable options p :=
    ((((((kicked.tail
      (.closed _)).tail
      (.handlersDrained _ { startedAt := 4000, drain := .handlers [] } [] rfl rfl rfl
        (.inl (by simp)))).tail
      (.evicted _ 0 capped evicting true rfl rfl rfl)).tail
      (.disconnected _ 0 (capped.disconnect evicting) disconnecting true rfl rfl rfl)).tail
      (.evictionsDrained _ { startedAt := 4000, drain := .evictions [0] } [0] rfl rfl rfl
        (.inl (by decide)))).tail
      (.unsubscribed _ { startedAt := 4000, drain := .settled } true rfl rfl rfl)).tail
      (.closeSettled _ { startedAt := 4000, drain := .settled, unsubscribed := some true } rfl rfl
        rfl (by decide))
  have closed := close_leaves_nothing_behind options p reached c rfl
  have run : Relation.ReflTransGen (Step options) p later :=
    .single (.dispatched _ kick _ ⟨rfl, by decide⟩)
  obtain ⟨unsubscribed, rest, frozen⟩ := (closed.2 _ rfl).2.2 rfl
  refine ⟨unsubscribed rfl, rest, (frozen later run).2 0 h rfl, ?_⟩
  exact fun h' there => closed.1 later run 1 h' there (Nat.le_refl _)

end BiliSyncPlay.CommandConsumer
