import BiliSyncPlay.Extension.PageRecords

/-!
# The next video is shared by itself

`createAutoShareNextController`: a request that a navigation schedules, the timer it waits for, and
the answer of the background. A request belongs to the generation it was scheduled in.
-/

namespace BiliSyncPlay.AutoShareNext

open Json RedisRoomStore Protocol
open PageVideo (Platform isAddressBarOpaqueVideoUrl)

/-! ## What the page shows -/

/-- The address bar without its hash, and the video the page bridge has resolved. -/
structure Page where
  currentPageUrl : JsString
  resolvedVideoUrl : Option JsString
  deriving DecidableEq

structure Args where
  settleDelayMs : Rat
  maxAttempts : Nat
  retryDelayMs : Rat
  normalizeVideoPageUrl : JsString → Option JsString
  platform : Platform

/-! ## The controller -/

structure PendingAutoShare where
  previousSharedUrl : JsString
  targetNormalizedUrl : JsString
  attempt : Nat
  generation : Nat
  deriving DecidableEq

structure Timer where
  id : Nat
  pending : PendingAutoShare
  delayMs : Rat
  deriving DecidableEq

structure Controller where
  pendingTimer : Option Nat := none
  pendingNormalizedUrl : Option JsString := none
  pendingPreviousSharedUrl : Option JsString := none
  scheduleGeneration : Nat := 0
  sentChainTargets : List JsString := []
  /-- The timers of the page that have neither fired nor been cleared. -/
  timers : List Timer := []
  nextTimer : Nat := 0
  /-- The requests that the background has not answered. -/
  inFlight : List PendingAutoShare := []
  deriving DecidableEq

/-- The payload of `content:auto-share-next-video`. -/
structure Message where
  previousSharedUrl : JsString
  targetNormalizedUrl : JsString
  deriving DecidableEq

structure ShareCurrentVideoResponse where
  ok : Bool
  deferred : Bool := false
  error : Option JsString := none
  deriving DecidableEq

inductive Answer where
  | rejected
  | response (response : Option ShareCurrentVideoResponse)
  deriving DecidableEq

structure Input where
  previousSharedUrl : JsString
  nextNormalizedPageUrl : JsString
  previousAutoShareTargetUrl : Option JsString
  deriving DecidableEq

namespace Controller

def clearPendingTimer (c : Controller) : Controller :=
  match c.pendingTimer with
  | some id => { c with pendingTimer := none, timers := c.timers.filter (·.id ≠ id) }
  | none => c

def scheduleRequest (c : Controller) (pending : PendingAutoShare) (delayMs : Rat) : Controller :=
  let cleared := c.clearPendingTimer
  { cleared with
    pendingNormalizedUrl := some pending.targetNormalizedUrl
    pendingPreviousSharedUrl := some pending.previousSharedUrl
    pendingTimer := some cleared.nextTimer
    timers := cleared.timers ++ [⟨cleared.nextTimer, pending, delayMs⟩]
    nextTimer := cleared.nextTimer + 1 }

section
variable (A : Args)

/-- `requestAutoShare`, up to the answer. -/
def requestAutoShare (c : Controller) (page : Page) (activeSharedUrl : Option JsString)
    (pending : PendingAutoShare) : Controller × Option Message :=
  let currentPageUrl := page.resolvedVideoUrl.getD page.currentPageUrl
  let cannotTellCurrentVideo :=
    page.resolvedVideoUrl.isNone && isAddressBarOpaqueVideoUrl A.platform currentPageUrl
  if !cannotTellCurrentVideo ∧
      A.normalizeVideoPageUrl currentPageUrl ≠ some pending.targetNormalizedUrl then (c, none)
  else
    let previousSharedUrl := match activeSharedUrl with
      | some liveAnchor =>
        if liveAnchor ∈ c.sentChainTargets then liveAnchor else pending.previousSharedUrl
      | none => pending.previousSharedUrl
    ({ c with
        sentChainTargets := c.sentChainTargets ++ [pending.targetNormalizedUrl]
        inFlight := c.inFlight ++ [pending] },
      some ⟨previousSharedUrl, pending.targetNormalizedUrl⟩)

/-- A timer fires, unless it was cleared. -/
def fire (c : Controller) (id : Nat) (page : Page) (activeSharedUrl : Option JsString) :
    Controller × Option Message :=
  match c.timers.find? (·.id = id) with
  | some timer =>
    let fired := { c with
      timers := c.timers.filter (·.id ≠ id)
      pendingTimer := none
      pendingNormalizedUrl := none
      pendingPreviousSharedUrl := none }
    fired.requestAutoShare A page activeSharedUrl timer.pending
  | none => (c, none)

/-- `requestAutoShare`, from the answer on. -/
def afterAnswer (c : Controller) (pending : PendingAutoShare) : Answer → Controller
  | .rejected => c
  | .response response =>
    if pending.generation ≠ c.scheduleGeneration then c
    else match response with
      | some ⟨false, true, _⟩ => c.scheduleRequest pending A.retryDelayMs
      | some ⟨false, false, _⟩ =>
        if pending.attempt < A.maxAttempts then
          c.scheduleRequest { pending with attempt := pending.attempt + 1 } A.retryDelayMs
        else c
      | _ => c

/-- The background answers a request that is in flight. -/
def answer (c : Controller) (request : Nat) (answer : Answer) : Controller :=
  match c.inFlight[request]? with
  | some pending =>
    ({ c with inFlight := c.inFlight.eraseIdx request }).afterAnswer A pending answer
  | none => c

def scheduleForNavigation (c : Controller) (input : Input) : Controller :=
  if input.previousSharedUrl = input.nextNormalizedPageUrl then c
  else
    let c :=
      if input.previousAutoShareTargetUrl = none then { c with sentChainTargets := [] } else c
    if c.pendingNormalizedUrl = some input.nextNormalizedPageUrl ∧
        c.pendingPreviousSharedUrl = some input.previousSharedUrl then c
    else
      let c := { c with scheduleGeneration := c.scheduleGeneration + 1 }
      c.scheduleRequest ⟨input.previousSharedUrl, input.nextNormalizedPageUrl, 1,
        c.scheduleGeneration⟩ A.settleDelayMs

def cancelPending (c : Controller) : Controller :=
  { c.clearPendingTimer with
    pendingNormalizedUrl := none
    pendingPreviousSharedUrl := none
    scheduleGeneration := c.scheduleGeneration + 1 }

end

/-! ## What a controller still owes -/

/-- Every request that can still be sent, or sent again, is for a target that is `owed`. -/
structure Owes (owed : JsString → Prop) (c : Controller) : Prop where
  armed : ∀ timer ∈ c.timers, c.pendingTimer = some timer.id ∧
    timer.pending.generation = c.scheduleGeneration ∧ owed timer.pending.targetNormalizedUrl
  asked : ∀ pending ∈ c.inFlight, pending.generation ≤ c.scheduleGeneration ∧
    (pending.generation = c.scheduleGeneration → owed pending.targetNormalizedUrl)

variable {A : Args} {owed : JsString → Prop} {c : Controller}

theorem Owes.mono {other : JsString → Prop} (owes : Owes owed c)
    (sub : ∀ target, owed target → other target) : Owes other c where
  armed timer mem := ⟨(owes.armed timer mem).1, (owes.armed timer mem).2.1,
    sub _ (owes.armed timer mem).2.2⟩
  asked pending mem := ⟨(owes.asked pending mem).1, fun same =>
    sub _ ((owes.asked pending mem).2 same)⟩

theorem owes_nothing : Owes owed {} where
  armed timer mem := by cases mem
  asked pending mem := by cases mem

theorem Owes.timers_cleared (owes : Owes owed c) : c.clearPendingTimer.timers = [] := by
  cases pending : c.pendingTimer with
  | none =>
    simp only [clearPendingTimer, pending]
    apply List.eq_nil_iff_forall_not_mem.mpr
    intro timer mem
    cases pending.symm.trans (owes.armed timer mem).1
  | some id =>
    simp only [clearPendingTimer, pending, List.filter_eq_nil_iff]
    intro timer mem
    simp [Option.some.inj (pending.symm.trans (owes.armed timer mem).1)]

@[simp] theorem clearPendingTimer_generation (c : Controller) :
    c.clearPendingTimer.scheduleGeneration = c.scheduleGeneration := by
  unfold clearPendingTimer
  split <;> rfl

@[simp] theorem clearPendingTimer_inFlight (c : Controller) :
    c.clearPendingTimer.inFlight = c.inFlight := by
  unfold clearPendingTimer
  split <;> rfl

theorem Owes.scheduleRequest (owes : Owes owed c) {pending : PendingAutoShare}
    (current : pending.generation = c.scheduleGeneration)
    (due : owed pending.targetNormalizedUrl) (delayMs : Rat) :
    Owes owed (c.scheduleRequest pending delayMs) where
  armed timer mem := by
    simp only [Controller.scheduleRequest, owes.timers_cleared, List.nil_append,
      List.mem_singleton] at mem
    subst mem
    exact ⟨rfl, by simpa [Controller.scheduleRequest] using current, due⟩
  asked other mem := by
    simp only [Controller.scheduleRequest, clearPendingTimer_inFlight,
      clearPendingTimer_generation] at mem ⊢
    exact owes.asked other mem

/-- Nothing is owed once the navigation that asked for it is over. -/
theorem Owes.cancelPending (owes : Owes owed c) : Owes (fun _ => False) c.cancelPending where
  armed timer mem := by
    simp only [Controller.cancelPending, owes.timers_cleared, List.not_mem_nil] at mem
  asked pending mem := by
    simp only [Controller.cancelPending, clearPendingTimer_inFlight] at mem ⊢
    have before := (owes.asked pending mem).1
    constructor
    · omega
    · intro same
      omega

/-- A navigation that asks owes its own target. -/
theorem Owes.scheduleForNavigation (owes : Owes (fun _ => False) c) (input : Input) :
    Owes (· = input.nextNormalizedPageUrl) (c.scheduleForNavigation A input) := by
  have own : Owes (· = input.nextNormalizedPageUrl) c := owes.mono fun _ => False.elim
  unfold Controller.scheduleForNavigation
  split
  · exact own
  · have lineage : Owes (fun _ => False) (if input.previousAutoShareTargetUrl = none then
        { c with sentChainTargets := [] } else c) := by
      split
      · exact ⟨owes.armed, owes.asked⟩
      · exact owes
    generalize (if input.previousAutoShareTargetUrl = none then
      { c with sentChainTargets := [] } else c) = d at lineage
    dsimp only
    split
    · exact lineage.mono fun _ => False.elim
    · apply Owes.scheduleRequest
      · constructor
        · intro timer mem
          exact (lineage.armed timer mem).2.2.elim
        · intro pending mem
          have before := (lineage.asked pending mem).1
          dsimp only
          constructor
          · omega
          · intro same
            omega
      · rfl
      · rfl

/-- What is sent was owed. -/
theorem Owes.fire (owes : Owes owed c) (id : Nat) (page : Page)
    (activeSharedUrl : Option JsString) :
    Owes owed (c.fire A id page activeSharedUrl).1 ∧
      ∀ message, (c.fire A id page activeSharedUrl).2 = some message →
        owed message.targetNormalizedUrl := by
  cases found : c.timers.find? (·.id = id) with
  | none =>
    simp only [Controller.fire, found]
    exact ⟨owes, by simp⟩
  | some timer =>
    have live := owes.armed timer (List.mem_of_find?_eq_some found)
    have same : timer.id = id := by simpa using List.find?_some found
    have gone : c.timers.filter (·.id ≠ id) = [] := by
      rw [List.filter_eq_nil_iff]
      intro other mem
      have pending := (owes.armed other mem).1.symm.trans live.1
      simp [Option.some.inj pending, same]
    simp only [Controller.fire, found, gone, requestAutoShare]
    split
    · exact ⟨⟨by simp, owes.asked⟩, by simp⟩
    · refine ⟨⟨by simp, ?_⟩, ?_⟩
      · intro pending mem
        rcases List.mem_append.mp mem with earlier | new
        · exact owes.asked pending earlier
        · rw [List.mem_singleton.mp new]
          exact ⟨live.2.1.le, fun _ => live.2.2⟩
      · intro message sent
        cases Option.some.inj sent
        exact live.2.2

/-- What is armed again was owed. -/
theorem Owes.answer (owes : Owes owed c) (request : Nat) (reply : Answer) :
    Owes owed (c.answer A request reply) ∧
      ∀ pending, c.inFlight[request]? = some pending →
        (c.answer A request reply).timers ≠ c.timers → owed pending.targetNormalizedUrl := by
  cases found : c.inFlight[request]? with
  | none =>
    simp only [Controller.answer, found]
    exact ⟨owes, by simp⟩
  | some pending =>
    have mem := owes.asked pending (List.mem_of_getElem? found)
    have rest : Owes owed { c with inFlight := c.inFlight.eraseIdx request } :=
      ⟨owes.armed, fun other mem => owes.asked other (List.mem_of_mem_eraseIdx mem)⟩
    simp only [Controller.answer, found, Option.some.injEq]
    cases reply with
    | rejected => exact ⟨rest, fun _ _ armed => absurd rfl armed⟩
    | response response =>
      simp only [afterAnswer]
      split
      · exact ⟨rest, fun _ _ armed => absurd rfl armed⟩
      · next current =>
        have current := not_not.mp current
        have due := mem.2 current
        split
        · exact ⟨rest.scheduleRequest current due _, by rintro _ rfl -; exact due⟩
        · split
          · exact ⟨rest.scheduleRequest (by exact current) (by exact due) _,
              by rintro _ rfl -; exact due⟩
          · exact ⟨rest, fun _ _ armed => absurd rfl armed⟩
        · exact ⟨rest, fun _ _ armed => absurd rfl armed⟩

/-! ## Generations -/

@[simp] theorem scheduleRequest_generation (c : Controller) (pending : PendingAutoShare)
    (delayMs : Rat) : (c.scheduleRequest pending delayMs).scheduleGeneration =
      c.scheduleGeneration := clearPendingTimer_generation c

theorem scheduleForNavigation_generation (c : Controller) (input : Input) :
    c.scheduleGeneration ≤ (c.scheduleForNavigation A input).scheduleGeneration := by
  have lineage : (if input.previousAutoShareTargetUrl = none then
      { c with sentChainTargets := [] } else c).scheduleGeneration = c.scheduleGeneration := by
    split <;> rfl
  unfold Controller.scheduleForNavigation
  split
  · exact le_rfl
  · generalize (if input.previousAutoShareTargetUrl = none then
      { c with sentChainTargets := [] } else c) = d at lineage
    dsimp only
    split
    · omega
    · rw [scheduleRequest_generation]
      dsimp only
      omega

theorem fire_generation (c : Controller) (id : Nat) (page : Page)
    (activeSharedUrl : Option JsString) :
    (c.fire A id page activeSharedUrl).1.scheduleGeneration = c.scheduleGeneration := by
  unfold Controller.fire requestAutoShare
  split
  · dsimp only
    split <;> rfl
  · rfl

theorem afterAnswer_generation (c : Controller) (pending : PendingAutoShare) (reply : Answer) :
    (c.afterAnswer A pending reply).scheduleGeneration = c.scheduleGeneration := by
  cases reply with
  | rejected => rfl
  | response response =>
    simp only [afterAnswer]
    split
    · rfl
    · split
      · exact scheduleRequest_generation ..
      · split
        · exact scheduleRequest_generation ..
        · rfl
      · rfl

theorem answer_generation (c : Controller) (request : Nat) (reply : Answer) :
    (c.answer A request reply).scheduleGeneration = c.scheduleGeneration := by
  unfold Controller.answer
  split
  · exact afterAnswer_generation ..
  · rfl

/-- A timer is armed again only for a request of the generation that stands. -/
theorem generation_of_rearmed {request : Nat} {reply : Answer} {pending : PendingAutoShare}
    (found : c.inFlight[request]? = some pending)
    (armed : (c.answer A request reply).timers ≠ c.timers) :
    pending.generation = c.scheduleGeneration := by
  by_contra superseded
  apply armed
  simp only [Controller.answer, found]
  cases reply with
  | rejected => rfl
  | response response => simp [afterAnswer, superseded]

end Controller

end BiliSyncPlay.AutoShareNext
