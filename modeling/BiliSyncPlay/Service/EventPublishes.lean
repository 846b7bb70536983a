import BiliSyncPlay.Lists
import BiliSyncPlay.OrderedDrain
import BiliSyncPlay.Protocol.Records
import Mathlib.Logic.Relation
import Mathlib.Data.List.Perm.Subperm

/-!
# Publishing under backpressure

`firePublishRoomEvent` with any number of calls at once: at most so many publishes are awaited, a
call beyond them waits for a slot, and it is dropped when its wait is over. Times are in
milliseconds. A step is one synchronous stretch with the promise callbacks it causes.
-/

namespace BiliSyncPlay.EventPublishes

open Json Protocol

structure Options where
  instanceId : JsString
  maxPendingPublishes : Nat := 256
  backpressureWaitMs : Nat := 5000
  publishTimeoutMs : Nat := 5000
  /-- A timer waits no longer. -/
  backpressureWaitMs_le : backpressureWaitMs ≤ OrderedDrain.MAX_TIMER_INTERVAL_MS := by decide
  publishTimeoutMs_le : publishTimeoutMs ≤ OrderedDrain.MAX_TIMER_INTERVAL_MS := by decide

inductive RoomEventBusPublishInput where
  | room (type : RoomEventType) (roomCode : JsString)
  | member (type : MemberEventType) (roomCode memberId displayName : JsString)
  deriving DecidableEq

/-- The message as it is handed to the bus. -/
def RoomEventBusPublishInput.stamped (instanceId : JsString) (emittedAt : Nat) :
    RoomEventBusPublishInput → RoomEventBusMessage
  | .room type roomCode => .room type roomCode instanceId emittedAt
  | .member type roomCode memberId displayName =>
    .member type roomCode instanceId emittedAt memberId displayName

/-- How the promise that takes up a slot settled. -/
inductive Outcome where
  | ok
  /-- The bus rejected; `room_event_publish_failed` was logged. -/
  | failed
  /-- `room_event_publish_timeout` was logged. The call of the bus goes on unobserved. -/
  | timedOut
  deriving DecidableEq

structure Publish where
  call : Nat
  message : RoomEventBusMessage
  handedAt : Nat
  timeoutAt : Nat
  outcome : Option Outcome := none
  deriving DecidableEq

inductive Stage where
  /-- It awaits that one of these settles, or its timer. -/
  | waiting (deadline : Nat) (slots : List Nat)
  | handed (publish : Nat)
  /-- `room_event_publish_dropped` was logged and counted. -/
  | dropped (droppedAt : Nat)
  deriving DecidableEq

/-- The time the timer of a waiting call is set to. -/
def Stage.deadline? : Stage → Option Nat
  | .waiting deadline _ => some deadline
  | _ => none

theorem Stage.deadline?_eq_some {stage : Stage} {deadline : Nat} :
    stage.deadline? = some deadline ↔ ∃ slots, stage = .waiting deadline slots := by
  cases stage <;> simp [Stage.deadline?, eq_comm]

structure Call where
  message : RoomEventBusPublishInput
  calledAt : Nat
  stage : Stage
  deriving DecidableEq

structure Publisher where
  now : Nat := 0
  calls : List Call := []
  publishes : List Publish := []
  deriving DecidableEq

namespace Publisher

/-- `pendingPublishes`. -/
def pending (p : Publisher) : List Nat :=
  places (fun publish => publish.outcome.isNone) p.publishes

def setStage (id : Nat) (stage : Stage) (p : Publisher) : Publisher :=
  { p with calls := p.calls.modify id fun call => { call with stage } }

/-- `options.publishRoomEvent` is called, and what it answers takes up a slot. -/
def hand (options : Options) (id : Nat) (message : RoomEventBusPublishInput) (p : Publisher) :
    Publisher :=
  { p.setStage id (.handed p.publishes.length) with
    publishes := p.publishes ++ [{
      call := id
      message := message.stamped options.instanceId p.now
      handedAt := p.now
      timeoutAt := p.now + options.publishTimeoutMs }] }

/-- The loop of a call, from its check of the slots to its next await. -/
def proceed (options : Options) (id : Nat) (message : RoomEventBusPublishInput) (deadline : Nat)
    (p : Publisher) : Publisher :=
  if p.pending.length < options.maxPendingPublishes then p.hand options id message
  else if deadline ≤ p.now then p.setStage id (.dropped p.now)
  else p.setStage id (.waiting deadline p.pending)

def firePublishRoomEvent (options : Options) (message : RoomEventBusPublishInput)
    (p : Publisher) : Publisher :=
  let deadline := p.now + options.backpressureWaitMs
  let call : Call := { message, calledAt := p.now, stage := .waiting deadline [] }
  ({ p with calls := p.calls ++ [call] }).proceed options p.calls.length message deadline

def settle (k : Nat) (outcome : Outcome) (p : Publisher) : Publisher :=
  { p with
    publishes := p.publishes.modify k fun publish => { publish with outcome := some outcome } }

end Publisher

inductive Step (options : Options) : Publisher → Publisher → Prop where
  | elapse (p : Publisher) (ms : Nat) : Step options p { p with now := p.now + ms }
  | called (p : Publisher) (message : RoomEventBusPublishInput) :
    Step options p (p.firePublishRoomEvent options message)
  | freed (p : Publisher) (id : Nat) (call : Call) (deadline : Nat) (slots : List Nat)
    (there : p.calls[id]? = some call) (waits : call.stage = .waiting deadline slots)
    (settled : ∃ k ∈ slots, k ∉ p.pending) :
    Step options p (p.proceed options id call.message deadline)
  | waitedOut (p : Publisher) (id : Nat) (call : Call) (deadline : Nat) (slots : List Nat)
    (there : p.calls[id]? = some call) (waits : call.stage = .waiting deadline slots)
    (due : deadline ≤ p.now) : Step options p (p.setStage id (.dropped p.now))
  | answered (p : Publisher) (k : Nat) (accepted : Bool) (running : k ∈ p.pending) :
    Step options p (p.settle k (if accepted then .ok else .failed))
  | timedOut (p : Publisher) (k : Nat) (publish : Publish)
    (there : p.publishes[k]? = some publish) (running : publish.outcome = none)
    (due : publish.timeoutAt ≤ p.now) : Step options p (p.settle k .timedOut)

/-- Timers run when they are due: none is overdue. -/
structure OnTime (p : Publisher) : Prop where
  waits : ∀ (id : Nat) (call : Call) (deadline : Nat) (slots : List Nat),
    p.calls[id]? = some call → call.stage = .waiting deadline slots → p.now ≤ deadline
  timeouts : ∀ (k : Nat) (publish : Publish), p.publishes[k]? = some publish →
    publish.outcome = none → p.now ≤ publish.timeoutAt

instance (p : Publisher) : Decidable (OnTime p) :=
  decidable_of_iff
    ((∀ call ∈ p.calls, ∀ deadline ∈ call.stage.deadline?, p.now ≤ deadline) ∧
      ∀ publish ∈ p.publishes, publish.outcome = none → p.now ≤ publish.timeoutAt)
    ⟨fun early =>
      { waits := fun _ call deadline _ there waits =>
          early.1 call (List.mem_of_getElem? there) deadline (by simp [waits, Stage.deadline?])
        timeouts := fun _ publish there running =>
          early.2 publish (List.mem_of_getElem? there) running },
    fun onTime =>
      ⟨fun call mem deadline waits => by
        obtain ⟨id, there⟩ := List.getElem?_of_mem mem
        obtain ⟨slots, stage⟩ := Stage.deadline?_eq_some.mp waits
        exact onTime.waits id call deadline slots there stage,
      fun publish mem running => by
        obtain ⟨k, there⟩ := List.getElem?_of_mem mem
        exact onTime.timeouts k publish there running⟩⟩

/-- A step that leaves no timer overdue. -/
def Punctual (options : Options) (p p' : Publisher) : Prop :=
  Step options p p' ∧ OnTime p'

def Reachable (options : Options) : Publisher → Prop :=
  Relation.ReflTransGen (Step options) {}

/-! ## The slots -/

section Slots

variable {p : Publisher} {k : Nat}

theorem mem_pending : k ∈ p.pending ↔
    ∃ publish, p.publishes[k]? = some publish ∧ publish.outcome = none := by
  unfold Publisher.pending
  rw [mem_places]
  simp only [Option.isNone_iff_eq_none]

theorem nodup_pending (p : Publisher) : p.pending.Nodup :=
  nodup_places _ _

theorem length_le_pending {ks : List Nat} (distinct : ks.Nodup)
    (within : ∀ k ∈ ks, k ∈ p.pending) : ks.length ≤ p.pending.length :=
  (List.subperm_of_subset distinct within).length_le

theorem length_pending_hand (options : Options) (id : Nat) (message : RoomEventBusPublishInput)
    (p : Publisher) : (p.hand options id message).pending.length ≤ p.pending.length + 1 := by
  have within : ∀ k ∈ (p.hand options id message).pending,
      k ∈ p.pending ++ [p.publishes.length] := by
    intro k running
    obtain ⟨publish, there, unsettled⟩ := mem_pending.mp running
    rw [List.mem_append, List.mem_singleton]
    rcases getElem?_concat_cases there with ⟨last, -⟩ | ⟨-, before⟩
    · exact .inr last
    · exact .inl (mem_pending.mpr ⟨publish, before, unsettled⟩)
  have sub := (List.subperm_of_subset (nodup_pending _) within).length_le
  simpa using sub

theorem mem_pending_settle {k other : Nat} {outcome : Outcome}
    (running : other ∈ (p.settle k outcome).pending) : other ∈ p.pending ∧ other ≠ k := by
  obtain ⟨publish, there, unsettled⟩ := mem_pending.mp running
  simp only [Publisher.settle, List.getElem?_modify] at there
  obtain ⟨old, before, rfl⟩ := Option.map_eq_some_iff.mp there
  by_cases same : k = other
  · simp [same] at unsettled
  · simp only [same, if_false] at unsettled
    exact ⟨mem_pending.mpr ⟨old, before, unsettled⟩, fun h => same h.symm⟩

theorem length_pending_settle (k : Nat) (outcome : Outcome) (p : Publisher) :
    (p.settle k outcome).pending.length ≤ p.pending.length :=
  length_le_pending (nodup_pending _) fun _ running => (mem_pending_settle running).1

end Slots

/-! ## What becomes of a call -/

/-- The publish is the one this call asked for. -/
structure Publish.Of (options : Options) (k : Nat) (call : Call) (publish : Publish) : Prop where
  stage : call.stage = .handed k
  message : publish.message = call.message.stamped options.instanceId publish.handedAt
  timeoutAt : publish.timeoutAt = publish.handedAt + options.publishTimeoutMs

def Call.Sound (options : Options) (publishes : List Publish) (id : Nat) (call : Call) : Prop :=
  match call.stage with
  | .waiting deadline slots =>
    deadline = call.calledAt + options.backpressureWaitMs ∧ slots.Nodup ∧
      options.maxPendingPublishes ≤ slots.length
  | .handed k => ∃ publish, publishes[k]? = some publish ∧ publish.call = id
  | .dropped droppedAt => call.calledAt + options.backpressureWaitMs ≤ droppedAt

/-- The calls and the publishes belong together, but for a call that is just running. -/
structure Valid (options : Options) (busy : Option Nat) (p : Publisher) : Prop where
  cap : p.pending.length ≤ options.maxPendingPublishes
  publishes : ∀ (k : Nat) (publish : Publish), p.publishes[k]? = some publish →
    some publish.call ≠ busy ∧
      ∃ call, p.calls[publish.call]? = some call ∧ publish.Of options k call
  calls : ∀ (id : Nat) (call : Call), p.calls[id]? = some call → some id ≠ busy →
    call.Sound options p.publishes id

section Calls

variable {options : Options} {p p' : Publisher} {id deadline : Nat} {call : Call}

theorem Call.Sound.concat {publishes : List Publish} (sound : call.Sound options publishes id)
    (publish : Publish) : call.Sound options (publishes ++ [publish]) id := by
  unfold Call.Sound at sound ⊢
  split at sound
  · exact sound
  · obtain ⟨publish, there, owned⟩ := sound
    exact ⟨publish, getElem?_concat_of_some there _, owned⟩
  · exact sound

theorem Valid.enter (valid : Valid options none p) (there : p.calls[id]? = some call)
    (unhanded : ∀ k, call.stage ≠ .handed k) : Valid options (some id) p := by
  refine { valid with publishes := ?_, calls := ?_ }
  · intro k publish placed
    obtain ⟨-, owner, owned, of⟩ := valid.publishes k publish placed
    refine ⟨?_, owner, owned, of⟩
    intro same
    rw [Option.some.inj same, there] at owned
    cases owned
    exact unhanded k of.stage
  · intro other call placed distinct
    exact valid.calls other call placed (by simp)

theorem getElem?_setStage (id other : Nat) (stage : Stage) (p : Publisher) :
    (p.setStage id stage).calls[other]? =
      (p.calls[other]?).map fun call => if id = other then { call with stage } else call := by
  unfold Publisher.setStage
  rw [List.getElem?_modify]
  by_cases same : id = other <;> simp [same]

theorem Valid.setStage (valid : Valid options (some id) p) (there : p.calls[id]? = some call)
    {stage : Stage} (sound : ({ call with stage }).Sound options p.publishes id) :
    Valid options none (p.setStage id stage) := by
  constructor
  · exact valid.cap
  · intro k publish placed
    obtain ⟨distinct, owner, owned, of⟩ := valid.publishes k publish placed
    refine ⟨by simp, owner, ?_, of⟩
    have other : ¬ id = publish.call := fun same => distinct (by rw [same])
    rw [getElem?_setStage, owned]
    simp [other]
  · intro other now_call placed _
    rw [getElem?_setStage] at placed
    obtain ⟨old, before, rfl⟩ := Option.map_eq_some_iff.mp placed
    by_cases same : id = other
    · subst same
      rw [there] at before
      cases before
      simp only [if_true]
      exact sound
    · simp only [same, if_false]
      exact valid.calls other old before (by simpa using Ne.symm same)

theorem Valid.hand (valid : Valid options (some id) p) (there : p.calls[id]? = some call)
    (free : p.pending.length < options.maxPendingPublishes) :
    Valid options none (p.hand options id call.message) := by
  have stages := getElem?_setStage id
  constructor
  · have grown := length_pending_hand options id call.message p
    omega
  · intro k publish placed
    refine ⟨by simp, ?_⟩
    change ∃ call, (p.setStage id (.handed p.publishes.length)).calls[publish.call]? = some call ∧
      publish.Of options k call
    rcases getElem?_concat_cases placed with ⟨rfl, rfl⟩ | ⟨-, old⟩
    · refine ⟨{ call with stage := .handed p.publishes.length }, ?_, rfl, rfl, rfl⟩
      rw [stages, there]
      simp
    · obtain ⟨distinct, owner, owned, of⟩ := valid.publishes k publish old
      have other : ¬ id = publish.call := fun same => distinct (by rw [same])
      refine ⟨owner, ?_, of⟩
      rw [stages, owned]
      simp [other]
  · intro other now_call placed _
    change (p.setStage id (.handed p.publishes.length)).calls[other]? = some now_call at placed
    rw [stages] at placed
    obtain ⟨old, before, rfl⟩ := Option.map_eq_some_iff.mp placed
    by_cases same : id = other
    · subst same
      simp only [if_true]
      exact ⟨_, List.getElem?_concat_length, rfl⟩
    · simp only [same, if_false]
      exact (valid.calls other old before (by simpa using Ne.symm same)).concat _

theorem Valid.proceed (valid : Valid options (some id) p) (there : p.calls[id]? = some call)
    (until_then : deadline = call.calledAt + options.backpressureWaitMs) :
    Valid options none (p.proceed options id call.message deadline) := by
  unfold Publisher.proceed
  split
  · next free => exact valid.hand there free
  · next full =>
    split
    · next due =>
      apply valid.setStage there
      change call.calledAt + options.backpressureWaitMs ≤ p.now
      omega
    · apply valid.setStage there
      exact ⟨until_then, nodup_pending p, Nat.le_of_not_lt full⟩

theorem Valid.fire (valid : Valid options none p) (message : RoomEventBusPublishInput) :
    Valid options none (p.firePublishRoomEvent options message) := by
  have running : Valid options (some p.calls.length) { p with
      calls := p.calls ++ [⟨message, p.now,
        .waiting (p.now + options.backpressureWaitMs) []⟩] } := by
    constructor
    · exact valid.cap
    · intro k publish placed
      obtain ⟨-, owner, owned, of⟩ := valid.publishes k publish placed
      refine ⟨?_, owner, getElem?_concat_of_some owned _, of⟩
      intro same
      have inside := (List.getElem?_eq_some_iff.mp owned).1
      have last := Option.some.inj same
      omega
    · intro other call placed distinct
      rcases getElem?_concat_cases placed with ⟨last, -⟩ | ⟨-, old⟩
      · exact absurd (by rw [last]) distinct
      · exact valid.calls other call old (by simp)
  exact running.proceed List.getElem?_concat_length rfl

theorem Valid.settle (valid : Valid options none p) (k : Nat) (outcome : Outcome) :
    Valid options none (p.settle k outcome) := by
  have placed_before : ∀ (j : Nat) (publish : Publish),
      (p.settle k outcome).publishes[j]? = some publish →
        ∃ old, p.publishes[j]? = some old ∧ publish.call = old.call ∧
          publish.message = old.message ∧ publish.handedAt = old.handedAt ∧
          publish.timeoutAt = old.timeoutAt := by
    intro j publish placed
    simp only [Publisher.settle, List.getElem?_modify] at placed
    obtain ⟨old, before, rfl⟩ := Option.map_eq_some_iff.mp placed
    refine ⟨old, before, ?_⟩
    split <;> exact ⟨rfl, rfl, rfl, rfl⟩
  constructor
  · exact (length_pending_settle k outcome p).trans valid.cap
  · intro j publish placed
    obtain ⟨old, before, owner, text, handed, timer⟩ := placed_before j publish placed
    obtain ⟨-, call, owned, of⟩ := valid.publishes j old before
    refine ⟨by simp, call, by rw [owner]; exact owned, of.stage, ?_, ?_⟩
    · rw [text, of.message, handed]
    · rw [timer, of.timeoutAt, handed]
  · intro id call placed _
    have sound := valid.calls id call placed (by simp)
    unfold Call.Sound at sound ⊢
    split at sound
    · exact sound
    · next j _ =>
      obtain ⟨publish, there, owned⟩ := sound
      refine ⟨if k = j then { publish with outcome := some outcome } else publish, ?_, ?_⟩
      · simp only [Publisher.settle, List.getElem?_modify, there]
        by_cases same : k = j <;> simp [same]
      · split <;> exact owned
    · exact sound

theorem Step.valid (step : Step options p p') (valid : Valid options none p) :
    Valid options none p' := by
  cases step with
  | elapse ms => exact ⟨valid.cap, valid.publishes, valid.calls⟩
  | called message => exact valid.fire message
  | freed id call deadline slots there waits settled =>
    have sound := valid.calls id call there (by simp)
    rw [Call.Sound, waits] at sound
    exact (valid.enter there (by simp [waits])).proceed there sound.1
  | waitedOut id call deadline slots there waits due =>
    have sound := valid.calls id call there (by simp)
    rw [Call.Sound, waits] at sound
    apply (valid.enter there (by simp [waits])).setStage there
    change call.calledAt + options.backpressureWaitMs ≤ p.now
    rw [← sound.1]
    exact due
  | answered k accepted running => exact valid.settle k _
  | timedOut k publish there running due => exact valid.settle k _

theorem Reachable.valid (reached : Reachable options p) : Valid options none p := by
  induction reached with
  | refl => constructor <;> simp [Publisher.pending, places]
  | tail _ step ih => exact step.valid ih

end Calls

/-! ## Every call is accounted for -/

/-- What has become of a call: handed over once, dropped after its wait, or still waiting, and then
some slot it awaits has settled whenever there is room. -/
def Call.Accounted (options : Options) (p : Publisher) (id : Nat) (call : Call) : Prop :=
  match call.stage with
  | .handed k =>
      ∀ (j : Nat), (∃ publish, p.publishes[j]? = some publish ∧ publish.call = id) ↔ j = k
  | .dropped droppedAt => call.calledAt + options.backpressureWaitMs ≤ droppedAt ∧
      ∀ publish ∈ p.publishes, publish.call ≠ id
  | .waiting deadline slots => deadline = call.calledAt + options.backpressureWaitMs ∧
      (∀ publish ∈ p.publishes, publish.call ≠ id) ∧
      (p.pending.length < options.maxPendingPublishes → ∃ k ∈ slots, k ∉ p.pending)

section Accounts

variable {options : Options} {p : Publisher} {id : Nat} {call : Call}

theorem Valid.stage_of_call (valid : Valid options none p) (there : p.calls[id]? = some call)
    {k : Nat} {publish : Publish} (placed : p.publishes[k]? = some publish)
    (owner : publish.call = id) : call.stage = .handed k := by
  obtain ⟨-, owning, owned, of⟩ := valid.publishes k publish placed
  rw [owner, there] at owned
  cases owned
  exact of.stage

theorem Valid.unhanded (valid : Valid options none p) (there : p.calls[id]? = some call)
    (unhanded : ∀ k, call.stage ≠ .handed k) : ∀ publish ∈ p.publishes, publish.call ≠ id := by
  intro publish mem owner
  obtain ⟨k, placed⟩ := List.getElem?_of_mem mem
  exact unhanded k (valid.stage_of_call there placed owner)

/-- A waiting call awaits as many slots as there may be. When there is room, one of them is over. -/
theorem exists_settled {slots : List Nat} (distinct : slots.Nodup)
    (full : options.maxPendingPublishes ≤ slots.length)
    (room : p.pending.length < options.maxPendingPublishes) : ∃ k ∈ slots, k ∉ p.pending := by
  by_contra none_settled
  have within : ∀ k ∈ slots, k ∈ p.pending := by
    intro k mem
    by_contra settled
    exact none_settled ⟨k, mem, settled⟩
  have bound := length_le_pending distinct within
  omega

theorem Valid.accounted (valid : Valid options none p) (there : p.calls[id]? = some call) :
    call.Accounted options p id := by
  have sound := valid.calls id call there (by simp)
  unfold Call.Sound at sound
  unfold Call.Accounted
  split at sound
  · next deadline slots waits =>
    rw [waits]
    refine ⟨sound.1, valid.unhanded there (by simp [waits]), ?_⟩
    exact exists_settled sound.2.1 sound.2.2
  · next k handed =>
    rw [handed]
    intro j
    constructor
    · rintro ⟨publish, placed, owner⟩
      have stage := valid.stage_of_call there placed owner
      rw [handed] at stage
      cases stage
      rfl
    · rintro rfl
      exact sound
  · next droppedAt dropped =>
    rw [dropped]
    exact ⟨sound, valid.unhanded there (by simp [dropped])⟩

end Accounts

/-- At no time are more than `maxPendingPublishes` awaited, and each call is handed to the bus at
most once and with its own message. It is dropped only after its whole wait, and never left waiting
for slots that are all taken while there is room. -/
theorem publishes_are_accounted_for (options : Options) (p : Publisher)
    (reached : Reachable options p) :
    p.pending.length ≤ options.maxPendingPublishes ∧
    (∀ (k : Nat) (publish : Publish), p.publishes[k]? = some publish →
      ∃ call, p.calls[publish.call]? = some call ∧ call.stage = .handed k ∧
        publish.message = call.message.stamped options.instanceId publish.handedAt) ∧
    ∀ (id : Nat) (call : Call), p.calls[id]? = some call → call.Accounted options p id := by
  have valid := reached.valid
  refine ⟨valid.cap, ?_, fun id call there => valid.accounted there⟩
  intro k publish placed
  obtain ⟨-, call, owned, of⟩ := valid.publishes k publish placed
  exact ⟨call, owned, of.stage, of.message⟩

/-- With one slot, the second call waits and is handed over once the first is answered. -/
theorem second_call_waits_for_the_slot :
    let options : Options := { instanceId := RedisRoomStore.js "a", maxPendingPublishes := 1 }
    let deleted : RoomEventBusPublishInput := .room .deleted (RedisRoomStore.js "R")
    let waiting := (Publisher.firePublishRoomEvent options deleted {}).firePublishRoomEvent options
      deleted
    let handed := (waiting.settle 0 .ok).proceed options 1 deleted 5000
    waiting.calls[1]? = some ⟨deleted, 0, .waiting 5000 [0]⟩ ∧
      handed.calls[1]? = some ⟨deleted, 0, .handed 1⟩ ∧ handed.pending.length ≤ 1 := by
  intro options deleted waiting handed
  refine ⟨by decide, by decide, ?_⟩
  have settled : Step options waiting (waiting.settle 0 .ok) :=
    .answered waiting 0 true (by decide)
  have freed : Step options (waiting.settle 0 .ok) handed :=
    .freed _ 1 ⟨deleted, 0, .waiting 5000 [0]⟩ 5000 [0] (by decide) rfl (by decide)
  have reached : Reachable options handed :=
    (((Relation.ReflTransGen.refl.tail (.called _ deleted)).tail (.called _ deleted)).tail
      settled).tail freed
  exact (publishes_are_accounted_for options handed reached).1

/-! ## Coming to rest -/

/-- No call was handed over or dropped later than its wait allows. -/
structure Prompt (options : Options) (p : Publisher) : Prop where
  handed : ∀ (k : Nat) (publish : Publish) (call : Call), p.publishes[k]? = some publish →
    p.calls[publish.call]? = some call →
      publish.handedAt ≤ call.calledAt + options.backpressureWaitMs
  dropped : ∀ (id : Nat) (call : Call) (droppedAt : Nat), p.calls[id]? = some call →
    call.stage = .dropped droppedAt → droppedAt ≤ call.calledAt + options.backpressureWaitMs

section Promptness

variable {options : Options} {p p' : Publisher} {id : Nat} {call : Call}

section
variable (prompt : Prompt options p)
include prompt

theorem Prompt.setStage (there : p.calls[id]? = some call) {stage : Stage}
    (inTime : ∀ droppedAt, stage = .dropped droppedAt →
      droppedAt ≤ call.calledAt + options.backpressureWaitMs) :
    Prompt options (p.setStage id stage) := by
  constructor
  · intro k publish owner placed owned
    rw [getElem?_setStage] at owned
    obtain ⟨old, before, rfl⟩ := Option.map_eq_some_iff.mp owned
    have bound := prompt.handed k publish old placed before
    split <;> exact bound
  · intro other owner droppedAt owned dropped
    rw [getElem?_setStage] at owned
    obtain ⟨old, before, rfl⟩ := Option.map_eq_some_iff.mp owned
    by_cases same : id = other
    · subst same
      rw [there] at before
      cases before
      simp only [if_true] at dropped ⊢
      exact inTime droppedAt dropped
    · simp only [same, if_false] at dropped ⊢
      exact prompt.dropped other old droppedAt before dropped

theorem Prompt.hand (there : p.calls[id]? = some call)
    (inTime : p.now ≤ call.calledAt + options.backpressureWaitMs)
    (message : RoomEventBusPublishInput) : Prompt options (p.hand options id message) := by
  have staged : Prompt options (p.setStage id (.handed p.publishes.length)) :=
    prompt.setStage there (by simp)
  constructor
  · intro k publish owner placed owned
    rcases getElem?_concat_cases placed with ⟨rfl, rfl⟩ | ⟨-, old⟩
    · change (p.setStage id (.handed p.publishes.length)).calls[id]? = some owner at owned
      rw [getElem?_setStage, there] at owned
      simp only [Option.map_some, if_true, Option.some.injEq] at owned
      subst owned
      exact inTime
    · exact staged.handed k publish owner old owned
  · exact staged.dropped

theorem Prompt.proceed (there : p.calls[id]? = some call)
    (inTime : p.now ≤ call.calledAt + options.backpressureWaitMs)
    (message : RoomEventBusPublishInput) (deadline : Nat) :
    Prompt options (p.proceed options id message deadline) := by
  unfold Publisher.proceed
  split
  · exact prompt.hand there inTime message
  · split
    · apply prompt.setStage there
      rintro droppedAt ⟨⟩
      exact inTime
    · exact prompt.setStage there (by simp)

theorem Prompt.fire (valid : Valid options none p) (message : RoomEventBusPublishInput) :
    Prompt options (p.firePublishRoomEvent options message) := by
  have running : Prompt options { p with
      calls := p.calls ++ [⟨message, p.now,
        .waiting (p.now + options.backpressureWaitMs) []⟩] } := by
    constructor
    · intro k publish call placed owned
      obtain ⟨-, owner, owning, -⟩ := valid.publishes k publish placed
      have inside := (List.getElem?_eq_some_iff.mp owning).1
      rw [List.getElem?_append_left inside] at owned
      exact prompt.handed k publish call placed owned
    · intro id call droppedAt placed dropped
      rcases getElem?_concat_cases placed with ⟨-, rfl⟩ | ⟨-, old⟩
      · cases dropped
      · exact prompt.dropped id call droppedAt old dropped
  exact running.proceed List.getElem?_concat_length (Nat.le_add_right _ _) message _

theorem Prompt.settle (k : Nat) (outcome : Outcome) :
    Prompt options (p.settle k outcome) := by
  refine ⟨?_, prompt.dropped⟩
  intro j publish call placed owned
  simp only [Publisher.settle, List.getElem?_modify] at placed
  obtain ⟨old, before, rfl⟩ := Option.map_eq_some_iff.mp placed
  have bound := prompt.handed j old call before
  by_cases same : k = j
  · simp only [same, if_true] at owned ⊢
    exact bound owned
  · simp only [same, if_false] at owned ⊢
    exact bound owned

end

theorem Step.prompt (step : Step options p p') (valid : Valid options none p)
    (onTime : OnTime p) (prompt : Prompt options p) : Prompt options p' := by
  have deadline_eq : ∀ (id : Nat) (call : Call) (deadline : Nat) (slots : List Nat),
      p.calls[id]? = some call → call.stage = .waiting deadline slots →
        deadline = call.calledAt + options.backpressureWaitMs := by
    intro id call deadline slots there waits
    have sound := valid.calls id call there (by simp)
    rw [Call.Sound, waits] at sound
    exact sound.1
  cases step with
  | elapse ms => exact ⟨prompt.handed, prompt.dropped⟩
  | called message => exact prompt.fire valid message
  | freed id call deadline slots there waits settled =>
    have early := onTime.waits id call deadline slots there waits
    have until_then := deadline_eq id call deadline slots there waits
    exact prompt.proceed there (by omega) call.message deadline
  | waitedOut id call deadline slots there waits due =>
    have early := onTime.waits id call deadline slots there waits
    have until_then := deadline_eq id call deadline slots there waits
    apply prompt.setStage there
    rintro droppedAt ⟨⟩
    omega
  | answered k accepted running => exact prompt.settle k _
  | timedOut k publish there running due => exact prompt.settle k _

theorem punctual_run (run : Relation.ReflTransGen (Punctual options) {} p) :
    Reachable options p ∧ OnTime p ∧ Prompt options p := by
  induction run with
  | refl => exact ⟨.refl, by constructor <;> simp, by constructor <;> simp⟩
  | tail _ step ih =>
    obtain ⟨reached, onTime, prompt⟩ := ih
    exact ⟨reached.tail step.1, step.2, step.1.prompt reached.valid onTime prompt⟩

end Promptness

/-- Where timers run when they are due, a call is dropped exactly when its wait is over, and it
holds up a flush for no longer than its wait and the timeout of its publish. -/
theorem calls_come_to_rest (options : Options) (p : Publisher)
    (run : Relation.ReflTransGen (Punctual options) {} p) (id : Nat) (call : Call)
    (there : p.calls[id]? = some call) :
    (∀ droppedAt, call.stage = .dropped droppedAt →
      droppedAt = call.calledAt + options.backpressureWaitMs) ∧
    (∀ deadline slots, call.stage = .waiting deadline slots →
      p.now ≤ call.calledAt + options.backpressureWaitMs) ∧
    ∀ (k : Nat) (publish : Publish), p.publishes[k]? = some publish → publish.call = id →
      publish.handedAt ≤ call.calledAt + options.backpressureWaitMs ∧
      (k ∈ p.pending →
        p.now ≤ call.calledAt + options.backpressureWaitMs + options.publishTimeoutMs) := by
  obtain ⟨reached, onTime, prompt⟩ := punctual_run run
  have valid := reached.valid
  have accounted := valid.accounted there
  refine ⟨?_, ?_, ?_⟩
  · intro droppedAt dropped
    rw [Call.Accounted, dropped] at accounted
    have late := prompt.dropped id call droppedAt there dropped
    have early := accounted.1
    omega
  · intro deadline slots waits
    rw [Call.Accounted, waits] at accounted
    rw [← accounted.1]
    exact onTime.waits id call deadline slots there waits
  · intro k publish placed owner
    subst owner
    have inTime := prompt.handed k publish call placed there
    refine ⟨inTime, ?_⟩
    intro running
    obtain ⟨same, found, unsettled⟩ := mem_pending.mp running
    rw [placed] at found
    cases found
    obtain ⟨-, owner, -, of⟩ := valid.publishes k publish placed
    have timer := onTime.timeouts k publish placed unsettled
    rw [of.timeoutAt] at timer
    omega

/-- The second of two calls for one slot is dropped when its five seconds are over. -/
theorem second_call_is_dropped :
    let options : Options := { instanceId := RedisRoomStore.js "a", maxPendingPublishes := 1 }
    let deleted : RoomEventBusPublishInput := .room .deleted (RedisRoomStore.js "R")
    let waiting := (Publisher.firePublishRoomEvent options deleted {}).firePublishRoomEvent options
      deleted
    let dropped := ({ waiting with now := waiting.now + 5000 } : Publisher).setStage 1
      (.dropped 5000)
    dropped.calls[1]? = some ⟨deleted, 0, .dropped 5000⟩ ∧
      ∀ droppedAt, Stage.dropped 5000 = .dropped droppedAt → droppedAt = 0 + 5000 := by
  intro options deleted waiting dropped
  have there : dropped.calls[1]? = some ⟨deleted, 0, .dropped 5000⟩ := by decide
  refine ⟨there, ?_⟩
  have run : Relation.ReflTransGen (Punctual options) {} dropped :=
    (((Relation.ReflTransGen.refl.tail ⟨.called _ deleted, by decide⟩).tail
      ⟨.called _ deleted, by decide⟩).tail
        ⟨.elapse waiting 5000, by decide⟩).tail
          ⟨.waitedOut _ 1 ⟨deleted, 0, .waiting 5000 [0]⟩ 5000 [0] (by decide) rfl
            (by decide), by decide⟩
  exact (calls_come_to_rest options dropped run 1 _ there).1

end BiliSyncPlay.EventPublishes
