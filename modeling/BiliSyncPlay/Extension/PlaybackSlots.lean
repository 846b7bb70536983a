import BiliSyncPlay.Json.Strings
import BiliSyncPlay.Lists
import Mathlib.Logic.Relation
import Mathlib.Data.Rat.Defs

/-!
# Playback updates and their deduplication slots

A browser session: its content scripts, each with its own counter (`content/index.ts`), the
background that picks the shared tab (`tab-coordinator.ts`), and the slots that
`updatePlaybackForSession` claims. Clocks are read at every step and may run as they like.
-/

namespace BiliSyncPlay.PlaybackSlots

open Json

/-! ## The extension -/

/-- The script of one page, from its load to the next. -/
structure ContentScript where
  tabId : Nat
  seq : Nat := 0
  deriving DecidableEq

structure PlaybackUpdate where
  script : Nat
  tabId : Nat
  url : JsString
  seq : Nat
  deriving DecidableEq

inductive Reason where
  | missingTab | acceptedFirst | acceptedCurrent | roomMismatch | ignoredNonShared
  deriving DecidableEq

structure Decision where
  accepted : Bool
  nextSharedTabId : Option Nat
  reason : Reason
  deriving DecidableEq

def decideSharedPlaybackTab (tabId sharedTabId : Option Nat)
    (normalizedRoomUrl normalizedPayloadUrl : Option JsString) : Decision :=
  match tabId with
  | none => ⟨false, sharedTabId, .missingTab⟩
  | some tab =>
    let agree := normalizedRoomUrl.isSome ∧ normalizedPayloadUrl.isSome ∧
      normalizedRoomUrl = normalizedPayloadUrl
    match sharedTabId with
    | none =>
      if agree then ⟨true, some tab, .acceptedFirst⟩ else ⟨false, none, .ignoredNonShared⟩
    | some shared =>
      if shared = tab then
        if agree then ⟨true, sharedTabId, .acceptedCurrent⟩
        else ⟨false, sharedTabId, .roomMismatch⟩
      else ⟨false, sharedTabId, .ignoredNonShared⟩

/-! ## The slots of a room -/

/-- The token of a slot is the number of the claim that took it. -/
structure Slot where
  key : String
  token : Nat
  expiresAt : Rat
  deriving DecidableEq

def pruned (slots : List Slot) (currentTime : Rat) : List Slot :=
  slots.filter fun slot => currentTime < slot.expiresAt

def tryClaimMessageSlot (slots : List Slot) (currentTime : Rat) (key : String) (token : Nat)
    (expiresAt : Rat) : Bool × List Slot :=
  let slots := pruned slots currentTime
  if slots.any (·.key = key) then (false, slots)
  else
    let slot : Slot := { key, token, expiresAt }
    (true, slots ++ [slot])

def releaseMessageSlot (slots : List Slot) (key : String) (token : Nat) : List Slot :=
  slots.filter fun slot => ¬ (slot.key = key ∧ slot.token = token)

def playbackDedupKey (playbackActorId sessionId : String) (seq : Nat) : String :=
  "playback:" ++ playbackActorId ++ ":" ++ sessionId ++ ":" ++ toString seq

theorem playbackDedupKey_injective {playbackActorId sessionId : String} {n m : Nat}
    (same : playbackDedupKey playbackActorId sessionId n =
      playbackDedupKey playbackActorId sessionId m) : n = m := by
  unfold playbackDedupKey at same
  rw [String.append_right_inj] at same
  have digits : Nat.toDigits 10 n = Nat.toDigits 10 m := by
    rw [← Nat.toList_repr, ← Nat.toList_repr]
    exact congrArg String.toList same
  calc
    n = Nat.ofDigitChars 10 (Nat.toDigits 10 n) 0 := Nat.ofDigitChars_ten_toDigits.symm
    _ = Nat.ofDigitChars 10 (Nat.toDigits 10 m) 0 := by rw [digits]
    _ = m := Nat.ofDigitChars_ten_toDigits

/-! ## The session -/

/-- What comes of an update once its slot is claimed. -/
inductive Outcome where
  | noSharedVideo
  | urlMismatch
  | notAccepted
  | writeThrew
  | versionConflict
  | roomNotFound
  | applied
  deriving DecidableEq

/-- Which outcomes give the slot back. -/
def Outcome.releases : Outcome → Bool
  | .noSharedVideo | .urlMismatch | .writeThrew | .roomNotFound => true
  | .notAccepted | .versionConflict | .applied => false

/-- One arrival at `updatePlaybackForSession`. -/
structure Arrival where
  update : Nat
  /-- The update arrived before. -/
  again : Bool
  deduplicated : Bool
  deriving DecidableEq

structure Browser where
  scripts : List ContentScript := []
  /-- The updates that were posted, in order. -/
  posted : List PlaybackUpdate := []
  connected : Bool := false
  hasMemberToken : Bool := false
  roomUrl : Option JsString := none
  sharedTabId : Option Nat := none
  /-- The updates that were sent to the server. -/
  sent : List Nat := []
  arrivals : List Arrival := []
  /-- The updates that were given a slot, by the token of the claim. -/
  claims : List Nat := []
  /-- The claims whose updates are still at work. -/
  handling : List Nat := []
  slots : List Slot := []
  deriving DecidableEq

/-- The answer of the store to a claim: a claim that throws may have landed. -/
inductive Claiming where
  | answered
  | threw (landed : Bool)
  deriving DecidableEq

inductive Event where
  | loads (tabId : Nat)
  /-- A share takes a number too. -/
  | shares (script : Nat)
  | posts (script : Nat) (url : JsString)
  | forwards (update : Nat)
  | turns (connected hasMemberToken : Bool) (roomUrl : Option JsString) (sharedTabId : Option Nat)
  /-- The update is turned away by `requireJoinedRoomSession`. -/
  | refused (update : Nat)
  | arrives (update : Nat) (now currentTime : Rat) (claiming : Claiming)
  | settles (token : Nat) (outcome : Outcome) (reached : Bool)

section
variable (playbackActorId sessionId : String) (normalizeUrl : Option JsString → Option JsString)

namespace Browser

def nextSeq (b : Browser) (script : Nat) : Browser :=
  { b with scripts := b.scripts.modify script fun c => { c with seq := c.seq + 1 } }

def arrival (b : Browser) (update : Nat) (deduplicated : Bool) : Browser :=
  let arrival : Arrival := {
    update, again := b.arrivals.any (·.update = update), deduplicated }
  { b with arrivals := b.arrivals ++ [arrival] }

/-- The claim of `updatePlaybackForSession`. -/
def claim (b : Browser) (update seq : Nat) (now currentTime : Rat) (claiming : Claiming) :
    Browser :=
  let key := playbackDedupKey playbackActorId sessionId seq
  let (claimed, slots) :=
    tryClaimMessageSlot b.slots currentTime key b.claims.length (now + 10000)
  match claiming with
  | .answered =>
    { b.arrival update (!claimed) with
      slots
      claims := b.claims ++ [update]
      handling := if claimed then b.handling ++ [b.claims.length] else b.handling }
  | .threw landed =>
    { b.arrival update false with
      slots := if landed then slots else b.slots
      claims := b.claims ++ [update] }

def exec (b : Browser) : Event → Option Browser
  | .loads tabId => some { b with scripts := b.scripts ++ [{ tabId }] }
  | .shares script => some (b.nextSeq script)
  | .posts script url => do
    let c ← b.scripts[script]?
    let update : PlaybackUpdate := { script, tabId := c.tabId, url, seq := c.seq }
    some { b.nextSeq script with posted := b.posted ++ [update] }
  | .forwards update => do
    let u ← b.posted[update]?
    if b.connected ∧ b.hasMemberToken then
      let decision := decideSharedPlaybackTab (some u.tabId) b.sharedTabId
        (normalizeUrl b.roomUrl) (normalizeUrl (some u.url))
      some { b with
        sharedTabId := decision.nextSharedTabId
        sent := if decision.accepted then b.sent ++ [update] else b.sent }
    else some b
  | .turns connected hasMemberToken roomUrl sharedTabId =>
    some { b with connected, hasMemberToken, roomUrl, sharedTabId }
  | .refused update => if update ∈ b.sent then some (b.arrival update false) else none
  | .arrives update now currentTime claiming => do
    let u ← b.posted[update]?
    if update ∈ b.sent then
      some (b.claim playbackActorId sessionId update u.seq now currentTime claiming)
    else none
  | .settles token outcome reached => do
    let update ← b.claims[token]?
    let u ← b.posted[update]?
    if token ∈ b.handling then
      let key := playbackDedupKey playbackActorId sessionId u.seq
      let released := releaseMessageSlot b.slots key token
      some { b with
        handling := b.handling.erase token
        slots := if outcome.releases ∧ reached then released else b.slots }
    else none

end Browser

/-! ## Runs -/

/-- An update is numbered by its script's counter, and a slot is that of the update it was claimed
for. -/
structure Numbered (b : Browser) : Prop where
  counted : ∀ u ∈ b.posted, ∃ c, b.scripts[u.script]? = some c ∧ u.seq < c.seq
  apart : b.posted.Pairwise fun u v => u.script = v.script → u.seq ≠ v.seq
  arrived : ∀ update ∈ b.claims, ∃ arrival ∈ b.arrivals, arrival.update = update
  claimed : ∀ slot ∈ b.slots, ∃ update u, b.claims[slot.token]? = some update ∧
    b.posted[update]? = some u ∧ slot.key = playbackDedupKey playbackActorId sessionId u.seq

/-- Only updates that arrived before are answered as duplicates. -/
def OnlyResent (b : Browser) : Prop :=
  ∀ arrival ∈ b.arrivals, arrival.deduplicated = true → arrival.again = true

/-- While a slot lives, no update of another content script arrives with its number. -/
def Meets (b : Browser) : Event → Prop
  | .arrives update _ currentTime .answered => ∀ u, b.posted[update]? = some u →
    ∀ slot ∈ b.slots, currentTime < slot.expiresAt →
      slot.key = playbackDedupKey playbackActorId sessionId u.seq →
        ∀ other v, b.claims[slot.token]? = some other → b.posted[other]? = some v →
          v.script = u.script
  | _ => True

def Step (b t : Browser) : Prop :=
  ∃ event, b.exec playbackActorId sessionId normalizeUrl event = some t

def StepMeeting (b t : Browser) : Prop :=
  ∃ event, Meets playbackActorId sessionId b event ∧
    b.exec playbackActorId sessionId normalizeUrl event = some t

variable {playbackActorId sessionId : String} {normalizeUrl : Option JsString → Option JsString}
variable {b t : Browser}

theorem mem_tryClaim {slots : List Slot} {currentTime expiresAt : Rat} {key : String} {token : Nat}
    {slot : Slot} (mem : slot ∈ (tryClaimMessageSlot slots currentTime key token expiresAt).2) :
    slot ∈ slots ∨ slot = { key, token, expiresAt } := by
  unfold tryClaimMessageSlot at mem
  dsimp only at mem
  split at mem
  · exact .inl (List.mem_of_mem_filter mem)
  · rcases List.mem_append.mp mem with mem | new
    · exact .inl (List.mem_of_mem_filter mem)
    · exact .inr (List.mem_singleton.mp new)

/-- A claim is refused for a slot that is held. -/
theorem held_of_tryClaim {slots : List Slot} {currentTime expiresAt : Rat} {key : String}
    {token : Nat} (refused : (tryClaimMessageSlot slots currentTime key token expiresAt).1 = false) :
    ∃ slot ∈ slots, currentTime < slot.expiresAt ∧ slot.key = key := by
  unfold tryClaimMessageSlot at refused
  dsimp only at refused
  split at refused
  · next held =>
    obtain ⟨slot, mem, same⟩ := List.any_eq_true.mp held
    obtain ⟨mem, live⟩ := List.mem_filter.mp mem
    exact ⟨slot, mem, of_decide_eq_true live, of_decide_eq_true same⟩
  · cases refused

namespace Numbered

variable (numbered : Numbered playbackActorId sessionId b)
include numbered

theorem nextSeq (script : Nat) : Numbered playbackActorId sessionId (b.nextSeq script) := by
  refine { numbered with counted := fun u mem => ?_ }
  obtain ⟨c, at_u, below⟩ := numbered.counted u mem
  by_cases here : script = u.script
  · refine ⟨{ c with seq := c.seq + 1 }, ?_, Nat.lt_succ_of_lt below⟩
    simp [Browser.nextSeq, here, at_u]
  · exact ⟨c, by simp [Browser.nextSeq, here, at_u], below⟩

theorem loads (tabId : Nat) :
    Numbered playbackActorId sessionId { b with scripts := b.scripts ++ [{ tabId }] } := by
  refine { numbered with counted := fun u mem => ?_ }
  obtain ⟨c, at_u, below⟩ := numbered.counted u mem
  have bound : u.script < b.scripts.length := (List.getElem?_eq_some_iff.mp at_u).1
  exact ⟨c, by rw [List.getElem?_append_left bound, at_u], below⟩

theorem posts {script : Nat} {c : ContentScript} (held : b.scripts[script]? = some c)
    (url : JsString) :
    let update : PlaybackUpdate := { script, tabId := c.tabId, url, seq := c.seq }
    Numbered playbackActorId sessionId
      { b.nextSeq script with posted := b.posted ++ [update] } := by
  intro update
  have next := numbered.nextSeq script
  exact {
    arrived := numbered.arrived
    counted := fun u mem => by
      rcases List.mem_append.mp mem with mem | new
      · exact next.counted u mem
      · obtain rfl := List.mem_singleton.mp new
        refine ⟨{ c with seq := c.seq + 1 }, ?_, Nat.lt_succ_self _⟩
        simp [Browser.nextSeq, update, held]
    apart := by
      refine List.pairwise_append.mpr ⟨numbered.apart, List.pairwise_singleton _ _, ?_⟩
      intro u mem v new same
      obtain rfl := List.mem_singleton.mp new
      obtain ⟨d, at_u, below⟩ := numbered.counted u mem
      rw [same, held] at at_u
      cases at_u
      exact Nat.ne_of_lt below
    claimed := fun slot mem => by
      obtain ⟨i, u, claim, at_i, key⟩ := numbered.claimed slot mem
      have bound : i < b.posted.length := (List.getElem?_eq_some_iff.mp at_i).1
      exact ⟨i, u, claim, by rw [List.getElem?_append_left bound, at_i], key⟩ }

theorem arrival (update : Nat) (deduplicated : Bool) :
    Numbered playbackActorId sessionId (b.arrival update deduplicated) := by
  refine { numbered with arrived := fun other claim => ?_ }
  obtain ⟨arrival, mem, same⟩ := numbered.arrived other claim
  exact ⟨arrival, List.mem_append_left _ mem, same⟩

/-- A claim leaves the slots with those that were there, and perhaps with its own. -/
theorem claim {update : Nat} {u : PlaybackUpdate} (held : b.posted[update]? = some u)
    (now currentTime : Rat) (claiming : Claiming) :
    Numbered playbackActorId sessionId
      (b.claim playbackActorId sessionId update u.seq now currentTime claiming) := by
  have given {t : Browser} (scripts : t.scripts = b.scripts) (posted : t.posted = b.posted)
      (claims : t.claims = b.claims ++ [update])
      (arrivals : ∃ deduplicated, t.arrivals = (b.arrival update deduplicated).arrivals)
      (slots : ∀ slot ∈ t.slots, slot ∈ b.slots ∨ slot = {
        key := playbackDedupKey playbackActorId sessionId u.seq
        token := b.claims.length, expiresAt := now + 10000 }) :
      Numbered playbackActorId sessionId t := by
    obtain ⟨deduplicated, arrivals⟩ := arrivals
    constructor
    · rw [scripts, posted]
      exact numbered.counted
    · rw [posted]
      exact numbered.apart
    · rw [claims, arrivals]
      intro other mem
      rcases List.mem_append.mp mem with mem | new
      · exact (numbered.arrival update deduplicated).arrived other mem
      · exact ⟨_, List.mem_append_right _ List.mem_cons_self, (List.mem_singleton.mp new).symm⟩
    · rw [claims, posted]
      intro slot mem
      rcases slots slot mem with mem | rfl
      · obtain ⟨i, v, claim, at_i, key⟩ := numbered.claimed slot mem
        have bound := (List.getElem?_eq_some_iff.mp claim).1
        exact ⟨i, v, by rw [List.getElem?_append_left bound, claim], at_i, key⟩
      · exact ⟨update, u, by simp, held, rfl⟩
  unfold Browser.claim
  dsimp only
  split
  · exact given rfl rfl rfl ⟨_, rfl⟩ fun slot => mem_tryClaim
  · next landed =>
    refine given rfl rfl rfl ⟨_, rfl⟩ fun slot mem => ?_
    cases landed with
    | false => exact .inl mem
    | true => exact mem_tryClaim mem

theorem exec {event : Event}
    (step : b.exec playbackActorId sessionId normalizeUrl event = some t) :
    Numbered playbackActorId sessionId t := by
  cases event with
  | loads tabId =>
    cases Option.some.inj step
    exact numbered.loads tabId
  | shares script =>
    cases Option.some.inj step
    exact numbered.nextSeq script
  | posts script url =>
    obtain ⟨c, held, made⟩ := Option.bind_eq_some_iff.mp step
    cases Option.some.inj made
    exact numbered.posts held url
  | forwards update =>
    obtain ⟨u, held, step⟩ := Option.bind_eq_some_iff.mp step
    split at step
    · cases Option.some.inj step
      exact { numbered with }
    · cases Option.some.inj step
      exact numbered
  | turns connected hasMemberToken roomUrl sharedTabId =>
    cases Option.some.inj step
    exact { numbered with }
  | refused update =>
    obtain ⟨-, made⟩ := Option.ite_none_right_eq_some.mp step
    cases Option.some.inj made
    exact numbered.arrival update false
  | arrives update now currentTime claiming =>
    obtain ⟨u, held, step⟩ := Option.bind_eq_some_iff.mp step
    obtain ⟨-, made⟩ := Option.ite_none_right_eq_some.mp step
    cases Option.some.inj made
    exact numbered.claim held now currentTime claiming
  | settles token outcome reached =>
    obtain ⟨update, -, step⟩ := Option.bind_eq_some_iff.mp step
    obtain ⟨u, -, step⟩ := Option.bind_eq_some_iff.mp step
    obtain ⟨-, made⟩ := Option.ite_none_right_eq_some.mp step
    cases Option.some.inj made
    refine { numbered with claimed := fun slot mem => numbered.claimed slot ?_ }
    dsimp only at mem
    split at mem
    · exact List.mem_of_mem_filter mem
    · exact mem

/-- Two updates of one script with one number are one update. -/
theorem same_update {i j : Nat} {u v : PlaybackUpdate} (at_i : b.posted[i]? = some u)
    (at_j : b.posted[j]? = some v) (script : u.script = v.script) (seq : u.seq = v.seq) :
    i = j := by
  obtain ⟨i_bound, at_i⟩ := List.getElem?_eq_some_iff.mp at_i
  obtain ⟨j_bound, at_j⟩ := List.getElem?_eq_some_iff.mp at_j
  rcases Nat.lt_trichotomy i j with less | same | more
  · have apart := List.pairwise_iff_getElem.mp numbered.apart i j i_bound j_bound less
    rw [at_i, at_j] at apart
    exact absurd seq (apart script)
  · exact same
  · have apart := List.pairwise_iff_getElem.mp numbered.apart j i j_bound i_bound more
    rw [at_i, at_j] at apart
    exact absurd seq.symm (apart script.symm)

end Numbered

/-- The one answer that takes a duplicate for granted. -/
theorem onlyResent_claim (numbered : Numbered playbackActorId sessionId b) (resent : OnlyResent b)
    {update : Nat} {u : PlaybackUpdate} (held : b.posted[update]? = some u) {now currentTime : Rat}
    {claiming : Claiming}
    (meets : Meets playbackActorId sessionId b (.arrives update now currentTime claiming)) :
    OnlyResent (b.claim playbackActorId sessionId update u.seq now currentTime claiming) := by
  have later {t : Browser} {deduplicated : Bool}
      (arrivals : t.arrivals = (b.arrival update deduplicated).arrivals)
      (again : deduplicated = true → b.arrivals.any (·.update = update) = true) :
      OnlyResent t := by
    intro arrival mem
    rw [arrivals] at mem
    rcases List.mem_append.mp mem with mem | new
    · exact resent arrival mem
    · obtain rfl := List.mem_singleton.mp new
      exact again
  unfold Browser.claim
  dsimp only
  split
  · refine later rfl fun refused => ?_
    rw [Bool.not_eq_true'] at refused
    obtain ⟨slot, mem, live, key⟩ := held_of_tryClaim refused
    obtain ⟨other, v, claim, at_other, same⟩ := numbered.claimed slot mem
    have script := meets u held slot mem live key other v claim at_other
    have seq : v.seq = u.seq := playbackDedupKey_injective (same.symm.trans key)
    obtain rfl := numbered.same_update at_other held script seq
    obtain ⟨arrival, arrived, rfl⟩ := numbered.arrived other (List.mem_of_getElem? claim)
    exact List.any_eq_true.mpr ⟨arrival, arrived, decide_eq_true rfl⟩
  · exact later rfl fun impossible => by cases impossible

theorem onlyResent_exec (numbered : Numbered playbackActorId sessionId b) (resent : OnlyResent b)
    {event : Event} (meets : Meets playbackActorId sessionId b event)
    (step : b.exec playbackActorId sessionId normalizeUrl event = some t) : OnlyResent t := by
  cases event with
  | loads tabId =>
    cases Option.some.inj step
    exact resent
  | shares script =>
    cases Option.some.inj step
    exact resent
  | posts script url =>
    obtain ⟨c, -, made⟩ := Option.bind_eq_some_iff.mp step
    cases Option.some.inj made
    exact resent
  | forwards update =>
    obtain ⟨u, -, step⟩ := Option.bind_eq_some_iff.mp step
    split at step
    · cases Option.some.inj step
      exact resent
    · cases Option.some.inj step
      exact resent
  | turns connected hasMemberToken roomUrl sharedTabId =>
    cases Option.some.inj step
    exact resent
  | refused update =>
    obtain ⟨-, made⟩ := Option.ite_none_right_eq_some.mp step
    cases Option.some.inj made
    intro arrival mem
    rcases List.mem_append.mp mem with mem | new
    · exact resent arrival mem
    · obtain rfl := List.mem_singleton.mp new
      intro impossible
      cases impossible
  | arrives update now currentTime claiming =>
    obtain ⟨u, held, step⟩ := Option.bind_eq_some_iff.mp step
    obtain ⟨-, made⟩ := Option.ite_none_right_eq_some.mp step
    cases Option.some.inj made
    exact onlyResent_claim numbered resent held meets
  | settles token outcome reached =>
    obtain ⟨update, -, step⟩ := Option.bind_eq_some_iff.mp step
    obtain ⟨u, -, step⟩ := Option.bind_eq_some_iff.mp step
    obtain ⟨-, made⟩ := Option.ite_none_right_eq_some.mp step
    cases Option.some.inj made
    exact resent

theorem numbered_start : Numbered playbackActorId sessionId {} where
  counted u mem := by cases mem
  apart := .nil
  arrived update mem := by cases mem
  claimed slot mem := by cases mem

/-- In a session whose slots meet no other script's number, a duplicate is an update that arrived
before. -/
theorem only_resent_updates_are_dropped
    (run : Relation.ReflTransGen (StepMeeting playbackActorId sessionId normalizeUrl) {} b) :
    OnlyResent b := by
  have both : Numbered playbackActorId sessionId b ∧ OnlyResent b := by
    induction run with
    | refl => exact ⟨numbered_start, fun arrival mem => by cases mem⟩
    | tail _ step ih =>
      obtain ⟨numbered, resent⟩ := ih
      obtain ⟨event, meets, step⟩ := step
      exact ⟨numbered.exec step, onlyResent_exec numbered resent meets step⟩
  exact both.2

end

/-- An update is sent again within the life of its slot. -/
theorem resent_update_is_dropped : OnlyResent
    { scripts := [⟨1, 1⟩], posted := [⟨0, 1, [97], 0⟩], connected := true, hasMemberToken := true
      roomUrl := some [97], sharedTabId := some 1, sent := [0]
      arrivals := [⟨0, false, false⟩, ⟨0, true, true⟩], claims := [0, 0], handling := [0]
      slots := [⟨playbackDedupKey "m" "s" 0, 0, 10000⟩] } := by
  apply @only_resent_updates_are_dropped "m" "s" id
  refine .head ⟨.loads 1, trivial, rfl⟩ ?_
  refine .head ⟨.turns true true (some [97]) none, trivial, rfl⟩ ?_
  refine .head ⟨.posts 0 [97], trivial, rfl⟩ ?_
  refine .head ⟨.forwards 0, trivial, rfl⟩ ?_
  refine .head ⟨.arrives 0 0 0 .answered, ?_, rfl⟩ ?_
  · intro u held slot mem
    cases mem
  · refine .single ⟨.arrives 0 2000 2000 .answered, ?_, by decide +kernel⟩
    intro u held slot mem live key other v claim at_other
    obtain rfl := List.mem_singleton.mp mem
    cases claim
    cases held
    cases at_other
    rfl

/-- The page is reloaded, and its script counts from nothing again. -/
def reloaded : List Event :=
  [.loads 1, .turns true true (some [97]) none, .posts 0 [97], .forwards 0,
    .arrives 0 0 0 .answered, .loads 1, .posts 1 [97], .forwards 1, .arrives 1 1000 1000 .answered]

theorem first_update_after_reload_is_dropped :
    ∃ b, reloaded.foldlM (Browser.exec "m" "s" id) {} = some b ∧ ¬ OnlyResent b := by
  have ends : (reloaded.foldlM (Browser.exec "m" "s" id) {}).any (fun b =>
      decide (⟨1, false, true⟩ ∈ b.arrivals)) = true := by
    decide +kernel
  obtain ⟨b, replayed, dropped⟩ := (Option.any_eq_true ..).mp ends
  refine ⟨b, replayed, fun resent => ?_⟩
  cases resent _ (of_decide_eq_true dropped) rfl

end BiliSyncPlay.PlaybackSlots
