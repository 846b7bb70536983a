import BiliSyncPlay.Extension.Confirmations
import BiliSyncPlay.Outbox

/-!
# The order of shares

The queue of shares is an outbox with one place. Shares are written in the order in which they were
made, none of them after a later request for another room, and none is lost as long as its session
lasts, unless it was refused.
-/

namespace BiliSyncPlay.Connection

open Json Protocol
open PlaybackAnchors (PlaybackState)
open RedisRoomStore (js)

variable {P : Platform} {s t u : Worker}

def Desk.outbox (d : Desk) : Outbox where
  written := d.written.map fun frame => frame.share.call.number
  waiting := d.pendingSharedVideo.map fun share => share.call.number
  next := d.calls

def Worker.outbox (s : Worker) : Outbox := s.desk.outbox

/-! ## The queue is an outbox -/

theorem Desk.outbox_cleared {d e : Desk} (cleared : d.Cleared e) : e.outbox = d.outbox := by
  unfold Desk.outbox
  rw [cleared.written, cleared.queue, cleared.calls]

theorem outbox_waiting (s : Worker) : s.outbox.waiting =
    s.room.pendingSharedVideo.map fun share => share.call.number := rfl

theorem outbox_shared {p : Prop} {video : SharedVideo} {playback : Option PlaybackState}
    {auto : Bool} {e : Desk} (shared : Shared s video playback auto e) :
    Outbox.Step p s.outbox e.outbox := by
  cases shared with
  | refused => exact .refuses
  | written g =>
    refine .of_writes List.map_append ?_ rfl
    rw [outbox_waiting, Option.map_map]
    exact Option.map_map ..
  | queued => exact .waits

theorem outbox_deal {event : Event} {e : Desk} (deal : Deal s event e) :
    Outbox.Step (s.EndsSession event) s.outbox e.outbox := by
  cases deal with
  | keeps => exact .stays
  | clears _ cleared =>
    rw [Desk.outbox_cleared cleared]
    exact .stays
  | discards _ ends cleared =>
    rw [Desk.outbox_cleared cleared]
    exact .empties ends
  | shares _ _ _ _ _ shared => exact outbox_shared shared
  | flushes task resumes share g _ flushed =>
    obtain ⟨queued, -, -, rfl⟩ := flushed
    have held : s.outbox.waiting = some share.call.number := by
      rw [outbox_waiting, queued]
      rfl
    exact .of_flushes held List.map_append rfl rfl

theorem outbox_exec {now : Rat} {event : Event} (step : s.exec P now event = some t) :
    Outbox.Step (s.EndsSession event) s.outbox t.outbox :=
  outbox_deal (s := s.atTime now) (Worker.deal_take (take_of_exec step))

theorem ordered_run (run : Run P s t) (ordered : s.outbox.Ordered) : t.outbox.Ordered := by
  induction run with
  | refl => exact ordered
  | tail _ last ih =>
    obtain ⟨now, event, step⟩ := last
    exact ih.step (outbox_exec step)

theorem since_run {base : Outbox} (run : Run P s t) (since : base.Since s.outbox) :
    base.Since t.outbox := by
  induction run with
  | refl => exact since
  | tail _ last ih =>
    obtain ⟨now, event, step⟩ := last
    exact ih.step (outbox_exec step)

theorem ordered_bootstrap (persisted : PersistedSnapshot) :
    (bootstrapBackground P persisted).outbox.Ordered := by
  have fresh : (bootstrapBackground P persisted).outbox =
      { written := [], waiting := none, next := 0 } := by
    unfold bootstrapBackground Worker.outbox
    dsimp only
    split
    · rw [Worker.desk_connect]
      rfl
    · rfl
  rw [fresh]
  exact {
    sorted := .nil
    made := fun _ absent => nomatch absent
    waiting := fun _ absent => nomatch absent
    ahead := fun _ absent => nomatch absent }

/-! ## What is kept -/

/-- The user asks for another room. -/
def Event.requestsRoom : Event → Bool
  | .createRoom | .joinRoom _ _ => true
  | _ => false

/-- The numbers of the shares that were written, in order. -/
def Worker.shareNumbers (s : Worker) : List Nat := s.outbox.written

/-- The share was written or is in the queue, or a newer one replaced it. -/
def Worker.Retains (s : Worker) (n : Nat) : Prop :=
  n ∈ s.shareNumbers ∨ (∃ share, s.room.pendingSharedVideo = some share ∧ share.call.number = n) ∨
    ∃ m, n < m ∧ (m ∈ s.shareNumbers ∨
      ∃ share, s.room.pendingSharedVideo = some share ∧ share.call.number = m)

/-- A step that does not end the session. -/
def StepWithin (P : Platform) (s t : Worker) : Prop :=
  ∃ now event, ¬ s.EndsSession event ∧ s.exec P now event = some t

structure KeepsShares (P : Platform) (s : Worker) : Prop where
  /-- No share is written after a newer one. -/
  ordered : s.shareNumbers.Pairwise (· ≤ ·)
  /-- What is written after a request for a room was made after it. -/
  requested : ∀ now event t u, event.requestsRoom = true → s.exec P now event = some t → Run P t u →
    ∃ later, u.shareNumbers = t.shareNumbers ++ later ∧ ∀ n ∈ later, t.calls ≤ n
  /-- A share that was not refused is retained as long as the session lasts. -/
  retained : ∀ now event t u, s.exec P now event = some t → t.calls = s.calls + 1 →
    s.refusesShare = false → Relation.ReflTransGen (StepWithin P) t u → u.Retains s.calls

theorem retains_of_outbox {n : Nat} (retains : s.outbox.Retains n) : s.Retains n := by
  obtain ⟨m, newer, is_there⟩ := retains
  rw [outbox_waiting, Option.map_eq_some_iff] at is_there
  rcases Nat.eq_or_lt_of_le newer with rfl | later
  · exact is_there.elim .inl fun queued => .inr (.inl queued)
  · exact .inr (.inr ⟨m, later, is_there⟩)

/-- A request for a room leaves no share in the queue. -/
theorem empty_of_requestsRoom {now : Rat} {event : Event} (requests : event.requestsRoom = true)
    (step : s.exec P now event = some t) : t.outbox.waiting = none := by
  have taken := take_of_exec step
  rw [outbox_waiting]
  cases event with
  | createRoom =>
    cases taken
    have empty := (Worker.cleared_requestCreateRoom (s.atTime now)).queue
    exact congrArg (Option.map fun share : Share => share.call.number) empty
  | joinRoom roomCode joinToken =>
    cases taken
    have empty := (Worker.cleared_requestJoinRoom (s.atTime now) roomCode joinToken).queue
    exact congrArg (Option.map fun share : Share => share.call.number) empty
  | _ => cases requests

/-- The share of a call that was not refused is written or waits. -/
theorem retains_made {now : Rat} {event : Event} (step : s.exec P now event = some t)
    (made : t.calls = s.calls + 1) (accepted : s.refusesShare = false) :
    t.outbox.Retains s.calls := by
  have deal := Worker.deal_take (take_of_exec step)
  have calls : t.desk.calls = s.calls + 1 := made
  unfold Worker.outbox
  generalize t.desk = e at deal calls ⊢
  have unmade (same : e.calls = s.calls) : e.outbox.Retains s.calls := by omega
  cases deal with
  | keeps => exact unmade rfl
  | clears _ cleared => exact unmade cleared.calls
  | discards _ _ cleared => exact unmade cleared.calls
  | shares _ _ video _ _ shared =>
    cases shared with
    | refused refuses => cases accepted.symm.trans refuses
    | written g =>
      refine ⟨s.calls, Nat.le_refl _, .inl ?_⟩
      exact List.mem_map.mpr ⟨_, List.mem_append_right _ (List.mem_singleton_self _), rfl⟩
    | queued => exact ⟨s.calls, Nat.le_refl _, .inr rfl⟩
  | flushes _ _ _ _ _ flushed =>
    obtain ⟨-, -, -, rfl⟩ := flushed
    exact unmade rfl

theorem retains_run {n : Nat} (run : Relation.ReflTransGen (StepWithin P) s t)
    (ordered : s.outbox.Ordered) (retains : s.outbox.Retains n) :
    t.outbox.Ordered ∧ t.outbox.Retains n := by
  induction run with
  | refl => exact ⟨ordered, retains⟩
  | tail _ last ih =>
    obtain ⟨now, event, within, step⟩ := last
    have step := outbox_exec step
    exact ⟨ih.1.step step, ih.2.step ih.1 (step.mono within)⟩

/-- In every state that the background reaches, shares keep their order, their room and their
place. -/
theorem shares_keep_their_order {persisted : PersistedSnapshot}
    (run : Run P (bootstrapBackground P persisted) s) : KeepsShares P s := by
  have ordered := ordered_run run (ordered_bootstrap persisted)
  refine { ordered := ordered.sorted, requested := ?_, retained := ?_ }
  · intro now event t u requests step later
    have since := since_run later (Outbox.since_empty (empty_of_requestsRoom requests step))
    exact since.later
  · intro now event t u step made accepted later
    have retains := retains_made step made accepted
    exact retains_of_outbox (retains_run later (ordered.step (outbox_exec step)) retains).2

/-! ## Runs on fixed inputs -/

def sharedVideo : SharedVideo where
  url := js "https://www.bilibili.com/video/BV1xx411c7mD"

/-- A share waits for the socket and is written once the member is back; another one follows. -/
theorem restored_session_keeps_its_share : ∃ s,
    replay browser (bootstrapBackground browser restored) ([.shares sharedVideo none none] ++
      reaches 0 ++ [.opens 1, rejoined 1, .resumes 0, .shares sharedVideo none none]) = some s ∧
      s.shareNumbers = [0, 1] ∧ KeepsShares browser s := by
  have ends : (replay browser (bootstrapBackground browser restored)
      ([.shares sharedVideo none none] ++
      reaches 0 ++ [.opens 1, rejoined 1, .resumes 0, .shares sharedVideo none none])).any
      (fun s => decide (s.shareNumbers = [0, 1])) = true := by decide +kernel
  obtain ⟨s, replayed, written⟩ := (Option.any_eq_true ..).mp ends
  exact ⟨s, replayed, of_decide_eq_true written, shares_keep_their_order (run_replay replayed)⟩

theorem not_retains {n : Nat} (unwritten : s.shareNumbers = [])
    (unqueued : s.room.pendingSharedVideo = none) : ¬ s.Retains n := by
  rintro (mem | ⟨_, queued, _⟩ | ⟨m, _, mem | ⟨_, queued, _⟩⟩)
  · rw [unwritten] at mem
    cases mem
  · cases unqueued.symm.trans queued
  · rw [unwritten] at mem
    cases mem
  · cases unqueued.symm.trans queued

/-- A step that is neither a request for a room nor a leave. -/
def StepUnasked (P : Platform) (s t : Worker) : Prop :=
  ∃ now event, (event.requestsRoom = false ∧ event ≠ .leaveRoom) ∧ s.exec P now event = some t

/-- A share that the user makes while the server does not know its member is dropped with an error,
and one that waits for a connection is dropped when the server no longer knows the room. -/
theorem unlucky_shares_are_dropped :
    (∃ s t, Run browser (bootstrapBackground browser restored) s ∧
      s.exec browser s.now (.shares sharedVideo none none) = some t ∧ ¬ t.Retains s.calls) ∧
    ∃ s t u, Run browser (bootstrapBackground browser restored) s ∧
      s.exec browser s.now (.shares sharedVideo none none) = some t ∧ s.refusesShare = false ∧
      Relation.ReflTransGen (StepUnasked browser) t u ∧ ¬ u.Retains s.calls := by
  constructor
  · have ends : (replay browser (bootstrapBackground browser restored)
        (reaches 0 ++ [.opens 1, .receives 1 (.error .memberTokenInvalid [])])).any (fun s =>
          (s.exec browser s.now (.shares sharedVideo none none)).any fun t =>
            t.shareNumbers.isEmpty && t.room.pendingSharedVideo.isNone) = true := by
      decide +kernel
    obtain ⟨s, replayed, later⟩ := (Option.any_eq_true ..).mp ends
    obtain ⟨t, step, holds⟩ := (Option.any_eq_true ..).mp later
    obtain ⟨unwritten, unqueued⟩ := Bool.and_eq_true_iff.mp holds
    exact ⟨s, t, run_replay replayed, step, not_retains (List.isEmpty_iff.mp unwritten)
      (Option.isNone_iff_eq_none.mp unqueued)⟩
  · have ends : ((bootstrapBackground browser restored).exec browser 0
        (.shares sharedVideo none none)).any (fun t => (replay browser t
          (reaches 0 ++ [.opens 1, .receives 1 (.error .roomNotFound [])])).any fun u =>
            u.shareNumbers.isEmpty && u.room.pendingSharedVideo.isNone) = true := by
      decide +kernel
    obtain ⟨t, step, later⟩ := (Option.any_eq_true ..).mp ends
    obtain ⟨u, replayed, holds⟩ := (Option.any_eq_true ..).mp later
    obtain ⟨unwritten, unqueued⟩ := Bool.and_eq_true_iff.mp holds
    have run : Relation.ReflTransGen (StepUnasked browser) t u := by
      refine run_of_replay (fun _ event => event.requestsRoom = false ∧ event ≠ .leaveRoom) replayed
        fun _ event mem => ?_
      simp only [reaches, List.mem_append, List.mem_cons, List.not_mem_nil, or_false] at mem
      rcases mem with (rfl | rfl) | (rfl | rfl) <;> exact ⟨rfl, by simp⟩
    exact ⟨_, t, u, .refl, step, by decide +kernel, run, not_retains
      (List.isEmpty_iff.mp unwritten) (Option.isNone_iff_eq_none.mp unqueued)⟩

end BiliSyncPlay.Connection
