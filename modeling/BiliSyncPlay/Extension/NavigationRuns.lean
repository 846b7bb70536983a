import BiliSyncPlay.Extension.Navigation
import Mathlib.Data.List.Induction
import Mathlib.Tactic.Linarith

/-!
# Navigations are shared when the room's own video advanced

The watcher and the controller of automatic shares, wired as `content/index.ts` wires them, over
any order of looks at the page, gestures, natural ends, room states, timers and answers.
-/

namespace BiliSyncPlay.Navigation

open Json RedisRoomStore Protocol
open AutoShareNext (Page Input Message Answer Controller PendingAutoShare)
open AutoShareNext.Controller (Owes)

/-! ## What the room does -/

namespace State

/-- `resetPlaybackSyncState`, of what the watcher reads. -/
def resetPlaybackSyncState (s : State) (keepNonSharedAuthorization : Bool) : State :=
  { s with
    explicitNonSharedPlaybackUrl :=
      if keepNonSharedAuthorization then s.explicitNonSharedPlaybackUrl else none
    nonSharerAutoplayHoldUrl :=
      if keepNonSharedAuthorization then s.nonSharerAutoplayHoldUrl else none
    postNavigationAnchorSharedUrl := none
    postNavigationAnchorSetAt := 0
    sharedVideoNaturalEndUrl := none
    sharedVideoNaturalEndAt := 0 }

def clearRoomScopedSharedVideoState (s : State) : State :=
  { s with
    activeSharedUrl := none
    activeSharedByMemberId := none
    pendingAutoShareTargetUrl := none
    resolvedSharedVideoUrl := none
    explicitNonSharedPlaybackUrl := none
    nonSharerAutoplayHoldUrl := none
    postNavigationAnchorSharedUrl := none
    postNavigationAnchorSetAt := 0
    sharedVideoNaturalEndUrl := none
    sharedVideoNaturalEndAt := 0 }

/-- The membership as it is reported, and what ends with the room before it. -/
def enterRoom (s : State) (roomCode memberId : Option JsString) (keep : Bool) : State :=
  let entered := { s with activeRoomCode := roomCode, localMemberId := memberId }
  if present s.activeRoomCode ∧ present roomCode ∧ s.activeRoomCode ≠ roomCode then
    { (entered.resetPlaybackSyncState keep).clearRoomScopedSharedVideoState with
      hasReceivedInitialRoomState := false
      pendingRoomStateHydration := true }
  else entered

def awaitInitialRoomState (s : State) : State :=
  if s.hasReceivedInitialRoomState then s else { s with pendingRoomStateHydration := true }

def leaveRoom (s : State) (wasInRoom keep : Bool) : State :=
  { (if wasInRoom then s.resetPlaybackSyncState keep else s).clearRoomScopedSharedVideoState with
    pendingRoomStateHydration := false
    hasReceivedInitialRoomState := false }

def handleSyncStatus (s : State) (roomCode memberId : Option JsString) (keep : Bool) : State :=
  let entered := s.enterRoom roomCode memberId keep
  if present roomCode then entered.awaitInitialRoomState
  else entered.leaveRoom (present s.activeRoomCode) keep

def switchActiveSharedUrlWithReset (s : State)
    (normalizedSharedUrl sharedByMemberId : Option JsString) (keep : Bool) : State :=
  let owned := { s with
    activeSharedByMemberId := sharedByMemberId
    resolvedSharedVideoUrl := if sharedByMemberId = s.activeSharedByMemberId then
        s.resolvedSharedVideoUrl
      else none
    pendingAutoShareTargetUrl :=
      if s.pendingAutoShareTargetUrl.isSome ∧ (normalizedSharedUrl = s.pendingAutoShareTargetUrl ∨
          sharedByMemberId ≠ s.localMemberId) then none
      else s.pendingAutoShareTargetUrl }
  if s.activeSharedUrl = normalizedSharedUrl then owned
  else
    { ({ owned with
          activeSharedUrl := normalizedSharedUrl
          resolvedSharedVideoUrl := none }).resetPlaybackSyncState keep with
      intendedPlayState := .paused }

/-- A room state that shares nothing. -/
def emptyRoom (s : State) : State :=
  { s with
    activeSharedUrl := none
    activeSharedByMemberId := none
    pendingAutoShareTargetUrl := none
    resolvedSharedVideoUrl := none
    nonSharerAutoplayHoldUrl := none }

/-- Whether a natural end is recorded; `shared` is `isCurrentVideoShared`. -/
def marksNaturalEnd (s : State) (shared : Bool) : Bool :=
  present s.activeRoomCode && present s.activeSharedUrl && shared

def markSharedVideoNaturalEnd (s : State) (shared : Bool) (endedAt : Rat) : State :=
  if s.marksNaturalEnd shared then
    { s with sharedVideoNaturalEndUrl := s.activeSharedUrl, sharedVideoNaturalEndAt := endedAt }
  else s

end State

/-! ## The content script -/

structure Tab where
  content : State
  autoShare : Controller
  deriving DecidableEq

inductive Event where
  /-- A poll, a navigation signal, or the start. -/
  | look (view : View)
  | settled (resolution : Nat) (view : View)
  | gesture (at_ : Rat)
  | naturalEnd (shared : Bool) (endedAt : Rat)
  | syncStatus (roomCode memberId : Option JsString) (keep : Bool)
  | roomState (normalizedSharedUrl sharedByMemberId : Option JsString) (keep : Bool)
  | emptyRoom
  | playback (playback : Playback)
  | timer (id : Nat) (page : Page)
  | answer (request : Nat) (reply : Answer)
  | destroy
  deriving DecidableEq

/-- The clock where an event reads it. -/
def Event.time? : Event → Option Rat
  | look view | settled _ view => some view.now
  | gesture at_ => some at_
  | _ => none

section
variable (A : Args)

/-- The watcher at an event that wakes it. -/
def watch (s : State) : Event → State × List Call
  | .look view => handlePotentialNavigation A s view
  | .settled resolution view => retryAfterNaturalEnd A s resolution view
  | _ => (s, [])

def perform (c : Controller) : Call → Controller
  | .scheduleAutoShareNextVideo input => c.scheduleForNavigation A.toArgs input
  | .cancelAutoShareNextVideo => c.cancelPending
  | _ => c

def step (t : Tab) : Event → Tab × Option Message
  | .look view =>
    let (content, calls) := watch A t.content (.look view)
    (⟨content, calls.foldl (perform A) t.autoShare⟩, none)
  | .settled resolution view =>
    let (content, calls) := watch A t.content (.settled resolution view)
    (⟨content, calls.foldl (perform A) t.autoShare⟩, none)
  | .gesture at_ => ({ t with content := { t.content with lastUserGestureAt := some at_ } }, none)
  | .naturalEnd shared endedAt =>
    ({ t with content := t.content.markSharedVideoNaturalEnd shared endedAt }, none)
  | .syncStatus roomCode memberId keep =>
    ({ t with content := t.content.handleSyncStatus roomCode memberId keep }, none)
  | .roomState normalizedSharedUrl sharedByMemberId keep =>
    ({ t with content :=
        t.content.switchActiveSharedUrlWithReset normalizedSharedUrl sharedByMemberId keep }, none)
  | .emptyRoom => ({ t with content := t.content.emptyRoom }, none)
  | .playback playback => ({ t with content := { t.content with toPlayback := playback } }, none)
  | .timer id page =>
    let (autoShare, sent) := t.autoShare.fire A.toArgs id page t.content.activeSharedUrl
    ({ t with autoShare }, sent)
  | .answer request reply =>
    ({ t with autoShare := t.autoShare.answer A.toArgs request reply }, none)
  | .destroy =>
    (⟨{ t.content with destroyed := true, pendingNaturalEndNavigationWait := none },
      t.autoShare.cancelPending⟩, none)

def run (t : Tab) (events : List Event) : Tab := events.foldl (fun t e => (step A t e).1) t

def calls (t : Tab) (e : Event) : List Call := (watch A t.content e).2

/-- The page as it is opened. -/
def opened (page : Page) : Tab where
  content :=
    let pageUrl := page.resolvedVideoUrl.getD page.currentPageUrl
    { lastObservedPageUrl := pageUrl
      lastObservedNormalizedPageUrl := A.normalizeVideoPageUrl pageUrl }
  autoShare := {}

/-! ## What is said of an event -/

/-- The event is a genuine navigation: it reaches the step that cancels. -/
def Navigates (t : Tab) (e : Event) : Prop := .cancelAutoShareNextVideo ∈ calls A t e

/-- The event is a navigation inside a room, which clears the gestures. -/
def Arrives (t : Tab) (e : Event) : Prop := .attachPlaybackListeners ∈ calls A t e

def Schedules (t : Tab) (e : Event) (input : Input) : Prop :=
  .scheduleAutoShareNextVideo input ∈ calls A t e

/-- The event records a natural end. -/
def Marks (t : Tab) (e : Event) : Prop :=
  ∃ shared endedAt, e = .naturalEnd shared endedAt ∧ t.content.marksNaturalEnd shared = true

/-- The event takes a recorded natural end for its evidence. -/
def ByNaturalEnd (t : Tab) (e : Event) : Prop :=
  ∃ now, e.time? = some now ∧ t.content.navigatedFromSharedVideoEnd A now = true

/-- The event arms a timer again for a request it answers. -/
def Rearms (t : Tab) (e : Event) (pending : PendingAutoShare) : Prop :=
  ∃ request reply, e = .answer request reply ∧ t.autoShare.inFlight[request]? = some pending ∧
    (step A t e).1.autoShare.timers ≠ t.autoShare.timers

/-- The clock never goes back. -/
def Clocked (events : List Event) : Prop := (events.filterMap Event.time?).Pairwise (· ≤ ·)

end

/-! ## Runs -/

section
variable {A : Args}

theorem run_append (t : Tab) (es es' : List Event) :
    run A t (es ++ es') = run A (run A t es) es' := List.foldl_append

theorem run_concat (t : Tab) (es : List Event) (e : Event) :
    run A t (es ++ [e]) = (step A (run A t es) e).1 := by
  rw [run_append]
  rfl

theorem outcome_retry (s : State) (resolution : Nat) (view : View) :
    Outcome A s view.now (retryAfterNaturalEnd A s resolution view) := by
  unfold retryAfterNaturalEnd
  split
  · exact .quiet rfl (by simp)
  · have outcome : Outcome A _ view.now (handlePotentialNavigation A
        { s with pendingNaturalEndNavigationWait := none } view) := outcome_handle _ view
    generalize handlePotentialNavigation A { s with pendingNaturalEndNavigationWait := none } view =
      result at outcome ⊢
    cases outcome with
    | quiet kept other => exact .quiet kept other
    | bailed kept => exact .bailed kept
    | arrived taken asks =>
      refine .arrived taken ?_
      cases asks with
      | once autoplay other => exact .once ⟨autoplay.1, autoplay.2, autoplay.3⟩ other
      | never other => exact .never other

/-- The watcher looks at the page at some moment, or does nothing. -/
theorem watch_cases (s : State) (e : Event) :
    (∃ now, e.time? = some now ∧ Outcome A s now (watch A s e)) ∨ watch A s e = (s, []) := by
  cases e with
  | look view => exact .inl ⟨view.now, rfl, outcome_handle ..⟩
  | settled resolution view => exact .inl ⟨view.now, rfl, outcome_retry ..⟩
  | gesture | naturalEnd | syncStatus | roomState | emptyRoom | playback | timer | answer
  | destroy => exact .inr rfl

theorem step_content (t : Tab) (e : Event) :
    (step A t e).1.content = (watch A t.content e).1 ∨ watch A t.content e = (t.content, []) := by
  cases e with
  | look | settled => exact .inl rfl
  | gesture | naturalEnd | syncStatus | roomState | emptyRoom | playback | timer | answer
  | destroy => exact .inr rfl

variable {e : Event} {es : List Event} {input : Input} {t : Tab}

/-- A share is asked for where what was recorded speaks for an autoplay of the sharer's video. -/
theorem autoplay_of_schedules (schedules : Schedules A t e input) :
    ∃ now, e.time? = some now ∧ Autoplay A t.content now := by
  rcases watch_cases (A := A) t.content e with ⟨now, time, outcome⟩ | none_
  · refine ⟨now, time, ?_⟩
    rw [Schedules, calls] at schedules
    generalize watch A t.content e = result at outcome schedules
    cases outcome with
    | quiet kept other =>
      obtain ⟨resolution, same⟩ := other _ schedules
      cases same
    | bailed kept => simp at schedules
    | arrived taken asks =>
      cases asks with
      | once autoplay other => exact autoplay
      | never other =>
        simp only [List.cons_append, List.mem_cons, List.mem_append, reduceCtorEq, false_or,
          List.not_mem_nil, or_false] at schedules
        cases other _ schedules
  · rw [Schedules, calls, none_] at schedules
    cases schedules

/-- After a navigation inside the room the gestures and the natural end are gone. -/
theorem recorded_of_arrives (arrives : Arrives A t e) :
    (step A t e).1.content.recorded = ⟨none, none⟩ := by
  have content : (step A t e).1.content = (watch A t.content e).1 := by
    rcases step_content (A := A) t e with same | none_
    · exact same
    · rw [Arrives, calls, none_] at arrives
      cases arrives
  rw [content]
  rcases watch_cases (A := A) t.content e with ⟨now, -, outcome⟩ | none_
  · rw [Arrives, calls] at arrives
    generalize watch A t.content e = result at outcome arrives ⊢
    cases outcome with
    | quiet kept other =>
      obtain ⟨resolution, same⟩ := other _ arrives
      cases same
    | bailed kept => simp at arrives
    | arrived taken asks => exact taken
  · rw [Arrives, calls, none_] at arrives
    cases arrives

theorem arrives_of_schedules (schedules : Schedules A t e input) : Arrives A t e := by
  rcases watch_cases (A := A) t.content e with ⟨now, -, outcome⟩ | none_
  · rw [Schedules, calls] at schedules
    rw [Arrives, calls]
    generalize watch A t.content e = result at outcome schedules ⊢
    cases outcome with
    | quiet kept other =>
      obtain ⟨resolution, same⟩ := other _ schedules
      cases same
    | bailed kept => simp at schedules
    | arrived taken asks => simp
  · rw [Schedules, calls, none_] at schedules
    cases schedules

/-- What a look leaves as it was, it leaves whole. -/
theorem recorded_of_watch (s : State) (e : Event) :
    .attachPlaybackListeners ∈ (watch A s e).2 ∨ (watch A s e).1.recorded = s.recorded := by
  rcases watch_cases (A := A) s e with ⟨now, -, outcome⟩ | none_
  · generalize watch A s e = result at outcome ⊢
    cases outcome with
    | quiet kept other => exact .inr kept
    | bailed kept => exact .inr kept
    | arrived taken asks => exact .inl (by simp)
  · exact .inr (congrArg (fun result => result.1.recorded) none_)

/-! ### Gestures and natural ends -/

/-- What the room does records nothing. -/
structure Keeps (s after : State) : Prop where
  gesture : after.lastUserGestureAt = s.lastUserGestureAt
  naturalEnd : after.sharedVideoNaturalEndUrl = s.sharedVideoNaturalEndUrl ∨
    after.sharedVideoNaturalEndUrl = none

theorem Keeps.trans {s between after : State} (first : Keeps s between)
    (second : Keeps between after) : Keeps s after where
  gesture := second.gesture.trans first.gesture
  naturalEnd := by
    rcases second.naturalEnd with same | gone
    · rw [same]
      exact first.naturalEnd
    · exact .inr gone

theorem keeps_handleSyncStatus (s : State) (roomCode memberId : Option JsString) (keep : Bool) :
    Keeps s (s.handleSyncStatus roomCode memberId keep) := by
  have entered : Keeps s (s.enterRoom roomCode memberId keep) := by
    unfold State.enterRoom
    dsimp only
    split
    · exact ⟨rfl, .inr rfl⟩
    · exact ⟨rfl, .inl rfl⟩
  have awaited (s : State) : Keeps s s.awaitInitialRoomState := by
    unfold State.awaitInitialRoomState
    split
    · exact ⟨rfl, .inl rfl⟩
    · exact ⟨rfl, .inl rfl⟩
  have left (s : State) (wasInRoom : Bool) : Keeps s (s.leaveRoom wasInRoom keep) := by
    cases wasInRoom with
    | true => exact ⟨rfl, .inr rfl⟩
    | false => exact ⟨rfl, .inr rfl⟩
  unfold State.handleSyncStatus
  split
  · exact entered.trans (awaited _)
  · exact entered.trans (left _ _)

theorem keeps_roomState (s : State) (normalizedSharedUrl sharedByMemberId : Option JsString)
    (keep : Bool) :
    Keeps s (s.switchActiveSharedUrlWithReset normalizedSharedUrl sharedByMemberId keep) := by
  unfold State.switchActiveSharedUrlWithReset
  dsimp only
  split
  · exact ⟨rfl, .inl rfl⟩
  · exact ⟨rfl, .inr rfl⟩

theorem lastUserGestureAt_step (t : Tab) (still : ¬ Arrives A t e) :
    (∃ at_, e = .gesture at_ ∧ (step A t e).1.content.lastUserGestureAt = some at_) ∨
      (step A t e).1.content.lastUserGestureAt = t.content.lastUserGestureAt := by
  have watched := (recorded_of_watch (A := A) t.content e).resolve_left still
  have kept : (watch A t.content e).1.lastUserGestureAt = t.content.lastUserGestureAt :=
    congrArg Recorded.lastUserGestureAt watched
  cases e with
  | look | settled => exact .inr kept
  | gesture at_ => exact .inl ⟨at_, rfl, rfl⟩
  | naturalEnd shared endedAt =>
    right
    simp only [step, State.markSharedVideoNaturalEnd]
    split <;> rfl
  | syncStatus roomCode memberId keep => exact .inr (keeps_handleSyncStatus ..).gesture
  | roomState url sharer keep => exact .inr (keeps_roomState ..).gesture
  | emptyRoom | playback | timer | answer | destroy => exact .inr rfl

/-- Only a marked natural end is recorded. -/
theorem naturalEnd_step (unmarked : ¬ Marks t e) (none_ : t.content.sharedVideoNaturalEndUrl = none) :
    (step A t e).1.content.sharedVideoNaturalEndUrl = none := by
  by_cases arrives : Arrives A t e
  · exact congrArg Recorded.sharedVideoNaturalEndUrl (recorded_of_arrives arrives)
  · have watched := (recorded_of_watch (A := A) t.content e).resolve_left arrives
    have kept : (watch A t.content e).1.sharedVideoNaturalEndUrl = none :=
      (congrArg Recorded.sharedVideoNaturalEndUrl watched).trans none_
    have room {after : State} (keeps : Keeps t.content after) :
        after.sharedVideoNaturalEndUrl = none := by
      rcases keeps.naturalEnd with same | gone
      · exact same.trans none_
      · exact gone
    cases e with
    | look | settled => exact kept
    | naturalEnd shared endedAt =>
      have silent : t.content.marksNaturalEnd shared = false := by
        by_contra marks
        exact unmarked ⟨shared, endedAt, rfl, by simpa using marks⟩
      simp [step, State.markSharedVideoNaturalEnd, silent, none_]
    | syncStatus roomCode memberId keep => exact room (keeps_handleSyncStatus ..)
    | roomState url sharer keep => exact room (keeps_roomState ..)
    | gesture | emptyRoom | playback | timer | answer | destroy => exact none_

/-! ### What is still owed -/

theorem foldl_perform {calls : List Call} {c : Controller}
    (other : ∀ call ∈ calls, (∀ input, call ≠ .scheduleAutoShareNextVideo input) ∧
      call ≠ .cancelAutoShareNextVideo) : calls.foldl (perform A) c = c := by
  induction calls generalizing c with
  | nil => rfl
  | cons call rest ih =>
    have first := other call List.mem_cons_self
    have same : perform A c call = c := by
      cases call with
      | scheduleAutoShareNextVideo input => exact absurd rfl (first.1 input)
      | cancelAutoShareNextVideo => exact absurd rfl first.2
      | _ => rfl
    rw [List.foldl_cons, same]
    exact ih fun call mem => other call (List.mem_cons_of_mem _ mem)

/-- After a look the controller owes what the look asked for, if it was a navigation. -/
theorem owes_of_outcome {s : State} {now : Rat} {result : State × List Call}
    (outcome : Outcome A s now result) {owed : JsString → Prop} {c : Controller}
    (owes : Owes owed c) :
    (.cancelAutoShareNextVideo ∉ result.2 → Owes owed (result.2.foldl (perform A) c)) ∧
      (.cancelAutoShareNextVideo ∈ result.2 →
        Owes (fun target => ∃ input, .scheduleAutoShareNextVideo input ∈ result.2 ∧
          target = input.nextNormalizedPageUrl) (result.2.foldl (perform A) c)) := by
  cases outcome with
  | quiet kept other =>
    constructor
    · intro _
      rw [foldl_perform]
      · exact owes
      · intro call mem
        obtain ⟨resolution, rfl⟩ := other call mem
        simp
    · intro mem
      obtain ⟨resolution, same⟩ := other _ mem
      cases same
  | bailed kept =>
    constructor
    · intro absent
      simp at absent
    · intro _
      exact owes.cancelPending.mono fun _ => False.elim
  | @arrived after requests taken asks =>
    constructor
    · intro absent
      simp at absent
    · intro _
      have empty := owes.cancelPending
      cases asks with
      | @once lead input autoplay other =>
        have silent : lead.foldl (perform A) c.cancelPending = c.cancelPending := by
          apply foldl_perform
          intro call mem
          rw [other call mem]
          simp
        have asked : Owes (· = input.nextNormalizedPageUrl)
            (c.cancelPending.scheduleForNavigation A.toArgs input) :=
          empty.scheduleForNavigation input
        simp only [List.foldl_cons, List.foldl_append, List.foldl_nil, List.cons_append, perform,
          silent]
        exact asked.mono fun target same => ⟨input, by simp, same⟩
      | never other =>
        have silent : requests.foldl (perform A) c.cancelPending = c.cancelPending := by
          apply foldl_perform
          intro call mem
          rw [other call mem]
          simp
        simp only [List.foldl_cons, List.foldl_append, List.foldl_nil, List.cons_append, perform,
          silent]
        exact empty.mono fun _ => False.elim

theorem owes_step {owed : JsString → Prop} (owes : Owes owed t.autoShare) (e : Event) :
    (¬ Navigates A t e → Owes owed (step A t e).1.autoShare) ∧
      (Navigates A t e → Owes (fun target => ∃ input, Schedules A t e input ∧
        target = input.nextNormalizedPageUrl) (step A t e).1.autoShare) := by
  have looked {result : State × List Call} (watched : watch A t.content e = result)
      (outcome : ∃ now, Outcome A t.content now result) :
      (¬ Navigates A t e → Owes owed (result.2.foldl (perform A) t.autoShare)) ∧
        (Navigates A t e → Owes (fun target => ∃ input, Schedules A t e input ∧
          target = input.nextNormalizedPageUrl) (result.2.foldl (perform A) t.autoShare)) := by
    obtain ⟨now, outcome⟩ := outcome
    rw [Navigates, calls, watched]
    have both := owes_of_outcome outcome owes
    simpa only [Schedules, calls, watched] using both
  have silent (none_ : calls A t e = []) : ¬ Navigates A t e := by
    rw [Navigates, none_]
    exact List.not_mem_nil
  cases e with
  | look view => exact looked rfl ⟨_, outcome_handle ..⟩
  | settled resolution view => exact looked rfl ⟨_, outcome_retry ..⟩
  | gesture | naturalEnd | syncStatus | roomState | emptyRoom | playback =>
    exact ⟨fun _ => owes, fun navigates => absurd navigates (silent rfl)⟩
  | timer id page =>
    exact ⟨fun _ => (owes.fire id page _).1, fun navigates => absurd navigates (silent rfl)⟩
  | answer request reply =>
    exact ⟨fun _ => (owes.answer request reply).1,
      fun navigates => absurd navigates (silent rfl)⟩
  | destroy =>
    exact ⟨fun _ => owes.cancelPending.mono fun _ => False.elim,
      fun navigates => absurd navigates (silent rfl)⟩

/-- No event of a run is a genuine navigation. -/
def Quiet (A : Args) (t : Tab) (es : List Event) : Prop :=
  ∀ before e after, es = before ++ e :: after → ¬ Navigates A (run A t before) e

/-- The last genuine navigation of a run asked for the target. -/
def Asked (A : Args) (t : Tab) (es : List Event) (target : JsString) : Prop :=
  ∃ before e after input, es = before ++ e :: after ∧ Schedules A (run A t before) e input ∧
    target = input.nextNormalizedPageUrl ∧ Quiet A (run A t (before ++ [e])) after

theorem Quiet.concat (quiet : Quiet A t es) (still : ¬ Navigates A (run A t es) e) :
    Quiet A t (es ++ [e]) := by
  intro before last after same
  rcases List.eq_nil_or_concat after with rfl | ⟨rest, final, rfl⟩
  · obtain ⟨rfl, last⟩ := List.append_inj' same rfl
    cases List.cons.inj last |>.1
    exact still
  · rw [List.concat_eq_append, ← List.cons_append, ← List.append_assoc] at same
    obtain ⟨rfl, -⟩ := List.append_inj' same rfl
    exact quiet before last rest rfl

/-- Whatever can still be sent was asked for by the last navigation. -/
theorem owes_run (page : Page) (es : List Event) :
    Owes (Asked A (opened A page) es) (run A (opened A page) es).autoShare := by
  induction es using List.reverseRecOn with
  | nil => exact AutoShareNext.Controller.owes_nothing
  | append_singleton es e ih =>
    rw [run_concat]
    by_cases navigates : Navigates A (run A (opened A page) es) e
    · apply ((owes_step ih e).2 navigates).mono
      rintro target ⟨input, schedules, rfl⟩
      refine ⟨es, e, [], input, rfl, schedules, rfl, ?_⟩
      intro before last after same
      simp at same
    · apply ((owes_step ih e).1 navigates).mono
      rintro target ⟨before, asked, after, input, rfl, schedules, rfl, quiet⟩
      refine ⟨before, asked, after ++ [e], input, by simp, schedules, rfl, ?_⟩
      apply quiet.concat
      rwa [← run_append, List.append_assoc]

/-- A message is for what the last navigation asked for. -/
theorem sent_was_asked {page : Page} {message : Message}
    (sent : (step A (run A (opened A page) es) e).2 = some message) :
    Asked A (opened A page) es message.targetNormalizedUrl := by
  have owes := owes_run (A := A) page es
  cases e with
  | timer id page => exact (owes.fire id page _).2 message sent
  | look | settled | gesture | naturalEnd | syncStatus | roomState | emptyRoom | playback
  | answer | destroy => cases sent

theorem rearmed_was_asked {page : Page} {pending : PendingAutoShare}
    (rearms : Rearms A (run A (opened A page) es) e pending) :
    Asked A (opened A page) es pending.targetNormalizedUrl := by
  obtain ⟨request, reply, rfl, found, armed⟩ := rearms
  exact ((owes_run (A := A) page es).answer request reply).2 pending found armed

/-! ### Generations -/

theorem perform_generation (c : Controller) (call : Call) :
    c.scheduleGeneration ≤ (perform A c call).scheduleGeneration ∧
      (call = .cancelAutoShareNextVideo →
        c.scheduleGeneration < (perform A c call).scheduleGeneration) := by
  cases call with
  | scheduleAutoShareNextVideo input =>
    exact ⟨AutoShareNext.Controller.scheduleForNavigation_generation c input, by simp⟩
  | cancelAutoShareNextVideo => exact ⟨Nat.le_succ _, fun _ => Nat.lt_succ_self _⟩
  | _ => exact ⟨le_rfl, by simp⟩

theorem foldl_generation (calls : List Call) (c : Controller) :
    c.scheduleGeneration ≤ (calls.foldl (perform A) c).scheduleGeneration ∧
      (.cancelAutoShareNextVideo ∈ calls →
        c.scheduleGeneration < (calls.foldl (perform A) c).scheduleGeneration) := by
  induction calls generalizing c with
  | nil => exact ⟨le_rfl, by simp⟩
  | cons call rest ih =>
    have first := perform_generation (A := A) c call
    have later := ih (perform A c call)
    rw [List.foldl_cons]
    refine ⟨first.1.trans later.1, ?_⟩
    intro mem
    rcases List.mem_cons.mp mem with rfl | mem
    · exact (first.2 rfl).trans_le later.1
    · exact first.1.trans_lt (later.2 mem)

theorem step_generation (t : Tab) (e : Event) :
    t.autoShare.scheduleGeneration ≤ (step A t e).1.autoShare.scheduleGeneration ∧
      (Navigates A t e →
        t.autoShare.scheduleGeneration < (step A t e).1.autoShare.scheduleGeneration) := by
  have silent (none_ : calls A t e = []) : ¬ Navigates A t e := by
    rw [Navigates, none_]
    exact List.not_mem_nil
  cases e with
  | look | settled => exact foldl_generation ..
  | gesture | naturalEnd | syncStatus | roomState | emptyRoom | playback =>
    exact ⟨le_rfl, fun navigates => absurd navigates (silent rfl)⟩
  | timer id page =>
    exact ⟨(AutoShareNext.Controller.fire_generation t.autoShare id page _).ge,
      fun navigates => absurd navigates (silent rfl)⟩
  | answer request reply =>
    exact ⟨(AutoShareNext.Controller.answer_generation t.autoShare request reply).ge,
      fun navigates => absurd navigates (silent rfl)⟩
  | destroy => exact ⟨Nat.le_succ _, fun navigates => absurd navigates (silent rfl)⟩

theorem run_generation (t : Tab) (es : List Event) :
    t.autoShare.scheduleGeneration ≤ (run A t es).autoShare.scheduleGeneration := by
  induction es using List.reverseRecOn with
  | nil => exact le_rfl
  | append_singleton es e ih =>
    rw [run_concat]
    exact ih.trans (step_generation _ e).1

/-! ### Gestures and natural ends over a run -/

/-- A gesture stays recorded, or a later one is, until a navigation inside the room. -/
theorem gesture_recorded (t : Tab) (at_ : Rat) (es : List Event)
    (clocked : Clocked (.gesture at_ :: es))
    (still : ∀ before e after, es = before ++ e :: after →
      ¬ Arrives A (run A t (.gesture at_ :: before)) e) :
    ∃ latest, (run A t (.gesture at_ :: es)).content.lastUserGestureAt = some latest ∧
      at_ ≤ latest := by
  induction es using List.reverseRecOn with
  | nil => exact ⟨at_, rfl, le_rfl⟩
  | append_singleton es e ih =>
    have earlier : Clocked (.gesture at_ :: es) := by
      have whole : (Event.gesture at_ :: (es ++ [e])) = (.gesture at_ :: es) ++ [e] := rfl
      rw [whole, Clocked, List.filterMap_append] at clocked
      exact (List.pairwise_append.mp clocked).1
    obtain ⟨latest, recorded, later⟩ := ih earlier fun before last after same =>
      still before last (after ++ [e]) (by simp [same])
    rw [← List.cons_append, run_concat]
    rcases lastUserGestureAt_step _ (still es e [] rfl) with ⟨now, rfl, new⟩ | kept
    · refine ⟨now, new, ?_⟩
      have times : (Event.gesture at_ :: (es ++ [Event.gesture now])).filterMap Event.time? =
          at_ :: (es ++ [Event.gesture now]).filterMap Event.time? := rfl
      rw [Clocked, times] at clocked
      exact (List.pairwise_cons.mp clocked).1 now (by simp [Event.time?])
    · exact ⟨latest, kept.trans recorded, later⟩

/-- No natural end is recorded until one is marked. -/
theorem unmarked_run (none_ : t.content.sharedVideoNaturalEndUrl = none)
    (unmarked : ∀ before e after, es = before ++ e :: after → ¬ Marks (run A t before) e) :
    (run A t es).content.sharedVideoNaturalEndUrl = none := by
  induction es using List.reverseRecOn with
  | nil => exact none_
  | append_singleton es e ih =>
    rw [run_concat]
    apply naturalEnd_step (unmarked es e [] rfl)
    exact ih fun before last after same => unmarked before last (after ++ [e]) (by simp [same])

/-! ### A navigation of the user's own -/

theorem hadRecentUserGesture_of_recorded {s : State} {latest now : Rat}
    (recorded : s.lastUserGestureAt = some latest) (recent : now - latest ≤ A.userGestureGraceMs) :
    s.hadRecentUserGesture A now = true := by
  rw [State.hadRecentUserGesture, recorded, Option.any_some]
  exact decide_eq_true recent

/-- No gesture within the grace period stands before a share is asked for, other than one that a
navigation inside the room has taken. -/
theorem taken_gesture {before after : List Event} {at_ now : Rat}
    (clocked : Clocked (.gesture at_ :: after))
    (schedules : Schedules A (run A t (before ++ .gesture at_ :: after)) e input)
    (time : e.time? = some now) (recent : now - A.userGestureGraceMs < at_) :
    ∃ b n a, after = b ++ n :: a ∧ Arrives A (run A t (before ++ .gesture at_ :: b)) n := by
  by_contra still
  push Not at still
  obtain ⟨latest, recorded, later⟩ := gesture_recorded (A := A) (run A t before) at_ after clocked
    fun b n a same => by
      have kept := still b n a same
      rwa [run_append] at kept
  rw [run_append] at schedules
  obtain ⟨now', time', autoplay⟩ := autoplay_of_schedules schedules
  cases Option.some.inj (time.symm.trans time')
  have gesture := hadRecentUserGesture_of_recorded (A := A) recorded
    (show now - latest ≤ A.userGestureGraceMs by linarith)
  rw [autoplay.unmoved] at gesture
  cases gesture

/-- A natural end that a share was asked for by is used up. -/
theorem marked_between {before between : List Event} {n : Event}
    (first : Schedules A (run A t before) n input)
    (second : ByNaturalEnd A (run A t (before ++ n :: between)) e) :
    ∃ b m a, between = b ++ m :: a ∧ Marks (run A t (before ++ n :: b)) m := by
  by_contra still
  push Not at still
  have used : (step A (run A t before) n).1.content.sharedVideoNaturalEndUrl = none :=
    congrArg Recorded.sharedVideoNaturalEndUrl (recorded_of_arrives (arrives_of_schedules first))
  have unmarked : (run A (step A (run A t before) n).1 between).content.sharedVideoNaturalEndUrl =
      none := unmarked_run used fun b m a same => by
    have kept := still b m a same
    rwa [run_append] at kept
  obtain ⟨now, -, evidence⟩ := second
  rw [run_append] at evidence
  change (run A (step A (run A t before) n).1 between).content.navigatedFromSharedVideoEnd A now =
    true at evidence
  simp only [State.navigatedFromSharedVideoEnd, unmarked, Bool.and_eq_true,
    decide_eq_true_eq] at evidence
  obtain ⟨⟨⟨shared, same⟩, -⟩, -⟩ := evidence
  rw [← same] at shared
  cases shared

/-- What is asked for after a navigation that asks for nothing is asked for by a later one. -/
theorem asked_later {before after : List Event} {n : Event} {target : JsString}
    (navigates : Navigates A (run A t before) n)
    (nothing : ∀ input, ¬ Schedules A (run A t before) n input)
    (asked : Asked A t (before ++ n :: after) target) :
    ∃ b m a input, after = b ++ m :: a ∧ Schedules A (run A t (before ++ n :: b)) m input ∧
      target = input.nextNormalizedPageUrl := by
  obtain ⟨lead, e, rest, input, same, schedules, rfl, quiet⟩ := asked
  rcases List.append_eq_append_iff.mp same with ⟨between, rfl, split_⟩ | ⟨between, rfl, split_⟩
  · cases between with
    | nil =>
      obtain ⟨rfl, rfl⟩ := List.cons.inj split_
      rw [List.append_nil] at schedules
      exact absurd schedules (nothing input)
    | cons first others =>
      obtain ⟨rfl, rfl⟩ := List.cons.inj split_
      exact ⟨others, e, rest, input, rfl, schedules, rfl⟩
  · cases between with
    | nil =>
      obtain ⟨rfl, rfl⟩ := List.cons.inj split_
      rw [List.append_nil] at navigates nothing
      exact absurd schedules (nothing input)
    | cons first others =>
      obtain ⟨rfl, rfl⟩ := List.cons.inj split_
      have early := quiet others n after rfl
      rw [← run_append, List.append_assoc] at early
      exact absurd navigates early

/-- A share is asked for by the sharer alone, with no gesture in the grace period that a navigation
inside the room has not taken; a natural end is the evidence for one of them; and once a navigation
asks for nothing, nothing that was asked for before it is sent or armed again. -/
theorem shares_follow_the_rooms_video (A : Args) (page : Page) :
    (∀ es e input now, Clocked (es ++ [e]) → e.time? = some now →
        Schedules A (run A (opened A page) es) e input →
        (run A (opened A page) es).content.isLocalSharedSource = true ∧
          ∀ before at_ after, es = before ++ .gesture at_ :: after →
            now - A.userGestureGraceMs < at_ → ∃ b n a, after = b ++ n :: a ∧
              Arrives A (run A (opened A page) (before ++ .gesture at_ :: b)) n) ∧
      (∀ before n between e input input', Schedules A (run A (opened A page) before) n input →
        ByNaturalEnd A (run A (opened A page) before) n →
        Schedules A (run A (opened A page) (before ++ n :: between)) e input' →
        ByNaturalEnd A (run A (opened A page) (before ++ n :: between)) e →
        ∃ b m a, between = b ++ m :: a ∧ Marks (run A (opened A page) (before ++ n :: b)) m) ∧
      (∀ before n after e, Navigates A (run A (opened A page) before) n →
        (∀ input, ¬ Schedules A (run A (opened A page) before) n input) →
        (∀ message, (step A (run A (opened A page) (before ++ n :: after)) e).2 = some message →
          ∃ b m a input, after = b ++ m :: a ∧
            Schedules A (run A (opened A page) (before ++ n :: b)) m input ∧
            message.targetNormalizedUrl = input.nextNormalizedPageUrl) ∧
        ∀ pending, Rearms A (run A (opened A page) (before ++ n :: after)) e pending →
          (run A (opened A page) before).autoShare.scheduleGeneration < pending.generation ∧
          ∃ b m a input, after = b ++ m :: a ∧
            Schedules A (run A (opened A page) (before ++ n :: b)) m input ∧
            pending.targetNormalizedUrl = input.nextNormalizedPageUrl) := by
  refine ⟨?_, ?_, ?_⟩
  · intro es e input now clocked time schedules
    obtain ⟨now', time', autoplay⟩ := autoplay_of_schedules schedules
    refine ⟨autoplay.sharer, ?_⟩
    rintro before at_ after rfl recent
    have later : Clocked (.gesture at_ :: after) := by
      rw [Clocked, List.append_assoc, List.filterMap_append, List.cons_append] at clocked
      have right := (List.pairwise_append.mp clocked).2.1
      rw [← List.cons_append, List.filterMap_append] at right
      exact (List.pairwise_append.mp right).1
    exact taken_gesture later schedules time recent
  · intro before n between e input input' first _ _ second
    exact marked_between first second
  · intro before n after e navigates nothing
    constructor
    · intro message sent
      exact asked_later navigates nothing (sent_was_asked sent)
    · intro pending rearms
      refine ⟨?_, asked_later navigates nothing (rearmed_was_asked rearms)⟩
      obtain ⟨request, reply, rfl, found, armed⟩ := rearms
      rw [AutoShareNext.Controller.generation_of_rearmed found armed, run_append]
      exact ((step_generation _ n).2 navigates).trans_le (run_generation _ after)

end

/-! ### A sharer's evening -/

instance (A : Args) (t : Tab) (e : Event) (input : Input) : Decidable (Schedules A t e input) :=
  inferInstanceAs (Decidable (_ ∈ calls A t e))

def address (name : String) : JsString := js "https://www.bilibili.com/video/" ++ js name

/-- A site of three videos, each of which is its own normal form. -/
def site : Args where
  settleDelayMs := 900
  maxAttempts := 4
  retryDelayMs := 900
  normalizeVideoPageUrl url :=
    if url ∈ [address "BV1", address "BV2", address "BV3"] then some url else none
  platform :=
    { URL := fun url => ((js "https://www.bilibili.com").isPrefixOf? url).map fun path =>
        ⟨js "https://www.bilibili.com", js "www.bilibili.com", path, []⟩
      withVideoParams := fun url _ _ => url
      toUpperCase := id }
  userGestureGraceMs := 1200
  initialRoomStatePauseHoldMs := 3000
  sharedVideoNaturalEndWindowMs := 10000
  isSupportedVideoPage url := url ∈ [address "BV1", address "BV2", address "BV3"]

def seen (name : String) (now : Rat) : View where
  currentPageUrl := address name
  resolvedVideoUrl := none
  now := now

def start : Tab := opened site (seen "BV3" 0).toPage

/-- The member is in a room that shares BV1 of theirs. -/
def joined : List Event :=
  [.syncStatus (some (js "ROOM01")) (some (js "me")) true,
    .roomState (some (address "BV1")) (some (js "me")) true]

/-- The page goes to BV1 and on to BV2 within the grace period of one click. -/
theorem taken_click_is_forgotten :
    Schedules site (run site start (joined ++ [.gesture 8000, .look (seen "BV1" 8100)]))
        (.look (seen "BV2" 8900)) ⟨address "BV1", address "BV2", none⟩ ∧
      (8900 : Rat) - site.userGestureGraceMs < 8000 ∧ (8000 : Rat) ≤ 8900 := by
  decide +kernel

/-- The click goes to BV1, which ends; BV2 follows it, and BV3 follows BV2. -/
def returns : Event := .look (seen "BV1" 8100)
def ends : Event := .naturalEnd true 8300
def advances : Event := .look (seen "BV2" 8900)
def asks : Event := .timer 0 (seen "BV2" 9800).toPage
def follows : List Event :=
  [.roomState (some (address "BV2")) (some (js "me")) true, .naturalEnd true 15000]
def advancesAgain : Event := .look (seen "BV3" 16000)

theorem autoplay_is_shared_after_a_click :
    (∃ b n a, [returns, ends] = b ++ n :: a ∧
        Arrives site (run site start (joined ++ .gesture 8000 :: b)) n) ∧
      (∃ b m a, follows = b ++ m :: a ∧
        Marks (run site start (joined ++ [.gesture 8000, returns, ends] ++ advances :: b)) m) ∧
      ∃ b m a input, [ends, advances] = b ++ m :: a ∧
        Schedules site (run site start (joined ++ [.gesture 8000] ++ returns :: b)) m input ∧
        address "BV2" = input.nextNormalizedPageUrl := by
  have law := shares_follow_the_rooms_video site (seen "BV3" 0).toPage
  have scheduled : Schedules site
      (run site start (joined ++ [.gesture 8000, returns, ends])) advances
      ⟨address "BV1", address "BV2", none⟩ := by decide +kernel
  refine ⟨?_, ?_, ?_⟩
  · have clocked : Clocked (joined ++ [.gesture 8000, returns, ends] ++ [advances]) := by
      unfold Clocked
      decide +kernel
    exact (law.1 _ _ _ 8900 clocked rfl scheduled).2 joined 8000 [returns, ends] rfl
      (by decide +kernel)
  · apply law.2.1 _ advances follows advancesAgain _ ⟨address "BV2", address "BV3", none⟩ scheduled
    · exact ⟨8900, rfl, by decide +kernel⟩
    · decide +kernel
    · exact ⟨16000, rfl, by decide +kernel⟩
  · have asked : calls site (run site (opened site (seen "BV3" 0).toPage)
          (joined ++ [.gesture 8000])) returns =
        [.clearFestivalSnapshot, .cancelAutoShareNextVideo, .attachPlaybackListeners,
          .hydrateRoomState] := by decide +kernel
    have later := law.2.2 (joined ++ [.gesture 8000]) returns [ends, advances] asks
    rw [Navigates, asked] at later
    have nothing (input : Input) : ¬ Schedules site (run site (opened site (seen "BV3" 0).toPage)
        (joined ++ [.gesture 8000])) returns input := by
      rw [Schedules, asked]
      simp
    exact (later (by simp) nothing).1 ⟨address "BV1", address "BV2"⟩ (by decide +kernel)

end BiliSyncPlay.Navigation
