import BiliSyncPlay.Pruning
import BiliSyncPlay.Spans
import BiliSyncPlay.Transcripts

/-!
# The diagnosis throttle

A diagnosis is reported once an interval. Past `maxTrackedDiagnoses` slots the others share one
overflow bucket, whose cooldown outranks a slot that has become free.
-/

namespace BiliSyncPlay.DiagnosisThrottle

structure Options where
  intervalMs : Rat
  maxTrackedDiagnoses : Nat

structure Throttle where
  lastReportedAtByDiagnosis : JsMap String Rat := .empty
  lastUntrackedReportAt : Option Rat := none

variable (options : Options)

/-- The slots that are still cooling down. -/
def Throttle.tracked (throttle : Throttle) (now : Rat) : JsMap String Rat :=
  throttle.lastReportedAtByDiagnosis.prune fun _ lastReportedAt =>
    decide (options.intervalMs ≤ now - lastReportedAt)

/-- Whether the overflow bucket is. -/
def Throttle.overflowing (throttle : Throttle) (now : Rat) : Bool :=
  throttle.lastUntrackedReportAt.any fun last => decide (now - last < options.intervalMs)

def allow (throttle : Throttle) (diagnosis : String) (now : Rat) : Bool × Throttle :=
  let tracked := throttle.tracked options now
  let swept := { throttle with lastReportedAtByDiagnosis := tracked }
  if tracked.has diagnosis then (false, swept)
  else if throttle.overflowing options now then (false, swept)
  else if options.maxTrackedDiagnoses ≤ tracked.size then
    (true, { swept with lastUntrackedReportAt := some now })
  else (true, { swept with lastReportedAtByDiagnosis := tracked.set diagnosis now })

/-! ## Runs -/

structure Call where
  diagnosis : String
  time : Rat
  deriving DecidableEq

inductive Outcome where
  | refused
  | tracked
  /-- Reported through the overflow bucket. -/
  | overflow
  deriving DecidableEq

abbrev Answer := Transcript.Entry Call Outcome

/-- Whether `allow` answered true. -/
def reported (answer : Answer) : Bool := decide (answer.answer ≠ .refused)

/-- What `allow` does for a call, told by its answer and by the bucket it moved. -/
def Throttle.outcome (throttle : Throttle) (call : Call) : Outcome :=
  if (allow options throttle call.diagnosis call.time).1 = false then .refused
  else if options.maxTrackedDiagnoses ≤ (throttle.tracked options call.time).size then .overflow
  else .tracked

variable {call : Call}

def ask (throttle : Throttle) (call : Call) : Outcome × Throttle :=
  (throttle.outcome options call, (allow options throttle call.diagnosis call.time).2)

/-- A throttle and what it answered so far. -/
structure Run where
  throttle : Throttle := {}
  answers : List Answer := []

def runOf (calls : List Call) : Run where
  throttle := Transcript.after (ask options) {} calls
  answers := Transcript.answers (ask options) {} calls

variable {options}

theorem runOf_concat (calls : List Call) (call : Call) :
    runOf options (calls ++ [call]) =
      { throttle := (ask options (runOf options calls).throttle call).2
        answers := (runOf options calls).answers ++
          [⟨call, (runOf options calls).throttle.outcome options call⟩] } := by
  rw [runOf, Transcript.after_concat, Transcript.answers_concat]
  rfl

/-! ## One call -/

/-- What a call finds and leaves, by its outcome. -/
inductive Allowed (options : Options) (throttle : Throttle) (call : Call) :
    Outcome → Bool → Throttle → Prop where
  | refused (held : ((throttle.tracked options call.time).get? call.diagnosis).isSome = true ∨
      throttle.overflowing options call.time = true) :
    Allowed options throttle call .refused false
      { throttle with lastReportedAtByDiagnosis := throttle.tracked options call.time }
  | overflow (free : (throttle.tracked options call.time).get? call.diagnosis = none)
      (cool : throttle.overflowing options call.time = false) :
    Allowed options throttle call .overflow true
      ⟨throttle.tracked options call.time, some call.time⟩
  | tracked (free : (throttle.tracked options call.time).get? call.diagnosis = none)
      (cool : throttle.overflowing options call.time = false)
      (room : (throttle.tracked options call.time).size < options.maxTrackedDiagnoses) :
    Allowed options throttle call .tracked true
      { throttle with
        lastReportedAtByDiagnosis :=
          (throttle.tracked options call.time).set call.diagnosis call.time }

theorem allow_allowed (options : Options) (throttle : Throttle) (call : Call) :
    Allowed options throttle call (throttle.outcome options call)
      (allow options throttle call.diagnosis call.time).1
      (allow options throttle call.diagnosis call.time).2 := by
  unfold Throttle.outcome allow JsMap.has
  by_cases held : ((throttle.tracked options call.time).get? call.diagnosis).isSome = true
  · simpa [held] using Allowed.refused (.inl held)
  · have free : (throttle.tracked options call.time).get? call.diagnosis = none := by
      simpa using held
    by_cases warm : throttle.overflowing options call.time = true
    · simpa [free, warm] using Allowed.refused (.inr warm)
    · have cool : throttle.overflowing options call.time = false := by simpa using warm
      by_cases full : options.maxTrackedDiagnoses ≤ (throttle.tracked options call.time).size
      · simpa [free, cool, full] using Allowed.overflow free cool
      · have room := Nat.lt_of_not_le full
        simpa [free, cool, full] using Allowed.tracked free cool room

variable {calls : List Call} {now : Rat} {run : Run}

theorem get?_tracked {throttle : Throttle} {last : Rat} {diagnosis : String} :
    (throttle.tracked options now).get? diagnosis = some last ↔
      throttle.lastReportedAtByDiagnosis.get? diagnosis = some last ∧
        now - last < options.intervalMs := by
  rw [Throttle.tracked, JsMap.get?_prune_eq_some]
  simp

theorem overflowing_iff {throttle : Throttle} :
    throttle.overflowing options now = true ↔
      ∃ last, throttle.lastUntrackedReportAt = some last ∧ now - last < options.intervalMs := by
  simp [Throttle.overflowing, Option.any_eq_true]

/-! ## What a run keeps -/

/-- The slots and the bucket tell of the reports that are not yet an interval old. -/
structure Sound (options : Options) (run : Run) (now : Rat) : Prop where
  slots : ∀ diagnosis last, run.throttle.lastReportedAtByDiagnosis.get? diagnosis = some last →
    ⟨⟨diagnosis, last⟩, .tracked⟩ ∈ run.answers
  kept : ∀ answer ∈ run.answers, answer.answer = .tracked →
    run.throttle.lastReportedAtByDiagnosis.get? answer.call.diagnosis = some answer.call.time ∨
      options.intervalMs ≤ now - answer.call.time
  bucket : ∀ last, run.throttle.lastUntrackedReportAt = some last →
    ∃ answer ∈ run.answers, answer.answer = .overflow ∧ answer.call.time = last
  newest : ∀ answer ∈ run.answers, answer.answer = .overflow →
    ∃ last, run.throttle.lastUntrackedReportAt = some last ∧ answer.call.time ≤ last
  bounded : run.throttle.lastReportedAtByDiagnosis.size ≤ options.maxTrackedDiagnoses

theorem sound_fresh (now : Rat) : Sound options {} now where
  slots _ _ found := nomatch found
  kept _ mem := nomatch mem
  bucket _ found := nomatch found
  newest _ mem := nomatch mem
  bounded := Nat.zero_le _

/-- The slots a call leaves to itself and to those after it. -/
theorem Sound.swept {earlier : Rat} (sound : Sound options run earlier) (later : earlier ≤ now) :
    Sound options { run with throttle := { run.throttle with
      lastReportedAtByDiagnosis := run.throttle.tracked options now } } now where
  slots diagnosis last found := sound.slots diagnosis last (get?_tracked.mp found).1
  kept answer mem tracked := by
    rcases sound.kept answer mem tracked with held | old
    · by_cases young : now - answer.call.time < options.intervalMs
      · exact .inl (get?_tracked.mpr ⟨held, young⟩)
      · exact .inr (le_of_not_gt young)
    · right
      linarith
  bucket := sound.bucket
  newest := sound.newest
  bounded := (JsMap.size_prune_le ..).trans sound.bounded

theorem sound_ask {earlier : Rat} (sound : Sound options run earlier) (later : earlier ≤ call.time)
    (past : ∀ answer ∈ run.answers, answer.call.time ≤ call.time) :
    Sound options { throttle := (ask options run.throttle call).2
                    answers := run.answers ++ [⟨call, run.throttle.outcome options call⟩] }
      call.time := by
  have swept := sound.swept later
  have allowed := allow_allowed options run.throttle call
  unfold ask
  generalize run.throttle.outcome options call = outcome at allowed ⊢
  generalize allow options run.throttle call.diagnosis call.time = answered at allowed ⊢
  obtain ⟨reported, next⟩ := answered
  cases allowed with
  | refused held =>
    constructor
    · intro diagnosis last found
      exact List.mem_append_left _ (swept.slots diagnosis last found)
    · intro answer mem tracked
      rcases List.mem_append.mp mem with old | new
      · exact swept.kept answer old tracked
      · cases List.mem_singleton.mp new
        cases tracked
    · intro last found
      obtain ⟨answer, mem, overflowed, time⟩ := swept.bucket last found
      exact ⟨answer, List.mem_append_left _ mem, overflowed, time⟩
    · intro answer mem overflowed
      rcases List.mem_append.mp mem with old | new
      · exact swept.newest answer old overflowed
      · cases List.mem_singleton.mp new
        cases overflowed
    · exact swept.bounded
  | overflow free cool =>
    constructor
    · intro diagnosis last found
      exact List.mem_append_left _ (swept.slots diagnosis last found)
    · intro answer mem tracked
      rcases List.mem_append.mp mem with old | new
      · exact swept.kept answer old tracked
      · cases List.mem_singleton.mp new
        cases tracked
    · intro last found
      cases found
      exact ⟨_, List.mem_append_right _ List.mem_cons_self, rfl, rfl⟩
    · intro answer mem overflowed
      refine ⟨call.time, rfl, ?_⟩
      rcases List.mem_append.mp mem with old | new
      · exact past answer old
      · cases List.mem_singleton.mp new
        exact le_refl _
    · exact swept.bounded
  | tracked free cool room =>
    constructor
    · intro diagnosis last found
      rw [JsMap.get?_set] at found
      split at found
      · rename_i same
        cases found
        subst same
        exact List.mem_append_right _ List.mem_cons_self
      · exact List.mem_append_left _ (swept.slots diagnosis last found)
    · intro answer mem tracked
      rcases List.mem_append.mp mem with old | new
      · rcases swept.kept answer old tracked with held | aged
        · left
          have other : call.diagnosis ≠ answer.call.diagnosis := by
            intro same
            rw [same] at free
            cases free.symm.trans held
          rw [JsMap.get?_set_ne _ _ other]
          exact held
        · exact .inr aged
      · cases List.mem_singleton.mp new
        exact .inl (JsMap.get?_set_self ..)
    · intro last found
      obtain ⟨answer, mem, overflowed, time⟩ := swept.bucket last found
      exact ⟨answer, List.mem_append_left _ mem, overflowed, time⟩
    · intro answer mem overflowed
      rcases List.mem_append.mp mem with old | new
      · exact swept.newest answer old overflowed
      · cases List.mem_singleton.mp new
        cases overflowed
    · have grown := JsMap.size_set_le (run.throttle.tracked options call.time) call.diagnosis
        call.time
      dsimp only
      omega

theorem Sound.later {earlier : Rat} (sound : Sound options run earlier) (later : earlier ≤ now) :
    Sound options run now where
  slots := sound.slots
  kept answer mem tracked := (sound.kept answer mem tracked).imp_right fun old => by linarith
  bucket := sound.bucket
  newest := sound.newest
  bounded := sound.bounded

theorem past_of_ordered (past : ∀ call ∈ calls, call.time ≤ now) :
    ∀ answer ∈ (runOf options calls).answers, answer.call.time ≤ now :=
  fun answer mem => past answer.call (Transcript.call_mem mem)

/-- No time of the calls lies after a later one's. -/
def Ordered (calls : List Call) : Prop := calls.Pairwise fun x y => x.time ≤ y.time

theorem Ordered.append_singleton (ordered : Ordered (calls ++ [call])) :
    Ordered calls ∧ ∀ earlier ∈ calls, earlier.time ≤ call.time := by
  obtain ⟨before, -, across⟩ := List.pairwise_append.mp ordered
  exact ⟨before, fun earlier mem => across earlier mem call List.mem_cons_self⟩

theorem run_sound (ordered : Ordered calls) :
    ∀ now, (∀ call ∈ calls, call.time ≤ now) → Sound options (runOf options calls) now := by
  induction calls using List.reverseRecOn with
  | nil => exact fun now _ => sound_fresh now
  | append_singleton calls call ih =>
    intro now past
    obtain ⟨before, earlier⟩ := ordered.append_singleton
    have upTo := ih before call.time earlier
    rw [runOf_concat]
    have sound := sound_ask upTo (le_refl _) (past_of_ordered earlier)
    exact sound.later (past call (List.mem_append_right _ List.mem_cons_self))

/-- Where a call is reported, the reports that could hold it back are an interval old. -/
theorem old_enough (sound : Sound options run call.time)
    (reports : run.throttle.outcome options call ≠ .refused) {earlier : Answer}
    (mem : earlier ∈ run.answers)
    (related : earlier.answer = .tracked ∧ earlier.call.diagnosis = call.diagnosis ∨
      earlier.answer = .overflow) :
    earlier.call.time + options.intervalMs ≤ call.time := by
  have allowed := allow_allowed options run.throttle call
  obtain ⟨free, cool⟩ : (run.throttle.tracked options call.time).get? call.diagnosis = none ∧
      run.throttle.overflowing options call.time = false := by
    generalize run.throttle.outcome options call = outcome at allowed reports
    generalize (allow options run.throttle call.diagnosis call.time).1 = reported at allowed
    generalize (allow options run.throttle call.diagnosis call.time).2 = next at allowed
    cases allowed with
    | refused => exact absurd rfl reports
    | overflow free cool => exact ⟨free, cool⟩
    | tracked free cool => exact ⟨free, cool⟩
  rcases related with ⟨tracked, same⟩ | overflowed
  · rcases sound.kept earlier mem tracked with held | old
    · by_contra young
      have found := get?_tracked.mpr ⟨held, show call.time - earlier.call.time <
        options.intervalMs by linarith [not_le.mp young]⟩
      rw [same, free] at found
      cases found
    · linarith
  · obtain ⟨last, moved, le⟩ := sound.newest earlier mem overflowed
    have cold : ¬ call.time - last < options.intervalMs := by
      intro warm
      rw [overflowing_iff.mpr ⟨last, moved, warm⟩] at cool
      cases cool
    linarith [not_lt.mp cold]

/-- Two reports of one diagnosis, or of the bucket, are an interval apart. -/
def Apart (options : Options) (x y : Answer) : Prop :=
  x.answer ≠ .refused → y.answer ≠ .refused →
    (x.call.diagnosis = y.call.diagnosis ∨ x.answer = .overflow) →
    x.call.time + options.intervalMs ≤ y.call.time

theorem reports_apart (ordered : Ordered calls) :
    (runOf options calls).answers.Pairwise (Apart options) := by
  induction calls using List.reverseRecOn with
  | nil => exact List.Pairwise.nil
  | append_singleton calls call ih =>
    obtain ⟨before, earlier⟩ := ordered.append_singleton
    have sound : Sound options _ call.time := run_sound before call.time earlier
    rw [runOf_concat]
    apply List.pairwise_append.mpr
    refine ⟨ih before, List.pairwise_singleton _ _, ?_⟩
    intro x mem y last was reports related
    obtain rfl := List.mem_singleton.mp last
    apply old_enough sound reports mem
    cases how : x.answer with
    | refused => exact absurd how was
    | tracked =>
      rw [how] at related
      exact .inl ⟨rfl, related.resolve_right nofun⟩
    | overflow => exact .inr rfl

theorem refused_for_a_report (sound : Sound options run call.time)
    (refused : run.throttle.outcome options call = .refused) :
    ∃ report ∈ run.answers, (report.answer = .tracked ∧
        report.call.diagnosis = call.diagnosis ∨ report.answer = .overflow) ∧
      call.time < report.call.time + options.intervalMs := by
  have allowed := allow_allowed options run.throttle call
  rw [refused] at allowed
  generalize (allow options run.throttle call.diagnosis call.time).1 = reported at allowed
  generalize (allow options run.throttle call.diagnosis call.time).2 = next at allowed
  cases allowed with
  | refused held =>
    rcases held with slot | warm
    · obtain ⟨last, found⟩ := Option.isSome_iff_exists.mp slot
      obtain ⟨held, young⟩ := get?_tracked.mp found
      exact ⟨_, sound.slots _ _ held, .inl ⟨rfl, rfl⟩, by linarith⟩
    · obtain ⟨last, moved, young⟩ := overflowing_iff.mp warm
      obtain ⟨report, mem, overflowed, time⟩ := sound.bucket last moved
      exact ⟨report, mem, .inr overflowed, by linarith⟩

/-! ## Reports within an interval -/

variable {window : Rat → Bool}

theorem few_overflows (ordered : Ordered calls) (narrow : Narrow options.intervalMs window) :
    (runOf options calls).answers.countP
      (fun answer => answer.answer = .overflow && window answer.call.time) ≤ 1 := by
  rw [List.countP_eq_length_filter]
  apply length_le_one ((reports_apart ordered).sublist List.filter_sublist)
  intro x hx y hy apart
  simp only [List.mem_filter, Bool.and_eq_true, decide_eq_true_eq] at hx hy
  have gap := apart (by simp [hx.2.1]) (by simp [hy.2.1]) (.inr hx.2.1)
  exact absurd gap (not_le.mpr (narrow _ _ hx.2.2 hy.2.2))

/-- The slots hold every tracked report of the last interval. -/
theorem tracked_le_size (sound : Sound options run now)
    (apart : run.answers.Pairwise (Apart options)) (narrow : Narrow options.intervalMs window)
    (here : window now = true) :
    run.answers.countP (fun answer => answer.answer = .tracked && window answer.call.time) ≤
      options.maxTrackedDiagnoses := by
  apply le_trans _ sound.bounded
  rw [List.countP_eq_length_filter, ← List.length_map fun answer : Answer => answer.call.diagnosis]
  apply JsMap.length_le_size
  · apply List.pairwise_map.mpr
    apply ((apart.sublist List.filter_sublist).imp_of_mem ?_)
    intro x y hx hy gap same
    simp only [List.mem_filter, Bool.and_eq_true, decide_eq_true_eq] at hx hy
    have le := gap (by simp [hx.2.1]) (by simp [hy.2.1]) (.inl same)
    exact absurd le (not_le.mpr (narrow _ _ hx.2.2 hy.2.2))
  · intro diagnosis mem
    obtain ⟨answer, listed, rfl⟩ := List.mem_map.mp mem
    simp only [List.mem_filter, Bool.and_eq_true, decide_eq_true_eq] at listed
    obtain ⟨mem, tracked, within⟩ := listed
    rcases sound.kept answer mem tracked with held | old
    · rw [held]
      rfl
    · have near := narrow _ _ within here
      linarith

theorem few_tracked (ordered : Ordered calls) (narrow : Narrow options.intervalMs window) :
    (runOf options calls).answers.countP
      (fun answer => answer.answer = .tracked && window answer.call.time) ≤
        options.maxTrackedDiagnoses := by
  induction calls using List.reverseRecOn with
  | nil => exact Nat.zero_le _
  | append_singleton calls call ih =>
    obtain ⟨before, earlier⟩ := ordered.append_singleton
    by_cases inside : window call.time = true
    · apply tracked_le_size _ (reports_apart ordered) narrow inside
      apply run_sound ordered
      intro other mem
      rcases List.mem_append.mp mem with old | new
      · exact earlier other old
      · cases List.mem_singleton.mp new
        exact le_refl _
    · rw [runOf_concat, List.countP_append, List.countP_singleton]
      simpa [inside] using ih before

/-- A report is tracked or goes through the bucket. -/
theorem countP_reported (answers : List Answer) (window : Rat → Bool) :
    answers.countP (fun answer => reported answer && window answer.call.time) =
      answers.countP (fun answer => answer.answer = .tracked && window answer.call.time) +
        answers.countP (fun answer => answer.answer = .overflow && window answer.call.time) := by
  induction answers with
  | nil => rfl
  | cons answer rest ih =>
    rw [List.countP_cons, List.countP_cons, List.countP_cons, ih]
    cases how : answer.answer <;> cases window answer.call.time <;>
      simp [reported, how] <;> omega

theorem few_reports (ordered : Ordered calls) (narrow : Narrow options.intervalMs window) :
    (runOf options calls).answers.countP
      (fun answer => reported answer && window answer.call.time) ≤
        options.maxTrackedDiagnoses + 1 := by
  rw [countP_reported]
  exact Nat.add_le_add (few_tracked ordered narrow) (few_overflows ordered narrow)

/-! ## The throttle is bounded -/

theorem Ordered.before_split {earlier later : List Call}
    (ordered : Ordered (earlier ++ call :: later)) :
    Ordered earlier ∧ ∀ other ∈ earlier, other.time ≤ call.time := by
  obtain ⟨before, -, across⟩ := List.pairwise_append.mp ordered
  exact ⟨before, fun other mem => across other mem call List.mem_cons_self⟩

theorem slots_bounded (ordered : Ordered calls) :
    (runOf options calls).throttle.lastReportedAtByDiagnosis.size ≤
      options.maxTrackedDiagnoses := by
  rcases List.eq_nil_or_concat calls with rfl | ⟨earlier, last, rfl⟩
  · exact Nat.zero_le _
  · rw [List.concat_eq_append] at ordered ⊢
    obtain ⟨-, before⟩ := ordered.append_singleton
    refine (run_sound ordered last.time fun call mem => ?_).bounded
    rcases List.mem_append.mp mem with old | new
    · exact before call old
    · rw [List.mem_singleton.mp new]

theorem diagnosis_throttle_is_bounded (options : Options) {calls : List Call}
    (ordered : Ordered calls) :
    ((runOf options calls).answers.Pairwise fun x y =>
      reported x = true → reported y = true → x.call.diagnosis = y.call.diagnosis →
        x.call.time + options.intervalMs ≤ y.call.time) ∧
    (∀ start, (runOf options calls).answers.countP (fun answer =>
        reported answer && fromOn start options.intervalMs answer.call.time) ≤
      options.maxTrackedDiagnoses + 1) ∧
    (∀ start, (runOf options calls).answers.countP (fun answer =>
        reported answer && upTo start options.intervalMs answer.call.time) ≤
      options.maxTrackedDiagnoses + 1) ∧
    (runOf options calls).throttle.lastReportedAtByDiagnosis.size ≤ options.maxTrackedDiagnoses ∧
    ∀ before refused after, (runOf options calls).answers = before ++ refused :: after →
      reported refused = false → ∃ report ∈ before, reported report = true ∧
        (report.call.diagnosis = refused.call.diagnosis ∨ report.answer = .overflow) ∧
        refused.call.time < report.call.time + options.intervalMs := by
  refine ⟨?_, ?_, ?_, slots_bounded ordered, ?_⟩
  · apply (reports_apart ordered).imp
    intro x y apart was reports same
    exact apart (by simpa [reported] using was) (by simpa [reported] using reports)
      (.inl same)
  · exact fun start => few_reports ordered (narrow_fromOn _ start)
  · exact fun start => few_reports ordered (narrow_upTo _ start)
  · intro before refused after split not
    obtain ⟨earlier, later, rfl, rfl, how⟩ := Transcript.answers_split split
    obtain ⟨before, past⟩ := ordered.before_split
    have refusal : refused.answer = .refused := by simpa [reported] using not
    obtain ⟨report, mem, which, young⟩ :=
      refused_for_a_report (run_sound before _ past) (how.symm.trans refusal)
    refine ⟨report, mem, ?_, ?_, young⟩
    · rcases which with ⟨tracked, -⟩ | overflowed
      · simp [reported, tracked]
      · simp [reported, overflowed]
    · exact which.imp_left And.right

/-- Two slots, a third diagnosis through the bucket, and a fourth that finds it warm. -/
def fullSlots : List Call :=
  [⟨"a", 0⟩, ⟨"b", 1 / 2⟩, ⟨"c", 600⟩, ⟨"d", 999⟩, ⟨"a", 1000⟩, ⟨"d", 1600⟩]

theorem full_slots_are_bounded :
    (runOf ⟨1000, 2⟩ fullSlots).answers.map Transcript.Entry.answer =
        [.tracked, .tracked, .overflow, .refused, .refused, .tracked] ∧
      (runOf ⟨1000, 2⟩ fullSlots).answers.countP (fun answer =>
        reported answer && fromOn 0 1000 answer.call.time) ≤ 2 + 1 := by
  have ordered : Ordered fullSlots := by
    unfold Ordered
    decide +kernel
  have law := diagnosis_throttle_is_bounded ⟨1000, 2⟩ ordered
  exact ⟨by decide +kernel, law.2.1 0⟩

end BiliSyncPlay.DiagnosisThrottle
