import Mathlib.Algebra.Order.Field.Rat
import Mathlib.Algebra.Order.Floor.Ring
import Mathlib.Data.List.GetD
import Mathlib.Data.List.Induction
import Mathlib.Data.Rat.Floor
import Mathlib.Tactic.Linarith
import Mathlib.Tactic.NormNum

/-!
# Clock samples

`updateClockSample` of `clock-sync.ts` and the state `clock-controller.ts` keeps of it: the window
of samples, the estimate they agree on, and the offset that is published. Times and offsets are
exact numbers.
-/

namespace BiliSyncPlay.ClockSync

def CLOCK_SAMPLE_WINDOW_SIZE : Nat := 8
def CLOCK_SAMPLE_MAX_AGE_MS : Rat := 150000
def CLOCK_SAMPLE_RTT_TOLERANCE_MS : Rat := 20
def CLOCK_SAMPLE_MIN_TRUSTED_SIZE : Nat := 3
def CLOCK_OFFSET_DEADBAND_MS : Rat := 120

structure ClockSample where
  offsetMs : Rat
  rttMs : Rat
  atMs : Rat
  deriving DecidableEq

/-- The stamps of one ping and its answer. -/
structure Pong where
  clientSendTime : Rat
  serverReceiveTime : Rat
  serverSendTime : Rat
  now : Rat
  deriving DecidableEq

namespace Pong

def outboundMs (pong : Pong) : Rat := pong.serverReceiveTime - pong.clientSendTime
def inboundMs (pong : Pong) : Rat := pong.serverSendTime - pong.now
def rttMs (pong : Pong) : Rat := pong.outboundMs - pong.inboundMs
def offsetMs (pong : Pong) : Rat := (pong.outboundMs + pong.inboundMs) / 2

def sample (pong : Pong) : ClockSample :=
  { offsetMs := pong.offsetMs, rttMs := pong.rttMs, atMs := pong.now }

end Pong

/-- `Math.round`. -/
def round (value : Rat) : Rat := ⌊value + 1 / 2⌋

def median (values : List Rat) : Rat :=
  let sorted := values.mergeSort
  let middle := sorted.length / 2
  if sorted.length % 2 = 1 then sorted.getD middle 0
  else (sorted.getD (middle - 1) 0 + sorted.getD middle 0) / 2

structure Estimate where
  offsetMs : Rat
  usableCount : Nat
  deriving DecidableEq

def competing (fastestRtt : Rat) (usable : List ClockSample) : List ClockSample :=
  usable.filter fun sample =>
    decide (sample.rttMs ≤ fastestRtt + CLOCK_SAMPLE_RTT_TOLERANCE_MS)

def estimateOffsetMs (samples : List ClockSample) : Option Estimate :=
  let usable := samples.filter fun sample => decide (0 ≤ sample.rttMs)
  match (usable.map ClockSample.rttMs).min? with
  | none => none
  | some fastestRtt =>
    some
      { offsetMs := median ((competing fastestRtt usable).map ClockSample.offsetMs)
        usableCount := usable.length }

/-- What the background keeps of the clocks. -/
structure ClockState where
  rttMs : Option Rat := none
  clockOffsetMs : Option Rat := none
  clockSamples : List ClockSample := []
  deriving DecidableEq

/-- The retained window, oldest first. -/
def window (previous : List ClockSample) (pong : Pong) : List ClockSample :=
  let samples := previous.filter (fun sample =>
    decide (pong.now - sample.atMs ≤ CLOCK_SAMPLE_MAX_AGE_MS)) ++ [pong.sample]
  samples.drop (samples.length - CLOCK_SAMPLE_WINDOW_SIZE)

/-- Whether the published offset follows the estimate. -/
def follows (previous : Rat) (estimate : Estimate) : Bool :=
  decide (estimate.usableCount < CLOCK_SAMPLE_MIN_TRUSTED_SIZE) ||
    decide (|estimate.offsetMs - previous| > CLOCK_OFFSET_DEADBAND_MS)

def publish (previous : Option Rat) : Option Estimate → Option Rat
  | none => previous
  | some estimate =>
    match previous with
    | none => some (round estimate.offsetMs)
    | some offset =>
      if follows offset estimate then some (round estimate.offsetMs) else some offset

def updateClockSample (state : ClockState) (pong : Pong) : ClockState :=
  let samples := window state.clockSamples pong
  { rttMs :=
      match state.rttMs with
      | none => some pong.rttMs
      | some previous => some (round (previous * (7 / 10) + pong.rttMs * (3 / 10)))
    clockOffsetMs := publish state.clockOffsetMs (estimateOffsetMs samples)
    clockSamples := samples }

/-- The state after the answers of a run, in the order they came. -/
def run (pongs : List Pong) : ClockState := pongs.foldl updateClockSample {}

/-! ## The true offset -/

/-- An offset of the server's clock for which neither way took less than no time. -/
def Pong.Allows (pong : Pong) (offset : Rat) : Prop :=
  pong.inboundMs ≤ offset ∧ offset ≤ pong.outboundMs

instance (pong : Pong) (offset : Rat) : Decidable (pong.Allows offset) := by
  unfold Pong.Allows
  infer_instance

/-- A sample misses the offsets between two bounds by at most half its round trip. -/
def ClockSample.Near (lo hi : Rat) (sample : ClockSample) : Prop :=
  0 ≤ sample.rttMs ∧ lo - sample.rttMs / 2 ≤ sample.offsetMs ∧
    sample.offsetMs ≤ hi + sample.rttMs / 2

variable {hi lo : Rat} {pongs : List Pong}

theorem near_sample {pong : Pong} {offset : Rat} (allows : pong.Allows offset) (above : lo ≤ offset)
    (below : offset ≤ hi) : pong.sample.Near lo hi := by
  obtain ⟨inbound, outbound⟩ := allows
  simp only [ClockSample.Near, Pong.sample, Pong.rttMs, Pong.offsetMs]
  refine ⟨?_, ?_, ?_⟩ <;> linarith

/-! ## The median -/

theorem median_between {values : List Rat} (nonempty : values ≠ [])
    (above : ∀ value ∈ values, lo ≤ value) (below : ∀ value ∈ values, value ≤ hi) :
    lo ≤ median values ∧ median values ≤ hi := by
  have inside : ∀ index < values.length,
      lo ≤ values.mergeSort.getD index 0 ∧ values.mergeSort.getD index 0 ≤ hi := by
    intro index small
    have bound : index < values.mergeSort.length := by simpa using small
    have mem : values.mergeSort.getD index 0 ∈ values := by
      rw [List.getD_eq_getElem _ _ bound, ← List.mem_mergeSort]
      exact List.getElem_mem bound
    exact ⟨above _ mem, below _ mem⟩
  have positive : 0 < values.length := List.length_pos_of_ne_nil nonempty
  have middle := inside (values.length / 2) (by omega)
  have before := inside (values.length / 2 - 1) (by omega)
  simp only [median, List.length_mergeSort]
  split
  · exact middle
  · constructor <;> linarith

/-! ## The estimate -/

/-- The estimate lies where the samples lie whose round trip competes with that of one of them. -/
theorem estimate_between {samples : List ClockSample} {sample : ClockSample}
    (usable : ∀ other ∈ samples, 0 ≤ other.rttMs) (mem : sample ∈ samples)
    (between : ∀ other ∈ samples, other.rttMs ≤ sample.rttMs + CLOCK_SAMPLE_RTT_TOLERANCE_MS →
      lo ≤ other.offsetMs ∧ other.offsetMs ≤ hi) :
    ∃ estimate, estimateOffsetMs samples = some estimate ∧
      estimate.usableCount = samples.length ∧ lo ≤ estimate.offsetMs ∧ estimate.offsetMs ≤ hi := by
  have all_usable : samples.filter (fun sample => decide (0 ≤ sample.rttMs)) = samples := by
    apply List.filter_eq_self.mpr
    intro sample mem
    exact decide_eq_true (usable sample mem)
  cases fastest : (samples.map ClockSample.rttMs).min? with
  | none =>
    simp only [List.min?_eq_none_iff, List.map_eq_nil_iff] at fastest
    simp [fastest] at mem
  | some fastestRtt =>
    obtain ⟨fastest_mem, least⟩ := List.min?_eq_some_iff.mp fastest
    have offsets : ∀ offset ∈ (competing fastestRtt samples).map ClockSample.offsetMs,
        lo ≤ offset ∧ offset ≤ hi := by
      intro offset offset_mem
      obtain ⟨other, other_mem, rfl⟩ := List.mem_map.mp offset_mem
      obtain ⟨other_mem, close⟩ := List.mem_filter.mp other_mem
      have close := of_decide_eq_true close
      have slower := least sample.rttMs (List.mem_map_of_mem mem)
      apply between other other_mem
      linarith
    have some_compete : (competing fastestRtt samples).map ClockSample.offsetMs ≠ [] := by
      obtain ⟨best, best_mem, best_rtt⟩ := List.mem_map.mp fastest_mem
      have tolerance : 0 ≤ CLOCK_SAMPLE_RTT_TOLERANCE_MS := by
        norm_num [CLOCK_SAMPLE_RTT_TOLERANCE_MS]
      have close : best.rttMs ≤ fastestRtt + CLOCK_SAMPLE_RTT_TOLERANCE_MS := by
        rw [best_rtt]
        linarith
      apply List.ne_nil_of_mem
      apply List.mem_map_of_mem
      exact List.mem_filter.mpr ⟨best_mem, decide_eq_true close⟩
    have inside := median_between some_compete (fun offset h => (offsets offset h).1)
      fun offset h => (offsets offset h).2
    refine ⟨⟨median ((competing fastestRtt samples).map ClockSample.offsetMs), samples.length⟩,
      ?_, rfl, inside⟩
    simp only [estimateOffsetMs, all_usable, fastest]

/-- A slow sample is held back by a fast one: what competes is close to the offsets. -/
theorem estimate_near {samples : List ClockSample} {sample : ClockSample}
    (near : ∀ sample ∈ samples, sample.Near lo hi) (mem : sample ∈ samples) :
    ∃ estimate, estimateOffsetMs samples = some estimate ∧
      estimate.usableCount = samples.length ∧
      lo - (sample.rttMs + CLOCK_SAMPLE_RTT_TOLERANCE_MS) / 2 ≤ estimate.offsetMs ∧
      estimate.offsetMs ≤ hi + (sample.rttMs + CLOCK_SAMPLE_RTT_TOLERANCE_MS) / 2 := by
  apply estimate_between (fun other other_mem => (near other other_mem).1) mem
  intro other other_mem close
  obtain ⟨-, above, below⟩ := near other other_mem
  constructor <;> linarith

/-! ## The window -/

theorem run_concat (pongs : List Pong) (pong : Pong) :
    run (pongs ++ [pong]) = updateClockSample (run pongs) pong := by
  simp [run]

theorem mem_window {previous : List ClockSample} {pong : Pong} {sample : ClockSample}
    (mem : sample ∈ window previous pong) :
    sample = pong.sample ∨
      sample ∈ previous ∧ pong.now - sample.atMs ≤ CLOCK_SAMPLE_MAX_AGE_MS := by
  have mem := List.mem_of_mem_drop mem
  rcases List.mem_append.mp mem with kept | added
  · obtain ⟨before, young⟩ := List.mem_filter.mp kept
    exact .inr ⟨before, of_decide_eq_true young⟩
  · exact .inl (List.mem_singleton.mp added)

theorem sample_mem_window (previous : List ClockSample) (pong : Pong) :
    pong.sample ∈ window previous pong := by
  unfold window
  simp only [List.length_append, List.length_singleton]
  rw [List.drop_append_of_le_length]
  · simp
  · have size : 1 ≤ CLOCK_SAMPLE_WINDOW_SIZE := by decide
    omega

theorem length_window_le (previous : List ClockSample) (pong : Pong) :
    (window previous pong).length ≤ CLOCK_SAMPLE_WINDOW_SIZE := by
  unfold window
  rw [List.length_drop]
  omega

/-- Every sample kept is that of an answer of the run. -/
theorem mem_samples_run {sample : ClockSample} (mem : sample ∈ (run pongs).clockSamples) :
    ∃ pong ∈ pongs, sample = pong.sample := by
  induction pongs using List.reverseRecOn with
  | nil => simp [run] at mem
  | append_singleton pongs pong ih =>
    rw [run_concat] at mem
    rcases mem_window mem with rfl | ⟨before, -⟩
    · exact ⟨pong, by simp, rfl⟩
    · obtain ⟨other, other_mem, same⟩ := ih before
      exact ⟨other, by simp [other_mem], same⟩

/-- The window after an answer, where every answer of the last while allows an offset between two
bounds. -/
theorem window_near {last : Pong}
    (recent : ∀ pong ∈ pongs ++ [last], last.now - pong.now ≤ CLOCK_SAMPLE_MAX_AGE_MS →
      ∃ offset, lo ≤ offset ∧ offset ≤ hi ∧ pong.Allows offset) :
    ∀ sample ∈ window (run pongs).clockSamples last, sample.Near lo hi := by
  intro sample mem
  rcases mem_window mem with rfl | ⟨before, young⟩
  · have fresh : last.now - last.now ≤ CLOCK_SAMPLE_MAX_AGE_MS := by
      norm_num [CLOCK_SAMPLE_MAX_AGE_MS]
    obtain ⟨offset, above, below, allows⟩ := recent last (by simp) fresh
    exact near_sample allows above below
  · obtain ⟨pong, pong_mem, rfl⟩ := mem_samples_run before
    obtain ⟨offset, above, below, allows⟩ := recent pong (by simp [pong_mem]) young
    exact near_sample allows above below

/-! ## The published offset -/

theorem round_near (value : Rat) : value - 1 / 2 < round value ∧ round value ≤ value + 1 / 2 := by
  have below := Int.floor_le (value + 1 / 2)
  have above := Int.lt_floor_add_one (value + 1 / 2)
  constructor
  · unfold round
    linarith
  · exact below

/-- What is published stays within the deadband of the estimate. -/
theorem publish_near (previous : Option Rat) (estimate : Estimate) :
    ∃ offset, publish previous (some estimate) = some offset ∧
      estimate.offsetMs - CLOCK_OFFSET_DEADBAND_MS ≤ offset ∧
      offset ≤ estimate.offsetMs + CLOCK_OFFSET_DEADBAND_MS := by
  have rounded := round_near estimate.offsetMs
  have wide : 1 / 2 ≤ CLOCK_OFFSET_DEADBAND_MS := by norm_num [CLOCK_OFFSET_DEADBAND_MS]
  cases previous with
  | none => exact ⟨_, rfl, by linarith, by linarith⟩
  | some offset =>
    cases follow : follows offset estimate with
    | true =>
      refine ⟨round estimate.offsetMs, ?_, by linarith, by linarith⟩
      simp [publish, follow]
    | false =>
      refine ⟨offset, ?_, ?_⟩
      · simp [publish, follow]
      · simp only [follows, Bool.or_eq_false_iff, decide_eq_false_iff_not, not_lt] at follow
        have close := abs_le.mp follow.2
        constructor <;> linarith

/-- After every answer of a run the published offset misses the true offsets of the last while by
no more than the deadband and half the round trip of that answer, whatever came before: a step of
either clock is forgotten with the samples from before it. -/
theorem published_offset_is_near (pongs : List Pong) (last : Pong) (lo hi : Rat)
    (recent : ∀ pong ∈ pongs ++ [last], last.now - pong.now ≤ CLOCK_SAMPLE_MAX_AGE_MS →
      ∃ offset, lo ≤ offset ∧ offset ≤ hi ∧ pong.Allows offset) :
    (run (pongs ++ [last])).clockSamples.length ≤ CLOCK_SAMPLE_WINDOW_SIZE ∧
      ∃ published, (run (pongs ++ [last])).clockOffsetMs = some published ∧
        lo - (last.rttMs + CLOCK_SAMPLE_RTT_TOLERANCE_MS) / 2 - CLOCK_OFFSET_DEADBAND_MS ≤
          published ∧
        published ≤
          hi + (last.rttMs + CLOCK_SAMPLE_RTT_TOLERANCE_MS) / 2 + CLOCK_OFFSET_DEADBAND_MS := by
  rw [run_concat]
  refine ⟨length_window_le _ _, ?_⟩
  have near := window_near recent
  have kept := sample_mem_window (run pongs).clockSamples last
  obtain ⟨estimate, estimated, -, above, below⟩ := estimate_near near kept
  obtain ⟨published, publishes, least, most⟩ := publish_near (run pongs).clockOffsetMs estimate
  refine ⟨published, ?_, ?_, ?_⟩
  · simp only [updateClockSample, estimated, publishes]
  · have rtt : last.sample.rttMs = last.rttMs := rfl
    rw [rtt] at above
    linarith
  · have rtt : last.sample.rttMs = last.rttMs := rfl
    rw [rtt] at below
    linarith

/-- Answers of a server whose clock is a second ahead, the second one slow on its way there. -/
def pinged : List Pong := [⟨0, 1010, 1010, 40⟩, ⟨15000, 16090, 16090, 15100⟩]

def pingedLast : Pong := ⟨30000, 31030, 31030, 30050⟩

theorem pinged_allows : ∀ pong ∈ pinged ++ [pingedLast], pong.Allows 1000 := by decide +kernel

theorem pinged_is_near : ∃ published,
    (run (pinged ++ [pingedLast])).clockOffsetMs = some published ∧
      845 ≤ published ∧ published ≤ 1155 := by
  have recent : ∀ pong ∈ pinged ++ [pingedLast],
      pingedLast.now - pong.now ≤ CLOCK_SAMPLE_MAX_AGE_MS →
        ∃ offset, (1000 : Rat) ≤ offset ∧ offset ≤ 1000 ∧ pong.Allows offset := by
    intro pong mem _
    exact ⟨1000, le_refl _, le_refl _, pinged_allows pong mem⟩
  obtain ⟨-, published, publishes, above, below⟩ :=
    published_offset_is_near pinged pingedLast 1000 1000 recent
  have rtt : pingedLast.rttMs = 50 := by decide +kernel
  rw [rtt] at above below
  refine ⟨published, publishes, ?_, ?_⟩
  · norm_num [CLOCK_SAMPLE_RTT_TOLERANCE_MS, CLOCK_OFFSET_DEADBAND_MS] at above
    exact above
  · norm_num [CLOCK_SAMPLE_RTT_TOLERANCE_MS, CLOCK_OFFSET_DEADBAND_MS] at below
    exact below

/-! ## A steady link -/

/-- Every answer allows the one offset, and was quick. -/
def Steady (offset : Rat) (pongs : List Pong) : Prop :=
  ∀ pong ∈ pongs, pong.Allows offset ∧ pong.rttMs + 1 / 2 ≤ CLOCK_OFFSET_DEADBAND_MS

instance (offset : Rat) (pongs : List Pong) : Decidable (Steady offset pongs) := by
  unfold Steady
  infer_instance

/-- On a steady link every estimate is within half of the slowest round trip. -/
theorem estimate_steady {last : Pong} {offset : Rat} (steady : Steady offset (pongs ++ [last])) :
    ∃ estimate, estimateOffsetMs (window (run pongs).clockSamples last) = some estimate ∧
      estimate.usableCount = (window (run pongs).clockSamples last).length ∧
      offset - (CLOCK_OFFSET_DEADBAND_MS - 1 / 2) / 2 ≤ estimate.offsetMs ∧
      estimate.offsetMs ≤ offset + (CLOCK_OFFSET_DEADBAND_MS - 1 / 2) / 2 := by
  have near : ∀ sample ∈ window (run pongs).clockSamples last, sample.Near offset offset := by
    apply window_near
    intro pong mem _
    exact ⟨offset, le_refl _, le_refl _, (steady pong mem).1⟩
  have quick : ∀ sample ∈ window (run pongs).clockSamples last,
      sample.rttMs + 1 / 2 ≤ CLOCK_OFFSET_DEADBAND_MS := by
    intro sample mem
    rcases mem_window mem with rfl | ⟨before, -⟩
    · exact (steady last (by simp)).2
    · obtain ⟨pong, pong_mem, rfl⟩ := mem_samples_run before
      exact (steady pong (by simp [pong_mem])).2
  apply estimate_between (fun sample mem => (near sample mem).1) (sample_mem_window _ last)
  intro sample mem _
  obtain ⟨-, above, below⟩ := near sample mem
  have quick := quick sample mem
  constructor <;> linarith

/-- What is published on a steady link is the rounded estimate of some answer. -/
theorem published_steady {offset : Rat} (steady : Steady offset pongs) (some_pong : pongs ≠ []) :
    ∃ published, (run pongs).clockOffsetMs = some published ∧
      offset - (CLOCK_OFFSET_DEADBAND_MS + 1 / 2) / 2 ≤ published ∧
      published ≤ offset + (CLOCK_OFFSET_DEADBAND_MS + 1 / 2) / 2 := by
  induction pongs using List.reverseRecOn with
  | nil => contradiction
  | append_singleton pongs last ih =>
    obtain ⟨estimate, estimated, -, above, below⟩ := estimate_steady steady
    have rounded := round_near estimate.offsetMs
    have followed : ∃ published, some (round estimate.offsetMs) = some published ∧
        offset - (CLOCK_OFFSET_DEADBAND_MS + 1 / 2) / 2 ≤ published ∧
        published ≤ offset + (CLOCK_OFFSET_DEADBAND_MS + 1 / 2) / 2 :=
      ⟨_, rfl, by linarith, by linarith⟩
    rw [run_concat]
    simp only [updateClockSample, estimated]
    by_cases first : pongs = []
    · subst first
      exact followed
    · have before : Steady offset pongs := fun pong mem => steady pong (by simp [mem])
      obtain ⟨published, previous, least, most⟩ := ih before first
      simp only [previous, publish]
      split
      · exact followed
      · exact ⟨published, rfl, least, most⟩

/-- On a steady link the published offset stands still, whatever the single samples say: once the
window holds enough of them, no answer moves it. -/
theorem published_offset_stands_still (pongs : List Pong) (last : Pong) (offset : Rat)
    (steady : Steady offset (pongs ++ [last]))
    (trusted : CLOCK_SAMPLE_MIN_TRUSTED_SIZE ≤ (run (pongs ++ [last])).clockSamples.length) :
    (run (pongs ++ [last])).clockOffsetMs = (run pongs).clockOffsetMs := by
  rw [run_concat] at *
  have some_pong : pongs ≠ [] := by
    rintro rfl
    have single : CLOCK_SAMPLE_MIN_TRUSTED_SIZE ≤ 1 := trusted
    contradiction
  have before : Steady offset pongs := fun pong mem => steady pong (by simp [mem])
  obtain ⟨published, previous, least, most⟩ := published_steady before some_pong
  obtain ⟨estimate, estimated, count, above, below⟩ := estimate_steady steady
  have enough : ¬estimate.usableCount < CLOCK_SAMPLE_MIN_TRUSTED_SIZE := by
    rw [count]
    exact Nat.not_lt_of_le trusted
  have close : |estimate.offsetMs - published| ≤ CLOCK_OFFSET_DEADBAND_MS := by
    rw [abs_le]
    constructor <;> linarith
  have held : follows published estimate = false := by
    simp [follows, enough, close]
  simp [updateClockSample, estimated, previous, publish, held]

theorem pinged_stands_still :
    (run (pinged ++ [pingedLast])).clockOffsetMs = (run pinged).clockOffsetMs := by
  have steady : Steady 1000 (pinged ++ [pingedLast]) := by decide +kernel
  apply published_offset_stands_still pinged pingedLast 1000 steady
  decide +kernel

end BiliSyncPlay.ClockSync
