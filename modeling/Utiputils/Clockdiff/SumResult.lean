import Utiputils.Lib.RunningMinimum

/-! # The clockdiff accumulator

`SumResult::calculate_delta` of `clockdiff.rs`, and what the accumulator holds after any sequence of
samples. The `i64` fields are integers: the four times of a sample come from `u32` clock readings, and
`feed_inRange` shows that no step then leaves the range of the type. -/

namespace Utiputils.Clockdiff

open Utiputils.Lib

structure ClockDiffResult where
  localSendTime : Int := 0
  remoteRecvTime : Int := 0
  remoteSendTime : Int := 0
  localRecvTime : Int := 0
  deriving DecidableEq, Repr

def HOSTDOWN : Int := 9223372036854775807

def BIASP : Int := 43199999
def BIASN : Int := -43200000
def MODULO : Int := 86400000

structure SumResult where
  host : String := ""
  measureDelta : Int := 0
  measureDelta1 : Int := 0
  rtt : Int := 0
  rttMin : Int := 0
  rttSigma : Int := 0
  min1 : Int := 0
  min2 : Int := 0
  timeFormat : Option String := none
  deriving DecidableEq, Repr

namespace SumResult

def new (host : String) (timeFormat : Option String) : SumResult :=
  { host, timeFormat, rttMin := 9223372036854775807, measureDelta := HOSTDOWN,
    measureDelta1 := HOSTDOWN }

/-! ## The assignments of `calculate_delta`

The source writes them inline; each gets a name here, and its effect on the fields as simp lemmas. -/

def smoothRtt (self : SumResult) (diff : Int) : SumResult :=
  let rtt := (self.rtt * 3 + diff).tdiv 4
  { self with rtt := rtt, rttSigma := (self.rttSigma + |diff - rtt|).tdiv 4 }

def lowerMin1 (self : SumResult) (delta1 : Int) : SumResult :=
  if delta1 < self.min1 then { self with min1 := delta1 } else self

def lowerMin2 (self : SumResult) (delta2 : Int) : SumResult :=
  if delta2 < self.min2 then { self with min2 := delta2 } else self

def lowerRttMin (self : SumResult) (delta1 delta2 : Int) : SumResult :=
  if delta1 + delta2 < self.rttMin then
    { self with rttMin := delta1 + delta2, measureDelta1 := (delta1 - delta2).tdiv 2 }
  else self

@[simp] theorem smoothRtt_min1 (self : SumResult) (diff : Int) : (self.smoothRtt diff).min1 = self.min1 := rfl
@[simp] theorem smoothRtt_min2 (self : SumResult) (diff : Int) : (self.smoothRtt diff).min2 = self.min2 := rfl
@[simp] theorem smoothRtt_rttMin (self : SumResult) (diff : Int) :
    (self.smoothRtt diff).rttMin = self.rttMin := rfl
@[simp] theorem smoothRtt_measureDelta (self : SumResult) (diff : Int) :
    (self.smoothRtt diff).measureDelta = self.measureDelta := rfl
@[simp] theorem smoothRtt_measureDelta1 (self : SumResult) (diff : Int) :
    (self.smoothRtt diff).measureDelta1 = self.measureDelta1 := rfl

theorem lowerMin1_eq (self : SumResult) (delta1 : Int) :
    self.lowerMin1 delta1 = { self with min1 := min self.min1 delta1 } := by
  unfold lowerMin1
  split
  next smaller => rw [min_eq_right smaller.le]
  next larger => rw [min_eq_left (not_lt.mp larger)]

theorem lowerMin2_eq (self : SumResult) (delta2 : Int) :
    self.lowerMin2 delta2 = { self with min2 := min self.min2 delta2 } := by
  unfold lowerMin2
  split
  next smaller => rw [min_eq_right smaller.le]
  next larger => rw [min_eq_left (not_lt.mp larger)]

@[simp] theorem lowerRttMin_min1 (self : SumResult) (delta1 delta2 : Int) :
    (self.lowerRttMin delta1 delta2).min1 = self.min1 := by unfold lowerRttMin; split <;> rfl
@[simp] theorem lowerRttMin_min2 (self : SumResult) (delta1 delta2 : Int) :
    (self.lowerRttMin delta1 delta2).min2 = self.min2 := by unfold lowerRttMin; split <;> rfl
@[simp] theorem lowerRttMin_measureDelta (self : SumResult) (delta1 delta2 : Int) :
    (self.lowerRttMin delta1 delta2).measureDelta = self.measureDelta := by
  unfold lowerRttMin; split <;> rfl

theorem lowerRttMin_pair (self : SumResult) (delta1 delta2 : Int) :
    ((self.lowerRttMin delta1 delta2).rttMin, (self.lowerRttMin delta1 delta2).measureDelta1) =
      if delta1 + delta2 < self.rttMin then (delta1 + delta2, (delta1 - delta2).tdiv 2)
      else (self.rttMin, self.measureDelta1) := by
  unfold lowerRttMin; split <;> rfl

end SumResult

/-- The wrap that `calculate_delta` writes out once for each of the two legs. -/
def wrapDelta (delta : Int) : Int :=
  if delta < BIASN then delta + MODULO
  else if delta > BIASP then delta - MODULO
  else delta

def SumResult.calculateDelta (self : SumResult) (ipTimestamp : Bool) (res : ClockDiffResult) :
    SumResult × UInt8 :=
  let t1 := res.localSendTime
  let t2 := res.remoteRecvTime
  let t3 := res.remoteSendTime
  let t4 := res.localRecvTime
  let diff := t4 - t1
  if diff < 0 then (self, 5)
  else
    let delta1 := wrapDelta (t2 - t1)
    let delta2 := wrapDelta (if ipTimestamp then t4 - t3 else t4 - t2)
    let self := (((self.smoothRtt diff).lowerMin1 delta1).lowerMin2 delta2).lowerRttMin delta1 delta2
    if diff < 1 then ({ self with min1 := delta1, min2 := delta2 }, 4)
    else (self, 5)

/-- The state after a sequence of samples. -/
def SumResult.feed (self : SumResult) (ipTimestamp : Bool) (samples : List ClockDiffResult) : SumResult :=
  samples.foldl (fun sum sample => (sum.calculateDelta ipTimestamp sample).1) self

/-! ## What one sample does -/

namespace ClockDiffResult

def accepted (sample : ClockDiffResult) : Bool := decide (sample.localSendTime ≤ sample.localRecvTime)

def zeroRoundTrip (sample : ClockDiffResult) : Bool :=
  decide (sample.localRecvTime = sample.localSendTime)

/-- The normalised forward delay: the time on the way out plus the remote clock's offset. -/
def forwardDelay (sample : ClockDiffResult) : Int :=
  wrapDelta (sample.remoteRecvTime - sample.localSendTime)

/-- The normalised backward delay: the time on the way back minus the remote clock's offset. -/
def backwardDelay (ipTimestamp : Bool) (sample : ClockDiffResult) : Int :=
  wrapDelta (if ipTimestamp then sample.localRecvTime - sample.remoteSendTime
    else sample.localRecvTime - sample.remoteRecvTime)

def roundTrip (ipTimestamp : Bool) (sample : ClockDiffResult) : Int :=
  sample.forwardDelay + sample.backwardDelay ipTimestamp

def halfDifference (ipTimestamp : Bool) (sample : ClockDiffResult) : Int :=
  (sample.forwardDelay - sample.backwardDelay ipTimestamp).tdiv 2

end ClockDiffResult

theorem calculateDelta_of_rejected (self : SumResult) (ipTimestamp : Bool) (sample : ClockDiffResult)
    (rejected : sample.accepted = false) : self.calculateDelta ipTimestamp sample = (self, 5) := by
  have negative : sample.localRecvTime - sample.localSendTime < 0 := by
    simp only [ClockDiffResult.accepted, decide_eq_false_iff_not] at rejected
    omega
  simp [SumResult.calculateDelta, negative]

/-- An accepted sample, said once: the three accumulators step on, `measure_delta` stays. -/
theorem calculateDelta_of_accepted (self : SumResult) (ipTimestamp : Bool) (sample : ClockDiffResult)
    (accepted : sample.accepted = true) :
    let after := (self.calculateDelta ipTimestamp sample).1
    after.min1 = resettingMin (·.zeroRoundTrip) (·.forwardDelay) self.min1 sample ∧
    after.min2 = resettingMin (·.zeroRoundTrip) (·.backwardDelay ipTimestamp) self.min2 sample ∧
    (after.rttMin, after.measureDelta1) =
      keepLeast (·.roundTrip ipTimestamp) (·.halfDifference ipTimestamp)
        (self.rttMin, self.measureDelta1) sample ∧
    after.measureDelta = self.measureDelta := by
  have nonnegative : ¬ sample.localRecvTime - sample.localSendTime < 0 := by
    simp only [ClockDiffResult.accepted, decide_eq_true_eq] at accepted
    omega
  have zeroIff : sample.zeroRoundTrip = true ↔ sample.localRecvTime - sample.localSendTime < 1 := by
    simp only [ClockDiffResult.zeroRoundTrip, decide_eq_true_eq]
    omega
  simp only [SumResult.calculateDelta, nonnegative, if_false, resettingMin, zeroIff]
  refine ⟨?_, ?_, ?_, ?_⟩
  · split <;> simp [SumResult.lowerMin1_eq, SumResult.lowerMin2_eq, ClockDiffResult.forwardDelay]
  · split <;> simp [SumResult.lowerMin1_eq, SumResult.lowerMin2_eq, ClockDiffResult.backwardDelay]
  · split <;> (simp only [SumResult.lowerRttMin_pair, SumResult.lowerMin1_eq, SumResult.lowerMin2_eq]; rfl)
  · split <;> simp [SumResult.lowerMin1_eq, SumResult.lowerMin2_eq]

/-! ## What a whole sequence does -/

theorem feed_append (self : SumResult) (ipTimestamp : Bool) (first second : List ClockDiffResult) :
    self.feed ipTimestamp (first ++ second) = (self.feed ipTimestamp first).feed ipTimestamp second := by
  simp [SumResult.feed]

/-- Rejected samples leave no trace, so a sequence does what its accepted samples do. -/
theorem feed_filter_accepted (self : SumResult) (ipTimestamp : Bool) (samples : List ClockDiffResult) :
    self.feed ipTimestamp (samples.filter (·.accepted)) = self.feed ipTimestamp samples := by
  induction samples generalizing self with
  | nil => rfl
  | cons sample samples inductionHypothesis =>
    simp only [SumResult.feed] at inductionHypothesis
    cases accepted : sample.accepted with
    | true => simp [SumResult.feed, accepted, inductionHypothesis]
    | false =>
      simp [SumResult.feed, accepted, inductionHypothesis,
        calculateDelta_of_rejected self ipTimestamp sample accepted]

/-- The run lemma: after a sequence of accepted samples each accumulator is the fold of its step. -/
theorem feed_of_accepted (self : SumResult) (ipTimestamp : Bool) (samples : List ClockDiffResult)
    (accepted : ∀ sample ∈ samples, sample.accepted = true) :
    let after := self.feed ipTimestamp samples
    after.min1 = samples.foldl (resettingMin (·.zeroRoundTrip) (·.forwardDelay)) self.min1 ∧
    after.min2 =
      samples.foldl (resettingMin (·.zeroRoundTrip) (·.backwardDelay ipTimestamp)) self.min2 ∧
    (after.rttMin, after.measureDelta1) =
      samples.foldl (keepLeast (·.roundTrip ipTimestamp) (·.halfDifference ipTimestamp))
        (self.rttMin, self.measureDelta1) ∧
    after.measureDelta = self.measureDelta := by
  induction samples generalizing self with
  | nil => exact ⟨rfl, rfl, rfl, rfl⟩
  | cons sample samples inductionHypothesis =>
    obtain ⟨min1, min2, rttMin, measureDelta⟩ :=
      calculateDelta_of_accepted self ipTimestamp sample (accepted sample (by simp))
    have rest := inductionHypothesis (self.calculateDelta ipTimestamp sample).1
      (fun sample member => accepted sample (by simp [member]))
    simpa only [SumResult.feed, List.foldl_cons, min1, min2, rttMin, measureDelta] using rest

/-! ## The range of the accumulator -/

/-- A sample whose times are `u32` readings. -/
def ClockDiffResult.FromU32 (sample : ClockDiffResult) : Prop :=
  (0 ≤ sample.localSendTime ∧ sample.localSendTime < 2 ^ 32) ∧
  (0 ≤ sample.remoteRecvTime ∧ sample.remoteRecvTime < 2 ^ 32) ∧
  (0 ≤ sample.remoteSendTime ∧ sample.remoteSendTime < 2 ^ 32) ∧
  (0 ≤ sample.localRecvTime ∧ sample.localRecvTime < 2 ^ 32)

/-- The sample that stands for an option that could not be parsed. -/
theorem default_fromU32 : ClockDiffResult.FromU32 {} := by simp [ClockDiffResult.FromU32]

/-- Bounds on the accumulated values that leave room for every intermediate of the next step. -/
structure SumResult.InRange (self : SumResult) : Prop where
  rtt : 0 ≤ self.rtt ∧ self.rtt < 2 ^ 32
  rttSigma : 0 ≤ self.rttSigma ∧ self.rttSigma < 2 ^ 32
  min1 : -2 ^ 33 ≤ self.min1 ∧ self.min1 ≤ 2 ^ 33
  min2 : -2 ^ 33 ≤ self.min2 ∧ self.min2 ≤ 2 ^ 33
  rttMin : -2 ^ 34 ≤ self.rttMin ∧ self.rttMin < 2 ^ 63

theorem new_inRange (host : String) (timeFormat : Option String) : (SumResult.new host timeFormat).InRange := by
  constructor <;> simp [SumResult.new]

theorem wrapDelta_inRange (delta : Int) (bounded : -2 ^ 32 < delta ∧ delta < 2 ^ 32) :
    -2 ^ 33 ≤ wrapDelta delta ∧ wrapDelta delta ≤ 2 ^ 33 := by
  simp only [wrapDelta, BIASN, BIASP, MODULO]
  split_ifs <;> omega

theorem smoothRtt_inRange (self : SumResult) (diff : Int) (inRange : self.InRange)
    (bounded : 0 ≤ diff ∧ diff < 2 ^ 32) : (self.smoothRtt diff).InRange := by
  obtain ⟨⟨rttLow, rttHigh⟩, ⟨sigmaLow, sigmaHigh⟩, min1, min2, rttMin⟩ := inRange
  have nonnegative : 0 ≤ self.rtt * 3 + diff := by omega
  have quotient : (self.rtt * 3 + diff).tdiv 4 = (self.rtt * 3 + diff) / 4 :=
    Int.tdiv_eq_ediv_of_nonneg nonnegative
  have gap : 0 ≤ |diff - (self.rtt * 3 + diff) / 4| ∧ |diff - (self.rtt * 3 + diff) / 4| < 2 ^ 32 := by
    refine ⟨abs_nonneg _, abs_lt.mpr ?_⟩
    omega
  have sigma : (self.rttSigma + |diff - (self.rtt * 3 + diff) / 4|).tdiv 4 =
      (self.rttSigma + |diff - (self.rtt * 3 + diff) / 4|) / 4 :=
    Int.tdiv_eq_ediv_of_nonneg (by omega)
  refine ⟨?_, ?_, min1, min2, rttMin⟩
  · simp only [SumResult.smoothRtt, quotient]; omega
  · simp only [SumResult.smoothRtt, quotient, sigma]; omega

theorem calculateDelta_inRange (self : SumResult) (ipTimestamp : Bool) (sample : ClockDiffResult)
    (inRange : self.InRange) (readings : sample.FromU32) :
    (self.calculateDelta ipTimestamp sample).1.InRange := by
  obtain ⟨⟨_, _⟩, ⟨_, _⟩, ⟨_, _⟩, ⟨_, _⟩⟩ := readings
  simp only [SumResult.calculateDelta]
  split
  · exact inRange
  · have smoothed := smoothRtt_inRange self (sample.localRecvTime - sample.localSendTime) inRange (by omega)
    have forward := wrapDelta_inRange (sample.remoteRecvTime - sample.localSendTime) (by omega)
    have backward := wrapDelta_inRange (if ipTimestamp then sample.localRecvTime - sample.remoteSendTime
      else sample.localRecvTime - sample.remoteRecvTime) (by split <;> omega)
    generalize wrapDelta (sample.remoteRecvTime - sample.localSendTime) = delta1 at *
    generalize wrapDelta (if ipTimestamp then sample.localRecvTime - sample.remoteSendTime
      else sample.localRecvTime - sample.remoteRecvTime) = delta2 at *
    obtain ⟨rtt, rttSigma, min1, min2, rttMin⟩ := smoothed
    rw [SumResult.lowerMin1_eq, SumResult.lowerMin2_eq]
    simp only [SumResult.lowerRttMin]
    split_ifs <;> constructor <;> simp only [] <;> first | assumption | omega

theorem feed_inRange {self : SumResult} (ipTimestamp : Bool) (inRange : self.InRange)
    {samples : List ClockDiffResult} (readings : ∀ sample ∈ samples, sample.FromU32) :
    (self.feed ipTimestamp samples).InRange := by
  induction samples generalizing self with
  | nil => exact inRange
  | cons sample samples inductionHypothesis =>
    have step := calculateDelta_inRange self ipTimestamp sample inRange (readings sample List.mem_cons_self)
    exact inductionHypothesis step fun later member => readings later (List.mem_cons_of_mem _ member)

end Utiputils.Clockdiff
