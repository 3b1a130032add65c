import Utiputils.Lib.Checked
import Utiputils.Clockdiff.Run

/-! # The clockdiff accumulator in machine integers

`SumResult` with its `i64` fields, and `calculate_delta` over them, where every operation may overflow. No run
overflows, and the integers say what it reports. -/

namespace Utiputils.Clockdiff

open Utiputils.Lib Utiputils.Pnet Checked

namespace Machine

structure ClockDiffResult where
  localSendTime : Int64
  remoteRecvTime : Int64
  remoteSendTime : Int64
  localRecvTime : Int64
  deriving DecidableEq, Repr

def HOSTDOWN : Int64 := Int64.maxValue
def BIASP : Int64 := 43199999
def BIASN : Int64 := -43200000
def MODULO : Int64 := 86400000

structure SumResult where
  host : String
  measureDelta : Int64
  measureDelta1 : Int64
  rtt : Int64
  rttMin : Int64
  rttSigma : Int64
  min1 : Int64
  min2 : Int64
  timeFormat : Option String
  deriving DecidableEq, Repr

def SumResult.new (host : String) (timeFormat : Option String) : SumResult where
  host := host
  measureDelta := HOSTDOWN
  measureDelta1 := HOSTDOWN
  rtt := 0
  rttMin := Int64.maxValue
  rttSigma := 0
  min1 := 0
  min2 := 0
  timeFormat := timeFormat

def wrapDelta (delta : Int64) : Option Int64 :=
  if delta < BIASN then add delta MODULO
  else if delta > BIASP then sub delta MODULO
  else some delta

def SumResult.smoothRtt (self : SumResult) (diff : Int64) : Option SumResult := do
  let rtt ← div (← add (← mul self.rtt 3) diff) 4
  let rttSigma ← div (← add self.rttSigma (← abs (← sub diff rtt))) 4
  some { self with rtt, rttSigma }

def SumResult.lowerMin1 (self : SumResult) (delta1 : Int64) : SumResult :=
  if delta1 < self.min1 then { self with min1 := delta1 } else self

def SumResult.lowerMin2 (self : SumResult) (delta2 : Int64) : SumResult :=
  if delta2 < self.min2 then { self with min2 := delta2 } else self

def SumResult.lowerRttMin (self : SumResult) (delta1 delta2 : Int64) : Option SumResult := do
  if (← add delta1 delta2) < self.rttMin then
    let rttMin ← add delta1 delta2
    let measureDelta1 ← div (← sub delta1 delta2) 2
    some { self with rttMin, measureDelta1 }
  else some self

/-- The difference that `delta2` starts from. -/
def ClockDiffResult.onTheWayBack (res : ClockDiffResult) (ipTimestamp : Bool) : Option Int64 :=
  if ipTimestamp then sub res.localRecvTime res.remoteSendTime else sub res.localRecvTime res.remoteRecvTime

/-- `calculate_delta`; there is no result where an operation overflows. -/
def SumResult.calculateDelta (self : SumResult) (ipTimestamp : Bool) (res : ClockDiffResult) :
    Option (SumResult × UInt8) := do
  let t1 := res.localSendTime
  let t2 := res.remoteRecvTime
  let t4 := res.localRecvTime
  let diff ← sub t4 t1
  if diff < 0 then some (self, 5)
  else
    let self ← self.smoothRtt diff
    let delta1 ← wrapDelta (← sub t2 t1)
    let delta2 ← wrapDelta (← res.onTheWayBack ipTimestamp)
    let self ← ((self.lowerMin1 delta1).lowerMin2 delta2).lowerRttMin delta1 delta2
    if diff < 1 then some ({ self with min1 := delta1, min2 := delta2 }, 4)
    else some (self, 5)

def SumResult.feed (self : SumResult) (ipTimestamp : Bool) (samples : List ClockDiffResult) : Option SumResult :=
  samples.foldlM (fun sum sample => (sum.calculateDelta ipTimestamp sample).map Prod.fst) self

/-- `sum_result.measure_delta = (sum_result.min1 - sum_result.min2) / 2`, behind the loop. -/
def SumResult.conclude (self : SumResult) : Option SumResult := do
  let measureDelta ← div (← sub self.min1 self.min2) 2
  some { self with measureDelta }

/-! ## The integers that the fields stand for -/

def ClockDiffResult.exact (res : ClockDiffResult) : Clockdiff.ClockDiffResult where
  localSendTime := res.localSendTime.toInt
  remoteRecvTime := res.remoteRecvTime.toInt
  remoteSendTime := res.remoteSendTime.toInt
  localRecvTime := res.localRecvTime.toInt

def SumResult.exact (self : SumResult) : Clockdiff.SumResult where
  host := self.host
  measureDelta := self.measureDelta.toInt
  measureDelta1 := self.measureDelta1.toInt
  rtt := self.rtt.toInt
  rttMin := self.rttMin.toInt
  rttSigma := self.rttSigma.toInt
  min1 := self.min1.toInt
  min2 := self.min2.toInt
  timeFormat := self.timeFormat

/-! ## What an operation computes -/

theorem wrapDelta_computes {delta : Int64} {value : Int} (isDelta : delta.toInt = value)
    (bounded : -2 ^ 32 < value ∧ value < 2 ^ 32) : Computes (wrapDelta delta) (Clockdiff.wrapDelta value) := by
  have low : delta < BIASN ↔ value < Clockdiff.BIASN := isDelta ▸ Int64.lt_iff_toInt_lt
  have high : delta > BIASP ↔ value > Clockdiff.BIASP := isDelta ▸ Int64.lt_iff_toInt_lt
  have modulo : MODULO.toInt = Clockdiff.MODULO := rfl
  have small : Clockdiff.MODULO = 86400000 := rfl
  simp only [wrapDelta, low, high, Clockdiff.wrapDelta]
  by_cases below : value < Clockdiff.BIASN
  · rw [if_pos below, if_pos below]
    exact computes_add isDelta modulo (by omega) (by omega)
  · rw [if_neg below, if_neg below]
    by_cases above : value > Clockdiff.BIASP
    · rw [if_pos above, if_pos above]
      exact computes_sub isDelta modulo (by omega) (by omega)
    · rw [if_neg above, if_neg above]
      exact yields_some isDelta

/-- An operation on the accumulator succeeds, and does what it does over the integers. -/
abbrev Agrees (result : Option SumResult) (exact : Clockdiff.SumResult) : Prop :=
  Yields result fun sum => sum.exact = exact

theorem smoothRtt_agrees {self : SumResult} {diff : Int64} {value : Int} (isDiff : diff.toInt = value)
    (inRange : self.exact.InRange) (bounded : 0 ≤ value ∧ value < 2 ^ 32) :
    Agrees (self.smoothRtt diff) (self.exact.smoothRtt value) := by
  obtain ⟨⟨rttLow, rttHigh⟩, ⟨sigmaLow, sigmaHigh⟩, -⟩ := inRange
  have isRtt : self.rtt.toInt = self.exact.rtt := rfl
  have isSigma : self.rttSigma.toInt = self.exact.rttSigma := rfl
  have three : (3 : Int64).toInt = 3 := rfl
  have four : (4 : Int64).toInt = 4 := rfl
  have nonneg : 0 ≤ self.exact.rtt * 3 + value := by omega
  have smoothed : 0 ≤ (self.exact.rtt * 3 + value).tdiv 4 ∧ (self.exact.rtt * 3 + value).tdiv 4 < 2 ^ 32 := by
    rw [Int.tdiv_eq_ediv_of_nonneg nonneg]
    omega
  refine yields_bind (computes_mul isRtt three (by omega) (by omega)) fun triple isTriple => ?_
  refine yields_bind (computes_add isTriple isDiff (by omega) (by omega)) fun sum isSum => ?_
  refine yields_bind (computes_div isSum four (by decide) (by omega) (by omega)) fun rtt isRtt => ?_
  have gapBound : |value - (self.exact.rtt * 3 + value).tdiv 4| < 2 ^ 32 := abs_lt.mpr ⟨by omega, by omega⟩
  have gapNonneg := abs_nonneg (value - (self.exact.rtt * 3 + value).tdiv 4)
  refine yields_bind (computes_sub isDiff isRtt (by omega) (by omega)) fun difference isDifference => ?_
  refine yields_bind (computes_abs isDifference (by omega) (by omega)) fun gap isGap => ?_
  refine yields_bind (computes_add isSigma isGap (by omega) (by omega)) fun sum isSum => ?_
  refine yields_bind (computes_div isSum four (by decide) (by omega) (by omega)) fun sigma isSigma => ?_
  refine yields_some ?_
  simp only [SumResult.exact, Clockdiff.SumResult.smoothRtt, isRtt, isSigma]

theorem lowerMin1_exact {self : SumResult} {delta1 : Int64} {value : Int} (isDelta : delta1.toInt = value) :
    (self.lowerMin1 delta1).exact = self.exact.lowerMin1 value := by
  subst isDelta
  have lower : delta1 < self.min1 ↔ delta1.toInt < self.exact.min1 := Int64.lt_iff_toInt_lt
  simp only [SumResult.lowerMin1, Clockdiff.SumResult.lowerMin1, lower]
  split <;> rfl

theorem lowerMin2_exact {self : SumResult} {delta2 : Int64} {value : Int} (isDelta : delta2.toInt = value) :
    (self.lowerMin2 delta2).exact = self.exact.lowerMin2 value := by
  subst isDelta
  have lower : delta2 < self.min2 ↔ delta2.toInt < self.exact.min2 := Int64.lt_iff_toInt_lt
  simp only [SumResult.lowerMin2, Clockdiff.SumResult.lowerMin2, lower]
  split <;> rfl

theorem lowerRttMin_agrees {self : SumResult} {delta1 delta2 : Int64} {value1 value2 : Int}
    (isDelta1 : delta1.toInt = value1) (isDelta2 : delta2.toInt = value2)
    (bounded1 : -2 ^ 33 ≤ value1 ∧ value1 ≤ 2 ^ 33)
    (bounded2 : -2 ^ 33 ≤ value2 ∧ value2 ≤ 2 ^ 33) :
    Agrees (self.lowerRttMin delta1 delta2) (self.exact.lowerRttMin value1 value2) := by
  have two : (2 : Int64).toInt = 2 := rfl
  refine yields_bind (computes_add isDelta1 isDelta2 (by omega) (by omega)) fun sum isSum => ?_
  have lower : sum < self.rttMin ↔ value1 + value2 < self.exact.rttMin := isSum ▸ Int64.lt_iff_toInt_lt
  simp only [lower, Clockdiff.SumResult.lowerRttMin]
  by_cases least : value1 + value2 < self.exact.rttMin
  · rw [if_pos least, if_pos least]
    refine yields_bind (computes_add isDelta1 isDelta2 (by omega) (by omega)) fun rttMin isRttMin => ?_
    refine yields_bind (computes_sub isDelta1 isDelta2 (by omega) (by omega)) fun difference isDifference => ?_
    refine yields_bind (computes_div isDifference two (by decide) (by omega) (by omega)) fun half isHalf => ?_
    refine yields_some ?_
    simp only [SumResult.exact, isRttMin, isHalf]
  · rw [if_neg least, if_neg least]
    exact yields_some rfl

/-- The difference that the second delay starts from. -/
def onTheWayBack (res : Clockdiff.ClockDiffResult) (ipTimestamp : Bool) : Int :=
  if ipTimestamp then res.localRecvTime - res.remoteSendTime else res.localRecvTime - res.remoteRecvTime

theorem onTheWayBack_bounded {res : Clockdiff.ClockDiffResult} (ipTimestamp : Bool) (readings : res.FromU32) :
    -2 ^ 32 < onTheWayBack res ipTimestamp ∧ onTheWayBack res ipTimestamp < 2 ^ 32 := by
  obtain ⟨-, bound2, bound3, bound4⟩ := readings
  rw [onTheWayBack]
  split
  · omega
  · omega

theorem onTheWayBack_computes {res : ClockDiffResult} (ipTimestamp : Bool) (readings : res.exact.FromU32) :
    Computes (res.onTheWayBack ipTimestamp) (onTheWayBack res.exact ipTimestamp) := by
  have bounded := onTheWayBack_bounded ipTimestamp readings
  have low : (-2 : Int) ^ 63 ≤ -2 ^ 32 := by decide
  have high : (2 : Int) ^ 32 < 2 ^ 63 := by decide
  cases ipTimestamp with
  | true => exact computes_sub rfl rfl (low.trans bounded.1.le) (bounded.2.trans high)
  | false => exact computes_sub rfl rfl (low.trans bounded.1.le) (bounded.2.trans high)

theorem calculateDelta_agrees {self : SumResult} {res : ClockDiffResult} (ipTimestamp : Bool)
    (inRange : self.exact.InRange) (readings : res.exact.FromU32) :
    Yields (self.calculateDelta ipTimestamp res) fun result =>
      (result.1.exact, result.2) = self.exact.calculateDelta ipTimestamp res.exact := by
  have t1 : res.localSendTime.toInt = res.exact.localSendTime := rfl
  have t2 : res.remoteRecvTime.toInt = res.exact.remoteRecvTime := rfl
  have t4 : res.localRecvTime.toInt = res.exact.localRecvTime := rfl
  obtain ⟨bound1, bound2, bound3, bound4⟩ := id readings
  refine yields_bind (computes_sub t4 t1 (by omega) (by omega)) fun diff isDiff => ?_
  have rejected : diff < 0 ↔ res.exact.localRecvTime - res.exact.localSendTime < 0 := isDiff ▸ Int64.lt_iff_toInt_lt
  have atOnce : diff < 1 ↔ res.exact.localRecvTime - res.exact.localSendTime < 1 := isDiff ▸ Int64.lt_iff_toInt_lt
  simp only [rejected, atOnce, Clockdiff.SumResult.calculateDelta]
  by_cases negative : res.exact.localRecvTime - res.exact.localSendTime < 0
  · rw [if_pos negative, if_pos negative]
    exact yields_some rfl
  · rw [if_neg negative, if_neg negative]
    have forwardBound := wrapDelta_inRange (res.exact.remoteRecvTime - res.exact.localSendTime) ⟨by omega, by omega⟩
    have backwardBound := wrapDelta_inRange _ (onTheWayBack_bounded ipTimestamp readings)
    refine yields_bind (smoothRtt_agrees isDiff inRange ⟨by omega, by omega⟩) fun smoothed isSmoothed => ?_
    refine yields_bind (computes_sub t2 t1 (by omega) (by omega)) fun forward isForward => ?_
    refine yields_bind (wrapDelta_computes isForward ⟨by omega, by omega⟩) fun delta1 isDelta1 => ?_
    refine yields_bind (onTheWayBack_computes ipTimestamp readings) fun backward isBackward => ?_
    refine yields_bind (wrapDelta_computes isBackward (onTheWayBack_bounded ipTimestamp readings))
      fun delta2 isDelta2 => ?_
    refine yields_bind (lowerRttMin_agrees isDelta1 isDelta2 forwardBound backwardBound) fun lowered isLowered => ?_
    rw [lowerMin2_exact isDelta2, lowerMin1_exact isDelta1, isSmoothed, onTheWayBack] at isLowered
    split
    · refine yields_some ?_
      rw [← isLowered]
      simp only [SumResult.exact, isDelta1, isDelta2, onTheWayBack]
    · refine yields_some ?_
      rw [← isLowered]

/-! ## What a run computes -/

theorem exact_new (host : String) (timeFormat : Option String) :
    (SumResult.new host timeFormat).exact = Clockdiff.SumResult.new host timeFormat := by
  have most : Int64.maxValue.toInt = 9223372036854775807 := by decide
  have zero : (0 : Int64).toInt = 0 := rfl
  simp only [SumResult.exact, SumResult.new, Clockdiff.SumResult.new, HOSTDOWN, Clockdiff.HOSTDOWN, most, zero]

/-- The run lemma: the range of the integers is what lets the next step succeed. -/
theorem feed_agrees {self : SumResult} {ipTimestamp : Bool} {samples : List ClockDiffResult}
    (inRange : self.exact.InRange) (readings : ∀ sample ∈ samples, sample.exact.FromU32) :
    Agrees (self.feed ipTimestamp samples) (self.exact.feed ipTimestamp (samples.map ClockDiffResult.exact)) := by
  have fed := @yields_foldlM SumResult ClockDiffResult Clockdiff.SumResult
    (fun sum sample => (sum.calculateDelta ipTimestamp sample).map Prod.fst)
    (fun sum sample => (sum.calculateDelta ipTimestamp sample.exact).1)
    (fun exact sum => sum.exact = exact ∧ exact.InRange) samples ?step self.exact self ⟨rfl, inRange⟩
  · obtain ⟨sum, ran, isExact, -⟩ := fed
    refine ⟨sum, ran, ?_⟩
    show sum.exact = _
    rw [isExact, Clockdiff.SumResult.feed, List.foldl_map]
  case step =>
    intro exact sum sample member represents
    obtain ⟨rfl, inRange⟩ := represents
    refine yields_map (calculateDelta_agrees ipTimestamp inRange (readings sample member)) fun result agrees => ?_
    have stepped := calculateDelta_inRange sum.exact ipTimestamp sample.exact inRange (readings sample member)
    rw [← agrees] at stepped ⊢
    exact ⟨rfl, stepped⟩

theorem conclude_agrees {self : SumResult} (inRange : self.exact.InRange) :
    Agrees self.conclude { self.exact with measureDelta := (self.exact.min1 - self.exact.min2).tdiv 2 } := by
  have isMin1 : self.min1.toInt = self.exact.min1 := rfl
  have isMin2 : self.min2.toInt = self.exact.min2 := rfl
  have two : (2 : Int64).toInt = 2 := rfl
  obtain ⟨-, -, min1, min2, -⟩ := inRange
  refine yields_bind (computes_sub isMin1 isMin2 (by omega) (by omega)) fun difference isDifference => ?_
  refine yields_bind (computes_div isDifference two (by decide) (by omega) (by omega)) fun half isHalf => ?_
  refine yields_some ?_
  simp only [SumResult.exact, isHalf]

/-- The sample with these times. -/
def ClockDiffResult.ofExact (res : Clockdiff.ClockDiffResult) : ClockDiffResult where
  localSendTime := Int64.ofInt res.localSendTime
  remoteRecvTime := Int64.ofInt res.remoteRecvTime
  remoteSendTime := Int64.ofInt res.remoteSendTime
  localRecvTime := Int64.ofInt res.localRecvTime

theorem exact_ofExact {res : Clockdiff.ClockDiffResult} (readings : res.FromU32) :
    (ClockDiffResult.ofExact res).exact = res := by
  have fits : ∀ value : Int, 0 ≤ value ∧ value < 2 ^ 32 → (Int64.ofInt value).toInt = value :=
    fun value bounded => Int64.toInt_ofInt_of_le (by omega) (by omega)
  obtain ⟨bound1, bound2, bound3, bound4⟩ := readings
  simp only [ClockDiffResult.exact, ClockDiffResult.ofExact, fits _ bound1, fits _ bound2, fits _ bound3, fits _ bound4]

/-- The accumulator of a run over these samples. -/
def SumResult.ofRun (ip : String) (options : ClockdiffConfig) (samples : List ClockDiffResult) : Option SumResult := do
  let fed ← (SumResult.new ip options.getTimeFormat).feed options.ipTimestamp samples
  fed.conclude

end Machine

/-- In every run that ends with a report no operation on the `i64` fields overflows, and they hold what the integers
say. -/
theorem clockdiffRun_machine {crate : Crate} {ip : String} {options : ClockdiffConfig} {environment : Nat → Round}
    {run : Run} (finished : clockdiffRun crate ip options environment = .ok run) :
    ∃ sum : Machine.SumResult,
      Machine.SumResult.ofRun ip options (run.samples.map Machine.ClockDiffResult.ofExact) = some sum ∧
        sum.exact = run.sumResult := by
  obtain ⟨isFed, readings⟩ := clockdiffRun_feed finished
  have samples : (run.samples.map Machine.ClockDiffResult.ofExact).map Machine.ClockDiffResult.exact = run.samples := by
    rw [List.map_map]
    exact (List.map_congr_left fun sample member => Machine.exact_ofExact (readings sample member)).trans
      (List.map_id _)
  have inRange := new_inRange ip options.getTimeFormat
  rw [← Machine.exact_new] at inRange
  have fed := @Machine.feed_agrees _ options.ipTimestamp (run.samples.map Machine.ClockDiffResult.ofExact) inRange
    fun machine member => ?fromU32
  · rw [samples, Machine.exact_new] at fed
    rw [isFed]
    refine yields_bind fed fun sum isSum => ?_
    have concluded := @Machine.conclude_agrees sum ?_
    · rwa [isSum] at concluded
    · rw [isSum]
      exact feed_inRange options.ipTimestamp (new_inRange ip options.getTimeFormat) readings
  case fromU32 =>
    obtain ⟨sample, isSample, rfl⟩ := List.mem_map.mp member
    rw [Machine.exact_ofExact (readings sample isSample)]
    exact readings sample isSample

/-- The run against a clock that is one second ahead. -/
theorem clockdiffRun_machine_ahead :
    ∃ sum : Machine.SumResult,
      Machine.SumResult.ofRun "192.0.2.1" aheadOptions (aheadRun.samples.map Machine.ClockDiffResult.ofExact) = some
        sum ∧
        sum.exact = aheadRun.sumResult :=
  clockdiffRun_machine clockdiffRun_ahead

end Utiputils.Clockdiff
