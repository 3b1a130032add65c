import Utiputils.Clockdiff.Packets

/-! # Options that cannot be read

An IP timestamp option comes from the network. `parse_timestamp_option` reads what is there of it, and where it returns
an error `clockdiff_run` goes on with the default sample, whose round trip is zero. -/

namespace Utiputils.Clockdiff

open Utiputils.Lib Utiputils.Pnet

/-! ## The parser -/

def optionFlag (optionData : Bytes) : Nat := (byteAt optionData 3).toNat % 16

/-- The length of the option that is sent. -/
def optionLength (threeTimestamps : Bool) : Nat := if threeTimestamps then OPTIONS_LEN_THREE else OPTIONS_LEN

/-- The option has the flag of the one that is sent, and is not shorter. -/
def Complete (threeTimestamps : Bool) (optionData : Bytes) : Prop :=
  optionFlag optionData = 3 ∧ optionLength threeTimestamps ≤ optionData.length

instance (threeTimestamps : Bool) (optionData : Bytes) : Decidable (Complete threeTimestamps optionData) :=
  inferInstanceAs (Decidable (_ ∧ _))

theorem four_le_optionLength (threeTimestamps : Bool) : 4 ≤ optionLength threeTimestamps := by
  cases threeTimestamps <;> decide

variable {threeTimestamps : Bool} {optionData : Bytes}

theorem parseTimestampOption_short (short : optionData.length < 4) :
    parseTimestampOption threeTimestamps optionData = .error .panic :=
  if_pos short

theorem parseTimestampOption_unsupported (header : 4 ≤ optionData.length) (flag : optionFlag optionData ≠ 3) :
    ∃ message, parseTimestampOption threeTimestamps optionData = .error (.error message) := by
  unfold parseTimestampOption
  rw [if_neg (Nat.not_lt.mpr header)]
  exact ⟨_, if_pos flag⟩

theorem parseTimestampOption_cut (flag : optionFlag optionData = 3)
    (cut : optionData.length < optionLength threeTimestamps) :
    parseTimestampOption threeTimestamps optionData = .error .panic := by
  by_cases short : optionData.length < 4
  · exact parseTimestampOption_short short
  · unfold parseTimestampOption
    rw [optionFlag] at flag
    cases threeTimestamps with
    | true =>
      have entries : (optionData.drop 4).length < 24 := by
        simp only [optionLength, if_true, OPTIONS_LEN_THREE] at cut
        rw [List.length_drop]
        omega
      simp only [short, if_false, flag, ne_eq, not_true_eq_false, entries, if_true]
    | false =>
      have entries : (optionData.drop 4).length < 32 := by
        simp only [optionLength, Bool.false_eq_true, if_false, OPTIONS_LEN] at cut
        rw [List.length_drop]
        omega
      simp only [short, if_false, flag, ne_eq, not_true_eq_false, Bool.false_eq_true, entries, if_true]

theorem parseTimestampOption_complete (complete : Complete threeTimestamps optionData) :
    ∃ result, parseTimestampOption threeTimestamps optionData = .ok result := by
  obtain ⟨flag, long⟩ := complete
  have header := four_le_optionLength threeTimestamps
  have short : ¬ optionData.length < 4 := by omega
  unfold parseTimestampOption
  rw [optionFlag] at flag
  cases threeTimestamps with
  | true =>
    have entries : ¬ (optionData.drop 4).length < 24 := by
      simp only [optionLength, if_true, OPTIONS_LEN_THREE] at long
      rw [List.length_drop]
      omega
    simp only [short, if_false, flag, ne_eq, not_true_eq_false, entries, if_true]
    exact ⟨_, rfl⟩
  | false =>
    have entries : ¬ (optionData.drop 4).length < 32 := by
      simp only [optionLength, Bool.false_eq_true, if_false, OPTIONS_LEN] at long
      rw [List.length_drop]
      omega
    simp only [short, if_false, flag, ne_eq, not_true_eq_false, Bool.false_eq_true, entries]
    exact ⟨_, rfl⟩

/-- The parser panics where bytes are missing that it reads, and returns an error for another flag. -/
theorem parseTimestampOption_incomplete (incomplete : ¬ Complete threeTimestamps optionData) :
    parseTimestampOption threeTimestamps optionData = .error .panic ∨
      ∃ message, parseTimestampOption threeTimestamps optionData = .error (.error message) := by
  by_cases short : optionData.length < 4
  · exact .inl (parseTimestampOption_short short)
  · by_cases flag : optionFlag optionData = 3
    · exact .inl (parseTimestampOption_cut flag (Nat.not_le.mp fun long => incomplete ⟨flag, long⟩))
    · exact .inr (parseTimestampOption_unsupported (Nat.not_lt.mp short) flag)

/-! ## The sample of an error -/

/-- The default sample has no round trip, so it restarts both minima at zero. -/
theorem calculateDelta_default (self : SumResult) (ipTimestamp : Bool) :
    let after := (self.calculateDelta ipTimestamp {}).1
    after.min1 = 0 ∧ after.min2 = 0 ∧ after.rttMin = min self.rttMin 0 := by
  obtain ⟨min1, min2, pair, -⟩ := calculateDelta_of_accepted self ipTimestamp {} rfl
  have delay : ClockDiffResult.backwardDelay ipTimestamp {} = 0 := by cases ipTimestamp <;> rfl
  refine ⟨min1, min2.trans delay, ?_⟩
  have roundTrip : ClockDiffResult.roundTrip ipTimestamp {} = 0 := by cases ipTimestamp <;> rfl
  have rttMin := congrArg Prod.fst pair
  simp only [keepLeast, roundTrip] at rttMin
  rw [rttMin]
  split
  next above => exact (min_eq_right above.le).symm
  next below => exact (min_eq_left (not_lt.mp below)).symm

theorem tdiv_four_eq_self {number : Int} (same : number.tdiv 4 = number) : number = 0 := by
  have sizes : number.natAbs / 4 = number.natAbs := (Int.natAbs_tdiv number 4).symm.trans (congrArg Int.natAbs same)
  omega

theorem mul_three_tdiv_four_eq_self {number : Int} (same : (number * 3).tdiv 4 = number) : number = 0 := by
  have sizes : (number * 3).natAbs / 4 = number.natAbs :=
    (Int.natAbs_tdiv (number * 3) 4).symm.trans (congrArg Int.natAbs same)
  omega

/-- The accumulators that it leaves alone; that of a new run is none of them. -/
theorem calculateDelta_default_eq_iff (self : SumResult) (ipTimestamp : Bool) :
    (self.calculateDelta ipTimestamp {}).1 = self ↔
      self.rtt = 0 ∧ self.rttSigma = 0 ∧ self.min1 = 0 ∧ self.min2 = 0 ∧ self.rttMin ≤ 0 := by
  have leg : wrapDelta (if ipTimestamp then 0 - 0 else 0 - 0) = 0 := by cases ipTimestamp <;> rfl
  have unfolded : (self.calculateDelta ipTimestamp {}).1 =
      { ((self.smoothRtt 0).lowerMin1 0).lowerMin2 0 |>.lowerRttMin 0 0 with min1 := 0, min2 := 0 } := by
    simp only [SumResult.calculateDelta, leg]
    rfl
  constructor
  · intro same
    obtain ⟨min1, min2, rttMin⟩ := calculateDelta_default self ipTimestamp
    rw [same] at min1 min2 rttMin
    rw [unfolded, SumResult.lowerMin1_eq, SumResult.lowerMin2_eq] at same
    -- a smoothed value that stays the same is zero
    have rtt : self.rtt = 0 := by
      have smoothed := congrArg SumResult.rtt same
      simp only [SumResult.lowerRttMin, SumResult.smoothRtt, add_zero] at smoothed
      split at smoothed <;> exact mul_three_tdiv_four_eq_self smoothed
    have rttSigma : self.rttSigma = 0 := by
      have smoothed := congrArg SumResult.rttSigma same
      simp only [SumResult.lowerRttMin, SumResult.smoothRtt, rtt] at smoothed
      split at smoothed <;> exact tdiv_four_eq_self (by simpa using smoothed)
    exact ⟨rtt, rttSigma, min1, min2, by rw [rttMin]; exact min_le_right _ _⟩
  · rintro ⟨rtt, rttSigma, min1, min2, rttMin⟩
    obtain ⟨host, measureDelta, measureDelta1, _, _, _, _, _, timeFormat⟩ := self
    subst rtt rttSigma min1 min2
    have below : ¬ (0 : Int) + 0 <
        ((SumResult.smoothRtt ⟨host, measureDelta, measureDelta1, 0, _, 0, 0, 0, timeFormat⟩ 0).lowerMin1 0
          |>.lowerMin2 0).rttMin := not_lt.mpr rttMin
    rw [unfolded, SumResult.lowerRttMin, if_neg below]
    rfl

/-! ## An option of a packet -/

/-- The option is dealt with without a panic, and only what was parsed of it becomes a sample. -/
def Atomic (options : ClockdiffConfig) (run : Run) (optionData : Bytes) : Prop :=
  parseTimestampOption options.threeTimestamps optionData ≠ .error .panic ∧
    takeOption options run ⟨Ipv4OptionNumbers.TS, optionData⟩ =
      match parseTimestampOption options.threeTimestamps optionData with
      | .ok result => .ok (run.calculateDelta options.ipTimestamp result)
      | .error _ => .ok run

theorem takeOption_ts (options : ClockdiffConfig) (run : Run) (optionData : Bytes) :
    takeOption options run ⟨Ipv4OptionNumbers.TS, optionData⟩ =
      match parseTimestampOption options.threeTimestamps optionData with
      | .ok result => .ok (run.calculateDelta options.ipTimestamp result)
      | .error (.error _) => .ok (run.calculateDelta options.ipTimestamp {})
      | .error .panic => .error .panic :=
  if_pos rfl

theorem Run.calculateDelta_ne (run : Run) (ipTimestamp : Bool) (result : ClockDiffResult) :
    run.calculateDelta ipTimestamp result ≠ run := by
  intro same
  have samples := congrArg (fun run : Run => run.samples.length) same
  simp [Run.calculateDelta] at samples

theorem not_atomic {options : ClockdiffConfig} {run : Run} {optionData : Bytes}
    (incomplete : ¬ Complete options.threeTimestamps optionData) : ¬ Atomic options run optionData := by
  intro atomic
  obtain ⟨noPanic, taken⟩ := atomic
  obtain panics | ⟨message, failed⟩ := parseTimestampOption_incomplete incomplete
  · exact noPanic panics
  · rw [takeOption_ts, failed] at taken
    exact run.calculateDelta_ne _ _ (Except.ok.inj taken)

/-- An option is dealt with as a whole or not at all where it is complete, and nowhere else. -/
theorem atomic_iff (options : ClockdiffConfig) (run : Run) (optionData : Bytes) :
    Atomic options run optionData ↔ Complete options.threeTimestamps optionData := by
  constructor
  · intro atomic
    by_contra incomplete
    exact not_atomic incomplete atomic
  · intro complete
    obtain ⟨result, parsed⟩ := parseTimestampOption_complete complete
    unfold Atomic
    rw [takeOption_ts, parsed]
    exact ⟨nofun, rfl⟩

/-- A remote clock that is a second behind, after one sample. -/
def behindRun : Run :=
  Run.calculateDelta ⟨.new "192.0.2.1" (some "ctime"), []⟩ true ⟨36000000, 35999005, 35999006, 36000010⟩

/-- Addresses and times, but those hosts that have room enter theirs: flag one. -/
def recordedOption : Bytes := [0x44, 36, 37, 0x01] ++ List.replicate 32 0

/-- The option of another sender, with room for one entry. -/
def shortOption : Bytes := [0x44, 12, 5, 0x03] ++ List.replicate 8 0

/-- The error is returned, and the least forward delay of the run is lost; the shorter option ends the program. -/
theorem recordedOption_not_atomic :
    parseTimestampOption false recordedOption = .error (.error "Unsupported timestamp option flag: 0x1") ∧
      behindRun.sumResult.min1 = -995 ∧
      takeOption ⟨true, false, "ctime"⟩ behindRun ⟨Ipv4OptionNumbers.TS, recordedOption⟩ =
        .ok { sumResult := { behindRun.sumResult with
                measureDelta1 := 0, rtt := 1, rttMin := 0, rttSigma := 0, min1 := 0, min2 := 0 },
              samples := [⟨36000000, 35999005, 35999006, 36000010⟩, {}] } ∧
      parseTimestampOption false shortOption = .error .panic ∧
      ¬ Atomic ⟨true, false, "ctime"⟩ behindRun recordedOption :=
  ⟨by decide +kernel, by decide +kernel, by decide +kernel, by decide +kernel, not_atomic (by decide)⟩

end Utiputils.Clockdiff
