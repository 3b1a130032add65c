import Utiputils.Pnet
import Utiputils.Clockdiff.SumResult

/-! # A run of clockdiff

`clockdiff_run` with the two parsers that turn a received packet into samples. What the network and the
clock answer in one iteration is a `Round`; the packets sent do not depend on the accumulator, so a round
only records whether sending them failed. -/

namespace Utiputils.Clockdiff

open Utiputils.Lib Utiputils.Pnet

def MSGS : Nat := 50
def TIMESTAMP_LEN : Nat := 12

/-- How a run can end without a report: an error returned to `main`, or a panic. -/
inductive Failure where
  | error (message : String)
  | panic
  deriving DecidableEq, Repr

structure ClockdiffConfig where
  ipTimestamp : Bool
  threeTimestamps : Bool
  timeFormat : String
  deriving DecidableEq, Repr

def ClockdiffConfig.getTimeFormat (config : ClockdiffConfig) : Option String := some config.timeFormat

/-! ## The parsers -/

def parseTimestamps (getTimestamp : UInt32) (payload : Bytes) : Except Failure ClockDiffResult :=
  if payload.length < TIMESTAMP_LEN then .error (.error "Invalid payload length")
  -- the conversion of `payload[12..]` to an array of four bytes
  else if payload.length ≠ 16 then .error (.error "could not convert slice to array")
  else .ok {
    localSendTime := u32At payload 4
    remoteRecvTime := u32At payload 8
    remoteSendTime := u32At payload 12
    localRecvTime := getTimestamp.toNat }

def parseTimestampOption (threeTimestamps : Bool) (optionData : Bytes) : Except Failure ClockDiffResult :=
  -- a short option is only reported; the indexing that follows then panics
  if optionData.length < 4 then .error .panic
  else
    let flag := (byteAt optionData 3).toNat % 16
    if flag ≠ 3 then
      .error (.error ("Unsupported timestamp option flag: 0x" ++ String.ofList (Nat.toDigits 16 flag)))
    else
      let timestampData := optionData.drop 4
      if threeTimestamps then
        if timestampData.length < 24 then .error .panic
        else
          let t2 := u32At timestampData 12
          .ok {
            localSendTime := u32At timestampData 4
            remoteRecvTime := t2
            remoteSendTime := t2
            localRecvTime := u32At timestampData 20 }
      else if timestampData.length < 32 then .error .panic
      else .ok {
        localSendTime := u32At timestampData 4
        remoteRecvTime := u32At timestampData 12
        remoteSendTime := u32At timestampData 20
        localRecvTime := u32At timestampData 28 }

/-! ## The loop -/

/-- The answers of the environment in one iteration: whether the stop signal has not come yet, the error
of `send_to` if any, the outcome of `next_with_timeout`, and the clock when a reply is parsed. -/
structure Round where
  running : Bool
  sendError : Option String
  received : Except String (Option Bytes)
  getTimestamp : UInt32

/-- The accumulator, with the samples that were passed to `calculate_delta` so far. -/
structure Run where
  sumResult : SumResult
  samples : List ClockDiffResult
  deriving DecidableEq, Repr

def Run.calculateDelta (run : Run) (ipTimestamp : Bool) (result : ClockDiffResult) : Run :=
  { sumResult := (run.sumResult.calculateDelta ipTimestamp result).1, samples := run.samples ++ [result] }

def takeIcmpReply (crate : Crate) (options : ClockdiffConfig) (getTimestamp : UInt32) (ipPkt : Bytes)
    (run : Run) : Except Failure Run :=
  if crate.ipv4.nextLevelProtocol ipPkt = IpNextHeaderProtocols.Icmp then
    let icmpPkt := crate.ipv4.payload ipPkt
    if crate.icmp.new icmpPkt ∧ crate.icmp.icmpType icmpPkt = IcmpTypes.TimestampReply then
      match parseTimestamps getTimestamp (crate.icmp.payload icmpPkt) with
      | .error failure => .error failure
      | .ok result => .ok (run.calculateDelta options.ipTimestamp result)
    else .ok run
  else .ok run

def takeOption (options : ClockdiffConfig) (run : Run) (opt : Ipv4Option) : Except Failure Run :=
  if opt.number = Ipv4OptionNumbers.TS then
    match parseTimestampOption options.threeTimestamps opt.packet with
    | .ok result => .ok (run.calculateDelta options.ipTimestamp result)
    -- the error is printed and replaced by the default sample
    | .error (.error _) => .ok (run.calculateDelta options.ipTimestamp {})
    | .error .panic => .error .panic
  else .ok run

def takePacket (crate : Crate) (options : ClockdiffConfig) (getTimestamp : UInt32) (rawData : Bytes)
    (run : Run) : Except Failure Run :=
  if crate.ipv4.new rawData then
    match takeIcmpReply crate options getTimestamp rawData run with
    | .error failure => .error failure
    | .ok run =>
      if options.ipTimestamp ∧ ¬ crate.ipv4.optionsIsEmpty rawData then
        (crate.ipv4.optionsIter rawData).foldlM (takeOption options) run
      else .ok run
  else .ok run

def rounds (crate : Crate) (options : ClockdiffConfig) (environment : Nat → Round) :
    Nat → Run → Except Failure Run
  | 0, run => .ok run
  | remaining + 1, run =>
    let round := environment (MSGS - (remaining + 1))
    if round.running then
      match round.sendError with
      | some message => .error (.error message)
      | none =>
        match round.received with
        | .ok (some rawData) =>
          match takePacket crate options round.getTimestamp rawData run with
          | .error failure => .error failure
          | .ok run => rounds crate options environment remaining run
        | .ok none => rounds crate options environment remaining run
        | .error message => .error (.error message)
    else .ok run

def clockdiffRun (crate : Crate) (ip : String) (options : ClockdiffConfig) (environment : Nat → Round) :
    Except Failure Run :=
  match rounds crate options environment MSGS
      { sumResult := .new ip options.getTimeFormat, samples := [] } with
  | .error failure => .error failure
  | .ok run =>
    let sum := run.sumResult
    .ok { run with sumResult := { sum with measureDelta := (sum.min1 - sum.min2).tdiv 2 } }

/-! ## The accumulator of a run is the one of its samples -/

theorem fromU32_of_u32At {first second third fourth : Nat} (bytes : Bytes) (last : UInt32) :
    ClockDiffResult.FromU32 ⟨u32At bytes first, u32At bytes second, u32At bytes third, last.toNat⟩ ∧
      ClockDiffResult.FromU32 ⟨u32At bytes first, u32At bytes second, u32At bytes third, u32At bytes fourth⟩ := by
  have firstBound := u32At_lt bytes first
  have secondBound := u32At_lt bytes second
  have thirdBound := u32At_lt bytes third
  have fourthBound := u32At_lt bytes fourth
  have lastBound := last.toNat_lt
  simp only [ClockDiffResult.FromU32]
  omega

theorem parseTimestamps_fromU32 {getTimestamp : UInt32} {payload : Bytes} {result : ClockDiffResult}
    (parsed : parseTimestamps getTimestamp payload = .ok result) : result.FromU32 := by
  simp only [parseTimestamps] at parsed
  split_ifs at parsed
  cases parsed
  exact (@fromU32_of_u32At 4 8 12 0 payload getTimestamp).1

theorem parseTimestampOption_fromU32 {threeTimestamps : Bool} {optionData : Bytes} {result : ClockDiffResult}
    (parsed : parseTimestampOption threeTimestamps optionData = .ok result) : result.FromU32 := by
  simp only [parseTimestampOption] at parsed
  split_ifs at parsed
  · cases parsed
    exact (fromU32_of_u32At (optionData.drop 4) 0).2
  · cases parsed
    exact (fromU32_of_u32At (optionData.drop 4) 0).2

/-- The accumulator holds what the recorded samples make of the start value, and they are readings of
clocks. -/
def Run.Consistent (start : SumResult) (ipTimestamp : Bool) (run : Run) : Prop :=
  run.sumResult = start.feed ipTimestamp run.samples ∧ ∀ sample ∈ run.samples, sample.FromU32

section

variable {start : SumResult} {crate : Crate} {options : ClockdiffConfig} {run final : Run}

theorem calculateDelta_consistent {ipTimestamp : Bool} (consistent : run.Consistent start ipTimestamp)
    {result : ClockDiffResult} (readings : result.FromU32) :
    (run.calculateDelta ipTimestamp result).Consistent start ipTimestamp := by
  refine ⟨?_, fun sample member => ?_⟩
  · simp only [Run.calculateDelta]
    rw [feed_append, ← consistent.1]
    rfl
  · simp only [Run.calculateDelta, List.mem_append, List.mem_singleton] at member
    rcases member with earlier | rfl
    · exact consistent.2 sample earlier
    · exact readings

theorem takeIcmpReply_consistent {getTimestamp : UInt32} {ipPkt : Bytes}
    (consistent : run.Consistent start options.ipTimestamp)
    (taken : takeIcmpReply crate options getTimestamp ipPkt run = .ok final) :
    final.Consistent start options.ipTimestamp := by
  simp only [takeIcmpReply] at taken
  split at taken
  · split at taken
    · split at taken
      · cases taken
      next parsed => cases taken; exact calculateDelta_consistent consistent (parseTimestamps_fromU32 parsed)
    · cases taken; exact consistent
  · cases taken; exact consistent

theorem takeOption_consistent {opt : Ipv4Option} (consistent : run.Consistent start options.ipTimestamp)
    (taken : takeOption options run opt = .ok final) : final.Consistent start options.ipTimestamp := by
  unfold takeOption at taken
  split at taken
  · split at taken
    next parsed => cases taken; exact calculateDelta_consistent consistent (parseTimestampOption_fromU32 parsed)
    · cases taken; exact calculateDelta_consistent consistent default_fromU32
    · cases taken
  · cases taken; exact consistent

theorem takeOptions_consistent {opts : List Ipv4Option} (consistent : run.Consistent start options.ipTimestamp)
    (taken : opts.foldlM (takeOption options) run = .ok final) : final.Consistent start options.ipTimestamp := by
  induction opts generalizing run with
  | nil => cases taken; exact consistent
  | cons opt opts inductionHypothesis =>
    rw [List.foldlM_cons] at taken
    cases first : takeOption options run opt with
    | error failure => rw [first] at taken; cases taken
    | ok next =>
      rw [first] at taken
      exact inductionHypothesis (takeOption_consistent consistent first) taken

theorem takePacket_consistent {getTimestamp : UInt32} {rawData : Bytes}
    (consistent : run.Consistent start options.ipTimestamp)
    (taken : takePacket crate options getTimestamp rawData run = .ok final) :
    final.Consistent start options.ipTimestamp := by
  unfold takePacket at taken
  split at taken
  · split at taken
    · cases taken
    next afterReply replyTaken =>
      have afterConsistent := takeIcmpReply_consistent consistent replyTaken
      split at taken
      · exact takeOptions_consistent afterConsistent taken
      · cases taken; exact afterConsistent
  · cases taken; exact consistent

/-- The run lemma, by induction on the iterations that are left. -/
theorem rounds_consistent {environment : Nat → Round} {remaining : Nat}
    (consistent : run.Consistent start options.ipTimestamp)
    (finished : rounds crate options environment remaining run = .ok final) :
    final.Consistent start options.ipTimestamp := by
  induction remaining generalizing run with
  | zero => cases finished; exact consistent
  | succ remaining inductionHypothesis =>
    simp only [rounds] at finished
    split at finished
    · split at finished
      · cases finished
      · split at finished
        · split at finished
          · cases finished
          next packetTaken => exact inductionHypothesis (takePacket_consistent consistent packetTaken) finished
        · exact inductionHypothesis consistent finished
        · cases finished
    · cases finished; exact consistent

end

/-- Every run that ends with a report: its accumulator is that of its samples but for the reported
difference of the minima. -/
theorem clockdiffRun_feed {crate : Crate} {ip : String} {options : ClockdiffConfig}
    {environment : Nat → Round} {run : Run} (finished : clockdiffRun crate ip options environment = .ok run) :
    let fed := (SumResult.new ip options.getTimeFormat).feed options.ipTimestamp run.samples
    run.sumResult = { fed with measureDelta := (fed.min1 - fed.min2).tdiv 2 } ∧
      ∀ sample ∈ run.samples, sample.FromU32 := by
  simp only [clockdiffRun] at finished
  split at finished
  · cases finished
  next final roundsFinished =>
    cases finished
    have started : Run.Consistent (SumResult.new ip options.getTimeFormat) options.ipTimestamp
        ⟨SumResult.new ip options.getTimeFormat, []⟩ := ⟨rfl, by simp⟩
    obtain ⟨consistent, readings⟩ := rounds_consistent started roundsFinished
    exact ⟨by simp only [← consistent], readings⟩

/-- No step of a run leaves the range of `i64`. -/
theorem clockdiffRun_inRange {crate : Crate} {ip : String} {options : ClockdiffConfig}
    {environment : Nat → Round} {run : Run} (finished : clockdiffRun crate ip options environment = .ok run) :
    run.sumResult.InRange := by
  obtain ⟨fed, readings⟩ := clockdiffRun_feed finished
  have inRange := feed_inRange options.ipTimestamp (new_inRange ip options.getTimeFormat) readings
  rw [fed]
  exact { inRange with }

/-! ## What a run reports -/

/-- What the report should say: the minima over the accepted samples since the last one with a zero
round trip, half their difference, and the marker of `SumResult::new` when nothing was accepted. -/
structure SumResult.Reports (sum : SumResult) (ipTimestamp : Bool) (samples : List ClockDiffResult) : Prop where
  minima : samples.filter (·.accepted) ≠ [] →
    IsLeast (keysOf (·.forwardDelay) (sinceLast (·.zeroRoundTrip) (samples.filter (·.accepted)))) sum.min1 ∧
    IsLeast (keysOf (·.backwardDelay ipTimestamp)
      (sinceLast (·.zeroRoundTrip) (samples.filter (·.accepted)))) sum.min2 ∧
    sum.measureDelta = (sum.min1 - sum.min2).tdiv 2
  hostDown : samples.filter (·.accepted) = [] → sum.measureDelta = HOSTDOWN

/-- Some accepted sample restarts the minima, or both of them get below their start value zero. -/
def MinimaStart (ipTimestamp : Bool) (samples : List ClockDiffResult) : Prop :=
  (∃ sample ∈ samples, sample.accepted ∧ sample.zeroRoundTrip) ∨
    ((∃ sample ∈ samples, sample.accepted ∧ sample.forwardDelay ≤ 0) ∧
      ∃ sample ∈ samples, sample.accepted ∧ sample.backwardDelay ipTimestamp ≤ 0)

theorem feed_minima (ip : String) (timeFormat : Option String) (ipTimestamp : Bool)
    (samples : List ClockDiffResult) :
    let counted := samples.filter (·.accepted)
    let fed := (SumResult.new ip timeFormat).feed ipTimestamp samples
    (IsLeast (keysOf (·.forwardDelay) (sinceLast (·.zeroRoundTrip) counted)) fed.min1 ↔
      counted.any (·.zeroRoundTrip) ∨ ∃ sample ∈ counted, sample.forwardDelay ≤ 0) ∧
    (IsLeast (keysOf (·.backwardDelay ipTimestamp) (sinceLast (·.zeroRoundTrip) counted)) fed.min2 ↔
      counted.any (·.zeroRoundTrip) ∨ ∃ sample ∈ counted, sample.backwardDelay ipTimestamp ≤ 0) := by
  intro counted fed
  obtain ⟨min1, min2, -, -⟩ := feed_of_accepted (SumResult.new ip timeFormat) ipTimestamp counted
    (fun sample member => (List.mem_filter.mp member).2)
  rw [feed_filter_accepted] at min1 min2
  rw [show fed.min1 = _ from min1, show fed.min2 = _ from min2]
  exact ⟨foldl_resettingMin_isLeast_iff _ _ _ _, foldl_resettingMin_isLeast_iff _ _ _ _⟩

/-- Before the report the accumulator meets it exactly when the minima have started; the closing
assignment of `clockdiff_run` is what the difference of the minima makes of `measure_delta`. -/
theorem feed_reports_iff (ip : String) (timeFormat : Option String) (ipTimestamp : Bool)
    (samples : List ClockDiffResult) :
    let fed := (SumResult.new ip timeFormat).feed ipTimestamp samples
    SumResult.Reports { fed with measureDelta := (fed.min1 - fed.min2).tdiv 2 } ipTimestamp samples ↔
      MinimaStart ipTimestamp samples := by
  intro fed
  obtain ⟨forward, backward⟩ := feed_minima ip timeFormat ipTimestamp samples
  have memberIff : ∀ sample, sample ∈ samples.filter (·.accepted) ↔ sample ∈ samples ∧ sample.accepted := by
    simp
  by_cases nothing : samples.filter (·.accepted) = []
  · -- nothing is accepted, and the marker of a host that is down is missing
    have unchanged : fed = SumResult.new ip timeFormat := by
      rw [show fed = (SumResult.new ip timeFormat).feed ipTimestamp (samples.filter (·.accepted)) from
        (feed_filter_accepted _ _ _).symm, nothing]
      rfl
    have noneAccepted : ∀ sample ∈ samples, ¬ sample.accepted := by
      simpa [List.filter_eq_nil_iff] using nothing
    constructor
    · intro reports
      have marker := reports.hostDown nothing
      rw [unchanged] at marker
      simp [SumResult.new, HOSTDOWN] at marker
    · rintro (⟨sample, member, accepted, -⟩ | ⟨⟨sample, member, accepted, -⟩, -⟩) <;>
        exact absurd accepted (noneAccepted sample member)
  · -- each minimum is right if a sample restarts it or gets below its start value
    have starts : MinimaStart ipTimestamp samples ↔
        ((samples.filter (·.accepted)).any (·.zeroRoundTrip) ∨
          ∃ sample ∈ samples.filter (·.accepted), sample.forwardDelay ≤ 0) ∧
        ((samples.filter (·.accepted)).any (·.zeroRoundTrip) ∨
          ∃ sample ∈ samples.filter (·.accepted), sample.backwardDelay ipTimestamp ≤ 0) := by
      rw [← or_and_left]
      simp only [MinimaStart, List.any_eq_true, memberIff, and_assoc]
    rw [starts, ← forward, ← backward]
    constructor
    · intro reports
      obtain ⟨least1, least2, -⟩ := reports.minima nothing
      exact ⟨least1, least2⟩
    · rintro ⟨least1, least2⟩
      exact ⟨fun _ => ⟨least1, least2, rfl⟩, fun isNil => absurd isNil nothing⟩

/-- The report of a run is right exactly when the minima have started. -/
theorem clockdiffRun_reports_iff (crate : Crate) (ip : String) (options : ClockdiffConfig)
    (environment : Nat → Round) (run : Run)
    (finished : clockdiffRun crate ip options environment = .ok run) :
    run.sumResult.Reports options.ipTimestamp run.samples ↔ MinimaStart options.ipTimestamp run.samples := by
  rw [(clockdiffRun_feed finished).1]
  exact feed_reports_iff ip options.getTimeFormat options.ipTimestamp run.samples

/-! ## A remote clock that is one second ahead

One reply with five milliseconds on each way: the forward delay is positive, so `min1` never leaves the
zero it starts from and the report halves the clock difference. -/

def aheadReply : Bytes :=
  [0x45, 0, 0, 40, 0, 0, 0, 0, 64, 1, 0, 0, 192, 0, 2, 1, 192, 0, 2, 2] ++
  [14, 0, 0, 0, 0, 1, 0, 0, 0x02, 0x25, 0x51, 0x00, 0x02, 0x25, 0x54, 0xED, 0x02, 0x25, 0x54, 0xED]

def aheadEnvironment : Nat → Round
  | 0 => ⟨true, none, .ok (some aheadReply), 36000010⟩
  | _ => ⟨true, none, .ok none, 0⟩

def aheadOptions : ClockdiffConfig := ⟨false, false, "ctime"⟩

def aheadRun : Run where
  sumResult := {
    host := "192.0.2.1", measureDelta := 497, measureDelta1 := 1000, rtt := 2, rttMin := 10, rttSigma := 2,
    min1 := 0, min2 := -995, timeFormat := some "ctime" }
  samples := [⟨36000000, 36001005, 36001005, 36000010⟩]

theorem clockdiffRun_ahead :
    clockdiffRun .rfcs "192.0.2.1" aheadOptions aheadEnvironment = .ok aheadRun := by decide +kernel

theorem clockdiffRun_ahead_misreports :
    clockdiffRun .rfcs "192.0.2.1" aheadOptions aheadEnvironment = .ok aheadRun ∧
      ¬ aheadRun.sumResult.Reports false aheadRun.samples := by
  refine ⟨clockdiffRun_ahead, fun reports => ?_⟩
  obtain ⟨⟨⟨sample, member, attains⟩, -⟩, -⟩ := reports.minima (by decide)
  rw [show sinceLast (·.zeroRoundTrip) (aheadRun.samples.filter (·.accepted)) =
    [⟨36000000, 36001005, 36001005, 36000010⟩] from rfl, List.mem_singleton] at member
  subst member
  exact absurd attains (by decide)

/-- The equivalence at the run above. -/
theorem clockdiffRun_reports_iff_ahead :
    aheadRun.sumResult.Reports false aheadRun.samples ↔ MinimaStart false aheadRun.samples :=
  clockdiffRun_reports_iff .rfcs "192.0.2.1" aheadOptions aheadEnvironment aheadRun clockdiffRun_ahead

end Utiputils.Clockdiff
