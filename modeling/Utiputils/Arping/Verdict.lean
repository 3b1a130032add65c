import Utiputils.Arping.Packets

/-! # The verdict of arping

`arping_run` judges a run by two counters: the probes it sent and the replies it got. What the verdict is meant to
say is read off the log of the run here: the replies in the wait window of each probe. -/

namespace Utiputils.Arping

open Utiputils.Lib Utiputils.Pnet Proc

/-! ## The windows of a run -/

section

variable (targetIp : Ipv4Addr)

/-- A reply of the target in a wait window. -/
def isReply : Event → Bool
  | .next (.ok frame) => IsReply targetIp frame
  | _ => false

/-- A reply that is read when an interrupted run ends. -/
def isLateReply : Event → Bool
  | .drained (.ok frame) => IsReply targetIp frame
  | _ => false

def received (log : List Event) : Nat := log.countP (isReply targetIp)

def receivedLate (log : List Event) : Nat := log.countP (isLateReply targetIp)

/-- A probe opens a window, and a reply belongs to the last one. -/
def enterWindow (windows : List Nat) (event : Event) : List Nat :=
  match event, windows with
  | .sendTo _, windows => 0 :: windows
  | event, current :: earlier => (current + (isReply targetIp event).toNat) :: earlier
  | _, [] => []

/-- The number of replies in the window of each probe, the last probe first. -/
def windows (log : List Event) : List Nat := log.foldl (enterWindow targetIp) []

end

/-- A test of `is_running` has failed. -/
def interrupted (log : List Event) : Bool := log.contains (.isRunning false)

/-- The process has exited, or waits in `rx.next` for ever. -/
def World.Halted (world : World) : Prop := .blocked ∈ world.log ∨ ∃ exit, .exit exit ∈ world.log

/-! ## Replies against probes -/

/-- The probes without a reply. -/
def missing (windows : List Nat) : Nat := windows.count 0

/-- The replies beyond the first one of their window. -/
def surplus (windows : List Nat) : Nat := (windows.map (· - 1)).sum

theorem missing_eq_zero_iff (windows : List Nat) : missing windows = 0 ↔ ∀ replies ∈ windows, 1 ≤ replies := by
  rw [missing, List.count_eq_zero]
  constructor
  · intro none replies member
    exact Nat.pos_of_ne_zero fun zero => none (zero ▸ member)
  · intro answered none
    exact absurd (answered 0 none) (by decide)

/-- The replies outnumber the probes by the surplus, and the probes the replies by those without. -/
theorem sum_add_missing (windows : List Nat) :
    windows.sum + missing windows = windows.length + surplus windows := by
  induction windows with
  | nil => rfl
  | cons replies windows inductionHypothesis =>
    simp only [missing, surplus] at inductionHypothesis ⊢
    simp only [List.sum_cons, List.count_cons, List.length_cons, List.map_cons]
    cases replies with
    | zero =>
      simp only [beq_self_eq_true, if_true]
      omega
    | succ replies =>
      have notZero : (replies + 1 == 0) = false := rfl
      simp only [notZero, Bool.false_eq_true, if_false, Nat.add_sub_cancel]
      omega

/-- The replies do not look like one for each probe unless they are, and look like it if they are, when counted
with 32 bits. -/
def Separated (windows : List Nat) : Prop :=
  if missing windows = 0 then 2 ^ 32 ∣ surplus windows else ¬ surplus windows ≡ missing windows [MOD 2 ^ 32]

instance (windows : List Nat) : Decidable (Separated windows) :=
  inferInstanceAs (Decidable
    (if missing windows = 0 then 2 ^ 32 ∣ surplus windows else ¬ surplus windows ≡ missing windows [MOD 2 ^ 32]))

theorem ofNat_eq_iff (a b : Nat) : UInt32.ofNat a = UInt32.ofNat b ↔ a ≡ b [MOD 2 ^ 32] := by
  rw [← UInt32.toNat_inj, UInt32.toNat_ofNat', UInt32.toNat_ofNat']
  rfl

/-- As many probes as replies in the counters: the surplus makes up for the probes without a reply. -/
theorem counters_eq_iff (windows : List Nat) :
    UInt32.ofNat windows.length = UInt32.ofNat windows.sum ↔ surplus windows ≡ missing windows [MOD 2 ^ 32] := by
  rw [ofNat_eq_iff]
  have balance := sum_add_missing windows
  constructor
  · intro same
    have shifted : windows.length + missing windows ≡ windows.length + surplus windows [MOD 2 ^ 32] := by
      rw [← balance]
      exact same.add_right _
    exact (Nat.ModEq.add_left_cancel' _ shifted).symm
  · intro same
    have shifted : windows.length + missing windows ≡ windows.sum + missing windows [MOD 2 ^ 32] := by
      rw [balance]
      exact (same.symm).add_left _
    exact Nat.ModEq.add_right_cancel' _ shifted

/-- The comparison of the counters is right exactly if the replies are separated. -/
theorem counters_right_iff (windows : List Nat) :
    (UInt32.ofNat windows.length = UInt32.ofNat windows.sum ↔ ∀ replies ∈ windows, 1 ≤ replies) ↔
      Separated windows := by
  rw [counters_eq_iff, ← missing_eq_zero_iff, Separated]
  split
  next none =>
    rw [none, Nat.modEq_zero_iff_dvd]
    simp only [iff_true]
  next some =>
    simp only [some, iff_false]

/-! ## The tally of a world -/

/-- What the loops change of the log, the channel and the signal. -/
structure Tally where
  windows : List Nat
  received : Nat
  receivedLate : Nat
  interrupted : Bool
  pending : Nat
  running : Bool

section

variable (targetIp : Ipv4Addr)

def World.tally (world : World) : Tally where
  windows := Arping.windows targetIp world.log
  received := Arping.received targetIp world.log
  receivedLate := Arping.receivedLate targetIp world.log
  interrupted := Arping.interrupted world.log
  pending := world.frames.length
  running := world.running

def Tally.enter (tally : Tally) (event : Event) : Tally :=
  { tally with
    windows := enterWindow targetIp tally.windows event
    received := tally.received + (isReply targetIp event).toNat
    receivedLate := tally.receivedLate + (isLateReply targetIp event).toNat
    interrupted := tally.interrupted || event == .isRunning false }

theorem tally_note (world : World) (event : Event) :
    (world.note event).tally targetIp = (world.tally targetIp).enter targetIp event := by
  have counted : ∀ test : Event → Bool, (world.log ++ [event]).countP test =
      world.log.countP test + (test event).toNat := fun test => by
    rw [List.countP_append, List.countP_singleton]
    cases test event <;> rfl
  have tested : (world.log ++ [event]).contains (.isRunning false) =
      (world.log.contains (.isRunning false) || event == .isRunning false) := by
    simp only [List.contains_append, List.contains_cons, List.contains_nil, Bool.or_false,
      Bool.beq_comm]
  simp only [World.tally, World.note, Tally.enter, windows, received, receivedLate, interrupted, List.foldl_append,
    List.foldl_cons, List.foldl_nil, counted, tested]

theorem enter_isRunning (tally : Tally) (running : Bool) :
    tally.enter targetIp (.isRunning running) = { tally with interrupted := tally.interrupted || !running } := by
  obtain ⟨windows, received, receivedLate, interrupted, pending, wasRunning⟩ := tally
  cases windows <;> cases running <;> simp [Tally.enter, enterWindow, isReply, isLateReply]

theorem enter_drained (tally : Tally) (result : Except String Bytes) :
    tally.enter targetIp (.drained result) =
      { tally with receivedLate := tally.receivedLate + (isLateReply targetIp (.drained result)).toNat } := by
  obtain ⟨windows, received, receivedLate, interrupted, pending, running⟩ := tally
  cases windows <;> simp [Tally.enter, enterWindow, isReply]

theorem enter_printed (tally : Tally) (output : Output) : tally.enter targetIp (.printed output) = tally := by
  obtain ⟨windows, received, receivedLate, interrupted, pending, running⟩ := tally
  cases windows <;> simp [Tally.enter, enterWindow, isReply, isLateReply]

/-- A fact about the tally. -/
def At (fact : Tally → Prop) (world : World) : Prop := fact (world.tally targetIp)

/-- The process returns and does not show in the tally. -/
def Silent {Result : Type} (process : Proc World Result) : Prop :=
  ∀ fact stopped, Triple (At targetIp fact) process (fun _ => At targetIp fact) stopped

end

section

variable {targetIp : Ipv4Addr} {Result Next : Type}

theorem silent_pure {value : Result} : Silent targetIp (pure value : Proc World Result) := fun _ _ =>
  triple_pure fun _ holds => holds

theorem silent_bind {process : Proc World Result} {next : Result → Proc World Next}
    (first : Silent targetIp process) (second : ∀ value, Silent targetIp (next value)) :
    Silent targetIp (process >>= next) := fun fact stopped =>
  triple_bind (first fact stopped) fun value => second value fact stopped

theorem silent_print (output : Output) : Silent targetIp (print output) := fun fact stopped =>
  triple_modify fun world holds => by
    show fact ((world.note (.printed output)).tally targetIp)
    rw [tally_note, enter_printed]
    exact holds

theorem silent_report (options : ArpingConfig) (output : Output) : Silent targetIp (report options output) := by
  unfold report
  split
  · exact silent_pure
  · exact silent_print output

theorem silent_now : Silent targetIp now := fun _ _ => triple_modifyGet fun _ holds => holds

theorem silent_elapsed (earlier : Instant) : Silent targetIp (elapsed earlier) :=
  silent_bind silent_now fun _ => silent_pure

theorem silent_shouldBroadcast (state : ArgState) : Silent targetIp (shouldBroadcast state) := by
  unfold shouldBroadcast
  cases state.targetMac with
  | none => exact silent_pure
  | some mac => exact silent_bind (silent_elapsed _) fun _ => silent_pure

theorem silent_timedOut (options : ArpingConfig) (startTime : Instant) :
    Silent targetIp (timedOut options startTime) := by
  unfold timedOut
  cases options.timeout with
  | none => exact silent_pure
  | some timeout => exact silent_bind (silent_elapsed _) fun _ => silent_pure

theorem broadcasts_of_none {state : ArgState} (unknown : state.targetMac = none) {fact : Tally → Prop}
    {stopped : World → Prop} : Triple (At targetIp fact) (shouldBroadcast state)
      (fun broadcasts world => broadcasts = true ∧ At targetIp fact world) stopped := by
  simp only [shouldBroadcast, unknown]
  exact triple_pure fun _ holds => ⟨rfl, holds⟩

/-- Where there is no learned address, the probe is broadcast: the `unwrap` does not panic. -/
theorem silent_dstMac (state : ArgState) : Silent targetIp (dstMac state) := by
  intro fact stopped
  cases learned : state.targetMac with
  | none =>
    refine triple_bind (broadcasts_of_none learned) fun broadcasts => ?_
    cases broadcasts with
    | true => exact triple_pure fun _ holds => holds.2
    | false => exact fun _ ⟨contra, _⟩ => nomatch contra
  | some mac =>
    refine triple_bind (silent_shouldBroadcast state fact stopped) fun broadcasts => ?_
    cases broadcasts with
    | true => exact triple_pure fun _ holds => holds
    | false =>
      simp only [learned]
      exact triple_pure fun _ holds => holds

theorem silent_targetHw (state : ArgState) : Silent targetIp (targetHw state) := by
  refine silent_bind (silent_shouldBroadcast state) fun broadcasts => ?_
  cases broadcasts with
  | true => exact silent_pure
  | false => exact silent_pure

theorem silent_buildArpPacket {crate : ArpingCrate} (follows : crate.FollowsRfcs) (options : ArpingConfig)
    (state : ArgState) (srcMac : MacAddr) (srcIp dstIp : Ipv4Addr) :
    Silent targetIp (buildArpPacket crate options state srcMac srcIp dstIp) := by
  refine silent_bind (silent_dstMac state) fun dstMac => silent_bind (silent_targetHw state) fun targetHw => ?_
  rw [writeArpPacket_eq follows.writer]
  exact silent_pure

/-! ## The steps of the loops -/

theorem triple_isRunning (fact : Tally → Prop) (stopped : World → Prop) :
    Triple (At targetIp fact) isRunning (fun running => At targetIp fun after => ∃ tally, fact tally ∧
      (running = true → tally.running = true) ∧
      after = { tally with running, interrupted := tally.interrupted || !running }) stopped := by
  refine triple_modifyGet fun world holds => ⟨_, holds, fun running => (Bool.and_eq_true_iff.mp running).1, ?_⟩
  show World.tally targetIp (World.note _ _) = _
  rw [tally_note, enter_isRunning]
  rfl

/-- The two ways on from a test of the signal. -/
theorem triple_ifRunning {Result : Type} {fact : Tally → Prop} (going stopping : Tally → Prop)
    {next last : Proc World Result} {post : Result → World → Prop} {stopped : World → Prop}
    (goes : ∀ tally, fact tally → tally.running = true →
      going { tally with running := true, interrupted := tally.interrupted || !true })
    (stops : ∀ tally, fact tally →
      stopping { tally with running := false, interrupted := tally.interrupted || !false })
    (goesOn : Triple (At targetIp going) next post stopped)
    (ends : Triple (At targetIp stopping) last post stopped) :
    Triple (At targetIp fact) (do if ← isRunning then next else last) post stopped := by
  refine triple_bind (triple_isRunning fact stopped) fun running => ?_
  cases running with
  | true =>
    refine triple_conseq goesOn ?_ fun _ _ reached => reached
    rintro world ⟨tally, holds, running, after⟩
    show going (world.tally targetIp)
    rw [after]
    exact goes tally holds (running rfl)
  | false =>
    refine triple_conseq ends ?_ fun _ _ reached => reached
    rintro world ⟨tally, holds, _, after⟩
    show stopping (world.tally targetIp)
    rw [after]
    exact stops tally holds

theorem triple_sendTo (buffer : Bytes) (fact : Tally → Prop) (stopped : World → Prop) :
    Triple (At targetIp fact) (sendTo buffer)
      (fun _ => At targetIp fun after => ∃ tally, fact tally ∧ after = { tally with windows := 0 :: tally.windows })
      stopped := by
  refine triple_modify fun world holds => ⟨_, holds, ?_⟩
  show World.tally targetIp (World.note _ _) = _
  rw [tally_note]
  simp [Tally.enter, enterWindow, isReply, isLateReply]

/-- A frame is read, or the process waits for ever. -/
theorem triple_nextFrame (entry : Except String Bytes → Event) (fact : Tally → Prop) :
    Triple (At targetIp fact) (nextFrame entry) (fun result => At targetIp fun after => ∃ tally pending,
      fact tally ∧ pending < tally.pending ∧ after = { tally.enter targetIp (entry result) with pending })
      World.Halted := by
  refine triple_get_bind fun seen holds => ?_
  cases frames : seen.frames with
  | nil =>
    refine triple_bind (triple_modify fun world start => ?_) fun _ => triple_stop fun _ halted => halted
    exact .inl (List.mem_append_right _ List.mem_cons_self)
  | cons result rest =>
    refine triple_bind (triple_modify fun world start => ?_) fun _ => triple_pure fun _ holds => holds
    have fewer : rest.length < (seen.tally targetIp).pending := by simp [World.tally, frames]
    refine ⟨_, rest.length, holds, fewer, ?_⟩
    show World.tally targetIp (World.note _ _) = _
    rw [tally_note, start]
    rfl

/-! ## The invariants of the loops -/

/-- The counters are those of the log, and every reply falls in a window. -/
structure Counted (progress : Progress) (tally : Tally) : Prop where
  sent : progress.sentCount = UInt32.ofNat tally.windows.length
  replies : progress.replyCount = UInt32.ofNat (tally.received + tally.receivedLate)
  inWindows : tally.windows.sum = tally.received

/-- At the head of a turn. -/
structure Going (options : ArpingConfig) (progress : Progress) (tally : Tally) : Prop extends Counted progress tally where
  inTime : tally.receivedLate = 0
  unanswered : options.quitOnFirstReply = true → tally.received = 0

/-- At the end of the run. -/
structure Ended (options : ArpingConfig) (progress : Progress) (tally : Tally) : Prop extends Counted progress tally where
  inTime : tally.interrupted = false → tally.receivedLate = 0
  answeredOnce : options.quitOnFirstReply = true → tally.received ≤ 1

theorem Going.ended {options : ArpingConfig} {progress : Progress} {tally : Tally}
    (going : Going options progress tally) : Ended options progress tally where
  toCounted := going.toCounted
  inTime _ := going.inTime
  answeredOnce quits := (going.unanswered quits).le.trans (by decide)

/-- Inside a wait window. -/
structure Waiting (options : ArpingConfig) (progress : Progress) (tally : Tally) : Prop
    extends Going options progress tally where
  opened : tally.windows ≠ []

/-- Behind a reply that the counters lack. -/
structure Answered (options : ArpingConfig) (progress : Progress) (tally : Tally) : Prop
    extends Counted { progress with replyCount := progress.replyCount + 1 } tally where
  inTime : tally.receivedLate = 0
  answeredOnce : options.quitOnFirstReply = true → tally.received ≤ 1
  opened : tally.windows ≠ []

/-- Behind a turn of a window: on in it, on to the next probe, or at the end. Every turn reads a frame, or sees that
the run is interrupted. -/
def waitPost (targetIp : Ipv4Addr) (options : ArpingConfig) (start bound : Nat) :
    Turn Progress (Turn Progress Progress) → World → Prop :=
  Turn.post
    (fun progress => At targetIp fun tally =>
      (Waiting options progress tally ∧ tally.pending ≤ start) ∧ tally.pending < bound)
    (Turn.post
      (fun progress => At targetIp fun tally =>
        Going options progress tally ∧ tally.pending + tally.running.toNat ≤ start)
      fun progress => At targetIp (Ended options progress))

section

variable {options : ArpingConfig} {start bound : Nat} (inside : bound ≤ start)
include inside

theorem waiting_windowEnd (startWait : Instant) (progress : Progress) (stopped : World → Prop) :
    Triple (At targetIp fun tally => Waiting options progress tally ∧ tally.pending < bound)
      (windowEnd options startWait progress) (waitPost targetIp options start bound) stopped := by
  refine triple_bind (silent_elapsed startWait _ stopped) fun waited => ?_
  split
  · refine triple_pure fun world ⟨waiting, fewer⟩ => ⟨waiting.toGoing, ?_⟩
    have atMostOne := Bool.toNat_le (world.tally targetIp).running
    omega
  · exact triple_pure fun _ ⟨waiting, fewer⟩ => ⟨⟨waiting, fewer.le.trans inside⟩, fewer⟩

/-- The reply is counted. -/
theorem answered_takeReply (probe : Probe) (startWait : Instant) (mac : MacAddr) (progress : Progress)
    (stopped : World → Prop) :
    Triple (At targetIp fun tally => Answered options progress tally ∧ tally.pending < bound)
      (takeReply options probe startWait mac progress) (waitPost targetIp options start bound) stopped := by
  refine triple_bind (silent_elapsed startWait _ stopped) fun duration =>
    triple_bind (silent_report options _ _ stopped) fun _ => ?_
  by_cases quits : options.quitOnFirstReply = true
  · simp only [if_pos quits]
    exact triple_pure fun _ ⟨answered, _⟩ =>
      { toCounted := answered.toCounted, inTime := fun _ => answered.inTime, answeredOnce := answered.answeredOnce }
  · simp only [if_neg quits]
    have goesOn : ∀ {tally : Tally} (state : ArgState), Answered options progress tally →
        Waiting options { progress with replyCount := progress.replyCount + 1, state } tally := fun _ answered =>
      { sent := answered.sent, replies := answered.replies, inWindows := answered.inWindows, inTime := answered.inTime,
        unanswered := fun contra => absurd contra quits, opened := answered.opened }
    split
    · exact triple_conseq (waiting_windowEnd inside startWait _ stopped)
        (fun _ ⟨answered, fewer⟩ => ⟨goesOn _ answered, fewer⟩) fun _ _ reached => reached
    · exact triple_bind (silent_now _ stopped) fun learned =>
        triple_conseq (waiting_windowEnd inside startWait _ stopped)
          (fun _ ⟨answered, fewer⟩ => ⟨goesOn _ answered, fewer⟩) fun _ _ reached => reached

end

end

section

variable {crate : ArpingCrate} (follows : crate.FollowsRfcs) {options : ArpingConfig} {probe : Probe}

/-- Whether the run goes on does not show in the counters. -/
theorem Going.tested {progress : Progress} {tally : Tally} (going : Going options progress tally) (running : Bool) :
    Going options progress { tally with running, interrupted := tally.interrupted || !running } where
  sent := going.sent
  replies := going.replies
  inWindows := going.inWindows
  inTime := going.inTime
  unanswered := going.unanswered

/-- A frame in a window that is not a reply. -/
theorem Waiting.passed {targetIp : Ipv4Addr} {progress : Progress} {tally : Tally} {event : Event} {pending : Nat}
    (waiting : Waiting options progress tally) (noProbe : ∀ buffer, event ≠ .sendTo buffer)
    (noReply : isReply targetIp event = false) (notLate : isLateReply targetIp event = false) :
    Waiting options progress { tally.enter targetIp event with pending } := by
  obtain ⟨⟨⟨sent, replies, inWindows⟩, inTime, unanswered⟩, opened⟩ := waiting
  obtain ⟨current, earlier, windows⟩ := List.exists_cons_of_ne_nil opened
  have same : enterWindow targetIp tally.windows event = tally.windows := by
    rw [windows]
    cases event with
    | sendTo buffer => exact absurd rfl (noProbe buffer)
    | _ => simp [enterWindow, noReply]
  constructor
  · constructor
    · constructor
      · simpa only [Tally.enter, same] using sent
      · simpa only [Tally.enter, noReply, notLate, Bool.toNat_false, Nat.add_zero] using replies
      · simpa only [Tally.enter, same, noReply, Bool.toNat_false, Nat.add_zero] using inWindows
    · simpa only [Tally.enter, notLate, Bool.toNat_false, Nat.add_zero] using inTime
    · simpa only [Tally.enter, noReply, Bool.toNat_false, Nat.add_zero] using unanswered
  · simpa only [Tally.enter, same] using opened

/-- A reply belongs to the open window. -/
theorem Waiting.answered {targetIp : Ipv4Addr} {progress : Progress} {tally : Tally} {packet : Bytes} {pending : Nat}
    (waiting : Waiting options progress tally) (reply : IsReply targetIp packet) :
    Answered options progress { tally.enter targetIp (.next (.ok packet)) with pending } := by
  obtain ⟨⟨⟨sent, replies, inWindows⟩, inTime, unanswered⟩, opened⟩ := waiting
  -- the reply is counted in the window that is open
  obtain ⟨current, earlier, windows⟩ := List.exists_cons_of_ne_nil opened
  have isReply : isReply targetIp (.next (.ok packet)) = true := decide_eq_true reply
  have opens : enterWindow targetIp tally.windows (.next (.ok packet)) = (current + 1) :: earlier := by
    rw [windows]
    simp [enterWindow, isReply]
  constructor
  · constructor
    · show progress.sentCount = UInt32.ofNat (enterWindow targetIp tally.windows _).length
      rw [opens, sent, windows]
      rfl
    · simp only [Tally.enter, isReply, isLateReply, replies, inTime, Bool.toNat_true, Bool.toNat_false, Nat.add_zero,
        UInt32.ofNat_add]
      rfl
    · show (enterWindow targetIp tally.windows _).sum = tally.received + (Arping.isReply targetIp _).toNat
      rw [opens, isReply, ← inWindows, windows]
      simp only [List.sum_cons, Bool.toNat_true]
      omega
  · exact inTime
  · intro quits
    simp only [Tally.enter, isReply, unanswered quits, Bool.toNat_true, Nat.zero_add, le_refl]
  · simp only [Tally.enter, opens]
    exact List.cons_ne_nil _ _

include follows

theorem waiting_waitTurn (startWait : Instant) (start : Nat) (progress : Progress) (bound : Nat) :
    Triple (At probe.targetIp fun tally =>
        (Waiting options progress tally ∧ tally.pending ≤ start) ∧ tally.pending = bound)
      (waitTurn crate options probe startWait progress) (waitPost probe.targetIp options start bound)
      World.Halted := by
  by_cases inside : bound ≤ start
  -- no state of the loop has more left than it began with
  swap
  · exact fun _ ⟨⟨_, le⟩, same⟩ => absurd (same ▸ le) inside
  refine triple_ifRunning (fun tally => Waiting options progress tally ∧ tally.pending = bound)
    (fun tally => Going options progress tally ∧ tally.pending + tally.running.toNat ≤ start)
    (fun tally ⟨⟨waiting, _⟩, same⟩ _ => ⟨⟨waiting.toGoing.tested true, waiting.opened⟩, same⟩)
    (fun tally ⟨⟨waiting, le⟩, _⟩ => ⟨waiting.toGoing.tested false, le⟩) ?_ (triple_pure fun _ stopped => stopped)
  refine triple_bind (triple_nextFrame .next _) fun result => ?_
  cases result with
  -- a frame was used up, which makes room for the running flag in the bound
  | error failure =>
    refine triple_pure ?_
    rintro world ⟨tally, pending, ⟨waiting, same⟩, fewer, after⟩
    have passed : Waiting options progress (world.tally probe.targetIp) :=
      after ▸ waiting.passed (fun _ => Event.noConfusion) rfl rfl
    have left : (world.tally probe.targetIp).pending < bound := by
      rw [after, ← same]
      exact fewer
    have atMostOne := Bool.toNat_le (world.tally probe.targetIp).running
    exact ⟨passed.toGoing, by omega⟩
  | ok packet =>
    simp only [parseArpReply_eq follows.reader]
    -- a reply raises the count of its window; any other frame leaves the windows as they are
    by_cases reply : IsReply probe.targetIp packet
    · simp only [if_pos reply]
      refine triple_conseq (answered_takeReply inside probe startWait _ progress _) ?_ fun _ _ reached => reached
      rintro world ⟨tally, pending, ⟨waiting, same⟩, fewer, after⟩
      have answered : Answered options progress (world.tally probe.targetIp) := after ▸ waiting.answered reply
      exact ⟨answered, by rw [after, ← same]; exact fewer⟩
    · simp only [if_neg reply]
      refine triple_conseq (waiting_windowEnd inside startWait progress _) ?_ fun _ _ reached => reached
      rintro world ⟨tally, pending, ⟨waiting, same⟩, fewer, after⟩
      have passed : Waiting options progress (world.tally probe.targetIp) :=
        after ▸ waiting.passed (fun _ => Event.noConfusion) (decide_eq_false reply) rfl
      exact ⟨passed, by rw [after, ← same]; exact fewer⟩

/-- The window ends; it is not cut, as every turn reads a frame. -/
theorem waiting_window (startWait : Instant) {start fuel : Nat} (enough : start < fuel) (progress : Progress) :
    Triple (At probe.targetIp fun tally => Waiting options progress tally ∧ tally.pending ≤ start)
      (forever (waitTurn crate options probe startWait) fuel progress)
      (Turn.post
        (fun progress => At probe.targetIp fun tally =>
          Going options progress tally ∧ tally.pending + tally.running.toNat ≤ start)
        fun progress => At probe.targetIp (Ended options progress))
      World.Halted := by
  refine triple_conseq (triple_forever_decreasing
    (fun progress => At probe.targetIp fun tally => Waiting options progress tally ∧ tally.pending ≤ start)
    (fun world => (world.tally probe.targetIp).pending)
    (fun progress bound _ => waiting_waitTurn follows startWait start progress bound) progress)
    (fun _ ⟨waiting, le⟩ => ⟨⟨waiting, le⟩, le.trans_lt enough⟩) fun _ _ reached => reached

theorem going_sendProbe {start fuel : Nat} (enough : start < fuel) (progress : Progress) :
    Triple (At probe.targetIp fun tally => Going options progress tally ∧ tally.pending ≤ start)
      (sendProbe crate options probe fuel progress)
      (Turn.post
        (fun progress => At probe.targetIp fun tally =>
          Going options progress tally ∧ tally.pending + tally.running.toNat ≤ start)
        fun progress => At probe.targetIp (Ended options progress))
      World.Halted := by
  refine triple_bind (silent_buildArpPacket follows options progress.state _ _ _ _ _) fun buffer =>
    triple_bind (triple_sendTo buffer _ _) fun _ => triple_bind (silent_shouldBroadcast _ _ _) fun broadcasts =>
    triple_bind (silent_now _ _) fun startWait => triple_conseq (waiting_window follows startWait enough _) ?_
      fun _ _ reached => reached
  rintro world ⟨tally, ⟨going, le⟩, after⟩
  show Waiting _ _ (world.tally probe.targetIp) ∧ (world.tally probe.targetIp).pending ≤ start
  rw [after]
  have sent : progress.sentCount + 1 = UInt32.ofNat (0 :: tally.windows).length := by
    rw [going.sent, List.length_cons, UInt32.ofNat_add]
    rfl
  have inWindows : (0 :: tally.windows).sum = tally.received := by
    rw [List.sum_cons, Nat.zero_add, going.inWindows]
  refine ⟨?_, le⟩
  cases broadcasts <;> exact ⟨⟨⟨sent, going.replies, inWindows⟩, going.inTime, going.unanswered⟩, List.cons_ne_nil _ _⟩

omit follows in
/-- While what has already arrived is read. -/
structure Draining (options : ArpingConfig) (progress : Progress) (tally : Tally) : Prop
    extends Counted progress tally where
  interrupted : tally.interrupted = true
  answeredOnce : options.quitOnFirstReply = true → tally.received ≤ 1

omit follows in
theorem Draining.passed {progress : Progress} {tally : Tally} {result : Except String Bytes} {pending : Nat}
    (draining : Draining options progress tally) (noReply : isLateReply probe.targetIp (.drained result) = false) :
    Draining options progress { tally.enter probe.targetIp (.drained result) with pending } := by
  rw [enter_drained, noReply]
  exact ⟨⟨draining.sent, draining.replies, draining.inWindows⟩, draining.interrupted, draining.answeredOnce⟩

omit follows in
theorem Draining.answered {progress : Progress} {tally : Tally} {packet : Bytes} {pending : Nat}
    (draining : Draining options progress tally) (reply : IsReply probe.targetIp packet) :
    Draining options { progress with replyCount := progress.replyCount + 1 }
      { tally.enter probe.targetIp (.drained (.ok packet)) with pending } := by
  have isReply : isLateReply probe.targetIp (.drained (.ok packet)) = true := decide_eq_true reply
  have replies : progress.replyCount + 1 = UInt32.ofNat (tally.received + (tally.receivedLate + 1)) := by
    rw [draining.replies, ← Nat.add_assoc, UInt32.ofNat_add _ 1]
    rfl
  rw [enter_drained, isReply]
  exact ⟨⟨draining.sent, replies, draining.inWindows⟩, draining.interrupted, draining.answeredOnce⟩

theorem draining_drain (drainDeadline : Instant) (fuel : Nat) (progress : Progress) :
    Triple (At probe.targetIp fun tally => Draining options progress tally ∧ tally.pending < fuel)
      (forever (drainTurn crate options probe drainDeadline) fuel progress)
      (fun progress => At probe.targetIp (Draining options progress)) World.Halted := by
  refine triple_forever_decreasing (fun progress => At probe.targetIp (Draining options progress))
    (fun world => (world.tally probe.targetIp).pending) (fun progress bound _ => ?_) progress
  refine triple_bind (silent_now (fun tally => Draining options progress tally ∧ tally.pending = bound) _) fun now => ?_
  split
  · refine triple_bind (triple_nextFrame .drained _) fun result => ?_
    cases result with
    | error failure =>
      refine triple_pure ?_
      rintro world ⟨tally, pending, ⟨draining, _⟩, _, after⟩
      show Draining _ _ (world.tally probe.targetIp)
      exact after ▸ draining.passed rfl
    | ok packet =>
      simp only [parseArpReply_eq follows.reader]
      -- a late reply is counted on both sides, any other frame on none
      by_cases reply : IsReply probe.targetIp packet
      · simp only [if_pos reply]
        refine triple_bind (silent_report options _ _ _) fun _ => triple_pure ?_
        rintro world ⟨tally, pending, ⟨draining, same⟩, fewer, after⟩
        show Draining _ _ (world.tally probe.targetIp) ∧ (world.tally probe.targetIp).pending < bound
        rw [after, ← same]
        exact ⟨draining.answered reply, fewer⟩
      · simp only [if_neg reply]
        refine triple_pure ?_
        rintro world ⟨tally, pending, ⟨draining, same⟩, fewer, after⟩
        show Draining _ _ (world.tally probe.targetIp) ∧ (world.tally probe.targetIp).pending < bound
        rw [after, ← same]
        exact ⟨draining.passed (decide_eq_false reply), fewer⟩
  · exact triple_pure fun _ ⟨draining, _⟩ => draining

/-- A turn of the outer loop sends a probe and waits for replies, or ends the run. -/
theorem going_probeTurn (startTime : Instant) {fuel : Nat} (progress : Progress) (bound : Nat) (enough : bound < fuel) :
    Triple (At probe.targetIp fun tally =>
        Going options progress tally ∧ tally.pending + tally.running.toNat = bound)
      (probeTurn crate options probe fuel startTime progress)
      (Turn.post
        (fun progress => At probe.targetIp fun tally =>
          Going options progress tally ∧ tally.pending + tally.running.toNat < bound)
        fun progress => At probe.targetIp (Ended options progress))
      World.Halted := by
  refine triple_ifRunning (fun tally => Going options progress tally ∧ tally.pending + 1 = bound)
    (fun tally => Draining options progress tally ∧ tally.pending < fuel) ?_ ?_ ?_ ?_
  · rintro tally ⟨going, same⟩ running
    rw [running] at same
    exact ⟨going.tested true, same⟩
  · rintro tally ⟨going, same⟩
    have tested := going.tested false
    exact ⟨⟨tested.toCounted, Bool.or_true _, tested.ended.answeredOnce⟩, by show tally.pending < fuel; omega⟩
  · by_cases reached : countReached options progress = true
    · simp only [if_pos reached]
      exact triple_pure fun _ ⟨going, _⟩ => going.ended
    · simp only [if_neg reached]
      refine triple_bind (silent_timedOut options startTime _ _) fun ends => ?_
      cases ends with
      | true => exact triple_pure fun _ ⟨going, _⟩ => going.ended
      | false =>
        -- the window leaves less than the frames there were before it
        cases bound with
        | zero => exact fun _ ⟨_, contra⟩ => nomatch contra
        | succ start =>
          refine triple_conseq (going_sendProbe follows (by omega : start < fuel) progress)
            (fun _ ⟨going, same⟩ => ⟨going, by omega⟩) fun turn world reached => ?_
          cases turn with
          | next progress => exact ⟨reached.1, Nat.lt_succ_of_le reached.2⟩
          | exit progress => exact reached
  · -- behind the signal, what has arrived is read, and the loop ends
    refine triple_bind (silent_now _ _) fun started =>
      triple_bind (draining_drain follows _ fuel progress) fun progress => triple_pure ?_
    intro world draining
    exact ⟨draining.toCounted, fun contra => absurd draining.interrupted (contra ▸ Bool.false_ne_true),
      draining.answeredOnce⟩

omit follows in
theorem going_start {tally : Tally} (noWindow : tally.windows = []) (noReply : tally.received = 0)
    (noLateReply : tally.receivedLate = 0) (state : ArgState) : Going options { state } tally where
  sent := by rw [noWindow]; rfl
  replies := by rw [noReply, noLateReply]; rfl
  inWindows := by rw [noWindow, noReply]; rfl
  inTime := noLateReply
  unanswered _ := noReply

/-- The run ends, and its counters are those of its log. -/
theorem ended_probeLoop (fuel : Nat) :
    Triple (At probe.targetIp fun tally =>
        (∀ state, Going options { state } tally) ∧ tally.pending + tally.running.toNat < fuel)
      (probeLoop crate options fuel probe)
      (fun result => At probe.targetIp fun tally => ∃ progress, result = .ok (success options progress) ∧
        Ended options progress tally)
      World.Halted := by
  refine triple_bind (silent_now _ _) fun created => triple_bind (silent_now _ _) fun startTime =>
    triple_bind (silent_report options _ _ _) fun _ => triple_bind (triple_conseq
      (triple_forever_decreasing (fun progress => At probe.targetIp (Going options progress))
        (fun world => (world.tally probe.targetIp).pending + (world.tally probe.targetIp).running.toNat)
        (going_probeTurn follows startTime) { state := { lastUpdate := created } })
      (fun _ ⟨going, enough⟩ => ⟨going _, enough⟩) fun _ _ ended => ended) fun progress => ?_
  exact triple_bind (silent_report options _ _ _) fun _ => triple_pure fun _ ended => ⟨progress, rfl, ended⟩

end

/-! ## The verdict -/

section

variable {options : ArpingConfig} {progress : Progress} {tally : Tally} (ended : Ended options progress tally)
  (uninterrupted : tally.interrupted = false)
include ended uninterrupted

theorem Ended.replyCount : progress.replyCount = UInt32.ofNat tally.received := by
  rw [ended.replies, ended.inTime uninterrupted, Nat.add_zero]

theorem success_normal_right_iff (normal : options.duplicateAddressDetection = false)
    (notUnsolicited : options.unsolicitedArp = false) :
    (success options progress = true ↔ ∀ replies ∈ tally.windows, 1 ≤ replies) ↔ Separated tally.windows := by
  rw [← counters_right_iff, success, normal, notUnsolicited, ended.replyCount uninterrupted, ended.sent,
    ← ended.inWindows]
  simp only [Bool.false_eq_true, if_false, beq_iff_eq]

theorem success_detection_iff (detection : options.duplicateAddressDetection = true) :
    success options progress = true ↔ 2 ^ 32 ∣ tally.received := by
  rw [success, if_pos detection, beq_iff_eq, ended.replyCount uninterrupted, ← Nat.modEq_zero_iff_dvd]
  exact ofNat_eq_iff tally.received 0

theorem success_detection_right_iff (detection : options.duplicateAddressDetection = true) :
    (success options progress = true ↔ tally.received = 0) ↔ (2 ^ 32 ∣ tally.received → tally.received = 0) := by
  rw [success_detection_iff ended uninterrupted detection]
  constructor
  · exact Iff.mp
  · exact fun right => ⟨right, fun none => none ▸ dvd_zero _⟩

/-- A run that quits on the first reply cannot miscount. -/
theorem success_detection_of_quits (detection : options.duplicateAddressDetection = true)
    (quits : options.quitOnFirstReply = true) : success options progress = true ↔ tally.received = 0 := by
  refine (success_detection_right_iff ended uninterrupted detection).mpr fun divides => ?_
  have once := ended.answeredOnce quits
  exact Nat.eq_zero_of_dvd_of_lt divides (by omega)

end

/-- The run of a probe that could be prepared. -/
theorem ended_arpingRun {crate : ArpingCrate} (follows : crate.FollowsRfcs) {options : ArpingConfig}
    {interfaces : List NetworkInterface} {channel : Opened} {targetIp : Ipv4Addr} {probe : Probe} (fuel : Nat)
    (prepared : prepare options interfaces targetIp channel = .ok probe) :
    Triple (At probe.targetIp fun tally =>
        (∀ state, Going options { state } tally) ∧ tally.pending + tally.running.toNat < fuel)
      (arpingRun crate options interfaces channel fuel targetIp)
      (fun result => At probe.targetIp fun tally => ∃ progress, result = .ok (success options progress) ∧
        Ended options progress tally)
      World.Halted := by
  have loop := @ended_probeLoop _ follows options probe fuel
  simp only [arpingRun, prepared]
  cases unreachableSource options interfaces targetIp with
  | none => exact loop
  | some warned => exact triple_bind (silent_print _ _ _) fun _ => loop

theorem halted_arpingRun {crate : ArpingCrate} {options : ArpingConfig} {interfaces : List NetworkInterface}
    {channel : Opened} {targetIp : Ipv4Addr} {exit : Exit} (fuel : Nat)
    (prepared : prepare options interfaces targetIp channel = .error exit) :
    Triple (fun _ => True) (arpingRun crate options interfaces channel fuel targetIp) (fun _ _ => False)
      World.Halted := by
  have exits : Triple (fun _ => True) (exitWith exit : Proc World (Except String Bool)) (fun _ _ => False)
      World.Halted :=
    triple_bind (triple_modify fun _ _ => .inr ⟨exit, List.mem_append_right _ List.mem_cons_self⟩) fun _ =>
      triple_stop fun _ halted => halted
  simp only [arpingRun, prepared]
  cases unreachableSource options interfaces targetIp with
  | none => exact exits
  | some warned => exact triple_bind (triple_modify fun _ _ => trivial) fun _ => exits

/-- A run begins with nothing counted, and each frame and the signal can end a turn. -/
theorem going_start_run (options : ArpingConfig) (targetIp : Ipv4Addr) {environment : Environment} {fuel : Nat}
    (enough : environment.frames.length + 1 < fuel) :
    At targetIp (fun tally => (∀ state, Going options { state } tally) ∧
      tally.pending + tally.running.toNat < fuel) (World.start environment) := by
  have atMostOne := Bool.toNat_le environment.running
  refine ⟨going_start rfl rfl rfl, ?_⟩
  show environment.frames.length + environment.running.toNat < fuel
  omega

/-- With fuel for the frames, a run returns a verdict, or it exits before its loop or waits for a frame for ever. An
uninterrupted run in the normal mode judges rightly exactly if the replies beyond the first of a window do not look
like replies to the probes without one; in the detection mode, if the number of replies does not wrap to zero, and
always where it quits on the first reply, as it does when called by `main`. -/
theorem verdict_right_iff (crate : ArpingCrate) (follows : crate.FollowsRfcs) (options : ArpingConfig)
    (interfaces : List NetworkInterface) (channel : Opened) (targetIp : Ipv4Addr) (environment : Environment)
    (fuel : Nat) (enough : environment.frames.length + 1 < fuel) :
    match arpingRun crate options interfaces channel fuel targetIp (World.start environment) with
    | .done result final => ∃ probe ok, prepare options interfaces targetIp channel = .ok probe ∧ result = .ok ok ∧
      (options.unsolicitedArp = false → probe.targetIp = targetIp) ∧
      (interrupted final.log = false →
        (options.duplicateAddressDetection = false → options.unsolicitedArp = false →
          ((ok = true ↔ ∀ replies ∈ windows targetIp final.log, 1 ≤ replies) ↔
            Separated (windows targetIp final.log))) ∧
        (options.duplicateAddressDetection = true →
          ((ok = true ↔ received probe.targetIp final.log = 0) ↔
            (2 ^ 32 ∣ received probe.targetIp final.log → received probe.targetIp final.log = 0)) ∧
          (options.quitOnFirstReply = true → (ok = true ↔ received probe.targetIp final.log = 0))))
    | .stopped final => final.Halted := by
  cases prepared : prepare options interfaces targetIp channel with
  | error exit =>
    -- a run that is not prepared exits
    have halts := @halted_arpingRun crate _ _ _ _ _ fuel prepared (World.start environment) trivial
    cases ran : arpingRun crate options interfaces channel fuel targetIp (World.start environment) with
    | done result final =>
      rw [ran] at halts
      exact halts.elim
    | stopped final =>
      rw [ran] at halts
      exact halts
  | ok probe =>
    have ends := ended_arpingRun follows fuel prepared _ (going_start_run options probe.targetIp enough)
    cases ran : arpingRun crate options interfaces channel fuel targetIp (World.start environment) with
    | done result final =>
      rw [ran] at ends
      obtain ⟨progress, returned, ended⟩ := ends
      refine ⟨probe, success options progress, rfl, returned, fun notUnsolicited =>
        prepare_targetIp notUnsolicited prepared, fun uninterrupted => ⟨fun normal notUnsolicited => ?_,
        fun detection => ⟨success_detection_right_iff ended uninterrupted detection, fun quits =>
          success_detection_of_quits ended uninterrupted detection quits⟩⟩⟩
      rw [← prepare_targetIp notUnsolicited prepared]
      exact success_normal_right_iff ended uninterrupted normal notUnsolicited
    | stopped final =>
      rw [ran] at ends
      exact ends

/-! ## Two runs -/

def ownMac : MacAddr := ⟨2, 0, 0, 0, 0, 1⟩

def lan : NetworkInterface where
  name := "eth0"
  mac := some ownMac
  ips := [⟨.v4 ⟨10, 0, 0, 1⟩, fun addr => addr.a == 10⟩]

/-- A reply of 10.0.0.2 from the host with this address. -/
def replyFrom (mac : MacAddr) : Bytes :=
  ethernetHeader ownMac mac ++ arpMessage ArpOperations.Reply mac ownMac ⟨10, 0, 0, 2⟩ ⟨10, 0, 0, 1⟩

/-- The clock is read every 200 ms, and nobody interrupts. -/
def steadily (frames : List (Except String Bytes)) : Environment where
  interrupts _ := false
  instants reading := reading * 200000000
  frames

/-- `arping -c count -I eth0 10.0.0.2`. -/
def trial (count : UInt32) (frames : List (Except String Bytes)) : Outcome World (Except String Bool) :=
  arpingRun .rfcs { count := some count, device := some "eth0" } [lan] .ethernet 20 ⟨10, 0, 0, 2⟩
    (World.start (steadily frames))

/-- Two probes with a reply each, and a channel that fails behind either reply. -/
def twoReplies : List (Except String Bytes) :=
  [.ok (replyFrom ⟨2, 0, 0, 0, 0, 2⟩), .error "Network is down", .ok (replyFrom ⟨2, 0, 0, 0, 0, 2⟩),
    .error "Network is down"]

theorem verdict_right_iff_twoReplies :
    let ran := trial 2 twoReplies
    windows ⟨10, 0, 0, 2⟩ ran.state.log = [1, 1] ∧
      (ran.value? = some (.ok true) ↔ ∀ replies ∈ windows ⟨10, 0, 0, 2⟩ ran.state.log, 1 ≤ replies) := by
  intro ran
  refine ⟨by decide +kernel, ?_⟩
  have judged := verdict_right_iff .rfcs ArpingCrate.rfcs_follows { count := some 2, device := some "eth0" } [lan]
    .ethernet ⟨10, 0, 0, 2⟩ (steadily twoReplies) 20 (by decide)
  have uninterrupted : interrupted ran.state.log = false := by decide +kernel
  have separated : Separated (windows ⟨10, 0, 0, 2⟩ ran.state.log) := by decide +kernel
  have done : ran.isDone = true := by decide +kernel
  rw [show arpingRun _ _ _ _ _ _ _ = ran from rfl] at judged
  clear_value ran
  cases ran with
  | stopped final => exact absurd done Bool.false_ne_true
  | done result final =>
    obtain ⟨probe, ok, _, rfl, _, right⟩ := judged
    have verdict := ((right uninterrupted).1 rfl rfl).mpr separated
    simpa [Outcome.value?, Outcome.state] using verdict

/-- Two hosts answer the first probe and nobody answers the second. -/
theorem second_reply_masks_missing :
    let ran := trial 2 ([replyFrom ⟨2, 0, 0, 0, 0, 2⟩, replyFrom ⟨2, 0, 0, 0, 0, 3⟩, [], [], [], [], []].map .ok)
    interrupted ran.state.log = false ∧ windows ⟨10, 0, 0, 2⟩ ran.state.log = [0, 2] ∧
      ¬ (ran.value? = some (.ok true) ↔ ∀ replies ∈ windows ⟨10, 0, 0, 2⟩ ran.state.log, 1 ≤ replies) := by
  decide +kernel

end Utiputils.Arping
