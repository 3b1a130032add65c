import Utiputils.Lib.EventLog
import Utiputils.Lib.Turns
import Utiputils.Arping.Exchange

/-! # Broadcast or not

Whether a probe is broadcast is decided three times: for its Ethernet destination, for the address that its message
asks for, and for the counter. Each time the clock is read anew, and the address that replies have taught expires a
minute after it was learned. -/

namespace Utiputils.Arping

open Utiputils.Lib Utiputils.Pnet Proc

/-! ## What a log shows -/

section

variable (options : ArpingConfig) (targetIp : Ipv4Addr)

/-- A reply teaches its address, unless the user wants broadcasts only. -/
def learn (known : Option MacAddr) : Event → Option MacAddr
  | .next (.ok frame) => if IsReply targetIp frame ∧ options.broadcastOnly = false then some (macAt frame 22) else known
  | _ => known

/-- The address that has been learned last. -/
def learned (log : List Event) : Option MacAddr := log.foldl (learn options targetIp) none

/-- The Ethernet destination and the address asked for are both broadcast, or both the learned address. -/
def Coherent (known : Option MacAddr) (frame : Bytes) : Prop :=
  (macAt frame 0 = .broadcast ∧ macAt frame 32 = .broadcast) ∨
    ∃ mac, known = some mac ∧ macAt frame 0 = mac ∧ macAt frame 32 = mac

def CoherentEvent (known : Option MacAddr) : Event → Prop
  | .sendTo frame => Coherent known frame
  | _ => True

/-- Every frame that has been sent is coherent. -/
def FramesCoherent (log : List Event) : Prop :=
  Law (fun before event => CoherentEvent (learned options targetIp before) event) log

end

/-- A frame that is sent to the broadcast address. -/
def isBroadcast : Event → Bool
  | .sendTo frame => macAt frame 0 = .broadcast
  | _ => false

def broadcastFrames (log : List Event) : Nat := log.countP isBroadcast

/-- The count that a summary reports. -/
def reportOf : Event → Option UInt32
  | .printed (.summary _ _ broadcasts) => some broadcasts
  | _ => none

def reports (log : List Event) : List UInt32 := log.filterMap reportOf

/-! ## The decisions of a run -/

/-- What the three decisions about a probe depend on. -/
structure Decision where
  state : ArgState
  readings : Stream' Instant

namespace Decision

/-- What `should_broadcast` returns the first, the second or the third time. -/
def broadcasts (decision : Decision) (reading : Nat) : Bool :=
  expired decision.state (decision.readings.get reading)

/-- The learned address expires behind the first reading, by this one. -/
def expiresBy (decision : Decision) (reading : Nat) : Bool :=
  !decision.broadcasts 0 && decision.broadcasts reading

/-- Some reply had the broadcast address for the address of its sender. -/
def taughtBroadcast (decision : Decision) : Bool := decision.state.targetMac == some .broadcast

/-- The frame is sent to the broadcast address. -/
def isBroadcast (decision : Decision) : Bool := decision.broadcasts 0 || decision.taughtBroadcast

/-- The probe counts as a broadcast and is none. -/
def countsWrongly (decision : Decision) : Bool := decision.expiresBy 2 && !decision.taughtBroadcast

/-- The probe is a broadcast and does not count as one. -/
def goesUncounted (decision : Decision) : Bool := decision.taughtBroadcast && !decision.broadcasts 2

end Decision

section

variable (crate : ArpingCrate) (options : ArpingConfig) (probe : Probe) (fuel : Nat)

/-- What the timeout says of a reading of the clock. -/
def overdue (startTime reading : Instant) : Bool :=
  match options.timeout with
  | none => false
  | some timeout => timeout.toNat < Duration.asSecs (reading - startTime)

/-- The readings of the clock that a turn leaves to its probe. -/
def readingsOf (world : World) : Stream' Instant :=
  match options.timeout with
  | none => world.instants
  | some _ => world.instants.tail

/-- The decisions of a turn of the outer loop, if it sends a probe. -/
def decisionOf (startTime : Instant) (turn : Progress × World) : Option Decision :=
  if (turn.2.running && !turn.2.interrupts.head) = true ∧ countReached options turn.1 = false ∧
      overdue options startTime turn.2.instants.head = false then
    some { state := turn.1.state, readings := readingsOf options turn.2 }
  else none

/-- What comes before the loop. -/
def opening : Proc World (Instant × Progress) := do
  let created ← now
  let startTime ← now
  report options (.title probe.targetIp probe.srcIp probe.interface.name)
  pure (startTime, { state := { lastUpdate := created } })

theorem probeLoop_opening :
    probeLoop crate options fuel probe = (do
      let (startTime, start) ← opening options probe
      let progress ← forever (probeTurn crate options probe fuel startTime) fuel start
      report options (.summary progress.sentCount progress.replyCount progress.broadcastCount)
      pure (.ok (success options progress))) := by
  simp only [probeLoop, opening, bind_assoc, pure_bind]

/-- The decisions about the probes of the loop, in their order. -/
def decisions (world : World) : List Decision :=
  match opening options probe world with
  | .stopped _ => []
  | .done (startTime, start) begun =>
    (turns (probeTurn crate options probe fuel startTime) fuel start begun).filterMap (decisionOf options startTime)

end

section

variable (crate : ArpingCrate) (options : ArpingConfig) (interfaces : List NetworkInterface) (channel : Opened)
  (fuel : Nat) (targetIp : Ipv4Addr)

/-- The address that the probes of a run ask for. -/
def askedIp : Ipv4Addr :=
  match prepare options interfaces targetIp channel with
  | .error _ => targetIp
  | .ok probe => probe.targetIp

/-- The decisions about the probes of a run. -/
def runDecisions (environment : Environment) : List Decision :=
  match prepare options interfaces targetIp channel with
  | .error _ => []
  | .ok probe =>
    decisions crate options probe fuel <|
      match unreachableSource options interfaces targetIp with
      | some (source, interface) => (World.start environment).note (.printed (.sourceWarning source interface))
      | none => World.start environment

end

/-- No learned address expires between the first two decisions about a probe, unless it is the broadcast address. -/
def Steady (decisions : List Decision) : Prop :=
  ∀ decision ∈ decisions, decision.expiresBy 1 = true → decision.taughtBroadcast = true

instance (decisions : List Decision) : Decidable (Steady decisions) :=
  inferInstanceAs (Decidable (∀ decision ∈ decisions, _))

/-- As many probes are counted wrongly as broadcasts go uncounted, as far as 32 bits show. -/
def Balanced (decisions : List Decision) : Prop :=
  decisions.countP Decision.isBroadcast < 2 ^ 32 ∧
    decisions.countP Decision.countsWrongly ≡ decisions.countP Decision.goesUncounted [MOD 2 ^ 32]

instance (decisions : List Decision) : Decidable (Balanced decisions) := inferInstanceAs (Decidable (_ ∧ _))

/-! ## The sheet of a log -/

/-- What a run changes of its log, as far as it matters here. -/
structure Sheet where
  coherent : Prop
  known : Option MacAddr
  broadcasts : Nat
  reports : List UInt32

/-- No reading of the clock is smaller than the one before. -/
def Ascending (readings : Stream' Instant) : Prop := ∀ index, readings.get index ≤ readings.get (index + 1)

section

variable (options : ArpingConfig) (targetIp : Ipv4Addr)

def sheet (log : List Event) : Sheet where
  coherent := FramesCoherent options targetIp log
  known := learned options targetIp log
  broadcasts := broadcastFrames log
  reports := reports log

def Sheet.enter (before : Sheet) (event : Event) : Sheet where
  coherent := before.coherent ∧ CoherentEvent before.known event
  known := learn options targetIp before.known event
  broadcasts := before.broadcasts + (isBroadcast event).toNat
  reports := before.reports ++ (reportOf event).toList

theorem sheet_concat (log : List Event) (event : Event) :
    sheet options targetIp (log ++ [event]) = (sheet options targetIp log).enter options targetIp event := by
  have counted : broadcastFrames (log ++ [event]) = broadcastFrames log + (isBroadcast event).toNat := by
    rw [broadcastFrames, List.countP_append, List.countP_singleton]
    cases isBroadcast event <;> rfl
  have reported : reports (log ++ [event]) = reports log ++ (reportOf event).toList := filterMap_concat ..
  simp only [sheet, Sheet.enter, counted, reported, FramesCoherent, law_concat, learned, List.foldl_append,
    List.foldl_cons, List.foldl_nil]

/-- The event does not show on the sheet. -/
def Unseen (event : Event) : Prop := ∀ before : Sheet, before.enter options targetIp event = before

/-- The log shows this sheet, and the clock does not go back. -/
def Shows (shown : Sheet) (world : World) : Prop :=
  sheet options targetIp world.log = shown ∧ Ascending world.instants

/-- The process does not show on the sheet. -/
def Calm {Result : Type} (process : Proc World Result) : Prop :=
  ∀ shown, Keeps (Shows options targetIp shown) process

end

theorem Ascending.tail {readings : Stream' Instant} (ascending : Ascending readings) : Ascending readings.tail :=
  fun index => ascending (index + 1)

section

variable {options : ArpingConfig} {targetIp : Ipv4Addr}

theorem unseen_of {event : Event} (noFrame : ∀ known, CoherentEvent known event)
    (noReply : ∀ known, learn options targetIp known event = known) (noBroadcast : isBroadcast event = false)
    (noReport : reportOf event = none) : Unseen options targetIp event := by
  intro before
  simp only [Sheet.enter, noFrame, noReply, noBroadcast, noReport, and_true, Bool.toNat_false, Nat.add_zero,
    Option.toList_none, List.append_nil]

theorem unseen_isRunning (running : Bool) : Unseen options targetIp (.isRunning running) :=
  unseen_of (fun _ => trivial) (fun _ => rfl) rfl rfl

theorem unseen_drained (result : Except String Bytes) : Unseen options targetIp (.drained result) :=
  unseen_of (fun _ => trivial) (fun _ => rfl) rfl rfl

theorem unseen_blocked : Unseen options targetIp .blocked := unseen_of (fun _ => trivial) (fun _ => rfl) rfl rfl

theorem unseen_printed {output : Output} (noReport : reportOf (.printed output) = none) :
    Unseen options targetIp (.printed output) :=
  unseen_of (fun _ => trivial) (fun _ => rfl) rfl noReport

theorem shows_note {shown : Sheet} {world : World} (event : Event) (shows : Shows options targetIp shown world) :
    Shows options targetIp (shown.enter options targetIp event) (world.note event) := by
  obtain ⟨same, ascending⟩ := shows
  exact ⟨(sheet_concat options targetIp world.log event).trans (congrArg (·.enter options targetIp event) same), ascending⟩

theorem shows_unseen {shown : Sheet} {world : World} {event : Event} (unseen : Unseen options targetIp event)
    (shows : Shows options targetIp shown world) : Shows options targetIp shown (world.note event) :=
  unseen shown ▸ shows_note event shows

/-! ## Processes that do not show on the sheet -/

theorem calm_bind {Result Next : Type} {process : Proc World Result} {next : Result → Proc World Next}
    (first : Calm options targetIp process) (second : ∀ value, Calm options targetIp (next value)) :
    Calm options targetIp (process >>= next) :=
  fun shown => keeps_bind (first shown) fun value => second value shown

theorem calm_pure {Result : Type} {value : Result} : Calm options targetIp (pure value : Proc World Result) :=
  fun _ => keeps_pure

theorem calm_now : Calm options targetIp now :=
  fun _ => keeps_modifyGet fun _ shows => ⟨shows.1, shows.2.tail⟩

theorem calm_elapsed (earlier : Instant) : Calm options targetIp (elapsed earlier) :=
  calm_bind calm_now fun _ => calm_pure

theorem calm_report {output : Output} (noReport : reportOf (.printed output) = none) :
    Calm options targetIp (report options output) := by
  intro shown
  unfold report
  split
  · exact keeps_pure
  · exact keeps_modify fun _ shows => shows_unseen (unseen_printed noReport) shows

theorem calm_isRunning : Calm options targetIp isRunning :=
  fun _ => keeps_modifyGet fun _ shows => shows_unseen (unseen_isRunning _) shows

theorem calm_nextFrame {entry : Except String Bytes → Event} (unseen : ∀ result, Unseen options targetIp (entry result)) :
    Calm options targetIp (nextFrame entry) := by
  intro shown
  refine triple_get_bind fun seen shows => ?_
  cases frames : seen.frames with
  | nil =>
    refine triple_bind (triple_modify fun world same => ?_) fun _ => keeps_stop
    exact shows_unseen unseen_blocked (same ▸ shows)
  | cons result rest =>
    refine triple_bind (triple_modify fun world same => ?_) fun _ => keeps_pure
    rw [same]
    exact shows_unseen (unseen result) shows

/-- What the drain changes of the progress is the number of replies. -/
theorem shows_drainTurn (crate : ArpingCrate) (probe : Probe) (drainDeadline : Instant) (shown : Sheet)
    (count : UInt32) (progress : Progress) :
    Triple (fun world => progress.broadcastCount = count ∧ Shows options targetIp shown world)
      (drainTurn crate options probe drainDeadline progress)
      (Turn.post (fun progress world => progress.broadcastCount = count ∧ Shows options targetIp shown world)
        fun progress world => progress.broadcastCount = count ∧ Shows options targetIp shown world)
      (Shows options targetIp shown) := by
  refine triple_given fun same => triple_bind (calm_now shown) fun now => ?_
  split
  · refine triple_bind (calm_nextFrame unseen_drained shown) fun result => ?_
    cases result with
    | error message => exact triple_pure fun _ shows => ⟨same, shows⟩
    | ok packet =>
      dsimp only
      cases parseArpReply crate.reader packet probe.targetIp with
      | none => exact triple_pure fun _ shows => ⟨same, shows⟩
      | some mac =>
        have printed : Calm options targetIp (report options (.lateReply probe.targetIp mac)) := calm_report rfl
        exact triple_bind (printed shown) fun _ => triple_pure fun _ shows => ⟨same, shows⟩
  · exact triple_pure fun _ shows => ⟨same, shows⟩

theorem shows_drain (crate : ArpingCrate) (probe : Probe) (drainDeadline : Instant) (fuel : Nat) (shown : Sheet)
    (progress : Progress) :
    Triple (Shows options targetIp shown) (forever (drainTurn crate options probe drainDeadline) fuel progress)
      (fun drained world => drained.broadcastCount = progress.broadcastCount ∧ Shows options targetIp shown world)
      (Shows options targetIp shown) := by
  have drained := triple_forever
    (fun drained world => drained.broadcastCount = progress.broadcastCount ∧ Shows options targetIp shown world)
    (shows_drainTurn crate probe drainDeadline shown progress.broadcastCount) (fun _ _ holds => holds.2) fuel progress
  exact triple_conseq drained (fun _ shows => ⟨rfl, shows⟩) fun _ _ reached => reached

/-! ## A wait window -/

/-- The log shows this sheet but for the address that has been learned, and the progress knows that address. -/
def Waits (options : ArpingConfig) (targetIp : Ipv4Addr) (shown : Sheet) (count : UInt32) (progress : Progress)
    (world : World) : Prop :=
  progress.broadcastCount = count ∧
    Shows options targetIp { shown with known := progress.state.targetMac } world

/-- The same where it does not matter any more what the progress knows. -/
def Waited (options : ArpingConfig) (targetIp : Ipv4Addr) (shown : Sheet) (world : World) : Prop :=
  ∃ known, Shows options targetIp { shown with known } world

/-- Behind a turn of a window. -/
def waitEnds (options : ArpingConfig) (targetIp : Ipv4Addr) (shown : Sheet) (count : UInt32) :
    Turn Progress (Turn Progress Progress) → World → Prop :=
  Turn.post (Waits options targetIp shown count)
    (Turn.post (Waits options targetIp shown count)
      fun progress world => progress.broadcastCount = count ∧ Waited options targetIp shown world)

theorem Calm.waits {Result : Type} {process : Proc World Result} (calm : Calm options targetIp process)
    (shown : Sheet) (known : Option MacAddr) :
    Triple (Shows options targetIp { shown with known }) process (fun _ => Shows options targetIp { shown with known })
      (Waited options targetIp shown) :=
  triple_stopped (calm _) fun _ shows => ⟨known, shows⟩

theorem waits_windowEnd (startWait : Instant) (shown : Sheet) (count : UInt32) (progress : Progress) :
    Triple (Waits options targetIp shown count progress) (windowEnd options startWait progress)
      (waitEnds options targetIp shown count) (Waited options targetIp shown) := by
  refine triple_given fun same => triple_bind ((calm_elapsed startWait).waits shown _) fun waited => ?_
  split
  · exact triple_pure fun _ shows => ⟨same, shows⟩
  · exact triple_pure fun _ shows => ⟨same, shows⟩

/-- What the log has learned from a reply, where the progress knows this much. -/
def taught (options : ArpingConfig) (mac : MacAddr) (known : Option MacAddr) : Option MacAddr :=
  if options.broadcastOnly = false then some mac else known

/-- A reply has taught its address to the log, and now teaches it to the progress. -/
theorem waits_takeReply (probe : Probe) (startWait : Instant) (mac : MacAddr) (shown : Sheet) (count : UInt32)
    (progress : Progress) :
    Triple (fun world => progress.broadcastCount = count ∧
        Shows options targetIp { shown with known := taught options mac progress.state.targetMac } world)
      (takeReply options probe startWait mac progress) (waitEnds options targetIp shown count)
      (Waited options targetIp shown) := by
  refine triple_given fun same => triple_bind ((calm_elapsed startWait).waits shown _) fun duration => ?_
  have printed : Calm options targetIp (report options (.reply probe.targetIp mac duration)) := calm_report rfl
  refine triple_bind (printed.waits shown _) fun _ => ?_
  split
  · exact triple_pure fun _ shows => ⟨same, _, shows⟩
  · split
    next broadcastOnly =>
      have unchanged : taught options mac progress.state.targetMac = progress.state.targetMac := by
        rw [taught, broadcastOnly, if_neg (by decide)]
      rw [unchanged]
      exact triple_conseq (waits_windowEnd startWait shown count _) (fun _ shows => ⟨same, shows⟩)
        fun _ _ reached => reached
    next unicast =>
      have changed : taught options mac progress.state.targetMac = some mac := if_pos (by simpa using unicast)
      rw [changed]
      exact triple_bind (calm_now.waits shown _) fun now => triple_conseq (waits_windowEnd startWait shown count _)
        (fun _ shows => ⟨same, shows⟩) fun _ _ reached => reached

theorem enter_next (before : Sheet) (result : Except String Bytes) :
    before.enter options targetIp (.next result) =
      { before with known := learn options targetIp before.known (.next result) } := by
  simp only [Sheet.enter, CoherentEvent, isBroadcast, reportOf, and_true, Bool.toNat_false, Nat.add_zero,
    Option.toList_none, List.append_nil]

theorem shows_next (shown : Sheet) :
    Triple (Shows options targetIp shown) (nextFrame .next)
      (fun result => Shows options targetIp { shown with known := learn options targetIp shown.known (.next result) })
      (Shows options targetIp shown) := by
  refine triple_get_bind fun seen shows => ?_
  cases frames : seen.frames with
  | nil =>
    refine triple_bind (triple_modify fun world same => ?_) fun _ => triple_stop fun _ shows => shows
    exact shows_unseen unseen_blocked (same ▸ shows)
  | cons result rest =>
    refine triple_bind (triple_modify fun world same => ?_) fun _ => triple_pure fun _ shows => shows
    rw [same, ← enter_next]
    exact shows_note (.next result) shows

theorem waits_waitTurn {crate : ArpingCrate} (follows : crate.FollowsRfcs) (probe : Probe) (startWait : Instant)
    (shown : Sheet) (count : UInt32) (progress : Progress) :
    Triple (Waits options probe.targetIp shown count progress)
      (waitTurn crate options probe startWait progress) (waitEnds options probe.targetIp shown count)
      (Waited options probe.targetIp shown) := by
  refine triple_given fun same => triple_bind (calm_isRunning.waits shown _) fun running => ?_
  split
  · refine triple_bind (triple_stopped (shows_next _) fun world shows => ⟨_, shows⟩) fun result => ?_
    cases result with
    | error message => exact triple_pure fun _ shows => ⟨same, shows⟩
    | ok packet =>
      dsimp only
      rw [parseArpReply_eq follows.reader]
      -- only a reply can teach the address of the target
      by_cases reply : IsReply probe.targetIp packet
      · have learns : learn options probe.targetIp progress.state.targetMac (.next (.ok packet)) =
            taught options (macAt packet 22) progress.state.targetMac := by
          simp only [learn, taught, reply, true_and]
        rw [if_pos reply, learns]
        exact triple_conseq (waits_takeReply probe startWait _ shown count progress) (fun _ shows => ⟨same, shows⟩)
          fun _ _ reached => reached
      · have learns : learn options probe.targetIp progress.state.targetMac (.next (.ok packet)) =
            progress.state.targetMac := by
          simp only [learn, reply, false_and, if_false]
        rw [if_neg reply, learns]
        exact triple_conseq (waits_windowEnd startWait shown count progress) (fun _ shows => ⟨same, shows⟩)
          fun _ _ reached => reached
  · exact triple_pure fun _ shows => ⟨same, shows⟩

/-- A window changes no more of the sheet than the learned address. -/
theorem waits_window {crate : ArpingCrate} (follows : crate.FollowsRfcs) (probe : Probe) (startWait : Instant)
    (fuel : Nat) (shown : Sheet) (count : UInt32) (progress : Progress) :
    Triple (Waits options probe.targetIp shown count progress)
      (forever (waitTurn crate options probe startWait) fuel progress)
      (Turn.post (Waits options probe.targetIp shown count)
        fun progress world => progress.broadcastCount = count ∧ Waited options probe.targetIp shown world)
      (Waited options probe.targetIp shown) :=
  triple_forever (Waits options probe.targetIp shown count) (waits_waitTurn follows probe startWait shown count)
    (fun _ _ waits => ⟨_, waits.2⟩) fuel progress

end

/-! ## What the decisions make of a probe -/

theorem expired_mono {state : ArgState} {earlier later : Instant} (le : earlier ≤ later)
    (old : expired state earlier = true) : expired state later = true := by
  cases learned : state.targetMac with
  | none => simp only [expired, learned]
  | some mac =>
    simp only [expired, learned, decide_eq_true_eq] at old ⊢
    exact old.trans_le (Nat.sub_le_sub_right le _)

theorem Ascending.le {readings : Stream' Instant} (ascending : Ascending readings) {earlier later : Nat}
    (le : earlier ≤ later) : readings.get earlier ≤ readings.get later :=
  monotone_nat_of_le_succ ascending le

theorem Decision.broadcasts_mono {decision : Decision} (ascending : Ascending decision.readings) {earlier later : Nat}
    (le : earlier ≤ later) (old : decision.broadcasts earlier = true) : decision.broadcasts later = true :=
  expired_mono (ascending.le le) old

/-- What is not broadcast goes to a learned address. -/
theorem Decision.learned_of_not_broadcasts {decision : Decision} {reading : Nat}
    (unicast : decision.broadcasts reading = false) : ∃ mac, decision.state.targetMac = some mac := by
  cases learned : decision.state.targetMac with
  | none => simp [Decision.broadcasts, expired, learned] at unicast
  | some mac => exact ⟨mac, rfl⟩

section

variable (decision : Decision) (srcMac : MacAddr) (operation : UInt16) (srcIp dstIp : Ipv4Addr)

/-- The frame that the first two decisions make. -/
def Decision.frame : Bytes :=
  arpFrame (chosenMac decision.state (decision.broadcasts 0)) srcMac
    (chosenMac decision.state (decision.broadcasts 1)) operation srcIp dstIp []

theorem isBroadcast_frame :
    isBroadcast (.sendTo (decision.frame srcMac operation srcIp dstIp)) = decision.isBroadcast := by
  have destination : macAt (decision.frame srcMac operation srcIp dstIp) 0 =
    chosenMac decision.state (decision.broadcasts 0) := rfl
  rw [isBroadcast, destination, Decision.isBroadcast, Decision.taughtBroadcast]
  cases first : decision.broadcasts 0 with
  | true => rfl
  | false =>
    obtain ⟨mac, learned⟩ := Decision.learned_of_not_broadcasts first
    simp [chosenMac, learned, beq_eq_decide]

/-- The frame is coherent unless the learned address expires between the first two readings. -/
theorem coherent_frame_iff (ascending : Ascending decision.readings) :
    Coherent decision.state.targetMac (decision.frame srcMac operation srcIp dstIp) ↔
      (decision.expiresBy 1 = true → decision.taughtBroadcast = true) := by
  have destination : macAt (decision.frame srcMac operation srcIp dstIp) 0 =
    chosenMac decision.state (decision.broadcasts 0) := rfl
  have asked : macAt (decision.frame srcMac operation srcIp dstIp) 32 =
    chosenMac decision.state (decision.broadcasts 1) := rfl
  rw [Coherent, destination, asked, Decision.expiresBy, Decision.taughtBroadcast]
  cases first : decision.broadcasts 0 with
  | true =>
    have second := Decision.broadcasts_mono ascending (by decide : 0 ≤ 1) first
    simp [chosenMac, second]
  | false =>
    obtain ⟨mac, learned⟩ := Decision.learned_of_not_broadcasts first
    cases second : decision.broadcasts 1 with
    | true =>
      simp [chosenMac, learned]
      exact Eq.symm
    | false => simp [chosenMac, learned]

end

/-! ## The outer loop -/

/-- The sheet and the counter are what the decisions have made of them. -/
structure Recorded (decisions : List Decision) (count : UInt32) (shown : Sheet) : Prop where
  coherent : shown.coherent ↔ Steady decisions
  broadcasts : shown.broadcasts = decisions.countP Decision.isBroadcast
  counted : count = UInt32.ofNat (decisions.countP (·.broadcasts 2))
  ordered : ∀ decision ∈ decisions, decision.broadcasts 0 = true → decision.broadcasts 2 = true
  reports : shown.reports = []

/-- At the head of a turn of the outer loop. -/
def Goes (options : ArpingConfig) (targetIp : Ipv4Addr) (decisions : List Decision) (progress : Progress)
    (world : World) : Prop :=
  ∃ shown, Recorded decisions progress.broadcastCount shown ∧ shown.known = progress.state.targetMac ∧
    Shows options targetIp shown world

/-- At the end of the loop. -/
def Ends (options : ArpingConfig) (targetIp : Ipv4Addr) (decisions : List Decision) (count : UInt32)
    (world : World) : Prop :=
  ∃ shown, Recorded decisions count shown ∧ Waited options targetIp shown world

/-- Behind a turn of the outer loop. -/
def TurnEnds (options : ArpingConfig) (targetIp : Ipv4Addr) (decisions : List Decision) :
    Turn Progress Progress → World → Prop :=
  Turn.post (Goes options targetIp decisions) fun last => Ends options targetIp decisions last.broadcastCount

/-- Where a run is cut short, the counter is not seen any more. -/
def CutShort (options : ArpingConfig) (targetIp : Ipv4Addr) (decisions : List Decision) (world : World) : Prop :=
  ∃ count, Ends options targetIp decisions count world

/-- The address does not matter to the counters. -/
theorem Recorded.known {decisions : List Decision} {count : UInt32} {shown : Sheet}
    (recorded : Recorded decisions count shown) (known : Option MacAddr) :
    Recorded decisions count { shown with known } :=
  ⟨recorded.coherent, recorded.broadcasts, recorded.counted, recorded.ordered, recorded.reports⟩

theorem Waits.goes {options : ArpingConfig} {targetIp : Ipv4Addr} {decisions : List Decision} {shown : Sheet}
    {count : UInt32} {progress : Progress} {world : World} (waits : Waits options targetIp shown count progress world)
    (recorded : Recorded decisions count shown) : Goes options targetIp decisions progress world :=
  ⟨_, waits.1 ▸ recorded.known _, rfl, waits.2⟩

theorem Goes.ends {options : ArpingConfig} {targetIp : Ipv4Addr} {decisions : List Decision} {progress : Progress}
    {world : World} (goes : Goes options targetIp decisions progress world) :
    Ends options targetIp decisions progress.broadcastCount world := by
  obtain ⟨shown, recorded, _, shows⟩ := goes
  exact ⟨shown, recorded, shown.known, shows⟩

theorem Ascending.readingsOf {world : World} (ascending : Ascending world.instants) (options : ArpingConfig) :
    Ascending (readingsOf options world) := by
  rw [Arping.readingsOf]
  cases options.timeout with
  | none => exact ascending
  | some timeout => exact ascending.tail

theorem Recorded.concat {decisions : List Decision} {decision : Decision} {count : UInt32} {shown : Sheet}
    (recorded : Recorded decisions count shown) (ascending : Ascending decision.readings)
    (known : shown.known = decision.state.targetMac) (options : ArpingConfig) (targetIp : Ipv4Addr) (srcMac : MacAddr)
    (operation : UInt16) (srcIp dstIp : Ipv4Addr) :
    Recorded (decisions ++ [decision]) (if decision.broadcasts 2 then count + 1 else count)
      (shown.enter options targetIp (.sendTo (decision.frame srcMac operation srcIp dstIp))) where
  coherent := by
    simp only [Sheet.enter, CoherentEvent, known, coherent_frame_iff _ _ _ _ _ ascending, recorded.coherent, Steady,
      List.forall_mem_append, List.forall_mem_singleton]
  broadcasts := by
    simp only [Sheet.enter, isBroadcast_frame, recorded.broadcasts, List.countP_append, List.countP_singleton]
    cases decision.isBroadcast <;> rfl
  counted := by
    rw [List.countP_append, List.countP_singleton, recorded.counted]
    cases decision.broadcasts 2 with
    | true => exact (UInt32.ofNat_add _ 1).symm
    | false => rfl
  ordered := by
    rw [List.forall_mem_append, List.forall_mem_singleton]
    exact ⟨recorded.ordered, decision.broadcasts_mono ascending (by decide)⟩
  reports := by
    simp only [Sheet.enter, recorded.reports, reportOf, Option.toList_none, List.append_nil]

section

variable {crate : ArpingCrate} (follows : crate.FollowsRfcs) {options : ArpingConfig} {probe : Probe}

theorem timedOut_apply (options : ArpingConfig) (startTime : Instant) (world : World) :
    timedOut options startTime world = .done (overdue options startTime world.instants.head)
      { world with instants := readingsOf options world } := by
  rw [timedOut, overdue, readingsOf]
  cases options.timeout with
  | none => rfl
  | some timeout => rfl

/-- The second reading comes right behind the first, where it matters. -/
theorem expired_consulted (state : ArgState) (world : World) (index : Nat) :
    expired state ((consulted state world).instants.get index) = expired state (world.instants.get (index + 1)) := by
  rw [consulted, expired, expired]
  cases state.targetMac with
  | none => rfl
  | some mac => rfl

theorem Shows.consulted {shown : Sheet} {world : World} (shows : Shows options probe.targetIp shown world)
    (state : ArgState) : Shows options probe.targetIp shown (consulted state world) := by
  rw [Arping.consulted]
  cases state.targetMac with
  | none => exact shows
  | some mac => exact ⟨shows.1, shows.2.tail⟩

/-- The third reading comes behind the first two. -/
theorem shouldBroadcast_behind (state : ArgState) (start : World) (event : Event) :
    shouldBroadcast state ((consulted state (consulted state start)).note event) =
      .done ((⟨state, start.instants⟩ : Decision).broadcasts 2)
        (consulted state ((consulted state (consulted state start)).note event)) := by
  rw [shouldBroadcast_apply]
  have third := (expired_consulted state (consulted state start) 0).trans (expired_consulted state start 1)
  exact congrArg (Outcome.done · _) third

/-- A turn that is interrupted reads what has arrived, and ends the loop. -/
theorem goes_drain (fuel : Nat) {decisions : List Decision} {progress : Progress} :
    Triple (Goes options probe.targetIp decisions progress) (do
        let started ← now
        let last ← forever (drainTurn crate options probe (started + Duration.fromMillis 100)) fuel progress
        pure (.exit last))
      (TurnEnds options probe.targetIp decisions) (CutShort options probe.targetIp decisions) := by
  intro start goes
  obtain ⟨shown, recorded, _, shows⟩ := goes
  have ends : ∀ world, Shows options probe.targetIp shown world →
      Ends options probe.targetIp decisions progress.broadcastCount world := fun _ shows =>
    ⟨shown, recorded, shown.known, shows⟩
  refine triple_bind (triple_stopped (calm_now shown) fun world shows => ⟨_, ends world shows⟩) (fun started =>
    triple_bind (triple_stopped (shows_drain crate probe _ fuel shown progress) fun world shows => ⟨_, ends world shows⟩)
      fun last => triple_pure fun world drained => ?_) start shows
  rw [TurnEnds, Turn.post, drained.1]
  exact ends world drained.2

include follows

theorem buildArpPacket_decision (state : ArgState) (srcMac : MacAddr) (srcIp dstIp : Ipv4Addr) (start : World) :
    buildArpPacket crate options state srcMac srcIp dstIp start =
      .done ((⟨state, start.instants⟩ : Decision).frame srcMac (operationOf options) srcIp dstIp)
        (consulted state (consulted state start)) := by
  have second : expired state (consulted state start).instants.head =
    (⟨state, start.instants⟩ : Decision).broadcasts 1 := expired_consulted state start 0
  rw [buildArpPacket_apply follows, second]
  rfl

/-- The window that a probe opens. -/
theorem goes_window (fuel : Nat) {decisions : List Decision} {progress : Progress} {shown : Sheet}
    (recorded : Recorded decisions progress.broadcastCount shown) (known : shown.known = progress.state.targetMac) :
    Triple (Shows options probe.targetIp shown) (do
        let startWait ← now
        forever (waitTurn crate options probe startWait) fuel progress)
      (TurnEnds options probe.targetIp decisions) (CutShort options probe.targetIp decisions) := by
  intro start shows
  have cut : ∀ world, Waited options probe.targetIp shown world → CutShort options probe.targetIp decisions world :=
    fun _ waited => ⟨_, shown, recorded, waited⟩
  refine triple_bind (triple_stopped (calm_now.waits shown progress.state.targetMac) cut) (fun startWait => ?_) start
    (known ▸ shows : Shows options probe.targetIp { shown with known := progress.state.targetMac } start)
  refine triple_conseq (triple_stopped (waits_window follows probe startWait fuel shown progress.broadcastCount
    progress) cut) (fun _ shows => ⟨rfl, shows⟩) fun turn world reached => ?_
  cases turn with
  | next last => exact Waits.goes reached (reached.1 ▸ recorded)
  | exit last => exact ⟨shown, reached.1 ▸ recorded, reached.2⟩

theorem goes_sendProbe (fuel : Nat) {decisions : List Decision} {progress : Progress} {start : World}
    (goes : Goes options probe.targetIp decisions progress start) :
    Triple (fun world => world = start) (sendProbe crate options probe fuel progress)
      (TurnEnds options probe.targetIp (decisions ++ [⟨progress.state, start.instants⟩]))
      (CutShort options probe.targetIp (decisions ++ [⟨progress.state, start.instants⟩])) := by
  obtain ⟨shown, recorded, known, shows⟩ := goes
  have sent := @Recorded.concat decisions ⟨progress.state, start.instants⟩ progress.broadcastCount shown recorded
    shows.2 known options probe.targetIp probe.srcMac (operationOf options) probe.srcIp probe.targetIp
  have built := @buildArpPacket_decision _ follows options progress.state probe.srcMac probe.srcIp probe.targetIp start
  refine triple_bind (triple_of_done built) fun buffer => triple_given fun isBuffer => ?_
  rw [isBuffer]
  refine triple_bind (triple_of_done rfl) fun _ => triple_given fun _ =>
    triple_bind (triple_of_done (shouldBroadcast_behind progress.state start _)) fun broadcasts =>
      triple_given fun isBroadcasts => ?_
  rw [isBroadcasts]
  have behind := fun frame => (shows_note (.sendTo frame)
    ((shows.consulted progress.state).consulted progress.state)).consulted progress.state
  -- the counter follows the third decision
  cases counts : (⟨progress.state, start.instants⟩ : Decision).broadcasts 2 with
  | true =>
    rw [counts] at sent
    have window := @goes_window _ follows options probe fuel _
      { progress with sentCount := progress.sentCount + 1, broadcastCount := progress.broadcastCount + 1 } _ sent known
    exact triple_conseq window (fun _ same => same ▸ behind _) fun _ _ reached => reached
  | false =>
    rw [counts] at sent
    have window := @goes_window _ follows options probe fuel _
      { progress with sentCount := progress.sentCount + 1 } _ sent known
    exact triple_conseq window (fun _ same => same ▸ behind _) fun _ _ reached => reached

/-- A turn adds its decisions, if it sends a probe. -/
theorem goes_probeTurn (fuel : Nat) (startTime : Instant) {decisions : List Decision} {progress : Progress}
    {start : World} (goes : Goes options probe.targetIp decisions progress start) :
    Triple (fun world => world = start) (probeTurn crate options probe fuel startTime progress)
      (TurnEnds options probe.targetIp (decisions ++ (decisionOf options startTime (progress, start)).toList))
      (CutShort options probe.targetIp (decisions ++ (decisionOf options startTime (progress, start)).toList)) := by
  obtain ⟨shown, recorded, known, shows⟩ := goes
  -- the world behind the test of the signal, and behind that of the timeout
  have tested : ∀ running interrupts instants, Ascending instants →
      Goes options probe.targetIp decisions progress
        (World.note { start with running, interrupts, instants } (.isRunning running)) :=
    fun running interrupts instants ascending => ⟨shown, recorded, known,
      @shows_unseen _ _ _ { start with running, interrupts, instants } _ (unseen_isRunning running) ⟨shows.1, ascending⟩⟩
  refine triple_bind (triple_of_done rfl) fun running => triple_given fun isRunning => ?_
  rw [isRunning]
  by_cases sends : (start.running && !start.interrupts.head) = true
  swap
  · have none : decisionOf options startTime (progress, start) = none := if_neg fun probes => sends probes.1
    rw [if_neg sends, none, Option.toList_none, List.append_nil]
    exact triple_conseq (goes_drain fuel) (fun _ same => same ▸ tested _ _ _ shows.2) fun _ _ reached => reached
  rw [if_pos sends]
  by_cases full : countReached options progress = true
  · have none : decisionOf options startTime (progress, start) = none :=
      if_neg fun probes => Bool.false_ne_true (probes.2.1.symm.trans full)
    rw [if_pos full, none, Option.toList_none, List.append_nil]
    exact triple_pure fun _ same => same ▸ (tested _ _ _ shows.2).ends
  rw [if_neg full]
  refine triple_bind (triple_of_done (timedOut_apply options startTime _)) fun late => triple_given fun isLate => ?_
  rw [isLate]
  have goesOn := tested (start.running && !start.interrupts.head) start.interrupts.tail _ (shows.2.readingsOf options)
  by_cases expires : overdue options startTime start.instants.head = true
  · have none : decisionOf options startTime (progress, start) = none :=
      if_neg fun probes => Bool.false_ne_true (probes.2.2.symm.trans expires)
    rw [none, Option.toList_none, List.append_nil]
    exact (if_pos expires).symm ▸ triple_pure fun _ same => same ▸ goesOn.ends
  · have decided : decisionOf options startTime (progress, start) =
        some ⟨progress.state, readingsOf options start⟩ :=
      if_pos ⟨sends, Bool.eq_false_of_not_eq_true full, Bool.eq_false_of_not_eq_true expires⟩
    rw [decided, Option.toList_some]
    exact (if_neg expires).symm ▸ goes_sendProbe follows fuel goesOn

omit follows in
theorem opening_apply (world : World) :
    ∃ begun, opening options probe world =
        .done (world.instants.tail.head, { state := { lastUpdate := world.instants.head } }) begun ∧
      (report options (.title probe.targetIp probe.srcIp probe.interface.name)
        { world with instants := world.instants.tail.tail }) = .done () begun := by
  unfold opening report
  cases options.quiet with
  | true => exact ⟨_, rfl, rfl⟩
  | false => exact ⟨_, rfl, rfl⟩

omit follows in
/-- The loop begins with nothing learned, nothing sent and nothing counted. -/
theorem goes_opening {world : World} (blank : Shows options probe.targetIp ⟨True, none, 0, []⟩ world) :
    ∃ startTime start begun, opening options probe world = .done (startTime, start) begun ∧
      Goes options probe.targetIp [] start begun := by
  obtain ⟨begun, opened, titled⟩ := @opening_apply options probe world
  refine ⟨_, _, begun, opened, ⟨True, none, 0, []⟩, ⟨by simp [Steady], rfl, rfl, by simp, rfl⟩, rfl, ?_⟩
  have calm : Calm options probe.targetIp
    (report options (.title probe.targetIp probe.srcIp probe.interface.name)) := calm_report rfl
  have shows := calm ⟨True, none, 0, []⟩ { world with instants := world.instants.tail.tail }
    ⟨blank.1, blank.2.tail.tail⟩
  rw [titled] at shows
  exact shows

omit follows in
/-- The summary reports the counter. -/
theorem ends_summary (decisions : List Decision) (sent replies count : UInt32) :
    Triple (Ends options probe.targetIp decisions count) (report options (.summary sent replies count))
      (fun _ final => ∃ shown, Recorded decisions count shown ∧
        Waited options probe.targetIp { shown with reports := if options.quiet then [] else [count] } final)
      (fun _ => False) := by
  intro world ends
  obtain ⟨shown, recorded, known, shows⟩ := ends
  obtain ⟨coherent, known', broadcasts, reports⟩ := shown
  obtain rfl : reports = [] := recorded.reports
  unfold report
  cases options.quiet with
  | true => exact ⟨_, recorded, known, shows⟩
  | false =>
    refine ⟨_, recorded, known, ?_⟩
    have entered := shows_note (.printed (.summary sent replies count)) shows
    simp only [Sheet.enter, CoherentEvent, learn, isBroadcast, reportOf, and_true, Bool.toNat_false, Nat.add_zero,
      Option.toList_some, List.nil_append] at entered
    exact entered

theorem ends_probeLoop (fuel : Nat) {world : World}
    (blank : Shows options probe.targetIp ⟨True, none, 0, []⟩ world) :
    Triple (fun state => state = world) (probeLoop crate options fuel probe)
      (fun _ final => ∃ count shown, Recorded (decisions crate options probe fuel world) count shown ∧
        Waited options probe.targetIp { shown with reports := if options.quiet then [] else [count] } final)
      (fun final => ∃ count, Ends options probe.targetIp (decisions crate options probe fuel world) count final) := by
  obtain ⟨startTime, start, begun, opened, goes⟩ := goes_opening blank
  rw [probeLoop_opening, decisions, opened]
  refine triple_bind (triple_of_done opened) fun opens => triple_given fun same => ?_
  rw [same]
  -- the turns so far are the decisions so far
  have step : ∀ (past : List (Progress × World)) (progress : Progress) (world : World),
      Goes options probe.targetIp (past.filterMap (decisionOf options startTime)) progress world →
      Triple (fun state => state = world) (probeTurn crate options probe fuel startTime progress)
        (Turn.post
          (Goes options probe.targetIp ((past ++ [(progress, world)]).filterMap (decisionOf options startTime)))
          fun last => Ends options probe.targetIp
            ((past ++ [(progress, world)]).filterMap (decisionOf options startTime)) last.broadcastCount)
        (fun final => ∃ count, Ends options probe.targetIp
          ((past ++ [(progress, world)]).filterMap (decisionOf options startTime)) count final) := by
    intro past progress world goes
    rw [filterMap_concat]
    exact goes_probeTurn follows fuel startTime goes
  have loop := @triple_forever_turns _ _ _ (probeTurn crate options probe fuel startTime)
    (fun past => Goes options probe.targetIp (past.filterMap (decisionOf options startTime)))
    (fun past last => Ends options probe.targetIp (past.filterMap (decisionOf options startTime)) last.broadcastCount)
    (fun past world => ∃ count, Ends options probe.targetIp (past.filterMap (decisionOf options startTime)) count world)
    step (fun _ _ _ goes => ⟨_, goes.ends⟩) fuel [] start begun goes
  refine triple_bind loop fun last => ?_
  rw [List.nil_append]
  exact triple_bind (triple_stopped (ends_summary _ last.sentCount last.replyCount last.broadcastCount) fun _ => False.elim)
    fun _ => triple_pure fun _ reached => ⟨_, reached⟩

end

/-! ## The law -/

/-- The counter lacks the broadcasts that go uncounted, and has the probes that are counted wrongly. -/
theorem countP_broadcasts {decisions : List Decision}
    (ordered : ∀ decision ∈ decisions, decision.broadcasts 0 = true → decision.broadcasts 2 = true) :
    decisions.countP (·.broadcasts 2) + decisions.countP Decision.goesUncounted =
      decisions.countP Decision.isBroadcast + decisions.countP Decision.countsWrongly := by
  induction decisions with
  | nil => rfl
  | cons decision decisions inductionHypothesis =>
    obtain ⟨first, rest⟩ := List.forall_mem_cons.mp ordered
    have balance := inductionHypothesis rest
    simp only [List.countP_cons]
    have one : (if decision.broadcasts 2 = true then 1 else 0) + (if decision.goesUncounted = true then 1 else 0) =
        (if decision.isBroadcast = true then 1 else 0) + if decision.countsWrongly = true then 1 else 0 := by
      rw [Decision.goesUncounted, Decision.isBroadcast, Decision.countsWrongly, Decision.expiresBy]
      revert first
      cases decision.broadcasts 0 <;> cases decision.broadcasts 2 <;> cases decision.taughtBroadcast <;> decide
    omega

/-- The counter has 32 bits. -/
theorem report_right_iff {decisions : List Decision} {count : UInt32} {shown : Sheet}
    (recorded : Recorded decisions count shown) :
    count.toNat = shown.broadcasts ↔ Balanced decisions := by
  have balance := countP_broadcasts recorded.ordered
  rw [recorded.counted, recorded.broadcasts, UInt32.toNat_ofNat', Balanced, Nat.ModEq]
  omega

/-- No run stops but by an exit or in `rx.next`. -/
theorem halted_of_stopped {crate : ArpingCrate} (follows : crate.FollowsRfcs) {options : ArpingConfig}
    {interfaces : List NetworkInterface} {channel : Opened} {targetIp : Ipv4Addr} {environment : Environment}
    {fuel : Nat} (enough : environment.frames.length + 1 < fuel) {final : World}
    (ran : arpingRun crate options interfaces channel fuel targetIp (World.start environment) = .stopped final) :
    final.Halted := by
  cases prepared : prepare options interfaces targetIp channel with
  | error exit =>
    have halts := @halted_arpingRun crate _ _ _ _ _ fuel prepared (World.start environment) trivial
    rw [ran] at halts
    exact halts
  | ok probe =>
    have ends := ended_arpingRun follows fuel prepared _ (going_start_run options probe.targetIp enough)
    rw [ran] at ends
    exact ends

/-- A run that exits before its loop sends nothing. -/
theorem ends_exitWith {options : ArpingConfig} {targetIp : Ipv4Addr} (exit : Exit) {start : World}
    (blank : Shows options targetIp ⟨True, none, 0, []⟩ start) :
    Triple (fun world => world = start) (exitWith exit : Proc World (Except String Bool)) (fun _ _ => False)
      (fun final => ∃ count, Ends options targetIp [] count final) := by
  have unseen : Unseen options targetIp (.exit exit) := unseen_of (fun _ => trivial) (fun _ => rfl) rfl rfl
  refine triple_bind (triple_modify fun world same => ?_) fun _ => triple_stop fun _ ends => ends
  rw [same]
  exact ⟨0, ⟨True, none, 0, []⟩, ⟨by simp [Steady], rfl, rfl, by simp, rfl⟩, none, shows_unseen unseen blank⟩

/-- The decisions of a run are recorded in its log, wherever it ends. -/
theorem recorded_arpingRun {crate : ArpingCrate} (follows : crate.FollowsRfcs) (options : ArpingConfig)
    (interfaces : List NetworkInterface) (channel : Opened) (targetIp : Ipv4Addr) {environment : Environment}
    (clock : Ascending environment.instants) (fuel : Nat) :
    Triple (fun world => world = World.start environment)
      (arpingRun crate options interfaces channel fuel targetIp)
      (fun _ final => ∃ count shown,
        Recorded (runDecisions crate options interfaces channel fuel targetIp environment) count shown ∧
        Waited options (askedIp options interfaces channel targetIp)
          { shown with reports := if options.quiet then [] else [count] } final)
      (fun final => ∃ count, Ends options (askedIp options interfaces channel targetIp)
        (runDecisions crate options interfaces channel fuel targetIp environment) count final) := by
  have start : ∀ targetIp, Shows options targetIp ⟨True, none, 0, []⟩ (World.start environment) := fun targetIp =>
    ⟨by rw [Sheet.mk.injEq]; exact ⟨eq_true law_nil, rfl, rfl, rfl⟩, clock⟩
  rw [askedIp, runDecisions]
  unfold arpingRun
  cases unreachableSource options interfaces targetIp with
  | none =>
    cases prepare options interfaces targetIp channel with
    | error exit => exact triple_conseq (ends_exitWith exit (start _)) (fun _ same => same) fun _ _ => False.elim
    | ok probe => exact ends_probeLoop follows fuel (start probe.targetIp)
  | some warning =>
    obtain ⟨source, interface⟩ := warning
    have warned : ∀ targetIp, Shows options targetIp ⟨True, none, 0, []⟩
        ((World.start environment).note (.printed (.sourceWarning source interface))) := fun targetIp =>
      shows_unseen (unseen_printed rfl) (start targetIp)
    have prints : print (.sourceWarning source interface) (World.start environment) = .done () _ := rfl
    refine triple_bind (triple_of_done prints) fun _ => triple_given fun _ => ?_
    cases prepare options interfaces targetIp channel with
    | error exit => exact triple_conseq (ends_exitWith exit (warned _)) (fun _ same => same) fun _ _ => False.elim
    | ok probe => exact ends_probeLoop follows fuel (warned probe.targetIp)

/-- What a run sends is coherent exactly if its decisions are steady. -/
theorem framesCoherent_iff {crate : ArpingCrate} (follows : crate.FollowsRfcs) (options : ArpingConfig)
    (interfaces : List NetworkInterface) (channel : Opened) (targetIp : Ipv4Addr) {environment : Environment}
    (clock : Ascending environment.instants) (fuel : Nat) :
    FramesCoherent options (askedIp options interfaces channel targetIp)
        (arpingRun crate options interfaces channel fuel targetIp (World.start environment)).state.log ↔
      Steady (runDecisions crate options interfaces channel fuel targetIp environment) := by
  have ends := recorded_arpingRun follows options interfaces channel targetIp clock fuel (World.start environment) rfl
  cases ran : arpingRun crate options interfaces channel fuel targetIp (World.start environment) with
  | done result final =>
    rw [ran] at ends
    obtain ⟨count, shown, recorded, known, same, _⟩ := ends
    exact (iff_of_eq (congrArg Sheet.coherent same)).trans recorded.coherent
  | stopped final =>
    rw [ran] at ends
    obtain ⟨count, shown, recorded, known, same, _⟩ := ends
    exact (iff_of_eq (congrArg Sheet.coherent same)).trans recorded.coherent

/-- What a run sends is coherent, and what it reports is right, exactly if no address expires between the first two
decisions about a probe, unless it is the broadcast address, and the probes that are counted wrongly are as many as
the broadcasts that go uncounted, in 32 bits. A run stops only by an exit or while it waits for a frame. -/
theorem broadcasts_right_iff (crate : ArpingCrate) (follows : crate.FollowsRfcs) (options : ArpingConfig)
    (interfaces : List NetworkInterface) (channel : Opened) (targetIp : Ipv4Addr) (environment : Environment)
    (clock : Ascending environment.instants) (fuel : Nat) (enough : environment.frames.length + 1 < fuel) :
    match arpingRun crate options interfaces channel fuel targetIp (World.start environment) with
    | .done _ final =>
      (FramesCoherent options (askedIp options interfaces channel targetIp) final.log ∧
          ∀ report ∈ reports final.log, report.toNat = broadcastFrames final.log) ↔
        Steady (runDecisions crate options interfaces channel fuel targetIp environment) ∧
          (options.quiet = false →
            Balanced (runDecisions crate options interfaces channel fuel targetIp environment))
    | .stopped final =>
      final.Halted ∧ reports final.log = [] ∧
        (FramesCoherent options (askedIp options interfaces channel targetIp) final.log ↔
          Steady (runDecisions crate options interfaces channel fuel targetIp environment)) := by
  have ends := recorded_arpingRun follows options interfaces channel targetIp clock fuel (World.start environment) rfl
  have coherent := framesCoherent_iff follows options interfaces channel targetIp clock fuel
  cases ran : arpingRun crate options interfaces channel fuel targetIp (World.start environment) with
  | done result final =>
    rw [ran] at ends coherent
    obtain ⟨count, shown, recorded, known, same, _⟩ := ends
    have broadcasts : broadcastFrames final.log = shown.broadcasts := congrArg Sheet.broadcasts same
    have reported : reports final.log = if options.quiet then [] else [count] := congrArg Sheet.reports same
    dsimp only
    rw [reported, broadcasts]
    refine and_congr coherent ?_
    cases options.quiet with
    | true => simp
    | false => simpa using report_right_iff recorded
  | stopped final =>
    rw [ran] at ends coherent
    obtain ⟨count, shown, recorded, known, same, _⟩ := ends
    exact ⟨halted_of_stopped follows enough ran, (congrArg Sheet.reports same).trans recorded.reports, coherent⟩

theorem ascending_steadily (frames : List (Except String Bytes)) : Ascending (steadily frames).instants := fun index =>
  Nat.mul_le_mul_right _ (Nat.le_succ index)

/-- A reply, and a channel that fails in each of two windows. -/
def twoFailures : List (Except String Bytes) :=
  [.ok (replyFrom ⟨2, 0, 0, 0, 0, 2⟩), .error "Network is down", .error "Network is down"]

/-- Two probes, the second to the address that a reply to the first has taught. -/
theorem broadcasts_right_iff_twoProbes :
    let ran := trial 2 twoFailures
    FramesCoherent { count := some 2, device := some "eth0" } ⟨10, 0, 0, 2⟩ ran.state.log ∧
      ∀ report ∈ reports ran.state.log, report.toNat = broadcastFrames ran.state.log := by
  intro ran
  have right := broadcasts_right_iff .rfcs ArpingCrate.rfcs_follows { count := some 2, device := some "eth0" } [lan]
    .ethernet ⟨10, 0, 0, 2⟩ (steadily twoFailures) (ascending_steadily _) 20 (by decide)
  have asked : askedIp { count := some 2, device := some "eth0" } [lan] .ethernet ⟨10, 0, 0, 2⟩ = ⟨10, 0, 0, 2⟩ := by
    decide +kernel
  have steady : Steady (runDecisions .rfcs { count := some 2, device := some "eth0" } [lan] .ethernet 20
    ⟨10, 0, 0, 2⟩ (steadily twoFailures)) := by decide +kernel
  have balanced : Balanced (runDecisions .rfcs { count := some 2, device := some "eth0" } [lan] .ethernet 20
    ⟨10, 0, 0, 2⟩ (steadily twoFailures)) := by decide +kernel
  have done : ran.isDone = true := by decide +kernel
  rw [asked, show arpingRun _ _ _ _ _ _ _ = ran from rfl] at right
  clear_value ran
  cases ran with
  | stopped final => exact absurd done Bool.false_ne_true
  | done result final => exact right.mpr ⟨steady, fun _ => balanced⟩

/-- The clock is first read for the second probe a minute after the reply, and then a nanosecond later each time. -/
def expiring : Environment where
  interrupts _ := false
  instants reading := if reading ≤ 5 then reading * 1000000000 else 64000000000 + (reading - 6)
  frames := [.ok (replyFrom ⟨2, 0, 0, 0, 0, 2⟩), .error "Network is down"]

theorem ascending_expiring : Ascending expiring.instants := by
  intro index
  show (if index ≤ 5 then index * 1000000000 else 64000000000 + (index - 6)) ≤
    if index + 1 ≤ 5 then (index + 1) * 1000000000 else 64000000000 + (index + 1 - 6)
  split
  · split <;> omega
  · split <;> omega

/-- The second probe is sent to the learned address, asks for the broadcast address, and counts as a broadcast. -/
theorem expiry_splits_probe :
    let ran := arpingRun .rfcs { count := some 2, device := some "eth0" } [lan] .ethernet 20 ⟨10, 0, 0, 2⟩
      (World.start expiring)
    ran.isDone = true ∧ ¬ FramesCoherent { count := some 2, device := some "eth0" } ⟨10, 0, 0, 2⟩ ran.state.log ∧
      reports ran.state.log = [2] ∧ broadcastFrames ran.state.log = 1 := by
  have coherent := framesCoherent_iff ArpingCrate.rfcs_follows { count := some 2, device := some "eth0" } [lan]
    .ethernet ⟨10, 0, 0, 2⟩ ascending_expiring 20
  have splits : ¬ Steady (runDecisions .rfcs { count := some 2, device := some "eth0" } [lan] .ethernet 20
      ⟨10, 0, 0, 2⟩ expiring) := by decide +kernel
  refine ⟨by decide +kernel, fun lawful => splits (coherent.mp lawful), by decide +kernel, by decide +kernel⟩

end Utiputils.Arping
