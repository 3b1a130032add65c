import Utiputils.Lib.Mirror
import Utiputils.Arping.Run

/-! # The command as a whole

`main` over all of its targets: what an interrupt ends and what the count bounds, and that the quiet mode changes
nothing but the output. -/

namespace Utiputils.Arping

open Utiputils.Lib Utiputils.Pnet Proc

/-! ## Interrupts and the count -/

def isSend : Event → Bool
  | .sendTo _ => true
  | _ => false

/-- What an interrupt and the count are about. -/
def isMark : Event → Bool
  | .sendTo _ => true
  | .isRunning _ => true
  | _ => false

/-- The number of frames sent. -/
def sends (log : List Event) : Nat := log.countP isSend

/-- Behind a test of `is_running` that has failed no other one succeeds, and nothing is sent. -/
def Heeds (earlier later : Event) : Prop :=
  earlier = .isRunning false → later ≠ .isRunning true ∧ isSend later = false

/-- What is said of a run here: its tests and frames, and whether it goes on. -/
def World.marks (world : World) : List Event × Bool := (world.log.filter isMark, world.running)

theorem marks_note_unmarked (world : World) {event : Event} (unmarked : isMark event = false) :
    (world.note event).marks = world.marks := by
  rw [World.marks, World.note, List.filter_append, List.filter_singleton, unmarked]
  exact congrArg (·, world.running) (List.append_nil _)

theorem marks_note (world : World) {event : Event} (marked : isMark event = true) :
    (world.note event).marks = (world.marks.1 ++ [event], world.running) := by
  rw [World.marks, World.note, List.filter_append, List.filter_singleton, marked]
  rfl

/-- The user is heeded, and a test that has failed leaves nothing running. -/
structure Heeded (marks : List Event × Bool) : Prop where
  order : marks.1.Pairwise Heeds
  cleared : .isRunning false ∈ marks.1 → marks.2 = false

/-- The run for a target has left its own marks behind the earlier ones, and its frames are within the count. -/
def Within (options : ArpingConfig) (earlier : List Event) (sentCount : UInt32) (marks : List Event × Bool) : Prop :=
  ∃ own, marks.1 = earlier ++ own ∧
    ∀ count, options.count = some count → sends own = sentCount.toNat ∧ sentCount ≤ count

structure Abides (options : ArpingConfig) (earlier : List Event) (sentCount : UInt32) (world : World) : Prop where
  heeded : Heeded world.marks
  within : Within options earlier sentCount world.marks

/-- What is left of it when a run ends anywhere. -/
structure Bounded (options : ArpingConfig) (earlier : List Event) (world : World) : Prop where
  heeded : Heeded world.marks
  bounded : ∃ own, world.marks.1 = earlier ++ own ∧ ∀ count, options.count = some count → sends own ≤ count.toNat

theorem Abides.bounded {options : ArpingConfig} {earlier : List Event} {sentCount : UInt32} {world : World}
    (abides : Abides options earlier sentCount world) : Bounded options earlier world := by
  obtain ⟨own, marks, counts⟩ := abides.within
  refine ⟨abides.heeded, own, marks, fun count isCount => ?_⟩
  obtain ⟨same, atMost⟩ := counts count isCount
  exact same ▸ UInt32.le_iff_toNat_le.mp atMost

/-! ### Steps that leave no mark -/

section

variable {Result : Type}

/-- The process neither tests nor sends. -/
abbrev Unmarked (process : Proc World Result) : Prop := Leaves World.marks process

theorem unmarked_note {event : Event} (unmarked : isMark event = false) : Unmarked (modify (·.note event)) :=
  leaves_modify fun world => marks_note_unmarked world unmarked

theorem unmarked_now : Unmarked now := leaves_modifyGet fun _ => rfl

theorem unmarked_elapsed (earlier : Instant) : Unmarked (elapsed earlier) :=
  leaves_bind unmarked_now fun _ => leaves_pure

theorem unmarked_report (options : ArpingConfig) (output : Output) : Unmarked (report options output) := by
  unfold report
  split
  · exact leaves_pure
  · exact unmarked_note rfl

theorem unmarked_nextFrame {entry : Except String Bytes → Event} (unmarked : ∀ result, isMark (entry result) = false) :
    Unmarked (nextFrame entry) := by
  refine leaves_get_bind fun world => ?_
  split
  · exact leaves_bind (unmarked_note rfl) fun _ => leaves_stop
  · exact leaves_bind (leaves_modify fun world => marks_note_unmarked _ (unmarked _)) fun _ => leaves_pure

theorem unmarked_exitWith (exit : Exit) : Unmarked (exitWith exit : Proc World Result) :=
  leaves_bind (unmarked_note rfl) fun _ => leaves_stop

theorem unmarked_shouldBroadcast (state : ArgState) : Unmarked (shouldBroadcast state) := by
  unfold shouldBroadcast
  cases state.targetMac with
  | none => exact leaves_pure
  | some mac => exact leaves_bind (unmarked_elapsed _) fun _ => leaves_pure

theorem unmarked_timedOut (options : ArpingConfig) (startTime : Instant) : Unmarked (timedOut options startTime) := by
  unfold timedOut
  cases options.timeout with
  | none => exact leaves_pure
  | some timeout => exact leaves_bind (unmarked_elapsed _) fun _ => leaves_pure

theorem unmarked_buildArpPacket (crate : ArpingCrate) (options : ArpingConfig) (state : ArgState) (srcMac : MacAddr)
    (srcIp dstIp : Ipv4Addr) : Unmarked (buildArpPacket crate options state srcMac srcIp dstIp) := by
  have destination : Unmarked (dstMac state) := by
    refine leaves_bind (unmarked_shouldBroadcast state) fun broadcasts => ?_
    split
    · exact leaves_pure
    · cases state.targetMac with
      | some mac => exact leaves_pure
      | none => exact leaves_stop
  have hardware : Unmarked (targetHw state) := by
    refine leaves_bind (unmarked_shouldBroadcast state) fun broadcasts => ?_
    split
    · exact leaves_pure
    · exact leaves_pure
  refine leaves_bind destination fun dstMac => leaves_bind hardware fun targetHw => ?_
  split
  · exact leaves_pure
  · exact leaves_stop

end

/-! ### Tests and frames -/

section

variable {options : ArpingConfig} {earlier : List Event} {sentCount : UInt32}

/-- Unmarked steps keep what is said of the marks. -/
theorem Leaves.abides {Result : Type} {process : Proc World Result} (unmarked : Unmarked process) :
    Triple (Abides options earlier sentCount) process (fun _ => Abides options earlier sentCount)
      (Bounded options earlier) := by
  have kept := unmarked.triple fun marks => Heeded marks ∧ Within options earlier sentCount marks
  refine triple_conseq (triple_stopped kept fun world reached => ?_) (fun world abides =>
    ⟨abides.heeded, abides.within⟩)
    fun _ world reached => ⟨reached.1, reached.2⟩
  exact Abides.bounded ⟨reached.1, reached.2⟩

/-- They do not end the run either. -/
theorem Leaves.goesOn {Result : Type} {process : Proc World Result} (unmarked : Unmarked process) :
    Triple (fun world => Abides options earlier sentCount world ∧ world.running = true) process
      (fun _ world => Abides options earlier sentCount world ∧ world.running = true) (Bounded options earlier) := by
  have kept := unmarked.triple fun marks => (Heeded marks ∧ Within options earlier sentCount marks) ∧ marks.2 = true
  refine triple_conseq (triple_stopped kept fun world reached => ?_)
    (fun world holds => ⟨⟨holds.1.heeded, holds.1.within⟩, holds.2⟩)
    fun _ world reached => ⟨⟨reached.1.1, reached.1.2⟩, reached.2⟩
  exact Abides.bounded ⟨reached.1.1, reached.1.2⟩

theorem abides_isRunning :
    Triple (Abides options earlier sentCount) isRunning
      (fun running world => Abides options earlier sentCount world ∧ (running = true → world.running = true))
      (Bounded options earlier) := by
  refine triple_modifyGet fun world abides => ?_
  generalize isNow : (world.running && !world.interrupts.head) = running
  have stays : .isRunning false ∈ world.marks.1 → running = false := fun member => by
    have stopped : world.running = false := abides.heeded.cleared member
    rw [← isNow, stopped, Bool.false_and]
  let next : World := { world with running, interrupts := world.interrupts.tail }
  have marks : (next.note (.isRunning running)).marks = (world.marks.1 ++ [.isRunning running], running) :=
    marks_note next rfl
  refine ⟨⟨?_, ?_⟩, fun isRunning => isRunning⟩
  · rw [marks]
    constructor
    · refine List.pairwise_append.mpr ⟨abides.heeded.order, List.pairwise_singleton _ _,
      fun earlier member later isLater => ?_⟩
      rw [List.mem_singleton.mp isLater]
      intro failed
      rw [stays (failed ▸ member)]
      exact ⟨by decide, rfl⟩
    · intro member
      obtain before | now := List.mem_append.mp member
      · exact stays before
      · cases List.mem_singleton.mp now
        rfl
  · obtain ⟨own, before, counts⟩ := abides.within
    rw [marks, before]
    refine ⟨own ++ [.isRunning running], List.append_assoc .., fun count isCount => ?_⟩
    obtain ⟨same, atMost⟩ := counts count isCount
    refine ⟨?_, atMost⟩
    rw [sends, List.countP_append]
    exact same

theorem countReached_eq_false {progress : Progress} (notReached : countReached options progress = false) :
    ∀ count, options.count = some count → progress.sentCount < count := by
  intro count isCount
  rw [countReached, isCount] at notReached
  exact UInt32.not_le.mp (of_decide_eq_false notReached)

theorem abides_sendTo (buffer : Bytes) (below : ∀ count, options.count = some count → sentCount < count) :
    Triple (fun world => Abides options earlier sentCount world ∧ world.running = true) (sendTo buffer)
      (fun _ => Abides options earlier (sentCount + 1)) (Bounded options earlier) := by
  refine triple_modify fun world ⟨abides, running⟩ => ?_
  have marks := @marks_note world (.sendTo buffer) rfl
  have noFailure : .isRunning false ∉ world.marks.1 := fun member => by
    have stopped : world.running = false := abides.heeded.cleared member
    rw [running] at stopped
    cases stopped
  refine ⟨?_, ?_⟩
  · rw [marks]
    constructor
    · refine List.pairwise_append.mpr ⟨abides.heeded.order, List.pairwise_singleton _ _,
      fun earlier member _ _ failed => ?_⟩
      exact absurd (failed ▸ member) noFailure
    · intro member
      obtain before | now := List.mem_append.mp member
      · exact absurd before noFailure
      · cases List.mem_singleton.mp now
  · obtain ⟨own, before, counts⟩ := abides.within
    rw [marks, before]
    refine ⟨own ++ [.sendTo buffer], List.append_assoc .., fun count isCount => ?_⟩
    obtain ⟨same, _⟩ := counts count isCount
    have isBelow := UInt32.lt_iff_toNat_lt.mp (below count isCount)
    have next : (sentCount + 1).toNat = sentCount.toNat + 1 := by
      have := count.toNat_lt
      rw [UInt32.toNat_add, show (1 : UInt32).toNat = 1 from rfl]
      exact Nat.mod_eq_of_lt (by omega)
    refine ⟨?_, UInt32.le_iff_toNat_le.mpr (by omega)⟩
    rw [sends, List.countP_append, next, ← same]
    rfl

end

/-! ### The loops -/

section

variable (crate : ArpingCrate) (options : ArpingConfig) (probe : Probe)

/-- The user is heeded at either end of a turn. -/
def abidesTurn (earlier : List Event) : Turn Progress Progress → World → Prop :=
  Turn.post (fun progress => Abides options earlier progress.sentCount) fun progress =>
    Abides options earlier progress.sentCount

def abidesWait (earlier : List Event) : Turn Progress (Turn Progress Progress) → World → Prop :=
  Turn.post (fun progress => Abides options earlier progress.sentCount) (abidesTurn options earlier)

theorem abides_windowEnd (startWait : Instant) (earlier : List Event) (progress : Progress) :
    Triple (Abides options earlier progress.sentCount) (windowEnd options startWait progress)
      (fun turn => abidesWait options earlier turn) (Bounded options earlier) := by
  refine triple_bind (Leaves.abides (unmarked_elapsed startWait)) fun waited => ?_
  split
  · exact triple_pure fun _ abides => abides
  · exact triple_pure fun _ abides => abides

theorem abides_takeReply (startWait : Instant) (mac : MacAddr) (earlier : List Event) (progress : Progress) :
    Triple (Abides options earlier progress.sentCount) (takeReply options probe startWait mac progress)
      (fun turn => abidesWait options earlier turn) (Bounded options earlier) := by
  refine triple_bind (Leaves.abides (unmarked_elapsed startWait)) fun duration =>
    triple_bind (Leaves.abides (unmarked_report options _)) fun _ => ?_
  split
  · exact triple_pure fun _ abides => abides
  · split
    · exact abides_windowEnd options startWait earlier { progress with replyCount := progress.replyCount + 1 }
    · exact triple_bind (Leaves.abides unmarked_now) fun now => abides_windowEnd options startWait earlier
        { progress with replyCount := progress.replyCount + 1, state := progress.state.update mac now }

theorem abides_waitTurn (startWait : Instant) (earlier : List Event) (progress : Progress) :
    Triple (Abides options earlier progress.sentCount) (waitTurn crate options probe startWait progress)
      (fun turn => abidesWait options earlier turn) (Bounded options earlier) := by
  refine triple_bind abides_isRunning fun running => ?_
  have forget : ∀ world, Abides options earlier progress.sentCount world ∧ (running = true → world.running = true) →
      Abides options earlier progress.sentCount world := fun _ holds => holds.1
  cases running with
  | false => exact triple_pure fun _ abides => abides.1
  | true =>
    refine triple_conseq (triple_bind (Leaves.abides (unmarked_nextFrame fun _ => rfl)) fun result => ?_) forget
      fun _ _ abides => abides
    cases result with
    | error failure => exact triple_pure fun _ abides => abides
    | ok packet =>
      cases parsed : parseArpReply crate.reader packet probe.targetIp with
      | some mac =>
        simp only [parsed]
        exact abides_takeReply options probe startWait mac earlier progress
      | none =>
        simp only [parsed]
        exact abides_windowEnd options startWait earlier progress

theorem abides_drainTurn (drainDeadline : Instant) (earlier : List Event) (progress : Progress) :
    Triple (Abides options earlier progress.sentCount) (drainTurn crate options probe drainDeadline progress)
      (fun turn => abidesTurn options earlier turn) (Bounded options earlier) := by
  refine triple_bind (Leaves.abides unmarked_now) fun now => ?_
  split
  · refine triple_bind (Leaves.abides (unmarked_nextFrame fun _ => rfl)) fun result => ?_
    cases result with
    | error failure => exact triple_pure fun _ abides => abides
    | ok packet =>
      cases parsed : parseArpReply crate.reader packet probe.targetIp with
      | some mac =>
        simp only [parsed]
        exact triple_bind (Leaves.abides (unmarked_report options _)) fun _ => triple_pure fun _ abides => abides
      | none =>
        simp only [parsed]
        exact triple_pure fun _ abides => abides
  · exact triple_pure fun _ abides => abides

/-- A frame goes out only right behind a test that has passed. -/
theorem abides_sendProbe (fuel : Nat) (earlier : List Event) (progress : Progress)
    (below : ∀ count, options.count = some count → progress.sentCount < count) :
    Triple (fun world => Abides options earlier progress.sentCount world ∧ world.running = true)
      (sendProbe crate options probe fuel progress) (fun turn => abidesTurn options earlier turn)
      (Bounded options earlier) := by
  refine triple_bind (Leaves.goesOn (unmarked_buildArpPacket crate options _ _ _ _)) fun buffer => triple_bind
    (abides_sendTo buffer below) fun _ =>
    triple_bind (Leaves.abides (unmarked_shouldBroadcast _)) fun broadcasts =>
    triple_bind (Leaves.abides unmarked_now) fun startWait => ?_
  have window := triple_forever (fun progress => Abides options earlier progress.sentCount)
    (fun progress => abides_waitTurn crate options probe startWait earlier progress)
    (fun progress world abides => abides.bounded) fuel
  let sent : Progress := { progress with sentCount := progress.sentCount + 1 }
  cases broadcasts with
  | true => exact window { sent with broadcastCount := sent.broadcastCount + 1 }
  | false => exact window sent

theorem abides_probeTurn (fuel : Nat) (startTime : Instant) (earlier : List Event) (progress : Progress) :
    Triple (Abides options earlier progress.sentCount) (probeTurn crate options probe fuel startTime progress)
      (fun turn => abidesTurn options earlier turn) (Bounded options earlier) := by
  refine triple_bind abides_isRunning fun running => ?_
  cases running with
  | false =>
    refine triple_conseq (triple_bind (Leaves.abides unmarked_now) fun started => triple_bind
      (triple_forever (fun progress => Abides options earlier progress.sentCount)
        (fun progress => abides_drainTurn crate options probe _ earlier progress)
        (fun progress world abides => abides.bounded) fuel progress) fun progress => triple_pure fun _ abides => abides)
      (fun _ holds => holds.1) fun _ _ abides => abides
  | true =>
    show Triple _ (if countReached options progress then pure (.exit progress)
      else do
        if ← timedOut options startTime then pure (.exit progress)
        else sendProbe crate options probe fuel progress) _ _
    by_cases reached : countReached options progress = true
    · rw [if_pos reached]
      exact triple_pure fun _ abides => abides.1
    · rw [if_neg reached]
      have below := countReached_eq_false (Bool.eq_false_iff.mpr reached)
      refine triple_conseq (triple_bind (Leaves.goesOn (unmarked_timedOut options startTime)) fun isOver => ?_)
        (fun _ holds => ⟨holds.1, holds.2 rfl⟩) fun _ _ abides => abides
      cases isOver with
      | true => exact triple_pure fun _ holds => holds.1
      | false => exact abides_sendProbe crate options probe fuel earlier progress below

theorem abides_probeLoop (fuel : Nat) (earlier : List Event) :
    Triple (Abides options earlier 0) (probeLoop crate options fuel probe) (fun _ => Bounded options earlier)
      (Bounded options earlier) := by
  refine triple_bind (Leaves.abides unmarked_now) fun created => triple_bind (Leaves.abides unmarked_now)
    fun startTime =>
    triple_bind (Leaves.abides (unmarked_report options _)) fun _ => ?_
  have loop := triple_forever (fun progress => Abides options earlier progress.sentCount)
    (fun progress => abides_probeTurn crate options probe fuel startTime earlier progress)
    (fun progress world abides => abides.bounded) fuel { state := { lastUpdate := created } }
  refine triple_bind loop fun progress => triple_bind (Leaves.abides (unmarked_report options _)) fun _ => ?_
  exact triple_pure fun _ abides => abides.bounded

end

/-! ### The command -/

section

variable (crate : ArpingCrate) (options : ArpingConfig)

theorem abides_arpingRun (interfaces : List NetworkInterface) (channel : Opened) (fuel : Nat) (earlier : List Event)
    (targetIp : Ipv4Addr) :
    Triple (Abides options earlier 0) (arpingRun crate options interfaces channel fuel targetIp)
      (fun _ => Bounded options earlier) (Bounded options earlier) := by
  cases prepared : prepare options interfaces targetIp channel with
  | error exit =>
    have exits : Triple (Abides options earlier 0) (exitWith exit : Proc World (Except String Bool))
      (fun _ => Bounded options earlier)
        (Bounded options earlier) :=
      triple_conseq (Leaves.abides (unmarked_exitWith exit)) (fun _ abides => abides) fun _ _ abides => abides.bounded
    simp only [arpingRun, prepared]
    cases unreachableSource options interfaces targetIp with
    | none => exact exits
    | some warned => exact triple_bind (Leaves.abides (unmarked_note rfl)) fun _ => exits
  | ok probe =>
    have loop := abides_probeLoop crate options probe fuel earlier
    simp only [arpingRun, prepared]
    cases unreachableSource options interfaces targetIp with
    | none => exact loop
    | some warned => exact triple_bind (Leaves.abides (unmarked_note rfl)) fun _ => loop

/-- Nothing of a count is used up yet. -/
theorem Heeded.abides {world : World} (heeded : Heeded world.marks) : Abides options world.marks.1 0 world :=
  ⟨heeded, [], (List.append_nil _).symm, fun _ _ => ⟨rfl, UInt32.le_iff_toNat_le.mpr (Nat.zero_le _)⟩⟩

/-- Every frame is a mark. -/
theorem sends_marks (world : World) : sends world.marks.1 = sends world.log := by
  rw [World.marks, sends, List.countP_filter, sends]
  refine List.countP_congr fun event _ => ?_
  cases event <;> rfl

/-- How many frames the run for each target sends, in the order in which the command comes to the targets. -/
def framesSent (system : Ipv4Addr → List NetworkInterface × Opened) (fuel : Nat) :
    List Ipv4Addr → World → List (Ipv4Addr × Nat)
  | [], _ => []
  | ip :: targetIps, world =>
    match isRunning world with
    | .done true tested =>
      let run := arpingRun crate options (system ip).1 (system ip).2 fuel ip tested
      let own := (ip, sends run.state.log - sends tested.log)
      match run with
      | .done (.ok _) reached => own :: framesSent system fuel targetIps reached
      | _ => [own]
    | _ => []

/-- The runs for the targets heed the user, each sends no more frames than the count allows, and nothing else sends. -/
structure Shared (start : World) (shares : List (Ipv4Addr × Nat)) (final : World) : Prop where
  heeded : Heeded final.marks
  total : sends final.log = sends start.log + (shares.map Prod.snd).sum
  each : ∀ count, options.count = some count → ∀ share ∈ shares, share.2 ≤ count.toNat

/-- What the run for one target adds. -/
theorem shared_arpingRun (interfaces : List NetworkInterface) (channel : Opened) (fuel : Nat) (ip : Ipv4Addr)
    {tested : World} (heeded : Heeded tested.marks) :
    let reached := (arpingRun crate options interfaces channel fuel ip tested).state
    Shared options tested [(ip, sends reached.log - sends tested.log)] reached := by
  intro reached
  have bounded : Bounded options tested.marks.1 reached :=
    (abides_arpingRun crate options interfaces channel fuel tested.marks.1 ip).state (fun _ _ here => here)
      (heeded.abides options)
  obtain ⟨own, marks, counts⟩ := bounded.bounded
  have frames : sends reached.log = sends tested.log + sends own := by
    rw [← sends_marks reached, ← sends_marks tested, marks]
    exact List.countP_append
  refine ⟨bounded.heeded, ?_, fun count isCount share member => ?_⟩
  · rw [frames, List.map_singleton, List.sum_singleton]
    omega
  · rw [List.mem_singleton.mp member, frames]
    have atMost := counts count isCount
    show sends tested.log + sends own - sends tested.log ≤ count.toNat
    omega

theorem Shared.cons {start reached final : World} {share : Ipv4Addr × Nat} {shares : List (Ipv4Addr × Nat)}
    (first : Shared options start [share] reached) (later : Shared options reached shares final) :
    Shared options start (share :: shares) final := by
  refine ⟨later.heeded, ?_, fun count isCount => ?_⟩
  · have sum : ([share].map Prod.snd).sum = share.2 := List.sum_singleton
    rw [later.total, first.total, sum, List.map_cons, List.sum_cons]
    omega
  · exact List.forall_mem_cons.mpr ⟨first.each count isCount share List.mem_cons_self, later.each count isCount⟩

theorem shared_runTargets (system : Ipv4Addr → List NetworkInterface × Opened) (fuel : Nat)
    (targetIps : List Ipv4Addr) (allSuccess : Bool) {world : World} (heeded : Heeded world.marks) :
    Shared options world (framesSent crate options system fuel targetIps world)
      (runTargets crate options system fuel targetIps allSuccess world).state := by
  induction targetIps generalizing allSuccess world with
  | nil => exact ⟨heeded, rfl, fun _ _ _ member => absurd member List.not_mem_nil⟩
  | cons ip targetIps inductionHypothesis =>
    obtain ⟨running, tested, isTested, abides, unsent⟩ : ∃ running tested, isRunning world = .done running tested ∧
        Heeded tested.marks ∧ sends tested.log = sends world.log := by
      have abides := abides_isRunning world (heeded.abides options)
      exact ⟨_, _, rfl, abides.1.heeded, List.countP_append⟩
    have ran := shared_arpingRun crate options (system ip).1 (system ip).2 fuel ip abides
    simp only [runTargets, framesSent, bind, isTested]
    cases running with
    | false => exact ⟨abides, unsent, fun _ _ _ member => absurd member List.not_mem_nil⟩
    | true =>
      have whole : ∀ {shares final}, Shared options tested shares final → Shared options world shares final :=
        fun shared => ⟨shared.heeded, unsent ▸ shared.total, shared.each⟩
      cases ended : arpingRun crate options (system ip).1 (system ip).2 fuel ip tested with
      | stopped reached =>
        rw [ended] at ran
        simp only [↓reduceIte, ended]
        exact whole ran
      | done result reached =>
        rw [ended] at ran
        simp only [↓reduceIte, ended]
        cases result with
        | error failure => exact whole ran
        | ok success => exact whole (ran.cons options (inductionHypothesis (allSuccess && success) ran.heeded))

end

theorem unmarked_heeds {event : Event} (unmarked : isMark event = false) :
    event ≠ .isRunning true ∧ isSend event = false := by
  cases event with
  | sendTo buffer => cases unmarked
  | isRunning running => cases unmarked
  | next result => exact ⟨Event.noConfusion, rfl⟩
  | drained result => exact ⟨Event.noConfusion, rfl⟩
  | blocked => exact ⟨Event.noConfusion, rfl⟩
  | printed output => exact ⟨Event.noConfusion, rfl⟩
  | exit exit => exact ⟨Event.noConfusion, rfl⟩

/-- In every run of the command: once a test of `is_running` has failed no other one succeeds and no frame is sent; every
frame is sent in the run for one of the targets, and none of these sends more frames than the count allows. -/
theorem main_heeds (crate : ArpingCrate) (options : ArpingConfig)
    (system : Ipv4Addr → List NetworkInterface × Opened) (fuel : Nat) (targetIps : List Ipv4Addr)
    (environment : Environment) :
    let final := (main crate options system fuel (.ok targetIps) (World.start environment)).state
    let shares := framesSent crate (effectiveOptions options) system fuel targetIps (World.start environment)
    final.log.Pairwise Heeds ∧ sends final.log = (shares.map Prod.snd).sum ∧
      ∀ count, (effectiveOptions options).count = some count → ∀ share ∈ shares, share.2 ≤ count.toNat := by
  intro final shares
  have start : Heeded (World.start environment).marks := ⟨List.Pairwise.nil, fun member => absurd member List.not_mem_nil⟩
  have ran := shared_runTargets crate (effectiveOptions options) system fuel targetIps true start
  have same : final = (runTargets crate (effectiveOptions options) system fuel targetIps true
      (World.start environment)).state := by
    show Outcome.state ((runTargets crate (effectiveOptions options) system fuel targetIps true >>= _) _) = _
    simp only [bind]
    cases runTargets crate (effectiveOptions options) system fuel targetIps true (World.start environment) <;> rfl
  rw [← same] at ran
  refine ⟨?_, ran.total.trans (Nat.zero_add _), ran.each⟩
  refine (List.pairwise_filter.mp ran.heeded.order).imp fun {earlier later} heeds failed => ?_
  cases marked : isMark later with
  | true => exact heeds (failed ▸ rfl) marked failed
  | false => exact unmarked_heeds marked

/-! ## The quiet mode -/

def isPrinted : Event → Bool
  | .printed _ => true
  | _ => false

/-- The same run with nothing printed. -/
def hush (world : World) : World := { world with log := world.log.filter (!isPrinted ·) }

/-- The second process does without output what the first one does. -/
abbrev Hushed {Result : Type} (process image : Proc World Result) : Prop := Mirrors hush process image

theorem hush_note (world : World) {event : Event} (kept : isPrinted event = false) :
    (hush world).note event = hush (world.note event) := by
  simp only [hush, World.note, List.filter_append, List.filter_singleton, kept, Bool.not_false, cond_true]

theorem hush_note_printed (world : World) (output : Output) : hush (world.note (.printed output)) = hush world := by
  have hidden : isPrinted (.printed output) = true := rfl
  simp only [hush, World.note, List.filter_append, List.filter_singleton, hidden, Bool.not_true, cond_false,
    List.append_nil]

/-! ### Steps that print nothing -/

section

variable {Result : Type}

/-- The process does the same whatever has been printed before it. -/
abbrev Deaf (process : Proc World Result) : Prop := Commutes hush process

theorem deaf_note {event : Event} (kept : isPrinted event = false) : Deaf (modify (·.note event)) :=
  commutes_modify fun world => hush_note world kept

theorem deaf_now : Deaf now := commutes_modifyGet fun _ => rfl

theorem deaf_elapsed (earlier : Instant) : Deaf (elapsed earlier) := commutes_bind deaf_now fun _ => commutes_pure

theorem deaf_isRunning : Deaf isRunning := commutes_modifyGet fun world => by
  rw [show (hush world).running = world.running from rfl, show (hush world).interrupts = world.interrupts from rfl]
  exact congrArg (Prod.mk _) (hush_note { world with running := _, interrupts := _ } rfl)

theorem deaf_nextFrame {entry : Except String Bytes → Event} (kept : ∀ result, isPrinted (entry result) = false) :
    Deaf (nextFrame entry) := by
  refine commutes_get_bind (fun _ => rfl) fun world => ?_
  split
  · exact commutes_bind (deaf_note rfl) fun _ => commutes_stop
  · next result frames _ =>
    exact commutes_bind (commutes_modify fun world => hush_note { world with frames } (kept result)) fun _ =>
      commutes_pure

theorem deaf_exitWith (exit : Exit) : Deaf (exitWith exit : Proc World Result) :=
  commutes_bind (deaf_note rfl) fun _ => commutes_stop

theorem deaf_shouldBroadcast (state : ArgState) : Deaf (shouldBroadcast state) := by
  unfold shouldBroadcast
  cases state.targetMac with
  | none => exact commutes_pure
  | some mac => exact commutes_bind (deaf_elapsed _) fun _ => commutes_pure

theorem deaf_timedOut (options : ArpingConfig) (startTime : Instant) : Deaf (timedOut options startTime) := by
  unfold timedOut
  cases options.timeout with
  | none => exact commutes_pure
  | some timeout => exact commutes_bind (deaf_elapsed _) fun _ => commutes_pure

theorem deaf_buildArpPacket (crate : ArpingCrate) (options : ArpingConfig) (state : ArgState) (srcMac : MacAddr)
    (srcIp dstIp : Ipv4Addr) : Deaf (buildArpPacket crate options state srcMac srcIp dstIp) := by
  have destination : Deaf (dstMac state) := by
    refine commutes_bind (deaf_shouldBroadcast state) fun broadcasts => ?_
    split
    · exact commutes_pure
    · cases state.targetMac with
      | some mac => exact commutes_pure
      | none => exact commutes_stop
  have hardware : Deaf (targetHw state) := by
    refine commutes_bind (deaf_shouldBroadcast state) fun broadcasts => ?_
    split
    · exact commutes_pure
    · exact commutes_pure
  refine commutes_bind destination fun dstMac => commutes_bind hardware fun targetHw => ?_
  split
  · exact commutes_pure
  · exact commutes_stop

theorem deaf_windowEnd (options : ArpingConfig) (startWait : Instant) (progress : Progress) :
    Deaf (windowEnd options startWait progress) := by
  refine commutes_bind (deaf_elapsed startWait) fun waited => ?_
  split
  · exact commutes_pure
  · exact commutes_pure

end

/-! ### The same options, loud and quiet -/

def ArpingConfig.loud (options : ArpingConfig) : ArpingConfig := { options with quiet := false }

def ArpingConfig.hushed (options : ArpingConfig) : ArpingConfig := { options with quiet := true }

section

variable (crate : ArpingCrate) (options : ArpingConfig) (probe : Probe)

theorem hushed_report (output : Output) : Hushed (report options.loud output) (report options.hushed output) :=
  mirrors_hidden fun world => hush_note_printed world output

theorem hushed_takeReply (startWait : Instant) (mac : MacAddr) (progress : Progress) :
    Hushed (takeReply options.loud probe startWait mac progress)
      (takeReply options.hushed probe startWait mac progress) := by
  refine mirrors_bind (deaf_elapsed startWait).mirrors fun duration =>
    mirrors_bind (hushed_report options _) fun _ => ?_
  show Hushed (if options.quitOnFirstReply then _ else if options.broadcastOnly then _ else _)
    (if options.quitOnFirstReply then _ else if options.broadcastOnly then _ else _)
  split
  · exact mirrors_pure
  · split
    · exact (deaf_windowEnd options startWait _).mirrors
    · exact mirrors_bind deaf_now.mirrors fun now => (deaf_windowEnd options startWait _).mirrors

theorem hushed_waitTurn (startWait : Instant) (progress : Progress) :
    Hushed (waitTurn crate options.loud probe startWait progress)
      (waitTurn crate options.hushed probe startWait progress) := by
  refine mirrors_bind deaf_isRunning.mirrors fun running => ?_
  cases running with
  | false => exact mirrors_pure
  | true =>
    refine mirrors_bind (deaf_nextFrame fun _ => rfl).mirrors fun result => ?_
    cases result with
    | error failure => exact mirrors_pure
    | ok packet =>
      cases parsed : parseArpReply crate.reader packet probe.targetIp with
      | some mac =>
        simp only [parsed]
        exact hushed_takeReply options probe startWait mac progress
      | none =>
        simp only [parsed]
        exact (deaf_windowEnd options startWait progress).mirrors

theorem hushed_drainTurn (drainDeadline : Instant) (progress : Progress) :
    Hushed (drainTurn crate options.loud probe drainDeadline progress)
      (drainTurn crate options.hushed probe drainDeadline progress) := by
  refine mirrors_bind deaf_now.mirrors fun now => ?_
  split
  · refine mirrors_bind (deaf_nextFrame fun _ => rfl).mirrors fun result => ?_
    cases result with
    | error failure => exact mirrors_pure
    | ok packet =>
      cases parsed : parseArpReply crate.reader packet probe.targetIp with
      | some mac =>
        simp only [parsed]
        exact mirrors_bind (hushed_report options _) fun _ => mirrors_pure
      | none =>
        simp only [parsed]
        exact mirrors_pure
  · exact mirrors_pure

theorem hushed_sendProbe (fuel : Nat) (progress : Progress) :
    Hushed (sendProbe crate options.loud probe fuel progress) (sendProbe crate options.hushed probe fuel progress) :=
  mirrors_bind (deaf_buildArpPacket crate options _ _ _ _).mirrors fun _ => mirrors_bind (deaf_note rfl).mirrors
    fun _ =>
    mirrors_bind (deaf_shouldBroadcast _).mirrors fun _ => mirrors_bind deaf_now.mirrors fun startWait =>
    mirrors_forever (fun progress => hushed_waitTurn crate options probe startWait progress) fuel _

theorem hushed_probeTurn (fuel : Nat) (startTime : Instant) (progress : Progress) :
    Hushed (probeTurn crate options.loud probe fuel startTime progress)
      (probeTurn crate options.hushed probe fuel startTime progress) := by
  refine mirrors_bind deaf_isRunning.mirrors fun running => ?_
  cases running with
  | false =>
    exact mirrors_bind deaf_now.mirrors fun started => mirrors_bind
      (mirrors_forever (fun progress => hushed_drainTurn crate options probe _ progress) fuel progress) fun _ =>
      mirrors_pure
  | true =>
    show Hushed (if countReached options progress then _ else _) (if countReached options progress then _ else _)
    split
    · exact mirrors_pure
    · refine mirrors_bind (deaf_timedOut options startTime).mirrors fun isOver => ?_
      cases isOver with
      | true => exact mirrors_pure
      | false => exact hushed_sendProbe crate options probe fuel progress

theorem hushed_probeLoop (fuel : Nat) :
    Hushed (probeLoop crate options.loud fuel probe) (probeLoop crate options.hushed fuel probe) :=
  mirrors_bind deaf_now.mirrors fun _ => mirrors_bind deaf_now.mirrors fun startTime =>
    mirrors_bind (hushed_report options _) fun _ => mirrors_bind
      (mirrors_forever (fun progress => hushed_probeTurn crate options probe fuel startTime progress) fuel _)
      fun _ => mirrors_bind (hushed_report options _) fun _ => mirrors_pure

/-- The warning about the source is not given either. -/
theorem unreachableSource_hushed (interfaces : List NetworkInterface) (targetIp : Ipv4Addr) :
    unreachableSource options.hushed interfaces targetIp = none := by
  unfold unreachableSource
  split
  · exact if_neg (by rw [ArpingConfig.hushed, Bool.not_true, Bool.and_false]; exact Bool.false_ne_true)
  · rfl

theorem hushed_arpingRun (interfaces : List NetworkInterface) (channel : Opened) (fuel : Nat) (targetIp : Ipv4Addr) :
    Hushed (arpingRun crate options.loud interfaces channel fuel targetIp)
      (arpingRun crate options.hushed interfaces channel fuel targetIp) := by
  cases prepared : prepare options.hushed interfaces targetIp channel with
  | error exit =>
    have prepared' : prepare options.loud interfaces targetIp channel = .error exit := prepared
    simp only [arpingRun, unreachableSource_hushed, prepared, prepared']
    cases unreachableSource options.loud interfaces targetIp with
    | none => exact (deaf_exitWith exit).mirrors
    | some warning => exact mirrors_hidden_bind (fun world => hush_note_printed world _) (deaf_exitWith exit).mirrors
  | ok probe =>
    have prepared' : prepare options.loud interfaces targetIp channel = .ok probe := prepared
    simp only [arpingRun, unreachableSource_hushed, prepared, prepared']
    cases unreachableSource options.loud interfaces targetIp with
    | none => exact hushed_probeLoop crate options probe fuel
    | some warning =>
      exact mirrors_hidden_bind (fun world => hush_note_printed world _) (hushed_probeLoop crate options probe fuel)

theorem hushed_runTargets (system : Ipv4Addr → List NetworkInterface × Opened) (fuel : Nat)
    (targetIps : List Ipv4Addr) (allSuccess : Bool) :
    Hushed (runTargets crate options.loud system fuel targetIps allSuccess)
      (runTargets crate options.hushed system fuel targetIps allSuccess) := by
  induction targetIps generalizing allSuccess with
  | nil => exact mirrors_pure
  | cons ip targetIps inductionHypothesis =>
    refine mirrors_bind deaf_isRunning.mirrors fun running => ?_
    cases running with
    | false => exact mirrors_pure
    | true =>
      refine mirrors_bind (hushed_arpingRun crate options _ _ fuel ip) fun result => ?_
      cases result with
      | error failure => exact mirrors_pure
      | ok success => exact inductionHypothesis (allSuccess && success)

theorem effectiveOptions_quiet (quiet : Bool) :
    effectiveOptions { options with quiet } = { effectiveOptions options with quiet } := by
  cases detects : options.duplicateAddressDetection <;> cases answers : options.arpAnswer <;>
    simp only [effectiveOptions, detects, answers, if_true, Bool.false_eq_true, if_false]

end

/-- The quiet mode changes nothing but the output: a quiet run sends the same frames at the same tests, reads the same
ones, and ends as a loud one does, with nothing printed. -/
theorem main_quiet (crate : ArpingCrate) (options : ArpingConfig)
    (system : Ipv4Addr → List NetworkInterface × Opened) (fuel : Nat) (resolved : Except String (List Ipv4Addr))
    (environment : Environment) :
    main crate { options with quiet := true } system fuel resolved (World.start environment) =
      (main crate { options with quiet := false } system fuel resolved (World.start environment)).map hush := by
  have mirrors : Hushed (main crate { options with quiet := false } system fuel resolved)
      (main crate { options with quiet := true } system fuel resolved) := by
    cases resolved with
    | error e => exact (deaf_exitWith _).mirrors
    | ok targetIps =>
      have run := hushed_runTargets crate (effectiveOptions options) system fuel targetIps true
      rw [ArpingConfig.loud, ArpingConfig.hushed, ← effectiveOptions_quiet, ← effectiveOptions_quiet] at run
      exact mirrors_bind run fun _ => mirrors_pure
  exact mirrors (World.start environment)

end Utiputils.Arping
