import Utiputils.Lib.Turns
import Utiputils.Tracepath.IcmpTranscript

/-! # The IPv4 trace finds the path

A path says for each TTL what becomes of the attempts: who answers one of the three, with what in between, or that
nobody does. With what such a path gives it, the trace comes to its end and reports the path. -/

namespace Utiputils.Tracepath.Icmp

open Utiputils.Lib Utiputils.Pnet Proc Transcript
open scoped Computability

/-! ## What a trace is given -/

structure Inputs where
  sendAnswers : Stream' SendAnswers
  packets : Stream' (Except String (Option Datagram))
  withinTimeout : Stream' Bool
  isRunning : Stream' Bool

def World.inputs (world : World) : Inputs :=
  ⟨world.sendAnswers, world.packets, world.withinTimeout, world.isRunning⟩

namespace Inputs

def send (answers : SendAnswers) (rest : Inputs) : Inputs :=
  { rest with sendAnswers := Stream'.cons answers rest.sendAnswers }

/-- A turn of the wait that looks at the channel. -/
def packet (item : Except String (Option Datagram)) (rest : Inputs) : Inputs :=
  { rest with
    packets := Stream'.cons item rest.packets
    withinTimeout := Stream'.cons true rest.withinTimeout
    isRunning := Stream'.cons true rest.isRunning }

/-- The turn that finds the time over. -/
def timeout (rest : Inputs) : Inputs := { rest with withinTimeout := Stream'.cons false rest.withinTimeout }

end Inputs

/-! ## Paths -/

/-- A probe goes out. -/
def SendAnswers.goesOut (answers : SendAnswers) : Bool := answers.opened.isOk && answers.sent.isOk

section

variable (crate : Crate)

/-- What the wait passes over: errors, silence, other protocols, and other ICMP messages than errors of routers. -/
def Ignored : Except String (Option Datagram) → Prop
  | .ok (some datagram) =>
    crate.ipv4.nextLevelProtocol datagram.bytes = IpNextHeaderProtocols.Icmp →
      let icmpPacket := crate.ipv4.payload datagram.bytes
      crate.icmp.new icmpPacket ∧ crate.icmp.icmpType icmpPacket ≠ IcmpTypes.TimeExceeded ∧
        crate.icmp.icmpType icmpPacket ≠ IcmpTypes.DestinationUnreachable
  | .ok none | .error _ => True

/-- What comes out of the channel while nobody answers. -/
structure Noise where
  items : List (Except String (Option Datagram))
  ignored : ∀ item ∈ items, Ignored crate item

/-- An attempt that nobody answers; the noise is heard only if its probe goes out. -/
structure Miss where
  answers : SendAnswers
  noise : Noise crate

/-- An attempt that is answered. -/
structure Answer where
  answers : SendAnswers
  goesOut : answers.goesOut = true
  noise : Noise crate
  datagram : Datagram
  isIcmp : crate.ipv4.nextLevelProtocol datagram.bytes = IpNextHeaderProtocols.Icmp
  whole : crate.icmp.new (crate.ipv4.payload datagram.bytes)
  isError : crate.icmp.icmpType (crate.ipv4.payload datagram.bytes) = IcmpTypes.TimeExceeded ∨
    crate.icmp.icmpType (crate.ipv4.payload datagram.bytes) = IcmpTypes.DestinationUnreachable

/-- What becomes of the attempts for a TTL. -/
inductive Hop where
  | silent (misses : List (Miss crate)) (all : misses.length = 3)
  | answered (misses : List (Miss crate)) (few : misses.length ≤ 2) (answer : Answer crate)

end

variable {crate : Crate}

/-! ## What a path gives a trace -/

def Miss.feed (miss : Miss crate) (rest : Inputs) : Inputs :=
  (if miss.answers.goesOut then miss.noise.items.foldr Inputs.packet rest.timeout else rest).send miss.answers

def Answer.feed (answer : Answer crate) (rest : Inputs) : Inputs :=
  (answer.noise.items.foldr Inputs.packet (rest.packet (.ok (some answer.datagram)))).send answer.answers

def Hop.feed (rest : Inputs) : Hop crate → Inputs
  | silent misses _ => misses.foldr Miss.feed rest
  | answered misses _ answer => misses.foldr Miss.feed (answer.feed rest)

/-- The inputs for `count` TTLs from `ttl` on. -/
def feedPath (path : Nat → Hop crate) (rest : Inputs) : (ttl count : Nat) → Inputs
  | _, 0 => rest
  | ttl, count + 1 => (path ttl).feed (feedPath path rest (ttl + 1) count)

/-! ## What is to be reported -/

def Answer.response (answer : Answer crate) : ResponseType :=
  let icmpPacket := crate.ipv4.payload answer.datagram.bytes
  if crate.icmp.icmpType icmpPacket = IcmpTypes.TimeExceeded then .timeExceeded
  else if crate.icmp.icmpCode icmpPacket = DestinationPortUnreachable then .reached
  else .unreachable

/-- The line that tells of the way without the time that it took. -/
def IcmpLine.untimed : IcmpLine → IcmpLine
  | hop ttl addr _ asymm => .hop ttl addr 0 asymm
  | reached ttl addr _ => .reached ttl addr 0
  | unreachable ttl addr _ => .unreachable ttl addr 0
  | noReply ttl => .noReply ttl
  | resume pmtu hopsTo hopsFrom => .resume pmtu hopsTo hopsFrom
  | tooManyHops => .tooManyHops
  | blank => .blank

def Answer.hopsFrom (answer : Answer crate) : UInt8 := calculateReturnHops (crate.ipv4.ttl answer.datagram.bytes)

def Answer.lines (answer : Answer crate) (pmtu : UInt32) (ttl : UInt8) : List IcmpLine :=
  match answer.response with
  | .timeExceeded =>
    [.hop ttl answer.datagram.addr 0 (if 12 ≤ ttl ∧ answer.hopsFrom ≠ ttl then some answer.hopsFrom else none)]
  | .reached => [.reached ttl answer.datagram.addr 0, .resume pmtu ttl answer.hopsFrom]
  | .unreachable => [.unreachable ttl answer.datagram.addr 0, .resume pmtu 0 0]

def Hop.lines (pmtu : UInt32) (ttl : UInt8) : Hop crate → List IcmpLine
  | silent .. => [.noReply ttl]
  | answered _ _ answer => answer.lines pmtu ttl

/-- The trace goes on behind the hop. -/
def Hop.goesOn : Hop crate → Bool
  | silent .. => true
  | answered _ _ answer => answer.response = .timeExceeded

/-- The report on the path from a TTL on: the lines of each hop until one ends the trace. -/
def reportPath (path : Nat → Hop crate) (pmtu : UInt32) : (ttl count : Nat) → List IcmpLine
  | _, 0 => [.tooManyHops]
  | ttl, count + 1 =>
    (path ttl).lines pmtu (UInt8.ofNat ttl) ++
      if (path ttl).goesOn then reportPath path pmtu (ttl + 1) count else []

def Event.report : Event → Option IcmpLine
  | .printed line => some line.untimed
  | .probe .. | .noSocket _ | .received .. | .reported .. | .returned .. => none

def World.report (world : World) : List IcmpLine := world.log.filterMap Event.report

/-! ## The turns of a wait -/

section

variable {tpConfig : TracepathConfig} {ttl : UInt8}

theorem report_record (world : World) (events : List Event) :
    (world.record events).report = world.report ++ events.filterMap Event.report :=
  List.filterMap_append

/-- The trace is at a TTL, and this is what it will be given. -/
structure World.Given (ttl : UInt8) (inputs : Inputs) (world : World) : Prop where
  tries : world.Tries ttl
  inputs : world.inputs = inputs

/-- A turn that looks at the channel comes to the packet that it finds there. -/
def afterPacket (item : Except String (Option Datagram)) (sendTime : Instant) :
    Proc World (Turn Unit (Except String ResponseType)) :=
  match item with
  | .ok (some datagram) =>
    if crate.ipv4.nextLevelProtocol datagram.bytes ≠ IpNextHeaderProtocols.Icmp then pure (.next ())
    else if ¬ crate.icmp.new (crate.ipv4.payload datagram.bytes) then stop
    else do
      let recvTime ← now
      handleDatagram crate tpConfig datagram (durationSince recvTime sendTime)
  | .ok none | .error _ => pure (.next ())

theorem receiveStep_packet {item : Except String (Option Datagram)} (sendTime : Instant) {world : World} {rest : Inputs}
    (given : world.Given ttl (rest.packet item)) :
    ∃ between : World, receiveStep crate tpConfig sendTime () world =
        @afterPacket crate tpConfig item sendTime between ∧ between.Given ttl rest ∧ between.report = world.report := by
  obtain ⟨runState, log, sendAnswers, packets, instants, withinTimeout, isRunning⟩ := world
  obtain ⟨tries, inputs⟩ := given
  cases inputs
  rcases item with message | none | datagram
  · exact ⟨_, rfl, ⟨tries, rfl⟩, (report_record _ []).trans (List.append_nil _)⟩
  · exact ⟨_, rfl, ⟨tries, rfl⟩, (report_record _ []).trans (List.append_nil _)⟩
  · exact ⟨_, rfl, ⟨tries, rfl⟩, (report_record _ [.received _ datagram]).trans (List.append_nil _)⟩

/-- A turn that passes over what came out of the channel. -/
theorem receiveStep_ignored {item : Except String (Option Datagram)} (ignored : Ignored crate item)
    (sendTime : Instant) {world : World} {rest : Inputs} (given : world.Given ttl (rest.packet item)) :
    ∃ after : World, receiveStep crate tpConfig sendTime () world = .done (.next ()) after ∧ after.Given ttl rest ∧
      after.report = world.report := by
  obtain ⟨between, stepped, givenNext, same⟩ := @receiveStep_packet crate tpConfig _ item sendTime world rest given
  rw [stepped]
  rcases item with message | none | datagram
  · exact ⟨between, rfl, givenNext, same⟩
  · exact ⟨between, rfl, givenNext, same⟩
  · by_cases other : crate.ipv4.nextLevelProtocol datagram.bytes ≠ IpNextHeaderProtocols.Icmp
    · rw [afterPacket, if_pos other]
      exact ⟨between, rfl, givenNext, same⟩
    · obtain ⟨whole, notExceeded, notUnreachable⟩ := ignored (not_not.mp other)
      rw [afterPacket, if_neg other, if_neg (not_not.mpr whole)]
      refine ⟨{ between with instants := between.instants.tail }, ?_, ⟨givenNext.tries, givenNext.inputs⟩, same⟩
      show handleDatagram crate tpConfig datagram _ { between with instants := between.instants.tail } = _
      rw [handleDatagram_run, handleReply, if_neg notExceeded, if_neg notUnreachable]

/-- The wait passes over noise, with a turn for each item. -/
theorem forever_noise (noise : Noise crate) (sendTime : Instant) {world : World} {rest : Inputs}
    (given : world.Given ttl (noise.items.foldr Inputs.packet rest)) (fuel : Nat) :
    ∃ after : World, forever (receiveStep crate tpConfig sendTime) (noise.items.length + fuel) () world =
        forever (receiveStep crate tpConfig sendTime) fuel () after ∧ after.Given ttl rest ∧
      after.report = world.report := by
  obtain ⟨items, ignored⟩ := noise
  induction items generalizing world with
  | nil => exact ⟨world, by rw [List.length_nil, Nat.zero_add], given, rfl⟩
  | cons item items inductionHypothesis =>
    obtain ⟨itemIgnored, othersIgnored⟩ := List.forall_mem_cons.mp ignored
    obtain ⟨between, stepped, givenNext, same⟩ :=
      @receiveStep_ignored crate tpConfig ttl item itemIgnored sendTime _ _ given
    obtain ⟨after, ran, givenAfter, sameAfter⟩ := inductionHypothesis othersIgnored givenNext
    refine ⟨after, ?_, givenAfter, sameAfter.trans same⟩
    rw [List.length_cons, Nat.add_right_comm]
    exact (@forever_of_goesOn World Unit _ _ ((), world) ((), between) stepped _).trans ran

/-- The wait for an answer that does not come. -/
theorem receiveIcmpReplySafe_missed {fuel : Nat} (noise : Noise crate) (enough : noise.items.length < fuel) {world : World}
    {rest : Inputs} (given : world.Given ttl (noise.items.foldr Inputs.packet rest.timeout)) :
    ∃ after : World, receiveIcmpReplySafe crate tpConfig fuel world =
        .done (.error "No response received within timeout") after ∧ after.Given ttl rest ∧
      after.report = world.report := by
  obtain ⟨more, rfl⟩ := Nat.exists_eq_add_of_lt enough
  obtain ⟨between, ran, givenNext, same⟩ := @forever_noise crate tpConfig ttl noise
    (world.runState.sendTime.getD world.instants.head) { world with instants := world.instants.tail } _
    ⟨given.tries, given.inputs⟩ (more + 1)
  obtain ⟨runState, log, sendAnswers, packets, instants, withinTimeout, isRunning⟩ := between
  obtain ⟨tries, inputs⟩ := givenNext
  cases inputs
  exact ⟨_, ran, ⟨tries, rfl⟩, same⟩

/-- The line for the unreachable target is followed by another behind the wait. -/
def Answer.behind (answer : Answer crate) (pmtu : UInt32) : List IcmpLine :=
  if answer.response = .unreachable then [.resume pmtu 0 0] else []

/-- The answer, as the wait sees it. -/
theorem handleReply_answer (answer : Answer crate) (rtt : Duration) {runState : RunState}
    (tries : Icmp.Tries ttl runState) :
    ∃ handled, handleReply crate tpConfig answer.datagram rtt runState = some handled ∧
      handled.response = answer.response ∧ (handled.response = .reached ∨ handled.state = runState) ∧
      handled.lines.map IcmpLine.untimed ++ answer.behind tpConfig.getLength = answer.lines tpConfig.getLength ttl := by
  obtain ⟨rfl, -, -⟩ := tries
  have back := calculateReturnHops_pos (crate.ipv4.ttl answer.datagram.bytes)
  by_cases exceeded : crate.icmp.icmpType (crate.ipv4.payload answer.datagram.bytes) = IcmpTypes.TimeExceeded
  · have responds : answer.response = .timeExceeded := if_pos exceeded
    refine ⟨_, if_pos exceeded, responds.symm, .inr rfl, ?_⟩
    simp [Answer.behind, Answer.lines, responds, IcmpLine.untimed, Answer.hopsFrom, back]
    exact if_congr Iff.rfl rfl rfl
  · have unreachable := answer.isError.resolve_left exceeded
    by_cases port : crate.icmp.icmpCode (crate.ipv4.payload answer.datagram.bytes) = DestinationPortUnreachable
    · have responds : answer.response = .reached := (if_neg exceeded).trans (if_pos port)
      refine ⟨_, (if_neg exceeded).trans ((if_pos unreachable).trans (if_pos port)), responds.symm, .inl rfl, ?_⟩
      simp [Answer.behind, Answer.lines, responds, IcmpLine.untimed, Answer.hopsFrom, printResume]
    · have responds : answer.response = .unreachable := (if_neg exceeded).trans (if_neg port)
      refine ⟨_, (if_neg exceeded).trans ((if_pos unreachable).trans (if_neg port)), responds.symm, .inr rfl, ?_⟩
      simp [Answer.behind, Answer.lines, responds, IcmpLine.untimed]

/-- The wait for an answer that comes. -/
theorem receiveIcmpReplySafe_answered {fuel : Nat} (answer : Answer crate) (enough : answer.noise.items.length < fuel)
    {world : World} {rest : Inputs}
    (given : world.Given ttl (answer.noise.items.foldr Inputs.packet (rest.packet (.ok (some answer.datagram))))) :
    ∃ after : World, ∃ lines, receiveIcmpReplySafe crate tpConfig fuel world = .done (.ok answer.response) after ∧
        after.inputs = rest ∧ (answer.response = .reached ∨ after.Tries ttl) ∧
      after.report = world.report ++ lines ∧
      lines ++ answer.behind tpConfig.getLength = answer.lines tpConfig.getLength ttl := by
  obtain ⟨more, rfl⟩ := Nat.exists_eq_add_of_lt enough
  obtain ⟨between, ran, givenNext, same⟩ := @forever_noise crate tpConfig ttl answer.noise
    (world.runState.sendTime.getD world.instants.head) { world with instants := world.instants.tail } _
    ⟨given.tries, given.inputs⟩ (more + 1)
  obtain ⟨before, stepped, givenHere, sameHere⟩ := @receiveStep_packet crate tpConfig ttl (.ok (some answer.datagram))
    (world.runState.sendTime.getD world.instants.head) between rest givenNext
  rw [afterPacket, if_neg (not_not.mpr answer.isIcmp), if_neg (not_not.mpr answer.whole)] at stepped
  obtain ⟨handled, replied, responds, state, lines⟩ := @handleReply_answer crate tpConfig ttl answer
    (durationSince before.instants.head (world.runState.sendTime.getD world.instants.head)) before.runState givenHere.tries
  have turned : receiveStep crate tpConfig (world.runState.sendTime.getD world.instants.head) () between =
      .done (.exit (.ok handled.response))
        ({ before with instants := before.instants.tail }.handle answer.datagram handled) := by
    rw [stepped]
    show handleDatagram crate tpConfig _ _ { before with instants := before.instants.tail } = _
    rw [handleDatagram_run, replied]
  refine ⟨{ before with instants := before.instants.tail }.handle answer.datagram handled, _, ran.trans ?_,
    givenHere.inputs, ?_, ?_, lines⟩
  · rw [← responds]
    simp only [forever, bind]
    rw [turned]
    rfl
  · rw [← responds]
    refine state.imp id fun same => ?_
    show Icmp.Tries ttl handled.state
    rw [same]
    exact givenHere.tries
  · show (before.log ++ _ :: handled.lines.map Event.printed).filterMap Event.report = _
    rw [List.filterMap_append, List.filterMap_cons_none rfl, List.filterMap_map]
    exact congr (congrArg _ (sameHere.trans same)) (List.filterMap_eq_map ▸ rfl)

/-! ## The attempts -/

theorem sendUdpProbe_goesOut (answers : SendAnswers) (runState : RunState) :
    (sendUdpProbe tpConfig answers runState).result.isOk = answers.goesOut := by
  simp only [sendUdpProbe, SendAnswers.goesOut]
  cases answers.opened with
  | error message => rfl
  | ok sourcePort => cases answers.sent <;> rfl

theorem report_afterSend (world : World) (sent : Sent) : (world.afterSend sent).report = world.report := by
  have unseen : sent.event.report = none := by
    rw [Sent.event]
    split <;> rfl
  show (world.log ++ [sent.event]).filterMap Event.report = _
  rw [List.filterMap_append, List.filterMap_cons_none unseen, List.filterMap_nil, List.append_nil]
  rfl

theorem sendProbe_given {answers : SendAnswers} {world : World} {rest : Inputs}
    (given : world.Given ttl (rest.send answers)) :
    ∃ result after, sendProbe tpConfig world = .done result after ∧ result.isOk = answers.goesOut ∧ after.Given ttl rest ∧
      after.report = world.report := by
  obtain ⟨⟨sameTtl, sameTo, sameFrom⟩, -⟩ := @sendUdpProbe_cases tpConfig world.sendAnswers.head world.runState
  obtain ⟨runState, log, sendAnswers, packets, instants, withinTimeout, isRunning⟩ := world
  obtain ⟨tries, inputs⟩ := given
  cases inputs
  refine ⟨_, _, rfl, sendUdpProbe_goesOut answers runState, ⟨?_, rfl⟩, ?_⟩
  · exact ⟨sameTtl.trans tries.current, sameTo.trans tries.hopsTo, sameFrom.trans tries.hopsFrom⟩
  · exact report_afterSend _ _

theorem attempt_missed {fuel : Nat} (miss : Miss crate) (enough : miss.noise.items.length < fuel) {world : World}
    {rest : Inputs} (given : world.Given ttl (miss.feed rest)) :
    ∃ after : World, attempt crate tpConfig fuel world = .done (.next ()) after ∧ after.Given ttl rest ∧
      after.report = world.report := by
  obtain ⟨result, between, sent, isOk, givenNext, same⟩ := @sendProbe_given tpConfig ttl _ world _ given
  rw [attempt, bind_of_done sent]
  rw [← isOk] at givenNext
  cases result with
  | error message => exact ⟨between, rfl, givenNext, same⟩
  | ok =>
    obtain ⟨after, waited, givenAfter, sameAfter⟩ := @receiveIcmpReplySafe_missed crate tpConfig ttl fuel miss.noise enough
      between rest givenNext
    exact ⟨after, bind_of_done waited, givenAfter, sameAfter.trans same⟩

/-- How the attempt that is answered ends. -/
def Answer.ends (answer : Answer crate) : AttemptEnd :=
  if answer.response = .timeExceeded then .found else .returned

theorem attempt_answered {fuel : Nat} (answer : Answer crate) (enough : answer.noise.items.length < fuel) {world : World}
    {rest : Inputs} (given : world.Given ttl (answer.feed rest)) :
    ∃ after : World, attempt crate tpConfig fuel world = .done (.exit answer.ends) after ∧
      (answer.ends = .found → after.Given ttl rest) ∧
      after.report = world.report ++ answer.lines tpConfig.getLength ttl := by
  obtain ⟨result, between, sent, isOk, givenNext, same⟩ := @sendProbe_given tpConfig ttl _ world _ given
  rw [answer.goesOut] at isOk
  rw [attempt, bind_of_done sent]
  cases result with
  | error message => cases isOk
  | ok =>
    obtain ⟨after, lines, waited, inputs, tries, shown, all⟩ := @receiveIcmpReplySafe_answered crate tpConfig ttl fuel answer
      enough between rest givenNext
    show ∃ final, (receiveIcmpReplySafe crate tpConfig fuel >>= _) between = _ ∧ _
    rw [bind_of_done waited]
    rw [← all, ← List.append_assoc, ← same, ← shown]
    show ∃ final, endedBy tpConfig answer.response after = _ ∧ _
    rw [Answer.ends, Answer.behind]
    cases responds : answer.response with
    | timeExceeded =>
      rw [responds] at tries
      exact ⟨after, rfl, fun _ => ⟨tries.resolve_left nofun, inputs⟩, (List.append_nil _).symm⟩
    | reached =>
      exact ⟨_, rfl, nofun, report_record after [.returned after.runState.ttl .reached]⟩
    | unreachable =>
      rw [responds] at tries
      obtain ⟨-, hopsTo, hopsFrom⟩ := tries.resolve_left nofun
      refine ⟨_, rfl, nofun, ?_⟩
      refine (report_record _ [.returned _ .unreachable]).trans ((List.append_nil _).trans ?_)
      refine (report_record after [.printed (printResume tpConfig after.runState)]).trans ?_
      show after.report ++ [IcmpLine.untimed (printResume tpConfig after.runState)] = _
      rw [printResume, hopsTo, hopsFrom]
      rfl

/-- Attempts that nobody answers use up their share of the three. -/
theorem attempts_missed {fuel : Nat} (misses : List (Miss crate)) (enough : ∀ miss ∈ misses, miss.noise.items.length < fuel)
    {world : World} {rest : Inputs} (given : world.Given ttl (misses.foldr Miss.feed rest)) (index count : Nat) :
    ∃ after : World, forRange (fun _ _ => attempt crate tpConfig fuel) index (misses.length + count) () world =
        forRange (fun _ _ => attempt crate tpConfig fuel) (index + misses.length) count () after ∧ after.Given ttl rest ∧
      after.report = world.report := by
  induction misses generalizing world index with
  | nil => exact ⟨world, by rw [List.length_nil, Nat.zero_add, Nat.add_zero], given, rfl⟩
  | cons miss misses inductionHypothesis =>
    obtain ⟨first, others⟩ := List.forall_mem_cons.mp enough
    obtain ⟨between, missed, givenNext, same⟩ := @attempt_missed crate tpConfig ttl fuel miss first world _ given
    obtain ⟨after, ran, givenAfter, sameAfter⟩ := inductionHypothesis others givenNext (index + 1)
    refine ⟨after, ?_, givenAfter, sameAfter.trans same⟩
    rw [List.length_cons, Nat.add_right_comm, forRange, bind_of_done missed]
    refine ran.trans ?_
    rw [Nat.add_right_comm index 1, Nat.add_assoc index]

/-! ## The hops -/

/-- Enough turns for every wait at a hop. -/
def Hop.patience : Hop crate → Nat
  | silent misses _ => (misses.map (·.noise.items.length)).sum + 1
  | answered misses _ answer => (misses.map (·.noise.items.length)).sum + answer.noise.items.length + 1

theorem length_le_sum_of_mem {misses : List (Miss crate)} {miss : Miss crate} (member : miss ∈ misses) :
    miss.noise.items.length ≤ (misses.map (·.noise.items.length)).sum :=
  List.single_le_sum (fun _ _ => Nat.zero_le _) _ (List.mem_map_of_mem member)

/-- The attempts for a hop. -/
theorem attempts_hop {fuel : Nat} (hop : Hop crate) (enough : hop.patience ≤ fuel) {world : World} {rest : Inputs}
    (given : world.Given ttl (hop.feed rest)) :
    ∃ turn after, forRange (fun _ _ => attempt crate tpConfig fuel) 0 3 () world = .done turn after ∧
      match hop with
      | .silent .. => turn = .next () ∧ after.Given ttl rest ∧ after.report = world.report
      | .answered _ _ answer => turn = .exit answer.ends ∧ (answer.ends = .found → after.Given ttl rest) ∧
          after.report = world.report ++ answer.lines tpConfig.getLength ttl := by
  cases hop with
  | silent misses all =>
    have each : ∀ miss ∈ misses, miss.noise.items.length < fuel := fun miss member =>
      lt_of_lt_of_le (Nat.lt_succ_of_le (length_le_sum_of_mem member)) enough
    obtain ⟨after, ran, givenAfter, same⟩ := @attempts_missed crate tpConfig ttl fuel misses each world rest given 0 0
    rw [all] at ran
    exact ⟨_, after, ran, rfl, givenAfter, same⟩
  | answered misses few answer =>
    rw [Hop.patience] at enough
    have each : ∀ miss ∈ misses, miss.noise.items.length < fuel := fun miss member => by
      have bound := length_le_sum_of_mem member
      omega
    obtain ⟨between, ran, givenNext, same⟩ := @attempts_missed crate tpConfig ttl fuel misses each world _ given 0
      (2 - misses.length + 1)
    obtain ⟨after, answered, givenAfter, shown⟩ := @attempt_answered crate tpConfig ttl fuel answer (by omega) between rest
      givenNext
    rw [show misses.length + (2 - misses.length + 1) = 3 by omega] at ran
    exact ⟨_, after, ran.trans (bind_of_done answered), rfl, givenAfter, same ▸ shown⟩

theorem traceTtl_hop {fuel ttl : Nat} (hop : Hop crate) (enough : hop.patience ≤ fuel) {world : World} {rest : Inputs}
    (hopsTo : world.runState.hopsTo = 0) (hopsFrom : world.runState.hopsFrom = 0) (inputs : world.inputs = hop.feed rest) :
    ∃ after : World, traceTtl crate tpConfig fuel ttl world = .done (if hop.goesOn then .next () else .exit ()) after ∧
      (hop.goesOn → after.Given (UInt8.ofNat ttl) rest) ∧
      after.report = world.report ++ hop.lines tpConfig.getLength (UInt8.ofNat ttl) := by
  obtain ⟨turn, between, ran, ends⟩ := @attempts_hop crate tpConfig (UInt8.ofNat ttl) fuel hop enough
    { world with runState := world.runState.setTtl (UInt8.ofNat ttl) } rest ⟨⟨rfl, hopsTo, hopsFrom⟩, inputs⟩
  show ∃ after, (forRange (fun _ _ => attempt crate tpConfig fuel) 0 3 () >>= _)
    { world with runState := world.runState.setTtl (UInt8.ofNat ttl) } = _ ∧ _
  rw [bind_of_done ran]
  cases hop with
  | silent misses all =>
    obtain ⟨rfl, given, same⟩ := ends
    refine ⟨_, rfl, fun _ => ⟨given.tries, given.inputs⟩, ?_⟩
    exact (report_record between [.printed (.noReply _)]).trans (congrArg (· ++ _) same)
  | answered misses few answer =>
    obtain ⟨rfl, given, shown⟩ := ends
    by_cases exceeded : answer.response = .timeExceeded
    · have found : answer.ends = .found := if_pos exceeded
      rw [found]
      refine ⟨between, ?_, fun _ => given found, shown⟩
      simp [Hop.goesOn, exceeded]
      rfl
    · have returned : answer.ends = .returned := if_neg exceeded
      rw [returned]
      refine ⟨between, ?_, fun goesOn => ?_, shown⟩
      · simp [Hop.goesOn, exceeded]
        rfl
      · simp [Hop.goesOn, exceeded] at goesOn

end

section

variable {tpConfig : TracepathConfig}

/-- The loop over the TTLs, and the line behind it. -/
theorem forRange_traceTtl_path {fuel : Nat} (path : Nat → Hop crate) {world : World} {rest : Inputs} {ttl count : Nat}
    (enough : ∀ hop, ttl ≤ hop → hop < ttl + count → (path hop).patience ≤ fuel)
    (hopsTo : world.runState.hopsTo = 0) (hopsFrom : world.runState.hopsFrom = 0)
    (inputs : world.inputs = feedPath path rest ttl count) :
    ∃ final : World, (forRange (fun ttl _ => traceTtl crate tpConfig fuel ttl) ttl count () >>= fun
        | .exit () => pure ()
        | .next () => print .tooManyHops) world = .done () final ∧
      final.report = world.report ++ reportPath path tpConfig.getLength ttl count := by
  induction count generalizing ttl world with
  | zero => exact ⟨_, rfl, report_record world [.printed .tooManyHops]⟩
  | succ count inductionHypothesis =>
    obtain ⟨between, traced, given, shown⟩ := @traceTtl_hop crate tpConfig fuel ttl (path ttl)
      (enough ttl le_rfl (by omega)) world _ hopsTo hopsFrom inputs
    rw [forRange, bind_assoc, bind_of_done traced, reportPath, ← List.append_assoc, ← shown]
    cases goesOn : (path ttl).goesOn with
    | true =>
      obtain ⟨⟨-, nextTo, nextFrom⟩, nextInputs⟩ := given goesOn
      exact inductionHypothesis (fun hop from' below => enough hop (by omega) (by omega)) nextTo nextFrom nextInputs
    | false => exact ⟨between, rfl, (List.append_nil _).symm⟩

end

/-- With enough patience, the trace of a path reports it hop by hop. -/
theorem tracepathRunIcmpIpv4_reports (tpConfig : TracepathConfig) (path : Nat → Hop crate) (rest : Inputs)
    (target : Ipv4Addr) (instants : Stream' Instant) :
    let inputs := feedPath path rest 1 tpConfig.getHops.toNat
    ∃ enough, ∀ fuel ≥ enough, ∃ final : World, tracepathRunIcmpIpv4 crate tpConfig fuel
        (.start tpConfig target inputs.sendAnswers inputs.packets instants inputs.withinTimeout inputs.isRunning) =
        .done () final ∧ final.report = reportPath path tpConfig.getLength 1 tpConfig.getHops.toNat := by
  intro inputs
  refine ⟨(Finset.range (1 + tpConfig.getHops.toNat)).sup fun ttl => (path ttl).patience, fun fuel enough => ?_⟩
  have patient : ∀ ttl, 1 ≤ ttl → ttl < 1 + tpConfig.getHops.toNat → (path ttl).patience ≤ fuel := fun ttl _ below =>
    (Finset.le_sup (f := fun ttl => (path ttl).patience) (Finset.mem_range.mpr below)).trans enough
  exact @forRange_traceTtl_path crate tpConfig fuel path
    (.start tpConfig target inputs.sendAnswers inputs.packets instants inputs.withinTimeout inputs.isRunning) rest 1 _
    patient rfl rfl rfl

end Utiputils.Tracepath.Icmp
