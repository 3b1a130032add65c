import Utiputils.Lib.EventLog
import Utiputils.Tracepath.IcmpRun

/-! # Whose errors the IPv4 trace reports

An ICMP error quotes the datagram that caused it. `receive_icmp_reply_safe` does not look at the quotation: whatever
error comes first is taken for an answer to the last probe. -/

namespace Utiputils.Tracepath.Icmp

open Utiputils.Lib Utiputils.Pnet Proc

def UDP : UInt8 := 17

/-! ## What an error quotes -/

section

variable (crate : Crate) (target : IpAddr)

def isError (datagram : Datagram) : Bool :=
  let icmpPacket := crate.ipv4.payload datagram.bytes
  crate.ipv4.nextLevelProtocol datagram.bytes = IpNextHeaderProtocols.Icmp ∧ crate.icmp.new icmpPacket ∧
    (crate.icmp.icmpType icmpPacket = IcmpTypes.TimeExceeded ∨
      crate.icmp.icmpType icmpPacket = IcmpTypes.DestinationUnreachable)

/-- The header of the datagram in question, and the first bytes of its payload. -/
def quotation (datagram : Datagram) : Bytes := (crate.ipv4.payload datagram.bytes).drop 8

/-- The quoted datagram is the probe. -/
def Quotes (datagram : Datagram) (probe : Probe) : Prop :=
  let quoted := quotation crate datagram
  headerLength quoted + 4 ≤ quoted.length ∧ byteAt quoted 9 = UDP ∧
    IpAddr.v4 ⟨byteAt quoted 16, byteAt quoted 17, byteAt quoted 18, byteAt quoted 19⟩ = target ∧
    u16At quoted (headerLength quoted) = probe.sourcePort ∧ u16At quoted (headerLength quoted + 2) = probe.destPort

instance (datagram : Datagram) (probe : Probe) : Decidable (Quotes crate target datagram probe) :=
  inferInstanceAs (Decidable (_ ∧ _))

def sentProbes (log : List Event) : List Probe :=
  log.filterMap fun
    | .probe probe true => some probe
    | _ => none

/-- A probe that was sent with the TTL before is quoted. -/
def QuotesOwn (before : List Event) (ttl : UInt8) (datagram : Datagram) : Prop :=
  ∃ probe ∈ sentProbes before, probe.ttl = ttl ∧ Quotes crate target datagram probe

instance (before : List Event) (ttl : UInt8) (datagram : Datagram) :
    Decidable (QuotesOwn crate target before ttl datagram) :=
  inferInstanceAs (Decidable (∃ probe ∈ sentProbes before, _))

/-- What is reported for a TTL, and what the trace returns with, is due to an error for a probe with that TTL. -/
def Attributed (before : List Event) : Event → Prop
  | .reported ttl _ datagram => isError crate datagram ∧ QuotesOwn crate target before ttl datagram
  | .returned ttl response => ∃ datagram, .reported ttl response datagram ∈ before ∧
      isError crate datagram ∧ QuotesOwn crate target before ttl datagram
  | .probe .. | .noSocket _ | .received .. | .printed _ => True

/-- An error that arrives in the wait for a TTL is for a probe with that TTL. -/
def ArrivesInTime (before : List Event) : Event → Prop
  | .received ttl datagram => isError crate datagram → QuotesOwn crate target before ttl datagram
  | .probe .. | .noSocket _ | .reported .. | .returned .. | .printed _ => True

end

section

variable {crate : Crate} {target : IpAddr} {tpConfig : TracepathConfig} {fuel : Nat}

theorem QuotesOwn.append {before : List Event} {ttl : UInt8} {datagram : Datagram}
    (quotes : QuotesOwn crate target before ttl datagram) (more : List Event) :
    QuotesOwn crate target (before ++ more) ttl datagram := by
  obtain ⟨probe, member, fits⟩ := quotes
  refine ⟨probe, ?_, fits⟩
  rw [sentProbes, List.filterMap_append]
  exact List.mem_append_left _ member

theorem quotesOwn_received {before : List Event} {ttl other : UInt8} {datagram received : Datagram} :
    QuotesOwn crate target (before ++ [.received other received]) ttl datagram ↔
      QuotesOwn crate target before ttl datagram := by
  have same : sentProbes (before ++ [.received other received]) = sentProbes before := by
    rw [sentProbes, List.filterMap_append]
    exact List.append_nil _
  rw [QuotesOwn, same]
  rfl

/-! ## What a step does to the two laws -/

/-- So far the trace attributes rightly exactly if the errors have come in time. -/
def Agrees (crate : Crate) (target : IpAddr) (log : List Event) : Prop :=
  Law (Attributed crate target) log ↔ Law (ArrivesInTime crate target) log

theorem Agrees.append {log more : List Event} (agrees : Agrees crate target log)
    (free : ∀ before, ∀ event ∈ more, Attributed crate target before event ∧ ArrivesInTime crate target before event) :
    Agrees crate target (log ++ more) := by
  rw [Agrees, law_append fun before event member => (free before event member).1,
    law_append fun before event member => (free before event member).2]
  exact agrees

theorem printed_free (lines : List IcmpLine) :
    ∀ before, ∀ event ∈ lines.map Event.printed,
      Attributed crate target before event ∧ ArrivesInTime crate target before event :=
  fun _ => List.forall_mem_map.mpr fun _ _ => ⟨trivial, trivial⟩

/-- An error is reported in the wait in which it arrives. -/
theorem Agrees.report {log : List Event} (agrees : Agrees crate target log) {ttl : UInt8} {datagram : Datagram}
    (error : isError crate datagram) (response : ResponseType) (lines : List IcmpLine) :
    Agrees crate target (log ++ [.received ttl datagram] ++ .reported ttl response datagram :: lines.map .printed) := by
  rw [List.append_cons]
  refine Agrees.append ?_ (printed_free lines)
  have attributed : Attributed crate target (log ++ [.received ttl datagram]) (.reported ttl response datagram) ↔
      QuotesOwn crate target log ttl datagram := by
    rw [Attributed, quotesOwn_received]
    exact and_iff_right error
  have inTime : ArrivesInTime crate target log (.received ttl datagram) ↔ QuotesOwn crate target log ttl datagram :=
    forall_prop_of_true error
  have both : Law (Attributed crate target) log ↔ Law (ArrivesInTime crate target) log := agrees
  rw [Agrees, law_concat, law_concat, law_concat, law_concat, attributed, inTime, both]
  exact ⟨fun ⟨⟨earlier, _⟩, own⟩ => ⟨⟨earlier, own⟩, trivial⟩, fun ⟨⟨earlier, own⟩, _⟩ => ⟨⟨earlier, trivial⟩, own⟩⟩

/-- Any other datagram is passed over. -/
theorem Agrees.skip {log : List Event} (agrees : Agrees crate target log) {ttl : UInt8} {datagram : Datagram}
    (noError : ¬ isError crate datagram) : Agrees crate target (log ++ [.received ttl datagram]) :=
  agrees.append fun _ => List.forall_mem_singleton.mpr ⟨trivial, fun error => absurd error noError⟩

/-- The trace returns with what has been reported. -/
theorem Agrees.return {log : List Event} (agrees : Agrees crate target log) {ttl : UInt8} {response : ResponseType}
    {datagram : Datagram} (reported : .reported ttl response datagram ∈ log) :
    Agrees crate target (log ++ [.returned ttl response]) := by
  obtain ⟨before, after, split⟩ := List.append_of_mem reported
  have follows : Law (Attributed crate target) log → Attributed crate target log (.returned ttl response) := by
    intro law
    obtain ⟨error, quotes⟩ := law before _ after split
    refine ⟨datagram, reported, error, ?_⟩
    rw [split]
    exact quotes.append _
  have both : Law (Attributed crate target) log ↔ Law (ArrivesInTime crate target) log := agrees
  rw [Agrees, law_concat, law_concat, ← both]
  exact ⟨fun both => ⟨both.1, trivial⟩, fun both => ⟨both.1, follows both.1⟩⟩

/-! ## The run -/

theorem handleReply_isSome_iff {datagram : Datagram} {rtt : Duration} {runState : RunState}
    (icmp : crate.ipv4.nextLevelProtocol datagram.bytes = IpNextHeaderProtocols.Icmp)
    (view : crate.icmp.new (crate.ipv4.payload datagram.bytes)) :
    (handleReply crate tpConfig datagram rtt runState).isSome = isError crate datagram := by
  simp only [handleReply, isError, icmp, view]
  split_ifs with exceeded unreachable <;> simp [*]

def Agreeing (crate : Crate) (target : IpAddr) (world : World) : Prop := Agrees crate target world.log

theorem keeps_print (line : IcmpLine) : Keeps (Agreeing crate target) (print line) :=
  keeps_modify fun _ agrees => agrees.append (printed_free [line])

theorem keeps_sendProbe : Keeps (Agreeing crate target) (sendProbe tpConfig) := by
  refine triple_get_bind fun world agrees => triple_bind (triple_modify fun _ same => ?_) fun _ =>
    triple_pure fun _ reached => reached
  rw [same]
  refine Agrees.append agrees fun before event member => ?_
  rw [List.mem_singleton.mp member, Sent.event]
  split <;> exact ⟨trivial, trivial⟩

/-- A datagram that has just come out of the channel. -/
def Fresh (crate : Crate) (target : IpAddr) (datagram : Datagram) (world : World) : Prop :=
  ∃ log, world.log = log ++ [.received world.runState.ttl datagram] ∧ Agrees crate target log

theorem Fresh.skip {datagram : Datagram} {world : World} (fresh : Fresh crate target datagram world)
    (noError : ¬ isError crate datagram) : Agreeing crate target world := by
  obtain ⟨log, split, agrees⟩ := fresh
  rw [Agreeing, split]
  exact agrees.skip noError

/-- What the wait returned was reported. -/
def Reported (crate : Crate) (target : IpAddr) (result : Except String ResponseType) (world : World) : Prop :=
  Agreeing crate target world ∧
    ∀ response, result = .ok response → ∃ datagram, .reported world.runState.ttl response datagram ∈ world.log

theorem triple_nextWithTimeout : Triple (Agreeing crate target) nextWithTimeout
    (fun packet world => match packet with
      | .ok (some datagram) => Fresh crate target datagram world
      | .ok none | .error _ => Agreeing crate target world) (Agreeing crate target) := by
  refine triple_modifyGet fun world agrees => ?_
  rcases packet : world.packets.head with _ | _ | datagram
  · exact agrees.append fun _ => List.forall_mem_nil _
  · exact agrees.append fun _ => List.forall_mem_nil _
  · exact ⟨world.log, rfl, agrees⟩

theorem triple_handleDatagram {datagram : Datagram} {rtt : Duration}
    (icmp : crate.ipv4.nextLevelProtocol datagram.bytes = IpNextHeaderProtocols.Icmp)
    (view : crate.icmp.new (crate.ipv4.payload datagram.bytes)) :
    Triple (Fresh crate target datagram) (handleDatagram crate tpConfig datagram rtt)
      (Turn.post (fun _ => Agreeing crate target) (Reported crate target)) (Agreeing crate target) := by
  intro world fresh
  rw [handleDatagram_run]
  have isReply := @handleReply_isSome_iff crate tpConfig datagram rtt world.runState icmp view
  cases replied : handleReply crate tpConfig datagram rtt world.runState with
  | none =>
    rw [replied] at isReply
    exact fresh.skip (by rw [← isReply]; exact Bool.false_ne_true)
  | some handled =>
    rw [replied] at isReply
    -- the log ends with the arrival of this datagram
    obtain ⟨log, split, agrees⟩ := fresh
    obtain ⟨-, -, ttl⟩ := handleReply_frame replied
    constructor
    · show Agrees crate target (world.log ++ _)
      rw [split]
      exact agrees.report isReply.symm _ _
    · intro response same
      cases same
      refine ⟨datagram, List.mem_append_right _ ?_⟩
      show Event.reported handled.state.ttl _ _ ∈ _
      rw [ttl]
      exact List.mem_cons_self

theorem triple_receiveStep (sendTime : Instant) :
    Triple (Agreeing crate target) (receiveStep crate tpConfig sendTime ())
      (Turn.post (fun _ => Agreeing crate target) (Reported crate target)) (Agreeing crate target) := by
  have asked {read : World → Bool × World} (same : ∀ world, (read world).2.log = world.log) :
      Triple (Agreeing crate target) (modifyGet read) (fun _ => Agreeing crate target) (Agreeing crate target) :=
    triple_modifyGet fun world agrees => by rw [Agreeing, same]; exact agrees
  refine triple_bind (asked fun _ => rfl) fun waiting => ?_
  cases waiting with
  | false => exact triple_pure fun _ agrees => ⟨agrees, nofun⟩
  | true =>
    refine triple_bind (asked fun _ => rfl) fun running => ?_
    cases running with
    | false => exact triple_bind (keeps_print .blank) fun _ => triple_stop fun _ agrees => agrees
    | true =>
      refine triple_bind triple_nextWithTimeout fun packet => ?_
      rcases packet with _ | _ | datagram
      · exact triple_pure fun _ agrees => agrees
      · exact triple_pure fun _ agrees => agrees
      · show Triple _ (if _ then _ else if _ then _ else _) _ _
        -- a datagram that is passed over reports no error
        by_cases other : crate.ipv4.nextLevelProtocol datagram.bytes ≠ IpNextHeaderProtocols.Icmp
        · rw [if_pos other]
          exact triple_pure fun _ fresh => fresh.skip (by simp [isError, other])
        · rw [if_neg other]
          by_cases short : ¬ crate.icmp.new (crate.ipv4.payload datagram.bytes)
          · rw [if_pos short]
            exact triple_stop fun _ fresh => fresh.skip (by simp [isError, short])
          · rw [if_neg short]
            have clock : Triple (Fresh crate target datagram) now (fun _ => Fresh crate target datagram)
                (Agreeing crate target) := triple_modifyGet fun _ fresh => fresh
            exact triple_bind clock fun _ => triple_handleDatagram (not_not.mp other) (not_not.mp short)

theorem triple_receiveIcmpReplySafe : Triple (Agreeing crate target) (receiveIcmpReplySafe crate tpConfig fuel)
    (Reported crate target) (Agreeing crate target) := by
  refine triple_get_bind fun start agrees => ?_
  have clock : Triple (fun world => world = start) now (fun _ => Agreeing crate target) (Agreeing crate target) :=
    triple_modifyGet fun _ same => by rw [same]; exact agrees
  exact triple_bind clock fun _ => triple_forever (fun _ => Agreeing crate target) (fun _ => triple_receiveStep _)
    (fun _ _ agrees => agrees) fuel ()

theorem triple_returnWith {response : ResponseType} : Triple (Reported crate target (.ok response))
    (returnWith response) (fun _ => Agreeing crate target) (Agreeing crate target) := by
  refine triple_get_bind fun world reported => triple_bind (triple_modify fun _ same => ?_) fun _ =>
    triple_pure fun _ reached => reached
  obtain ⟨agrees, answered⟩ := reported
  obtain ⟨datagram, member⟩ := answered response rfl
  rw [same]
  exact agrees.return member

theorem triple_endedBy {response : ResponseType} : Triple (Reported crate target (.ok response))
    (endedBy tpConfig response) (fun _ => Agreeing crate target) (Agreeing crate target) := by
  cases response with
  | reached => exact triple_returnWith
  | timeExceeded => exact triple_pure fun _ reported => reported.1
  | unreachable =>
    refine triple_get_bind fun world reported => ?_
    have printed : Triple (fun state => state = world) (print (printResume tpConfig world.runState))
        (fun _ => Reported crate target (.ok .unreachable)) (Agreeing crate target) := by
      refine triple_modify fun _ same => ?_
      obtain ⟨agrees, answered⟩ := reported
      rw [same]
      refine ⟨agrees.append (printed_free [_]), fun response isOk => ?_⟩
      obtain ⟨datagram, member⟩ := answered response isOk
      exact ⟨datagram, List.mem_append_left _ member⟩
    exact triple_bind printed fun _ => triple_returnWith

theorem keeps_attempt : Keeps (Agreeing crate target) (attempt crate tpConfig fuel) := by
  refine triple_bind keeps_sendProbe fun sent => ?_
  cases sent with
  | error message => exact triple_pure fun _ agrees => agrees
  | ok =>
    refine triple_bind triple_receiveIcmpReplySafe fun received => ?_
    cases received with
    | error message => exact triple_pure fun _ reported => reported.1
    | ok response => exact triple_endedBy

theorem keeps_traceTtl (ttl : Nat) : Keeps (Agreeing crate target) (traceTtl crate tpConfig fuel ttl) := by
  refine keeps_bind (keeps_modify fun _ agrees => agrees) fun _ => ?_
  refine keeps_bind (keeps_forRange (fun _ _ _ _ => keeps_attempt) ()) fun turn => ?_
  rcases turn with _ | _ | _
  · exact keeps_bind (keeps_print _) fun _ => keeps_pure
  · exact keeps_pure
  · exact keeps_pure

theorem keeps_tracepathRunIcmpIpv4 : Keeps (Agreeing crate target) (tracepathRunIcmpIpv4 crate tpConfig fuel) := by
  refine keeps_bind (keeps_forRange (fun ttl _ _ _ => keeps_traceTtl ttl) ()) fun turn => ?_
  cases turn with
  | next => exact keeps_print _
  | exit => exact keeps_pure

end

/-- In every run: all that is reported is due to the probes of its TTL if and only if no other error arrives in a
wait. -/
theorem attributed_iff (crate : Crate) (tpConfig : TracepathConfig) (fuel : Nat) (target : Ipv4Addr)
    (sendAnswers : Stream' SendAnswers) (packets : Stream' (Except String (Option Datagram)))
    (instants : Stream' Instant) (withinTimeout isRunning : Stream' Bool) :
    let log := (tracepathRunIcmpIpv4 crate tpConfig fuel
      (.start tpConfig target sendAnswers packets instants withinTimeout isRunning)).state.log
    Law (Attributed crate (.v4 target)) log ↔ Law (ArrivesInTime crate (.v4 target)) log :=
  keeps_tracepathRunIcmpIpv4.state (fun _ _ agrees => agrees) (iff_of_true law_nil law_nil)

/-! ## Two wrong reports -/

/-- An error from a router for a datagram that this host sent. -/
def icmpError (icmpType code : UInt8) (destination : Ipv4Addr) (sourcePort destPort : UInt16) : Datagram where
  bytes := [0x45, 0, 0, 56, 0, 0, 0, 0, 64, 1, 0, 0, 198, 51, 100, 1, 192, 0, 2, 2] ++
    [icmpType, code, 0, 0, 0, 0, 0, 0] ++ [0x45, 0, 0, 28, 0, 0, 0, 0, 1, UDP, 0, 0, 192, 0, 2, 2] ++
    destination.octets ++ beBytes16 sourcePort ++ beBytes16 destPort ++ [0, 8, 0, 0]
  addr := .v4 ⟨198, 51, 100, 1⟩

/-- The resolver of another program does not listen. -/
def foreignError : Datagram := icmpError 3 3 ⟨198, 51, 100, 53⟩ 50000 53

/-- The answer to the third probe with TTL 1. -/
def lateError : Datagram := icmpError 11 0 ⟨192, 0, 2, 1⟩ 40000 44446

/-- All probes go out, and the datagram is what the channel delivers from some wait on. -/
def traceWith (datagram : Datagram) (silentWaits : Nat) : List Event :=
  (tracepathRunIcmpIpv4 .rfcs twoHops 5 (.start twoHops ⟨192, 0, 2, 1⟩ (.const ⟨.ok 40000, .ok 0, .ok 0⟩)
    (.const (.ok (some datagram))) (.const 7) (fun test => silentWaits ≤ test) (.const true))).state.log

theorem traceWith_foreignError : traceWith foreignError 0 = [
    .probe ⟨1, 40000, 44444, 1472⟩ true,
    .received 1 foreignError,
    .reported 1 .reached foreignError,
    .printed (.reached 1 (.v4 ⟨198, 51, 100, 1⟩) 7),
    .printed (.resume 1500 1 1),
    .returned 1 .reached] := by
  decide +kernel

theorem traceWith_lateError : traceWith lateError 3 = [
    .probe ⟨1, 40000, 44444, 1472⟩ true,
    .probe ⟨1, 40000, 44445, 1472⟩ true,
    .probe ⟨1, 40000, 44446, 1472⟩ true,
    .printed (.noReply 1),
    .probe ⟨2, 40000, 44447, 1472⟩ true,
    .received 2 lateError,
    .reported 2 .timeExceeded lateError,
    .printed (.hop 2 (.v4 ⟨198, 51, 100, 1⟩) 7 none),
    .printed .tooManyHops] := by
  decide +kernel

/-- The target counts as reached though no probe was answered, and a router shows up a hop further away. -/
theorem traceWith_not_attributed :
    ¬ Law (Attributed .rfcs (.v4 ⟨192, 0, 2, 1⟩)) (traceWith foreignError 0) ∧
      ¬ Law (Attributed .rfcs (.v4 ⟨192, 0, 2, 1⟩)) (traceWith lateError 3) := by
  constructor
  · intro law
    obtain ⟨-, own⟩ := law [_, _] _ [_, _, _] traceWith_foreignError
    exact absurd own (by decide +kernel)
  · intro law
    obtain ⟨-, own⟩ := law [_, _, _, _, _, _] _ [_, _] traceWith_lateError
    exact absurd own (by decide +kernel)

end Utiputils.Tracepath.Icmp
