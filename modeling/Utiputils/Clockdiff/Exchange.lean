import Utiputils.Clockdiff.Offset
import Utiputils.Clockdiff.Packets

/-! # A run against another host

The whole protocol: requests as they are built, a host with another clock that answers them, a network that delays,
loses, repeats and reorders, and the loop that reads what comes back. As long as nobody else's timestamps reach it, the
run estimates how far the other clock is ahead. -/

namespace Utiputils.Clockdiff

open Utiputils.Lib Utiputils.Pnet

/-! ## The accumulator -/

/-- The estimate misses the offset by half of `rtt_min` at most, once there is one. -/
def SumResult.Near (theta : Int) (self : SumResult) : Prop :=
  self.rttMin = 9223372036854775807 ∨ 2 * |self.measureDelta1 - theta| ≤ self.rttMin + 1

theorem near_new (theta : Int) (host : String) (timeFormat : Option String) :
    (SumResult.new host timeFormat).Near theta := .inl rfl

section

variable {ipTimestamp : Bool} {theta : Int}

/-- What one sample of the clock does to it. -/
theorem OffsetSample.calculateDelta_near (taken : OffsetSample ipTimestamp theta) {self : SumResult}
    (near : self.Near theta) :
    let after := (self.calculateDelta ipTimestamp taken.sample).1
    after.Near theta ∧ after.rttMin ≤ self.rttMin ∧
      (taken.sample.accepted → after.rttMin ≤ taken.forward + taken.backward) := by
  cases accepted : taken.sample.accepted with
  | false =>
    rw [calculateDelta_of_rejected self ipTimestamp taken.sample accepted]
    exact ⟨near, le_rfl, nofun⟩
  | true =>
    obtain ⟨-, -, pair, -⟩ := calculateDelta_of_accepted self ipTimestamp taken.sample accepted
    rw [keepLeast] at pair
    rw [← taken.roundTrip_eq]
    by_cases shorter : taken.sample.roundTrip ipTimestamp < self.rttMin
    · rw [if_pos shorter, Prod.mk.injEq] at pair
      obtain ⟨rttMin, measureDelta1⟩ := pair
      refine ⟨.inr ?_, rttMin ▸ shorter.le, fun _ => rttMin.le⟩
      rw [rttMin, measureDelta1]
      exact taken.halfDifference_near
    · rw [if_neg shorter, Prod.mk.injEq] at pair
      obtain ⟨rttMin, measureDelta1⟩ := pair
      refine ⟨?_, rttMin.le, fun _ => rttMin.le.trans (not_lt.mp shorter)⟩
      rw [SumResult.Near, rttMin, measureDelta1]
      exact near

end

/-! ## Clocks and exchanges -/

/-- `get_timestamp` on a clock that shows so many milliseconds since the epoch. -/
def getTimestamp (time : Int) : UInt32 := UInt32.ofNat (time % 86400000).toNat

theorem getTimestamp_range (time : Int) : 0 ≤ ((getTimestamp time).toNat : Int) ∧
    ((getTimestamp time).toNat : Int) < 86400000 := by
  rw [getTimestamp, UInt32.toNat_ofNat']
  omega

theorem getTimestamp_modEq (time : Int) : ((getTimestamp time).toNat : Int) ≡ time [ZMOD 86400000] := by
  rw [getTimestamp, UInt32.toNat_ofNat', Int.ModEq]
  omega

/-- A request that was sent at a time, and the answer that came back, in the time of the local clock. The other clock is
ahead by `theta`. -/
structure Exchange (options : ClockdiffConfig) (theta sent : Int) where
  received : Int
  transmitted : Int
  arrived : Int
  outward : sent ≤ received
  held : received ≤ transmitted
  homeward : transmitted ≤ arrived
  /-- the host enters one time only -/
  held_three : options.threeTimestamps = true → transmitted = received
  outward_range : -43200000 ≤ received - sent + theta ∧ received - sent + theta ≤ 43199999
  homeward_range : -43200000 ≤ arrived - (if options.ipTimestamp then transmitted else received) - theta ∧
    arrived - (if options.ipTimestamp then transmitted else received) - theta ≤ 43199999

namespace Exchange

variable {options : ClockdiffConfig} {theta sent : Int} (self : Exchange options theta sent)

/-- The time at which the answer left, as far as the tool knows. -/
def left : Int := if options.ipTimestamp then self.transmitted else self.received

/-- The sample that the tool is to take from it. -/
def sample : ClockDiffResult where
  localSendTime := (getTimestamp sent).toNat
  remoteRecvTime := (getTimestamp (self.received + theta)).toNat
  remoteSendTime := (getTimestamp (self.transmitted + theta)).toNat
  localRecvTime := (getTimestamp self.arrived).toNat

def offsetSample : OffsetSample options.ipTimestamp theta where
  sample := self.sample
  forward := self.received - sent
  backward := self.arrived - self.left
  forward_nonneg := sub_nonneg.mpr self.outward
  backward_nonneg := by
    have held := self.held
    have homeward := self.homeward
    simp only [left]
    split <;> omega
  localSendTime_range := getTimestamp_range _
  remoteRecvTime_range := getTimestamp_range _
  remoteSendTime_range := getTimestamp_range _
  localRecvTime_range := getTimestamp_range _
  outward := by
    have sentAt := getTimestamp_modEq sent
    have receivedAt := getTimestamp_modEq (self.received + theta)
    simp only [sample, Int.ModEq] at *
    omega
  homeward := by
    have arrivedAt := getTimestamp_modEq self.arrived
    have receivedAt := getTimestamp_modEq (self.received + theta)
    have transmittedAt := getTimestamp_modEq (self.transmitted + theta)
    simp only [sample, left, Int.ModEq] at *
    split <;> omega
  outward_range := self.outward_range
  homeward_range := self.homeward_range

end Exchange

/-! ## The packets -/

/-- The request of a round. -/
def requestBytes (crate : ClockdiffCrate) (options : ClockdiffConfig) (source dest : Ipv4Addr) (identifier : UInt16)
    (index : Nat) (sent : Int) : Bytes :=
  if options.ipTimestamp then
    (buildIpv4PacketWithTimestamp crate (getTimestamp sent) options (UInt16.ofNat index) identifier source dest).getD []
  else
    (buildIcmpTimestampPacket crate (getTimestamp sent) source dest identifier (UInt16.ofNat index)).toOption.getD []

/-- What an answer carries apart from the times. -/
structure Envelope where
  ttl : UInt8
  headerChecksum : UInt16
  source : Ipv4Addr
  destination : Ipv4Addr
  checksum : UInt16

def Envelope.header (self : Envelope) (first : UInt8) (totalLength : Nat) : Ipv4Header where
  first
  totalLength := UInt16.ofNat totalLength
  ttl := self.ttl
  protocol := IpNextHeaderProtocols.Icmp
  checksum := self.headerChecksum
  source := self.source
  destination := self.destination

section

variable {options : ClockdiffConfig} {theta sent : Int}

/-- The times that are entered in the slots of the option, the last one when the answer is back. -/
def Exchange.stamps (self : Exchange options theta sent) : List UInt32 :=
  if options.threeTimestamps then [getTimestamp (self.received + theta), getTimestamp self.arrived]
  else [getTimestamp (self.received + theta), getTimestamp (self.transmitted + theta), getTimestamp self.arrived]

/-- The times are entered in the first option of the area, which ends where it says. -/
def stampArea (times : List UInt32) (area : Bytes) : Bytes :=
  let length := (byteAt area 1).toNat
  times.foldl stampOption (area.take length) ++ area.drop length

/-- The answer: an echo reply with the option of the request, or a timestamp reply. -/
def Exchange.replyBytes (self : Exchange options theta sent) (envelope : Envelope) (request : Bytes) : Bytes :=
  if options.ipTimestamp then
    (envelope.header (byteAt request 0) request.length).bytes ++
      (stampArea self.stamps (optionsArea request) ++
        IcmpTypes.EchoReply :: request.drop (headerLength request + 1))
  else
    (envelope.header 0x45 40).bytes ++
      timestampReply (request.drop 20) envelope.checksum (getTimestamp (self.received + theta))
        (getTimestamp (self.transmitted + theta))

/-- What the run relies on of the crate, besides the layouts: where the protocol stands, and what the iterator over the
options shows. -/
structure Reads (crate : ClockdiffCrate) : Prop where
  follows : crate.FollowsRfcs
  nextLevelProtocol : ∀ packet, 20 ≤ packet.length → crate.ipv4.nextLevelProtocol packet = byteAt packet 9
  showsRest : crate.ipv4.ShowsRest

variable {crate : ClockdiffCrate} (reads : Reads crate)
include reads

/-- The timestamp reply of the host. -/
theorem takePacket_timestampReply (self : Exchange options theta sent) (message : options.ipTimestamp = false)
    (envelope : Envelope) (source dest : Ipv4Addr) (identifier : UInt16) (index : Nat) (run : Run) :
    takePacket crate.toCrate options (getTimestamp self.arrived)
        (self.replyBytes envelope (requestBytes crate options source dest identifier index sent)) run =
      .ok (run.calculateDelta options.ipTimestamp self.sample) := by
  obtain ⟨follows, nextLevelProtocol, -⟩ := reads
  let payload := timestampPayload identifier (UInt16.ofNat index) (getTimestamp sent)
  let request := icmpBytes IcmpTypes.Timestamp 0 (crate.checksum (icmpBytes IcmpTypes.Timestamp 0 0 payload) 1) payload
  have requested : requestBytes crate options source dest identifier index sent =
      (timestampHeader source dest).bytes ++ request := by
    rw [requestBytes, if_neg (by rw [message]; nofun), buildIcmpTimestampPacket_eq follows]
    rfl
  let reply := timestampReply request envelope.checksum (getTimestamp (self.received + theta))
    (getTimestamp (self.transmitted + theta))
  let packet := (envelope.header 0x45 40).bytes ++ reply
  have replied : self.replyBytes envelope (requestBytes crate options source dest identifier index sent) = packet := by
    rw [Exchange.replyBytes, if_neg (by rw [message]; nofun), requested, List.drop_left' (Ipv4Header.length_bytes _)]
  have long : 20 ≤ packet.length := Ipv4Header.length_append _ _
  have isNew : crate.ipv4.new packet = true := (follows.toCrate.ipv4.new _).trans (decide_eq_true long)
  have isIcmp : crate.ipv4.nextLevelProtocol packet = IpNextHeaderProtocols.Icmp := nextLevelProtocol packet long
  have header : headerLength packet = 20 := by
    rw [headerLength_bytes]
    show 4 * ((0x45 : UInt8).toNat % 16) = 20
    decide
  have total : totalLength packet = packet.length := congrArg UInt16.toNat (be16_beBytes16 _)
  have isReply : crate.ipv4.payload packet = reply := by
    rw [follows.toCrate.ipv4.payload packet long header.symm.le, header, total, List.take_length,
      List.drop_left' (Ipv4Header.length_bytes _)]
  have whole : 4 ≤ reply.length := Nat.le_add_left 4 16
  have icmpNew : crate.icmp.new reply = true := (follows.toCrate.icmp.new _).trans (decide_eq_true whole)
  have icmpType : crate.icmp.icmpType reply = IcmpTypes.TimestampReply := follows.toCrate.icmp.icmpType _ whole
  have parsed : parseTimestamps (getTimestamp self.arrived) (crate.icmp.payload reply) = .ok self.sample := by
    rw [follows.icmpPayload _ whole]
    exact parseTimestamps_timestampReply ..
  rw [replied, takePacket, if_pos isNew, takeIcmpReply, if_pos isIcmp, isReply, if_pos ⟨icmpNew, icmpType⟩, parsed]
  simp only [message, Bool.false_eq_true, false_and, if_false]

omit reads in
theorem stampArea_requestArea (self : Exchange options theta sent) (source dest : Ipv4Addr) :
    stampArea self.stamps (requestArea options.threeTimestamps (getTimestamp sent) source dest) =
      self.stamps.foldl stampOption (timestampOption (UInt8.ofNat (optionLen options.threeTimestamps)) 13
          (requestSlots options.threeTimestamps (getTimestamp sent) source dest)) ++
        optionPadding options.threeTimestamps := by
  have length : (byteAt (requestArea options.threeTimestamps (getTimestamp sent) source dest) 1).toNat =
      optionLen options.threeTimestamps := UInt8.toNat_ofNat_of_lt (optionLen_lt _)
  have size := length_requestOption options.threeTimestamps (getTimestamp sent) source dest
    (UInt8.ofNat (optionLen options.threeTimestamps)) 13
  rw [stampArea, length, requestArea, List.take_left' (size.trans (optionLen_eq _).symm),
    List.drop_left' (size.trans (optionLen_eq _).symm)]

omit reads in
theorem parseTimestampOption_stamps (self : Exchange options theta sent) (source dest : Ipv4Addr) (behind : Bytes) :
    parseTimestampOption options.threeTimestamps
        (self.stamps.foldl stampOption (timestampOption (UInt8.ofNat (optionLen options.threeTimestamps)) 13
          (requestSlots options.threeTimestamps (getTimestamp sent) source dest)) ++ behind) = .ok self.sample := by
  rw [Exchange.stamps]
  cases three : options.threeTimestamps with
  | true =>
    rw [if_pos rfl, parseTimestampOption_requestThree, Exchange.sample, self.held_three three]
  | false =>
    rw [if_neg Bool.false_ne_true, parseTimestampOption_requestFour]
    rfl

omit reads in
/-- The times fill the slots that are left, and the option keeps its size. -/
theorem stamps_requestSlots (self : Exchange options theta sent) (length : UInt8) (source dest : Ipv4Addr) :
    ∃ pointer slots, slots.length = terms options.threeTimestamps ∧
      self.stamps.foldl stampOption (timestampOption length 13
        (requestSlots options.threeTimestamps (getTimestamp sent) source dest)) = timestampOption length pointer slots := by
  rw [Exchange.stamps, requestSlots]
  cases options.threeTimestamps with
  | true =>
    exact ⟨_, _, rfl, foldl_stampOption length [_, _] 13 [(source, getTimestamp sent)] [(dest, 0), (source, 0)] rfl rfl
      (show 13 + 8 * 2 < 256 by decide)⟩
  | false =>
    exact ⟨_, _, rfl, foldl_stampOption length [_, _, _] 13 [(source, getTimestamp sent)]
      [(dest, 0), (dest, 0), (source, 0)] rfl rfl (show 13 + 8 * 3 < 256 by decide)⟩

omit reads in
/-- Zeros behind the option are read as ends of the list. -/
theorem takeOption_padding (run : Run) (count fuel : Nat) :
    (optionsFrom fuel (List.replicate count 0)).foldlM (takeOption options) run = .ok run := by
  induction fuel generalizing count with
  | zero => rfl
  | succ fuel inductionHypothesis =>
    cases count with
    | zero => rfl
    | succ count => exact inductionHypothesis count

omit reads in
/-- The items of the area: the option first, and nothing behind it that counts. -/
theorem takeOption_stampArea (self : Exchange options theta sent) (source dest : Ipv4Addr) (run : Run) :
    let area := stampArea self.stamps (requestArea options.threeTimestamps (getTimestamp sent) source dest)
    area.length = 36 ∧ (optionsFrom area.length area).foldlM (takeOption options) run =
      .ok (run.calculateDelta options.ipTimestamp self.sample) := by
  intro area
  let length := UInt8.ofNat (optionLen options.threeTimestamps)
  obtain ⟨pointer, slots, count, stamped⟩ := stamps_requestSlots self length source dest
  have isArea : area = timestampOption length pointer slots ++ optionPadding options.threeTimestamps :=
    (stampArea_requestArea self source dest).trans (congrArg (· ++ _) stamped)
  have size : (timestampOption length pointer slots).length = optionLen options.threeTimestamps := by
    rw [optionLen_eq, ← count, ← length_slotBytes, Nat.add_comm]
    rfl
  have whole : area.length = 36 := by
    rw [isArea, List.length_append, size, optionPadding, List.length_replicate]
    cases options.threeTimestamps <;> rfl
  have parsed : parseTimestampOption options.threeTimestamps area = .ok self.sample := by
    rw [isArea, ← stamped]
    exact parseTimestampOption_stamps self source dest _
  have behind : area.drop (max 2 length.toNat) = optionPadding options.threeTimestamps := by
    have same : max 2 length.toNat = optionLen options.threeTimestamps := by
      rw [show length.toNat = optionLen options.threeTimestamps from UInt8.toNat_ofNat_of_lt (optionLen_lt _),
        optionLen_eq]
      omega
    rw [same, isArea, List.drop_left' size]
  have items : optionsFrom 36 area = ⟨Ipv4OptionNumbers.TS, area⟩ :: optionsFrom 35 (area.drop (max 2 length.toNat)) := by
    rw [isArea]
    rfl
  refine ⟨whole, ?_⟩
  have taken : takeOption options run ⟨Ipv4OptionNumbers.TS, area⟩ =
      .ok (run.calculateDelta options.ipTimestamp self.sample) := by
    rw [takeOption, if_pos rfl, parsed]
  rw [whole, items, List.foldlM_cons, behind, taken]
  exact takeOption_padding ..

/-- A message of another type is passed over, however much of it has come. -/
theorem takeIcmpReply_other {packet message : Bytes} {count : Nat} {now : UInt32} {run : Run}
    (shown : crate.ipv4.payload packet = message.take count) (other : byteAt message 0 ≠ IcmpTypes.TimestampReply) :
    takeIcmpReply crate.toCrate options now packet run = .ok run := by
  rw [takeIcmpReply]
  split
  · rw [shown, if_neg]
    rintro ⟨isMessage, isTimestampReply⟩
    rw [reads.follows.toCrate.icmp.new, decide_eq_true_eq] at isMessage
    rw [reads.follows.toCrate.icmp.icmpType _ isMessage] at isTimestampReply
    have inside : 0 < count := by
      rw [List.length_take] at isMessage
      omega
    rw [byteAt_take inside] at isTimestampReply
    exact other isTimestampReply
  · rfl

/-- The echo reply with the option. -/
theorem takePacket_echoReply (self : Exchange options theta sent) (option : options.ipTimestamp = true)
    (envelope : Envelope) (source dest : Ipv4Addr) (identifier : UInt16) (index : Nat) (run : Run) :
    takePacket crate.toCrate options (getTimestamp self.arrived)
        (self.replyBytes envelope (requestBytes crate options source dest identifier index sent)) run =
      .ok (run.calculateDelta options.ipTimestamp self.sample) := by
  have ⟨follows, _, showsRest⟩ := reads
  let asked := requestArea options.threeTimestamps (getTimestamp sent) source dest
  obtain ⟨checksum, echo, requested⟩ : ∃ checksum echo, requestBytes crate options source dest identifier index sent =
      (requestHeader options.threeTimestamps checksum source dest).bytes ++ (asked ++ IcmpTypes.EchoRequest :: echo) := by
    rw [requestBytes, if_pos option, buildIpv4PacketWithTimestamp_eq follows]
    exact ⟨_, _, rfl⟩
  let request := (requestHeader options.threeTimestamps checksum source dest).bytes ++
    (asked ++ IcmpTypes.EchoRequest :: echo)
  have askedWhole : asked.length = 36 := length_requestArea ..
  obtain ⟨stampedWhole, taken⟩ := takeOption_stampArea self source dest run
  let stamped := stampArea self.stamps asked
  let message := IcmpTypes.EchoReply :: echo
  let header := envelope.header 0x4E request.length
  let packet := header.bytes ++ (stamped ++ message)
  have replied : self.replyBytes envelope (requestBytes crate options source dest identifier index sent) = packet := by
    have tail : request.drop 57 = echo := by
      rw [show 57 = 56 + 1 from rfl, ← List.drop_drop, drop_datagram _ askedWhole]
      rfl
    rw [Exchange.replyBytes, if_pos option, requested, optionsArea_datagram _ rfl askedWhole,
      headerLength_datagram _ rfl, tail]
    rfl
  have long : 20 ≤ packet.length := Ipv4Header.length_append _ _
  have isNew : crate.ipv4.new packet = true := (follows.toCrate.ipv4.new _).trans (decide_eq_true long)
  have headed : headerLength packet = 56 := headerLength_datagram _ rfl _
  have inHeader : 20 ≤ headerLength packet := headed ▸ by omega
  have area : optionsArea packet = stamped := optionsArea_datagram _ rfl stampedWhole message
  have shown : crate.ipv4.payload packet = message.take (totalLength packet - 56) := by
    rw [follows.toCrate.ipv4.payload packet long inHeader, headed, List.drop_take, drop_datagram _ stampedWhole]
  -- the message is no timestamp reply, so only the options count
  have noReply : takeIcmpReply crate.toCrate options (getTimestamp self.arrived) packet run = .ok run :=
    takeIcmpReply_other reads shown (show IcmpTypes.EchoReply ≠ IcmpTypes.TimestampReply by decide)
  have notEmpty : ¬ crate.ipv4.optionsIsEmpty packet = true := by
    rw [showsRest.optionsIsEmpty packet long inHeader, area, List.isEmpty_iff]
    intro none
    exact absurd (stampedWhole.symm.trans (congrArg List.length none)) (by decide)
  rw [replied, takePacket, if_pos isNew, noReply]
  simp only [option, true_and]
  rw [if_pos notEmpty, showsRest.optionsIter packet long inHeader, area]
  exact option ▸ taken

end

/-! ## The network -/

/-- A packet without timestamps: no timestamp reply, and no timestamp option where the options are read. A timestamp reply
is never one, whoever it is from, since the tool looks at neither the source nor the identifier. -/
def Unstamped (crate : ClockdiffCrate) (options : ClockdiffConfig) (packet : Bytes) : Prop :=
  crate.ipv4.new packet → (crate.ipv4.nextLevelProtocol packet = IpNextHeaderProtocols.Icmp →
      crate.icmp.new (crate.ipv4.payload packet) →
        crate.icmp.icmpType (crate.ipv4.payload packet) ≠ IcmpTypes.TimestampReply) ∧
    (options.ipTimestamp = true → ∀ opt ∈ crate.ipv4.optionsIter packet, opt.number ≠ Ipv4OptionNumbers.TS)

/-- What reaches the tool in a round, at the latest before the wait is over: an answer may be to any request so far. -/
inductive Arrival (crate : ClockdiffCrate) (options : ClockdiffConfig) (theta : Int) (sendTime : Nat → Int) (index : Nat)
  | nothing
  | unstamped (packet : Bytes) (time : UInt32) (isUnstamped : Unstamped crate options packet)
  | answer (request : Nat) (sentBefore : request ≤ index) (exchange : Exchange options theta (sendTime request))
      (envelope : Envelope)

section

variable {crate : ClockdiffCrate} {options : ClockdiffConfig} {theta : Int} {sendTime : Nat → Int}

def Arrival.round (source dest : Ipv4Addr) (identifier : UInt16) (running : Bool) {index : Nat} :
    Arrival crate options theta sendTime index → Round
  | nothing => { running, sendError := none, received := .ok none, getTimestamp := 0 }
  | unstamped packet time _ => { running, sendError := none, received := .ok (some packet), getTimestamp := time }
  | answer request _ exchange envelope => {
      running
      sendError := none
      received := .ok (some (exchange.replyBytes envelope
        (requestBytes crate options source dest identifier request (sendTime request))))
      getTimestamp := getTimestamp exchange.arrived }

theorem Arrival.running_round {index : Nat} (arrival : Arrival crate options theta sendTime index)
    (source dest : Ipv4Addr) (identifier : UInt16) (running : Bool) :
    (arrival.round source dest identifier running).running = running := by
  cases arrival <;> rfl

theorem takePacket_answer (reads : Reads crate) {sent : Int} (self : Exchange options theta sent) (envelope : Envelope)
    (source dest : Ipv4Addr) (identifier : UInt16) (index : Nat) (run : Run) :
    takePacket crate.toCrate options (getTimestamp self.arrived)
        (self.replyBytes envelope (requestBytes crate options source dest identifier index sent)) run =
      .ok (run.calculateDelta options.ipTimestamp self.sample) := by
  cases mode : options.ipTimestamp with
  | true => exact mode ▸ takePacket_echoReply reads self mode envelope source dest identifier index run
  | false => exact mode ▸ takePacket_timestampReply reads self mode envelope source dest identifier index run

theorem foldlM_takeOption_others {opts : List Ipv4Option} (others : ∀ opt ∈ opts, opt.number ≠ Ipv4OptionNumbers.TS)
    (run : Run) : opts.foldlM (takeOption options) run = .ok run := by
  induction opts with
  | nil => rfl
  | cons opt opts inductionHypothesis =>
    obtain ⟨first, rest⟩ := List.forall_mem_cons.mp others
    rw [List.foldlM_cons, takeOption, if_neg first]
    exact inductionHypothesis rest

theorem takePacket_unstamped {packet : Bytes} (unstamped : Unstamped crate options packet) (time : UInt32) (run : Run) :
    takePacket crate.toCrate options time packet run = .ok run := by
  rw [takePacket]
  by_cases isNew : crate.ipv4.new packet = true
  · obtain ⟨noReply, noOption⟩ := unstamped isNew
    have left : takeIcmpReply crate.toCrate options time packet run = .ok run := by
      rw [takeIcmpReply]
      by_cases isIcmp : crate.ipv4.nextLevelProtocol packet = IpNextHeaderProtocols.Icmp
      · rw [if_pos isIcmp, if_neg fun both => noReply isIcmp both.1 both.2]
      · rw [if_neg isIcmp]
    simp only [isNew, left, if_true]
    by_cases reads : options.ipTimestamp = true ∧ ¬ crate.ipv4.optionsIsEmpty packet
    · rw [if_pos reads]
      exact foldlM_takeOption_others (noOption reads.1) run
    · rw [if_neg reads]
  · rw [if_neg isNew]

/-- The answer of a round counts: the run has come to it, and the clock has not gone back to zero since the request. -/
def Arrival.Counts {index : Nat} (arrival : Arrival crate options theta sendTime index) (delay : Int) : Prop :=
  ∃ request sentBefore exchange envelope, arrival = .answer request sentBefore exchange envelope ∧
    exchange.sample.accepted ∧ (exchange.received - sendTime request) + (exchange.arrived - exchange.left) = delay

/-- An iteration of the loop that has not been told to stop. -/
def takeRound (crate : Crate) (options : ClockdiffConfig) (round : Round) (run : Run) : Except Failure Run :=
  match round.sendError, round.received with
  | some message, _ | none, .error message => .error (.error message)
  | none, .ok (some rawData) => takePacket crate options round.getTimestamp rawData run
  | none, .ok none => .ok run

theorem rounds_succ (environment : Nat → Round) (remaining : Nat) (run : Run) :
    rounds crate.toCrate options environment (remaining + 1) run =
      if (environment (MSGS - (remaining + 1))).running then
        takeRound crate.toCrate options (environment (MSGS - (remaining + 1))) run >>=
          rounds crate.toCrate options environment remaining
      else .ok run := by
  rw [rounds]
  refine if_congr Iff.rfl ?_ rfl
  rw [takeRound]
  rcases (environment (MSGS - (remaining + 1))).sendError with _ | message
  · rcases (environment (MSGS - (remaining + 1))).received with message | _ | rawData
    · rfl
    · rfl
    · cases taken : takePacket crate.toCrate options (environment (MSGS - (remaining + 1))).getTimestamp rawData run with
      | error failure =>
        simp only [taken]
        rfl
      | ok next =>
        simp only [taken]
        rfl
  · rfl

theorem takeRound_near (reads : Reads crate) {index : Nat} (arrival : Arrival crate options theta sendTime index)
    (source dest : Ipv4Addr) (identifier : UInt16) (running : Bool) {run : Run} (near : run.sumResult.Near theta) :
    ∃ next : Run, takeRound crate.toCrate options (arrival.round source dest identifier running) run = .ok next ∧
      next.sumResult.Near theta ∧ next.sumResult.rttMin ≤ run.sumResult.rttMin ∧
      ∀ delay, arrival.Counts delay → next.sumResult.rttMin ≤ delay := by
  cases arrival with
  | nothing => exact ⟨run, rfl, near, le_rfl, fun _ ⟨_, _, _, _, isAnswer, _⟩ => by cases isAnswer⟩
  | unstamped packet time isUnstamped =>
    exact ⟨run, takePacket_unstamped isUnstamped time run, near, le_rfl,
      fun _ ⟨_, _, _, _, isAnswer, _⟩ => by cases isAnswer⟩
  | answer request sentBefore exchange envelope =>
    obtain ⟨nearNext, lower, below⟩ := exchange.offsetSample.calculateDelta_near near
    refine ⟨_, takePacket_answer reads exchange envelope source dest identifier request run, nearNext, lower, ?_⟩
    rintro _ ⟨_, _, _, _, isAnswer, accepted, rfl⟩
    cases isAnswer
    exact below accepted

variable (arrival : ∀ index, Arrival crate options theta sendTime index) (running : Nat → Bool) (source dest : Ipv4Addr)
  (identifier : UInt16)

def environment (index : Nat) : Round := (arrival index).round source dest identifier (running index)

/-- The rounds that are left. -/
theorem rounds_near (reads : Reads crate) {remaining : Nat} (left : remaining ≤ MSGS) {run : Run}
    (near : run.sumResult.Near theta) :
    ∃ final, rounds crate.toCrate options (environment arrival running source dest identifier) remaining run = .ok final ∧
      final.sumResult.Near theta ∧ final.sumResult.rttMin ≤ run.sumResult.rttMin ∧
      ∀ index, MSGS - remaining ≤ index → index < MSGS →
        (∀ earlier, MSGS - remaining ≤ earlier → earlier ≤ index → running earlier = true) →
        ∀ delay, (arrival index).Counts delay → final.sumResult.rttMin ≤ delay := by
  induction remaining generalizing run with
  | zero => exact ⟨run, rfl, near, le_rfl, fun index from' below => absurd from' (by omega)⟩
  | succ remaining inductionHypothesis =>
    let here := MSGS - (remaining + 1)
    have onward : MSGS - remaining = here + 1 := by omega
    rw [rounds_succ]
    cases goesOn : running here with
    | false =>
      refine ⟨run, if_neg (by rw [environment, Arrival.running_round, goesOn]; nofun), near, le_rfl, ?_⟩
      intro index from' _ runs
      exact absurd (runs here le_rfl from') (by rw [goesOn]; nofun)
    | true =>
      obtain ⟨next, taken, nearNext, lower, below⟩ := takeRound_near reads (arrival here) source dest identifier
        (running here) near
      obtain ⟨final, finished, nearFinal, lowerFinal, belowFinal⟩ := inductionHypothesis (by omega) nearNext
      refine ⟨final, ?_, nearFinal, lowerFinal.trans lower, ?_⟩
      · rw [if_pos (by rw [environment, Arrival.running_round, goesOn])]
        show takeRound _ _ ((arrival here).round source dest identifier (running here)) run >>= _ = _
        rw [taken]
        exact finished
      · intro index from' inside runs delay counts
        rcases Nat.eq_or_lt_of_le from' with same | later
        · subst same
          exact lowerFinal.trans (below delay counts)
        · exact belowFinal index (by omega) inside (fun earlier from' upTo => runs earlier (by omega) upTo) delay counts

end

/-- Whatever the network does, a run ends with a report, its `rtt_min` is no longer than any round trip of an answer that
counts, and if there is one the estimate misses the offset of the other clock by half of `rtt_min` at most. -/
theorem clockdiffRun_near (crate : ClockdiffCrate) (reads : Reads crate) (ip : String) (options : ClockdiffConfig)
    (source dest : Ipv4Addr) (identifier : UInt16) (theta : Int) (sendTime : Nat → Int)
    (arrival : ∀ index, Arrival crate options theta sendTime index) (running : Nat → Bool) :
    ∃ run, clockdiffRun crate.toCrate ip options (environment arrival running source dest identifier) = .ok run ∧
      ∀ index < MSGS, (∀ earlier ≤ index, running earlier = true) → ∀ delay, (arrival index).Counts delay →
        run.sumResult.rttMin ≤ delay ∧ 2 * |run.sumResult.measureDelta1 - theta| ≤ run.sumResult.rttMin + 1 := by
  obtain ⟨final, finished, near, -, below⟩ := @rounds_near crate options theta sendTime arrival running source dest
    identifier reads MSGS le_rfl { sumResult := .new ip options.getTimeFormat, samples := [] }
    (near_new theta ip options.getTimeFormat)
  refine ⟨_, by rw [clockdiffRun, finished], fun index inside runs delay counts => ?_⟩
  have counted := below index (by omega) inside (fun earlier _ upTo => runs earlier upTo) delay counts
  refine ⟨counted, near.resolve_left fun unset => ?_⟩
  -- a round trip is shorter than a day
  obtain ⟨request, -, exchange, -, -, -, rfl⟩ := counts
  have short := exchange.offsetSample.roundTrip_lt
  rw [exchange.offsetSample.roundTrip_eq] at short
  rw [unset] at counted
  exact absurd counted (not_le.mpr short)

theorem Reads.rfcs : Reads .rfcs where
  follows := ClockdiffCrate.rfcs_follows
  nextLevelProtocol _ _ := rfl
  showsRest := Ipv4Reader.rfc791_showsRest

/-- A host that is a second ahead answers the first request, with five milliseconds on each way. -/
def aheadExchange : Exchange aheadOptions 1000 36000000 where
  received := 36000005
  transmitted := 36000005
  arrived := 36000010
  outward := by decide
  held := by decide
  homeward := by decide
  held_three := by decide
  outward_range := by decide
  homeward_range := by decide

def aheadArrival : ∀ index, Arrival .rfcs aheadOptions 1000 (fun _ => 36000000) index
  | 0 => .answer 0 le_rfl aheadExchange ⟨64, 0, ⟨192, 0, 2, 1⟩, ⟨192, 0, 2, 2⟩, 0⟩
  | _ + 1 => .nothing

theorem clockdiffRun_near_ahead :
    ∃ run, clockdiffRun ClockdiffCrate.rfcs.toCrate "192.0.2.1" aheadOptions
        (environment aheadArrival (fun _ => true) ⟨192, 0, 2, 2⟩ ⟨192, 0, 2, 1⟩ 7) = .ok run ∧
      run.sumResult.rttMin ≤ 10 ∧ 2 * |run.sumResult.measureDelta1 - 1000| ≤ run.sumResult.rttMin + 1 := by
  obtain ⟨run, finished, near⟩ := clockdiffRun_near .rfcs Reads.rfcs "192.0.2.1" aheadOptions ⟨192, 0, 2, 2⟩
    ⟨192, 0, 2, 1⟩ 7 1000 (fun _ => 36000000) aheadArrival fun _ => true
  exact ⟨run, finished, near 0 (by decide) (fun _ _ => rfl) 10
    ⟨0, le_rfl, aheadExchange, _, rfl, by decide, by decide⟩⟩

/-- A timestamp reply of a third host, which is an hour ahead, to a request that the tool has not sent. -/
def strangeReply : Bytes :=
  (Envelope.header ⟨64, 0, ⟨192, 0, 2, 9⟩, ⟨192, 0, 2, 2⟩, 0⟩ 0x45 40).bytes ++
    timestampReply (icmpBytes IcmpTypes.Timestamp 0 0 (timestampPayload 9 3 36000010)) 0 39600010 39600010

/-- The tool takes it for an answer, since it checks no identifier. -/
example : (clockdiffRun ClockdiffCrate.rfcs.toCrate "192.0.2.1" aheadOptions
      (fun | 1 => ⟨true, none, .ok (some strangeReply), 36000010⟩
           | index => environment aheadArrival (fun _ => true) ⟨192, 0, 2, 2⟩ ⟨192, 0, 2, 1⟩ 7 index)).map
    (fun run => (run.sumResult.rttMin, run.sumResult.measureDelta1)) = .ok (0, 3600000) := by
  decide +kernel

end Utiputils.Clockdiff
