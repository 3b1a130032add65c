import Utiputils.Ping.EchoRequest

/-! # Receiving replies

The three receive loops: `receive_icmp_reply` and `receive_icmp_reply_with_timestamp` for IPv4, and
`receive_icmpv6_reply`. A socket is the list of what its `recv_from` calls still answer; a loop that
runs through the list without returning is blocked in `recv_from`. -/

namespace Utiputils.Ping

open Utiputils.Lib Utiputils.Pnet

/-! ## What a socket answers -/

inductive ErrorKind where
  | wouldBlock
  | timedOut
  | other
  deriving DecidableEq, Repr

structure IoError where
  kind : ErrorKind
  message : String
  deriving DecidableEq, Repr

/-- A datagram as it arrives: a raw IPv4 socket hands out the whole datagram, a raw ICMPv6 socket the
message alone. The address is `as_socket_ipv6` of the sender's. -/
structure Datagram where
  bytes : Bytes
  addr : Option Ipv6Addr := none
  deriving DecidableEq, Repr

abbrev RecvOutcome := Except IoError Datagram

/-- What a receive loop returns, what it prints, and the answers it left in the socket. -/
structure Received (Reply : Type) where
  result : Except String Reply
  printed : List String := []
  rest : List RecvOutcome
  deriving DecidableEq

/-! ## IPv4 -/

/-- The receive buffer of `ping_impl.rs`. -/
def PACKET_SIZE : Nat := 1024

structure IcmpReply where
  sequence : UInt16
  bytesReceived : Nat
  sourceIp : Ipv4Addr
  ttl : UInt8
  ipOptions : Option Bytes
  deriving DecidableEq, Repr

/-- The option bytes that both receivers collect. -/
def rrOptionData (crate : Crate) (ipv4Packet : Bytes) : Option Bytes :=
  if crate.ipv4.optionsIsEmpty ipv4Packet then none
  else some ((crate.ipv4.optionsIter ipv4Packet).flatMap (·.packet))

def receiveIcmpReply (crate : Crate) (identifier : UInt16) : List RecvOutcome → Option (Received IcmpReply)
  | [] => none
  | .error e :: rest => some { result := .error e.message, rest }
  | .ok datagram :: rest =>
    -- `recv_from` cuts off what the buffer does not hold
    let ipv4Packet := datagram.bytes.take PACKET_SIZE
    if ¬ crate.ipv4.new ipv4Packet then some { result := .error "Invalid IPv4 packet", rest }
    else
      let icmpPacket := crate.ipv4.payload ipv4Packet
      if ¬ crate.icmp.new icmpPacket then some { result := .error "Invalid ICMP packet", rest }
      else
        let icmpType := crate.icmp.icmpType icmpPacket
        if icmpType = IcmpTypes.EchoReply then
          if ¬ crate.icmp.newEchoReply icmpPacket then
            some { result := .error "Invalid Echo Reply packet", rest }
          else if crate.icmp.identifier icmpPacket ≠ identifier then receiveIcmpReply crate identifier rest
          else
            let srcIp := crate.ipv4.source ipv4Packet
            let ttl := crate.ipv4.ttl ipv4Packet
            let options := rrOptionData crate ipv4Packet
            some {
              result := .ok {
                sequence := crate.icmp.sequenceNumber icmpPacket
                bytesReceived := ipv4Packet.length
                sourceIp := srcIp
                ttl
                ipOptions := options }
              rest }
        else if icmpType = IcmpTypes.DestinationUnreachable then
          some { result := .error "Destination unreachable", rest }
        else if icmpType = IcmpTypes.TimeExceeded then some { result := .error "Time exceeded", rest }
        else if icmpType = IcmpTypes.ParameterProblem then
          some { result := .error "Parameter problem", rest }
        else receiveIcmpReply crate identifier rest

def receiveIcmpReplyWithTimestamp (crate : Crate) (identifier : UInt16) :
    List RecvOutcome → Option (Received IcmpReply)
  | [] => none
  | .error e :: rest => some { result := .error e.message, rest }
  | .ok datagram :: rest =>
    let ipv4Packet := datagram.bytes.take PACKET_SIZE
    if ¬ crate.ipv4.new ipv4Packet then some { result := .error "Invalid IPv4 packet", rest }
    else
      -- collected before the message is looked at
      let options := rrOptionData crate ipv4Packet
      let icmpPacket := crate.ipv4.payload ipv4Packet
      if ¬ crate.icmp.new icmpPacket then some { result := .error "Invalid ICMP packet", rest }
      else
        let icmpType := crate.icmp.icmpType icmpPacket
        if icmpType = IcmpTypes.EchoReply then
          if ¬ crate.icmp.newEchoReply icmpPacket then
            some { result := .error "Invalid Echo Reply packet", rest }
          else if crate.icmp.identifier icmpPacket ≠ identifier then
            receiveIcmpReplyWithTimestamp crate identifier rest
          else
            let srcIp := crate.ipv4.source ipv4Packet
            let ttl := crate.ipv4.ttl ipv4Packet
            some {
              result := .ok {
                sequence := crate.icmp.sequenceNumber icmpPacket
                bytesReceived := ipv4Packet.length
                sourceIp := srcIp
                ttl
                ipOptions := options }
              rest }
        else if icmpType = IcmpTypes.DestinationUnreachable then
          some { result := .error "Destination unreachable", rest }
        else if icmpType = IcmpTypes.TimeExceeded then some { result := .error "Time exceeded", rest }
        else if icmpType = IcmpTypes.ParameterProblem then
          some { result := .error "Parameter problem", rest }
        else receiveIcmpReplyWithTimestamp crate identifier rest

/-! ## IPv6 -/

def RECV_BUFFER_V6 : Nat := 1500

structure Icmpv6Reply where
  sequence : UInt16
  size : Nat
  source : Ipv6Addr
  deriving DecidableEq, Repr

/-- The reasons for an unreachable destination, by ICMPv6 code. -/
def unreachableReason (code : UInt8) : String :=
  match code.toNat with
  | 0 => "No route to destination"
  | 1 => "Communication with destination administratively prohibited"
  | 2 => "Beyond scope of source address"
  | 3 => "Address unreachable"
  | 4 => "Port unreachable"
  | 5 => "Source address failed ingress/egress policy"
  | 6 => "Reject route to destination"
  | _ => "Destination unreachable"

/-- The line printed for an ICMPv6 error, with the sender's address as `Display` writes it; the sequence
number in it is always one. -/
def icmpv6ErrorLine (showIpv6 : Ipv6Addr → String) (source : Ipv6Addr) (what : String) : String :=
  "From " ++ showIpv6 source ++ " icmp_seq=1 " ++ what

def receiveIcmpv6Reply (crate : Crate) (showIpv6 : Ipv6Addr → String) (identifier : UInt16) :
    List RecvOutcome → Option (Received Icmpv6Reply)
  | [] => none
  | .error e :: rest =>
    match e.kind with
    | .timedOut => some { result := .error e.message, rest }
    -- the `return` of this branch is commented out in the source
    | .wouldBlock => receiveIcmpv6Reply crate showIpv6 identifier rest
    | .other => some { result := .error e.message, rest }
  | .ok datagram :: rest =>
    let packet := datagram.bytes.take RECV_BUFFER_V6
    if ¬ crate.icmpv6.new packet then some { result := .error "Invalid ICMPv6 packet", rest }
    else
      let ipv6Type := crate.icmpv6.icmpType packet
      if ipv6Type = Icmpv6Types.EchoReply then
        if ¬ crate.icmpv6.newEchoReply packet then
          some { result := .error "Invalid ICMPv6 Echo Reply packet", rest }
        else if crate.icmpv6.identifier packet ≠ identifier then
          receiveIcmpv6Reply crate showIpv6 identifier rest
        else
          match datagram.addr with
          | none => some { result := .error "Received packet from non-IPv6 address", rest }
          | some srcAddr =>
            some { result := .ok ⟨crate.icmpv6.sequenceNumber packet, packet.length, srcAddr⟩, rest }
      else if ipv6Type = Icmpv6Types.DestinationUnreachable then
        match datagram.addr with
        | none => some { result := .error "Received packet from non-IPv6 address", rest }
        | some srcAddr =>
          let reason := unreachableReason (crate.icmpv6.icmpCode packet)
          some {
            result := .error "Destination unreachable"
            printed := [icmpv6ErrorLine showIpv6 srcAddr ("Destination unreachable: " ++ reason)]
            rest }
      else if ipv6Type = Icmpv6Types.PacketTooBig then
        match datagram.addr with
        | none => some { result := .error "Received packet from non-IPv6 address", rest }
        | some srcAddr =>
          some {
            result := .error "Packet too big"
            printed := [icmpv6ErrorLine showIpv6 srcAddr "Packet too big"]
            rest }
      else if ipv6Type = Icmpv6Types.TimeExceeded then
        match datagram.addr with
        | none => some { result := .error "Received packet from non-IPv6 address", rest }
        | some srcAddr =>
          some {
            result := .error "Time exceeded"
            printed := [icmpv6ErrorLine showIpv6 srcAddr "Time exceeded"]
            rest }
      else receiveIcmpv6Reply crate showIpv6 identifier rest

/-! ## Well-formed datagrams -/

/-- An IPv4 datagram as a host sends it: its header says how long it is itself and how long the whole
datagram is. The four bits of the length field bound the header by 60 bytes. -/
structure Ipv4Datagram where
  header : Bytes
  message : Bytes
  header_ge : 20 ≤ header.length
  header_length : headerLength header = header.length
  total_length : totalLength header = header.length + message.length

namespace Ipv4Datagram

def bytes (self : Ipv4Datagram) : Bytes := self.header ++ self.message

def outcome (self : Ipv4Datagram) : RecvOutcome := .ok { bytes := self.bytes }

variable (self : Ipv4Datagram)

theorem header_le : self.header.length ≤ 60 := by
  rw [← self.header_length, headerLength]
  omega

/-- What the receive buffer holds of the datagram, and what it cuts off. -/
theorem take_bytes : self.bytes.take PACKET_SIZE =
    self.header ++ self.message.take (PACKET_SIZE - self.header.length) := by
  have short := self.header_le
  rw [bytes, List.take_append, List.take_of_length_le (by rw [PACKET_SIZE]; omega)]

theorem buffer_ge : 20 ≤ (self.bytes.take PACKET_SIZE).length := by
  rw [take_bytes, List.length_append]
  exact Nat.le_add_right_of_le self.header_ge

theorem headerLength_buffer : headerLength (self.bytes.take PACKET_SIZE) = self.header.length := by
  have nonempty := self.header_ge
  rw [take_bytes, headerLength, byteAt_append_left _ (by omega)]
  exact self.header_length

theorem totalLength_buffer :
    totalLength (self.bytes.take PACKET_SIZE) = self.header.length + self.message.length := by
  have nonempty := self.header_ge
  rw [take_bytes, totalLength, u16At, byteAt_append_left _ (by omega), byteAt_append_left _ (by omega)]
  exact self.total_length

/-- The message that the crate finds in the buffer: everything but the part that the buffer cuts off. -/
theorem payload_eq {crate : Crate} (follows : crate.FollowsRfcs) :
    crate.ipv4.payload (self.bytes.take PACKET_SIZE) =
      self.message.take (PACKET_SIZE - self.header.length) := by
  rw [follows.ipv4.payload _ self.buffer_ge (by rw [headerLength_buffer]; exact self.header_ge),
    headerLength_buffer, totalLength_buffer, List.take_of_length_le, take_bytes, List.drop_left]
  rw [take_bytes, List.length_append]
  exact Nat.add_le_add_left (List.length_take_le' ..) _

theorem source_eq {crate : Crate} (follows : crate.FollowsRfcs) :
    crate.ipv4.source (self.bytes.take PACKET_SIZE) = sourceAt self.header := by
  have long := self.header_ge
  rw [follows.ipv4.source _ self.buffer_ge, take_bytes]
  simp only [sourceAt]
  rw [byteAt_append_left _ (by omega), byteAt_append_left _ (by omega), byteAt_append_left _ (by omega),
    byteAt_append_left _ (by omega)]

theorem ttl_eq {crate : Crate} (follows : crate.FollowsRfcs) :
    crate.ipv4.ttl (self.bytes.take PACKET_SIZE) = byteAt self.header 8 := by
  have long := self.header_ge
  rw [follows.ipv4.ttl _ self.buffer_ge, take_bytes, byteAt_append_left _ (by omega)]

end Ipv4Datagram

/-! ## Messages that a loop passes over -/

/-- An echo reply to somebody else, or a message that is neither an echo reply nor one of the errors
that end the wait. -/
def PassedOver (echoReply : UInt8) (errors : List UInt8) (identifier : UInt16) (message : Bytes) : Prop :=
  (8 ≤ message.length ∧ byteAt message 0 = echoReply ∧ u16At message 4 ≠ identifier) ∨
    (4 ≤ message.length ∧ byteAt message 0 ≠ echoReply ∧ byteAt message 0 ∉ errors)

def icmpErrors : List UInt8 :=
  [IcmpTypes.DestinationUnreachable, IcmpTypes.TimeExceeded, IcmpTypes.ParameterProblem]

def icmpv6Errors : List UInt8 :=
  [Icmpv6Types.DestinationUnreachable, Icmpv6Types.PacketTooBig, Icmpv6Types.TimeExceeded]

instance (echoReply : UInt8) (errors : List UInt8) (identifier : UInt16) (message : Bytes) :
    Decidable (PassedOver echoReply errors identifier message) :=
  inferInstanceAs (Decidable (_ ∨ _))

/-- A buffer that holds the echo header does not change the verdict. -/
theorem PassedOver.take {echoReply : UInt8} {errors : List UInt8} {identifier : UInt16} {message : Bytes}
    (passed : PassedOver echoReply errors identifier message) {size : Nat} (holds : 8 ≤ size) :
    PassedOver echoReply errors identifier (message.take size) := by
  rw [PassedOver, List.length_take, byteAt_take (by omega), u16At_take (by omega)]
  rcases passed with ⟨long, isReply, foreign⟩ | ⟨long, other⟩
  · exact .inl ⟨by omega, isReply, foreign⟩
  · exact .inr ⟨by omega, other⟩

section Loops

variable {crate : Crate} (follows : crate.FollowsRfcs) {identifier : UInt16}

/-- The two IPv4 loops, written separately, return the same on every stream. -/
theorem receiveIcmpReplyWithTimestamp_eq (crate : Crate) (identifier : UInt16) (answers : List RecvOutcome) :
    receiveIcmpReplyWithTimestamp crate identifier answers = receiveIcmpReply crate identifier answers := by
  induction answers with
  | nil => rfl
  | cons answer rest inductionHypothesis =>
    cases answer with
    | error e => rfl
    | ok datagram => simp only [receiveIcmpReplyWithTimestamp, receiveIcmpReply, inductionHypothesis]

include follows

theorem receiveIcmpReply_passedOver (datagram : Ipv4Datagram)
    (passed : PassedOver IcmpTypes.EchoReply icmpErrors identifier datagram.message) (rest : List RecvOutcome) :
    receiveIcmpReply crate identifier (datagram.outcome :: rest) = receiveIcmpReply crate identifier rest := by
  have headerSize := datagram.header_le
  -- even behind the longest header the buffer holds the fields that the verdict depends on
  have cut := passed.take (show 8 ≤ PACKET_SIZE - datagram.header.length by rw [PACKET_SIZE]; omega)
  rw [Ipv4Datagram.outcome, receiveIcmpReply, datagram.payload_eq follows, follows.ipv4.new,
    decide_eq_true datagram.buffer_ge]
  generalize datagram.message.take (PACKET_SIZE - datagram.header.length) = icmpPacket at cut
  rcases cut with ⟨long, isReply, foreign⟩ | ⟨long, notReply, notError⟩
  · simp [follows.icmp.new, follows.icmp.icmpType, follows.icmp.newEchoReply, follows.icmp.identifier, long,
      show 4 ≤ icmpPacket.length by omega, isReply, foreign]
  · simp only [icmpErrors, List.mem_cons, List.not_mem_nil, or_false, not_or] at notError
    simp [follows.icmp.new, follows.icmp.icmpType, long, notReply, notError]

theorem receiveIcmpReply_skips (skipped : List Ipv4Datagram)
    (passed : ∀ datagram ∈ skipped, PassedOver IcmpTypes.EchoReply icmpErrors identifier datagram.message)
    (rest : List RecvOutcome) :
    receiveIcmpReply crate identifier (skipped.map (·.outcome) ++ rest) =
      receiveIcmpReply crate identifier rest := by
  induction skipped with
  | nil => rfl
  | cons datagram skipped inductionHypothesis =>
    rw [List.map_cons, List.cons_append,
      receiveIcmpReply_passedOver follows datagram (passed datagram List.mem_cons_self)]
    exact inductionHypothesis fun other member => passed other (List.mem_cons_of_mem _ member)

theorem receiveIcmpReply_reply (datagram : Ipv4Datagram) (long : 8 ≤ datagram.message.length)
    (isReply : byteAt datagram.message 0 = IcmpTypes.EchoReply)
    (ours : u16At datagram.message 4 = identifier) (rest : List RecvOutcome) :
    receiveIcmpReply crate identifier (datagram.outcome :: rest) = some {
      result := .ok {
        sequence := u16At datagram.message 6
        bytesReceived := (datagram.bytes.take PACKET_SIZE).length
        sourceIp := sourceAt datagram.header
        ttl := byteAt datagram.header 8
        ipOptions := rrOptionData crate (datagram.bytes.take PACKET_SIZE) }
      rest } := by
  have headerSize := datagram.header_le
  have room : 8 ≤ PACKET_SIZE - datagram.header.length := by
    rw [PACKET_SIZE]
    omega
  rw [Ipv4Datagram.outcome, receiveIcmpReply, datagram.payload_eq follows, follows.ipv4.new,
    decide_eq_true datagram.buffer_ge, datagram.source_eq follows, datagram.ttl_eq follows]
  have cutLong : 8 ≤ (datagram.message.take (PACKET_SIZE - datagram.header.length)).length := by
    rw [List.length_take]
    omega
  -- type, identifier and sequence number survive the cut
  rw [← byteAt_take (show 0 < PACKET_SIZE - datagram.header.length by omega)] at isReply
  rw [← u16At_take (show 5 < PACKET_SIZE - datagram.header.length by omega)] at ours
  rw [← u16At_take (show 7 < PACKET_SIZE - datagram.header.length by omega)]
  generalize datagram.message.take (PACKET_SIZE - datagram.header.length) = icmpPacket at *
  simp [follows.icmp.new, follows.icmp.icmpType, follows.icmp.newEchoReply, follows.icmp.identifier,
    follows.icmp.sequenceNumber, cutLong, show 4 ≤ icmpPacket.length by omega, isReply, ours]

end Loops

/-! ## A reply is received -/

/-- The echo reply of RFC 792 to a request: type zero, a new checksum, the rest as it came. -/
def echoReplyTo (request : Bytes) (checksum : UInt16) : Bytes :=
  IcmpTypes.EchoReply :: 0 :: (beBytes16 checksum ++ request.drop 4)

theorem echoReplyTo_echoBytes (icmpType : UInt8) (first second identifier sequence : UInt16) (body : Bytes) :
    echoReplyTo (echoBytes icmpType first identifier sequence body) second =
      echoBytes IcmpTypes.EchoReply second identifier sequence body := by
  rw [echoReplyTo, drop_four_echoBytes]
  simp [echoBytes]

/-- Both IPv4 receivers find the reply to a request that `build_packet` built, behind any number of
packets they have to pass over and even if the buffer cuts it short. -/
theorem receiveIcmpReply_finds (crate : Crate) (follows : crate.FollowsRfcs) (request : IcmpEchoRequest)
    (pgConfig : PingConfig) (packet : Bytes) (built : request.buildPacket crate pgConfig = some packet)
    (skipped : List Ipv4Datagram)
    (passed : ∀ datagram ∈ skipped,
      PassedOver IcmpTypes.EchoReply icmpErrors request.identifier datagram.message)
    (reply : Ipv4Datagram) (checksum : UInt16) (answers : reply.message = echoReplyTo packet checksum)
    (rest : List RecvOutcome) :
    let stream := skipped.map (·.outcome) ++ reply.outcome :: rest
    ∃ icmpReply : IcmpReply,
      receiveIcmpReply crate request.identifier stream = some { result := .ok icmpReply, rest } ∧
      receiveIcmpReplyWithTimestamp crate request.identifier stream =
        some { result := .ok icmpReply, rest } ∧
      icmpReply.sequence = request.sequence ∧ icmpReply.sourceIp = sourceAt reply.header ∧
      icmpReply.ttl = byteAt reply.header 8 := by
  intro stream
  rw [IcmpEchoRequest.buildPacket_bytes follows, Option.some_inj] at built
  rw [← built, echoReplyTo_echoBytes] at answers
  have found := receiveIcmpReply_reply follows reply (by simp [answers])
    (by rw [answers]; rfl) (by rw [answers, u16At_identifier]) rest
  rw [← receiveIcmpReply_skips follows skipped passed] at found
  exact ⟨_, found, (receiveIcmpReplyWithTimestamp_eq ..).trans found,
    by rw [answers, u16At_sequence], rfl, rfl⟩

/-- A request of 1108 bytes, and its reply under a header with four bytes of options. -/
def longRequest : IcmpEchoRequest := ⟨7, 0x1234, List.replicate 1100 0x55⟩

def longPacket : Bytes := echoMessage IcmpTypes.EchoRequest 0x1234 7 (longRequest.body {})

def longReply : Ipv4Datagram where
  header := [0x46, 0, 0x04, 0x6C, 0, 0, 0, 0, 63, 1, 0, 0, 192, 0, 2, 1, 192, 0, 2, 2, 1, 1, 1, 0]
  message := echoReplyTo longPacket 0
  header_ge := by decide
  header_length := by decide
  total_length := by
    rw [longPacket, echoMessage, echoReplyTo_echoBytes, length_echoBytes, IcmpEchoRequest.length_body,
      longRequest, List.length_replicate]
    decide

/-- An echo reply to another process. -/
def foreignReply : Ipv4Datagram where
  header := [0x45, 0, 0, 28, 0, 0, 0, 0, 64, 1, 0, 0, 192, 0, 2, 9, 192, 0, 2, 2]
  message := [0, 0, 0, 0, 0x43, 0x21, 0, 7]
  header_ge := by decide
  header_length := by decide
  total_length := by decide

theorem receiveIcmpReply_finds_longReply :
    ∃ icmpReply : IcmpReply,
      receiveIcmpReply .rfcs 0x1234 [foreignReply.outcome, longReply.outcome] =
        some { result := .ok icmpReply, rest := [] } ∧
      icmpReply.sequence = 7 ∧ icmpReply.sourceIp = ⟨192, 0, 2, 1⟩ ∧ icmpReply.ttl = 63 := by
  have built : longRequest.buildPacket .rfcs {} = some longPacket :=
    IcmpEchoRequest.buildPacket_eq Crate.rfcs_follows longRequest {} (by
      rw [longRequest, List.length_replicate]
      decide)
  obtain ⟨icmpReply, found, -, sequence, source, ttl⟩ := receiveIcmpReply_finds .rfcs Crate.rfcs_follows
    longRequest {} longPacket built [foreignReply] (by decide) longReply 0 rfl []
  exact ⟨icmpReply, found, sequence, source, ttl⟩

/-! ## A timeout ends the wait

An expired `SO_RCVTIMEO` makes `recv_from` fail with `WouldBlock` on Linux. The IPv4 loops return at
every error; the IPv6 loop goes back to `recv_from` for this one kind. -/

theorem receiveIcmpReply_timeout {crate : Crate} (follows : crate.FollowsRfcs) {identifier : UInt16}
    (skipped : List Ipv4Datagram)
    (passed : ∀ datagram ∈ skipped, PassedOver IcmpTypes.EchoReply icmpErrors identifier datagram.message)
    (timeout : IoError) (rest : List RecvOutcome) :
    receiveIcmpReply crate identifier (skipped.map (·.outcome) ++ .error timeout :: rest) =
      some { result := .error timeout.message, rest } := by
  rw [receiveIcmpReply_skips follows skipped passed]
  rfl

section Icmpv6

variable {crate : Crate} {showIpv6 : Ipv6Addr → String} {identifier : UInt16}

theorem receiveIcmpv6Reply_passedOver (follows : crate.FollowsRfcs) (datagram : Datagram)
    (passed : PassedOver Icmpv6Types.EchoReply icmpv6Errors identifier datagram.bytes)
    (rest : List RecvOutcome) :
    receiveIcmpv6Reply crate showIpv6 identifier (.ok datagram :: rest) =
      receiveIcmpv6Reply crate showIpv6 identifier rest := by
  have cut := passed.take (show 8 ≤ RECV_BUFFER_V6 by decide)
  rw [receiveIcmpv6Reply]
  generalize datagram.bytes.take RECV_BUFFER_V6 = packet at cut
  rcases cut with ⟨long, isReply, foreign⟩ | ⟨long, notReply, notError⟩
  · simp [follows.icmpv6.new, follows.icmpv6.icmpType, follows.icmpv6.newEchoReply,
      follows.icmpv6.identifier, long, show 4 ≤ packet.length by omega, isReply, foreign]
  · simp only [icmpv6Errors, List.mem_cons, List.not_mem_nil, or_false, not_or] at notError
    simp [follows.icmpv6.new, follows.icmpv6.icmpType, long, notReply, notError]

theorem receiveIcmpv6Reply_skips (follows : crate.FollowsRfcs) (skipped : List Datagram)
    (passed : ∀ datagram ∈ skipped,
      PassedOver Icmpv6Types.EchoReply icmpv6Errors identifier datagram.bytes)
    (rest : List RecvOutcome) :
    receiveIcmpv6Reply crate showIpv6 identifier (skipped.map .ok ++ rest) =
      receiveIcmpv6Reply crate showIpv6 identifier rest := by
  induction skipped with
  | nil => rfl
  | cons datagram skipped inductionHypothesis =>
    rw [List.map_cons, List.cons_append,
      receiveIcmpv6Reply_passedOver follows datagram (passed datagram List.mem_cons_self)]
    exact inductionHypothesis fun other member => passed other (List.mem_cons_of_mem _ member)

/-- Whatever the loop returns, it has read something. -/
theorem receiveIcmpv6Reply_consumes {answers : List RecvOutcome} {received : Received Icmpv6Reply}
    (returned : receiveIcmpv6Reply crate showIpv6 identifier answers = some received) :
    received.rest.length < answers.length := by
  induction answers with
  | nil => cases returned
  | cons answer rest inductionHypothesis =>
    rw [List.length_cons]
    -- every branch returns what is behind the answer or starts over there
    have later : receiveIcmpv6Reply crate showIpv6 identifier rest = some received →
        received.rest.length < rest.length + 1 := fun again => Nat.lt_succ_of_lt (inductionHypothesis again)
    have here : received.rest = rest → received.rest.length < rest.length + 1 := fun same => by
      rw [same]
      exact Nat.lt_succ_self _
    cases answer with
    | error e =>
      cases kind : e.kind <;> simp only [receiveIcmpv6Reply, kind] at returned
      · exact later returned
      · cases returned; exact here rfl
      · cases returned; exact here rfl
    | ok datagram =>
      simp only [receiveIcmpv6Reply] at returned
      split_ifs at returned <;> first
        | exact later returned
        | (cases returned; exact here rfl)
        | (split at returned <;> (cases returned; exact here rfl))

/-- With nothing but timeouts of that kind the loop never returns, however many there are. -/
theorem receiveIcmpv6Reply_wouldBlock (message : String) (count : Nat) :
    receiveIcmpv6Reply crate showIpv6 identifier
      (List.replicate count (.error ⟨.wouldBlock, message⟩)) = none := by
  induction count with
  | zero => rfl
  | succ count inductionHypothesis => exact inductionHypothesis

end Icmpv6

/-- Both loops end at a timeout exactly when it is reported as `TimedOut`. -/
theorem receiveIcmpv6Reply_timeout_iff (crate : Crate) (follows : crate.FollowsRfcs)
    (showIpv6 : Ipv6Addr → String) (identifier : UInt16) (skipped : List Ipv4Datagram)
    (passed : ∀ datagram ∈ skipped, PassedOver IcmpTypes.EchoReply icmpErrors identifier datagram.message)
    (skippedV6 : List Datagram)
    (passedV6 : ∀ datagram ∈ skippedV6,
      PassedOver Icmpv6Types.EchoReply icmpv6Errors identifier datagram.bytes)
    (timeout : IoError) (expired : timeout.kind = .wouldBlock ∨ timeout.kind = .timedOut)
    (rest : List RecvOutcome) :
    (receiveIcmpv6Reply crate showIpv6 identifier (skippedV6.map .ok ++ .error timeout :: rest) =
        some { result := .error timeout.message, rest } ∧
      receiveIcmpReply crate identifier (skipped.map (·.outcome) ++ .error timeout :: rest) =
        some { result := .error timeout.message, rest }) ↔
      timeout.kind = .timedOut := by
  rw [receiveIcmpReply_timeout follows skipped passed, receiveIcmpv6Reply_skips follows skippedV6 passedV6,
    receiveIcmpv6Reply]
  rcases expired with kind | kind
  · simp only [kind, and_true, reduceCtorEq, iff_false]
    -- a return would have to leave all of `rest`, but the loop has read from it
    intro returned
    exact absurd (receiveIcmpv6Reply_consumes returned) (lt_irrefl _)
  · simp [kind]

/-- The equivalence for the timeout of macOS, behind a neighbor solicitation. -/
theorem receiveIcmpv6Reply_timeout_iff_solicited :
    (receiveIcmpv6Reply .rfcs (fun _ => "") 7
        [.ok ⟨135 :: List.replicate 23 0, none⟩, .error ⟨.timedOut, "timed out"⟩] =
        some { result := .error "timed out", rest := [] } ∧
      receiveIcmpReply .rfcs 7 [foreignReply.outcome, .error ⟨.timedOut, "timed out"⟩] =
        some { result := .error "timed out", rest := [] }) ↔
      ErrorKind.timedOut = .timedOut :=
  receiveIcmpv6Reply_timeout_iff .rfcs Crate.rfcs_follows (fun _ => "") 7 [foreignReply] (by decide)
    [⟨135 :: List.replicate 23 0, none⟩] (by decide) ⟨.timedOut, "timed out"⟩ (.inr rfl) []

/-- The expired timeout of Linux and a late reply to an earlier request: the IPv6 loop reads on. -/
theorem receiveIcmpv6Reply_readsOn :
    let timeout : IoError := ⟨.wouldBlock, "Resource temporarily unavailable (os error 11)"⟩
    let late : Datagram := ⟨[129, 0, 0, 0, 0, 7, 0, 1], some ⟨Vector.replicate 16 0⟩⟩
    receiveIcmpReply .rfcs 7 [.error timeout] = some { result := .error timeout.message, rest := [] } ∧
      receiveIcmpv6Reply .rfcs (fun _ => "") 7 [.error timeout] = none ∧
      receiveIcmpv6Reply .rfcs (fun _ => "") 7 [.error timeout, .ok late] =
        some { result := .ok ⟨1, 8, ⟨Vector.replicate 16 0⟩⟩, rest := [] } ∧
      ¬ receiveIcmpv6Reply .rfcs (fun _ => "") 7 [.error timeout, .ok late] =
        some { result := .error timeout.message, rest := [.ok late] } := by
  decide +kernel

end Utiputils.Ping
