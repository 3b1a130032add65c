import Utiputils.Lib.OnesComplement

/-! # The packet accessors of pnet

The tools read and write packets through the `pnet` crate. The crate is not part of the repository, so
its accessors are parameters here: one structure of functions for each packet view that the tools use,
and beside it the law that the documented layout imposes on them. Each view also has an instance that
follows the layout byte by byte. -/

namespace Utiputils.Pnet

open Utiputils.Lib

structure Ipv4Addr where
  a : UInt8
  b : UInt8
  c : UInt8
  d : UInt8
  deriving DecidableEq, Repr

def Ipv4Addr.octets (addr : Ipv4Addr) : Bytes := [addr.a, addr.b, addr.c, addr.d]

structure Ipv6Addr where
  octets : Vector UInt8 16
  deriving DecidableEq, Repr

inductive IpAddr where
  | v4 (addr : Ipv4Addr)
  | v6 (addr : Ipv6Addr)
  deriving DecidableEq, Repr

/-! ## Message types -/

namespace IcmpTypes
def EchoReply : UInt8 := 0
def DestinationUnreachable : UInt8 := 3
def EchoRequest : UInt8 := 8
def TimeExceeded : UInt8 := 11
def ParameterProblem : UInt8 := 12
def Timestamp : UInt8 := 13
def TimestampReply : UInt8 := 14
end IcmpTypes

namespace Icmpv6Types
def DestinationUnreachable : UInt8 := 1
def PacketTooBig : UInt8 := 2
def TimeExceeded : UInt8 := 3
def EchoRequest : UInt8 := 128
def EchoReply : UInt8 := 129
end Icmpv6Types

namespace IpNextHeaderProtocols
def Icmp : UInt8 := 1
end IpNextHeaderProtocols

namespace Ipv4OptionNumbers
def TS : UInt8 := 4
end Ipv4OptionNumbers

/-! ## Reading IPv4 -/

/-- An item of `get_options_iter`: its five-bit number and its `packet()` view. -/
structure Ipv4Option where
  number : UInt8
  packet : Bytes
  deriving DecidableEq, Repr

/-- `Ipv4Packet`; `new` says whether the constructor returns a view. -/
structure Ipv4Reader where
  new : Bytes → Bool
  ttl : Bytes → UInt8
  nextLevelProtocol : Bytes → UInt8
  source : Bytes → Ipv4Addr
  payload : Bytes → Bytes
  optionsIsEmpty : Bytes → Bool
  optionsIter : Bytes → List Ipv4Option

/-- The header length in bytes, from the low nibble of the first byte. -/
def headerLength (packet : Bytes) : Nat := 4 * ((byteAt packet 0).toNat % 16)

def totalLength (packet : Bytes) : Nat := (u16At packet 2).toNat

def sourceAt (packet : Bytes) : Ipv4Addr :=
  ⟨byteAt packet 12, byteAt packet 13, byteAt packet 14, byteAt packet 15⟩

/-- The header layout of RFC 791. The payload of a packet that its buffer cuts short ends with the
buffer. -/
structure Ipv4Reader.ReadsRfc791 (reader : Ipv4Reader) : Prop where
  new : ∀ packet, reader.new packet = decide (20 ≤ packet.length)
  ttl : ∀ packet, 20 ≤ packet.length → reader.ttl packet = byteAt packet 8
  source : ∀ packet, 20 ≤ packet.length → reader.source packet = sourceAt packet
  payload : ∀ packet, 20 ≤ packet.length → 20 ≤ headerLength packet →
    reader.payload packet = (packet.take (totalLength packet)).drop (headerLength packet)

/-- The options area, read option by option; each item shows the area from its own first byte on. -/
def optionsFrom : Nat → Bytes → List Ipv4Option
  | 0, _ => []
  | _, [] => []
  | fuel + 1, kind :: rest =>
    let number := UInt8.ofNat (kind.toNat % 32)
    let size :=
      if number = 0 ∨ number = 1 then 1
      else max 2 (rest.headD 0).toNat
    ⟨number, kind :: rest⟩ :: optionsFrom fuel ((kind :: rest).drop size)

def optionsArea (packet : Bytes) : Bytes := (packet.take (headerLength packet)).drop 20

def Ipv4Reader.rfc791 : Ipv4Reader where
  new packet := decide (20 ≤ packet.length)
  ttl packet := byteAt packet 8
  nextLevelProtocol packet := byteAt packet 9
  source := sourceAt
  payload packet := (packet.take (totalLength packet)).drop (headerLength packet)
  optionsIsEmpty packet := (optionsArea packet).isEmpty
  optionsIter packet := optionsFrom (optionsArea packet).length (optionsArea packet)

theorem Ipv4Reader.rfc791_reads : Ipv4Reader.rfc791.ReadsRfc791 where
  new _ := rfl
  ttl _ _ := rfl
  source _ _ := rfl
  payload _ _ _ := rfl

/-- The options iterator as the crate has it: an item for every option, not cut at its length. -/
structure Ipv4Reader.ShowsRest (reader : Ipv4Reader) : Prop where
  optionsIsEmpty : ∀ packet, 20 ≤ packet.length → 20 ≤ headerLength packet →
    reader.optionsIsEmpty packet = (optionsArea packet).isEmpty
  optionsIter : ∀ packet, 20 ≤ packet.length → 20 ≤ headerLength packet →
    reader.optionsIter packet = optionsFrom (optionsArea packet).length (optionsArea packet)

theorem Ipv4Reader.rfc791_showsRest : Ipv4Reader.rfc791.ShowsRest where
  optionsIsEmpty _ _ _ := rfl
  optionsIter _ _ _ := rfl

/-! ## Reading ICMP and ICMPv6 -/

/-- `IcmpPacket` and `Icmpv6Packet`, with the `EchoReplyPacket` of the same module. -/
structure IcmpReader where
  new : Bytes → Bool
  icmpType : Bytes → UInt8
  icmpCode : Bytes → UInt8
  payload : Bytes → Bytes
  newEchoReply : Bytes → Bool
  identifier : Bytes → UInt16
  sequenceNumber : Bytes → UInt16

/-- The message layout of RFC 792, which RFC 4443 keeps for ICMPv6. -/
structure IcmpReader.ReadsRfc792 (reader : IcmpReader) : Prop where
  new : ∀ message, reader.new message = decide (4 ≤ message.length)
  icmpType : ∀ message, 4 ≤ message.length → reader.icmpType message = byteAt message 0
  newEchoReply : ∀ message, reader.newEchoReply message = decide (8 ≤ message.length)
  identifier : ∀ message, 8 ≤ message.length → reader.identifier message = u16At message 4
  sequenceNumber : ∀ message, 8 ≤ message.length → reader.sequenceNumber message = u16At message 6

def IcmpReader.rfc792 : IcmpReader where
  new message := decide (4 ≤ message.length)
  icmpType message := byteAt message 0
  icmpCode message := byteAt message 1
  payload message := message.drop 4
  newEchoReply message := decide (8 ≤ message.length)
  identifier message := u16At message 4
  sequenceNumber message := u16At message 6

theorem IcmpReader.rfc792_reads : IcmpReader.rfc792.ReadsRfc792 where
  new _ := rfl
  icmpType _ _ := rfl
  newEchoReply _ := rfl
  identifier _ _ := rfl
  sequenceNumber _ _ := rfl

/-! ## Writing echo requests -/

/-- `MutableEchoRequestPacket` of the `icmp` or the `icmpv6` module. `mapPayload` is a use of
`payload_mut` that rewrites the bytes of the slice in place. -/
structure EchoRequestWriter where
  new : Bytes → Bool
  setIcmpType : Bytes → UInt8 → Bytes
  setSequenceNumber : Bytes → UInt16 → Bytes
  setIdentifier : Bytes → UInt16 → Bytes
  setPayload : Bytes → Bytes → Bytes
  mapPayload : Bytes → (Bytes → Bytes) → Bytes
  setChecksum : Bytes → UInt16 → Bytes

structure EchoRequestWriter.WritesRfc792 (writer : EchoRequestWriter) : Prop where
  new : ∀ buffer, writer.new buffer = decide (8 ≤ buffer.length)
  setIcmpType : ∀ buffer value, 8 ≤ buffer.length →
    writer.setIcmpType buffer value = overwrite buffer 0 [value]
  setChecksum : ∀ buffer value, 8 ≤ buffer.length →
    writer.setChecksum buffer value = overwrite buffer 2 (beBytes16 value)
  setIdentifier : ∀ buffer value, 8 ≤ buffer.length →
    writer.setIdentifier buffer value = overwrite buffer 4 (beBytes16 value)
  setSequenceNumber : ∀ buffer value, 8 ≤ buffer.length →
    writer.setSequenceNumber buffer value = overwrite buffer 6 (beBytes16 value)
  setPayload : ∀ buffer payload, buffer.length = 8 + payload.length →
    writer.setPayload buffer payload = overwrite buffer 8 payload
  mapPayload : ∀ buffer change, 8 ≤ buffer.length → (∀ slice, (change slice).length = slice.length) →
    writer.mapPayload buffer change = buffer.take 8 ++ change (buffer.drop 8)

def EchoRequestWriter.rfc792 : EchoRequestWriter where
  new buffer := decide (8 ≤ buffer.length)
  setIcmpType buffer value := overwrite buffer 0 [value]
  setSequenceNumber buffer value := overwrite buffer 6 (beBytes16 value)
  setIdentifier buffer value := overwrite buffer 4 (beBytes16 value)
  setPayload buffer payload := overwrite buffer 8 payload
  mapPayload buffer change := buffer.take 8 ++ change (buffer.drop 8)
  setChecksum buffer value := overwrite buffer 2 (beBytes16 value)

theorem EchoRequestWriter.rfc792_writes : EchoRequestWriter.rfc792.WritesRfc792 where
  new _ := rfl
  setIcmpType _ _ _ := rfl
  setChecksum _ _ _ := rfl
  setIdentifier _ _ _ := rfl
  setSequenceNumber _ _ _ := rfl
  setPayload _ _ _ := rfl
  mapPayload _ _ _ _ := rfl

/-! ## Writing IPv4 headers -/

/-- `MutableIpv4Packet`. `mapOptionsRaw` is a use of `get_options_raw_mut` that rewrites the slice. -/
structure Ipv4Writer where
  new : Bytes → Bool
  setVersion : Bytes → UInt8 → Bytes
  setHeaderLength : Bytes → UInt8 → Bytes
  setTotalLength : Bytes → UInt16 → Bytes
  setTtl : Bytes → UInt8 → Bytes
  setNextLevelProtocol : Bytes → UInt8 → Bytes
  mapOptionsRaw : Bytes → (Bytes → Bytes) → Bytes

/-- The header layout of RFC 791, as far as a fixed header and its options area go. -/
structure Ipv4Writer.WritesRfc791 (writer : Ipv4Writer) : Prop where
  new : ∀ buffer, writer.new buffer = decide (20 ≤ buffer.length)
  setVersion : ∀ buffer value, 20 ≤ buffer.length → value.toNat < 16 → writer.setVersion buffer value =
    overwrite buffer 0 [UInt8.ofNat (value.toNat * 16 + (byteAt buffer 0).toNat % 16)]
  setHeaderLength : ∀ buffer value, 20 ≤ buffer.length → value.toNat < 16 →
    writer.setHeaderLength buffer value =
      overwrite buffer 0 [UInt8.ofNat ((byteAt buffer 0).toNat / 16 * 16 + value.toNat)]
  setTotalLength : ∀ buffer value, 20 ≤ buffer.length →
    writer.setTotalLength buffer value = overwrite buffer 2 (beBytes16 value)
  setTtl : ∀ buffer value, 20 ≤ buffer.length → writer.setTtl buffer value = overwrite buffer 8 [value]
  setNextLevelProtocol : ∀ buffer value, 20 ≤ buffer.length →
    writer.setNextLevelProtocol buffer value = overwrite buffer 9 [value]
  mapOptionsRaw : ∀ buffer change, 20 ≤ headerLength buffer → headerLength buffer ≤ buffer.length →
    (∀ slice, (change slice).length = slice.length) →
    writer.mapOptionsRaw buffer change =
      buffer.take 20 ++ change (optionsArea buffer) ++ buffer.drop (headerLength buffer)

def Ipv4Writer.rfc791 : Ipv4Writer where
  new buffer := decide (20 ≤ buffer.length)
  setVersion buffer value :=
    overwrite buffer 0 [UInt8.ofNat (value.toNat * 16 + (byteAt buffer 0).toNat % 16)]
  setHeaderLength buffer value :=
    overwrite buffer 0 [UInt8.ofNat ((byteAt buffer 0).toNat / 16 * 16 + value.toNat)]
  setTotalLength buffer value := overwrite buffer 2 (beBytes16 value)
  setTtl buffer value := overwrite buffer 8 [value]
  setNextLevelProtocol buffer value := overwrite buffer 9 [value]
  mapOptionsRaw buffer change :=
    buffer.take 20 ++ change (optionsArea buffer) ++ buffer.drop (headerLength buffer)

theorem Ipv4Writer.rfc791_writes : Ipv4Writer.rfc791.WritesRfc791 where
  new _ := rfl
  setVersion _ _ _ _ := rfl
  setHeaderLength _ _ _ _ := rfl
  setTotalLength _ _ _ := rfl
  setTtl _ _ _ := rfl
  setNextLevelProtocol _ _ _ := rfl
  mapOptionsRaw _ _ _ _ _ := rfl

/-! ## The checksum utility -/

/-- The value `pnet::packet::util::checksum(data, skipword)` returns for data that fits an IPv4
datagram: the complement of the RFC 1071 sum over all words but the skipped one. -/
def ChecksumRfc1071 (checksum : Bytes → Nat → UInt16) : Prop :=
  ∀ data skipword, data ≠ [] → data.length ≤ 65535 →
    (checksum data skipword).toNat = 65535 - onesSum ((words data).eraseIdx skipword)

def checksumRfc1071 (data : Bytes) (skipword : Nat) : UInt16 :=
  UInt16.ofNat (65535 - onesSum ((words data).eraseIdx skipword))

theorem checksumRfc1071_complements : ChecksumRfc1071 checksumRfc1071 := by
  intro data skipword _ _
  simp only [checksumRfc1071, UInt16.toNat_ofNat']
  omega

/-- Everything that the tools take from the crate. -/
structure Crate where
  ipv4 : Ipv4Reader
  icmp : IcmpReader
  icmpv6 : IcmpReader
  echoRequest : EchoRequestWriter
  echoRequestV6 : EchoRequestWriter
  ipv4Writer : Ipv4Writer
  checksum : Bytes → Nat → UInt16

/-- The crate follows the documented layouts. -/
structure Crate.FollowsRfcs (crate : Crate) : Prop where
  ipv4 : crate.ipv4.ReadsRfc791
  icmp : crate.icmp.ReadsRfc792
  icmpv6 : crate.icmpv6.ReadsRfc792
  echoRequest : crate.echoRequest.WritesRfc792
  echoRequestV6 : crate.echoRequestV6.WritesRfc792
  ipv4Writer : crate.ipv4Writer.WritesRfc791
  checksum : ChecksumRfc1071 crate.checksum

def Crate.rfcs : Crate where
  ipv4 := .rfc791
  icmp := .rfc792
  icmpv6 := .rfc792
  echoRequest := .rfc792
  echoRequestV6 := .rfc792
  ipv4Writer := .rfc791
  checksum := checksumRfc1071

theorem Crate.rfcs_follows : Crate.rfcs.FollowsRfcs where
  ipv4 := Ipv4Reader.rfc791_reads
  icmp := IcmpReader.rfc792_reads
  icmpv6 := IcmpReader.rfc792_reads
  echoRequest := EchoRequestWriter.rfc792_writes
  echoRequestV6 := EchoRequestWriter.rfc792_writes
  ipv4Writer := Ipv4Writer.rfc791_writes
  checksum := checksumRfc1071_complements

/-! ## The accessors that only clockdiff takes -/

/-- `MutableIcmpPacket`. -/
structure IcmpWriter where
  new : Bytes → Bool
  setIcmpType : Bytes → UInt8 → Bytes
  setIcmpCode : Bytes → UInt8 → Bytes
  setPayload : Bytes → Bytes → Bytes
  setChecksum : Bytes → UInt16 → Bytes

structure IcmpWriter.WritesRfc792 (writer : IcmpWriter) : Prop where
  new : ∀ buffer, writer.new buffer = decide (4 ≤ buffer.length)
  setIcmpType : ∀ buffer value, 4 ≤ buffer.length →
    writer.setIcmpType buffer value = overwrite buffer 0 [value]
  setIcmpCode : ∀ buffer value, 4 ≤ buffer.length →
    writer.setIcmpCode buffer value = overwrite buffer 1 [value]
  setChecksum : ∀ buffer value, 4 ≤ buffer.length →
    writer.setChecksum buffer value = overwrite buffer 2 (beBytes16 value)
  setPayload : ∀ buffer payload, buffer.length = 4 + payload.length →
    writer.setPayload buffer payload = overwrite buffer 4 payload

def IcmpWriter.rfc792 : IcmpWriter where
  new buffer := decide (4 ≤ buffer.length)
  setIcmpType buffer value := overwrite buffer 0 [value]
  setIcmpCode buffer value := overwrite buffer 1 [value]
  setPayload buffer payload := overwrite buffer 4 payload
  setChecksum buffer value := overwrite buffer 2 (beBytes16 value)

theorem IcmpWriter.rfc792_writes : IcmpWriter.rfc792.WritesRfc792 where
  new _ := rfl
  setIcmpType _ _ _ := rfl
  setIcmpCode _ _ _ := rfl
  setChecksum _ _ _ := rfl
  setPayload _ _ _ := rfl

/-- The setters of `MutableIpv4Packet` for the rest of the header, with `pnet::packet::ipv4::checksum`, and
`set_icmp_code` of `MutableEchoRequestPacket`. -/
structure ClockdiffCrate extends Crate where
  icmpWriter : IcmpWriter
  setSource : Bytes → Ipv4Addr → Bytes
  setDestination : Bytes → Ipv4Addr → Bytes
  setIpv4Checksum : Bytes → UInt16 → Bytes
  ipv4Checksum : Bytes → UInt16
  setEchoIcmpCode : Bytes → UInt8 → Bytes

structure ClockdiffCrate.FollowsRfcs (crate : ClockdiffCrate) : Prop where
  toCrate : crate.toCrate.FollowsRfcs
  icmpWriter : crate.icmpWriter.WritesRfc792
  setSource : ∀ buffer addr, 20 ≤ buffer.length → crate.setSource buffer addr = overwrite buffer 12 addr.octets
  setDestination : ∀ buffer addr, 20 ≤ buffer.length →
    crate.setDestination buffer addr = overwrite buffer 16 addr.octets
  setIpv4Checksum : ∀ buffer value, 20 ≤ buffer.length →
    crate.setIpv4Checksum buffer value = overwrite buffer 10 (beBytes16 value)
  /-- over the header with its options, the checksum field left out -/
  ipv4Checksum : ∀ packet, 20 ≤ headerLength packet → headerLength packet ≤ packet.length →
    (crate.ipv4Checksum packet).toNat =
      65535 - onesSum ((words (packet.take (headerLength packet))).eraseIdx 5)
  setEchoIcmpCode : ∀ buffer value, 8 ≤ buffer.length →
    crate.setEchoIcmpCode buffer value = overwrite buffer 1 [value]
  icmpPayload : ∀ message, 4 ≤ message.length → crate.icmp.payload message = message.drop 4

def ClockdiffCrate.rfcs : ClockdiffCrate where
  toCrate := .rfcs
  icmpWriter := .rfc792
  setSource buffer addr := overwrite buffer 12 addr.octets
  setDestination buffer addr := overwrite buffer 16 addr.octets
  setIpv4Checksum buffer value := overwrite buffer 10 (beBytes16 value)
  ipv4Checksum packet := checksumRfc1071 (packet.take (headerLength packet)) 5
  setEchoIcmpCode buffer value := overwrite buffer 1 [value]

theorem ClockdiffCrate.rfcs_follows : ClockdiffCrate.rfcs.FollowsRfcs where
  toCrate := Crate.rfcs_follows
  icmpWriter := IcmpWriter.rfc792_writes
  setSource _ _ _ := rfl
  setDestination _ _ _ := rfl
  setIpv4Checksum _ _ _ := rfl
  ipv4Checksum packet long inside := by
    have headerMax : headerLength packet ≤ 60 := by
      rw [headerLength]
      omega
    have size : (packet.take (headerLength packet)).length = headerLength packet := by
      rw [List.length_take, min_eq_left inside]
    refine checksumRfc1071_complements _ 5 (fun none => ?_) (by omega)
    rw [none, List.length_nil] at size
    omega
  setEchoIcmpCode _ _ _ := rfl
  icmpPayload _ _ := rfl

/-! ## The accessors that only arping takes -/

/-- `pnet::util::MacAddr`. -/
structure MacAddr where
  a : UInt8
  b : UInt8
  c : UInt8
  d : UInt8
  e : UInt8
  f : UInt8
  deriving DecidableEq, Repr

namespace MacAddr

def octets (addr : MacAddr) : Bytes := [addr.a, addr.b, addr.c, addr.d, addr.e, addr.f]

def zero : MacAddr := ⟨0, 0, 0, 0, 0, 0⟩

def broadcast : MacAddr := ⟨255, 255, 255, 255, 255, 255⟩

end MacAddr

namespace Ipv4Addr

def unspecified : Ipv4Addr := ⟨0, 0, 0, 0⟩

/-- The address in dotted notation. -/
def display (addr : Ipv4Addr) : String := ".".intercalate (addr.octets.map fun octet => toString octet.toNat)

def parseOctet (text : List Char) : Option UInt8 :=
  if text ≠ [] ∧ text.all Char.isDigit ∧ (text.length = 1 ∨ text.head? ≠ some '0') then
    let value := text.foldl (fun value digit => value * 10 + (digit.toNat - '0'.toNat)) 0
    if value < 256 then some (UInt8.ofNat value) else none
  else none

/-- `str::parse::<Ipv4Addr>`: four decimal octets without leading zeros. -/
def parse (text : String) : Option Ipv4Addr := do
  match ← (text.toList.splitOn '.').mapM parseOctet with
  | [a, b, c, d] => some ⟨a, b, c, d⟩
  | _ => none

end Ipv4Addr

def macAt (bytes : Bytes) (offset : Nat) : MacAddr :=
  ⟨byteAt bytes offset, byteAt bytes (offset + 1), byteAt bytes (offset + 2), byteAt bytes (offset + 3),
    byteAt bytes (offset + 4), byteAt bytes (offset + 5)⟩

def ipv4At (bytes : Bytes) (offset : Nat) : Ipv4Addr :=
  ⟨byteAt bytes offset, byteAt bytes (offset + 1), byteAt bytes (offset + 2), byteAt bytes (offset + 3)⟩

namespace EtherTypes
def Ipv4 : UInt16 := 0x0800
def Arp : UInt16 := 0x0806
end EtherTypes

namespace ArpHardwareTypes
def Ethernet : UInt16 := 1
end ArpHardwareTypes

namespace ArpOperations
def Request : UInt16 := 1
def Reply : UInt16 := 2
end ArpOperations

/-- `EthernetPacket` and `ArpPacket`. -/
structure ArpReader where
  newEthernet : Bytes → Bool
  ethertype : Bytes → UInt16
  payload : Bytes → Bytes
  newArp : Bytes → Bool
  operation : Bytes → UInt16
  senderHwAddr : Bytes → MacAddr
  senderProtoAddr : Bytes → Ipv4Addr

/-- The message layout of RFC 826 in an Ethernet frame. -/
structure ArpReader.ReadsRfc826 (reader : ArpReader) : Prop where
  newEthernet : ∀ frame, reader.newEthernet frame = decide (14 ≤ frame.length)
  ethertype : ∀ frame, 14 ≤ frame.length → reader.ethertype frame = u16At frame 12
  payload : ∀ frame, 14 ≤ frame.length → reader.payload frame = frame.drop 14
  newArp : ∀ message, reader.newArp message = decide (28 ≤ message.length)
  operation : ∀ message, 28 ≤ message.length → reader.operation message = u16At message 6
  senderHwAddr : ∀ message, 28 ≤ message.length → reader.senderHwAddr message = macAt message 8
  senderProtoAddr : ∀ message, 28 ≤ message.length → reader.senderProtoAddr message = ipv4At message 14

def ArpReader.rfc826 : ArpReader where
  newEthernet frame := decide (14 ≤ frame.length)
  ethertype frame := u16At frame 12
  payload frame := frame.drop 14
  newArp message := decide (28 ≤ message.length)
  operation message := u16At message 6
  senderHwAddr message := macAt message 8
  senderProtoAddr message := ipv4At message 14

theorem ArpReader.rfc826_reads : ArpReader.rfc826.ReadsRfc826 where
  newEthernet _ := rfl
  ethertype _ _ := rfl
  payload _ _ := rfl
  newArp _ := rfl
  operation _ _ := rfl
  senderHwAddr _ _ := rfl
  senderProtoAddr _ _ := rfl

/-- `MutableEthernetPacket` and `MutableArpPacket`. `mapPayload` is a use of `payload_mut`, with what is made of
the slice; `none` where that panics. -/
structure ArpWriter where
  newEthernet : Bytes → Bool
  setDestination : Bytes → MacAddr → Bytes
  setSource : Bytes → MacAddr → Bytes
  setEthertype : Bytes → UInt16 → Bytes
  mapPayload : Bytes → (Bytes → Option Bytes) → Option Bytes
  newArp : Bytes → Bool
  setHardwareType : Bytes → UInt16 → Bytes
  setProtocolType : Bytes → UInt16 → Bytes
  setHwAddrLen : Bytes → UInt8 → Bytes
  setProtoAddrLen : Bytes → UInt8 → Bytes
  setOperation : Bytes → UInt16 → Bytes
  setSenderHwAddr : Bytes → MacAddr → Bytes
  setSenderProtoAddr : Bytes → Ipv4Addr → Bytes
  setTargetHwAddr : Bytes → MacAddr → Bytes
  setTargetProtoAddr : Bytes → Ipv4Addr → Bytes

structure ArpWriter.WritesRfc826 (writer : ArpWriter) : Prop where
  newEthernet : ∀ buffer, writer.newEthernet buffer = decide (14 ≤ buffer.length)
  setDestination : ∀ buffer addr, 14 ≤ buffer.length →
    writer.setDestination buffer addr = overwrite buffer 0 addr.octets
  setSource : ∀ buffer addr, 14 ≤ buffer.length → writer.setSource buffer addr = overwrite buffer 6 addr.octets
  setEthertype : ∀ buffer value, 14 ≤ buffer.length →
    writer.setEthertype buffer value = overwrite buffer 12 (beBytes16 value)
  mapPayload : ∀ buffer change, 14 ≤ buffer.length →
    (∀ changed ∈ change (buffer.drop 14), changed.length = (buffer.drop 14).length) →
    writer.mapPayload buffer change = (change (buffer.drop 14)).map (buffer.take 14 ++ ·)
  newArp : ∀ buffer, writer.newArp buffer = decide (28 ≤ buffer.length)
  setHardwareType : ∀ buffer value, 28 ≤ buffer.length →
    writer.setHardwareType buffer value = overwrite buffer 0 (beBytes16 value)
  setProtocolType : ∀ buffer value, 28 ≤ buffer.length →
    writer.setProtocolType buffer value = overwrite buffer 2 (beBytes16 value)
  setHwAddrLen : ∀ buffer value, 28 ≤ buffer.length → writer.setHwAddrLen buffer value = overwrite buffer 4 [value]
  setProtoAddrLen : ∀ buffer value, 28 ≤ buffer.length →
    writer.setProtoAddrLen buffer value = overwrite buffer 5 [value]
  setOperation : ∀ buffer value, 28 ≤ buffer.length →
    writer.setOperation buffer value = overwrite buffer 6 (beBytes16 value)
  setSenderHwAddr : ∀ buffer addr, 28 ≤ buffer.length →
    writer.setSenderHwAddr buffer addr = overwrite buffer 8 addr.octets
  setSenderProtoAddr : ∀ buffer addr, 28 ≤ buffer.length →
    writer.setSenderProtoAddr buffer addr = overwrite buffer 14 addr.octets
  setTargetHwAddr : ∀ buffer addr, 28 ≤ buffer.length →
    writer.setTargetHwAddr buffer addr = overwrite buffer 18 addr.octets
  setTargetProtoAddr : ∀ buffer addr, 28 ≤ buffer.length →
    writer.setTargetProtoAddr buffer addr = overwrite buffer 24 addr.octets

def ArpWriter.rfc826 : ArpWriter where
  newEthernet buffer := decide (14 ≤ buffer.length)
  setDestination buffer addr := overwrite buffer 0 addr.octets
  setSource buffer addr := overwrite buffer 6 addr.octets
  setEthertype buffer value := overwrite buffer 12 (beBytes16 value)
  mapPayload buffer change := (change (buffer.drop 14)).map (buffer.take 14 ++ ·)
  newArp buffer := decide (28 ≤ buffer.length)
  setHardwareType buffer value := overwrite buffer 0 (beBytes16 value)
  setProtocolType buffer value := overwrite buffer 2 (beBytes16 value)
  setHwAddrLen buffer value := overwrite buffer 4 [value]
  setProtoAddrLen buffer value := overwrite buffer 5 [value]
  setOperation buffer value := overwrite buffer 6 (beBytes16 value)
  setSenderHwAddr buffer addr := overwrite buffer 8 addr.octets
  setSenderProtoAddr buffer addr := overwrite buffer 14 addr.octets
  setTargetHwAddr buffer addr := overwrite buffer 18 addr.octets
  setTargetProtoAddr buffer addr := overwrite buffer 24 addr.octets

theorem ArpWriter.rfc826_writes : ArpWriter.rfc826.WritesRfc826 where
  newEthernet _ := rfl
  setDestination _ _ _ := rfl
  setSource _ _ _ := rfl
  setEthertype _ _ _ := rfl
  mapPayload _ _ _ _ := rfl
  newArp _ := rfl
  setHardwareType _ _ _ := rfl
  setProtocolType _ _ _ := rfl
  setHwAddrLen _ _ _ := rfl
  setProtoAddrLen _ _ _ := rfl
  setOperation _ _ _ := rfl
  setSenderHwAddr _ _ _ := rfl
  setSenderProtoAddr _ _ _ := rfl
  setTargetHwAddr _ _ _ := rfl
  setTargetProtoAddr _ _ _ := rfl

structure ArpingCrate where
  reader : ArpReader
  writer : ArpWriter

structure ArpingCrate.FollowsRfcs (crate : ArpingCrate) : Prop where
  reader : crate.reader.ReadsRfc826
  writer : crate.writer.WritesRfc826

def ArpingCrate.rfcs : ArpingCrate where
  reader := .rfc826
  writer := .rfc826

theorem ArpingCrate.rfcs_follows : ArpingCrate.rfcs.FollowsRfcs where
  reader := ArpReader.rfc826_reads
  writer := ArpWriter.rfc826_writes

end Utiputils.Pnet
