import Utiputils.Clockdiff.Run
import Utiputils.Ping.EchoRequest

/-! # The requests of clockdiff

The two packet builders: `build_icmp_timestamp_packet` and `build_ipv4_packet_with_timestamp`. What they
write is read back by the two parsers once the hosts on the way have entered their times. -/

namespace Utiputils.Clockdiff

open Utiputils.Lib Utiputils.Pnet

def IPOPT_TIMESTAMP : UInt8 := 0x44
def OPTIONS_LEN : Nat := 36
def OPTIONS_LEN_THREE : Nat := 28
def ICMP_HEADER_LEN : Nat := 8
def IPV4_HEADER_LEN : Nat := 20

/-! ## The builders -/

def buildIcmpTimestampPacket (crate : ClockdiffCrate) (getTimestamp : UInt32) (source target : Ipv4Addr)
    (id seq : UInt16) : Except String Bytes :=
  let totalLength := IPV4_HEADER_LEN + ICMP_HEADER_LEN + TIMESTAMP_LEN
  let buffer := List.replicate totalLength 0
  let ipv4Packet := buffer.take IPV4_HEADER_LEN
  if ¬ crate.ipv4Writer.new ipv4Packet then .error "Failed to create mutable IPv4 packet"
  else
    let ipv4Packet := crate.ipv4Writer.setVersion ipv4Packet 4
    let ipv4Packet := crate.ipv4Writer.setHeaderLength ipv4Packet 5
    let ipv4Packet := crate.ipv4Writer.setTotalLength ipv4Packet (UInt16.ofNat totalLength)
    let ipv4Packet := crate.ipv4Writer.setTtl ipv4Packet 64
    let ipv4Packet := crate.ipv4Writer.setNextLevelProtocol ipv4Packet IpNextHeaderProtocols.Icmp
    let ipv4Packet := crate.setSource ipv4Packet source
    let ipv4Packet := crate.setDestination ipv4Packet target
    let icmpPacket := buffer.drop IPV4_HEADER_LEN
    if ¬ crate.icmpWriter.new icmpPacket then .error "Failed to create mutable ICMP packet"
    else
      let icmpPacket := crate.icmpWriter.setIcmpType icmpPacket IcmpTypes.Timestamp
      let icmpPacket := crate.icmpWriter.setIcmpCode icmpPacket 0
      let payload := List.replicate (TIMESTAMP_LEN + 4) 0
      let payload := overwrite payload 0 (beBytes16 id)
      let payload := overwrite payload 2 (beBytes16 seq)
      let payload := overwrite payload 4 (beBytes32 getTimestamp)
      let icmpPacket := crate.icmpWriter.setPayload icmpPacket payload
      let icmpChecksum := crate.checksum icmpPacket 1
      .ok (ipv4Packet ++ crate.icmpWriter.setChecksum icmpPacket icmpChecksum)

/-- The writes to the options of the header. -/
def writeOptions (optionLen : Nat) (timestamp : UInt32) (source dest : Ipv4Addr) (options : Bytes) : Bytes :=
  let options := copyFromSlice options 0 [IPOPT_TIMESTAMP]
  let options := copyFromSlice options 1 [UInt8.ofNat optionLen]
  let options := copyFromSlice options 2 [13]
  let options := copyFromSlice options 3 [0x03]
  let options := copyFromSlice options 4 source.octets
  let options := copyFromSlice options 8 (beBytes32 timestamp)
  let options := copyFromSlice options 12 dest.octets
  let options := copyFromSlice options 16 (List.replicate 4 0)
  let options := copyFromSlice options 20 source.octets
  let options := copyFromSlice options 24 (List.replicate 4 0)
  if optionLen = OPTIONS_LEN then
    let options := copyFromSlice options 20 dest.octets
    let options := copyFromSlice options 24 (List.replicate 4 0)
    let options := copyFromSlice options 28 source.octets
    copyFromSlice options 32 (List.replicate 4 0)
  else options

/-- `none` where the source panics. -/
def buildIpv4PacketWithTimestamp (crate : ClockdiffCrate) (getTimestamp : UInt32) (options : ClockdiffConfig)
    (seq identifier : UInt16) (source dest : Ipv4Addr) : Option Bytes :=
  let optionLen := if options.threeTimestamps then OPTIONS_LEN_THREE else OPTIONS_LEN
  let totalLen := IPV4_HEADER_LEN + optionLen + ICMP_HEADER_LEN + TIMESTAMP_LEN
  let ipBuffer := List.replicate totalLen 0
  if crate.ipv4Writer.new ipBuffer then
    let ipPacket := crate.ipv4Writer.setVersion ipBuffer 4
    -- the header length is that of the longer option in either form
    let ipPacket := crate.ipv4Writer.setHeaderLength ipPacket (UInt8.ofNat (IPV4_HEADER_LEN + OPTIONS_LEN) / 4)
    let ipPacket := crate.ipv4Writer.setTotalLength ipPacket (UInt16.ofNat totalLen)
    let ipPacket := crate.ipv4Writer.setTtl ipPacket 64
    let ipPacket := crate.ipv4Writer.setNextLevelProtocol ipPacket IpNextHeaderProtocols.Icmp
    let ipPacket := crate.setSource ipPacket source
    let ipPacket := crate.setDestination ipPacket dest
    let ipPacket := crate.ipv4Writer.mapOptionsRaw ipPacket (writeOptions optionLen getTimestamp source dest)
    let ipPacket := crate.setIpv4Checksum ipPacket 0
    let ipBuffer := crate.setIpv4Checksum ipPacket (crate.ipv4Checksum ipPacket)
    let icmpStart := IPV4_HEADER_LEN + OPTIONS_LEN
    let echoPacket := ipBuffer.drop icmpStart
    if crate.echoRequest.new echoPacket then
      let echoPacket := crate.echoRequest.setIcmpType echoPacket IcmpTypes.EchoRequest
      let echoPacket := crate.setEchoIcmpCode echoPacket 0
      let echoPacket := crate.echoRequest.setIdentifier echoPacket identifier
      let echoPacket := crate.echoRequest.setSequenceNumber echoPacket seq
      let checksum := crate.checksum echoPacket 1
      some (ipBuffer.take icmpStart ++ crate.echoRequest.setChecksum echoPacket checksum)
    else none
  else none

/-! ## The header that they write -/

/-- The fields of an IPv4 header that the builders set; the others are zero. -/
structure Ipv4Header where
  first : UInt8 := 0
  totalLength : UInt16 := 0
  ttl : UInt8 := 0
  protocol : UInt8 := 0
  checksum : UInt16 := 0
  source : Ipv4Addr := ⟨0, 0, 0, 0⟩
  destination : Ipv4Addr := ⟨0, 0, 0, 0⟩

namespace Ipv4Header

def bytes (self : Ipv4Header) : Bytes :=
  self.first :: 0 :: (beBytes16 self.totalLength ++ (0 :: 0 :: 0 :: 0 :: self.ttl :: self.protocol ::
    (beBytes16 self.checksum ++ (self.source.octets ++ self.destination.octets))))

@[simp] theorem length_bytes (self : Ipv4Header) : self.bytes.length = 20 := rfl

theorem length_append (self : Ipv4Header) (rest : Bytes) : 20 ≤ (self.bytes ++ rest).length := by
  rw [List.length_append, length_bytes]
  exact Nat.le_add_right 20 rest.length

section

variable {crate : ClockdiffCrate} (follows : crate.FollowsRfcs) (self : Ipv4Header) (rest : Bytes)
include follows

theorem setVersion_bytes (value : UInt8) (small : value.toNat < 16) :
    crate.ipv4Writer.setVersion (self.bytes ++ rest) value =
      { self with first := UInt8.ofNat (value.toNat * 16 + self.first.toNat % 16) }.bytes ++ rest := by
  rw [follows.toCrate.ipv4Writer.setVersion _ _ (self.length_append rest) small]
  rfl

theorem setHeaderLength_bytes (value : UInt8) (small : value.toNat < 16) :
    crate.ipv4Writer.setHeaderLength (self.bytes ++ rest) value =
      { self with first := UInt8.ofNat (self.first.toNat / 16 * 16 + value.toNat) }.bytes ++ rest := by
  rw [follows.toCrate.ipv4Writer.setHeaderLength _ _ (self.length_append rest) small]
  rfl

theorem setTotalLength_bytes (value : UInt16) :
    crate.ipv4Writer.setTotalLength (self.bytes ++ rest) value =
      { self with totalLength := value }.bytes ++ rest := by
  rw [follows.toCrate.ipv4Writer.setTotalLength _ _ (self.length_append rest)]
  rfl

theorem setTtl_bytes (value : UInt8) :
    crate.ipv4Writer.setTtl (self.bytes ++ rest) value = { self with ttl := value }.bytes ++ rest := by
  rw [follows.toCrate.ipv4Writer.setTtl _ _ (self.length_append rest)]
  rfl

theorem setNextLevelProtocol_bytes (value : UInt8) :
    crate.ipv4Writer.setNextLevelProtocol (self.bytes ++ rest) value =
      { self with protocol := value }.bytes ++ rest := by
  rw [follows.toCrate.ipv4Writer.setNextLevelProtocol _ _ (self.length_append rest)]
  rfl

theorem setSource_bytes (addr : Ipv4Addr) :
    crate.setSource (self.bytes ++ rest) addr = { self with source := addr }.bytes ++ rest := by
  rw [follows.setSource _ _ (self.length_append rest)]
  rfl

theorem setDestination_bytes (addr : Ipv4Addr) :
    crate.setDestination (self.bytes ++ rest) addr = { self with destination := addr }.bytes ++ rest := by
  rw [follows.setDestination _ _ (self.length_append rest)]
  rfl

theorem setIpv4Checksum_bytes (value : UInt16) :
    crate.setIpv4Checksum (self.bytes ++ rest) value = { self with checksum := value }.bytes ++ rest := by
  rw [follows.setIpv4Checksum _ _ (self.length_append rest)]
  rfl

end

end Ipv4Header

/-! ## The timestamp message -/

/-- An ICMP message, and its checksum over the rest. -/
def icmpBytes (icmpType code : UInt8) (checksum : UInt16) (payload : Bytes) : Bytes :=
  icmpType :: code :: (beBytes16 checksum ++ payload)

theorem onesSum_icmpBytes {checksum : Bytes → Nat → UInt16} (complements : ChecksumRfc1071 checksum)
    (icmpType code : UInt8) (payload : Bytes) (fits : payload.length ≤ 65531) :
    onesSum (words (icmpBytes icmpType code (checksum (icmpBytes icmpType code 0 payload) 1) payload)) = 0xFFFF := by
  have fits' : (icmpBytes icmpType code 0 payload).length ≤ 65535 := by
    simp only [icmpBytes, List.length_cons, List.length_append, length_beBytes16]
    omega
  have sum := complements (icmpBytes icmpType code 0 payload) 1 (List.cons_ne_nil _ _) fits'
  exact onesSum_words_checksum (show [icmpType, code].length = 2 * 1 from rfl) payload 0 _ sum

section

variable {writer : IcmpWriter} (writes : writer.WritesRfc792) (icmpType code : UInt8) (checksum : UInt16)
  (payload : Bytes)

theorem length_icmpBytes : (icmpBytes icmpType code checksum payload).length = 4 + payload.length := by
  simp only [icmpBytes, List.length_cons, List.length_append, length_beBytes16]
  omega

include writes

theorem setIcmpType_icmpBytes (value : UInt8) :
    writer.setIcmpType (icmpBytes icmpType code checksum payload) value = icmpBytes value code checksum payload := by
  rw [writes.setIcmpType _ _ (by rw [length_icmpBytes]; omega)]
  rfl

theorem setIcmpCode_icmpBytes (value : UInt8) :
    writer.setIcmpCode (icmpBytes icmpType code checksum payload) value =
      icmpBytes icmpType value checksum payload := by
  rw [writes.setIcmpCode _ _ (by rw [length_icmpBytes]; omega)]
  rfl

theorem setChecksum_icmpBytes (value : UInt16) :
    writer.setChecksum (icmpBytes icmpType code checksum payload) value = icmpBytes icmpType code value payload := by
  rw [writes.setChecksum _ _ (by rw [length_icmpBytes]; omega)]
  rfl

theorem setPayload_icmpBytes (written : Bytes) (sameSize : payload.length = written.length) :
    writer.setPayload (icmpBytes icmpType code checksum payload) written =
      icmpBytes icmpType code checksum written := by
  rw [writes.setPayload _ _ (by rw [length_icmpBytes, sameSize]), overwrite,
    List.drop_eq_nil_of_le (by rw [length_icmpBytes, sameSize]), List.append_nil]
  rfl

end

/-- The header of the timestamp message. -/
def timestampHeader (source target : Ipv4Addr) : Ipv4Header where
  first := 0x45
  totalLength := 40
  ttl := 64
  protocol := 1
  source := source
  destination := target

def timestampPayload (id seq : UInt16) (time : UInt32) : Bytes :=
  beBytes16 id ++ (beBytes16 seq ++ (beBytes32 time ++ List.replicate 8 0))

theorem length_timestampPayload (id seq : UInt16) (time : UInt32) : (timestampPayload id seq time).length = 16 := rfl

theorem buildIcmpTimestampPacket_eq {crate : ClockdiffCrate} (follows : crate.FollowsRfcs) (getTimestamp : UInt32)
    (source target : Ipv4Addr) (id seq : UInt16) :
    let payload := timestampPayload id seq getTimestamp
    buildIcmpTimestampPacket crate getTimestamp source target id seq = .ok ((timestampHeader source target).bytes ++
      icmpBytes IcmpTypes.Timestamp 0
        (crate.checksum (icmpBytes IcmpTypes.Timestamp 0 0 payload) 1) payload) := by
  intro payload
  have header : (List.replicate (IPV4_HEADER_LEN + ICMP_HEADER_LEN + TIMESTAMP_LEN) 0).take IPV4_HEADER_LEN =
      ({} : Ipv4Header).bytes ++ [] := rfl
  have message : (List.replicate (IPV4_HEADER_LEN + ICMP_HEADER_LEN + TIMESTAMP_LEN) 0).drop IPV4_HEADER_LEN =
      icmpBytes 0 0 0 (List.replicate 16 0) := rfl
  have written : overwrite (overwrite (overwrite (List.replicate (TIMESTAMP_LEN + 4) 0) 0 (beBytes16 id)) 2
      (beBytes16 seq)) 4 (beBytes32 getTimestamp) = payload := rfl
  have sameSize : (List.replicate 16 (0 : UInt8)).length = payload.length := rfl
  have newHeader : crate.ipv4Writer.new (({} : Ipv4Header).bytes ++ []) = true :=
    (follows.toCrate.ipv4Writer.new _).trans (decide_eq_true (Ipv4Header.length_append ..))
  have newMessage : crate.icmpWriter.new (icmpBytes 0 0 0 (List.replicate 16 0)) = true :=
    (follows.icmpWriter.new _).trans (decide_eq_true (by decide))
  simp only [buildIcmpTimestampPacket, header, message, written, newHeader, newMessage, not_true_eq_false, if_false,
    setIcmpType_icmpBytes follows.icmpWriter, setIcmpCode_icmpBytes follows.icmpWriter,
    setPayload_icmpBytes follows.icmpWriter _ _ _ _ _ sameSize, setChecksum_icmpBytes follows.icmpWriter,
    Ipv4Header.setVersion_bytes follows _ _ 4 (by decide),
    Ipv4Header.setHeaderLength_bytes follows _ _ 5 (by decide), Ipv4Header.setTotalLength_bytes follows,
    Ipv4Header.setTtl_bytes follows, Ipv4Header.setNextLevelProtocol_bytes follows,
    Ipv4Header.setSource_bytes follows, Ipv4Header.setDestination_bytes follows]
  rw [List.append_nil]
  rfl

/-- The reply of a host to a timestamp request: the same message with another type, and its times. -/
def timestampReply (request : Bytes) (checksum : UInt16) (received transmitted : UInt32) : Bytes :=
  IcmpTypes.TimestampReply :: byteAt request 1 :: (beBytes16 checksum ++
    ((request.drop 4).take 8 ++ (beBytes32 received ++ beBytes32 transmitted)))

theorem length_timestampReply (requested : UInt16) (id seq : UInt16) (sent : UInt32) (checksum : UInt16)
    (received transmitted : UInt32) :
    (timestampReply (icmpBytes IcmpTypes.Timestamp 0 requested (timestampPayload id seq sent)) checksum received
      transmitted).length = 20 := rfl

/-! ## The timestamp option -/

def slotBytes (slots : List (Ipv4Addr × UInt32)) : Bytes :=
  slots.flatMap fun slot => slot.1.octets ++ beBytes32 slot.2

/-- A timestamp option with prespecified addresses. -/
def timestampOption (length pointer : UInt8) (slots : List (Ipv4Addr × UInt32)) : Bytes :=
  IPOPT_TIMESTAMP :: length :: pointer :: 3 :: slotBytes slots

/-- What a listed host does with the option: it enters its time behind its address, in the slot that the
pointer shows, and moves the pointer to the next slot. -/
def stampOption (option : Bytes) (value : UInt32) : Bytes :=
  let pointer := (byteAt option 2).toNat
  overwrite (overwrite option (pointer + 3) (beBytes32 value)) 2 [UInt8.ofNat (pointer + 8)]

@[simp] theorem length_slotBytes (slots : List (Ipv4Addr × UInt32)) : (slotBytes slots).length = 8 * slots.length := by
  induction slots with
  | nil => rfl
  | cons slot slots inductionHypothesis =>
    rw [slotBytes, List.flatMap_cons, List.length_append, ← slotBytes, inductionHypothesis, List.length_cons]
    simp only [Ipv4Addr.octets, List.length_append, length_beBytes32, List.length_cons, List.length_nil]
    omega

theorem slotBytes_append (slots : List (Ipv4Addr × UInt32)) (addr : Ipv4Addr) (time : UInt32)
    (later : List (Ipv4Addr × UInt32)) :
    slotBytes (slots ++ (addr, time) :: later) =
      (slotBytes slots ++ addr.octets) ++ (beBytes32 time ++ slotBytes later) := by
  simp [slotBytes]

theorem stampOption_timestampOption (length pointer : UInt8) (slots : List (Ipv4Addr × UInt32)) (addr : Ipv4Addr)
    (old new : UInt32) (later : List (Ipv4Addr × UInt32)) (isNext : pointer.toNat = 5 + 8 * slots.length) :
    stampOption (timestampOption length pointer (slots ++ (addr, old) :: later)) new =
      timestampOption length (UInt8.ofNat (pointer.toNat + 8)) (slots ++ (addr, new) :: later) := by
  let front := IPOPT_TIMESTAMP :: length :: pointer :: 3 :: (slotBytes slots ++ addr.octets)
  have layout : ∀ time, timestampOption length pointer (slots ++ (addr, time) :: later) =
      front ++ (beBytes32 time ++ slotBytes later) := fun time => by
    rw [timestampOption, slotBytes_append]
    rfl
  have offset : pointer.toNat + 3 = front.length := by
    simp only [front, List.length_cons, List.length_append, length_slotBytes, Ipv4Addr.octets, List.length_nil]
    omega
  have written : overwrite (timestampOption length pointer (slots ++ (addr, old) :: later)) (pointer.toNat + 3)
      (beBytes32 new) = timestampOption length pointer (slots ++ (addr, new) :: later) := by
    rw [layout, layout, offset]
    exact overwrite_append _ rfl
  have shown : byteAt (timestampOption length pointer (slots ++ (addr, old) :: later)) 2 = pointer := rfl
  simp only [stampOption, shown, written]
  rfl

/-- The time in a slot, read at its offset behind the four bytes of the head. -/
theorem u32At_slotBytes (slots : List (Ipv4Addr × UInt32)) (addr : Ipv4Addr) (time : UInt32)
    (later : List (Ipv4Addr × UInt32)) (behind : Bytes) (offset : Nat) (isSlot : offset = 8 * slots.length + 4) :
    u32At (slotBytes (slots ++ (addr, time) :: later) ++ behind) offset = time.toNat := by
  have size : (slotBytes slots ++ addr.octets).length + 0 = offset := by
    rw [List.length_append, length_slotBytes, isSlot]
    rfl
  rw [slotBytes_append, List.append_assoc, ← size, u32At_append_right, List.append_assoc, u32At_beBytes32]

/-! ## The datagram with the option -/

/-- The slots of the option: the time at the source, and the addresses of the hosts that are to follow. -/
def requestSlots (threeTimestamps : Bool) (time : UInt32) (source dest : Ipv4Addr) : List (Ipv4Addr × UInt32) :=
  (source, time) :: (if threeTimestamps then [(dest, 0), (source, 0)] else [(dest, 0), (dest, 0), (source, 0)])

def optionLen (threeTimestamps : Bool) : Nat := if threeTimestamps then OPTIONS_LEN_THREE else OPTIONS_LEN

/-- What the builder leaves of the options area behind the option. -/
def optionPadding (threeTimestamps : Bool) : Bytes := List.replicate (OPTIONS_LEN - optionLen threeTimestamps) 0

theorem writeOptions_eq (threeTimestamps : Bool) (time : UInt32) (source dest : Ipv4Addr) :
    writeOptions (optionLen threeTimestamps) time source dest (List.replicate 36 0) =
      timestampOption (UInt8.ofNat (optionLen threeTimestamps)) 13
        (requestSlots threeTimestamps time source dest) ++ optionPadding threeTimestamps := by
  obtain ⟨first, second, third, fourth⟩ := source
  obtain ⟨fifth, sixth, seventh, eighth⟩ := dest
  -- the bytes of the time stay closed: only the places of the writes matter
  obtain ⟨_, _, _, _, timeBytes⟩ : ∃ a b c d, beBytes32 time = [a, b, c, d] := ⟨_, _, _, _, rfl⟩
  have zero : beBytes32 0 = [0, 0, 0, 0] := by decide
  cases threeTimestamps <;>
    simp [writeOptions, optionLen, OPTIONS_LEN, OPTIONS_LEN_THREE, copyFromSlice, timestampOption, requestSlots,
      slotBytes, timeBytes, zero, Ipv4Addr.octets, optionPadding, List.replicate_succ]

theorem length_writeOptions (optionLen : Nat) (time : UInt32) (source dest : Ipv4Addr) (options : Bytes) :
    (writeOptions optionLen time source dest options).length = options.length := by
  simp only [writeOptions]
  split <;> simp only [length_copyFromSlice]

/-- The datagram in two parts of which each has a checksum: header with options, and message. -/
def requestHeader (threeTimestamps : Bool) (checksum : UInt16) (source dest : Ipv4Addr) : Ipv4Header where
  first := 0x4E
  totalLength := UInt16.ofNat (IPV4_HEADER_LEN + optionLen threeTimestamps + ICMP_HEADER_LEN + TIMESTAMP_LEN)
  ttl := 64
  protocol := 1
  checksum := checksum
  source := source
  destination := dest

/-- The rest of the datagram is the message, its body zeros. -/
def echoBody (threeTimestamps : Bool) : Bytes := List.replicate (if threeTimestamps then 4 else 12) 0

section

variable (header : Ipv4Header) (isLong : header.first = 0x4E) {options : Bytes} (wholeArea : options.length = 36)
  (message : Bytes)

theorem headerLength_bytes (rest : Bytes) : headerLength (header.bytes ++ rest) = 4 * (header.first.toNat % 16) := rfl

section

include isLong

theorem headerLength_datagram (rest : Bytes) : headerLength (header.bytes ++ rest) = 56 := by
  rw [headerLength_bytes, isLong]
  rfl

end

include wholeArea

theorem take_datagram : (header.bytes ++ (options ++ message)).take 56 = header.bytes ++ options := by
  rw [← List.append_assoc, List.take_left' (by rw [List.length_append, wholeArea]; rfl)]

theorem drop_datagram : (header.bytes ++ (options ++ message)).drop 56 = message := by
  rw [← List.append_assoc, List.drop_left' (by rw [List.length_append, wholeArea]; rfl)]

include isLong

theorem optionsArea_datagram : optionsArea (header.bytes ++ (options ++ message)) = options := by
  rw [optionsArea, headerLength_datagram header isLong, take_datagram header wholeArea,
    List.drop_left' header.length_bytes]

theorem mapOptionsRaw_datagram {writer : Ipv4Writer} (writes : writer.WritesRfc791) (change : Bytes → Bytes)
    (keepsSize : ∀ slice, (change slice).length = slice.length) :
    writer.mapOptionsRaw (header.bytes ++ (options ++ message)) change =
      header.bytes ++ (change options ++ message) := by
  have inside : 56 ≤ (header.bytes ++ (options ++ message)).length := by
    simp only [List.length_append, header.length_bytes, wholeArea]
    omega
  have length := headerLength_datagram header isLong (options ++ message)
  rw [writes.mapOptionsRaw _ _ (by omega) (by omega) keepsSize, length, optionsArea_datagram header isLong wholeArea,
    drop_datagram header wholeArea, List.take_left' header.length_bytes, List.append_assoc]

end

/-- The options area of the request. -/
def requestArea (threeTimestamps : Bool) (time : UInt32) (source dest : Ipv4Addr) : Bytes :=
  timestampOption (UInt8.ofNat (optionLen threeTimestamps)) 13 (requestSlots threeTimestamps time source dest) ++
    optionPadding threeTimestamps

theorem length_requestArea (threeTimestamps : Bool) (time : UInt32) (source dest : Ipv4Addr) :
    (requestArea threeTimestamps time source dest).length = 36 := by
  rw [requestArea, ← writeOptions_eq, length_writeOptions, List.length_replicate]

theorem buildIpv4PacketWithTimestamp_eq {crate : ClockdiffCrate} (follows : crate.FollowsRfcs)
    (getTimestamp : UInt32) (options : ClockdiffConfig) (seq identifier : UInt16) (source dest : Ipv4Addr) :
    let three := options.threeTimestamps
    let area := requestArea three getTimestamp source dest
    let unsummed := (requestHeader three 0 source dest).bytes ++ (area ++ Ping.echoBytes 0 0 0 0 (echoBody three))
    let echo := fun checksum => Ping.echoBytes IcmpTypes.EchoRequest checksum identifier seq (echoBody three)
    buildIpv4PacketWithTimestamp crate getTimestamp options seq identifier source dest = some (
      (requestHeader three (crate.ipv4Checksum unsummed) source dest).bytes ++
        (area ++ echo (crate.checksum (echo 0) 1))) := by
  intro three area unsummed echo
  have writes := follows.toCrate.echoRequest
  have fresh : List.replicate (IPV4_HEADER_LEN + optionLen three + ICMP_HEADER_LEN + TIMESTAMP_LEN) 0 =
      ({} : Ipv4Header).bytes ++ (List.replicate 36 0 ++ Ping.echoBytes 0 0 0 0 (echoBody three)) := by
    cases three <;> rfl
  have new : ∀ rest, crate.ipv4Writer.new (({} : Ipv4Header).bytes ++ rest) = true := fun rest =>
    (follows.toCrate.ipv4Writer.new _).trans (decide_eq_true (Ipv4Header.length_append ..))
  have code : ∀ checksum body, crate.setEchoIcmpCode (Ping.echoBytes IcmpTypes.EchoRequest checksum 0 0 body) 0 =
      Ping.echoBytes IcmpTypes.EchoRequest checksum 0 0 body := fun checksum body => by
    rw [follows.setEchoIcmpCode _ _ (by rw [Ping.length_echoBytes]; omega)]
    rfl
  have whole : area.length = 36 := length_requestArea ..
  have chosen : (if options.threeTimestamps = true then OPTIONS_LEN_THREE else OPTIONS_LEN) = optionLen three := rfl
  have first : UInt8.ofNat ((UInt8.ofNat ((4 : UInt8).toNat * 16 + (0 : UInt8).toNat % 16)).toNat / 16 * 16 +
      (UInt8.ofNat (IPV4_HEADER_LEN + OPTIONS_LEN) / 4).toNat) = 0x4E := by decide
  have header : Ipv4Header.mk 0x4E
      (UInt16.ofNat (IPV4_HEADER_LEN + optionLen three + ICMP_HEADER_LEN + TIMESTAMP_LEN)) 64
      IpNextHeaderProtocols.Icmp 0 source dest = requestHeader three 0 source dest := rfl
  have summed : ∀ old new, ({ requestHeader three old source dest with checksum := new } : Ipv4Header) =
      requestHeader three new source dest := fun _ _ => rfl
  have zeros : (List.replicate 36 (0 : UInt8)).length = 36 := List.length_replicate ..
  have mapped := mapOptionsRaw_datagram (requestHeader three 0 source dest) rfl zeros
    (Ping.echoBytes 0 0 0 0 (echoBody three)) follows.toCrate.ipv4Writer
    (writeOptions (optionLen three) getTimestamp source dest) (fun _ => length_writeOptions ..)
  rw [writeOptions_eq] at mapped
  change _ = _ ++ (area ++ _) at mapped
  -- the header and its checksum first, then the message behind it
  simp only [buildIpv4PacketWithTimestamp, chosen, fresh, new, if_true,
    Ipv4Header.setVersion_bytes follows _ _ 4 (by decide),
    Ipv4Header.setHeaderLength_bytes follows _ _ (UInt8.ofNat (IPV4_HEADER_LEN + OPTIONS_LEN) / 4) (by decide),
    Ipv4Header.setTotalLength_bytes follows, Ipv4Header.setTtl_bytes follows,
    Ipv4Header.setNextLevelProtocol_bytes follows, Ipv4Header.setSource_bytes follows,
    Ipv4Header.setDestination_bytes follows, first, header, mapped, Ipv4Header.setIpv4Checksum_bytes follows, summed]
  simp only [IPV4_HEADER_LEN, OPTIONS_LEN, Nat.reduceAdd, take_datagram _ whole, drop_datagram _ whole,
    Ping.new_echoBytes writes, if_true, Ping.setIcmpType_echoBytes writes, code, Ping.setIdentifier_echoBytes writes,
    Ping.setSequenceNumber_echoBytes writes, Ping.setChecksum_echoBytes writes, List.append_assoc]
  rfl

/-! ## What the parsers read -/

/-- The hosts that are still listed enter their times one after the other. -/
theorem foldl_stampOption (length : UInt8) (times : List UInt32) :
    ∀ (pointer : UInt8) (slots later : List (Ipv4Addr × UInt32)), pointer.toNat = 5 + 8 * slots.length →
      later.length = times.length → pointer.toNat + 8 * times.length < 256 →
      times.foldl stampOption (timestampOption length pointer (slots ++ later)) =
        timestampOption length (UInt8.ofNat (pointer.toNat + 8 * times.length))
          (slots ++ (later.map Prod.fst).zip times) := by
  induction times with
  | nil =>
    intro pointer slots later _ none _
    rw [List.length_eq_zero_iff.mp none, List.foldl_nil, List.length_nil, Nat.mul_zero, Nat.add_zero,
      UInt8.ofNat_toNat]
    rfl
  | cons time times inductionHypothesis =>
    intro pointer slots later isNext sameCount fits
    rw [List.length_cons] at sameCount fits
    cases later with
    | nil => cases sameCount
    | cons slot later =>
      have below : pointer.toNat + 8 < 256 := by omega
      have moved : (UInt8.ofNat (pointer.toNat + 8)).toNat = pointer.toNat + 8 := UInt8.toNat_ofNat_of_lt below
      have rest := inductionHypothesis (UInt8.ofNat (pointer.toNat + 8)) (slots ++ [(slot.1, time)]) later
        (by rw [moved, List.length_append, isNext]; rfl) (Nat.succ.inj sameCount) (by omega)
      rw [List.foldl_cons, stampOption_timestampOption length pointer slots slot.1 slot.2 time later isNext,
        List.append_cons, rest, moved, List.length_cons, List.append_assoc]
      have end_eq : pointer.toNat + 8 + 8 * times.length = pointer.toNat + 8 * (times.length + 1) := by omega
      rw [end_eq]
      rfl

section

variable (length pointer : UInt8) (behind : Bytes)

theorem parseTimestampOption_three (first second third : Ipv4Addr × UInt32) :
    parseTimestampOption true (timestampOption length pointer [first, second, third] ++ behind) =
      .ok ⟨first.2.toNat, second.2.toNat, second.2.toNat, third.2.toNat⟩ := by
  let body := slotBytes [first, second, third] ++ behind
  have long : 24 ≤ body.length := by
    rw [List.length_append, length_slotBytes]
    exact Nat.le_add_right 24 behind.length
  have whole : timestampOption length pointer [first, second, third] ++ behind =
    IPOPT_TIMESTAMP :: length :: pointer :: 3 :: body := rfl
  have readFirst : u32At body 4 = first.2.toNat := u32At_slotBytes [] first.1 first.2 _ behind 4 rfl
  have readSecond : u32At body 12 = second.2.toNat := u32At_slotBytes [first] second.1 second.2 _ behind 12 rfl
  have readThird : u32At body 20 = third.2.toNat := u32At_slotBytes [first, second] third.1 third.2 _ behind 20 rfl
  have flag : (byteAt (IPOPT_TIMESTAMP :: length :: pointer :: 3 :: body) 3).toNat % 16 = 3 := rfl
  rw [whole, parseTimestampOption, if_neg (by simp only [List.length_cons]; omega), flag]
  simp only [ne_eq, not_true_eq_false, if_false, if_true, List.drop_succ_cons, List.drop_zero]
  rw [if_neg (by omega), readFirst, readSecond, readThird]

theorem parseTimestampOption_four (first second third fourth : Ipv4Addr × UInt32) :
    parseTimestampOption false (timestampOption length pointer [first, second, third, fourth] ++ behind) =
      .ok ⟨first.2.toNat, second.2.toNat, third.2.toNat, fourth.2.toNat⟩ := by
  let body := slotBytes [first, second, third, fourth] ++ behind
  have long : 32 ≤ body.length := by
    rw [List.length_append, length_slotBytes]
    exact Nat.le_add_right 32 behind.length
  have whole : timestampOption length pointer [first, second, third, fourth] ++ behind =
    IPOPT_TIMESTAMP :: length :: pointer :: 3 :: body := rfl
  have readFirst : u32At body 4 = first.2.toNat := u32At_slotBytes [] first.1 first.2 _ behind 4 rfl
  have readSecond : u32At body 12 = second.2.toNat := u32At_slotBytes [first] second.1 second.2 _ behind 12 rfl
  have readThird : u32At body 20 = third.2.toNat := u32At_slotBytes [first, second] third.1 third.2 _ behind 20 rfl
  have readFourth : u32At body 28 = fourth.2.toNat :=
    u32At_slotBytes [first, second, third] fourth.1 fourth.2 _ behind 28 rfl
  have flag : (byteAt (IPOPT_TIMESTAMP :: length :: pointer :: 3 :: body) 3).toNat % 16 = 3 := rfl
  rw [whole, parseTimestampOption, if_neg (by simp only [List.length_cons]; omega), flag]
  simp only [ne_eq, not_true_eq_false, if_false, List.drop_succ_cons, List.drop_zero, Bool.false_eq_true]
  rw [if_neg (by omega), readFirst, readSecond, readThird, readFourth]

/-! The option of a request, once the hosts have entered their times behind the one that it carries. -/

variable (sent : UInt32) (source dest : Ipv4Addr)

theorem parseTimestampOption_requestThree (second third : UInt32) :
    parseTimestampOption true
        ([second, third].foldl stampOption (timestampOption length 13 (requestSlots true sent source dest)) ++ behind) =
      .ok ⟨sent.toNat, second.toNat, second.toNat, third.toNat⟩ := by
  have slots : requestSlots true sent source dest = [(source, sent)] ++ [(dest, 0), (source, 0)] := rfl
  have stamped := foldl_stampOption length [second, third] 13 [(source, sent)] [(dest, 0), (source, 0)] rfl rfl
    (show 13 + 8 * 2 < 256 by decide)
  rw [slots, stamped]
  exact parseTimestampOption_three ..

theorem parseTimestampOption_requestFour (second third fourth : UInt32) :
    parseTimestampOption false
        ([second, third, fourth].foldl stampOption (timestampOption length 13 (requestSlots false sent source dest)) ++
          behind) =
      .ok ⟨sent.toNat, second.toNat, third.toNat, fourth.toNat⟩ := by
  have slots : requestSlots false sent source dest = [(source, sent)] ++ [(dest, 0), (dest, 0), (source, 0)] := rfl
  have stamped := foldl_stampOption length [second, third, fourth] 13 [(source, sent)]
    [(dest, 0), (dest, 0), (source, 0)] rfl rfl (show 13 + 8 * 3 < 256 by decide)
  rw [slots, stamped]
  exact parseTimestampOption_four ..

end

/-- The times at the three places of a timestamp message. -/
theorem parseTimestamps_timestampReply (now : UInt32) (id seq : UInt16) (sent : UInt32) (requested checksum : UInt16)
    (received transmitted : UInt32) :
    parseTimestamps now ((timestampReply (icmpBytes IcmpTypes.Timestamp 0 requested (timestampPayload id seq sent))
        checksum received transmitted).drop 4) =
      .ok ⟨sent.toNat, received.toNat, transmitted.toNat, now.toNat⟩ := by
  let echoed := beBytes16 id ++ beBytes16 seq
  have payload : (timestampReply (icmpBytes IcmpTypes.Timestamp 0 requested (timestampPayload id seq sent))
      checksum received transmitted).drop 4 =
      echoed ++ (beBytes32 sent ++ (beBytes32 received ++ beBytes32 transmitted)) := rfl
  have readSent : u32At (echoed ++ (beBytes32 sent ++ (beBytes32 received ++ beBytes32 transmitted))) 4 =
    sent.toNat := (u32At_append_right echoed _ 0).trans (u32At_beBytes32 ..)
  have readReceived : u32At (echoed ++ (beBytes32 sent ++ (beBytes32 received ++ beBytes32 transmitted))) 8 =
    received.toNat := (u32At_append_right (echoed ++ beBytes32 sent) _ 0).trans (u32At_beBytes32 ..)
  have readTransmitted : u32At (echoed ++ (beBytes32 sent ++ (beBytes32 received ++ beBytes32 transmitted))) 12 =
      transmitted.toNat := by
    have read := u32At_append_right (echoed ++ (beBytes32 sent ++ beBytes32 received)) (beBytes32 transmitted ++ []) 0
    rw [u32At_beBytes32] at read
    exact read
  have size : (echoed ++ (beBytes32 sent ++ (beBytes32 received ++ beBytes32 transmitted))).length = 16 := rfl
  rw [payload, parseTimestamps, size, readSent, readReceived, readTransmitted]
  rfl

/-! ## The two round trips -/

/-- The times that the option carries. -/
def terms (threeTimestamps : Bool) : Nat := if threeTimestamps then 3 else 4

theorem optionLen_eq (three : Bool) : optionLen three = 4 + 8 * terms three := by
  cases three <;> rfl

theorem optionLen_lt (three : Bool) : optionLen three < 256 := by
  cases three <;> decide

theorem length_requestOption (three : Bool) (time : UInt32) (source dest : Ipv4Addr) (length pointer : UInt8) :
    (timestampOption length pointer (requestSlots three time source dest)).length = 4 + 8 * terms three := by
  have size : (timestampOption length pointer (requestSlots three time source dest)).length =
      (slotBytes (requestSlots three time source dest)).length + 4 := rfl
  rw [size, length_slotBytes, Nat.add_comm]
  cases three <;> rfl

theorem totalLength_request (three : Bool) (checksum : UInt16) (source dest : Ipv4Addr) (area : Bytes)
    (wholeArea : area.length = 36) (icmpType : UInt8) (sum identifier seq : UInt16) :
    let datagram := (requestHeader three checksum source dest).bytes ++
      (area ++ Ping.echoBytes icmpType sum identifier seq (echoBody three))
    totalLength datagram = datagram.length := by
  intro datagram
  have size : datagram.length = 64 + (echoBody three).length := by
    simp only [datagram, List.length_append, Ipv4Header.length_bytes, wholeArea, Ping.length_echoBytes]
    omega
  have written : totalLength datagram = (requestHeader three checksum source dest).totalLength.toNat :=
    congrArg UInt16.toNat (be16_beBytes16 _)
  rw [size, written]
  cases three <;> rfl

/-- The header as it is sent sums to all ones: its length covers the area, and the checksum field is its sixth
word. -/
theorem onesSum_requestHeader {crate : ClockdiffCrate} (follows : crate.FollowsRfcs) (three : Bool) (sent : UInt32)
    (source dest : Ipv4Addr) (body : Bytes) :
    let area := requestArea three sent source dest
    onesSum (words ((requestHeader three
      (crate.ipv4Checksum ((requestHeader three 0 source dest).bytes ++ (area ++ body))) source dest).bytes ++
        area)) = 0xFFFF := by
  intro area
  let unsummed := (requestHeader three 0 source dest).bytes ++ (area ++ body)
  have whole : area.length = 36 := length_requestArea ..
  have length : headerLength unsummed = 56 := headerLength_datagram _ rfl _
  have inside : 56 ≤ unsummed.length := by
    simp only [unsummed, List.length_append, Ipv4Header.length_bytes, whole]
    omega
  have complements := follows.ipv4Checksum unsummed (by omega) (by omega)
  rw [length, take_datagram _ whole] at complements
  let front : Bytes := 0x4E :: 0 :: (beBytes16 (requestHeader three 0 source dest).totalLength ++
    [0, 0, 0, 0, 64, 1])
  have split : ∀ checksum, (requestHeader three checksum source dest).bytes ++ area =
    front ++ (beBytes16 checksum ++ (source.octets ++ dest.octets ++ area)) := fun _ => rfl
  rw [split] at complements ⊢
  exact onesSum_words_checksum (show front.length = 2 * 5 from rfl) _ 0 _ complements

/-- What the two builders promise: datagrams whose lengths, header and checksums are right, and from which
the parsers read the time at the source and what the hosts have entered. -/
theorem requests_readBack (crate : ClockdiffCrate) (follows : crate.FollowsRfcs) (sent : UInt32)
    (source dest : Ipv4Addr) (identifier seq : UInt16) :
    (∃ datagram, buildIcmpTimestampPacket crate sent source dest identifier seq = .ok datagram ∧
      datagram.length = 40 ∧ onesSum (words (datagram.drop 20)) = 0xFFFF ∧
      ∀ checksum received transmitted now,
        parseTimestamps now (crate.icmp.payload (timestampReply (datagram.drop 20) checksum received transmitted)) =
          .ok ⟨sent.toNat, received.toNat, transmitted.toNat, now.toNat⟩) ∧
    ∀ options : ClockdiffConfig, ∃ datagram option behind,
      buildIpv4PacketWithTimestamp crate sent options seq identifier source dest = some datagram ∧
      -- where the header says that the message starts, there is the echo request
      (∃ checksum body, datagram.drop (headerLength datagram) =
        Ping.echoBytes IcmpTypes.EchoRequest checksum identifier seq body) ∧
      totalLength datagram = datagram.length ∧
      onesSum (words (datagram.take (headerLength datagram))) = 0xFFFF ∧
      onesSum (words (datagram.drop (headerLength datagram))) = 0xFFFF ∧
      optionsArea datagram = option ++ behind ∧
      option.length = 4 + 8 * terms options.threeTimestamps ∧ byteAt option 0 = IPOPT_TIMESTAMP ∧
      (byteAt option 1).toNat = 4 + 8 * terms options.threeTimestamps ∧
      -- one-based: the head is four bytes, a slot eight
      byteAt option 2 = 13 ∧
      (options.threeTimestamps = true → ∀ second third behind,
        parseTimestampOption true ([second, third].foldl stampOption option ++ behind) =
          .ok ⟨sent.toNat, second.toNat, second.toNat, third.toNat⟩) ∧
      (options.threeTimestamps = false → ∀ second third fourth behind,
        parseTimestampOption false ([second, third, fourth].foldl stampOption option ++ behind) =
          .ok ⟨sent.toNat, second.toNat, third.toNat, fourth.toNat⟩) := by
  -- the timestamp message first, then the echo request with the option
  refine ⟨?_, fun options => ?_⟩
  · let payload := timestampPayload identifier seq sent
    let checksum := crate.checksum (icmpBytes IcmpTypes.Timestamp 0 0 payload) 1
    let datagram := (timestampHeader source dest).bytes ++ icmpBytes IcmpTypes.Timestamp 0 checksum payload
    have message : datagram.drop 20 = icmpBytes IcmpTypes.Timestamp 0 checksum payload :=
      List.drop_left' (Ipv4Header.length_bytes _)
    refine ⟨datagram, buildIcmpTimestampPacket_eq follows .., rfl, ?_, fun answered received transmitted now => ?_⟩
    · rw [message]
      exact onesSum_icmpBytes follows.toCrate.checksum _ _ payload (by rw [length_timestampPayload]; omega)
    · rw [message, follows.icmpPayload _ (by rw [length_timestampReply]; omega)]
      exact parseTimestamps_timestampReply ..
  · let three := options.threeTimestamps
    let area := requestArea three sent source dest
    let unsummed := (requestHeader three 0 source dest).bytes ++ (area ++ Ping.echoBytes 0 0 0 0 (echoBody three))
    let echo := fun checksum => Ping.echoBytes IcmpTypes.EchoRequest checksum identifier seq (echoBody three)
    let header := requestHeader three (crate.ipv4Checksum unsummed) source dest
    let message := echo (crate.checksum (echo 0) 1)
    let option := timestampOption (UInt8.ofNat (optionLen three)) 13 (requestSlots three sent source dest)
    -- everything is read off the layout: header, options area, message
    have whole : area.length = 36 := length_requestArea ..
    have length : headerLength (header.bytes ++ (area ++ message)) = 56 := headerLength_datagram header rfl _
    refine ⟨header.bytes ++ (area ++ message), option, optionPadding three, buildIpv4PacketWithTimestamp_eq follows ..,
      ?_⟩
    rw [length, drop_datagram header whole, take_datagram header whole, optionsArea_datagram header rfl whole]
    refine ⟨⟨_, _, rfl⟩, ?_, onesSum_requestHeader follows three sent source dest _, ?_, rfl, ?_, rfl, ?_, rfl, ?_, ?_⟩
    · exact totalLength_request three _ source dest area whole ..
    · exact onesSum_icmpBytes follows.toCrate.checksum _ 0
        (beBytes16 identifier ++ beBytes16 seq ++ echoBody three)
        (by cases three <;> simp [echoBody])
    · exact length_requestOption ..
    · exact (UInt8.toNat_ofNat_of_lt (optionLen_lt three)).trans (optionLen_eq three)
    · intro isThree second third behind
      simp only [option, three, isThree]
      exact parseTimestampOption_requestThree ..
    · intro isFour second third fourth behind
      simp only [option, three, isFour]
      exact parseTimestampOption_requestFour ..

theorem requests_readBack_rfcs :
    ∃ datagram, buildIcmpTimestampPacket .rfcs 1000 ⟨10, 0, 0, 1⟩ ⟨10, 0, 0, 2⟩ 7 1 = .ok datagram ∧
      datagram.length = 40 ∧ onesSum (words (datagram.drop 20)) = 0xFFFF := by
  obtain ⟨datagram, built, size, sum, _⟩ :=
    (requests_readBack .rfcs ClockdiffCrate.rfcs_follows 1000 ⟨10, 0, 0, 1⟩ ⟨10, 0, 0, 2⟩ 7 1).1
  exact ⟨datagram, built, size, sum⟩

end Utiputils.Clockdiff
