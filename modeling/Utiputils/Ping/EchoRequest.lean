import Utiputils.Ping.Types

/-! # Echo requests

`IcmpEchoRequest` of `ping_common.rs`: the payload that `new` fills and the three packet builders. Each
builder is shown to write the message that RFC 792 describes (`echoMessage`), whose words add up to
`0xFFFF` whatever the body. A builder returns `none` where the source panics. -/

namespace Utiputils.Ping

open Utiputils.Lib Utiputils.Pnet

def IPOPT_TIMESTAMP : UInt8 := 0x44
def TIMESTAMP_OPTION_LEN : Nat := 40
def IPV4_HEADER_LEN : Nat := 20

/-! ## The payload -/

/-- The native layout of the integers that the timestamp prefix holds, on a 64-bit target. -/
structure Platform where
  timeval : (secs usecs : Nat) → Vector UInt8 16
  u32NeBytes : UInt32 → Vector UInt8 4

/-- The system clock as seconds and microseconds since the epoch; `none` when it is before the epoch. -/
abbrev SystemTime := Option (Nat × Nat)

/-- The rewritten payload and the length of its prefix. -/
def fillPingTimevalPrefix (platform : Platform) (now : SystemTime) (payload : Bytes) : Bytes × Nat :=
  if payload.isEmpty then (payload, 0)
  else match now with
    | none => (payload, 0)
    | some (secs, usecs) =>
      let tvBytes := (platform.timeval secs usecs).toList
      let tvSize := tvBytes.length
      if tvSize ≤ payload.length then (overwrite payload 0 tvBytes, tvSize)
      else if 8 ≤ payload.length then
        let payload := overwrite payload 0 (platform.u32NeBytes (UInt32.ofNat secs)).toList
        (overwrite payload 4 (platform.u32NeBytes (UInt32.ofNat usecs)).toList, 8)
      else
        let secBytes := (platform.u32NeBytes (UInt32.ofNat secs)).toList
        let n := min payload.length secBytes.length
        (overwrite payload 0 (secBytes.take n), n)

structure IcmpEchoRequest where
  sequence : UInt16
  identifier : UInt16
  payload : Bytes
  deriving DecidableEq, Repr

namespace IcmpEchoRequest

def new (platform : Platform) (now : SystemTime) (sequence identifier : UInt16) (size : Nat) :
    IcmpEchoRequest :=
  let (payload, prefixLen) := fillPingTimevalPrefix platform now (List.replicate size 0)
  { sequence, identifier,
    payload := payload.mapIdx fun i item =>
      if prefixLen ≤ i then 0x10 + UInt8.ofNat (i - prefixLen) else item }

/-! ## The builders -/

def buildPacket (crate : Crate) (self : IcmpEchoRequest) (pgConfig : PingConfig) : Option Bytes :=
  let buffer := List.replicate (8 + self.payload.length) 0
  if crate.echoRequest.new buffer then
    let packet := crate.echoRequest.setIcmpType buffer IcmpTypes.EchoRequest
    let packet := crate.echoRequest.setSequenceNumber packet self.sequence
    let packet := crate.echoRequest.setIdentifier packet self.identifier
    let packet := crate.echoRequest.setPayload packet self.payload
    let packet :=
      if pgConfig.pattern.isEmpty then packet
      else crate.echoRequest.mapPayload packet fun data =>
        data.mapIdx fun i _ => byteAt pgConfig.pattern (i % pgConfig.pattern.length)
    let checksum := crate.checksum packet 1
    some (crate.echoRequest.setChecksum packet checksum)
  else none

/-- The first part of `build_packet_with_timestamp`: the IP header and its timestamp option. -/
def writeIpHeader (crate : Crate) (pgConfig : PingConfig) (totalLen : Nat) (buffer : Bytes) : Bytes :=
  let ipPacket := crate.ipv4Writer.setVersion buffer 4
  let ipPacket := crate.ipv4Writer.setHeaderLength ipPacket
    (UInt8.ofNat (IPV4_HEADER_LEN + TIMESTAMP_OPTION_LEN) / 4)
  let ipPacket := crate.ipv4Writer.setTotalLength ipPacket (UInt16.ofNat totalLen)
  let ipPacket := crate.ipv4Writer.setTtl ipPacket (UInt8.ofNat pgConfig.ttl.toNat)
  let ipPacket := crate.ipv4Writer.setNextLevelProtocol ipPacket IpNextHeaderProtocols.Icmp
  crate.ipv4Writer.mapOptionsRaw ipPacket fun options =>
    let options := options.set 0 IPOPT_TIMESTAMP
    let options := options.set 1 (UInt8.ofNat TIMESTAMP_OPTION_LEN)
    let options := options.set 2 5
    let options := options.set 3 (match pgConfig.timestamp with
      | "tsonly" => 0
      | "tsandaddr" => 1
      | "tsprespec" => 3
      | _ => 0)
    if pgConfig.timestamp = "tsonly" then
      options.mapIdx fun i item => if 4 ≤ i ∧ i < TIMESTAMP_OPTION_LEN then 0 else item
    else options

def buildPacketWithTimestamp (crate : Crate) (self : IcmpEchoRequest) (pgConfig : PingConfig) :
    Option Bytes :=
  let totalLen := IPV4_HEADER_LEN + TIMESTAMP_OPTION_LEN + 8 + self.payload.length
  let buffer := List.replicate totalLen 0
  if crate.ipv4Writer.new buffer then
    let buffer := writeIpHeader crate pgConfig totalLen buffer
    -- the message is written through a view of the buffer behind header and options
    let icmpStart := IPV4_HEADER_LEN + TIMESTAMP_OPTION_LEN
    let icmpBuffer := buffer.drop icmpStart
    if crate.echoRequest.new icmpBuffer then
      let icmpPacket := crate.echoRequest.setIcmpType icmpBuffer IcmpTypes.EchoRequest
      let icmpPacket := crate.echoRequest.setSequenceNumber icmpPacket self.sequence
      let icmpPacket := crate.echoRequest.setIdentifier icmpPacket self.identifier
      let icmpPacket := crate.echoRequest.setPayload icmpPacket self.payload
      let icmpPacket :=
        if pgConfig.pattern.isEmpty then icmpPacket
        else crate.echoRequest.mapPayload icmpPacket fun data =>
          data.mapIdx fun i _ => byteAt pgConfig.pattern (i % pgConfig.pattern.length)
      let icmpChecksum := crate.checksum icmpPacket 1
      some (buffer.take icmpStart ++ crate.echoRequest.setChecksum icmpPacket icmpChecksum)
    else none
  else none

def buildPacketV6 (crate : Crate) (self : IcmpEchoRequest) (pgConfig : PingConfig) : Option Bytes :=
  let buffer := List.replicate (8 + self.payload.length) 0
  if crate.echoRequestV6.new buffer then
    let packet := crate.echoRequestV6.setIcmpType buffer Icmpv6Types.EchoRequest
    let packet := crate.echoRequestV6.setIdentifier packet self.identifier
    let packet := crate.echoRequestV6.setSequenceNumber packet self.sequence
    let packet := crate.echoRequestV6.setPayload packet self.payload
    let packet :=
      if pgConfig.pattern.isEmpty then packet
      else crate.echoRequestV6.mapPayload packet fun data =>
        data.mapIdx fun i _ => byteAt pgConfig.pattern (i % pgConfig.pattern.length)
    let checksum := crate.checksum packet 1
    some (crate.echoRequestV6.setChecksum packet checksum)
  else none

end IcmpEchoRequest

/-! ## The message of RFC 792 -/

/-- The eight header bytes of an echo message, with a given checksum field, and its body. -/
def echoBytes (icmpType : UInt8) (checksum identifier sequence : UInt16) (body : Bytes) : Bytes :=
  icmpType :: 0 :: (beBytes16 checksum ++ beBytes16 identifier ++ beBytes16 sequence ++ body)

/-- The echo message whose checksum field is that of RFC 1071. -/
def echoMessage (icmpType : UInt8) (identifier sequence : UInt16) (body : Bytes) : Bytes :=
  echoBytes icmpType (checksumRfc1071 (echoBytes icmpType 0 identifier sequence body) 1) identifier
    sequence body

section EchoBytes

variable (icmpType : UInt8) (checksum identifier sequence : UInt16) (body : Bytes)

@[simp] theorem length_echoBytes :
    (echoBytes icmpType checksum identifier sequence body).length = 8 + body.length := by
  simp only [echoBytes, beBytes16, List.length_cons, List.length_append, List.length_nil]
  omega

/-- Everything behind the checksum field. -/
theorem drop_four_echoBytes : (echoBytes icmpType checksum identifier sequence body).drop 4 =
    beBytes16 identifier ++ beBytes16 sequence ++ body := by
  simp [echoBytes, beBytes16]

theorem u16At_identifier :
    u16At (echoBytes icmpType checksum identifier sequence body) 4 = identifier :=
  be16_beBytes16 identifier

theorem u16At_sequence :
    u16At (echoBytes icmpType checksum identifier sequence body) 6 = sequence :=
  be16_beBytes16 sequence

theorem byteAt_body (offset : Nat) :
    byteAt (echoBytes icmpType checksum identifier sequence body) (8 + offset) = byteAt body offset := by
  rw [Nat.add_comm]
  rfl

theorem words_echoBytes : words (echoBytes icmpType checksum identifier sequence body) =
    icmpType.toNat * 256 :: checksum.toNat ::
      words (beBytes16 identifier ++ beBytes16 sequence ++ body) := by
  have bound := checksum.toNat_lt
  have split : (UInt8.ofNat (checksum.toNat / 256)).toNat * 256 +
      (UInt8.ofNat (checksum.toNat % 256)).toNat = checksum.toNat := by
    rw [UInt8.toNat_ofNat', UInt8.toNat_ofNat']
    omega
  simp only [echoBytes, beBytes16, List.cons_append, List.nil_append, words, split]
  simp

end EchoBytes

/-- The checksum law: the words of the finished message add up to `0xFFFF`. -/
theorem onesSum_echoMessage (icmpType : UInt8) (identifier sequence : UInt16) (body : Bytes) :
    onesSum (words (echoMessage icmpType identifier sequence body)) = 0xFFFF := by
  have field : (checksumRfc1071 (echoBytes icmpType 0 identifier sequence body) 1).toNat =
      65535 - onesSum ([icmpType.toNat * 256] ++ words (beBytes16 identifier ++ beBytes16 sequence ++ body)) := by
    rw [checksumRfc1071, words_echoBytes, UInt16.toNat_ofNat']
    simp only [List.eraseIdx_cons_succ, List.eraseIdx_cons_zero, List.cons_append, List.nil_append]
    omega
  rw [echoMessage, words_echoBytes, field]
  have typeBound := icmpType.toNat_lt
  refine onesSum_complement [icmpType.toNat * 256] _ ?_ (words_lt _)
  simp only [List.mem_singleton, forall_eq]
  omega

/-! ## The builders write that message -/

section Writer

variable {writer : EchoRequestWriter} (writes : writer.WritesRfc792) (icmpType : UInt8)
  (checksum identifier sequence : UInt16) (body : Bytes)
include writes

theorem new_echoBytes : writer.new (echoBytes icmpType checksum identifier sequence body) = true := by
  rw [writes.new, length_echoBytes]
  exact decide_eq_true (Nat.le_add_right 8 body.length)

theorem setIcmpType_echoBytes (value : UInt8) :
    writer.setIcmpType (echoBytes icmpType checksum identifier sequence body) value =
      echoBytes value checksum identifier sequence body := by
  rw [writes.setIcmpType _ _ (by simp)]
  rfl

theorem setChecksum_echoBytes (value : UInt16) :
    writer.setChecksum (echoBytes icmpType checksum identifier sequence body) value =
      echoBytes icmpType value identifier sequence body := by
  rw [writes.setChecksum _ _ (by simp)]
  rfl

theorem setIdentifier_echoBytes (value : UInt16) :
    writer.setIdentifier (echoBytes icmpType checksum identifier sequence body) value =
      echoBytes icmpType checksum value sequence body := by
  rw [writes.setIdentifier _ _ (by simp)]
  rfl

theorem setSequenceNumber_echoBytes (value : UInt16) :
    writer.setSequenceNumber (echoBytes icmpType checksum identifier sequence body) value =
      echoBytes icmpType checksum identifier value body := by
  rw [writes.setSequenceNumber _ _ (by simp)]
  rfl

theorem setPayload_echoBytes (payload : Bytes) (sameSize : body.length = payload.length) :
    writer.setPayload (echoBytes icmpType checksum identifier sequence body) payload =
      echoBytes icmpType checksum identifier sequence payload := by
  rw [writes.setPayload _ _ (by simp [sameSize]), overwrite, List.drop_eq_nil_of_le (by simp [sameSize]),
    List.append_nil]
  rfl

theorem mapPayload_echoBytes (change : Bytes → Bytes)
    (keepsSize : ∀ slice, (change slice).length = slice.length) :
    writer.mapPayload (echoBytes icmpType checksum identifier sequence body) change =
      echoBytes icmpType checksum identifier sequence (change body) := by
  rw [writes.mapPayload _ _ (by simp) keepsSize]
  rfl

end Writer

theorem replicate_eq_echoBytes (size : Nat) :
    List.replicate (8 + size) 0 = echoBytes 0 0 0 0 (List.replicate size 0) := by
  rw [Nat.add_comm]
  rfl

/-- The checksum utility agrees with RFC 1071 on every message that fits. -/
theorem checksum_eq {checksum : Bytes → Nat → UInt16} (complements : ChecksumRfc1071 checksum)
    (data : Bytes) (skipword : Nat) (nonempty : data ≠ []) (fits : data.length ≤ 65535) :
    checksum data skipword = checksumRfc1071 data skipword := by
  apply UInt16.toNat_inj.mp
  rw [complements data skipword nonempty fits, checksumRfc1071_complements data skipword nonempty fits]

namespace IcmpEchoRequest

/-- The body that the builders send: the pattern, repeated, if there is one. -/
def body (self : IcmpEchoRequest) (pgConfig : PingConfig) : Bytes :=
  if pgConfig.pattern.isEmpty then self.payload
  else self.payload.mapIdx fun i _ => byteAt pgConfig.pattern (i % pgConfig.pattern.length)

@[simp] theorem length_body (self : IcmpEchoRequest) (pgConfig : PingConfig) :
    (self.body pgConfig).length = self.payload.length := by
  unfold body
  split <;> simp

theorem byteAt_body (self : IcmpEchoRequest) (pgConfig : PingConfig) (j : Nat)
    (inside : j < self.payload.length) : byteAt (self.body pgConfig) j =
      if pgConfig.pattern = [] then byteAt self.payload j
      else byteAt pgConfig.pattern (j % pgConfig.pattern.length) := by
  simp only [body, List.isEmpty_iff]
  split
  · rfl
  · simp [byteAt, List.getD_eq_getElem?_getD, inside]

theorem patternPayload_echoBytes {writer : EchoRequestWriter} (writes : writer.WritesRfc792)
    (self : IcmpEchoRequest) (pgConfig : PingConfig) (icmpType : UInt8)
    (checksum identifier sequence : UInt16) :
    (if pgConfig.pattern.isEmpty then echoBytes icmpType checksum identifier sequence self.payload
      else writer.mapPayload (echoBytes icmpType checksum identifier sequence self.payload) fun data =>
        data.mapIdx fun i _ => byteAt pgConfig.pattern (i % pgConfig.pattern.length)) =
      echoBytes icmpType checksum identifier sequence (self.body pgConfig) := by
  rw [mapPayload_echoBytes writes _ _ _ _ _ _ (by simp), body]
  split <;> rfl

/-- An IPv4 header of which only the fields that the builder sets are not zero, and what follows it. -/
def ipBytes (first lengthHigh lengthLow ttl protocol : UInt8) (rest : Bytes) : Bytes :=
  [first, 0, lengthHigh, lengthLow, 0, 0, 0, 0, ttl, protocol, 0, 0, 0, 0, 0, 0, 0, 0, 0, 0] ++ rest

@[simp] theorem length_ipBytes (first lengthHigh lengthLow ttl protocol : UInt8) (rest : Bytes) :
    (ipBytes first lengthHigh lengthLow ttl protocol rest).length = 20 + rest.length := by
  rw [ipBytes, List.length_append]
  rfl

section Ipv4Writer

variable {writer : Ipv4Writer} (writes : writer.WritesRfc791) (first high low ttl protocol : UInt8) (rest : Bytes)
include writes

theorem setVersion_ipBytes :
    writer.setVersion (ipBytes 0 high low ttl protocol rest) 4 = ipBytes 0x40 high low ttl protocol rest := by
  rw [writes.setVersion _ _ (by simp) (by decide)]
  rfl

/-- A header of fifteen words: twenty bytes, and forty of options. -/
theorem setHeaderLength_ipBytes :
    writer.setHeaderLength (ipBytes 0x40 high low ttl protocol rest)
      (UInt8.ofNat (IPV4_HEADER_LEN + TIMESTAMP_OPTION_LEN) / 4) = ipBytes 0x4F high low ttl protocol rest := by
  have firstByte : UInt8.ofNat ((byteAt (ipBytes 0x40 high low ttl protocol rest) 0).toNat / 16 * 16 +
      (UInt8.ofNat (IPV4_HEADER_LEN + TIMESTAMP_OPTION_LEN) / 4).toNat) = 0x4F := by
    change UInt8.ofNat ((0x40 : UInt8).toNat / 16 * 16 + _) = _
    decide
  rw [writes.setHeaderLength _ _ (by simp) (by decide), firstByte]
  rfl

theorem setTotalLength_ipBytes (length : UInt16) :
    writer.setTotalLength (ipBytes first high low ttl protocol rest) length =
      ipBytes first (UInt8.ofNat (length.toNat / 256)) (UInt8.ofNat (length.toNat % 256)) ttl protocol rest := by
  rw [writes.setTotalLength _ _ (by simp)]
  rfl

theorem setTtl_ipBytes (value : UInt8) :
    writer.setTtl (ipBytes first high low ttl protocol rest) value = ipBytes first high low value protocol rest := by
  rw [writes.setTtl _ _ (by simp)]
  rfl

theorem setNextLevelProtocol_ipBytes (value : UInt8) :
    writer.setNextLevelProtocol (ipBytes first high low ttl protocol rest) value =
      ipBytes first high low ttl value rest := by
  rw [writes.setNextLevelProtocol _ _ (by simp)]
  rfl

/-- The options are the forty bytes behind the fixed header. -/
theorem mapOptionsRaw_ipBytes (options : Bytes) (size : options.length = 40) (change : Bytes → Bytes)
    (keepsSize : ∀ slice, (change slice).length = slice.length) :
    writer.mapOptionsRaw (ipBytes 0x4F high low ttl protocol (options ++ rest)) change =
      ipBytes 0x4F high low ttl protocol (change options) ++ rest := by
  have header : headerLength (ipBytes 0x4F high low ttl protocol (options ++ rest)) = 60 := by
    change 4 * ((0x4F : UInt8).toNat % 16) = 60
    decide
  have inside : 60 ≤ (ipBytes 0x4F high low ttl protocol (options ++ rest)).length := by
    rw [length_ipBytes, List.length_append]
    omega
  have behind : (ipBytes 0x4F high low ttl protocol (options ++ rest)).drop 20 = options ++ rest := rfl
  have left : (ipBytes 0x4F high low ttl protocol (options ++ rest)).drop 60 = rest := by
    rw [show 60 = 20 + 40 from rfl, ← List.drop_drop, behind, List.drop_left' size]
  rw [writes.mapOptionsRaw _ _ (by omega) (header ▸ inside) keepsSize, optionsArea, header, List.drop_take, behind,
    List.take_left' size, left]
  rfl

end Ipv4Writer

/-- The writes to the header and its options stay within the first 60 bytes. -/
theorem writeIpHeader_eq {crate : Crate} (follows : crate.FollowsRfcs) (pgConfig : PingConfig)
    (size : Nat) : ∃ header : Bytes, header.length = 60 ∧
      writeIpHeader crate pgConfig (60 + 8 + size) (List.replicate (60 + 8 + size) 0) =
        header ++ List.replicate (8 + size) 0 := by
  have writes := follows.ipv4Writer
  have fresh : List.replicate (60 + 8 + size) 0 =
      ipBytes 0 0 0 0 0 (List.replicate 40 0 ++ List.replicate (8 + size) 0) := by
    rw [ipBytes, List.replicate_append_replicate, show 60 + 8 + size = 40 + (8 + size) + 20 by omega]
    rfl
  simp only [writeIpHeader, fresh, setVersion_ipBytes writes, setHeaderLength_ipBytes writes,
    setTotalLength_ipBytes writes, setTtl_ipBytes writes, setNextLevelProtocol_ipBytes writes]
  refine ⟨_, ?_, mapOptionsRaw_ipBytes writes _ _ _ _ _ _ List.length_replicate _ ?_⟩
  · rw [length_ipBytes]
    split <;> simp
  · intro slice
    split <;> simp

/-- The written message, whatever checksum the crate computes. -/
theorem buildPacket_bytes {crate : Crate} (follows : crate.FollowsRfcs) (self : IcmpEchoRequest)
    (pgConfig : PingConfig) : buildPacket crate self pgConfig =
      let unsummed := echoBytes IcmpTypes.EchoRequest 0 self.identifier self.sequence (self.body pgConfig)
      some (echoBytes IcmpTypes.EchoRequest (crate.checksum unsummed 1) self.identifier self.sequence
        (self.body pgConfig)) := by
  have writes := follows.echoRequest
  simp only [buildPacket, replicate_eq_echoBytes, new_echoBytes writes, if_true,
    setIcmpType_echoBytes writes, setSequenceNumber_echoBytes writes, setIdentifier_echoBytes writes,
    setPayload_echoBytes writes, List.length_replicate, patternPayload_echoBytes writes,
    setChecksum_echoBytes writes]

theorem buildPacketV6_bytes {crate : Crate} (follows : crate.FollowsRfcs) (self : IcmpEchoRequest)
    (pgConfig : PingConfig) : buildPacketV6 crate self pgConfig =
      let unsummed := echoBytes Icmpv6Types.EchoRequest 0 self.identifier self.sequence (self.body pgConfig)
      some (echoBytes Icmpv6Types.EchoRequest (crate.checksum unsummed 1) self.identifier self.sequence
        (self.body pgConfig)) := by
  have writes := follows.echoRequestV6
  simp only [buildPacketV6, replicate_eq_echoBytes, new_echoBytes writes, if_true,
    setIcmpType_echoBytes writes, setSequenceNumber_echoBytes writes, setIdentifier_echoBytes writes,
    setPayload_echoBytes writes, List.length_replicate, patternPayload_echoBytes writes,
    setChecksum_echoBytes writes]

section

variable {crate : Crate} (follows : crate.FollowsRfcs) (self : IcmpEchoRequest) (pgConfig : PingConfig)
  (fits : 8 + self.payload.length ≤ 65535)
include follows fits

theorem checksum_body (icmpType : UInt8) :
    crate.checksum (echoBytes icmpType 0 self.identifier self.sequence (self.body pgConfig)) 1 =
      checksumRfc1071 (echoBytes icmpType 0 self.identifier self.sequence (self.body pgConfig)) 1 :=
  checksum_eq follows.checksum _ _ (by simp [echoBytes]) (by simpa using fits)

theorem buildPacket_eq : buildPacket crate self pgConfig =
    some (echoMessage IcmpTypes.EchoRequest self.identifier self.sequence (self.body pgConfig)) := by
  simp only [buildPacket_bytes follows, checksum_body follows self pgConfig fits]
  rfl

theorem buildPacketV6_eq : buildPacketV6 crate self pgConfig =
    some (echoMessage Icmpv6Types.EchoRequest self.identifier self.sequence (self.body pgConfig)) := by
  simp only [buildPacketV6_bytes follows, checksum_body follows self pgConfig fits]
  rfl

/-- Whatever the header says, the message behind it is that of `build_packet`. -/
theorem buildPacketWithTimestamp_eq : ∃ header : Bytes, header.length = 60 ∧
    buildPacketWithTimestamp crate self pgConfig =
      some (header ++ echoMessage IcmpTypes.EchoRequest self.identifier self.sequence (self.body pgConfig)) := by
  have writes := follows.echoRequest
  obtain ⟨header, size, written⟩ := writeIpHeader_eq follows pgConfig self.payload.length
  have fresh : crate.ipv4Writer.new (List.replicate (60 + 8 + self.payload.length) 0) = true := by
    rw [follows.ipv4Writer.new, List.length_replicate]
    exact decide_eq_true (by omega)
  refine ⟨header, size, ?_⟩
  simp only [buildPacketWithTimestamp, IPV4_HEADER_LEN, TIMESTAMP_OPTION_LEN, Nat.reduceAdd, fresh, if_true,
    written, List.drop_left' size, List.take_left' size,
    replicate_eq_echoBytes, new_echoBytes writes, if_true,
    setIcmpType_echoBytes writes, setSequenceNumber_echoBytes writes, setIdentifier_echoBytes writes,
    setPayload_echoBytes writes, List.length_replicate, patternPayload_echoBytes writes,
    checksum_body follows self pgConfig fits, setChecksum_echoBytes writes]
  rfl

end

/-- The three builders on one request: `build_packet` writes the echo request of RFC 792 with the
pattern or the payload as its body and a checksum that completes its words to `0xFFFF`, `build_packet_v6`
differs from it in the type and the checksum only, and `build_packet_with_timestamp` puts the same message
behind 60 bytes of header and options. -/
theorem buildPacket_writesRfc792 (crate : Crate) (follows : crate.FollowsRfcs) (self : IcmpEchoRequest)
    (pgConfig : PingConfig) (fits : 20 + (8 + self.payload.length) ≤ 65535) :
    ∃ packet packetV6 datagram : Bytes,
      buildPacket crate self pgConfig = some packet ∧
      buildPacketV6 crate self pgConfig = some packetV6 ∧
      buildPacketWithTimestamp crate self pgConfig = some datagram ∧
      (packet.length = 8 + self.payload.length ∧ byteAt packet 0 = 8 ∧ byteAt packet 1 = 0 ∧
        u16At packet 4 = self.identifier ∧ u16At packet 6 = self.sequence ∧
        (∀ j < self.payload.length, byteAt packet (8 + j) =
          if pgConfig.pattern = [] then byteAt self.payload j
          else byteAt pgConfig.pattern (j % pgConfig.pattern.length)) ∧
        onesSum (words packet) = 0xFFFF) ∧
      (byteAt packetV6 0 = 128 ∧ packetV6.drop 4 = packet.drop 4 ∧ onesSum (words packetV6) = 0xFFFF) ∧
      datagram.drop 60 = packet := by
  have message : 8 + self.payload.length ≤ 65535 := by omega
  obtain ⟨header, size, withHeader⟩ := buildPacketWithTimestamp_eq follows self pgConfig message
  refine ⟨_, _, _, buildPacket_eq follows self pgConfig message, buildPacketV6_eq follows self pgConfig message,
    withHeader, ⟨?_, rfl, rfl, u16At_identifier .., u16At_sequence .., ?_, onesSum_echoMessage ..⟩,
    ⟨rfl, ?_, onesSum_echoMessage ..⟩, List.drop_left' size⟩
  · rw [echoMessage, length_echoBytes, length_body]
  · intro j inside
    rw [echoMessage, Ping.byteAt_body, self.byteAt_body pgConfig j inside]
  · rw [echoMessage, echoMessage, drop_four_echoBytes, drop_four_echoBytes]

/-- Three payload bytes and a pattern of two. -/
theorem buildPacket_writesRfc792_patterned :
    20 + (8 + (⟨0x0102, 0xBEEF, [1, 2, 3]⟩ : IcmpEchoRequest).payload.length) ≤ 65535 ∧
      ∃ packet, buildPacket .rfcs ⟨0x0102, 0xBEEF, [1, 2, 3]⟩ { pattern := [0xAB, 0xCD] } = some packet ∧
        packet = [8, 0, 0xE1, 0x3F, 0xBE, 0xEF, 1, 2, 0xAB, 0xCD, 0xAB] ∧ onesSum (words packet) = 0xFFFF := by
  obtain ⟨packet, _, _, built, -, -, ⟨-, -, -, -, -, -, sum⟩, -, -⟩ :=
    buildPacket_writesRfc792 .rfcs Crate.rfcs_follows ⟨0x0102, 0xBEEF, [1, 2, 3]⟩
      { pattern := [0xAB, 0xCD] } (by decide)
  refine ⟨by decide, packet, built, ?_, sum⟩
  have evaluated : buildPacket .rfcs ⟨0x0102, 0xBEEF, [1, 2, 3]⟩ { pattern := [0xAB, 0xCD] } =
      some [8, 0, 0xE1, 0x3F, 0xBE, 0xEF, 1, 2, 0xAB, 0xCD, 0xAB] := by decide +kernel
  exact Option.some.inj (built.symm.trans evaluated)

end IcmpEchoRequest

end Utiputils.Ping
