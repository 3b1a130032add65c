import Utiputils.Ping.Run

/-! # Node information queries

`run_nodeinfo_query`, the mode of `ping6_run` that sends ICMPv6 node information queries instead of echo
requests. -/

namespace Utiputils.Ping.Ping6Common

open Utiputils.Lib Utiputils.Pnet Proc

def ICMPV6_NI_QUERY : UInt8 := 139

/-! ## The packets -/

def qtypeOf (nodeinfoOpt : String) : UInt16 :=
  match nodeinfoOpt with
  | "name" => 2
  | "ipv6" | "ipv6-all" | "ipv6-compatible" | "ipv6-global" | "ipv6-linklocal" | "ipv6-sitelocal" => 0
  | "ipv4" | "ipv4-all" => 1
  | _ => 2

/-- The system clock in nanoseconds since the epoch fills the nonce; `none` where it is before the epoch and
the source panics. -/
def buildNodeinfoPacket (systemNanos : Option Nat) (nodeinfoOpt : String) : Option Bytes :=
  systemNanos.map fun nanos =>
    let packet := List.replicate 24 0
    let packet := overwrite packet 0 [ICMPV6_NI_QUERY, 0, 0, 0]
    let packet := overwrite packet 4 (beBytes16 (qtypeOf nodeinfoOpt))
    let packet := overwrite packet 6 (beBytes16 0)
    let packet := overwrite packet 8 (beBytes32 (UInt32.ofNat (nanos / 2 ^ 32)) ++ beBytes32 (UInt32.ofNat nanos))
    overwrite packet 16 (List.replicate 8 0)

/-- `data.chunks(16)`, as far as the chunks are whole addresses. -/
def ipv6Chunks (data : Bytes) : List Ipv6Addr :=
  (data.toChunks 16).filterMap fun chunk =>
    if whole : chunk.length = 16 then some ⟨⟨chunk.toArray, whole⟩⟩ else none

def ipv4Chunks (data : Bytes) : List Ipv4Addr :=
  (data.toChunks 4).filterMap fun
    | [a, b, c, d] => some ⟨a, b, c, d⟩
    | _ => none

def showIpv4 (addr : Ipv4Addr) : String := ".".intercalate (addr.octets.map fun octet => toString octet.toNat)

/-- `trim_end_matches` for the character zero. -/
def trimEndZeros (name : String) : String :=
  String.ofList (name.toList.reverse.dropWhile (· = Char.ofNat 0)).reverse

/-- What `parse_nodeinfo_reply` prints of the data of a reply. -/
def nodeinfoLines (showIpv6 : Ipv6Addr → String) (qtype : UInt16) (data : Bytes) : List String :=
  match qtype.toNat with
  | 2 =>
    match String.fromUTF8? ⟨data.toArray⟩ with
    | some name => ["Node name: " ++ trimEndZeros name]
    | none => ["Node name: (binary data, " ++ toString data.length ++ " bytes)"]
  | 0 =>
    ("IPv6 addresses: " ++ toString data.length ++ " bytes of data") ::
      (ipv6Chunks data).map fun addr => "  " ++ showIpv6 addr
  | 1 =>
    ("IPv4 addresses: " ++ toString data.length ++ " bytes of data") ::
      (ipv4Chunks data).map fun addr => "  " ++ showIpv4 addr
  | _ => ["Unknown nodeinfo data type: " ++ toString qtype.toNat ++ ", " ++ toString data.length ++ " bytes"]

/-- Whether the packet is a real reply, and what is printed of it. -/
def parseNodeinfoReply (crate : Crate) (showIpv6 : Ipv6Addr → String) (packet : Bytes) : Bool × List String :=
  -- a query that comes back is no reply
  if byteAt packet 0 ≠ 140 then (false, [])
  else
    let payload := crate.icmpv6.payload packet
    if payload.length < 8 then (false, [])
    else if 8 < payload.length then (true, nodeinfoLines showIpv6 (u16At payload 0) (payload.drop 8))
    else (true, ["No data in nodeinfo reply"])

/-! ## The loop -/

section

variable (crate : Crate) (showIpv6 : Ipv6Addr → String) (showMillis : Duration → String) (pgConfig : PingConfig)
  (nodeinfoOpt : String) (target : Ipv6Addr) (fuel : Nat)

/-- A plain `recv_from`. -/
def recvFrom : Proc World RecvOutcome := do
  match (← get).recvs with
  | [] => stop
  | answer :: rest =>
    modify fun world => { world with recvs := rest }
    pure answer

/-- Counts a query, behind its send. -/
def countQuery : Proc World Unit :=
  modify fun world => { world with status := { world.status with transmitted := world.status.transmitted + 1 } }

/-- Handles what `recv_from` brought; the error that ends the run if there is one. -/
def answerQuery (sendTime : Instant) (answer : RecvOutcome) : Proc World (Except String Unit) := do
  match answer with
  | .error _ => pure (.ok ())
  | .ok datagram =>
    let now ← now
    let elapsed := Instant.elapsed sendTime now
    let packet := datagram.bytes.take RECV_BUFFER_V6
    if ¬ crate.icmpv6.new packet then pure (.error "Invalid ICMPv6 packet")
    else
      let (hasRealReply, lines) := parseNodeinfoReply crate showIpv6 packet
      print (lines.map .line)
      if hasRealReply then
        update
        print [.line ("Reply from " ++ (datagram.addr.map showIpv6).getD "unknown" ++ ": " ++
          toString packet.length ++ " bytes, time=" ++ showMillis elapsed ++ "ms")]
        pure (.ok ())
      else pure (.ok ())

/-- A turn of the loop, with the sequence number and the readings of the system clock to come. -/
def queryTurn (carried : UInt16 × Stream' (Option Nat)) :
    Proc World (Turn (UInt16 × Stream' (Option Nat)) (Except String Unit)) := do
  loopBoundary
  if ← isRunning then
    if countReached pgConfig (← get).status then pure (.exit (.ok ()))
    else
      match buildNodeinfoPacket carried.2.head nodeinfoOpt with
      | none => stop
      | some packet =>
        let sendTime ← now
        match ← sendTo packet with
        | some _ => pure (.next (carried.1, carried.2.tail))
        | none =>
          countQuery
          match ← answerQuery crate showIpv6 showMillis sendTime (← recvFrom) with
          | .error failure => pure (.exit (.error failure))
          | .ok _ => pure (.next (carried.1 + 1, carried.2.tail))
  else pure (.exit (.ok ()))

def runNodeinfoQuery (systemNanos : Stream' (Option Nat)) : Proc World (Except String Unit) := do
  setStartTime
  print [.line ("PING " ++ showIpv6 target ++ "(" ++ showIpv6 target ++ ") 56 data bytes")]
  match ← forever (queryTurn crate showIpv6 showMillis pgConfig nodeinfoOpt) fuel (1, systemNanos) with
  | .error failure => pure (.error failure)
  | .ok _ =>
    loopBoundary
    printSummary
    pure (.ok ())

/-- `ping6_run` with a node information query. -/
def ping6RunNodeinfo (systemNanos : Stream' (Option Nat)) : Proc World (Except String Unit) := do
  match ← connect pgConfig with
  | some failure => pure (.error failure)
  | none => runNodeinfoQuery crate showIpv6 showMillis pgConfig nodeinfoOpt target fuel systemNanos

end

end Utiputils.Ping.Ping6Common
