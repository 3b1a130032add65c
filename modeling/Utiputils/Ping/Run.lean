import Utiputils.Ping.Session

/-! # The runs of ping

`ping4_run` and `ping6_run`, from the point where their socket is open; `ping6_run` when there is no node
information query. -/

namespace Utiputils.Ping

open Utiputils.Lib Utiputils.Pnet Proc

/-- `error_msg.contains(..)` for one of the texts. -/
def mentions (texts : List String) (message : String) : Bool :=
  texts.any fun text => text.toList <:+: message.toList

def bellIf (pgConfig : PingConfig) : List Output := if pgConfig.audible then [.bell] else []

def noReplyIf (pgConfig : PingConfig) (seq : UInt16) : List Output :=
  if pgConfig.outstanding then [.noReplyYet seq] else []

def patternIf (pgConfig : PingConfig) : List Output :=
  if pgConfig.pattern.isEmpty then [] else [.pattern pgConfig.pattern]

/-- Connects the socket if that is asked for. -/
def connect (pgConfig : PingConfig) : Proc World (Option String) :=
  if pgConfig.connectSk then
    modifyGet fun world => (world.connectFailure.map fun _ => "Failed to connect to target", world)
  else pure none

/-! ## IPv4 -/

namespace PingImpl

section

variable (crate : Crate) (platform : Platform) (pgConfig : PingConfig) (fuel : Nat)

def icmpErrorTexts : List String := ["Destination unreachable", "Time exceeded", "Parameter problem"]

def sendEcho (seq : UInt16) : Proc World (Option String) :=
  sendRequest platform pgConfig (fun request => request.buildPacket crate pgConfig) seq

def receiveReply : Proc World (Except String IcmpReply) :=
  receive (receiveIcmpReply crate pgConfig.identifier) (·.sequence)

/-- A failure to reset the timeout discards the reply. -/
def receiveIcmpReplyWithTimeout : Proc World (Except String IcmpReply) := do
  match ← setReadTimeout with
  | some failure => pure (.error failure)
  | none =>
    -- the socket blocks again before the result is looked at
    let result ← receiveReply crate pgConfig
    match ← setReadTimeout with
    | some failure => pure (.error failure)
    | none => pure result

/-- The record route that a reply brought. -/
def recordRouteOf (reply : IcmpReply) : List Output := (reply.ipOptions.map .recordRoute).toList

def responseTo (reply : IcmpReply) (rtt : Duration) : Output :=
  .response (.v4 reply.sourceIp) reply.sequence rtt reply.ttl

/-! ### The preload and the flood -/

def sendIcmpRequests (seq : UInt16) : Proc World Unit := do
  let _ ← forRange (fun _ => preloadTurn (sendEcho crate platform pgConfig)) 0 pgConfig.preload.toNat seq
  loopBoundary

def answerPreload : Proc World Unit := do
  match ← receiveReply crate pgConfig with
  | .ok reply =>
    countReply reply.sequence
      (fun _ => [.dot] ++ bellIf pgConfig ++ [.backspace] ++ recordRouteOf reply) fun _ => []
  | .error message => countError (mentions icmpErrorTexts message) []

def receiveIcmpReplies : Proc World Unit := do
  let _ ← forRange (fun _ _ => replyTurn (answerPreload crate pgConfig) (timeoutOrCountExit pgConfig)) 0
    pgConfig.preload.toNat ()
  loopBoundary

def preloadSendAndReceive : Proc World Unit := do
  sendIcmpRequests crate platform pgConfig 1
  receiveIcmpReplies crate pgConfig

def answerFlood : Proc World Unit := do
  print [.dot]
  match ← receiveIcmpReplyWithTimeout crate pgConfig with
  | .ok reply => countReply reply.sequence (fun _ => [.backspace]) fun _ => recordRouteOf reply
  | .error message => countError (mentions icmpErrorTexts message) []

def floodPing : Proc World Unit := do
  forever (echoTurn pgConfig (sendEcho crate platform pgConfig) false fun _ => answerFlood crate pgConfig) fuel 1
  loopBoundary

/-! ### The main loop and the final listening loop -/

/-- With a timestamp option the reply has its own receive function and its own line. -/
def answerWithTimestamp (seq : UInt16) : Proc World Unit := do
  match ← receive (receiveIcmpReplyWithTimestamp crate pgConfig.identifier) (·.sequence) with
  | .ok reply =>
    countReply reply.sequence
      (fun rtt => bellIf pgConfig ++
        [.timestampResponse (pgConfig.packetSize + 8) reply.sourceIp reply.sequence reply.ttl rtt] ++
        (reply.ipOptions.map .timestampInfo).toList ++ recordRouteOf reply) fun _ => []
  | .error message => countError (mentions icmpErrorTexts message) (noReplyIf pgConfig seq)

def answerWithTimeout (seq : UInt16) : Proc World Unit := do
  match ← receiveIcmpReplyWithTimeout crate pgConfig with
  | .ok reply =>
    countReply reply.sequence
      (fun rtt => bellIf pgConfig ++ [responseTo reply rtt] ++ recordRouteOf reply ++
        if pgConfig.count.isSome then [.newline] else []) fun _ => []
  | .error message => countError (mentions icmpErrorTexts message) (noReplyIf pgConfig seq)

def answerMain (seq : UInt16) : Proc World Unit :=
  if pgConfig.timestamp ≠ "" then answerWithTimestamp crate pgConfig seq else answerWithTimeout crate pgConfig seq

def mainLoop (seq : UInt16) : Proc World Unit := do
  forever (echoTurn pgConfig (sendEcho crate platform pgConfig) true (answerMain crate pgConfig)) fuel seq
  loopBoundary

def listenTurn (finalListenStart : Instant) (_ : Unit) : Proc World (Turn Unit Unit) := do
  loopBoundary
  let now ← now
  if Instant.elapsed finalListenStart now < Duration.fromMillis 500 then
    match ← receiveIcmpReplyWithTimeout crate pgConfig with
    | .ok reply =>
      countReply reply.sequence (fun rtt => [responseTo reply rtt]) fun _ => recordRouteOf reply
      pure (.next ())
    | .error _ => pure (.next ())
  else pure (.exit ())

def finalListen : Proc World Unit := do
  let finalListenStart ← now
  forever (listenTurn crate pgConfig finalListenStart) fuel ()
  loopBoundary

/-! ### The run -/

/-- The preload, and whether the run ends with it. -/
def preload : Proc World Bool :=
  if 0 < pgConfig.preload then do
    preloadSendAndReceive crate platform pgConfig
    timeoutOrCountExit pgConfig
  else pure false

def ping4Run : Proc World (Except String Unit) := do
  setStartTime
  print (patternIf pgConfig ++ [.title])
  match ← connect pgConfig with
  | some failure => pure (.error failure)
  | none =>
    if pgConfig.flood then
      floodPing crate platform pgConfig fuel
      printSummary
      pure (.ok ())
    else if ← preload crate platform pgConfig then
      printSummary
      pure (.ok ())
    else
      mainLoop crate platform pgConfig fuel (pgConfig.preload + 1)
      finalListen crate pgConfig fuel
      printSummary
      pure (.ok ())

end

end PingImpl

/-! ## IPv6 -/

namespace Ping6Common

section

variable (crate : Crate) (platform : Platform) (showIpv6 : Ipv6Addr → String) (pgConfig : PingConfig)
  (fuel : Nat)

def icmpErrorTexts : List String := ["Destination unreachable", "Packet too big", "Time exceeded"]

def sendEcho (seq : UInt16) : Proc World (Option String) :=
  sendRequest platform pgConfig (fun request => request.buildPacketV6 crate pgConfig) seq

def receiveReply : Proc World (Except String Icmpv6Reply) :=
  receive (receiveIcmpv6Reply crate showIpv6 pgConfig.identifier) (·.sequence)

def responseTo (reply : Icmpv6Reply) (rtt : Duration) : Output :=
  .response (.v6 reply.source) reply.sequence rtt (UInt8.ofNat pgConfig.ttl.toNat)

/-! ### The preload and the flood -/

def sendIcmpv6Requests (seq : UInt16) : Proc World Unit := do
  let _ ← forRange (fun _ => preloadTurn (sendEcho crate platform pgConfig)) 0 pgConfig.preload.toNat seq
  loopBoundary

def answerPreload : Proc World Unit := do
  match ← receiveReply crate showIpv6 pgConfig with
  | .ok reply => countReply reply.sequence (fun rtt => [responseTo pgConfig reply rtt]) fun _ => bellIf pgConfig
  | .error _ => pure ()

/-- The count ends this loop too, but here it leaves `RUNNING` as it is. -/
def receiveIcmpv6Replies : Proc World Unit := do
  let countExit : Proc World Bool := do return countReached pgConfig (← get).status
  let _ ← forRange (fun _ _ => replyTurn (answerPreload crate showIpv6 pgConfig) countExit) 0
    pgConfig.preload.toNat ()
  loopBoundary

def preloadSendAndReceive : Proc World Unit := do
  sendIcmpv6Requests crate platform pgConfig 1
  receiveIcmpv6Replies crate showIpv6 pgConfig

def answerFlood : Proc World Unit := do
  print [.dot]
  match ← receiveReply crate showIpv6 pgConfig with
  | .ok reply => countReply reply.sequence (fun _ => []) fun _ => [.backspace]
  | .error _ => pure ()

def floodPingV6 : Proc World Unit := do
  forever (echoTurn pgConfig (sendEcho crate platform pgConfig) false
    fun _ => answerFlood crate showIpv6 pgConfig) fuel 1
  loopBoundary

/-! ### The main loop and the run -/

def answerMain (seq : UInt16) : Proc World Unit := do
  match ← receiveReply crate showIpv6 pgConfig with
  | .ok reply => countReply reply.sequence (fun rtt => [responseTo pgConfig reply rtt]) fun _ => bellIf pgConfig
  | .error message => countError (mentions icmpErrorTexts message) (noReplyIf pgConfig seq)

def mainLoop (seq : UInt16) : Proc World Unit := do
  forever (echoTurn pgConfig (sendEcho crate platform pgConfig) true (answerMain crate showIpv6 pgConfig)) fuel seq
  loopBoundary

def preload : Proc World Bool :=
  if 0 < pgConfig.preload then do
    preloadSendAndReceive crate platform showIpv6 pgConfig
    timeoutOrCountExit pgConfig
  else pure false

def ping6Run : Proc World (Except String Unit) := do
  match ← connect pgConfig with
  | some failure => pure (.error failure)
  | none =>
    setStartTime
    print (patternIf pgConfig ++ [.title])
    if pgConfig.flood then
      floodPingV6 crate platform showIpv6 pgConfig fuel
      printSummary
      pure (.ok ())
    else if ← preload crate platform showIpv6 pgConfig then
      printSummary
      pure (.ok ())
    else
      mainLoop crate platform showIpv6 pgConfig fuel (pgConfig.preload + 1)
      printSummary
      pure (.ok ())

end

end Ping6Common

/-! ## Either family -/

inductive Family where
  | ipv4
  | ipv6
  deriving DecidableEq, Repr

def Family.run (family : Family) (crate : Crate) (platform : Platform) (showIpv6 : Ipv6Addr → String)
    (pgConfig : PingConfig) (fuel : Nat) : Proc World (Except String Unit) :=
  match family with
  | .ipv4 => PingImpl.ping4Run crate platform pgConfig fuel
  | .ipv6 => Ping6Common.ping6Run crate platform showIpv6 pgConfig fuel

def Family.build (family : Family) (crate : Crate) (pgConfig : PingConfig) (request : IcmpEchoRequest) :
    Option Bytes :=
  match family with
  | .ipv4 => request.buildPacket crate pgConfig
  | .ipv6 => request.buildPacketV6 crate pgConfig

end Utiputils.Ping
