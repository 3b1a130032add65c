import Utiputils.Pnet

/-! # The data of tracepath

Configuration, run state and error-queue messages of `tracepath.rs`, and the lines it prints. A line is
kept as the values it shows: how an address or a time is written out has no part in what follows. -/

namespace Utiputils.Tracepath

open Utiputils.Lib Utiputils.Pnet

/-- A reading of the monotonic clock, and a difference of two. -/
abbrev Instant := Nat
abbrev Duration := Nat

/-- `Instant::duration_since`, which saturates. -/
def durationSince (later earlier : Instant) : Duration := later - earlier

def MAX_HOPS : UInt8 := 30
def BASE_PORT : UInt16 := 44444
def BASE_MTU : UInt16 := 1500
def HIS_ARRAY_SIZE : Nat := 64

def SO_EE_ORIGIN_LOCAL : UInt8 := 1
def SO_EE_ORIGIN_ICMP6 : UInt8 := 3
def ICMPV6_TIME_EXCEED : UInt8 := 3
def ICMPV6_EXC_HOPLIMIT : UInt8 := 0

/-! ## The configuration -/

/-- The options that the resolver and the trace read, with the bounds that the command line parser checks. -/
structure TracepathConfig where
  useIpv4 : Bool := false
  useIpv6 : Bool := false
  length : Option Int32 := none
  hops : Option UInt8 := none
  port : Option UInt16 := none
  length_ge : ∀ value ∈ length, 29 ≤ value.toInt := by simp
  hops_pos : ∀ value ∈ hops, 1 ≤ value.toNat := by simp

namespace TracepathConfig

def getLength (self : TracepathConfig) : UInt32 := (self.length.getD (Int32.ofNat BASE_MTU.toNat)).toUInt32

def getHops (self : TracepathConfig) : UInt8 := self.hops.getD MAX_HOPS

def getPort (self : TracepathConfig) : UInt16 := self.port.getD BASE_PORT

theorem getHops_pos (self : TracepathConfig) : 1 ≤ self.getHops.toNat := by
  unfold getHops
  cases given : self.hops with
  | none => decide
  | some value => exact self.hops_pos value given

end TracepathConfig

/-! ## The run state -/

structure HistoryEntry where
  hops : UInt8 := 0
  sendTime : Option Instant := none
  deriving DecidableEq, Repr

structure RunState where
  target : IpAddr
  ttl : UInt8 := 1
  hopsFrom : UInt8 := 0
  hopsTo : UInt8 := 0
  reached : Bool := false
  sendTime : Option Instant := none
  history : Vector HistoryEntry HIS_ARRAY_SIZE := Vector.replicate HIS_ARRAY_SIZE {}
  hisptr : Nat := 0
  basePort : UInt16 := 44444
  deriving DecidableEq, Repr

/-! ## Messages, responses and lines -/

structure ErrorInfo where
  errno : UInt32
  origin : UInt8
  errorType : UInt8
  code : UInt8
  info : UInt32
  sourceAddr : Option IpAddr
  deriving DecidableEq, Repr

/-- What `receive_error_message_with_port` dequeued, with the clock reading that its caller takes next. -/
structure Message where
  errorInfo : ErrorInfo
  receivedPort : UInt16
  recvTime : Instant
  deriving DecidableEq, Repr

inductive ResponseType where
  | reached
  | timeExceeded
  | unreachable
  deriving DecidableEq, Repr

inductive Line where
  /-- `[LOCALHOST]`, with the outcome at its end -/
  | localhost (ttl : UInt8) (rtt : Duration) (outcome : String)
  /-- the result of a probe, answered by a host on the way -/
  | hop (ttl : UInt8) (source : IpAddr) (rtt : Duration)
  | reached (ttl : UInt8) (target : IpAddr) (rtt : Duration)
  /-- `localhost.localdomain` with `!H` -/
  | unreachable (ttl : UInt8) (rtt : Duration)
  | noReply (ttl : UInt8)
  | resume (pmtu : UInt32) (hopsTo hopsFrom : UInt8)
  | tooManyHops
  | blank
  deriving DecidableEq, Repr

/-- The TTL that a line accounts for. -/
def Line.ttl? : Line → Option UInt8
  | localhost ttl _ _ | hop ttl _ _ | reached ttl _ _ | unreachable ttl _ | noReply ttl => some ttl
  | resume .. | tooManyHops | blank => none

def printResume (tpConfig : TracepathConfig) (runState : RunState) : Line :=
  .resume tpConfig.getLength runState.hopsTo runState.hopsFrom

end Utiputils.Tracepath
