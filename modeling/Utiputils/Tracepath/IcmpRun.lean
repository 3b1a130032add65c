import Utiputils.Tracepath.Run

/-! # The IPv4 trace

`tracepath_run_icmp_ipv4` from the point where its channel is open, as a process. Its probes are UDP datagrams from a
socket of their own each, and its answers come from a channel that delivers every ICMP datagram of the host. -/

namespace Utiputils.Tracepath.Icmp

open Utiputils.Lib Utiputils.Pnet Proc

def DestinationPortUnreachable : UInt8 := 3

/-! ## The data -/

/-- An item of `ipv4_packet_iter`. -/
structure Datagram where
  bytes : Bytes
  addr : IpAddr
  deriving DecidableEq, Repr

/-- What a call of `send_udp_probe` hands to `send_to`, with the port that its socket is bound to. -/
structure Probe where
  ttl : UInt8
  sourcePort : UInt16
  destPort : UInt16
  payloadLen : Nat
  deriving DecidableEq, Repr

inductive IcmpLine where
  /-- with `asymm` and the hops of the way back, where they differ -/
  | hop (ttl : UInt8) (addr : IpAddr) (rtt : Duration) (asymm : Option UInt8)
  | reached (ttl : UInt8) (addr : IpAddr) (rtt : Duration)
  /-- `!H` -/
  | unreachable (ttl : UInt8) (addr : IpAddr) (rtt : Duration)
  | noReply (ttl : UInt8)
  | resume (pmtu : UInt32) (hopsTo hopsFrom : UInt8)
  | tooManyHops
  | blank
  deriving DecidableEq, Repr

def printResume (tpConfig : TracepathConfig) (runState : RunState) : IcmpLine :=
  .resume tpConfig.getLength runState.hopsTo runState.hopsFrom

/-! ## Sending -/

inductive SendError where
  | wouldBlock
  | other (message : String)

structure SendAnswers where
  /-- the socket, with its options: the port that it is bound to -/
  opened : Except String UInt16
  first : Except SendError Instant
  /-- the second try, if the first would block -/
  again : Except String Instant

/-- The time at which the datagram is on its way. -/
def SendAnswers.sent (answers : SendAnswers) : Except String Instant :=
  match answers.first with
  | .ok sendTime => .ok sendTime
  | .error .wouldBlock => answers.again
  | .error (.other message) => .error message

structure Sent where
  result : Except String Unit
  state : RunState
  /-- what was handed to `send_to`, if it was called -/
  probe : Option Probe := none

/-- The branches for the two address families differ in the socket option for the TTL alone. -/
def sendUdpProbe (tpConfig : TracepathConfig) (answers : SendAnswers) (runState : RunState) : Sent :=
  match answers.opened with
  | .error message => { result := .error message, state := runState }
  | .ok sourcePort =>
    let destPort := tpConfig.getPort + UInt16.ofNat runState.hisptr
    let payloadLen := (tpConfig.getLength - 28).toNat
    let probe : Probe := { ttl := runState.ttl, sourcePort, destPort, payloadLen }
    match answers.sent with
    | .error message => { result := .error message, state := runState, probe := some probe }
    | .ok sendTime =>
      { result := .ok ()
        state := { runState with
          sendTime := some sendTime
          hisptr := (runState.hisptr + 1) &&& (HIS_ARRAY_SIZE - 1) }
        probe := some probe }

/-! ## Receiving -/

def calculateReturnHops (receivedTtl : UInt8) : UInt8 :=
  if receivedTtl ≤ 64 then 65 - receivedTtl
  else if receivedTtl ≤ 128 then 129 - receivedTtl
  else (256 - receivedTtl.toUInt16).toUInt8

/-- What an ICMP datagram makes the wait return, with the state and the lines that it leaves. -/
structure Handled where
  response : ResponseType
  state : RunState
  lines : List IcmpLine

def handleReply (crate : Crate) (tpConfig : TracepathConfig) (datagram : Datagram) (rtt : Duration)
    (runState : RunState) : Option Handled :=
  let icmpPacket := crate.ipv4.payload datagram.bytes
  let rethops := calculateReturnHops (crate.ipv4.ttl datagram.bytes)
  if crate.icmp.icmpType icmpPacket = IcmpTypes.TimeExceeded then
    let asymm := if 12 ≤ runState.ttl ∧ rethops ≠ runState.ttl ∧ 0 < rethops then some rethops else none
    some {
      response := .timeExceeded
      state := runState
      lines := [.hop runState.ttl datagram.addr rtt asymm] }
  else if crate.icmp.icmpType icmpPacket = IcmpTypes.DestinationUnreachable then
    if crate.icmp.icmpCode icmpPacket = DestinationPortUnreachable then
      let reachedState := { runState with hopsTo := runState.ttl, hopsFrom := rethops, reached := true }
      some {
        response := .reached
        state := reachedState
        lines := [.reached runState.ttl datagram.addr rtt, printResume tpConfig reachedState] }
    else
      some {
        response := .unreachable
        state := runState
        lines := [.unreachable runState.ttl datagram.addr rtt] }
  else none

/-! ## The world -/

inductive Event where
  /-- a probe, and whether it went out -/
  | probe (probe : Probe) (sent : Bool)
  /-- a call for a TTL that had no socket for its probe -/
  | noSocket (ttl : UInt8)
  /-- a datagram that comes out of the channel, in the wait for a TTL -/
  | received (ttl : UInt8) (datagram : Datagram)
  /-- a wait for a TTL returns a response because of a datagram -/
  | reported (ttl : UInt8) (response : ResponseType) (datagram : Datagram)
  /-- the trace returns because of a response for a TTL -/
  | returned (ttl : UInt8) (response : ResponseType)
  | printed (line : IcmpLine)
  deriving DecidableEq, Repr

structure World where
  runState : RunState
  log : List Event := []
  sendAnswers : Stream' SendAnswers
  /-- what `next_with_timeout` returns -/
  packets : Stream' (Except String (Option Datagram))
  instants : Stream' Instant
  /-- the tests of `start_wait.elapsed()` -/
  withinTimeout : Stream' Bool
  isRunning : Stream' Bool

/-- What a call leaves in the log. -/
def Sent.event (sent : Sent) : Event :=
  match sent.probe with
  | some probe => .probe probe sent.result.isOk
  | none => .noSocket sent.state.ttl

namespace World

def record (world : World) (events : List Event) : World := { world with log := world.log ++ events }

def afterSend (world : World) (sent : Sent) : World :=
  { world with
    runState := sent.state
    sendAnswers := world.sendAnswers.tail
    log := world.log ++ [sent.event] }

def handle (world : World) (datagram : Datagram) (handled : Handled) : World :=
  { world with
    runState := handled.state
    log := world.log ++
      .reported world.runState.ttl handled.response datagram :: handled.lines.map .printed }

end World

def print (line : IcmpLine) : Proc World Unit := modify (·.record [.printed line])

def startWaitWithinTimeout : Proc World Bool :=
  modifyGet fun world => (world.withinTimeout.head, { world with withinTimeout := world.withinTimeout.tail })

def isRunning : Proc World Bool :=
  modifyGet fun world => (world.isRunning.head, { world with isRunning := world.isRunning.tail })

def now : Proc World Instant :=
  modifyGet fun world => (world.instants.head, { world with instants := world.instants.tail })

def nextWithTimeout : Proc World (Except String (Option Datagram)) :=
  modifyGet fun world =>
    let events := match world.packets.head with
      | .ok (some datagram) => [.received world.runState.ttl datagram]
      | .ok none | .error _ => []
    (world.packets.head, { world with packets := world.packets.tail }.record events)

section

variable (crate : Crate) (tpConfig : TracepathConfig) (fuel : Nat)

/-! ## A probe and the wait for its answer -/

def sendProbe : Proc World (Except String Unit) := do
  let world ← get
  let sent := sendUdpProbe tpConfig world.sendAnswers.head world.runState
  modify (·.afterSend sent)
  pure sent.result

def handleDatagram (datagram : Datagram) (rtt : Duration) : Proc World (Turn Unit (Except String ResponseType)) := do
  let world ← get
  match handleReply crate tpConfig datagram rtt world.runState with
  | some handled =>
    modify (·.handle datagram handled)
    pure (.exit (.ok handled.response))
  | none => pure (.next ())

/-- One turn of the loop. -/
def receiveStep (sendTime : Instant) (_ : Unit) : Proc World (Turn Unit (Except String ResponseType)) := do
  if ← startWaitWithinTimeout then
    if ← isRunning then
      match ← nextWithTimeout with
      | .ok (some datagram) =>
        if crate.ipv4.nextLevelProtocol datagram.bytes ≠ IpNextHeaderProtocols.Icmp then pure (.next ())
        -- the `unwrap` of the view
        else if ¬ crate.icmp.new (crate.ipv4.payload datagram.bytes) then stop
        else
          let recvTime ← now
          handleDatagram crate tpConfig datagram (durationSince recvTime sendTime)
      | .ok none | .error _ => pure (.next ())
    else
      -- `request_exit`
      print .blank
      stop
  else pure (.exit (.error "No response received within timeout"))

def receiveIcmpReplySafe : Proc World (Except String ResponseType) := do
  let world ← get
  let now ← now
  forever (receiveStep crate tpConfig (world.runState.sendTime.getD now)) fuel ()

/-! ## The loops over attempts and TTLs -/

/-- The trace returns. -/
def returnWith (response : ResponseType) : Proc World (Turn Unit AttemptEnd) := do
  let world ← get
  modify (·.record [.returned world.runState.ttl response])
  pure (.exit .returned)

def endedBy (response : ResponseType) : Proc World (Turn Unit AttemptEnd) :=
  match response with
  | .reached => returnWith .reached
  | .timeExceeded => pure (.exit .found)
  | .unreachable => do
    let world ← get
    print (printResume tpConfig world.runState)
    returnWith .unreachable

def attempt : Proc World (Turn Unit AttemptEnd) := do
  match ← sendProbe tpConfig with
  | .error _ => pure (.next ())
  | .ok () =>
    match ← receiveIcmpReplySafe crate tpConfig fuel with
    | .ok response => endedBy tpConfig response
    | .error _ => pure (.next ())

def traceTtl (ttl : Nat) : Proc World (Turn Unit Unit) := do
  modify fun world => { world with runState := world.runState.setTtl (UInt8.ofNat ttl) }
  match ← forRange (fun _ _ => attempt crate tpConfig fuel) 0 3 () with
  | .exit .returned => pure (.exit ())
  | .exit .found => pure (.next ())
  | .next () =>
    print (.noReply (UInt8.ofNat ttl))
    pure (.next ())

def tracepathRunIcmpIpv4 : Proc World Unit := do
  match ← forRange (fun ttl _ => traceTtl crate tpConfig fuel ttl) 1 tpConfig.getHops.toNat () with
  | .exit () => pure ()
  | .next () => print .tooManyHops

end

/-! ## What the handling of a datagram does -/

section

variable {crate : Crate} {tpConfig : TracepathConfig}

theorem handleReply_frame {datagram : Datagram} {rtt : Duration} {runState : RunState} {handled : Handled}
    (replied : handleReply crate tpConfig datagram rtt runState = some handled) :
    handled.state.basePort = runState.basePort ∧ handled.state.hisptr = runState.hisptr ∧
      handled.state.ttl = runState.ttl := by
  simp only [handleReply] at replied
  split_ifs at replied <;> cases replied <;> exact ⟨rfl, rfl, rfl⟩

theorem handleDatagram_run (datagram : Datagram) (rtt : Duration) (world : World) :
    handleDatagram crate tpConfig datagram rtt world =
      match handleReply crate tpConfig datagram rtt world.runState with
      | some handled => .done (.exit (.ok handled.response)) (world.handle datagram handled)
      | none => .done (.next ()) world := by
  show (match handleReply crate tpConfig datagram rtt world.runState with
    | some handled => (do
        modify (·.handle datagram handled)
        pure (.exit (.ok handled.response)) : Proc World (Turn Unit (Except String ResponseType)))
    | none => pure (.next ())) world = _
  cases handleReply crate tpConfig datagram rtt world.runState <;> rfl

end

/-- The world in which a trace of a target starts. -/
def World.start (tpConfig : TracepathConfig) (target : Ipv4Addr) (sendAnswers : Stream' SendAnswers)
    (packets : Stream' (Except String (Option Datagram))) (instants : Stream' Instant)
    (withinTimeout isRunning : Stream' Bool) : World :=
  { runState := { target := .v4 target, basePort := tpConfig.getPort }
    sendAnswers, packets, instants, withinTimeout, isRunning }

end Utiputils.Tracepath.Icmp
