import Utiputils.Lib.Proc
import Utiputils.Arping.Types

/-! # The run of arping

`build_arp_packet`, `parse_arp_reply`, `arping_run` with its loops, and `main`. What goes to the logger is left
out. -/

namespace Utiputils.Arping

open Utiputils.Lib Utiputils.Pnet Proc

def ETHERNET_HEADER_LEN : Nat := 14
def ARP_PACKET_LEN : Nat := 28
def TOTAL_PACKET_LEN : Nat := ETHERNET_HEADER_LEN + ARP_PACKET_LEN

/-! ## The world -/

inductive Output where
  | sourceWarning (source : Ipv4Addr) (interface : String)
  | title (target source : Ipv4Addr) (interface : String)
  | reply (target : Ipv4Addr) (mac : MacAddr) (duration : Duration)
  | lateReply (target : Ipv4Addr) (mac : MacAddr)
  | summary (sent received broadcasts : UInt32)
  deriving DecidableEq

inductive Event where
  /-- what a test of `is_running` returned -/
  | isRunning (running : Bool)
  | sendTo (buffer : Bytes)
  /-- what `rx.next` returned in a wait window -/
  | next (result : Except String Bytes)
  /-- what it returned in the last look at the channel before an interrupted run ends -/
  | drained (result : Except String Bytes)
  /-- `rx.next` does not return -/
  | blocked
  | printed (output : Output)
  | exit (exit : Exit)
  deriving DecidableEq

/-- What the system and the user answer, call by call. -/
structure Environment where
  /-- `RUNNING`, which nothing sets again once it has been cleared -/
  running : Bool := true
  /-- whether Ctrl-C has come since the test of `is_running` before -/
  interrupts : Stream' Bool
  instants : Stream' Instant
  /-- what `rx.next` returns; it has no timeout and blocks at the end of the list -/
  frames : List (Except String Bytes)

structure World extends Environment where
  log : List Event := []

def World.start (environment : Environment) : World := { environment with }

def World.note (world : World) (event : Event) : World := { world with log := world.log ++ [event] }

def print (output : Output) : Proc World Unit := modify (·.note (.printed output))

/-- `Instant::now`. -/
def now : Proc World Instant :=
  modifyGet fun world => (world.instants.head, { world with instants := world.instants.tail })

/-- `Instant::elapsed`, which saturates. -/
def elapsed (earlier : Instant) : Proc World Duration := do
  let now ← now
  pure (now - earlier)

def isRunning : Proc World Bool :=
  modifyGet fun world =>
    let running := world.running && !world.interrupts.head
    (running, { world with running, interrupts := world.interrupts.tail }.note (.isRunning running))

def sendTo (buffer : Bytes) : Proc World Unit := modify (·.note (.sendTo buffer))

/-- `rx.next`, entered in the log as the caller says. -/
def nextFrame (entry : Except String Bytes → Event) : Proc World (Except String Bytes) := do
  let world ← get
  match world.frames with
  | [] =>
    modify (·.note .blocked)
    stop
  | result :: frames =>
    modify fun world => { world with frames }.note (entry result)
    pure result

def exitWith {Result : Type} (exit : Exit) : Proc World Result := do
  modify (·.note (.exit exit))
  stop

/-! ## Packets -/

/-- A learned address is good for a minute. The clock is read only where there is one. -/
def shouldBroadcast (state : ArgState) : Proc World Bool :=
  match state.targetMac with
  | none => pure true
  | some _ => do
    let age ← elapsed state.lastUpdate
    pure (Duration.fromSecs 60 < age)

/-- The fields in the order in which `build_arp_packet` sets them; `none` where a view cannot be made. -/
def writeArpPacket (writer : ArpWriter) (operation : UInt16) (dstMac srcMac targetHw : MacAddr)
    (srcIp dstIp : Ipv4Addr) : Option Bytes :=
  let buffer := List.replicate TOTAL_PACKET_LEN 0
  if writer.newEthernet buffer then
    let ethPacket := writer.setDestination buffer dstMac
    let ethPacket := writer.setSource ethPacket srcMac
    let ethPacket := writer.setEthertype ethPacket EtherTypes.Arp
    writer.mapPayload ethPacket fun payload =>
      if writer.newArp payload then
        let arpPacket := writer.setHardwareType payload ArpHardwareTypes.Ethernet
        let arpPacket := writer.setProtocolType arpPacket EtherTypes.Ipv4
        let arpPacket := writer.setHwAddrLen arpPacket 6
        let arpPacket := writer.setProtoAddrLen arpPacket 4
        let arpPacket := writer.setOperation arpPacket operation
        let arpPacket := writer.setSenderHwAddr arpPacket srcMac
        let arpPacket := writer.setSenderProtoAddr arpPacket srcIp
        let arpPacket := writer.setTargetHwAddr arpPacket targetHw
        some (writer.setTargetProtoAddr arpPacket dstIp)
      else none
  else none

def dstMac (state : ArgState) : Proc World MacAddr := do
  if ← shouldBroadcast state then pure .broadcast
  else
    match state.targetMac with
    | some mac => pure mac
    -- the panic of `unwrap`
    | none => stop

def targetHw (state : ArgState) : Proc World MacAddr := do
  if ← shouldBroadcast state then pure .broadcast
  else pure (state.targetMac.getD .zero)

def buildArpPacket (crate : ArpingCrate) (options : ArpingConfig) (state : ArgState) (srcMac : MacAddr)
    (srcIp dstIp : Ipv4Addr) : Proc World Bytes := do
  let dstMac ← dstMac state
  let operation := if options.arpAnswer then ArpOperations.Reply else ArpOperations.Request
  let targetHw ← targetHw state
  match writeArpPacket crate.writer operation dstMac srcMac targetHw srcIp dstIp with
  | some buffer => pure buffer
  | none => stop

def parseArpReply (reader : ArpReader) (packet : Bytes) (targetIp : Ipv4Addr) : Option MacAddr :=
  if reader.newEthernet packet then
    if reader.ethertype packet ≠ EtherTypes.Arp then none
    else
      let arpPacket := reader.payload packet
      if reader.newArp arpPacket then
        if reader.operation arpPacket ≠ ArpOperations.Reply then none
        else if reader.senderProtoAddr arpPacket ≠ targetIp then none
        else some (reader.senderHwAddr arpPacket)
      else none
  else none

/-! ## The loops -/

/-- The variables that the loops change. -/
structure Progress where
  sentCount : UInt32 := 0
  replyCount : UInt32 := 0
  broadcastCount : UInt32 := 0
  state : ArgState

section

variable (crate : ArpingCrate) (options : ArpingConfig) (probe : Probe)

def report (output : Output) : Proc World Unit := if options.quiet then pure () else print output

/-- A turn of the loop that reads what has already arrived when the user stops the run. -/
def drainTurn (drainDeadline : Instant) (progress : Progress) : Proc World (Turn Progress Progress) := do
  let now ← now
  if now < drainDeadline then
    match ← nextFrame .drained with
    | .ok packet =>
      match parseArpReply crate.reader packet probe.targetIp with
      | some mac =>
        report options (.lateReply probe.targetIp mac)
        pure (.next { progress with replyCount := progress.replyCount + 1 })
      | none => pure (.next progress)
    | .error _ => pure (.exit progress)
  else pure (.exit progress)

/-- The end of a turn of the wait window: the window may be over. -/
def windowEnd (startWait : Instant) (progress : Progress) :
    Proc World (Turn Progress (Turn Progress Progress)) := do
  let waited ← elapsed startWait
  if Duration.fromSecs (options.interval.getD 1).toNat ≤ waited then pure (.exit (.next progress))
  else pure (.next progress)

def takeReply (startWait : Instant) (mac : MacAddr) (progress : Progress) :
    Proc World (Turn Progress (Turn Progress Progress)) := do
  let progress := { progress with replyCount := progress.replyCount + 1 }
  let duration ← elapsed startWait
  report options (.reply probe.targetIp mac duration)
  if options.quitOnFirstReply then pure (.exit (.exit progress))
  else if options.broadcastOnly then windowEnd options startWait progress
  else
    let now ← now
    windowEnd options startWait { progress with state := progress.state.update mac now }

/-- A turn of the wait window of a probe. The window ends with the next turn of the outer loop or, where that is
left as well, with its exit. -/
def waitTurn (startWait : Instant) (progress : Progress) : Proc World (Turn Progress (Turn Progress Progress)) := do
  if ← isRunning then
    match ← nextFrame .next with
    | .ok packet =>
      match parseArpReply crate.reader packet probe.targetIp with
      | some mac => takeReply options probe startWait mac progress
      | none => windowEnd options startWait progress
    | .error _ => pure (.exit (.next progress))
  else pure (.exit (.next progress))

def timedOut (startTime : Instant) : Proc World Bool :=
  match options.timeout with
  | none => pure false
  | some timeout => do
    let run ← elapsed startTime
    pure (timeout.toNat < run.asSecs)

def countReached (progress : Progress) : Bool :=
  match options.count with
  | some count => count ≤ progress.sentCount
  | none => false

/-- Sends a probe and opens its wait window. -/
def sendProbe (fuel : Nat) (progress : Progress) : Proc World (Turn Progress Progress) := do
  let buffer ← buildArpPacket crate options progress.state probe.srcMac probe.srcIp probe.targetIp
  sendTo buffer
  let progress := { progress with sentCount := progress.sentCount + 1 }
  let broadcasts ← shouldBroadcast progress.state
  let progress := if broadcasts then { progress with broadcastCount := progress.broadcastCount + 1 } else progress
  let startWait ← now
  forever (waitTurn crate options probe startWait) fuel progress

/-- A turn of the outer loop. -/
def probeTurn (fuel : Nat) (startTime : Instant) (progress : Progress) : Proc World (Turn Progress Progress) := do
  if ← isRunning then
    if countReached options progress then pure (.exit progress)
    else if ← timedOut options startTime then pure (.exit progress)
    else sendProbe crate options probe fuel progress
  else
    let started ← now
    let progress ← forever (drainTurn crate options probe (started + Duration.fromMillis 100)) fuel progress
    pure (.exit progress)

end

/-! ## The run -/

def success (options : ArpingConfig) (progress : Progress) : Bool :=
  if options.duplicateAddressDetection then progress.replyCount == 0
  else if options.unsolicitedArp then true
  else progress.sentCount == progress.replyCount

section

variable (crate : ArpingCrate) (options : ArpingConfig)

/-- The loop and what follows it. -/
def probeLoop (fuel : Nat) (probe : Probe) : Proc World (Except String Bool) := do
  let created ← now
  let startTime ← now
  report options (.title probe.targetIp probe.srcIp probe.interface.name)
  let progress ← forever (probeTurn crate options probe fuel startTime) fuel { state := { lastUpdate := created } }
  report options (.summary progress.sentCount progress.replyCount progress.broadcastCount)
  pure (.ok (success options progress))

def arpingRun (interfaces : List NetworkInterface) (channel : Opened) (fuel : Nat) (targetIp : Ipv4Addr) :
    Proc World (Except String Bool) := do
  match unreachableSource options interfaces targetIp with
  | some (source, interface) => print (.sourceWarning source interface)
  | none => pure ()
  match prepare options interfaces targetIp channel with
  | .error exit => exitWith exit
  | .ok probe => probeLoop crate options fuel probe

/-! ## The command -/

/-- What `main` makes of the options it was called with. -/
def effectiveOptions : ArpingConfig :=
  let options :=
    if options.duplicateAddressDetection then
      { options with quitOnFirstReply := true, count := some (options.count.getD 1) }
    else options
  if options.arpAnswer then { options with unsolicitedArp := true } else options

/-- The targets one after another; whether all of them succeeded. -/
def runTargets (system : Ipv4Addr → List NetworkInterface × Opened) (fuel : Nat) : List Ipv4Addr → Bool →
    Proc World Bool
  | [], allSuccess => pure allSuccess
  | ip :: targetIps, allSuccess => do
    if ← isRunning then
      match ← arpingRun crate options (system ip).1 (system ip).2 fuel ip with
      | .ok ok => runTargets system fuel targetIps (allSuccess && ok)
      | .error _ => pure false
    else pure allSuccess

def main (system : Ipv4Addr → List NetworkInterface × Opened) (fuel : Nat)
    (resolved : Except String (List Ipv4Addr)) : Proc World Nat := do
  match resolved with
  | .error e => exitWith ⟨1, ["utarping: Failed to resolve target '" ++ options.destination ++ "': " ++ e]⟩
  | .ok targetIps =>
    let allSuccess ← runTargets crate (effectiveOptions options) system fuel targetIps true
    pure (if allSuccess then 0 else 1)

end

end Utiputils.Arping
