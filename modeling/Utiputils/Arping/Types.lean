import Utiputils.Pnet

/-! # The options of arping and the interface it probes on

`ArpingConfig`, the cache of the learned address, and the part of `arping_run` that comes before its loop: the
choice of the interface and of the addresses to probe with. That part only looks at what the system shows it; it
ends with a probe or with an exit. -/

namespace Utiputils.Arping

open Utiputils.Lib Utiputils.Pnet

/-- A reading of the monotonic clock. -/
abbrev Instant := Nat

/-- `std::time::Duration` in nanoseconds. -/
abbrev Duration := Nat

def Duration.fromSecs (seconds : Nat) : Duration := seconds * 1000000000

def Duration.fromMillis (millis : Nat) : Duration := millis * 1000000

def Duration.asSecs (duration : Duration) : Nat := duration / 1000000000

structure ArpingConfig where
  destination : String := ""
  quitOnFirstReply : Bool := false
  quiet : Bool := false
  broadcastOnly : Bool := false
  duplicateAddressDetection : Bool := false
  unsolicitedArp : Bool := false
  arpAnswer : Bool := false
  count : Option UInt32 := none
  interval : Option UInt32 := none
  timeout : Option UInt32 := none
  device : Option String := none
  source : Option String := none

/-- The address that replies have taught, and when. -/
structure ArgState where
  targetMac : Option MacAddr := none
  lastUpdate : Instant
  deriving DecidableEq

def ArgState.update (self : ArgState) (mac : MacAddr) (now : Instant) : ArgState :=
  { self with targetMac := some mac, lastUpdate := now }

/-! ## Interfaces -/

/-- `IpNetwork`, with its `contains` for an IPv4 address. -/
structure IpNetwork where
  ip : IpAddr
  contains : Ipv4Addr → Bool

def IpNetwork.isIpv4 (network : IpNetwork) : Bool :=
  match network.ip with
  | .v4 _ => true
  | .v6 _ => false

structure NetworkInterface where
  name : String
  mac : Option MacAddr
  ips : List IpNetwork
  isLoopback : Bool := false
  isUp : Bool := true

def validateIpOnInterface (interface : NetworkInterface) (ip : IpAddr) : Bool :=
  interface.ips.any fun network => network.ip == ip

def validateSourceIpOnInterface (interface : NetworkInterface) (sourceIp : Ipv4Addr) : Bool :=
  interface.ips.any fun network => network.isIpv4 && network.contains sourceIp

def getInterfaceIp (interface : NetworkInterface) : Option Ipv4Addr :=
  interface.ips.findSome? fun network =>
    match network.ip with
    | .v4 ipv4 => some ipv4
    | .v6 _ => none

def isInterfaceSuitable (interface : NetworkInterface) : Bool :=
  !interface.isLoopback && interface.mac.isSome && interface.ips.any IpNetwork.isIpv4 && interface.isUp

def preferredNames : List String := ["eth0", "eno1", "enp", "ens", "em1", "wlan0", "wlp", "wlo"]

def findDefaultRouteInterface (interfaces : List NetworkInterface) : Option NetworkInterface :=
  preferredNames.findSome? fun preferred =>
    interfaces.find? fun interface =>
      isInterfaceSuitable interface && preferred.toList.isPrefixOf interface.name.toList

def findFirstSuitableInterface (interfaces : List NetworkInterface) : Option NetworkInterface :=
  interfaces.find? isInterfaceSuitable

def findBestInterfaceForTarget (interfaces : List NetworkInterface) (targetIp : Ipv4Addr) :
    Option NetworkInterface :=
  let sameNetwork := interfaces.find? fun interface =>
    isInterfaceSuitable interface && interface.ips.any fun network => network.isIpv4 && network.contains targetIp
  match sameNetwork with
  | some interface => some interface
  | none => (findDefaultRouteInterface interfaces).or (findFirstSuitableInterface interfaces)

/-! ## What a run starts from -/

/-- `process::exit`, with what is printed on standard error before. -/
structure Exit where
  code : Nat
  messages : List String
  deriving DecidableEq

/-- What `datalink::channel` returns. -/
inductive Opened where
  | ethernet
  | unhandled
  | permissionDenied
  | failed (message : String)

/-- What the loop of `arping_run` probes with. -/
structure Probe where
  interface : NetworkInterface
  srcMac : MacAddr
  srcIp : Ipv4Addr
  targetIp : Ipv4Addr

section

variable (options : ArpingConfig) (interfaces : List NetworkInterface) (targetIp : Ipv4Addr)

def findInterface (name : String) : Except Exit NetworkInterface :=
  match interfaces.find? fun interface => interface.name == name with
  | some interface => .ok interface
  | none => .error ⟨1, ["utarping: Interface " ++ name ++ " not found"]⟩

def chooseInterface : Except Exit NetworkInterface :=
  match options.device with
  | some device => findInterface interfaces device
  | none =>
    match findBestInterfaceForTarget interfaces targetIp with
    | some interface => .ok interface
    | none => .error ⟨1, ["utarping: No suitable network interface found for target " ++ targetIp.display,
        "Try specifying an interface with -I option"]⟩

/-- The source address; the answer mode takes the target for it unless the user has given one. -/
def chooseSource (interface : NetworkInterface) : Except Exit Ipv4Addr :=
  match options.source with
  | some sourceStr =>
    match Ipv4Addr.parse sourceStr with
    | some parsedSource => .ok parsedSource
    | none => .error ⟨2, ["utarping: invalid source " ++ sourceStr]⟩
  | none =>
    match getInterfaceIp interface with
    | some srcIp => .ok (if options.arpAnswer then targetIp else srcIp)
    | none => .error ⟨1, ["utarping: Interface " ++ interface.name ++ " has no IPv4 address"]⟩

/-- A source that the user has given and that the interface may not reach is warned of. -/
def unreachableSource : Option (Ipv4Addr × String) :=
  match chooseInterface options interfaces targetIp, options.source.bind Ipv4Addr.parse with
  | .ok interface, some parsedSource =>
    if !validateSourceIpOnInterface interface parsedSource && !options.quiet then some (parsedSource, interface.name)
    else none
  | _, _ => none

/-- The answer mode needs an address of the interface. -/
def checkAnswerMode (interface : NetworkInterface) : Except Exit Unit :=
  if options.arpAnswer && !validateIpOnInterface interface (.v4 targetIp) then
    .error ⟨2, ["utarping: bind: Cannot assign requested address"]⟩
  else .ok ()

def sourceMac (interface : NetworkInterface) : Except Exit MacAddr :=
  match interface.mac with
  | some srcMac => .ok srcMac
  | none => .error ⟨1, ["utarping: Interface " ++ interface.name ++ " has no MAC address"]⟩

def checkChannel (interface : NetworkInterface) : Opened → Except Exit Unit
  | .ethernet => .ok ()
  | .unhandled => .error ⟨1, ["utarping: Unhandled channel type for interface " ++ interface.name]⟩
  | .permissionDenied =>
    .error ⟨1, ["utarping: Operation not permitted", "Try running with sudo or as root user"]⟩
  | .failed message => .error ⟨1, ["utarping: Failed to create channel: " ++ message]⟩

/-- The addresses to probe with: both are the source for an unsolicited request, and the detection of duplicate
addresses asks from 0.0.0.0. -/
def probeAddresses (interface : NetworkInterface) (srcIp : Ipv4Addr) : Except Exit (Ipv4Addr × Ipv4Addr) :=
  if options.unsolicitedArp then
    if validateIpOnInterface interface (.v4 targetIp) then .ok (srcIp, srcIp)
    else .error ⟨1, ["utarping: Target IP address " ++ targetIp.display ++ " is not on interface " ++ interface.name]⟩
  else if options.duplicateAddressDetection then .ok (.unspecified, targetIp)
  else .ok (srcIp, targetIp)

def prepare (channel : Opened) : Except Exit Probe := do
  let interface ← chooseInterface options interfaces targetIp
  let srcIp ← chooseSource options targetIp interface
  checkAnswerMode options targetIp interface
  let srcMac ← sourceMac interface
  checkChannel interface channel
  let (srcIp, targetIp) ← probeAddresses options targetIp interface srcIp
  return { interface, srcMac, srcIp, targetIp }

end

/-! ## The target of a run -/

theorem exists_of_bind_ok {Failure First Second : Type} {first : Except Failure First}
    {second : First → Except Failure Second} {result : Second} (done : first >>= second = .ok result) :
    ∃ value, first = .ok value ∧ second value = .ok result := by
  cases first with
  | error failure => cases done
  | ok value => exact ⟨value, rfl, done⟩

theorem probeAddresses_target {options : ArpingConfig} {targetIp srcIp : Ipv4Addr} {interface : NetworkInterface}
    {addresses : Ipv4Addr × Ipv4Addr} (notUnsolicited : options.unsolicitedArp = false)
    (probes : probeAddresses options targetIp interface srcIp = .ok addresses) : addresses.2 = targetIp := by
  rw [probeAddresses, notUnsolicited, if_neg Bool.false_ne_true] at probes
  split at probes
  · cases probes
    rfl
  · cases probes
    rfl

/-- Only an unsolicited request asks for another address than the one that the user has given. -/
theorem prepare_targetIp {options : ArpingConfig} {interfaces : List NetworkInterface} {targetIp : Ipv4Addr}
    {channel : Opened} {probe : Probe} (notUnsolicited : options.unsolicitedArp = false)
    (prepared : prepare options interfaces targetIp channel = .ok probe) : probe.targetIp = targetIp := by
  obtain ⟨interface, _, prepared⟩ := exists_of_bind_ok prepared
  obtain ⟨srcIp, _, prepared⟩ := exists_of_bind_ok prepared
  obtain ⟨_, _, prepared⟩ := exists_of_bind_ok prepared
  obtain ⟨srcMac, _, prepared⟩ := exists_of_bind_ok prepared
  obtain ⟨_, _, prepared⟩ := exists_of_bind_ok prepared
  obtain ⟨addresses, probes, prepared⟩ := exists_of_bind_ok prepared
  cases prepared
  exact probeAddresses_target notUnsolicited probes

end Utiputils.Arping
