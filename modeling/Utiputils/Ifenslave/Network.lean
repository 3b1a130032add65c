import Utiputils.Ifenslave.Kernel

/-! # Network interfaces

The methods of `NetworkInterface` that talk to the kernel. -/

namespace Utiputils.Ifenslave

open Utiputils.Lib Utiputils.Pnet Proc Fallible

abbrev Netlink (Result : Type) := Fallible World NetlinkError Result

/-! ## Accesses -/

def print (output : Output) : Proc World Unit := modify (·.note (.printed output))

/-- A line that only the verbose mode prints. -/
def printVerbose (output : Output) : Proc World Unit := do
  let world ← get
  if world.network.verbose then print output else pure ()

def report {Failure : Type} (output : Output) : Fallible World Failure Unit := ExceptT.lift (printVerbose output)

/-- A query of the interface of this name. -/
def getLinkInfo (name : String) : Netlink LinkMessage := ExceptT.mk (modifyGet fun world =>
  let answer := match world.readFailures.head, world.kernel.find name with
    | some failure, _ => .error failure
    | none, some link => .ok link.message
    | none, none => .error .requestFailed
  (answer, { world with readFailures := world.readFailures.tail }))

/-- A request that changes something, unless it fails. -/
def write (event : Option NetlinkError → Event) (effect : Kernel → Kernel) : Netlink Unit :=
  ExceptT.mk (modifyGet fun world =>
    let failure := world.writeFailures.head
    let world := { world with writeFailures := world.writeFailures.tail }
    match failure with
    | some error => (.error error, world.note (event failure))
    | none => (.ok (), world.enter (event none) { world.toMoment with kernel := effect world.kernel }))

def setLink (message : LinkMessage) : Netlink Unit :=
  write (.setLink message) fun kernel =>
    kernel.changeAt message.index (·.apply message) fun link => link.identity_apply message

def familyOf : IpAddr → AddressFamily
  | .v4 _ => .inet
  | .v6 _ => .inet6

def addAddress (index : UInt32) (address : IpAddr) (prefixLen : UInt8) : Netlink Unit :=
  let message : AddressMessage :=
    { index, family := familyOf address, prefixLen, attributes := [.address address] }
  write (.addAddress index address prefixLen) fun kernel =>
    kernel.changeAt index (fun link => { link with addresses := link.addresses ++ [message] }) fun _ => rfl

def delAddress (message : AddressMessage) : Netlink Unit :=
  write (.delAddress message) fun kernel =>
    kernel.changeAt message.index (fun link => { link with addresses := link.addresses.erase message }) fun _ => rfl

/-- A stream of messages, in which an error may stand. -/
def dump {Message : Type} (messages : Kernel → List Message) : Proc World (List (Except NetlinkError Message)) :=
  modifyGet fun world =>
    let messages := (messages world.kernel).map Except.ok
    let items := match world.dumpFailures.head with
      | none => messages
      | some (ahead, failure) => messages.take ahead ++ .error failure :: messages.drop ahead
    (items, { world with dumpFailures := world.dumpFailures.tail })

def dumpAddresses (index : UInt32) : Proc World (List (Except NetlinkError AddressMessage)) :=
  dump fun kernel =>
    match kernel.links.find? fun link => link.index == index with
    | some link => link.addresses
    | none => []

/-! ## Hardware addresses -/

/-- `{:02x}` -/
def hexByte (byte : UInt8) : List Char := [Nat.digitChar (byte.toNat / 16), Nat.digitChar (byte.toNat % 16)]

def macText (address : Bytes) : String := String.ofList ([':'].intercalate (address.map hexByte))

/-- `MacAddress::from_str` reads what `get_interface_mac` writes. -/
def ParsesMac (fromStr : String → Option MacAddr) : Prop :=
  ∀ mac : MacAddr, fromStr (macText mac.octets) = some mac

/-! ## The methods -/

def getLinkIndex (name : String) : Netlink UInt32 := do
  let link ← getLinkInfo name
  return link.index

def getInterfaceFlags (name : String) : Netlink UInt32 := do
  let link ← getLinkInfo name
  return link.flags

def macOf (fromStr : String → Option MacAddr) : LinkAttribute → Option MacAddr
  | .address address => if address.length = 6 then fromStr (macText address) else none
  | _ => none

def getInterfaceMac (fromStr : String → Option MacAddr) (name : String) : Netlink MacAddr := do
  let link ← getLinkInfo name
  match link.attributes.findSome? (macOf fromStr) with
  | some mac =>
    report (.macIs name mac)
    return mac
  | none => throw .invalidAddress

def setInterfaceMac (name : String) (mac : MacAddr) : Netlink Unit := do
  let index ← getLinkIndex name
  setLink { index, attributes := [.address mac.octets] }
  report (.macSet name mac)

def mtuOf : LinkAttribute → Option UInt32
  | .mtu mtu => some mtu
  | _ => none

def getInterfaceMtu (name : String) : Netlink UInt32 := do
  let link ← getLinkInfo name
  match link.attributes.findSome? mtuOf with
  | some mtu =>
    report (.mtuIs name mtu)
    return mtu
  | none => throw .requestFailed

def setInterfaceMtu (name : String) (mtu : UInt32) : Netlink Unit := do
  let index ← getLinkIndex name
  setLink { index, attributes := [.mtu mtu] }
  report (.mtuSet name mtu)

def setInterfaceUp (name : String) : Netlink Unit := do
  let index ← getLinkIndex name
  setLink { index, flags := IFF_UP, changeMask := IFF_UP }
  report (.enabled name)

def setInterfaceDown (name : String) : Netlink Unit := do
  let index ← getLinkIndex name
  setLink { index, flags := 0, changeMask := IFF_UP }
  report (.disabled name)

def clearAddresses : List (Except NetlinkError AddressMessage) → Netlink Unit
  | [] => pure ()
  | .error failure :: _ => throw failure
  | .ok addr :: addresses => do
    if addr.family = .inet then delAddress addr else pure ()
    clearAddresses addresses

def clearInterfaceAddress (name : String) : Netlink Unit := do
  let index ← getLinkIndex name
  let addresses ← ExceptT.lift (dumpAddresses index)
  clearAddresses addresses
  report (.addressCleared name)

/-- The inner loop of the collection, which runs to the end of the stream. -/
def collectRest : List (Except NetlinkError AddressMessage) → Except NetlinkError (List AddressMessage)
  | [] => .ok []
  | .error failure :: _ => .error failure
  | .ok addr :: addresses => do
    let addrConfigs ← collectRest addresses
    return if addr.family = .inet then addr :: addrConfigs else addrConfigs

/-- The addresses to copy. The outer loop takes an item off the stream and drops it. -/
def collectAddresses : List (Except NetlinkError AddressMessage) → Except NetlinkError (List AddressMessage)
  | [] => .ok []
  | _ :: addresses => collectRest addresses

def addressOf : AddressAttribute → Option IpAddr
  | .address address => some address
  | .other _ _ => none

def applyAddresses (slave : String) (slaveIndex : UInt32) : List AddressMessage → Netlink Unit
  | [] => pure ()
  | addr :: addrConfigs =>
    match addr.attributes.findSome? addressOf with
    -- the panic of `unwrap`
    | none => ExceptT.lift stop
    | some address => do
      addAddress slaveIndex address addr.prefixLen
      report (.addressSet slave address)
      applyAddresses slave slaveIndex addrConfigs

def copyAddressConfig (master slave : String) : Netlink Unit := do
  let masterIndex ← getLinkIndex master
  let slaveIndex ← getLinkIndex slave
  let addresses ← ExceptT.lift (dumpAddresses masterIndex)
  match collectAddresses addresses with
  | .error failure => throw failure
  | .ok addrConfigs =>
    clearInterfaceAddress slave
    applyAddresses slave slaveIndex addrConfigs

def ipv4Of : AddressAttribute → Option Ipv4Addr
  | .address (.v4 ipv4) => some ipv4
  | _ => none

/-- The first IPv4 address in the stream. -/
def firstIp : List (Except NetlinkError AddressMessage) → Netlink Ipv4Addr
  | [] => pure .unspecified
  | .error failure :: _ => throw failure
  | .ok addr :: addresses =>
    if addr.family = .inet then
      match addr.attributes.findSome? ipv4Of with
      | some ip => pure ip
      | none => firstIp addresses
    else firstIp addresses

def getInterfaceIp (name : String) : Netlink Ipv4Addr := do
  let linkIndex ← getLinkIndex name
  let addresses ← ExceptT.lift (dumpAddresses linkIndex)
  firstIp addresses

/-- Shows an interface; 127.0.0.1 stands for an address that cannot be read. -/
def showInterface (link : LinkMessage) (name : String) : Proc World Unit := do
  let ipAddr ← (getInterfaceIp name).run
  print (.interface link (match ipAddr with
    | .ok ip => ip
    | .error _ => ⟨127, 0, 0, 1⟩))

def showLinks : List (Except NetlinkError Link) → Netlink Unit
  | [] => pure ()
  | .error failure :: _ => throw failure
  | .ok link :: links => do
    ExceptT.lift (showInterface link.message link.name)
    showLinks links

def showInterfaces : Option String → Netlink Unit
  | some name => do
    let link ← getLinkInfo name
    ExceptT.lift (showInterface link name)
  | none => do
    let links ← ExceptT.lift (dump Kernel.links)
    showLinks links

def getDrvInfo (name : String) : Netlink Unit := do
  let flags ← getInterfaceFlags name
  if flags &&& IFF_MASTER = 0 then throw .requestFailed else pure ()

end Utiputils.Ifenslave
