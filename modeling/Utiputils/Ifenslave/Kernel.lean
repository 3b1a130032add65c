import Utiputils.Lib.Fallible
import Utiputils.Pnet

/-! # The interfaces of the system

The interfaces as the kernel keeps them, the netlink messages that show and change them, and the world in which
`ifenslave` runs. Every access may fail; what fails has no effect. -/

namespace Utiputils.Ifenslave

open Utiputils.Lib Utiputils.Pnet Proc Fallible

/-! ## Messages -/

inductive AddressFamily where
  | inet
  | inet6
  | other (number : UInt8)
  deriving DecidableEq, Repr

inductive AddressAttribute where
  | address (address : IpAddr)
  | other (kind : UInt16) (value : Bytes)
  deriving DecidableEq, Repr

structure AddressMessage where
  index : UInt32
  family : AddressFamily
  prefixLen : UInt8
  attributes : List AddressAttribute
  deriving DecidableEq, Repr

inductive LinkAttribute where
  | ifName (name : String)
  | address (address : Bytes)
  | mtu (mtu : UInt32)
  deriving DecidableEq, Repr

structure LinkMessage where
  index : UInt32 := 0
  flags : UInt32 := 0
  changeMask : UInt32 := 0
  attributes : List LinkAttribute := []
  deriving DecidableEq, Repr

inductive NetlinkError where
  | requestFailed
  | invalidAddress
  | netlinkError (message : String)
  deriving DecidableEq, Repr

/-! ## Interfaces -/

def IFF_UP : UInt32 := 0x1
def IFF_MASTER : UInt32 := 0x400
def IFF_SLAVE : UInt32 := 0x800

structure Link where
  name : String
  index : UInt32
  flags : UInt32
  /-- the hardware address -/
  address : Bytes
  mtu : UInt32
  addresses : List AddressMessage := []
  deriving DecidableEq, Repr

namespace Link

/-- What a netlink query shows of an interface. -/
def message (link : Link) : LinkMessage where
  index := link.index
  flags := link.flags
  attributes := [.ifName link.name, .mtu link.mtu, .address link.address]

def applyAttribute (link : Link) : LinkAttribute → Link
  | .ifName _ => link
  | .address address => { link with address }
  | .mtu mtu => { link with mtu }

/-- What a netlink request makes of an interface. -/
def apply (link : Link) (message : LinkMessage) : Link :=
  message.attributes.foldl applyAttribute
    { link with flags := (link.flags &&& ~~~message.changeMask) ||| (message.flags &&& message.changeMask) }

/-- The name and the index of an interface, which nothing changes here. -/
def identity (link : Link) : String × UInt32 := (link.name, link.index)

theorem identity_apply (link : Link) (message : LinkMessage) : (link.apply message).identity = link.identity := by
  have each : ∀ (attributes : List LinkAttribute) (link : Link),
      (attributes.foldl applyAttribute link).identity = link.identity := by
    intro attributes
    induction attributes with
    | nil => exact fun _ => rfl
    | cons entry attributes inductionHypothesis =>
      intro link
      rw [List.foldl_cons, inductionHypothesis]
      cases entry <;> rfl
  exact each message.attributes _

end Link

/-- The interfaces, each with a name and an index of its own. -/
structure Kernel where
  links : List Link
  names_nodup : (links.map Link.name).Nodup
  indices_nodup : (links.map Link.index).Nodup

namespace Kernel

def find (kernel : Kernel) (name : String) : Option Link := kernel.links.find? fun link => link.name == name

/-- Changes every interface in a way that leaves its name and its index. -/
def map (kernel : Kernel) (change : Link → Link) (keeps : ∀ link, (change link).identity = link.identity) : Kernel where
  links := kernel.links.map change
  names_nodup := by
    have names : Link.name ∘ change = Link.name := funext fun link => congrArg Prod.fst (keeps link)
    rw [List.map_map, names]
    exact kernel.names_nodup
  indices_nodup := by
    have indices : Link.index ∘ change = Link.index := funext fun link => congrArg Prod.snd (keeps link)
    rw [List.map_map, indices]
    exact kernel.indices_nodup

theorem find_map (kernel : Kernel) {change : Link → Link} (keeps : ∀ link, (change link).identity = link.identity)
    (name : String) : (kernel.map change keeps).find name = (kernel.find name).map change := by
  have names : (fun link : Link => link.name == name) ∘ change = fun link => link.name == name :=
    funext fun link => congrArg (· == name) (congrArg Prod.fst (keeps link))
  rw [find, map, List.find?_map, names]
  rfl

/-- Changes the interface of an index. -/
def changeAt (kernel : Kernel) (index : UInt32) (change : Link → Link)
    (keeps : ∀ link, (change link).identity = link.identity) : Kernel :=
  kernel.map (fun link => if link.index = index then change link else link) fun link => by
    split
    · exact keeps link
    · rfl

theorem find_changeAt (kernel : Kernel) (index : UInt32) {change : Link → Link}
    (keeps : ∀ link, (change link).identity = link.identity) (name : String) :
    (kernel.changeAt index change keeps).find name =
      (kernel.find name).map fun link => if link.index = index then change link else link :=
  kernel.find_map _ name

theorem name_of_find {kernel : Kernel} {name : String} {link : Link} (found : kernel.find name = some link) :
    link.name = name := by
  have isNamed := List.find?_some found
  exact eq_of_beq isNamed

/-- An index belongs to one name. -/
theorem name_of_index {kernel : Kernel} {name name' : String} {link link' : Link}
    (found : kernel.find name = some link) (found' : kernel.find name' = some link')
    (sameIndex : link.index = link'.index) : name = name' := by
  have member := List.mem_of_find?_eq_some found
  have member' := List.mem_of_find?_eq_some found'
  have same : link = link' := List.inj_on_of_nodup_map kernel.indices_nodup member member' sameIndex
  rw [← name_of_find found, ← name_of_find found', same]

end Kernel

/-! ## The world -/

/-- The fields of `NetworkInterface` beside its netlink handle. -/
structure NetworkInterface where
  verbose : Bool
  abiVer : Int
  hwaddrSet : Bool

inductive ErrorKind where
  | notFound
  | invalidInput
  | other
  deriving DecidableEq, Repr

/-- `io::Error`. -/
structure IoError where
  kind : ErrorKind
  message : String
  deriving DecidableEq, Repr

/-- What is printed, as the values it shows. -/
inductive Output where
  | usage
  | macIs (name : String) (mac : MacAddr)
  | macSet (name : String) (mac : MacAddr)
  | mtuIs (name : String) (mtu : UInt32)
  | mtuSet (name : String) (mtu : UInt32)
  | enabled (name : String)
  | disabled (name : String)
  | addressCleared (name : String)
  | addressSet (name : String) (address : IpAddr)
  | enslaved (master slave : String)
  | released (master slave : String)
  | activeChanged (master slave : String)
  /-- `display_interface_with_ip` -/
  | interface (link : LinkMessage) (ip : Ipv4Addr)
  /-- a line on standard error -/
  | error (line : String)
  deriving DecidableEq

inductive Event where
  | setLink (message : LinkMessage) (failure : Option NetlinkError)
  | addAddress (index : UInt32) (address : IpAddr) (prefixLen : UInt8) (failure : Option NetlinkError)
  | delAddress (message : AddressMessage) (failure : Option NetlinkError)
  | writeFile (path contents : String) (failure : Option String)
  | setHwaddrSet (value : Bool)
  | printed (output : Output)
  /-- `enslave` returned for this slave -/
  | enslaved (slave : String) (result : Except IoError Unit)
  deriving DecidableEq

/-- What the program and the system know at one time. -/
structure Moment where
  kernel : Kernel
  network : NetworkInterface

/-- The answers of the system, access by access. -/
structure Environment where
  /-- whether a query of an interface fails -/
  readFailures : Stream' (Option NetlinkError)
  /-- whether a dump fails, and behind how many messages -/
  dumpFailures : Stream' (Option (Nat × NetlinkError))
  writeFailures : Stream' (Option NetlinkError)
  sysfsFailures : Stream' (Option String)
  /-- what a write to a file under `/sys` makes of the flags of an interface; it is assumed to change nothing else -/
  sysfsFlags : (path contents name : String) → UInt32 → UInt32

structure World extends Environment, Moment where
  /-- the events, each with the moment before it, the last one first -/
  log : List (Event × Moment) := []

/-- The world before `NetworkInterface::new`. -/
def World.start (environment : Environment) (kernel : Kernel) : World :=
  { environment with kernel, network := { verbose := false, abiVer := 0, hwaddrSet := false } }

/-- An event, and what it makes of the moment. -/
def World.enter (world : World) (event : Event) (next : Moment) : World :=
  { world with toMoment := next, log := (event, world.toMoment) :: world.log }

/-- An event that changes nothing. -/
def World.note (world : World) (event : Event) : World := world.enter event world.toMoment

end Utiputils.Ifenslave
