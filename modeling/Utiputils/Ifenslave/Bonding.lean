import Utiputils.Ifenslave.Network

/-! # Bonding

`change_active`, `enslave`, `release` and `main_run`. -/

namespace Utiputils.Ifenslave

open Utiputils.Lib Utiputils.Pnet Proc Fallible

abbrev Io (Result : Type) := Fallible World IoError Result

/-! ## Steps -/

/-- Any failure of the request is reported as this one. -/
def orFail {Result : Type} (request : Netlink Result) (kind : ErrorKind) (message : String) : Io Result :=
  request.mapError fun _ => ⟨kind, message⟩

/-- `fs::write` of a file under `/sys`. -/
def writeFile (path contents : String) : Fallible World String Unit := ExceptT.mk (modifyGet fun world =>
  let failure := world.sysfsFailures.head
  let world := { world with sysfsFailures := world.sysfsFailures.tail }
  match failure with
  | some error => (.error error, world.note (.writeFile path contents failure))
  | none =>
    let kernel := world.kernel.map
      (fun link => { link with flags := world.sysfsFlags path contents link.name link.flags }) fun _ => rfl
    (.ok (), world.enter (.writeFile path contents none) { world.toMoment with kernel }))

def setHwaddrSet (value : Bool) : Io Unit := ExceptT.lift (modify fun world =>
  world.enter (.setHwaddrSet value) { world.toMoment with network := { world.network with hwaddrSet := value } })

def theNetwork : Io NetworkInterface := ExceptT.lift do
  let world ← get
  pure world.network

/-- What only the oldest version of the driver leaves to the program. -/
def whenOld (step : Io Unit) : Io Unit := do
  let network ← theNetwork
  if network.abiVer < 1 then step else pure ()

def slaveFlags (slave : String) : Io UInt32 :=
  orFail (getInterfaceFlags slave) .notFound ("Slave interface '" ++ slave ++ "' not found")

def disableSlave (slave : String) : Io Unit :=
  orFail (setInterfaceDown slave) .other ("Slave interface '" ++ slave ++ "': Failed to disable interface")

/-! ## Enslaving -/

/-- Handle IP configuration. -/
def matchAddresses (master slave : String) : Io Unit := do
  let network ← theNetwork
  if network.abiVer < 2 then
    orFail (copyAddressConfig master slave) .other ("Slave interface '" ++ slave ++ "': Failed to set address")
  else orFail (clearInterfaceAddress slave) .other ("Slave interface '" ++ slave ++ "': Failed to clear address")

/-- Match MTU. -/
def matchMtu (master slave : String) : Io Unit := do
  let masterMtu ← orFail (getInterfaceMtu master) .other ("Master interface '" ++ master ++ "': Failed to get MTU")
  let slaveMtu ← orFail (getInterfaceMtu slave) .other ("Slave interface '" ++ slave ++ "': Failed to get MTU")
  if masterMtu ≠ slaveMtu then
    orFail (setInterfaceMtu slave masterMtu) .other ("Slave interface '" ++ slave ++ "': Failed to set MTU")
  else pure ()

/-- Master interface already has a hardware address. -/
def followMaster (slave : String) (masterMac : MacAddr) : Io Unit := whenOld do
  orFail (setInterfaceMac slave masterMac) .other
    ("Slave interface '" ++ slave ++ "': Failed to set hardware address")
  orFail (setInterfaceUp slave) .other ("Slave interface '" ++ slave ++ "': Failed to enable interface")

/-- Master interface does not have a hardware address, use the hardware address of the slave interface. -/
def adoptAddress (master : String) (slaveMac : MacAddr) : Io Unit := do
  whenOld (orFail (setInterfaceDown master) .other
    ("Master interface '" ++ master ++ "': Failed to disable interface"))
  orFail (setInterfaceMac master slaveMac) .other
    ("Master interface '" ++ master ++ "': Failed to set hardware address")
  whenOld (orFail (setInterfaceUp master) .other
    ("Master interface '" ++ master ++ "': Failed to enable interface"))
  setHwaddrSet true

def noticeMasterMac (masterMac zeroMac : MacAddr) : Io Unit :=
  if masterMac ≠ zeroMac then setHwaddrSet true else pure ()

/-- Handle hardware address. -/
def matchHardwareAddress (fromStr : String → Option MacAddr) (master slave : String) : Io Unit := do
  let masterMac ← orFail (getInterfaceMac fromStr master) .other
    ("Master interface '" ++ master ++ "': Failed to get hardware address")
  let slaveMac ← orFail (getInterfaceMac fromStr slave) .other
    ("Slave interface '" ++ slave ++ "': Failed to get hardware address")
  match fromStr "00:00:00:00:00:00" with
  | none => ExceptT.lift stop
  | some zeroMac =>
    noticeMasterMac masterMac zeroMac
    let network ← theNetwork
    if network.hwaddrSet then followMaster slave masterMac else adoptAddress master slaveMac

def slavesFile (master : String) : String := "/sys/class/net/" ++ master ++ "/bonding/slaves"

/-- Perform the actual bonding operation via sysfs. -/
def attach (master slave : String) : Io Unit := do
  (writeFile (slavesFile master) ("+" ++ slave)).mapError fun failure => ⟨.other,
    "Master interface '" ++ master ++ "': Failed to add slave interface '" ++ slave ++ "': " ++ failure⟩
  report (.enslaved master slave)

def refuseSlave (slave : String) (flags : UInt32) : Io Unit :=
  if flags &&& IFF_SLAVE ≠ 0 then
    throw ⟨.invalidInput,
      "Invalid operation: Specified slave interface '" ++ slave ++ "' is already a slave device"⟩
  else pure ()

def enslave (fromStr : String → Option MacAddr) (master slave : String) : Io Unit := do
  let flags ← slaveFlags slave
  refuseSlave slave flags
  disableSlave slave
  matchAddresses master slave
  matchMtu master slave
  matchHardwareAddress fromStr master slave
  attach master slave

/-! ## Releasing and changing the active slave -/

def requireSlave (slave : String) (flags : UInt32) : Io Unit :=
  if flags &&& IFF_SLAVE = 0 then
    throw ⟨.invalidInput, "Invalid operation: Specified slave interface '" ++ slave ++ "' is not a slave device"⟩
  else pure ()

def release (master slave : String) : Io Unit := do
  let flags ← slaveFlags slave
  requireSlave slave flags
  (writeFile (slavesFile master) ("-" ++ slave)).mapError fun failure => ⟨.other,
    "Master interface '" ++ master ++ "': Failed to release slave interface '" ++ slave ++ "': " ++ failure⟩
  whenOld (disableSlave slave)
  orFail (setInterfaceMtu slave 1500) .other ("Slave interface '" ++ slave ++ "': Failed to set default MTU")
  report (.released master slave)

def changeActive (master slave : String) : Io Unit := do
  let _ ← orFail (getLinkIndex master) .notFound ("Master interface '" ++ master ++ "' not found")
  let _ ← orFail (getLinkIndex slave) .notFound ("Slave interface '" ++ slave ++ "' not found")
  let flags ← orFail (getInterfaceFlags slave) .other ("Failed to get flags of slave interface '" ++ slave ++ "'")
  requireSlave slave flags
  -- the name without the plus sign
  (writeFile ("/sys/class/net/" ++ master ++ "/bonding/active_slave") slave).mapError fun failure => ⟨.other, failure⟩
  report (.activeChanged master slave)

/-! ## The command -/

/-- The options that `main_run` reads. -/
structure IfenslaveConfig where
  allInterfaces : Bool := false
  changeActive : Bool := false
  detach : Bool := false
  verbose : Bool := false
  interfaces : List String := []

def IfenslaveConfig.isShowMode (self : IfenslaveConfig) : Bool :=
  self.interfaces.length == 1 && !self.allInterfaces

/-- A slave of the batch; whether the operation failed. -/
def enslaveOne (fromStr : String → Option MacAddr) (master slave : String) : Proc World Bool := do
  let result ← (enslave fromStr master slave).run
  modify (·.note (.enslaved slave result))
  match result with
  | .ok _ => pure false
  | .error e =>
    print (.error ("Master interface '" ++ master ++ "', Slave interface '" ++ slave ++ "': Error: Add failed: " ++
      e.message))
    pure true

def releaseOne (master slave : String) : Proc World Bool := do
  match ← (release master slave).run with
  | .ok _ => pure false
  | .error e =>
    print (.error ("Master interface '" ++ master ++ "', Slave interface '" ++ slave ++ "': Error: Detach failed: " ++
      e.message))
    pure true

/-- The batch; whether there were errors. -/
def batch (operation : String → Proc World Bool) : List String → Bool → Proc World Bool
  | [], errors => pure errors
  | slave :: slaves, errors => do
    let failed ← operation slave
    batch operation slaves (errors || failed)

def errorsOccurred (errors : Bool) : Io Unit :=
  if errors then throw ⟨.other, "Errors occurred while processing one or more interfaces"⟩ else pure ()

/-- Whether the flag is set on an interface; a failed query says no. -/
def hasFlag (name : String) (flag : UInt32) : Io Bool := ExceptT.lift do
  match ← (getInterfaceFlags name).run with
  | .ok flags => pure (flags &&& flag != 0)
  | .error _ => pure false

def requireFlag (name : String) (flag : UInt32) (message : String) : Io Unit := do
  if ← hasFlag name flag then pure () else throw ⟨.invalidInput, message⟩

/-- What `main_run` does with a master and slaves. -/
def operate (fromStr : String → Option MacAddr) (optArgs : IfenslaveConfig) (master : String) (slaves : List String) :
    Io Unit := do
  requireFlag master IFF_MASTER
    ("Invalid operation: Specified interface '" ++ master ++ "' is not a master interface")
  requireFlag master IFF_UP
    ("Invalid operation: Specified master interface '" ++ master ++ "' is not enabled")
  if optArgs.changeActive then
    match slaves with
    | [slave] => (Ifenslave.changeActive master slave).mapError fun e => ⟨.other,
        "Master interface '" ++ master ++ "', Slave interface '" ++ slave ++
          "': Error: Failed to change active slave: " ++ e.message⟩
    | _ => throw ⟨.invalidInput, "Error: Change active slave option only accepts one slave interface argument"⟩
  else if optArgs.detach then do
    let errors ← ExceptT.lift (batch (releaseOne master) slaves false)
    errorsOccurred errors
  else do
    let errors ← ExceptT.lift (batch (enslaveOne fromStr master) slaves false)
    errorsOccurred errors

/-- `NetworkInterface::new`; `connection` is the outcome of `new_connection`. -/
def newNetwork (verbose : Bool) (connection : Except String Unit) (abiVersion : Option Int) : Io Unit :=
  match connection with
  | .error _ => throw ⟨.other, "Failed to initialize network interface: Failed to create network connection"⟩
  | .ok _ => ExceptT.lift (modify fun world =>
      { world with network := { verbose, abiVer := abiVersion.getD 0, hwaddrSet := false } })

/-- What `main_run` does once it has a connection. -/
def mainRunWith (fromStr : String → Option MacAddr) (showError : NetlinkError → String) (optArgs : IfenslaveConfig) :
    Io Unit :=
  if optArgs.allInterfaces then
    if optArgs.interfaces.isEmpty then
      (showInterfaces none).mapError fun e => ⟨.other, "Failed to display interface information: " ++ showError e⟩
    else throw ⟨.invalidInput, "Error: -a option does not accept interface arguments"⟩
  else
    match optArgs.interfaces with
    | [] => do
      ExceptT.lift (print .usage)
      throw ⟨.invalidInput, "No interface specified"⟩
    | master :: slaves => do
      orFail (getDrvInfo master) .other ("Master '" ++ master ++ "': Error: handshake with driver failed. Aborting")
      if optArgs.isShowMode then
        (showInterfaces (some master)).mapError fun e => ⟨.other,
          "Failed to display information for interface '" ++ master ++ "': " ++ showError e⟩
      else operate fromStr optArgs master slaves

def mainRun (fromStr : String → Option MacAddr) (showError : NetlinkError → String) (optArgs : IfenslaveConfig)
    (connection : Except String Unit) (abiVersion : Option Int) : Io Unit := do
  newNetwork optArgs.verbose connection abiVersion
  mainRunWith fromStr showError optArgs

end Utiputils.Ifenslave
