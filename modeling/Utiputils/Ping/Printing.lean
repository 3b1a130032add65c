import Utiputils.Lib.EventLog
import Utiputils.Lib.Transcript
import Utiputils.Ping.Names
import Utiputils.Ping.RecordRoute
import Utiputils.Ping.Run

/-! # What a session prints of its replies

`print_response_cached_with_ident` and the lines of `parse_record_route_option`, called in the order in which the echo
loops call them. Both ask `get_hostname_cached` for the names, and the second compares a route with the one before;
nothing else is carried from call to call. Floating point numbers are put into text by `showMillis` and by the clock. -/

namespace Utiputils.Ping

open Utiputils.Lib Utiputils.Pnet Proc

/-! ## The world -/

/-- `shuffle`: the same addresses in some order. -/
structure Shuffle where
  apply : List Ipv4Addr → List Ipv4Addr
  perm : ∀ ips, (apply ips).Perm ips

/-- What the system answers to the functions that print, call by call. -/
structure Surroundings where
  /-- `datalink::interfaces`: names and addresses -/
  interfaces : Stream' (List (String × List IpAddr))
  /-- `timestamp_nanos_opt`, in seconds -/
  timestamps : Stream' (Option String)
  shuffles : Stream' Shuffle

inductive PrintEvent where
  /-- `get_hostname_cached` has returned -/
  | named (ip hostname : String)
  /-- the clock has been read -/
  | clock (timestamp : Option String)
  | text (text : String)
  deriving DecidableEq, Repr

structure PrintWorld extends Surroundings where
  dnsCache : DnsCache := {}
  lastRrRaw : Bytes := []
  log : List PrintEvent := []

/-- From the empty caches of `init_runtime_fields` on. -/
def PrintWorld.start (surroundings : Surroundings) : PrintWorld := { surroundings with }

def printText (text : String) : Proc PrintWorld Unit :=
  modify fun world => { world with log := world.log ++ [.text text] }

def interfaces : Proc PrintWorld (List (String × List IpAddr)) :=
  modifyGet fun world => (world.interfaces.head, { world with interfaces := world.interfaces.tail })

def timestampNanosOpt : Proc PrintWorld (Option String) :=
  modifyGet fun world =>
    let timestamp := world.timestamps.head
    (timestamp, { world with timestamps := world.timestamps.tail, log := world.log ++ [.clock timestamp] })

def shuffle : Proc PrintWorld Shuffle :=
  modifyGet fun world => (world.shuffles.head, { world with shuffles := world.shuffles.tail })

/-! ## Link-local addresses -/

def isIpv6LinkLocal (ipv6 : Ipv6Addr) : Bool := be16 ipv6.octets[0] ipv6.octets[1] &&& 0xffc0 == 0xfe80

/-- The interface with the address, or else the first one with any link-local address. -/
def getInterfaceForLinkLocal (ipv6 : Ipv6Addr) : Proc PrintWorld String := do
  match (← interfaces).find? fun interface => interface.2.contains (.v6 ipv6) with
  | some interface => pure interface.1
  | none =>
    let others ← interfaces
    let linkLocal := others.find? fun interface => interface.2.any fun
      | .v4 _ => false
      | .v6 ipv6 => isIpv6LinkLocal ipv6
    pure ((linkLocal.map Prod.fst).getD "lo")

/-- Behind a link-local address stands its interface. -/
def withInterface (ip : IpAddr) (text : String) : Proc PrintWorld String :=
  match ip with
  | .v4 _ => pure text
  | .v6 ipv6 =>
    if isIpv6LinkLocal ipv6 then do return text ++ "%" ++ (← getInterfaceForLinkLocal ipv6)
    else pure text

section

variable (pgConfig : PingConfig) (showIpv6 : Ipv6Addr → String) (showMillis : Duration → String)
  (getnameinfo : Nat → Getnameinfo)

def showIp : IpAddr → String
  | .v4 addr => addr.display
  | .v6 addr => showIpv6 addr

/-- `get_hostname_cached` on the cache of the world. -/
def askHostname (ip : String) : Proc PrintWorld String :=
  modifyGet fun world =>
    let asked := getHostnameCached pgConfig getnameinfo world.dnsCache ip
    (asked.1, { world with dnsCache := asked.2, log := world.log ++ [.named ip asked.1] })

/-! ## Responses -/

/-- The user gave an address, not a name. -/
def hostIsAddress : Bool := (pgConfig.host.bind IpAddr.parse).isSome

def fromInfo (ip : IpAddr) (hostname : String) : Proc PrintWorld String :=
  if pgConfig.numericOnly then withInterface ip hostname
  else if hostIsAddress pgConfig then withInterface ip (showIp showIpv6 ip)
  else do return hostname ++ " (" ++ (← withInterface ip (showIp showIpv6 ip)) ++ ")"

def responseMessage (fromInfo : String) (seq : UInt16) (rtt : Duration) (ttl : UInt8) (ident : UInt16) : String :=
  toString (pgConfig.packetSize + 8) ++ " bytes from " ++ fromInfo ++ ": icmp_seq=" ++ toString seq.toNat ++
    (if pgConfig.verbose then " ident=" ++ toString ident.toNat else "") ++ " ttl=" ++ toString ttl.toNat ++
    " time=" ++ showMillis rtt ++ " ms"

def printMessage (message : String) : Proc PrintWorld Unit := do
  if pgConfig.printTimestamp then
    match ← timestampNanosOpt with
    | some timestamp => printText ("[" ++ timestamp ++ "] " ++ message ++ "\n")
    | none => pure ()
  else printText (if pgConfig.count.isSome then message else message ++ "\n")

def printResponseCachedWithIdent (ip : IpAddr) (seq : UInt16) (rtt : Duration) (ttl : UInt8) (ident : UInt16) :
    Proc PrintWorld Unit :=
  if pgConfig.quiet then pure ()
  else do
    -- asked for whether it is shown or not
    let hostname ← askHostname pgConfig getnameinfo (showIp showIpv6 ip)
    let fromInfo ← fromInfo pgConfig showIpv6 ip hostname
    printMessage pgConfig (responseMessage pgConfig showMillis fromInfo seq rtt ttl ident)

/-! ## Record routes -/

def sameRouteText (hasNop : Bool) : String :=
  if pgConfig.count.isSome then if hasNop then " NOP\t(same route)" else "    (same route)"
  else if hasNop then "NOP\t(same route)\n" else " (same route)\n"

def displayIps (rrIps : List Ipv4Addr) : Proc PrintWorld (List Ipv4Addr) :=
  if pgConfig.count.isSome then
    if pgConfig.isDirectIpInput ∧ rrIps.length ≤ 4 then pure rrIps
    else do return (← shuffle).apply rrIps.eraseDups
  else pure rrIps.eraseDups

/-- An address shows itself in the place of the name that it has not; without `-c` the first one shows
`localhost.localdomain`. -/
def namedAddress (ip : Ipv4Addr) (i : Nat) (hostname : String) : String :=
  (if pgConfig.count.isNone ∧ i = 0 ∧ hostname = ip.display then "localhost.localdomain" else hostname) ++
    " (" ++ ip.display ++ ")"

def printAddress (ip : Ipv4Addr) (i : Nat) : Proc PrintWorld Unit := do
  printText (if 0 < i then "\n\t" else "\t")
  if pgConfig.numericOnly ∨ pgConfig.isDirectIpInput then printText ip.display
  else
    let hostname ← askHostname pgConfig getnameinfo ip.display
    printText (namedAddress pgConfig ip i hostname)

/-- What stands before the addresses. -/
def routeHeading (hasNop : Bool) : List String :=
  (if hasNop then ["NOP\n"] else []) ++ (if pgConfig.count.isSome then ["\n"] else []) ++ ["RR: "]

def RouteReport.print : RouteReport → Proc PrintWorld Unit
  | .nothing => pure ()
  | .sameRoute hasNop => printText (sameRouteText pgConfig hasNop)
  | .route hasNop rrIps => do
    (routeHeading pgConfig hasNop).forM printText
    let displayIps ← displayIps pgConfig rrIps
    displayIps.zipIdx.forM fun item => printAddress pgConfig getnameinfo item.1 item.2
    printText "\n"

def printRecordRoute (optionData : Bytes) : Proc PrintWorld Unit := do
  let world ← get
  match parseRecordRouteOption optionData pgConfig world.lastRrRaw with
  -- an index or a slice panics
  | none => stop
  | some (report, lastRrRaw) =>
    modify fun world => { world with lastRrRaw }
    report.print pgConfig getnameinfo

/-! ## The calls of a session -/

/-- A call of one of the two functions. -/
inductive HostCall where
  | response (ip : IpAddr) (seq : UInt16) (rtt : Duration) (ttl : UInt8)
  | recordRoute (options : Bytes)

def HostCall.print : HostCall → Proc PrintWorld Unit
  | .response ip seq rtt ttl =>
    printResponseCachedWithIdent pgConfig showIpv6 showMillis getnameinfo ip seq rtt ttl pgConfig.identifier
  | .recordRoute options => printRecordRoute pgConfig getnameinfo options

end

def Output.hostCall : Output → Option HostCall
  | .response ip seq rtt ttl => some (.response ip seq rtt ttl)
  | .recordRoute options => some (.recordRoute options)
  | _ => none

def Event.hostCall : Event → Option HostCall
  | .printed output => output.hostCall
  | _ => none

/-- These calls in the log of a session. -/
def hostCalls (log : List Record) : List HostCall := log.filterMap fun record => record.event.hostCall

/-! ## What a call has to print -/

/-- Only behind a link-local address something more stands. -/
def BehindInterface (ip : IpAddr) (text shown : String) : Prop :=
  match ip with
  | .v4 _ => shown = text
  | .v6 ipv6 => if isIpv6LinkLocal ipv6 then ∃ interface, shown = text ++ "%" ++ interface else shown = text

section

variable (pgConfig : PingConfig) (showIpv6 : Ipv6Addr → String) (showMillis : Duration → String)

/-- The sender of a response, by the name that has been given for it. -/
def ShowsSender (ip : IpAddr) (hostname shown : String) : Prop :=
  if pgConfig.numericOnly then BehindInterface ip hostname shown
  else if hostIsAddress pgConfig then BehindInterface ip (showIp showIpv6 ip) shown
  else ∃ address, BehindInterface ip (showIp showIpv6 ip) address ∧ shown = hostname ++ " (" ++ address ++ ")"

/-- A message behind the time that is asked for; where the clock is out of range, none. -/
def messageText (message : String) : Language PrintEvent :=
  if pgConfig.printTimestamp then
    { word | word = [.clock none] ∨
      ∃ timestamp, word = [.clock (some timestamp), .text ("[" ++ timestamp ++ "] " ++ message ++ "\n")] }
  else {[.text (if pgConfig.count.isSome then message else message ++ "\n")]}

def responseText (ip : IpAddr) (seq : UInt16) (rtt : Duration) (ttl : UInt8) : Language PrintEvent :=
  if pgConfig.quiet then 1
  else
    { word | ∃ hostname shown text, word = .named (showIp showIpv6 ip) hostname :: text ∧
      ShowsSender pgConfig showIpv6 ip hostname shown ∧
      text ∈ messageText pgConfig (responseMessage pgConfig showMillis shown seq rtt ttl pgConfig.identifier) }

/-- The addresses that are shown of a route: each once, with `-c` in any order; all of them when the input is an
address and the route is short. -/
def Displays (rrIps ips : List Ipv4Addr) : Prop :=
  if pgConfig.count.isSome then
    if pgConfig.isDirectIpInput ∧ rrIps.length ≤ 4 then ips = rrIps else ips.Perm rrIps.eraseDups
  else ips = rrIps.eraseDups

/-- An address of a route, with its place. -/
def addressText (item : Ipv4Addr × Nat) : Language PrintEvent :=
  let separator := PrintEvent.text (if 0 < item.2 then "\n\t" else "\t")
  if pgConfig.numericOnly ∨ pgConfig.isDirectIpInput then {[separator, .text item.1.display]}
  else
    { word | ∃ hostname,
      word = [separator, .named item.1.display hostname, .text (namedAddress pgConfig item.1 item.2 hostname)] }

def reportText : RouteReport → Language PrintEvent
  | .nothing => 1
  | .sameRoute hasNop => {[.text (sameRouteText pgConfig hasNop)]}
  | .route hasNop rrIps =>
    { word | ∃ ips addresses, word = (routeHeading pgConfig hasNop).map .text ++ addresses ++ [.text "\n"] ∧
      Displays pgConfig rrIps ips ∧ addresses ∈ (ips.zipIdx.map (addressText pgConfig)).prod }

/-- With these bytes of the route before. -/
def callText (lastRrRaw : Bytes) : HostCall → Language PrintEvent
  | .response ip seq rtt ttl => responseText pgConfig showIpv6 showMillis ip seq rtt ttl
  | .recordRoute options =>
    { word | ∃ report rrRaw, parseRecordRouteOption options pgConfig lastRrRaw = some (report, rrRaw) ∧
      word ∈ reportText pgConfig report }

/-- The bytes that the next route is compared with. -/
def HostCall.rrRawBehind (lastRrRaw : Bytes) : HostCall → Bytes
  | .response .. => lastRrRaw
  | .recordRoute options => ((parseRecordRouteOption options pgConfig lastRrRaw).map Prod.snd).getD lastRrRaw

/-- What a session prints with these calls, the names asked for and the readings of the clock among it. -/
def callsText (lastRrRaw : Bytes) : List HostCall → Language PrintEvent
  | [] => 1
  | call :: calls => callText pgConfig showIpv6 showMillis lastRrRaw call *
      callsText (call.rrRawBehind pgConfig lastRrRaw) calls

end

/-! ## What it prints -/

def PrintEvent.pair : PrintEvent → Option (String × String)
  | .named ip hostname => some (ip, hostname)
  | _ => none

/-- The names that have been given, each with its address. -/
def PrintWorld.named (world : PrintWorld) : List (String × String) := world.log.filterMap PrintEvent.pair

section

variable {pgConfig : PingConfig} {showIpv6 : Ipv6Addr → String} {showMillis : Duration → String}
  {getnameinfo : Nat → Getnameinfo} {lastRrRaw : Bytes}

/-- With `-n` the addresses stand for themselves and nothing is looked up; else the cache is sound. -/
def NamesSound (pgConfig : PingConfig) (getnameinfo : Nat → Getnameinfo) (world : PrintWorld) : Prop :=
  if pgConfig.numericOnly then (∀ pair ∈ world.named, pair.2 = pair.1) ∧ world.dnsCache.lookups = []
  else Memo.Sound 1000 (fun lookup => hostnameOf (getnameinfo lookup)) world.named world.dnsCache

/-- The invariant between two changes of `last_rr_raw`. -/
structure Stands (pgConfig : PingConfig) (getnameinfo : Nat → Getnameinfo) (lastRrRaw : Bytes) (world : PrintWorld) :
    Prop where
  names : NamesSound pgConfig getnameinfo world
  raw : world.lastRrRaw = lastRrRaw

/-- Another name. -/
theorem NamesSound.ask {world later : PrintWorld} (sound : NamesSound pgConfig getnameinfo world) (ip : String)
    (named : later.named = world.named ++ [(ip, (getHostnameCached pgConfig getnameinfo world.dnsCache ip).1)])
    (cached : later.dnsCache = (getHostnameCached pgConfig getnameinfo world.dnsCache ip).2) :
    NamesSound pgConfig getnameinfo later := by
  rw [NamesSound] at sound ⊢
  rw [named, cached]
  by_cases numeric : pgConfig.numericOnly = true
  · rw [if_pos numeric] at sound ⊢
    rw [getHostnameCached_numeric numeric]
    exact ⟨List.forall_mem_append.mpr ⟨sound.1, List.forall_mem_singleton.mpr rfl⟩, sound.2⟩
  · rw [if_neg numeric] at sound ⊢
    rw [getHostnameCached_named (Bool.eq_false_of_not_eq_true numeric)]
    exact sound.ask ip

/-- An entry that gives no name. -/
theorem Stands.aside {world later : PrintWorld} (here : Stands pgConfig getnameinfo lastRrRaw world)
    {event : PrintEvent} (entered : later.log = world.log ++ [event]) (nameless : event.pair = none)
    (sameCache : later.dnsCache = world.dnsCache) (sameRaw : later.lastRrRaw = world.lastRrRaw) :
    Stands pgConfig getnameinfo lastRrRaw later := by
  have sameNames : later.named = world.named := by
    rw [PrintWorld.named, entered, filterMap_concat, nameless]
    exact List.append_nil _
  refine ⟨?_, sameRaw.trans here.raw⟩
  rw [NamesSound, sameNames, sameCache]
  exact here.names

theorem emits_printText (text : String) :
    Emits PrintWorld.log (Stands pgConfig getnameinfo lastRrRaw) (printText text) (fun _ => {[.text text]})
      (fun _ => Stands pgConfig getnameinfo lastRrRaw) 0 :=
  emits_modify fun _ here => ⟨here.aside rfl rfl rfl rfl, _, rfl, rfl⟩

theorem emits_timestampNanosOpt :
    Emits PrintWorld.log (Stands pgConfig getnameinfo lastRrRaw) timestampNanosOpt
      (fun timestamp => {[.clock timestamp]}) (fun _ => Stands pgConfig getnameinfo lastRrRaw) 0 :=
  emits_done fun _ here => ⟨_, _, rfl, here.aside rfl rfl rfl rfl, _, rfl, rfl⟩

theorem emits_askHostname (ip : String) :
    Emits PrintWorld.log (Stands pgConfig getnameinfo lastRrRaw) (askHostname pgConfig getnameinfo ip)
      (fun hostname => {[.named ip hostname]}) (fun _ => Stands pgConfig getnameinfo lastRrRaw) 0 :=
  emits_done fun world here =>
    ⟨_, _, rfl, ⟨here.names.ask ip (filterMap_concat PrintEvent.pair world.log _) rfl, here.raw⟩, _, rfl, rfl⟩

theorem emits_interfaces : Emits PrintWorld.log (Stands pgConfig getnameinfo lastRrRaw) interfaces (fun _ => 1)
    (fun _ => Stands pgConfig getnameinfo lastRrRaw) 0 :=
  emits_done fun _ here => ⟨_, _, rfl, ⟨here.names, here.raw⟩, [], rfl, (List.append_nil _).symm⟩

theorem emits_getInterfaceForLinkLocal (ipv6 : Ipv6Addr) :
    Emits PrintWorld.log (Stands pgConfig getnameinfo lastRrRaw) (getInterfaceForLinkLocal ipv6) (fun _ => 1)
      (fun _ => Stands pgConfig getnameinfo lastRrRaw) 0 := by
  refine emits_bind_wordless emits_interfaces fun found => ?_
  cases found.find? fun interface => interface.2.contains (.v6 ipv6) with
  | some interface => exact emits_pure (fun _ here => here) rfl
  | none => exact emits_bind_wordless emits_interfaces fun others => emits_pure (fun _ here => here) rfl

theorem emits_withInterface (ip : IpAddr) (text : String) :
    Emits PrintWorld.log (Stands pgConfig getnameinfo lastRrRaw) (withInterface ip text) (fun _ => 1)
      (fun shown world => BehindInterface ip text shown ∧ Stands pgConfig getnameinfo lastRrRaw world) 0 := by
  cases ip with
  | v4 addr => exact emits_pure (fun _ here => ⟨rfl, here⟩) rfl
  | v6 ipv6 =>
    simp only [withInterface, BehindInterface]
    split
    next => exact emits_bind_wordless (emits_getInterfaceForLinkLocal ipv6) fun interface =>
      emits_pure (fun _ here => ⟨⟨interface, rfl⟩, here⟩) rfl
    next => exact emits_pure (fun _ here => ⟨rfl, here⟩) rfl

theorem emits_fromInfo (ip : IpAddr) (hostname : String) :
    Emits PrintWorld.log (Stands pgConfig getnameinfo lastRrRaw) (fromInfo pgConfig showIpv6 ip hostname) (fun _ => 1)
      (fun shown world =>
        ShowsSender pgConfig showIpv6 ip hostname shown ∧ Stands pgConfig getnameinfo lastRrRaw world) 0 := by
  simp only [fromInfo, ShowsSender]
  split
  next => exact emits_withInterface ip hostname
  next =>
    split
    next => exact emits_withInterface ip (showIp showIpv6 ip)
    next => exact emits_bind_wordless (emits_withInterface ip (showIp showIpv6 ip)) fun address =>
      emits_pure (fun _ reached => ⟨⟨address, reached.1, rfl⟩, reached.2⟩) rfl

theorem emits_printMessage (message : String) :
    Emits PrintWorld.log (Stands pgConfig getnameinfo lastRrRaw) (printMessage pgConfig message)
      (fun _ => messageText pgConfig message) (fun _ => Stands pgConfig getnameinfo lastRrRaw) 0 := by
  by_cases stamped : pgConfig.printTimestamp = true
  · simp only [printMessage, messageText, stamped, ↓reduceIte]
    refine emits_bind emits_timestampNanosOpt bot_le fun timestamp _ read => ?_
    cases read
    cases timestamp with
    | none => exact emits_pure (fun _ here => here) (.inl rfl)
    | some timestamp =>
      exact emits_conseq (emits_printText _) (fun _ here => here)
        (fun _ word member => by cases member; exact .inr ⟨timestamp, rfl⟩) (fun _ _ reached => reached) bot_le
  · simp only [printMessage, messageText, stamped, Bool.false_eq_true, ↓reduceIte]
    exact emits_printText _

theorem emits_printResponse (ip : IpAddr) (seq : UInt16) (rtt : Duration) (ttl : UInt8) :
    Emits PrintWorld.log (Stands pgConfig getnameinfo lastRrRaw)
      (printResponseCachedWithIdent pgConfig showIpv6 showMillis getnameinfo ip seq rtt ttl pgConfig.identifier)
      (fun _ => responseText pgConfig showIpv6 showMillis ip seq rtt ttl)
      (fun _ => Stands pgConfig getnameinfo lastRrRaw) 0 := by
  by_cases quiet : pgConfig.quiet = true
  · simp only [printResponseCachedWithIdent, responseText, quiet, ↓reduceIte]
    exact emits_pure (fun _ here => here) rfl
  · simp only [printResponseCachedWithIdent, responseText, quiet, Bool.false_eq_true, ↓reduceIte]
    refine emits_bind (emits_askHostname _) bot_le fun hostname _ named => ?_
    cases named
    refine emits_bind_wordless (emits_fromInfo ip hostname) fun shown => ?_
    refine emits_given (fun _ reached => reached.1) fun sender => ?_
    exact emits_conseq (emits_printMessage _) (fun _ reached => reached.2)
      (fun _ text member => ⟨hostname, shown, text, rfl, sender, member⟩) (fun _ _ reached => reached) bot_le

theorem emits_displayIps (rrIps : List Ipv4Addr) :
    Emits PrintWorld.log (Stands pgConfig getnameinfo lastRrRaw) (displayIps pgConfig rrIps) (fun _ => 1)
      (fun ips world => Displays pgConfig rrIps ips ∧ Stands pgConfig getnameinfo lastRrRaw world) 0 := by
  simp only [displayIps, Displays]
  split
  next =>
    split
    next => exact emits_pure (fun _ here => ⟨rfl, here⟩) rfl
    next =>
      exact emits_done fun world here => ⟨_, _, rfl, ⟨world.shuffles.head.perm rrIps.eraseDups, here.names, here.raw⟩,
        [], rfl, (List.append_nil _).symm⟩
  next => exact emits_pure (fun _ here => ⟨rfl, here⟩) rfl

theorem emits_printAddress (item : Ipv4Addr × Nat) :
    Emits PrintWorld.log (Stands pgConfig getnameinfo lastRrRaw) (printAddress pgConfig getnameinfo item.1 item.2)
      (fun _ => addressText pgConfig item) (fun _ => Stands pgConfig getnameinfo lastRrRaw) 0 := by
  refine emits_bind (emits_printText _) bot_le fun _ word separator => ?_
  cases separator
  by_cases numeric : pgConfig.numericOnly ∨ pgConfig.isDirectIpInput
  · simp only [addressText, numeric, ↓reduceIte]
    exact emits_conseq (emits_printText _) (fun _ here => here) (fun _ word member => by cases member; rfl)
      (fun _ _ reached => reached) bot_le
  · simp only [addressText, numeric, ↓reduceIte]
    refine emits_bind (emits_askHostname _) bot_le fun hostname word named => ?_
    cases named
    exact emits_conseq (emits_printText _) (fun _ here => here)
      (fun _ word member => by cases member; exact ⟨hostname, rfl⟩) (fun _ _ reached => reached) bot_le

theorem emits_report (report : RouteReport) :
    Emits PrintWorld.log (Stands pgConfig getnameinfo lastRrRaw) (report.print pgConfig getnameinfo)
      (fun _ => reportText pgConfig report) (fun _ => Stands pgConfig getnameinfo lastRrRaw) 0 := by
  cases report with
  | nothing => exact emits_pure (fun _ here => here) rfl
  | sameRoute hasNop => exact emits_printText _
  | route hasNop rrIps =>
    refine emits_bind (emits_forM fun text _ => emits_printText text) bot_le fun _ heading isHeading => ?_
    rw [Transcript.prod_letters] at isHeading
    cases isHeading
    refine emits_bind_wordless (emits_displayIps rrIps) fun ips => ?_
    refine emits_given (fun _ reached => reached.1) fun displays => ?_
    refine emits_conseq (emits_bind (emits_forM fun item _ => emits_printAddress item) bot_le
      fun _ addresses shown => ?_) (fun _ reached => reached.2) (fun _ => le_rfl) (fun _ _ reached => reached) le_rfl
    refine emits_conseq (emits_printText "\n") (fun _ here => here) (fun _ word member => ?_)
      (fun _ _ reached => reached) bot_le
    cases member
    exact ⟨ips, addresses, (List.append_assoc ..).symm, displays, shown⟩

/-- What a call prints, and the bytes that it leaves for the next route. -/
theorem emits_call (call : HostCall) :
    Emits PrintWorld.log (Stands pgConfig getnameinfo lastRrRaw) (call.print pgConfig showIpv6 showMillis getnameinfo)
      (fun _ => callText pgConfig showIpv6 showMillis lastRrRaw call)
      (fun _ => Stands pgConfig getnameinfo (call.rrRawBehind pgConfig lastRrRaw)) 0 := by
  cases call with
  | response ip seq rtt ttl => exact emits_printResponse ip seq rtt ttl
  | recordRoute options =>
    refine emits_get_bind fun world here => ?_
    obtain ⟨⟨report, rrRaw⟩, parsed⟩ :=
      Option.isSome_iff_exists.mp (parseRecordRouteOption_isSome options pgConfig lastRrRaw)
    have behind : (HostCall.recordRoute options).rrRawBehind pgConfig lastRrRaw = rrRaw := by
      rw [HostCall.rrRawBehind, parsed]
      rfl
    simp only [here.raw, parsed, behind]
    have entered : Emits PrintWorld.log (fun state => state = world)
        (modify fun world => { world with lastRrRaw := rrRaw }) (fun _ => 1)
        (fun _ => Stands pgConfig getnameinfo rrRaw) 0 :=
      emits_modify fun _ same => ⟨⟨same ▸ here.names, rfl⟩, [], rfl, (List.append_nil _).symm⟩
    exact emits_conseq (emits_bind_wordless entered fun _ => emits_report report) (fun _ same => same)
      (fun _ word member => ⟨report, rrRaw, parsed, member⟩) (fun _ _ reached => reached) le_rfl

/-- By induction on the calls, with the bytes of the latest route along. -/
theorem emits_calls (calls : List HostCall) :
    Emits PrintWorld.log (Stands pgConfig getnameinfo lastRrRaw)
      (calls.forM fun call => call.print pgConfig showIpv6 showMillis getnameinfo)
      (fun _ => callsText pgConfig showIpv6 showMillis lastRrRaw calls)
      (fun _ => NamesSound pgConfig getnameinfo) 0 := by
  induction calls generalizing lastRrRaw with
  | nil => exact emits_pure (fun _ here => here.names) rfl
  | cons call calls inductionHypothesis =>
    refine emits_bind (emits_call call) le_rfl fun _ word member => ?_
    exact emits_conseq inductionHypothesis (fun _ here => here)
      (fun _ _ isRest => Language.append_mem_mul member isRest) (fun _ _ reached => reached) bot_le

end

end Utiputils.Ping
