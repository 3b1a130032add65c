import Utiputils.Ifenslave.Confinement

/-! # What the driver is handed

`enslave` hands an interface to the driver by writing its name into a file of the master's. By then it has prepared the
interface; and nothing is handed over that is not. -/

namespace Utiputils.Ifenslave

open Utiputils.Lib Utiputils.Pnet Proc Fallible

/-! ## Prepared interfaces -/

/-- An interface without an IPv4 address. -/
def Link.Bare (link : Link) : Prop := ∀ message ∈ link.addresses, message.family ≠ .inet

/-- What the driver is promised of a slave. -/
structure Link.Fits (link masterLink : Link) (version : Int) : Prop where
  mtu : link.mtu = masterLink.mtu
  free : link.flags &&& IFF_SLAVE = 0
  down : 1 ≤ version → link.flags &&& IFF_UP = 0
  bare : 2 ≤ version → link.Bare

def Prepared (version : Int) (master slave : String) (kernel : Kernel) : Prop :=
  ∃ link masterLink, kernel.find slave = some link ∧ kernel.find master = some masterLink ∧ link.Fits masterLink version

/-- Whatever has been handed over was prepared. -/
def AllPrepared (version : Int) (master : String) (past : List (Event × Moment)) : Prop :=
  ∀ entry ∈ past, ∀ slave failure, entry.1 = .writeFile (slavesFile master) ("+" ++ slave) failure →
    Prepared version master slave entry.2.kernel

theorem AllPrepared.cons {version : Int} {master : String} {past : List (Event × Moment)}
    (all : AllPrepared version master past) {event : Event} {now : Moment}
    (prepared : ∀ slave failure, event = .writeFile (slavesFile master) ("+" ++ slave) failure →
      Prepared version master slave now.kernel) : AllPrepared version master ((event, now) :: past) :=
  List.forall_mem_cons.mpr ⟨prepared, all⟩

/-- The process hands over prepared interfaces only; where it succeeds, it leads from one fact about the interfaces to
another. -/
def Readies {Failure Result : Type} (setting : Setting) (master : String) (fact : Kernel → Prop)
    (process : Fallible World Failure Result) (post : Result → Kernel → Prop) : Prop :=
  Tries
    (fun world => (AllPrepared setting.version master world.log ∧ Sane setting world.toMoment) ∧ fact world.kernel)
    process
    (fun value world =>
      (AllPrepared setting.version master world.log ∧ Sane setting world.toMoment) ∧ post value world.kernel)
    fun world => AllPrepared setting.version master world.log ∧ Sane setting world.toMoment

section

variable {setting : Setting} {master slave name : String} {fact fact' : Kernel → Prop}
  {Failure Failure' Result Next : Type}

theorem readies_pure {value : Result} {post : Result → Kernel → Prop}
    (established : ∀ kernel, fact kernel → post value kernel) :
    Readies setting master fact (pure value : Fallible World Failure Result) post :=
  tries_pure fun _ holds => ⟨holds.1, established _ holds.2⟩

theorem readies_throw {failure : Failure} {post : Result → Kernel → Prop} :
    Readies setting master fact (throw failure : Fallible World Failure Result) post :=
  tries_throw fun _ holds => holds.1

theorem readies_bind {process : Fallible World Failure Result} {next : Result → Fallible World Failure Next}
    {middle : Result → Kernel → Prop} {post : Next → Kernel → Prop} (first : Readies setting master fact process middle)
    (second : ∀ value, Readies setting master (middle value) (next value) post) :
    Readies setting master fact (process >>= next) post :=
  tries_bind first second

theorem readies_conseq {process : Fallible World Failure Result} {post post' : Result → Kernel → Prop}
    (spec : Readies setting master fact' process post') (weaker : ∀ kernel, fact kernel → fact' kernel)
    (stronger : ∀ value kernel, post' value kernel → post value kernel) : Readies setting master fact process post :=
  tries_conseq spec (fun _ holds => ⟨holds.1, weaker _ holds.2⟩) fun _ _ reached => ⟨reached.1, stronger _ _ reached.2⟩

theorem readies_given {given : Prop} {process : Fallible World Failure Result} {post : Result → Kernel → Prop}
    (spec : given → Readies setting master fact process post) :
    Readies setting master (fun kernel => given ∧ fact kernel) process post :=
  fun world ⟨holds, isGiven, here⟩ => spec isGiven world ⟨holds, here⟩

theorem readies_mapError {process : Fallible World Failure Result} {change : Failure → Failure'}
    {post : Result → Kernel → Prop} (spec : Readies setting master fact process post) :
    Readies setting master fact (process.mapError change) post :=
  tries_mapError spec

theorem readies_orFail {request : Netlink Result} {kind : ErrorKind} {message : String}
    {post : Result → Kernel → Prop} (spec : Readies setting master fact request post) :
    Readies setting master fact (orFail request kind message) post :=
  readies_mapError spec

/-- What a process may not touch stays as it is. -/
theorem Confines.readies {permission : Permission} {process : Fallible World Failure Result} {about : Result → Prop}
    (confined : Confines permission setting process about) (noFiles : permission.files = [])
    (kept : ∀ now next, permission.Respected now next → permission.FlagsRespected now next → fact now → fact next) :
    Readies setting master fact process fun value kernel => about value ∧ fact kernel := by
  have stable : Stable (fun event now next => event.IsStep ∧ Act permission setting event now next)
      fun past now => AllPrepared setting.version master past ∧ fact now.kernel := by
    intro past now event next ⟨_, act⟩ ⟨all, here⟩
    have noFile : ∀ path contents failure, event ≠ .writeFile path contents failure := by
      rintro path contents failure rfl
      have permitted : (path, contents) ∈ permission.files := act.allowed
      rw [noFiles] at permitted
      cases permitted
    exact ⟨all.cons fun slave failure same => absurd same (noFile _ _ _), kept _ _ act.respected (act.flags noFile) here⟩
  refine tries_conseq (tries_broken ((confined _ stable).tries fun _ reached => reached.1) fun world reached => ?_)
    (fun world holds => ?_) fun value world reached => ?_
  · exact ⟨reached.1.1, reached.2⟩
  · exact ⟨⟨holds.1.1, holds.2⟩, holds.1.2⟩
  · obtain ⟨isValue, ⟨all, here⟩, sane⟩ := reached
    exact ⟨⟨all, sane⟩, isValue, here⟩

/-! ## Accesses -/

theorem readies_report (output : Output) :
    Readies setting master fact (report output : Fallible World Failure Unit) fun _ => fact := by
  refine tries_lift (triple_get_bind fun seen holds => ?_)
  split
  · refine triple_modify fun world same => ?_
    subst same
    exact ⟨⟨holds.1.1.cons fun _ _ => Event.noConfusion, holds.1.2⟩, holds.2⟩
  · refine triple_pure fun world same => ?_
    subst same
    exact holds

theorem readies_getLinkInfo (name : String) :
    Readies setting master fact (getLinkInfo name) fun message kernel =>
      fact kernel ∧ ∃ link, kernel.find name = some link ∧ message = link.message := by
  refine tries_mk (triple_modifyGet fun world holds => ?_)
  cases world.readFailures.head with
  | some failure => exact holds.1
  | none =>
    cases found : world.kernel.find name with
    | none => exact holds.1
    | some link => exact ⟨holds.1, holds.2, link, found, rfl⟩

theorem readies_getLinkIndex (name : String) :
    Readies setting master fact (getLinkIndex name) fun index kernel =>
      setting.kernel.indexOf name = some index ∧ fact kernel ∧ kernel.indexOf name = some index := by
  have known := @Confines.readies setting master (fun _ => True) _ _ {} _ _ (confines_getLinkIndex name) rfl
    fun _ _ _ _ => id
  have shown : Readies setting master fact (getLinkIndex name) fun index kernel =>
      fact kernel ∧ kernel.indexOf name = some index := by
    refine readies_bind (readies_getLinkInfo name) fun message => readies_pure ?_
    rintro kernel ⟨here, link, found, rfl⟩
    exact ⟨here, congrArg (Option.map Link.index) found⟩
  exact tries_conseq (tries_broken (tries_and known shown) fun _ reached => reached.1)
    (fun _ holds => ⟨⟨holds.1, trivial⟩, holds⟩) fun _ _ reached => ⟨reached.1.1, reached.1.2.1, reached.2.2⟩

theorem readies_getInterfaceMtu (name : String) :
    Readies setting master fact (getInterfaceMtu name) fun mtu kernel =>
      fact kernel ∧ ∃ link, kernel.find name = some link ∧ link.mtu = mtu := by
  refine readies_bind (readies_getLinkInfo name) fun message => ?_
  cases mtuFound : message.attributes.findSome? mtuOf with
  | none => exact readies_throw
  | some mtu =>
    have shown : ∀ kernel, (fact kernel ∧ ∃ link, kernel.find name = some link ∧ message = link.message) →
        fact kernel ∧ ∃ link, kernel.find name = some link ∧ link.mtu = mtu := by
      rintro kernel ⟨here, link, found, rfl⟩
      cases mtuFound
      exact ⟨here, link, found, rfl⟩
    exact readies_conseq (readies_bind (readies_report _) fun _ => readies_pure fun _ here => here) shown
      fun _ _ here => here

/-- What a request makes of the interfaces. -/
def Kernel.requested (kernel : Kernel) (message : LinkMessage) : Kernel :=
  kernel.changeAt message.index (·.apply message) fun link => link.identity_apply message

theorem readies_setLink {permission : Permission} {message : LinkMessage}
    (allowed : permission.Allows setting.kernel (.setLink message none)) (noFiles : permission.files = []) :
    Readies setting master fact (setLink message) fun _ kernel =>
      ∃ before, fact before ∧ kernel = before.requested message := by
  have kept := @Confines.readies setting master (fun _ => True) _ _ _ _ _ (confines_setLink allowed) noFiles
    fun _ _ _ _ => id
  have effect : Tries (fun world : World => fact world.kernel) (setLink message)
      (fun _ world => ∃ before, fact before ∧ world.kernel = before.requested message) fun _ => True := by
    refine tries_mk (triple_modifyGet fun world here => ?_)
    cases world.writeFailures.head with
    | some failure => trivial
    | none => exact ⟨world.kernel, here, rfl⟩
  exact tries_conseq (tries_broken (tries_and kept effect) fun _ reached => reached.1)
    (fun _ holds => ⟨⟨holds.1, trivial⟩, holds.2⟩) fun _ _ reached => ⟨reached.1.1, reached.2⟩

end

/-! ## Facts about one interface -/

/-- The interface of this name is there, and has the property. -/
def On (name : String) (property : Link → Prop) (kernel : Kernel) : Prop :=
  ∃ link, kernel.find name = some link ∧ property link

/-- It depends on what is spared. -/
theorem On.spared {Shown : Type} {shown : Link → Shown} {property : Link → Prop} {name : String} {names : List String}
    {now next : Kernel} (here : On name property now) (spares : Kernel.Spares shown names now next)
    (outside : name ∉ names) (depends : ∀ link link', shown link' = shown link → property link → property link') :
    On name property next := by
  obtain ⟨link, found, holds⟩ := here
  have same := spares name outside
  rw [found, Option.map_some] at same
  obtain ⟨link', found', same'⟩ := Option.map_eq_some_iff.mp same
  exact ⟨link', found', depends link link' same' holds⟩

theorem On.requested {name : String} {property property' : Link → Prop} {before : Kernel} {message : LinkMessage}
    (here : On name property before) (isIndex : before.indexOf name = some message.index)
    (changes : ∀ link, property link → property' (link.apply message)) : On name property' (before.requested message) := by
  obtain ⟨link, found, holds⟩ := here
  refine ⟨link.apply message, ?_, changes link holds⟩
  have same : link.index = message.index := by
    rw [Kernel.indexOf, found] at isIndex
    exact Option.some.inj isIndex
  rw [Kernel.requested, Kernel.find_changeAt, found, Option.map_some, if_pos same]

theorem On.kept {name : String} {property : Link → Prop} {before : Kernel} {message : LinkMessage}
    (here : On name property before) (kept : ∀ link, property link → property (link.apply message)) :
    On name property (before.requested message) := by
  obtain ⟨link, found, holds⟩ := here
  refine ⟨if link.index = message.index then link.apply message else link, ?_, ?_⟩
  · rw [Kernel.requested, Kernel.find_changeAt, found, Option.map_some]
  · split
    · exact kept link holds
    · exact holds

/-- No slave; this is not a matter of `IFF_UP`. -/
def Link.Free (link : Link) : Prop := (link.flags &&& ~~~IFF_UP) &&& IFF_SLAVE = 0

theorem free_iff (link : Link) : link.Free ↔ link.flags &&& IFF_SLAVE = 0 := by
  rw [Link.Free, UInt32.and_assoc, show ~~~IFF_UP &&& IFF_SLAVE = IFF_SLAVE by decide]

def Link.Down (link : Link) : Prop := link.flags &&& IFF_UP = 0

/-- What is known of a slave while it is prepared. -/
structure Preparing (slave : String) (free down bare : Prop) (kernel : Kernel) : Prop where
  free : free → On slave Link.Free kernel
  down : down → On slave Link.Down kernel
  bare : bare → On slave Link.Bare kernel

theorem Preparing.kept {slave : String} {free down bare : Prop} {permission : Permission} {now next : Kernel}
    (preparing : Preparing slave free down bare now) (respected : permission.Respected now next)
    (flagsRespected : permission.FlagsRespected now next) (flags : down → slave ∉ permission.flags)
    (addresses : bare → slave ∉ permission.addresses) : Preparing slave free down bare next where
  free isFree := (preparing.free isFree).spared flagsRespected.others List.not_mem_nil fun link link' same free => by
    rw [Link.Free, same]
    exact free
  down isDown := (preparing.down isDown).spared flagsRespected.named (flags isDown) fun link link' same down => by
    rw [Link.Down, same]
    exact down
  bare isBare := (preparing.bare isBare).spared respected.addresses (addresses isBare) fun link link' same bare => by
    rw [Link.Bare, same]
    exact bare

/-! ## The phases of enslaving -/

section

variable {setting : Setting} {master slave : String} {fromStr : String → Option MacAddr}

theorem readies_slaveFlags (slave : String) :
    Readies setting master (fun _ => True) (slaveFlags slave) fun flags kernel => On slave (·.flags = flags) kernel := by
  refine readies_orFail (readies_bind (readies_getLinkInfo slave) fun message => readies_pure ?_)
  rintro kernel ⟨_, link, found, rfl⟩
  exact ⟨link, found, rfl⟩

theorem readies_refuseSlave (flags : UInt32) :
    Readies setting master (On slave (·.flags = flags)) (refuseSlave slave flags)
      fun _ => Preparing slave True False False := by
  unfold refuseSlave
  by_cases isSlave : flags &&& IFF_SLAVE ≠ 0
  · rw [if_pos isSlave]
    exact readies_throw
  · rw [if_neg isSlave]
    refine readies_pure fun kernel here => ⟨fun _ => ?_, False.elim, False.elim⟩
    obtain ⟨link, found, rfl⟩ := here
    exact ⟨link, found, (free_iff link).mpr (not_ne_iff.mp isSlave)⟩

theorem readies_disableSlave :
    Readies setting master (Preparing slave True False False) (disableSlave slave)
      fun _ => Preparing slave True True False := by
  refine readies_orFail (readies_bind (readies_getLinkIndex slave) fun index => readies_given fun isIndex => ?_)
  have allowed : ({ flags := [slave] } : Permission).Allows setting.kernel
      (.setLink { index, flags := 0, changeMask := IFF_UP } none) :=
    ⟨.inr ⟨rfl, slave, List.mem_cons_self, isIndex⟩, List.forall_mem_nil _⟩
  refine readies_bind (readies_setLink allowed rfl) fun _ => readies_conseq (readies_report _) ?_ fun _ _ here => here
  rintro kernel ⟨before, ⟨preparing, isIndex⟩, rfl⟩
  have isFree := preparing.free trivial
  refine ⟨fun _ => isFree.kept fun link free => ?_, fun _ => isFree.requested isIndex fun link _ => ?_, False.elim⟩
  · rw [Link.Free, apply_others allowed.1]
    exact free
  · rw [Link.Down, flags_apply, UInt32.zero_and, UInt32.or_zero, UInt32.and_assoc, show ~~~IFF_UP &&& IFF_UP = 0 by decide,
      UInt32.and_zero]

theorem readies_clearInterfaceAddress :
    Readies setting master (Preparing slave True True False) (clearInterfaceAddress slave)
      fun _ => Preparing slave True True True := by
  have frame := @Confines.readies setting master (Preparing slave True True False) _ _ { addresses := [slave] } _ _
    (confines_clearInterfaceAddress List.mem_cons_self) rfl fun now next respected flagsRespected preparing =>
      preparing.kept respected flagsRespected (fun _ => List.not_mem_nil) False.elim
  intro world holds
  obtain ⟨link, found, _⟩ := holds.2.free trivial
  -- what the slave holds now is what is removed
  have isHeld : world.kernel.held slave = some (link.index, link.addresses) := by
    rw [Kernel.held, found]
    rfl
  have own : ∀ message ∈ link.addresses, message.index = link.index := fun message member =>
    (holds.1.2.proper link (List.mem_of_find?_eq_some found) message member).own
  have cleared := @holding_clearInterfaceAddress False world.dumpFailures world.kernel.held slave _ _ isHeld own
    False.elim
  refine tries_conseq (tries_broken (tries_and frame cleared) fun _ reached => reached.1) (fun _ holds => holds)
    (fun _ final reached => ?_) world ⟨holds, False.elim, False.elim, rfl, rfl⟩
  obtain ⟨⟨kept, _, preparing⟩, rest, bare, holding⟩ := reached
  refine ⟨kept, preparing.free, preparing.down, fun _ => ?_⟩
  obtain ⟨link', found', _, rfl⟩ := Kernel.held_eq_some
    ((congrFun holding.held slave).trans (Function.update_self slave _ world.kernel.held))
  exact ⟨link', found', bare⟩

theorem readies_matchAddresses :
    Readies setting master (Preparing slave True True False) (matchAddresses master slave)
      fun _ => Preparing slave True True (2 ≤ setting.version) := by
  have known := @Confines.readies setting master (Preparing slave True True False) _ _ {} _ _ confines_theNetwork rfl
    fun now next respected flagsRespected preparing =>
      preparing.kept respected flagsRespected (fun _ => List.not_mem_nil) False.elim
  refine readies_bind known fun network => readies_given fun isVersion => ?_
  by_cases copies : network.abiVer < 2
  · rw [if_pos copies]
    have frame := @Confines.readies setting master (Preparing slave True True False) _ _ { addresses := [slave] } _ _
      (confines_copyAddressConfig List.mem_cons_self master) rfl fun now next respected flagsRespected preparing =>
        preparing.kept respected flagsRespected (fun _ => List.not_mem_nil) False.elim
    refine readies_orFail (readies_conseq frame (fun _ here => here) fun _ kernel reached => ?_)
    exact ⟨reached.2.free, reached.2.down, fun bare => absurd (isVersion ▸ copies) (Int.not_lt.mpr bare)⟩
  · rw [if_neg copies]
    exact readies_orFail (readies_conseq readies_clearInterfaceAddress (fun _ here => here) fun _ kernel preparing =>
      ⟨preparing.free, preparing.down, fun _ => preparing.bare trivial⟩)

/-- Both interfaces have the same MTU. -/
def SameMtu (master slave : String) (kernel : Kernel) : Prop :=
  ∃ mtu, On slave (fun link => link.mtu = mtu) kernel ∧ On master (fun link => link.mtu = mtu) kernel

theorem readies_matchMtu {bare : Prop} :
    Readies setting master (Preparing slave True True bare) (matchMtu master slave) fun _ kernel =>
      Preparing slave True True bare kernel ∧ SameMtu master slave kernel := by
  refine readies_bind (readies_orFail (readies_getInterfaceMtu master)) fun masterMtu =>
    readies_bind (readies_orFail (readies_getInterfaceMtu slave)) fun slaveMtu => ?_
  by_cases differ : masterMtu ≠ slaveMtu
  · rw [if_pos differ]
    refine readies_orFail (readies_bind (readies_getLinkIndex slave) fun index => readies_given fun isIndex => ?_)
    have allowed : ({ mtu := [slave] } : Permission).Allows setting.kernel
        (.setLink { index, attributes := [.mtu masterMtu] } none) :=
      ⟨.inl rfl, List.forall_mem_singleton.mpr ⟨slave, List.mem_cons_self, isIndex⟩⟩
    refine readies_bind (readies_setLink allowed rfl) fun _ => readies_conseq (readies_report _) ?_ fun _ _ here => here
    rintro kernel ⟨before, ⟨⟨⟨preparing, isMaster⟩, isSlave⟩, isIndex⟩, rfl⟩
    have flags := fun link : Link => @flags_apply_unmasked link { index, attributes := [.mtu masterMtu] } rfl
    refine ⟨⟨fun isFree => (preparing.free isFree).kept fun link free => ?_,
      fun isDown => (preparing.down isDown).kept fun link down => ?_,
      fun isBare => (preparing.bare isBare).kept fun link bare => bare⟩, masterMtu, ?_, ?_⟩
    · rw [Link.Free, flags]
      exact free
    · rw [Link.Down, flags]
      exact down
    · exact On.requested isSlave isIndex fun _ _ => rfl
    · exact On.kept isMaster fun _ _ => rfl
  · rw [if_neg differ]
    refine readies_pure fun kernel ⟨⟨preparing, isMaster⟩, isSlave⟩ => ⟨preparing, masterMtu, ?_, isMaster⟩
    rwa [← not_ne_iff.mp differ] at isSlave

/-- What matching the hardware addresses may touch: the flags only for the oldest version of the driver. -/
def macPermission (version : Int) (master slave : String) : Permission where
  flags := if version < 1 then [master, slave] else []
  mac := [master, slave]

theorem matchesMac_macPermission (version : Int) (master slave : String) :
    (macPermission version master slave).MatchesMac version master slave where
  masterMac := List.mem_cons_self
  slaveMac _ := List.mem_cons_of_mem _ List.mem_cons_self
  masterFlags old := by
    rw [macPermission, if_pos old]
    exact List.mem_cons_self
  slaveFlags old := by
    rw [macPermission, if_pos old]
    exact List.mem_cons_of_mem _ List.mem_cons_self

theorem readies_matchHardwareAddress (parses : setting.trusted → (fromStr "00:00:00:00:00:00").isSome) :
    Readies setting master
      (fun kernel => Preparing slave True True (2 ≤ setting.version) kernel ∧ SameMtu master slave kernel)
      (matchHardwareAddress fromStr master slave) fun _ kernel =>
      Preparing slave True (1 ≤ setting.version) (2 ≤ setting.version) kernel ∧ SameMtu master slave kernel := by
  have sameMtu : ∀ (name : String) (mtu : UInt32) now next,
      (macPermission setting.version master slave).Respected now next →
      On name (fun link => link.mtu = mtu) now → On name (fun link => link.mtu = mtu) next :=
    fun name mtu now next respected here => here.spared respected.mtu List.not_mem_nil fun _ _ same => same.trans
  have frame := @Confines.readies setting master (fun kernel =>
      Preparing slave True (1 ≤ setting.version) (2 ≤ setting.version) kernel ∧ SameMtu master slave kernel) _ _ _ _ _
    (confines_matchHardwareAddress (matchesMac_macPermission setting.version master slave) parses) rfl
    fun now next respected flagsRespected ⟨preparing, mtu, isSlave, isMaster⟩ =>
      ⟨preparing.kept respected flagsRespected
        (fun isNew => by
          rw [macPermission, if_neg (Int.not_lt.mpr isNew)]
          exact List.not_mem_nil)
        fun _ => List.not_mem_nil,
        mtu, sameMtu slave mtu now next respected isSlave, sameMtu master mtu now next respected isMaster⟩
  exact readies_conseq frame (fun kernel ⟨preparing, mtu⟩ => ⟨⟨preparing.free, fun _ => preparing.down trivial,
    preparing.bare⟩, mtu⟩) fun _ _ reached => reached.2

theorem Preparing.prepared {version : Int} {kernel : Kernel}
    (preparing : Preparing slave True (1 ≤ version) (2 ≤ version) kernel) (sameMtu : SameMtu master slave kernel) :
    Prepared version master slave kernel := by
  obtain ⟨mtu, ⟨link, found, rfl⟩, ⟨masterLink, foundMaster, same⟩⟩ := sameMtu
  have here : ∀ {property : Link → Prop}, On slave property kernel → property link := fun ⟨link', found', holds⟩ => by
    rw [found, Option.some.injEq] at found'
    exact found' ▸ holds
  exact ⟨link, masterLink, found, foundMaster, same.symm, (free_iff link).mp (here (preparing.free trivial)),
    fun isNew => here (preparing.down isNew), fun isNewer => here (preparing.bare isNewer)⟩

/-- The interface is handed over. Whether the write fails or not, it is the one of this slave. -/
theorem readies_writeFile :
    Readies setting master (Prepared setting.version master slave) (writeFile (slavesFile master) ("+" ++ slave))
      fun _ _ => True := by
  have permitted :
      (slavesFile master, "+" ++ slave) ∈ ({ files := [(slavesFile master, "+" ++ slave)] } : Permission).files :=
    List.mem_cons_self
  have sane := (@confines_writeFile _ setting _ _ permitted (fun _ _ => True) fun _ _ _ _ _ _ => trivial).tries
    fun _ reached => reached.1
  have written : Tries (fun world => AllPrepared setting.version master world.log ∧
        Prepared setting.version master slave world.kernel) (writeFile (slavesFile master) ("+" ++ slave))
      (fun _ world => AllPrepared setting.version master world.log)
      fun world => AllPrepared setting.version master world.log := by
    refine tries_mk (triple_modifyGet fun world ⟨all, prepared⟩ => ?_)
    have isSlave : ∀ (failure : Option String) (slave' : String) failure',
        Event.writeFile (slavesFile master) ("+" ++ slave) failure =
          .writeFile (slavesFile master) ("+" ++ slave') failure' →
            Prepared setting.version master slave' world.kernel := by
      intro failure slave' failure' same
      injection same with _ sameContents _
      rwa [← String.append_right_inj "+" |>.mp sameContents]
    cases world.sysfsFailures.head with
    | some failure => exact all.cons (isSlave _)
    | none => exact all.cons (isSlave _)
  exact tries_conseq (tries_broken (tries_and sane written) fun _ reached => ⟨reached.2, reached.1.2⟩)
    (fun _ holds => ⟨⟨trivial, holds.1.2⟩, holds.1.1, holds.2⟩) fun _ _ reached => ⟨⟨reached.2, reached.1.2.2⟩, trivial⟩

theorem readies_attach :
    Readies setting master (Prepared setting.version master slave) (attach master slave) fun _ _ => True :=
  readies_bind (readies_mapError readies_writeFile) fun _ => readies_report _

theorem readies_enslave (parses : setting.trusted → (fromStr "00:00:00:00:00:00").isSome) :
    Readies setting master (fun _ => True) (enslave fromStr master slave) fun _ _ => True :=
  readies_bind (readies_slaveFlags slave) fun flags => readies_bind (readies_refuseSlave flags) fun _ =>
    readies_bind readies_disableSlave fun _ => readies_bind readies_matchAddresses fun _ =>
    readies_bind readies_matchMtu fun _ => readies_bind (readies_matchHardwareAddress parses) fun _ =>
    readies_conseq readies_attach (fun _ ⟨preparing, sameMtu⟩ => preparing.prepared sameMtu) fun _ _ holds => holds

end

/-! ## The command -/

/-- Only what is prepared is handed over, all the time. -/
def KeepsPrepared {Result : Type} (setting : Setting) (master : String) (process : Proc World Result) : Prop :=
  Keeps (fun world => AllPrepared setting.version master world.log ∧ Sane setting world.toMoment) process

section

variable {setting : Setting} {master : String} {fromStr : String → Option MacAddr} {Result : Type}

/-- Nothing is handed over where that is not permitted. -/
theorem Obeys.keepsPrepared {permission : Permission} {process : Proc World Result}
    (obeys : Obeys permission setting process)
    (noHandover : ∀ slave, (slavesFile master, "+" ++ slave) ∉ permission.files) :
    KeepsPrepared setting master process := by
  have stable : Stable (Act permission setting) fun past _ => AllPrepared setting.version master past := by
    intro past now event next act all
    refine all.cons fun slave failure same => ?_
    subst same
    exact absurd act.allowed (noHandover slave)
  exact triple_stopped (obeys _ stable) fun _ reached => reached.1

theorem Readies.keepsPrepared {Failure : Type} {process : Fallible World Failure Result}
    {post : Result → Kernel → Prop} (readies : Readies setting master (fun _ => True) process post) :
    KeepsPrepared setting master process.run := by
  intro world holds
  refine @Tries.run _ _ _ _ _ _ _
    (fun _ world => AllPrepared setting.version master world.log ∧ Sane setting world.toMoment) readies ?_ ?_ world
    ⟨holds, trivial⟩
  · exact fun _ _ reached => reached.1
  · exact fun _ _ reached => reached

theorem keepsPrepared_enslaveOne (parses : setting.trusted → (fromStr "00:00:00:00:00:00").isSome) (slave : String) :
    KeepsPrepared setting master (enslaveOne fromStr master slave) := by
  have noHandover : ∀ slave, (slavesFile master, "+" ++ slave) ∉ ({} : Permission).files := fun _ => List.not_mem_nil
  refine keeps_bind (readies_enslave parses).keepsPrepared fun result => ?_
  have noted : ({} : Permission).Allows setting.kernel (.enslaved slave result) := trivial
  refine keeps_bind ((obeys_note noted).keepsPrepared noHandover) fun _ => ?_
  cases result with
  | ok value => exact keeps_pure
  | error failure => exact keeps_bind ((obeys_print _).keepsPrepared noHandover) fun _ => keeps_pure

theorem keepsPrepared_batch {operation : String → Proc World Bool}
    (each : ∀ slave, KeepsPrepared setting master (operation slave)) (slaves : List String) (errors : Bool) :
    KeepsPrepared setting master (batch operation slaves errors) := by
  induction slaves generalizing errors with
  | nil => exact keeps_pure
  | cons slave slaves inductionHypothesis =>
    exact keeps_bind (each slave) fun failed => inductionHypothesis (errors || failed)

/-- Releasing a slave and changing the active one hand nothing over. -/
theorem not_handover {slaves : List String} {slave : String} :
    (slavesFile master, "+" ++ slave) ∉ slaves.map (fun slave => (activeSlaveFile master, slave)) ∧
      (slavesFile master, "+" ++ slave) ∉ slaves.map fun slave => (slavesFile master, "-" ++ slave) := by
  constructor
  · intro member
    obtain ⟨_, _, same⟩ := List.mem_map.mp member
    have samePath : "/sys/class/net/" ++ master ++ "/bonding/active_slave" =
        "/sys/class/net/" ++ master ++ "/bonding/slaves" :=
      congrArg Prod.fst same
    exact absurd ((String.append_right_inj _).mp samePath) (by decide)
  · intro member
    obtain ⟨other, _, same⟩ := List.mem_map.mp member
    have sameText := congrArg String.toList (congrArg Prod.snd same)
    simp only [String.toList_append] at sameText
    exact absurd (List.cons.inj sameText).1 (by decide)

theorem keepsPrepared_mainRunWith (parses : setting.trusted → (fromStr "00:00:00:00:00:00").isSome)
    (showError : NetlinkError → String) {optArgs : IfenslaveConfig} {slaves : List String}
    (arguments : optArgs.interfaces = master :: slaves) :
    KeepsPrepared setting master (mainRunWith fromStr showError optArgs).run := by
  have obeys := @obeys_mainRunWith setting fromStr parses showError optArgs
  by_cases all : optArgs.allInterfaces = true
  · refine obeys.keepsPrepared fun slave => ?_
    rw [Permission.of, arguments]
    simp only [if_pos all]
    exact List.not_mem_nil
  by_cases active : optArgs.changeActive = true
  · refine obeys.keepsPrepared fun slave => ?_
    rw [Permission.of, arguments]
    simp only [if_neg all, if_pos active]
    exact not_handover.1
  by_cases detach : optArgs.detach = true
  · refine obeys.keepsPrepared fun slave => ?_
    rw [Permission.of, arguments]
    simp only [if_neg all, if_neg active, if_pos detach]
    exact not_handover.2
  -- only enslaving is left
  have noHandover : ∀ slave, (slavesFile master, "+" ++ slave) ∉ ({} : Permission).files := fun _ => List.not_mem_nil
  have none : ∀ {Result : Type} {process : Proc World Result}, Obeys {} setting process →
      KeepsPrepared setting master process := fun obeys => obeys.keepsPrepared noHandover
  unfold mainRunWith
  rw [if_neg all, arguments]
  refine keeps_tryBind (none (obeys_mapError (obeys_getDrvInfo master))) fun _ => ?_
  split
  · exact none (obeys_mapError (obeys_showInterfaces (some master)))
  · refine keeps_tryBind (none (obeys_requireFlag _ _ _)) fun _ =>
      keeps_tryBind (none (obeys_requireFlag _ _ _)) fun _ => ?_
    simp only [if_neg active, if_neg detach]
    refine keeps_tryBind (keeps_bind (keepsPrepared_batch (keepsPrepared_enslaveOne parses) slaves false) fun _ =>
      keeps_pure) fun errors => none (obeys_errorsOccurred errors)

end

/-- In every run, whatever fails: each interface whose name is written to the driver has by then the MTU of the master,
is not a slave of another one, is down where the driver is to take it up, and has no IPv4 address where the driver wants
none. -/
theorem mainRun_hands_over_prepared (fromStr : String → Option MacAddr) (showError : NetlinkError → String)
    (optArgs : IfenslaveConfig) (master : String) (slaves : List String)
    (arguments : optArgs.interfaces = master :: slaves) (environment : Environment) (kernel : Kernel)
    (own : ∀ link ∈ kernel.links, ∀ message ∈ link.addresses, message.index = link.index)
    (connection : Except String Unit) (abiVersion : Option Int) :
    let final := ((mainRun fromStr showError optArgs connection abiVersion).run (World.start environment kernel)).state
    ∀ entry ∈ final.log, ∀ slave failure, entry.1 = .writeFile (slavesFile master) ("+" ++ slave) failure →
      Prepared (abiVersion.getD 0) master slave entry.2.kernel := by
  intro final
  cases connection with
  | error failure => exact List.forall_mem_nil _
  | ok value =>
    let setting : Setting := ⟨kernel, abiVersion.getD 0, False⟩
    let opened : World :=
      { World.start environment kernel with network := ⟨optArgs.verbose, abiVersion.getD 0, false⟩ }
    have sane : Sane setting opened.toMoment :=
      ⟨fun _ _ => rfl, fun link member message inside => ⟨own link member message inside, False.elim⟩, rfl⟩
    have kept := @keepsPrepared_mainRunWith setting master fromStr False.elim showError optArgs slaves arguments
    have holds : AllPrepared setting.version master opened.log ∧ Sane setting opened.toMoment :=
      ⟨List.forall_mem_nil _, sane⟩
    exact (kept.state (fun _ _ reached => reached) holds).1

/-- The first slave of the batch is handed over. -/
theorem mainRun_hands_over_prepared_first : ∃ entry ∈ afterBatch.log,
    entry.1 = .writeFile (slavesFile "bond0") ("+" ++ "eth0") none ∧ Prepared 0 "bond0" "eth0" entry.2.kernel := by
  have written : (afterBatch.log.any fun entry => decide
      (entry.1 = .writeFile (slavesFile "bond0") ("+" ++ "eth0") none)) = true := by decide +kernel
  obtain ⟨entry, member, isWrite⟩ := List.any_eq_true.mp written
  have isWrite := of_decide_eq_true isWrite
  have prepared := mainRun_hands_over_prepared colonMac (fun _ => "failed") { interfaces := ["bond0", "eth0", "eth1"] }
    "bond0" ["eth0", "eth1"] rfl failingOnce twoInterfaces (by decide) (.ok ()) (some 0)
  exact ⟨entry, member, isWrite, prepared entry member "eth0" none isWrite⟩

end Utiputils.Ifenslave
