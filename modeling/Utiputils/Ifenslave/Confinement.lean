import Utiputils.Ifenslave.Addresses
import Utiputils.Ifenslave.Batch

/-! # What the command may touch

Every mode of the command has its permissions: of which interfaces it may change what, and what it may write under
`/sys`. Each step of a run stays within them, whatever fails. -/

namespace Utiputils.Ifenslave

open Utiputils.Lib Utiputils.Pnet Proc Fallible

/-! ## Permissions -/

/-- The interfaces whose flags, hardware address, MTU and addresses may be changed, and the lines that may be written
into files. -/
structure Permission where
  flags : List String := []
  mac : List String := []
  mtu : List String := []
  addresses : List String := []
  files : List (String × String) := []

def activeSlaveFile (master : String) : String := "/sys/class/net/" ++ master ++ "/bonding/active_slave"

/-- What the arguments of the command permit. The flags of the master and the hardware address of a slave are left to
the driver, except to the oldest version of it. -/
def Permission.of (optArgs : IfenslaveConfig) (version : Int) : Permission :=
  match optArgs.interfaces with
  | [] => {}
  | master :: slaves =>
    if optArgs.allInterfaces then {}
    else if optArgs.changeActive then { files := slaves.map fun slave => (activeSlaveFile master, slave) }
    else if optArgs.detach then
      { flags := slaves, mtu := slaves, files := slaves.map fun slave => (slavesFile master, "-" ++ slave) }
    else if slaves = [] then {}
    else
      { flags := if version < 1 then master :: slaves else slaves
        mac := if version < 1 then master :: slaves else [master]
        mtu := slaves
        addresses := slaves
        files := slaves.map fun slave => (slavesFile master, "+" ++ slave) }

namespace Kernel

def indexOf (kernel : Kernel) (name : String) : Option UInt32 := (kernel.find name).map Link.index

/-- The index of one of these interfaces. -/
def Owns (kernel : Kernel) (names : List String) (index : UInt32) : Prop :=
  ∃ name ∈ names, kernel.indexOf name = some index

/-- Nothing changes in the part that is shown of the interfaces that are not named. -/
def Spares {Shown : Type} (shown : Link → Shown) (names : List String) (now next : Kernel) : Prop :=
  ∀ name ∉ names, (next.find name).map shown = (now.find name).map shown

theorem Spares.trans {Shown : Type} {shown : Link → Shown} {names : List String} {first second third : Kernel}
    (before : Spares shown names first second) (after : Spares shown names second third) :
    Spares shown names first third := fun name outside => by
  rw [after name outside, before name outside]

/-- A change that does not show, or that is made at the index of a named interface. -/
theorem spares_changeAt {Shown : Type} {shown : Link → Shown} {names : List String} {kernel : Kernel} {index : UInt32}
    {change : Link → Link} (keeps : ∀ link, (change link).identity = link.identity)
    (covered : (∀ link, shown (change link) = shown link) ∨ kernel.Owns names index) :
    Spares shown names kernel (kernel.changeAt index change keeps) := by
  intro name outside
  rw [find_changeAt]
  cases found : kernel.find name with
  | none => rfl
  | some link =>
    rw [Option.map_some, Option.map_some, Option.map_some]
    by_cases isIndex : link.index = index
    · rw [if_pos isIndex]
      obtain unseen | ⟨owner, member, isOwner⟩ := covered
      · rw [unseen]
      · obtain ⟨link', found', sameIndex⟩ := Option.map_eq_some_iff.mp isOwner
        have same := name_of_index found found' (isIndex.trans sameIndex.symm)
        exact absurd (same ▸ member) outside
    · rw [if_neg isIndex]

end Kernel

namespace Permission

def AllowsAttribute (permission : Permission) (kernel : Kernel) (index : UInt32) : LinkAttribute → Prop
  | .ifName _ => False
  | .address _ => kernel.Owns permission.mac index
  | .mtu _ => kernel.Owns permission.mtu index

/-- An event that stays within the permissions; the indices are those of this kernel. -/
def Allows (permission : Permission) (kernel : Kernel) : Event → Prop
  | .setLink message _ =>
    (message.changeMask = 0 ∨ message.changeMask = IFF_UP ∧ kernel.Owns permission.flags message.index) ∧
    ∀ entry ∈ message.attributes, permission.AllowsAttribute kernel message.index entry
  | .addAddress index _ _ _ => kernel.Owns permission.addresses index
  | .delAddress message _ => kernel.Owns permission.addresses message.index ∧ message.family = .inet
  | .writeFile path contents _ => (path, contents) ∈ permission.files
  | .setHwaddrSet _ => True
  | .printed _ => True
  | .enslaved _ _ => True

/-- Nothing has changed that is not permitted, the flags apart. -/
structure Respected (permission : Permission) (now next : Kernel) : Prop where
  index : Kernel.Spares Link.index [] now next
  mac : Kernel.Spares Link.address permission.mac now next
  mtu : Kernel.Spares Link.mtu permission.mtu now next
  addresses : Kernel.Spares Link.addresses permission.addresses now next

theorem respected_refl (permission : Permission) (kernel : Kernel) : permission.Respected kernel kernel :=
  ⟨fun _ _ => rfl, fun _ _ => rfl, fun _ _ => rfl, fun _ _ => rfl⟩

/-- No flag has changed that is not permitted, and none but `IFF_UP`. -/
structure FlagsRespected (permission : Permission) (now next : Kernel) : Prop where
  named : Kernel.Spares Link.flags permission.flags now next
  others : Kernel.Spares (fun link => link.flags &&& ~~~IFF_UP) [] now next

theorem Respected.trans {permission : Permission} {first second third : Kernel}
    (before : permission.Respected first second) (after : permission.Respected second third) :
    permission.Respected first third :=
  ⟨before.index.trans after.index, before.mac.trans after.mac, before.mtu.trans after.mtu,
    before.addresses.trans after.addresses⟩

end Permission

/-! ## Steps -/

/-- An address message that is the interface's own; an IPv4 message carries an address, where the system is trusted
with that. -/
structure Proper (trusted : Prop) (index : UInt32) (message : AddressMessage) : Prop where
  own : message.index = index
  carries : trusted → message.family = .inet → (message.attributes.findSome? addressOf).isSome

/-- Every interface holds proper messages. -/
def Kernel.Proper (trusted : Prop) (kernel : Kernel) : Prop :=
  ∀ link ∈ kernel.links, ∀ message ∈ link.addresses, Ifenslave.Proper trusted link.index message

/-- The interfaces before a run, the version of the driver, and whether the system is trusted. -/
structure Setting where
  kernel : Kernel
  version : Int
  trusted : Prop

/-- What one step of the command does. Only the driver itself changes other flags than the permitted ones. -/
structure Act (permission : Permission) (setting : Setting) (event : Event) (now next : Moment) : Prop where
  allowed : permission.Allows setting.kernel event
  respected : permission.Respected now.kernel next.kernel
  flags : (∀ path contents failure, event ≠ .writeFile path contents failure) →
    permission.FlagsRespected now.kernel next.kernel
  version : next.network.abiVer = now.network.abiVer

theorem Act.idle {permission : Permission} {setting : Setting} {event : Event}
    (allowed : permission.Allows setting.kernel event) (now : Moment) : Act permission setting event now now :=
  ⟨allowed, permission.respected_refl _, fun _ => ⟨fun _ _ => rfl, fun _ _ => rfl⟩, rfl⟩

/-- What is known of every moment: the indices and the version are those of the setting, and the messages are proper. -/
structure Sane (setting : Setting) (moment : Moment) : Prop where
  index : Kernel.Spares Link.index [] setting.kernel moment.kernel
  proper : moment.kernel.Proper setting.trusted
  version : moment.network.abiVer = setting.version

/-- An event of a single operation: neither its end nor a complaint about it. -/
def Event.IsStep (event : Event) : Prop := event.IsInner ∧ ∀ line, event ≠ .printed (.error line)

/-- A step that is not a write under `/sys`. -/
def Event.IsRequest (event : Event) : Prop :=
  event.IsStep ∧ ∀ path contents failure, event ≠ .writeFile path contents failure

theorem isRequest_setLink (message : LinkMessage) (failure : Option NetlinkError) :
    (Event.setLink message failure).IsRequest :=
  ⟨⟨fun _ _ => Event.noConfusion, fun _ => Event.noConfusion⟩, fun _ _ _ => Event.noConfusion⟩

theorem isRequest_addAddress (index : UInt32) (address : IpAddr) (prefixLen : UInt8) (failure : Option NetlinkError) :
    (Event.addAddress index address prefixLen failure).IsRequest :=
  ⟨⟨fun _ _ => Event.noConfusion, fun _ => Event.noConfusion⟩, fun _ _ _ => Event.noConfusion⟩

theorem isRequest_delAddress (message : AddressMessage) (failure : Option NetlinkError) :
    (Event.delAddress message failure).IsRequest :=
  ⟨⟨fun _ _ => Event.noConfusion, fun _ => Event.noConfusion⟩, fun _ _ _ => Event.noConfusion⟩

/-- The process keeps to the permissions all the time, and succeeds only with a value of this kind. It stops only where
the system is not trusted. -/
def Confines {Failure Result : Type} (permission : Permission) (setting : Setting)
    (process : Fallible World Failure Result) (about : Result → Prop) : Prop :=
  ∀ property : List (Event × Moment) → Moment → Prop,
    Stable (fun event now next => event.IsStep ∧ Act permission setting event now next) property →
    Upholds (fun world => property world.log world.toMoment ∧ Sane setting world.toMoment) process about
      fun world => (property world.log world.toMoment ∧ Sane setting world.toMoment) ∧ ¬ setting.trusted

section

variable {permission : Permission} {setting : Setting} {Failure Failure' Result Next : Type}
  {about : Result → Prop} {about' : Next → Prop}

theorem confines_pure {value : Result} (holds : about value) :
    Confines permission setting (pure value : Fallible World Failure Result) about :=
  fun _ _ => upholds_pure holds

theorem confines_throw {failure : Failure} :
    Confines permission setting (throw failure : Fallible World Failure Result) about :=
  fun _ _ => upholds_throw

theorem confines_bind {process : Fallible World Failure Result} {next : Result → Fallible World Failure Next}
    (first : Confines permission setting process about)
    (second : ∀ value, about value → Confines permission setting (next value) about') :
    Confines permission setting (process >>= next) about' :=
  fun property stable => upholds_bind (first property stable) fun value holds => second value holds property stable

theorem confines_mapError {process : Fallible World Failure Result} {change : Failure → Failure'}
    (confined : Confines permission setting process about) :
    Confines permission setting (process.mapError change) about :=
  fun property stable => upholds_mapError (confined property stable)

theorem confines_orFail {request : Netlink Result} {kind : ErrorKind} {message : String}
    (confined : Confines permission setting request about) :
    Confines permission setting (orFail request kind message) about :=
  confines_mapError confined

/-! ## Accesses -/

theorem confines_report {output : Output} (regular : ∀ line, output ≠ .error line) :
    Confines permission setting (report output : Fallible World Failure Unit) fun _ => True := by
  intro property stable
  refine upholds_lift (triple_get_bind fun seen holds => ?_)
  split
  · refine triple_modify fun world same => ?_
    subst same
    have isStep : (Event.printed output).IsStep :=
      ⟨fun _ _ => Event.noConfusion, fun line same => regular line (Event.printed.inj same)⟩
    have act : Act permission setting (.printed output) world.toMoment world.toMoment :=
      @Act.idle _ _ (.printed output) trivial _
    exact ⟨⟨stable _ _ _ _ ⟨isStep, act⟩ holds.1, holds.2⟩, trivial⟩
  · refine triple_pure fun world same => ?_
    subst same
    exact ⟨holds, trivial⟩

theorem Sane.indexOf {moment : Moment} (sane : Sane setting moment) (name : String) :
    moment.kernel.indexOf name = setting.kernel.indexOf name :=
  sane.index name List.not_mem_nil

theorem Sane.owns {moment : Moment} (sane : Sane setting moment) {names : List String} {index : UInt32}
    (owns : setting.kernel.Owns names index) : moment.kernel.Owns names index := by
  obtain ⟨name, member, isIndex⟩ := owns
  exact ⟨name, member, by rw [sane.indexOf, isIndex]⟩

theorem confines_getLinkInfo (name : String) :
    Confines permission setting (getLinkInfo name) fun link => setting.kernel.indexOf name = some link.index := by
  intro property _
  refine triple_modifyGet fun world holds => ?_
  cases failed : world.readFailures.head with
  | some failure => exact ⟨holds, fun _ contra => nomatch contra⟩
  | none =>
    cases found : world.kernel.find name with
    | none => exact ⟨holds, fun _ contra => nomatch contra⟩
    | some link =>
      refine ⟨holds, fun message same => ?_⟩
      have isIndex : world.kernel.indexOf name = some link.index := congrArg (Option.map Link.index) found
      rw [← Except.ok.inj same, ← holds.2.indexOf, isIndex]
      rfl

theorem confines_getLinkIndex (name : String) :
    Confines permission setting (getLinkIndex name) fun index => setting.kernel.indexOf name = some index :=
  confines_bind (confines_getLinkInfo name) fun _ isIndex => confines_pure isIndex

theorem confines_getInterfaceFlags (name : String) :
    Confines permission setting (getInterfaceFlags name) fun _ => True :=
  confines_bind (confines_getLinkInfo name) fun _ _ => confines_pure trivial

/-- A request that is permitted, with an effect that is. -/
theorem confines_write {event : Option NetlinkError → Event} {effect : Kernel → Kernel}
    (isRequest : ∀ failure, (event failure).IsRequest)
    (allowed : ∀ failure, permission.Allows setting.kernel (event failure))
    (respected : ∀ moment, Sane setting moment → permission.Respected moment.kernel (effect moment.kernel))
    (flags : ∀ moment, Sane setting moment → permission.FlagsRespected moment.kernel (effect moment.kernel))
    (proper : ∀ moment, Sane setting moment → (effect moment.kernel).Proper setting.trusted) :
    Confines permission setting (write event effect) fun _ => True := by
  intro property stable
  refine triple_modifyGet fun world holds => ?_
  cases failed : world.writeFailures.head with
  | some failure =>
    have act : Act permission setting (event (some failure)) world.toMoment world.toMoment := .idle (allowed _) _
    exact ⟨⟨stable _ _ _ _ ⟨(isRequest _).1, act⟩ holds.1, holds.2⟩, fun _ contra => nomatch contra⟩
  | none =>
    have act : Act permission setting (event none) world.toMoment { world.toMoment with kernel := effect world.kernel } :=
      ⟨allowed _, respected _ holds.2, fun _ => flags _ holds.2, rfl⟩
    exact ⟨⟨stable _ _ _ _ ⟨(isRequest _).1, act⟩ holds.1, holds.2.index.trans act.respected.index, proper _ holds.2,
      holds.2.version⟩, fun _ _ => trivial⟩

/-! ## Requests -/

theorem Kernel.Proper.changeAt {trusted : Prop} {now : Kernel} (proper : now.Proper trusted) {index : UInt32}
    {change : Link → Link}
    (keeps : ∀ link, (change link).identity = link.identity)
    (kept : ∀ link, (∀ message ∈ link.addresses, Ifenslave.Proper trusted index message) →
      ∀ message ∈ (change link).addresses, Ifenslave.Proper trusted index message) :
    (now.changeAt index change keeps).Proper trusted := by
  intro link member message inside
  obtain ⟨before, isBefore, rfl⟩ := List.mem_map.mp member
  have properBefore := proper before isBefore
  by_cases isIndex : before.index = index
  · simp only [if_pos isIndex] at inside ⊢
    have sameIndex : (change before).index = index := (congrArg Prod.snd (keeps before)).trans isIndex
    rw [sameIndex]
    exact kept before (fun message inside => isIndex ▸ properBefore message inside) message inside
  · simp only [if_neg isIndex] at inside ⊢
    exact properBefore message inside

theorem foldl_applyAttribute {Shown : Type} {shown : Link → Shown} {attributes : List LinkAttribute}
    (unseen : ∀ entry ∈ attributes, ∀ link : Link, shown (link.applyAttribute entry) = shown link) (link : Link) :
    shown (attributes.foldl Link.applyAttribute link) = shown link := by
  induction attributes generalizing link with
  | nil => rfl
  | cons entry attributes inductionHypothesis =>
    obtain ⟨first, later⟩ := List.forall_mem_cons.mp unseen
    rw [List.foldl_cons, inductionHypothesis later, first]

theorem apply_addresses (link : Link) (message : LinkMessage) : (link.apply message).addresses = link.addresses := by
  refine foldl_applyAttribute (fun entry _ link => ?_) _
  cases entry <;> rfl

theorem apply_index (link : Link) (message : LinkMessage) : (link.apply message).index = link.index :=
  congrArg Prod.snd (link.identity_apply message)

theorem apply_mac {message : LinkMessage}
    (allowed : ∀ entry ∈ message.attributes, permission.AllowsAttribute setting.kernel message.index entry) :
    (∀ link : Link, (link.apply message).address = link.address) ∨ setting.kernel.Owns permission.mac message.index := by
  by_cases owns : setting.kernel.Owns permission.mac message.index
  · exact .inr owns
  · refine .inl fun link => foldl_applyAttribute (fun entry member link => ?_) _
    cases entry with
    | address mac => exact absurd (allowed _ member) owns
    | ifName name => rfl
    | mtu mtu => rfl

theorem apply_mtu {message : LinkMessage}
    (allowed : ∀ entry ∈ message.attributes, permission.AllowsAttribute setting.kernel message.index entry) :
    (∀ link : Link, (link.apply message).mtu = link.mtu) ∨ setting.kernel.Owns permission.mtu message.index := by
  by_cases owns : setting.kernel.Owns permission.mtu message.index
  · exact .inr owns
  · refine .inl fun link => foldl_applyAttribute (fun entry member link => ?_) _
    cases entry with
    | mtu mtu => exact absurd (allowed _ member) owns
    | ifName name => rfl
    | address mac => rfl

theorem flags_apply (link : Link) (message : LinkMessage) :
    (link.apply message).flags = (link.flags &&& ~~~message.changeMask) ||| (message.flags &&& message.changeMask) :=
  @foldl_applyAttribute _ Link.flags message.attributes (fun entry _ link => by cases entry <;> rfl)
    { link with flags := (link.flags &&& ~~~message.changeMask) ||| (message.flags &&& message.changeMask) }

theorem flags_apply_unmasked (link : Link) {message : LinkMessage} (noChange : message.changeMask = 0) :
    (link.apply message).flags = link.flags := by
  rw [flags_apply, noChange]
  simp

theorem apply_flags {message : LinkMessage}
    (allowed : message.changeMask = 0 ∨ message.changeMask = IFF_UP ∧ setting.kernel.Owns permission.flags message.index) :
    (∀ link : Link, (link.apply message).flags = link.flags) ∨ setting.kernel.Owns permission.flags message.index :=
  allowed.imp (fun noChange link => flags_apply_unmasked link noChange) And.right

/-- What a mask takes away is what it lets through. -/
theorem masked_others (flags others mask : UInt32) :
    ((flags &&& ~~~mask) ||| (others &&& mask)) &&& ~~~mask = flags &&& ~~~mask := by
  apply UInt32.toBitVec_inj.mp
  ext bit inside
  simp only [UInt32.toBitVec_and, UInt32.toBitVec_or, UInt32.toBitVec_not, BitVec.getElem_and, BitVec.getElem_or,
    BitVec.getElem_not]
  cases mask.toBitVec[bit] <;> simp

theorem apply_others {message : LinkMessage}
    (allowed : message.changeMask = 0 ∨ message.changeMask = IFF_UP ∧ setting.kernel.Owns permission.flags message.index)
    (link : Link) : (link.apply message).flags &&& ~~~IFF_UP = link.flags &&& ~~~IFF_UP := by
  obtain noChange | ⟨isUp, _⟩ := allowed
  · rw [flags_apply_unmasked link noChange]
  · rw [flags_apply, isUp, masked_others]

theorem confines_setLink {message : LinkMessage} (allowed : permission.Allows setting.kernel (.setLink message none)) :
    Confines permission setting (setLink message) fun _ => True := by
  have keeps := fun link : Link => link.identity_apply message
  refine confines_write (isRequest_setLink message) (fun _ => allowed) (fun moment sane => ?_) (fun moment sane => ?_)
    fun moment sane => ?_
  · exact ⟨Kernel.spares_changeAt keeps (.inl fun link => apply_index link message),
      Kernel.spares_changeAt keeps ((apply_mac allowed.2).imp_right sane.owns),
      Kernel.spares_changeAt keeps ((apply_mtu allowed.2).imp_right sane.owns),
      Kernel.spares_changeAt keeps (.inl fun link => apply_addresses link message)⟩
  · exact ⟨Kernel.spares_changeAt keeps ((apply_flags allowed.1).imp_right sane.owns),
      Kernel.spares_changeAt keeps (.inl fun link => apply_others allowed.1 link)⟩
  · refine sane.proper.changeAt _ fun link kept => ?_
    rw [apply_addresses]
    exact kept

/-- A request that changes the addresses of one interface. -/
theorem confines_addresses {event : Option NetlinkError → Event} {index : UInt32}
    {change : List AddressMessage → List AddressMessage}
    (isRequest : ∀ failure, (event failure).IsRequest)
    (allowed : ∀ failure, permission.Allows setting.kernel (event failure))
    (owns : setting.kernel.Owns permission.addresses index)
    (kept : ∀ messages : List AddressMessage, (∀ message ∈ messages, Proper setting.trusted index message) →
      ∀ message ∈ change messages, Proper setting.trusted index message) :
    Confines permission setting (write event fun kernel =>
      kernel.changeAt index (fun link => { link with addresses := change link.addresses }) fun _ => rfl) fun _ => True := by
  refine confines_write isRequest allowed (fun moment sane => ?_) (fun moment sane => ?_) fun moment sane => ?_
  · exact ⟨Kernel.spares_changeAt _ (.inl fun _ => rfl), Kernel.spares_changeAt _ (.inl fun _ => rfl),
      Kernel.spares_changeAt _ (.inl fun _ => rfl), Kernel.spares_changeAt _ (.inr (sane.owns owns))⟩
  · exact ⟨Kernel.spares_changeAt _ (.inl fun _ => rfl), Kernel.spares_changeAt _ (.inl fun _ => rfl)⟩
  · exact sane.proper.changeAt _ fun link => kept link.addresses

theorem confines_addAddress {index : UInt32} (owns : setting.kernel.Owns permission.addresses index) (address : IpAddr)
    (prefixLen : UInt8) : Confines permission setting (addAddress index address prefixLen) fun _ => True := by
  refine @confines_addresses permission setting _ index (· ++ [_]) (isRequest_addAddress index address prefixLen)
    (fun _ => owns) owns fun messages proper message member => ?_
  obtain before | added := List.mem_append.mp member
  · exact proper message before
  · rw [List.mem_singleton.mp added]
    exact ⟨rfl, fun _ _ => rfl⟩

theorem confines_delAddress {message : AddressMessage} (owns : setting.kernel.Owns permission.addresses message.index)
    (isInet : message.family = .inet) : Confines permission setting (delAddress message) fun _ => True := by
  have allowed : ∀ failure, permission.Allows setting.kernel (.delAddress message failure) := fun _ => ⟨owns, isInet⟩
  exact confines_addresses (isRequest_delAddress message) allowed owns
    fun _ proper other member => proper other (List.mem_of_mem_erase member)

/-- What a dump returns is in the kernel. -/
theorem ok_mem_dump {Message : Type} {messages : Kernel → List Message} {world final : World}
    {items : List (Except NetlinkError Message)} (ran : dump messages world = .done items final) {message : Message}
    (member : .ok message ∈ items) : message ∈ messages world.kernel := by
  refine @ok_mem_dumped _ world.dumpFailures.head _ _ ?_
  cases ran
  cases failed : world.dumpFailures.head with
  | none =>
    simp only [failed] at member
    exact member
  | some failure =>
    simp only [failed] at member
    exact member

/-- The messages of a dump are proper. -/
theorem confines_dumpAddresses (index : UInt32) :
    Confines permission setting (ExceptT.lift (dumpAddresses index) : Fallible World Failure _)
      fun items => ∀ message, .ok message ∈ items → Proper setting.trusted index message := by
  intro property _
  refine upholds_lift (triple_modifyGet fun world holds => ⟨holds, fun message member => ?_⟩)
  have ran : dumpAddresses index world = .done _ _ := rfl
  have inside := ok_mem_dump ran member
  cases found : world.kernel.links.find? fun link => link.index == index with
  | none =>
    simp only [found] at inside
    exact absurd inside List.not_mem_nil
  | some link =>
    simp only [found] at inside
    have isIndex : link.index = index := eq_of_beq (@List.find?_some _ (fun link : Link => link.index == index) _ _ found)
    exact isIndex ▸ holds.2.proper link (List.mem_of_find?_eq_some found) message inside

theorem confines_writeFile {path contents : String} (permitted : (path, contents) ∈ permission.files) :
    Confines permission setting (writeFile path contents) fun _ => True := by
  intro property stable
  refine triple_modifyGet fun world holds => ?_
  have isStep : ∀ failure, (Event.writeFile path contents failure).IsStep := fun _ =>
    ⟨fun _ _ => Event.noConfusion, fun _ => Event.noConfusion⟩
  cases failed : world.sysfsFailures.head with
  | some failure =>
    have act : Act permission setting (.writeFile path contents (some failure)) world.toMoment world.toMoment :=
      @Act.idle _ _ (.writeFile path contents (some failure)) permitted _
    exact ⟨⟨stable _ _ _ _ ⟨isStep _, act⟩ holds.1, holds.2⟩, fun _ contra => nomatch contra⟩
  | none =>
    let flagged : Link → Link := fun link =>
      { link with flags := world.sysfsFlags path contents link.name link.flags }
    have keeps : ∀ link, (flagged link).identity = link.identity := fun _ => rfl
    have spares : ∀ {Shown : Type} {shown : Link → Shown} {names : List String},
        (∀ link, shown (flagged link) = shown link) →
        Kernel.Spares shown names world.kernel (world.kernel.map flagged keeps) := by
      intro Shown shown names same name _
      rw [Kernel.find_map, Option.map_map]
      exact congrArg (Option.map · _) (funext same)
    have act : Act permission setting (.writeFile path contents none) world.toMoment
        { world.toMoment with kernel := world.kernel.map flagged keeps } :=
      ⟨permitted, ⟨spares fun _ => rfl, spares fun _ => rfl, spares fun _ => rfl, spares fun _ => rfl⟩,
        fun noFile => absurd rfl (noFile path contents none), rfl⟩
    refine ⟨⟨stable _ _ _ _ ⟨isStep _, act⟩ holds.1, holds.2.index.trans act.respected.index, ?_, holds.2.version⟩,
      fun _ _ => trivial⟩
    intro link member
    obtain ⟨before, isBefore, rfl⟩ := List.mem_map.mp member
    exact holds.2.proper before isBefore

theorem confines_setHwaddrSet (value : Bool) :
    Confines permission setting (setHwaddrSet value) fun _ => True := by
  intro property stable
  refine upholds_lift (triple_modify fun world holds => ?_)
  have act : Act permission setting (.setHwaddrSet value) world.toMoment
      { world.toMoment with network := { world.network with hwaddrSet := value } } :=
    ⟨trivial, permission.respected_refl _, fun _ => ⟨fun _ _ => rfl, fun _ _ => rfl⟩, rfl⟩
  have isStep : (Event.setHwaddrSet value).IsStep := ⟨fun _ _ => Event.noConfusion, fun _ => Event.noConfusion⟩
  exact ⟨⟨stable _ _ _ _ ⟨isStep, act⟩ holds.1, holds.2.index, holds.2.proper, holds.2.version⟩, trivial⟩

theorem confines_theNetwork :
    Confines permission setting theNetwork fun network => network.abiVer = setting.version :=
  fun _ _ => upholds_lift (triple_get_bind fun _ holds => triple_pure fun _ same => ⟨same ▸ holds, holds.2.version⟩)

theorem confines_whenOld {step : Io Unit}
    (confined : setting.version < 1 → Confines permission setting step fun _ => True) :
    Confines permission setting (whenOld step) fun _ => True := by
  refine confines_bind confines_theNetwork fun network isVersion => ?_
  by_cases old : network.abiVer < 1
  · rw [if_pos old]
    exact confined (isVersion ▸ old)
  · rw [if_neg old]
    exact confines_pure trivial

/-! ## The methods -/

theorem owns_of_mem {names : List String} {name : String} (member : name ∈ names) {index : UInt32}
    (isIndex : setting.kernel.indexOf name = some index) : setting.kernel.Owns names index :=
  ⟨name, member, isIndex⟩

theorem confines_getInterfaceMac (fromStr : String → Option MacAddr) (name : String) :
    Confines permission setting (getInterfaceMac fromStr name) fun _ => True := by
  refine confines_bind (confines_getLinkInfo name) fun link _ => ?_
  cases link.attributes.findSome? (macOf fromStr) with
  | some mac => exact confines_bind (confines_report fun _ => Output.noConfusion) fun _ _ => confines_pure trivial
  | none => exact confines_throw

theorem confines_getInterfaceMtu (name : String) :
    Confines permission setting (getInterfaceMtu name) fun _ => True := by
  refine confines_bind (confines_getLinkInfo name) fun link _ => ?_
  cases link.attributes.findSome? mtuOf with
  | some mtu => exact confines_bind (confines_report fun _ => Output.noConfusion) fun _ _ => confines_pure trivial
  | none => exact confines_throw

/-- A request about one interface, by its index. -/
theorem confines_setLinkOf {name : String} {message : UInt32 → LinkMessage} {output : Output}
    (regular : ∀ line, output ≠ .error line)
    (allowed : ∀ index, setting.kernel.indexOf name = some index →
      permission.Allows setting.kernel (.setLink (message index) none)) :
    Confines permission setting
      (do
        let index ← getLinkIndex name
        setLink (message index)
        report output : Netlink Unit) fun _ => True :=
  confines_bind (confines_getLinkIndex name) fun index isIndex =>
    confines_bind (confines_setLink (allowed index isIndex)) fun _ _ => confines_report regular

theorem confines_setInterfaceUp {name : String} (member : name ∈ permission.flags) :
    Confines permission setting (setInterfaceUp name) fun _ => True :=
  confines_setLinkOf (fun _ => Output.noConfusion) fun _ isIndex =>
    ⟨.inr ⟨rfl, owns_of_mem member isIndex⟩, List.forall_mem_nil _⟩

theorem confines_setInterfaceDown {name : String} (member : name ∈ permission.flags) :
    Confines permission setting (setInterfaceDown name) fun _ => True :=
  confines_setLinkOf (fun _ => Output.noConfusion) fun _ isIndex =>
    ⟨.inr ⟨rfl, owns_of_mem member isIndex⟩, List.forall_mem_nil _⟩

theorem confines_setInterfaceMac {name : String} (member : name ∈ permission.mac) (mac : MacAddr) :
    Confines permission setting (setInterfaceMac name mac) fun _ => True :=
  confines_setLinkOf (fun _ => Output.noConfusion) fun _ isIndex =>
    ⟨.inl rfl, List.forall_mem_singleton.mpr (owns_of_mem member isIndex)⟩

theorem confines_setInterfaceMtu {name : String} (member : name ∈ permission.mtu) (mtu : UInt32) :
    Confines permission setting (setInterfaceMtu name mtu) fun _ => True :=
  confines_setLinkOf (fun _ => Output.noConfusion) fun _ isIndex =>
    ⟨.inl rfl, List.forall_mem_singleton.mpr (owns_of_mem member isIndex)⟩

theorem confines_clearAddresses {index : UInt32} (owns : setting.kernel.Owns permission.addresses index)
    (items : List (Except NetlinkError AddressMessage))
    (proper : ∀ message, .ok message ∈ items → Proper setting.trusted index message) :
    Confines permission setting (clearAddresses items) fun _ => True := by
  induction items with
  | nil => exact confines_pure trivial
  | cons item items inductionHypothesis =>
    have later := inductionHypothesis fun message member => proper message (List.mem_cons_of_mem _ member)
    cases item with
    | error failure => exact confines_throw
    | ok addr =>
      have own : addr.index = index := (proper addr List.mem_cons_self).own
      rw [clearAddresses]
      by_cases isInet : addr.family = .inet
      · rw [if_pos isInet]
        exact confines_bind (confines_delAddress (own ▸ owns) isInet) fun _ _ => later
      · rw [if_neg isInet]
        exact later

theorem confines_clearInterfaceAddress {name : String} (member : name ∈ permission.addresses) :
    Confines permission setting (clearInterfaceAddress name) fun _ => True :=
  confines_bind (confines_getLinkIndex name) fun _ isIndex => confines_bind (confines_dumpAddresses _) fun items proper =>
    confines_bind (confines_clearAddresses (owns_of_mem member isIndex) items proper) fun _ _ =>
      confines_report fun _ => Output.noConfusion

theorem confines_applyAddresses {slaveIndex : UInt32} (owns : setting.kernel.Owns permission.addresses slaveIndex)
    (slave : String)
    (addrConfigs : List AddressMessage)
    (carry : setting.trusted → ∀ message ∈ addrConfigs, (message.attributes.findSome? addressOf).isSome) :
    Confines permission setting (applyAddresses slave slaveIndex addrConfigs) fun _ => True := by
  induction addrConfigs with
  | nil => exact confines_pure trivial
  | cons addr addrConfigs inductionHypothesis =>
    rw [applyAddresses]
    cases found : addr.attributes.findSome? addressOf with
    | none =>
      intro property _
      refine upholds_lift (triple_stop fun world holds => ⟨holds, fun isTrusted => ?_⟩)
      have carries := carry isTrusted addr List.mem_cons_self
      rw [found] at carries
      cases carries
    | some address =>
      exact confines_bind (confines_addAddress owns address addr.prefixLen) fun _ _ =>
        confines_bind (confines_report fun _ => Output.noConfusion) fun _ _ =>
          inductionHypothesis fun isTrusted message member =>
          carry isTrusted message (List.mem_cons_of_mem _ member)

theorem confines_copyAddressConfig {slave : String} (member : slave ∈ permission.addresses) (master : String) :
    Confines permission setting (copyAddressConfig master slave) fun _ => True := by
  refine confines_bind (confines_getLinkIndex master) fun masterIndex _ =>
    confines_bind (confines_getLinkIndex slave) fun slaveIndex isIndex =>
    confines_bind (confines_dumpAddresses masterIndex) fun items proper => ?_
  cases collected : collectAddresses items with
  | error failure => exact confines_throw
  | ok addrConfigs =>
    refine confines_bind (confines_clearInterfaceAddress member) fun _ _ =>
      confines_applyAddresses (owns_of_mem member isIndex) slave addrConfigs fun isTrusted message inside => ?_
    obtain ⟨dumped, isInet⟩ := mem_collectAddresses collected message inside
    exact (proper message dumped).carries isTrusted isInet

theorem confines_firstIp (items : List (Except NetlinkError AddressMessage)) :
    Confines permission setting (firstIp items) fun _ => True := by
  induction items with
  | nil => exact confines_pure trivial
  | cons item items inductionHypothesis =>
    cases item with
    | error failure => exact confines_throw
    | ok addr =>
      rw [firstIp]
      by_cases isInet : addr.family = .inet
      · rw [if_pos isInet]
        cases addr.attributes.findSome? ipv4Of with
        | none => exact inductionHypothesis
        | some ip => exact confines_pure trivial
      · rw [if_neg isInet]
        exact inductionHypothesis

/-! ## Enslaving -/

section

variable {fromStr : String → Option MacAddr} {master slave : String}

theorem confines_slaveFlags : Confines permission setting (slaveFlags slave) fun _ => True :=
  confines_orFail (confines_getInterfaceFlags slave)

theorem confines_refuseSlave (flags : UInt32) :
    Confines permission setting (refuseSlave slave flags) fun _ => flags &&& IFF_SLAVE = 0 := by
  unfold refuseSlave
  by_cases isSlave : flags &&& IFF_SLAVE ≠ 0
  · rw [if_pos isSlave]
    exact confines_throw
  · rw [if_neg isSlave]
    exact confines_pure (not_ne_iff.mp isSlave)

theorem confines_disableSlave (member : slave ∈ permission.flags) :
    Confines permission setting (disableSlave slave) fun _ => True :=
  confines_orFail (confines_setInterfaceDown member)

theorem confines_matchAddresses (member : slave ∈ permission.addresses) :
    Confines permission setting (matchAddresses master slave) fun _ => True := by
  refine confines_bind confines_theNetwork fun network _ => ?_
  split
  · exact confines_orFail (confines_copyAddressConfig member master)
  · exact confines_orFail (confines_clearInterfaceAddress member)

theorem confines_matchMtu (member : slave ∈ permission.mtu) :
    Confines permission setting (matchMtu master slave) fun _ => True := by
  refine confines_bind (confines_orFail (confines_getInterfaceMtu master)) fun masterMtu _ =>
    confines_bind (confines_orFail (confines_getInterfaceMtu slave)) fun slaveMtu _ => ?_
  split
  · exact confines_orFail (confines_setInterfaceMtu member masterMtu)
  · exact confines_pure trivial

/-- What matching the hardware addresses needs. -/
structure Permission.MatchesMac (permission : Permission) (version : Int) (master slave : String) : Prop where
  masterMac : master ∈ permission.mac
  slaveMac : version < 1 → slave ∈ permission.mac
  masterFlags : version < 1 → master ∈ permission.flags
  slaveFlags : version < 1 → slave ∈ permission.flags

theorem confines_followMaster (permitted : permission.MatchesMac setting.version master slave) (masterMac : MacAddr) :
    Confines permission setting (followMaster slave masterMac) fun _ => True :=
  confines_whenOld fun old =>
    confines_bind (confines_orFail (confines_setInterfaceMac (permitted.slaveMac old) masterMac)) fun _ _ =>
      confines_orFail (confines_setInterfaceUp (permitted.slaveFlags old))

theorem confines_adoptAddress (permitted : permission.MatchesMac setting.version master slave) (slaveMac : MacAddr) :
    Confines permission setting (adoptAddress master slaveMac) fun _ => True :=
  confines_bind (confines_whenOld fun old => confines_orFail (confines_setInterfaceDown (permitted.masterFlags old)))
    fun _ _ => confines_bind (confines_orFail (confines_setInterfaceMac permitted.masterMac slaveMac)) fun _ _ =>
    confines_bind (confines_whenOld fun old => confines_orFail (confines_setInterfaceUp (permitted.masterFlags old)))
    fun _ _ => confines_setHwaddrSet true

theorem confines_matchHardwareAddress (permitted : permission.MatchesMac setting.version master slave)
    (parses : setting.trusted → (fromStr "00:00:00:00:00:00").isSome) :
    Confines permission setting (matchHardwareAddress fromStr master slave) fun _ => True := by
  refine confines_bind (confines_orFail (confines_getInterfaceMac fromStr master)) fun masterMac _ =>
    confines_bind (confines_orFail (confines_getInterfaceMac fromStr slave)) fun slaveMac _ => ?_
  cases zero : fromStr "00:00:00:00:00:00" with
  | none =>
    intro property _
    refine upholds_lift (triple_stop fun world holds => ⟨holds, fun isTrusted => ?_⟩)
    have parsed := parses isTrusted
    rw [zero] at parsed
    cases parsed
  | some zeroMac =>
    have noticed : Confines permission setting (noticeMasterMac masterMac zeroMac) fun _ => True := by
      unfold noticeMasterMac
      split
      · exact confines_setHwaddrSet true
      · exact confines_pure trivial
    refine confines_bind noticed fun _ _ => confines_bind confines_theNetwork fun network _ => ?_
    split
    · exact confines_followMaster permitted masterMac
    · exact confines_adoptAddress permitted slaveMac

theorem confines_attach (permitted : (slavesFile master, "+" ++ slave) ∈ permission.files) :
    Confines permission setting (attach master slave) fun _ => True :=
  confines_bind (confines_mapError (confines_writeFile permitted)) fun _ _ =>
    confines_report fun _ => Output.noConfusion

/-- What enslaving needs. -/
structure Permission.Enslaves (permission : Permission) (version : Int) (master slave : String) : Prop
    extends permission.MatchesMac version master slave where
  flags : slave ∈ permission.flags
  mtu : slave ∈ permission.mtu
  addresses : slave ∈ permission.addresses
  file : (slavesFile master, "+" ++ slave) ∈ permission.files

theorem confines_enslave (permitted : permission.Enslaves setting.version master slave)
    (parses : setting.trusted → (fromStr "00:00:00:00:00:00").isSome) :
    Confines permission setting (enslave fromStr master slave) fun _ => True :=
  confines_bind confines_slaveFlags fun flags _ => confines_bind (confines_refuseSlave flags) fun _ _ =>
    confines_bind (confines_disableSlave permitted.flags) fun _ _ =>
    confines_bind (confines_matchAddresses permitted.addresses) fun _ _ =>
    confines_bind (confines_matchMtu permitted.mtu) fun _ _ =>
    confines_bind (confines_matchHardwareAddress permitted.toMatchesMac parses) fun _ _ => confines_attach permitted.file

end

/-! ## Releasing and changing the active slave -/

theorem confines_requireSlave (slave : String) (flags : UInt32) :
    Confines permission setting (requireSlave slave flags) fun _ => True := by
  unfold requireSlave
  split
  · exact confines_throw
  · exact confines_pure trivial

theorem confines_release {master slave : String} (flags : slave ∈ permission.flags) (mtu : slave ∈ permission.mtu)
    (file : (slavesFile master, "-" ++ slave) ∈ permission.files) :
    Confines permission setting (release master slave) fun _ => True :=
  confines_bind confines_slaveFlags fun _ _ => confines_bind (confines_requireSlave slave _) fun _ _ =>
    confines_bind (confines_mapError (confines_writeFile file)) fun _ _ =>
    confines_bind (confines_whenOld fun _ => confines_disableSlave flags) fun _ _ =>
    confines_bind (confines_orFail (confines_setInterfaceMtu mtu 1500)) fun _ _ =>
      confines_report fun _ => Output.noConfusion

theorem confines_changeActive {master slave : String} (file : (activeSlaveFile master, slave) ∈ permission.files) :
    Confines permission setting (changeActive master slave) fun _ => True :=
  confines_bind (confines_orFail (confines_getLinkIndex master)) fun _ _ =>
    confines_bind (confines_orFail (confines_getLinkIndex slave)) fun _ _ =>
    confines_bind (confines_orFail (confines_getInterfaceFlags slave)) fun _ _ =>
    confines_bind (confines_requireSlave slave _) fun _ _ =>
    confines_bind (confines_mapError (confines_writeFile file)) fun _ _ => confines_report fun _ => Output.noConfusion

end

/-! ## The command -/

/-- A process that keeps to the permissions, whatever it returns. -/
def Obeys {Result : Type} (permission : Permission) (setting : Setting) (process : Proc World Result) :
    Prop :=
  ∀ property : List (Event × Moment) → Moment → Prop, Stable (Act permission setting) property →
    Triple (fun world => property world.log world.toMoment ∧ Sane setting world.toMoment) process
      (fun _ world => property world.log world.toMoment ∧ Sane setting world.toMoment)
      fun world => (property world.log world.toMoment ∧ Sane setting world.toMoment) ∧ ¬ setting.trusted

section

variable {permission : Permission} {setting : Setting} {Failure Failure' Result Next : Type}

theorem obeys_pure {value : Result} : Obeys permission setting (pure value : Proc World Result) :=
  fun _ _ => triple_pure fun _ holds => holds

theorem obeys_bind {process : Proc World Result} {next : Result → Proc World Next}
    (first : Obeys permission setting process) (second : ∀ value, Obeys permission setting (next value)) :
    Obeys permission setting (process >>= next) :=
  fun property stable => triple_bind (first property stable) fun value => second value property stable

theorem Confines.obeys {process : Fallible World Failure Result} {about : Result → Prop}
    (confined : Confines permission setting process about) : Obeys permission setting process.run := by
  intro property stable
  have inner := stable.mono fun event now next (goes : event.IsStep ∧ Act permission setting event now next) => goes.2
  exact triple_conseq (confined property inner) (fun _ holds => holds) fun _ _ reached => reached.1

theorem obeys_tryBind {process : Fallible World Failure Result} {next : Result → Fallible World Failure Next}
    (first : Obeys permission setting process.run)
    (second : ∀ value, Obeys permission setting (next value).run) :
    Obeys permission setting (process >>= next).run := by
  refine obeys_bind first fun result => ?_
  cases result with
  | ok value => exact second value
  | error failure => exact obeys_pure

theorem obeys_throw {failure : Failure} :
    Obeys permission setting (throw failure : Fallible World Failure Result).run :=
  obeys_pure

theorem obeys_lift {process : Proc World Result} (obeys : Obeys permission setting process) :
    Obeys permission setting (ExceptT.lift process : Fallible World Failure Result).run :=
  obeys_bind obeys fun _ => obeys_pure

theorem obeys_mapError {process : Fallible World Failure Result} {change : Failure → Failure'}
    (obeys : Obeys permission setting process.run) :
    Obeys permission setting (process.mapError change).run := by
  show Obeys permission setting (Except.mapError change <$> process.run)
  rw [map_eq_pure_bind]
  exact obeys_bind obeys fun _ => obeys_pure

theorem obeys_note {event : Event} (allowed : permission.Allows setting.kernel event) :
    Obeys permission setting (modify (·.note event)) := by
  intro property stable
  refine triple_modify fun world holds => ?_
  have act : Act permission setting event world.toMoment world.toMoment := .idle allowed _
  exact ⟨stable _ _ _ _ act holds.1, holds.2⟩

theorem obeys_print (output : Output) : Obeys permission setting (print output) := obeys_note trivial

theorem obeys_dump {Message : Type} (messages : Kernel → List Message) :
    Obeys permission setting (dump messages) :=
  fun _ _ => triple_modifyGet fun _ holds => holds

theorem obeys_showInterface (link : LinkMessage) (name : String) :
    Obeys permission setting (showInterface link name) := by
  have shown : Confines permission setting (getInterfaceIp name) fun _ => True :=
    confines_bind (confines_getLinkIndex name) fun _ _ => confines_bind (confines_dumpAddresses _) fun items _ =>
      confines_firstIp items
  exact obeys_bind shown.obeys fun _ => obeys_print _

theorem obeys_showLinks (links : List (Except NetlinkError Link)) :
    Obeys permission setting (showLinks links).run := by
  induction links with
  | nil => exact obeys_pure
  | cons item links inductionHypothesis =>
    cases item with
    | error failure => exact obeys_throw
    | ok link =>
      exact obeys_tryBind (obeys_lift (obeys_showInterface link.message link.name)) fun _ => inductionHypothesis

theorem obeys_showInterfaces (shown : Option String) :
    Obeys permission setting (showInterfaces shown).run := by
  cases shown with
  | none => exact obeys_tryBind (obeys_lift (obeys_dump _)) fun links => obeys_showLinks links
  | some name =>
    exact obeys_tryBind (confines_getLinkInfo name).obeys fun link => obeys_lift (obeys_showInterface link name)

theorem obeys_getDrvInfo (name : String) : Obeys permission setting (getDrvInfo name).run := by
  refine obeys_tryBind (confines_getInterfaceFlags name).obeys fun flags => ?_
  split
  · exact obeys_throw
  · exact obeys_pure

theorem obeys_requireFlag (name : String) (flag : UInt32) (message : String) :
    Obeys permission setting (requireFlag name flag message).run := by
  refine obeys_tryBind (obeys_lift (obeys_bind (confines_getInterfaceFlags name).obeys fun answer => ?_)) fun set => ?_
  · cases answer with
    | ok flags => exact obeys_pure
    | error failure => exact obeys_pure
  · split
    · exact obeys_pure
    · exact obeys_throw

theorem obeys_batch {operation : String → Proc World Bool} {slaves : List String}
    (each : ∀ slave ∈ slaves, Obeys permission setting (operation slave)) (errors : Bool) :
    Obeys permission setting (batch operation slaves errors) := by
  induction slaves generalizing errors with
  | nil => exact obeys_pure
  | cons slave slaves inductionHypothesis =>
    obtain ⟨first, later⟩ := List.forall_mem_cons.mp each
    exact obeys_bind first fun failed => inductionHypothesis later (errors || failed)

theorem obeys_errorsOccurred (errors : Bool) : Obeys permission setting (errorsOccurred errors).run := by
  cases errors with
  | true => exact obeys_throw
  | false => exact obeys_pure

theorem obeys_enslaveOne {fromStr : String → Option MacAddr} {master slave : String}
    (permitted : permission.Enslaves setting.version master slave)
    (parses : setting.trusted → (fromStr "00:00:00:00:00:00").isSome) :
    Obeys permission setting (enslaveOne fromStr master slave) := by
  refine obeys_bind (confines_enslave permitted parses).obeys fun result => ?_
  have noted : permission.Allows setting.kernel (.enslaved slave result) := trivial
  refine obeys_bind (obeys_note noted) fun _ => ?_
  cases result with
  | ok value => exact obeys_pure
  | error failure => exact obeys_bind (obeys_print _) fun _ => obeys_pure

theorem obeys_releaseOne {master slave : String} (flags : slave ∈ permission.flags) (mtu : slave ∈ permission.mtu)
    (file : (slavesFile master, "-" ++ slave) ∈ permission.files) :
    Obeys permission setting (releaseOne master slave) := by
  refine obeys_bind (confines_release flags mtu file).obeys fun result => ?_
  cases result with
  | ok value => exact obeys_pure
  | error failure => exact obeys_bind (obeys_print _) fun _ => obeys_pure

end

section

variable {setting : Setting} {optArgs : IfenslaveConfig} {master : String} {slaves : List String}
  (arguments : optArgs.interfaces = master :: slaves) (notAll : ¬ optArgs.allInterfaces = true)
include arguments notAll

theorem obeys_operate {fromStr : String → Option MacAddr} (some : slaves ≠ [])
    (parses : setting.trusted → (fromStr "00:00:00:00:00:00").isSome) :
    Obeys (Permission.of optArgs setting.version) setting (operate fromStr optArgs master slaves).run := by
  refine obeys_tryBind (obeys_requireFlag _ _ _) fun _ => obeys_tryBind (obeys_requireFlag _ _ _) fun _ => ?_
  rw [Permission.of, arguments]
  simp only [if_neg notAll, if_neg some]
  by_cases active : optArgs.changeActive = true
  · simp only [if_pos active]
    match slaves with
    | [] => exact obeys_throw
    | [slave] => exact (confines_mapError (confines_changeActive List.mem_cons_self)).obeys
    | _ :: _ :: _ => exact obeys_throw
  · simp only [if_neg active]
    by_cases detach : optArgs.detach = true
    · simp only [if_pos detach]
      refine obeys_tryBind (obeys_lift (obeys_batch (fun slave member => ?_) false)) fun errors =>
        obeys_errorsOccurred errors
      exact obeys_releaseOne member member (List.mem_map_of_mem member)
    · simp only [if_neg detach]
      refine obeys_tryBind (obeys_lift (obeys_batch (fun slave member => ?_) false)) fun errors =>
        obeys_errorsOccurred errors
      refine obeys_enslaveOne ⟨?_, ?_, member, member, List.mem_map_of_mem member⟩ parses
      · by_cases old : setting.version < 1
        · have later := List.mem_cons_of_mem master member
          simp only [if_pos old]
          exact ⟨List.mem_cons_self, fun _ => later, fun _ => List.mem_cons_self, fun _ => later⟩
        · simp only [if_neg old]
          exact ⟨List.mem_cons_self, fun contra => absurd contra old, fun contra => absurd contra old,
            fun contra => absurd contra old⟩
      · by_cases old : setting.version < 1
        · simp only [if_pos old]
          exact List.mem_cons_of_mem master member
        · simp only [if_neg old]
          exact member

end

theorem obeys_mainRunWith {setting : Setting} {fromStr : String → Option MacAddr}
    (parses : setting.trusted → (fromStr "00:00:00:00:00:00").isSome) (showError : NetlinkError → String)
    (optArgs : IfenslaveConfig) :
    Obeys (Permission.of optArgs setting.version) setting (mainRunWith fromStr showError optArgs).run := by
  unfold mainRunWith
  by_cases all : optArgs.allInterfaces = true
  · rw [if_pos all]
    split
    · exact obeys_mapError (obeys_showInterfaces none)
    · exact obeys_throw
  · rw [if_neg all]
    cases arguments : optArgs.interfaces with
    | nil => exact obeys_tryBind (obeys_lift (obeys_print _)) fun _ => obeys_throw
    | cons master slaves =>
      refine obeys_tryBind (obeys_mapError (obeys_getDrvInfo master)) fun _ => ?_
      by_cases shows : optArgs.isShowMode = true
      · rw [if_pos shows]
        exact obeys_mapError (obeys_showInterfaces (some master))
      · rw [if_neg shows]
        refine obeys_operate arguments all (fun isEmpty => shows ?_) parses
        rw [Bool.not_eq_true] at all
        rw [IfenslaveConfig.isShowMode, arguments, isEmpty, all]
        rfl

/-- All that has happened stays within the permissions, and nothing else has changed at any time. -/
def Permission.Held (permission : Permission) (kernel : Kernel) (past : List (Event × Moment)) (now : Moment) : Prop :=
  (permission.Respected kernel now.kernel ∧ ∀ entry ∈ past, permission.Respected kernel entry.2.kernel) ∧
    ∀ entry ∈ past, permission.Allows kernel entry.1

theorem Permission.stable_held (permission : Permission) (setting : Setting) :
    Stable (Act permission setting) (permission.Held setting.kernel) := by
  have respected : ∀ event now next, Act permission setting event now next →
      permission.Respected setting.kernel now.kernel → permission.Respected setting.kernel next.kernel :=
    fun event now next act before => before.trans act.respected
  refine (Stable.always respected).and ?_
  -- an event that was allowed stays so
  exact @Stable.established _ _ (Act permission setting) (fun event _ => permission.Allows setting.kernel event)
    fun event now next act => ⟨fun _ allowed => allowed, act.allowed⟩

end Utiputils.Ifenslave
