import Utiputils.Ifenslave.Views

/-! # The batch

What enslaving may do to the addresses of a bond, one change at a time; that `enslave` does nothing else; and what
follows for a whole batch, in which any access may fail. -/

namespace Utiputils.Ifenslave

open Utiputils.Lib Utiputils.Pnet Proc Fallible

/-! ## What enslaving may do -/

/-- A hardware address that is not all zeros. -/
def IsSet (mac : Option Bytes) : Prop := ∃ address, mac = some address ∧ address ≠ MacAddr.zero.octets

/-- The hardware address of an interface that has none yet. -/
def unset : Option Bytes := some MacAddr.zero.octets

theorem not_isSet_unset : ¬ IsSet unset := by
  rintro ⟨address, same, nonzero⟩
  exact nonzero (Option.some.inj same).symm

/-- The changes that come with a slave: the master's address is noticed, or taken from the slave while the master has
none; and the slave is given an address or an MTU. -/
inductive Change (original : String → Option Bytes) (master slave : String) : View → View → Prop where
  | stay (view : View) : Change original master slave view view
  | mark (view : View) (known : IsSet (view.mac master)) :
      Change original master slave view { view with hwaddrSet := true }
  | adopt (view : View) (mac : Bytes) (free : view.mac master = unset) (own : original slave = some mac)
      (nonzero : IsSet (original slave)) :
      Change original master slave view { view with mac := Function.update view.mac master (some mac) }
  | follow (view : View) (mac : Bytes) :
      Change original master slave view { view with mac := Function.update view.mac slave (some mac) }
  | tune (view : View) (mtu : UInt32) :
      Change original master slave view { view with mtu := Function.update view.mtu slave (some mtu) }

/-- The flag says that the master has an address. -/
def Flagged (master : String) (view : View) : Prop := view.hwaddrSet = true → IsSet (view.mac master)

/-- The slave agrees with the master. -/
structure Matched (master slave : String) (view : View) : Prop where
  mtu : view.mtu slave = view.mtu master
  mac : view.abiVer < 1 → view.mac slave = view.mac master ∧ IsSet (view.mac master)

/-- The master has its own address, or one of a slave's where it had none. -/
def Originates (original : String → Option Bytes) (master : String) (slaves : List String) (view : View) : Prop :=
  view.mac master = original master ∨
    original master = unset ∧ ∃ slave ∈ slaves, view.mac master = original slave

/-- An address once set stays. -/
def Latched (master : String) (earlier later : View) : Prop :=
  earlier.mac master ≠ unset → later.mac master = earlier.mac master

theorem Latched.trans {master : String} (first second third : View) (before : Latched master first second)
    (after : Latched master second third) : Latched master first third := by
  intro set
  have same := before set
  rw [after (same ▸ set), same]

section

variable {original : String → Option Bytes} {master slave : String} {now next : View}
  (change : Change original master slave now next)
include change

theorem Change.master_mac (distinct : slave ≠ master) :
    next.mac master = now.mac master ∨
      now.mac master = unset ∧ next.mac master = original slave ∧ IsSet (original slave) := by
  cases change with
  | stay => exact .inl rfl
  | mark known => exact .inl rfl
  | adopt mac free own nonzero => exact .inr ⟨free, by rw [own]; exact Function.update_self .., nonzero⟩
  | follow mac => exact .inl (Function.update_of_ne distinct.symm _ _)
  | tune mtu => exact .inl rfl

theorem Change.isSet (distinct : slave ≠ master) (set : IsSet (now.mac master)) : IsSet (next.mac master) := by
  obtain same | ⟨free, _⟩ := change.master_mac distinct
  · rw [same]
    exact set
  · rw [free] at set
    exact absurd set not_isSet_unset

theorem Change.flagged (distinct : slave ≠ master) (flagged : Flagged master now) : Flagged master next := by
  intro flag
  by_cases before : now.hwaddrSet = true
  · exact change.isSet distinct (flagged before)
  · cases change with
    | stay => exact absurd flag before
    | mark known => exact known
    | adopt mac free own nonzero => exact absurd flag before
    | follow mac => exact absurd flag before
    | tune mtu => exact absurd flag before

theorem Change.latched (distinct : slave ≠ master) : Latched master now next := by
  intro set
  obtain same | ⟨free, _⟩ := change.master_mac distinct
  · exact same
  · exact absurd free set

theorem Change.originates (distinct : slave ≠ master) {slaves : List String} (member : slave ∈ slaves)
    (originates : Originates original master slaves now) : Originates original master slaves next := by
  obtain same | ⟨free, taken, _⟩ := change.master_mac distinct
  · simpa only [Originates, same] using originates
  · refine .inr ⟨?_, slave, member, taken⟩
    cases originates with
    | inl own => rw [← own, free]
    | inr other => exact other.1

/-- Another interface than the master and the slave stays as it is. -/
theorem Change.other {name : String} (notMaster : name ≠ master) (notSlave : name ≠ slave) :
    next.mac name = now.mac name ∧ next.mtu name = now.mtu name := by
  cases change with
  | stay => exact ⟨rfl, rfl⟩
  | mark known => exact ⟨rfl, rfl⟩
  | adopt mac free own nonzero => exact ⟨Function.update_of_ne notMaster _ _, rfl⟩
  | follow mac => exact ⟨Function.update_of_ne notSlave _ _, rfl⟩
  | tune mtu => exact ⟨rfl, Function.update_of_ne notSlave _ _⟩

theorem Change.master_mtu (distinct : slave ≠ master) : next.mtu master = now.mtu master := by
  cases change with
  | tune mtu => exact Function.update_of_ne distinct.symm _ _
  | _ => rfl

theorem Change.abiVer : next.abiVer = now.abiVer := by
  cases change <;> rfl

/-- What another slave has reached stays. -/
theorem Change.matched (distinct : slave ≠ master) {other : String} (notMaster : other ≠ master)
    (notSlave : other ≠ slave) (matched : Matched master other now) : Matched master other next := by
  obtain ⟨sameMac, sameMtu⟩ := change.other notMaster notSlave
  constructor
  · rw [sameMtu, change.master_mtu distinct, matched.mtu]
  · intro old
    rw [change.abiVer] at old
    obtain ⟨follows, set⟩ := matched.mac old
    have latched : next.mac master = now.mac master :=
      change.latched distinct fun free => not_isSet_unset (free ▸ set)
    rw [sameMac, latched, follows]
    exact ⟨rfl, set⟩

end

/-! ## What the methods do -/

/-- An event of `enslave`, and the change that comes with it. -/
def Step (original : String → Option Bytes) (master slave : String) (event : Event) (now next : View) : Prop :=
  event.IsInner ∧ Change original master slave now next

theorem Moment.view_apply {moment : Moment} {name : String} {link : Link}
    (found : moment.kernel.find name = some link) (message : LinkMessage) (same : link.index = message.index) :
    { moment with kernel := moment.kernel.changeAt message.index (·.apply message) fun link =>
      link.identity_apply message }.view =
      { moment.view with
        mac := Function.update moment.view.mac name (some (link.apply message).address)
        mtu := Function.update moment.view.mtu name (some (link.apply message).mtu) } := by
  have finds := Kernel.find_changeAt_of_index found fun link => link.identity_apply message
  rw [same] at finds
  apply View.ext
  · rfl
  · rfl
  · simp only [Moment.view, finds, map_update]
    have unchanged : (link.apply message).index = link.index := congrArg Prod.snd (link.identity_apply message)
    funext other
    by_cases isName : other = name
    · rw [isName, Function.update_self, found, unchanged]
      rfl
    · rw [Function.update_of_ne isName]
  · simp only [Moment.view, finds, map_update]
  · simp only [Moment.view, finds, map_update]

section

variable {property : List (Event × View) → View → Prop} {fact : View → Prop}

/-- What a query has shown of an interface. -/
def Shows (name : String) (message : LinkMessage) (view : View) : Prop :=
  ∃ link : Link, message = link.message ∧ view.index name = some link.index ∧ view.mac name = some link.address ∧
    view.mtu name = some link.mtu

theorem runs_getLinkInfo (name : String) :
    Runs property fact (getLinkInfo name) fun message view => fact view ∧ Shows name message view := by
  refine tries_mk (triple_modifyGet fun world ⟨holds, here⟩ => ?_)
  cases world.readFailures.head with
  | some failure => exact holds
  | none =>
    cases found : world.kernel.find name with
    | none => exact holds
    | some link =>
      have shown : ∀ {Shown : Type} (show' : Link → Shown),
          (world.kernel.find name).map show' = some (show' link) := fun show' => by rw [found, Option.map_some]
      exact ⟨holds, here, link, rfl, shown Link.index, shown Link.address, shown Link.mtu⟩

theorem runs_getLinkIndex (name : String) :
    Runs property fact (getLinkIndex name) fun index view => fact view ∧ view.index name = some index := by
  refine runs_bind (runs_getLinkInfo name) fun message => runs_pure ?_
  rintro view ⟨here, link, rfl, index, _⟩
  exact ⟨here, index⟩

variable (still : Stable Still property)
include still

theorem runs_getInterfaceMtu (name : String) :
    Runs property fact (getInterfaceMtu name) fun mtu view => fact view ∧ view.mtu name = some mtu := by
  refine runs_bind (runs_getLinkInfo name) fun message => ?_
  cases mtuFound : message.attributes.findSome? mtuOf with
  | none => exact runs_throw
  | some mtu =>
    have shown : ∀ view, fact view ∧ Shows name message view → fact view ∧ view.mtu name = some mtu := by
      rintro view ⟨here, link, rfl, _, _, isMtu⟩
      cases mtuFound
      exact ⟨here, isMtu⟩
    exact runs_conseq (runs_bind ((quiet_report _).runs still) fun _ => runs_pure fun _ here => here) shown
      fun _ _ here => here

omit still in
/-- The address that is read is the one of the interface. -/
theorem macOf_address {fromStr : String → Option MacAddr} (parses : ParsesMac fromStr) {address : Bytes}
    {mac : MacAddr} (read : macOf fromStr (.address address) = some mac) : address = mac.octets := by
  rw [macOf] at read
  split at read
  · next six =>
    have whole : address = (macAt address 0).octets := by
      match address, six with
      | [_, _, _, _, _, _], _ => rfl
    rw [whole, parses, Option.some.injEq] at read
    rw [whole, read]
  · cases read

theorem runs_getInterfaceMac {fromStr : String → Option MacAddr} (parses : ParsesMac fromStr) (name : String) :
    Runs property fact (getInterfaceMac fromStr name) fun mac view => fact view ∧ view.mac name = some mac.octets := by
  refine runs_bind (runs_getLinkInfo name) fun message => ?_
  cases macFound : message.attributes.findSome? (macOf fromStr) with
  | none => exact runs_throw
  | some mac =>
    have shown : ∀ view, fact view ∧ Shows name message view → fact view ∧ view.mac name = some mac.octets := by
      rintro view ⟨here, link, rfl, _, isMac, _⟩
      have last : link.message.attributes.findSome? (macOf fromStr) = macOf fromStr (.address link.address) := by
        have noName : macOf fromStr (.ifName link.name) = none := rfl
        have noMtu : macOf fromStr (.mtu link.mtu) = none := rfl
        simp only [Link.message, List.findSome?_cons, List.findSome?_nil, noName, noMtu]
        cases macOf fromStr (.address link.address) <;> rfl
      have read := last.symm.trans macFound
      exact ⟨here, by rw [isMac, macOf_address parses read]⟩
    exact runs_conseq (runs_bind ((quiet_report _).runs still) fun _ => runs_pure fun _ here => here) shown
      fun _ _ here => here

end

section

variable {original : String → Option Bytes} {master slave : String}
  {property : List (Event × View) → View → Prop} (stable : Stable (Step original master slave) property)
  {fact : View → Prop}
include stable

theorem Stable.still : Stable Still property :=
  stable.mono fun _ now _ ⟨inner, same⟩ => ⟨inner, by rw [same]; exact .stay now⟩

/-- A request that changes an address or an MTU: it fails, or it has its effect. -/
theorem runs_setLink {name : String} {message : LinkMessage} {change : View → View}
    (effect : ∀ (moment : Moment) link, moment.kernel.find name = some link → link.index = message.index →
      { moment with kernel := moment.kernel.changeAt message.index (·.apply message) fun link =>
        link.identity_apply message }.view = change moment.view)
    (allowed : ∀ view, fact view → Change original master slave view (change view)) :
    Runs property (fun view => fact view ∧ view.index name = some message.index) (setLink message)
      fun _ next => ∃ view, fact view ∧ next = change view := by
  refine tries_mk (triple_modifyGet fun world ⟨holds, here, known⟩ => ?_)
  have inner : ∀ failure, (Event.setLink message failure).IsInner := fun _ _ _ => Event.noConfusion
  cases world.writeFailures.head with
  | some failure => exact stable _ _ _ _ ⟨inner _, .stay _⟩ holds
  | none =>
    obtain ⟨link, found, same⟩ := Option.map_eq_some_iff.mp known
    have next := effect world.toMoment link found same
    have goes := (congrArg (Change original master slave world.view) next).mpr (allowed world.view here)
    exact ⟨stable _ _ _ _ ⟨inner _, goes⟩ holds, world.view, here, next⟩

theorem runs_setInterfaceMac (name : String) (mac : MacAddr) (allowed : ∀ view, fact view →
      Change original master slave view { view with mac := Function.update view.mac name (some mac.octets) }) :
    Runs property fact (setInterfaceMac name mac) fun _ next =>
      ∃ view, fact view ∧ next = { view with mac := Function.update view.mac name (some mac.octets) } := by
  refine runs_bind (runs_getLinkIndex name) fun index => runs_bind (@runs_setLink _ _ _ _ stable _ name
    { index, attributes := [.address mac.octets] } _ (fun moment link found same => ?_) allowed) fun _ =>
      (quiet_report _).runs (Stable.still stable)
  rw [Moment.view_apply found _ same]
  apply View.ext
  · rfl
  · rfl
  · rfl
  · rfl
  · have unchanged : moment.view.mtu name = some link.mtu := congrArg (Option.map Link.mtu) found
    exact (Function.update_eq_self_iff).mpr unchanged.symm

theorem runs_setInterfaceMtu (name : String) (mtu : UInt32) (allowed : ∀ view, fact view →
      Change original master slave view { view with mtu := Function.update view.mtu name (some mtu) }) :
    Runs property fact (setInterfaceMtu name mtu) fun _ next =>
      ∃ view, fact view ∧ next = { view with mtu := Function.update view.mtu name (some mtu) } := by
  refine runs_bind (runs_getLinkIndex name) fun index => runs_bind (@runs_setLink _ _ _ _ stable _ name
    { index, attributes := [.mtu mtu] } _ (fun moment link found same => ?_) allowed) fun _ =>
      (quiet_report _).runs (Stable.still stable)
  rw [Moment.view_apply found _ same]
  apply View.ext
  · rfl
  · rfl
  · rfl
  · have unchanged : moment.view.mac name = some link.address := congrArg (Option.map Link.address) found
    exact (Function.update_eq_self_iff).mpr unchanged.symm
  · rfl

theorem runs_setHwaddrSet (allowed : ∀ view, fact view → IsSet (view.mac master)) :
    Runs property fact (setHwaddrSet true) fun _ next => ∃ view, fact view ∧ next = { view with hwaddrSet := true } := by
  refine tries_lift (triple_modify fun world ⟨holds, here⟩ => ?_)
  have inner : (Event.setHwaddrSet true).IsInner := fun _ _ => Event.noConfusion
  exact ⟨stable _ _ _ _ ⟨inner, .mark _ (allowed _ here)⟩ holds, world.view, here, rfl⟩

omit stable in
theorem runs_theNetwork : Runs property fact theNetwork fun network view =>
    fact view ∧ network.hwaddrSet = view.hwaddrSet ∧ network.abiVer = view.abiVer := by
  refine tries_lift (triple_get_bind fun seen holds => triple_pure ?_)
  rintro world rfl
  exact ⟨holds.1, holds.2, rfl, rfl⟩

omit stable in
theorem quiet_whenOld {step : Io Unit} (quiet : Quiet step.run) : Quiet (whenOld step).run := by
  refine quiet_tryBind (quiet_lift (quiet_get_bind fun seen => quiet_pure)) fun network => ?_
  split
  · exact quiet
  · exact quiet_pure

/-! ## The phases of enslaving -/

omit stable in
theorem quiet_matchAddresses (master slave : String) : Quiet (matchAddresses master slave).run := by
  refine quiet_tryBind (quiet_lift (quiet_get_bind fun seen => quiet_pure)) fun network => ?_
  split
  · exact quiet_mapError (quiet_copyAddressConfig master slave)
  · exact quiet_mapError (quiet_clearInterfaceAddress slave)

/-- What is known of a slave whose turn it is. -/
structure Fresh (original : String → Option Bytes) (master slave : String) (view : View) : Prop where
  flagged : Flagged master view
  own : view.mac slave = original slave

theorem runs_matchMtu (distinct : slave ≠ master) :
    Runs property (Fresh original master slave) (matchMtu master slave) fun _ view =>
      Fresh original master slave view ∧ view.mtu slave = view.mtu master := by
  have still := Stable.still stable
  refine runs_bind (runs_mapError (runs_getInterfaceMtu still master)) fun masterMtu =>
    runs_bind (runs_mapError (runs_getInterfaceMtu still slave)) fun slaveMtu => ?_
  by_cases differ : masterMtu ≠ slaveMtu
  · simp only [if_pos differ]
    refine runs_mapError (runs_conseq (runs_setInterfaceMtu stable slave masterMtu fun view _ => .tune view masterMtu)
      (fun _ here => here) ?_)
    rintro _ next ⟨view, ⟨⟨fresh, isMaster⟩, _⟩, rfl⟩
    refine ⟨⟨fresh.flagged, fresh.own⟩, ?_⟩
    show Function.update view.mtu slave _ slave = Function.update view.mtu slave _ master
    rw [Function.update_self, Function.update_of_ne distinct.symm, isMaster]
  · simp only [if_neg differ]
    refine runs_pure fun view ⟨⟨fresh, isMaster⟩, isSlave⟩ => ⟨fresh, ?_⟩
    rw [isMaster, isSlave, not_ne_iff.mp differ]

/-- What is known when the addresses of the master and the slave have been read. -/
structure Known (original : String → Option Bytes) (master slave : String) (masterMac slaveMac : MacAddr)
    (view : View) : Prop extends Fresh original master slave view where
  mtu : view.mtu slave = view.mtu master
  isMaster : view.mac master = some masterMac.octets
  isSlave : view.mac slave = some slaveMac.octets

omit stable in
theorem octets_ne_zero {mac : MacAddr} (nonzero : mac ≠ .zero) : mac.octets ≠ MacAddr.zero.octets := by
  obtain ⟨a, b, c, d, e, f⟩ := mac
  intro same
  simp only [MacAddr.octets, MacAddr.zero, List.cons.injEq, and_true] at same
  obtain ⟨rfl, rfl, rfl, rfl, rfl, rfl⟩ := same
  exact nonzero rfl

theorem runs_noticeMasterMac (masterMac slaveMac : MacAddr) :
    Runs property (Known original master slave masterMac slaveMac) (noticeMasterMac masterMac .zero) fun _ view =>
      Known original master slave masterMac slaveMac view ∧ (view.hwaddrSet = false → masterMac = .zero) := by
  by_cases nonzero : masterMac ≠ .zero
  · rw [noticeMasterMac, if_pos nonzero]
    have set : ∀ view, Known original master slave masterMac slaveMac view → IsSet (view.mac master) :=
      fun view known => ⟨_, known.isMaster, octets_ne_zero nonzero⟩
    refine runs_conseq (runs_setHwaddrSet stable set) (fun _ here => here) ?_
    rintro _ next ⟨view, known, rfl⟩
    exact ⟨⟨⟨fun _ => set view known, known.own⟩, known.mtu, known.isMaster, known.isSlave⟩, fun contra => nomatch contra⟩
  · rw [noticeMasterMac, if_neg nonzero]
    exact runs_pure fun view known => ⟨known, fun _ => not_ne_iff.mp nonzero⟩

theorem runs_followMaster (distinct : slave ≠ master) (masterMac slaveMac : MacAddr) :
    Runs property (fun view => Known original master slave masterMac slaveMac view ∧ view.hwaddrSet = true)
      (followMaster slave masterMac) fun _ => Matched master slave := by
  refine runs_bind runs_theNetwork fun network => ?_
  by_cases old : network.abiVer < 1
  · simp only [if_pos old]
    refine runs_bind (runs_mapError (runs_setInterfaceMac stable slave masterMac fun view _ => .follow view _)) fun _ =>
      runs_conseq ((quiet_mapError (quiet_setInterfaceUp slave)).runs (Stable.still stable)) (fun _ here => here) ?_
    rintro _ next ⟨view, ⟨⟨known, flag⟩, _⟩, rfl⟩
    refine ⟨known.mtu, fun _ => ?_⟩
    show Function.update view.mac slave _ slave = Function.update view.mac slave _ master ∧
      IsSet (Function.update view.mac slave _ master)
    rw [Function.update_self, Function.update_of_ne distinct.symm, known.isMaster]
    exact ⟨rfl, known.isMaster ▸ known.flagged flag⟩
  · simp only [if_neg old]
    refine runs_pure fun view ⟨⟨known, _⟩, _, sameVersion⟩ => ⟨known.mtu, fun isOld => absurd ?_ old⟩
    rw [sameVersion]
    exact isOld

theorem runs_adoptAddress (distinct : slave ≠ master) (nonzero : original slave ≠ unset) (slaveMac : MacAddr) :
    Runs property (Known original master slave .zero slaveMac) (adoptAddress master slaveMac) fun _ =>
      Matched master slave := by
  have still := Stable.still stable
  have set : ∀ view, Known original master slave .zero slaveMac view → IsSet (original slave) := by
    intro view known
    have own : original slave = some slaveMac.octets := by rw [← known.own, known.isSlave]
    exact ⟨_, own, fun zero => nonzero (by rw [own, zero]; rfl)⟩
  refine runs_bind ((quiet_whenOld (quiet_mapError (quiet_setInterfaceDown master))).runs still) fun _ =>
    runs_bind (runs_mapError (runs_setInterfaceMac stable master slaveMac fun view known => .adopt view _ known.isMaster
      (by rw [← known.own, known.isSlave]) (set view known))) fun _ =>
    runs_bind ((quiet_whenOld (quiet_mapError (quiet_setInterfaceUp master))).runs still) fun _ => ?_
  have taken : ∀ view, Known original master slave .zero slaveMac view →
      IsSet (Function.update view.mac master (some slaveMac.octets) master) := by
    intro view known
    rw [Function.update_self, ← known.isSlave, known.own]
    exact set view known
  refine runs_conseq (runs_setHwaddrSet stable ?_) (fun _ here => here) ?_
  · rintro next ⟨view, known, rfl⟩
    exact taken view known
  · rintro _ last ⟨next, ⟨view, known, rfl⟩, rfl⟩
    refine ⟨known.mtu, fun _ => ⟨?_, taken view known⟩⟩
    show Function.update view.mac master _ slave = Function.update view.mac master _ master
    rw [Function.update_self, Function.update_of_ne distinct, known.isSlave]

theorem runs_matchHardwareAddress {fromStr : String → Option MacAddr} (parses : ParsesMac fromStr)
    (distinct : slave ≠ master) (nonzero : original slave ≠ unset) :
    Runs property (fun view => Fresh original master slave view ∧ view.mtu slave = view.mtu master)
      (matchHardwareAddress fromStr master slave) fun _ => Matched master slave := by
  have still := Stable.still stable
  have zeroMac : fromStr "00:00:00:00:00:00" = some .zero := parses .zero
  refine runs_bind (runs_mapError (runs_getInterfaceMac still parses master)) fun masterMac =>
    runs_bind (runs_mapError (runs_getInterfaceMac still parses slave)) fun slaveMac => ?_
  rw [zeroMac]
  refine runs_conseq (runs_bind (runs_noticeMasterMac stable masterMac slaveMac) fun _ =>
    runs_bind runs_theNetwork fun network => ?_)
    (fun view ⟨⟨⟨fresh, mtu⟩, isMaster⟩, isSlave⟩ => ⟨fresh, mtu, isMaster, isSlave⟩) fun _ _ matched => matched
  by_cases flag : network.hwaddrSet = true
  · simp only [if_pos flag]
    exact runs_conseq (runs_followMaster stable distinct masterMac slaveMac)
      (fun view ⟨⟨known, _⟩, sameFlag, _⟩ => ⟨known, by rw [← sameFlag, flag]⟩) fun _ _ matched => matched
  · simp only [if_neg flag]
    refine runs_conseq (runs_adoptAddress stable distinct nonzero slaveMac) ?_ fun _ _ matched => matched
    rintro view ⟨⟨known, notNoticed⟩, sameFlag, _⟩
    have zero := notNoticed (by rw [← sameFlag, Bool.eq_false_of_not_eq_true flag])
    exact zero ▸ known

omit stable in
theorem quiet_writeFile (path contents : String) : Quiet (writeFile path contents).run := by
  intro property stable
  refine keeps_modifyGet fun world holds => ?_
  have inner : ∀ failure, (Event.writeFile path contents failure).IsInner := fun _ _ _ => Event.noConfusion
  cases world.sysfsFailures.head with
  | some failure => exact stable _ _ _ _ ⟨inner _, rfl⟩ holds
  | none => exact stable _ _ _ _ ⟨inner _, world.toMoment.view_map _ fun _ => ⟨rfl, rfl⟩⟩ holds

omit stable in
theorem quiet_attach (master slave : String) : Quiet (attach master slave).run :=
  quiet_tryBind (quiet_mapError (quiet_writeFile _ _)) fun _ => quiet_report _

omit stable in
theorem quiet_refuseSlave (slave : String) (flags : UInt32) : Quiet (refuseSlave slave flags).run := by
  unfold refuseSlave
  split
  · exact quiet_pure
  · exact quiet_pure

/-- Whatever fails on the way, `enslave` makes nothing but changes of the bond; and where it succeeds, the slave
agrees with the master. -/
theorem runs_enslave {fromStr : String → Option MacAddr} (parses : ParsesMac fromStr) (distinct : slave ≠ master)
    (nonzero : original slave ≠ unset) :
    Runs property (Fresh original master slave) (enslave fromStr master slave) fun _ => Matched master slave := by
  have still := Stable.still stable
  exact runs_bind ((quiet_mapError (quiet_getInterfaceFlags slave)).runs still) fun flags =>
    runs_bind ((quiet_refuseSlave slave flags).runs still) fun _ =>
    runs_bind ((quiet_mapError (quiet_setInterfaceDown slave)).runs still) fun _ =>
    runs_bind ((quiet_matchAddresses master slave).runs still) fun _ =>
    runs_bind (runs_matchMtu stable distinct) fun _ =>
    runs_bind (runs_matchHardwareAddress stable parses distinct nonzero) fun _ =>
      (quiet_attach master slave).runs still

end

/-! ## The batch -/

/-- A slave that `enslave` has returned `Ok` for is not one of the pending ones, and agrees with the master. -/
def Finished (master : String) (pending : List String) (event : Event) (view : View) : Prop :=
  ∀ slave, event = .enslaved slave (.ok ()) → slave ∉ pending ∧ slave ≠ master ∧ Matched master slave view

/-- What holds of a history all the time: of the master, of the slaves that have not had their turn, and of those that
have. -/
def Sound (original : String → Option Bytes) (version : Int) (master : String) (slaves fresh pending : List String)
    (past : List (Event × View)) (now : View) : Prop :=
  (Flagged master now ∧ ∀ entry ∈ past, Flagged master entry.2) ∧
  (now :: past.map Prod.snd).Pairwise (fun later earlier => Latched master earlier later) ∧
  (Originates original master slaves now ∧ ∀ entry ∈ past, Originates original master slaves entry.2) ∧
  now.abiVer = version ∧
  (∀ slave ∈ fresh, now.mac slave = original slave) ∧
  ∀ entry ∈ past, Finished master pending entry.1 now

section

variable {original : String → Option Bytes} {version : Int} {master : String} {slaves fresh pending : List String}

theorem Sound.fewer {past : List (Event × View)} {now : View} {fresh' pending' : List String}
    (sound : Sound original version master slaves fresh pending past now) (fewerFresh : fresh' ⊆ fresh)
    (fewerPending : pending' ⊆ pending) : Sound original version master slaves fresh' pending' past now := by
  obtain ⟨flagged, latched, originates, isVersion, isFresh, finished⟩ := sound
  refine ⟨flagged, latched, originates, isVersion, fun slave member => isFresh slave (fewerFresh member), ?_⟩
  intro entry member slave returned
  obtain ⟨notPending, rest⟩ := finished entry member slave returned
  exact ⟨fun isPending => notPending (fewerPending isPending), rest⟩

theorem sound_step {slave : String} (member : slave ∈ slaves) (distinct : slave ≠ master) (notFresh : slave ∉ fresh)
    (masterNotFresh : master ∉ fresh) (isPending : slave ∈ pending) :
    Stable (Step original master slave) (Sound original version master slaves fresh pending) := by
  apply Stable.and (Stable.always fun _ _ _ ⟨_, change⟩ => change.flagged distinct)
  apply Stable.and (Stable.related Latched.trans fun _ _ _ ⟨_, change⟩ => change.latched distinct)
  apply Stable.and (Stable.always fun _ _ _ ⟨_, change⟩ => change.originates distinct member)
  apply Stable.and (Stable.now fun _ _ _ ⟨_, change⟩ isVersion => change.abiVer.trans isVersion)
  apply Stable.and
  · apply Stable.now
    intro event now next ⟨_, change⟩ own other isFresh
    have notMaster : other ≠ master := fun same => masterNotFresh (same ▸ isFresh)
    have notSlave : other ≠ slave := fun same => notFresh (same ▸ isFresh)
    rw [(change.other notMaster notSlave).1, own other isFresh]
  · apply Stable.established
    intro event now next ⟨inner, change⟩
    constructor
    · intro earlier finished other returned
      obtain ⟨notPending, notMaster, matched⟩ := finished other returned
      have notSlave : other ≠ slave := fun same => notPending (same ▸ isPending)
      exact ⟨notPending, notMaster, change.matched distinct notMaster notSlave matched⟩
    · exact fun other returned => absurd returned (inner other _)

theorem sound_still : Stable Still (Sound original version master slaves fresh pending) := by
  apply Stable.and (Stable.always fun _ _ _ ⟨_, same⟩ flagged => same ▸ flagged)
  apply Stable.and (Stable.related Latched.trans fun _ _ _ ⟨_, same⟩ _ => by rw [same])
  apply Stable.and (Stable.always fun _ _ _ ⟨_, same⟩ originates => same ▸ originates)
  apply Stable.and (Stable.now fun _ _ _ ⟨_, same⟩ isVersion => same ▸ isVersion)
  apply Stable.and (Stable.now fun _ _ _ ⟨_, same⟩ own => same ▸ own)
  apply Stable.established
  intro event now next ⟨inner, same⟩
  exact ⟨fun _ finished => same ▸ finished, fun other returned => absurd returned (inner other _)⟩

/-- The end of a slave's turn. -/
theorem Sound.enslaved {slave : String} {past : List (Event × View)} {now : View} {result : Except IoError Unit}
    (sound : Sound original version master slaves fresh (slave :: pending) past now) (distinct : slave ≠ master)
    (notPending : slave ∉ pending) (matched : result = .ok () → Matched master slave now) :
    Sound original version master slaves fresh pending ((.enslaved slave result, now) :: past) now := by
  obtain ⟨flagged, latched, originates, isVersion, isFresh, finished⟩ := sound.fewer (List.Subset.refl _)
    (List.subset_cons_self slave pending)
  refine ⟨⟨flagged.1, List.forall_mem_cons.mpr flagged⟩, ?_, ⟨originates.1, List.forall_mem_cons.mpr originates⟩, isVersion,
    isFresh, List.forall_mem_cons.mpr ⟨?_, finished⟩⟩
  · refine List.pairwise_cons.mpr ⟨List.forall_mem_cons.mpr ⟨fun _ => rfl, ?_⟩, latched⟩
    exact (List.pairwise_cons.mp latched).1
  · intro other returned
    cases returned
    exact ⟨notPending, distinct, matched rfl⟩

/-- The world at a time when these slaves have not had their turn. -/
def Pending (original : String → Option Bytes) (version : Int) (master : String) (slaves pending : List String)
    (world : World) : Prop :=
  Sound original version master slaves pending pending world.past world.view

theorem Pending.done {world : World} (holds : Pending original version master slaves pending world) :
    Pending original version master slaves [] world :=
  holds.fewer (List.nil_subset _) (List.nil_subset _)

theorem pending_enslaveOne {fromStr : String → Option MacAddr} (parses : ParsesMac fromStr) {slave : String}
    {later : List String} (member : slave ∈ slaves) (distinct : (master :: slave :: later).Nodup)
    (nonzero : original slave ≠ unset) :
    Triple (Pending original version master slaves (slave :: later)) (enslaveOne fromStr master slave)
      (fun _ => Pending original version master slaves later) (Pending original version master slaves []) := by
  obtain ⟨masterNew, slaveNew, _⟩ : master ∉ slave :: later ∧ slave ∉ later ∧ later.Nodup := by
    simpa only [List.nodup_cons] using distinct
  have notMaster : slave ≠ master := fun same => masterNew (same ▸ List.mem_cons_self)
  have masterLater : master ∉ later := fun member => masterNew (List.mem_cons_of_mem _ member)
  have stable := @sound_step original version master slaves later (slave :: later) slave member notMaster slaveNew
    masterLater
    List.mem_cons_self
  have runs := runs_enslave stable parses notMaster nonzero
  -- the log is sound wherever the enslaving stops
  have turn : Triple (fun world => Sound original version master slaves later (slave :: later) world.past world.view ∧
        Fresh original master slave world.view)
      (enslave fromStr master slave).run
      (fun result world => Sound original version master slaves later (slave :: later) world.past world.view ∧
        (result = .ok () → Matched master slave world.view))
      fun world => Sound original version master slaves later (slave :: later) world.past world.view :=
    runs.run (fun _ _ ⟨holds, matched⟩ => ⟨holds, fun _ => matched⟩) fun _ _ holds => ⟨holds, fun contra => nomatch contra⟩
  -- only a success claims that the slave matches its master
  have noted : ∀ result, Triple
      (fun world => Sound original version master slaves later (slave :: later) world.past world.view ∧
        (result = .ok () → Matched master slave world.view))
      (modify (·.note (.enslaved slave result))) (fun _ => Pending original version master slaves later)
      (Pending original version master slaves []) :=
    fun result => triple_modify fun world ⟨holds, matched⟩ => holds.enslaved notMaster slaveNew matched
  have fresh : ∀ world, Pending original version master slaves (slave :: later) world →
      Sound original version master slaves later (slave :: later) world.past world.view ∧
        Fresh original master slave world.view := by
    intro world holds
    obtain ⟨flagged, _, _, _, isFresh, _⟩ := id holds
    exact ⟨holds.fewer (List.subset_cons_self _ _) (List.Subset.refl _), flagged.1, isFresh slave List.mem_cons_self⟩
  refine triple_bind (triple_conseq (triple_stopped turn fun world holds => ?_) fresh fun _ _ holds => holds)
    fun result => triple_bind (noted result) fun _ => ?_
  · exact holds.fewer (List.nil_subset _) (List.nil_subset _)
  · cases result with
    | ok value => exact triple_pure fun _ holds => holds
    | error failure =>
      exact triple_bind (triple_stopped (quiet_print _ _ sound_still) fun _ holds => Pending.done holds) fun _ =>
        triple_pure fun _ holds => holds

theorem pending_batch {fromStr : String → Option MacAddr} (parses : ParsesMac fromStr)
    (nonzero : ∀ slave ∈ slaves, original slave ≠ unset) (later : List String) (inside : later ⊆ slaves)
    (distinct : (master :: later).Nodup) (errors : Bool) :
    Triple (Pending original version master slaves later) (batch (enslaveOne fromStr master) later errors)
      (fun _ => Pending original version master slaves []) (Pending original version master slaves []) := by
  induction later generalizing errors with
  | nil => exact triple_pure fun _ holds => holds
  | cons slave later inductionHypothesis =>
    have member : slave ∈ slaves := inside List.mem_cons_self
    have rest : (master :: later).Nodup := distinct.sublist ((List.sublist_cons_self slave later).cons_cons master)
    exact triple_bind (pending_enslaveOne parses member distinct (nonzero slave member)) fun failed =>
      inductionHypothesis (List.subset_of_cons_subset inside) rest (errors || failed)

/-! ## The command -/

theorem Quiet.tries {Failure Result : Type} {process : Fallible World Failure Result} (quiet : Quiet process.run) :
    Tries (Pending original version master slaves pending) process (fun _ => Pending original version master slaves pending)
      (Pending original version master slaves []) := by
  refine triple_stopped (triple_conseq (quiet _ sound_still) (fun _ holds => holds) fun result _ holds => ?_)
    fun _ holds => Pending.done holds
  cases result with
  | ok value => exact holds
  | error failure => exact Pending.done holds

theorem quiet_requireFlag (name : String) (flag : UInt32) (message : String) :
    Quiet (requireFlag name flag message).run := by
  refine quiet_tryBind (quiet_lift (quiet_bind (quiet_getInterfaceFlags name) fun answer => ?_)) fun set => ?_
  · cases answer <;> exact quiet_pure
  · split <;> exact quiet_pure

theorem pending_operate {fromStr : String → Option MacAddr} (parses : ParsesMac fromStr)
    (nonzero : ∀ slave ∈ slaves, original slave ≠ unset) (distinct : (master :: slaves).Nodup) {optArgs : IfenslaveConfig}
    (keepsActive : optArgs.changeActive = false) (enslaves : optArgs.detach = false) :
    Tries (Pending original version master slaves slaves) (operate fromStr optArgs master slaves)
      (fun _ => Pending original version master slaves []) (Pending original version master slaves []) := by
  simp only [operate, keepsActive, enslaves, Bool.false_eq_true, if_false]
  refine tries_bind (quiet_requireFlag _ _ _).tries fun _ => tries_bind (quiet_requireFlag _ _ _).tries fun _ => ?_
  refine tries_bind (tries_lift (pending_batch parses nonzero slaves (List.Subset.refl _) distinct false)) fun errors => ?_
  have last : Quiet (errorsOccurred errors).run := by
    cases errors <;> exact quiet_pure
  exact last.tries

theorem pending_mainRunWith {fromStr : String → Option MacAddr} (parses : ParsesMac fromStr)
    (nonzero : ∀ slave ∈ slaves, original slave ≠ unset) (distinct : (master :: slaves).Nodup)
    (showError : NetlinkError → String) {optArgs : IfenslaveConfig} (arguments : optArgs.interfaces = master :: slaves)
    (keepsActive : optArgs.changeActive = false) (enslaves : optArgs.detach = false) :
    Tries (Pending original version master slaves slaves) (mainRunWith fromStr showError optArgs)
      (fun _ => Pending original version master slaves []) (Pending original version master slaves []) := by
  unfold mainRunWith
  rw [arguments]
  by_cases all : optArgs.allInterfaces = true
  · rw [if_pos all]
    exact tries_throw fun _ holds => Pending.done holds
  · rw [if_neg all]
    refine tries_bind (quiet_mapError (quiet_getDrvInfo master)).tries fun _ => ?_
    by_cases shows : optArgs.isShowMode = true
    · rw [if_pos shows]
      exact tries_conseq (quiet_mapError (quiet_showInterfaces (some master))).tries (fun _ holds => holds)
        fun _ _ holds => Pending.done holds
    · rw [if_neg shows]
      exact pending_operate parses nonzero distinct keepsActive enslaves

end

/-- Throughout a run that enslaves a batch, whatever fails in it: the flag says that the master has an address, an
address once set stays, and it comes from a slave where the master had none; in the end, every slave for which `enslave`
returned `Ok` agrees with the master. -/
theorem enslave_batch_sound {fromStr : String → Option MacAddr} (parses : ParsesMac fromStr)
    (showError : NetlinkError → String) (optArgs : IfenslaveConfig) (master : String) (slaves : List String)
    (arguments : optArgs.interfaces = master :: slaves) (distinct : (master :: slaves).Nodup)
    (keepsActive : optArgs.changeActive = false) (enslaves : optArgs.detach = false)
    (environment : Environment) (kernel : Kernel)
    (nonzero : ∀ slave ∈ slaves, (World.start environment kernel).view.mac slave ≠ unset)
    (connection : Except String Unit) (abiVersion : Option Int) :
    let start := World.start environment kernel
    let final := ((mainRun fromStr showError optArgs connection abiVersion).run start).state
    let views := final.view :: final.past.map Prod.snd
    (∀ view ∈ views, view.hwaddrSet = true → IsSet (view.mac master)) ∧
    views.Pairwise (fun later earlier => earlier.mac master ≠ unset → later.mac master = earlier.mac master) ∧
    (∀ view ∈ views, view.mac master = start.view.mac master ∨
      start.view.mac master = unset ∧ ∃ slave ∈ slaves, view.mac master = start.view.mac slave) ∧
    ∀ slave, .enslaved slave (.ok ()) ∈ final.past.map Prod.fst →
      final.view.mtu slave = final.view.mtu master ∧
        (abiVersion.getD 0 < 1 → final.view.mac slave = final.view.mac master) := by
  intro start final views
  -- all four parts are read off the invariant of the batch
  suffices sound : ∃ version, Pending start.view.mac version master slaves [] final ∧
      (version = abiVersion.getD 0 ∨ final.past = []) by
    obtain ⟨version, ⟨flagged, latched, originates, isVersion, _, finished⟩, sameVersion⟩ := sound
    refine ⟨List.forall_mem_cons.mpr ⟨flagged.1, ?_⟩, latched, List.forall_mem_cons.mpr ⟨originates.1, ?_⟩, ?_⟩
    · exact List.forall_mem_map.mpr flagged.2
    · exact List.forall_mem_map.mpr originates.2
    · intro slave returned
      obtain ⟨⟨event, view⟩, member, rfl⟩ := List.mem_map.mp returned
      obtain ⟨_, _, matched⟩ := finished _ member slave rfl
      obtain same | empty := sameVersion
      · exact ⟨matched.mtu, fun old => (matched.mac (by rw [isVersion, same]; exact old)).1⟩
      · rw [empty] at member
        exact absurd member List.not_mem_nil
  have holds : ∀ world : World, world.past = [] → world.view.hwaddrSet = false → world.view.mac = start.view.mac →
      Pending start.view.mac world.view.abiVer master slaves slaves world := by
    intro world noPast notSet sameMac
    rw [Pending, noPast]
    refine ⟨⟨fun flag => ?_, List.forall_mem_nil _⟩, List.pairwise_singleton _ _, ⟨.inl (by rw [sameMac]),
      List.forall_mem_nil _⟩, rfl, fun slave _ => by rw [sameMac], List.forall_mem_nil _⟩
    rw [notSet] at flag
    cases flag
  cases connection with
  -- without a connection nothing is done
  | error failure => exact ⟨_, (holds start rfl rfl rfl).done, .inr rfl⟩
  | ok value =>
    let opened : World := { start with network := ⟨optArgs.verbose, abiVersion.getD 0, false⟩ }
    have run := @pending_mainRunWith start.view.mac (abiVersion.getD 0) master slaves fromStr parses nonzero distinct
      showError optArgs arguments keepsActive enslaves
    have reached : Pending start.view.mac (abiVersion.getD 0) master slaves []
        ((mainRunWith fromStr showError optArgs).run opened).state :=
      run.state (fun result _ reached => by cases result <;> exact reached) (holds opened rfl rfl rfl)
    exact ⟨_, reached, .inl rfl⟩

section

def hexDigit (digit : Char) : Option Nat :=
  if '0' ≤ digit ∧ digit ≤ '9' then some (digit.toNat - '0'.toNat)
  else if 'a' ≤ digit ∧ digit ≤ 'f' then some (digit.toNat - 'a'.toNat + 10)
  else if 'A' ≤ digit ∧ digit ≤ 'F' then some (digit.toNat - 'A'.toNat + 10)
  else none

def hexOctet (high low : Char) : Option UInt8 := do
  let high ← hexDigit high
  let low ← hexDigit low
  return UInt8.ofNat (16 * high + low)

/-- Six octets in hexadecimal, with colons between them. -/
def colonMac (text : String) : Option MacAddr :=
  match text.toList with
  | [a, a', ':', b, b', ':', c, c', ':', d, d', ':', e, e', ':', f, f'] => do
    return ⟨← hexOctet a a', ← hexOctet b b', ← hexOctet c c', ← hexOctet d d', ← hexOctet e e', ← hexOctet f f'⟩
  | _ => none

theorem hexOctet_hexByte (byte : UInt8) :
    hexOctet (Nat.digitChar (byte.toNat / 16)) (Nat.digitChar (byte.toNat % 16)) = some byte := by
  have each : ∀ size : Fin 256,
      hexOctet (Nat.digitChar (size.val / 16)) (Nat.digitChar (size.val % 16)) = some (UInt8.ofNat size.val) := by
    decide +kernel
  have this := each ⟨byte.toNat, byte.toNat_lt⟩
  rwa [UInt8.ofNat_toNat] at this

theorem parsesMac_colonMac : ParsesMac colonMac := by
  intro mac
  obtain ⟨a, b, c, d, e, f⟩ := mac
  simp only [colonMac, macText, MacAddr.octets, List.map_cons, List.map_nil, hexByte, List.intercalate,
    List.intersperse, List.flatten, String.toList_ofList]
  simp [hexOctet_hexByte]

/-- A bond without an address and two interfaces. -/
def twoInterfaces : Kernel where
  links := [⟨"bond0", 1, IFF_UP ||| IFF_MASTER, [0, 0, 0, 0, 0, 0], 1500, []⟩,
    ⟨"eth0", 2, IFF_UP, [2, 0, 0, 0, 0, 1], 1400, []⟩, ⟨"eth1", 3, IFF_UP, [2, 0, 0, 0, 0, 2], 9000, []⟩]
  names_nodup := by decide
  indices_nodup := by decide

/-- A system that fails once: when the MTU of the second slave is to be set. -/
def failingOnce : Environment where
  readFailures := .const none
  dumpFailures := .const none
  writeFailures := fun index => if index = 9 then some .requestFailed else none
  sysfsFailures := .const none
  sysfsFlags _ _ _ flags := flags

def isEnslaved (name : String) : Event → Bool
  | .enslaved slave (.ok _) => slave == name
  | _ => false

theorem mem_of_any_isEnslaved {events : List Event} {name : String} (returned : events.any (isEnslaved name) = true) :
    .enslaved name (.ok ()) ∈ events := by
  obtain ⟨event, member, isName⟩ := List.any_eq_true.mp returned
  unfold isEnslaved at isName
  split at isName
  · rwa [eq_of_beq isName] at member
  · cases isName

def afterBatch : World :=
  ((mainRun colonMac (fun _ => "failed") { interfaces := ["bond0", "eth0", "eth1"] } (.ok ()) (some 0)).run
    (World.start failingOnce twoInterfaces)).state

theorem enslaved_afterBatch : .enslaved "eth0" (.ok ()) ∈ afterBatch.past.map Prod.fst :=
  mem_of_any_isEnslaved (by decide +kernel)

theorem enslave_batch_sound_twoSlaves : afterBatch.view.mtu "eth0" = afterBatch.view.mtu "bond0" ∧
    afterBatch.view.mac "eth0" = afterBatch.view.mac "bond0" := by
  have sound := enslave_batch_sound parsesMac_colonMac (fun _ => "failed") { interfaces := ["bond0", "eth0", "eth1"] }
    "bond0" ["eth0", "eth1"] rfl (by decide) rfl rfl failingOnce twoInterfaces (by decide +kernel) (.ok ()) (some 0)
  have finished := sound.2.2.2 "eth0" enslaved_afterBatch
  -- with the definition folded, the comparison would run the command
  unfold afterBatch
  exact ⟨finished.1, finished.2 (by decide)⟩

end

end Utiputils.Ifenslave
