import Mathlib.Logic.Function.Basic
import Utiputils.Lib.History
import Utiputils.Ifenslave.Bonding

/-! # Views of a moment

What the bonding of a slave is about: the hardware addresses and MTUs of the interfaces, with their indices, and
what `NetworkInterface` knows. Most accesses leave it as it is. -/

namespace Utiputils.Ifenslave

open Utiputils.Lib Utiputils.Pnet Proc Fallible

@[ext] structure View where
  hwaddrSet : Bool
  abiVer : Int
  index : String → Option UInt32
  mac : String → Option Bytes
  mtu : String → Option UInt32

def Moment.view (moment : Moment) : View where
  hwaddrSet := moment.network.hwaddrSet
  abiVer := moment.network.abiVer
  index name := (moment.kernel.find name).map Link.index
  mac name := (moment.kernel.find name).map Link.address
  mtu name := (moment.kernel.find name).map Link.mtu

def World.view (world : World) : View := world.toMoment.view

/-- The events of a run with the views before them. -/
def World.past (world : World) : List (Event × View) := world.log.map fun entry => (entry.1, entry.2.view)

/-! ## Changes of an interface -/

namespace Kernel

theorem find_changeAt_of_index {kernel : Kernel} {name : String} {link : Link} (found : kernel.find name = some link)
    {change : Link → Link} (keeps : ∀ link, (change link).identity = link.identity) :
    (kernel.changeAt link.index change keeps).find = Function.update kernel.find name (some (change link)) := by
  funext other
  rw [find_changeAt]
  by_cases same : other = name
  · subst same
    rw [Function.update_self, found, Option.map_some, if_pos rfl]
  · rw [Function.update_of_ne same]
    cases foundOther : kernel.find other with
    | none => rfl
    | some otherLink =>
      have distinct : otherLink.index ≠ link.index := fun sameIndex =>
        same (name_of_index foundOther found sameIndex)
      rw [Option.map_some, if_neg distinct]

end Kernel

/-- Changes that do not show. -/
theorem Moment.view_map (moment : Moment) {change : Link → Link}
    (keeps : ∀ link, (change link).identity = link.identity)
    (unseen : ∀ link, (change link).address = link.address ∧ (change link).mtu = link.mtu) :
    { moment with kernel := moment.kernel.map change keeps }.view = moment.view := by
  have shown : ∀ {Shown : Type} (show' : Link → Shown), (∀ link, show' (change link) = show' link) → ∀ name,
      ((moment.kernel.map change keeps).find name).map show' = (moment.kernel.find name).map show' := by
    intro Shown show' same name
    rw [Kernel.find_map, Option.map_map]
    exact congrArg (Option.map · _) (funext same)
  apply View.ext
  · rfl
  · rfl
  · exact funext (shown Link.index fun link => congrArg Prod.snd (keeps link))
  · exact funext (shown Link.address fun link => (unseen link).1)
  · exact funext (shown Link.mtu fun link => (unseen link).2)

theorem Moment.view_changeAt (moment : Moment) (index : UInt32) {change : Link → Link}
    (keeps : ∀ link, (change link).identity = link.identity)
    (unseen : ∀ link, (change link).address = link.address ∧ (change link).mtu = link.mtu) :
    { moment with kernel := moment.kernel.changeAt index change keeps }.view = moment.view := by
  refine moment.view_map _ fun link => ?_
  split
  · exact unseen link
  · exact ⟨rfl, rfl⟩

theorem map_update {Shown : Type} (find : String → Option Link) (name : String) (link : Link) (shown : Link → Shown) :
    (fun other => (Function.update find name (some link) other).map shown) =
      Function.update (fun other => (find other).map shown) name (some (shown link)) := by
  funext other
  by_cases same : other = name
  · subst same
    simp only [Function.update_self, Option.map_some]
  · simp only [Function.update_of_ne same]

/-! ## Processes that keep a property of their history -/

/-- Started where a fact holds of the view, the process succeeds with a fact about the view behind it; and the property
of the history holds all the time. -/
def Runs {Failure Result : Type} (property : List (Event × View) → View → Prop) (fact : View → Prop)
    (process : Fallible World Failure Result) (post : Result → View → Prop) : Prop :=
  Tries (fun world => property world.past world.view ∧ fact world.view) process
    (fun value world => property world.past world.view ∧ post value world.view)
    fun world => property world.past world.view

/-- An event of the process itself; the end of `enslave` is not one of those. -/
def Event.IsInner (event : Event) : Prop := ∀ slave result, event ≠ .enslaved slave result

/-- An event that does not show in the view. -/
def Still (event : Event) (now next : View) : Prop := event.IsInner ∧ next = now

/-- The process changes nothing that the view shows, wherever it ends. -/
def Quiet {Result : Type} (process : Proc World Result) : Prop :=
  ∀ property, Stable Still property → Keeps (fun world => property world.past world.view) process

section

variable {Failure Failure' Result Next : Type} {property : List (Event × View) → View → Prop} {fact : View → Prop}

theorem runs_pure {value : Result} {post : Result → View → Prop} (established : ∀ view, fact view → post value view) :
    Runs property fact (pure value : Fallible World Failure Result) post :=
  tries_pure fun _ ⟨holds, here⟩ => ⟨holds, established _ here⟩

theorem runs_throw {failure : Failure} {post : Result → View → Prop} :
    Runs property fact (throw failure : Fallible World Failure Result) post :=
  tries_throw fun _ ⟨holds, _⟩ => holds

theorem runs_bind {process : Fallible World Failure Result} {next : Result → Fallible World Failure Next}
    {middle : Result → View → Prop} {post : Next → View → Prop} (first : Runs property fact process middle)
    (second : ∀ value, Runs property (middle value) (next value) post) :
    Runs property fact (process >>= next) post :=
  tries_bind first second

theorem runs_conseq {fact' : View → Prop} {process : Fallible World Failure Result} {post post' : Result → View → Prop}
    (spec : Runs property fact' process post') (weaker : ∀ view, fact view → fact' view)
    (stronger : ∀ value view, post' value view → post value view) : Runs property fact process post :=
  tries_conseq spec (fun _ ⟨holds, here⟩ => ⟨holds, weaker _ here⟩)
    fun _ _ ⟨holds, here⟩ => ⟨holds, stronger _ _ here⟩

theorem runs_mapError {process : Fallible World Failure Result} {post : Result → View → Prop}
    {change : Failure → Failure'} (spec : Runs property fact process post) :
    Runs property fact (process.mapError change) post :=
  tries_mapError spec

/-! ## Quiet processes -/

theorem Quiet.runs {process : Fallible World Failure Result} (quiet : Quiet process.run)
    (stable : Stable Still property) : Runs property fact process fun _ => fact := by
  have still : Stable Still fun _ now => fact now := Stable.now fun event now next ⟨_, same⟩ here => same ▸ here
  refine triple_stopped (triple_conseq (quiet _ (stable.and still)) (fun _ holds => holds) fun result world reached => ?_)
    fun _ reached => reached.1
  cases result with
  | ok value => exact reached
  | error failure => exact reached.1

theorem quiet_pure {value : Result} : Quiet (pure value : Proc World Result) := fun _ _ => keeps_pure

theorem quiet_stop : Quiet (stop : Proc World Result) := fun _ _ => keeps_stop

theorem quiet_bind {process : Proc World Result} {next : Result → Proc World Next} (first : Quiet process)
    (second : ∀ value, Quiet (next value)) : Quiet (process >>= next) :=
  fun property stable => keeps_bind (first property stable) fun value => second value property stable

theorem quiet_get_bind {next : World → Proc World Result} (second : ∀ seen, Quiet (next seen)) :
    Quiet (get >>= next) :=
  fun property stable => keeps_get_bind fun seen => second seen property stable

theorem quiet_tryBind {process : Fallible World Failure Result} {next : Result → Fallible World Failure Next}
    (first : Quiet process.run) (second : ∀ value, Quiet (next value).run) : Quiet (process >>= next).run := by
  refine quiet_bind first fun result => ?_
  cases result with
  | ok value => exact second value
  | error failure => exact quiet_pure

theorem quiet_lift {process : Proc World Result} (quiet : Quiet process) :
    Quiet (ExceptT.lift process : Fallible World Failure Result).run :=
  quiet_bind quiet fun _ => quiet_pure

theorem quiet_mapError {process : Fallible World Failure Result} {change : Failure → Failure'}
    (quiet : Quiet process.run) : Quiet (process.mapError change).run := by
  show Quiet (Except.mapError change <$> process.run)
  rw [map_eq_pure_bind]
  exact quiet_bind quiet fun _ => quiet_pure

/-- Answers that are used up do not show. -/
theorem quiet_modifyGet {change : World → Result × World} (unseen : ∀ world, (change world).2.past = world.past)
    (same : ∀ world, (change world).2.view = world.view) : Quiet (modifyGet change) :=
  fun property _ => keeps_modifyGet fun world holds => by
    rw [unseen, same]
    exact holds

theorem quiet_note {event : Event} (inner : event.IsInner) : Quiet (modify (·.note event)) :=
  fun _ stable => keeps_modify fun _ holds => stable _ _ event _ ⟨inner, rfl⟩ holds

theorem quiet_print (output : Output) : Quiet (print output) := quiet_note fun _ _ => Event.noConfusion

theorem quiet_report (output : Output) : Quiet (report output : Fallible World Failure Unit).run := by
  refine quiet_lift (quiet_get_bind fun world => ?_)
  split
  · exact quiet_print output
  · exact quiet_pure

theorem quiet_write {event : Option NetlinkError → Event} {effect : Kernel → Kernel}
    (inner : ∀ failure, (event failure).IsInner)
    (unseen : ∀ moment : Moment, { moment with kernel := effect moment.kernel }.view = moment.view) :
    Quiet (write event effect).run := by
  intro property stable
  refine keeps_modifyGet fun world holds => ?_
  cases failure : world.writeFailures.head with
  | some error => exact stable _ _ _ _ ⟨inner _, rfl⟩ holds
  | none => exact stable _ _ _ _ ⟨inner _, unseen world.toMoment⟩ holds

theorem quiet_setLink {message : LinkMessage} (onlyFlags : message.attributes = []) : Quiet (setLink message).run := by
  refine quiet_write (fun _ _ _ => Event.noConfusion) fun moment => moment.view_changeAt _ _ fun link => ?_
  rw [Link.apply, onlyFlags]
  exact ⟨rfl, rfl⟩

theorem quiet_addresses {event : Option NetlinkError → Event} (inner : ∀ failure, (event failure).IsInner)
    (index : UInt32) (change : List AddressMessage → List AddressMessage) :
    Quiet (write event fun kernel =>
      kernel.changeAt index (fun link => { link with addresses := change link.addresses }) fun _ => rfl).run :=
  quiet_write inner fun moment => moment.view_changeAt index _ fun _ => ⟨rfl, rfl⟩

theorem quiet_addAddress (index : UInt32) (address : IpAddr) (prefixLen : UInt8) :
    Quiet (addAddress index address prefixLen).run :=
  quiet_addresses (fun _ _ _ => Event.noConfusion) index (· ++ [_])

theorem quiet_delAddress (message : AddressMessage) : Quiet (delAddress message).run :=
  quiet_addresses (fun _ _ _ => Event.noConfusion) message.index (·.erase message)

theorem quiet_dump {Message : Type} (messages : Kernel → List Message) : Quiet (dump messages) :=
  quiet_modifyGet (fun _ => rfl) fun _ => rfl

/-! ## The quiet methods -/

section

variable (fromStr : String → Option MacAddr) (master slave name : String)

theorem quiet_getLinkInfo : Quiet (getLinkInfo name).run := quiet_modifyGet (fun _ => rfl) fun _ => rfl

theorem quiet_getLinkIndex : Quiet (getLinkIndex name).run :=
  quiet_tryBind (quiet_getLinkInfo name) fun _ => quiet_pure

theorem quiet_getInterfaceFlags : Quiet (getInterfaceFlags name).run :=
  quiet_tryBind (quiet_getLinkInfo name) fun _ => quiet_pure

theorem quiet_setInterfaceUp : Quiet (setInterfaceUp name).run :=
  quiet_tryBind (quiet_getLinkIndex name) fun _ => quiet_tryBind (quiet_setLink rfl) fun _ => quiet_report _

theorem quiet_setInterfaceDown : Quiet (setInterfaceDown name).run :=
  quiet_tryBind (quiet_getLinkIndex name) fun _ => quiet_tryBind (quiet_setLink rfl) fun _ => quiet_report _

theorem quiet_clearAddresses (addresses : List (Except NetlinkError AddressMessage)) :
    Quiet (clearAddresses addresses).run := by
  induction addresses with
  | nil => exact quiet_pure
  | cons item addresses inductionHypothesis =>
    cases item with
    | error failure => exact quiet_pure
    | ok addr =>
      simp only [clearAddresses]
      split
      · exact quiet_tryBind (quiet_delAddress addr) fun _ => inductionHypothesis
      · exact inductionHypothesis

theorem quiet_clearInterfaceAddress : Quiet (clearInterfaceAddress name).run :=
  quiet_tryBind (quiet_getLinkIndex name) fun _ => quiet_tryBind (quiet_lift (quiet_dump _)) fun addresses =>
    quiet_tryBind (quiet_clearAddresses addresses) fun _ => quiet_report _

theorem quiet_applyAddresses (slaveIndex : UInt32) (addrConfigs : List AddressMessage) :
    Quiet (applyAddresses slave slaveIndex addrConfigs).run := by
  induction addrConfigs with
  | nil => exact quiet_pure
  | cons addr addrConfigs inductionHypothesis =>
    rw [applyAddresses]
    cases addr.attributes.findSome? addressOf with
    | none => exact quiet_lift quiet_stop
    | some address =>
      exact quiet_tryBind (quiet_addAddress _ _ _) fun _ => quiet_tryBind (quiet_report _) fun _ => inductionHypothesis

theorem quiet_copyAddressConfig : Quiet (copyAddressConfig master slave).run := by
  refine quiet_tryBind (quiet_getLinkIndex master) fun _ => quiet_tryBind (quiet_getLinkIndex slave) fun slaveIndex =>
    quiet_tryBind (quiet_lift (quiet_dump _)) fun addresses => ?_
  cases collectAddresses addresses with
  | error failure => exact quiet_pure
  | ok addrConfigs =>
    exact quiet_tryBind (quiet_clearInterfaceAddress slave) fun _ => quiet_applyAddresses slave slaveIndex addrConfigs

theorem quiet_firstIp (addresses : List (Except NetlinkError AddressMessage)) : Quiet (firstIp addresses).run := by
  induction addresses with
  | nil => exact quiet_pure
  | cons item addresses inductionHypothesis =>
    cases item with
    | error failure => exact quiet_pure
    | ok addr =>
      simp only [firstIp]
      split
      · cases addr.attributes.findSome? ipv4Of with
        | none => exact inductionHypothesis
        | some ip => exact quiet_pure
      · exact inductionHypothesis

theorem quiet_showInterface (link : LinkMessage) : Quiet (showInterface link name) := by
  refine quiet_bind (quiet_tryBind (quiet_getLinkIndex name) fun _ =>
    quiet_tryBind (quiet_lift (quiet_dump _)) fun addresses => quiet_firstIp addresses) fun ipAddr => quiet_print _

theorem quiet_showLinks (links : List (Except NetlinkError Link)) : Quiet (showLinks links).run := by
  induction links with
  | nil => exact quiet_pure
  | cons item links inductionHypothesis =>
    cases item with
    | error failure => exact quiet_pure
    | ok link =>
      exact quiet_tryBind (quiet_lift (quiet_showInterface link.name link.message)) fun _ => inductionHypothesis

theorem quiet_showInterfaces (shown : Option String) : Quiet (showInterfaces shown).run := by
  cases shown with
  | none => exact quiet_tryBind (quiet_lift (quiet_dump _)) fun links => quiet_showLinks links
  | some name =>
    exact quiet_tryBind (quiet_getLinkInfo name) fun link => quiet_lift (quiet_showInterface name link)

theorem quiet_getDrvInfo : Quiet (getDrvInfo name).run := by
  refine quiet_tryBind (quiet_getInterfaceFlags name) fun flags => ?_
  split
  · exact quiet_pure
  · exact quiet_pure

end

end

end Utiputils.Ifenslave
