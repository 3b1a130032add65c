import Mathlib.Data.List.Count
import Utiputils.Ifenslave.Views

/-! # Copying the addresses of the master

`copy_address_config` reads the addresses of the master from a stream, removes those of the slave and adds what it has
read. Two loops take from the stream, and what the outer one takes is lost. -/

namespace Utiputils.Ifenslave

open Utiputils.Lib Utiputils.Pnet Proc Fallible

/-! ## The stream -/

/-- What a dump returns: the messages, and an error among them where it fails. -/
def dumped {Message : Type} (failure : Option (Nat × NetlinkError)) (messages : List Message) :
    List (Except NetlinkError Message) :=
  match failure with
  | none => messages.map Except.ok
  | some (ahead, failure) => (messages.map Except.ok).take ahead ++ .error failure :: (messages.map Except.ok).drop ahead

def HasError {Message : Type} (items : List (Except NetlinkError Message)) : Prop := ∃ failure, .error failure ∈ items

theorem not_hasError_map {Message : Type} (messages : List Message) :
    ¬ HasError (messages.map (Except.ok (ε := NetlinkError))) := by
  rintro ⟨failure, member⟩
  obtain ⟨_, _, contra⟩ := List.mem_map.mp member
  cases contra

/-- Without an error the stream is the messages. -/
theorem dumped_eq {Message : Type} {failure : Option (Nat × NetlinkError)} {messages : List Message}
    (whole : ¬ HasError (dumped failure messages)) : dumped failure messages = messages.map Except.ok := by
  cases failure with
  | none => rfl
  | some failure =>
    obtain ⟨ahead, failure⟩ := failure
    exact absurd ⟨failure, List.mem_append_right _ List.mem_cons_self⟩ whole

theorem ok_mem_dumped {Message : Type} {failure : Option (Nat × NetlinkError)} {messages : List Message}
    {message : Message} (member : .ok message ∈ dumped failure messages) : message ∈ messages := by
  have inside : ∀ {items : List (Except NetlinkError Message)}, items ⊆ messages.map Except.ok →
      .ok message ∈ items → message ∈ messages := fun subset member => by
    obtain ⟨other, found, same⟩ := List.mem_map.mp (subset member)
    cases same
    exact found
  cases failure with
  | none => exact inside (List.Subset.refl _) member
  | some failure =>
    obtain ⟨ahead, failure⟩ := failure
    rw [dumped, List.mem_append, List.mem_cons] at member
    obtain before | here | behind := member
    · exact inside (List.take_subset _ _) before
    · cases here
    · exact inside (List.drop_subset _ _) behind

/-! ## Collecting -/

theorem collectRest_cons_eq_ok {addr : AddressMessage} {items : List (Except NetlinkError AddressMessage)}
    {addrConfigs : List AddressMessage} :
    collectRest (.ok addr :: items) = .ok addrConfigs ↔
      ∃ later, collectRest items = .ok later ∧
        addrConfigs = if addr.family = .inet then addr :: later else later := by
  have unfolded : collectRest (.ok addr :: items) = (collectRest items).map fun addrConfigs =>
      if addr.family = .inet then addr :: addrConfigs else addrConfigs := rfl
  rw [unfolded]
  cases collectRest items with
  | error failure => simp [Except.map]
  | ok later => simp [Except.map, eq_comm]

theorem collectRest_eq_ok {items : List (Except NetlinkError AddressMessage)} {addrConfigs : List AddressMessage} :
    collectRest items = .ok addrConfigs ↔
      ∃ messages : List AddressMessage, items = messages.map Except.ok ∧
        addrConfigs = messages.filter fun message => message.family = .inet := by
  induction items generalizing addrConfigs with
  | nil =>
    constructor
    · intro collected
      cases collected
      exact ⟨[], rfl, rfl⟩
    · rintro ⟨messages, split, rfl⟩
      rw [List.map_eq_nil_iff.mp split.symm]
      rfl
  | cons item items inductionHypothesis =>
    cases item with
    -- an error anywhere in the rest fails
    | error failure =>
      constructor
      · intro collected
        cases collected
      · rintro ⟨messages, split, rfl⟩
        cases messages <;> cases split
    | ok addr =>
      rw [collectRest_cons_eq_ok]
      constructor
      · rintro ⟨later, rest, rfl⟩
        obtain ⟨messages, rfl, rfl⟩ := inductionHypothesis.mp rest
        refine ⟨addr :: messages, rfl, ?_⟩
        by_cases isInet : addr.family = .inet <;> simp [isInet]
      · rintro ⟨messages, split, rfl⟩
        cases messages with
        | nil => cases split
        | cons message messages =>
          cases split
          refine ⟨_, inductionHypothesis.mpr ⟨messages, rfl, rfl⟩, ?_⟩
          by_cases isInet : addr.family = .inet <;> simp [isInet]

theorem collectRest_of_hasError {items : List (Except NetlinkError AddressMessage)} (broken : HasError items) :
    ∃ failure, collectRest items = .error failure := by
  cases collected : collectRest items with
  | error failure => exact ⟨failure, rfl⟩
  | ok addrConfigs =>
    obtain ⟨messages, rfl, _⟩ := collectRest_eq_ok.mp collected
    exact absurd broken (not_hasError_map messages)

/-! ## The addresses of an interface -/

abbrev Held := String → Option (UInt32 × List AddressMessage)

/-- The index of an interface and its addresses. -/
def Kernel.held (kernel : Kernel) : Held := fun name => (kernel.find name).map fun link => (link.index, link.addresses)

/-- The IPv4 addresses among the messages, with the lengths of their prefixes. -/
def v4Config (messages : List AddressMessage) : List (Option IpAddr × UInt8) :=
  (messages.filter fun message => message.family = .inet).map fun message =>
    (message.attributes.findSome? addressOf, message.prefixLen)

theorem v4Config_append (messages others : List AddressMessage) :
    v4Config (messages ++ others) = v4Config messages ++ v4Config others := by
  rw [v4Config, List.filter_append, List.map_append]
  rfl

theorem v4Config_filter (messages : List AddressMessage) :
    v4Config (messages.filter fun message => message.family = .inet) = v4Config messages := by
  rw [v4Config, List.filter_filter]
  simp only [Bool.and_self]
  rfl

theorem v4Config_others {messages : List AddressMessage} (others : ∀ message ∈ messages, message.family ≠ .inet) :
    v4Config messages = [] := by
  rw [v4Config, List.filter_eq_nil_iff.mpr fun message member => by simpa using others message member]
  rfl

namespace Kernel

theorem held_eq_some {kernel : Kernel} {name : String} {index : UInt32} {addresses : List AddressMessage}
    (isHeld : kernel.held name = some (index, addresses)) :
    ∃ link, kernel.find name = some link ∧ link.index = index ∧ link.addresses = addresses := by
  obtain ⟨link, found, same⟩ := Option.map_eq_some_iff.mp isHeld
  rw [Prod.mk.injEq] at same
  exact ⟨link, found, same⟩

theorem find_index {kernel : Kernel} {name : String} {link : Link} (found : kernel.find name = some link) :
    (kernel.links.find? fun other => other.index == link.index) = some link := by
  have member := List.mem_of_find?_eq_some found
  cases atIndex : kernel.links.find? fun other => other.index == link.index with
  | none =>
    have differs := List.find?_eq_none.mp atIndex link member
    exact absurd (beq_self_eq_true _) differs
  | some other =>
    have isIndex := List.find?_some atIndex
    have sameIndex : other.index = link.index := eq_of_beq isIndex
    rw [List.inj_on_of_nodup_map kernel.indices_nodup (List.mem_of_find?_eq_some atIndex) member sameIndex]

theorem held_changeAt {kernel : Kernel} {name : String} {index : UInt32} {addresses : List AddressMessage}
    (isHeld : kernel.held name = some (index, addresses)) (change : List AddressMessage → List AddressMessage) :
    (kernel.changeAt index (fun link => { link with addresses := change link.addresses }) fun _ => rfl).held =
      Function.update kernel.held name (some (index, change addresses)) := by
  obtain ⟨link, found, rfl, rfl⟩ := held_eq_some isHeld
  have finds := @find_changeAt_of_index kernel name link found
    (fun link => { link with addresses := change link.addresses }) fun _ => rfl
  have shown := map_update kernel.find name { link with addresses := change link.addresses }
    fun link => (link.index, link.addresses)
  rw [← finds] at shown
  exact shown

end Kernel

/-! ## The steps -/

/-- The world at a time when the interfaces hold these addresses, and the dumps to come fail as given. No other access
fails, if it is to run smoothly. -/
structure Holding (smooth : Prop) (dumps : Stream' (Option (Nat × NetlinkError))) (held : Held) (world : World) :
    Prop where
  reads : smooth → world.readFailures = .const none
  writes : smooth → world.writeFailures = .const none
  dumps : world.dumpFailures = dumps
  held : world.kernel.held = held

section

variable {smooth : Prop} {dumps : Stream' (Option (Nat × NetlinkError))} {held : Held} {name : String}

theorem holding_report (output : Output) :
    Tries (Holding smooth dumps held) (report output : Netlink Unit) (fun _ => Holding smooth dumps held)
      fun _ => ¬ smooth := by
  refine tries_lift (triple_get_bind fun seen holds => ?_)
  split
  · exact triple_modify fun world same => by subst same; exact ⟨holds.reads, holds.writes, holds.dumps, holds.held⟩
  · exact triple_pure fun world same => by subst same; exact holds

theorem holding_getLinkIndex (known : smooth → (held name).isSome) :
    Tries (Holding smooth dumps held) (getLinkIndex name)
      (fun index world => Holding smooth dumps held world ∧ ∃ addresses, held name = some (index, addresses))
      fun _ => ¬ smooth := by
  have info : Tries (Holding smooth dumps held) (getLinkInfo name)
      (fun link world => Holding smooth dumps held world ∧ ∃ addresses, held name = some (link.index, addresses))
      fun _ => ¬ smooth := by
    refine tries_mk (triple_modifyGet fun world holds => ?_)
    have reads : smooth → world.readFailures.tail = .const none := fun isSmooth => by
      rw [holds.reads isSmooth]
      rfl
    -- where nothing fails, neither the read does nor is the link missing
    cases failed : world.readFailures.head with
    | some failure =>
      intro isSmooth
      rw [holds.reads isSmooth] at failed
      cases failed
    | none =>
      cases found : world.kernel.find name with
      | none =>
        intro isSmooth
        have isKnown := known isSmooth
        rw [← holds.held, Kernel.held, found] at isKnown
        cases isKnown
      | some link =>
        refine ⟨⟨reads, holds.writes, holds.dumps, holds.held⟩, link.addresses, ?_⟩
        rw [← holds.held, Kernel.held, found]
        rfl
  exact tries_bind info fun link => tries_pure fun _ reached => reached

theorem holding_dumpAddresses {index : UInt32} {addresses : List AddressMessage}
    (isHeld : held name = some (index, addresses)) :
    Triple (Holding smooth dumps held) (dumpAddresses index)
      (fun items world => Holding smooth dumps.tail held world ∧ items = dumped dumps.head addresses)
      fun _ => ¬ smooth := by
  refine triple_modifyGet fun world holds => ?_
  obtain ⟨link, found, rfl, rfl⟩ := Kernel.held_eq_some ((congrFun holds.held name).trans isHeld)
  refine ⟨⟨holds.reads, holds.writes, congrArg Stream'.tail holds.dumps, holds.held⟩, ?_⟩
  simp only [Kernel.find_index found, holds.dumps]
  cases dumps.head <;> rfl

/-- A request that changes the addresses of one interface. -/
theorem holding_write {event : Option NetlinkError → Event} {index : UInt32} {current : List AddressMessage}
    (change : List AddressMessage → List AddressMessage) :
    Tries (Holding smooth dumps (Function.update held name (some (index, current))))
      (write event fun kernel =>
        kernel.changeAt index (fun link => { link with addresses := change link.addresses }) fun _ => rfl)
      (fun _ => Holding smooth dumps (Function.update held name (some (index, change current)))) fun _ => ¬ smooth := by
  refine tries_mk (triple_modifyGet fun world holds => ?_)
  have writes : smooth → world.writeFailures.tail = .const none := fun isSmooth => by
    rw [holds.writes isSmooth]
    rfl
  have isHeld : world.kernel.held name = some (index, current) := by
    rw [holds.held, Function.update_self]
  cases failed : world.writeFailures.head with
  | some failure =>
    intro isSmooth
    rw [holds.writes isSmooth] at failed
    cases failed
  | none =>
    have effect := Kernel.held_changeAt isHeld change
    rw [holds.held, Function.update_idem] at effect
    exact ⟨holds.reads, writes, holds.dumps, effect⟩

/-! ## The loops -/

/-- The IPv4 addresses among the messages are taken off one by one. -/
theorem holding_clearAddresses {index : UInt32} (items : List (Except NetlinkError AddressMessage))
    (own : ∀ message, .ok message ∈ items → message.index = index) (whole : smooth → ¬ HasError items)
    (current : List AddressMessage) :
    Tries (Holding smooth dumps (Function.update held name (some (index, current)))) (clearAddresses items)
      (fun _ world => ∃ messages : List AddressMessage, items = messages.map Except.ok ∧
        Holding smooth dumps (Function.update held name
          (some (index, (messages.filter fun message => message.family = .inet).foldl List.erase current))) world)
      fun _ => ¬ smooth := by
  induction items generalizing current with
  | nil => exact tries_pure fun world holds => ⟨[], rfl, holds⟩
  | cons item items inductionHypothesis =>
    cases item with
    | error failure => exact tries_throw fun _ _ isSmooth => whole isSmooth ⟨failure, List.mem_cons_self⟩
    | ok addr =>
      have ownLater : ∀ message, .ok message ∈ items → message.index = index := fun message member =>
        own message (List.mem_cons_of_mem _ member)
      have wholeLater : smooth → ¬ HasError items := by
        intro isSmooth broken
        obtain ⟨failure, member⟩ := broken
        exact whole isSmooth ⟨failure, List.mem_cons_of_mem _ member⟩
      rw [clearAddresses]
      by_cases isInet : addr.family = .inet
      · rw [if_pos isInet]
        have isOwn : addr.index = index := own addr List.mem_cons_self
        -- one deletion takes one address away
        have deleted : Tries (Holding smooth dumps (Function.update held name (some (index, current)))) (delAddress addr)
            (fun _ => Holding smooth dumps (Function.update held name (some (index, current.erase addr))))
            fun _ => ¬ smooth := by
          rw [delAddress, isOwn]
          exact holding_write (·.erase addr)
        refine tries_bind deleted fun _ => tries_conseq (inductionHypothesis ownLater wholeLater (current.erase addr))
          (fun _ holds => holds) ?_
        intro _ world later
        obtain ⟨messages, split, holds⟩ := later
        refine ⟨addr :: messages, by rw [split]; rfl, ?_⟩
        rw [List.filter_cons_of_pos (by simpa using isInet)]
        exact holds
      · rw [if_neg isInet]
        refine tries_conseq (inductionHypothesis ownLater wholeLater current) (fun _ holds => holds) ?_
        intro _ world later
        obtain ⟨messages, split, holds⟩ := later
        refine ⟨addr :: messages, by rw [split]; rfl, ?_⟩
        rw [List.filter_cons_of_neg (by simpa using isInet)]
        exact holds

/-- Nothing of a kind is left when all of that kind are taken off. -/
theorem not_mem_foldl_erase {messages : List AddressMessage} {message : AddressMessage}
    (member : message ∈ (messages.filter fun message => message.family = .inet).foldl List.erase messages) :
    message.family ≠ .inet := by
  intro isInet
  rw [← List.diff_eq_foldl] at member
  have some := List.count_pos_iff.mpr member
  rw [List.count_diff, List.count_filter (by simpa using isInet)] at some
  omega

theorem holding_clearInterfaceAddress {index : UInt32} {current : List AddressMessage}
    (isHeld : held name = some (index, current)) (own : ∀ message ∈ current, message.index = index)
    (whole : smooth → dumps.head = none) :
    Tries (Holding smooth dumps held) (clearInterfaceAddress name)
      (fun _ world => ∃ rest : List AddressMessage, (∀ message ∈ rest, message.family ≠ .inet) ∧
        Holding smooth dumps.tail (Function.update held name (some (index, rest))) world)
      fun _ => ¬ smooth := by
  refine tries_bind (holding_getLinkIndex fun _ => by rw [isHeld]; rfl) fun found => tries_given ?_
  rintro ⟨addresses, same⟩
  rw [isHeld] at same
  cases same
  refine tries_bind (tries_lift (holding_dumpAddresses isHeld)) fun items => tries_given ?_
  rintro rfl
  have cleared := @holding_clearAddresses smooth dumps.tail held name index (dumped dumps.head current)
    (fun message member => own message (ok_mem_dumped member))
    (fun isSmooth => by rw [whole isSmooth]; exact not_hasError_map current) current
  rw [← isHeld, Function.update_eq_self] at cleared
  refine tries_bind cleared fun _ => triple_exists fun messages => ?_
  refine tries_conseq (tries_given fun split => ?_) (fun _ ⟨split, holds⟩ => ⟨holds, split⟩) fun _ _ reached => reached
  have same : messages = current := by
    have noError : ¬ HasError (dumped dumps.head current) := by
      rw [split]
      exact not_hasError_map messages
    rw [dumped_eq noError] at split
    exact (List.map_injective_iff.mpr (fun _ _ same => Except.ok.inj same) split).symm
  subst same
  exact tries_conseq (holding_report _) (fun _ holds => holds) fun _ _ holds =>
    ⟨_, fun _ member => not_mem_foldl_erase member, holds⟩

/-- The messages of an interface are its own, and those of the IPv4 family carry an IPv4 address. -/
def WellFormed (index : UInt32) (messages : List AddressMessage) : Prop :=
  ∀ message ∈ messages, message.index = index ∧
    (message.family = .inet → ∃ ip : Ipv4Addr, message.attributes.findSome? addressOf = some (.v4 ip))

theorem holding_applyAddresses {index : UInt32} (addrConfigs : List AddressMessage)
    (carry : ∀ message ∈ addrConfigs, message.family = .inet ∧
      ∃ ip : Ipv4Addr, message.attributes.findSome? addressOf = some (.v4 ip)) (current : List AddressMessage) :
    Tries (Holding smooth dumps (Function.update held name (some (index, current))))
      (applyAddresses name index addrConfigs)
      (fun _ world => ∃ added, v4Config added = v4Config addrConfigs ∧
        Holding smooth dumps (Function.update held name (some (index, current ++ added))) world)
      fun _ => ¬ smooth := by
  induction addrConfigs generalizing current with
  | nil => exact tries_pure fun world holds => ⟨[], rfl, by rw [List.append_nil]; exact holds⟩
  | cons addr addrConfigs inductionHypothesis =>
    obtain ⟨⟨isInet, ip, found⟩, carryLater⟩ := List.forall_mem_cons.mp carry
    let message : AddressMessage :=
      { index, family := familyOf (.v4 ip), prefixLen := addr.prefixLen, attributes := [.address (.v4 ip)] }
    have sameConfig : v4Config [message] = v4Config [addr] := by
      simp [v4Config, message, familyOf, isInet, found, addressOf]
    rw [applyAddresses, found]
    refine tries_bind (holding_write (· ++ [message])) fun _ => tries_bind (holding_report _) fun _ =>
      tries_conseq (inductionHypothesis carryLater (current ++ [message])) (fun _ holds => holds) ?_
    intro _ world later
    obtain ⟨added, same, holds⟩ := later
    refine ⟨[message] ++ added, ?_, by rw [← List.append_assoc]; exact holds⟩
    rw [v4Config_append, same, sameConfig, ← v4Config_append]
    rfl

/-! ## Copying -/

theorem mem_collectAddresses {items : List (Except NetlinkError AddressMessage)} {addrConfigs : List AddressMessage}
    (collected : collectAddresses items = .ok addrConfigs) :
    ∀ message ∈ addrConfigs, .ok message ∈ items ∧ message.family = .inet := by
  intro message member
  cases items with
  | nil =>
    cases collected
    cases member
  | cons item items =>
    obtain ⟨messages, rfl, rfl⟩ := collectRest_eq_ok.mp collected
    obtain ⟨inside, isInet⟩ := List.mem_filter.mp member
    exact ⟨List.mem_cons_of_mem _ (List.mem_map_of_mem inside), by simpa using isInet⟩

/-- Where the function returns `Ok`, the slave has the IPv4 addresses that were collected; and it does return `Ok`, if it
runs smoothly behind a dump from which addresses can be collected. -/
theorem holding_copyAddressConfig {master slave : String}
    (wellFormed : ∀ name index addresses, held name = some (index, addresses) → WellFormed index addresses)
    (known : smooth → (held master).isSome ∧ (held slave).isSome)
    (collects : smooth → ∀ index addresses, held master = some (index, addresses) →
      ∃ addrConfigs, collectAddresses (dumped dumps.head addresses) = .ok addrConfigs)
    (whole : smooth → dumps.tail.head = none) :
    Tries (Holding smooth dumps held) (copyAddressConfig master slave)
      (fun _ world => ∃ index addresses addrConfigs, held master = some (index, addresses) ∧ (held slave).isSome ∧
        collectAddresses (dumped dumps.head addresses) = .ok addrConfigs ∧
        ∃ slaveIndex final, world.kernel.held slave = some (slaveIndex, final) ∧ v4Config final = v4Config addrConfigs)
      fun _ => ¬ smooth := by
  refine tries_bind (holding_getLinkIndex fun isSmooth => (known isSmooth).1) fun masterIndex => tries_given ?_
  rintro ⟨addresses, isMaster⟩
  refine tries_bind (holding_getLinkIndex fun isSmooth => (known isSmooth).2) fun slaveIndex => tries_given ?_
  rintro ⟨current, isSlave⟩
  refine tries_bind (tries_lift (holding_dumpAddresses isMaster)) fun items => tries_given ?_
  rintro rfl
  cases collected : collectAddresses (dumped dumps.head addresses) with
  | error failure =>
    refine tries_throw fun _ _ isSmooth => ?_
    obtain ⟨addrConfigs, contra⟩ := collects isSmooth masterIndex addresses isMaster
    rw [collected] at contra
    cases contra
  | ok addrConfigs =>
    -- what the deletions and additions need of the messages
    have own : ∀ message ∈ current, message.index = slaveIndex := fun message member =>
      (wellFormed slave slaveIndex current isSlave message member).1
    have carry : ∀ message ∈ addrConfigs, message.family = .inet ∧
        ∃ ip : Ipv4Addr, message.attributes.findSome? addressOf = some (.v4 ip) := fun message member => by
      obtain ⟨inside, isInet⟩ := mem_collectAddresses collected message member
      exact ⟨isInet, (wellFormed master masterIndex addresses isMaster message (ok_mem_dumped inside)).2 isInet⟩
    refine tries_bind (holding_clearInterfaceAddress isSlave own whole) fun _ => triple_exists fun rest => ?_
    refine tries_conseq (tries_given fun others => tries_conseq (holding_applyAddresses addrConfigs carry rest)
      (fun _ holds => holds) ?_) (fun _ ⟨others, holds⟩ => ⟨holds, others⟩) fun _ _ reached => reached
    intro _ world ⟨added, same, holds⟩
    refine ⟨masterIndex, addresses, addrConfigs, isMaster, by rw [isSlave]; rfl, collected, slaveIndex, rest ++ added, ?_,
      ?_⟩
    · rw [holds.held, Function.update_self]
    · rw [v4Config_append, v4Config_others others, same, List.nil_append]

end

/-- A query of an index changes nothing but the answers to come. -/
theorem getLinkIndex_run (name : String) (world : World) :
    ∃ answer, (getLinkIndex name).run world = .done answer { world with readFailures := world.readFailures.tail } ∧
      ∀ index, answer = .ok index → ∃ addresses, world.kernel.held name = some (index, addresses) := by
  have info : ∃ answer, (getLinkInfo name).run world =
      .done answer { world with readFailures := world.readFailures.tail } ∧
      ∀ link, answer = .ok link → ∃ addresses, world.kernel.held name = some (link.index, addresses) := by
    refine ⟨_, rfl, fun link answered => ?_⟩
    cases failed : world.readFailures.head with
    | some failure =>
      simp only [failed] at answered
      cases answered
    | none =>
      cases found : world.kernel.find name with
      | none =>
        simp only [failed, found] at answered
        cases answered
      | some link =>
        simp only [failed, found] at answered
        cases answered
        exact ⟨link.addresses, by rw [Kernel.held, found]; rfl⟩
  obtain ⟨answer, returned, known⟩ := info
  cases answer with
  | error failure => exact ⟨.error failure, run_bind_error returned, fun _ contra => nomatch contra⟩
  | ok link =>
    refine ⟨.ok link.index, run_bind_ok returned, fun index same => ?_⟩
    cases same
    exact known link rfl

/-- Where nothing can be collected, the function fails before it has changed anything. -/
theorem copyAddressConfig_refuses {master slave : String} {world : World}
    (nothing : ∀ index addresses, world.kernel.held master = some (index, addresses) → (world.kernel.held slave).isSome →
      ∃ failure, collectAddresses (dumped world.dumpFailures.head addresses) = .error failure) :
    ∃ failure final, (copyAddressConfig master slave).run world = .done (.error failure) final ∧
      final.kernel = world.kernel := by
  obtain ⟨first, asked, isMaster⟩ := getLinkIndex_run master world
  -- each of the two names may be unknown; with both known, the dump is what is refused
  cases first with
  | error failure => exact ⟨failure, _, run_bind_error asked, rfl⟩
  | ok masterIndex =>
    obtain ⟨addresses, isMaster⟩ := isMaster masterIndex rfl
    rw [copyAddressConfig, run_bind_ok asked]
    obtain ⟨second, asked', isSlave⟩ := getLinkIndex_run slave { world with readFailures := world.readFailures.tail }
    cases second with
    | error failure => exact ⟨failure, _, run_bind_error asked', rfl⟩
    | ok slaveIndex =>
      rw [run_bind_ok asked']
      obtain ⟨current, isSlave⟩ := isSlave slaveIndex rfl
      obtain ⟨failure, refused⟩ := nothing masterIndex addresses isMaster (by rw [isSlave]; rfl)
      obtain ⟨link, found, rfl, rfl⟩ := Kernel.held_eq_some isMaster
      -- the dump follows two reads
      have dumpedItems : (ExceptT.lift (dumpAddresses link.index) : Netlink _).run
          { world with readFailures := world.readFailures.tail.tail } =
          .done (.ok (dumped world.dumpFailures.head link.addresses))
            { world with readFailures := world.readFailures.tail.tail, dumpFailures := world.dumpFailures.tail } := by
        have atIndex := Kernel.find_index found
        show Outcome.done (Except.ok _) _ = _
        simp only [atIndex]
        cases world.dumpFailures.head <;> rfl
      rw [run_bind_ok dumpedItems, refused]
      exact ⟨failure, _, rfl, rfl⟩

/-! ## What is copied -/

/-- What the kernel returns when it is asked for the addresses of an interface. -/
def Kernel.stream (kernel : Kernel) (dumpFailure : Option (Nat × NetlinkError)) (name : String) :
    List (Except NetlinkError AddressMessage) :=
  match kernel.held name with
  | some (_, addresses) => dumped dumpFailure addresses
  | none => []

def Kernel.AddressesWellFormed (kernel : Kernel) : Prop :=
  ∀ name index addresses, kernel.held name = some (index, addresses) → WellFormed index addresses

/-- Where the function returns `Ok`, the slave has the IPv4 addresses of the master; where the stream holds an error, it
fails before it has changed anything. -/
structure Copies (master slave : String) (world : World) : Prop where
  copied : ∀ final, (copyAddressConfig master slave).run world = .done (.ok ()) final →
    (final.kernel.held slave).map (fun entry => v4Config entry.2) =
      (world.kernel.held master).map fun entry => v4Config entry.2
  refused : HasError (world.kernel.stream world.dumpFailures.head master) →
    ∃ failure final, (copyAddressConfig master slave).run world = .done (.error failure) final ∧
      final.kernel = world.kernel

/-- The item that the outer loop drops is not an error, and no IPv4 address, unless an error follows. -/
def FirstHarmless (items : List (Except NetlinkError AddressMessage)) : Prop :=
  (∀ failure, items.head? ≠ some (.error failure)) ∧
    (¬ HasError items → ∀ message, items.head? = some (.ok message) → message.family ≠ .inet)

theorem firstHarmless_nil : FirstHarmless [] := by
  constructor
  · intro failure contra
    cases contra
  · intro _ message contra
    cases contra

theorem FirstHarmless.collected {dumpFailure : Option (Nat × NetlinkError)} {addresses addrConfigs : List AddressMessage}
    (harmless : FirstHarmless (dumped dumpFailure addresses))
    (collected : collectAddresses (dumped dumpFailure addresses) = .ok addrConfigs) :
    v4Config addrConfigs = v4Config addresses := by
  have messagesOf : ∀ messages : List AddressMessage, dumped dumpFailure addresses = messages.map Except.ok →
      addresses = messages := fun messages split => by
    have whole : ¬ HasError (dumped dumpFailure addresses) := split ▸ not_hasError_map messages
    rw [dumped_eq whole] at split
    exact List.map_injective_iff.mpr (fun _ _ same => Except.ok.inj same) split
  cases stream : dumped dumpFailure addresses with
  | nil =>
    rw [stream] at collected
    cases collected
    rw [messagesOf [] stream]
  | cons first items =>
    rw [stream] at collected harmless
    obtain ⟨messages, rfl, rfl⟩ := collectRest_eq_ok.mp collected
    cases first with
    | error failure => exact absurd rfl (harmless.1 failure)
    | ok message =>
      have other : message.family ≠ .inet :=
        harmless.2 (not_hasError_map (message :: messages)) message rfl
      rw [messagesOf (message :: messages) stream, v4Config_filter, v4Config, v4Config,
        List.filter_cons_of_neg (by simpa using other)]

theorem FirstHarmless.refused {items : List (Except NetlinkError AddressMessage)} (harmless : FirstHarmless items)
    (broken : HasError items) : ∃ failure, collectAddresses items = .error failure := by
  obtain ⟨failure, member⟩ := broken
  cases items with
  | nil => cases member
  | cons first items =>
    cases member with
    | head => exact absurd rfl (harmless.1 failure)
    | tail _ member => exact collectRest_of_hasError ⟨failure, member⟩

/-- Behind an error at the head of the stream there is no other. -/
theorem collect_of_head_error {dumpFailure : Option (Nat × NetlinkError)} {addresses : List AddressMessage}
    {failure : NetlinkError} (first : (dumped dumpFailure addresses).head? = some (.error failure)) :
    ∃ addrConfigs, collectAddresses (dumped dumpFailure addresses) = .ok addrConfigs := by
  cases dumpFailure with
  | none =>
    cases addresses with
    | nil => cases first
    | cons message addresses => cases first
  | some dumpFailure =>
    obtain ⟨ahead, other⟩ := dumpFailure
    have front : (addresses.map (Except.ok (ε := NetlinkError))).take ahead = [] := by
      cases isFront : (addresses.map (Except.ok (ε := NetlinkError))).take ahead with
      | nil => rfl
      | cons item items =>
        rw [dumped, isFront] at first
        cases first
        have inside := List.take_subset ahead (addresses.map (Except.ok (ε := NetlinkError)))
        rw [isFront] at inside
        exact absurd ⟨failure, inside List.mem_cons_self⟩ (not_hasError_map addresses)
    rw [dumped, front]
    exact ⟨_, collectRest_eq_ok.mpr ⟨addresses.drop ahead, (List.map_drop).symm, rfl⟩⟩

/-- A system in which nothing fails but perhaps the first dump. -/
def smoothly (dumpFailure : Option (Nat × NetlinkError)) : Environment where
  readFailures := .const none
  dumpFailures := .cons dumpFailure (.const none)
  writeFailures := .const none
  sysfsFailures := .const none
  sysfsFlags _ _ _ flags := flags

theorem copyAddressConfig_smoothly {kernel : Kernel} (wellFormed : kernel.AddressesWellFormed) {master slave : String}
    {dumpFailure : Option (Nat × NetlinkError)} {index : UInt32} {addresses addrConfigs : List AddressMessage}
    (isMaster : kernel.held master = some (index, addresses)) (isSlave : (kernel.held slave).isSome)
    (collected : collectAddresses (dumped dumpFailure addresses) = .ok addrConfigs) :
    ∃ final, (copyAddressConfig master slave).run (World.start (smoothly dumpFailure) kernel) = .done (.ok ()) final ∧
      (final.kernel.held slave).map (fun entry => v4Config entry.2) = some (v4Config addrConfigs) := by
  have holds : Holding True (Stream'.cons dumpFailure (.const none)) kernel.held
      (World.start (smoothly dumpFailure) kernel) := ⟨fun _ => rfl, fun _ => rfl, rfl, rfl⟩
  have spec := @holding_copyAddressConfig True (Stream'.cons dumpFailure (.const none)) kernel.held master slave
    wellFormed (fun _ => ⟨by rw [isMaster]; rfl, isSlave⟩)
    (fun _ other messages isOther => by
      rw [isMaster] at isOther
      cases isOther
      exact ⟨addrConfigs, collected⟩)
    fun _ => rfl
  obtain ⟨_, final, returned, _, messages, others, isOther, _, collected', slaveIndex, held, isHeld, same⟩ :=
    spec.succeeds holds fun _ contra => contra trivial
  rw [isMaster] at isOther
  cases isOther
  have sameConfigs : addrConfigs = others := Except.ok.inj (collected.symm.trans collected')
  exact ⟨final, returned, by rw [isHeld, sameConfigs, ← same]; rfl⟩

section

variable {kernel : Kernel} {master slave : String} {dumpFailure : Option (Nat × NetlinkError)}

/-- A dump that fails at its first item is taken for an empty one. -/
theorem not_failsFirst (wellFormed : kernel.AddressesWellFormed) {index : UInt32} {addresses : List AddressMessage}
    (isMaster : kernel.held master = some (index, addresses)) (isSlave : (kernel.held slave).isSome)
    (copies : Copies master slave (World.start (smoothly dumpFailure) kernel)) (failure : NetlinkError) :
    (dumped dumpFailure addresses).head? ≠ some (.error failure) := by
  intro first
  obtain ⟨addrConfigs, collected⟩ := collect_of_head_error first
  obtain ⟨final, returned, _⟩ := copyAddressConfig_smoothly wellFormed isMaster isSlave collected
  have broken : HasError (kernel.stream dumpFailure master) := ⟨failure, by
    rw [Kernel.stream, isMaster]
    exact List.mem_of_mem_head? first⟩
  obtain ⟨_, _, failed, _⟩ := copies.refused broken
  cases returned.symm.trans failed

/-- The first item of a dump is dropped, so that an IPv4 address there is missing on the slave. -/
theorem not_inetFirst (wellFormed : kernel.AddressesWellFormed) {index : UInt32} {addresses : List AddressMessage}
    (isMaster : kernel.held master = some (index, addresses)) (isSlave : (kernel.held slave).isSome)
    (copies : Copies master slave (World.start (smoothly dumpFailure) kernel))
    (whole : ¬ HasError (dumped dumpFailure addresses)) {message : AddressMessage}
    (first : (dumped dumpFailure addresses).head? = some (.ok message)) : message.family ≠ .inet := by
  intro isInet
  have split := dumped_eq whole
  cases addresses with
  | nil =>
    rw [split] at first
    cases first
  | cons head later =>
    rw [split] at first
    cases first
    have collected : collectAddresses (dumped dumpFailure (message :: later)) =
        .ok (later.filter fun message => message.family = .inet) := by
      rw [split]
      exact collectRest_eq_ok.mpr ⟨later, rfl, rfl⟩
    obtain ⟨final, returned, reached⟩ := copyAddressConfig_smoothly wellFormed isMaster isSlave collected
    have same := copies.copied final returned
    rw [reached, show (World.start (smoothly dumpFailure) kernel).kernel.held master = some (index, message :: later)
      from isMaster, v4Config_filter, Option.map_some, Option.some.injEq, v4Config, v4Config,
      List.filter_cons_of_pos (by simpa using isInet)] at same
    exact absurd (congrArg List.length same) (by simp)

theorem firstHarmless_of_copies (wellFormed : kernel.AddressesWellFormed) (isSlave : (kernel.held slave).isSome)
    (copies : Copies master slave (World.start (smoothly dumpFailure) kernel)) :
    FirstHarmless (kernel.stream dumpFailure master) := by
  cases isMaster : kernel.held master with
  | none =>
    rw [Kernel.stream, isMaster]
    exact firstHarmless_nil
  | some entry =>
    obtain ⟨index, addresses⟩ := entry
    have stream : kernel.stream dumpFailure master = dumped dumpFailure addresses := by
      rw [Kernel.stream, isMaster]
    rw [stream]
    exact ⟨not_failsFirst wellFormed isMaster isSlave copies,
      fun whole _ first => not_inetFirst wellFormed isMaster isSlave copies whole first⟩

theorem copies_of_firstHarmless {world : World} (wellFormed : world.kernel.AddressesWellFormed)
    (harmless : (world.kernel.held slave).isSome → FirstHarmless (world.kernel.stream world.dumpFailures.head master)) :
    Copies master slave world := by
  constructor
  · intro final returned
    have spec := @holding_copyAddressConfig False world.dumpFailures world.kernel.held master slave wellFormed
      False.elim False.elim False.elim
    obtain ⟨index, addresses, addrConfigs, isMaster, isSlave, collected, slaveIndex, held, isHeld, same⟩ :=
      spec.ok ⟨False.elim, False.elim, rfl, rfl⟩ returned
    have harmless := harmless isSlave
    rw [Kernel.stream, isMaster] at harmless
    rw [isHeld, isMaster, Option.map_some, Option.map_some, same, harmless.collected collected]
  · intro broken
    apply copyAddressConfig_refuses
    intro index addresses isMaster isSlave
    have harmless := harmless isSlave
    rw [Kernel.stream, isMaster] at harmless broken
    exact harmless.refused broken

end

/-- Whatever fails later: the addresses of the master arrive at the slave, and an error among them is refused, exactly if
the item that is dropped does no harm (or if there is no such slave). -/
theorem copyAddressConfig_iff (kernel : Kernel) (wellFormed : kernel.AddressesWellFormed) (master slave : String)
    (dumpFailure : Option (Nat × NetlinkError)) :
    (∀ world : World, world.kernel = kernel → world.dumpFailures.head = dumpFailure → Copies master slave world) ↔
      ((kernel.held slave).isSome → FirstHarmless (kernel.stream dumpFailure master)) := by
  constructor
  · intro copies isSlave
    exact firstHarmless_of_copies wellFormed isSlave (copies _ rfl rfl)
  · rintro harmless world rfl rfl
    exact copies_of_firstHarmless wellFormed harmless

/-- A bond with these addresses, and an interface without any. -/
def bondWith (addresses : List AddressMessage) : Kernel where
  links := [⟨"bond0", 1, IFF_UP ||| IFF_MASTER, [2, 0, 0, 0, 0, 1], 1500, addresses⟩,
    ⟨"eth0", 2, IFF_UP, [2, 0, 0, 0, 0, 2], 1500, []⟩]
  names_nodup := by
    show ["bond0", "eth0"].Nodup
    decide
  indices_nodup := by
    show [(1 : UInt32), 2].Nodup
    decide

theorem bondWith_wellFormed {addresses : List AddressMessage} (wellFormed : WellFormed 1 addresses) :
    (bondWith addresses).AddressesWellFormed := by
  intro name index messages isHeld
  obtain ⟨link, found, rfl, rfl⟩ := Kernel.held_eq_some isHeld
  have member := List.mem_of_find?_eq_some found
  simp only [bondWith, List.mem_cons, List.not_mem_nil, or_false] at member
  obtain rfl | rfl := member
  · exact wellFormed
  · exact List.forall_mem_nil _

def v4Message : AddressMessage := ⟨1, .inet, 24, [.address (.v4 ⟨192, 0, 2, 1⟩)]⟩

def v6Message : AddressMessage := ⟨1, .inet6, 64, [.address (.v6 ⟨Vector.replicate 16 254⟩)]⟩

theorem v4Message_wellFormed : v4Message.index = 1 ∧
    (v4Message.family = .inet → ∃ ip : Ipv4Addr, v4Message.attributes.findSome? addressOf = some (.v4 ip)) :=
  ⟨rfl, fun _ => ⟨⟨192, 0, 2, 1⟩, rfl⟩⟩

theorem v6Message_wellFormed : v6Message.index = 1 ∧
    (v6Message.family = .inet → ∃ ip : Ipv4Addr, v6Message.attributes.findSome? addressOf = some (.v4 ip)) :=
  ⟨rfl, fun contra => nomatch contra⟩

/-- An IPv6 address can be dropped. -/
theorem copyAddressConfig_iff_v6First :
    Copies "bond0" "eth0" (World.start (smoothly none) (bondWith [v6Message, v4Message])) := by
  have wellFormed : WellFormed 1 [v6Message, v4Message] :=
    List.forall_mem_cons.mpr ⟨v6Message_wellFormed, List.forall_mem_singleton.mpr v4Message_wellFormed⟩
  have harmless : FirstHarmless ((bondWith [v6Message, v4Message]).stream none "bond0") := by
    refine ⟨(fun _ contra => nomatch contra), fun _ message first => ?_⟩
    cases first
    exact AddressFamily.noConfusion
  exact (copyAddressConfig_iff _ (bondWith_wellFormed wellFormed) "bond0" "eth0" none).mpr (fun _ => harmless) _ rfl rfl

/-- The only address of a bond is lost. -/
theorem copyAddressConfig_loses_first :
    ¬ Copies "bond0" "eth0" (World.start (smoothly none) (bondWith [v4Message])) := by
  intro copies
  have wellFormed : WellFormed 1 [v4Message] := List.forall_mem_singleton.mpr v4Message_wellFormed
  obtain ⟨final, returned, reached⟩ := @copyAddressConfig_smoothly _ (bondWith_wellFormed wellFormed) "bond0" "eth0" none
    1 [v4Message] [] rfl rfl rfl
  have same := copies.copied final returned
  rw [reached] at same
  exact absurd same (by decide)

end Utiputils.Ifenslave
