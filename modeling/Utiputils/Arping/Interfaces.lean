import Utiputils.Lib.Passes
import Utiputils.Arping.Types

/-! # The interface that a run takes

`find_best_interface_for_target` goes through the list of interfaces up to three times: for an interface in the
network of the target, for one with a preferred name, and for any that is suitable. -/

namespace Utiputils.Arping

open Utiputils.Lib Utiputils.Pnet

/-- A suitable interface with an IPv4 network that contains the target. -/
def reachesTarget (targetIp : Ipv4Addr) (interface : NetworkInterface) : Bool :=
  isInterfaceSuitable interface && interface.ips.any fun network => network.isIpv4 && network.contains targetIp

/-- The first preferred prefix that the name starts with, by its index. -/
def nameRank (interface : NetworkInterface) : Option Nat :=
  preferredNames.findIdx? fun preferred => preferred.toList.isPrefixOf interface.name.toList

/-- (Index of the prefix, position in the list) of the suitable interfaces with a preferred name. -/
def preferredKeys (interfaces : List NetworkInterface) : Set (Nat ×ₗ Nat) :=
  {key | ∃ interface, interfaces[(ofLex key).2]? = some interface ∧ isInterfaceSuitable interface = true ∧
    nameRank interface = some (ofLex key).1}

/-- What one pass for a preferred name looks for. -/
def hasName (preferred : String) (interface : NetworkInterface) : Bool :=
  isInterfaceSuitable interface && preferred.toList.isPrefixOf interface.name.toList

theorem findIdx_hasName (interface : NetworkInterface) (rank : Nat) :
    (preferredNames.map hasName).findIdx? (· interface) = some rank ↔
      isInterfaceSuitable interface = true ∧ nameRank interface = some rank := by
  rw [List.findIdx?_map]
  cases suitable : isInterfaceSuitable interface with
  | true => simp [Function.comp_def, hasName, suitable, nameRank]
  | false =>
    have none : preferredNames.findIdx? (fun _ => false) = none := List.findIdx?_eq_none_iff.mpr fun _ _ => rfl
    simp [Function.comp_def, hasName, suitable, none]

theorem preferredKeys_eq (interfaces : List NetworkInterface) :
    preferredKeys interfaces = passKeys (preferredNames.map hasName) interfaces := by
  ext key
  simp only [preferredKeys, passKeys, findIdx_hasName]

/-- The three searches, one after the other. -/
theorem findBestInterfaceForTarget_eq (interfaces : List NetworkInterface) (targetIp : Ipv4Addr) :
    findBestInterfaceForTarget interfaces targetIp = (interfaces.find? (reachesTarget targetIp)).or
      ((searchPasses (preferredNames.map hasName) interfaces).or (interfaces.find? isInterfaceSuitable)) := by
  have named : findDefaultRouteInterface interfaces = searchPasses (preferredNames.map hasName) interfaces := by
    rw [searchPasses, List.findSome?_map]
    rfl
  unfold findBestInterfaceForTarget reachesTarget
  rw [← named]
  dsimp only
  split
  next interface found => rw [found, Option.some_or]
  next none =>
    rw [none, Option.none_or]
    rfl

section

variable {interfaces : List NetworkInterface} {targetIp : Ipv4Addr}

theorem findBest_near (near : (positions (reachesTarget targetIp) interfaces).Nonempty) :
    ∃ position, IsLeast (positions (reachesTarget targetIp) interfaces) position ∧
      findBestInterfaceForTarget interfaces targetIp = interfaces[position]? := by
  obtain ⟨position, least, found⟩ := find_isLeast near
  obtain ⟨interface, here, _⟩ := mem_positions.mp least.1
  refine ⟨position, least, ?_⟩
  rw [findBestInterfaceForTarget_eq, found, here, Option.some_or]

/-- Away from the network of the target, a preferred name comes before the others. -/
theorem findBest_preferred (far : positions (reachesTarget targetIp) interfaces = ∅)
    (preferred : (preferredKeys interfaces).Nonempty) :
    ∃ key, IsLeast (preferredKeys interfaces) key ∧
      findBestInterfaceForTarget interfaces targetIp = interfaces[(ofLex key).2]? := by
  rw [preferredKeys_eq] at preferred ⊢
  obtain ⟨key, least, found⟩ := searchPasses_isLeast _ preferred
  obtain ⟨interface, here, _⟩ := least.1
  refine ⟨key, least, ?_⟩
  rw [findBestInterfaceForTarget_eq, positions_eq_empty_iff.mp far, Option.none_or, found, here, Option.some_or]

theorem findBest_other (far : positions (reachesTarget targetIp) interfaces = ∅)
    (unnamed : preferredKeys interfaces = ∅) :
    findBestInterfaceForTarget interfaces targetIp = interfaces.find? isInterfaceSuitable := by
  rw [preferredKeys_eq, ← searchPasses_eq_none_iff] at unnamed
  rw [findBestInterfaceForTarget_eq, positions_eq_empty_iff.mp far, unnamed, Option.none_or, Option.none_or]

/-- Only a suitable interface reaches the target, and only a suitable one has a preferred name. -/
theorem unsuitable (none : positions isInterfaceSuitable interfaces = ∅) :
    positions (reachesTarget targetIp) interfaces = ∅ ∧ preferredKeys interfaces = ∅ := by
  constructor
  · apply Set.eq_empty_of_forall_notMem
    rintro position ⟨interface, here, reaches⟩
    exact none.le ⟨interface, here, (Bool.and_eq_true_iff.mp reaches).1⟩
  · apply Set.eq_empty_of_forall_notMem
    rintro key ⟨interface, here, suitable, _⟩
    exact none.le ⟨interface, here, suitable⟩

theorem findBest_none_iff :
    findBestInterfaceForTarget interfaces targetIp = none ↔ positions isInterfaceSuitable interfaces = ∅ := by
  constructor
  · intro none
    rw [findBestInterfaceForTarget_eq, Option.or_eq_none_iff, Option.or_eq_none_iff] at none
    exact positions_eq_empty_iff.mpr none.2.2
  · intro none
    obtain ⟨far, unnamed⟩ := @unsuitable _ targetIp none
    rw [findBest_other far unnamed]
    exact positions_eq_empty_iff.mp none

end

/-- The choice is the least interface of the first of three kinds that the list has. -/
theorem findBestInterfaceForTarget_least (interfaces : List NetworkInterface) (targetIp : Ipv4Addr) :
    let near := positions (reachesTarget targetIp) interfaces
    let preferred := preferredKeys interfaces
    let suitable := positions isInterfaceSuitable interfaces
    (near.Nonempty → ∃ position, IsLeast near position ∧
      findBestInterfaceForTarget interfaces targetIp = interfaces[position]?) ∧
    (near = ∅ → preferred.Nonempty → ∃ key, IsLeast preferred key ∧
      findBestInterfaceForTarget interfaces targetIp = interfaces[(ofLex key).2]?) ∧
    (near = ∅ → preferred = ∅ → suitable.Nonempty → ∃ position, IsLeast suitable position ∧
      findBestInterfaceForTarget interfaces targetIp = interfaces[position]?) ∧
    (findBestInterfaceForTarget interfaces targetIp = none ↔ suitable = ∅) := by
  intro near preferred suitable
  refine ⟨findBest_near, findBest_preferred, fun far unnamed some => ?_, findBest_none_iff⟩
  rw [findBest_other far unnamed]
  exact find_isLeast some

end Utiputils.Arping
