import Utiputils.IpText
import Utiputils.Tracepath.Types

/-! # The resolver

`resolve` of `tracepath.rs` takes a literal address as it is, and the first fitting address of what the system knows
for a name. The options `-4` and `-6` are checked for a literal; for a name they only say which address comes first. -/

namespace Utiputils.Tracepath

open Utiputils.Lib Utiputils.Pnet

structure SocketAddr where
  ip : IpAddr
  port : UInt16
  deriving DecidableEq, Repr

def SocketAddr.isIpv4 (addr : SocketAddr) : Bool := addr.ip.family == .ipv4

def SocketAddr.isIpv6 (addr : SocketAddr) : Bool := addr.ip.family == .ipv6

structure ResolveResult where
  address : IpAddr
  deriving DecidableEq, Repr

section

variable (toSocketAddrs : String → Except String (List SocketAddr)) (destination : String) (tpConfig : TracepathConfig)

/-- The first address of the preferred family, or else the first of all. -/
def preferredAddr (addrs : List SocketAddr) : Option SocketAddr :=
  if tpConfig.useIpv6 then (addrs.find? SocketAddr.isIpv6).or addrs.head?
  else if tpConfig.useIpv4 then (addrs.find? SocketAddr.isIpv4).or addrs.head?
  else addrs.head?

def resolve : Except String ResolveResult :=
  match IpAddr.parse destination with
  | some (.v4 addr) =>
    if tpConfig.useIpv6 then .error "IPv4 address specified but -6 option used" else .ok ⟨.v4 addr⟩
  | some (.v6 addr) =>
    if tpConfig.useIpv4 then .error "IPv6 address specified but -4 option used" else .ok ⟨.v6 addr⟩
  | none => do
    let addrs ← toSocketAddrs (destination ++ ":80")
    match preferredAddr tpConfig addrs with
    | some addr => .ok ⟨addr.ip⟩
    | none => .error ("Unable to resolve destination: " ++ destination)

/-! ## The requested family -/

/-- What the options ask for, if one of them is given. -/
def requested : Family := if tpConfig.useIpv6 then .ipv6 else .ipv4

/-- The literal is of that family, or the answer for the name has an address of it. -/
def Available (family : Family) : Prop :=
  match IpAddr.parse destination with
  | some addr => addr.family = family
  | none => ∃ addrs, toSocketAddrs (destination ++ ":80") = .ok addrs ∧ ∃ addr ∈ addrs, addr.ip.family = family

/-- Only addresses of that family are returned, and one is returned if there is one. -/
structure KeepsFamily (family : Family) (resolved : Except String ResolveResult) : Prop where
  only : ∀ result, resolved = .ok result → result.address.family = family
  found : Available toSocketAddrs destination family → ∃ result, resolved = .ok result

/-- The answer for a name is not empty, and all its addresses are of the other family. -/
def OnlyOther (family : Family) : Prop :=
  IpAddr.parse destination = none ∧ ∃ addrs, toSocketAddrs (destination ++ ":80") = .ok addrs ∧ addrs ≠ [] ∧
    ∀ addr ∈ addrs, addr.ip.family ≠ family

end

section

variable {toSocketAddrs : String → Except String (List SocketAddr)} {destination : String} {family : Family}
  {resolved : Except String ResolveResult}

theorem keepsFamily_ok {addr : IpAddr} (returns : resolved = .ok ⟨addr⟩) (fits : addr.family = family) :
    KeepsFamily toSocketAddrs destination family resolved where
  only := by
    intro result returned
    rw [returns] at returned
    cases returned
    exact fits
  found := fun _ => ⟨_, returns⟩

theorem keepsFamily_error {message : String} (fails : resolved = .error message)
    (unavailable : ¬ Available toSocketAddrs destination family) :
    KeepsFamily toSocketAddrs destination family resolved where
  only := by
    intro result returned
    rw [fails] at returned
    cases returned
  found := fun available => absurd available unavailable

theorem available_literal {addr : IpAddr} (literal : IpAddr.parse destination = some addr) :
    Available toSocketAddrs destination family ↔ addr.family = family := by
  rw [Available, literal]

theorem available_name {addrs : List SocketAddr} (name : IpAddr.parse destination = none)
    (answer : toSocketAddrs (destination ++ ":80") = .ok addrs) :
    Available toSocketAddrs destination family ↔ ∃ addr ∈ addrs, addr.ip.family = family := by
  rw [Available, name]
  simp [answer]

end

section

variable {toSocketAddrs : String → Except String (List SocketAddr)} {destination : String}
  {tpConfig : TracepathConfig} (one : tpConfig.useIpv4 = !tpConfig.useIpv6)
include one

theorem resolve_literal {addr : IpAddr} (literal : IpAddr.parse destination = some addr) :
    (addr.family = requested tpConfig ∧ resolve toSocketAddrs destination tpConfig = .ok ⟨addr⟩) ∨
    (addr.family ≠ requested tpConfig ∧ ∃ message, resolve toSocketAddrs destination tpConfig = .error message) := by
  cases addr with
  | v4 addr =>
    by_cases six : tpConfig.useIpv6 = true
    · exact .inr ⟨by simp [requested, six, IpAddr.family], by simp [resolve, literal, six]⟩
    · exact .inl ⟨by simp [requested, six, IpAddr.family], by simp [resolve, literal, six]⟩
  | v6 addr =>
    by_cases six : tpConfig.useIpv6 = true
    · exact .inl ⟨by simp [requested, six, IpAddr.family], by simp [resolve, literal, one, six]⟩
    · exact .inr ⟨by simp [requested, six, IpAddr.family], by simp [resolve, literal, one, six]⟩

theorem keepsFamily_literal {addr : IpAddr} (literal : IpAddr.parse destination = some addr) :
    KeepsFamily toSocketAddrs destination (requested tpConfig) (resolve toSocketAddrs destination tpConfig) := by
  rcases resolve_literal one literal with ⟨fits, returns⟩ | ⟨other, message, fails⟩
  · exact keepsFamily_ok returns fits
  · exact keepsFamily_error fails fun available => other ((available_literal literal).mp available)

/-- With one of the options given, both searches are the same. -/
theorem preferredAddr_eq (addrs : List SocketAddr) : preferredAddr tpConfig addrs =
    (addrs.find? fun addr => addr.ip.family == requested tpConfig).or addrs.head? := by
  unfold preferredAddr requested
  cases six : tpConfig.useIpv6 with
  | true => rfl
  | false =>
    rw [six] at one
    simp only [one]
    rfl

theorem resolve_name {addrs : List SocketAddr} (name : IpAddr.parse destination = none)
    (answer : toSocketAddrs (destination ++ ":80") = .ok addrs) :
    resolve toSocketAddrs destination tpConfig =
      match (addrs.find? fun addr => addr.ip.family == requested tpConfig).or addrs.head? with
      | some addr => .ok ⟨addr.ip⟩
      | none => .error ("Unable to resolve destination: " ++ destination) := by
  rw [← preferredAddr_eq one, resolve, name]
  simp only [answer]
  rfl

/-- An answer with an address of the requested family is searched for it. -/
theorem keepsFamily_name {addrs : List SocketAddr} (name : IpAddr.parse destination = none)
    (answer : toSocketAddrs (destination ++ ":80") = .ok addrs)
    (fits : ∃ addr ∈ addrs, addr.ip.family = requested tpConfig) :
    KeepsFamily toSocketAddrs destination (requested tpConfig) (resolve toSocketAddrs destination tpConfig) := by
  obtain ⟨addr, member, isFamily⟩ := fits
  have resolved := resolve_name one name answer
  cases found : addrs.find? fun addr => addr.ip.family == requested tpConfig with
  | none =>
    rw [List.find?_eq_none] at found
    exact absurd (beq_iff_eq.mpr isFamily) (found addr member)
  | some addr =>
    rw [found, Option.some_or] at resolved
    have fits := List.find?_some found
    exact keepsFamily_ok resolved (beq_iff_eq.mp fits)

theorem keepsFamily_empty (name : IpAddr.parse destination = none)
    (answer : toSocketAddrs (destination ++ ":80") = .ok []) :
    KeepsFamily toSocketAddrs destination (requested tpConfig) (resolve toSocketAddrs destination tpConfig) := by
  apply keepsFamily_error (resolve_name one name answer)
  rw [available_name name answer]
  simp

omit one in
theorem keepsFamily_unknown {message : String} (name : IpAddr.parse destination = none)
    (answer : toSocketAddrs (destination ++ ":80") = .error message) :
    KeepsFamily toSocketAddrs destination (requested tpConfig) (resolve toSocketAddrs destination tpConfig) := by
  have fails : resolve toSocketAddrs destination tpConfig = .error message := by
    rw [resolve, name, answer]
    rfl
  apply keepsFamily_error fails
  rw [Available, name, answer]
  simp

/-- The first address is taken whatever its family. -/
theorem not_keepsFamily (other : OnlyOther toSocketAddrs destination (requested tpConfig)) :
    ¬ KeepsFamily toSocketAddrs destination (requested tpConfig) (resolve toSocketAddrs destination tpConfig) := by
  intro keeps
  obtain ⟨name, addrs, answer, nonempty, others⟩ := other
  have resolved := resolve_name one name answer
  have none : (addrs.find? fun addr => addr.ip.family == requested tpConfig) = none := by
    rw [List.find?_eq_none]
    exact fun addr member fits => others addr member (beq_iff_eq.mp fits)
  cases addrs with
  | nil => exact nonempty rfl
  | cons addr addrs =>
    rw [none, Option.none_or, List.head?_cons] at resolved
    exact others addr List.mem_cons_self (keeps.only _ resolved)

/-- The requested family is kept unless a name has addresses of the other one only. -/
theorem resolve_keepsFamily_iff :
    KeepsFamily toSocketAddrs destination (requested tpConfig) (resolve toSocketAddrs destination tpConfig) ↔
      ¬ OnlyOther toSocketAddrs destination (requested tpConfig) := by
  constructor
  · exact fun keeps other => not_keepsFamily one other keeps
  · intro fits
    cases name : IpAddr.parse destination with
    | some addr => exact keepsFamily_literal one name
    | none =>
      cases answer : toSocketAddrs (destination ++ ":80") with
      | error message => exact keepsFamily_unknown name answer
      | ok addrs =>
        by_cases available : ∃ addr ∈ addrs, addr.ip.family = requested tpConfig
        · exact keepsFamily_name one name answer available
        · have empty : addrs = [] := by
            by_contra nonempty
            exact fits ⟨name, addrs, answer, nonempty, fun addr member family => available ⟨addr, member, family⟩⟩
          exact keepsFamily_empty one name (empty ▸ answer)

end

/-! ## A name with addresses of both families, and one with an IPv4 address only -/

theorem noLength : ∀ value ∈ (none : Option Int32), 29 ≤ value.toInt := nofun

theorem noHops : ∀ value ∈ (none : Option UInt8), 1 ≤ value.toNat := nofun

def useIpv6 : TracepathConfig := { useIpv6 := true, length_ge := noLength, hops_pos := noHops }

def dualStack (_ : String) : Except String (List SocketAddr) :=
  .ok [⟨.v4 ⟨192, 0, 2, 1⟩, 80⟩, ⟨.v6 (.ofGroups [0x2001, 0xDB8, 0, 0, 0, 0, 0, 1]), 80⟩]

def ipv4Only (_ : String) : Except String (List SocketAddr) := .ok [⟨.v4 ⟨192, 0, 2, 1⟩, 80⟩]

theorem notLiteral : IpAddr.parse "host" = none := by decide +kernel

theorem resolve_keepsFamily_iff_dualStack :
    KeepsFamily dualStack "host" .ipv6 (resolve dualStack "host" useIpv6) := by
  apply (@resolve_keepsFamily_iff dualStack "host" useIpv6 rfl).mpr
  rintro ⟨_, addrs, answer, _, others⟩
  cases answer
  exact others ⟨.v6 (.ofGroups [0x2001, 0xDB8, 0, 0, 0, 0, 0, 1]), 80⟩ (by simp) rfl

/-- With `-6`, a name that has an IPv4 address only is resolved to it. -/
theorem resolve_falls_back : ¬ ∀ toSocketAddrs destination (tpConfig : TracepathConfig),
    tpConfig.useIpv4 = !tpConfig.useIpv6 →
      KeepsFamily toSocketAddrs destination (requested tpConfig) (resolve toSocketAddrs destination tpConfig) := by
  intro keeps
  refine @not_keepsFamily ipv4Only "host" useIpv6 rfl ?_ (keeps ipv4Only "host" useIpv6 rfl)
  refine ⟨notLiteral, _, rfl, List.cons_ne_nil _ _, ?_⟩
  rw [List.forall_mem_singleton]
  exact nofun

end Utiputils.Tracepath
