import Utiputils.IpText
import Utiputils.Lib.Memo
import Utiputils.Ping.Types

/-! # The names of hosts

`get_hostname_cached` with `reverse_dns_lookup` behind it, and what is true of the names that it gives, however many
addresses are asked for in whatever order. -/

namespace Utiputils.Ping

open Utiputils.Lib Utiputils.Pnet

/-! ## The lookup -/

/-- `getnameinfo_host` with `NI_NAMEREQD`: a name, or the code of an error. -/
abbrev Getnameinfo := IpAddr → Except Int String

def reverseDnsLookup (getnameinfo : Getnameinfo) (ip : String) : Except String String :=
  match IpAddr.parse ip with
  | none => .error "Invalid IP address"
  | some ipAddr =>
    match getnameinfo ipAddr with
    | .ok host => .ok host
    | .error _ => .ok ip

/-- `dns_cache`, with the calls of `reverse_dns_lookup` so far. -/
abbrev DnsCache := Memo String String

section

variable (pgConfig : PingConfig) (getnameinfo : Nat → Getnameinfo)

/-- The answers of `getnameinfo` are those of its calls one after the other. -/
def getHostnameCached (cache : DnsCache) (ip : String) : String × DnsCache :=
  if pgConfig.numericOnly then (ip, cache)
  else
    match cache.table[ip]? with
    | some cachedHostname => (cachedHostname, cache)
    | none =>
      let hostname := (reverseDnsLookup (getnameinfo cache.lookups.length) ip).toOption.getD ip
      let lookups := cache.lookups ++ [ip]
      if cache.table.size < 1000 then (hostname, { table := cache.table.insert ip hostname, lookups })
      else (hostname, { table := cache.table, lookups })

end

/-! ## The cache as a table of answers -/

/-- The name that a lookup shows. -/
def hostnameOf (getnameinfo : Getnameinfo) (ip : String) : String :=
  match IpAddr.parse ip with
  | none => ip
  | some ipAddr => (getnameinfo ipAddr).toOption.getD ip

section

variable {pgConfig : PingConfig} {getnameinfo : Nat → Getnameinfo}

theorem getHostnameCached_numeric (numeric : pgConfig.numericOnly = true) (cache : DnsCache) (ip : String) :
    getHostnameCached pgConfig getnameinfo cache ip = (ip, cache) :=
  if_pos numeric

theorem reverseDnsLookup_shows (answers : Getnameinfo) (ip : String) :
    (reverseDnsLookup answers ip).toOption.getD ip = hostnameOf answers ip := by
  cases parsed : IpAddr.parse ip with
  | none =>
    simp only [reverseDnsLookup, hostnameOf, parsed]
    rfl
  | some ipAddr =>
    simp only [reverseDnsLookup, hostnameOf, parsed]
    cases answers ipAddr with
    | ok host => rfl
    | error code => rfl

theorem getHostnameCached_named (named : pgConfig.numericOnly = false) (cache : DnsCache) (ip : String) :
    getHostnameCached pgConfig getnameinfo cache ip = cache.ask 1000 (fun lookup => hostnameOf
      (getnameinfo lookup)) ip := by
  have asked : ¬ pgConfig.numericOnly = true := by
    rw [named]
    exact Bool.false_ne_true
  rw [getHostnameCached, if_neg asked, Memo.ask]
  cases cache.table[ip]? with
  | some cachedHostname => rfl
  | none =>
    simp only [reverseDnsLookup_shows]
    split
    · rfl
    · rfl

end

/-! ## The names of a session -/

/-- What is true of the names that a session with names is given, each with its address, in their order. -/
structure ShowsNames (getnameinfo : Nat → Getnameinfo) (named : List (String × String)) (cache : DnsCache) :
    Prop where
  /-- a name is what one of the lookups of its address gave -/
  real : ∀ pair ∈ named, ∃ lookup, cache.lookups[lookup]? = some pair.1 ∧ pair.2 = hostnameOf
    (getnameinfo lookup) pair.1
  /-- the cache has its bound -/
  bounded : cache.table.size = min 1000 (named.map Prod.fst).eraseDups.length
  /-- the first addresses are looked up once -/
  once : ∀ ip ∈ (named.map Prod.fst).eraseDups.take 1000, cache.lookups.count ip = 1
  /-- and have one name for the session -/
  alike : ∀ ip ∈ (named.map Prod.fst).eraseDups.take 1000, ∃ hostname, ∀ pair ∈ named, pair.1 = ip → pair.2 = hostname
  /-- the others are looked up each time -/
  others : ∀ ip, ip ∉ (named.map Prod.fst).eraseDups.take 1000 →
    cache.lookups.count ip = (named.map Prod.fst).count ip
  /-- where the system always answers alike, the cache is not to be seen -/
  plain : ∀ answers, (∀ lookup, getnameinfo lookup = answers) → ∀ pair ∈ named, pair.2 = hostnameOf answers pair.1

theorem ShowsNames.of_sound {getnameinfo : Nat → Getnameinfo} {named : List (String × String)} {cache : DnsCache}
    (sound : Memo.Sound 1000 (fun lookup => hostnameOf (getnameinfo lookup)) named cache) :
    ShowsNames getnameinfo named cache where
  real := sound.honest
  bounded := by
    rw [sound.size, Memo.firsts, List.length_take]
  once ip first := by
    rw [sound.frugal ip, if_pos ((sound.known ip).mpr first)]
  alike ip first := by
    have remembered := (sound.known ip).mpr first
    refine ⟨cache.table[ip], fun pair member same => ?_⟩
    subst same
    exact (Option.some.inj ((Std.HashMap.getElem?_eq_some_getElem remembered).symm.trans
      (sound.stable pair member remembered))).symm
  others ip later := by
    rw [sound.frugal ip, if_neg fun inTable => later ((sound.known ip).mp inTable)]
  plain answers alike := by
    simp only [alike] at sound
    exact sound.transparent

end Utiputils.Ping
