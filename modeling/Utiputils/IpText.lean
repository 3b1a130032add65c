import Utiputils.Lib.Hex
import Utiputils.Pnet

/-! # IP addresses in text

`str::parse` for the addresses of both families. -/

namespace Utiputils.Pnet

open Utiputils.Lib

inductive Family where
  | ipv4
  | ipv6
  deriving DecidableEq, Repr

def IpAddr.family : IpAddr → Family
  | .v4 _ => .ipv4
  | .v6 _ => .ipv6

namespace Ipv6Addr

/-- The address of eight groups. -/
def ofGroups (groups : List UInt16) : Ipv6Addr :=
  ⟨Vector.ofFn fun index =>
    let group := (groups.getD (index.val / 2) 0).toNat
    UInt8.ofNat (if index.val % 2 = 0 then group / 256 else group % 256)⟩

/-- Up to four hexadecimal digits. -/
def parseGroup (text : List Char) : Option UInt16 :=
  if text ≠ [] ∧ text.length ≤ 4 ∧ text.all Char.isHexDigit then
    some (UInt16.ofNat (text.foldl (fun value digit => value * 16 + hexValue digit) 0))
  else none

/-- The groups between colons; the last may be an IPv4 address, for two of them. -/
def parseGroups (ipv4Allowed : Bool) : List (List Char) → Option (List UInt16)
  | [] => some []
  | [last] =>
    match parseGroup last, Ipv4Addr.parse (String.ofList last) with
    | some group, _ => some [group]
    | none, some addr => if ipv4Allowed then some [be16 addr.a addr.b, be16 addr.c addr.d] else none
    | none, none => none
  | group :: rest => do return (← parseGroup group) :: (← parseGroups ipv4Allowed rest)

def splitGroups (text : List Char) : List (List Char) := if text = [] then [] else text.splitOn ':'

/-- What stands before and behind the first `::`. -/
def splitCompressed : List Char → List Char × Option (List Char)
  | ':' :: ':' :: back => ([], some back)
  | char :: rest => (char :: (splitCompressed rest).1, (splitCompressed rest).2)
  | [] => ([], none)

/-- Eight groups, or fewer with `::` in place of at least one group of zeros. -/
def parse (text : String) : Option Ipv6Addr :=
  match splitCompressed text.toList with
  | (whole, none) => do
    let groups ← parseGroups true (splitGroups whole)
    if groups.length = 8 then some (ofGroups groups) else none
  | (front, some back) => do
    let front ← parseGroups false (splitGroups front)
    let back ← parseGroups true (splitGroups back)
    if front.length + back.length ≤ 7 then
      some (ofGroups (front ++ List.replicate (8 - front.length - back.length) 0 ++ back))
    else none

end Ipv6Addr

/-- `str::parse::<IpAddr>`. -/
def IpAddr.parse (text : String) : Option IpAddr :=
  match Ipv4Addr.parse text with
  | some addr => some (.v4 addr)
  | none => (Ipv6Addr.parse text).map .v6

end Utiputils.Pnet
