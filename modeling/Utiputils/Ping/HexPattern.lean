import Utiputils.Lib.Hex

/-! # Hexadecimal arguments

`parse_hex` of `ping_types.rs`, which reads the argument of `-p`. A digit that is left over is padded with a zero in
front of it, as the native `ping` does. -/

namespace Utiputils.Ping

open Utiputils.Lib

/-- `decode` and `encode` of the crate `hex`. -/
structure HexCrate where
  FromHexError : Type
  toString : FromHexError → String
  decode : String → Except FromHexError Bytes
  encode : Bytes → String

/-- `decode` accepts the pairs of digits and nothing else, and `encode` writes them. -/
structure HexCrate.FollowsDocs (crate : HexCrate) : Prop where
  decode : ∀ text bytes, crate.decode text = .ok bytes ↔ decodePairs text.toList = some bytes
  encode : ∀ bytes, crate.encode bytes = String.ofList (encodePairs bytes)

/-- `left - right` of `usize`; `none` where it overflows. -/
def usizeSub (left right : Nat) : Option Nat := if right ≤ left then some (left - right) else none

/-- `Vec::insert`; `none` where it panics. -/
def vecInsert (chars : List Char) (index : Nat) (char : Char) : Option (List Char) :=
  if index ≤ chars.length then some (chars.insertIdx index char) else none

/-- The text that `parse_hex` decodes; `none` where it panics. -/
def padded (s : String) : Option String :=
  if s.utf8ByteSize % 2 = 1 then
    if s.utf8ByteSize = 1 then some ("0" ++ s)
    else do
      let chars := s.toList
      let index ← usizeSub chars.length 1
      let chars ← vecInsert chars index '0'
      return String.ofList chars
  else some s

def parseHex (crate : HexCrate) (s : String) : Option (Except String Bytes) := do
  let padded ← padded s
  return (crate.decode padded).mapError crate.toString

/-- The zero stands in front of the last character, and no text makes it panic. -/
theorem padded_eq (s : String) :
    padded s = some (if s.utf8ByteSize % 2 = 1 then String.ofList (s.toList.insertIdx (s.toList.length - 1) '0')
      else s) := by
  unfold padded
  by_cases odd : s.utf8ByteSize % 2 = 1
  · rw [if_pos odd, if_pos odd]
    have nonempty : 1 ≤ s.toList.length := by
      rw [Nat.one_le_iff_ne_zero]
      intro empty
      simp [utf8ByteSize_eq, List.length_eq_zero_iff.mp empty] at odd
    by_cases single : s.utf8ByteSize = 1
    · have one : s.toList.length = 1 := by
        have atMost := length_le_utf8ByteSize s
        omega
      have front : "0" ++ s = String.ofList ('0' :: s.toList) := String.toList_inj.mp (by simp)
      rw [if_pos single, one, List.insertIdx_zero, front]
    · simp only [if_neg single, usizeSub, if_pos nonempty, vecInsert, Nat.sub_le, if_true, Option.bind_eq_bind,
        Option.bind_some, Option.pure_def]
  · rw [if_neg odd, if_neg odd]

theorem insertIdx_concat (front : List Char) (last char : Char) :
    (front ++ [last]).insertIdx front.length char = front ++ [char, last] := by
  induction front with
  | nil => rfl
  | cons first front inductionHypothesis =>
    rw [List.cons_append, List.length_cons, List.insertIdx_succ_cons, inductionHypothesis, List.cons_append]

theorem parseHex_returns (crate : HexCrate) (s : String) : ∃ result, parseHex crate s = some result := by
  rw [parseHex, padded_eq]
  exact ⟨_, rfl⟩

section

variable {crate : HexCrate} (follows : crate.FollowsDocs)
include follows

theorem parseHex_eq_ok_iff {s : String} {bytes : Bytes} :
    parseHex crate s = some (.ok bytes) ↔
      decodePairs (if s.utf8ByteSize % 2 = 1 then s.toList.insertIdx (s.toList.length - 1) '0' else s.toList) =
        some bytes := by
  rw [parseHex, padded_eq]
  set text := if s.utf8ByteSize % 2 = 1 then String.ofList (s.toList.insertIdx (s.toList.length - 1) '0') else s
    with isText
  have chars : text.toList =
      if s.utf8ByteSize % 2 = 1 then s.toList.insertIdx (s.toList.length - 1) '0' else s.toList := by
    rw [isText]
    split <;> simp
  rw [← chars, ← follows.decode]
  change some ((crate.decode text).mapError crate.toString) = some (.ok bytes) ↔ _
  cases crate.decode text with
  | ok decoded => simp [Except.mapError]
  | error failure => simp [Except.mapError]

theorem parseHex_digits (pairs : List (HexDigit × HexDigit)) :
    parseHex crate (String.ofList (digits pairs)) = some (.ok (pairBytes pairs)) := by
  have size : (String.ofList (digits pairs)).utf8ByteSize = 2 * pairs.length := by
    rw [utf8ByteSize_of_isHexDigit, String.toList_ofList, length_digits]
    rw [String.toList_ofList]
    exact fun char => isHexDigit_digits
  rw [parseHex_eq_ok_iff follows, size, if_neg (by omega), String.toList_ofList, decodePairs_digits]

/-- The digit that is left over is a byte of its own. -/
theorem parseHex_digits_concat (pairs : List (HexDigit × HexDigit)) (last : HexDigit) :
    parseHex crate (String.ofList (digits pairs ++ [last.val])) =
      some (.ok (pairBytes pairs ++ [UInt8.ofNat (hexValue last)])) := by
  have size : (String.ofList (digits pairs ++ [last.val])).utf8ByteSize = 2 * pairs.length + 1 := by
    rw [utf8ByteSize_of_isHexDigit, String.toList_ofList, List.length_append, length_digits, List.length_singleton]
    rw [String.toList_ofList, List.forall_mem_append, List.forall_mem_singleton]
    exact ⟨fun char => isHexDigit_digits, last.property⟩
  rw [parseHex_eq_ok_iff follows, size, if_pos (by omega), String.toList_ofList]
  have index : (digits pairs ++ [last.val]).length - 1 = (digits pairs).length := by simp
  have byte : hexPair '0' last = UInt8.ofNat (hexValue last) := by
    rw [hexPair, show hexValue '0' = 0 from rfl, Nat.mul_zero, Nat.zero_add]
  have padded : [ '0', last.val] = digits [(⟨'0', rfl⟩, last)] := rfl
  rw [index, insertIdx_concat, padded, decodePairs_digits_append, decodePairs_digits, Option.map_some, pairBytes,
    pairBytes, List.map_singleton, byte]

theorem parseHex_ok_iff (s : String) :
    (∃ bytes, parseHex crate s = some (.ok bytes)) ↔ ∀ char ∈ s.toList, char.isHexDigit = true := by
  constructor
  · rintro ⟨bytes, parsed⟩ char member
    rw [parseHex_eq_ok_iff follows] at parsed
    apply isHexDigit_of_decodePairs parsed
    split
    · exact List.subset_insertIdx _ _ _ member
    · exact member
  · intro all
    obtain ⟨pairs, split⟩ := exists_digits all
    rw [← s.ofList_toList]
    rcases split with isDigits | ⟨last, isDigits⟩
    · exact ⟨_, isDigits ▸ parseHex_digits follows pairs⟩
    · exact ⟨_, isDigits ▸ parseHex_digits_concat follows pairs last⟩

theorem parseHex_encode (bytes : Bytes) : parseHex crate (crate.encode bytes) = some (.ok bytes) := by
  obtain ⟨pairs, encoded, decoded⟩ := encodePairs_eq bytes
  rw [follows.encode, encoded, parseHex_digits follows, decoded]

end

/-- `parse_hex` accepts what consists of hexadecimal digits, and reads back what `encode` writes. -/
theorem parseHex_reads {crate : HexCrate} (follows : crate.FollowsDocs) :
    (∀ s, ∃ result, parseHex crate s = some result) ∧
    (∀ s, (∃ bytes, parseHex crate s = some (.ok bytes)) ↔ ∀ char ∈ s.toList, char.isHexDigit = true) ∧
    (∀ pairs, parseHex crate (String.ofList (digits pairs)) = some (.ok (pairBytes pairs))) ∧
    (∀ pairs (last : HexDigit), parseHex crate (String.ofList (digits pairs ++ [last.val])) =
      some (.ok (pairBytes pairs ++ [UInt8.ofNat (hexValue last)]))) ∧
    (∀ bytes, parseHex crate (crate.encode bytes) = some (.ok bytes)) :=
  ⟨parseHex_returns crate, parseHex_ok_iff follows, parseHex_digits follows, parseHex_digits_concat follows,
    parseHex_encode follows⟩

/-- A crate that decodes pairs of digits. -/
def pairsCrate : HexCrate where
  FromHexError := Unit
  toString _ := "Invalid string"
  decode text := match decodePairs text.toList with
    | some bytes => .ok bytes
    | none => .error ()
  encode bytes := String.ofList (encodePairs bytes)

theorem pairsCrate_follows : pairsCrate.FollowsDocs where
  decode text bytes := by
    change (match decodePairs text.toList with
      | some bytes => Except.ok bytes
      | none => Except.error ()) = Except.ok bytes ↔ _
    cases decodePairs text.toList <;> simp
  encode _ := rfl

theorem parseHex_reads_oddLength : parseHex pairsCrate "123" = some (.ok [0x12, 0x03]) :=
  (parseHex_reads pairsCrate_follows).2.2.2.1 [(⟨'1', rfl⟩, ⟨'2', rfl⟩)] ⟨'3', rfl⟩

end Utiputils.Ping
