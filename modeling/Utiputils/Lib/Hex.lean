import Utiputils.Lib.Text

/-! # Hexadecimal text

Bytes as pairs of hexadecimal digits. A list of digits is a list of pairs, with a single digit behind them if its
length is odd. -/

namespace Utiputils.Lib

abbrev HexDigit := { char : Char // char.isHexDigit = true }

/-- The value of a hexadecimal digit of either case. -/
def hexValue (char : Char) : Nat :=
  if char.isDigit then char.toNat - '0'.toNat
  else if 'a' ≤ char then char.toNat - 'a'.toNat + 10
  else char.toNat - 'A'.toNat + 10

def hexPair (high low : Char) : UInt8 := UInt8.ofNat (16 * hexValue high + hexValue low)

/-- The bytes of pairs of digits; `none` if a digit is missing or not one. -/
def decodePairs : List Char → Option Bytes
  | [] => some []
  | [_] => none
  | high :: low :: rest =>
    if high.isHexDigit && low.isHexDigit then (decodePairs rest).map (hexPair high low :: ·) else none

/-- Two lower-case digits for each byte. -/
def encodePairs (bytes : Bytes) : List Char :=
  bytes.flatMap fun byte => [Nat.digitChar (byte.toNat / 16), Nat.digitChar (byte.toNat % 16)]

/-- The text of pairs of digits. -/
def digits (pairs : List (HexDigit × HexDigit)) : List Char := pairs.flatMap fun pair => [pair.1.val, pair.2.val]

def pairBytes (pairs : List (HexDigit × HexDigit)) : Bytes := pairs.map fun pair => hexPair pair.1 pair.2

@[simp] theorem length_digits (pairs : List (HexDigit × HexDigit)) : (digits pairs).length = 2 * pairs.length := by
  simp [digits, Nat.mul_comm]

theorem isHexDigit_digits {pairs : List (HexDigit × HexDigit)} {char : Char} (member : char ∈ digits pairs) :
    char.isHexDigit = true := by
  obtain ⟨pair, _, member⟩ := List.mem_flatMap.mp member
  rw [List.mem_pair] at member
  rcases member with rfl | rfl
  · exact pair.1.property
  · exact pair.2.property

/-- Digits come in pairs, but for the last of an odd number. -/
theorem exists_digits : ∀ {chars : List Char}, (∀ char ∈ chars, char.isHexDigit = true) →
    ∃ pairs, chars = digits pairs ∨ ∃ last : HexDigit, chars = digits pairs ++ [last.val]
  | [], _ => ⟨[], .inl rfl⟩
  | [last], all => ⟨[], .inr ⟨⟨last, all last (by simp)⟩, rfl⟩⟩
  | high :: low :: rest, all => by
    rw [List.forall_mem_cons, List.forall_mem_cons] at all
    obtain ⟨isHigh, isLow, others⟩ := all
    obtain ⟨pairs, split⟩ := exists_digits others
    refine ⟨(⟨high, isHigh⟩, ⟨low, isLow⟩) :: pairs, ?_⟩
    rcases split with rfl | ⟨last, rfl⟩
    · exact .inl rfl
    · exact .inr ⟨last, rfl⟩

theorem decodePairs_digits_append (pairs : List (HexDigit × HexDigit)) (rest : List Char) :
    decodePairs (digits pairs ++ rest) = (decodePairs rest).map (pairBytes pairs ++ ·) := by
  induction pairs with
  | nil => simp [digits, pairBytes]
  | cons pair pairs inductionHypothesis =>
    have both : (pair.1.val.isHexDigit && pair.2.val.isHexDigit) = true := by simp [pair.1.property, pair.2.property]
    change decodePairs (pair.1.val :: pair.2.val :: (digits pairs ++ rest)) = _
    rw [decodePairs, if_pos both, inductionHypothesis, Option.map_map]
    rfl

@[simp] theorem decodePairs_digits (pairs : List (HexDigit × HexDigit)) :
    decodePairs (digits pairs) = some (pairBytes pairs) := by
  have decoded := decodePairs_digits_append pairs []
  rwa [List.append_nil, decodePairs, Option.map_some, List.append_nil] at decoded

/-- Only digits decode. -/
theorem isHexDigit_of_decodePairs : ∀ {chars : List Char} {bytes : Bytes}, decodePairs chars = some bytes →
    ∀ char ∈ chars, char.isHexDigit = true
  | [], _, _ => by simp
  | [_], _, decoded => by cases decoded
  | high :: low :: rest, bytes, decoded => by
    rw [decodePairs] at decoded
    by_cases both : (high.isHexDigit && low.isHexDigit) = true
    · rw [if_pos both] at decoded
      obtain ⟨_, others, _⟩ := Option.map_eq_some_iff.mp decoded
      obtain ⟨isHigh, isLow⟩ := Bool.and_eq_true_iff.mp both
      rw [List.forall_mem_cons, List.forall_mem_cons]
      exact ⟨isHigh, isLow, isHexDigit_of_decodePairs others⟩
    · rw [if_neg both] at decoded
      cases decoded

theorem digitChar_of_lt {value : Nat} (small : value < 16) :
    (Nat.digitChar value).isHexDigit = true ∧ hexValue (Nat.digitChar value) = value := by
  have all : ∀ value : Fin 16, (Nat.digitChar value).isHexDigit = true ∧ hexValue (Nat.digitChar value) = value := by
    decide
  exact all ⟨value, small⟩

theorem encodePairs_eq (bytes : Bytes) :
    ∃ pairs, encodePairs bytes = digits pairs ∧ pairBytes pairs = bytes := by
  induction bytes with
  | nil => exact ⟨[], rfl, rfl⟩
  | cons byte bytes inductionHypothesis =>
    obtain ⟨pairs, encoded, decoded⟩ := inductionHypothesis
    have bound := byte.toNat_lt
    obtain ⟨isHigh, high⟩ := digitChar_of_lt (show byte.toNat / 16 < 16 by omega)
    obtain ⟨isLow, low⟩ := digitChar_of_lt (show byte.toNat % 16 < 16 by omega)
    have same : hexPair (Nat.digitChar (byte.toNat / 16)) (Nat.digitChar (byte.toNat % 16)) = byte := by
      rw [hexPair, high, low, Nat.div_add_mod, UInt8.ofNat_toNat]
    refine ⟨(⟨_, isHigh⟩, ⟨_, isLow⟩) :: pairs, ?_, ?_⟩
    · rw [encodePairs, List.flatMap_cons, ← encodePairs, encoded]
      rfl
    · rw [pairBytes, List.map_cons, ← pairBytes, decoded, same]

/-! ## Digits are bytes -/

theorem utf8Size_of_isHexDigit {char : Char} (digit : char.isHexDigit = true) : char.utf8Size = 1 := by
  rw [Char.utf8Size_eq_one_iff]
  simp only [Char.isHexDigit, Char.isDigit, Bool.or_eq_true, Bool.and_eq_true, decide_eq_true_eq] at digit
  rcases digit with (⟨_, upper⟩ | ⟨_, upper⟩) | ⟨_, upper⟩
  · exact UInt32.le_trans upper (by decide)
  · exact UInt32.le_trans upper (by decide)
  · exact UInt32.le_trans upper (by decide)

theorem utf8ByteSize_eq (text : String) : text.utf8ByteSize = (text.toList.map Char.utf8Size).sum := by
  have size : text.utf8ByteSize = (textBytes text).length := rfl
  rw [size, textBytes_eq, List.length_flatMap]
  simp only [String.length_utf8EncodeChar]

theorem length_le_utf8ByteSize (text : String) : text.toList.length ≤ text.utf8ByteSize := by
  rw [utf8ByteSize_eq]
  induction text.toList with
  | nil => simp
  | cons char chars inductionHypothesis =>
    have positive := char.utf8Size_pos
    rw [List.length_cons, List.map_cons, List.sum_cons]
    omega

theorem utf8ByteSize_of_isHexDigit {text : String} (digits : ∀ char ∈ text.toList, char.isHexDigit = true) :
    text.utf8ByteSize = text.toList.length := by
  rw [utf8ByteSize_eq, List.map_congr_left (g := fun _ => 1)]
  · simp
  · exact fun char member => utf8Size_of_isHexDigit (digits char member)

end Utiputils.Lib
