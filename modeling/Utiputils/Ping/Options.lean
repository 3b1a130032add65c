import Utiputils.Lib.OptionList

/-! # Extracting an IPv4 option

`extract_ipv4_option` finds the timestamp option among the options of a reply. -/

namespace Utiputils.Ping

open Utiputils.Lib

/-- The option types of RFC 791: zero ends the list and one, the NOP, stands alone. -/
def ipv4Form (type : UInt8) : OptionForm :=
  if type = 0 then .stop else if type = 1 then .single else .long

/-! ## The source's loop -/

/-- The loop of `extract_ipv4_option` from a position on. The outer `none` is an index or a slice that
panics. -/
def extractIpv4OptionFrom (optionData : Bytes) (optionType : UInt8) (pos : Nat) : Option (Option Bytes) :=
  if pos < optionData.length then do
    let ty ← optionData[pos]?
    if ty = 0 then return none
    else if ty = 1 then extractIpv4OptionFrom optionData optionType (pos + 1)
    else if optionData.length ≤ pos + 1 then return none
    else
      let len := (← optionData[pos + 1]?).toNat
      if len < 2 ∨ optionData.length < pos + len then return none
      else if ty = optionType then return some (← slice optionData pos (pos + len))
      else extractIpv4OptionFrom optionData optionType (pos + len)
  else return none
termination_by optionData.length - pos

def extractIpv4Option (optionData : Bytes) (optionType : UInt8) : Option (Option Bytes) :=
  if optionData.isEmpty then return none
  else extractIpv4OptionFrom optionData optionType 0

/-! ## One item -/

theorem ipv4Form_eq_stop {type : UInt8} : ipv4Form type = .stop ↔ type = 0 := by
  simp only [ipv4Form]
  split_ifs <;> simp_all

theorem ipv4Form_eq_single {type : UInt8} : ipv4Form type = .single ↔ type = 1 := by
  simp only [ipv4Form]
  split_ifs <;> simp_all

theorem ipv4Form_eq_long {type : UInt8} : ipv4Form type = .long ↔ type ≠ 0 ∧ type ≠ 1 := by
  simp only [ipv4Form]
  split_ifs <;> simp_all

section

variable (front : Bytes) (optionType : UInt8)

/-- Where no item can be read the loop ends. -/
theorem extractIpv4OptionFrom_unreadable {tail : Bytes} (unreadable : OptionItem.Unreadable ipv4Form tail) :
    extractIpv4OptionFrom (front ++ tail) optionType front.length = some none := by
  rw [extractIpv4OptionFrom]
  cases unreadable with
  | empty => simp
  | stop type rest stops => simp [ipv4Form_eq_stop.mp stops]
  | truncated type isLong =>
    obtain ⟨notEnd, notNop⟩ := ipv4Form_eq_long.mp isLong
    simp [notEnd, notNop]
  | malformed type length rest isLong outside =>
    obtain ⟨notEnd, notNop⟩ := ipv4Form_eq_long.mp isLong
    simp [notEnd, notNop]
    -- the length is too small, or it reaches past the end
    omega

theorem extractIpv4OptionFrom_single (type : UInt8) (isSingle : ipv4Form type = .single) (rest : Bytes) :
    extractIpv4OptionFrom (front ++ type :: rest) optionType front.length =
      extractIpv4OptionFrom (front ++ type :: rest) optionType (front.length + 1) := by
  rw [extractIpv4OptionFrom]
  simp [ipv4Form_eq_single.mp isSingle]

theorem extractIpv4OptionFrom_long (option : LongOption ipv4Form) (rest : Bytes) :
    extractIpv4OptionFrom (front ++ (option.bytes ++ rest)) optionType front.length =
      if option.type = optionType then some (some option.bytes)
      else extractIpv4OptionFrom (front ++ (option.bytes ++ rest)) optionType (front.length + option.size) := by
  obtain ⟨notEnd, notNop⟩ := ipv4Form_eq_long.mp option.isLong
  have size : option.size = option.data.length + 2 := rfl
  rw [extractIpv4OptionFrom, option.length_at, if_pos (by omega)]
  simp only [option.type_at, option.size_at, Option.bind_eq_bind, Option.bind_some, notEnd, notNop, if_false,
    option.toNat_size, option.slice_at]
  rw [if_neg (by omega), if_neg (by omega)]
  rfl

end

/-! ## The law of the parser -/

/-- On a list of items the loop returns the first one of the type. -/
theorem extractIpv4OptionFrom_encode {optionType : UInt8} (isLong : ipv4Form optionType = .long)
    (items : List (OptionItem ipv4Form)) {tail : Bytes} (unreadable : OptionItem.Unreadable ipv4Form tail)
    (front : Bytes) :
    extractIpv4OptionFrom (front ++ (OptionItem.encode items ++ tail)) optionType front.length =
      some ((items.find? fun item => item.type = optionType).map (·.bytes)) := by
  induction items generalizing front with
  | nil => exact extractIpv4OptionFrom_unreadable front optionType unreadable
  | cons item items inductionHypothesis =>
    -- what is left to do starts behind the item
    have later := inductionHypothesis (front ++ item.bytes)
    rw [List.append_assoc, List.length_append] at later
    rw [OptionItem.encode_cons, List.append_assoc]
    cases item with
    | single type isSingle =>
      have other : (OptionItem.single type isSingle).type ≠ optionType := by
        rintro rfl
        cases isSingle.symm.trans isLong
      rw [List.find?_cons_of_neg (by simpa using other), ← later]
      exact extractIpv4OptionFrom_single front optionType type isSingle _
    | long option =>
      rw [OptionItem.bytes, extractIpv4OptionFrom_long]
      split
      next sought =>
        have sought : (OptionItem.long option).type = optionType := sought
        rw [List.find?_cons_of_pos (by simpa using sought)]
        rfl
      next other =>
        have other : (OptionItem.long option).type ≠ optionType := other
        rw [List.find?_cons_of_neg (by simpa using other), ← later]
        rfl

theorem extractIpv4Option_encode {optionType : UInt8} (isLong : ipv4Form optionType = .long)
    (items : List (OptionItem ipv4Form)) {tail : Bytes} (unreadable : OptionItem.Unreadable ipv4Form tail) :
    extractIpv4Option (OptionItem.encode items ++ tail) optionType =
      some ((items.find? fun item => item.type = optionType).map (·.bytes)) := by
  have returned := extractIpv4OptionFrom_encode isLong items unreadable []
  rw [extractIpv4Option]
  split
  next empty =>
    rw [← returned, List.isEmpty_iff.mp empty, extractIpv4OptionFrom]
    rfl
  next => exact returned

/-- `extract_ipv4_option` returns on every byte string, and it returns the first complete option of the
type behind NOPs and complete options of other types. -/
theorem extractIpv4Option_isFirst (optionData : Bytes) (optionType : UInt8) (real : 2 ≤ optionType) :
    ∃ result, extractIpv4Option optionData optionType = some result ∧
      (∀ found, result = some found ↔ OptionItem.IsFirst ipv4Form optionType optionData found) ∧
      -- nothing is found behind the first place where there is no item
      ∀ (items : List (OptionItem ipv4Form)) (tail : Bytes), optionData = OptionItem.encode items ++ tail →
        OptionItem.Unreadable ipv4Form tail →
          result = (items.find? fun item => item.type = optionType).map (·.bytes) := by
  have isLong : ipv4Form optionType = .long := by
    refine ipv4Form_eq_long.mpr ⟨?_, ?_⟩ <;> rintro rfl <;> exact absurd real (by decide)
  obtain ⟨items, tail, rfl, unreadable⟩ := OptionItem.exists_items ipv4Form optionData
  refine ⟨_, extractIpv4Option_encode isLong items unreadable, fun found => ?_, fun others rest split ends => ?_⟩
  · exact (OptionItem.isFirst_encode isLong items unreadable found).symm
  · apply Option.ext
    intro found
    rw [← OptionItem.isFirst_encode isLong items unreadable, ← OptionItem.isFirst_encode isLong others ends, split]

/-- A NOP, a record route option and a timestamp option; the end of the list comes before a second one. -/
theorem extractIpv4Option_isFirst_timestamp :
    ∃ result, extractIpv4Option [1, 7, 3, 4, 68, 4, 5, 0, 0, 68, 4, 9, 9] 68 = some result ∧
      result = some [68, 4, 5, 0] := by
  obtain ⟨result, returned, first, -⟩ :=
    extractIpv4Option_isFirst [1, 7, 3, 4, 68, 4, 5, 0, 0, 68, 4, 9, 9] 68 (by decide)
  refine ⟨result, returned, (first _).mpr ⟨[.single 1 rfl, .long ⟨7, [4], rfl, by decide⟩],
    ⟨68, [5, 0], rfl, by decide⟩, [0, 68, 4, 9, 9], rfl, ?_, rfl, rfl⟩⟩
  simp [OptionItem.type]

end Utiputils.Ping
