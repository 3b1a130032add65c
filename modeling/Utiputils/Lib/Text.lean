import Mathlib.Data.List.DropRight
import Utiputils.Lib.Bytes

/-! # Text in bytes

The UTF-8 encoding of a string as a byte string. Zero bytes at the end are zero characters at the end. -/

namespace Utiputils.Lib

/-- `str::as_bytes`. -/
def textBytes (text : String) : Bytes := text.toByteArray.data.toList

theorem textBytes_ofList (chars : List Char) :
    textBytes (String.ofList chars) = chars.flatMap String.utf8EncodeChar := by
  simp [textBytes, List.utf8Encode]

theorem textBytes_eq (text : String) : textBytes text = text.toList.flatMap String.utf8EncodeChar := by
  rw [← textBytes_ofList, String.ofList_toList]

/-- `str::from_utf8` reads what is the encoding of a string. -/
theorem fromUTF8_eq_some {bytes : Bytes} {text : String} :
    String.fromUTF8? ⟨bytes.toArray⟩ = some text ↔ textBytes text = bytes := by
  simp only [String.fromUTF8?, Option.dite_none_right_eq_some, Option.some.injEq]
  constructor
  · rintro ⟨valid, rfl⟩
    rfl
  · rintro rfl
    exact ⟨text.isValidUTF8, rfl⟩

theorem textBytes_inj {text other : String} : textBytes text = textBytes other ↔ text = other := by
  refine ⟨fun same => ?_, congrArg _⟩
  have read := fromUTF8_eq_some.mpr same
  exact Option.some.inj (read.symm.trans (fromUTF8_eq_some.mpr rfl))

theorem textBytes_zeros (count : Nat) :
    textBytes (String.ofList (List.replicate count '\x00')) = List.replicate count 0 := by
  rw [textBytes_ofList]
  induction count with
  | zero => rfl
  | succ count inductionHypothesis =>
    rw [List.replicate_succ, List.flatMap_cons, inductionHypothesis]
    rfl

/-- The last byte of a character is zero for the zero character alone. -/
theorem utf8EncodeChar_last {char : Char} (nonzero : char ≠ '\x00') :
    ∃ front last, String.utf8EncodeChar char = front ++ [last] ∧ last ≠ 0 := by
  have isNonzero : char.val.toNat ≠ 0 := fun zero => nonzero (Char.ext (UInt32.toNat_inj.mp zero))
  have continues : UInt8.ofNat (char.val.toNat % 0x40 + 0x80) ≠ 0 := fun zero => by
    have same := congrArg UInt8.toNat zero
    rw [UInt8.toNat_ofNat', UInt8.toNat_zero] at same
    omega
  unfold String.utf8EncodeChar
  simp only
  split
  next small =>
    refine ⟨[], _, rfl, fun zero => ?_⟩
    have same := congrArg UInt8.toNat zero
    rw [UInt8.toNat_ofNat', UInt8.toNat_zero] at same
    omega
  next =>
    split
    · exact ⟨[_], _, rfl, continues⟩
    · split
      · exact ⟨[_, _], _, rfl, continues⟩
      · exact ⟨[_, _, _], _, rfl, continues⟩

theorem flatMap_rdropWhile (chars : List Char) :
    (chars.rdropWhile (· = '\x00')).flatMap String.utf8EncodeChar =
      (chars.flatMap String.utf8EncodeChar).rdropWhile (· = 0) := by
  induction chars using List.reverseRecOn with
  | nil => rfl
  | append_singleton chars char inductionHypothesis =>
    rw [List.flatMap_append, List.flatMap_singleton]
    by_cases zero : char = '\x00'
    · subst zero
      have encoded : String.utf8EncodeChar '\x00' = [0] := rfl
      rw [List.rdropWhile_concat_pos _ _ _ (by simp), encoded, List.rdropWhile_concat_pos _ _ _ (by simp),
        inductionHypothesis]
    · obtain ⟨front, last, encoded, nonzero⟩ := utf8EncodeChar_last zero
      rw [List.rdropWhile_concat_neg _ _ _ (by simpa using zero), encoded, ← List.append_assoc,
        List.rdropWhile_concat_neg _ _ _ (by simpa using nonzero), List.flatMap_append, List.flatMap_singleton, encoded,
        List.append_assoc]

/-- More bytes in front change what is left of the end only if all are trimmed. -/
theorem rdropWhile_append_eq_iff {α : Type} {trimmed : α → Bool} {front back : List α} (some : front ≠ []) :
    (front ++ back).rdropWhile trimmed = back.rdropWhile trimmed ↔ ∀ item ∈ front ++ back, trimmed item := by
  constructor
  · intro same
    by_cases all : ∀ item ∈ back, trimmed item
    · rw [List.rdropWhile_eq_nil_iff.mpr all] at same
      exact List.rdropWhile_eq_nil_iff.mp same
    · exfalso
      have longer : (front ++ back).rdropWhile trimmed = front ++ back.rdropWhile trimmed := by
        have left : back.rdropWhile trimmed ≠ [] := fun none => all (List.rdropWhile_eq_nil_iff.mp none)
        rw [List.rdropWhile, List.reverse_append, List.dropWhile_append, if_neg, List.reverse_append, List.reverse_reverse,
          List.rdropWhile]
        simpa [List.rdropWhile] using left
      have lengths := congrArg List.length (longer.symm.trans same)
      rw [List.length_append] at lengths
      exact some (List.length_eq_zero_iff.mp (by omega))
  · intro all
    rw [List.rdropWhile_eq_nil_iff.mpr all,
      List.rdropWhile_eq_nil_iff.mpr fun item member => all item (List.mem_append_right _ member)]

end Utiputils.Lib
