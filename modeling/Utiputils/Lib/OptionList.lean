import Utiputils.Lib.Bytes

/-! # Option lists

The option lists of network headers. A type byte stands alone, or it is followed by a length byte, which
counts the whole option, and by the data of the option. Which types stand alone, and which end the list,
is a parameter.

Reading the first item of a byte string inverts writing it (`OptionItem.read_bytes`,
`OptionItem.eq_of_read`), so a byte string splits into items in at most one way. -/

namespace Utiputils.Lib

/-- What a type byte announces. -/
inductive OptionForm where
  | stop
  | single
  | long
  deriving DecidableEq, Repr

variable {form : UInt8 → OptionForm}

/-- A complete option with a length byte. -/
structure LongOption (form : UInt8 → OptionForm) where
  type : UInt8
  data : Bytes
  isLong : form type = .long
  short : data.length + 2 < 256

namespace LongOption

def size (self : LongOption form) : Nat := self.data.length + 2

def bytes (self : LongOption form) : Bytes := self.type :: UInt8.ofNat self.size :: self.data

@[simp] theorem length_bytes (self : LongOption form) : self.bytes.length = self.size := rfl

theorem toNat_size (self : LongOption form) : (UInt8.ofNat self.size).toNat = self.size :=
  UInt8.toNat_ofNat_of_lt self.short

/-! ### An option at a position -/

variable (self : LongOption form) (front rest : Bytes)

theorem length_at : (front ++ (self.bytes ++ rest)).length = front.length + (self.size + rest.length) := by
  rw [List.length_append, List.length_append, length_bytes]

theorem type_at : (front ++ (self.bytes ++ rest))[front.length]? = some self.type := getElem?_append_length ..

theorem size_at : (front ++ (self.bytes ++ rest))[front.length + 1]? = some (UInt8.ofNat self.size) := by
  rw [getElem?_append_length_add]
  rfl

theorem slice_at : slice (front ++ (self.bytes ++ rest)) front.length (front.length + self.size) = some self.bytes :=
  slice_append front self.bytes rest

end LongOption

inductive OptionItem (form : UInt8 → OptionForm) where
  | single (type : UInt8) (isSingle : form type = .single)
  | long (option : LongOption form)

namespace OptionItem

def type : OptionItem form → UInt8
  | single type _ => type
  | long option => option.type

def bytes : OptionItem form → Bytes
  | single type _ => [type]
  | long option => option.bytes

theorem length_bytes_pos (item : OptionItem form) : 0 < item.bytes.length := by
  cases item <;> exact Nat.succ_pos _

def encode (items : List (OptionItem form)) : Bytes := items.flatMap bytes

@[simp] theorem encode_nil : encode ([] : List (OptionItem form)) = [] := rfl

@[simp] theorem encode_cons (item : OptionItem form) (items : List (OptionItem form)) :
    encode (item :: items) = item.bytes ++ encode items := List.flatMap_cons

@[simp] theorem encode_append (items others : List (OptionItem form)) :
    encode (items ++ others) = encode items ++ encode others := List.flatMap_append

@[simp] theorem encode_replicate_single (count : Nat) (type : UInt8) (isSingle : form type = .single) :
    encode (List.replicate count (single type isSingle)) = List.replicate count type := by
  induction count with
  | zero => rfl
  | succ count inductionHypothesis =>
    rw [List.replicate_succ, encode_cons, inductionHypothesis, List.replicate_succ]
    rfl

/-! ## Reading -/

/-- The first item and what is behind it; `none` at the end, at a type that ends the list, and at a length
that is too small or too large. -/
def read (form : UInt8 → OptionForm) : Bytes → Option (OptionItem form × Bytes)
  | [] => none
  | type :: rest =>
    match announced : form type with
    | .stop => none
    | .single => some (single type announced, rest)
    | .long =>
      match rest with
      | [] => none
      | length :: tail =>
        if 2 ≤ length.toNat ∧ length.toNat - 2 ≤ tail.length then
          have short : (tail.take (length.toNat - 2)).length + 2 < 256 := by
            have bound := length.toNat_lt
            rw [List.length_take]
            omega
          some (long ⟨type, tail.take (length.toNat - 2), announced, short⟩, tail.drop (length.toNat - 2))
        else none

theorem read_bytes (item : OptionItem form) (rest : Bytes) : read form (item.bytes ++ rest) = some (item, rest) := by
  cases item with
  | single type isSingle =>
    simp only [bytes, List.singleton_append, read]
    split
    next announced => cases isSingle.symm.trans announced
    next => rfl
    next announced => cases isSingle.symm.trans announced
  | long option =>
    have size : (UInt8.ofNat option.size).toNat = option.data.length + 2 := option.toNat_size
    simp only [bytes, LongOption.bytes, List.cons_append, read]
    generalize UInt8.ofNat option.size = length at size
    have dataSize : length.toNat - 2 = option.data.length := by omega
    split
    next announced => cases option.isLong.symm.trans announced
    next announced => cases option.isLong.symm.trans announced
    next announced =>
      rw [if_pos ⟨by omega, by rw [dataSize, List.length_append]; omega⟩]
      simp only [dataSize, List.take_left, List.drop_left]

theorem eq_of_read {bytes : Bytes} {item : OptionItem form} {rest : Bytes}
    (reads : read form bytes = some (item, rest)) : bytes = item.bytes ++ rest := by
  cases bytes with
  | nil => cases reads
  | cons type tail =>
    simp only [read] at reads
    -- the end of the list, a single byte, or an option with a length
    split at reads
    next => cases reads
    next =>
      cases reads
      rfl
    next =>
      cases tail with
      | nil => cases reads
      | cons length tail =>
        simp only at reads
        split at reads
        next fits =>
          cases reads
          have whole : (tail.take (length.toNat - 2)).length + 2 = length.toNat := by
            rw [List.length_take]
            omega
          simp only [OptionItem.bytes, LongOption.bytes, LongOption.size, whole, UInt8.ofNat_toNat,
            List.cons_append, List.take_append_drop]
        next => cases reads

theorem length_lt_of_read {bytes : Bytes} {item : OptionItem form} {rest : Bytes}
    (reads : read form bytes = some (item, rest)) : rest.length < bytes.length := by
  have positive := item.length_bytes_pos
  rw [eq_of_read reads, List.length_append]
  omega

/-- The byte strings that no item can be read from. -/
inductive Unreadable (form : UInt8 → OptionForm) : Bytes → Prop where
  | empty : Unreadable form []
  | stop (type : UInt8) (rest : Bytes) (stops : form type = .stop) : Unreadable form (type :: rest)
  | truncated (type : UInt8) (isLong : form type = .long) : Unreadable form [type]
  | malformed (type length : UInt8) (rest : Bytes) (isLong : form type = .long)
      (outside : length.toNat < 2 ∨ rest.length + 2 < length.toNat) : Unreadable form (type :: length :: rest)

theorem unreadable_of_read {bytes : Bytes} (unreadable : read form bytes = none) : Unreadable form bytes := by
  cases bytes with
  | nil => exact .empty
  | cons type tail =>
    simp only [read] at unreadable
    split at unreadable
    next stops => exact .stop type tail stops
    next => cases unreadable
    next isLong =>
      cases tail with
      | nil => exact .truncated type isLong
      | cons length rest =>
        simp only at unreadable
        split at unreadable
        next => cases unreadable
        next misfit => exact .malformed type length rest isLong (by omega)

theorem read_eq_none {bytes : Bytes} : read form bytes = none ↔ Unreadable form bytes := by
  refine ⟨unreadable_of_read, fun unreadable => ?_⟩
  -- what could be read would be an item in front, and none of the four is one
  rw [Option.eq_none_iff_forall_ne_some]
  rintro ⟨item, rest⟩ reads
  have split := eq_of_read reads
  cases item with
  | single type isSingle =>
    cases unreadable <;> cases split <;> simp_all
  | long option =>
    have bound := option.toNat_size
    have size : option.size = option.data.length + 2 := rfl
    simp only [OptionItem.bytes, LongOption.bytes, List.cons_append] at split
    cases unreadable with
    | empty => cases split
    | stop type tail stops =>
      cases split
      cases option.isLong.symm.trans stops
    | truncated type isLong => cases split
    | malformed type length tail isLong outside =>
      cases split
      rw [List.length_append] at outside
      omega

/-- Every byte string is a list of items up to a place where none can be read. -/
theorem exists_items (form : UInt8 → OptionForm) (bytes : Bytes) :
    ∃ (items : List (OptionItem form)) (tail : Bytes), bytes = encode items ++ tail ∧ Unreadable form tail := by
  induction size : bytes.length using Nat.strong_induction_on generalizing bytes with
  | _ size inductionHypothesis =>
  cases reads : read form bytes with
  | none => exact ⟨[], bytes, rfl, unreadable_of_read reads⟩
  | some first =>
    obtain ⟨item, rest⟩ := first
    obtain ⟨items, tail, split, unreadable⟩ :=
      inductionHypothesis rest.length (size ▸ length_lt_of_read reads) rest rfl
    refine ⟨item :: items, tail, ?_, unreadable⟩
    rw [eq_of_read reads, split, encode_cons, List.append_assoc]

/-! ## The first option of a type -/

/-- Behind items of other types, the byte string goes on with a complete option of the type. -/
def IsFirst (form : UInt8 → OptionForm) (type : UInt8) (bytes found : Bytes) : Prop :=
  ∃ (items : List (OptionItem form)) (option : LongOption form) (rest : Bytes),
    bytes = encode items ++ option.bytes ++ rest ∧ (∀ item ∈ items, item.type ≠ type) ∧
      option.type = type ∧ option.bytes = found

theorem not_isFirst_of_read_none {type : UInt8} {bytes found : Bytes} (unreadable : read form bytes = none) :
    ¬ IsFirst form type bytes found := by
  rintro ⟨items, option, rest, rfl, -, -, -⟩
  cases items with
  | nil =>
    have reads := read_bytes (.long option) rest
    rw [encode_nil, List.nil_append] at unreadable
    exact Option.some_ne_none _ (reads.symm.trans unreadable)
  | cons item items =>
    rw [encode_cons, List.append_assoc, List.append_assoc, read_bytes] at unreadable
    cases unreadable

theorem isFirst_of_read_found {type : UInt8} {bytes found rest : Bytes} {option : LongOption form}
    (reads : read form bytes = some (.long option, rest)) (sought : option.type = type) :
    IsFirst form type bytes found ↔ option.bytes = found := by
  constructor
  · rintro ⟨items, other, behind, rfl, others, -, isFound⟩
    cases items with
    | nil =>
      have same := (read_bytes (.long other) behind).symm.trans reads
      cases same
      exact isFound
    | cons item items =>
      rw [encode_cons, List.append_assoc, List.append_assoc, read_bytes] at reads
      cases reads
      exact absurd sought (others _ List.mem_cons_self)
  · rintro rfl
    exact ⟨[], option, rest, eq_of_read reads, List.forall_mem_nil _, sought, rfl⟩

theorem isFirst_of_read_other {type : UInt8} {bytes found rest : Bytes} {item : OptionItem form}
    (reads : read form bytes = some (item, rest)) (other : item.type ≠ type) :
    IsFirst form type bytes found ↔ IsFirst form type rest found := by
  constructor
  · rintro ⟨items, option, behind, rfl, others, sought, isFound⟩
    cases items with
    | nil =>
      have same := (read_bytes (.long option) behind).symm.trans reads
      cases same
      exact absurd sought other
    | cons first items =>
      rw [encode_cons, List.append_assoc, List.append_assoc, read_bytes] at reads
      cases reads
      refine ⟨items, option, behind, List.append_assoc .. |>.symm, ?_, sought, isFound⟩
      exact fun item member => others item (List.mem_cons_of_mem _ member)
  · rintro ⟨items, option, behind, rfl, others, sought, isFound⟩
    refine ⟨item :: items, option, behind, ?_, ?_, sought, isFound⟩
    · rw [eq_of_read reads, encode_cons, List.append_assoc, List.append_assoc, List.append_assoc]
    · exact List.forall_mem_cons.mpr ⟨other, others⟩

/-- In a list of items, it is the first one of the type. -/
theorem isFirst_encode {type : UInt8} (isLong : form type = .long) (items : List (OptionItem form)) {tail : Bytes}
    (unreadable : Unreadable form tail) (found : Bytes) :
    IsFirst form type (encode items ++ tail) found ↔
      (items.find? fun item => item.type = type).map bytes = some found := by
  induction items with
  | nil =>
    simp only [encode_nil, List.nil_append, List.find?_nil, Option.map_none, reduceCtorEq, iff_false]
    exact not_isFirst_of_read_none (read_eq_none.mpr unreadable)
  | cons item items inductionHypothesis =>
    have reads := read_bytes item (encode items ++ tail)
    rw [encode_cons, List.append_assoc]
    by_cases sought : item.type = type
    · rw [List.find?_cons_of_pos (by simpa using sought), Option.map_some, Option.some_inj]
      cases item with
      | single other isSingle =>
        subst sought
        cases isSingle.symm.trans isLong
      | long option => exact isFirst_of_read_found reads sought
    · rw [List.find?_cons_of_neg (by simpa using sought), ← inductionHypothesis]
      exact isFirst_of_read_other reads sought

/-! ## Two forms -/

section

variable {form' : UInt8 → OptionForm}

/-- The other form ends the list at no type at which this one goes on, and agrees with it there. -/
def Passes (form form' : UInt8 → OptionForm) : Prop := ∀ type, form type ≠ .stop → form' type = form type

/-- The same item under the other form. -/
def reform (passes : Passes form form') : OptionItem form → OptionItem form'
  | single type isSingle => single type (by rw [passes type (by rw [isSingle]; exact OptionForm.noConfusion), isSingle])
  | long option => long ⟨option.type, option.data,
      by rw [passes option.type (by rw [option.isLong]; exact OptionForm.noConfusion), option.isLong], option.short⟩

@[simp] theorem bytes_reform (passes : Passes form form') (item : OptionItem form) :
    (item.reform passes).bytes = item.bytes := by
  cases item <;> rfl

@[simp] theorem type_reform (passes : Passes form form') (item : OptionItem form) :
    (item.reform passes).type = item.type := by
  cases item <;> rfl

@[simp] theorem encode_reform (passes : Passes form form') (items : List (OptionItem form)) :
    encode (items.map (reform passes)) = encode items := by
  simp only [encode, List.flatMap_map, bytes_reform]

/-- What ends the reading under this form ends it under the other one, too, or it is a type that ends the list. -/
theorem Unreadable.reform (passes : Passes form form') {tail : Bytes} (unreadable : Unreadable form tail) :
    Unreadable form' tail ∨ ∃ type rest, tail = type :: rest ∧ form type = .stop := by
  have long : ∀ {type}, form type = .long → form' type = .long := fun {type} isLong => by
    rw [passes type (by rw [isLong]; exact OptionForm.noConfusion), isLong]
  cases unreadable with
  | empty => exact .inl .empty
  | stop type rest stops => exact .inr ⟨type, rest, rfl, stops⟩
  | truncated type isLong => exact .inl (.truncated type (long isLong))
  | malformed type length rest isLong outside => exact .inl (.malformed type length rest (long isLong) outside)

end

end OptionItem

end Utiputils.Lib
