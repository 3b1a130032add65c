import Mathlib

/-! # Byte strings

Network byte order on lists of bytes: reading and writing 16- and 32-bit fields at an offset. -/

namespace Utiputils.Lib

abbrev Bytes := List UInt8

/-! ## Writing -/

/-- `bytes[offset..offset + source.len()].copy_from_slice(source)`. -/
def overwrite (bytes : Bytes) (offset : Nat) (source : Bytes) : Bytes :=
  bytes.take offset ++ source ++ bytes.drop (offset + source.length)

/-- `u16::to_be_bytes`. -/
def beBytes16 (value : UInt16) : Bytes :=
  [UInt8.ofNat (value.toNat / 256), UInt8.ofNat (value.toNat % 256)]

/-- `u32::to_be_bytes`. -/
def beBytes32 (value : UInt32) : Bytes :=
  [UInt8.ofNat (value.toNat / 2 ^ 24), UInt8.ofNat (value.toNat / 2 ^ 16 % 256),
    UInt8.ofNat (value.toNat / 2 ^ 8 % 256), UInt8.ofNat (value.toNat % 256)]

/-- `bytes[start..start + source.len()].copy_from_slice(source)` in a slice that keeps its length; a part
of the source that does not fit, where the source panics, is left out. -/
def copyFromSlice (bytes : Bytes) (start : Nat) (source : Bytes) : Bytes :=
  (bytes.take start ++ source).take bytes.length ++ bytes.drop (start + source.length)

@[simp] theorem length_copyFromSlice (bytes : Bytes) (start : Nat) (source : Bytes) :
    (copyFromSlice bytes start source).length = bytes.length := by
  simp only [copyFromSlice, List.length_append, List.length_take, List.length_drop]
  omega

@[simp] theorem length_beBytes32 (value : UInt32) : (beBytes32 value).length = 4 := rfl

@[simp] theorem length_beBytes16 (value : UInt16) : (beBytes16 value).length = 2 := rfl

/-! ## Reading -/

/-- The byte at an offset; zero past the end, which no caller reads. -/
def byteAt (bytes : Bytes) (offset : Nat) : UInt8 := bytes.getD offset 0

def be16 (high low : UInt8) : UInt16 := UInt16.ofNat (high.toNat * 256 + low.toNat)

def u16At (bytes : Bytes) (offset : Nat) : UInt16 :=
  be16 (byteAt bytes offset) (byteAt bytes (offset + 1))

/-- `u32::from_be_bytes` of four bytes, as a number. -/
def u32At (bytes : Bytes) (offset : Nat) : Nat :=
  (byteAt bytes offset).toNat * 2 ^ 24 + (byteAt bytes (offset + 1)).toNat * 2 ^ 16 +
    (byteAt bytes (offset + 2)).toNat * 2 ^ 8 + (byteAt bytes (offset + 3)).toNat

/-- `bytes[start..stop]`; `none` where the slice panics. -/
def slice (bytes : Bytes) (start stop : Nat) : Option Bytes :=
  if start ≤ stop ∧ stop ≤ bytes.length then some ((bytes.drop start).take (stop - start)) else none

theorem be16_toNat (high low : UInt8) : (be16 high low).toNat = high.toNat * 256 + low.toNat := by
  have highBound := high.toNat_lt
  have lowBound := low.toNat_lt
  simp only [be16, UInt16.toNat_ofNat']
  omega

/-- Reading back a written 16-bit field. -/
theorem be16_beBytes16 (value : UInt16) :
    be16 (UInt8.ofNat (value.toNat / 256)) (UInt8.ofNat (value.toNat % 256)) = value := by
  have bound := value.toNat_lt
  apply UInt16.toNat_inj.mp
  rw [be16_toNat, UInt8.toNat_ofNat', UInt8.toNat_ofNat']
  omega

theorem byteAt_append_left {front : Bytes} (back : Bytes) {offset : Nat} (inside : offset < front.length) :
    byteAt (front ++ back) offset = byteAt front offset := by
  simp [byteAt, List.getD_eq_getElem?_getD, List.getElem?_append_left inside]

theorem byteAt_take {bytes : Bytes} {offset size : Nat} (inside : offset < size) :
    byteAt (bytes.take size) offset = byteAt bytes offset := by
  simp [byteAt, List.getD_eq_getElem?_getD, inside]

theorem u16At_take {bytes : Bytes} {offset size : Nat} (inside : offset + 1 < size) :
    u16At (bytes.take size) offset = u16At bytes offset := by
  simp only [u16At]
  rw [byteAt_take (by omega), byteAt_take inside]

@[simp] theorem getElem?_append_length (front : Bytes) (byte : UInt8) (back : Bytes) :
    (front ++ byte :: back)[front.length]? = some byte := by
  simp

@[simp] theorem getElem?_append_length_add (front back : Bytes) (offset : Nat) :
    (front ++ back)[front.length + offset]? = back[offset]? := by
  rw [List.getElem?_append_right (Nat.le_add_right ..), Nat.add_sub_cancel_left]

@[simp] theorem slice_append (front body back : Bytes) :
    slice (front ++ (body ++ back)) front.length (front.length + body.length) = some body := by
  rw [slice, if_pos ⟨by omega, by simp only [List.length_append]; omega⟩, List.drop_left,
    Nat.add_sub_cancel_left, List.take_left]

theorem u32At_lt (bytes : Bytes) (offset : Nat) : u32At bytes offset < 2 ^ 32 := by
  have first := (byteAt bytes offset).toNat_lt
  have second := (byteAt bytes (offset + 1)).toNat_lt
  have third := (byteAt bytes (offset + 2)).toNat_lt
  have fourth := (byteAt bytes (offset + 3)).toNat_lt
  simp only [u32At]
  omega

theorem byteAt_append_right (front back : Bytes) (offset : Nat) :
    byteAt (front ++ back) (front.length + offset) = byteAt back offset := by
  simp [byteAt, List.getD_eq_getElem?_getD]

theorem overwrite_append {front old new : Bytes} (back : Bytes) (sameSize : old.length = new.length) :
    overwrite (front ++ (old ++ back)) front.length new = front ++ (new ++ back) := by
  rw [overwrite, List.take_left, ← List.drop_drop, List.drop_left, List.drop_left' sameSize, List.append_assoc]

theorem u32At_append_right (front back : Bytes) (offset : Nat) :
    u32At (front ++ back) (front.length + offset) = u32At back offset := by
  simp only [u32At, Nat.add_assoc, byteAt_append_right]

/-- Reading back a written 32-bit field. -/
theorem u32At_beBytes32 (value : UInt32) (back : Bytes) : u32At (beBytes32 value ++ back) 0 = value.toNat := by
  have bound := value.toNat_lt
  have read : ∀ number < 256, (UInt8.ofNat number).toNat = number := fun _ small => UInt8.toNat_ofNat_of_lt small
  change (UInt8.ofNat _).toNat * 2 ^ 24 + (UInt8.ofNat _).toNat * 2 ^ 16 + (UInt8.ofNat _).toNat * 2 ^ 8 +
    (UInt8.ofNat _).toNat = value.toNat
  rw [read _ (by omega), read _ (by omega), read _ (by omega), read _ (by omega)]
  omega

/-! ## Records of one size -/

section

variable {Record : Type} {write : Record → Bytes} {size : Nat}

theorem length_flatMap_uniform (uniform : ∀ record, (write record).length = size) (records : List Record) :
    (records.flatMap write).length = records.length * size := by
  induction records with
  | nil => simp
  | cons record records inductionHypothesis =>
    rw [List.flatMap_cons, List.length_append, uniform, inductionHypothesis, List.length_cons, Nat.succ_mul, Nat.add_comm]

/-- Where a record is written. -/
theorem flatMap_split (uniform : ∀ record, (write record).length = size) {records : List Record} {index : Nat}
    {record : Record} (found : records[index]? = some record) :
    ∃ front back, records.flatMap write = front ++ (write record ++ back) ∧ front.length = index * size := by
  induction records generalizing index with
  | nil => simp at found
  | cons first records inductionHypothesis =>
    cases index with
    | zero =>
      rw [List.getElem?_cons_zero, Option.some.injEq] at found
      exact ⟨[], records.flatMap write, by rw [found]; rfl, by rw [Nat.zero_mul]; rfl⟩
    | succ index =>
      rw [List.getElem?_cons_succ] at found
      obtain ⟨front, back, split, length⟩ := inductionHypothesis found
      refine ⟨write first ++ front, back, ?_, ?_⟩
      · rw [List.flatMap_cons, split, List.append_assoc]
      · rw [List.length_append, uniform, length, Nat.succ_mul, Nat.add_comm]

end

/-! ## Chunks -/

section

variable {α : Type} {size : Nat}

theorem toChunks_go_append (bytes : List α) (chunk : Array α) (chunks : Array (List α)) :
    List.toChunks.go size bytes chunk chunks = chunks.toList ++ List.toChunks.go size bytes chunk #[] := by
  induction bytes generalizing chunk chunks with
  | nil => simp [List.toChunks.go]
  | cons byte bytes inductionHypothesis =>
    simp only [List.toChunks.go]
    split
    · rw [inductionHypothesis, inductionHypothesis _ (Array.push #[] _)]
      simp
    · exact inductionHypothesis _ chunks

theorem toChunks_go_fill (front back : List α) (chunk : Array α) (fits : chunk.size + front.length = size)
    (positive : 0 < size) :
    List.toChunks.go size (front ++ back) chunk #[] = (chunk.toList ++ front) :: back.toChunks size := by
  induction front generalizing chunk with
  | nil =>
    have full : chunk.size = size := fits
    rw [List.nil_append, List.append_nil]
    cases back with
    | nil => simp [List.toChunks.go, List.toChunks]
    | cons item back =>
      obtain ⟨size, rfl⟩ := Nat.exists_eq_add_one_of_ne_zero (Nat.ne_of_gt positive)
      rw [List.toChunks.go, if_pos (by simpa using full), toChunks_go_append]
      rfl
  | cons item front inductionHypothesis =>
    rw [List.length_cons] at fits
    have notFull : ¬ (chunk.size == size) = true := by
      rw [beq_iff_eq]
      omega
    rw [List.cons_append, List.toChunks.go, if_neg notFull, inductionHypothesis _ (by rw [Array.size_push]; omega)]
    simp

/-- A whole chunk in front. -/
theorem toChunks_append {front : List α} (back : List α) (whole : front.length = size) (positive : 0 < size) :
    (front ++ back).toChunks size = front :: back.toChunks size := by
  cases front with
  | nil => exact absurd whole (Nat.ne_of_lt positive)
  | cons item front =>
    obtain ⟨size, rfl⟩ := Nat.exists_eq_add_one_of_ne_zero (Nat.ne_of_gt positive)
    rw [List.length_cons] at whole
    exact toChunks_go_fill front back #[item] (by simpa [Nat.add_comm] using whole) positive

theorem toChunks_flatMap {Record : Type} {write : Record → List α} (uniform : ∀ record, (write record).length = size)
    (positive : 0 < size) (records : List Record) (back : List α) :
    (records.flatMap write ++ back).toChunks size = records.map write ++ back.toChunks size := by
  induction records with
  | nil => rfl
  | cons record records inductionHypothesis =>
    rw [List.flatMap_cons, List.append_assoc, toChunks_append _ (uniform record) positive, inductionHypothesis]
    rfl

end

end Utiputils.Lib
