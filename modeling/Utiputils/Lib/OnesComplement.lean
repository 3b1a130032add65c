import Utiputils.Lib.Bytes

/-! # One's complement sums

The Internet checksum of RFC 1071: 16-bit big-endian words added with end-around carry. The sum is
determined by the residue of the plain sum modulo `65535`, zero being kept apart from `65535`
(`onesSum_eq`), and that is all the arithmetic that a checksum field needs. -/

namespace Utiputils.Lib

/-- The 16-bit words of a byte string, an odd last byte padded with zero. -/
def words : Bytes → List Nat
  | [] => []
  | [last] => [last.toNat * 256]
  | high :: low :: rest => (high.toNat * 256 + low.toNat) :: words rest

/-- Addition with end-around carry. -/
def onesAdd (left right : Nat) : Nat :=
  if left + right < 65536 then left + right else left + right - 65535

def onesSum (list : List Nat) : Nat := list.foldl onesAdd 0

/-- The representative of a plain sum: zero for zero, else in `1 .. 65535`. -/
def onesResidue (sum : Nat) : Nat := if sum = 0 then 0 else (sum - 1) % 65535 + 1

theorem words_lt (bytes : Bytes) : ∀ word ∈ words bytes, word < 65536 := by
  induction bytes using words.induct with
  | case1 => simp [words]
  | case2 last =>
    have bound := last.toNat_lt
    simp only [words, List.mem_singleton, forall_eq]
    omega
  | case3 high low rest inductionHypothesis =>
    have highBound := high.toNat_lt
    have lowBound := low.toNat_lt
    simp only [words, List.mem_cons, forall_eq_or_imp]
    exact ⟨by omega, inductionHypothesis⟩

theorem onesAdd_onesResidue (sum word : Nat) (bounded : word < 65536) :
    onesAdd (onesResidue sum) word = onesResidue (sum + word) := by
  simp only [onesAdd, onesResidue]
  split_ifs <;> omega

/-- The end-around sum only depends on the plain sum. -/
theorem onesSum_eq (list : List Nat) (bounded : ∀ word ∈ list, word < 65536) :
    onesSum list = onesResidue list.sum := by
  induction list using List.reverseRecOn with
  | nil => rfl
  | append_singleton list word inductionHypothesis =>
    have shorter := inductionHypothesis (fun other member => bounded other (by simp [member]))
    have wordBound := bounded word (by simp)
    rw [onesSum, List.foldl_append, List.foldl_cons, List.foldl_nil]
    change onesAdd (onesSum list) word = _
    rw [shorter, onesAdd_onesResidue _ _ wordBound, List.sum_append, List.sum_singleton]

/-- The checksum law: a word that complements the sum of the others completes it to `0xFFFF`. -/
theorem onesSum_complement (before after : List Nat)
    (beforeBounded : ∀ word ∈ before, word < 65536) (afterBounded : ∀ word ∈ after, word < 65536) :
    onesSum (before ++ (65535 - onesSum (before ++ after)) :: after) = 65535 := by
  have othersBounded : ∀ word ∈ before ++ after, word < 65536 := by
    intro word member
    exact (List.mem_append.mp member).elim (beforeBounded word) (afterBounded word)
  have allBounded : ∀ word ∈ before ++ (65535 - onesSum (before ++ after)) :: after, word < 65536 := by
    intro word member
    rcases List.mem_append.mp member with inBefore | inRest
    · exact beforeBounded word inBefore
    · rcases List.mem_cons.mp inRest with isSum | inAfter
      · omega
      · exact afterBounded word inAfter
  rw [onesSum_eq _ allBounded, onesSum_eq _ othersBounded, List.sum_append, List.sum_append, List.sum_cons]
  have reordered : before.sum + (65535 - onesResidue (before.sum + after.sum) + after.sum) =
      (before.sum + after.sum) + (65535 - onesResidue (before.sum + after.sum)) := by ring
  rw [reordered]
  generalize before.sum + after.sum = others
  simp only [onesResidue]
  split_ifs <;> omega

/-! ## Checksum fields -/

theorem words_append {front : Bytes} (even : front.length % 2 = 0) (back : Bytes) :
    words (front ++ back) = words front ++ words back := by
  induction front using words.induct with
  | case1 => rfl
  | case2 last => simp at even
  | case3 high low rest inductionHypothesis =>
    have evenRest : rest.length % 2 = 0 := by
      simp only [List.length_cons] at even
      omega
    simp only [List.cons_append, words, inductionHypothesis evenRest]

theorem length_words {bytes : Bytes} (even : bytes.length % 2 = 0) : (words bytes).length = bytes.length / 2 := by
  induction bytes using words.induct with
  | case1 => rfl
  | case2 last => simp at even
  | case3 high low rest inductionHypothesis =>
    simp only [List.length_cons] at even ⊢
    rw [words, List.length_cons, inductionHypothesis (by omega)]
    omega

theorem words_beBytes16 (value : UInt16) : words (beBytes16 value) = [value.toNat] := by
  have bound := value.toNat_lt
  have read : ∀ number < 256, (UInt8.ofNat number).toNat = number := fun _ small => UInt8.toNat_ofNat_of_lt small
  simp only [beBytes16, words]
  rw [read _ (by omega), read _ (by omega)]
  exact congrArg (fun word => [word]) (Nat.div_add_mod' ..)

/-- A checksum field, filled with the complement of the sum of the other words. -/
theorem onesSum_words_checksum {front : Bytes} {skipword : Nat} (offset : front.length = 2 * skipword) (back : Bytes)
    (old checksum : UInt16)
    (complements : checksum.toNat =
      65535 - onesSum ((words (front ++ (beBytes16 old ++ back))).eraseIdx skipword)) :
    onesSum (words (front ++ (beBytes16 checksum ++ back))) = 0xFFFF := by
  have even : front.length % 2 = 0 := by omega
  have count : (words front).length = skipword := by
    rw [length_words even]
    omega
  have split : ∀ value : UInt16, words (front ++ (beBytes16 value ++ back)) =
      words front ++ value.toNat :: words back := fun value => by
    rw [words_append even, words_append (by rw [length_beBytes16]), words_beBytes16]
    rfl
  rw [split, List.eraseIdx_append_of_length_le (by rw [count]), count, Nat.sub_self, List.eraseIdx_cons_zero]
    at complements
  rw [split, complements]
  exact onesSum_complement _ _ (words_lt front) (words_lt back)

end Utiputils.Lib
