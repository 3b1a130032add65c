import Mathlib.Algebra.Order.Group.Unbundled.Int

/-! # Checked arithmetic

The operations of `i64`, each of which fails where its exact result does not fit, and rules by which a computation with
them is compared with the same one over the integers. -/

namespace Utiputils.Lib.Checked

/-- The machine integer of this value. -/
def checked (value : Int) : Option Int64 :=
  if -2 ^ 63 ≤ value ∧ value < 2 ^ 63 then some (Int64.ofInt value) else none

def add (first second : Int64) : Option Int64 := checked (first.toInt + second.toInt)
def sub (first second : Int64) : Option Int64 := checked (first.toInt - second.toInt)
def mul (first second : Int64) : Option Int64 := checked (first.toInt * second.toInt)

/-- Division rounds towards zero. -/
def div (dividend divisor : Int64) : Option Int64 :=
  if divisor = 0 then none else checked (dividend.toInt.tdiv divisor.toInt)

def abs (value : Int64) : Option Int64 := checked |value.toInt|

/-- The computation does not fail, and its result is as described. -/
def Yields {Result : Type} (process : Option Result) (post : Result → Prop) : Prop :=
  ∃ result, process = some result ∧ post result

section

variable {Result Next : Type} {process : Option Result} {post : Result → Prop}

theorem yields_some {result : Result} (holds : post result) : Yields (some result) post := ⟨result, rfl, holds⟩

theorem yields_bind {next : Result → Option Next} {final : Next → Prop} (first : Yields process post)
    (rest : ∀ result, post result → Yields (next result) final) : Yields (process >>= next) final := by
  obtain ⟨result, rfl, holds⟩ := first
  exact rest result holds

theorem yields_map {change : Result → Next} {final : Next → Prop} (first : Yields process post)
    (rest : ∀ result, post result → final (change result)) : Yields (process.map change) final := by
  obtain ⟨result, rfl, holds⟩ := first
  exact ⟨change result, rfl, rest result holds⟩

/-- A fold that keeps an invariant of the state and of what it stands for. -/
theorem yields_foldlM {Input Exact : Type} {step : Result → Input → Option Result} {exactStep : Exact → Input → Exact}
    {represents : Exact → Result → Prop} {inputs : List Input}
    (agrees : ∀ exact state, ∀ input ∈ inputs, represents exact state →
      Yields (step state input) (represents (exactStep exact input)))
    {exact : Exact} {state : Result} (start : represents exact state) :
    Yields (inputs.foldlM step state) (represents (inputs.foldl exactStep exact)) := by
  induction inputs generalizing exact state with
  | nil => exact yields_some start
  | cons input inputs inductionHypothesis =>
    rw [List.foldlM_cons]
    refine yields_bind (agrees exact state input List.mem_cons_self start) fun next reached => ?_
    exact inductionHypothesis (fun exact state later member => agrees exact state later (List.mem_cons_of_mem _ member))
      reached

end

/-- The computation succeeds with this value. -/
abbrev Computes (process : Option Int64) (value : Int) : Prop := Yields process fun machine => machine.toInt = value

section

variable {first second : Int64} {value value' : Int}

theorem computes_checked (low : -2 ^ 63 ≤ value) (high : value < 2 ^ 63) : Computes (checked value) value :=
  ⟨Int64.ofInt value, if_pos ⟨low, high⟩, Int64.toInt_ofInt_of_le low high⟩

theorem computes_add (isFirst : first.toInt = value) (isSecond : second.toInt = value')
    (low : -2 ^ 63 ≤ value + value') (high : value + value' < 2 ^ 63) :
    Computes (add first second) (value + value') := by
  subst isFirst isSecond
  exact computes_checked low high

theorem computes_sub (isFirst : first.toInt = value) (isSecond : second.toInt = value')
    (low : -2 ^ 63 ≤ value - value') (high : value - value' < 2 ^ 63) :
    Computes (sub first second) (value - value') := by
  subst isFirst isSecond
  exact computes_checked low high

theorem computes_mul (isFirst : first.toInt = value) (isSecond : second.toInt = value')
    (low : -2 ^ 63 ≤ value * value') (high : value * value' < 2 ^ 63) :
    Computes (mul first second) (value * value') := by
  subst isFirst isSecond
  exact computes_checked low high

/-- Only the quotient of the least integer and minus one does not fit. -/
theorem computes_div (isFirst : first.toInt = value) (isSecond : second.toInt = value') (divides : value' ≠ 0)
    (low : -2 ^ 63 < value) (high : value < 2 ^ 63) : Computes (div first second) (value.tdiv value') := by
  subst isFirst isSecond
  have nonzero : second ≠ 0 := fun zero => divides (congrArg Int64.toInt zero)
  have shrinks : |first.toInt.tdiv second.toInt| ≤ |first.toInt| := by
    rw [← Int.natCast_natAbs, ← Int.natCast_natAbs, Int.natAbs_tdiv]
    exact Int.ofNat_le.mpr (Nat.div_le_self _ _)
  obtain ⟨atLeast, atMost⟩ := abs_lt.mp (shrinks.trans_lt (abs_lt.mpr ⟨low, high⟩))
  rw [div, if_neg nonzero]
  exact computes_checked atLeast.le atMost

theorem computes_abs (isFirst : first.toInt = value) (low : -2 ^ 63 < value) (high : value < 2 ^ 63) :
    Computes (abs first) |value| := by
  subst isFirst
  obtain ⟨atLeast, atMost⟩ := abs_lt.mp ((abs_abs first.toInt).trans_lt (abs_lt.mpr ⟨low, high⟩))
  exact computes_checked atLeast.le atMost

end

end Utiputils.Lib.Checked
