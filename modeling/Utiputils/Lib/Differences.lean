import Mathlib.Algebra.Group.Defs
import Mathlib.Algebra.Group.Basic

/-! # Differences

A list of values written as its first value and the difference of every later one from the one before it, and how
partial sums give the values back. -/

namespace Utiputils.Lib

variable {α : Type}

/-- The difference of each value from the one before it. -/
def differencesFrom [Sub α] (prev : α) : List α → List α
  | [] => []
  | value :: values => (value - prev) :: differencesFrom value values

/-- The first value, and the differences of the later ones. -/
def differences [Sub α] : List α → List α
  | [] => []
  | value :: values => value :: differencesFrom value values

def sumsFrom [Add α] (sum : α) : List α → List α
  | [] => []
  | value :: values => (sum + value) :: sumsFrom (sum + value) values

/-- The sum of each prefix. -/
def prefixSums [AddZeroClass α] (values : List α) : List α := sumsFrom 0 values

@[simp] theorem length_differencesFrom [Sub α] (prev : α) (values : List α) :
    (differencesFrom prev values).length = values.length := by
  induction values generalizing prev with
  | nil => rfl
  | cons value values inductionHypothesis => simp [differencesFrom, inductionHypothesis]

@[simp] theorem length_differences [Sub α] (values : List α) : (differences values).length = values.length := by
  cases values with
  | nil => rfl
  | cons value values => simp [differences]

section

variable [AddCommGroup α]

theorem sumsFrom_differencesFrom (prev : α) (values : List α) : sumsFrom prev (differencesFrom prev values) = values := by
  induction values generalizing prev with
  | nil => rfl
  | cons value values inductionHypothesis =>
    simp only [differencesFrom, sumsFrom, add_sub_cancel, inductionHypothesis]

/-- Prefix sums give the values back. -/
theorem prefixSums_differences (values : List α) : prefixSums (differences values) = values := by
  cases values with
  | nil => rfl
  | cons value values =>
    simp only [prefixSums, differences, sumsFrom, zero_add, sumsFrom_differencesFrom]

end

end Utiputils.Lib
