import Mathlib

/-! # Running minima

Two accumulators that a loop over samples keeps:

* `keepLeast` remembers the least key seen together with a label of the element that had it;
* `resettingMin` is a running minimum that some elements restart from their own key.

The lemmas say what each of them holds after a whole list. -/

namespace Utiputils.Lib

variable {α β γ : Type*} [LinearOrder β]

/-! ## The least key and its label -/

def keepLeast (key : α → β) (label : α → γ) (best : β × γ) (a : α) : β × γ :=
  if key a < best.1 then (key a, label a) else best

theorem foldl_keepLeast_le (key : α → β) (label : α → γ) (list : List α) (start : β × γ) :
    (list.foldl (keepLeast key label) start).1 ≤ start.1 ∧
      ∀ a ∈ list, (list.foldl (keepLeast key label) start).1 ≤ key a := by
  induction list generalizing start with
  | nil => simp
  | cons head tail inductionHypothesis =>
    obtain ⟨belowStep, belowTail⟩ := inductionHypothesis (keepLeast key label start head)
    have stepBound : (keepLeast key label start head).1 ≤ start.1 ∧
        (keepLeast key label start head).1 ≤ key head := by
      unfold keepLeast
      split
      next smaller => exact ⟨le_of_lt smaller, le_refl _⟩
      next larger => exact ⟨le_refl _, not_lt.mp larger⟩
    simp only [List.foldl_cons, List.mem_cons, forall_eq_or_imp]
    exact ⟨belowStep.trans stepBound.1, belowStep.trans stepBound.2, belowTail⟩

theorem foldl_keepLeast_origin (key : α → β) (label : α → γ) (list : List α) (start : β × γ) :
    list.foldl (keepLeast key label) start = start ∨
      ∃ a ∈ list, list.foldl (keepLeast key label) start = (key a, label a) := by
  induction list generalizing start with
  | nil => exact .inl rfl
  | cons head tail inductionHypothesis =>
    rw [List.foldl_cons]
    rcases inductionHypothesis (keepLeast key label start head) with unchanged | ⟨a, member, origin⟩
    · rw [unchanged]
      unfold keepLeast
      split
      · exact .inr ⟨head, by simp, rfl⟩
      · exact .inl rfl
    · exact .inr ⟨a, by simp [member], origin⟩

/-- Some element beats the start value: the accumulator then holds the least key of the list, with
the label of an element that attains it. -/
theorem foldl_keepLeast_spec (key : α → β) (label : α → γ) (list : List α) (start : β × γ)
    (beaten : ∃ a ∈ list, key a < start.1) :
    ∃ a ∈ list, list.foldl (keepLeast key label) start = (key a, label a) ∧
      ∀ b ∈ list, key a ≤ key b := by
  have below := (foldl_keepLeast_le key label list start).2
  rcases foldl_keepLeast_origin key label list start with unchanged | ⟨a, member, origin⟩
  · obtain ⟨a, member, smaller⟩ := beaten
    have bound := below a member
    rw [unchanged] at bound
    exact absurd smaller (not_lt.mpr bound)
  · refine ⟨a, member, origin, fun b memberB => ?_⟩
    simpa [origin] using below b memberB

/-! ## A minimum that restarts -/

def resettingMin (resets : α → Bool) (key : α → β) (least : β) (a : α) : β :=
  if resets a then key a else min least (key a)

/-- The part of the list from the last restarting element on, that element included; the whole list
when nothing restarts. -/
def sinceLast (resets : α → Bool) : List α → List α
  | [] => []
  | head :: tail => if tail.any resets then sinceLast resets tail else head :: tail

/-- The keys of the elements of a list. -/
def keysOf (key : α → β) (list : List α) : Set β := {value | ∃ a ∈ list, key a = value}

theorem sinceLast_append (resets : α → Bool) (list : List α) (a : α) :
    sinceLast resets (list ++ [a]) = if resets a then [a] else sinceLast resets list ++ [a] := by
  induction list with
  | nil => simp [sinceLast]
  | cons head tail inductionHypothesis =>
    simp only [List.cons_append, sinceLast, List.any_append, List.any_cons, List.any_nil,
      Bool.or_false, inductionHypothesis]
    cases resets a <;> cases tail.any resets <;> simp

theorem isLeast_keysOf_append {key : α → β} {list : List α} {least : β}
    (isLeast : IsLeast (keysOf key list) least) (a : α) :
    IsLeast (keysOf key (list ++ [a])) (min least (key a)) := by
  obtain ⟨⟨witness, member, attains⟩, lower⟩ := isLeast
  constructor
  · rcases min_choice least (key a) with chosen | chosen
    · exact ⟨witness, by simp [member], by rw [chosen, attains]⟩
    · exact ⟨a, by simp, chosen.symm⟩
  · rintro value ⟨b, memberB, rfl⟩
    rcases List.mem_append.mp memberB with inList | isLast
    · exact (min_le_left _ _).trans (lower ⟨b, inList, rfl⟩)
    · rw [List.mem_singleton.mp isLast]
      exact min_le_right _ _

/-- Once an element has restarted the minimum, the start value is forgotten. -/
theorem foldl_resettingMin_of_reset (resets : α → Bool) (key : α → β) (list : List α) (start : β)
    (reset : list.any resets) :
    IsLeast (keysOf key (sinceLast resets list)) (list.foldl (resettingMin resets key) start) := by
  induction list using List.reverseRecOn with
  | nil => simp at reset
  | append_singleton list a inductionHypothesis =>
    rw [List.foldl_append, sinceLast_append, List.foldl_cons, List.foldl_nil, resettingMin]
    cases restarts : resets a with
    | true => simp [keysOf, IsLeast, lowerBounds]
    | false =>
      have earlier : list.any resets := by simpa [restarts] using reset
      exact isLeast_keysOf_append (inductionHypothesis earlier) a

/-- Without a restart the accumulator is the minimum of the start value and all keys. -/
theorem foldl_resettingMin_of_none (resets : α → Bool) (key : α → β) (list : List α) (start : β)
    (none : list.any resets = false) :
    IsLeast (insert start (keysOf key list)) (list.foldl (resettingMin resets key) start) := by
  induction list using List.reverseRecOn with
  | nil => simp [keysOf]
  | append_singleton list a inductionHypothesis =>
    simp only [List.any_append, List.any_cons, List.any_nil, Bool.or_false, Bool.or_eq_false_iff] at none
    obtain ⟨member, lower⟩ := inductionHypothesis none.1
    rw [List.foldl_append, List.foldl_cons, List.foldl_nil, resettingMin, none.2]
    simp only [Bool.false_eq_true, if_false]
    constructor
    · rcases min_choice (list.foldl (resettingMin resets key) start) (key a) with chosen | chosen
      · rw [chosen]
        rcases member with isStart | ⟨b, memberB, attains⟩
        · exact .inl isStart
        · exact .inr ⟨b, by simp [memberB], attains⟩
      · rw [chosen]
        exact .inr ⟨a, by simp, rfl⟩
    · rintro value (isStart | ⟨b, memberB, rfl⟩)
      · exact (min_le_left _ _).trans (lower (.inl isStart))
      · rcases List.mem_append.mp memberB with inList | isLast
        · exact (min_le_left _ _).trans (lower (.inr ⟨b, inList, rfl⟩))
        · rw [List.mem_singleton.mp isLast]
          exact min_le_right _ _

theorem sinceLast_of_none (resets : α → Bool) (list : List α) (none : list.any resets = false) :
    sinceLast resets list = list := by
  cases list with
  | nil => rfl
  | cons head tail =>
    simp only [List.any_cons, Bool.or_eq_false_iff] at none
    simp [sinceLast, none.2]

/-- The accumulator is the least key since the last restart exactly when some element restarts it or
some key is at most the start value. -/
theorem foldl_resettingMin_isLeast_iff (resets : α → Bool) (key : α → β) (list : List α) (start : β) :
    IsLeast (keysOf key (sinceLast resets list)) (list.foldl (resettingMin resets key) start) ↔
      list.any resets ∨ ∃ a ∈ list, key a ≤ start := by
  cases reset : list.any resets with
  | true => simp [foldl_resettingMin_of_reset resets key list start reset]
  | false =>
    obtain ⟨member, lower⟩ := foldl_resettingMin_of_none resets key list start reset
    simp only [sinceLast_of_none resets list reset, Bool.false_eq_true, false_or]
    constructor
    · rintro ⟨⟨a, memberA, attains⟩, -⟩
      exact ⟨a, memberA, attains ▸ lower (.inl rfl)⟩
    · rintro ⟨a, memberA, small⟩
      refine ⟨?_, fun value inKeys => lower (.inr inKeys)⟩
      rcases member with isStart | inKeys
      · -- the start value is the minimum, so the key below it equals it
        have bound := lower (.inr ⟨a, memberA, rfl⟩)
        rw [isStart] at bound ⊢
        exact ⟨a, memberA, le_antisymm small bound⟩
      · exact inKeys

end Utiputils.Lib
