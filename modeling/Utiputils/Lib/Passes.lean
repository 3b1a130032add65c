import Mathlib.Data.Prod.Lex
import Mathlib.Order.Bounds.Basic

/-! # Searches in several passes

A list is searched once for each of several tests, and the first item that passes is taken. What such a search finds
is the least item in the order of (first test that it passes, position in the list). -/

namespace Utiputils.Lib

variable {Item : Type}

/-- Where the items stand that pass a test. -/
def positions (test : Item → Bool) (items : List Item) : Set Nat :=
  {position | ∃ item, items[position]? = some item ∧ test item = true}

theorem mem_positions {test : Item → Bool} {items : List Item} {position : Nat} :
    position ∈ positions test items ↔ ∃ item, items[position]? = some item ∧ test item = true :=
  Iff.rfl

theorem positions_eq_empty_iff {test : Item → Bool} {items : List Item} :
    positions test items = ∅ ↔ items.find? test = none := by
  rw [List.find?_eq_none, Set.eq_empty_iff_forall_notMem]
  constructor
  · intro none item member passes
    obtain ⟨position, found⟩ := List.mem_iff_getElem?.mp member
    exact none position ⟨item, found, passes⟩
  · intro none position ⟨item, found, passes⟩
    exact none item (List.mem_of_getElem? found) passes

theorem find_isLeast {test : Item → Bool} {items : List Item} (nonempty : (positions test items).Nonempty) :
    ∃ position, IsLeast (positions test items) position ∧ items.find? test = items[position]? := by
  cases found : items.find? test with
  | none => exact absurd (positions_eq_empty_iff.mpr found) nonempty.ne_empty
  | some item =>
    obtain ⟨passes, position, inside, isItem, before⟩ := List.find?_eq_some_iff_getElem.mp found
    have here : items[position]? = some item := List.getElem?_eq_some_iff.mpr ⟨inside, isItem⟩
    refine ⟨position, ⟨⟨item, here, passes⟩, ?_⟩, here.symm⟩
    rintro other ⟨otherItem, otherHere, otherPasses⟩
    by_contra earlier
    obtain ⟨_, isOther⟩ := List.getElem?_eq_some_iff.mp otherHere
    have fails := before other (by omega)
    simp [isOther, otherPasses] at fails

/-- One pass for each test. -/
def searchPasses (tests : List (Item → Bool)) (items : List Item) : Option Item :=
  tests.findSome? fun test => items.find? test

/-- The first test that an item passes, and where the item stands. -/
def passKeys (tests : List (Item → Bool)) (items : List Item) : Set (Nat ×ₗ Nat) :=
  {key | ∃ item, items[(ofLex key).2]? = some item ∧ tests.findIdx? (· item) = some (ofLex key).1}

theorem mem_passKeys {tests : List (Item → Bool)} {items : List Item} {pass position : Nat} :
    toLex (pass, position) ∈ passKeys tests items ↔
      ∃ item, items[position]? = some item ∧ tests.findIdx? (· item) = some pass :=
  Iff.rfl

variable (test : Item → Bool) (tests : List (Item → Bool)) {items : List Item} {pass position : Nat}

/-- The first pass may take what passes its test. -/
theorem mem_passKeys_zero : toLex (0, position) ∈ passKeys (test :: tests) items ↔ position ∈ positions test items := by
  simp only [mem_passKeys, mem_positions, List.findIdx?_cons]
  refine exists_congr fun item => and_congr_right fun _ => ?_
  cases test item <;> simp

/-- A later pass may take what the first leaves. -/
theorem mem_passKeys_succ (empty : positions test items = ∅) :
    toLex (pass + 1, position) ∈ passKeys (test :: tests) items ↔ toLex (pass, position) ∈ passKeys tests items := by
  simp only [mem_passKeys, List.findIdx?_cons]
  refine exists_congr fun item => and_congr_right fun found => ?_
  have fails : test item = false :=
    Bool.eq_false_of_not_eq_true fun passes => empty.le ⟨item, found, passes⟩
  simp [fails]

/-- What the first pass finds is the least of all. -/
theorem isLeast_first (least : IsLeast (positions test items) position) :
    IsLeast (passKeys (test :: tests) items) (toLex (0, position)) := by
  refine ⟨(mem_passKeys_zero test tests).mpr least.1, ?_⟩
  rintro ⟨pass, other⟩ member
  apply Prod.Lex.toLex_le_toLex.mpr
  cases pass with
  | zero => exact .inr ⟨rfl, least.2 ((mem_passKeys_zero test tests).mp member)⟩
  | succ pass => exact .inl (Nat.succ_pos pass)

/-- A pass that finds nothing moves the others one further. -/
theorem isLeast_later (empty : positions test items = ∅)
    (least : IsLeast (passKeys tests items) (toLex (pass, position))) :
    IsLeast (passKeys (test :: tests) items) (toLex (pass + 1, position)) := by
  refine ⟨(mem_passKeys_succ test tests empty).mpr least.1, ?_⟩
  rintro ⟨otherPass, other⟩ member
  cases otherPass with
  | zero => exact absurd ((mem_passKeys_zero test tests).mp member) (empty ▸ Set.notMem_empty other)
  | succ otherPass =>
    have bound := Prod.Lex.toLex_le_toLex.mp (least.2 ((mem_passKeys_succ test tests empty).mp member))
    exact Prod.Lex.toLex_le_toLex.mpr (by simpa using bound)

theorem searchPasses_isLeast (tests : List (Item → Bool)) {items : List Item}
    (nonempty : (passKeys tests items).Nonempty) :
    ∃ key, IsLeast (passKeys tests items) key ∧ searchPasses tests items = items[(ofLex key).2]? := by
  induction tests with
  | nil =>
    obtain ⟨key, item, _, passes⟩ := nonempty
    simp at passes
  | cons test tests inductionHypothesis =>
    rw [searchPasses, List.findSome?_cons]
    -- a hit of this pass is the least key there is; without one the later passes decide
    by_cases first : (positions test items).Nonempty
    · obtain ⟨position, least, found⟩ := find_isLeast first
      obtain ⟨item, here, _⟩ := mem_positions.mp least.1
      refine ⟨_, isLeast_first test tests least, ?_⟩
      rw [found, here]
      exact here.symm
    · have empty := Set.not_nonempty_iff_eq_empty.mp first
      have remaining : (passKeys tests items).Nonempty := by
        obtain ⟨⟨pass, position⟩, member⟩ := nonempty
        cases pass with
        | zero => exact absurd ⟨position, (mem_passKeys_zero test tests).mp member⟩ first
        | succ pass => exact ⟨_, (mem_passKeys_succ test tests empty).mp member⟩
      obtain ⟨⟨pass, position⟩, least, found⟩ := inductionHypothesis remaining
      refine ⟨_, isLeast_later test tests empty least, ?_⟩
      rw [positions_eq_empty_iff.mp empty]
      exact found

theorem searchPasses_eq_none_iff {tests : List (Item → Bool)} {items : List Item} :
    searchPasses tests items = none ↔ passKeys tests items = ∅ := by
  constructor
  · intro none
    by_contra nonempty
    obtain ⟨key, ⟨⟨item, here, _⟩, _⟩, found⟩ := searchPasses_isLeast tests (Set.nonempty_iff_ne_empty.mpr nonempty)
    rw [here, none] at found
    cases found
  · intro empty
    simp only [searchPasses, List.findSome?_eq_none_iff, List.find?_eq_none]
    intro test isTest item member passes
    obtain ⟨position, here⟩ := List.mem_iff_getElem?.mp member
    have taken : (tests.findIdx? (· item)).isSome = true := by
      rw [List.findIdx?_isSome, List.any_eq_true]
      exact ⟨test, isTest, passes⟩
    obtain ⟨pass, first⟩ := Option.isSome_iff_exists.mp taken
    exact empty.le (mem_passKeys.mpr ⟨item, here, first⟩)

end Utiputils.Lib
