import Mathlib.Data.List.Basic

/-! # Streams with insertions

A stream into which items of another kind were inserted is a list of a sum type: `own` is the stream
without them, `arriving` with them. A reader that passes over some items and returns at the first of the
others is `List.findSome?` of what it makes of one item. -/

namespace Utiputils.Lib

variable {α β γ : Type}

/-- The stream without the insertions. -/
def own (merged : List (α ⊕ β)) : List α := merged.filterMap Sum.getLeft?

/-- The stream with them. -/
def arriving (arrival : β → α) (merged : List (α ⊕ β)) : List α := merged.map (Sum.elim id arrival)

section

variable (arrival : β → α) (item : α) (inserted : β) (merged : List (α ⊕ β))

@[simp] theorem own_inl : own (.inl item :: merged) = item :: own merged := rfl

@[simp] theorem own_inr : own (.inr inserted :: merged) = own merged := rfl

@[simp] theorem arriving_inl : arriving arrival (.inl item :: merged) = item :: arriving arrival merged := rfl

@[simp] theorem arriving_inr :
    arriving arrival (.inr inserted :: merged) = arrival inserted :: arriving arrival merged := rfl

end

/-- Insertions that are filtered out do not show. -/
theorem filter_arriving (arrival : β → α) (keep : α → Bool) (merged : List (α ⊕ β))
    (dropped : ∀ inserted, .inr inserted ∈ merged → keep (arrival inserted) = false) :
    (arriving arrival merged).filter keep = (own merged).filter keep := by
  induction merged with
  | nil => rfl
  | cons head merged inductionHypothesis =>
    have later := inductionHypothesis fun inserted member => dropped inserted (List.mem_cons_of_mem _ member)
    cases head with
    | inl item => simp only [arriving_inl, own_inl, List.filter_cons, later]
    | inr inserted =>
      have out := dropped inserted List.mem_cons_self
      simp only [arriving_inr, own_inr, List.filter_cons, out, later, Bool.false_eq_true, if_false]

theorem own_sublist_arriving (arrival : β → α) (merged : List (α ⊕ β)) :
    (own merged).Sublist (arriving arrival merged) := by
  induction merged with
  | nil => exact List.Sublist.slnil
  | cons head merged inductionHypothesis =>
    cases head with
    | inl item => exact inductionHypothesis.cons_cons item
    | inr inserted => exact inductionHypothesis.cons (arrival inserted)

section

variable (arrival : β → α) (verdict : α → Option γ)

/-- The first insertion that the reader would stop at, when nothing ahead of it stops it, makes it return what it
returns behind it anyway. -/
def Unnoticed (merged : List (α ⊕ β)) : Prop :=
  ∀ ahead inserted behind, merged = ahead ++ .inr inserted :: behind →
    (∀ item ∈ arriving arrival ahead, verdict item = none) →
    verdict (arrival inserted) = none ∨ verdict (arrival inserted) = (own behind).findSome? verdict

variable {arrival verdict} {merged : List (α ⊕ β)}

theorem unnoticed_nil : Unnoticed arrival verdict ([] : List (α ⊕ β)) := by
  intro ahead inserted behind split
  exact absurd split (by simp)

/-- Behind an item that is passed over, the rest decides. -/
theorem Unnoticed.tail {head : α ⊕ β} (unnoticed : Unnoticed arrival verdict (head :: merged))
    (passed : verdict (head.elim id arrival) = none) : Unnoticed arrival verdict merged := by
  intro ahead inserted behind split skipped
  apply unnoticed (head :: ahead) inserted behind (by rw [split, List.cons_append])
  rw [arriving, List.map_cons, List.forall_mem_cons]
  exact ⟨passed, skipped⟩

/-- A split of the longer stream is at its head, or it is a split of the rest. -/
theorem unnoticed_inl {item : α} (rest : verdict item = none → Unnoticed arrival verdict merged) :
    Unnoticed arrival verdict (.inl item :: merged) := by
  intro ahead inserted behind split skipped
  cases ahead with
  | nil => cases split
  | cons first ahead =>
    cases split
    exact rest (skipped _ List.mem_cons_self) ahead inserted behind rfl fun other member =>
      skipped other (List.mem_cons_of_mem _ member)

theorem unnoticed_inr {inserted : β}
    (here : verdict (arrival inserted) = none ∨ verdict (arrival inserted) = (own merged).findSome? verdict)
    (rest : verdict (arrival inserted) = none → Unnoticed arrival verdict merged) :
    Unnoticed arrival verdict (.inr inserted :: merged) := by
  intro ahead other behind split skipped
  cases ahead with
  | nil =>
    cases split
    exact here
  | cons first ahead =>
    cases split
    exact rest (skipped _ List.mem_cons_self) ahead other behind rfl fun item member =>
      skipped item (List.mem_cons_of_mem _ member)

end

/-- The reader returns the same with and without the insertions exactly if none of them is noticed. -/
theorem findSome?_arriving_eq_iff (arrival : β → α) (verdict : α → Option γ) (merged : List (α ⊕ β)) :
    (arriving arrival merged).findSome? verdict = (own merged).findSome? verdict ↔
      ∀ ahead inserted behind, merged = ahead ++ .inr inserted :: behind →
        (∀ item ∈ arriving arrival ahead, verdict item = none) →
        verdict (arrival inserted) = none ∨
          verdict (arrival inserted) = (own behind).findSome? verdict := by
  change _ ↔ Unnoticed arrival verdict merged
  induction merged with
  | nil => exact ⟨fun _ => unnoticed_nil, fun _ => rfl⟩
  | cons head merged inductionHypothesis =>
    cases head with
    | inl item =>
      simp only [arriving_inl, own_inl, List.findSome?_cons]
      cases stops : verdict item with
      | some value => exact ⟨fun _ => unnoticed_inl fun passed => by simp [stops] at passed, fun _ => rfl⟩
      | none => exact ⟨fun same => unnoticed_inl fun _ => inductionHypothesis.mp same,
          fun unnoticed => inductionHypothesis.mpr (unnoticed.tail stops)⟩
    | inr inserted =>
      simp only [arriving_inr, own_inr, List.findSome?_cons]
      cases stops : verdict (arrival inserted) with
      | some value =>
        -- the reader stops here, so only what the own stream gives can be equal to it
        constructor
        · intro same
          exact unnoticed_inr (.inr (stops.trans same)) fun passed => by simp [stops] at passed
        · intro unnoticed
          have here := unnoticed [] inserted merged rfl fun _ member => absurd member List.not_mem_nil
          rw [stops] at here
          exact here.resolve_left (Option.some_ne_none value)
      | none => exact ⟨fun same => unnoticed_inr (.inl stops) fun _ => inductionHypothesis.mp same,
          fun unnoticed => inductionHypothesis.mpr (unnoticed.tail stops)⟩

end Utiputils.Lib
