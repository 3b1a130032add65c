import Mathlib.Data.List.Pairwise

/-! # Histories

A history is a state with the events that led to it: each entry is an event and the state before it, the last event
first. A property of histories is stable when a step keeps it; the properties that a proof of a long run needs are
built here from what a single step does. -/

namespace Utiputils.Lib

variable {ε α : Type}

/-- The steps keep the property. -/
def Stable (step : ε → α → α → Prop) (property : List (ε × α) → α → Prop) : Prop :=
  ∀ past now event next, step event now next → property past now → property ((event, now) :: past) next

namespace Stable

variable {step : ε → α → α → Prop}

theorem and {first second : List (ε × α) → α → Prop} (stable : Stable step first) (stable' : Stable step second) :
    Stable step fun past now => first past now ∧ second past now :=
  fun past now event next goes holds =>
    ⟨stable past now event next goes holds.1, stable' past now event next goes holds.2⟩

theorem mono {step' : ε → α → α → Prop} {property : List (ε × α) → α → Prop} (stable : Stable step' property)
    (narrower : ∀ event now next, step event now next → step' event now next) : Stable step property :=
  fun past now event next goes => stable past now event next (narrower event now next goes)

/-- A fact about the state that each step keeps. -/
theorem now {fact : α → Prop} (kept : ∀ event now next, step event now next → fact now → fact next) :
    Stable step fun _ now => fact now :=
  fun _ now event next goes holds => kept event now next goes holds

/-- It has held all the time. -/
theorem always {fact : α → Prop} (kept : ∀ event now next, step event now next → fact now → fact next) :
    Stable step fun past now => fact now ∧ ∀ entry ∈ past, fact entry.2 := by
  intro past now event next goes holds
  refine ⟨kept event now next goes holds.1, fun entry member => ?_⟩
  cases member with
  | head => exact holds.1
  | tail _ member => exact holds.2 entry member

/-- A relation between every state and every later one. -/
theorem related {relation : α → α → Prop} (transitive : ∀ a b c, relation a b → relation b c → relation a c)
    (follows : ∀ event now next, step event now next → relation now next) :
    Stable step fun past now => (now :: past.map Prod.snd).Pairwise fun later earlier => relation earlier later := by
  intro past now event next goes holds
  have before := (List.pairwise_cons.mp holds).1
  refine List.pairwise_cons.mpr ⟨fun earlier member => ?_, holds⟩
  have last := follows event now next goes
  cases member with
  | head => exact last
  | tail _ member => exact transitive _ _ _ (before earlier member) last

/-- What an event establishes and no later step destroys. -/
theorem established {fact : ε → α → Prop} (kept : ∀ event now next, step event now next →
      (∀ earlier, fact earlier now → fact earlier next) ∧ fact event next) :
    Stable step fun past now => ∀ entry ∈ past, fact entry.1 now := by
  intro past now event next goes holds entry member
  obtain ⟨earlier, here⟩ := kept event now next goes
  cases member with
  | head => exact here
  | tail _ member => exact earlier _ (holds entry member)

end Stable

end Utiputils.Lib
