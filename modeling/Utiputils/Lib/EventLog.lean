import Mathlib.Data.List.Induction

/-! # Laws of a log

A law says of each entry of a log what it takes behind the entries before it. A log that grows at its end stays lawful
if the new entries are. A register is set and cleared by the entries of a log. -/

namespace Utiputils.Lib

variable {ε : Type}

/-- Every entry is as it has to be behind those before it. -/
def Law (lawful : List ε → ε → Prop) (log : List ε) : Prop :=
  ∀ before entry after, log = before ++ entry :: after → lawful before entry

variable {lawful : List ε → ε → Prop} {log : List ε}

theorem law_nil : Law lawful [] := by
  intro before entry after split
  cases before <;> cases split

theorem law_concat {entry : ε} : Law lawful (log ++ [entry]) ↔ Law lawful log ∧ lawful log entry := by
  constructor
  · intro law
    refine ⟨fun before earlier after split => ?_, law log entry [] rfl⟩
    exact law before earlier (after ++ [entry]) (by rw [split, List.append_assoc, List.cons_append])
  · intro both before earlier after split
    obtain ⟨law, last⟩ := both
    cases after using List.reverseRecOn with
    | nil =>
      obtain ⟨rfl, same⟩ := List.append_inj' split rfl
      cases same
      exact last
    | append_singleton after other =>
      rw [← List.cons_append, ← List.append_assoc] at split
      obtain ⟨rfl, -⟩ := List.append_inj' split rfl
      exact law before earlier after rfl

/-- Entries that are lawful anywhere. -/
theorem law_append {more : List ε} (free : ∀ before, ∀ entry ∈ more, lawful before entry) :
    Law lawful (log ++ more) ↔ Law lawful log := by
  induction more using List.reverseRecOn with
  | nil => rw [List.append_nil]
  | append_singleton more entry inductionHypothesis =>
    have later := inductionHypothesis fun before earlier member =>
      free before earlier (List.mem_append_left _ member)
    rw [← List.append_assoc, law_concat, later]
    exact and_iff_left (free _ entry (List.mem_append_right _ (List.mem_singleton_self entry)))

/-- What a new entry adds to what is read off a log. -/
theorem filterMap_concat {α : Type} (reads : ε → Option α) (log : List ε) (entry : ε) :
    (log ++ [entry]).filterMap reads = log.filterMap reads ++ (reads entry).toList := by
  rw [List.filterMap_append]
  cases read : reads entry with
  | none => simp [read]
  | some value => simp [read]

/-! ## Registers -/

section

variable {α : Type} {sets : ε → Option (Option α)}

/-- What a log leaves in a register: an entry sets it, clears it, or does neither. -/
def register (sets : ε → Option (Option α)) (log : List ε) : Option α :=
  log.foldl (fun held entry => (sets entry).getD held) none

theorem register_concat (log : List ε) (entry : ε) :
    register sets (log ++ [entry]) = (sets entry).getD (register sets log) := by
  rw [register, List.foldl_append]
  rfl

/-- What is in the register was put there by an entry behind which none has touched it. -/
theorem register_eq_some {value : α} (held : register sets log = some value) :
    ∃ front entry rest, log = front ++ entry :: rest ∧ sets entry = some (some value) ∧
      ∀ later ∈ rest, sets later = none := by
  induction log using List.reverseRecOn with
  | nil => cases held
  | append_singleton log entry inductionHypothesis =>
    rw [register_concat] at held
    cases set : sets entry with
    | some new =>
      rw [set] at held
      exact ⟨log, entry, [], rfl, by rw [set]; exact congrArg some held, fun _ member => absurd member List.not_mem_nil⟩
    | none =>
      rw [set] at held
      obtain ⟨front, setter, rest, rfl, isSet, untouched⟩ := inductionHypothesis held
      refine ⟨front, setter, rest ++ [entry], by rw [List.append_assoc, List.cons_append], isSet, fun later member => ?_⟩
      obtain earlier | last := List.mem_append.mp member
      · exact untouched later earlier
      · rw [List.mem_singleton.mp last, set]

end

end Utiputils.Lib
