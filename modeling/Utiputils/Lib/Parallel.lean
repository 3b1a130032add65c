import Utiputils.Lib.Proc

/-! # Two runs in parallel

Two runs of one process from related states. They end alike and stay related until the first of them is past a point;
what happens beyond it is not compared. -/

namespace Utiputils.Lib

/-- Both ends are with the same value, or both are stops, in related states. -/
def Outcome.Paired {σ α : Type} (related : σ → σ → Prop) : Outcome σ α → Outcome σ α → Prop
  | .done value first, .done other second => value = other ∧ related first second
  | .stopped first, .stopped second => related first second
  | .done _ _, .stopped _ => False
  | .stopped _, .done _ _ => False

theorem Outcome.Paired.state {σ α : Type} {related : σ → σ → Prop} {first second : Outcome σ α}
    (paired : first.Paired related second) : related first.state second.state := by
  cases first <;> cases second
  · exact paired.2
  · exact paired.elim
  · exact paired.elim
  · exact paired

namespace Proc

variable {σ α β γ : Type} {related : σ → σ → Prop} {past : σ → Prop}

structure Parallel (related : σ → σ → Prop) (past : σ → Prop) (process : Proc σ α) : Prop where
  /-- what is past stays past -/
  persists : ∀ state, past state → past (process state).state
  paired : ∀ first second, related first second →
    past (process first).state ∨ (process first).Paired related (process second)

theorem parallel_pure {value : α} : Parallel related past (pure value : Proc σ α) where
  persists _ isPast := isPast
  paired _ _ alike := .inr ⟨rfl, alike⟩

theorem parallel_stop : Parallel related past (stop : Proc σ α) where
  persists _ isPast := isPast
  paired _ _ alike := .inr alike

theorem parallel_modifyGet {change : σ → α × σ} (persists : ∀ state, past state → past (change state).2)
    (same : ∀ first second, related first second → (change first).1 = (change second).1)
    (kept : ∀ first second, related first second → related (change first).2 (change second).2) :
    Parallel related past (modifyGet change) where
  persists := persists
  paired first second alike := .inr ⟨same first second alike, kept first second alike⟩

theorem parallel_bind {process : Proc σ α} {next : α → Proc σ β} (first : Parallel related past process)
    (second : ∀ value, Parallel related past (next value)) : Parallel related past (process >>= next) where
  persists state isPast := by
    have between := first.persists state isPast
    simp only [bind]
    cases finished : process state with
    | done value middle =>
      rw [finished] at between
      exact (second value).persists middle between
    | stopped middle =>
      rw [finished] at between
      exact between
  paired start other alike := by
    have paired := first.paired start other alike
    simp only [bind]
    cases finished : process start with
    | done value middle =>
      rw [finished] at paired
      rcases paired with isPast | paired
      · exact .inl ((second value).persists middle isPast)
      · cases finished' : process other with
        | done value' middle' =>
          rw [finished'] at paired
          obtain ⟨rfl, alike⟩ := paired
          exact (second value).paired middle middle' alike
        | stopped middle' =>
          rw [finished'] at paired
          exact paired.elim
    | stopped middle =>
      rw [finished] at paired
      cases finished' : process other with
      | done value' middle' =>
        rw [finished'] at paired
        exact paired.imp_right False.elim
      | stopped middle' =>
        rw [finished'] at paired
        exact paired

/-- A look at the state that sees the same in related states. -/
theorem parallel_get_bind {next : σ → Proc σ α} (same : ∀ first second, related first second → next first = next second)
    (parallel : ∀ seen, Parallel related past (next seen)) : Parallel related past (get >>= next) where
  persists state isPast := (parallel state).persists state isPast
  paired first second alike := by
    have paired := (parallel first).paired first second alike
    rw [same first second alike] at paired
    simp only [bind, get]
    rwa [same first second alike]

theorem parallel_forever {body : β → Proc σ (Turn β γ)} (parallel : ∀ carried, Parallel related past (body carried))
    (fuel : Nat) (carried : β) : Parallel related past (forever body fuel carried) := by
  induction fuel generalizing carried with
  | zero => exact parallel_stop
  | succ fuel inductionHypothesis =>
    refine parallel_bind (parallel carried) fun turn => ?_
    cases turn with
    | next carried => exact inductionHypothesis carried
    | exit result => exact parallel_pure

theorem parallel_forRange {body : Nat → β → Proc σ (Turn β γ)}
    (parallel : ∀ index carried, Parallel related past (body index carried)) (start count : Nat) (carried : β) :
    Parallel related past (forRange body start count carried) := by
  induction count generalizing start carried with
  | zero => exact parallel_pure
  | succ count inductionHypothesis =>
    refine parallel_bind (parallel start carried) fun turn => ?_
    cases turn with
    | next carried => exact inductionHypothesis (start + 1) carried
    | exit result => exact parallel_pure

end Proc

end Utiputils.Lib
