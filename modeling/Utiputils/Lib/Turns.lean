import Utiputils.Lib.Proc

/-! # The turns of a loop

The points of a loop without a bound at which a turn begins. They say whether the loop ends, and where,
and what holds of all of them holds throughout. -/

namespace Utiputils.Lib.Proc

variable {σ α β γ : Type} {body : β → Proc σ (Turn β γ)}

/-- A process that does not stop finishes. -/
theorem Triple.done {process : Proc σ α} {pre : σ → Prop} {post : α → σ → Prop}
    (spec : Triple pre process post fun _ => False) {state : σ} (holds : pre state) :
    ∃ value final, process state = .done value final ∧ post value final := by
  have reached := spec state holds
  cases finished : process state with
  | done value final =>
    rw [finished] at reached
    exact ⟨value, final, rfl, reached⟩
  | stopped final =>
    rw [finished] at reached
    exact reached.elim

/-- What is known of a process from one state is what it does there. -/
theorem triple_of_done {process : Proc σ α} {start final : σ} {value : α} {stopped : σ → Prop}
    (finishes : process start = .done value final) :
    Triple (fun state => state = start) process (fun result state => result = value ∧ state = final) stopped := by
  intro state same
  rw [same, finishes]
  exact ⟨rfl, rfl⟩

/-- What comes behind a process that finishes. -/
theorem bind_of_done {process : Proc σ α} {next : α → Proc σ β} {state between : σ} {value : α}
    (finishes : process state = .done value between) : (process >>= next) state = next value between := by
  simp only [bind]
  rw [finishes]

/-- A turn leads from what is carried and the state there to those of the next turn. -/
def GoesOn (body : β → Proc σ (Turn β γ)) (before after : β × σ) : Prop :=
  body before.1 before.2 = .done (.next after.1) after.2

/-- The loop comes from the one turn to the other. -/
def Reaches (body : β → Proc σ (Turn β γ)) : β × σ → β × σ → Prop := Relation.ReflTransGen (GoesOn body)

theorem forever_of_goesOn {before after : β × σ} (goesOn : GoesOn body before after) (fuel : Nat) :
    forever body (fuel + 1) before.1 before.2 = forever body fuel after.1 after.2 := by
  simp only [forever, bind]
  rw [goesOn]

theorem forever_done_of_reaches {start head : β × σ} (reaches : Reaches body start head) {result : γ} {final : σ}
    (leaves : body head.1 head.2 = .done (.exit result) final) :
    ∃ fuel, forever body fuel start.1 start.2 = .done result final := by
  induction reaches using Relation.ReflTransGen.head_induction_on with
  | refl =>
    refine ⟨1, ?_⟩
    simp only [forever, bind]
    rw [leaves]
    rfl
  | head goesOn _ inductionHypothesis =>
    obtain ⟨fuel, ends⟩ := inductionHypothesis
    exact ⟨fuel + 1, (forever_of_goesOn goesOn fuel).trans ends⟩

/-- The loop ends where it reaches a turn that leaves it. -/
theorem forever_done_iff {carried : β} {state : σ} {result : γ} {final : σ} :
    (∃ fuel, forever body fuel carried state = .done result final) ↔
      ∃ head, Reaches body (carried, state) head ∧ body head.1 head.2 = .done (.exit result) final := by
  constructor
  · intro ends
    obtain ⟨fuel, ends⟩ := ends
    -- the fuel that was enough bounds the number of turns
    induction fuel generalizing carried state with
    | zero => cases ends
    | succ fuel inductionHypothesis =>
      simp only [forever, bind] at ends
      cases turned : body carried state with
      | stopped cut =>
        rw [turned] at ends
        cases ends
      | done turn between =>
        rw [turned] at ends
        cases turn with
        | next following =>
          have goesOn : GoesOn body (carried, state) (following, between) := turned
          obtain ⟨head, reaches, leaves⟩ := inductionHypothesis ends
          exact ⟨head, reaches.head goesOn, leaves⟩
        | exit given =>
          cases ends
          exact ⟨(carried, state), .refl, turned⟩
  · intro leaves
    obtain ⟨head, reaches, leaves⟩ := leaves
    exact forever_done_of_reaches reaches leaves

/-- What every turn preserves holds wherever the loop comes. -/
theorem Reaches.invariant {start head : β × σ} (reaches : Reaches body start head) (holds : β × σ → Prop)
    (initially : holds start) (step : ∀ before after, Reaches body start before → GoesOn body before after →
      holds before → holds after) : holds head := by
  induction reaches with
  | refl => exact initially
  | tail reaches goesOn inductionHypothesis => exact step _ _ reaches goesOn inductionHypothesis

/-- A loop ends when each of its turns leaves it or lowers a measure. -/
theorem ends_of_measure {holds : β × σ → Prop} {leaves : γ → σ → Prop} (measure : β × σ → Nat)
    (progress : ∀ head, holds head →
      (∃ result final, body head.1 head.2 = .done (.exit result) final ∧ leaves result final) ∨
      ∃ after, GoesOn body head after ∧ holds after ∧ measure after < measure head)
    {start : β × σ} (initially : holds start) :
    ∃ fuel result final, forever body fuel start.1 start.2 = .done result final ∧ leaves result final := by
  induction bound : measure start using Nat.strong_induction_on generalizing start with
  | _ bound inductionHypothesis =>
    rcases progress start initially with ⟨result, final, left, outcome⟩ | ⟨after, goesOn, held, lower⟩
    · obtain ⟨fuel, ends⟩ := forever_done_of_reaches .refl left
      exact ⟨fuel, result, final, ends, outcome⟩
    · obtain ⟨fuel, result, final, ends, outcome⟩ := inductionHypothesis (measure after) (bound ▸ lower) held rfl
      exact ⟨fuel + 1, result, final, (forever_of_goesOn goesOn fuel).trans ends, outcome⟩

/-! ## The turns of a run -/

/-- The turns that the loop takes, in their order. -/
def turns (body : β → Proc σ (Turn β γ)) : Nat → β → σ → List (β × σ)
  | 0, _, _ => []
  | fuel + 1, carried, state =>
    (carried, state) ::
      match body carried state with
      | .done (.next following) between => turns body fuel following between
      | _ => []

/-- The invariant of a loop may speak of the turns that have been taken. -/
theorem triple_forever_turns {body : β → Proc σ (Turn β γ)} (invariant : List (β × σ) → β → σ → Prop)
    {final : List (β × σ) → γ → σ → Prop} {stopped : List (β × σ) → σ → Prop}
    (step : ∀ past carried start, invariant past carried start →
      Triple (fun state => state = start) (body carried)
        (Turn.post (invariant (past ++ [(carried, start)])) (final (past ++ [(carried, start)])))
        (stopped (past ++ [(carried, start)])))
    (cut : ∀ past carried state, invariant past carried state → stopped past state) (fuel : Nat)
    {past : List (β × σ)} {carried : β} {start : σ} (holds : invariant past carried start) :
    Triple (fun state => state = start) (forever body fuel carried)
      (final (past ++ turns body fuel carried start)) (stopped (past ++ turns body fuel carried start)) := by
  induction fuel generalizing past carried start with
  | zero =>
    rw [turns, List.append_nil]
    exact triple_stop fun state same => same ▸ cut past carried start holds
  | succ fuel inductionHypothesis =>
    have turned := step past carried start holds start rfl
    intro state same
    rw [same]
    simp only [forever, bind, turns]
    cases ran : body carried start with
    | stopped between =>
      rw [ran] at turned
      exact turned
    | done turn between =>
      rw [ran] at turned
      cases turn with
      | exit result => exact turned
      | next following =>
        have later := inductionHypothesis turned between rfl
        rw [List.append_assoc, List.singleton_append] at later
        exact later

end Utiputils.Lib.Proc
