import Utiputils.Lib.Proc

/-! # Processes that can fail

A process that returns with a value or an error, in the error monad over `Proc`. The rules speak of one
postcondition for the value; where the process fails or stops, one and the same condition holds. -/

namespace Utiputils.Lib

abbrev Fallible (σ ε α : Type) := ExceptT ε (Proc σ) α

namespace Fallible

open Proc

variable {σ ε ε' α β : Type}

/-- What the error of a process is made into. -/
def mapError (change : ε → ε') (process : Fallible σ ε α) : Fallible σ ε' α := ExceptT.adapt change process

/-- Started where `pre` holds, the process succeeds where `post` holds, or it fails or stops where `broken` does. -/
def Tries (pre : σ → Prop) (process : Fallible σ ε α) (post : α → σ → Prop) (broken : σ → Prop) : Prop :=
  Triple pre process.run
    (fun result state => match result with
      | .ok value => post value state
      | .error _ => broken state)
    broken

variable {pre pre' : σ → Prop} {post post' : α → σ → Prop} {broken : σ → Prop}

theorem tries_conseq {process : Fallible σ ε α} (spec : Tries pre' process post' broken)
    (weaker : ∀ state, pre state → pre' state) (stronger : ∀ value state, post' value state → post value state) :
    Tries pre process post broken := by
  refine triple_conseq spec weaker fun result state reached => ?_
  cases result with
  | ok value => exact stronger value state reached
  | error failure => exact reached

/-- Less may be claimed of the states in which the process fails or stops. -/
theorem tries_broken {process : Fallible σ ε α} {broken' : σ → Prop} (spec : Tries pre process post broken')
    (weaker : ∀ state, broken' state → broken state) : Tries pre process post broken := by
  refine triple_stopped (triple_conseq spec (fun _ holds => holds) fun result state reached => ?_) weaker
  cases result with
  | ok value => exact reached
  | error failure => exact weaker state reached

theorem tries_pure {value : α} (established : ∀ state, pre state → post value state) :
    Tries pre (pure value : Fallible σ ε α) post broken :=
  triple_pure established

theorem tries_throw {failure : ε} (established : ∀ state, pre state → broken state) :
    Tries pre (throw failure : Fallible σ ε α) post broken :=
  triple_pure established

theorem tries_bind {process : Fallible σ ε α} {next : α → Fallible σ ε β} {middle : α → σ → Prop}
    {final : β → σ → Prop} (first : Tries pre process middle broken)
    (second : ∀ value, Tries (middle value) (next value) final broken) :
    Tries pre (process >>= next) final broken := by
  refine triple_bind first fun result => ?_
  cases result with
  | ok value => exact second value
  | error failure => exact triple_pure fun _ reached => reached

/-- A fact that does not depend on the state is a hypothesis. -/
theorem tries_given {fact : Prop} {process : Fallible σ ε α} (spec : fact → Tries pre process post broken) :
    Tries (fun state => pre state ∧ fact) process post broken :=
  fun state ⟨holds, given⟩ => spec given state holds

/-- A process that cannot fail. -/
theorem tries_lift {process : Proc σ α} (spec : Triple pre process post broken) :
    Tries pre (ExceptT.lift process : Fallible σ ε α) post broken :=
  triple_bind spec fun _ => triple_pure fun _ reached => reached

/-- A process that says itself whether it failed. -/
theorem tries_mk {process : Proc σ (Except ε α)}
    (spec : Triple pre process (fun result state => match result with
      | .ok value => post value state
      | .error _ => broken state) broken) : Tries pre (ExceptT.mk process) post broken :=
  spec

theorem tries_mapError {process : Fallible σ ε α} {change : ε → ε'} (spec : Tries pre process post broken) :
    Tries pre (process.mapError change) post broken := by
  show Triple pre (Except.mapError change <$> process.run) _ broken
  rw [map_eq_pure_bind]
  refine triple_bind spec fun result => ?_
  cases result with
  | ok value => exact triple_pure fun _ reached => reached
  | error failure => exact triple_pure fun _ reached => reached

/-- What two specifications say of one process. -/
theorem tries_and {process : Fallible σ ε α} {broken' : σ → Prop} (first : Tries pre process post broken)
    (second : Tries pre' process post' broken') :
    Tries (fun state => pre state ∧ pre' state) process (fun value state => post value state ∧ post' value state)
      fun state => broken state ∧ broken' state := by
  refine triple_conseq (triple_and first second) (fun _ holds => holds) fun result state reached => ?_
  cases result with
  | ok value => exact reached
  | error failure => exact reached

/-- The process for one who looks at the result. -/
theorem Tries.run {process : Fallible σ ε α} {final : Except ε α → σ → Prop} (spec : Tries pre process post broken)
    (succeeded : ∀ value state, post value state → final (.ok value) state)
    (failed : ∀ failure state, broken state → final (.error failure) state) :
    Triple pre process.run final broken := by
  refine triple_conseq spec (fun _ holds => holds) fun result state reached => ?_
  cases result with
  | ok value => exact succeeded value state reached
  | error failure => exact failed failure state reached

/-! ## Invariants -/

/-- The process keeps an invariant, whether it succeeds or fails, and succeeds only with a value of this kind. -/
def Upholds (invariant : σ → Prop) (process : Fallible σ ε α) (about : α → Prop) (stopped : σ → Prop) : Prop :=
  Triple invariant process.run (fun result state => invariant state ∧ ∀ value, result = .ok value → about value) stopped

section Upholds

variable {invariant stopped : σ → Prop} {about : α → Prop}

theorem upholds_pure {value : α} (holds : about value) :
    Upholds invariant (pure value : Fallible σ ε α) about stopped :=
  triple_pure fun _ kept => ⟨kept, fun _ same => Except.ok.inj same ▸ holds⟩

theorem upholds_throw {failure : ε} : Upholds invariant (throw failure : Fallible σ ε α) about stopped :=
  triple_pure fun _ kept => ⟨kept, fun _ contra => nomatch contra⟩

theorem upholds_bind {process : Fallible σ ε α} {next : α → Fallible σ ε β} {about' : β → Prop}
    (first : Upholds invariant process about stopped)
    (second : ∀ value, about value → Upholds invariant (next value) about' stopped) :
    Upholds invariant (process >>= next) about' stopped := by
  refine triple_bind first fun result => ?_
  cases result with
  | ok value =>
    intro state reached
    exact second value (reached.2 value rfl) state reached.1
  | error failure => exact triple_pure fun _ reached => ⟨reached.1, fun _ contra => nomatch contra⟩

theorem upholds_lift {process : Proc σ α}
    (spec : Triple invariant process (fun value state => invariant state ∧ about value) stopped) :
    Upholds invariant (ExceptT.lift process : Fallible σ ε α) about stopped :=
  triple_bind spec fun _ => triple_pure fun _ ⟨kept, holds⟩ => ⟨kept, fun _ same => Except.ok.inj same ▸ holds⟩

theorem upholds_mapError {process : Fallible σ ε α} {change : ε → ε'}
    (spec : Upholds invariant process about stopped) : Upholds invariant (process.mapError change) about stopped := by
  show Triple invariant (Except.mapError change <$> process.run) _ stopped
  rw [map_eq_pure_bind]
  refine triple_bind spec fun result => ?_
  cases result with
  | ok value => exact triple_pure fun _ reached => ⟨reached.1, fun _ same => reached.2 _ (Except.ok.inj same ▸ rfl)⟩
  | error failure => exact triple_pure fun _ reached => ⟨reached.1, fun _ contra => nomatch contra⟩

theorem Upholds.tries {process : Fallible σ ε α} (spec : Upholds invariant process about stopped)
    (weaker : ∀ state, stopped state → invariant state) :
    Tries invariant process (fun value state => about value ∧ invariant state) invariant := by
  refine triple_stopped (triple_conseq spec (fun _ holds => holds) fun result state reached => ?_) weaker
  cases result with
  | ok value => exact ⟨reached.2 value rfl, reached.1⟩
  | error failure => exact reached.1

end Upholds

theorem keeps_tryBind {invariant : σ → Prop} {process : Fallible σ ε α} {next : α → Fallible σ ε β}
    (first : Keeps invariant process.run) (second : ∀ value, Keeps invariant (next value).run) :
    Keeps invariant (process >>= next).run := by
  refine keeps_bind first fun result => ?_
  cases result with
  | ok value => exact second value
  | error failure => exact keeps_pure

/-! ## One run -/

section

variable {process : Fallible σ ε α} {state final : σ}

theorem Tries.ok {value : α} (spec : Tries pre process post broken) (holds : pre state)
    (returned : process.run state = .done (.ok value) final) : post value final := by
  have reached := spec state holds
  rw [returned] at reached
  exact reached

/-- A process that is never broken succeeds. -/
theorem Tries.succeeds (spec : Tries pre process post broken) (holds : pre state) (never : ∀ state, ¬ broken state) :
    ∃ value final, process.run state = .done (.ok value) final ∧ post value final := by
  have reached := spec state holds
  cases ended : process.run state with
  | done result final =>
    rw [ended] at reached
    cases result with
    | ok value => exact ⟨value, final, rfl, reached⟩
    | error failure => exact absurd reached (never final)
  | stopped final =>
    rw [ended] at reached
    exact absurd reached (never final)

theorem run_bind_ok {next : α → Fallible σ ε β} {value : α} (returned : process.run state = .done (.ok value) final) :
    (process >>= next).run state = (next value).run final := by
  show (process.run >>= ExceptT.bindCont next) state = _
  simp only [bind, returned]
  rfl

theorem run_bind_error {next : α → Fallible σ ε β} {failure : ε}
    (failed : process.run state = .done (.error failure) final) :
    (process >>= next).run state = .done (.error failure) final := by
  show (process.run >>= ExceptT.bindCont next) state = _
  simp only [bind, failed]
  rfl

theorem run_mapError {change : ε → ε'} {result : Except ε α} (returned : process.run state = .done result final) :
    (process.mapError change).run state = .done (result.mapError change) final := by
  show (Except.mapError change <$> process.run) state = _
  rw [map_eq_pure_bind]
  simp only [bind, returned]
  rfl

end

end Fallible

end Utiputils.Lib
