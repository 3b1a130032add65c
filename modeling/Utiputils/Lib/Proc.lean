import Mathlib

/-! # Processes and their triples

A process transforms a state and finishes with a value, or it stops for good on the way: it exits, it
panics, it blocks for ever, or the fuel of a loop runs out, which cuts a longer run short. The state in
which it stopped is kept, so that what holds of the unfinished run can be stated as well.

A triple has a postcondition for either end. Its rules follow the constructs: `triple_bind` for
sequencing, `triple_forever` and `triple_forRange` for the two kinds of loops. -/

namespace Utiputils.Lib

inductive Outcome (σ α : Type) where
  | done (value : α) (state : σ)
  | stopped (state : σ)

namespace Outcome

def state {σ α : Type} : Outcome σ α → σ
  | done _ state => state
  | stopped state => state

/-- The value with which it finished. -/
def value? {σ α : Type} : Outcome σ α → Option α
  | done value _ => some value
  | stopped _ => none

/-- The process finished. -/
def isDone {σ α : Type} : Outcome σ α → Bool
  | done _ _ => true
  | stopped _ => false

/-- The same end in a changed state. -/
def map {σ α : Type} (change : σ → σ) : Outcome σ α → Outcome σ α
  | done value state => done value (change state)
  | stopped state => stopped (change state)

end Outcome

def Proc (σ α : Type) : Type := σ → Outcome σ α

namespace Proc

variable {σ α β γ : Type}

instance : Monad (Proc σ) where
  pure value := fun state => .done value state
  bind process next := fun state =>
    match process state with
    | .done value state => next value state
    | .stopped state => .stopped state

instance : LawfulMonad (Proc σ) := LawfulMonad.mk' _
  (fun process => funext fun state => by
    simp only [Functor.map]
    cases process state <;> rfl)
  (fun _ _ => rfl)
  (fun process _ _ => funext fun state => by
    simp only [bind]
    cases process state <;> rfl)

def get : Proc σ σ := fun state => .done state state

def modify (change : σ → σ) : Proc σ Unit := fun state => .done () (change state)

/-- Reads a value off the state and updates the state. -/
def modifyGet (change : σ → α × σ) : Proc σ α := fun state => .done (change state).1 (change state).2

def stop : Proc σ α := fun state => .stopped state

/-- How the body of a loop ends: on to the next iteration, or out of the loop. -/
inductive Turn (β γ : Type) where
  | next (carried : β)
  | exit (result : γ)

/-- A postcondition for either end of the body. -/
def Turn.post (next : β → σ → Prop) (exit : γ → σ → Prop) : Turn β γ → σ → Prop
  | .next carried => next carried
  | .exit result => exit result

/-- A loop without a bound, cut when the fuel runs out. -/
def forever (body : β → Proc σ (Turn β γ)) : Nat → β → Proc σ γ
  | 0, _ => stop
  | fuel + 1, carried => do
    match ← body carried with
    | .next carried => forever body fuel carried
    | .exit result => pure result

/-- A loop over the range of `count` indices from `index` on. -/
def forRange (body : Nat → β → Proc σ (Turn β γ)) : (index count : Nat) → β → Proc σ (Turn β γ)
  | _, 0, carried => pure (.next carried)
  | index, count + 1, carried => do
    match ← body index carried with
    | .next carried => forRange body (index + 1) count carried
    | .exit result => pure (.exit result)

/-! ## Triples -/

/-- Started where `pre` holds, the process finishes where `post` holds of its value, or stops where
`stopped` holds. -/
def Triple (pre : σ → Prop) (process : Proc σ α) (post : α → σ → Prop) (stopped : σ → Prop) : Prop :=
  ∀ state, pre state →
    match process state with
    | .done value final => post value final
    | .stopped final => stopped final

variable {pre pre' : σ → Prop} {post post' : α → σ → Prop} {stopped : σ → Prop}

theorem triple_conseq {process : Proc σ α} (spec : Triple pre' process post' stopped)
    (weaker : ∀ state, pre state → pre' state) (stronger : ∀ value state, post' value state → post value state) :
    Triple pre process post stopped := by
  intro state holds
  have reached := spec state (weaker state holds)
  split
  next value final finished =>
    rw [finished] at reached
    exact stronger value final reached
  next final cut =>
    rw [cut] at reached
    exact reached

/-- Less may be claimed of the states in which the process stops. -/
theorem triple_stopped {process : Proc σ α} {stopped' : σ → Prop} (spec : Triple pre process post stopped')
    (stronger : ∀ state, stopped' state → stopped state) : Triple pre process post stopped := by
  intro state holds
  have reached := spec state holds
  split
  next value final finished =>
    rw [finished] at reached
    exact reached
  next final cut =>
    rw [cut] at reached
    exact stronger final reached

/-- What two specifications say of one process. -/
theorem triple_and {process : Proc σ α} {stopped' : σ → Prop} (first : Triple pre process post stopped)
    (second : Triple pre' process post' stopped') :
    Triple (fun state => pre state ∧ pre' state) process (fun value state => post value state ∧ post' value state)
      fun state => stopped state ∧ stopped' state := by
  intro state ⟨holds, holds'⟩
  have reached := first state holds
  have reached' := second state holds'
  cases ended : process state with
  | done value final =>
    rw [ended] at reached reached'
    exact ⟨reached, reached'⟩
  | stopped final =>
    rw [ended] at reached reached'
    exact ⟨reached, reached'⟩

/-- What is known of any run: it was this one. -/
theorem triple_ran (process : Proc σ α) (start : σ) :
    Triple (fun state => state = start) process (fun value final => process start = .done value final)
      fun final => process start = .stopped final := by
  rintro state rfl
  cases ended : process state with
  | done value final => rfl
  | stopped final => rfl

theorem triple_pure {value : α} (established : ∀ state, pre state → post value state) :
    Triple pre (pure value) post stopped :=
  established

theorem triple_modify {change : σ → σ} {post : Unit → σ → Prop}
    (established : ∀ state, pre state → post () (change state)) : Triple pre (modify change) post stopped :=
  established

theorem triple_modifyGet {change : σ → α × σ}
    (established : ∀ state, pre state → post (change state).1 (change state).2) :
    Triple pre (modifyGet change) post stopped :=
  established

theorem triple_stop (established : ∀ state, pre state → stopped state) :
    Triple pre (stop : Proc σ α) post stopped :=
  established

theorem triple_bind {process : Proc σ α} {next : α → Proc σ β} {middle : α → σ → Prop}
    {final : β → σ → Prop} (first : Triple pre process middle stopped)
    (second : ∀ value, Triple (middle value) (next value) final stopped) :
    Triple pre (process >>= next) final stopped := by
  intro state holds
  have reached := first state holds
  simp only [bind]
  cases finished : process state with
  | done value between =>
    rw [finished] at reached
    exact second value between reached
  | stopped between =>
    rw [finished] at reached
    exact reached

/-- What is known apart from the state. -/
theorem triple_given {fact : Prop} {process : Proc σ α} (spec : fact → Triple pre process post stopped) :
    Triple (fun state => fact ∧ pre state) process post stopped :=
  fun state ⟨given, holds⟩ => spec given state holds

theorem triple_exists {ι : Sort*} {pre : ι → σ → Prop} {process : Proc σ α}
    (each : ∀ index, Triple (pre index) process post stopped) :
    Triple (fun state => ∃ index, pre index state) process post stopped :=
  fun state ⟨index, holds⟩ => each index state holds

/-- A process that looks at the state first. -/
theorem triple_get_bind {next : σ → Proc σ α}
    (seen : ∀ start, pre start → Triple (fun state => state = start) (next start) post stopped) :
    Triple pre (get >>= next) post stopped :=
  fun state holds => seen state holds state rfl

/-- What holds at the head of every iteration holds whenever the loop is left. -/
theorem triple_forever {body : β → Proc σ (Turn β γ)} (invariant : β → σ → Prop) {final : γ → σ → Prop}
    (step : ∀ carried, Triple (invariant carried) (body carried) (Turn.post invariant final) stopped)
    (cut : ∀ carried state, invariant carried state → stopped state) (fuel : Nat) (carried : β) :
    Triple (invariant carried) (forever body fuel carried) final stopped := by
  induction fuel generalizing carried with
  -- out of fuel: what holds at the head of the loop is all that is known
  | zero => exact triple_stop (cut carried)
  | succ fuel inductionHypothesis =>
    refine triple_bind (step carried) fun turn => ?_
    cases turn with
    | next carried => exact inductionHypothesis carried
    | exit result => exact triple_pure fun _ reached => reached

/-- A loop whose turns lower a measure is not cut, when there is fuel for as many turns. -/
theorem triple_forever_decreasing {body : β → Proc σ (Turn β γ)} (invariant : β → σ → Prop) (measure : σ → Nat)
    {final : γ → σ → Prop} {fuel : Nat}
    (step : ∀ carried, ∀ bound < fuel, Triple (fun state => invariant carried state ∧ measure state = bound)
      (body carried)
      (Turn.post (fun carried state => invariant carried state ∧ measure state < bound) final) stopped)
    (carried : β) :
    Triple (fun state => invariant carried state ∧ measure state < fuel) (forever body fuel carried) final stopped := by
  induction fuel generalizing carried with
  | zero => exact fun state ⟨_, below⟩ => absurd below (Nat.not_lt_zero (measure state))
  | succ fuel inductionHypothesis =>
    intro state ⟨holds, enough⟩
    refine triple_bind (step carried (measure state) enough) (fun turn => ?_) state ⟨holds, rfl⟩
    cases turn with
    | next carried =>
      have later := inductionHypothesis (fun carried bound below => step carried bound (by omega)) carried
      exact triple_conseq later (fun _ ⟨holds, lower⟩ => ⟨holds, by omega⟩) fun _ _ reached => reached
    | exit result => exact triple_pure fun _ reached => reached

/-- The same for a loop over a range, with an invariant that may speak of the index. -/
theorem triple_forRange {body : Nat → β → Proc σ (Turn β γ)} (invariant : Nat → β → σ → Prop)
    {final : γ → σ → Prop} {start count : Nat}
    (step : ∀ index carried, start ≤ index → index < start + count →
      Triple (invariant index carried) (body index carried) (Turn.post (invariant (index + 1)) final) stopped)
    (carried : β) :
    Triple (invariant start carried) (forRange body start count carried)
      (Turn.post (invariant (start + count)) final) stopped := by
  induction count generalizing start carried with
  | zero => exact triple_pure fun _ reached => reached
  | succ count inductionHypothesis =>
    refine triple_bind (step start carried le_rfl (by omega)) fun turn => ?_
    cases turn with
    | next carried =>
      rw [show start + (count + 1) = start + 1 + count by omega]
      exact inductionHypothesis (fun index carried from' below => step index carried (by omega) (by omega)) carried
    | exit result => exact triple_pure fun _ reached => reached

/-! ## Invariants -/

/-- The process keeps an invariant, wherever it ends. -/
def Keeps (invariant : σ → Prop) (process : Proc σ α) : Prop :=
  Triple invariant process (fun _ => invariant) invariant

section Keeps

variable {invariant : σ → Prop}

theorem keeps_pure {value : α} : Keeps invariant (pure value : Proc σ α) := triple_pure fun _ holds => holds

theorem keeps_stop : Keeps invariant (stop : Proc σ α) := triple_stop fun _ holds => holds

theorem keeps_modify {change : σ → σ} (kept : ∀ state, invariant state → invariant (change state)) :
    Keeps invariant (modify change) :=
  triple_modify kept

theorem keeps_modifyGet {change : σ → α × σ} (kept : ∀ state, invariant state → invariant (change state).2) :
    Keeps invariant (modifyGet change) :=
  triple_modifyGet kept

theorem keeps_bind {process : Proc σ α} {next : α → Proc σ β} (first : Keeps invariant process)
    (second : ∀ value, Keeps invariant (next value)) : Keeps invariant (process >>= next) :=
  triple_bind first second

/-- A look at the state, when it does not matter what was seen. -/
theorem keeps_get_bind {next : σ → Proc σ α} (kept : ∀ seen, Keeps invariant (next seen)) :
    Keeps invariant (get >>= next) :=
  fun state holds => kept state state holds

theorem keeps_forever {body : β → Proc σ (Turn β γ)} (kept : ∀ carried, Keeps invariant (body carried))
    (fuel : Nat) (carried : β) : Keeps invariant (forever body fuel carried) := by
  refine triple_forever (fun _ => invariant) (fun carried => ?_) (fun _ _ holds => holds) fuel carried
  exact triple_conseq (kept carried) (fun _ holds => holds) fun turn _ holds => by cases turn <;> exact holds

theorem keeps_forRange {body : Nat → β → Proc σ (Turn β γ)} {start count : Nat}
    (kept : ∀ index carried, start ≤ index → index < start + count → Keeps invariant (body index carried))
    (carried : β) : Keeps invariant (forRange body start count carried) := by
  have step : ∀ index carried, start ≤ index → index < start + count → Triple invariant (body index carried)
      (Turn.post (fun _ => invariant) fun _ => invariant) invariant := fun index carried from' below =>
    triple_conseq (kept index carried from' below) (fun _ holds => holds) fun turn _ holds => by
      cases turn <;> exact holds
  refine triple_conseq (triple_forRange (fun _ _ => invariant) step carried) (fun _ holds => holds) ?_
  intro turn _ holds
  cases turn <;> exact holds

end Keeps

/-! ## Changes that a process does not see -/

/-- The process does the same whether the state is changed before it or behind it. -/
def Commutes (change : σ → σ) (process : Proc σ α) : Prop :=
  ∀ state, process (change state) = (process state).map change

section Commutes

variable {change : σ → σ}

theorem commutes_pure {value : α} : Commutes change (pure value : Proc σ α) := fun _ => rfl

theorem commutes_stop : Commutes change (stop : Proc σ α) := fun _ => rfl

theorem commutes_modify {update : σ → σ} (commutes : ∀ state, update (change state) = change (update state)) :
    Commutes change (modify update) := fun state => by
  simp only [modify, commutes state, Outcome.map]

theorem commutes_modifyGet {update : σ → α × σ}
    (commutes : ∀ state, update (change state) = ((update state).1, change (update state).2)) :
    Commutes change (modifyGet update) := fun state => by
  simp only [modifyGet, commutes state, Outcome.map]

theorem commutes_bind {process : Proc σ α} {next : α → Proc σ β} (first : Commutes change process)
    (second : ∀ value, Commutes change (next value)) : Commutes change (process >>= next) := fun state => by
  simp only [bind, first state]
  cases process state with
  | done value between => exact second value between
  | stopped between => rfl

/-- A look at the state that does not see the change. -/
theorem commutes_get_bind {next : σ → Proc σ α} (unseen : ∀ state, next (change state) = next state)
    (second : ∀ seen, Commutes change (next seen)) : Commutes change (get >>= next) := fun state => by
  simp only [bind, get, unseen state]
  exact second state state

end Commutes

/-! ## Views that a process leaves alone -/

/-- The process leaves what the view shows of the state as it is, wherever it ends. -/
def Leaves {ν : Type} (view : σ → ν) (process : Proc σ α) : Prop :=
  ∀ state, view (process state).state = view state

section Leaves

variable {ν : Type} {view : σ → ν}

theorem leaves_pure {value : α} : Leaves view (pure value : Proc σ α) := fun _ => rfl

theorem leaves_stop : Leaves view (stop : Proc σ α) := fun _ => rfl

theorem leaves_modify {change : σ → σ} (left : ∀ state, view (change state) = view state) :
    Leaves view (modify change) := left

theorem leaves_modifyGet {change : σ → α × σ} (left : ∀ state, view (change state).2 = view state) :
    Leaves view (modifyGet change) := left

theorem leaves_bind {process : Proc σ α} {next : α → Proc σ β} (first : Leaves view process)
    (second : ∀ value, Leaves view (next value)) : Leaves view (process >>= next) := fun state => by
  have left := first state
  simp only [bind]
  cases finished : process state with
  | done value between =>
    rw [finished] at left
    exact (second value between).trans left
  | stopped between =>
    rw [finished] at left
    exact left

theorem leaves_get_bind {next : σ → Proc σ α} (second : ∀ seen, Leaves view (next seen)) :
    Leaves view (get >>= next) := fun state => second state state

theorem leaves_forever {body : β → Proc σ (Turn β γ)} (leaves : ∀ carried, Leaves view (body carried))
    (fuel : Nat) (carried : β) : Leaves view (forever body fuel carried) := by
  induction fuel generalizing carried with
  | zero => exact leaves_stop
  | succ fuel inductionHypothesis =>
    refine leaves_bind (leaves carried) fun turn => ?_
    cases turn with
    | next carried => exact inductionHypothesis carried
    | exit result => exact leaves_pure

theorem leaves_forRange {body : Nat → β → Proc σ (Turn β γ)} (leaves : ∀ index carried, Leaves view (body index carried))
    (start count : Nat) (carried : β) : Leaves view (forRange body start count carried) := by
  induction count generalizing start carried with
  | zero => exact leaves_pure
  | succ count inductionHypothesis =>
    refine leaves_bind (leaves start carried) fun turn => ?_
    cases turn with
    | next carried => exact inductionHypothesis (start + 1) carried
    | exit result => exact leaves_pure

/-- A fact about the view holds on. -/
theorem Leaves.triple {process : Proc σ α} (leaves : Leaves view process) (fact : ν → Prop) :
    Triple (fun state => fact (view state)) process (fun _ state => fact (view state))
      fun state => fact (view state) := fun state holds => by
  have left : fact (view (process state).state) := by
    rw [leaves state]
    exact holds
  cases finished : process state with
  | done value final =>
    rw [finished] at left
    exact left
  | stopped final =>
    rw [finished] at left
    exact left

theorem Leaves.keeps {process : Proc σ α} (leaves : Leaves view process) (fact : ν → Prop) :
    Keeps (fun state => fact (view state)) process :=
  leaves.triple fact

end Leaves

/-- Wherever the process ends, a fact that both postconditions share holds there. -/
theorem Triple.state {process : Proc σ α} (spec : Triple pre process post stopped)
    (shared : ∀ value state, post value state → stopped state) {state : σ} (holds : pre state) :
    stopped (process state).state := by
  have reached := spec state holds
  cases finished : process state with
  | done value final =>
    rw [finished] at reached
    exact shared value final reached
  | stopped final =>
    rw [finished] at reached
    exact reached

end Proc

end Utiputils.Lib
