import Utiputils.Lib.Proc

/-! # Processes that mirror each other

Two processes, the second of which does on a changed state what the first one does on the state itself. A process that
commutes with the change mirrors itself; here the second one may leave out what the change hides. -/

namespace Utiputils.Lib.Proc

variable {σ α β γ : Type}

def Mirrors (change : σ → σ) (process image : Proc σ α) : Prop :=
  ∀ state, image (change state) = (process state).map change

section Mirrors

variable {change : σ → σ}

theorem Commutes.mirrors {process : Proc σ α} (commutes : Commutes change process) :
    Mirrors change process process :=
  commutes

theorem mirrors_pure {value : α} : Mirrors change (pure value : Proc σ α) (pure value) := fun _ => rfl

theorem mirrors_stop : Mirrors change (stop : Proc σ α) stop := fun _ => rfl

/-- What the change hides is left out. -/
theorem mirrors_hidden {update : σ → σ} (hidden : ∀ state, change (update state) = change state) :
    Mirrors change (modify update) (pure ()) := fun state => by
  rw [modify, Outcome.map, hidden]
  rfl

theorem mirrors_bind {process image : Proc σ α} {next nextImage : α → Proc σ β}
    (first : Mirrors change process image) (second : ∀ value, Mirrors change (next value) (nextImage value)) :
    Mirrors change (process >>= next) (image >>= nextImage) := fun state => by
  simp only [bind, first state]
  cases process state with
  | done value between => exact second value between
  | stopped between => rfl

theorem mirrors_hidden_bind {update : σ → σ} {process image : Proc σ α}
    (hidden : ∀ state, change (update state) = change state) (mirrors : Mirrors change process image) :
    Mirrors change (modify update >>= fun _ => process) image :=
  mirrors_bind (mirrors_hidden hidden) fun _ => mirrors

theorem mirrors_forever {body image : β → Proc σ (Turn β γ)}
    (mirrors : ∀ carried, Mirrors change (body carried) (image carried)) (fuel : Nat) (carried : β) :
    Mirrors change (forever body fuel carried) (forever image fuel carried) := by
  induction fuel generalizing carried with
  | zero => exact mirrors_stop
  | succ fuel inductionHypothesis =>
    refine mirrors_bind (mirrors carried) fun turn => ?_
    cases turn with
    | next carried => exact inductionHypothesis carried
    | exit result => exact mirrors_pure

end Mirrors

end Utiputils.Lib.Proc
