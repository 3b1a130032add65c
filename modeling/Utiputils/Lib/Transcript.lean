import Mathlib.Computability.MyhillNerode
import Utiputils.Lib.Proc

/-! # Transcripts

What a process adds to a log, as a language. A process has a language for each value that it may finish with, and one
for the case that it stops on the way. Sequencing multiplies languages, and a loop multiplies those of its turns. -/

namespace Utiputils.Lib

open scoped Computability

variable {ε : Type}

namespace Transcript

/-- A word for each index of a range, one behind the other. -/
def each (words : Nat → Language ε) (start count : Nat) : Language ε := ((List.range' start count).map words).prod

/-- Words for the first indices of a range, and a last word for the one behind them. -/
def upTo (words last : Nat → Language ε) (start count : Nat) : Language ε :=
  ⨆ index : Fin count, each words start index * last (start + index)

variable {words last : Nat → Language ε} {start count : Nat}

@[simp] theorem each_zero : each words start 0 = 1 := rfl

theorem each_succ : each words start (count + 1) = words start * each words (start + 1) count := by
  simp [each, List.range'_succ]

theorem mem_upTo {word : List ε} :
    word ∈ upTo words last start count ↔ ∃ index < count, word ∈ each words start index * last (start + index) := by
  rw [upTo, Language.mem_iSup]
  exact ⟨fun ⟨index, member⟩ => ⟨index, index.isLt, member⟩, fun ⟨index, below, member⟩ => ⟨⟨index, below⟩, member⟩⟩

theorem last_le_upTo : last start ≤ upTo words last start (count + 1) :=
  fun word member => mem_upTo.mpr ⟨0, Nat.succ_pos count, by rw [each_zero, one_mul]; exact member⟩

/-- Behind a word for the first index come words for the others. -/
theorem each_le_leftQuotient {word : List ε} (member : word ∈ words start) :
    each words (start + 1) count ≤ (each words start (count + 1)).leftQuotient word := by
  intro rest isRest
  show word ++ rest ∈ each words start (count + 1)
  rw [each_succ]
  exact Language.append_mem_mul member isRest

theorem upTo_le_leftQuotient {word : List ε} (member : word ∈ words start) :
    upTo words last (start + 1) count ≤ (upTo words last start (count + 1)).leftQuotient word := by
  intro rest isRest
  obtain ⟨index, below, isRest⟩ := mem_upTo.mp isRest
  refine mem_upTo.mpr ⟨index + 1, by omega, ?_⟩
  rw [each_succ, mul_assoc, show start + (index + 1) = start + 1 + index by omega]
  exact Language.append_mem_mul member isRest

theorem singleton_mul_singleton (first second : List ε) :
    ({first} * {second} : Language ε) = {first ++ second} :=
  Set.image2_singleton

/-- A word of one letter for each item. -/
theorem prod_letters {ι : Type} (letter : ι → ε) (items : List ι) :
    (items.map fun item => ({[letter item]} : Language ε)).prod = {items.map letter} := by
  induction items with
  | nil => rfl
  | cons item items inductionHypothesis =>
    rw [List.map_cons, List.prod_cons, inductionHypothesis, singleton_mul_singleton]
    rfl

/-- Where all indices have the same words. -/
theorem each_const (word : Language ε) : each (fun _ => word) start count = word ^ count := by
  simp [each]

end Transcript

/-- What is observed where a process has ended is a word of the language for that end. -/
def Outcome.Shows {σ α : Type} (observe : σ → List ε) (words : α → Language ε) (cut : Language ε) : Outcome σ α → Prop
  | .done value final => observe final ∈ words value
  | .stopped final => observe final ∈ cut

namespace Proc

variable {σ α β γ : Type} {observe : σ → List ε} {pre pre' : σ → Prop} {post : α → σ → Prop}
  {words words' : α → Language ε} {cut cut' : Language ε}

/-- From where `pre` holds, the process adds a word of `words value` to what is observed and finishes with `value`, or
it adds a word of `cut` and stops. -/
def Emits (observe : σ → List ε) (pre : σ → Prop) (process : Proc σ α) (words : α → Language ε)
    (post : α → σ → Prop) (cut : Language ε) : Prop :=
  ∀ past, Triple (fun state => pre state ∧ observe state = past) process
    (fun value state => post value state ∧ ∃ word ∈ words value, observe state = past ++ word)
    (fun state => ∃ word ∈ cut, observe state = past ++ word)

theorem emits_conseq {process : Proc σ α} {post' : α → σ → Prop} (spec : Emits observe pre' process words' post' cut')
    (weaker : ∀ state, pre state → pre' state) (more : ∀ value, words' value ≤ words value)
    (stronger : ∀ value state, post' value state → post value state) (moreCut : cut' ≤ cut) :
    Emits observe pre process words post cut := by
  refine fun past => triple_stopped (triple_conseq (spec past) (fun state holds =>
    ⟨weaker state holds.1, holds.2⟩) ?_) ?_
  · intro value state reached
    obtain ⟨holds, word, member, shown⟩ := reached
    exact ⟨stronger value state holds, word, more value member, shown⟩
  · intro state reached
    obtain ⟨word, member, shown⟩ := reached
    exact ⟨word, moreCut member, shown⟩

theorem emits_pure {value : α} (established : ∀ state, pre state → post value state) (empty : [] ∈ words value) :
    Emits observe pre (pure value) words post cut :=
  fun _ => triple_pure fun state holds =>
    ⟨established state holds.1, [], empty, holds.2.trans (List.append_nil _).symm⟩

/-- At the end of a word that is complete. -/
theorem emits_pure_behind {all : α → Language ε} {word : List ε} {value : α}
    (established : ∀ state, pre state → post value state) (complete : word ∈ all value) :
    Emits observe pre (pure value) (fun result => (all result).leftQuotient word) post cut := by
  refine emits_pure established ?_
  rw [Language.mem_leftQuotient, List.append_nil]
  exact complete

theorem emits_stop (empty : [] ∈ cut) : Emits observe pre (stop : Proc σ α) words post cut :=
  fun _ => triple_stop fun _ holds => ⟨[], empty, holds.2.trans (List.append_nil _).symm⟩

/-- A process that finishes. -/
theorem emits_done {process : Proc σ α} (finishes : ∀ state, pre state → ∃ value final,
      process state = .done value final ∧ post value final ∧ ∃ word ∈ words value,
        observe final = observe state ++ word) :
    Emits observe pre process words post cut := by
  intro past state holds
  obtain ⟨value, final, ran, reached, word, member, shown⟩ := finishes state holds.1
  rw [ran]
  exact ⟨reached, word, member, holds.2 ▸ shown⟩

theorem emits_modify {change : σ → σ} {post : Unit → σ → Prop} {words : Unit → Language ε}
    (adds : ∀ state, pre state → post () (change state) ∧
      ∃ word ∈ words (), observe (change state) = observe state ++ word) :
    Emits observe pre (modify change) words post cut :=
  emits_done fun state holds => ⟨(), change state, rfl, adds state holds⟩

/-- A process that leaves the log alone. -/
theorem emits_of_triple {process : Proc σ α} (leaves : Leaves observe process)
    (spec : Triple pre process post fun _ => True) : Emits observe pre process (fun _ => 1) post 1 := by
  intro past state holds
  have reached := spec state holds.1
  have left := (leaves state).trans (holds.2.trans (List.append_nil past).symm)
  cases finished : process state with
  | done value final =>
    rw [finished] at reached left
    exact ⟨reached, [], rfl, left⟩
  | stopped final =>
    rw [finished] at left
    exact ⟨[], rfl, left⟩

/-- Behind a word of the first part, what is left to say of a language is its quotient by that word. The states at both
ends of the first part may tell something of the word between them. -/
theorem emits_bind_knowing {process : Proc σ α} {next : α → Proc σ β} {middle : α → σ → Prop} {final : β → σ → Prop}
    {first : α → Language ε} {firstCut : Language ε} {all : β → Language ε} {known : α → List ε → σ → Prop}
    (before : Emits observe pre process first middle firstCut) (cutBefore : firstCut ≤ cut)
    (knows : ∀ start value state word, pre start → middle value state → observe state = observe start ++ word →
      known value word state)
    (after : ∀ value, ∀ word ∈ first value, Emits observe (fun state => middle value state ∧ known value word state)
      (next value) (fun result => (all result).leftQuotient word) final (cut.leftQuotient word)) :
    Emits observe pre (process >>= next) all final cut := by
  intro past start holds
  have reached := before past start holds
  simp only [bind]
  cases ran : process start with
  | done value state =>
    rw [ran] at reached
    obtain ⟨holds', word, member, shown⟩ := reached
    have isKnown := knows start value state word holds.1 holds' (holds.2 ▸ shown)
    have ended := after value word member (past ++ word) state ⟨⟨holds', isKnown⟩, shown⟩
    show match next value state with | .done result later => _ | .stopped later => _
    cases ran' : next value state with
    | done result later =>
      rw [ran'] at ended
      obtain ⟨ends, more, isMore, shownMore⟩ := ended
      exact ⟨ends, word ++ more, isMore, shownMore.trans (List.append_assoc past word more)⟩
    | stopped later =>
      rw [ran'] at ended
      obtain ⟨more, isMore, shownMore⟩ := ended
      exact ⟨word ++ more, isMore, shownMore.trans (List.append_assoc past word more)⟩
  | stopped state =>
    rw [ran] at reached
    obtain ⟨word, member, shown⟩ := reached
    exact ⟨word, cutBefore member, shown⟩

/-- The same where the states tell nothing of it. -/
theorem emits_bind {process : Proc σ α} {next : α → Proc σ β} {middle : α → σ → Prop} {final : β → σ → Prop}
    {first : α → Language ε} {firstCut : Language ε} {all : β → Language ε}
    (before : Emits observe pre process first middle firstCut) (cutBefore : firstCut ≤ cut)
    (after : ∀ value, ∀ word ∈ first value, Emits observe (middle value) (next value)
      (fun result => (all result).leftQuotient word) final (cut.leftQuotient word)) :
    Emits observe pre (process >>= next) all final cut :=
  @emits_bind_knowing _ _ _ _ _ _ _ _ _ _ _ _ _ _ (fun _ _ _ => True) before cutBefore
    (fun _ _ _ _ _ _ _ => trivial) fun value word member =>
      emits_conseq (after value word member) (fun _ holds => holds.1) (fun _ => le_rfl) (fun _ _ reached => reached) le_rfl

/-- A fact that the states tell. -/
theorem emits_given {process : Proc σ α} {fact : Prop} (tells : ∀ state, pre state → fact)
    (spec : fact → Emits observe pre process words post cut) : Emits observe pre process words post cut :=
  fun past state holds => spec (tells state holds.1) past state holds

/-- A first part that finishes and adds nothing. -/
theorem emits_bind_wordless {process : Proc σ α} {next : α → Proc σ β} {middle : α → σ → Prop} {final : β → σ → Prop}
    {all : β → Language ε} (before : Emits observe pre process (fun _ => 1) middle 0)
    (after : ∀ value, Emits observe (middle value) (next value) all final cut) :
    Emits observe pre (process >>= next) all final cut :=
  emits_bind before bot_le fun value _ none => none ▸ after value

/-- A first part that leaves the log alone. -/
theorem emits_bind_silent {process : Proc σ α} {next : α → Proc σ β} {middle : α → σ → Prop} {final : β → σ → Prop}
    {all : β → Language ε} (leaves : Leaves observe process) (spec : Triple pre process middle fun _ => True)
    (after : ∀ value, Emits observe (middle value) (next value) all final cut) (empty : [] ∈ cut) :
    Emits observe pre (process >>= next) all final cut :=
  emits_bind (emits_of_triple leaves spec) (fun _ none => none ▸ empty) fun value _ none => none ▸ after value

/-- A look at the state first. -/
theorem emits_get_bind {next : σ → Proc σ α}
    (seen : ∀ start, pre start → Emits observe (fun state => state = start) (next start) words post cut) :
    Emits observe pre (get >>= next) words post cut :=
  fun past => triple_get_bind fun start holds state same => seen start holds.1 past state ⟨same, same ▸ holds.2⟩

/-- A run from an empty log. -/
theorem Emits.transcript {process : Proc σ α} (spec : Emits observe pre process words post cut) {state : σ}
    (holds : pre state) (fresh : observe state = []) : (process state).Shows observe words cut := by
  have reached := spec [] state ⟨holds, fresh⟩
  cases ran : process state with
  | done value final =>
    rw [ran] at reached
    obtain ⟨-, word, member, shown⟩ := reached
    show observe final ∈ words value
    rw [shown]
    exact member
  | stopped final =>
    rw [ran] at reached
    obtain ⟨word, member, shown⟩ := reached
    show observe final ∈ cut
    rw [shown]
    exact member

/-! ## Loops -/

/-- The words that go with the ends of a turn. -/
def Turn.spells (next : Language ε) (exit : γ → Language ε) : Turn β γ → Language ε
  | .next _ => next
  | .exit result => exit result

/-- A loop without a bound: any number of turns, and the last one. -/
theorem emits_forever {body : β → Proc σ (Turn β γ)} {turn : Language ε} {last : γ → Language ε}
    (invariant : β → σ → Prop) {final : γ → σ → Prop}
    (step : ∀ carried, Emits observe (invariant carried) (body carried) (Turn.spells turn last)
      (Turn.post invariant final) cut)
    (empty : [] ∈ cut) (fuel : Nat) (carried : β) :
    Emits observe (invariant carried) (forever body fuel carried) (fun result => turn∗ * last result) final
      (turn∗ * cut) := by
  have atOnce : ∀ words : Language ε, words ≤ turn∗ * words := fun words =>
    (one_mul words).symm.le.trans (mul_le_mul_left one_le_kstar words)
  have onward : ∀ words : Language ε, ∀ word ∈ turn, turn∗ * words ≤ (turn∗ * words).leftQuotient word := by
    intro words word isTurn rest member
    have longer : word ++ rest ∈ turn * (turn∗ * words) := Language.append_mem_mul isTurn member
    rw [← mul_assoc] at longer
    exact mul_le_mul_left mul_kstar_le_kstar words longer
  induction fuel generalizing carried with
  | zero => exact emits_stop (atOnce cut empty)
  | succ fuel inductionHypothesis =>
    refine emits_bind (step carried) (atOnce cut) fun ends word member => ?_
    cases ends with
    | next carried =>
      exact emits_conseq (inductionHypothesis carried) (fun _ holds => holds) (fun result => onward _ word member)
        (fun _ _ reached => reached) (onward cut word member)
    | exit result =>
      refine emits_pure (fun _ reached => reached) (atOnce (last result) ?_)
      rw [List.append_nil]
      exact member

/-- A loop of which the words depend on what it carries: `rest carried` is what is left to say from there. What a turn
says on its way to the next one is a derivative of it. -/
theorem emits_forever_rest {body : β → Proc σ (Turn β γ)} {rest : β → γ → Language ε}
    {turnWords : β → Turn β γ → Language ε}
    (invariant : β → σ → Prop) {final : γ → σ → Prop}
    (step : ∀ carried, Emits observe (invariant carried) (body carried) (turnWords carried)
      (Turn.post invariant final) cut)
    (next : ∀ carried later, ∀ word ∈ turnWords carried (.next later), (∀ result, rest later result ≤
      (rest carried result).leftQuotient word) ∧ cut ≤ cut.leftQuotient word)
    (exit : ∀ carried result, turnWords carried (.exit result) ≤ rest carried result)
    (empty : [] ∈ cut) (fuel : Nat) (carried : β) :
    Emits observe (invariant carried) (forever body fuel carried) (rest carried) final cut := by
  induction fuel generalizing carried with
  | zero => exact emits_stop empty
  | succ fuel inductionHypothesis =>
    refine emits_bind (step carried) le_rfl fun ends word member => ?_
    cases ends with
    | next later =>
      obtain ⟨words, cuts⟩ := next carried later word member
      exact emits_conseq (inductionHypothesis later) (fun _ holds => holds) words (fun _ _ reached => reached) cuts
    | exit result => exact emits_pure_behind (fun _ reached => reached) (exit carried result member)

/-- A loop over a list that it never leaves: a word for each item, one behind the other. -/
theorem emits_forM {ι : Type} {body : ι → Proc σ Unit} {wordsOf : ι → Language ε} {invariant : σ → Prop} {items : List ι}
    (step : ∀ item ∈ items,
      Emits observe invariant (body item) (fun _ => wordsOf item) (fun _ => invariant) 0) :
    Emits observe invariant (items.forM body) (fun _ => (items.map wordsOf).prod) (fun _ => invariant) 0 := by
  induction items with
  | nil => exact emits_pure (fun _ holds => holds) rfl
  | cons item items inductionHypothesis =>
    rw [List.forall_mem_cons] at step
    refine emits_bind step.1 le_rfl fun _ word member => ?_
    refine emits_conseq (inductionHypothesis step.2) (fun _ holds => holds) (fun _ rest isRest => ?_)
      (fun _ _ reached => reached) bot_le
    show word ++ rest ∈ ((item :: items).map wordsOf).prod
    rw [List.map_cons, List.prod_cons]
    exact Language.append_mem_mul member isRest

/-- A loop over a range: the turns of the indices up to the one that leaves it. -/
theorem emits_forRange {body : Nat → β → Proc σ (Turn β γ)} {turn : Nat → Language ε} {last : Nat → γ → Language ε}
    {turnCut : Nat → Language ε} (invariant : Nat → β → σ → Prop) {final : γ → σ → Prop} {start count : Nat}
    (step : ∀ index carried, start ≤ index → index < start + count →
      Emits observe (invariant index carried) (body index carried) (Turn.spells (turn index) (last index))
        (Turn.post (invariant (index + 1)) final) (turnCut index)) (carried : β) :
    Emits observe (invariant start carried) (forRange body start count carried)
      (Turn.spells (Transcript.each turn start count) fun result => Transcript.upTo turn (last · result) start count)
      (Turn.post (invariant (start + count)) final) (Transcript.upTo turn turnCut start count) := by
  induction count generalizing start carried with
  | zero => exact emits_pure (fun _ holds => holds) rfl
  | succ count inductionHypothesis =>
    refine emits_bind (step start carried le_rfl (by omega)) Transcript.last_le_upTo fun ends word member => ?_
    cases ends with
    | next carried =>
      rw [show start + (count + 1) = start + 1 + count by omega]
      have later : ∀ index carried, start + 1 ≤ index → index < start + 1 + count → _ :=
        fun index carried from' below => step index carried (by omega) (by omega)
      refine emits_conseq (inductionHypothesis later carried) (fun _ holds => holds) (fun result => ?_)
        (fun _ _ reached => reached)
        (Transcript.upTo_le_leftQuotient member)
      cases result with
      | next carried => exact Transcript.each_le_leftQuotient member
      | exit result => exact @Transcript.upTo_le_leftQuotient _ turn (last · result) start count word member
    | exit result =>
      have atOnce := @Transcript.last_le_upTo _ turn (last · result) start count word member
      rw [← List.append_nil word] at atOnce
      exact emits_pure (fun _ reached => reached) atOnce

end Proc

end Utiputils.Lib
