import Holdem.Procedure

/-!
# Disciplines of procedures

A discipline is what holds of the state between two changes, together with what a single change may
do to it. A procedure keeps a discipline when each of its changes does, from whatever state it is
made: between two of its changes others may change the state as well, and the discipline is all
that can be relied on then.

The tree of a procedure is finite on every path, so keeping a discipline is defined by recursion on
it, and one rule for sequences is enough to put procedures together.

What a procedure does may hang on the answers that it gets. A discipline can therefore count on
answers of some form, and what `Gives` says about the result of a procedure is known to whatever
comes after it.
-/

namespace Holdem

/-- What is kept between the changes of a state, and what each change may do. -/
structure Discipline (σ : Type) where
  /-- What holds of the state whenever anyone looks at it. -/
  invariant : σ → Prop
  /-- What a change may do to a state that satisfies the invariant. -/
  permits : σ → σ → Prop
  permits_refl : ∀ state, permits state state
  /-- Whether a procedure may break off. -/
  mayBreak : Prop := False
  /-- The answers that are counted on; nothing is asked of a procedure after any other. -/
  expects : (request : Request) → request.Answer → Prop := fun _ _ => True

namespace Discipline

variable {σ α : Type}

/-- A change of state that keeps the invariant and is permitted. -/
def Admits (discipline : Discipline σ) (change : σ → σ) : Prop :=
  ∀ state, discipline.invariant state →
    discipline.invariant (change state) ∧ discipline.permits state (change state)

/-- A change with a result: where it is defined it keeps the invariant and is permitted, and where
it is not a procedure has to be allowed to break off. -/
def AdmitsPartial (discipline : Discipline σ) (change : σ → Option (σ × α)) : Prop :=
  ∀ state, discipline.invariant state →
    match change state with
    | none => discipline.mayBreak
    | some (after, _) => discipline.invariant after ∧ discipline.permits state after

end Discipline

namespace Procedure

variable {σ α β : Type}

/-- Every change of a procedure is admitted, and it breaks off only where that is allowed. -/
def Keeps (discipline : Discipline σ) : Procedure σ α → Prop
  | .finish _ => True
  | .stuck => discipline.mayBreak
  | .update change resume =>
    ∀ state, discipline.invariant state →
      (discipline.invariant (change state) ∧ discipline.permits state (change state)) ∧
        (resume state).Keeps discipline
  | .ask request resume =>
    ∀ answer, discipline.expects request answer → (resume answer).Keeps discipline

/-- Every result that a procedure can come to has a property, as long as the answers are the
expected ones. -/
def Gives (expects : (request : Request) → request.Answer → Prop) (property : α → Prop) :
    Procedure σ α → Prop
  | .finish result => property result
  | .stuck => True
  | .update _ resume => ∀ state, (resume state).Gives expects property
  | .ask request resume =>
    ∀ answer, expects request answer → (resume answer).Gives expects property

variable {discipline : Discipline σ} {expects : (request : Request) → request.Answer → Prop}

/-- What a sequence gives is given by its second part, which knows what the first has given. -/
theorem gives_bind {procedure : Procedure σ α} {next : α → Procedure σ β} {between : α → Prop}
    {property : β → Prop} (first : procedure.Gives expects between)
    (later : ∀ result, between result → (next result).Gives expects property) :
    (procedure.bind next).Gives expects property := by
  induction procedure with
  | finish result => exact later result first
  | stuck => trivial
  | update change resume hypothesis =>
    intro state
    exact hypothesis state (first state)
  | ask request resume hypothesis =>
    intro answer expected
    exact hypothesis answer (first answer expected)

theorem gives_mono {procedure : Procedure σ α} {property other : α → Prop}
    (gives : procedure.Gives expects property) (weaker : ∀ result, property result → other result) :
    procedure.Gives expects other := by
  rw [← bind_finish procedure]
  exact gives_bind gives weaker

theorem gives_true (procedure : Procedure σ α) : procedure.Gives expects fun _ => True := by
  induction procedure with
  | finish | stuck => trivial
  | update change resume hypothesis => exact hypothesis
  | ask request resume hypothesis => exact fun answer _ => hypothesis answer

/-- A sequence keeps what its first part keeps, if its second part keeps it after whatever the first
can give. -/
theorem keeps_bind_of_gives {procedure : Procedure σ α} {next : α → Procedure σ β}
    {between : α → Prop} (first : procedure.Keeps discipline)
    (gives : procedure.Gives discipline.expects between)
    (later : ∀ result, between result → (next result).Keeps discipline) :
    (procedure.bind next).Keeps discipline := by
  induction procedure with
  | finish result => exact later result gives
  | stuck => exact first
  | update change resume hypothesis =>
    intro state holds
    rcases first state holds with ⟨admitted, rest⟩
    exact ⟨admitted, hypothesis state rest (gives state)⟩
  | ask request resume hypothesis =>
    intro answer expected
    exact hypothesis answer (first answer expected) (gives answer expected)

/-- A sequence keeps what both of its parts keep. -/
theorem keeps_bind {procedure : Procedure σ α} {next : α → Procedure σ β}
    (first : procedure.Keeps discipline) (later : ∀ result, (next result).Keeps discipline) :
    (procedure.bind next).Keeps discipline :=
  keeps_bind_of_gives first procedure.gives_true fun result _ => later result

/-- Where everything is permitted everything is kept. -/
theorem keeps_of_permissive (procedure : Procedure σ α) (holds : ∀ state, discipline.invariant state)
    (permitted : ∀ before after, discipline.permits before after)
    (breaks : discipline.mayBreak) : procedure.Keeps discipline := by
  induction procedure with
  | finish => trivial
  | stuck => exact breaks
  | update change resume hypothesis =>
    exact fun state _ => ⟨⟨holds _, permitted _ _⟩, hypothesis state⟩
  | ask request resume hypothesis => exact fun answer _ => hypothesis answer

/-- What keeps a discipline keeps one that permits more and counts on more. -/
theorem Keeps.mono {wider : Discipline σ} {procedure : Procedure σ α}
    (kept : procedure.Keeps discipline) (same : wider.invariant = discipline.invariant)
    (permits : ∀ before after, discipline.permits before after → wider.permits before after)
    (breaks : discipline.mayBreak → wider.mayBreak)
    (expects : ∀ request answer, wider.expects request answer →
      discipline.expects request answer) : procedure.Keeps wider := by
  induction procedure with
  | finish => trivial
  | stuck => exact breaks kept
  | update change resume hypothesis =>
    intro state holds
    rw [same] at holds
    rcases kept state holds with ⟨⟨after, permitted⟩, rest⟩
    exact ⟨⟨same ▸ after, permits _ _ permitted⟩, hypothesis state rest⟩
  | ask request resume hypothesis =>
    intro answer expected
    exact hypothesis answer (kept answer (expects request answer expected))

/-- A change with a result keeps a discipline that admits it. -/
theorem keeps_step {change : σ → Option (σ × α)} (admitted : discipline.AdmitsPartial change) :
    (step change).Keeps discipline := by
  intro state holds
  have outcome := admitted state holds
  rcases changed : change state with _ | ⟨after, result⟩
  · simp only [changed] at outcome
    simp only [changed, Option.elim]
    exact ⟨⟨holds, discipline.permits_refl state⟩, outcome⟩
  · simp only [changed] at outcome
    simp only [changed, Option.elim]
    exact ⟨outcome, trivial⟩

end Procedure

end Holdem
