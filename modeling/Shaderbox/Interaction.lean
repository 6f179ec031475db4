import Shaderbox.Abort

/-!
# Programs that ask and wait

An interface lists the requests a program may make and, for each, the type of its answer. An
interaction is a program over an interface: a finite tree that makes one request at a time and
goes on with whatever it is answered. Nothing is assumed about the answers, so a statement
about all runs of an interaction is a statement about every device, window system and logger.

`Yields` relates an interaction to its possible exchanges and outcomes, and `yields_bind_iff` says
what two programs in sequence exchange. `run` carries out one of the possibilities against a
handler, of which `record` keeps the exchanges, and `interpret` replaces every request by an
interaction over another interface.
-/

namespace Shaderbox

/-- The requests a program may make, and the type of each one's answer. -/
structure Interface where
  Request : Type
  Answer : Request → Type

/-- A program over an interface. -/
inductive Interaction (I : Interface) (α : Type) : Type where
  | done (result : α)
  | abort (cause : Abort)
  | ask (request : I.Request) (resume : I.Answer request → Interaction I α)

/-- A request together with its answer. -/
structure Exchange (I : Interface) where
  request : I.Request
  answer : I.Answer request

/-- A rule that answers every request from a state, and says what the state becomes. -/
abbrev Handler (I : Interface) (σ : Type) :=
  (request : I.Request) → σ → I.Answer request × σ

namespace Interaction

variable {I J : Interface} {α β γ σ : Type}

/-- Go on with the result of a program. -/
def bind : Interaction I α → (α → Interaction I β) → Interaction I β
  | .done result, next => next result
  | .abort cause, _ => .abort cause
  | .ask request resume, next => .ask request fun answer => (resume answer).bind next

instance : Monad (Interaction I) where
  pure := .done
  bind := bind

/-- Make a single request. -/
def request (request : I.Request) : Interaction I (I.Answer request) :=
  .ask request .done

/-- Carry out `cleanUp` when the program aborts in a way that releases what it holds. -/
def onAbort : Interaction I α → (cleanUp : Interaction I Unit) → Interaction I α
  | .done result, _ => .done result
  | .abort cause, cleanUp =>
    if cause.releases then cleanUp.bind fun _ => .abort cause else .abort cause
  | .ask request resume, cleanUp => .ask request fun answer => (resume answer).onAbort cleanUp

/-- Go on with a value, or abort. -/
def ofExcept : Except Abort α → Interaction I α
  | .ok result => .done result
  | .error cause => .abort cause

/-- Answer every request of a program by a handler. -/
def run (handler : Handler I σ) : Interaction I α → σ → Except Abort α × σ
  | .done result, state => (.ok result, state)
  | .abort cause, state => (.error cause, state)
  | .ask request resume, state =>
    let (answer, state) := handler request state
    (resume answer).run handler state

/-- What a program exchanges when every request is answered by a handler. -/
def record (handler : Handler I σ) : Interaction I α → σ → List (Exchange I)
  | .done _, _ => []
  | .abort _, _ => []
  | .ask request resume, state =>
    let (answer, state) := handler request state
    ⟨request, answer⟩ :: (resume answer).record handler state

/-- Replace every request by a program over another interface. -/
def interpret (implement : (request : I.Request) → Interaction J (I.Answer request)) :
    Interaction I α → Interaction J α
  | .done result => .done result
  | .abort cause => .abort cause
  | .ask request resume =>
    (implement request).bind fun answer => (resume answer).interpret implement

/-- The exchanges a program can have with the world, and what it then ends with. -/
inductive Yields : Interaction I α → List (Exchange I) → Except Abort α → Prop where
  | done (result : α) : Yields (.done result) [] (.ok result)
  | abort (cause : Abort) : Yields (.abort cause) [] (.error cause)
  | ask (request : I.Request) (resume : I.Answer request → Interaction I α)
      (answer : I.Answer request) {exchanges : List (Exchange I)} {outcome : Except Abort α} :
      Yields (resume answer) exchanges outcome →
        Yields (.ask request resume) (⟨request, answer⟩ :: exchanges) outcome

@[simp] theorem pure_eq (result : α) : (pure result : Interaction I α) = .done result := rfl

@[simp] theorem bind_eq (program : Interaction I α) (next : α → Interaction I β) :
    (program >>= next) = program.bind next := rfl

@[simp] theorem done_bind (result : α) (next : α → Interaction I β) :
    (done result).bind next = next result := rfl

@[simp] theorem abort_bind (cause : Abort) (next : α → Interaction I β) :
    (abort cause).bind next = abort cause := rfl

@[simp] theorem ask_bind (request : I.Request) (resume : I.Answer request → Interaction I α)
    (next : α → Interaction I β) :
    (ask request resume).bind next = ask request fun answer => (resume answer).bind next := rfl

/-- Doing nothing afterwards changes nothing. -/
@[simp] theorem bind_done (program : Interaction I α) : program.bind .done = program := by
  induction program with
  | done result => rfl
  | abort cause => rfl
  | ask request resume ih => simp [ih]

/-- Only the order of the steps counts, not how they are grouped. -/
theorem bind_assoc (program : Interaction I α) (next : α → Interaction I β)
    (last : β → Interaction I γ) :
    (program.bind next).bind last = program.bind fun result => (next result).bind last := by
  induction program with
  | done result => rfl
  | abort cause => rfl
  | ask request resume ih => simp [ih]

instance : LawfulMonad (Interaction I) :=
  LawfulMonad.mk' (Interaction I)
    (fun program => bind_done program)
    (fun _ _ => rfl)
    (fun program next last => bind_assoc program next last)

/-- Interpretation goes through a program step by step. -/
theorem interpret_bind (implement : (request : I.Request) → Interaction J (I.Answer request))
    (program : Interaction I α) (next : α → Interaction I β) :
    (program.bind next).interpret implement =
      (program.interpret implement).bind fun result => (next result).interpret implement := by
  induction program with
  | done result => rfl
  | abort cause => rfl
  | ask request resume ih =>
    simp only [ask_bind, interpret, bind_assoc]
    exact congrArg _ (funext fun answer => ih answer)

/-- What is exchanged decides what a program comes to. -/
theorem Yields.outcome_unique {program : Interaction I α} {exchanges : List (Exchange I)}
    {outcome other : Except Abort α} (h : Yields program exchanges outcome)
    (hother : Yields program exchanges other) : outcome = other := by
  induction h with
  | done => cases hother; rfl
  | abort => cases hother; rfl
  | ask _ _ _ _ ih =>
    cases hother with
    | ask _ _ _ hrest => exact ih hrest

/-- What a run exchanges and comes to is one of the possibilities that the program has. -/
theorem yields_record (handler : Handler I σ) (program : Interaction I α) (state : σ) :
    Yields program (program.record handler state) (program.run handler state).1 := by
  induction program generalizing state with
  | done result => exact .done result
  | abort cause => exact .abort cause
  | ask request resume ih => exact .ask _ _ _ (ih _ _)

/-- What a run comes to is one of the outcomes that the program can have. -/
theorem yields_run (handler : Handler I σ) (program : Interaction I α) (state : σ) :
    ∃ exchanges, Yields program exchanges (program.run handler state).1 :=
  ⟨_, yields_record handler program state⟩

/-- Two programs in sequence exchange what the first does and then, unless it aborts, what the
second does with its result. -/
theorem yields_bind_iff {program : Interaction I α} {next : α → Interaction I β}
    {exchanges : List (Exchange I)} {outcome : Except Abort β} :
    Yields (program.bind next) exchanges outcome ↔
      (∃ cause, Yields program exchanges (.error cause) ∧ outcome = .error cause) ∨
        ∃ first result rest, exchanges = first ++ rest ∧ Yields program first (.ok result) ∧
          Yields (next result) rest outcome := by
  induction program generalizing exchanges with
  | done result =>
    constructor
    · exact fun h => .inr ⟨[], result, exchanges, rfl, .done result, h⟩
    · rintro (⟨cause, h, -⟩ | ⟨first, value, rest, rfl, h, tail⟩)
      · cases h
      · cases h
        exact tail
  | abort cause =>
    constructor
    · intro h
      cases h
      exact .inl ⟨cause, .abort cause, rfl⟩
    · rintro (⟨other, h, rfl⟩ | ⟨first, value, rest, rfl, h, -⟩)
      · cases h
        exact .abort cause
      · cases h
  | ask request resume ih =>
    constructor
    · intro h
      cases h with
      | ask _ _ answer h =>
        rcases (ih answer).mp h with ⟨cause, head, rfl⟩ | ⟨first, result, rest, rfl, head, tail⟩
        · exact .inl ⟨cause, .ask _ _ answer head, rfl⟩
        · exact .inr ⟨_ :: first, result, rest, rfl, .ask _ _ answer head, tail⟩
    · rintro (⟨cause, h, rfl⟩ | ⟨first, result, rest, rfl, h, tail⟩)
      · cases h with
        | ask _ _ answer h =>
          exact .ask _ _ answer ((ih answer).mpr (.inl ⟨cause, h, rfl⟩))
      · cases h with
        | ask _ _ answer h =>
          exact .ask _ _ answer ((ih answer).mpr (.inr ⟨_, result, rest, rfl, h, tail⟩))

end Interaction

end Shaderbox
