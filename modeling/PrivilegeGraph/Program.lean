import PrivilegeGraph.Event

/-!
# Programs

An operation that talks to an outside party is a program: a tree that asks one
question after another, each with a continuation for every possible answer,
reports events between them, and ends with a result or an error.  A program is
run by whatever answers its questions, and a run keeps the exact order of
questions, answers and events.

Since a program is data, statements about every possible store are statements
about every way to answer.
-/

namespace PrivilegeGraph

/-- The questions that a party answers, each with the type of its answers. -/
structure Interface where
  Call : Type
  Answer : Call → Type

/-- A program that asks questions of an interface, and ends with an error or a
result. -/
inductive Program
    (I : Interface)
    (ε α : Type) :
    Type
  | done (result : Except ε α)
  | note (event : Event) (next : Program I ε α)
  | ask (call : I.Call) (next : I.Answer call → Program I ε α)

namespace Program

variable
    {I J : Interface}
    {ε δ α β : Type}

/-- Go on with the result of a program; an error ends the whole. -/
def bind : Program I ε α → (α → Program I ε β) → Program I ε β
  | done (.ok value), next => next value
  | done (.error error), _ => done (.error error)
  | note event rest, next => note event (rest.bind next)
  | ask call rest, next => ask call fun answer => (rest answer).bind next

instance : Monad (Program I ε) where
  pure value := done (.ok value)
  bind := bind

/-- End with an error. -/
def fail (error : ε) : Program I ε α :=
  done (.error error)

/-- End as a computation without questions does. -/
def ofExcept (result : Except ε α) : Program I ε α :=
  done result

/-- Report an event. -/
def report (event : Event) : Program I ε Unit :=
  note event (done (.ok ()))

/-- Change the error that a program ends with. -/
def mapError (change : ε → δ) : Program I ε α → Program I δ α
  | done (.ok value) => done (.ok value)
  | done (.error error) => done (.error (change error))
  | note event rest => note event (rest.mapError change)
  | ask call rest => ask call fun answer => (rest answer).mapError change

/-- Make the outcome of a program its result, so that an error does not end the
whole. -/
def outcome : Program I ε α → Program I δ (Except ε α)
  | done result => done (.ok result)
  | note event rest => note event rest.outcome
  | ask call rest => ask call fun answer => (rest answer).outcome

/-- Answer each question of one interface by a program over another. -/
def through
    (service : (call : I.Call) → Program J ε (I.Answer call)) :
    Program I ε α → Program J ε α
  | done result => done result
  | note event rest => note event (rest.through service)
  | ask call rest =>
      (service call).bind fun answer => (rest answer).through service

/-- Run a program for each value in turn and collect the results. -/
def collect (action : α → Program I ε β) : List α → Program I ε (List β)
  | [] => pure []
  | value :: rest => do
      let first ← action value
      let others ← collect action rest
      return first :: others

/-- A step of a run. -/
inductive Step (I : Interface) : Type
  | noted (event : Event)
  | asked (call : I.Call) (answer : I.Answer call)

/-- A way to answer every question, which may depend on and change a state. -/
abbrev Handler
    (I : Interface)
    (σ : Type) :
    Type :=
  (call : I.Call) → σ → I.Answer call × σ

/-- What a run leaves behind. -/
structure Run
    (I : Interface)
    (σ ε α : Type) :
    Type where
  result : Except ε α
  state : σ
  steps : List (Step I)

/-- Run a program with a handler from a state. -/
def run
    {σ : Type}
    (handler : Handler I σ) :
    Program I ε α → σ → Run I σ ε α
  | done result, state => ⟨result, state, []⟩
  | note event rest, state =>
      let after := rest.run handler state
      { after with steps := .noted event :: after.steps }
  | ask call rest, state =>
      let (answer, state) := handler call state
      let after := (rest answer).run handler state
      { after with steps := .asked call answer :: after.steps }

/-- The events of a run, in order. -/
def Run.events
    {σ : Type}
    (run : Run I σ ε α) :
    List Event :=
  run.steps.filterMap fun
    | .noted event => some event
    | .asked _ _ => none

/-- The questions of a run, in order. -/
def Run.calls
    {σ : Type}
    (run : Run I σ ε α) :
    List I.Call :=
  run.steps.filterMap fun
    | .noted _ => none
    | .asked call _ => some call

theorem bind_eq
    (program : Program I ε α)
    (next : α → Program I ε β) :
    program >>= next = program.bind next := rfl

theorem bind_pure (program : Program I ε α) :
    program.bind (fun value => done (.ok value)) = program := by
  induction program with
  | done result => cases result <;> rfl
  | note event rest ih => simp [bind, ih]
  | ask call rest ih => simp [bind, ih]

theorem bind_assoc
    {γ : Type}
    (program : Program I ε α)
    (second : α → Program I ε β)
    (third : β → Program I ε γ) :
    (program.bind second).bind third =
      program.bind fun value => (second value).bind third := by
  induction program with
  | done result => cases result <;> rfl
  | note event rest ih => simp [bind, ih]
  | ask call rest ih => simp [bind, ih]

instance : LawfulMonad (Program I ε) :=
  LawfulMonad.mk' _
    (by intro α program; exact bind_pure program)
    (by intro α β value next; rfl)
    (by intro α β γ program second third; exact bind_assoc program second third)

/-- A run of two programs in sequence is the run of the first followed, if that
gave a result, by the run of the second from the state that the first left. -/
theorem run_bind
    {σ : Type}
    (handler : Handler I σ)
    (program : Program I ε α)
    (next : α → Program I ε β)
    (state : σ) :
    (program.bind next).run handler state =
      let first := program.run handler state
      match first.result with
      | .ok value =>
          let second := (next value).run handler first.state
          ⟨second.result, second.state, first.steps ++ second.steps⟩
      | .error error => ⟨.error error, first.state, first.steps⟩ := by
  induction program generalizing state with
  | done result => cases result <;> rfl
  | note event rest ih =>
    simp only [bind, run, ih]
    split <;> rfl
  | ask call rest ih =>
    simp only [bind, run, ih]
    split <;> rfl

/-- What follows a result ends the whole. -/
theorem result_run_bind_ok
    {σ : Type}
    {handler : Handler I σ}
    {program : Program I ε α}
    {next : α → Program I ε β}
    {state : σ}
    {value : α}
    (ended : (program.run handler state).result = .ok value) :
    ((program >>= next).run handler state).result =
      ((next value).run handler (program.run handler state).state).result := by
  rw [bind_eq, run_bind]
  simp only [ended]

/-- What follows a result leaves its steps after those before. -/
theorem steps_run_bind_ok
    {σ : Type}
    {handler : Handler I σ}
    {program : Program I ε α}
    {next : α → Program I ε β}
    {state : σ}
    {value : α}
    (ended : (program.run handler state).result = .ok value) :
    ((program >>= next).run handler state).steps =
      (program.run handler state).steps ++
        ((next value).run handler (program.run handler state).state).steps := by
  rw [bind_eq, run_bind]
  simp only [ended]

/-- An error ends the whole. -/
theorem result_run_bind_error
    {σ : Type}
    {handler : Handler I σ}
    {program : Program I ε α}
    {next : α → Program I ε β}
    {state : σ}
    {error : ε}
    (ended : (program.run handler state).result = .error error) :
    ((program >>= next).run handler state).result = .error error := by
  rw [bind_eq, run_bind]
  simp only [ended]

/-- Runs from two states have one result if they have one so far and what
follows does not depend on the state. -/
theorem result_run_bind_congr
    {σ : Type}
    {handler : Handler I σ}
    {program : Program I ε α}
    {next : α → Program I ε β}
    {state state' : σ}
    (same :
      (program.run handler state).result = (program.run handler state').result)
    (rest :
      ∀ value later later',
        ((next value).run handler later).result =
          ((next value).run handler later').result) :
    ((program >>= next).run handler state).result =
      ((program >>= next).run handler state').result := by
  cases ended : (program.run handler state').result with
  | error error =>
    rw [ended] at same
    rw [result_run_bind_error same, result_run_bind_error ended]
  | ok value =>
    rw [ended] at same
    rw [result_run_bind_ok same, result_run_bind_ok ended]
    exact rest value _ _

/-- The questions of what follows a result come after those before. -/
theorem calls_run_bind
    {σ : Type}
    (handler : Handler I σ)
    (program : Program I ε α)
    (next : α → Program I ε β)
    (state : σ) :
    ((program >>= next).run handler state).calls =
      (program.run handler state).calls ++
        match (program.run handler state).result with
        | .ok value =>
            ((next value).run handler (program.run handler state).state).calls
        | .error _ => [] := by
  rw [bind_eq, run_bind]
  cases ended : (program.run handler state).result with
  | ok value => simp only [Run.calls, ended, List.filterMap_append]
  | error error => simp only [Run.calls, ended, List.append_nil]

end Program

end PrivilegeGraph
