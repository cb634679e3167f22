import PrivilegeGraph.Program

/-!
# Confined programs

A program is confined when, whatever its questions are answered, every
question belongs to an allowed class and every end is an accepted one.
Confinement is defined by recursion on the program and has one rule for each
way in which programs are put together.  The run lemmas carry it over to
every handler and every state, so a statement about all stores needs no
induction over runs of its own.
-/

namespace PrivilegeGraph.Program

variable {I : Interface} {ε δ α β : Type}

/-- Every question is allowed and every end accepted, for all answers. -/
def Confined
    (allowed : I.Call → Prop)
    (accepted : Except ε α → Prop) :
    Program I ε α → Prop
  | done result => accepted result
  | note _ next => next.Confined allowed accepted
  | ask call next =>
      allowed call ∧ ∀ answer, (next answer).Confined allowed accepted

/-- What holds of a result, when there is one. -/
def Yielding (property : α → Prop) : Except ε α → Prop
  | .ok value => property value
  | .error _ => True

namespace Confined

variable
    {allowed : I.Call → Prop}
    {accepted : Except ε α → Prop}
    {program : Program I ε α}

theorem weaken
    {allowed' : I.Call → Prop}
    {accepted' : Except ε α → Prop}
    (confined : program.Confined allowed accepted)
    (calls : ∀ call, allowed call → allowed' call)
    (ends : ∀ result, accepted result → accepted' result) :
    program.Confined allowed' accepted' := by
  induction program with
  | done result =>
      exact ends result confined
  | note event next ih =>
      exact ih confined
  | ask call next ih =>
      rcases confined with ⟨callAllowed, rest⟩
      exact
        ⟨calls call callAllowed,
          fun answer => ih answer (rest answer)⟩

/-- The rule of sequence: the second program starts from an accepted value. -/
theorem bind
    {final : Except ε β → Prop}
    {next : α → Program I ε β}
    (first : program.Confined allowed accepted)
    (errors : ∀ error, accepted (.error error) → final (.error error))
    (rest :
      ∀ value, accepted (.ok value) →
        (next value).Confined allowed final) :
    (program.bind next).Confined allowed final := by
  induction program with
  | done result =>
      cases result with
      | ok value => exact rest value first
      | error error => exact errors error first
  | note event program ih =>
      exact ih first
  | ask call program ih =>
      rcases first with ⟨callAllowed, continued⟩
      exact
        ⟨callAllowed,
          fun answer => ih answer (continued answer)⟩

/-- Sequence where only results matter. -/
theorem bind_yielding
    {property : α → Prop}
    {final : β → Prop}
    {next : α → Program I ε β}
    (first : program.Confined allowed (Yielding property))
    (rest :
      ∀ value, property value →
        (next value).Confined allowed (Yielding final)) :
    (program >>= next).Confined allowed (Yielding final) :=
  first.bind (fun _ _ => trivial) rest

/-- A program for each value in turn, where only results matter. -/
theorem collect_yielding
    {property : β → Prop}
    {action : α → Program I ε β}
    (each :
      ∀ value, (action value).Confined allowed (Yielding property))
    (values : List α) :
    (collect action values).Confined allowed
      (Yielding fun results => ∀ result ∈ results, property result) := by
  induction values with
  | nil => exact fun _ member => absurd member List.not_mem_nil
  | cons value rest ih =>
      apply (each value).bind_yielding
      intro first firstHolds
      apply ih.bind_yielding
      intro others othersHold
      exact List.forall_mem_cons.2 ⟨firstHolds, othersHold⟩

theorem mapError
    {change : ε → δ}
    {final : Except δ α → Prop}
    (confined : program.Confined allowed accepted)
    (ends : ∀ result, accepted result → final (result.mapError change)) :
    (program.mapError change).Confined allowed final := by
  induction program with
  | done result =>
      cases result with
      | ok value => exact ends (.ok value) confined
      | error error => exact ends (.error error) confined
  | note event next ih =>
      exact ih confined
  | ask call next ih =>
      rcases confined with ⟨callAllowed, rest⟩
      exact
        ⟨callAllowed,
          fun answer => ih answer (rest answer)⟩

theorem outcome
    {final : Except δ (Except ε α) → Prop}
    (confined : program.Confined allowed accepted)
    (ends : ∀ result, accepted result → final (.ok result)) :
    (program.outcome (δ := δ)).Confined allowed final := by
  induction program with
  | done result =>
      exact ends result confined
  | note event next ih =>
      exact ih confined
  | ask call next ih =>
      rcases confined with ⟨callAllowed, rest⟩
      exact
        ⟨callAllowed,
          fun answer => ih answer (rest answer)⟩

/-! ## Runs -/

variable {σ : Type}

theorem result_run
    (confined : program.Confined allowed accepted)
    (handler : Handler I σ)
    (state : σ) :
    accepted (program.run handler state).result := by
  induction program generalizing state with
  | done result =>
      exact confined
  | note event next ih =>
      exact ih confined state
  | ask call next ih =>
      exact
        ih (handler call state).1 (confined.2 _)
          (handler call state).2

theorem allowed_of_mem_calls
    (confined : program.Confined allowed accepted)
    (handler : Handler I σ)
    (state : σ)
    {call : I.Call}
    (member : call ∈ (program.run handler state).calls) :
    allowed call := by
  induction program generalizing state with
  | done result =>
      simp [run, Run.calls] at member
  | note event next ih =>
      exact ih confined state (by simpa [run, Run.calls] using member)
  | ask first next ih =>
      rcases confined with ⟨firstAllowed, rest⟩
      simp only [run, Run.calls, List.filterMap_cons,
        List.mem_cons] at member
      rcases member with rfl | later
      · exact firstAllowed
      · exact ih _ (rest _) _ later

end Confined

end PrivilegeGraph.Program
