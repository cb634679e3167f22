import Mathlib.Data.List.Forall2
import PrivilegeGraph.Program

/-!
# Programs under a contract

A contract says which questions a party expects and which answers it may give
to them.  A program is assured of its ends by a contract when it keeps to the
expected questions and, as long as every answer is one that the contract
allows, ends in an accepted way.  Against a party that keeps the contract a run
then ends so as well.
-/

namespace PrivilegeGraph.Program

/-- The questions that are expected and the answers that are allowed. -/
structure Contract (I : Interface) where
  expects : I.Call → Prop
  allows : (call : I.Call) → I.Answer call → Prop

variable {I : Interface} {ε δ α β σ : Type}

/-- Whether a party, from some states on, gives allowed answers to expected
questions and stays in these states. -/
def Contract.KeptBy
    (contract : Contract I)
    (handler : Handler I σ)
    (states : σ → Prop) : Prop :=
  ∀ call, contract.expects call → ∀ state, states state →
    contract.allows call (handler call state).1 ∧
      states (handler call state).2

/-- Expected questions only, and accepted ends as long as the answers are
allowed. -/
def Assured
    (contract : Contract I)
    (accepted : Except ε α → Prop) :
    Program I ε α → Prop
  | done result => accepted result
  | note _ next => next.Assured contract accepted
  | ask call next =>
      contract.expects call ∧
        ∀ answer, contract.allows call answer →
          (next answer).Assured contract accepted

namespace Assured

variable
    {contract : Contract I}
    {accepted : Except ε α → Prop}
    {program : Program I ε α}

theorem weaken
    {weaker : Except ε α → Prop}
    (assured : program.Assured contract accepted)
    (implies : ∀ result, accepted result → weaker result) :
    program.Assured contract weaker := by
  induction program with
  | done result => exact implies result assured
  | note event next ih => exact ih assured
  | ask call next ih =>
      rcases assured with ⟨expected, rest⟩
      exact ⟨expected, fun answer allowed => ih answer (rest answer allowed)⟩

/-- The rule of sequence. -/
theorem bind
    {final : Except ε β → Prop}
    {next : α → Program I ε β}
    (first : program.Assured contract accepted)
    (errors : ∀ error, accepted (.error error) → final (.error error))
    (rest :
      ∀ value, accepted (.ok value) →
        (next value).Assured contract final) :
    (program >>= next).Assured contract final := by
  rw [bind_eq]
  induction program with
  | done result =>
      cases result with
      | ok value => exact rest value first
      | error error => exact errors error first
  | note event program ih => exact ih first
  | ask call program ih =>
      rcases first with ⟨expected, continued⟩
      exact
        ⟨expected,
          fun answer allowed => ih answer (continued answer allowed)⟩

/-- A program that is assured of one result is followed by what comes after
that result. -/
theorem bind_eq_ok
    {value : α}
    {final : Except ε β → Prop}
    {next : α → Program I ε β}
    (first : program.Assured contract (· = .ok value))
    (rest : (next value).Assured contract final) :
    (program >>= next).Assured contract final := by
  apply first.bind
  · intro error impossible
    cases impossible
  · rintro _ ⟨⟩
    exact rest

/-- Programs that are each assured of one result are together assured of the
list of them. -/
theorem collect
    {action : α → Program I ε β}
    {values : List α}
    {results : List β}
    (each :
      List.Forall₂
        (fun value result =>
          (action value).Assured contract (· = .ok result))
        values results) :
    (Program.collect action values).Assured contract (· = .ok results) := by
  induction each with
  | nil => exact rfl
  | cons first _ ih => exact first.bind_eq_ok (ih.bind_eq_ok rfl)

theorem mapError
    {change : ε → δ}
    {final : Except δ α → Prop}
    (assured : program.Assured contract accepted)
    (ends : ∀ result, accepted result → final (result.mapError change)) :
    (program.mapError change).Assured contract final := by
  induction program with
  | done result =>
      cases result with
      | ok value => exact ends (.ok value) assured
      | error error => exact ends (.error error) assured
  | note event next ih => exact ih assured
  | ask call next ih =>
      rcases assured with ⟨expected, rest⟩
      exact ⟨expected, fun answer allowed => ih answer (rest answer allowed)⟩

theorem run
    {handler : Handler I σ}
    {states : σ → Prop}
    (kept : contract.KeptBy handler states)
    {state : σ}
    (start : states state)
    (assured : program.Assured contract accepted) :
    accepted (program.run handler state).result ∧
      states (program.run handler state).state := by
  induction program generalizing state with
  | done result => exact ⟨assured, start⟩
  | note event next ih => exact ih start assured
  | ask call next ih =>
      rcases assured with ⟨expected, rest⟩
      rcases kept call expected state start with ⟨allowed, stays⟩
      exact ih _ stays (rest _ allowed)

end Assured

end PrivilegeGraph.Program
