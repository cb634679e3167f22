import PrivilegeGraph.Store

/-!
# Rules in order

A chain of rules is what a request has to meet, in the order in which it is
checked.  A rule asks for a value that meets a condition and names the error
of a request for which there is none; the rules after it may speak of that
value.  An answer of the store is a rule of its own: the store must not fail.

A result decides a chain when it accepts exactly if all rules are met and
otherwise is the error of the first rule that is not.
-/

namespace PrivilegeGraph.Administration

open Program (Handler)
open Store (Access)

/-- Rules that a request has to meet, in order. -/
inductive Rules : Type 1
  | done
  | need {α : Type} (meets : α → Prop) (error : Error)
      (next : (value : α) → meets value → Rules)
  | answered {α : Type} (answer : Except Fault α) (next : α → Rules)

namespace Rules

/-- A rule about what is known already. -/
def demand
    (holds : Prop)
    (error : Error)
    (next : holds → Rules) : Rules :=
  need (fun _ : Unit => holds) error fun _ held => next held

/-- Whether all rules are met. -/
def AllMet : Rules → Prop
  | done => True
  | need meets _ next => ∃ value, ∃ held : meets value, (next value held).AllMet
  | answered answer next =>
      ∃ value, answer = .ok value ∧ (next value).AllMet

/-- Whether the first rule that is not met has an error. -/
def FirstBroken (error : Error) : Rules → Prop
  | done => False
  | need meets own next =>
      (∀ value, ¬meets value) ∧ error = own ∨
        ∃ value, ∃ held : meets value, (next value held).FirstBroken error
  | answered answer next =>
      (∃ fault, answer = .error fault ∧ error = .storage fault) ∨
        ∃ value, answer = .ok value ∧ (next value).FirstBroken error

/-- Whether a result accepts exactly if all rules are met, and fails exactly
with the error of the first rule that is not. -/
structure DecideTo
    (rules : Rules)
    (result : Except Error Unit) : Prop where
  accepts : result = .ok () ↔ rules.AllMet
  refuses : ∀ error, result = .error error ↔ rules.FirstBroken error

theorem decideTo_done : done.DecideTo (.ok ()) where
  accepts := iff_of_true rfl trivial
  refuses _ := iff_of_false nofun id

section

variable
    {α : Type}
    {meets : α → Prop}
    {own : Error}
    {next : (value : α) → meets value → Rules}
    {result : Except Error Unit}

/-- Only one value may meet the condition: the rules after it would speak of
another value otherwise. -/
theorem decideTo_of_meets
    (value : α)
    (held : meets value)
    (only : ∀ other, meets other → other = value)
    (rest : (next value held).DecideTo result) :
    (need meets own next).DecideTo result where
  accepts := by
    rw [rest.accepts]
    constructor
    · intro met
      exact ⟨value, held, met⟩
    · rintro ⟨other, otherHeld, met⟩
      cases only other otherHeld
      exact met
  refuses error := by
    rw [rest.refuses]
    constructor
    · intro broken
      exact Or.inr ⟨value, held, broken⟩
    · rintro (⟨unmet, _⟩ | ⟨other, otherHeld, broken⟩)
      · exact absurd held (unmet value)
      · cases only other otherHeld
        exact broken

theorem decideTo_of_not_meets
    (unmet : ∀ value, ¬meets value) :
    (need meets own next).DecideTo (.error own) where
  accepts := by
    refine iff_of_false nofun ?_
    rintro ⟨value, held, _⟩
    exact unmet value held
  refuses error := by
    constructor
    · rintro ⟨⟩
      exact Or.inl ⟨unmet, rfl⟩
    · rintro (⟨_, rfl⟩ | ⟨value, held, _⟩)
      · rfl
      · exact absurd held (unmet value)

end

section

variable
    {α : Type}
    {next : α → Rules}

theorem decideTo_of_answer
    {value : α}
    {result : Except Error Unit}
    (rest : (next value).DecideTo result) :
    (answered (.ok value) next).DecideTo result where
  accepts := by
    rw [rest.accepts]
    constructor
    · intro met
      exact ⟨value, rfl, met⟩
    · rintro ⟨_, ⟨⟩, met⟩
      exact met
  refuses error := by
    rw [rest.refuses]
    constructor
    · intro broken
      exact Or.inr ⟨value, rfl, broken⟩
    · rintro (⟨_, ⟨⟩, _⟩ | ⟨_, ⟨⟩, broken⟩)
      exact broken

theorem decideTo_of_fault {fault : Fault} :
    (answered (.error fault) next).DecideTo (.error (.storage fault)) where
  accepts := by
    refine iff_of_false nofun ?_
    rintro ⟨_, ⟨⟩, _⟩
  refuses error := by
    constructor
    · rintro ⟨⟩
      exact Or.inl ⟨fault, rfl, rfl⟩
    · rintro (⟨_, ⟨⟩, rfl⟩ | ⟨_, ⟨⟩, _⟩)
      rfl

end

/-! ## Rules and programs -/

section

variable
    {σ α : Type}
    {handler : Handler Store.interface σ}
    {state : σ}

/-- A check that fails in one way only is one rule. -/
theorem decideTo_check
    {check : Except Error α}
    {meets : α → Prop}
    {own : Error}
    (accepts : ∀ value, check = .ok value ↔ meets value)
    (refuses : ∀ error, check = .error error → error = own)
    {next : (value : α) → meets value → Rules}
    {rest : α → Access Unit}
    (continues :
      ∀ value held,
        (next value held).DecideTo ((rest value).run handler state).result) :
    (need meets own next).DecideTo
      ((Program.ofExcept check >>= rest).run handler state).result := by
  cases checked : check with
  | ok value =>
      have held := (accepts value).1 checked
      refine decideTo_of_meets value held ?_ (continues value held)
      intro other otherHeld
      have same := (accepts other).2 otherHeld
      rw [checked] at same
      exact (Except.ok.inj same).symm
  | error error =>
      rw [refuses error checked]
      apply decideTo_of_not_meets
      intro value held
      rw [(accepts value).2 held] at checked
      cases checked

/-- A check of what is known already is a demand. -/
theorem decideTo_test
    {check : Except Error α}
    {holds : Prop}
    {own : Error}
    {next : holds → Rules}
    {rest : α → Access Unit}
    (accepts :
      ∀ held : holds, ∃ value, check = .ok value ∧
        (next held).DecideTo ((rest value).run handler state).result)
    (refuses : ¬holds → check = .error own) :
    (demand holds own next).DecideTo
      ((Program.ofExcept check >>= rest).run handler state).result := by
  by_cases held : holds
  · rcases accepts held with ⟨value, passed, continues⟩
    rw [passed]
    exact decideTo_of_meets () held (fun _ _ => rfl) continues
  · rw [refuses held]
    exact decideTo_of_not_meets fun _ => held

/-- A question to the store is the rule that it does not fail. -/
theorem decideTo_request
    {call : Store.Call}
    {next : call.Reply → Rules}
    {rest : call.Reply → Access Unit}
    (continues :
      ∀ reply,
        (next reply).DecideTo
          ((rest reply).run handler (handler call state).2).result) :
    (answered (handler call state).1 next).DecideTo
      ((Store.request call >>= rest).run handler state).result := by
  simp only [Store.request, Program.bind_eq, Program.bind, Program.run]
  cases answer : (handler call state).1 with
  | ok reply => exact decideTo_of_answer (continues reply)
  | error fault => exact decideTo_of_fault

end

end Rules

end PrivilegeGraph.Administration
