import PrivilegeGraph.Proofs.Store.Execution

/-!
# What programs leave behind

A store may reply to one call in one way now and in another way later.  What
holds of a program all the same is a relation between the value it ends with
and the trace it leaves, which is all of its questions, answers and events in
order.  A program leaves such a relation when it only reads and, whatever the
replies are, ends with a value and a trace in that relation.  A run against any
store that fails no read then does so.
-/

namespace PrivilegeGraph.Store

open Program (Handler)

variable {σ ε α β ρ : Type}

/-- The questions with their answers and the events of a run, in order. -/
abbrev Trace : Type :=
  List (Program.Step interface)

/-- The events in a trace. -/
def Trace.events (trace : Trace) : List Event :=
  trace.filterMap fun
    | .noted event => some event
    | .asked _ _ => none

/-- Whether a store fails no read, whatever it replies. -/
def Succeeds (handler : Handler interface σ) : Prop :=
  ∀ call, Call.IsRead call → ∀ state,
    ∃ reply : call.Reply, (handler call state).1 = .ok reply

/-- Whether a program only reads and, whatever is replied, ends with a value and
leaves a trace that are related. -/
def Leaves
    (related : α → Trace → Prop) :
    Program interface ε α → Prop
  | .done (.ok value) => related value []
  | .done (.error _) => False
  | .note event next =>
      Leaves (fun value trace => related value (.noted event :: trace)) next
  | .ask call next =>
      Call.IsRead call ∧
        ∀ reply : call.Reply,
          Leaves
            (fun value trace =>
              related value (.asked call (.ok reply) :: trace))
            (next (.ok reply))

namespace Leaves

theorem report
    {related : Unit → Trace → Prop}
    {event : Event}
    (holds : related () [.noted event]) :
    Leaves related (Program.report event : Program interface ε Unit) :=
  holds

theorem request
    {call : Call}
    {related : call.Reply → Trace → Prop}
    (reads : call.IsRead)
    (holds : ∀ reply, related reply [.asked call (.ok reply)]) :
    Leaves related (Store.request call) :=
  ⟨reads, holds⟩

theorem weaken
    {related weaker : α → Trace → Prop}
    {program : Program interface ε α}
    (leaves : Leaves related program)
    (implies : ∀ value trace, related value trace → weaker value trace) :
    Leaves weaker program := by
  induction program generalizing related weaker with
  | done result =>
      cases result with
      | ok value => exact implies value [] leaves
      | error error => exact leaves
  | note event next ih => exact ih leaves fun value trace => implies value _
  | ask call next ih =>
      refine ⟨leaves.1, fun reply => ?_⟩
      exact ih _ (leaves.2 reply) fun value trace => implies value _

/-- The rule of sequence. -/
theorem bind
    {related : α → Trace → Prop}
    {final : β → Trace → Prop}
    {program : Program interface ε α}
    {next : α → Program interface ε β}
    (first : Leaves related program)
    (rest :
      ∀ value trace, related value trace →
        Leaves (fun result later => final result (trace ++ later))
          (next value)) :
    Leaves final (program >>= next) := by
  rw [Program.bind_eq]
  induction program generalizing related final with
  | done result =>
      cases result with
      | ok value => exact rest value [] first
      | error error => exact first.elim
  | note event program ih =>
      exact ih first fun value trace holds => rest value _ holds
  | ask call program ih =>
      refine ⟨first.1, fun reply => ?_⟩
      exact ih _ (first.2 reply) fun value trace holds => rest value _ holds

/-- A relation that holds of no rows, and of one row more when that row's own
values are added, holds of all rows. -/
theorem collect
    {action : ρ → Program interface ε α}
    {each : ρ → α → Trace → Prop}
    (all : List ρ → List α → Trace → Prop)
    (leaves : ∀ row, Leaves (each row) (action row))
    (nil : all [] [] [])
    (cons :
      ∀ {row value trace rest values later},
        each row value trace → all rest values later →
          all (row :: rest) (value :: values) (trace ++ later))
    (rows : List ρ) :
    Leaves (all rows) (Program.collect action rows) := by
  induction rows with
  | nil => exact nil
  | cons row rest ih =>
      apply (leaves row).bind
      intro value trace holds
      apply ih.bind
      intro values later othersHold
      show all (row :: rest) (value :: values) (trace ++ (later ++ []))
      rw [List.append_nil]
      exact cons holds othersHold

/-- A run against a store that fails no read ends with a value and leaves a
trace that are related. -/
theorem run
    {related : α → Trace → Prop}
    {program : Program interface ε α}
    {handler : Handler interface σ}
    (succeeds : Succeeds handler)
    (leaves : Leaves related program)
    (state : σ) :
    ∃ value,
      (program.run handler state).result = .ok value ∧
        related value (program.run handler state).steps := by
  induction program generalizing related state with
  | done result =>
      cases result with
      | ok value => exact ⟨value, rfl, leaves⟩
      | error error => exact leaves.elim
  | note event next ih => exact ih leaves state
  | ask call next ih =>
      rcases leaves with ⟨reads, continued⟩
      rcases succeeds call reads state with ⟨reply, answered⟩
      have later :
          Leaves
            (fun value trace =>
              related value (.asked call (handler call state).1 :: trace))
            (next (handler call state).1) := by
        rw [answered]
        exact continued reply
      exact ih _ later (handler call state).2

end Leaves

end PrivilegeGraph.Store
