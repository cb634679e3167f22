import PrivilegeGraph.Proofs.Program.Confinement
import PrivilegeGraph.Store

/-!
# Statements handed to the store

A run attempts a statement when it hands one to the store, and executes it
when the store does not fail.  A program that only reads attempts none.  An
atomic program reads, then hands over one statement, and asks nothing after
it: it succeeds exactly when the statement was executed.

Both sorts of programs are told apart by the server's generation as well, as
some tables are there to be read on modern servers only.
-/

namespace PrivilegeGraph.Store

open Program (Handler Run)

/-- The statement that a call hands over, if it hands one over. -/
def Call.statement? : Call → Option String
  | .execute statement => some statement
  | _ => none

/-- Whether a call leaves the server as it is. -/
def Call.IsRead (call : Call) : Prop :=
  call.statement? = none

/-- Whether servers of a generation have what a call is about.  Only modern
servers keep dynamic privileges and role edges. -/
def Call.Suits (generation : Generation) : Call → Prop
  | .globalGrants _ _ => generation = .modern
  | .roleEdges _ _ => generation = .modern
  | _ => True

/-- Whether a call only reads, and only what servers of a generation have. -/
def Call.IsReadOn (generation : Generation) (call : Call) : Prop :=
  call.IsRead ∧ call.Suits generation

variable
    {generation : Generation}
    {σ ε δ α β : Type}

/-- The statements that a run handed over, in order, executed or not. -/
def attempted (run : Run interface σ ε α) : List String :=
  run.calls.filterMap Call.statement?

/-- A request ends with the reply, or with the fault as its error. -/
theorem result_run_request
    (call : Call)
    (handler : Handler interface σ)
    (state : σ) :
    ((request call).run handler state).result =
      (handler call state).1.mapError Error.storage := by
  show (Program.run handler _ (handler call state).2).result = _
  cases (handler call state).1 with
  | ok reply => rfl
  | error fault => rfl

theorem executed_note
    (event : Event)
    (program : Program interface ε α)
    (handler : Handler interface σ)
    (state : σ) :
    executed ((Program.note event program).run handler state) =
      executed (program.run handler state) := by
  rfl

theorem executed_ask_of_isRead
    {call : interface.Call}
    (reads : Call.IsRead call)
    (next : interface.Answer call → Program interface ε α)
    (handler : Handler interface σ)
    (state : σ) :
    executed ((Program.ask call next).run handler state) =
      executed
        ((next (handler call state).1).run handler (handler call state).2) := by
  cases call with
  | execute statement => cases reads
  | _ => rfl

theorem executed_ask_execute
    (statement : String)
    (next : Except Fault Unit → Program interface ε α)
    (handler : Handler interface σ)
    (state : σ) :
    executed
        ((Program.ask (I := interface) (.execute statement) next).run handler
          state) =
      (if (handler (.execute statement) state).1.isOk then [statement]
        else []) ++
        executed
          ((next (handler (.execute statement) state).1).run handler
            (handler (.execute statement) state).2) := by
  simp only [executed, Program.run]
  cases (handler (.execute statement) state).1 with
  | ok reply => rfl
  | error fault => rfl

theorem attempted_ask
    (call : interface.Call)
    (next : interface.Answer call → Program interface ε α)
    (handler : Handler interface σ)
    (state : σ) :
    attempted ((Program.ask call next).run handler state) =
      (Call.statement? call).toList ++
        attempted
          ((next (handler call state).1).run handler
            (handler call state).2) := by
  cases call <;> rfl

/-- What follows a result hands over its statements after those before. -/
theorem attempted_bind
    (program : Program interface ε α)
    (next : α → Program interface ε β)
    (handler : Handler interface σ)
    (state : σ) :
    attempted ((program >>= next).run handler state) =
      attempted (program.run handler state) ++
        match (program.run handler state).result with
        | .ok value =>
            attempted
              ((next value).run handler (program.run handler state).state)
        | .error _ => [] := by
  rw [attempted, Program.calls_run_bind]
  cases (program.run handler state).result with
  | ok value => exact List.filterMap_append
  | error error => exact List.filterMap_append

/-- What was executed was handed over. -/
theorem executed_subset_attempted (run : Run interface σ ε α) :
    executed run ⊆ attempted run := by
  intro text member
  rcases List.mem_filterMap.1 member with ⟨step, inRun, gave⟩
  cases step with
  | noted event => cases gave
  | asked call answer =>
      refine List.mem_filterMap.2 ⟨call, ?_, ?_⟩
      · exact List.mem_filterMap.2 ⟨.asked call answer, inRun, rfl⟩
      · cases call with
        | execute statement =>
            cases answer with
            | ok reply => exact gave
            | error fault => cases gave
        | _ => cases gave

/-! ## Programs that only read -/

theorem isReadOn_request
    {call : Call}
    (reads : call.IsReadOn generation)
    {accepted : Except Error call.Reply → Prop}
    (faults : ∀ fault, accepted (.error (.storage fault)))
    (replies : ∀ reply, accepted (.ok reply)) :
    (request call).Confined (Call.IsReadOn generation) accepted := by
  refine ⟨reads, ?_⟩
  intro answer
  cases answer with
  | ok reply => exact replies reply
  | error fault => exact faults fault

/-- Whether a program only reads what servers of a generation have, however it
ends. -/
def Reading
    (generation : Generation)
    (program : Program interface ε α) : Prop :=
  program.Confined (Call.IsReadOn generation) fun _ => True

namespace Reading

theorem request
    {call : Call}
    (reads : call.IsReadOn generation) :
    Reading generation (Store.request call) :=
  isReadOn_request reads (fun _ => trivial) fun _ => trivial

theorem bind
    {program : Program interface ε α}
    {next : α → Program interface ε β}
    (first : Reading generation program)
    (rest : ∀ value, Reading generation (next value)) :
    Reading generation (program >>= next) :=
  Program.Confined.bind first (fun _ _ => trivial) fun value _ => rest value

theorem bind_yielding
    {program : Program interface ε α}
    {next : α → Program interface ε β}
    {property : β → Prop}
    (first : Reading generation program)
    (rest :
      ∀ value,
        (next value).Confined (Call.IsReadOn generation)
          (Program.Yielding property)) :
    (program >>= next).Confined (Call.IsReadOn generation)
      (Program.Yielding property) :=
  Program.Confined.bind first (fun _ _ => trivial) fun value _ => rest value

theorem mapError
    {program : Program interface ε α}
    {change : ε → δ}
    (reads : Reading generation program) :
    Reading generation (program.mapError change) :=
  Program.Confined.mapError reads fun _ _ => trivial

theorem outcome
    {program : Program interface ε α}
    (reads : Reading generation program) :
    Reading generation (program.outcome (δ := δ)) :=
  Program.Confined.outcome reads fun _ _ => trivial

theorem isRead
    {program : Program interface ε α}
    (reads : Reading generation program) :
    program.Confined Call.IsRead fun _ => True :=
  reads.weaken (fun _ readsOn => readsOn.1) fun _ _ => trivial

end Reading

theorem attempted_eq_nil
    {program : Program interface ε α}
    {accepted : Except ε α → Prop}
    (reads : program.Confined Call.IsRead accepted)
    (handler : Handler interface σ)
    (state : σ) :
    attempted (program.run handler state) = [] := by
  apply List.filterMap_eq_nil_iff.2
  intro call member
  exact reads.allowed_of_mem_calls handler state member

theorem executed_eq_nil
    {program : Program interface ε α}
    {accepted : Except ε α → Prop}
    (reads : program.Confined Call.IsRead accepted)
    (handler : Handler interface σ)
    (state : σ) :
    executed (program.run handler state) = [] := by
  induction program generalizing state with
  | done result => rfl
  | note event next ih =>
      rw [executed_note]
      exact ih reads state
  | ask call next ih =>
      rcases reads with ⟨callReads, rest⟩
      rw [executed_ask_of_isRead callReads]
      exact ih _ (rest _) _

/-! ## Atomic programs -/

/-- No more questions are asked, and the end is an accepted one. -/
def Settled
    (accepted : Except ε α → Prop)
    (program : Program interface ε α) : Prop :=
  program.Confined (fun _ => False) accepted

/-- Reads of what servers of a generation have, then one statement on whose
execution alone success depends.  What is refused on the way hands nothing
over. -/
inductive Atomic (generation : Generation) :
    Program interface ε α → Prop
  | refused (error : ε) : Atomic generation (.done (.error error))
  | note
      {event : Event}
      {next : Program interface ε α}
      (rest : Atomic generation next) :
      Atomic generation (.note event next)
  | read
      {call : Call}
      {next : Except Fault call.Reply → Program interface ε α}
      (reads : call.IsReadOn generation)
      (rest : ∀ answer, Atomic generation (next answer)) :
      Atomic generation (.ask call next)
  | execute
      {statement : String}
      {next : Except Fault Unit → Program interface ε α}
      (fails :
        ∀ fault, Settled (fun result => result.isOk = false)
          (next (.error fault)))
      (succeeds :
        Settled (fun result => result.isOk = true) (next (.ok ()))) :
      Atomic generation (.ask (.execute statement) next)

theorem Settled.attempted_eq_nil
    {program : Program interface ε α}
    {accepted : Except ε α → Prop}
    (settled : Settled accepted program)
    (handler : Handler interface σ)
    (state : σ) :
    attempted (program.run handler state) = [] :=
  Store.attempted_eq_nil
    (settled.weaken (fun _ impossible => impossible.elim) fun _ holds => holds)
    handler state

theorem Settled.executed_eq_nil
    {program : Program interface ε α}
    {accepted : Except ε α → Prop}
    (settled : Settled accepted program)
    (handler : Handler interface σ)
    (state : σ) :
    executed (program.run handler state) = [] :=
  Store.executed_eq_nil
    (settled.weaken (fun _ impossible => impossible.elim) fun _ holds => holds)
    handler state

theorem Settled.mapError
    {ok : Bool}
    {program : Program interface ε α}
    {change : ε → δ}
    (settled : Settled (fun result => result.isOk = ok) program) :
    Settled (fun result => result.isOk = ok) (program.mapError change) := by
  apply Program.Confined.mapError settled
  intro result accepted
  cases result with
  | ok value => exact accepted
  | error error => exact accepted

/-- Handing over a statement on whose execution alone success depends. -/
theorem run_execute
    {statement : String}
    {next : Except Fault Unit → Program interface ε α}
    (fails :
      ∀ fault, Settled (fun result => result.isOk = false)
        (next (.error fault)))
    (succeeds :
      Settled (fun result => result.isOk = true) (next (.ok ())))
    (handler : Handler interface σ)
    (state : σ) :
    let run :=
      (Program.ask (I := interface) (.execute statement) next).run handler state
    attempted run = [statement] ∧
      run.result.isOk = (handler (.execute statement) state).1.isOk ∧
      executed run =
        if (handler (.execute statement) state).1.isOk then [statement]
        else [] := by
  intro run
  have tried : attempted run = statement :: attempted _ :=
    attempted_ask (.execute statement) next handler state
  have gave : executed run = _ :=
    executed_ask_execute statement next handler state
  have ended :
      run.result =
        ((next (handler (.execute statement) state).1).run handler
          (handler (.execute statement) state).2).result := rfl
  rw [tried, gave, ended]
  cases (handler (.execute statement) state).1 with
  | error fault =>
      exact
        ⟨congrArg (statement :: ·)
            ((fails fault).attempted_eq_nil handler _),
          (fails fault).result_run handler _,
          (fails fault).executed_eq_nil handler _⟩
  | ok reply =>
      exact
        ⟨congrArg (statement :: ·) (succeeds.attempted_eq_nil handler _),
          succeeds.result_run handler _,
          congrArg (statement :: ·) (succeeds.executed_eq_nil handler _)⟩

/-- Whether a run was refused with at most one attempt and no execution, or
succeeded with one attempt, which was executed. -/
def AllOrNothing (run : Run interface σ ε α) : Prop :=
  (run.result.isOk = false ∧ executed run = [] ∧
      (attempted run).length ≤ 1) ∨
    ∃ statement,
      run.result.isOk = true ∧ executed run = [statement] ∧
        attempted run = [statement]

namespace Atomic

theorem mapError
    {program : Program interface ε α}
    {change : ε → δ}
    (atomic : Atomic generation program) :
    Atomic generation (program.mapError change) := by
  induction atomic with
  | refused error => exact refused (change error)
  | note rest ih => exact note ih
  | read reads rest ih => exact read reads ih
  | execute fails succeeds =>
      exact execute (fun fault => (fails fault).mapError) succeeds.mapError

/-- What only reads can stand before an atomic program. -/
theorem bind_reads
    {program : Program interface ε α}
    {accepted : Except ε α → Prop}
    {next : α → Program interface ε β}
    (reads : program.Confined (Call.IsReadOn generation) accepted)
    (rest : ∀ value, Atomic generation (next value)) :
    Atomic generation (program.bind next) := by
  induction program with
  | done result =>
      cases result with
      | ok value => exact rest value
      | error error => exact refused error
  | note event program ih =>
      exact note (ih reads)
  | ask call program ih =>
      rcases reads with ⟨callReads, continued⟩
      exact read callReads fun answer => ih answer (continued answer)

/-- After an atomic program nothing may be asked or refused. -/
theorem bind_settled
    {program : Program interface ε α}
    {next : α → Program interface ε β}
    (atomic : Atomic generation program)
    (rest :
      ∀ value, Settled (fun result => result.isOk = true) (next value)) :
    Atomic generation (program.bind next) := by
  induction atomic with
  | refused error => exact refused error
  | note _ ih => exact note ih
  | read reads _ ih => exact read reads ih
  | execute fails succeeds =>
      refine execute ?_ ?_
      · intro fault
        refine Program.Confined.bind (fails fault) (fun _ failed => failed) ?_
        intro value accepted
        cases accepted
      · refine Program.Confined.bind succeeds ?_ fun value _ => rest value
        intro error accepted
        cases accepted

/-- An atomic program asks for nothing that the server does not have. -/
theorem suits
    {program : Program interface ε α}
    (atomic : Atomic generation program) :
    program.Confined (Call.Suits generation) fun _ => True := by
  induction atomic with
  | refused error => exact trivial
  | note rest ih => exact ih
  | read reads rest ih => exact ⟨reads.2, ih⟩
  | execute fails succeeds =>
      refine ⟨trivial, ?_⟩
      intro answer
      cases answer with
      | error fault =>
          exact (fails fault).weaken nofun fun _ _ => trivial
      | ok reply => exact succeeds.weaken nofun fun _ _ => trivial

/-- A run of an atomic program is all or nothing. -/
theorem allOrNothing
    {program : Program interface ε α}
    (atomic : Atomic generation program)
    (handler : Handler interface σ)
    (state : σ) :
    AllOrNothing (program.run handler state) := by
  induction atomic generalizing state with
  | refused error =>
      exact Or.inl ⟨rfl, rfl, Nat.zero_le 1⟩
  | note rest ih =>
      exact ih state
  | @read call next reads rest ih =>
      have executedLater :=
        executed_ask_of_isRead reads.1 next handler state
      have attemptedLater := attempted_ask call next handler state
      rw [show Call.statement? call = none from reads.1] at attemptedLater
      rw [AllOrNothing, executedLater, attemptedLater]
      exact ih _ _
  | @execute statement next fails succeeds =>
      rcases run_execute fails succeeds handler state with
        ⟨tried, succeeded, one⟩
      cases ok : (handler (.execute statement) state).1.isOk with
      | false =>
          rw [ok] at succeeded one
          exact Or.inl ⟨succeeded, one, by simp [tried]⟩
      | true =>
          rw [ok] at succeeded one
          exact Or.inr ⟨statement, succeeded, one, tried⟩

end Atomic

end PrivilegeGraph.Store
