import PrivilegeGraph.Proofs.Store.View

/-!
# Programs that follow a script

A script is a list of reads.  A program follows it when it makes these reads in
order as long as none of them fails, and then asks no more and ends with a
value; a read that fails ends it at once, with the fault as its error.  Scripts
are put together as programs are.  Against a store that always gives one read
one answer, a run of a program that follows a script is known from the script
and the answers alone.
-/

namespace PrivilegeGraph.Store

open Program (Handler Run)

/-- One answer for each call. -/
abbrev Answers : Type :=
  (call : Call) → Except Fault call.Reply

/-- What a store that holds nothing replies. -/
def Call.nothing : (call : Call) → call.Reply
  | serverInfo => ⟨"", ""⟩
  | ping | execute _ => ()
  | getAccount _ _ | routineType _ _ => none
  | listDatabases _ _ | listTables _ _ | listColumns _ _ _ | listRoutines _ _
  | listAccounts _ _ _ | globalGrants _ _ | databaseGrants _ _ | tableGrants _ _
  | columnGrants _ _ | proxyGrants _ _ | roleEdges _ _ => []

/-- The replies among the answers, where calls that fail are taken to find
nothing. -/
def Answers.view (answers : Answers) : View := fun call =>
  match answers call with
  | .ok reply => reply
  | .error _ => call.nothing

theorem Answers.view_of_ok
    {answers : Answers}
    {call : Call}
    {reply : call.Reply}
    (answered : answers call = .ok reply) :
    answers.view call = reply := by
  simp [view, answered]

theorem Answers.eq_ok_view
    {answers : Answers}
    {call : Call}
    (succeeds : (answers call).isOk = true) :
    answers call = .ok (answers.view call) := by
  cases answered : answers call with
  | ok reply => rw [view_of_ok answered]
  | error fault =>
      rw [answered] at succeeds
      cases succeeds

/-- Among calls not all of which succeed there is a first that fails. -/
theorem Answers.exists_first_error
    {answers : Answers}
    {script : List Call}
    (fail : ¬∀ call ∈ script, (answers call).isOk = true) :
    ∃ (before : List Call) (call : Call) (after : List Call) (fault : Fault),
      script = before ++ call :: after ∧
        (∀ earlier ∈ before, (answers earlier).isOk = true) ∧
          answers call = .error fault := by
  induction script with
  | nil => exact absurd (fun _ none => absurd none List.not_mem_nil) fail
  | cons call rest ih =>
      cases answered : answers call with
      | error fault =>
          refine ⟨[], call, rest, fault, rfl, ?_, answered⟩
          intro earlier none
          exact absurd none List.not_mem_nil
      | ok reply =>
          have here : (answers call).isOk = true := by
            rw [answered]
            rfl
          have later : ¬∀ call ∈ rest, (answers call).isOk = true :=
            fun succeed => fail (List.forall_mem_cons.2 ⟨here, succeed⟩)
          rcases ih later with ⟨before, one, after, fault, rfl, ok, failed⟩
          exact
            ⟨call :: before, one, after, fault, rfl,
              List.forall_mem_cons.2 ⟨here, ok⟩, failed⟩

/-- Whether a store gives its reads the answers that it has for them, and
keeps these. -/
def Repeats
    {σ : Type}
    (handler : Handler interface σ)
    (answers : σ → Answers) : Prop :=
  ∀ call, Call.IsRead call → ∀ state,
    (handler call state).1 = answers state call ∧
      answers (handler call state).2 = answers state

theorem Memory.repeats_handler : Repeats handler answer :=
  fun _ _ _ => ⟨rfl, rfl⟩

variable {σ α β ρ : Type}

/-- Whether a program makes the reads of a script as long as none fails, ends
with a value that has a property if none does, and with the fault of the first
that does. -/
def Follows
    (answers : Answers)
    (property : α → Prop) :
    Access α → List Call → Prop
  | .done (.ok value), script => script = [] ∧ property value
  | .done (.error _), _ => False
  | .note _ next, script => Follows answers property next script
  | .ask call next, script =>
      Call.IsRead call ∧
        ∃ rest : List Call, script = call :: rest ∧
          (∀ reply, answers call = .ok reply →
            Follows answers property (next (.ok reply)) rest) ∧
          ∀ fault, answers call = .error fault →
            next (.error fault) = .done (.error (.storage fault))

namespace Follows

variable
    {answers : Answers}
    {script script' : List Call}

theorem pure
    {property : α → Prop}
    {value : α}
    (holds : property value) :
    Follows answers property (Pure.pure value) [] :=
  ⟨rfl, holds⟩

theorem report (event : Event) :
    Follows answers (fun _ => True) (Program.report event) [] :=
  ⟨rfl, trivial⟩

theorem request
    {call : Call}
    (reads : call.IsRead) :
    Follows answers (· = answers.view call) (Store.request call) [call] := by
  refine ⟨reads, [], rfl, ?_, ?_⟩
  · intro reply answered
    exact ⟨rfl, (Answers.view_of_ok answered).symm⟩
  · intro fault _
    rfl

/-- The rule of sequence. -/
theorem bind
    {property : α → Prop}
    {final : β → Prop}
    {program : Access α}
    {next : α → Access β}
    (first : Follows answers property program script)
    (rest :
      ∀ value, property value →
        Follows answers final (next value) script') :
    Follows answers final (program >>= next) (script ++ script') := by
  rw [Program.bind_eq]
  induction program generalizing script with
  | done result =>
      cases result with
      | ok value =>
          rcases first with ⟨rfl, holds⟩
          exact rest value holds
      | error error => exact first.elim
  | note event program ih => exact ih first
  | ask call program ih =>
      rcases first with ⟨reads, later, rfl, replied, failed⟩
      refine ⟨reads, later ++ script', rfl, ?_, ?_⟩
      · intro reply answered
        exact ih _ (replied reply answered)
      · intro fault answered
        exact congrArg (Program.bind · next) (failed fault answered)

/-- What asks nothing more leaves the script as it is. -/
theorem andThen
    {property : α → Prop}
    {final : β → Prop}
    {program : Access α}
    {next : α → Access β}
    (first : Follows answers property program script)
    (rest :
      ∀ value, property value → Follows answers final (next value) []) :
    Follows answers final (program >>= next) script := by
  have both := first.bind rest
  rwa [List.append_nil] at both

/-- Programs that follow their scripts one after the other follow all of
them. -/
theorem collect
    {scriptOf : ρ → List Call}
    {action : ρ → Access α}
    (each : ∀ row, Follows answers (fun _ => True) (action row) (scriptOf row))
    (rows : List ρ) :
    Follows answers (fun _ => True) (Program.collect action rows)
      (rows.flatMap scriptOf) := by
  induction rows with
  | nil => exact pure trivial
  | cons row rest ih =>
      rw [List.flatMap_cons]
      apply (each row).bind
      intro first _
      apply ih.andThen
      intro others _
      exact pure trivial

theorem collect_silent
    {action : ρ → Access α}
    (each : ∀ row, Follows answers (fun _ => True) (action row) [])
    (rows : List ρ) :
    Follows answers (fun _ => True) (Program.collect action rows) [] := by
  have all := collect each rows
  rwa [List.flatMap_eq_nil_iff.2 fun _ _ => rfl] at all

/-- Programs of which only some make a read, and then just one. -/
theorem collect_where
    {action : ρ → Access α}
    {wanted : ρ → Bool}
    {call : ρ → Call}
    (asking :
      ∀ row, wanted row = true →
        Follows answers (fun _ => True) (action row) [call row])
    (silent :
      ∀ row, wanted row = false →
        Follows answers (fun _ => True) (action row) [])
    (rows : List ρ) :
    Follows answers (fun _ => True) (Program.collect action rows)
      ((rows.filter wanted).map call) := by
  have each :
      ∀ row,
        Follows answers (fun _ => True) (action row)
          (if wanted row then [call row] else []) := by
    intro row
    split
    · next holds => exact asking row holds
    · next fails => exact silent row (eq_false_of_ne_true fails)
  have same :
      (rows.flatMap fun row => if wanted row then [call row] else []) =
        (rows.filter wanted).map call := by
    induction rows with
    | nil => rfl
    | cons row rest ih =>
        rw [List.flatMap_cons, List.filter_cons, ih]
        split <;> rfl
  rw [← same]
  exact collect each rows

/-- If no read of the script fails, a program ends with what it gives from the
answers. -/
theorem of_gives
    {property final : α → Prop}
    {program : Access α}
    {view : View}
    (follows : Follows answers property program script)
    (answered : ∀ call ∈ script, answers call = .ok (view call))
    (gives : Gives view final program) :
    Follows answers final program script := by
  induction program generalizing script with
  | done result =>
      cases result with
      | ok value => exact ⟨follows.1, gives⟩
      | error error => exact gives.elim
  | note event next ih => exact ih follows answered gives
  | ask call next ih =>
      rcases follows with ⟨reads, rest, rfl, replied, failed⟩
      refine ⟨reads, rest, rfl, ?_, failed⟩
      intro reply here
      have same := answered call List.mem_cons_self
      rw [here] at same
      cases same
      apply ih _ (replied _ here) _ gives.2
      intro later among
      exact answered later (List.mem_cons_of_mem call among)

end Follows

/-! ## Runs -/

/-- Whether a run makes all reads of a script and succeeds if none of them
fails, and otherwise makes those up to the first that fails and ends with its
fault. -/
structure Conducts
    (answers : Answers)
    (script : List Call)
    (run : Run interface σ Error α) : Prop where
  isOk_iff :
    run.result.isOk = true ↔ ∀ call ∈ script, (answers call).isOk = true
  calls_of_isOk : run.result.isOk = true → run.calls = script
  stops :
    ∀ (before : List Call) call after fault,
      script = before ++ call :: after →
        (∀ earlier ∈ before, (answers earlier).isOk = true) →
          answers call = .error fault →
            run.calls = before ++ [call] ∧
              run.result = .error (.storage fault)

section

variable
    {handler : Handler interface σ}
    {answers : σ → Answers}
    (repeats : Repeats handler answers)
    {property : α → Prop}

include repeats

/-- What a store's answer to the first read of a script leaves to be done. -/
theorem Follows.step
    {call : Call}
    {next : Except Fault call.Reply → Access α}
    {script : List Call}
    {state : σ}
    (follows : Follows (answers state) property (.ask call next) script) :
    ∃ rest, script = call :: rest ∧
      answers (handler call state).2 = answers state ∧
        ((answers state call).isOk = true →
          Follows (answers state) property (next (handler call state).1)
            rest) ∧
          ∀ fault, answers state call = .error fault →
            next (handler call state).1 = .done (.error (.storage fault)) := by
  rcases follows with ⟨reads, rest, rfl, replied, failed⟩
  rcases repeats call reads state with ⟨answered, kept⟩
  refine ⟨rest, rfl, kept, ?_, ?_⟩
  · intro succeeds
    rw [answered]
    cases replies : answers state call with
    | ok reply => exact replied reply replies
    | error fault =>
        rw [replies] at succeeds
        cases succeeds
  · intro fault fails
    rw [answered, fails]
    exact failed fault fails

theorem Follows.run_ok
    {program : Access α}
    {script : List Call}
    {state : σ}
    (follows : Follows (answers state) property program script)
    (succeed : ∀ call ∈ script, (answers state call).isOk = true) :
    ∃ value,
      (program.run handler state).result = .ok value ∧ property value ∧
        (program.run handler state).calls = script := by
  induction program generalizing script state with
  | done result =>
      cases result with
      | ok value =>
          rcases follows with ⟨rfl, holds⟩
          exact ⟨value, rfl, holds, rfl⟩
      | error error => exact follows.elim
  | note event next ih => exact ih follows succeed
  | ask call next ih =>
      rcases follows.step repeats with ⟨rest, rfl, kept, continues, _⟩
      rcases List.forall_mem_cons.1 succeed with ⟨here, others⟩
      have later := continues here
      rw [← kept] at later others
      rcases ih _ later others with ⟨value, ended, holds, calls⟩
      exact ⟨value, ended, holds, congrArg (call :: ·) calls⟩

theorem Follows.run_error
    {program : Access α}
    {before after : List Call}
    {call : Call}
    {fault : Fault}
    {state : σ}
    (follows :
      Follows (answers state) property program (before ++ call :: after))
    (succeed : ∀ earlier ∈ before, (answers state earlier).isOk = true)
    (fails : answers state call = .error fault) :
    (program.run handler state).calls = before ++ [call] ∧
      (program.run handler state).result = .error (.storage fault) := by
  -- The reads before the failing one are used up with the program.
  induction program generalizing before state with
  | done result =>
      cases result with
      | ok value => simp [Follows] at follows
      | error error => exact follows.elim
  | note event next ih => exact ih follows succeed fails
  | ask first next ih =>
      rcases follows.step repeats with ⟨rest, same, kept, continues, ends⟩
      cases before with
      | nil =>
          cases same
          constructor
          · show call :: (Program.run handler (next _) _).calls = _
            rw [ends fault fails]
            rfl
          · show (Program.run handler (next _) _).result = _
            rw [ends fault fails]
            rfl
      | cons earlier before =>
          cases same
          rcases List.forall_mem_cons.1 succeed with ⟨here, others⟩
          have later := continues here
          rw [← kept] at later others fails
          rcases ih _ later others fails with ⟨calls, ended⟩
          exact ⟨congrArg (first :: ·) calls, ended⟩

/-- The run of a program is conducted by the script that the program
follows. -/
theorem Follows.conducts
    {program : Access α}
    {script : List Call}
    {state : σ}
    (follows : Follows (answers state) property program script) :
    Conducts (answers state) script (program.run handler state) := by
  have stops :
      ∀ (before : List Call) call after fault,
        script = before ++ call :: after →
          (∀ earlier ∈ before, (answers state earlier).isOk = true) →
            answers state call = .error fault →
              (program.run handler state).calls = before ++ [call] ∧
                (program.run handler state).result =
                  .error (.storage fault) := by
    rintro before call after fault rfl succeed fails
    exact follows.run_error repeats succeed fails
  have all :
      (program.run handler state).result.isOk = true →
        ∀ call ∈ script, (answers state call).isOk = true := by
    intro succeeded
    by_contra some
    rcases Answers.exists_first_error some with
      ⟨before, call, after, fault, same, earlier, failed⟩
    rw [(stops before call after fault same earlier failed).2] at succeeded
    cases succeeded
  refine ⟨⟨all, ?_⟩, ?_, stops⟩
  · intro succeed
    rcases follows.run_ok repeats succeed with ⟨value, ended, _, _⟩
    rw [ended]
    rfl
  · intro succeeded
    rcases follows.run_ok repeats (all succeeded) with ⟨_, _, _, calls⟩
    exact calls

end

end PrivilegeGraph.Store
