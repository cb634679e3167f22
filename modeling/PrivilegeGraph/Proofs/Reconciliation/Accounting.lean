import PrivilegeGraph.Proofs.Reconciliation.Scopes
import PrivilegeGraph.Proofs.Store.View

/-!
# Accounting for what is read

While the grants of a principal are rebuilt, there is one warning for each
account that is looked up in vain, one debug record for each row in a database
that is left out, and one for each right that is collected and not granted.  So
no row is lost in silence.  It says a right that is granted, or it is behind a
record, or there is nothing in it.

This holds of every run whose reads succeed, and the store need not reply to
one read in one way throughout.
-/

namespace PrivilegeGraph.Reconciliation

open Program (Handler)
open Store (Leaves Succeeds Trace)

/-! ## The whole account -/

/-- Whether a row says a right that is granted, or is what an event of a trace
is about, or says a right that is reported as unknown, or has nothing in it. -/
def IsAccountedFor
    (reconciliation : Reconciliation)
    (trace : Trace)
    (granted : List Right)
    (row : Row) : Prop :=
  (∃ right ∈ granted, Says reconciliation trace row right) ∨
    (∃ event ∈ trace.events,
        row.Causes event ∨
          ∃ right,
            Says reconciliation trace row right ∧
              event = .unknownRight right) ∨
      row.IsIdle

/-- Whether a trace accounts for the rights that were collected in it and of
which some are granted: it warns of each lookup in vain, reports each row in a
database that is left out and, once each, the rights that are collected and not
granted, and every row that it reads is accounted for. -/
structure Accounts
    (reconciliation : Reconciliation)
    (collected granted : List Right)
    (trace : Trace) : Prop where
  grants :
    granted.Nodup ∧
      ∀ right,
        right ∈ granted ↔
          right ∈ collected ∧ Listed reconciliation.generation right
  warnings :
    LogsEach Record.isWarning accountFields (lookedUpInVain trace) trace.events
  skips :
    LogsEach (Record.isDebug skipMessage) databaseFields
      (leftOutOf reconciliation (rowsRead trace)) trace.events
  unknown :
    ∃ unknown : List Right,
      unknown.Nodup ∧
        (∀ right,
          right ∈ unknown ↔ right ∈ collected ∧ right ∉ granted) ∧
        LogsEach (Record.isDebug unknownMessage) rightFields unknown
          trace.events
  rows :
    ∀ row ∈ rowsRead trace, IsAccountedFor reconciliation trace granted row

section

variable
    {reconciliation : Reconciliation}
    {rights : List Right}
    {trace : Trace}

theorem events_unknownTrace (rights : List Right) :
    (unknownTrace reconciliation rights).events =
      (rights.filter fun right => !reconciliation.isKnown right).map
        .unknownRight := by
  rw [unknownTrace, Trace.events, List.filterMap_map]
  show List.filterMap (some ∘ Event.unknownRight) _ = _
  rw [List.filterMap_eq_map]

theorem unasked_unknownTrace
    (reconciliation : Reconciliation)
    (rights : List Right) :
    lookedUpInVain (unknownTrace reconciliation rights) = [] ∧
      rowsRead (unknownTrace reconciliation rights) = [] := by
  constructor
  · rw [unknownTrace, lookedUpInVain, List.filterMap_map]
    exact List.filterMap_eq_nil_iff.2 fun _ _ => rfl
  · rw [unknownTrace, rowsRead, List.flatMap_map]
    exact List.flatMap_eq_nil_iff.2 fun _ _ => rfl

theorem silent_unknownTrace
    (reconciliation : Reconciliation)
    {wanted : Record → Bool}
    (quiet : ∀ right, wanted (Event.unknownRight right).record = false)
    (rights : List Right) :
    Silent wanted (unknownTrace reconciliation rights).events := by
  intro event member
  rw [events_unknownTrace] at member
  rcases List.mem_map.1 member with ⟨right, _, rfl⟩
  exact quiet right

/-- Each right that was collected is granted or reported. -/
theorem mem_unknown_iff
    {right : Right}
    {sorted : List Right} :
    right ∈ (sorted.filter fun right => !reconciliation.isKnown right) ↔
      right ∈ sorted ∧ right ∉ sorted.filter reconciliation.isKnown := by
  simp only [List.mem_filter, Bool.not_eq_true', ← Bool.not_eq_true]
  tauto

/-- A row that is settled by what was collected is accounted for in the end. -/
theorem IsSettled.isAccountedFor
    {row : Row}
    (settled : IsSettled reconciliation trace rights row) :
    let sorted := Sorted.ofList rights
    IsAccountedFor reconciliation
      (trace ++ unknownTrace reconciliation sorted)
      (sorted.filter reconciliation.isKnown) row := by
  intro sorted
  have within : trace ⊆ trace ++ unknownTrace reconciliation sorted :=
    List.subset_append_left _ _
  rcases settled.mono within (List.Subset.refl _) with
    ⟨right, member, said⟩ | ⟨event, reported, causes⟩ | idle
  · have among : right ∈ sorted := Sorted.mem_ofList.2 member
    by_cases known : reconciliation.isKnown right = true
    · exact Or.inl ⟨right, List.mem_filter.2 ⟨among, known⟩, said⟩
    · have unknown :
          right ∈ (sorted.filter fun right => !reconciliation.isKnown right) :=
        List.mem_filter.2 ⟨among, by simpa using known⟩
      have reported :
          Event.unknownRight right ∈
            Trace.events (trace ++ unknownTrace reconciliation sorted) := by
        rw [events_append, events_unknownTrace]
        exact List.mem_append_right _ (List.mem_map_of_mem unknown)
      exact Or.inr (Or.inl ⟨_, reported, Or.inr ⟨right, said, rfl⟩⟩)
  · exact Or.inr (Or.inl ⟨event, reported, Or.inl causes⟩)
  · exact Or.inr (Or.inr idle)

/-- A trace in step, followed by the reports of unknown rights, accounts for
all. -/
theorem InStep.accounts
    (inStep : InStep reconciliation [] rights trace) :
    let sorted := Sorted.ofList rights
    Accounts reconciliation rights (sorted.filter reconciliation.isKnown)
      (trace ++ unknownTrace reconciliation sorted) := by
  intro sorted
  have nodup : sorted.Nodup := (Sorted.rising_ofList rights).nodup
  rcases unasked_unknownTrace reconciliation sorted with
    ⟨noLookup, noRow⟩
  refine ⟨⟨nodup.filter _, ?_⟩, ?_, ?_, ?_, ?_⟩
  · intro right
    rw [List.mem_filter, Sorted.mem_ofList, isKnown_iff]
  · have quiet :
        Silent Record.isWarning (unknownTrace reconciliation sorted).events :=
      silent_unknownTrace reconciliation (fun _ => rfl) sorted
    rw [events_append, lookedUpInVain, List.filterMap_append]
    rw [lookedUpInVain] at noLookup
    rw [noLookup, List.append_nil]
    exact inStep.warnings.append_silent quiet
  · have quiet :
        Silent (Record.isDebug skipMessage)
          (unknownTrace reconciliation sorted).events :=
      silent_unknownTrace reconciliation
        (fun _ => by simp [Record.isDebug, Event.record, skipMessage]) sorted
    rw [events_append, rowsRead_append, noRow, List.append_nil]
    exact inStep.skips.append_silent quiet
  · refine ⟨_, nodup.filter fun right => !reconciliation.isKnown right, ?_, ?_⟩
    · intro right
      rw [mem_unknown_iff, Sorted.mem_ofList]
    · rw [events_append, events_unknownTrace]
      exact
        inStep.silent.append_logsEach
          (logsEach_map (fun _ => ⟨rfl, rfl⟩) _)
  · intro row member
    rw [rowsRead_append, noRow, List.append_nil] at member
    exact (inStep.settled row member).isAccountedFor

end

/-- The accounts on one host each that a principal stands for.  Only users and
roles stand for any. -/
def behind (principal : Identity) : List Account :=
  match principal.account? with
  | none => []
  | some account => account.expanded

section

variable
    (reconciliation : Reconciliation)
    {principal : Identity}

theorem grantsHeldBy_of_account?_eq_none
    (stray : principal.account? = none) :
    behind principal = [] ∧
      reconciliation.grantsHeldBy principal =
        .done (.error (.unsupportedKind principal.kind.name)) := by
  constructor
  · rw [behind, stray]
  · rw [grantsHeldBy, stray]
    rfl

theorem grantsHeldBy_of_account?_eq_some
    {account : Account}
    (named : principal.account? = some account) :
    reconciliation.grantsHeldBy principal =
      Program.collect reconciliation.rightsOf (behind principal) >>=
        fun found =>
          reconciliation.keepKnown (Sorted.ofList found.flatten) >>=
            fun known =>
              pure (known.map fun right => Grant.ofRight right principal) := by
  rw [grantsHeldBy, behind, named]

/-- Rights that are known are granted, and the others are reported. -/
theorem leaves_granted
    (principal : Identity)
    (rights : List Right) :
    Leaves
      (fun grants trace =>
        grants =
            (rights.filter reconciliation.isKnown).map
              (fun right => Grant.ofRight right principal) ∧
          trace = unknownTrace reconciliation rights)
      (reconciliation.keepKnown rights >>= fun known =>
        pure (known.map fun right => Grant.ofRight right principal)) := by
  apply (leaves_keepKnown rights).bind
  rintro _ _ ⟨rfl, rfl⟩
  exact ⟨rfl, List.append_nil _⟩

end

/-- Against any store that fails no read, even one that replies differently
from time to time, what is logged while the grants of a principal are rebuilt
accounts for what is read and collected, and no row is lost in silence.  A
principal that is no user or role is an error, and then nothing is read. -/
theorem grantsHeldBy_accounts
    {σ : Type}
    {handler : Handler Store.interface σ}
    (succeeds : Succeeds handler)
    (reconciliation : Reconciliation)
    (principal : Identity)
    (state : σ) :
    let run := (reconciliation.grantsHeldBy principal).run handler state
    let collecting :=
      (Program.collect reconciliation.rightsOf (behind principal)).run handler
        state
    ∃ found granted,
      collecting.result = .ok found ∧
        (run.result =
          match principal.account? with
          | none => .error (.unsupportedKind principal.kind.name)
          | some _ =>
              .ok (granted.map fun right => Grant.ofRight right principal)) ∧
          Accounts reconciliation found.flatten granted run.steps := by
  intro run collecting
  rcases
    (leaves_collect_rightsOf reconciliation (behind principal)).run succeeds
      state with
    ⟨found, ended, inStep⟩
  have accounts := inStep.accounts
  cases named : principal.account? with
  | none =>
      rcases grantsHeldBy_of_account?_eq_none reconciliation named with
        ⟨nothing, refused⟩
      have empty : InStep reconciliation [] [] [] := inStep_nil rfl (by simp)
      refine ⟨[], [], ?_, ?_, ?_⟩
      · show (Program.run handler (Program.collect _ (behind _)) _).result = _
        rw [nothing]
        rfl
      · show (Program.run handler (grantsHeldBy _ _) state).result = _
        rw [refused]
        rfl
      · show
          Accounts reconciliation [] []
            (Program.run handler (grantsHeldBy _ _) state).steps
        rw [refused]
        exact empty.accounts
  | some account =>
      let sorted := Sorted.ofList found.flatten
      have reads := grantsHeldBy_of_account?_eq_some reconciliation named
      rcases
        (leaves_granted reconciliation principal sorted).run succeeds
          collecting.state with
        ⟨_, ended', rfl, steps⟩
      refine ⟨found, sorted.filter reconciliation.isKnown, ended, ?_, ?_⟩
      · show (Program.run handler (grantsHeldBy _ _) state).result = _
        rw [reads, Program.result_run_bind_ok ended]
        exact ended'
      · show
          Accounts reconciliation found.flatten _
            (Program.run handler (grantsHeldBy _ _) state).steps
        rw [reads, Program.steps_run_bind_ok ended]
        show
          Accounts _ _ _ (_ ++ (Program.run handler _ collecting.state).steps)
        rw [steps]
        exact accounts

/-- A store in which one account has, besides what is granted, a row in a
database that is left out, a privilege that is unknown, rows with nothing in
them, and a row about an account that does not exist. -/
def lossy : Store.Memory :=
  { Store.Memory.everyScope with
    databaseGrants :=
      [⟨"alice", "%", "mysql", "Select"⟩, ⟨"alice", "%", "shop", "Insert,Fly"⟩,
        ⟨"alice", "%", "shop", " ,"⟩]
    proxyGrants :=
      [⟨"alice", "%", "alice", "%", false⟩,
        ⟨"alice", "%", "ghost", "%", true⟩] }

theorem grantsHeldBy_accounts_lossy :
    let reconciliation : Reconciliation :=
      ⟨{ skipDatabases := ["mysql"] }, .modern, .server "db"⟩
    let principal : Identity := .user ⟨"alice", "%, localhost"⟩
    let run :=
      (reconciliation.grantsHeldBy principal).run Store.Memory.openHandler lossy
    Succeeds Store.Memory.openHandler ∧
      lookedUpInVain run.steps = [("ghost", "%"), ("alice", "localhost")] ∧
        leftOutOf reconciliation (rowsRead run.steps) = ["mysql"] ∧
          ∃ found granted,
            run.result =
                .ok (granted.map fun right => Grant.ofRight right principal) ∧
              Accounts reconciliation (List.flatten found) granted
                run.steps := by
  intro reconciliation principal run
  have succeeds : Succeeds Store.Memory.openHandler :=
    fun call _ memory => ⟨memory.reply call, rfl⟩
  rcases grantsHeldBy_accounts succeeds reconciliation principal lossy with
    ⟨found, granted, _, ended, accounts⟩
  exact
    ⟨succeeds, by decide +kernel, by decide +kernel, found, granted, ended,
      accounts⟩

end PrivilegeGraph.Reconciliation
