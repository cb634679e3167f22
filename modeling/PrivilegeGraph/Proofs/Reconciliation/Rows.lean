import PrivilegeGraph.Proofs.Records
import PrivilegeGraph.Proofs.Reconciliation.Exactness
import PrivilegeGraph.Proofs.Store.Tracing

/-!
# Rows and what becomes of them

A run that rebuilds the grants of a principal reads rows, looks accounts up and
reports what it leaves aside.  Its trace is in step with the rows that it deals
with when each lookup in vain is warned of, each row in a database that is left
out is reported, and each row says a right that is found, or is what a report
is about, or has nothing in it.  Traces in step stay so when they are put one
after the other.
-/

namespace PrivilegeGraph.Reconciliation

open Store (Call Trace)

/-! ## Rows -/

/-- A row of one of the tables that are read. -/
inductive Row
  | account (row : Store.AccountRow)
  | dynamic (row : Store.GlobalGrant)
  | database (row : Store.DatabaseGrant)
  | table (row : Store.TableGrant)
  | column (row : Store.ColumnGrant)
  | proxy (row : Store.ProxyGrant)
  | role (edge : Store.RoleEdge)

/-- The rows in a reply. -/
def rowsOf : (call : Call) → call.Reply → List Row
  | .getAccount _ _, found => found.toList.map .account
  | .globalGrants _ _, rows => rows.map .dynamic
  | .databaseGrants _ _, rows => rows.map .database
  | .tableGrants _ _, rows => rows.map .table
  | .columnGrants _ _, rows => rows.map .column
  | .proxyGrants _ _, rows => rows.map .proxy
  | .roleEdges _ _, edges => edges.map .role
  | _, _ => []

/-- The rows that a trace has read, in order. -/
def rowsRead (trace : Trace) : List Row :=
  trace.flatMap fun
    | .asked call (.ok reply) => rowsOf call reply
    | _ => []

/-- The names and hosts that a trace has looked up without finding an account,
in order. -/
def lookedUpInVain (trace : Trace) : List (String × String) :=
  trace.filterMap fun
    | .asked (.getAccount user host) (.ok none) => some (user, host)
    | _ => none

/-- The databases of rows on databases, tables and columns, in order. -/
def databasesOf (rows : List Row) : List String :=
  rows.filterMap fun
    | .database row => some row.database
    | .table row => some row.schema
    | .column row => some row.schema
    | _ => none

/-- Whether a comma list has no entry. -/
def IsBlankList (list : String) : Prop :=
  ∀ c ∈ list.toList, c = ',' ∨ Text.isBlank c = true

/-- Whether there is nothing in a row. -/
def Row.IsIdle : Row → Prop
  | .account row => IsBlankList row.privileges
  | .dynamic _ => False
  | .database row => IsBlankList row.privileges
  | .table row => IsBlankList row.privileges
  | .column row => IsBlankList row.privileges
  | .proxy row => row.proxiedUser = row.user ∧ row.proxiedHost = row.host
  | .role edge => edge.fromUser = edge.toUser ∧ edge.fromHost = edge.toHost

/-- Whether a row is what an event is about: it lies in a database that is left
out, or it refers to an account that is not found. -/
def Row.Causes : Row → Event → Prop
  | .database row, event => event = .skippedDatabase row.database
  | .table row, event => event = .skippedDatabase row.schema
  | .column row, event => event = .skippedDatabase row.schema
  | .proxy row, event =>
      event = .unresolved .proxyGrants row.proxiedUser row.proxiedHost
  | .role edge, event =>
      event = .unresolved .roleEdges edge.fromUser edge.fromHost
  | _, _ => False

/-- Whether a trace has found an account. -/
def HasFound
    (trace : Trace)
    (user host : String)
    (row : Store.AccountRow) : Prop :=
  .asked (.getAccount user host) (.ok (some row)) ∈ trace

section

variable
    (reconciliation : Reconciliation)
    (trace : Trace)

/-- Whether a row says a right, given what a trace has found.  The row of an
account names privileges on the server, and it is also what another account
acts as or is in as a role. -/
def Says : Row → Right → Prop
  | .account row, right =>
      right.resource = reconciliation.server ∧
          Names row.privileges right.privilege ∨
        right.resource = row.identity ∧
          (right.privilege = "proxy" ∨ right.privilege = "role_assignment")
  | .dynamic row, right =>
      IsVariant (Text.lowered row.privilege) reconciliation.server
        (SaysYes row.withOption) right
  | .database row, right =>
      row.database ∉ reconciliation.settings.skipDatabases ∧
        right.resource = .database row.database ∧
          Names row.privileges right.privilege
  | .table row, right =>
      row.schema ∉ reconciliation.settings.skipDatabases ∧
        right.resource = .table row.schema row.name ∧
          Names row.privileges right.privilege
  | .column row, right =>
      row.schema ∉ reconciliation.settings.skipDatabases ∧
        right.resource = reconciliation.columnResource row ∧
          Names row.privileges right.privilege
  | .proxy row, right =>
      (row.proxiedUser = "" ∧ row.proxiedHost = "") ∧
          IsVariant "proxy" reconciliation.server (row.withOption = true)
            right ∨
        ∃ target,
          HasFound trace row.proxiedUser row.proxiedHost target ∧
            IsVariant "proxy" target.identity (row.withOption = true) right
  | .role edge, right =>
      ∃ role,
        HasFound trace edge.fromUser edge.fromHost role ∧
          IsVariant "role_assignment" role.identity (SaysYes edge.withOption)
            right

/-- Whether a row says one of some rights, or caused an event of a trace, or
has nothing in it. -/
def IsSettled (rights : List Right) (row : Row) : Prop :=
  (∃ right ∈ rights, Says reconciliation trace row right) ∨
    (∃ event ∈ trace.events, row.Causes event) ∨
      row.IsIdle

end

/-- The fields that tell of an account. -/
def accountFields (account : String × String) : List (String × FieldValue) :=
  [("user", .text account.1), ("host", .text account.2)]

/-- The fields that tell of a database. -/
def databaseFields (database : String) : List (String × FieldValue) :=
  [("database", .text database)]

/-- The fields that tell of a right. -/
def rightFields (right : Right) : List (String × FieldValue) :=
  [("privilege", .text right.privilege),
    ("resource", .text right.resource.id)]

/-- The message about a row in a database that is left out. -/
def skipMessage : String :=
  "skipping grants on skipped database"

/-- The message about a right that is not granted. -/
def unknownMessage : String :=
  "skipping privilege missing from catalog"

/-- Those of the databases of rows that are left out, as often as they
occur. -/
def leftOutOf
    (reconciliation : Reconciliation)
    (rows : List Row) :
    List String :=
  (databasesOf rows).filter (· ∈ reconciliation.settings.skipDatabases)

/-- Whether a trace in which rights are found is in step with the rows that it
deals with: those read before and those that it reads itself.  Nothing is said
of unknown rights in it. -/
structure InStep
    (reconciliation : Reconciliation)
    (before : List Row)
    (rights : List Right)
    (trace : Trace) : Prop where
  warnings :
    LogsEach Record.isWarning accountFields (lookedUpInVain trace) trace.events
  skips :
    LogsEach (Record.isDebug skipMessage) databaseFields
      (leftOutOf reconciliation (before ++ rowsRead trace)) trace.events
  silent : Silent (Record.isDebug unknownMessage) trace.events
  settled :
    ∀ row ∈ before ++ rowsRead trace,
      IsSettled reconciliation trace rights row

/-! ## Putting traces together -/

section

variable
    {reconciliation : Reconciliation}
    {before before' : List Row}
    {rights rights' : List Right}
    {trace trace' : Trace}

theorem HasFound.mono
    (within : trace ⊆ trace')
    {user host : String}
    {row : Store.AccountRow}
    (found : HasFound trace user host row) :
    HasFound trace' user host row :=
  within found

theorem Says.mono
    (within : trace ⊆ trace')
    {row : Row}
    {right : Right}
    (said : Says reconciliation trace row right) :
    Says reconciliation trace' row right := by
  cases row with
  | proxy row =>
      rcases said with every | ⟨target, found, variant⟩
      · exact Or.inl every
      · exact Or.inr ⟨target, found.mono within, variant⟩
  | role edge =>
      rcases said with ⟨role, found, variant⟩
      exact ⟨role, found.mono within, variant⟩
  | _ => exact said

theorem events_append (trace trace' : Trace) :
    Trace.events (trace ++ trace') = trace.events ++ trace'.events :=
  List.filterMap_append

theorem IsSettled.mono
    (within : trace ⊆ trace')
    (among : rights ⊆ rights')
    {row : Row}
    (settled : IsSettled reconciliation trace rights row) :
    IsSettled reconciliation trace' rights' row := by
  rcases settled with ⟨right, member, said⟩ | ⟨event, reported, causes⟩ | idle
  · exact Or.inl ⟨right, among member, said.mono within⟩
  · have reported' : event ∈ trace'.events := by
      rcases List.mem_filterMap.1 reported with ⟨step, inTrace, noted⟩
      exact List.mem_filterMap.2 ⟨step, within inTrace, noted⟩
    exact Or.inr (Or.inl ⟨event, reported', causes⟩)
  · exact Or.inr (Or.inr idle)

theorem databasesOf_append (rows rows' : List Row) :
    databasesOf (rows ++ rows') = databasesOf rows ++ databasesOf rows' :=
  List.filterMap_append

theorem rowsRead_append (trace trace' : Trace) :
    rowsRead (trace ++ trace') = rowsRead trace ++ rowsRead trace' :=
  List.flatMap_append

/-- Nothing needs to be done about rows that are settled from the start. -/
theorem inStep_nil
    (free : leftOutOf reconciliation before = [])
    (settled : ∀ row ∈ before, IsSettled reconciliation [] rights row) :
    InStep reconciliation before rights [] where
  warnings := rfl
  skips := by
    rw [rowsRead, List.flatMap_nil, List.append_nil, free]
    rfl
  silent := Silent.nil
  settled row member :=
    settled row (by simpa [rowsRead] using member)

theorem InStep.mono
    (inStep : InStep reconciliation before rights trace)
    (among : rights ⊆ rights') :
    InStep reconciliation before rights' trace where
  warnings := inStep.warnings
  skips := inStep.skips
  silent := inStep.silent
  settled row member :=
    (inStep.settled row member).mono (List.Subset.refl _) among

/-- Two traces in step are so one after the other, unless rows on databases
are read in the first before the rows that the second deals with. -/
theorem InStep.append
    (first : InStep reconciliation before rights trace)
    (second : InStep reconciliation before' rights' trace')
    (apart : databasesOf (rowsRead trace) = [] ∨ before' = []) :
    InStep reconciliation (before ++ before') (rights ++ rights')
      (trace ++ trace') where
  warnings := by
    have both := first.warnings.append second.warnings
    rw [events_append]
    simpa only [lookedUpInVain, List.filterMap_append] using both
  skips := by
    have both := first.skips.append second.skips
    have same :
        leftOutOf reconciliation
            (before ++ before' ++ rowsRead (trace ++ trace')) =
          leftOutOf reconciliation (before ++ rowsRead trace) ++
            leftOutOf reconciliation (before' ++ rowsRead trace') := by
      simp only [leftOutOf, rowsRead_append, databasesOf_append,
        List.filter_append]
      rcases apart with none | rfl
      · simp [none]
      · simp [databasesOf]
    rw [events_append, same]
    exact both
  silent := by
    rw [events_append]
    exact first.silent.append second.silent
  settled := by
    intro row member
    have split :
        row ∈ before ++ rowsRead trace ∨ row ∈ before' ++ rowsRead trace' := by
      simp only [rowsRead_append, List.mem_append] at member ⊢
      tauto
    rcases split with inFirst | inSecond
    · exact
        (first.settled row inFirst).mono (List.subset_append_left _ _)
          (List.subset_append_left _ _)
    · exact
        (second.settled row inSecond).mono (List.subset_append_right _ _)
          (List.subset_append_right _ _)

/-- Rows are read by a question, and what follows deals with them. -/
theorem InStep.asked
    {call : Call}
    {reply : call.Reply}
    (inStep :
      InStep reconciliation (rowsOf call reply) rights trace)
    (found : lookedUpInVain [.asked call (.ok reply)] = []) :
    InStep reconciliation [] rights (.asked call (.ok reply) :: trace) where
  warnings := by
    have same :
        lookedUpInVain (.asked call (.ok reply) :: trace) =
          lookedUpInVain [.asked call (.ok reply)] ++ lookedUpInVain trace :=
      List.filterMap_append (l := [_])
    rw [same, found]
    exact inStep.warnings
  skips := inStep.skips
  silent := inStep.silent
  settled row member :=
    (inStep.settled row member).mono (List.subset_cons_self _ _)
      (List.Subset.refl _)

end

end PrivilegeGraph.Reconciliation
