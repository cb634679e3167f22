import PrivilegeGraph.Program
import PrivilegeGraph.Window

/-!
# The store

The store is the party that holds the server's catalog and grant tables.  It
answers reads with rows and runs one administrative statement at a time.  Every
call can fail.
-/

namespace PrivilegeGraph.Store

/-- What a server says of itself. -/
structure ServerInfo where
  hostname : String
  version : String
  deriving DecidableEq, Repr

/-- The resource that a server is. -/
def ServerInfo.identity (info : ServerInfo) : Identity :=
  .server info.hostname

/-- A table. -/
structure TableRow where
  schema : String
  name : String
  deriving DecidableEq, Repr

/-- A column and the table that owns it. -/
structure ColumnRow where
  schema : String
  owner : String
  name : String
  deriving DecidableEq, Repr

/-- A stored routine. -/
structure RoutineRow where
  schema : String
  name : String
  type : String
  deriving DecidableEq, Repr

/-- The two sorts of accounts. -/
inductive AccountKind
  | user
  | role
  deriving DecidableEq, Repr

namespace AccountKind

/-- The kind of resource that an account of this sort is. -/
def kind : AccountKind → Kind
  | user => .user
  | role => .role

/-- The resource that an account of this sort is. -/
def identity : AccountKind → Account → Identity
  | user, account => .user account
  | role, account => .role account

@[simp]
theorem kind_identity
    (kind : AccountKind)
    (account : Account) :
    (kind.identity account).kind = kind.kind := by
  cases kind <;> rfl

@[simp]
theorem account?_identity
    (kind : AccountKind)
    (account : Account) :
    (kind.identity account).account? = some account := by
  cases kind <;> rfl

theorem kind_ne_routine (kind : AccountKind) : kind.kind ≠ .routine := by
  cases kind <;> decide

theorem kind_injective
    {first second : AccountKind}
    (same : first.kind = second.kind) :
    first = second := by
  cases first <;> cases second <;> first | rfl | cases same

end AccountKind

/-- An account as the store lists it.  Its static privileges on the server are
given only when it is looked up by itself. -/
structure AccountRow where
  user : String
  host : String
  userType : String
  privileges : String
  deriving DecidableEq, Repr

namespace AccountRow

/-- The account of a row. -/
def account (row : AccountRow) : Account :=
  ⟨row.user, row.host⟩

/-- The sort of a row's account: a role only when the row says so in that very
word. -/
def accountKind (row : AccountRow) : AccountKind :=
  if row.userType = Kind.role.name then .role else .user

/-- The resource that a row's account is. -/
def identity (row : AccountRow) : Identity :=
  row.accountKind.identity row.account

end AccountRow

/-- A dynamic privilege of an account. -/
structure GlobalGrant where
  user : String
  host : String
  privilege : String
  withOption : String
  deriving DecidableEq, Repr

/-- The comma list of an account's privileges on a database. -/
structure DatabaseGrant where
  user : String
  host : String
  database : String
  privileges : String
  deriving DecidableEq, Repr

/-- The comma list of an account's privileges on a table. -/
structure TableGrant where
  user : String
  host : String
  schema : String
  name : String
  privileges : String
  deriving DecidableEq, Repr

/-- The comma list of an account's privileges on a column. -/
structure ColumnGrant where
  user : String
  host : String
  schema : String
  owner : String
  name : String
  privileges : String
  deriving DecidableEq, Repr

/-- An account and another that it may act as. -/
structure ProxyGrant where
  user : String
  host : String
  proxiedUser : String
  proxiedHost : String
  withOption : Bool
  deriving DecidableEq, Repr

/-- A role and an account that holds it. -/
structure RoleEdge where
  fromUser : String
  fromHost : String
  toUser : String
  toHost : String
  withOption : String
  deriving DecidableEq, Repr

/-- The calls of the store. -/
inductive Call
  | serverInfo
  | ping
  | listDatabases (skipped : List String) (window : Window)
  | listTables (schema : String) (window : Window)
  | listColumns (schema owner : String) (window : Window)
  | listRoutines (schema : String) (window : Window)
  | listAccounts (kind : AccountKind) (collapse : Bool) (window : Window)
  | getAccount (user host : String)
  | globalGrants (user host : String)
  | databaseGrants (user host : String)
  | tableGrants (user host : String)
  | columnGrants (user host : String)
  | proxyGrants (user host : String)
  | roleEdges (user host : String)
  | routineType (schema name : String)
  | execute (statement : String)
  deriving DecidableEq, Repr

/-- What a call returns when it does not fail. -/
def Call.Reply : Call → Type
  | serverInfo => ServerInfo
  | ping => Unit
  | listDatabases _ _ => List String
  | listTables _ _ => List TableRow
  | listColumns _ _ _ => List ColumnRow
  | listRoutines _ _ => List RoutineRow
  | listAccounts _ _ _ => List AccountRow
  | getAccount _ _ => Option AccountRow
  | globalGrants _ _ => List GlobalGrant
  | databaseGrants _ _ => List DatabaseGrant
  | tableGrants _ _ => List TableGrant
  | columnGrants _ _ => List ColumnGrant
  | proxyGrants _ _ => List ProxyGrant
  | roleEdges _ _ => List RoleEdge
  | routineType _ _ => Option String
  | execute _ => Unit

/-- The store as an interface: each answer is a reply or a fault. -/
def interface : Interface where
  Call := Call
  Answer call := Except Fault call.Reply

/-- A program over the store. -/
abbrev Access (α : Type) : Type :=
  Program interface Error α

/-- Ask the store, and end with an error when it fails. -/
def request (call : Call) : Access call.Reply :=
  .ask call fun
    | .ok reply => .done (.ok reply)
    | .error fault => .done (.error (.storage fault))

/-- The statement that a step of a run executed, if it did. -/
def executedIn? : Program.Step interface → Option String
  | .asked (.execute statement) (.ok _) => some statement
  | _ => none

/-- The statements that a run executed, in order. -/
def executed
    {σ ε α : Type}
    (run : Program.Run interface σ ε α) :
    List String :=
  run.steps.filterMap executedIn?

end PrivilegeGraph.Store
