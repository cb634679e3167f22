import PrivilegeGraph.Resource
import PrivilegeGraph.Settings
import PrivilegeGraph.Store

/-!
# Connectors

A connector serves one server: it has the connector's settings, the server's
generation and what the server says of itself.  Its operations are programs over
the store that end with a failure naming what was being done.
-/

namespace PrivilegeGraph

/-- A connector to one server. -/
structure Connector where
  settings : Settings
  generation : Generation
  server : Store.ServerInfo
  deriving DecidableEq, Repr

/-- A field of the form for new accounts. -/
structure AccountField where
  key : String
  displayName : String
  description : String
  required : Bool
  placeholder : String
  order : Nat
  deriving DecidableEq, Repr

/-- What a connector says of itself. -/
structure Metadata where
  displayName : String
  description : String
  accountFields : List AccountField
  deriving DecidableEq, Repr

namespace Connector

/-- An operation of a connector. -/
abbrev Operation (α : Type) : Type :=
  Program Store.interface Failure α

/-- Do something as part of an activity that its failure names. -/
def during
    {α : Type}
    (activity : Activity)
    (access : Store.Access α) :
    Operation α :=
  access.mapError fun error => ⟨some activity, error⟩

/-- Do something whose failure speaks for itself. -/
def plainly
    {α : Type}
    (access : Store.Access α) :
    Operation α :=
  access.mapError fun error => ⟨none, error⟩

/-- A check that needs no store and whose failure speaks for itself. -/
def checked
    {α : Type}
    (result : Except Error α) :
    Operation α :=
  plainly (Program.ofExcept result)

/-- The resource that the connector's server is. -/
def serverIdentity (connector : Connector) : Identity :=
  connector.server.identity

/-- A connector over a store whose generation is known. -/
def attach
    (settings : Settings)
    (generation : Generation) :
    Operation Connector := do
  let server : Store.ServerInfo ←
    during .readServerInfo (Store.request .serverInfo)
  Program.report (.ready server.hostname server.version generation)
  return ⟨settings, generation, server⟩

/-- The kinds that a connector lists: columns when some table is expanded, and
roles on modern servers. -/
def kinds (connector : Connector) : List Kind :=
  [.server, .database, .table, .routine, .user] ++
    (if connector.settings.expandColumns.isEmpty then [] else [.column]) ++
      (if connector.generation.isModern then [.role] else [])

/-- Columns are listed exactly when some table is expanded. -/
theorem column_mem_kinds_iff {connector : Connector} :
    Kind.column ∈ connector.kinds ↔ connector.settings.expandColumns ≠ [] := by
  unfold kinds
  cases connector.settings.expandColumns <;> cases connector.generation <;>
    simp [Generation.isModern]

/-- Roles are listed exactly on modern servers. -/
theorem role_mem_kinds_iff {connector : Connector} :
    Kind.role ∈ connector.kinds ↔ connector.generation = .modern := by
  unfold kinds
  cases connector.settings.expandColumns <;> cases connector.generation <;>
    simp [Generation.isModern]

/-- Every other kind is listed in any case. -/
theorem mem_kinds
    {connector : Connector}
    {kind : Kind}
    (notColumn : kind ≠ .column)
    (notRole : kind ≠ .role) :
    kind ∈ connector.kinds := by
  unfold kinds
  cases kind <;> simp at notColumn notRole ⊢

/-- The name under which a kind is shown. -/
def kindTitle : Kind → String
  | .server => "Server"
  | .database => "Database"
  | .table => "Table"
  | .column => "Column"
  | .routine => "Routine"
  | .user => "User"
  | .role => "Role"

/-- Whether resources of a kind are people's or services' accounts. -/
def isUserKind (kind : Kind) : Bool :=
  kind == .user

/-- Whether the server answers.  A server that does not is reported. -/
def answers : Operation Bool := do
  let pinged ← (Store.request .ping).outcome
  match pinged with
  | .ok _ => return true
  | .error error =>
      Program.report (.checkFailed error)
      return false

/-- What the connector says of itself. -/
def metadata (connector : Connector) : Metadata where
  displayName := connector.server.hostname
  description := "MySQL " ++ connector.server.version
  accountFields :=
    [{ key := "username"
       displayName := "Username"
       description := "Name of the account to create"
       required := true
       placeholder := "alice"
       order := 1 }]

end Connector

end PrivilegeGraph
