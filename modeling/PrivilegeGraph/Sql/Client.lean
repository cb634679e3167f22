import PrivilegeGraph.Connector
import PrivilegeGraph.Sql.Query
import PrivilegeGraph.Sql.Server

/-!
# The store on a SQL server

A client serves the calls of the store by sending statements to a server and
decoding the rows that come back.  One value that cannot be decoded fails the
whole call.
-/

namespace PrivilegeGraph.Sql.Client

open Store

/-- A conversation with a server that cannot end early. -/
abbrev Talk (ε α : Type) : Type :=
  Program Sql.interface ε (Except Fault α)

variable {ε α : Type}

/-- Send a statement and make something of the rows. -/
def send
    (request : Request)
    (decode : List Row → Except Fault α) :
    Talk ε α :=
  .ask request fun
    | .ok result => .done (.ok (decode result.rows))
    | .error reason => .done (.ok (.error (.refused reason)))

/-- Query for all rows. -/
def allRows
    (sql : String)
    (parameters : List Parameter)
    (decode : Row → Except Fault α) :
    Talk ε (List α) :=
  send ⟨sql, some parameters⟩ fun rows => rows.mapM decode

/-- Query for the first row, if there is any; further rows are not looked at. -/
def firstRow
    (sql : String)
    (parameters : List Parameter)
    (decode : Row → Except Fault α) :
    Talk ε (Option α) :=
  send ⟨sql, some parameters⟩ fun rows =>
    match rows with
    | [] => .ok none
    | row :: _ => (decode row).map some

/-- Query for one row, which must be there. -/
def oneRow
    (sql : String)
    (parameters : List Parameter)
    (decode : Row → Except Fault α) :
    Talk ε α :=
  send ⟨sql, some parameters⟩ fun rows =>
    match rows with
    | [] => .error .missingRow
    | row :: _ => decode row

/-- The parameters of a window: how many rows, then how many to pass over. -/
def bounds (window : Window) : List Parameter :=
  [.number window.rowsToFetch, .number window.offset]

/-- The parameters that name an account. -/
def accountParameters (user host : String) : List Parameter :=
  [.text user, .text host]

/-- Decode what the server says of itself. -/
def serverInfoRow (row : Row) : Except Fault ServerInfo := do
  return ⟨← row.text "hostname", ← row.text "version"⟩

/-- Decode a table. -/
def tableRow (row : Row) : Except Fault TableRow := do
  return ⟨← row.text "TABLE_SCHEMA", ← row.text "TABLE_NAME"⟩

/-- Decode a column. -/
def columnRow (row : Row) : Except Fault ColumnRow := do
  return ⟨← row.text "TABLE_SCHEMA", ← row.text "TABLE_NAME",
    ← row.text "COLUMN_NAME"⟩

/-- Decode a routine. -/
def routineRow (row : Row) : Except Fault RoutineRow := do
  return ⟨← row.text "ROUTINE_SCHEMA", ← row.text "SPECIFIC_NAME",
    ← row.text "ROUTINE_TYPE"⟩

/-- Decode an account, with its privileges where the query asked for them. -/
def accountRow (row : Row) : Except Fault AccountRow := do
  return ⟨← row.text "User", ← row.text "Host", ← row.text "user_type",
    ← row.textIfAny "privs"⟩

/-- Decode a dynamic privilege. -/
def globalGrant (row : Row) : Except Fault GlobalGrant := do
  return ⟨← row.text "USER", ← row.text "HOST", ← row.text "PRIV",
    ← row.text "WITH_GRANT_OPTION"⟩

/-- Decode privileges on a database. -/
def databaseGrant (row : Row) : Except Fault DatabaseGrant := do
  return ⟨← row.text "User", ← row.text "Host", ← row.text "Db",
    ← row.text "privs"⟩

/-- Decode privileges on a table. -/
def tableGrant (row : Row) : Except Fault TableGrant := do
  return ⟨← row.text "User", ← row.text "Host", ← row.text "Db",
    ← row.text "Table_name", ← row.text "Table_priv"⟩

/-- Decode privileges on a column. -/
def columnGrant (row : Row) : Except Fault ColumnGrant := do
  return ⟨← row.text "User", ← row.text "Host", ← row.text "Db",
    ← row.text "Table_name", ← row.text "Column_name",
    ← row.text "Column_priv"⟩

/-- Decode a proxy row. -/
def proxyGrant (row : Row) : Except Fault ProxyGrant := do
  return ⟨← row.text "User", ← row.text "Host", ← row.text "Proxied_user",
    ← row.text "Proxied_host", ← row.flag "With_grant"⟩

/-- Decode a role edge. -/
def roleEdge (row : Row) : Except Fault RoleEdge := do
  return ⟨← row.text "FROM_USER", ← row.text "FROM_HOST", ← row.text "TO_USER",
    ← row.text "TO_HOST", ← row.text "WITH_ADMIN_OPTION"⟩

/-- The answer to a call of the store on a server of some generation. -/
def serve (generation : Generation) :
    (call : Call) → Program Sql.interface ε (Store.interface.Answer call)
  | .serverInfo => oneRow Query.serverInfo [] serverInfoRow
  | .ping => send ⟨Query.ping, some []⟩ fun _ => .ok ()
  | .listDatabases skipped window =>
      allRows (Query.listDatabases skipped.length)
        (skipped.map Parameter.text ++ bounds window) fun row =>
          row.text "SCHEMA_NAME"
  | .listTables schema window =>
      allRows Query.listTables (.text schema :: bounds window) tableRow
  | .listColumns schema owner window =>
      allRows Query.listColumns
        (.text schema :: .text owner :: bounds window) columnRow
  | .listRoutines schema window =>
      allRows Query.listRoutines (.text schema :: bounds window) routineRow
  | .listAccounts kind collapse window =>
      allRows (Query.listAccounts (kind == .role) collapse) (bounds window)
        accountRow
  | .getAccount user host =>
      firstRow (Query.getAccount generation.isModern)
        (accountParameters user host) accountRow
  | .globalGrants user host =>
      allRows Query.globalGrants (accountParameters user host) globalGrant
  | .databaseGrants user host =>
      allRows Query.databaseGrants (accountParameters user host) databaseGrant
  | .tableGrants user host =>
      allRows Query.tableGrants (accountParameters user host) tableGrant
  | .columnGrants user host =>
      allRows Query.columnGrants (accountParameters user host) columnGrant
  | .proxyGrants user host =>
      allRows Query.proxyGrants (accountParameters user host) proxyGrant
  | .roleEdges user host =>
      allRows Query.roleEdges (accountParameters user host) roleEdge
  | .routineType schema name =>
      firstRow Query.routineType [.text schema, .text name] fun row =>
        RoutineRow.type <$> routineRow row
  | .execute statement =>
      .note (.executing statement) (send ⟨statement, none⟩ fun _ => .ok ())

/-- Connect to a server and find out its generation. -/
def connect : Program Sql.interface Error Generation := do
  let answered ← oneRow Query.serverInfo [] serverInfoRow
  match answered with
  | .error fault => Program.fail (.storage fault)
  | .ok server => do
      let generation ← Program.ofExcept (Generation.probe server.version)
      Program.report (.connected server.hostname server.version generation)
      return generation

/-- Start a connector on a server, as its configuration and credentials say. -/
def openConnector
    (config : Config)
    (credentials : Credentials) :
    Program Sql.interface Failure Connector := do
  let settings ←
    (Program.ofExcept (Settings.ofConfig config credentials)).mapError
      fun error => (⟨some .readSettings, error⟩ : Failure)
  let generation ←
    connect.mapError fun error => (⟨some .connect, error⟩ : Failure)
  (Connector.attach settings generation).through (serve generation)

end PrivilegeGraph.Sql.Client
