import PrivilegeGraph.Sorted
import PrivilegeGraph.Store
import PrivilegeGraph.Text.Split

/-!
# A store in memory

A store whose tables are lists.  It keeps the stored order, filters by exact
equality, and then cuts out the asked window.  Some of its calls may be closed,
and those fail.
-/

namespace PrivilegeGraph.Store

/-- The tables of a store, and the calls that fail. -/
structure Memory where
  hostname : String
  version : String
  databases : List String
  tables : List TableRow
  columns : List ColumnRow
  routines : List RoutineRow
  accounts : List AccountRow
  globalGrants : List GlobalGrant
  databaseGrants : List DatabaseGrant
  tableGrants : List TableGrant
  columnGrants : List ColumnGrant
  proxyGrants : List ProxyGrant
  roleEdges : List RoleEdge
  closed : Call → Bool

namespace Memory

/-- The accounts of one sort. -/
def accountsOf
    (memory : Memory)
    (kind : AccountKind) :
    List AccountRow :=
  memory.accounts.filter (·.accountKind = kind)

/-- One row for each user name, in order of name, with the hosts in stored
order. -/
def collapsed
    (kind : AccountKind)
    (rows : List AccountRow) :
    List AccountRow :=
  (Sorted.ofList (rows.map AccountRow.user)).map fun user => {
    user
    host := Text.joined ',' ((rows.filter (·.user = user)).map AccountRow.host)
    userType := kind.kind.name
    privileges := "" }

/-- What the tables hold for a call. -/
def reply (memory : Memory) : (call : Call) → call.Reply
  | .serverInfo => ⟨memory.hostname, memory.version⟩
  | .ping => ()
  | .listDatabases skipped window =>
      window.select (memory.databases.filter fun name => !skipped.contains name)
  | .listTables schema window =>
      window.select (memory.tables.filter (·.schema = schema))
  | .listColumns schema owner window =>
      window.select
        (memory.columns.filter fun row =>
          row.schema = schema && row.owner = owner)
  | .listRoutines schema window =>
      window.select (memory.routines.filter (·.schema = schema))
  | .listAccounts kind collapse window =>
      let rows := memory.accountsOf kind
      window.select (if collapse then collapsed kind rows else rows)
  | .getAccount user host =>
      memory.accounts.find? fun row => row.user = user && row.host = host
  | .globalGrants user host =>
      memory.globalGrants.filter fun row => row.user = user && row.host = host
  | .databaseGrants user host =>
      memory.databaseGrants.filter fun row => row.user = user && row.host = host
  | .tableGrants user host =>
      memory.tableGrants.filter fun row => row.user = user && row.host = host
  | .columnGrants user host =>
      memory.columnGrants.filter fun row => row.user = user && row.host = host
  | .proxyGrants user host =>
      memory.proxyGrants.filter fun row => row.user = user && row.host = host
  | .roleEdges user host =>
      memory.roleEdges.filter fun row => row.toUser = user && row.toHost = host
  | .routineType schema name =>
      let found :=
        memory.routines.find? fun row => row.schema = schema && row.name = name
      found.map RoutineRow.type
  | .execute _ => ()

/-- What the store answers to a call. -/
def answer
    (memory : Memory)
    (call : Call) :
    Except Fault call.Reply :=
  if memory.closed call then .error .closedPool else .ok (memory.reply call)

/-- The store as a handler.  Its tables never change. -/
def handler : Program.Handler interface Memory := fun call memory =>
  (memory.answer call, memory)

end Memory

end PrivilegeGraph.Store
