import PrivilegeGraph.Connector

/-!
# Listings

The resources of each kind, page by page.  The server is the root.  Databases
and accounts lie under it, tables and routines under a database, and columns
under an expanded table.  A parent of the wrong kind has no children, and
neither has a database that is left out.
-/

namespace PrivilegeGraph.Connector

open Store

/-- The identity of a parent of the expected kind; another parent, or none, has
no children. -/
def parentOfKind
    (kind : Kind)
    (parent : Option ResourceId) :
    Except Error (Option Identity) :=
  match parent with
  | some id =>
      if id.kind = kind.name then (Identity.parse id.id).map some else .ok none
  | none => .ok none

/-- Fetch the rows of a page and close the page. -/
def fetchPage
    {α : Type}
    (request : PageRequest)
    (activity : Activity)
    (read : Window → Access (List α)) :
    Operation (Page α) := do
  let window ← checked (Window.ofRequest request)
  let rows ← during activity (read window)
  return window.page rows

/-- The one server. -/
def listServer (connector : Connector) : Page Resource :=
  let childKinds :=
    if connector.generation.isModern then [Kind.database, .user, .role]
    else [.database, .user]
  let server :=
    Resource.plain connector.serverIdentity connector.server.hostname none
      childKinds
  ⟨[server], ""⟩

/-- A database under its server. -/
def databaseResource
    (server : Identity)
    (name : String) :
    Resource :=
  Resource.plain (.database name) name (some server.resourceId)
    [.table, .routine]

/-- The databases of a server, without those that are left out. -/
def listDatabases
    (connector : Connector)
    (parent : Option ResourceId)
    (request : PageRequest) :
    Operation (Page Resource) := do
  let found ← checked (parentOfKind .server parent)
  match found with
  | some server =>
      let page ← fetchPage request .listDatabases fun window =>
        Store.request (.listDatabases connector.settings.skipDatabases window)
      return page.map (databaseResource server)
  | none => return Page.empty

/-- A table under its database.  An expanded table has columns. -/
def tableResource
    (connector : Connector)
    (parent : ResourceId)
    (row : TableRow) :
    Resource :=
  Resource.plain (.table row.schema row.name) (row.schema ++ "." ++ row.name)
    (some parent)
    (if connector.settings.showsColumns row.schema row.name then [.column]
    else [])

/-- The tables of a database. -/
def listTables
    (connector : Connector)
    (parent : Option ResourceId)
    (request : PageRequest) :
    Operation (Page Resource) := do
  let found ← checked (parentOfKind .database parent)
  match found with
  | some (.database schema) =>
      if connector.settings.leavesOut schema then
        return Page.empty
      else
        let page ← fetchPage request (.listTables schema) fun window =>
          Store.request (.listTables schema window)
        return page.map
          (connector.tableResource (Identity.database schema).resourceId)
  | _ => return Page.empty

/-- A routine under its database. -/
def routineResource
    (parent : ResourceId)
    (row : RoutineRow) :
    Resource :=
  Resource.plain (.routine row.schema row.name) (row.schema ++ "." ++ row.name)
    (some parent) []

/-- The routines of a database. -/
def listRoutines
    (connector : Connector)
    (parent : Option ResourceId)
    (request : PageRequest) :
    Operation (Page Resource) := do
  let found ← checked (parentOfKind .database parent)
  match found with
  | some (.database schema) =>
      if connector.settings.leavesOut schema then
        return Page.empty
      else
        let page ← fetchPage request (.listRoutines schema) fun window =>
          Store.request (.listRoutines schema window)
        return page.map (routineResource (Identity.database schema).resourceId)
  | _ => return Page.empty

/-- A column under its table. -/
def columnResource
    (parent : ResourceId)
    (row : ColumnRow) :
    Resource :=
  Resource.plain (.column row.schema row.owner row.name) row.name
    (some parent) []

/-- The columns of an expanded table. -/
def listColumns
    (connector : Connector)
    (parent : Option ResourceId)
    (request : PageRequest) :
    Operation (Page Resource) := do
  let found ← checked (parentOfKind .table parent)
  match found with
  | some (.table schema owner) =>
      if connector.settings.showsColumns schema owner then
        let page ← fetchPage request (.listColumns schema owner) fun window =>
          Store.request (.listColumns schema owner window)
        return page.map
          (columnResource (Identity.table schema owner).resourceId)
      else
        return Page.empty
  | _ => return Page.empty

/-- The accounts of one sort.  They lie under the connector's own server, which
need not be given as their parent. -/
def listAccounts
    (connector : Connector)
    (kind : AccountKind)
    (parent : Option ResourceId)
    (request : PageRequest) :
    Operation (Page Resource) := do
  let server := connector.serverIdentity.resourceId
  if parent.all (· = server) then
    let page ← fetchPage request (.listAccounts kind.kind) fun window =>
      Store.request (.listAccounts kind connector.settings.collapseUsers window)
    return page.map fun row =>
      Resource.ofAccount (kind.identity row.account) server
  else
    return Page.empty

/-- A page of the resources of a kind under a parent. -/
def list
    (connector : Connector)
    (kind : Kind)
    (parent : Option ResourceId)
    (request : PageRequest) :
    Operation (Page Resource) :=
  match kind with
  | .server => return connector.listServer
  | .database => connector.listDatabases parent request
  | .table => connector.listTables parent request
  | .column => connector.listColumns parent request
  | .routine => connector.listRoutines parent request
  | .user => connector.listAccounts .user parent request
  | .role => connector.listAccounts .role parent request

/-- The pages of a listing from a token on, following each page's token until it
is empty, or until as many pages as allowed have been read. -/
def pagesFrom
    (connector : Connector)
    (kind : Kind)
    (parent : Option ResourceId)
    (size : Nat) :
    (most : Nat) → (token : String) → Operation (List (Page Resource))
  | 0, _ => return []
  | most + 1, token => do
      let page ← connector.list kind parent ⟨token, size⟩
      if page.next = "" then
        return [page]
      else
        let others ← pagesFrom connector kind parent size most page.next
        return page :: others

end PrivilegeGraph.Connector
