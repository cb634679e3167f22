import PrivilegeGraph.Catalog
import PrivilegeGraph.Grant
import PrivilegeGraph.Settings
import PrivilegeGraph.Store

/-!
# Reconciliation

The grants of a principal are rebuilt from the store's grant tables.  Each host
of the principal is read on its own, scope after scope; the rights found are
merged into one sorted set, and those that the catalog does not list are
reported and left out.  The first call that fails ends the whole, so there are
no partial results.
-/

namespace PrivilegeGraph

/-- The catalog ids in a comma list of privileges as grant tables write them. -/
def Privilege.idsOf (list : String) : List String :=
  (Text.entries list).map fun entry =>
    Text.lowered (Text.exchanged ' ' '_' entry)

/-- Whether a flag column says yes. -/
def Store.saysYes (flag : String) : Bool :=
  flag == "y" || flag == "Y"

/-- What reading grants depends on besides the store. -/
structure Reconciliation where
  settings : Settings
  generation : Generation
  server : Identity
  deriving DecidableEq, Repr

namespace Reconciliation

open Store

variable (reconciliation : Reconciliation)

/-- The rights that a comma list of privileges means on a resource. -/
def rightsOn
    (resource : Identity)
    (list : String) :
    List Right :=
  (Privilege.idsOf list).map fun privilege => ⟨privilege, resource⟩

/-- A right, and before it the variant with the option when that is held too. -/
def rightWithOption
    (privilege : String)
    (resource : Identity)
    (withOption : Bool) :
    List Right :=
  if withOption then
    [⟨privilege ++ Privilege.grantOptionSuffix, resource⟩,
      ⟨privilege, resource⟩]
  else
    [⟨privilege, resource⟩]

/-- Look up an account that a row refers to.  A missing account is reported and
is no error. -/
def lookUp
    (purpose : LookupPurpose)
    (user host : String) :
    Access (Option AccountRow) := do
  let found : Option AccountRow ← request (.getAccount user host)
  if found.isNone then
    Program.report (.unresolved purpose user host)
  return found

/-- Rights in a database, unless it is left out, which is reported. -/
def unlessSkipped
    (database : String)
    (rights : List Right) :
    Access (List Right) := do
  if reconciliation.settings.leavesOut database then
    Program.report (.skippedDatabase database)
    return []
  else
    return rights

/-- Read rows, and gather the rights of one row after the other. -/
def gathered
    {ρ : Type}
    (rows : Access (List ρ))
    (rightsIn : ρ → Access (List Right)) :
    Access (List Right) := do
  let found ← rows
  let rights ← Program.collect rightsIn found
  return rights.flatten

/-- The rights in rows of which each lies in a database and has a comma list of
privileges on a resource. -/
def listedRights
    {ρ : Type}
    (rows : Access (List ρ))
    (databaseOf : ρ → String)
    (resourceOf : ρ → Identity)
    (listOf : ρ → String) :
    Access (List Right) :=
  gathered rows fun row =>
    reconciliation.unlessSkipped (databaseOf row)
      (rightsOn (resourceOf row) (listOf row))

/-- The rights of a dynamic privilege row. -/
def globalRights (row : GlobalGrant) : List Right :=
  rightWithOption (Text.lowered row.privilege) reconciliation.server
    (saysYes row.withOption)

/-- The dynamic privileges of an account, which only modern servers have. -/
def dynamicRights (row : AccountRow) : Access (List Right) := do
  match reconciliation.generation with
  | .legacy => return []
  | .modern =>
      let rows : List GlobalGrant ← request (.globalGrants row.user row.host)
      return rows.flatMap reconciliation.globalRights

/-- The rights of an account on the server as a whole. -/
def serverRights (account : Account) : Access (List Right) := do
  let found ← lookUp .globalGrants account.name account.host
  match found with
  | none => return []
  | some row =>
      let dynamic ← reconciliation.dynamicRights row
      return dynamic ++ rightsOn reconciliation.server row.privileges

/-- The rights of an account on databases. -/
def databaseRights (account : Account) : Access (List Right) :=
  reconciliation.listedRights
    (request (.databaseGrants account.name account.host))
    (fun row : DatabaseGrant => row.database)
    (fun row => .database row.database)
    (fun row => row.privileges)

/-- The rights of an account on tables. -/
def tableRights (account : Account) : Access (List Right) :=
  reconciliation.listedRights
    (request (.tableGrants account.name account.host))
    (fun row : TableGrant => row.schema)
    (fun row => .table row.schema row.name)
    (fun row => row.privileges)

/-- The resource of a column's grant: the column itself when its table is
expanded, and the table otherwise. -/
def columnResource (row : ColumnGrant) : Identity :=
  if reconciliation.settings.showsColumns row.schema row.owner then
    .column row.schema row.owner row.name
  else
    .table row.schema row.owner

/-- The rights of an account on columns. -/
def columnRights (account : Account) : Access (List Right) :=
  reconciliation.listedRights
    (request (.columnGrants account.name account.host))
    (fun row : ColumnGrant => row.schema)
    reconciliation.columnResource
    (fun row => row.privileges)

/-- The rights of a proxy row.  A row about the account itself says nothing, and
one without name and host means every account of the server. -/
def proxyRowRights (row : ProxyGrant) : Access (List Right) := do
  if row.proxiedUser = row.user ∧ row.proxiedHost = row.host then
    return []
  else if row.proxiedUser = "" ∧ row.proxiedHost = "" then
    return rightWithOption Privilege.proxyId reconciliation.server
      row.withOption
  else
    let found ← lookUp .proxyGrants row.proxiedUser row.proxiedHost
    match found with
    | none => return []
    | some target =>
        return rightWithOption Privilege.proxyId target.identity row.withOption

/-- The accounts that an account may act as. -/
def proxyRights (account : Account) : Access (List Right) :=
  gathered (request (.proxyGrants account.name account.host))
    reconciliation.proxyRowRights

/-- The rights of a role edge.  An edge from an account to itself says
nothing. -/
def roleEdgeRights (edge : RoleEdge) : Access (List Right) := do
  if edge.fromUser = edge.toUser ∧ edge.fromHost = edge.toHost then
    return []
  else
    let found ← lookUp .roleEdges edge.fromUser edge.fromHost
    match found with
    | none => return []
    | some role =>
        return rightWithOption Privilege.roleAssignmentId role.identity
          (saysYes edge.withOption)

/-- The roles that an account holds, which only modern servers have. -/
def roleRights (account : Account) : Access (List Right) :=
  match reconciliation.generation with
  | .legacy => return []
  | .modern =>
      gathered (request (.roleEdges account.name account.host)) roleEdgeRights

/-- Every right of an account on one host.  That the reading starts is reported;
how long it took is not, since there is no time here. -/
def rightsOf (account : Account) : Access (List Right) := do
  Program.report (.reconciling account)
  let onServer ← reconciliation.serverRights account
  let onDatabases ← reconciliation.databaseRights account
  let onTables ← reconciliation.tableRights account
  let onColumns ← reconciliation.columnRights account
  let asProxy ← reconciliation.proxyRights account
  let inRoles ← reconciliation.roleRights account
  return onServer ++ onDatabases ++ onTables ++ onColumns ++ asProxy ++ inRoles

/-- Whether the catalog lists a right. -/
def isKnown (right : Right) : Bool :=
  (Catalog.lookup? right.resource.kind right.privilege
    reconciliation.generation).isSome

/-- The rights that the catalog lists; each other one is reported. -/
def keepKnown : List Right → Access (List Right)
  | [] => return []
  | right :: rest => do
      if reconciliation.isKnown right then
        let others ← keepKnown rest
        return right :: others
      else
        Program.report (.unknownRight right)
        keepKnown rest

/-- The grants of a user or role, in the order of their rights. -/
def grantsHeldBy (principal : Identity) : Access (List Grant) := do
  match principal.account? with
  | none => Program.fail (.unsupportedKind principal.kind.name)
  | some account =>
      let found ← Program.collect reconciliation.rightsOf account.expanded
      let known ← reconciliation.keepKnown (Sorted.ofList found.flatten)
      return known.map fun right => Grant.ofRight right principal

end Reconciliation

end PrivilegeGraph
