import PrivilegeGraph.Catalog
import PrivilegeGraph.Grant
import PrivilegeGraph.Sql.Statement
import PrivilegeGraph.Store

/-!
# Changes of access

A request to give or take a right is checked against the catalog, the rule on
principals and the allow-lists, turned into one statement, and run.  The first
violated rule is reported, and nothing is run before every rule has been
checked.
-/

namespace PrivilegeGraph.Administration

open Sql
open Store (Access)

/-- The catalog entry of a right. -/
def entryOf
    (generation : Generation)
    (right : Right) :
    Except Error Catalog.Entry :=
  match Catalog.lookup? right.resource.kind right.privilege generation with
  | some entry => .ok entry
  | none => .error (.unsupportedPrivilege right.privilege right.resource.kind)

/-- Whether roles may hold an entry on a resource: on servers and databases
only, and never the right to act as another account. -/
def rolesAllowed
    (resource : Identity)
    (entry : Catalog.Entry) :
    Bool :=
  (resource.kind == .server || resource.kind == .database) &&
    entry.privilege.id != Privilege.proxyId

/-- The account that a right is given to or taken from. -/
def granteeAccount
    (principal resource : Identity)
    (entry : Catalog.Entry) :
    Except Error Account :=
  match principal with
  | .user account => .ok account
  | .role account =>
      if rolesAllowed resource entry then .ok account
      else .error (.unsupportedKind principal.kind.name)
  | other => .error (.unsupportedKind other.kind.name)

/-- The keywords of an entry on a column.  The right to pass privileges on is no
column privilege and stands for those that are. -/
def columnKeywords (entry : Catalog.Entry) : List String :=
  if entry.privilege.id = Privilege.grantId then
    ["SELECT", "INSERT", "UPDATE", "REFERENCES"]
  else
    [entry.keyword]

/-- What a request changes.  The sort of a routine is known to the store
only. -/
inductive Demand
  | change (change : Change)
  | routine (keyword schema name : String) (target : Path)

/-- What an entry on a resource means for a statement. -/
def demandOn (entry : Catalog.Entry) : Identity → Except Error Demand
  | .server _ =>
      if entry.privilege.id = Privilege.proxyId then
        .ok (.change (.proxy none entry.withOption))
      else
        .ok (.change (.privilege entry.keyword .everything entry.withOption))
  | .database name => do
      let target ← Path.ofText name
      return .change
        (.privilege entry.keyword (.database target) entry.withOption)
  | .table schema name => do
      let target ← Path.ofText (schema ++ "." ++ name)
      return .change (.privilege entry.keyword (.table target) entry.withOption)
  | .column schema owner name => do
      let column ← Path.ofText name
      let table ← Path.ofText (schema ++ "." ++ owner)
      return .change (.columns (columnKeywords entry) column table)
  | .routine schema name => do
      if entry.privilege.id = Privilege.executeId ∨
          entry.privilege.id = Privilege.alterRoutineId then
        let target ← Path.ofText (schema ++ "." ++ name)
        return .routine entry.keyword schema name target
      else
        throw (.unsupportedPrivilege entry.id .routine)
  | .user account => accountDemand .user account
  | .role account => accountDemand .role account
where
  /-- What an entry on an account means. -/
  accountDemand (kind : Kind) (account : Account) : Except Error Demand := do
    let target ← Grantee.ofAccount account
    if entry.privilege.id = Privilege.roleAssignmentId then
      return .change (.membership target entry.withOption)
    else if entry.privilege.id = Privilege.proxyId then
      return .change (.proxy (some target) entry.withOption)
    else
      throw (.unsupportedPrivilege entry.id kind)

/-- Check a request as far as that needs no store. -/
def check
    (generation : Generation)
    (principal : Identity)
    (right : Right) :
    Except Error (Demand × Grantee) := do
  let entry ← entryOf generation right
  let account ← granteeAccount principal right.resource entry
  let grantee ← Grantee.ofAccount account
  let demand ← demandOn entry right.resource
  return (demand, grantee)

/-- The sort of a routine from the store's text, which any letter case may
spell. -/
def routineTypeOf (text : String) : Except Error RoutineType :=
  let upper := Text.uppered text
  if upper = RoutineType.function.keyword then .ok .function
  else if upper = RoutineType.procedure.keyword then .ok .procedure
  else .error (.unsupportedKind upper)

/-- The sort of a routine. -/
def routineType (schema name : String) : Access RoutineType := do
  let found : Option String ← Store.request (.routineType schema name)
  match found with
  | none => Program.fail (.unresolved (Identity.routine schema name).id)
  | some text => Program.ofExcept (routineTypeOf text)

/-- The change that a demand asks for. -/
def resolve : Demand → Access Change
  | .change change => return change
  | .routine keyword schema name target => do
      let type ← routineType schema name
      return .privilege keyword (.routine type target) false

/-- The statement that gives a right to a principal or takes it away. -/
def statement
    (generation : Generation)
    (action : Action)
    (principal : Identity)
    (right : Right) :
    Access Statement := do
  let (demand, grantee) ← Program.ofExcept (check generation principal right)
  let change ← resolve demand
  return .access action change grantee

/-- Run a statement and report it. -/
def apply (statement : Statement) : Access Unit := do
  let _ ← Store.request (.execute statement.text)
  Program.report (.applied statement.text)

/-- Give an entitlement to a principal, both by id; the principal's is read
first. -/
def grant
    (generation : Generation)
    (principalId entitlementId : String) :
    Access Unit := do
  let principal ← Program.ofExcept (Identity.principalOfId principalId)
  let right ← Program.ofExcept (Right.ofId entitlementId)
  let built ← statement generation .grant principal right
  apply built

/-- Take back a grant by id. -/
def revoke
    (generation : Generation)
    (grantId : String) :
    Access Unit := do
  let (right, principal) ← Program.ofExcept (Grant.partsOfId grantId)
  let built ← statement generation .revoke principal right
  apply built

/-- Create an account with a password.  The statement is not reported, as it
holds the password. -/
def createUser
    (account : Account)
    (password : String) :
    Access Unit := do
  let checked ← Program.ofExcept (Grantee.ofAccount account)
  let _ ← Store.request (.execute (Statement.createUser checked password).text)
  Program.report (.createdUser account)

/-- Drop an account. -/
def dropUser (account : Account) : Access Unit := do
  let checked ← Program.ofExcept (Grantee.ofAccount account)
  apply (.dropUser checked)

end PrivilegeGraph.Administration
