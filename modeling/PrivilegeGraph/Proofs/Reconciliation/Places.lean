import PrivilegeGraph.Proofs.Reconciliation.Exactness

/-!
# Where rights are held

The grant tables say that rights are held on the server, on what the rows of
databases, tables and columns name, and on accounts that are found.  What
holds of the resources of all rights is a case for each of these places.
-/

namespace PrivilegeGraph.Reconciliation

open Store (View)

/-- The resources on which the grant tables can say that an account holds a
right, each with the row that names it. -/
inductive Place
    (view : View)
    (reconciliation : Reconciliation)
    (account : Account) :
    Identity → Prop
  | server :
      Place view reconciliation account reconciliation.server
  | database
      {row : Store.DatabaseGrant}
      (member : row ∈ view.databaseGrants account.name account.host) :
      Place view reconciliation account (.database row.database)
  | table
      {row : Store.TableGrant}
      (member : row ∈ view.tableGrants account.name account.host) :
      Place view reconciliation account (.table row.schema row.name)
  | column
      {row : Store.ColumnGrant}
      (member : row ∈ view.columnGrants account.name account.host) :
      Place view reconciliation account
        (.column row.schema row.owner row.name)
  | tableOfColumn
      {row : Store.ColumnGrant}
      (member : row ∈ view.columnGrants account.name account.host) :
      Place view reconciliation account (.table row.schema row.owner)
  | proxied
      {row : Store.ProxyGrant}
      (member : row ∈ view.proxyGrants account.name account.host)
      (other : ¬(row.proxiedUser = row.user ∧ row.proxiedHost = row.host))
      (someone : ¬(row.proxiedUser = "" ∧ row.proxiedHost = ""))
      {target : Store.AccountRow}
      (found :
        view.getAccount row.proxiedUser row.proxiedHost = some target) :
      Place view reconciliation account target.identity
  | role
      (modern : reconciliation.generation = .modern)
      {edge : Store.RoleEdge}
      (member : edge ∈ view.roleEdges account.name account.host)
      (other : ¬(edge.fromUser = edge.toUser ∧ edge.fromHost = edge.toHost))
      {role : Store.AccountRow}
      (found : view.getAccount edge.fromUser edge.fromHost = some role) :
      Place view reconciliation account role.identity

variable
    {view : View}
    {reconciliation : Reconciliation}
    {account : Account}
    {right : Right}

theorem IsVariant.place
    {privilege : String}
    {resource : Identity}
    {withOption : Prop}
    (variant : IsVariant privilege resource withOption right)
    (place : Place view reconciliation account resource) :
    Place view reconciliation account right.resource :=
  variant.1 ▸ place

/-- Every right that the grant tables say an account has is on one of the
places. -/
theorem Holds.place
    (holds : Holds view reconciliation account right) :
    Place view reconciliation account right.resource := by
  rcases holds with
    onServer | onDatabases | onTables | onColumns | asProxy | inRoles
  · rcases onServer with ⟨row, _, ⟨here, _⟩ | ⟨_, granted, _, variant⟩⟩
    · exact here ▸ .server
    · exact variant.place .server
  · rcases onDatabases with ⟨row, member, _, here, _⟩
    exact here ▸ .database member
  · rcases onTables with ⟨row, member, _, here, _⟩
    exact here ▸ .table member
  · rcases onColumns with ⟨row, member, _, ⟨_, here⟩ | ⟨_, here⟩, _⟩
    · exact here ▸ .column member
    · exact here ▸ .tableOfColumn member
  · rcases asProxy with
      ⟨row, member, other, ⟨_, variant⟩ | ⟨someone, target, found, variant⟩⟩
    · exact variant.place .server
    · exact variant.place (.proxied member other someone found)
  · rcases inRoles with ⟨modern, edge, member, other, role, found, variant⟩
    exact variant.place (.role modern member other found)

theorem Held.exists_place
    (held : Held view reconciliation account right) :
    ∃ single, Place view reconciliation single right.resource := by
  rcases held with ⟨_, single, _, holds⟩
  exact ⟨single, holds.place⟩

end PrivilegeGraph.Reconciliation
