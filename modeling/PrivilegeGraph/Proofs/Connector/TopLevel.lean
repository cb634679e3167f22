import Mathlib.Data.String.Basic
import Mathlib.Data.Fintype.EquivFin
import PrivilegeGraph.Proofs.Connector.Course
import PrivilegeGraph.Proofs.Identity.Separation
import PrivilegeGraph.Proofs.Store.View

/-!
# Listings directly under the server

Databases and accounts lie under the one server that a connector serves, so no
other parent is meant to have any.  Parents arrive as a kind and an id that
need not agree.  The listings of accounts compare both with the connector's own
server.  The listing of databases compares the kind alone and puts what it
finds under whatever the id denotes, so it serves the own server alone under
exactly those parents of that kind that are the own server.
-/

namespace PrivilegeGraph.Connector

open Program (Handler)

/-- Whether the listing of a kind under a parent is of the connector's own
server alone, whatever store it is read from and whatever page is asked for:
all that it shows lies under that server, and under another parent it shows
one empty page. -/
structure ServesOwn
    (connector : Connector)
    (kind : Kind)
    (parent : Option ResourceId) : Prop where
  placed :
    ∀ (σ : Type) (handler : Handler Store.interface σ) (state : σ),
      ∀ request page,
        ((connector.list kind parent request).run handler state).result =
            .ok page →
          ∀ resource ∈ page.items,
            resource.parent = some connector.serverIdentity.resourceId
  closed :
    ∀ id ∈ parent, id ≠ connector.serverIdentity.resourceId →
      ∀ (σ : Type) (handler : Handler Store.interface σ) (state : σ),
        ∀ request,
          ((connector.list kind parent request).run handler state).result =
            .ok Page.empty

/-- What is fetched is built row by row. -/
theorem exists_rows_of_fetching
    {σ α : Type}
    {handler : Handler Store.interface σ}
    {state : σ}
    {activity : Activity}
    {read : Window → Store.Access (List α)}
    {build : α → Resource}
    {request : PageRequest}
    {page : Page Resource}
    (listed :
      ((fetching activity read build request).run handler state).result =
        .ok page) :
    ∃ rows : Page α, page = rows.map build := by
  rw [fetching] at listed
  cases ended :
      ((fetchPage request activity read).run handler state).result with
  | ok rows =>
      rw [Program.result_run_bind_ok ended] at listed
      cases listed
      exact ⟨rows, rfl⟩
  | error failure =>
      rw [Program.result_run_bind_error ended] at listed
      cases listed

/-- Rows that are all put under one resource give pages that lie under it. -/
theorem parent_of_fetching
    {σ α : Type}
    {handler : Handler Store.interface σ}
    {state : σ}
    {activity : Activity}
    {read : Window → Store.Access (List α)}
    {build : α → Resource}
    {request : PageRequest}
    {page : Page Resource}
    {place : ResourceId}
    (listed :
      ((fetching activity read build request).run handler state).result =
        .ok page)
    (under : ∀ row, (build row).parent = some place) :
    ∀ resource ∈ page.items, resource.parent = some place := by
  rcases exists_rows_of_fetching listed with ⟨rows, rfl⟩
  intro resource member
  rcases List.mem_map.1 member with ⟨row, _, rfl⟩
  exact under row

section

variable
    {connector : Connector}
    {parent : Option ResourceId}

/-! ## Accounts -/

theorem list_accounts_of_other
    {kind : Store.AccountKind}
    {id : ResourceId}
    (given : id ∈ parent)
    (other : id ≠ connector.serverIdentity.resourceId)
    (request : PageRequest) :
    connector.list kind.kind parent request = pure Page.empty := by
  have listing :
      connector.list kind.kind parent = connector.listAccounts kind parent := by
    cases kind <;> rfl
  have without :
      ¬parent.all (· = connector.serverIdentity.resourceId) = true := by
    simp only [Option.all_eq_true, decide_eq_true_eq]
    exact fun own => other (own id given)
  rw [listing, listAccounts, if_neg without]

theorem servesOwn_accounts
    (connector : Connector)
    (kind : Store.AccountKind)
    (parent : Option ResourceId) :
    connector.ServesOwn kind.kind parent where
  placed := by
    intro σ handler state request page listed
    by_cases own : ∀ id ∈ parent, id = connector.serverIdentity.resourceId
    · rw [list_accounts_eq_fetching own] at listed
      exact parent_of_fetching listed fun _ => rfl
    · simp only [not_forall] at own
      rcases own with ⟨id, given, other⟩
      rw [list_accounts_of_other given other] at listed
      cases listed
      exact fun _ member => absurd member List.not_mem_nil
  closed := by
    intro id given other σ handler state request
    rw [list_accounts_of_other given other]
    rfl

/-! ## Databases -/

theorem list_database_of_otherKind
    (other : ∀ id ∈ parent, id.kind ≠ Kind.server.name)
    (request : PageRequest) :
    connector.list .database parent request = pure Page.empty := by
  rw [list, listDatabases, parentOfKind_of_otherKind other]
  rfl

/-- Databases are put under what the id of a parent of the server's kind
denotes. -/
theorem exists_parent_of_databases
    {σ : Type}
    {handler : Handler Store.interface σ}
    {state : σ}
    {request : PageRequest}
    {page : Page Resource}
    (listed :
      ((connector.list .database parent request).run handler state).result =
        .ok page)
    {resource : Resource}
    (member : resource ∈ page.items) :
    ∃ id server,
      parent = some id ∧ id.kind = Kind.server.name ∧
        Identity.parse id.id = .ok server ∧
        resource.parent = some server.resourceId := by
  cases named : parentOfKind .server parent with
  | error error =>
      rw [list, listDatabases, named] at listed
      cases listed
  | ok found =>
      cases found with
      | none =>
          rw [list, listDatabases, named] at listed
          cases listed
          exact absurd member List.not_mem_nil
      | some server =>
          rcases parentOfKind_eq_some_iff.1 named with
            ⟨id, given, ofKind, parsed⟩
          rw [list_database_eq_fetching named] at listed
          exact
            ⟨id, server, given, ofKind, parsed,
              parent_of_fetching listed (fun _ => rfl) resource member⟩

/-- A store in memory with one database shows it under any parent of the
server's kind that can be read. -/
theorem list_database_of_named
    {server : Identity}
    (named : parentOfKind .server parent = .ok (some server))
    {name : String}
    (kept : name ∉ connector.settings.skipDatabases) :
    ((connector.list .database parent ⟨"", 10⟩).run Store.Memory.openHandler
          { Store.Memory.everyScope with databases := [name] }).result =
      .ok ⟨[databaseResource server name], ""⟩ := by
  have found :
      ([name].filter fun name =>
          !connector.settings.skipDatabases.contains name) =
        [name] := by
    simpa using kept
  rw [list_database_eq_fetching named]
  show
    Except.ok
        (Page.map (databaseResource server)
          (Window.page ⟨0, 10⟩
            (Window.select ⟨0, 10⟩
              ([name].filter fun name =>
                !connector.settings.skipDatabases.contains name)))) =
      _
  rw [found]
  rfl

theorem servesOwn_database_of_own
    (own :
      ∀ id ∈ parent, id.kind = Kind.server.name →
        id = connector.serverIdentity.resourceId) :
    connector.ServesOwn .database parent where
  placed := by
    intro σ handler state request page listed resource member
    rcases exists_parent_of_databases listed member with
      ⟨id, server, given, ofKind, parsed, under⟩
    have denotes : server.id = connector.serverIdentity.id := by
      rw [← (Identity.parse_eq_ok_iff.1 parsed).1, own id given ofKind]
      rfl
    have kinds := (Identity.kind_body_of_id_eq denotes).1
    rw [under, Identity.resourceId, kinds, denotes]
    rfl
  closed := by
    intro id given other σ handler state request
    have otherKind : ∀ id ∈ parent, id.kind ≠ Kind.server.name := by
      intro id' given' ofKind
      have same : id' = id := Option.mem_unique given' given
      exact other (same ▸ own id' given' ofKind)
    rw [list_database_of_otherKind otherKind]
    rfl

/-- Under another parent of the server's kind a listing is refused when the id
cannot be read, and else shows the databases of some store. -/
theorem own_of_servesOwn_database
    (serves : connector.ServesOwn .database parent)
    {id : ResourceId}
    (given : id ∈ parent)
    (ofKind : id.kind = Kind.server.name) :
    id = connector.serverIdentity.resourceId := by
  by_contra other
  rcases Infinite.exists_notMem_finset
      connector.settings.skipDatabases.toFinset with
    ⟨name, unlisted⟩
  have kept : name ∉ connector.settings.skipDatabases := by
    simpa using unlisted
  have shut := serves.closed id given other _ Store.Memory.openHandler
    { Store.Memory.everyScope with databases := [name] } ⟨"", 10⟩
  cases parsed : Identity.parse id.id with
  | error error =>
      have named : parentOfKind .server parent = .error error := by
        rw [Option.mem_def.1 given, parentOfKind, if_pos ofKind, parsed]
        rfl
      rw [list, listDatabases, named] at shut
      cases shut
  | ok server =>
      have named :=
        parentOfKind_eq_some_iff.2 ⟨id, given, ofKind, parsed⟩
      rw [list_database_of_named named kept] at shut
      cases shut

end

/-- Accounts are listed for the own server alone.  Databases lie under what
the id of a parent of the server's kind denotes, and are listed for the own
server alone exactly under the parents of another kind and that server
itself. -/
theorem serves_own_unless_named
    (connector : Connector) :
    (∀ (kind : Store.AccountKind) (parent : Option ResourceId),
        connector.ServesOwn kind.kind parent) ∧
      (∀ parent : Option ResourceId,
        connector.ServesOwn .database parent ↔
          ∀ id ∈ parent, id.kind = Kind.server.name →
            id = connector.serverIdentity.resourceId) ∧
      ∀ (σ : Type) (handler : Handler Store.interface σ) (state : σ),
        ∀ parent request page,
          ((connector.list .database parent request).run handler
                state).result =
              .ok page →
            ∀ resource ∈ page.items, ∃ id server,
              parent = some id ∧ id.kind = Kind.server.name ∧
                Identity.parse id.id = .ok server ∧
                resource.parent = some server.resourceId := by
  refine ⟨connector.servesOwn_accounts, fun parent => ⟨?_, ?_⟩, ?_⟩
  · intro serves id given ofKind
    exact own_of_servesOwn_database serves given ofKind
  · exact servesOwn_database_of_own
  · intro σ handler state parent request page listed resource member
    exact exists_parent_of_databases listed member

/-- The databases of one server are listed under the id of another. -/
theorem databases_under_other_server :
    let connector : Connector := ⟨{}, .modern, ⟨"db-01", "8.0.36"⟩⟩
    let other : ResourceId := ⟨"server", "server:db-02"⟩
    other ≠ connector.serverIdentity.resourceId ∧
      ∃ page resource,
        ((connector.list .database (some other) ⟨"", 10⟩).run
              Store.Memory.openHandler Store.Memory.everyScope).result =
            .ok page ∧
          resource ∈ page.items ∧
            resource.id = ⟨"database", "database:shop"⟩ ∧
              resource.parent = some other := by
  intro connector other
  have named :
      parentOfKind .server (some other) = .ok (some (.server "db-02")) := by
    decide
  have kept : "shop" ∉ connector.settings.skipDatabases := by
    decide
  have listed := list_database_of_named named kept
  exact ⟨by decide, _, _, listed, List.mem_cons_self, rfl, rfl⟩

end PrivilegeGraph.Connector
