import PrivilegeGraph.Proofs.Connector.Tree
import PrivilegeGraph.Proofs.Reconciliation.Facts

/-!
# Tours of the resource tree

A tour starts with the server and goes on to the listings of all kinds that
each met resource advertises, page after page and with that resource as the
parent.  Against a store whose listings are orderly it meets the whole tree
and nothing else: every advertised kind has a listing, every id is read back
as what it was listed as, and only routines that share their name are met more
than once.
-/

namespace PrivilegeGraph.Connector

open Program (Assured Handler)
open Store (AccountKind Inventory)

/-- A resource that is met in the listing of a kind under a parent. -/
structure Visit where
  kind : Kind
  under : Option ResourceId
  resource : Resource
  deriving DecidableEq, Repr

/-- A resource, and after it what the listings of the kinds that it advertises
lead to. -/
def visitBelow
    (explored : Kind → Option ResourceId → Operation (List Visit))
    (kind : Kind)
    (under : Option ResourceId)
    (resource : Resource) : Operation (List Visit) := do
  let below ← Program.collect
    (fun child => explored child (some resource.id)) resource.childKinds
  return ⟨kind, under, resource⟩ :: below.flatten

/-- The resources that a listing leads to, down to a depth.  Every listing is
read in page sizes of its own. -/
def explore
    (connector : Connector)
    (most : Nat)
    (sizes : Kind → Option ResourceId → Nat → Nat) :
    (depth : Nat) → Kind → Option ResourceId → Operation (List Visit)
  | 0, _, _ => return []
  | depth + 1, kind, under => do
      let pages ← connector.walk kind under most (sizes kind under) ""
      let found ← Program.collect
        (visitBelow (explore connector most sizes depth) kind under)
        (pages.flatMap Page.items)
      return found.flatten

/-- The resources that the server leads to. -/
def tour
    (connector : Connector)
    (most : Nat)
    (sizes : Kind → Option ResourceId → Nat → Nat)
    (depth : Nat) : Operation (List Visit) :=
  connector.explore most sizes depth .server none

/-! ## Listings under a resource of the tree -/

section

variable
    {connector : Connector}
    (hostNamed : connector.server.hostname ≠ "")
    {inventory : Inventory}
    (orderly : inventory.Orderly)
    {identity : Identity}

include hostNamed orderly

/-- Every resource of the tree can be read back from its id. -/
theorem InTree.wellFormed
    (inTree : connector.InTree inventory identity) :
    identity.WellFormed := by
  induction inTree with
  | server => exact hostNamed
  | database stored kept => exact orderly.databases.2 _ stored
  | table within stored ih =>
      exact ⟨ih, ((orderly.tables _).2 _ stored).2⟩
  | column within expanded stored ih =>
      exact ⟨ih.1, ih.2, ((orderly.columns _ _).2 _ stored).2.2⟩
  | routine within stored ih =>
      exact ⟨ih, ((orderly.routines _).2 _ stored).2⟩
  | user listed => exact orderly.readable listed
  | role modern listed => exact orderly.readable listed

omit hostNamed orderly in
theorem shows_accounts (kind : AccountKind) :
    connector.Shows inventory kind.kind
      (some connector.serverIdentity.resourceId)
      ((connector.children inventory connector.serverIdentity kind.kind).map
        connector.resourceOf) := by
  have rows :
      (connector.children inventory connector.serverIdentity kind.kind).map
          connector.resourceOf =
        connector.accountsShown inventory kind := by
    cases kind <;> exact List.map_map
  rw [rows]
  exact shows_accountsShown fun _ member => (Option.mem_some.1 member).symm

omit hostNamed in
theorem map_children_tables (schema : String) :
    (connector.children inventory (.database schema) .table).map
        connector.resourceOf =
      (inventory.tables schema).map
        (connector.tableResource (Identity.database schema).resourceId) := by
  rw [children, List.map_map]
  apply List.map_congr_left
  intro row listed
  rcases (orderly.tables schema).2 row listed with ⟨rfl, _⟩
  rfl

omit hostNamed in
theorem map_children_routines (schema : String) :
    (connector.children inventory (.database schema) .routine).map
        connector.resourceOf =
      (inventory.routines schema).map
        (routineResource (Identity.database schema).resourceId) := by
  rw [children, List.map_map]
  apply List.map_congr_left
  intro row listed
  rcases (orderly.routines schema).2 row listed with ⟨rfl, _⟩
  rfl

omit hostNamed in
theorem map_children_columns (schema owner : String) :
    (connector.children inventory (.table schema owner) .column).map
        connector.resourceOf =
      (inventory.columns schema owner).map
        (columnResource (Identity.table schema owner).resourceId) := by
  rw [children, List.map_map]
  apply List.map_congr_left
  intro row listed
  rcases (orderly.columns schema owner).2 row listed with ⟨rfl, rfl, _⟩
  rfl

/-- The listing of an advertised kind shows the children of that kind. -/
theorem InTree.shows
    (inTree : connector.InTree inventory identity)
    {kind : Kind}
    (advertised : kind ∈ connector.childKinds identity) :
    connector.Shows inventory kind (some identity.resourceId)
      ((connector.children inventory identity kind).map
        connector.resourceOf) := by
  have named := parentOfKind_resourceId (inTree.wellFormed hostNamed orderly)
  cases inTree with
  | server =>
      rcases mem_childKinds_server_iff.1 advertised with
        rfl | rfl | ⟨rfl, modern⟩
      · show
          connector.Shows _ _ _
            (((inventory.databasesBut _).map Identity.database).map _)
        rw [List.map_map]
        exact .databases named
      · exact shows_accounts .user
      · exact shows_accounts .role
  | @database schema stored kept =>
      rcases List.mem_pair.1 advertised with rfl | rfl
      · rw [map_children_tables orderly]
        exact .tables named kept
      · rw [map_children_routines orderly]
        exact .routines named kept
  | @table schema owner within stored =>
      rcases mem_childKinds_table_iff.1 advertised with ⟨rfl, expanded⟩
      rw [map_children_columns orderly]
      exact .columns named expanded
  | _ => cases advertised

end

/-! ## Tours -/

/-- A resource of the tree as it is met. -/
def visitOf
    (connector : Connector)
    (identity : Identity) : Visit :=
  ⟨identity.kind, (connector.above identity).map Identity.resourceId,
    connector.resourceOf identity⟩

/-- Whether every walk through a listing meets some resources of the tree. -/
def Leads
    (connector : Connector)
    (inventory : Inventory)
    (most : Nat)
    (kind : Kind)
    (under : Option ResourceId)
    (identities : List Identity) : Prop :=
  ∀ sizes, ∃ pages : List (Page Resource),
    pages.flatMap Page.items = identities.map connector.resourceOf ∧
      (connector.walk kind under most sizes "").Assured inventory.contract
        (· = .ok pages)

/-- If exploring under a resource of the tree meets what lies below it, then
visiting the resource meets it and that. -/
theorem assured_visitBelow
    {connector : Connector}
    {inventory : Inventory}
    {explored : Kind → Option ResourceId → Operation (List Visit)}
    {depth : Nat}
    {identity : Identity}
    (explores :
      ∀ kind ∈ connector.childKinds identity,
        (explored kind (some identity.resourceId)).Assured inventory.contract
          (· =
            .ok
              (((connector.children inventory identity kind).flatMap
                  (connector.descend inventory depth)).map
                connector.visitOf))) :
    (visitBelow explored identity.kind
          ((connector.above identity).map Identity.resourceId)
          (connector.resourceOf identity)).Assured
      inventory.contract
      (· =
        .ok
          ((connector.descend inventory (depth + 1) identity).map
            connector.visitOf)) := by
  have below :=
    Assured.collect
      (List.forall₂_map_right_iff.2
        (List.forall₂_same.2 explores))
  apply below.bind_eq_ok
  rw [descend, List.map_cons, List.map_flatMap, List.flatMap_def]
  exact rfl

section

variable
    {connector : Connector}
    (hostNamed : connector.server.hostname ≠ "")
    {inventory : Inventory}
    (orderly : inventory.Orderly)
    (countable : inventory.Countable)
    {most : Nat}
    (enough : 1 <<< 64 < most)

include enough

/-- The listing of servers leads to the one server. -/
theorem leads_server :
    connector.Leads inventory most .server none
      [connector.serverIdentity] := by
  intro sizes
  refine ⟨[connector.listServer], ?_, ?_⟩
  · rfl
  · cases most with
    | zero => cases enough
    | succ most => exact rfl

include hostNamed orderly countable

/-- The listing of an advertised kind leads to the children of that kind. -/
theorem InTree.leads
    {identity : Identity}
    (inTree : connector.InTree inventory identity)
    {kind : Kind}
    (advertised : kind ∈ connector.childKinds identity) :
    connector.Leads inventory most kind (some identity.resourceId)
      (connector.children inventory identity kind) := by
  have shown := inTree.shows hostNamed orderly advertised
  have counted := shown.length_le countable
  intro sizes
  rcases exists_tiles _ sizes 0 with ⟨pages, tiles⟩
  refine ⟨pages, tiles.partitions.items, ?_⟩
  apply assured_walk shown.cutFrom counted tiles Window.reads_empty
  have few := tiles.length_le
  omega

/-- A listing that leads to resources of the tree is explored down to what is
met when going down from them.  The induction is on the depth, and what is
advertised leads on to resources of the tree. -/
theorem assured_explore
    (sizes : Kind → Option ResourceId → Nat → Nat)
    {depth : Nat}
    {kind : Kind}
    {under : Option ResourceId}
    {identities : List Identity}
    (leads : connector.Leads inventory most kind under identities)
    (placed :
      ∀ identity ∈ identities,
        connector.InTree inventory identity ∧ identity.kind = kind ∧
          (connector.above identity).map Identity.resourceId = under) :
    (connector.explore most sizes depth kind under).Assured
      inventory.contract
      (· =
        .ok
          ((identities.flatMap (connector.descend inventory depth)).map
            connector.visitOf)) := by
  induction depth generalizing kind under identities with
  | zero =>
      have nothing :
          identities.flatMap (connector.descend inventory 0) = [] := by
        simp [descend]
      rw [nothing]
      exact rfl
  | succ depth ih =>
      have visits :
          ∀ identity ∈ identities,
            (visitBelow (connector.explore most sizes depth) kind under
                  (connector.resourceOf identity)).Assured
              inventory.contract
              (· =
                .ok
                  ((connector.descend inventory (depth + 1) identity).map
                    connector.visitOf)) := by
        intro identity member
        rcases placed identity member with ⟨inTree, rfl, rfl⟩
        apply assured_visitBelow
        intro child advertised
        apply ih (inTree.leads hostNamed orderly countable enough advertised)
        intro other listed
        rcases inTree.step orderly advertised listed with ⟨otherInTree, up⟩
        refine ⟨otherInTree, kind_of_mem_children listed, ?_⟩
        rw [up]
        rfl
      rcases leads (sizes kind under) with ⟨pages, items, walked⟩
      rw [explore]
      apply walked.bind_eq_ok
      rw [items]
      have found :=
        Assured.collect
          (List.forall₂_map_left_iff.2
            (List.forall₂_map_right_iff.2 (List.forall₂_same.2 visits)))
      apply found.bind_eq_ok
      rw [List.map_flatMap, List.flatMap_def]
      exact rfl

/-- The tour meets what one meets when going down from the server. -/
theorem assured_tour
    (sizes : Kind → Option ResourceId → Nat → Nat)
    (depth : Nat) :
    (connector.tour most sizes depth).Assured inventory.contract
      (· =
        .ok
          ((connector.descend inventory depth connector.serverIdentity).map
            connector.visitOf)) := by
  have fromServer :
      connector.descend inventory depth connector.serverIdentity =
        [connector.serverIdentity].flatMap
          (connector.descend inventory depth) :=
    (List.flatMap_singleton _ _).symm
  rw [tour, fromServer]
  apply
    assured_explore hostNamed orderly countable enough sizes
      (leads_server enough)
  intro identity member
  rcases List.mem_singleton.1 member with rfl
  exact ⟨.server, rfl, rfl⟩

end

/-! ## What a tour covers -/

/-- Whether a visit fits its place: it is to a resource of the tree that can be
read back from its id, of the kind that was listed, and its parent is the one
that it was listed under and, in a database, the one that its id names.  Every
kind that it advertises is one that the connector lists. -/
structure Visit.Fits
    (visit : Visit)
    (connector : Connector)
    (inventory : Inventory)
    (identity : Identity) : Prop where
  inTree : connector.InTree inventory identity
  id : visit.resource.id = identity.resourceId
  read : Identity.parse visit.resource.id.id = .ok identity
  kind : identity.kind = visit.kind
  parent : visit.resource.parent = visit.under
  nested :
    ∀ parent, identity.parent? = some parent →
      visit.under = some parent.resourceId
  advertises :
    ∀ kind ∈ visit.resource.childKinds, kind ∈ connector.kinds

/-- Whether visits cover the tree: each fits its place, and every resource of
the tree is met once, a routine once for each row with its name. -/
structure Covers
    (connector : Connector)
    (inventory : Inventory)
    (visits : List Visit) : Prop where
  fits :
    ∀ visit ∈ visits, ∃ identity, visit.Fits connector inventory identity
  once :
    ∀ identity, connector.InTree inventory identity →
      identity.kind ≠ .routine →
        (visits.map fun visit => visit.resource.id).count
            identity.resourceId =
          1
  routines :
    ∀ schema name, connector.InTree inventory (.routine schema name) →
      (visits.map fun visit => visit.resource.id).count
          (Identity.routine schema name).resourceId =
        (inventory.routines schema).countP (·.name = name)

section

variable
    {connector : Connector}
    (hostNamed : connector.server.hostname ≠ "")
    {inventory : Inventory}
    (orderly : inventory.Orderly)
    {identity : Identity}

include hostNamed orderly

theorem InTree.fits
    (inTree : connector.InTree inventory identity) :
    (connector.visitOf identity).Fits connector inventory identity where
  inTree := inTree
  id := rfl
  read :=
    Identity.parse_eq_ok_iff.2 ⟨rfl, inTree.wellFormed hostNamed orderly⟩
  kind := rfl
  parent := rfl
  nested _ named := by
    cases identity <;> cases named <;> rfl
  advertises _ := mem_kinds_of_mem_childKinds

/-- Resources of the tree are told apart by their ids. -/
theorem InTree.eq_of_resourceId_eq
    (inTree : connector.InTree inventory identity)
    {other : Identity}
    (otherInTree : connector.InTree inventory other)
    (same : other.resourceId = identity.resourceId) :
    other = identity := by
  have read :=
    Identity.parse_eq_ok_iff.2 ⟨rfl, inTree.wellFormed hostNamed orderly⟩
  have read' :=
    Identity.parse_eq_ok_iff.2
      ⟨congrArg ResourceId.id same.symm,
        otherInTree.wellFormed hostNamed orderly⟩
  exact Except.ok.inj (read'.symm.trans read)

/-- An id is met as often as its resource. -/
theorem count_ids_descend
    (inTree : connector.InTree inventory identity)
    {depth : Nat}
    (deep : 4 ≤ depth) :
    (((connector.descend inventory depth connector.serverIdentity).map
            connector.visitOf).map
          fun visit => visit.resource.id).count identity.resourceId =
      rowsOf inventory identity := by
  rw [← count_descend orderly inTree deep, List.map_map]
  apply count_map_of_alone
  intro other met same
  have otherInTree := (InTree.server.of_mem_descend orderly met).1
  exact inTree.eq_of_resourceId_eq hostNamed orderly otherInTree same

theorem covers_descend
    {depth : Nat}
    (deep : 4 ≤ depth) :
    connector.Covers inventory
      ((connector.descend inventory depth connector.serverIdentity).map
        connector.visitOf) where
  fits visit member := by
    rcases List.mem_map.1 member with ⟨identity, met, rfl⟩
    have inTree := (InTree.server.of_mem_descend orderly met).1
    exact ⟨identity, inTree.fits hostNamed orderly⟩
  once identity inTree other := by
    rw [count_ids_descend hostNamed orderly inTree deep]
    cases identity with
    | routine schema name => exact absurd rfl other
    | _ => rfl
  routines schema name inTree :=
    count_ids_descend hostNamed orderly inTree deep

end

/-- Against a store whose listings are orderly, a tour from the server ends
and covers the tree, in whatever page sizes its listings are read.  The tree
has no more than four levels. -/
theorem tour_covers
    {σ : Type}
    {handler : Handler Store.interface σ}
    {states : σ → Prop}
    {connector : Connector}
    {inventory : Inventory}
    (kept : inventory.contract.KeptBy handler states)
    (hostNamed : connector.server.hostname ≠ "")
    (orderly : inventory.Orderly)
    (countable : inventory.Countable)
    {state : σ}
    (start : states state)
    {most depth : Nat}
    (enough : 1 <<< 64 < most)
    (deep : 4 ≤ depth)
    (sizes : Kind → Option ResourceId → Nat → Nat) :
    ∃ visits,
      ((connector.tour most sizes depth).run handler state).result =
          .ok visits ∧
        connector.Covers inventory visits := by
  have ended :=
    (assured_tour hostNamed orderly countable enough sizes depth).run kept
      start
  exact ⟨_, ended.1, covers_descend hostNamed orderly deep⟩

/-! ## A store with something at every place of the tree -/

/-- A store with a database that is left out, a table to expand, accounts of
one name, a role, and a function and a procedure of one name. -/
def everyPlace : Store.Memory :=
  { Store.Memory.ofAccounts
      [⟨"alice", "%", "user", ""⟩, ⟨"alice", "localhost", "user", ""⟩,
        ⟨"dba", "%", "role", ""⟩] with
    databases := ["mysql", "shop"]
    tables := [⟨"mysql", "user"⟩, ⟨"shop", "orders"⟩, ⟨"shop", "items"⟩]
    columns := [⟨"shop", "orders", "total"⟩, ⟨"shop", "items", "price"⟩]
    routines :=
      [⟨"shop", "refresh", "FUNCTION"⟩, ⟨"shop", "refresh", "PROCEDURE"⟩] }

theorem tidy_everyPlace : everyPlace.Tidy := by
  decide

theorem tour_covers_everyPlace :
    let connector : Connector :=
      ⟨{ skipDatabases := ["mysql"]
         expandColumns := ["shop.orders"]
         collapseUsers := true },
        .modern, ⟨"db", "8.0.36"⟩⟩
    let inventory := everyPlace.inventory
    inventory.contract.KeptBy Store.Memory.openHandler (· = everyPlace) ∧
      connector.server.hostname ≠ "" ∧ inventory.Orderly ∧
      inventory.Countable ∧
      ∃ visits,
        ((connector.tour ((1 <<< 64) + 1) (fun _ _ _ => 10) 4).run
              Store.Memory.openHandler everyPlace).result =
            .ok visits ∧
          connector.Covers inventory visits := by
  intro connector inventory
  have kept := everyPlace.inventory_keptBy_openHandler
  have hostNamed : connector.server.hostname ≠ "" := by decide
  have countable : inventory.Countable := by
    apply Store.Memory.countable_inventory <;> decide
  exact
    ⟨kept, hostNamed, tidy_everyPlace.orderly, countable,
      tour_covers kept hostNamed tidy_everyPlace.orderly countable rfl
        (Nat.lt_succ_self _) (Nat.le_refl 4) _⟩

/-- A store with one database that has a function and a procedure of one
name. -/
def sharedName : Store.Memory :=
  { Store.Memory.ofAccounts [] with
    databases := ["shop"]
    tables := []
    columns := []
    routines :=
      [⟨"shop", "refresh", "FUNCTION"⟩, ⟨"shop", "refresh", "PROCEDURE"⟩] }

/-- The id of routines can be met twice although no row is listed twice. -/
theorem shared_name_met_twice :
    let connector : Connector := ⟨{}, .modern, ⟨"db-01", "8.0.36"⟩⟩
    let routine : Identity := .routine "shop" "refresh"
    sharedName.Tidy ∧ connector.server.hostname ≠ "" ∧
      connector.InTree sharedName.inventory routine ∧
      ((connector.tour 1 (fun _ _ _ => 10) 4).run Store.Memory.openHandler
              sharedName).result.map
            (fun visits =>
              (visits.map fun visit => visit.resource.id).count
                routine.resourceId) =
        .ok 2 := by
  intro connector routine
  refine ⟨by decide, by decide, ?_, ?_⟩
  · have within : connector.InTree sharedName.inventory (.database "shop") :=
      .database (by decide) (by decide)
    have stored :
        (⟨"shop", "refresh", "FUNCTION"⟩ : Store.RoutineRow) ∈
          sharedName.inventory.routines "shop" := by
      decide
    exact .routine within stored
  · decide +kernel

end PrivilegeGraph.Connector
