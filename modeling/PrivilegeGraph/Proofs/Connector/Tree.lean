import Mathlib.Logic.Relation
import PrivilegeGraph.Proofs.Connector.Synced
import PrivilegeGraph.Proofs.Store.Orderly

/-!
# The resource tree

The tree of a connector has the server at its root, databases and accounts
below it, tables and routines below databases, and columns below expanded
tables.  It is described as a set, and as the list that one meets when going
down from the root.  Both agree, and what is met is met as often as its rows
are listed: once, except that routines of one name are one resource.
-/

namespace PrivilegeGraph.Connector

open Store (Inventory)

/-! ## Resources and their places -/

section

variable (connector : Connector)

/-- The kinds of resources that can be listed under a resource. -/
def childKinds : Identity → List Kind
  | .server _ =>
      if connector.generation.isModern then [.database, .user, .role]
      else [.database, .user]
  | .database _ => [.table, .routine]
  | .table schema name =>
      if connector.settings.showsColumns schema name then [.column] else []
  | _ => []

/-- The resource that a resource is listed under.  What lies in no database is
listed under the server. -/
def above : Identity → Option Identity
  | .server _ => none
  | identity => some (identity.parent?.getD connector.serverIdentity)

/-- The name under which a resource is listed. -/
def titleOf : Identity → String
  | .column _ _ name => name
  | identity => identity.body

/-- A resource as a connector lists it. -/
def resourceOf (identity : Identity) : Resource where
  id := identity.resourceId
  displayName := titleOf identity
  parent := (connector.above identity).map Identity.resourceId
  childKinds := connector.childKinds identity
  profile := Resource.profileOf? identity

/-- The resources of the tree. -/
inductive InTree (inventory : Inventory) : Identity → Prop
  | server : InTree inventory connector.serverIdentity
  | database
      {name : String}
      (stored : name ∈ inventory.databases)
      (kept : name ∉ connector.settings.skipDatabases) :
      InTree inventory (.database name)
  | table
      {schema name : String}
      (within : InTree inventory (.database schema))
      (stored : ⟨schema, name⟩ ∈ inventory.tables schema) :
      InTree inventory (.table schema name)
  | column
      {schema owner name : String}
      (within : InTree inventory (.table schema owner))
      (expanded : schema ++ "." ++ owner ∈ connector.settings.expandColumns)
      (stored : ⟨schema, owner, name⟩ ∈ inventory.columns schema owner) :
      InTree inventory (.column schema owner name)
  | routine
      {schema name type : String}
      (within : InTree inventory (.database schema))
      (stored : ⟨schema, name, type⟩ ∈ inventory.routines schema) :
      InTree inventory (.routine schema name)
  | user
      {account : Account}
      (listed :
        account ∈ inventory.roster .user connector.settings.collapseUsers) :
      InTree inventory (.user account)
  | role
      {account : Account}
      (modern : connector.generation = .modern)
      (listed :
        account ∈ inventory.roster .role connector.settings.collapseUsers) :
      InTree inventory (.role account)

variable (inventory : Inventory)

/-- The resources of a kind under a resource, in the order of their rows. -/
def children : Identity → Kind → List Identity
  | .server _, .database =>
      (inventory.databasesBut connector.settings.skipDatabases).map .database
  | .server _, .user =>
      (inventory.roster .user connector.settings.collapseUsers).map .user
  | .server _, .role =>
      (inventory.roster .role connector.settings.collapseUsers).map .role
  | .database schema, .table =>
      (inventory.tables schema).map fun row => .table row.schema row.name
  | .database schema, .routine =>
      (inventory.routines schema).map fun row => .routine row.schema row.name
  | .table schema owner, .column =>
      (inventory.columns schema owner).map fun row =>
        .column row.schema row.owner row.name
  | _, _ => []

/-- A resource and everything below it, down to a depth. -/
def descend : (depth : Nat) → Identity → List Identity
  | 0, _ => []
  | depth + 1, identity =>
      identity ::
        (connector.childKinds identity).flatMap fun kind =>
          (connector.children inventory identity kind).flatMap
            (descend depth)

end

/-! ## Lineages -/

section

variable
    {connector : Connector}
    {identity other around : Identity}

/-- How far a resource lies below the server. -/
def level : Identity → Nat
  | .server _ => 0
  | .database _ | .user _ | .role _ => 1
  | .table _ _ | .routine _ _ => 2
  | .column _ _ _ => 3

theorem level_le (identity : Identity) : level identity ≤ 3 := by
  cases identity <;> simp [level]

/-- Whether a resource is another one or lies below it. -/
def Within (connector : Connector) : Identity → Identity → Prop :=
  Relation.ReflTransGen fun identity around =>
    connector.above identity = some around

theorem level_of_above
    (up : connector.above identity = some around) :
    level identity = level around + 1 := by
  cases identity <;> cases up <;> rfl

theorem Within.level_le
    (within : connector.Within identity around) :
    level around ≤ level identity := by
  induction within with
  | refl => exact Nat.le_refl _
  | tail _ up ih =>
      rw [level_of_above up] at ih
      exact Nat.le_of_succ_le ih

/-- What lies above a resource lies on one line. -/
theorem Within.total
    (within : connector.Within identity around)
    (within' : connector.Within identity other) :
    connector.Within around other ∨ connector.Within other around := by
  apply Relation.ReflTransGen.total_of_right_unique _ within within'
  intro _ _ _ up up'
  exact Option.some.inj (up.symm.trans up')

/-- A resource that lies within one on its own level is that one. -/
theorem Within.eq_of_level
    (within : connector.Within other around)
    (same : level other = level around) :
    other = around := by
  rcases within.cases_head with here | ⟨next, up, further⟩
  · exact here
  · have lower := level_of_above up
    have higher := Within.level_le further
    omega

/-- A resource lies within one of the resources below another at most. -/
theorem Within.eq_of_above
    {first second : Identity}
    (within : connector.Within identity first)
    (within' : connector.Within identity second)
    (up : connector.above first = some around)
    (up' : connector.above second = some around) :
    first = second := by
  have same : level first = level second := by
    rw [level_of_above up, level_of_above up']
  rcases within.total within' with inside | inside
  · exact inside.eq_of_level same
  · exact (inside.eq_of_level same.symm).symm

theorem Within.above_ne
    (within : connector.Within identity other) :
    connector.above other ≠ some identity := by
  intro up
  have lower := level_of_above up
  have higher := within.level_le
  omega

end

/-! ## Advertised kinds -/

section

variable {connector : Connector}

theorem mem_childKinds_server_iff
    {name : String}
    {kind : Kind} :
    kind ∈ connector.childKinds (.server name) ↔
      kind = .database ∨ kind = .user ∨
        kind = .role ∧ connector.generation = .modern := by
  cases generation : connector.generation <;>
    simp [childKinds, generation, Generation.isModern]

theorem mem_childKinds_table_iff
    {schema owner : String}
    {kind : Kind} :
    kind ∈ connector.childKinds (.table schema owner) ↔
      kind = .column ∧
        schema ++ "." ++ owner ∈ connector.settings.expandColumns := by
  rw [← Settings.showsColumns_iff]
  cases shown : connector.settings.showsColumns schema owner <;>
    simp [childKinds, shown]

/-- No kind is advertised twice. -/
theorem nodup_childKinds (identity : Identity) :
    (connector.childKinds identity).Nodup := by
  unfold childKinds
  split
  · split <;> decide
  · decide
  · split <;> decide
  · exact List.nodup_nil

/-- Every advertised kind is one that the connector lists. -/
theorem mem_kinds_of_mem_childKinds
    {identity : Identity}
    {kind : Kind}
    (advertised : kind ∈ connector.childKinds identity) :
    kind ∈ connector.kinds := by
  cases identity with
  | server name =>
      rcases mem_childKinds_server_iff.1 advertised with
        rfl | rfl | ⟨rfl, modern⟩
      · exact mem_kinds nofun nofun
      · exact mem_kinds nofun nofun
      · exact role_mem_kinds_iff.2 modern
  | database name =>
      rcases List.mem_pair.1 advertised with rfl | rfl
      · exact mem_kinds nofun nofun
      · exact mem_kinds nofun nofun
  | table schema name =>
      rcases mem_childKinds_table_iff.1 advertised with ⟨rfl, expanded⟩
      exact column_mem_kinds_iff.2 (List.ne_nil_of_mem expanded)
  | _ => cases advertised

end

/-! ## The tree step by step -/

section

variable
    {connector : Connector}
    {inventory : Inventory}
    (orderly : inventory.Orderly)
    {identity child : Identity}
    {kind : Kind}

theorem kind_of_mem_children
    (listed : child ∈ connector.children inventory identity kind) :
    child.kind = kind := by
  have built :
      ∀ {α : Type} {rows : List α} {build : α → Identity},
        (∀ row, (build row).kind = kind) → child ∈ rows.map build →
          child.kind = kind := by
    intro α rows build kinds member
    rcases List.mem_map.1 member with ⟨row, _, rfl⟩
    exact kinds row
  unfold children at listed
  split at listed
  · exact built (fun _ => rfl) listed
  · exact built (fun _ => rfl) listed
  · exact built (fun _ => rfl) listed
  · exact built (fun _ => rfl) listed
  · exact built (fun _ => rfl) listed
  · exact built (fun _ => rfl) listed
  · cases listed

include orderly

/-- What is listed under a resource of the tree is in the tree. -/
theorem InTree.step
    (inTree : connector.InTree inventory identity)
    (advertised : kind ∈ connector.childKinds identity)
    (listed : child ∈ connector.children inventory identity kind) :
    connector.InTree inventory child ∧
      connector.above child = some identity := by
  cases inTree with
  | server =>
      cases kind with
      | database =>
          rcases List.mem_map.1 listed with ⟨name, member, rfl⟩
          rcases List.mem_filter.1 member with ⟨stored, kept⟩
          exact ⟨.database stored (by simpa using kept), rfl⟩
      | user =>
          rcases List.mem_map.1 listed with ⟨account, member, rfl⟩
          exact ⟨.user member, rfl⟩
      | role =>
          rcases List.mem_map.1 listed with ⟨account, member, rfl⟩
          have modern := mem_childKinds_server_iff.1 advertised
          exact ⟨.role (by simpa using modern) member, rfl⟩
      | _ => cases listed
  | @database schema stored kept =>
      cases kind with
      | table =>
          rcases List.mem_map.1 listed with ⟨⟨_, name⟩, member, rfl⟩
          rcases (orderly.tables schema).2 _ member with ⟨rfl, _⟩
          exact ⟨.table (.database stored kept) member, rfl⟩
      | routine =>
          rcases List.mem_map.1 listed with ⟨⟨_, name, type⟩, member, rfl⟩
          rcases (orderly.routines schema).2 _ member with ⟨rfl, _⟩
          exact ⟨.routine (.database stored kept) member, rfl⟩
      | _ => cases listed
  | @table schema owner within stored =>
      cases kind with
      | column =>
          have expanded := (mem_childKinds_table_iff.1 advertised).2
          rcases List.mem_map.1 listed with ⟨⟨_, _, name⟩, member, rfl⟩
          rcases (orderly.columns schema owner).2 _ member with ⟨rfl, rfl, _⟩
          exact ⟨.column (.table within stored) expanded member, rfl⟩
      | _ => cases listed
  | _ => cases advertised

omit orderly in
/-- Everything in the tree but the server is listed under what is above it. -/
theorem InTree.exists_above
    (inTree : connector.InTree inventory child) :
    child = connector.serverIdentity ∨
      ∃ identity,
        connector.InTree inventory identity ∧
          connector.above child = some identity ∧
          child.kind ∈ connector.childKinds identity ∧
          child ∈ connector.children inventory identity child.kind := by
  cases inTree with
  | server => exact Or.inl rfl
  | database stored kept =>
      refine Or.inr ⟨_, .server, rfl, ?_, ?_⟩
      · exact mem_childKinds_server_iff.2 (Or.inl rfl)
      · exact
          List.mem_map_of_mem
            (List.mem_filter.2 ⟨stored, by simpa using kept⟩)
  | table within stored =>
      refine Or.inr ⟨_, within, rfl, ?_, List.mem_map.2 ⟨_, stored, rfl⟩⟩
      exact List.mem_cons_self
  | column within expanded stored =>
      refine Or.inr ⟨_, within, rfl, ?_, List.mem_map.2 ⟨_, stored, rfl⟩⟩
      exact mem_childKinds_table_iff.2 ⟨rfl, expanded⟩
  | routine within stored =>
      refine Or.inr ⟨_, within, rfl, ?_, List.mem_map.2 ⟨_, stored, rfl⟩⟩
      exact List.mem_cons_of_mem _ List.mem_cons_self
  | user listed =>
      refine Or.inr ⟨_, .server, rfl, ?_, List.mem_map_of_mem listed⟩
      exact mem_childKinds_server_iff.2 (Or.inr (Or.inl rfl))
  | role modern listed =>
      refine Or.inr ⟨_, .server, rfl, ?_, List.mem_map_of_mem listed⟩
      exact mem_childKinds_server_iff.2 (Or.inr (Or.inr ⟨rfl, modern⟩))

end

/-! ## What is met on the way down -/

/-- A target that is in the image of one value at most is met as often as that
value, each time as often as it is in the image. -/
theorem count_flatMap_of_alone
    {α β : Type}
    [DecidableEq α]
    [DecidableEq β]
    {values : List α}
    {image : α → List β}
    {target : β}
    {only : α}
    (alone : ∀ value ∈ values, target ∈ image value → value = only) :
    (values.flatMap image).count target =
      values.count only * (image only).count target := by
  induction values with
  | nil => simp
  | cons value rest ih =>
      rcases List.forall_mem_cons.1 alone with ⟨first, others⟩
      rw [List.flatMap_cons, List.count_append, ih others, List.count_cons]
      by_cases here : value = only
      · rw [here, if_pos (beq_self_eq_true only), Nat.add_mul, Nat.one_mul,
          Nat.add_comm]
      · have absent : target ∉ image value := fun member => here (first member)
        simp [here, List.count_eq_zero.2 absent]

section

variable
    {connector : Connector}
    {inventory : Inventory}
    (orderly : inventory.Orderly)
    {identity child resource : Identity}
    {depth : Nat}

include orderly

/-- Everything that is met below a resource of the tree is in the tree and
lies within that resource. -/
theorem InTree.of_mem_descend
    (inTree : connector.InTree inventory identity)
    (met : resource ∈ connector.descend inventory depth identity) :
    connector.InTree inventory resource ∧
      connector.Within resource identity := by
  induction depth generalizing identity with
  | zero => cases met
  | succ depth ih =>
      rcases List.mem_cons.1 met with rfl | below
      · exact ⟨inTree, .refl⟩
      · rcases List.mem_flatMap.1 below with ⟨kind, advertised, found⟩
        rcases List.mem_flatMap.1 found with ⟨child, listed, further⟩
        rcases inTree.step orderly advertised listed with ⟨childInTree, up⟩
        rcases ih childInTree further with ⟨held, within⟩
        exact ⟨held, within.tail up⟩

/-- A resource is not met again below itself. -/
theorem count_descend_self
    (inTree : connector.InTree inventory identity) :
    (connector.descend inventory (depth + 1) identity).count identity = 1 := by
  rw [descend, List.count_cons_self, Nat.add_eq_right,
    List.count_eq_zero]
  intro below
  rcases List.mem_flatMap.1 below with ⟨kind, advertised, found⟩
  rcases List.mem_flatMap.1 found with ⟨child, listed, further⟩
  rcases inTree.step orderly advertised listed with ⟨childInTree, up⟩
  exact (childInTree.of_mem_descend orderly further).2.above_ne up

/-- A resource within a child is met below the child only, each time that the
child is listed. -/
theorem count_descend_of_within
    (inTree : connector.InTree inventory identity)
    (advertised : child.kind ∈ connector.childKinds identity)
    (listed : child ∈ connector.children inventory identity child.kind)
    (within : connector.Within resource child) :
    (connector.descend inventory (depth + 1) identity).count resource =
      (connector.children inventory identity child.kind).count child *
        (connector.descend inventory depth child).count resource := by
  have up := (inTree.step orderly advertised listed).2
  have apart : identity ≠ resource := by
    rintro rfl
    exact within.above_ne up
  -- Whatever child the resource is met below is the one that it lies within.
  have alone :
      ∀ kind ∈ connector.childKinds identity,
        ∀ other ∈ connector.children inventory identity kind,
          resource ∈ connector.descend inventory depth other →
            other = child := by
    intro kind offered other listed' met
    rcases inTree.step orderly offered listed' with ⟨otherInTree, up'⟩
    have within' := (otherInTree.of_mem_descend orderly met).2
    exact within'.eq_of_above within up' up
  have aloneKind :
      ∀ kind ∈ connector.childKinds identity,
        resource ∈
            (connector.children inventory identity kind).flatMap
              (connector.descend inventory depth) →
          kind = child.kind := by
    intro kind offered met
    rcases List.mem_flatMap.1 met with ⟨other, listed', further⟩
    rw [← alone kind offered other listed' further]
    exact (kind_of_mem_children listed').symm
  rw [descend, List.count_cons_of_ne apart, count_flatMap_of_alone aloneKind,
    List.count_eq_one_of_mem (nodup_childKinds identity) advertised,
    Nat.one_mul]
  exact count_flatMap_of_alone (alone child.kind advertised)

/-- Apart from routines nothing is listed twice under a resource. -/
theorem nodup_children
    {kind : Kind}
    (other : kind ≠ .routine) :
    (connector.children inventory identity kind).Nodup := by
  unfold children
  split
  · refine (orderly.databases.1.filter _).map ?_
    intro first second same
    exact Identity.database.inj same
  · refine (orderly.nodup_roster _ _).map ?_
    intro first second same
    exact Identity.user.inj same
  · refine (orderly.nodup_roster _ _).map ?_
    intro first second same
    exact Identity.role.inj same
  · next schema =>
    refine (orderly.tables schema).1.map ?_
    rintro ⟨_, _⟩ ⟨_, _⟩ ⟨⟩
    rfl
  · exact absurd rfl other
  · next schema owner =>
    refine (orderly.columns schema owner).1.map ?_
    rintro ⟨_, _, _⟩ ⟨_, _, _⟩ ⟨⟩
    rfl
  · exact List.nodup_nil

/-- What lies within a resource that is no routine is met from the server on
as often as from that resource on.  The induction is on the level of the
resource, one listing a level. -/
theorem count_descend_server
    (inTree : connector.InTree inventory child)
    (other : child.kind ≠ .routine)
    (within : connector.Within resource child) :
    (connector.descend inventory (level child + depth + 1)
          connector.serverIdentity).count resource =
      (connector.descend inventory (depth + 1) child).count resource := by
  generalize lies : level child = height
  induction height generalizing child depth with
  | zero =>
      rcases inTree.exists_above with rfl | ⟨identity, _, up, _⟩
      · rw [Nat.zero_add]
      · rw [level_of_above up] at lies
        cases lies
  | succ height ih =>
      rcases inTree.exists_above with
        rfl | ⟨identity, identityInTree, up, advertised, listed⟩
      · cases lies
      · have higher : level identity = height :=
          Nat.succ.inj ((level_of_above up).symm.trans lies)
        have noRoutine : identity.kind ≠ .routine := by
          intro isRoutine
          cases identity with
          | routine schema name => cases advertised
          | _ => cases isRoutine
        have once :
            (connector.children inventory identity child.kind).count child =
              1 :=
          List.count_eq_one_of_mem (nodup_children orderly other) listed
        have below :
            (connector.descend inventory (depth + 1 + 1) identity).count
                resource =
              (connector.descend inventory (depth + 1) child).count
                resource := by
          rw [count_descend_of_within orderly identityInTree advertised listed
            within, once, Nat.one_mul]
        rw [← below, ← ih identityInTree noRoutine (within.tail up) higher]
        congr 2
        omega

end

/-- How many rows a resource of the tree is listed from.  Routines of one name
are one resource. -/
def rowsOf (inventory : Inventory) : Identity → Nat
  | .routine schema name =>
      (inventory.routines schema).countP (·.name = name)
  | _ => 1

section

variable
    {connector : Connector}
    {inventory : Inventory}
    (orderly : inventory.Orderly)

include orderly

theorem count_children_routine
    (connector : Connector)
    (schema name : String) :
    (connector.children inventory (.database schema) .routine).count
        (.routine schema name) =
      (inventory.routines schema).countP (·.name = name) := by
  rw [children, List.count, List.countP_map]
  apply List.countP_congr
  intro row listed
  rcases (orderly.routines schema).2 row listed with ⟨rfl, _⟩
  simp

/-- Going down from the server far enough, every resource of the tree is met
as often as its rows are listed. -/
theorem count_descend
    {resource : Identity}
    (inTree : connector.InTree inventory resource)
    {depth : Nat}
    (deep : 4 ≤ depth) :
    (connector.descend inventory depth connector.serverIdentity).count
        resource =
      rowsOf inventory resource := by
  by_cases isRoutine : resource.kind = .routine
  · cases inTree with
    | @routine schema name type within stored =>
        obtain ⟨further, rfl⟩ : ∃ further, depth = 1 + (further + 1) + 1 :=
          ⟨depth - 3, by omega⟩
        have advertised :
            (Identity.routine schema name).kind ∈
              connector.childKinds (.database schema) :=
          List.mem_cons_of_mem _ List.mem_cons_self
        have listed :
            Identity.routine schema name ∈
              connector.children inventory (.database schema) .routine :=
          List.mem_map.2 ⟨_, stored, rfl⟩
        have inTree := (within.step orderly advertised listed).1
        apply (count_descend_server orderly within nofun (.single rfl)).trans
        apply
          (count_descend_of_within orderly within advertised listed
            .refl).trans
        rw [count_descend_self orderly inTree, Nat.mul_one]
        exact count_children_routine orderly connector schema name
    | _ => cases isRoutine
  · obtain ⟨further, rfl⟩ : ∃ further, depth = level resource + further + 1 :=
      ⟨depth - level resource - 1, by have := level_le resource; omega⟩
    rw [count_descend_server orderly inTree isRoutine .refl,
      count_descend_self orderly inTree]
    cases resource with
    | routine schema name => exact absurd rfl isRoutine
    | _ => rfl

end

end PrivilegeGraph.Connector
