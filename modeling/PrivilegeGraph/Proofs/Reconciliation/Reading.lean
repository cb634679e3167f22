import PrivilegeGraph.Proofs.Identity.Containment
import PrivilegeGraph.Proofs.Store.Execution
import PrivilegeGraph.Reconciliation

/-!
# Reading grants

Every step by which the grants of a principal are found only reads from the
store, and only what servers of its generation have.  Whatever the store
answers, the rights that are found are on the server, in databases that are
not left out, and on accounts, and there only those to act as the account or,
on a modern server, to be in it as a role.  Those that become grants are
listed in the catalog of that generation.
-/

namespace PrivilegeGraph.Reconciliation

open Program (Yielding)
open Store (Access Call Reading)

variable (reconciliation : Reconciliation)

/-- The rights that can be found, whatever the store answers.  Any text can be
found as a privilege except on accounts. -/
inductive Findable : Right → Prop
  | server (privilege : String) :
      Findable ⟨privilege, reconciliation.server⟩
  | database
      {name : String}
      (kept : name ∉ reconciliation.settings.skipDatabases)
      (privilege : String) :
      Findable ⟨privilege, .database name⟩
  | table
      {schema : String}
      (kept : schema ∉ reconciliation.settings.skipDatabases)
      (name privilege : String) :
      Findable ⟨privilege, .table schema name⟩
  | column
      {schema owner : String}
      (kept : schema ∉ reconciliation.settings.skipDatabases)
      (expanded :
        schema ++ "." ++ owner ∈ reconciliation.settings.expandColumns)
      (name privilege : String) :
      Findable ⟨privilege, .column schema owner name⟩
  | proxied
      {kind : Store.AccountKind}
      {account : Account}
      {withOption : Bool}
      {right : Right}
      (variant :
        right ∈
          rightWithOption Privilege.proxyId (kind.identity account)
            withOption) :
      Findable right
  | member
      (modern : reconciliation.generation = .modern)
      {kind : Store.AccountKind}
      {account : Account}
      {withOption : Bool}
      {right : Right}
      (variant :
        right ∈
          rightWithOption Privilege.roleAssignmentId (kind.identity account)
            withOption) :
      Findable right

/-- Whether rights are found by reading only and are such as can be found. -/
def Finds (rights : Access (List Right)) : Prop :=
  rights.Confined (Call.IsReadOn reconciliation.generation)
    (Yielding fun found =>
      ∀ right ∈ found, reconciliation.Findable right)

/-- Whether a right is on the server or outside the databases that are left
out. -/
def Reportable (right : Right) : Prop :=
  right.resource = reconciliation.server ∨
    right.resource.Outside reconciliation.settings.skipDatabases

/-! ## Rights on one resource -/

section

variable
    {reconciliation : Reconciliation}
    {resource : Identity}
    {right : Right}

theorem forall_mem_rightsOn
    {property : Right → Prop}
    (each : ∀ privilege, property ⟨privilege, resource⟩)
    (list : String) :
    ∀ right ∈ rightsOn resource list, property right := by
  intro right member
  rcases List.mem_map.1 member with ⟨privilege, _, rfl⟩
  exact each privilege

theorem resource_of_mem_rightWithOption
    {privilege : String}
    {withOption : Bool}
    (member : right ∈ rightWithOption privilege resource withOption) :
    right.resource = resource := by
  cases withOption with
  | false =>
      rcases List.mem_singleton.1 member with rfl
      rfl
  | true =>
      rcases List.mem_cons.1 member with rfl | later
      · rfl
      · rcases List.mem_singleton.1 later with rfl
        rfl

/-- A right on the server, with or without the option, can be found. -/
theorem findable_of_mem_onServer
    {privilege : String}
    {withOption : Bool}
    (member :
      right ∈ rightWithOption privilege reconciliation.server withOption) :
    reconciliation.Findable right := by
  have here := resource_of_mem_rightWithOption member
  cases right
  cases here
  exact .server _

theorem reportable_of_account
    {kind : Store.AccountKind}
    {account : Account}
    (onAccount : right.resource = kind.identity account) :
    reconciliation.Reportable right := by
  refine Or.inr ?_
  rw [onAccount]
  cases kind with
  | user => exact Identity.outside_of_not_dotted rfl _
  | role => exact Identity.outside_of_not_dotted rfl _

/-- What can be found can be reported. -/
theorem Findable.reportable
    (findable : reconciliation.Findable right) :
    reconciliation.Reportable right := by
  cases findable with
  | server privilege => exact Or.inl rfl
  | database kept privilege =>
      exact Or.inr (Identity.outside_of_database rfl kept)
  | table kept name privilege =>
      exact Or.inr (Identity.outside_of_database rfl kept)
  | column kept expanded name privilege =>
      exact Or.inr (Identity.outside_of_database rfl kept)
  | proxied variant =>
      exact reportable_of_account (resource_of_mem_rightWithOption variant)
  | member modern variant =>
      exact reportable_of_account (resource_of_mem_rightWithOption variant)

/-! ## Ways in which rights are found -/

/-- Rows that are read and gathered into rights. -/
theorem finds_gathered
    {ρ : Type}
    {rows : Access (List ρ)}
    {rightsIn : ρ → Access (List Right)}
    (reads : Reading reconciliation.generation rows)
    (each : ∀ row, reconciliation.Finds (rightsIn row)) :
    reconciliation.Finds (gathered rows rightsIn) := by
  apply reads.bind_yielding
  intro rows
  apply (Program.Confined.collect_yielding each rows).bind_yielding
  intro found holds right member
  rcases List.mem_flatten.1 member with ⟨rights, gathered, inside⟩
  exact holds rights gathered right inside

theorem lookUp_reads
    {generation : Generation}
    (purpose : LookupPurpose)
    (user host : String) :
    Reading generation (lookUp purpose user host) := by
  have reads :
      Reading generation (Store.request (.getAccount user host)) :=
    Reading.request ⟨rfl, trivial⟩
  apply reads.bind
  intro found
  cases found with
  | none => exact trivial
  | some row => exact trivial

theorem finds_ofFound
    {rightsIn : Store.AccountRow → Access (List Right)}
    (purpose : LookupPurpose)
    (user host : String)
    (each : ∀ row, reconciliation.Finds (rightsIn row)) :
    reconciliation.Finds
      (lookUp purpose user host >>= fun found =>
        match found with
        | none => pure []
        | some row => rightsIn row) := by
  apply (lookUp_reads purpose user host).bind_yielding
  intro found
  cases found with
  | none => exact fun _ member => absurd member List.not_mem_nil
  | some row => exact each row

/-- Rights in a database are found when the database is not left out. -/
theorem finds_unlessSkipped
    {database : String}
    (within :
      database ∉ reconciliation.settings.skipDatabases →
        ∀ privilege, reconciliation.Findable ⟨privilege, resource⟩)
    (list : String) :
    reconciliation.Finds
      (reconciliation.unlessSkipped database (rightsOn resource list)) := by
  rw [unlessSkipped]
  split
  · exact fun _ member => absurd member List.not_mem_nil
  · next kept =>
    rw [Settings.leavesOut_iff] at kept
    exact forall_mem_rightsOn (within kept) list

/-- The rights in rows with comma lists are found when each can be found where
its row is not left out. -/
theorem finds_listedRights
    {ρ : Type}
    {rows : Access (List ρ)}
    {databaseOf listOf : ρ → String}
    {resourceOf : ρ → Identity}
    (reads : Reading reconciliation.generation rows)
    (within :
      ∀ row, databaseOf row ∉ reconciliation.settings.skipDatabases →
        ∀ privilege, reconciliation.Findable ⟨privilege, resourceOf row⟩) :
    reconciliation.Finds
      (reconciliation.listedRights rows databaseOf resourceOf listOf) :=
  finds_gathered reads fun row => finds_unlessSkipped (within row) _

end

/-! ## Scopes -/

theorem finds_dynamicRights (row : Store.AccountRow) :
    reconciliation.Finds (reconciliation.dynamicRights row) := by
  rw [dynamicRights]
  cases generation : reconciliation.generation with
  | legacy => exact fun _ member => absurd member List.not_mem_nil
  | modern =>
      have reads :
          Reading reconciliation.generation
            (Store.request (.globalGrants row.user row.host)) :=
        Reading.request ⟨rfl, generation⟩
      apply reads.bind_yielding
      intro rows right member
      rcases List.mem_flatMap.1 member with ⟨grant, _, inside⟩
      exact findable_of_mem_onServer inside

theorem finds_serverRights (account : Account) :
    reconciliation.Finds (reconciliation.serverRights account) := by
  apply finds_ofFound
  intro row
  apply (reconciliation.finds_dynamicRights row).bind_yielding
  intro dynamic holds right member
  rcases List.mem_append.1 member with first | second
  · exact holds right first
  · exact forall_mem_rightsOn .server _ right second

theorem finds_databaseRights (account : Account) :
    reconciliation.Finds (reconciliation.databaseRights account) :=
  finds_listedRights (Reading.request ⟨rfl, trivial⟩) fun _ => .database

theorem finds_tableRights (account : Account) :
    reconciliation.Finds (reconciliation.tableRights account) :=
  finds_listedRights (Reading.request ⟨rfl, trivial⟩) fun row kept =>
    .table kept row.name

/-- The rights of a column row are on the column only when its table is
expanded. -/
theorem findable_columnResource
    {row : Store.ColumnGrant}
    (kept : row.schema ∉ reconciliation.settings.skipDatabases)
    (privilege : String) :
    reconciliation.Findable
      ⟨privilege, reconciliation.columnResource row⟩ := by
  rw [columnResource]
  split
  · next expanded =>
    exact .column kept (Settings.showsColumns_iff.1 expanded) row.name _
  · exact .table kept row.owner privilege

theorem finds_columnRights (account : Account) :
    reconciliation.Finds (reconciliation.columnRights account) :=
  finds_listedRights (Reading.request ⟨rfl, trivial⟩) fun _ =>
    reconciliation.findable_columnResource

theorem finds_proxyRowRights (row : Store.ProxyGrant) :
    reconciliation.Finds (reconciliation.proxyRowRights row) := by
  rw [proxyRowRights]
  split
  · exact fun _ member => absurd member List.not_mem_nil
  · split
    · intro right member
      exact findable_of_mem_onServer member
    · apply finds_ofFound
      intro target right variant
      exact .proxied variant

theorem finds_proxyRights (account : Account) :
    reconciliation.Finds (reconciliation.proxyRights account) :=
  finds_gathered (Reading.request ⟨rfl, trivial⟩)
    reconciliation.finds_proxyRowRights

theorem finds_roleEdgeRights
    (modern : reconciliation.generation = .modern)
    (edge : Store.RoleEdge) :
    reconciliation.Finds (roleEdgeRights edge) := by
  rw [roleEdgeRights]
  split
  · exact fun _ member => absurd member List.not_mem_nil
  · apply finds_ofFound
    intro role right variant
    exact .member modern variant

theorem finds_roleRights (account : Account) :
    reconciliation.Finds (reconciliation.roleRights account) := by
  rw [roleRights]
  cases generation : reconciliation.generation with
  | legacy => exact fun _ member => absurd member List.not_mem_nil
  | modern =>
      exact
        finds_gathered (Reading.request ⟨rfl, generation⟩)
          (reconciliation.finds_roleEdgeRights generation)

/-! ## Grants -/

theorem finds_rightsOf (account : Account) :
    reconciliation.Finds (reconciliation.rightsOf account) := by
  have reported :
      Reading reconciliation.generation
        (Program.report (.reconciling account) : Access Unit) :=
    trivial
  apply reported.bind_yielding
  intro _
  apply (reconciliation.finds_serverRights account).bind_yielding
  intro onServer serverHolds
  apply (reconciliation.finds_databaseRights account).bind_yielding
  intro onDatabases databasesHold
  apply (reconciliation.finds_tableRights account).bind_yielding
  intro onTables tablesHold
  apply (reconciliation.finds_columnRights account).bind_yielding
  intro onColumns columnsHold
  apply (reconciliation.finds_proxyRights account).bind_yielding
  intro asProxy proxiesHold
  apply (reconciliation.finds_roleRights account).bind_yielding
  intro inRoles rolesHold
  show ∀ right ∈ _, reconciliation.Findable right
  simp only [List.forall_mem_append]
  exact
    ⟨⟨⟨⟨⟨serverHolds, databasesHold⟩, tablesHold⟩, columnsHold⟩,
      proxiesHold⟩, rolesHold⟩

theorem finds_keepKnown
    {rights : List Right}
    (holds : ∀ right ∈ rights, reconciliation.Findable right) :
    (reconciliation.keepKnown rights).Confined
      (Call.IsReadOn reconciliation.generation)
      (Yielding fun kept =>
        ∀ right ∈ kept,
          reconciliation.Findable right ∧
            reconciliation.isKnown right = true) := by
  induction rights with
  | nil => exact fun _ member => absurd member List.not_mem_nil
  | cons right rest ih =>
      rcases List.forall_mem_cons.1 holds with ⟨first, others⟩
      rw [keepKnown]
      split
      · next known =>
        apply (ih others).bind_yielding
        intro kept keptHold
        exact List.forall_mem_cons.2 ⟨⟨first, known⟩, keptHold⟩
      · exact ih others

/-- Grants are found by reading only, and each is of a right that can be found
and that the catalog lists. -/
theorem grantsHeldBy_findable (principal : Identity) :
    (reconciliation.grantsHeldBy principal).Confined
      (Call.IsReadOn reconciliation.generation)
      (Yielding fun grants =>
        ∀ grant ∈ grants, ∃ right,
          grant = Grant.ofRight right principal ∧
            reconciliation.Findable right ∧
              reconciliation.isKnown right = true) := by
  rw [grantsHeldBy]
  split
  · exact trivial
  · apply
      (Program.Confined.collect_yielding reconciliation.finds_rightsOf
        _).bind_yielding
    intro found holds
    have sorted :
        ∀ right ∈ Sorted.ofList found.flatten,
          reconciliation.Findable right := by
      intro right member
      rcases List.mem_flatten.1 (Sorted.mem_ofList.1 member) with
        ⟨rights, gathered, inside⟩
      exact holds rights gathered right inside
    apply (reconciliation.finds_keepKnown sorted).bind_yielding
    intro known knownHold grant member
    rcases List.mem_map.1 member with ⟨right, kept, rfl⟩
    exact ⟨right, rfl, knownHold right kept⟩

theorem grantsHeldBy_reads (principal : Identity) :
    Reading reconciliation.generation
      (reconciliation.grantsHeldBy principal) :=
  (reconciliation.grantsHeldBy_findable principal).weaken
    (fun _ reads => reads) fun _ _ => trivial

end PrivilegeGraph.Reconciliation
