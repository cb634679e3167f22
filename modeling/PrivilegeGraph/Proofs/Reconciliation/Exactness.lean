import PrivilegeGraph.Proofs.Store.View
import PrivilegeGraph.Reconciliation

/-!
# What the grant tables say

The rights of an account are described scope by scope, as what the rows of
the grant tables say, without regard to the order in which they are read.
Reading the grants of a principal ends with these rights and no others: those
of each of its hosts, as far as the catalog lists them.
-/

namespace PrivilegeGraph.Reconciliation

open Store (Access AnswersFrom Call Gives View)

/-! ## Rows and what they say -/

/-- Whether a comma list of privileges names a privilege by its id. -/
def Names (list privilege : String) : Prop :=
  ∃ piece ∈ Text.pieces ',' list,
    Text.trimmed piece ≠ "" ∧
      privilege =
        Text.lowered (Text.exchanged ' ' '_' (Text.trimmed piece))

/-- Whether a right is a privilege on a resource, or its variant with the
option when that is held too. -/
def IsVariant
    (privilege : String)
    (resource : Identity)
    (withOption : Prop)
    (right : Right) : Prop :=
  right.resource = resource ∧
    (right.privilege = privilege ∨
      withOption ∧ right.privilege = privilege ++ "_with_grant")

/-- Whether an option flag says yes. -/
def SaysYes (flag : String) : Prop :=
  flag = "y" ∨ flag = "Y"

section

variable
    (view : View)
    (reconciliation : Reconciliation)
    (account : Account)

/-- The account's own row names static privileges, and on a modern server the
rows of its dynamic privileges do. -/
def OnServer (right : Right) : Prop :=
  ∃ row : Store.AccountRow,
    view.getAccount account.name account.host = some row ∧
      (right.resource = reconciliation.server ∧
          Names row.privileges right.privilege ∨
        reconciliation.generation = .modern ∧
          ∃ granted ∈ view.globalGrants row.user row.host,
            IsVariant (Text.lowered granted.privilege) reconciliation.server
              (SaysYes granted.withOption) right)

def OnDatabases (right : Right) : Prop :=
  ∃ row ∈ view.databaseGrants account.name account.host,
    row.database ∉ reconciliation.settings.skipDatabases ∧
      right.resource = .database row.database ∧
        Names row.privileges right.privilege

def OnTables (right : Right) : Prop :=
  ∃ row ∈ view.tableGrants account.name account.host,
    row.schema ∉ reconciliation.settings.skipDatabases ∧
      right.resource = .table row.schema row.name ∧
        Names row.privileges right.privilege

/-- A column's privileges are held on the column when its table is expanded,
and on the table otherwise. -/
def OnColumns (right : Right) : Prop :=
  ∃ row ∈ view.columnGrants account.name account.host,
    row.schema ∉ reconciliation.settings.skipDatabases ∧
      (row.schema ++ "." ++ row.owner ∈
            reconciliation.settings.expandColumns ∧
          right.resource = .column row.schema row.owner row.name ∨
        row.schema ++ "." ++ row.owner ∉
            reconciliation.settings.expandColumns ∧
          right.resource = .table row.schema row.owner) ∧
        Names row.privileges right.privilege

/-- A proxy row without a name and a host is about every account, and another
one about the account that it refers to, if there is one. -/
def AsProxy (right : Right) : Prop :=
  ∃ row ∈ view.proxyGrants account.name account.host,
    ¬(row.proxiedUser = row.user ∧ row.proxiedHost = row.host) ∧
      ((row.proxiedUser = "" ∧ row.proxiedHost = "") ∧
          IsVariant "proxy" reconciliation.server (row.withOption = true)
            right ∨
        ¬(row.proxiedUser = "" ∧ row.proxiedHost = "") ∧
          ∃ target : Store.AccountRow,
            view.getAccount row.proxiedUser row.proxiedHost = some target ∧
              IsVariant "proxy" target.identity (row.withOption = true) right)

/-- On a modern server an account holds the roles that lead to it. -/
def InRoles (right : Right) : Prop :=
  reconciliation.generation = .modern ∧
    ∃ edge ∈ view.roleEdges account.name account.host,
      ¬(edge.fromUser = edge.toUser ∧ edge.fromHost = edge.toHost) ∧
        ∃ role : Store.AccountRow,
          view.getAccount edge.fromUser edge.fromHost = some role ∧
            IsVariant "role_assignment" role.identity
              (SaysYes edge.withOption) right

/-- Whether the grant tables say that an account has a right. -/
def Holds (right : Right) : Prop :=
  OnServer view reconciliation account right ∨
    OnDatabases view reconciliation account right ∨
    OnTables view reconciliation account right ∨
    OnColumns view reconciliation account right ∨
    AsProxy view reconciliation account right ∨
    InRoles view reconciliation account right

end

/-- Whether the catalog lists a right for its resource's kind. -/
def Listed (generation : Generation) (right : Right) : Prop :=
  ∃ entry ∈ Catalog.entries right.resource.kind generation,
    entry.id = right.privilege

/-! ## Lists of rights and what they hold -/

/-- Whether a list holds exactly the rights that are described. -/
def Collects (described : Right → Prop) (rights : List Right) : Prop :=
  ∀ right, right ∈ rights ↔ described right

theorem Collects.congr
    {described described' : Right → Prop}
    {rights : List Right}
    (collects : Collects described rights)
    (same : ∀ right, described right ↔ described' right) :
    Collects described' rights :=
  fun right => (collects right).trans (same right)

theorem collects_nil
    {described : Right → Prop}
    (none : ∀ right, ¬described right) :
    Collects described [] := by
  intro right
  simp [none right]

/-- A condition that holds may be added to what is described. -/
theorem Collects.guarded
    {condition : Prop}
    {described : Right → Prop}
    {rights : List Right}
    (holds : condition)
    (collects : Collects described rights) :
    Collects (fun right => condition ∧ described right) rights :=
  collects.congr fun _ => (and_iff_right holds).symm

theorem collects_nil_of_not
    {condition : Prop}
    {described : Right → Prop}
    (fails : ¬condition) :
    Collects (fun right => condition ∧ described right) [] :=
  collects_nil fun _ held => fails held.1

theorem mem_idsOf_iff
    {list privilege : String} :
    privilege ∈ Privilege.idsOf list ↔ Names list privilege := by
  simp only [Privilege.idsOf, Text.entries, List.mem_map, List.mem_filter,
    bne_iff_ne]
  constructor
  · rintro ⟨entry, ⟨⟨piece, cut, rfl⟩, present⟩, rfl⟩
    exact ⟨piece, cut, present, rfl⟩
  · rintro ⟨piece, cut, present, rfl⟩
    exact ⟨Text.trimmed piece, ⟨⟨piece, cut, rfl⟩, present⟩, rfl⟩

theorem collects_rightsOn
    (resource : Identity)
    (list : String) :
    Collects
      (fun right => right.resource = resource ∧ Names list right.privilege)
      (rightsOn resource list) := by
  rintro ⟨privilege, held⟩
  simp only [rightsOn, List.mem_map, mem_idsOf_iff, Right.mk.injEq]
  constructor
  · rintro ⟨named, names, rfl, rfl⟩
    exact ⟨rfl, names⟩
  · rintro ⟨rfl, names⟩
    exact ⟨privilege, names, rfl, rfl⟩

theorem collects_rightWithOption
    (privilege : String)
    (resource : Identity)
    (withOption : Bool) :
    Collects (IsVariant privilege resource (withOption = true))
      (rightWithOption privilege resource withOption) := by
  rintro ⟨named, held⟩
  cases withOption with
  | false => simp [rightWithOption, IsVariant, and_comm]
  | true =>
      simp only [rightWithOption, IsVariant, if_pos, List.mem_cons,
        List.not_mem_nil, or_false, Right.mk.injEq, true_and,
        Privilege.grantOptionSuffix]
      tauto

theorem saysYes_iff
    {flag : String} :
    Store.saysYes flag = true ↔ SaysYes flag := by
  simp [Store.saysYes, SaysYes]

theorem IsVariant.congr
    {privilege : String}
    {resource : Identity}
    {withOption withOption' : Prop}
    (same : withOption ↔ withOption')
    (right : Right) :
    IsVariant privilege resource withOption right ↔
      IsVariant privilege resource withOption' right := by
  rw [IsVariant, IsVariant, same]

theorem collects_flatten
    {ρ : Type}
    {rows : List ρ}
    {lists : List (List Right)}
    {described : ρ → Right → Prop}
    (each :
      List.Forall₂ (fun row => Collects (described row)) rows lists) :
    Collects (fun right => ∃ row ∈ rows, described row right)
      lists.flatten := by
  induction each with
  | nil => simp [Collects]
  | cons first _ ih =>
      intro right
      rw [List.flatten_cons, List.mem_append, first right, ih right]
      simp

/-! ## What each scope gives -/

section

variable
    {view : View}
    {reconciliation : Reconciliation}

/-- Rows that are read and gathered give what their rows describe. -/
theorem gives_gathered
    {ρ : Type}
    {rows : Access (List ρ)}
    {found : List ρ}
    {rightsIn : ρ → Access (List Right)}
    {described : ρ → Right → Prop}
    (reads : Gives view (· = found) rows)
    (each : ∀ row, Gives view (Collects (described row)) (rightsIn row)) :
    Gives view (Collects fun right => ∃ row ∈ found, described row right)
      (gathered rows rightsIn) := by
  apply reads.bind
  rintro rows rfl
  apply (Gives.collect each rows).bind
  intro lists holds
  exact collects_flatten holds

theorem gives_unless
    {condition : Prop}
    [Decidable condition]
    {otherwise : Access (List Right)}
    {described : Right → Prop}
    (gives : Gives view (Collects described) otherwise) :
    Gives view (Collects fun right => ¬condition ∧ described right)
      (if condition then pure [] else otherwise) := by
  split
  · next holds => exact collects_nil_of_not (not_not_intro holds)
  · next fails => exact gives.weaken fun _ => Collects.guarded fails

theorem gives_ite
    {condition : Prop}
    [Decidable condition]
    {first second : Access (List Right)}
    {whenTrue whenFalse : Right → Prop}
    (givesFirst : Gives view (Collects whenTrue) first)
    (givesSecond : Gives view (Collects whenFalse) second) :
    Gives view
      (Collects fun right =>
        condition ∧ whenTrue right ∨ ¬condition ∧ whenFalse right)
      (if condition then first else second) := by
  split
  · next holds =>
    apply givesFirst.weaken
    intro rights collects
    apply collects.congr
    intro right
    simp [holds]
  · next fails =>
    apply givesSecond.weaken
    intro rights collects
    apply collects.congr
    intro right
    simp [fails]

theorem gives_lookUp
    (purpose : LookupPurpose)
    (user host : String) :
    Gives view (· = view.getAccount user host) (lookUp purpose user host) := by
  have reads :
      Gives view (· = view.getAccount user host)
        (Store.request (.getAccount user host)) :=
    Gives.request rfl rfl
  apply reads.bind
  rintro found rfl
  cases found : view.getAccount user host with
  | none => exact rfl
  | some row => exact rfl

theorem gives_unlessSkipped
    {database : String}
    {rights : List Right}
    {described : Right → Prop}
    (collects : Collects described rights) :
    Gives view
      (Collects fun right =>
        database ∉ reconciliation.settings.skipDatabases ∧ described right)
      (reconciliation.unlessSkipped database rights) := by
  rw [unlessSkipped]
  split
  · next skipped =>
    have member := Settings.leavesOut_iff.1 skipped
    exact collects_nil_of_not fun absent => absent member
  · next kept =>
    have absent : database ∉ reconciliation.settings.skipDatabases :=
      fun member => kept (Settings.leavesOut_iff.2 member)
    exact collects.guarded absent

/-- Rows with comma lists give what the lists of those rows name that are not
left out. -/
theorem gives_listedRights
    {ρ : Type}
    {rows : Access (List ρ)}
    {found : List ρ}
    {databaseOf listOf : ρ → String}
    {resourceOf : ρ → Identity}
    (reads : Gives view (· = found) rows) :
    Gives view
      (Collects fun right =>
        ∃ row ∈ found,
          databaseOf row ∉ reconciliation.settings.skipDatabases ∧
            right.resource = resourceOf row ∧
              Names (listOf row) right.privilege)
      (reconciliation.listedRights rows databaseOf resourceOf listOf) :=
  gives_gathered reads fun _ => gives_unlessSkipped (collects_rightsOn _ _)

variable (account : Account)

theorem gives_databaseRights :
    Gives view (Collects (OnDatabases view reconciliation account))
      (reconciliation.databaseRights account) :=
  gives_listedRights (Gives.request rfl rfl)

theorem gives_tableRights :
    Gives view (Collects (OnTables view reconciliation account))
      (reconciliation.tableRights account) :=
  gives_listedRights (Gives.request rfl rfl)

/-- The resource of a column's row is written out in what is described. -/
theorem eq_columnResource_iff
    {row : Store.ColumnGrant}
    {resource : Identity} :
    resource = reconciliation.columnResource row ↔
      row.schema ++ "." ++ row.owner ∈
            reconciliation.settings.expandColumns ∧
          resource = .column row.schema row.owner row.name ∨
        row.schema ++ "." ++ row.owner ∉
            reconciliation.settings.expandColumns ∧
          resource = .table row.schema row.owner := by
  have shown :
      reconciliation.settings.showsColumns row.schema row.owner = true ↔
        row.schema ++ "." ++ row.owner ∈
          reconciliation.settings.expandColumns :=
    Settings.showsColumns_iff
  rw [columnResource]
  split
  · next expanded => simp [shown.1 expanded]
  · next collapsed =>
    have absent :
        row.schema ++ "." ++ row.owner ∉
          reconciliation.settings.expandColumns :=
      fun member => collapsed (shown.2 member)
    simp [absent]

theorem gives_columnRights :
    Gives view (Collects (OnColumns view reconciliation account))
      (reconciliation.columnRights account) := by
  refine Gives.weaken (gives_listedRights (Gives.request rfl rfl)) ?_
  intro rights collects
  apply collects.congr
  intro right
  simp only [eq_columnResource_iff]
  rfl

theorem gives_dynamicRights (row : Store.AccountRow) :
    Gives view
      (Collects fun right =>
        reconciliation.generation = .modern ∧
          ∃ granted ∈ view.globalGrants row.user row.host,
            IsVariant (Text.lowered granted.privilege) reconciliation.server
              (SaysYes granted.withOption) right)
      (reconciliation.dynamicRights row) := by
  rw [dynamicRights]
  cases reconciliation.generation with
  | legacy =>
      apply collects_nil_of_not
      intro modern
      cases modern
  | modern =>
      have reads :
          Gives view (· = view.globalGrants row.user row.host)
            (Store.request (.globalGrants row.user row.host)) :=
        Gives.request rfl rfl
      apply reads.bind
      rintro rows rfl
      apply Collects.guarded rfl
      intro right
      have each :
          ∀ granted,
            right ∈ reconciliation.globalRights granted ↔
              IsVariant (Text.lowered granted.privilege)
                reconciliation.server (SaysYes granted.withOption) right := by
        intro granted
        have collects := collects_rightWithOption
          (Text.lowered granted.privilege) reconciliation.server
          (Store.saysYes granted.withOption) right
        exact collects.trans (IsVariant.congr saysYes_iff right)
      simp [List.mem_flatMap, each]

/-- What follows the lookup of an account is about its row, if there is
one. -/
theorem gives_ofFound
    {rightsIn : Store.AccountRow → Access (List Right)}
    {described : Store.AccountRow → Right → Prop}
    (purpose : LookupPurpose)
    (user host : String)
    (each : ∀ row, Gives view (Collects (described row)) (rightsIn row)) :
    Gives view
      (Collects fun right =>
        ∃ row : Store.AccountRow,
          view.getAccount user host = some row ∧ described row right)
      (lookUp purpose user host >>= fun found =>
        match found with
        | none => pure []
        | some row => rightsIn row) := by
  apply (gives_lookUp purpose user host).bind
  intro found same
  rw [← same]
  cases found with
  | none =>
      apply collects_nil
      rintro right ⟨row, absent, _⟩
      cases absent
  | some row =>
      apply (each row).weaken
      intro rights collects
      apply collects.congr
      intro right
      constructor
      · intro held
        exact ⟨row, rfl, held⟩
      · rintro ⟨other, here, held⟩
        cases here
        exact held

theorem gives_serverRights :
    Gives view (Collects (OnServer view reconciliation account))
      (reconciliation.serverRights account) := by
  apply gives_ofFound
  intro row
  apply (gives_dynamicRights row).bind
  intro dynamic holds right
  rw [List.mem_append, holds right, collects_rightsOn _ _ right]
  exact or_comm

/-- A privilege on an account that a row refers to, if there is one. -/
theorem gives_variantOn
    (purpose : LookupPurpose)
    (user host privilege : String)
    (withOption : Bool) :
    Gives view
      (Collects fun right =>
        ∃ target : Store.AccountRow,
          view.getAccount user host = some target ∧
            IsVariant privilege target.identity (withOption = true) right)
      (lookUp purpose user host >>= fun found =>
        match found with
        | none => pure []
        | some target =>
            pure (rightWithOption privilege target.identity withOption)) := by
  apply gives_ofFound
  intro target
  exact collects_rightWithOption _ _ _

theorem gives_proxyRights :
    Gives view (Collects (AsProxy view reconciliation account))
      (reconciliation.proxyRights account) := by
  refine gives_gathered (Gives.request rfl rfl) ?_
  intro row
  apply gives_unless
  apply gives_ite
  · exact collects_rightWithOption _ _ _
  · exact gives_variantOn _ _ _ _ _

theorem gives_roleEdgeRights (edge : Store.RoleEdge) :
    Gives view
      (Collects fun right =>
        ¬(edge.fromUser = edge.toUser ∧ edge.fromHost = edge.toHost) ∧
          ∃ role : Store.AccountRow,
            view.getAccount edge.fromUser edge.fromHost = some role ∧
              IsVariant "role_assignment" role.identity
                (SaysYes edge.withOption) right)
      (roleEdgeRights edge) := by
  apply gives_unless
  apply (gives_variantOn _ _ _ _ _).weaken
  intro rights collects
  apply collects.congr
  intro right
  simp only [IsVariant.congr saysYes_iff]
  rfl

theorem gives_roleRights :
    Gives view (Collects (InRoles view reconciliation account))
      (reconciliation.roleRights account) := by
  unfold roleRights InRoles
  cases reconciliation.generation with
  | legacy =>
      apply collects_nil_of_not
      intro modern
      cases modern
  | modern =>
      refine
        Gives.weaken
          (gives_gathered (Gives.request rfl rfl) gives_roleEdgeRights) ?_
      intro rights collects
      exact collects.guarded rfl

/-- What is read of an account is what the grant tables say. -/
theorem gives_rightsOf :
    Gives view (Collects (Holds view reconciliation account))
      (reconciliation.rightsOf account) := by
  have reported :
      Gives view (fun _ => True)
        (Program.report (.reconciling account) : Access Unit) :=
    trivial
  apply reported.bind
  intro _ _
  apply (gives_serverRights account).bind
  intro onServer server
  apply (gives_databaseRights account).bind
  intro onDatabases databases
  apply (gives_tableRights account).bind
  intro onTables tables
  apply (gives_columnRights account).bind
  intro onColumns columns
  apply (gives_proxyRights account).bind
  intro asProxy proxies
  apply (gives_roleRights account).bind
  intro inRoles roles right
  simp only [List.mem_append, server right, databases right, tables right,
    columns right, proxies right, roles right, Holds, or_assoc]

end

/-! ## The grants of a principal -/

/-- Whether a host is one of those that an account stands for. -/
def IsHostOf (account : Account) (host : String) : Prop :=
  host ≠ "" ∧
    ∃ piece ∈ Text.pieces ',' account.host, host = Text.trimmed piece

theorem mem_expanded_iff
    {account single : Account} :
    single ∈ account.expanded ↔
      single.name = account.name ∧ IsHostOf account single.host := by
  rcases single with ⟨name, host⟩
  simp only [Account.expanded, Account.hosts, Text.entries, List.mem_map,
    List.mem_filter, bne_iff_ne, Account.mk.injEq, IsHostOf]
  constructor
  · rintro ⟨_, ⟨⟨piece, cut, rfl⟩, present⟩, rfl, rfl⟩
    exact ⟨rfl, present, piece, cut, rfl⟩
  · rintro ⟨rfl, present, piece, cut, rfl⟩
    exact ⟨Text.trimmed piece, ⟨⟨piece, cut, rfl⟩, present⟩, rfl, rfl⟩

theorem isKnown_iff
    {reconciliation : Reconciliation}
    {right : Right} :
    reconciliation.isKnown right = true ↔
      Listed reconciliation.generation right := by
  simp [isKnown, Catalog.lookup?, Listed]

theorem gives_keepKnown
    {view : View}
    {reconciliation : Reconciliation}
    (rights : List Right) :
    Gives view (· = rights.filter reconciliation.isKnown)
      (reconciliation.keepKnown rights) := by
  induction rights with
  | nil => exact rfl
  | cons right rest ih =>
      rw [keepKnown]
      split
      · next known =>
        apply ih.bind
        rintro others rfl
        rw [List.filter_cons_of_pos known]
        exact rfl
      · next unknown =>
        rw [List.filter_cons_of_neg unknown]
        exact ih

/-- Whether grants are those of exactly the rights that the catalog lists and
that the grant tables say one of the hosts of an account has. -/
def IsExact
    (view : View)
    (reconciliation : Reconciliation)
    (principal : Identity)
    (account : Account)
    (grants : List Grant) : Prop :=
  ∃ rights : List Right,
    grants = rights.map (fun right => Grant.ofRight right principal) ∧
      ∀ right,
        right ∈ rights ↔
          Listed reconciliation.generation right ∧
            ∃ host,
              IsHostOf account host ∧
                Holds view reconciliation ⟨account.name, host⟩ right

/-- Whether the catalog lists a right that the grant tables say one of the
accounts behind an account has. -/
def Held
    (view : View)
    (reconciliation : Reconciliation)
    (account : Account)
    (right : Right) : Prop :=
  Listed reconciliation.generation right ∧
    ∃ single ∈ account.expanded, Holds view reconciliation single right

/-- Whether grants are one for each right that an account holds. -/
def AreHeld
    (view : View)
    (reconciliation : Reconciliation)
    (principal : Identity)
    (account : Account)
    (grants : List Grant) : Prop :=
  ∃ rights : List Right,
    grants = rights.map (fun right => Grant.ofRight right principal) ∧
      rights.Nodup ∧
      ∀ right, right ∈ rights ↔ Held view reconciliation account right

/-- Whether grants are one for each right that an account holds, in the order
of the rights. -/
def AreHeldInOrder
    (view : View)
    (reconciliation : Reconciliation)
    (principal : Identity)
    (account : Account)
    (grants : List Grant) : Prop :=
  ∃ rights : List Right,
    grants = rights.map (fun right => Grant.ofRight right principal) ∧
      Sorted.Rising rights ∧
      ∀ right, right ∈ rights ↔ Held view reconciliation account right

theorem gives_areHeldInOrder
    {view : View}
    {reconciliation : Reconciliation}
    {principal : Identity}
    {account : Account}
    (named : principal.account? = some account) :
    Gives view (AreHeldInOrder view reconciliation principal account)
      (reconciliation.grantsHeldBy principal) := by
  rw [grantsHeldBy, named]
  apply (Gives.collect gives_rightsOf _).bind
  intro found collects
  apply (gives_keepKnown _).bind
  rintro known rfl
  refine ⟨_, rfl, (Sorted.rising_ofList _).filter _, ?_⟩
  intro right
  rw [List.mem_filter, Sorted.mem_ofList, isKnown_iff,
    collects_flatten collects right, and_comm, Held]

theorem gives_areHeld
    {view : View}
    {reconciliation : Reconciliation}
    {principal : Identity}
    {account : Account}
    (named : principal.account? = some account) :
    Gives view (AreHeld view reconciliation principal account)
      (reconciliation.grantsHeldBy principal) := by
  apply (gives_areHeldInOrder named).weaken
  rintro grants ⟨rights, rfl, rising, exactly⟩
  exact ⟨rights, rfl, rising.nodup, exactly⟩

theorem gives_grantsHeldBy
    {view : View}
    {reconciliation : Reconciliation}
    {principal : Identity}
    {account : Account}
    (named : principal.account? = some account) :
    Gives view (IsExact view reconciliation principal account)
      (reconciliation.grantsHeldBy principal) := by
  apply (gives_areHeld named).weaken
  rintro grants ⟨rights, rfl, _, exactly⟩
  refine ⟨rights, rfl, ?_⟩
  intro right
  rw [exactly, Held]
  apply and_congr_right
  intro _
  constructor
  · rintro ⟨⟨name, host⟩, single, holds⟩
    rcases mem_expanded_iff.1 single with ⟨rfl, isHost⟩
    exact ⟨host, isHost, holds⟩
  · rintro ⟨host, isHost, holds⟩
    exact ⟨⟨account.name, host⟩, mem_expanded_iff.2 ⟨rfl, isHost⟩, holds⟩

/-- Against any store whose reads succeed, the grants of a user or role are
exactly those that the grant tables and the catalog say it has. -/
theorem grantsHeldBy_exact
    {σ : Type}
    {handler : Program.Handler Store.interface σ}
    {views : σ → View}
    (answers : AnswersFrom handler views)
    (reconciliation : Reconciliation)
    {principal : Identity}
    {account : Account}
    (named : principal.account? = some account)
    (state : σ) :
    ∃ grants,
      ((reconciliation.grantsHeldBy principal).run handler state).result =
          .ok grants ∧
        IsExact (views state) reconciliation principal account grants := by
  rcases Gives.run answers state (gives_grantsHeldBy named) with
    ⟨grants, ended, exactly, _⟩
  exact ⟨grants, ended, exactly⟩

theorem grantsHeldBy_exact_everyScope :
    let reconciliation : Reconciliation := ⟨{}, .modern, .server "db"⟩
    let account : Account := ⟨"alice", "%, localhost"⟩
    AnswersFrom Store.Memory.openHandler Store.Memory.reply ∧
      ∃ grants,
        ((reconciliation.grantsHeldBy (.user account)).run
              Store.Memory.openHandler Store.Memory.everyScope).result =
            .ok grants ∧
          IsExact Store.Memory.everyScope.reply reconciliation
            (.user account) account grants :=
  ⟨Store.Memory.answersFrom_openHandler,
    grantsHeldBy_exact Store.Memory.answersFrom_openHandler _ rfl _⟩

end PrivilegeGraph.Reconciliation
