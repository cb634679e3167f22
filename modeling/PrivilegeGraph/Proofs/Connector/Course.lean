import PrivilegeGraph.Connector.Listing
import PrivilegeGraph.Proofs.Identity.Codec

/-!
# Courses of listings

For a kind and a parent a listing takes one of a few courses, whatever page of
it is asked for.  It is refused, it shows the server, it shows nothing, or it
fetches the rows of one question and builds a resource from each.  What holds
of all listings is a case for each course.
-/

namespace PrivilegeGraph.Connector

/-- Fetch the rows of a page and build a resource from each. -/
def fetching
    {α : Type}
    (activity : Activity)
    (read : Window → Store.Access (List α))
    (build : α → Resource)
    (request : PageRequest) :
    Operation (Page Resource) := do
  let page ← fetchPage request activity read
  return page.map build

/-- The courses of the listing of a kind under a parent.  A database that is
left out shows neither tables nor routines, and only an expanded table shows
its columns. -/
inductive Course
    (connector : Connector) :
    Kind → Option ResourceId → (PageRequest → Operation (Page Resource)) →
      Prop
  | refused
      {kind : Kind}
      {parent : Option ResourceId}
      (error : Error) :
      Course connector kind parent fun _ => checked (.error error)
  | server
      {parent : Option ResourceId} :
      Course connector .server parent fun _ => pure connector.listServer
  | childless
      {kind : Kind}
      {parent : Option ResourceId} :
      Course connector kind parent fun _ => pure Page.empty
  | databases
      {parent : Option ResourceId}
      {server : Identity}
      (named : parentOfKind .server parent = .ok (some server)) :
      Course connector .database parent
        (fetching .listDatabases
          (fun window =>
            Store.request
              (.listDatabases connector.settings.skipDatabases window))
          (databaseResource server))
  | tables
      {parent : Option ResourceId}
      {schema : String}
      (named : parentOfKind .database parent = .ok (some (.database schema)))
      (kept : schema ∉ connector.settings.skipDatabases) :
      Course connector .table parent
        (fetching (.listTables schema)
          (fun window => Store.request (.listTables schema window))
          (connector.tableResource (Identity.database schema).resourceId))
  | columns
      {parent : Option ResourceId}
      {schema owner : String}
      (named : parentOfKind .table parent = .ok (some (.table schema owner)))
      (expanded : schema ++ "." ++ owner ∈ connector.settings.expandColumns) :
      Course connector .column parent
        (fetching (.listColumns schema owner)
          (fun window => Store.request (.listColumns schema owner window))
          (columnResource (Identity.table schema owner).resourceId))
  | routines
      {parent : Option ResourceId}
      {schema : String}
      (named : parentOfKind .database parent = .ok (some (.database schema)))
      (kept : schema ∉ connector.settings.skipDatabases) :
      Course connector .routine parent
        (fetching (.listRoutines schema)
          (fun window => Store.request (.listRoutines schema window))
          (routineResource (Identity.database schema).resourceId))
  | accounts
      {parent : Option ResourceId}
      (kind : Store.AccountKind)
      (own : ∀ id ∈ parent, id = connector.serverIdentity.resourceId) :
      Course connector kind.kind parent
        (fetching (.listAccounts kind.kind)
          (fun window =>
            Store.request
              (.listAccounts kind connector.settings.collapseUsers window))
          fun row =>
            Resource.ofAccount (kind.identity row.account)
              connector.serverIdentity.resourceId)

/-! ## Parents -/

section

variable
    {kind : Kind}
    {parent : Option ResourceId}
    {identity : Identity}

theorem parentOfKind_eq_some_iff :
    parentOfKind kind parent = .ok (some identity) ↔
      ∃ id ∈ parent, id.kind = kind.name ∧
        Identity.parse id.id = .ok identity := by
  cases parent with
  | none => simp [parentOfKind]
  | some id =>
      by_cases ofKind : id.kind = kind.name
      · cases parsed : Identity.parse id.id <;>
          simp [parentOfKind, ofKind, parsed, Except.map]
      · simp [parentOfKind, ofKind]

theorem parentOfKind_of_otherKind
    (other : ∀ id ∈ parent, id.kind ≠ kind.name) :
    parentOfKind kind parent = .ok none := by
  cases parent with
  | none => rfl
  | some id => exact if_neg (other id rfl)

/-- A parent is read as a resource that can be told apart in its id. -/
theorem wellFormed_of_parentOfKind
    (named : parentOfKind kind parent = .ok (some identity)) :
    identity.WellFormed := by
  rcases parentOfKind_eq_some_iff.1 named with ⟨_, _, _, parsed⟩
  exact (Identity.parse_eq_ok_iff.1 parsed).2

theorem parentOfKind_resourceId (wellFormed : identity.WellFormed) :
    parentOfKind identity.kind (some identity.resourceId) =
      .ok (some identity) := by
  have parsed := Identity.parse_eq_ok_iff.2 ⟨rfl, wellFormed⟩
  exact parentOfKind_eq_some_iff.2 ⟨identity.resourceId, rfl, rfl, parsed⟩

end

/-! ## What is fetched -/

section

variable
    {connector : Connector}
    {parent : Option ResourceId}

theorem list_database_eq_fetching
    {server : Identity}
    (named : parentOfKind .server parent = .ok (some server)) :
    connector.list .database parent =
      fetching .listDatabases
        (fun window =>
          Store.request
            (.listDatabases connector.settings.skipDatabases window))
        (databaseResource server) := by
  funext request
  rw [list, listDatabases, named]
  rfl

theorem list_table_eq_fetching
    {schema : String}
    (named : parentOfKind .database parent = .ok (some (.database schema)))
    (kept : schema ∉ connector.settings.skipDatabases) :
    connector.list .table parent =
      fetching (.listTables schema)
        (fun window => Store.request (.listTables schema window))
        (connector.tableResource (Identity.database schema).resourceId) := by
  funext request
  rw [list, listTables, named]
  show (if _ then _ else _ : Operation (Page Resource)) = _
  rw [if_neg (mt Settings.leavesOut_iff.1 kept)]
  rfl

theorem list_column_eq_fetching
    {schema owner : String}
    (named : parentOfKind .table parent = .ok (some (.table schema owner)))
    (expanded : schema ++ "." ++ owner ∈ connector.settings.expandColumns) :
    connector.list .column parent =
      fetching (.listColumns schema owner)
        (fun window => Store.request (.listColumns schema owner window))
        (columnResource (Identity.table schema owner).resourceId) := by
  funext request
  rw [list, listColumns, named]
  show (if _ then _ else _ : Operation (Page Resource)) = _
  rw [if_pos (Settings.showsColumns_iff.2 expanded)]
  rfl

theorem list_routine_eq_fetching
    {schema : String}
    (named : parentOfKind .database parent = .ok (some (.database schema)))
    (kept : schema ∉ connector.settings.skipDatabases) :
    connector.list .routine parent =
      fetching (.listRoutines schema)
        (fun window => Store.request (.listRoutines schema window))
        (routineResource (Identity.database schema).resourceId) := by
  funext request
  rw [list, listRoutines, named]
  show (if _ then _ else _ : Operation (Page Resource)) = _
  rw [if_neg (mt Settings.leavesOut_iff.1 kept)]
  rfl

/-- Under its own server a connector fetches the accounts of one sort. -/
theorem list_accounts_eq_fetching
    {kind : Store.AccountKind}
    (own : ∀ id ∈ parent, id = connector.serverIdentity.resourceId) :
    connector.list kind.kind parent =
      fetching (.listAccounts kind.kind)
        (fun window =>
          Store.request
            (.listAccounts kind connector.settings.collapseUsers window))
        fun row =>
          Resource.ofAccount (kind.identity row.account)
            connector.serverIdentity.resourceId := by
  have listing :
      connector.list kind.kind parent = connector.listAccounts kind parent := by
    cases kind <;> rfl
  have within :
      parent.all (· = connector.serverIdentity.resourceId) = true := by
    simpa [Option.all_eq_true] using own
  funext request
  rw [listing, listAccounts, if_pos within]
  rfl

end

/-! ## The course of each listing -/

theorem course_ite
    {connector : Connector}
    {kind : Kind}
    {parent : Option ResourceId}
    {condition : Prop}
    [Decidable condition]
    {listing other : PageRequest → Operation (Page Resource)}
    (holds : condition → connector.Course kind parent listing)
    (fails : ¬condition → connector.Course kind parent other) :
    connector.Course kind parent fun request =>
      if condition then listing request else other request := by
  by_cases which : condition
  · simpa only [if_pos which] using holds which
  · simpa only [if_neg which] using fails which

section

variable
    (connector : Connector)
    (parent : Option ResourceId)

theorem course_listDatabases :
    connector.Course .database parent (connector.listDatabases parent) := by
  unfold listDatabases
  cases named : parentOfKind .server parent with
  | error error => exact .refused error
  | ok found =>
      cases found with
      | none => exact .childless
      | some server => exact .databases named

/-- What lies under a database takes its course under a database that is kept,
and else no course of its own. -/
theorem course_underDatabase
    {kind : Kind}
    {listing : String → PageRequest → Operation (Page Resource)}
    (course :
      ∀ schema,
        parentOfKind .database parent = .ok (some (.database schema)) →
          schema ∉ connector.settings.skipDatabases →
            connector.Course kind parent (listing schema)) :
    connector.Course kind parent fun request =>
      checked (parentOfKind .database parent) >>= fun found =>
        match found with
        | some (.database schema) =>
            if connector.settings.leavesOut schema then
              pure Page.empty
            else
              listing schema request
        | _ => pure Page.empty := by
  cases named : parentOfKind .database parent with
  | error error => exact .refused error
  | ok found =>
      cases found with
      | none => exact .childless
      | some identity =>
          cases identity with
          | database schema =>
              apply course_ite
              · intro _
                exact .childless
              · intro kept
                rw [Settings.leavesOut_iff] at kept
                exact course schema named kept
          | _ => exact .childless

theorem course_listTables :
    connector.Course .table parent (connector.listTables parent) := by
  apply course_underDatabase
  intro schema named kept
  exact .tables named kept

theorem course_listRoutines :
    connector.Course .routine parent (connector.listRoutines parent) := by
  apply course_underDatabase
  intro schema named kept
  exact .routines named kept

theorem course_listColumns :
    connector.Course .column parent (connector.listColumns parent) := by
  unfold listColumns
  cases named : parentOfKind .table parent with
  | error error => exact .refused error
  | ok found =>
      cases found with
      | none => exact .childless
      | some identity =>
          cases identity with
          | table schema owner =>
              apply course_ite
              · intro expanded
                rw [Settings.showsColumns_iff] at expanded
                exact .columns named expanded
              · intro _
                exact .childless
          | _ => exact .childless

theorem course_listAccounts (kind : Store.AccountKind) :
    connector.Course kind.kind parent
      (connector.listAccounts kind parent) := by
  apply course_ite
  · intro own
    refine .accounts kind ?_
    simpa [Option.all_eq_true] using own
  · intro _
    exact .childless

/-- Every listing takes one of the courses. -/
theorem course_list (kind : Kind) :
    connector.Course kind parent (connector.list kind parent) := by
  cases kind with
  | server => exact .server
  | database => exact connector.course_listDatabases parent
  | table => exact connector.course_listTables parent
  | column => exact connector.course_listColumns parent
  | routine => exact connector.course_listRoutines parent
  | user => exact connector.course_listAccounts parent .user
  | role => exact connector.course_listAccounts parent .role

end

end PrivilegeGraph.Connector
