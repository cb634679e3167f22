import PrivilegeGraph.Connector.Access
import PrivilegeGraph.Proofs.Connector.Course
import PrivilegeGraph.Proofs.Program.Contract
import PrivilegeGraph.Proofs.Reconciliation.Reading
import PrivilegeGraph.Proofs.Store.View

/-!
# Databases that are left out

Databases on the skip list are meant to appear in no listing and no grant.
Grants keep to that against every store, and so does every listing except that
of columns against a store whose rows belong to what was asked.  Columns are
listed by the expansion list alone, so theirs keeps to it exactly when no
table on that list is in a database on the skip list.
-/

namespace PrivilegeGraph

open Program (Assured Confined Contract Handler Yielding)

namespace Store

/-! ## Stores that keep to the question -/

/-- Whether the rows of a listing belong to what was asked. -/
def Call.Pertains : (call : Call) → call.Reply → Prop
  | .listDatabases skipped _, (names : List String) =>
      ∀ name ∈ names, name ∉ skipped
  | .listTables schema _, (rows : List TableRow) =>
      ∀ row ∈ rows, row.schema = schema
  | .listColumns schema owner _, (rows : List ColumnRow) =>
      ∀ row ∈ rows, row.schema = schema ∧ row.owner = owner
  | .listRoutines schema _, (rows : List RoutineRow) =>
      ∀ row ∈ rows, row.schema = schema
  | _, _ => True

/-- Any question, and any answer that belongs to it. -/
def pertinent : Contract interface where
  expects _ := True
  allows call answer := ∀ reply, answer = .ok reply → call.Pertains reply

theorem assured_request (call : Call) :
    (request call).Assured pertinent (Yielding call.Pertains) := by
  refine ⟨trivial, ?_⟩
  intro answer pertains
  cases answer with
  | ok reply => exact pertains reply rfl
  | error fault => exact trivial

theorem mem_of_mem_select
    {α : Type}
    {window : Window}
    {rows : List α}
    {row : α}
    (member : row ∈ window.select rows) :
    row ∈ rows :=
  List.mem_of_mem_drop (List.mem_of_mem_take member)

/-- A store in memory keeps to the question. -/
theorem Memory.pertinent_keptBy_openHandler :
    pertinent.KeptBy Memory.openHandler fun _ => True := by
  intro call _ memory _
  refine ⟨?_, trivial⟩
  rintro _ ⟨⟩
  cases call with
  | listDatabases skipped window =>
      intro name member
      have kept := List.mem_filter.1 (mem_of_mem_select member)
      simpa using kept.2
  | listTables schema window =>
      intro row member
      have kept := List.mem_filter.1 (mem_of_mem_select member)
      simpa using kept.2
  | listColumns schema owner window =>
      intro row member
      have kept := List.mem_filter.1 (mem_of_mem_select member)
      simpa using kept.2
  | listRoutines schema window =>
      intro row member
      have kept := List.mem_filter.1 (mem_of_mem_select member)
      simpa using kept.2
  | _ => exact trivial

end Store

namespace Connector

/-! ## Listings -/

/-- Whether a page has only resources outside the databases that are left
out. -/
def OutsidePage
    (connector : Connector)
    (page : Page Resource) : Prop :=
  ∀ resource ∈ page.items,
    resource.id.Outside connector.settings.skipDatabases

/-- Whether the listing of a kind has only resources outside the databases
that are left out, whatever store that keeps to the question it is read
from. -/
def ListsOutside
    (connector : Connector)
    (kind : Kind) : Prop :=
  ∀ (σ : Type) (handler : Handler Store.interface σ) (states : σ → Prop),
    Store.pertinent.KeptBy handler states →
      ∀ state, states state → ∀ parent request page,
        ((connector.list kind parent request).run handler state).result =
            .ok page →
          connector.OutsidePage page

/-- Whether every page of a listing is assured to be such a page. -/
def Avoids
    (connector : Connector)
    (listing : PageRequest → Operation (Page Resource)) : Prop :=
  ∀ request,
    (listing request).Assured Store.pertinent
      (Yielding connector.OutsidePage)

section

variable {connector : Connector}

theorem mem_of_mem_page
    {α : Type}
    {window : Window}
    {rows : List α}
    {row : α}
    (member : row ∈ (window.page rows).items) :
    row ∈ rows := by
  rw [Window.page] at member
  split at member
  · exact List.mem_of_mem_take member
  · exact member

/-- Rows that are built into resources outside give pages that are. -/
theorem avoids_fetching
    {α : Type}
    {belongs : α → Prop}
    {read : Window → Store.Access (List α)}
    {build : α → Resource}
    {activity : Activity}
    (reads :
      ∀ window,
        (read window).Assured Store.pertinent
          (Yielding fun rows => ∀ row ∈ rows, belongs row))
    (outside :
      ∀ row, belongs row →
        (build row).id.Outside connector.settings.skipDatabases) :
    connector.Avoids (fetching activity read build) := by
  intro request
  have fetched :
      (fetchPage request activity read).Assured Store.pertinent
        (Yielding fun page => ∀ row ∈ page.items, belongs row) := by
    rw [fetchPage]
    cases Window.ofRequest request with
    | error error => exact trivial
    | ok window =>
        have during :
            (during activity (read window)).Assured Store.pertinent
              (Yielding fun rows => ∀ row ∈ rows, belongs row) := by
          apply (reads window).mapError
          intro result holds
          cases result with
          | ok rows => exact holds
          | error error => exact trivial
        apply during.bind fun _ _ => trivial
        intro rows holds row member
        exact holds row (mem_of_mem_page member)
  apply fetched.bind fun _ _ => trivial
  intro page holds resource member
  rcases List.mem_map.1 member with ⟨row, inside, rfl⟩
  exact outside row (holds row inside)

end

/-- Whether no table on the expansion list is in a database that is left
out. -/
def ExpandsOutside (connector : Connector) : Prop :=
  ∀ schema owner, (Identity.table schema owner).WellFormed →
    schema ++ "." ++ owner ∈ connector.settings.expandColumns →
      schema ∉ connector.settings.skipDatabases

/-- Every course but that of columns avoids the databases that are left out,
and that of columns does when no table in them is expanded. -/
theorem Course.avoids
    {connector : Connector}
    {kind : Kind}
    {parent : Option ResourceId}
    {listing : PageRequest → Operation (Page Resource)}
    (course : connector.Course kind parent listing)
    (expands : kind = .column → connector.ExpandsOutside) :
    connector.Avoids listing := by
  cases course with
  | refused error => exact fun _ => trivial
  | childless => exact fun _ _ member => absurd member List.not_mem_nil
  | server =>
      intro _ resource member
      rcases List.mem_singleton.1 member with rfl
      exact (Identity.outside_of_not_dotted rfl _).resourceId
  | databases named =>
      apply avoids_fetching
      · intro window
        exact Store.assured_request (.listDatabases _ window)
      · intro name kept
        exact (Identity.outside_of_database rfl kept).resourceId
  | @tables parent schema named kept =>
      apply avoids_fetching
      · intro window
        exact Store.assured_request (.listTables schema window)
      · rintro row rfl
        exact (Identity.outside_of_database rfl kept).resourceId
  | @columns parent schema owner named expanded =>
      have kept :=
        expands rfl schema owner (wellFormed_of_parentOfKind named) expanded
      apply avoids_fetching
      · intro window
        exact Store.assured_request (.listColumns schema owner window)
      · rintro row ⟨rfl, rfl⟩
        exact (Identity.outside_of_database rfl kept).resourceId
  | @routines parent schema named kept =>
      apply avoids_fetching
      · intro window
        exact Store.assured_request (.listRoutines schema window)
      · rintro row rfl
        exact (Identity.outside_of_database rfl kept).resourceId
  | accounts kind own =>
      apply avoids_fetching
      · intro window
        apply (Store.assured_request _).weaken
        intro result _
        cases result with
        | ok rows => exact fun _ _ => trivial
        | error error => exact trivial
      · intro row _
        cases kind with
        | user => exact (Identity.outside_of_not_dotted rfl _).resourceId
        | role => exact (Identity.outside_of_not_dotted rfl _).resourceId

theorem listsOutside_of_expands
    {connector : Connector}
    {kind : Kind}
    (expands : kind = .column → connector.ExpandsOutside) :
    connector.ListsOutside kind := by
  intro σ handler states kept state start parent request page listed
  have avoids := (connector.course_list parent kind).avoids expands request
  have holds := (avoids.run kept start).1
  rw [listed] at holds
  exact holds

/-- A table on the expansion list shows its columns, in whatever database it
is. -/
theorem list_column_of_expanded
    {connector : Connector}
    {schema owner : String}
    (wellFormed : (Identity.table schema owner).WellFormed)
    (expanded :
      schema ++ "." ++ owner ∈ connector.settings.expandColumns)
    (memory : Store.Memory)
    {name : String}
    (stored : memory.columns = [⟨schema, owner, name⟩]) :
    ((connector.list .column (some (Identity.table schema owner).resourceId)
            ⟨"", 10⟩).run Store.Memory.openHandler memory).result =
      .ok
        ⟨[columnResource (Identity.table schema owner).resourceId
            ⟨schema, owner, name⟩], ""⟩ := by
  have named :
      parentOfKind .table (some (Identity.table schema owner).resourceId) =
        .ok (some (.table schema owner)) :=
    parentOfKind_resourceId wellFormed
  have found :
      (memory.columns.filter fun row =>
          row.schema = schema && row.owner = owner) =
        [⟨schema, owner, name⟩] := by
    simp [stored]
  rw [list_column_eq_fetching named expanded]
  show
    Except.ok
        (Page.map (columnResource (Identity.table schema owner).resourceId)
          (Window.page ⟨0, 10⟩
            (Window.select ⟨0, 10⟩
              (memory.columns.filter fun row =>
                row.schema = schema && row.owner = owner)))) =
      _
  rw [found]
  rfl

/-- The columns that are listed are outside the databases that are left out
exactly when the tables on the expansion list are. -/
theorem listsOutside_column_iff (connector : Connector) :
    connector.ListsOutside .column ↔ connector.ExpandsOutside := by
  constructor
  · intro outside schema owner wellFormed expanded skipped
    -- One column in that table is enough, and its id is read back as itself.
    let memory : Store.Memory :=
      { Store.Memory.everyScope with columns := [⟨schema, owner, "id"⟩] }
    have listed := list_column_of_expanded wellFormed expanded memory rfl
    have column : (Identity.column schema owner "id").WellFormed :=
      ⟨wellFormed.1, wellFormed.2, by decide, by decide⟩
    have shown :=
      outside _ _ _ Store.Memory.pertinent_keptBy_openHandler memory trivial _
        _ _ listed _ List.mem_cons_self
    exact
      shown.read _ (Identity.parse_eq_ok_iff.2 ⟨rfl, column⟩) schema rfl
        skipped
  · intro expands
    exact listsOutside_of_expands fun _ => expands

/-! ## Grants -/

/-- Whether every grant that the connector reads is on a resource outside the
databases that are left out, whatever store it is read from. -/
def GrantsOutside (connector : Connector) : Prop :=
  ∀ (σ : Type) (handler : Handler Store.interface σ) (state : σ),
    ∀ kind id grants,
      ((connector.grants kind id).run handler state).result = .ok grants →
        ∀ grant ∈ grants,
          grant.resource.Outside connector.settings.skipDatabases

theorem outside_of_reportable
    {connector : Connector}
    {right : Right}
    (reportable : connector.reconciliation.Reportable right) :
    right.resource.Outside connector.settings.skipDatabases := by
  rcases reportable with onServer | outside
  · rw [onServer]
    exact Identity.outside_of_not_dotted rfl _
  · exact outside

theorem accountGrants_findable
    (connector : Connector)
    (id : String) :
    (connector.accountGrants id).Confined
      (Store.Call.IsReadOn connector.generation)
      (Yielding fun grants =>
        ∀ grant ∈ grants, ∃ right principal,
          grant = Grant.ofRight right principal ∧
            connector.reconciliation.Findable right ∧
              connector.reconciliation.isKnown right = true) := by
  rw [accountGrants]
  cases Identity.parse id with
  | error error => exact trivial
  | ok principal =>
      have reads :=
        connector.reconciliation.grantsHeldBy_findable principal
      show
        (during _
            (connector.reconciliation.grantsHeldBy principal)).Confined _ _
      apply reads.mapError
      intro result findable
      cases result with
      | error error => exact trivial
      | ok grants =>
          intro grant member
          rcases findable grant member with ⟨right, here, holds⟩
          exact ⟨right, principal, here, holds⟩

/-- The grants of a resource are of rights that can be found and that the
catalog lists. -/
theorem findable_of_grants
    {connector : Connector}
    {σ : Type}
    {handler : Handler Store.interface σ}
    {state : σ}
    {kind : Kind}
    {id : String}
    {grants : List Grant}
    (read :
      ((connector.grants kind id).run handler state).result = .ok grants) :
    ∀ grant ∈ grants, ∃ right principal,
      grant = Grant.ofRight right principal ∧
        connector.reconciliation.Findable right ∧
          connector.reconciliation.isKnown right = true := by
  have confined :
      (connector.grants kind id).Confined
        (Store.Call.IsReadOn connector.generation)
        (Yielding fun grants =>
          ∀ grant ∈ grants, ∃ right principal,
            grant = Grant.ofRight right principal ∧
              connector.reconciliation.Findable right ∧
                connector.reconciliation.isKnown right = true) := by
    cases kind with
    | user => exact connector.accountGrants_findable id
    | role => exact connector.accountGrants_findable id
    | _ => exact fun _ member => absurd member List.not_mem_nil
  have holds := confined.result_run handler state
  rw [read] at holds
  exact holds

theorem grantsOutside (connector : Connector) :
    connector.GrantsOutside := by
  intro σ handler state kind id grants read grant member
  rcases findable_of_grants read grant member with
    ⟨right, _, rfl, findable, _⟩
  exact (outside_of_reportable findable.reportable).resourceId

/-- Every grant and every listing but that of columns is outside the databases
that are left out, and that of columns is so exactly when no table of such a
database is expanded. -/
theorem left_out_unless_expanded (connector : Connector) :
    connector.GrantsOutside ∧
      (∀ kind ≠ .column, connector.ListsOutside kind) ∧
      (connector.ListsOutside .column ↔ connector.ExpandsOutside) :=
  ⟨connector.grantsOutside,
    fun _ other => listsOutside_of_expands fun isColumn =>
      absurd isColumn other,
    connector.listsOutside_column_iff⟩

/-- A column of a database that is left out is listed when its table is
expanded. -/
theorem column_of_left_out_listed :
    let connector : Connector :=
      ⟨{ skipDatabases := ["shop"], expandColumns := ["shop.orders"] },
        .modern, ⟨"db", "8.0.36"⟩⟩
    ∃ page resource,
      ((connector.list .column (some ⟨"table", "table:shop.orders"⟩)
              ⟨"", 10⟩).run Store.Memory.openHandler
            Store.Memory.everyScope).result =
          .ok page ∧
        resource ∈ page.items ∧
          resource.id = ⟨"column", "column:shop.orders.total"⟩ ∧
            ¬resource.id.Outside connector.settings.skipDatabases := by
  intro connector
  have table : (Identity.table "shop" "orders").WellFormed :=
    ⟨⟨by decide, by decide⟩, by decide, by decide⟩
  have expanded :
      "shop" ++ "." ++ "orders" ∈ connector.settings.expandColumns := by
    decide
  have listed :=
    list_column_of_expanded table expanded Store.Memory.everyScope rfl
  refine ⟨_, _, listed, List.mem_cons_self, rfl, ?_⟩
  intro outside
  have parsed :
      Identity.parse "column:shop.orders.total" =
        .ok (.column "shop" "orders" "total") := by
    decide
  exact outside.read _ parsed "shop" rfl List.mem_cons_self

end Connector

end PrivilegeGraph
