import PrivilegeGraph.Proofs.Connector.Course
import PrivilegeGraph.Proofs.Store.Inventory
import PrivilegeGraph.Proofs.Window.Pages

/-!
# Walks through a listing

A walk asks for page after page of a listing, each in a size of its own, and
follows the tokens until one is empty.  Wherever a listing is read from the
store at all, it is the whole listing of the store that is shown, and the
pages of every walk partition it.
-/

namespace PrivilegeGraph.Connector

open Program (Assured Contract Handler)
open Store (Inventory)
open Window (clampedSize Reads)

/-! ## Which listings are read from the store -/

/-- Whether a program asks something of a party that answers it. -/
def Asks {α : Type} (operation : Operation α) : Prop :=
  ∃ (σ : Type) (handler : Handler Store.interface σ) (state : σ),
    (operation.run handler state).calls ≠ []

/-- Whether the resources of a kind under a parent are read from the store. -/
def ReadsUnder
    (connector : Connector)
    (kind : Kind)
    (parent : Option ResourceId) : Prop :=
  ∃ request, Asks (connector.list kind parent request)

/-- The resources of a kind under a parent, as the whole listings of the store
have them.  Databases are those that are not left out; a database that is left
out shows neither tables nor routines, and only an expanded table shows its
columns. -/
inductive Shows
    (connector : Connector)
    (inventory : Inventory) :
    Kind → Option ResourceId → List Resource → Prop
  | databases
      {parent : Option ResourceId}
      {server : Identity}
      (named : parentOfKind .server parent = .ok (some server)) :
      Shows connector inventory .database parent
        ((inventory.databasesBut connector.settings.skipDatabases).map
          (databaseResource server))
  | tables
      {parent : Option ResourceId}
      {schema : String}
      (named : parentOfKind .database parent = .ok (some (.database schema)))
      (kept : schema ∉ connector.settings.skipDatabases) :
      Shows connector inventory .table parent
        ((inventory.tables schema).map
          (connector.tableResource (Identity.database schema).resourceId))
  | columns
      {parent : Option ResourceId}
      {schema owner : String}
      (named : parentOfKind .table parent = .ok (some (.table schema owner)))
      (expanded : schema ++ "." ++ owner ∈ connector.settings.expandColumns) :
      Shows connector inventory .column parent
        ((inventory.columns schema owner).map
          (columnResource (Identity.table schema owner).resourceId))
  | routines
      {parent : Option ResourceId}
      {schema : String}
      (named : parentOfKind .database parent = .ok (some (.database schema)))
      (kept : schema ∉ connector.settings.skipDatabases) :
      Shows connector inventory .routine parent
        ((inventory.routines schema).map
          (routineResource (Identity.database schema).resourceId))
  | accounts
      {parent : Option ResourceId}
      (kind : Store.AccountKind)
      (own : ∀ id ∈ parent, id = connector.serverIdentity.resourceId) :
      Shows connector inventory kind.kind parent
        ((inventory.accounts kind connector.settings.collapseUsers).map
          fun row =>
            Resource.ofAccount (kind.identity row.account)
              connector.serverIdentity.resourceId)

/-- Whether every page of a listing is cut out of the same resources. -/
def CutFrom
    (inventory : Inventory)
    (whole : List Resource)
    (listing : PageRequest → Operation (Page Resource)) : Prop :=
  ∀ request window, Window.ofRequest request = .ok window →
    (listing request).Assured inventory.contract
      (· = .ok (window.page (window.select whole)))

theorem not_asks_of_settled
    {α : Type}
    {operation : Operation α}
    (settled : Store.Settled (fun _ => True) operation) :
    ¬Asks operation := by
  rintro ⟨σ, handler, state, asked⟩
  rcases List.exists_mem_of_ne_nil _ asked with ⟨call, member⟩
  exact settled.allowed_of_mem_calls handler state member

theorem cutFrom_fetching
    {α : Type}
    {inventory : Inventory}
    {rows : List α}
    {read : Window → Store.Access (List α)}
    (reads :
      ∀ window,
        (read window).Assured inventory.contract
          (· = .ok (window.select rows)))
    (activity : Activity)
    (build : α → Resource) :
    CutFrom inventory (rows.map build) (fetching activity read build) := by
  intro request window parsed
  have fetched :
      (fetchPage request activity read).Assured inventory.contract
        (· = .ok (window.page (window.select rows))) := by
    rw [fetchPage, parsed]
    have during :
        (during activity (read window)).Assured inventory.contract
          (· = .ok (window.select rows)) := by
      apply (reads window).mapError
      rintro _ rfl
      rfl
    exact during.bind_eq_ok rfl
  rw [fetching]
  apply fetched.bind_eq_ok
  rw [Window.select_map, Window.page_map]
  exact rfl

/-- What a listing shows is what its pages are cut from. -/
theorem Shows.cutFrom
    {connector : Connector}
    {inventory : Inventory}
    {kind : Kind}
    {parent : Option ResourceId}
    {whole : List Resource}
    (shown : connector.Shows inventory kind parent whole) :
    CutFrom inventory whole (connector.list kind parent) := by
  cases shown with
  | databases named =>
      rw [list_database_eq_fetching named]
      exact cutFrom_fetching (fun _ => Inventory.assured_request rfl) _ _
  | tables named kept =>
      rw [list_table_eq_fetching named kept]
      exact cutFrom_fetching (fun _ => Inventory.assured_request rfl) _ _
  | columns named expanded =>
      rw [list_column_eq_fetching named expanded]
      exact cutFrom_fetching (fun _ => Inventory.assured_request rfl) _ _
  | routines named kept =>
      rw [list_routine_eq_fetching named kept]
      exact cutFrom_fetching (fun _ => Inventory.assured_request rfl) _ _
  | accounts kind own =>
      rw [list_accounts_eq_fetching own]
      exact cutFrom_fetching (fun _ => Inventory.assured_request rfl) _ _

/-- A listing that asks anything shows what the store lists. -/
theorem Course.exists_shows
    {connector : Connector}
    {kind : Kind}
    {parent : Option ResourceId}
    {listing : PageRequest → Operation (Page Resource)}
    (course : connector.Course kind parent listing)
    {request : PageRequest}
    (asks : Asks (listing request))
    (inventory : Inventory) :
    ∃ whole, connector.Shows inventory kind parent whole := by
  cases course with
  | refused error => exact absurd asks (not_asks_of_settled trivial)
  | server => exact absurd asks (not_asks_of_settled trivial)
  | childless => exact absurd asks (not_asks_of_settled trivial)
  | databases named => exact ⟨_, .databases named⟩
  | tables named kept => exact ⟨_, .tables named kept⟩
  | columns named expanded => exact ⟨_, .columns named expanded⟩
  | routines named kept => exact ⟨_, .routines named kept⟩
  | accounts kind own => exact ⟨_, .accounts kind own⟩

/-- No listing of a store that can be counted in 64 bits shows more rows than
that. -/
theorem Shows.length_le
    {connector : Connector}
    {inventory : Inventory}
    {kind : Kind}
    {parent : Option ResourceId}
    {whole : List Resource}
    (shown : connector.Shows inventory kind parent whole)
    (countable : inventory.Countable) :
    whole.length ≤ 1 <<< 64 := by
  cases shown with
  | databases named =>
      rw [List.length_map]
      exact Nat.le_trans (List.length_filter_le _ _) countable.databases
  | tables named kept =>
      rw [List.length_map]
      exact countable.tables _
  | columns named expanded =>
      rw [List.length_map]
      exact countable.columns _ _
  | routines named kept =>
      rw [List.length_map]
      exact countable.routines _
  | accounts kind own =>
      rw [List.length_map]
      exact countable.accounts _ _

/-! ## Walks -/

/-- The pages of a listing from a token on, following each page's token until
it is empty, or until as many pages as allowed have been read.  Each page is
asked for in a size of its own. -/
def walk
    (connector : Connector)
    (kind : Kind)
    (parent : Option ResourceId) :
    (most : Nat) → (sizes : Nat → Nat) → (token : String) →
      Operation (List (Page Resource))
  | 0, _, _ => return []
  | most + 1, sizes, token => do
      let page ← connector.list kind parent ⟨token, sizes 0⟩
      if page.next = "" then
        return [page]
      else
        let others ←
          walk connector kind parent most (fun call => sizes (call + 1))
            page.next
        return page :: others

/-- Following the tokens in one size is a walk in that size. -/
theorem pagesFrom_eq_walk
    (connector : Connector)
    (kind : Kind)
    (parent : Option ResourceId)
    (size most : Nat)
    (token : String) :
    connector.pagesFrom kind parent size most token =
      connector.walk kind parent most (fun _ => size) token := by
  induction most generalizing token with
  | zero => rfl
  | succ most ih => simp only [pagesFrom, walk, ih]

section

variable
    {connector : Connector}
    {inventory : Inventory}
    {kind : Kind}
    {parent : Option ResourceId}
    {whole : List Resource}

/-- A walk reads the pages that tile the listing from the offset of its token
on.  The induction is on the tiling: an offset that is handed out is below the
length of the listing, so its token is read back as that offset. -/
theorem assured_walk
    (cut : CutFrom inventory whole (connector.list kind parent))
    (counted : whole.length ≤ 1 <<< 64)
    {sizes : Nat → Nat}
    {offset : Nat}
    {pages : List (Page Resource)}
    (tiles : Tiles whole sizes offset pages)
    {token : String}
    (reads : Reads token offset)
    {most : Nat}
    (enough : pages.length ≤ most) :
    (connector.walk kind parent most sizes token).Assured inventory.contract
      (· = .ok pages) := by
  induction tiles generalizing token most with
  | @last sizes offset ends =>
      cases most with
      | zero => simp at enough
      | succ most =>
          have first := cut _ _ (reads (sizes 0))
          rw [Window.page_select_of_le ends] at first
          apply first.bind_eq_ok
          rw [if_pos rfl]
          exact rfl
  | @more sizes offset pages further rest ih =>
      cases most with
      | zero => simp at enough
      | succ most =>
          have first := cut _ _ (reads (sizes 0))
          rw [Window.page_select_of_lt further] at first
          apply first.bind_eq_ok
          rw [if_neg (Text.repr_ne_empty _)]
          have fits : offset + clampedSize (sizes 0) < 1 <<< 64 :=
            Nat.lt_of_lt_of_le further counted
          have others :=
            ih (Window.reads_repr fits) (Nat.le_of_succ_le_succ enough)
          exact others.bind_eq_ok rfl

end

/-- What a caller of a listing meets: every walk from the first page on ends
and partitions the whole listing, and every token that can be read gets the
page of its offset. -/
structure Paged
    {σ : Type}
    (handler : Handler Store.interface σ)
    (state : σ)
    (connector : Connector)
    (kind : Kind)
    (parent : Option ResourceId)
    (whole : List Resource) : Prop where
  walks :
    ∀ sizes, ∃ pages,
      Partitions whole sizes pages ∧
        ∀ most, pages.length ≤ most →
          ((connector.walk kind parent most sizes "").run handler
              state).result =
            .ok pages
  jumps :
    ∀ request window, Window.ofRequest request = .ok window →
      window.limit = max 10 (min 100 request.size) ∧
        ∃ page,
          ((connector.list kind parent request).run handler state).result =
              .ok page ∧
            window.Cuts whole page

/-- So following the tokens in one size from the first page on ends, if enough
pages are allowed, and makes pages that partition the whole listing. -/
theorem Paged.pagesFrom_partitions
    {σ : Type}
    {handler : Handler Store.interface σ}
    {state : σ}
    {connector : Connector}
    {kind : Kind}
    {parent : Option ResourceId}
    {whole : List Resource}
    (paged : Paged handler state connector kind parent whole)
    (size : Nat) :
    ∃ pages,
      Partitions whole (fun _ => size) pages ∧
        ∀ most, pages.length ≤ most →
          ((connector.pagesFrom kind parent size most "").run handler
              state).result =
            .ok pages := by
  simp only [pagesFrom_eq_walk]
  exact paged.walks fun _ => size

theorem paged_of_cutFrom
    {connector : Connector}
    {inventory : Inventory}
    {kind : Kind}
    {parent : Option ResourceId}
    {whole : List Resource}
    (cut : CutFrom inventory whole (connector.list kind parent))
    (counted : whole.length ≤ 1 <<< 64)
    {σ : Type}
    {handler : Handler Store.interface σ}
    {states : σ → Prop}
    (kept : inventory.contract.KeptBy handler states)
    {state : σ}
    (start : states state) :
    Paged handler state connector kind parent whole where
  walks sizes := by
    rcases exists_tiles whole sizes 0 with ⟨pages, tiles⟩
    refine ⟨pages, tiles.partitions, ?_⟩
    intro most enough
    exact
      ((assured_walk cut counted tiles Window.reads_empty enough).run
        kept start).1
  jumps request window parsed :=
    ⟨Window.limit_of_ofRequest parsed, _,
      ((cut request window parsed).run kept start).1,
      Window.cuts_page_select window counted⟩

/-- The pages of a listing that is read from the store partition what the
store shows.  The store may change in any way that leaves its listings as they
are, and every call of a walk may ask for another size. -/
theorem listing_partitioned
    {σ : Type}
    {handler : Handler Store.interface σ}
    {states : σ → Prop}
    {inventory : Inventory}
    {connector : Connector}
    {kind : Kind}
    {parent : Option ResourceId}
    (kept : inventory.contract.KeptBy handler states)
    (countable : inventory.Countable)
    (reads : connector.ReadsUnder kind parent) :
    ∃ whole,
      connector.Shows inventory kind parent whole ∧
        ∀ state, states state →
          Paged handler state connector kind parent whole := by
  rcases reads with ⟨request, asks⟩
  rcases (connector.course_list parent kind).exists_shows asks inventory with
    ⟨whole, shown⟩
  refine ⟨whole, shown, ?_⟩
  intro state start
  exact
    paged_of_cutFrom shown.cutFrom (shown.length_le countable) kept start

/-- Twenty databases fill pages of ten to the last row. -/
theorem listing_partitioned_fullPages :
    let memory : Store.Memory :=
      { Store.Memory.everyScope with
        databases := (List.range 20).map Nat.repr }
    let connector : Connector :=
      ⟨{ skipDatabases := ["mysql"] }, .modern, ⟨"db", "8.0.36"⟩⟩
    let parent := some connector.serverIdentity.resourceId
    memory.inventory.contract.KeptBy Store.Memory.openHandler (· = memory) ∧
      memory.inventory.Countable ∧
      connector.ReadsUnder .database parent ∧
      ∃ whole,
        connector.Shows memory.inventory .database parent whole ∧
          ∀ state, state = memory →
            Paged Store.Memory.openHandler state connector .database parent
              whole := by
  intro memory connector parent
  have kept := memory.inventory_keptBy_openHandler
  have countable : memory.inventory.Countable := by
    apply Store.Memory.countable_inventory <;> decide
  have reads : connector.ReadsUnder .database parent :=
    ⟨⟨"", 10⟩, _, Store.Memory.openHandler, memory, by decide⟩
  exact ⟨kept, countable, reads, listing_partitioned kept countable reads⟩

end PrivilegeGraph.Connector
