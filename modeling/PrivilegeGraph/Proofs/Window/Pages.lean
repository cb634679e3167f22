import PrivilegeGraph.Proofs.Text.Numeral
import PrivilegeGraph.Window

/-!
# Pages that tile a listing

`Tiles` describes the pages that a walk through a listing meets from an offset
on, when each page is asked for in a size of its own.  Pages that tile a
listing from its first row on partition it: together they hold every row once
and in order, all but the last are full, and none is empty but a last one that
stands alone.
-/

namespace PrivilegeGraph

variable {α β : Type} {rows : List α}

namespace Window

/-! ## Windows and their pages -/

theorem clampedSize_pos (size : Nat) : 0 < clampedSize size :=
  Nat.lt_of_lt_of_le (by decide) (clampedSize_bounds size).1

theorem limit_of_ofRequest
    {request : PageRequest}
    {window : Window}
    (read : ofRequest request = .ok window) :
    window.limit = max 10 (min 100 request.size) := by
  rw [ofRequest] at read
  split at read
  · cases read
    rfl
  · split at read
    · cases read
      rfl
    · cases read

/-- Whether a token asks for the page that begins at an offset. -/
def Reads (token : String) (offset : Nat) : Prop :=
  ∀ size, ofRequest ⟨token, size⟩ = .ok ⟨offset, clampedSize size⟩

theorem reads_empty : Reads "" 0 := fun _ => rfl

/-- The token of a further page is read as the offset that it was written
for. -/
theorem reads_repr
    {offset : Nat}
    (fits : offset < 1 <<< 64) :
    Reads offset.repr offset := by
  intro size
  rw [ofRequest, if_neg (Text.repr_ne_empty offset),
    Text.readNumeral?_repr fits]

theorem select_map
    (change : α → β)
    (window : Window)
    (rows : List α) :
    window.select (rows.map change) = (window.select rows).map change := by
  simp [select, List.map_take, List.map_drop]

theorem page_map
    (change : α → β)
    (window : Window)
    (rows : List α) :
    window.page (rows.map change) = (window.page rows).map change := by
  simp only [page, List.length_map]
  split
  · simp [Page.map, List.map_take]
  · rfl

theorem page_select_of_lt
    {window : Window}
    (further : window.offset + window.limit < rows.length) :
    window.page (window.select rows) =
      ⟨(rows.drop window.offset).take window.limit,
        (window.offset + window.limit).repr⟩ := by
  have more : window.limit < (window.select rows).length := by
    simp only [select, rowsToFetch, List.length_take, List.length_drop]
    omega
  rw [page, if_pos more, select, rowsToFetch, List.take_take]
  simp

theorem page_select_of_le
    {window : Window}
    (ends : rows.length ≤ window.offset + window.limit) :
    window.page (window.select rows) = ⟨rows.drop window.offset, ""⟩ := by
  have few : (rows.drop window.offset).length ≤ window.limit := by
    simp only [List.length_drop]
    omega
  have whole : window.select rows = rows.drop window.offset :=
    List.take_of_length_le (Nat.le_succ_of_le few)
  rw [whole, page, if_neg (Nat.not_lt.2 few)]

/-- What the page of a window has of a whole listing: the rows from the offset
on, as many as the limit allows, and a token when rows are left over.  The
offset in such a token fits 64 bits. -/
structure Cuts
    (window : Window)
    (whole : List α)
    (page : Page α) : Prop where
  items : page.items = (whole.drop window.offset).take window.limit
  next :
    page.next =
      if window.offset + window.limit < whole.length then
        (window.offset + window.limit).repr
      else
        ""
  fits : page.next ≠ "" → window.offset + window.limit < 1 <<< 64

theorem cuts_page_select
    (window : Window)
    {whole : List α}
    (counted : whole.length ≤ 1 <<< 64) :
    window.Cuts whole (window.page (window.select whole)) := by
  have items := items_page_select window whole
  by_cases further : window.offset + window.limit < whole.length
  · refine ⟨items, ?_, ?_⟩
    · rw [page_select_of_lt further, if_pos further]
    · intro _
      exact Nat.lt_of_lt_of_le further counted
  · have last := page_select_of_le (Nat.not_lt.1 further)
    refine ⟨items, ?_, ?_⟩
    · rw [last, if_neg further]
    · intro handedOut
      rw [last] at handedOut
      exact absurd rfl handedOut

end Window

open Window (clampedSize)

/-! ## Tilings -/

/-- The pages of a listing from an offset on, each in the size that is asked
for next.  A page that leaves rows over hands out the offset after it, and the
last one hands out nothing. -/
inductive Tiles (rows : List α) :
    (sizes : Nat → Nat) → (offset : Nat) → List (Page α) → Prop
  | last
      {sizes : Nat → Nat}
      {offset : Nat}
      (ends : rows.length ≤ offset + clampedSize (sizes 0)) :
      Tiles rows sizes offset [⟨rows.drop offset, ""⟩]
  | more
      {sizes : Nat → Nat}
      {offset : Nat}
      {pages : List (Page α)}
      (further : offset + clampedSize (sizes 0) < rows.length)
      (rest :
        Tiles rows (fun call => sizes (call + 1))
          (offset + clampedSize (sizes 0)) pages) :
      Tiles rows sizes offset
        (⟨(rows.drop offset).take (clampedSize (sizes 0)),
            (offset + clampedSize (sizes 0)).repr⟩ ::
          pages)

/-- Every page takes rows away, so a listing is tiled from every offset on. -/
theorem exists_tiles
    (rows : List α)
    (sizes : Nat → Nat)
    (offset : Nat) :
    ∃ pages, Tiles rows sizes offset pages := by
  by_cases further : offset + clampedSize (sizes 0) < rows.length
  · rcases
        exists_tiles rows (fun call => sizes (call + 1))
          (offset + clampedSize (sizes 0)) with
      ⟨pages, tiles⟩
    exact ⟨_, .more further tiles⟩
  · exact ⟨_, .last (Nat.not_lt.1 further)⟩
termination_by rows.length - offset
decreasing_by
  have := Window.clampedSize_pos (sizes 0)
  omega

/-- Whether pages, each asked for in a size of its own, hold every row of a
listing once and in order; whether each page that another one follows is full
and hands out a token, and the one that follows it is not empty; and whether
the one that no other follows is within its size and hands out none. -/
structure Partitions
    (rows : List α)
    (sizes : Nat → Nat)
    (pages : List (Page α)) : Prop where
  present : pages ≠ []
  items : pages.flatMap Page.items = rows
  full :
    ∀ call page after,
      pages[call]? = some page → pages[call + 1]? = some after →
        page.items.length = max 10 (min 100 (sizes call)) ∧
          page.next ≠ "" ∧ after.items ≠ []
  last :
    ∀ call page,
      pages[call]? = some page → pages[call + 1]? = none →
        page.items.length ≤ max 10 (min 100 (sizes call)) ∧
          page.next = ""

namespace Tiles

variable
    {sizes : Nat → Nat}
    {offset : Nat}
    {pages : List (Page α)}

theorem ne_nil (tiles : Tiles rows sizes offset pages) : pages ≠ [] := by
  cases tiles with
  | last ends => exact List.cons_ne_nil _ _
  | more further rest => exact List.cons_ne_nil _ _

theorem flatMap_items (tiles : Tiles rows sizes offset pages) :
    pages.flatMap Page.items = rows.drop offset := by
  induction tiles with
  | last ends => simp
  | more further rest ih =>
      rw [List.flatMap_cons, ih, ← List.drop_drop]
      exact List.take_append_drop _ _

/-- Every page but the last takes a row away. -/
theorem length_le (tiles : Tiles rows sizes offset pages) :
    pages.length ≤ rows.length - offset + 1 := by
  induction tiles with
  | last ends => exact Nat.le_add_left _ _
  | @more sizes offset pages further rest ih =>
      have size := Window.clampedSize_pos (sizes 0)
      rw [List.length_cons]
      omega

/-- Where rows are left, the first page holds some. -/
theorem head_items_ne_nil
    (tiles : Tiles rows sizes offset pages)
    (left : offset < rows.length)
    {page : Page α}
    (first : pages[0]? = some page) :
    page.items ≠ [] := by
  have unread : rows.drop offset ≠ [] := by
    simpa using left
  cases tiles with
  | last ends =>
      cases first
      exact unread
  | more further rest =>
      cases first
      have size := Window.clampedSize_pos (sizes 0)
      simp only [ne_eq, List.take_eq_nil_iff, not_or]
      exact ⟨Nat.ne_of_gt size, unread⟩

theorem full
    (tiles : Tiles rows sizes offset pages)
    {call : Nat}
    {page after : Page α}
    (here : pages[call]? = some page)
    (next : pages[call + 1]? = some after) :
    page.items.length = clampedSize (sizes call) ∧
      page.next ≠ "" ∧ after.items ≠ [] := by
  induction tiles generalizing call with
  | last ends => simp at next
  | @more sizes offset pages further rest ih =>
      cases call with
      | zero =>
          cases here
          refine ⟨?_, Text.repr_ne_empty _, rest.head_items_ne_nil further next⟩
          simp only [List.length_take, List.length_drop]
          omega
      | succ call => exact ih here next

theorem last_page
    (tiles : Tiles rows sizes offset pages)
    {call : Nat}
    {page : Page α}
    (here : pages[call]? = some page)
    (ends : pages[call + 1]? = none) :
    page.items.length ≤ clampedSize (sizes call) ∧ page.next = "" := by
  induction tiles generalizing call with
  | @last sizes offset short =>
      cases call with
      | zero =>
          cases here
          refine ⟨?_, rfl⟩
          simp only [List.length_drop]
          omega
      | succ call => simp at here
  | @more sizes offset pages further rest ih =>
      cases call with
      | zero =>
          have none : pages = [] := by simpa using ends
          exact absurd none rest.ne_nil
      | succ call => exact ih here ends

/-- Pages that tile a listing from its first row on partition it. -/
theorem partitions (tiles : Tiles rows sizes 0 pages) :
    Partitions rows sizes pages where
  present := tiles.ne_nil
  items := tiles.flatMap_items
  full _ _ _ := tiles.full
  last _ _ := tiles.last_page

end Tiles

end PrivilegeGraph
