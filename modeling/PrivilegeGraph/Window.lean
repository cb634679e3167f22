import PrivilegeGraph.Error
import PrivilegeGraph.Text.Numeral

/-!
# Pages

A listing is read page by page.  A page token is the decimal offset of the
page's first row.  The store is asked for one row more than the page holds; when
that row comes back there is a further page, and otherwise the next token is
empty.
-/

namespace PrivilegeGraph

/-- A request for a page, as it arrives. -/
structure PageRequest where
  token : String
  size : Nat
  deriving DecidableEq, Repr

/-- A page of a listing and the token of the page after it. -/
structure Page (α : Type) where
  items : List α
  next : String

/-- The page without items that ends a listing. -/
def Page.empty {α : Type} : Page α :=
  ⟨[], ""⟩

/-- A page with its items changed one by one. -/
def Page.map
    {α β : Type}
    (change : α → β)
    (page : Page α) :
    Page β :=
  ⟨page.items.map change, page.next⟩

/-- The rows that a page covers. -/
structure Window where
  offset : Nat
  limit : Nat
  deriving DecidableEq, Repr

namespace Window

/-- The fewest rows of a page. -/
def minLimit : Nat := 10

/-- The most rows of a page. -/
def maxLimit : Nat := 100

/-- The size of a page for a requested size. -/
def clampedSize (size : Nat) : Nat :=
  max minLimit (min maxLimit size)

/-- The window of a page request.  An empty token asks for the first page;
offsets fit 64 bits. -/
def ofRequest (request : PageRequest) : Except Error Window :=
  if request.token = "" then
    .ok ⟨0, clampedSize request.size⟩
  else
    match Text.readNumeral? 64 request.token with
    | some offset => .ok ⟨offset, clampedSize request.size⟩
    | none => .error (.invalidPageToken request.token)

/-- How many rows to ask for. -/
def rowsToFetch (window : Window) : Nat :=
  window.limit + 1

/-- The rows of a full listing that a store returns for a window. -/
def select
    {α : Type}
    (window : Window)
    (rows : List α) :
    List α :=
  (rows.drop window.offset).take window.rowsToFetch

/-- The page for the rows that came back. -/
def page
    {α : Type}
    (window : Window)
    (rows : List α) :
    Page α :=
  if window.limit < rows.length then
    ⟨rows.take window.limit, (window.offset + window.limit).repr⟩
  else
    ⟨rows, ""⟩

theorem clampedSize_bounds (size : Nat) :
    minLimit ≤ clampedSize size ∧ clampedSize size ≤ maxLimit := by
  unfold clampedSize minLimit maxLimit
  omega

/-- The page of a window holds the listing's rows from the offset on. -/
theorem items_page_select
    {α : Type}
    (window : Window)
    (rows : List α) :
    (window.page (window.select rows)).items =
      (rows.drop window.offset).take window.limit := by
  unfold page select rowsToFetch
  split
  · simp [List.take_take]
  · next short =>
    simp only [List.length_take, List.length_drop, Nat.not_lt] at short
    rw [List.take_of_length_le (by simp; omega),
      List.take_of_length_le (by simp; omega)]

end Window

end PrivilegeGraph
