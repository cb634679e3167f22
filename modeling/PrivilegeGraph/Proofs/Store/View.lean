import Mathlib.Data.List.Forall2
import PrivilegeGraph.Proofs.Store.Execution
import PrivilegeGraph.Store.Memory

/-!
# Stores whose reads succeed

A view holds one reply for each read.  A store answers from its view when no
read fails, each reply is the one that the view holds, and reading leaves the
view as it is; what the view becomes after a statement is left open.  A
program gives a result from a view when it asks nothing but reads and ends
with a value, and a run against any store with that view ends with it too.
-/

namespace PrivilegeGraph.Store

open Program (Handler Run)

/-- One reply for each call. -/
abbrev View : Type :=
  (call : Call) → call.Reply

namespace View

variable
    (view : View)
    (user host : String)

def getAccount : Option AccountRow :=
  view (.getAccount user host)

def globalGrants : List GlobalGrant :=
  view (.globalGrants user host)

def databaseGrants : List DatabaseGrant :=
  view (.databaseGrants user host)

def tableGrants : List TableGrant :=
  view (.tableGrants user host)

def columnGrants : List ColumnGrant :=
  view (.columnGrants user host)

def proxyGrants : List ProxyGrant :=
  view (.proxyGrants user host)

def roleEdges : List RoleEdge :=
  view (.roleEdges user host)

end View

/-- Whether a store answers its reads from its view and keeps it. -/
def AnswersFrom
    {σ : Type}
    (handler : Handler interface σ)
    (view : σ → View) : Prop :=
  ∀ call, Call.IsRead call → ∀ state,
    (handler call state).1 = .ok (view state call) ∧
      view (handler call state).2 = view state

namespace Memory

/-- A store in memory none of whose calls fail. -/
def openHandler : Handler interface Memory :=
  fun call memory => (.ok (memory.reply call), memory)

theorem answersFrom_openHandler : AnswersFrom openHandler reply :=
  fun _ _ _ => ⟨rfl, rfl⟩

/-- A store in which one account holds something in every scope. -/
def everyScope : Memory where
  hostname := "db"
  version := "8.0.36"
  databases := ["shop"]
  tables := [⟨"shop", "orders"⟩]
  columns := [⟨"shop", "orders", "total"⟩]
  routines := []
  accounts :=
    [⟨"alice", "%", "user", "Select,Create User"⟩,
      ⟨"bob", "localhost", "user", ""⟩, ⟨"dba", "%", "role", ""⟩]
  globalGrants := [⟨"alice", "%", "BACKUP_ADMIN", "Y"⟩]
  databaseGrants := [⟨"alice", "%", "shop", "Insert,Grant"⟩]
  tableGrants := [⟨"alice", "%", "shop", "orders", "Update"⟩]
  columnGrants := [⟨"alice", "%", "shop", "orders", "total", "Select"⟩]
  proxyGrants :=
    [⟨"alice", "%", "", "", false⟩, ⟨"alice", "%", "bob", "localhost", true⟩]
  roleEdges := [⟨"dba", "%", "alice", "%", "Y"⟩]
  closed := fun _ => false

end Memory

variable {σ ε α β ρ : Type}

/-- Whether a program only reads and, answered from a view, ends with a value
that has a property. -/
def Gives
    (view : View)
    (property : α → Prop) :
    Program interface ε α → Prop
  | .done (.ok value) => property value
  | .done (.error _) => False
  | .note _ next => Gives view property next
  | .ask call next =>
      Call.IsRead call ∧ Gives view property (next (.ok (view call)))

namespace Gives

variable {view : View}

theorem weaken
    {property weaker : α → Prop}
    {program : Program interface ε α}
    (gives : Gives view property program)
    (implies : ∀ value, property value → weaker value) :
    Gives view weaker program := by
  induction program with
  | done result =>
      cases result with
      | ok value => exact implies value gives
      | error error => exact gives
  | note event next ih => exact ih gives
  | ask call next ih => exact ⟨gives.1, ih _ gives.2⟩

theorem request
    {call : Call}
    {property : call.Reply → Prop}
    (reads : call.IsRead)
    (holds : property (view call)) :
    Gives view property (Store.request call) :=
  ⟨reads, holds⟩

/-- The rule of sequence. -/
theorem bind
    {property : α → Prop}
    {final : β → Prop}
    {program : Program interface ε α}
    {next : α → Program interface ε β}
    (first : Gives view property program)
    (rest : ∀ value, property value → Gives view final (next value)) :
    Gives view final (program >>= next) := by
  rw [Program.bind_eq]
  induction program with
  | done result =>
      cases result with
      | ok value => exact rest value first
      | error error => exact first.elim
  | note event program ih => exact ih first
  | ask call program ih => exact ⟨first.1, ih _ first.2⟩

theorem mapError
    {δ : Type}
    {property : α → Prop}
    {program : Program interface ε α}
    (change : ε → δ)
    (gives : Gives view property program) :
    Gives view property (program.mapError change) := by
  induction program with
  | done result =>
      cases result with
      | ok value => exact gives
      | error error => exact gives.elim
  | note event next ih => exact ih gives
  | ask call next ih => exact ⟨gives.1, ih _ gives.2⟩

theorem collect
    {property : ρ → α → Prop}
    {action : ρ → Program interface ε α}
    (each : ∀ row, Gives view (property row) (action row))
    (rows : List ρ) :
    Gives view (List.Forall₂ property rows) (Program.collect action rows) := by
  induction rows with
  | nil => exact List.Forall₂.nil
  | cons row rest ih =>
      apply (each row).bind
      intro first firstHolds
      apply ih.bind
      intro others othersHold
      exact List.Forall₂.cons firstHolds othersHold

/-- Against a store that answers from a view, a program ends with what the
view gives and leaves the view as it was. -/
theorem run
    {property : α → Prop}
    {program : Program interface ε α}
    {handler : Handler interface σ}
    {views : σ → View}
    (answers : AnswersFrom handler views)
    (state : σ)
    (gives : Gives (views state) property program) :
    ∃ value,
      (program.run handler state).result = .ok value ∧ property value ∧
        views (program.run handler state).state = views state := by
  induction program generalizing state with
  | done result =>
      cases result with
      | ok value => exact ⟨value, rfl, gives, rfl⟩
      | error error => exact gives.elim
  | note event next ih => exact ih state gives
  | ask call next ih =>
      rcases gives with ⟨reads, continued⟩
      rcases answers call reads state with ⟨answered, kept⟩
      have later :
          Gives (views (handler call state).2) property
            (next (handler call state).1) := by
        rw [answered, kept]
        exact continued
      rcases ih _ _ later with ⟨value, ended, holds, keptLater⟩
      exact ⟨value, ended, holds, keptLater.trans kept⟩

end Gives

end PrivilegeGraph.Store
