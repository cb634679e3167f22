import PrivilegeGraph.Proofs.Program.Contract
import PrivilegeGraph.Proofs.Store.View

/-!
# Whole listings of a store

An inventory holds the listings of a store whole.  The contract of an inventory
expects questions for listings only, and allows one answer to each: the rows
that the asked window cuts out of the whole listing, after the databases that
are left out are taken away.  A store keeps it as long as its listings do not
change.
-/

namespace PrivilegeGraph.Store

open Program (Contract)

/-- Every listing of a store, from its first row to its last. -/
structure Inventory where
  databases : List String
  tables : (schema : String) → List TableRow
  columns : (schema owner : String) → List ColumnRow
  routines : (schema : String) → List RoutineRow
  accounts : (kind : AccountKind) → (collapse : Bool) → List AccountRow

namespace Inventory

/-- The databases without those that are left out. -/
def databasesBut
    (inventory : Inventory)
    (skipped : List String) : List String :=
  inventory.databases.filter fun name => !skipped.contains name

/-- The rows that a question for a listing is answered with. -/
def reply? (inventory : Inventory) : (call : Call) → Option call.Reply
  | .listDatabases skipped window =>
      some (window.select (inventory.databasesBut skipped))
  | .listTables schema window =>
      some (window.select (inventory.tables schema))
  | .listColumns schema owner window =>
      some (window.select (inventory.columns schema owner))
  | .listRoutines schema window =>
      some (window.select (inventory.routines schema))
  | .listAccounts kind collapse window =>
      some (window.select (inventory.accounts kind collapse))
  | _ => none

/-- What a store with these listings answers. -/
def contract (inventory : Inventory) : Contract interface where
  expects call := (inventory.reply? call).isSome = true
  allows call answer :=
    ∀ reply, inventory.reply? call = some reply → answer = .ok reply

/-- Whether the rows of every listing can be counted in 64 bits. -/
structure Countable (inventory : Inventory) : Prop where
  databases : inventory.databases.length ≤ 1 <<< 64
  tables : ∀ schema, (inventory.tables schema).length ≤ 1 <<< 64
  columns : ∀ schema owner, (inventory.columns schema owner).length ≤ 1 <<< 64
  routines : ∀ schema, (inventory.routines schema).length ≤ 1 <<< 64
  accounts :
    ∀ kind collapse, (inventory.accounts kind collapse).length ≤ 1 <<< 64

theorem assured_request
    {inventory : Inventory}
    {call : Call}
    {reply : call.Reply}
    (listed : inventory.reply? call = some reply) :
    (request call).Assured inventory.contract (· = .ok reply) := by
  refine ⟨?_, ?_⟩
  · exact Option.isSome_iff_exists.2 ⟨reply, listed⟩
  · intro answer allowed
    rw [allowed reply listed]
    exact rfl

end Inventory

namespace Memory

/-- The listings of a store in memory. -/
def inventory (memory : Memory) : Inventory where
  databases := memory.databases
  tables schema := memory.tables.filter (·.schema = schema)
  columns schema owner :=
    memory.columns.filter fun row => row.schema = schema && row.owner = owner
  routines schema := memory.routines.filter (·.schema = schema)
  accounts kind collapse :=
    if collapse then collapsed kind (memory.accountsOf kind)
    else memory.accountsOf kind

theorem reply_of_inventory
    {memory : Memory}
    {call : Call}
    {rows : call.Reply}
    (listed : memory.inventory.reply? call = some rows) :
    memory.reply call = rows := by
  cases call with
  | listDatabases skipped window => exact Option.some.inj listed
  | listTables schema window => exact Option.some.inj listed
  | listColumns schema owner window => exact Option.some.inj listed
  | listRoutines schema window => exact Option.some.inj listed
  | listAccounts kind collapse window => exact Option.some.inj listed
  | _ => cases listed

/-- A store in memory keeps the contract of its own listings. -/
theorem inventory_keptBy_openHandler (memory : Memory) :
    memory.inventory.contract.KeptBy openHandler (· = memory) := by
  rintro call expected _ rfl
  refine ⟨?_, rfl⟩
  intro reply listed
  exact congrArg Except.ok (reply_of_inventory listed)

theorem length_collapsed_le
    (kind : AccountKind)
    (rows : List AccountRow) :
    (collapsed kind rows).length ≤ rows.length := by
  simpa [collapsed] using Sorted.length_ofList_le (rows.map AccountRow.user)

theorem length_accounts_le
    {memory : Memory}
    (few : memory.accounts.length ≤ 1 <<< 64)
    (kind : AccountKind)
    (collapse : Bool) :
    (memory.inventory.accounts kind collapse).length ≤ 1 <<< 64 := by
  have sort : (memory.accountsOf kind).length ≤ 1 <<< 64 :=
    Nat.le_trans (List.length_filter_le _ _) few
  cases collapse with
  | false => exact sort
  | true => exact Nat.le_trans (length_collapsed_le kind _) sort

/-- The listings of a store in memory are no longer than its tables. -/
theorem countable_inventory
    {memory : Memory}
    (databases : memory.databases.length ≤ 1 <<< 64)
    (tables : memory.tables.length ≤ 1 <<< 64)
    (columns : memory.columns.length ≤ 1 <<< 64)
    (routines : memory.routines.length ≤ 1 <<< 64)
    (accounts : memory.accounts.length ≤ 1 <<< 64) :
    memory.inventory.Countable where
  databases := databases
  tables _ := Nat.le_trans (List.length_filter_le _ _) tables
  columns _ _ := Nat.le_trans (List.length_filter_le _ _) columns
  routines _ := Nat.le_trans (List.length_filter_le _ _) routines
  accounts := length_accounts_le accounts

end Memory

end PrivilegeGraph.Store
