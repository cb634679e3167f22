import Mathlib.Data.List.Nodup
import Mathlib.Tactic.MkIffOfInductiveProp
import PrivilegeGraph.Proofs.Identity.Codec
import PrivilegeGraph.Proofs.Store.Roster

/-!
# Orderly listings

The listings of a store are orderly when no row is listed twice, rows belong
to the database or table that they are asked for, and names and hosts can be
told apart in ids.  Accounts are told apart by name and host.  Routines are
told apart by name and type, so two of them may have one name.
-/

namespace PrivilegeGraph.Store

open Identity (IsSegment)

/-- Whether no row is listed twice, rows belong to what is asked for, and
names and hosts can be told apart in ids. -/
structure Inventory.Orderly (inventory : Inventory) : Prop where
  databases :
    inventory.databases.Nodup ∧
      ∀ name ∈ inventory.databases, IsSegment name
  tables :
    ∀ schema,
      (inventory.tables schema).Nodup ∧
        ∀ row ∈ inventory.tables schema,
          row.schema = schema ∧ IsSegment row.name
  columns :
    ∀ schema owner,
      (inventory.columns schema owner).Nodup ∧
        ∀ row ∈ inventory.columns schema owner,
          row.schema = schema ∧ row.owner = owner ∧ IsSegment row.name
  routines :
    ∀ schema,
      (inventory.routines schema).Nodup ∧
        ∀ row ∈ inventory.routines schema,
          row.schema = schema ∧ IsSegment row.name
  accounts :
    ∀ kind,
      (inventory.roster kind false).Nodup ∧
        ∀ account ∈ inventory.roster kind false,
          account.host ≠ "" ∧ '@' ∉ account.host.toList
  collapses :
    ∀ kind,
      Collapses (inventory.roster kind false) (inventory.roster kind true)

namespace Inventory.Orderly

variable
    {inventory : Inventory}
    (orderly : inventory.Orderly)

include orderly

/-- No account is listed twice, collapsed or not. -/
theorem nodup_roster
    (kind : AccountKind)
    (collapse : Bool) :
    (inventory.roster kind collapse).Nodup := by
  cases collapse with
  | false => exact (orderly.accounts kind).1
  | true => exact (orderly.collapses kind).distinct.of_map Account.name

/-- Every listed account can be read back from its id, collapsed or not. -/
theorem readable
    {kind : AccountKind}
    {collapse : Bool}
    {account : Account}
    (listed : account ∈ inventory.roster kind collapse) :
    account.host ≠ "" ∧ '@' ∉ account.host.toList := by
  cases collapse with
  | false => exact (orderly.accounts kind).2 account listed
  | true =>
      exact (orderly.collapses kind).readable (orderly.accounts kind).2 listed

end Inventory.Orderly

/-! ## Stores in memory -/

/-- Whether the tables of a store in memory hold no duplicate rows, and names
and hosts that can be told apart in ids. -/
@[mk_iff]
structure Memory.Tidy (memory : Memory) : Prop where
  databases : memory.databases.Nodup
  databaseNames : ∀ name ∈ memory.databases, IsSegment name
  tables : memory.tables.Nodup
  tableNames : ∀ row ∈ memory.tables, IsSegment row.name
  columns : memory.columns.Nodup
  columnNames : ∀ row ∈ memory.columns, IsSegment row.name
  routines : memory.routines.Nodup
  routineNames : ∀ row ∈ memory.routines, IsSegment row.name
  accounts : (memory.accounts.map AccountRow.identity).Nodup
  hosts : ∀ row ∈ memory.accounts, row.host ≠ "" ∧ '@' ∉ row.host.toList

instance (memory : Memory) : Decidable memory.Tidy :=
  decidable_of_iff _ (Memory.tidy_iff memory).symm

namespace Memory.Tidy

variable
    {memory : Memory}
    (tidy : memory.Tidy)

include tidy

/-- Accounts of one sort are told apart by name and host. -/
theorem nodup_accountsOf (kind : AccountKind) :
    ((memory.accountsOf kind).map AccountRow.account).Nodup := by
  have sort : ((memory.accountsOf kind).map AccountRow.identity).Nodup :=
    tidy.accounts.sublist (List.filter_sublist.map _)
  have same :
      (memory.accountsOf kind).map AccountRow.identity =
        ((memory.accountsOf kind).map AccountRow.account).map
          kind.identity := by
    rw [List.map_map]
    apply List.map_congr_left
    intro row listed
    have ofSort : row.accountKind = kind :=
      of_decide_eq_true (List.mem_filter.1 listed).2
    rw [AccountRow.identity, ofSort]
    rfl
  rw [same] at sort
  exact sort.of_map kind.identity

theorem orderly : memory.inventory.Orderly where
  databases := ⟨tidy.databases, tidy.databaseNames⟩
  tables schema := by
    refine ⟨tidy.tables.filter _, ?_⟩
    intro row listed
    rcases List.mem_filter.1 listed with ⟨stored, belongs⟩
    exact ⟨of_decide_eq_true belongs, tidy.tableNames row stored⟩
  columns schema owner := by
    refine ⟨tidy.columns.filter _, ?_⟩
    intro row listed
    rcases List.mem_filter.1 listed with ⟨stored, belongs⟩
    simp only [Bool.and_eq_true, decide_eq_true_eq] at belongs
    exact ⟨belongs.1, belongs.2, tidy.columnNames row stored⟩
  routines schema := by
    refine ⟨tidy.routines.filter _, ?_⟩
    intro row listed
    rcases List.mem_filter.1 listed with ⟨stored, belongs⟩
    exact ⟨of_decide_eq_true belongs, tidy.routineNames row stored⟩
  accounts kind := by
    refine ⟨tidy.nodup_accountsOf kind, ?_⟩
    intro account listed
    rcases List.mem_map.1 listed with ⟨row, stored, rfl⟩
    exact tidy.hosts row (List.mem_of_mem_filter stored)
  collapses kind := collapses_collapsed kind (memory.accountsOf kind)

end Memory.Tidy

end PrivilegeGraph.Store
