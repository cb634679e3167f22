import Mathlib.Data.String.Basic
import PrivilegeGraph.Proofs.Reconciliation.Exactness

/-!
# The order of grants

The grants of a principal come in the strict order of their rights: by
privilege first and then by resource, where a resource is placed by its kind
and then by its parts, all by code point.  A strictly rising list is determined
by its members, and the members are what the grant tables say.  So neither the
order in which a store returns its rows, nor that it returns one of them more
than once, nor how the hosts of the principal are arranged can be seen in the
result.
-/

namespace PrivilegeGraph

/-! ## The order, written out -/

namespace Identity

/-- Whether a resource comes before another. -/
def Precedes (first second : Identity) : Prop :=
  first.kind.rank < second.kind.rank ∨
    first.kind = second.kind ∧ first.parts < second.parts

theorem compare_parts_eq_lt_iff
    {first second : List String} :
    compare first second = .lt ↔ first < second := by
  induction first generalizing second with
  | nil =>
      cases second with
      | nil => decide
      | cons part rest => simp [compare, List.compareLex_nil_cons]
  | cons part rest ih =>
      cases second with
      | nil => simp [compare, List.compareLex_cons_nil]
      | cons other others =>
          have unfolded :
              compare (part :: rest) (other :: others) =
                (compare part other).then (compare rest others) :=
            List.compareLex_cons_cons
          rw [unfolded, Ordering.then_eq_lt, List.cons_lt_cons_iff, ih,
            compare_lt_iff_lt, compare_eq_iff_eq]

theorem compare_eq_lt_iff
    {first second : Identity} :
    compare first second = .lt ↔ first.Precedes second := by
  have unfolded :
      compare first second =
        (compare first.kind.rank second.kind.rank).then
          (compare first.parts second.parts) :=
    rfl
  have sameRank :
      first.kind.rank = second.kind.rank ↔ first.kind = second.kind :=
    ⟨Kind.rank_injective, congrArg Kind.rank⟩
  rw [unfolded, Ordering.then_eq_lt, Nat.compare_eq_lt, Nat.compare_eq_eq,
    compare_parts_eq_lt_iff, sameRank, Precedes]

end Identity

namespace Right

/-- Whether a right comes before another. -/
def Precedes (first second : Right) : Prop :=
  first.privilege < second.privilege ∨
    first.privilege = second.privilege ∧
      first.resource.Precedes second.resource

theorem compare_eq_lt_iff
    {first second : Right} :
    compare first second = .lt ↔ first.Precedes second := by
  have unfolded :
      compare first second =
        (compare first.privilege second.privilege).then
          (compare first.resource second.resource) :=
    rfl
  rw [unfolded, Ordering.then_eq_lt, compare_lt_iff_lt, compare_eq_iff_eq,
    Identity.compare_eq_lt_iff, Precedes]

end Right

/-- A strictly rising list is determined by its members. -/
theorem Sorted.Rising.eq_of_mem_iff
    {α : Type}
    [Ord α]
    [Std.TransOrd α]
    {first second : List α}
    (rising : Rising first)
    (rising' : Rising second)
    (same : ∀ value, value ∈ first ↔ value ∈ second) :
    first = second := by
  apply List.Perm.eq_of_pairwise _ rising rising'
  · exact
      (List.perm_ext_iff_of_nodup rising.nodup rising'.nodup).2 same
  · intro one other _ _ below above
    exact absurd above (Std.OrientedCmp.not_lt_of_lt below)

namespace Reconciliation

open Program (Handler)
open Store (AccountKind AnswersFrom Gives View)

/-! ## Views that say the same -/

/-- Whether two views find the same accounts and hold the same rows of grant
tables, in whatever order and however often. -/
structure SaysSame (view view' : View) : Prop where
  getAccount :
    ∀ user host, view.getAccount user host = view'.getAccount user host
  globalGrants :
    ∀ user host row,
      row ∈ view.globalGrants user host ↔ row ∈ view'.globalGrants user host
  databaseGrants :
    ∀ user host row,
      row ∈ view.databaseGrants user host ↔
        row ∈ view'.databaseGrants user host
  tableGrants :
    ∀ user host row,
      row ∈ view.tableGrants user host ↔ row ∈ view'.tableGrants user host
  columnGrants :
    ∀ user host row,
      row ∈ view.columnGrants user host ↔ row ∈ view'.columnGrants user host
  proxyGrants :
    ∀ user host row,
      row ∈ view.proxyGrants user host ↔ row ∈ view'.proxyGrants user host
  roleEdges :
    ∀ user host edge,
      edge ∈ view.roleEdges user host ↔ edge ∈ view'.roleEdges user host

section

variable
    {view view' : View}
    {reconciliation : Reconciliation}
    {account account' : Account}

theorem SaysSame.holds_iff
    (same : SaysSame view view')
    (right : Right) :
    Holds view reconciliation account right ↔
      Holds view' reconciliation account right := by
  simp only [Holds, OnServer, OnDatabases, OnTables, OnColumns, AsProxy,
    InRoles, same.getAccount, same.globalGrants, same.databaseGrants,
    same.tableGrants, same.columnGrants, same.proxyGrants, same.roleEdges]

theorem mem_expanded_congr
    (name : account.name = account'.name)
    (hosts : ∀ host, host ∈ account.hosts ↔ host ∈ account'.hosts)
    (single : Account) :
    single ∈ account.expanded ↔ single ∈ account'.expanded := by
  simp only [Account.expanded, List.mem_map, hosts, name]

theorem SaysSame.held_iff
    (same : SaysSame view view')
    (name : account.name = account'.name)
    (hosts : ∀ host, host ∈ account.hosts ↔ host ∈ account'.hosts)
    (right : Right) :
    Held view reconciliation account right ↔
      Held view' reconciliation account' right := by
  simp only [Held, mem_expanded_congr name hosts, same.holds_iff]

end

/-! ## Grants in order -/

/-- The rights behind the grants of a principal rise strictly, and they depend
only on which rows the grant tables hold and on which hosts the principal
stands for. -/
theorem grantsHeldBy_canonical
    {σ σ' : Type}
    {handler : Handler Store.interface σ}
    {handler' : Handler Store.interface σ'}
    {views : σ → View}
    {views' : σ' → View}
    (answers : AnswersFrom handler views)
    (answers' : AnswersFrom handler' views')
    {state : σ}
    {state' : σ'}
    (same : SaysSame (views state) (views' state'))
    (reconciliation : Reconciliation)
    (kind kind' : AccountKind)
    {account account' : Account}
    (name : account.name = account'.name)
    (hosts : ∀ host, host ∈ account.hosts ↔ host ∈ account'.hosts) :
    ∃ rights : List Right,
      rights.Pairwise Right.Precedes ∧
        rights.Nodup ∧
        ((reconciliation.grantsHeldBy (kind.identity account)).run handler
              state).result =
            .ok (rights.map fun right =>
              Grant.ofRight right (kind.identity account)) ∧
          ((reconciliation.grantsHeldBy (kind'.identity account')).run handler'
                state').result =
              .ok (rights.map fun right =>
                Grant.ofRight right (kind'.identity account')) := by
  rcases
    Gives.run answers state
      (gives_areHeldInOrder (AccountKind.account?_identity kind account)) with
    ⟨_, ended, ⟨rights, rfl, rising, exactly⟩, _⟩
  rcases
    Gives.run answers' state'
      (gives_areHeldInOrder
        (AccountKind.account?_identity kind' account')) with
    ⟨_, ended', ⟨rights', rfl, rising', exactly'⟩, _⟩
  have agree : rights = rights' := by
    apply rising.eq_of_mem_iff rising'
    intro right
    calc
      right ∈ rights ↔ Held (views state) reconciliation account right :=
        exactly right
      _ ↔ Held (views' state') reconciliation account' right :=
        same.held_iff name hosts right
      _ ↔ right ∈ rights' := (exactly' right).symm
  subst agree
  refine ⟨rights, ?_, rising.nodup, ended, ended'⟩
  exact rising.imp Right.compare_eq_lt_iff.1

/-! ## A store whose rows are arranged differently -/

theorem mem_filter_congr
    {ρ : Type}
    {rows rows' : List ρ}
    (same : ∀ row, row ∈ rows ↔ row ∈ rows')
    (wanted : ρ → Bool)
    (row : ρ) :
    row ∈ rows.filter wanted ↔ row ∈ rows'.filter wanted := by
  rw [List.mem_filter, List.mem_filter, same]

/-- A store with its accounts and table rows repeated and its proxy rows turned
around. -/
def rearranged (memory : Store.Memory) : Store.Memory :=
  { memory with
    accounts := memory.accounts ++ memory.accounts
    tableGrants := memory.tableGrants ++ memory.tableGrants
    proxyGrants := memory.proxyGrants.reverse }

theorem saysSame_rearranged (memory : Store.Memory) :
    SaysSame memory.reply (rearranged memory).reply where
  getAccount user host := by
    show List.find? _ _ = List.find? _ (_ ++ _)
    rw [List.find?_append, Option.or_self]
  globalGrants _ _ := mem_filter_congr (fun _ => Iff.rfl) _
  databaseGrants _ _ := mem_filter_congr (fun _ => Iff.rfl) _
  tableGrants _ _ := by
    apply mem_filter_congr
    intro row
    rw [rearranged, List.mem_append, or_self]
  columnGrants _ _ := mem_filter_congr (fun _ => Iff.rfl) _
  proxyGrants _ _ := by
    apply mem_filter_congr
    intro row
    exact List.mem_reverse.symm
  roleEdges _ _ := mem_filter_congr (fun _ => Iff.rfl) _

theorem grantsHeldBy_canonical_rearranged :
    let memory := Store.Memory.everyScope
    let reconciliation : Reconciliation := ⟨{}, .modern, .server "db"⟩
    SaysSame memory.reply (rearranged memory).reply ∧
      ∃ rights : List Right,
        rights.Pairwise Right.Precedes ∧
          rights.Nodup ∧
          ((reconciliation.grantsHeldBy (.user ⟨"alice", "%, localhost"⟩)).run
                Store.Memory.openHandler memory).result =
              .ok (rights.map fun right =>
                Grant.ofRight right (.user ⟨"alice", "%, localhost"⟩)) ∧
            ((reconciliation.grantsHeldBy
                    (.user ⟨"alice", "localhost,%,%"⟩)).run
                  Store.Memory.openHandler (rearranged memory)).result =
                .ok (rights.map fun right =>
                  Grant.ofRight right (.user ⟨"alice", "localhost,%,%"⟩)) := by
  intro memory reconciliation
  have hosts :
      ∀ host,
        host ∈ Account.hosts ⟨"alice", "%, localhost"⟩ ↔
          host ∈ Account.hosts ⟨"alice", "localhost,%,%"⟩ := by
    have first : Account.hosts ⟨"alice", "%, localhost"⟩ = ["%", "localhost"] :=
      by decide +kernel
    have second :
        Account.hosts ⟨"alice", "localhost,%,%"⟩ = ["localhost", "%", "%"] :=
      by decide +kernel
    intro host
    simp only [first, second, List.mem_cons, List.not_mem_nil, or_false]
    tauto
  exact
    ⟨saysSame_rearranged memory,
      grantsHeldBy_canonical Store.Memory.answersFrom_openHandler
        Store.Memory.answersFrom_openHandler (saysSame_rearranged memory)
        reconciliation .user .user rfl hosts⟩

end Reconciliation

end PrivilegeGraph
