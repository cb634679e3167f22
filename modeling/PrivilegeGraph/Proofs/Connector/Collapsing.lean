import PrivilegeGraph.Proofs.Connector.Accounts
import PrivilegeGraph.Proofs.Reconciliation.Facts

/-!
# Collapsed accounts

A connector that collapses accounts lists one resource for each name, and the
grants of that resource say together what the grants of the single accounts
behind it say.  Two tables or two columns with dots in their names can have
the same id, and then the same is said twice; nothing else is.
-/

namespace PrivilegeGraph.Connector

open Program (Handler)
open Store (AccountKind AnswersFrom Inventory View)

/-- Whether grants to a principal say exactly what some lists of grants say,
and each of it once as far as ids of resources are undotted. -/
structure Merges
    (principal : ResourceId)
    (part : List Grant → Prop)
    (grants : List Grant) : Prop where
  carries :
    ∀ grant ∈ grants,
      grant = Grant.make grant.entitlementId grant.resource principal
  union :
    ∀ fact,
      fact ∈ grants.map Grant.fact ↔
        ∃ others, part others ∧ fact ∈ others.map Grant.fact
  once :
    ∀ fact ∈ grants.map Grant.fact,
      fact.2.Undotted → (grants.map Grant.fact).count fact = 1

/-- Whether asking for the grants of some single account with a name ends with
the given ones. -/
def HasGrantsUnder
    {σ : Type}
    (handler : Handler Store.interface σ)
    (state : σ)
    (connector : Connector)
    (inventory : Inventory)
    (kind : AccountKind)
    (name : String)
    (grants : List Grant) : Prop :=
  ∃ single ∈ inventory.roster kind false,
    single.name = name ∧
      HasGrants handler state connector kind single grants

section

variable
    {σ : Type}
    {handler : Handler Store.interface σ}
    {views : σ → View}
    (answers : AnswersFrom handler views)
    {state : σ}
    {inventory : Inventory}
    (agrees : (views state).Agrees inventory)
    {connector : Connector}

include answers agrees

/-- The grants of a collapsed account merge those of the single accounts. -/
theorem exists_merged_grants
    {kind : AccountKind}
    {account : Account}
    (collapsed : account ∈ inventory.roster kind true) :
    ∃ grants,
      HasGrants handler state connector kind account grants ∧
        Merges (kind.identity account).resourceId
          (HasGrantsUnder handler state connector inventory kind account.name)
          grants := by
  rcases exists_grants answers agrees connector collapsed with
    ⟨grants, ended, held⟩
  refine ⟨grants, ended, ?_, ?_, ?_⟩
  · rcases held with ⟨rights, rfl, _, _⟩
    intro grant member
    rcases List.mem_map.1 member with ⟨right, _, rfl⟩
    rfl
  · intro fact
    rw [held.mem_facts_iff]
    constructor
    · rintro ⟨right, ofCollapsed, rfl⟩
      rcases
          (Reconciliation.held_collapsed_iff agrees collapsed).1
            ofCollapsed with
        ⟨single, among, named, ofSingle⟩
      rcases exists_grants answers agrees connector among with
        ⟨others, endedOthers, heldOthers⟩
      exact
        ⟨others, ⟨single, among, named, endedOthers⟩,
          heldOthers.mem_facts_iff.2 ⟨right, ofSingle, rfl⟩⟩
    · rintro ⟨others, ⟨single, among, named, endedOthers⟩, said⟩
      have heldOthers :=
        areHeld_of_hasGrants answers agrees connector among endedOthers
      rcases heldOthers.mem_facts_iff.1 said with ⟨right, ofSingle, rfl⟩
      refine ⟨right, ?_, rfl⟩
      exact
        (Reconciliation.held_collapsed_iff agrees collapsed).2
          ⟨single, among, named, ofSingle⟩
  · intro fact said undotted
    exact held.count_fact agrees rfl said undotted

/-- With collapsing on, paging through the accounts of one sort yields one
resource for each name that has an account of that sort.  The grants of each
resource can be read, and they merge the grants of the single accounts of that
sort and name, which can be read as well. -/
theorem collapsing_merges
    (collapse : connector.settings.collapseUsers = true)
    (kind : AccountKind)
    {parent : Option ResourceId}
    (own : ∀ id ∈ parent, id = connector.serverIdentity.resourceId) :
    ∃ accounts : List Account,
      Yields handler state connector kind.kind parent
          (accounts.map (connector.accountResource kind)) ∧
        (accounts.map Account.name).Nodup ∧
        (∀ name,
          name ∈ accounts.map Account.name ↔
            name ∈ (inventory.roster kind false).map Account.name) ∧
        (∀ single ∈ inventory.roster kind false,
          ∃ others, HasGrants handler state connector kind single others) ∧
        ∀ account ∈ accounts, ∃ grants,
          HasGrants handler state connector kind account grants ∧
            Merges (kind.identity account).resourceId
              (HasGrantsUnder handler state connector inventory kind
                account.name)
              grants := by
  have collapses := agrees.collapses kind
  have yields := yields_roster answers agrees connector kind own
  rw [accountsShown, collapse] at yields
  refine ⟨_, yields, collapses.distinct, collapses.names, ?_, ?_⟩
  · intro single among
    rcases exists_grants answers agrees connector among with
      ⟨others, ended, _⟩
    exact ⟨others, ended⟩
  · intro account collapsed
    exact exists_merged_grants answers agrees collapsed

end

/-! ## A store with dotted names -/

/-- A connector that collapses accounts. -/
def collapsing : Connector :=
  ⟨{ collapseUsers := true }, .modern, ⟨"db", "8.0.36"⟩⟩

/-- A store in which one name has accounts on two hosts, and each of them may
read a table of its own.  The ids of the two tables are the same. -/
def dottedTables : Store.Memory :=
  { Store.Memory.ofAccounts
      [⟨"alice", "%", "user", ""⟩, ⟨"alice", "localhost", "user", ""⟩] with
    tableGrants :=
      [⟨"alice", "%", "a.b", "c", "Select"⟩,
        ⟨"alice", "localhost", "a", "b.c", "Select"⟩] }

theorem agrees_dottedTables :
    View.Agrees dottedTables.reply dottedTables.inventory :=
  Store.Memory.agrees_reply (by decide) (by decide)

theorem collapsing_merges_dottedTables :
    View.Agrees dottedTables.reply dottedTables.inventory ∧
      collapsing.settings.collapseUsers = true ∧
      ∃ account : Account,
        account.name = "alice" ∧
          ∃ grants,
            HasGrants Store.Memory.openHandler dottedTables collapsing .user
                account grants ∧
              Merges (Identity.user account).resourceId
                (HasGrantsUnder Store.Memory.openHandler dottedTables
                  collapsing dottedTables.inventory .user account.name)
                grants := by
  have own :
      ∀ id ∈ (none : Option ResourceId),
        id = collapsing.serverIdentity.resourceId := by
    rintro id ⟨⟩
  rcases
      collapsing_merges Store.Memory.answersFrom_openHandler
        agrees_dottedTables rfl .user own with
    ⟨accounts, _, _, names, _, merged⟩
  have named : "alice" ∈ accounts.map Account.name :=
    (names "alice").2 (by decide)
  rcases List.mem_map.1 named with ⟨account, listed, name⟩
  exact ⟨agrees_dottedTables, rfl, account, name, merged account listed⟩

/-- Where two tables share an id, a collapsed account says twice that it may
read a table with that id. -/
theorem dotted_fact_repeated :
    ∃ grants,
      HasGrants Store.Memory.openHandler dottedTables collapsing .user
          ⟨"alice", "%,localhost"⟩ grants ∧
        ∃ fact ∈ grants.map Grant.fact,
          (grants.map Grant.fact).count fact = 2 := by
  let table : Identity := .table "a" "b.c"
  let grant : Grant :=
    Grant.ofRight ⟨"select", table⟩ (.user ⟨"alice", "%,localhost"⟩)
  refine ⟨[grant, grant], ?_, grant.fact, List.mem_cons_self, ?_⟩
  · unfold HasGrants
    decide +kernel
  · decide +kernel

end PrivilegeGraph.Connector
