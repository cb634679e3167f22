import PrivilegeGraph.Proofs.Account.Hosts
import PrivilegeGraph.Proofs.Store.Inventory

/-!
# Accounts that a store lists

A store lists the accounts of one sort one by one or collapsed.  A view agrees
with an inventory when the listings are those of the inventory, the collapsed
ones have one account for each name with its hosts between commas, the hosts
are plain, and whatever account is found is one of those that are listed.
Every store in memory whose hosts are plain agrees with its own tables.
-/

namespace PrivilegeGraph.Store

open Program (Handler)

/-- Whether a listing has one account for each name of other accounts, which
lists their hosts in some order. -/
structure Collapses
    (accounts collapsed : List Account) : Prop where
  distinct : (collapsed.map Account.name).Nodup
  names :
    ∀ name,
      name ∈ collapsed.map Account.name ↔ name ∈ accounts.map Account.name
  hosts :
    ∀ account ∈ collapsed, ∃ hosts : List String,
      account.host = Text.joined ',' hosts ∧
        hosts.Perm
          ((accounts.filter (·.name = account.name)).map Account.host)

/-- The accounts of one sort as they are listed. -/
def Inventory.roster
    (inventory : Inventory)
    (kind : AccountKind)
    (collapse : Bool) : List Account :=
  (inventory.accounts kind collapse).map AccountRow.account

/-- Whether what is read of accounts agrees with how they are listed. -/
structure View.Agrees
    (view : View)
    (inventory : Inventory) : Prop where
  lists :
    ∀ call reply, inventory.reply? call = some reply → view call = reply
  finds :
    ∀ user host row,
      view.getAccount user host = some row →
        row.account ∈ inventory.roster row.accountKind false
  collapses :
    ∀ kind,
      Collapses (inventory.roster kind false) (inventory.roster kind true)
  plain :
    ∀ kind, ∀ account ∈ inventory.roster kind false,
      IsPlainHost account.host
  countable :
    ∀ kind collapse, (inventory.roster kind collapse).length ≤ 1 <<< 64

/-- The hosts of the accounts with a name. -/
theorem mem_hosts_iff
    {accounts : List Account}
    {name host : String} :
    host ∈ (accounts.filter (·.name = name)).map Account.host ↔
      ⟨name, host⟩ ∈ accounts := by
  simp only [List.mem_map, List.mem_filter, decide_eq_true_eq]
  constructor
  · rintro ⟨account, ⟨within, rfl⟩, rfl⟩
    exact within
  · intro within
    exact ⟨_, ⟨within, rfl⟩, rfl⟩

namespace Collapses

variable
    {accounts collapsed : List Account}
    (collapses : Collapses accounts collapsed)

include collapses

/-- A collapsed account lists the hosts of the accounts with its name, which
are some. -/
theorem exists_hosts
    {account : Account}
    (member : account ∈ collapsed) :
    ∃ hosts : List String,
      account.host = Text.joined ',' hosts ∧
        hosts ≠ [] ∧
        hosts.Perm
          ((accounts.filter (·.name = account.name)).map Account.host) ∧
        ∀ host, host ∈ hosts ↔ ⟨account.name, host⟩ ∈ accounts := by
  rcases collapses.hosts account member with ⟨hosts, listed, same⟩
  have among : ∀ host, host ∈ hosts ↔ ⟨account.name, host⟩ ∈ accounts :=
    fun host => same.mem_iff.trans mem_hosts_iff
  refine ⟨hosts, listed, ?_, same, among⟩
  have named : account.name ∈ accounts.map Account.name :=
    (collapses.names _).1 (List.mem_map_of_mem member)
  rcases List.mem_map.1 named with ⟨⟨name, host⟩, within, rfl⟩
  exact List.ne_nil_of_mem ((among host).2 within)

/-- Where every account can be read back from its id, so can every collapsed
one. -/
theorem readable
    (each :
      ∀ account ∈ accounts, account.host ≠ "" ∧ '@' ∉ account.host.toList)
    {account : Account}
    (member : account ∈ collapsed) :
    account.host ≠ "" ∧ '@' ∉ account.host.toList := by
  rcases collapses.exists_hosts member with ⟨hosts, listed, present, _, among⟩
  rw [listed]
  apply Account.readable_joined_hosts present
  intro host within
  exact each _ ((among host).1 within)

section

variable (plain : ∀ account ∈ accounts, IsPlainHost account.host)

include plain

/-- A collapsed account stands for the accounts with its name. -/
theorem mem_expanded_iff
    {account single : Account}
    (member : account ∈ collapsed) :
    single ∈ account.expanded ↔
      single ∈ accounts ∧ single.name = account.name := by
  rcases collapses.exists_hosts member with ⟨hosts, listed, present, _, among⟩
  have plainHosts : ∀ host ∈ hosts, IsPlainHost host :=
    fun host within => plain _ ((among host).1 within)
  have hostsOf : account.hosts = hosts := by
    rw [Account.hosts, listed]
    exact Account.entries_joined_hosts present plainHosts
  rcases single with ⟨name, host⟩
  simp only [Account.expanded, hostsOf, List.mem_map, Account.mk.injEq,
    among]
  constructor
  · rintro ⟨_, within, rfl, rfl⟩
    exact ⟨within, rfl⟩
  · rintro ⟨within, rfl⟩
    exact ⟨host, within, rfl, rfl⟩

/-- An account on one plain host is itself among the collapsed ones exactly if
it is the one account with its name. -/
theorem mem_collapsed_iff
    {single : Account}
    (plainHost : IsPlainHost single.host) :
    single ∈ collapsed ↔
      accounts.filter (·.name = single.name) = [single] := by
  constructor
  · intro member
    rcases collapses.exists_hosts member with
      ⟨hosts, listed, present, same, among⟩
    have plainHosts : ∀ host ∈ hosts, IsPlainHost host :=
      fun host within => plain _ ((among host).1 within)
    -- A plain host holds no comma, so it is joined from one host alone.
    have alone : hosts = [single.host] := by
      have cut :=
        Text.pieces_joined ',' hosts
          (fun host among => (plainHosts host among).noComma) present
      rw [← cut, ← listed]
      exact Text.pieces_singleton plainHost.noComma
    rw [alone, List.singleton_perm] at same
    rcases List.map_eq_singleton_iff.1 same.symm with ⟨account, only, host⟩
    have among : account ∈ accounts.filter (·.name = single.name) := by
      rw [only]
      exact List.mem_singleton_self account
    have name : account.name = single.name := by
      simpa using (List.mem_filter.1 among).2
    have itself : account = single := by
      cases account
      cases single
      cases name
      cases host
      rfl
    rw [only, itself]
  · intro only
    have among : single ∈ accounts.filter (·.name = single.name) := by
      rw [only]
      exact List.mem_singleton_self single
    have named : single.name ∈ collapsed.map Account.name :=
      (collapses.names _).2
        (List.mem_map_of_mem (List.mem_of_mem_filter among))
    rcases List.mem_map.1 named with ⟨⟨name, host⟩, member, rfl⟩
    rcases collapses.hosts _ member with ⟨hosts, listed, same⟩
    rw [only, List.map_singleton, List.perm_singleton] at same
    rw [same, Text.joined_singleton] at listed
    cases listed
    exact member

end

end Collapses

namespace View.Agrees

variable
    {view : View}
    {inventory : Inventory}
    (agrees : view.Agrees inventory)

include agrees

/-- A store that answers from a view keeps the contract of the listings that
the view agrees with. -/
theorem keptBy
    {σ : Type}
    {handler : Handler interface σ}
    {views : σ → View}
    (answers : AnswersFrom handler views) :
    inventory.contract.KeptBy handler (views · = view) := by
  intro call expected state same
  rcases Option.isSome_iff_exists.1 expected with ⟨reply, listed⟩
  have reads : call.IsRead := by
    cases call with
    | execute statement => cases listed
    | _ => rfl
  rcases answers call reads state with ⟨answered, kept⟩
  refine ⟨?_, kept.trans same⟩
  intro other listed'
  rw [answered, same, agrees.lists call other listed']

/-- The host field of a listed account can be read back from an id. -/
theorem readable
    {kind : AccountKind}
    {collapse : Bool}
    {account : Account}
    (member : account ∈ inventory.roster kind collapse) :
    account.host ≠ "" ∧ '@' ∉ account.host.toList := by
  have each :
      ∀ account ∈ inventory.roster kind false,
        account.host ≠ "" ∧ '@' ∉ account.host.toList := by
    intro account listed
    have plain := agrees.plain kind account listed
    exact ⟨plain.present, plain.noAt⟩
  cases collapse with
  | false => exact each account member
  | true => exact (agrees.collapses kind).readable each member

/-- An account that is listed by itself stands behind a listed one however
accounts are listed. -/
theorem exists_expanding
    {kind : AccountKind}
    {single : Account}
    (member : single ∈ inventory.roster kind false)
    (collapse : Bool) :
    ∃ account ∈ inventory.roster kind collapse,
      single ∈ account.expanded := by
  cases collapse with
  | false =>
      refine ⟨single, member, ?_⟩
      rw [Account.expanded_of_isPlainHost (agrees.plain kind single member)]
      exact List.mem_singleton_self single
  | true =>
      have named :=
        ((agrees.collapses kind).names single.name).2
          (List.mem_map_of_mem member)
      rcases List.mem_map.1 named with ⟨account, collapsed, name⟩
      refine ⟨account, collapsed, ?_⟩
      exact
        ((agrees.collapses kind).mem_expanded_iff (agrees.plain kind)
            collapsed).2
          ⟨member, name.symm⟩

/-- An account that is listed by itself stays listed as it is unless accounts
are collapsed and another one has its name. -/
theorem mem_roster_iff
    {kind : AccountKind}
    {single : Account}
    (member : single ∈ inventory.roster kind false)
    {collapse : Bool} :
    single ∈ inventory.roster kind collapse ↔
      collapse = false ∨
        (inventory.roster kind false).filter (·.name = single.name) =
          [single] := by
  cases collapse with
  | false => exact iff_of_true member (Or.inl rfl)
  | true =>
      rw [(agrees.collapses kind).mem_collapsed_iff (agrees.plain kind)
        (agrees.plain kind single member)]
      simp

end View.Agrees

namespace Memory

/-- A store that has some accounts and no grants. -/
def ofAccounts (accounts : List AccountRow) : Memory :=
  { everyScope with
    accounts
    globalGrants := []
    databaseGrants := []
    tableGrants := []
    columnGrants := []
    proxyGrants := []
    roleEdges := [] }

theorem collapses_collapsed
    (kind : AccountKind)
    (rows : List AccountRow) :
    Collapses (rows.map AccountRow.account)
      ((collapsed kind rows).map AccountRow.account) := by
  have names :
      ((collapsed kind rows).map AccountRow.account).map Account.name =
        Sorted.ofList (rows.map AccountRow.user) := by
    simp [collapsed, AccountRow.account, Function.comp_def]
  refine ⟨?_, ?_, ?_⟩
  · rw [names]
    exact (Sorted.rising_ofList _).nodup
  · intro name
    rw [names, Sorted.mem_ofList]
    simp [AccountRow.account]
  · intro account member
    simp only [collapsed, List.map_map, List.mem_map] at member
    rcases member with ⟨user, _, rfl⟩
    refine ⟨_, rfl, List.Perm.of_eq ?_⟩
    rw [List.filter_map, List.map_map]
    rfl

/-- What a store in memory answers agrees with its own listings. -/
theorem agrees_reply
    {memory : Memory}
    (plain : ∀ row ∈ memory.accounts, IsPlainHost row.host)
    (few : memory.accounts.length ≤ 1 <<< 64) :
    View.Agrees memory.reply memory.inventory where
  lists _ _ := reply_of_inventory
  finds user host row found := by
    have member : row ∈ memory.accounts := List.mem_of_find?_eq_some found
    apply List.mem_map_of_mem
    exact List.mem_filter.2 ⟨member, by simp⟩
  collapses kind := collapses_collapsed kind (memory.accountsOf kind)
  plain kind account member := by
    rcases List.mem_map.1 member with ⟨row, listed, rfl⟩
    exact plain row (List.mem_of_mem_filter listed)
  countable kind collapse := by
    rw [Inventory.roster, List.length_map]
    exact length_accounts_le few kind collapse

end Memory

end PrivilegeGraph.Store
