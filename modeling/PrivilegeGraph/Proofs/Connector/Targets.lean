import PrivilegeGraph.Proofs.Connector.Accounts
import PrivilegeGraph.Proofs.Reconciliation.Facts

/-!
# Accounts that grants point at

A grant to act as another account, or to be in a role, points at an account
that the store lists.  Its resource is one of those that paging yields when
accounts are listed one by one.  When they are collapsed this is so exactly for
accounts that share their name with no other one of their sort, as grants
always point at single accounts.
-/

namespace PrivilegeGraph.Connector

open Program (Handler)
open Store (AccountKind AnswersFrom Inventory View)

/-- Whether an id is that of a user or of a role. -/
def IsAccountId (id : ResourceId) : Prop :=
  id.kind = "user" ∨ id.kind = "role"

/-- The ids of all accounts that a connector lists. -/
def accountIds
    (connector : Connector)
    (inventory : Inventory) : List ResourceId :=
  [AccountKind.user, .role].flatMap fun kind =>
    (connector.accountsShown inventory kind).map Resource.id

theorem mem_accountIds_iff
    {connector : Connector}
    {inventory : Inventory}
    {id : ResourceId} :
    id ∈ connector.accountIds inventory ↔
      ∃ kind : AccountKind,
        ∃ account ∈
            inventory.roster kind connector.settings.collapseUsers,
          (kind.identity account).resourceId = id := by
  have shown :
      ∀ kind,
        id ∈ (connector.accountsShown inventory kind).map Resource.id ↔
          ∃ account ∈
              inventory.roster kind connector.settings.collapseUsers,
            (kind.identity account).resourceId = id := by
    intro kind
    rw [accountsShown, List.map_map]
    exact List.mem_map
  rw [accountIds, List.mem_flatMap]
  constructor
  · rintro ⟨kind, _, member⟩
    exact ⟨kind, (shown kind).1 member⟩
  · rintro ⟨kind, member⟩
    refine ⟨kind, ?_, (shown kind).2 member⟩
    cases kind <;> simp

/-- The kind and the account of an account's resource are told from its id. -/
theorem account_of_resourceId_eq
    {kind kind' : AccountKind}
    {account account' : Account}
    (free : '@' ∉ account.host.toList)
    (free' : '@' ∉ account'.host.toList)
    (same :
      (kind.identity account).resourceId =
        (kind'.identity account').resourceId) :
    kind = kind' ∧ account = account' := by
  rcases Identity.kind_body_of_id_eq (congrArg ResourceId.id same) with
    ⟨kinds, bodies⟩
  rw [AccountKind.kind_identity, AccountKind.kind_identity] at kinds
  cases AccountKind.kind_injective kinds
  refine ⟨rfl, Account.eq_of_text_eq free free' ?_⟩
  cases kind <;> exact bodies

/-- Only accounts have ids of users or of roles. -/
theorem exists_account_of_isAccountId
    {identity : Identity}
    (sort : IsAccountId identity.resourceId) :
    ∃ account, identity.account? = some account := by
  cases identity with
  | user account => exact ⟨account, rfl⟩
  | role account => exact ⟨account, rfl⟩
  | _ =>
      simp [IsAccountId, Identity.resourceId, Identity.kind, Kind.name]
        at sort

/-- On a modern server a connector lists the accounts of both sorts. -/
theorem kind_mem_kinds
    {connector : Connector}
    (modern : connector.generation = .modern)
    (kind : AccountKind) :
    kind.kind ∈ connector.kinds := by
  cases kind with
  | user => exact mem_kinds nofun nofun
  | role => exact role_mem_kinds_iff.2 modern

section

variable
    {σ : Type}
    {handler : Handler Store.interface σ}
    {views : σ → View}
    {state : σ}
    {inventory : Inventory}
    (agrees : (views state).Agrees inventory)
    {connector : Connector}

include agrees

/-- A listed account is among the ids exactly if it is listed as it is. -/
theorem resourceId_mem_accountIds_iff
    {kind : AccountKind}
    {single : Account}
    (member : single ∈ inventory.roster kind false) :
    (kind.identity single).resourceId ∈ connector.accountIds inventory ↔
      connector.settings.collapseUsers = false ∨
        (inventory.roster kind false).filter (·.name = single.name) =
          [single] := by
  rw [mem_accountIds_iff, ← agrees.mem_roster_iff member]
  constructor
  · rintro ⟨kind', account, listed, same⟩
    rcases
        account_of_resourceId_eq (agrees.readable listed).2
          (agrees.plain kind single member).noAt same with
      ⟨rfl, rfl⟩
    exact listed
  · intro listed
    exact ⟨kind, single, listed, rfl⟩

/-- On a modern server both sorts of accounts are listed, and the grants of
every listed account can be read.  Each of them on an account is on a single
one that a listed resource stands for.  Its id is among those that paging
yields exactly if accounts are not collapsed or no other account of that sort
has the same name. -/
theorem account_targets_listed_iff
    (answers : AnswersFrom handler views)
    (modern : connector.generation = .modern) :
    (∀ (kind : AccountKind) (parent : Option ResourceId),
        (∀ id ∈ parent, id = connector.serverIdentity.resourceId) →
          kind.kind ∈ connector.kinds ∧
            Yields handler state connector kind.kind parent
              (connector.accountsShown inventory kind)) ∧
      ∀ kind,
        ∀ account ∈ inventory.roster kind connector.settings.collapseUsers,
          ∃ grants,
            HasGrants handler state connector kind account grants ∧
              ∀ grant ∈ grants, IsAccountId grant.resource →
                ∃ (targetKind : AccountKind) (target : Account),
                  grant.resource = (targetKind.identity target).resourceId ∧
                    (∃ shown ∈
                        inventory.roster targetKind
                          connector.settings.collapseUsers,
                      target ∈ shown.expanded) ∧
                    (grant.resource ∈ connector.accountIds inventory ↔
                      connector.settings.collapseUsers = false ∨
                        (inventory.roster targetKind false).filter
                            (·.name = target.name) =
                          [target]) := by
  constructor
  · intro kind parent own
    exact
      ⟨kind_mem_kinds modern kind,
        yields_roster answers agrees connector kind own⟩
  · intro kind account listed
    rcases exists_grants answers agrees connector listed with
      ⟨_, ended, rights, rfl, _, exactly⟩
    refine ⟨_, ended, ?_⟩
    intro grant member onAccount
    rcases List.mem_map.1 member with ⟨right, held, rfl⟩
    rcases ((exactly right).1 held).exists_place with ⟨_, place⟩
    rcases exists_account_of_isAccountId onAccount with ⟨target, named⟩
    rcases place.exists_listed agrees rfl named with
      ⟨targetKind, here, single⟩
    have resource :
        (Grant.ofRight right (kind.identity account)).resource =
          (targetKind.identity target).resourceId :=
      congrArg Identity.resourceId here
    refine
      ⟨targetKind, target, resource, agrees.exists_expanding single _, ?_⟩
    rw [resource]
    exact resourceId_mem_accountIds_iff agrees single

end

/-! ## A store in which an account is shared by two hosts -/

/-- A store in which one account may act as another whose name has accounts on
two hosts. -/
def twoHosts : Store.Memory :=
  { Store.Memory.ofAccounts
      [⟨"alice", "%", "user", ""⟩, ⟨"bob", "%", "user", ""⟩,
        ⟨"bob", "localhost", "user", ""⟩] with
    proxyGrants := [⟨"alice", "%", "bob", "localhost", false⟩] }

theorem agrees_twoHosts :
    View.Agrees twoHosts.reply twoHosts.inventory :=
  Store.Memory.agrees_reply (by decide) (by decide)

theorem account_targets_listed_twoHosts :
    let connector : Connector := ⟨{}, .modern, ⟨"db", "8.0.36"⟩⟩
    View.Agrees twoHosts.reply twoHosts.inventory ∧
      connector.generation = .modern ∧
      ∃ grants,
        HasGrants Store.Memory.openHandler twoHosts connector .user
            ⟨"alice", "%"⟩ grants ∧
          ∀ grant ∈ grants, IsAccountId grant.resource →
            grant.resource ∈ connector.accountIds twoHosts.inventory := by
  intro connector
  refine ⟨agrees_twoHosts, rfl, ?_⟩
  have agreed := account_targets_listed_iff agrees_twoHosts
    Store.Memory.answersFrom_openHandler (rfl : connector.generation = .modern)
  have listed :
      (⟨"alice", "%"⟩ : Account) ∈
        twoHosts.inventory.roster .user connector.settings.collapseUsers := by
    decide
  rcases agreed.2 .user _ listed with ⟨grants, ended, targets⟩
  refine ⟨grants, ended, ?_⟩
  intro grant member onAccount
  rcases targets grant member onAccount with ⟨_, _, _, _, among⟩
  exact among.2 (Or.inl rfl)

/-- With collapsing on, a grant to act as an account on one of two hosts
points at an id that is not listed. -/
theorem collapsed_target_unlisted :
    let connector : Connector :=
      ⟨{ collapseUsers := true }, .modern, ⟨"db", "8.0.36"⟩⟩
    ∃ grants,
      HasGrants Store.Memory.openHandler twoHosts connector .user
          ⟨"alice", "%"⟩ grants ∧
        ∃ grant ∈ grants,
          IsAccountId grant.resource ∧
            grant.resource ∉ connector.accountIds twoHosts.inventory := by
  intro connector
  let grant : Grant :=
    Grant.ofRight ⟨"proxy", .user ⟨"bob", "localhost"⟩⟩
      (.user ⟨"alice", "%"⟩)
  refine ⟨[grant], ?_, grant, List.mem_cons_self, Or.inl rfl, ?_⟩
  · unfold HasGrants
    decide +kernel
  · decide +kernel

end PrivilegeGraph.Connector
