import PrivilegeGraph.Proofs.Connector.Accounts
import PrivilegeGraph.Proofs.Connector.LeftOut

/-!
# Kinds that grants use

A connector lists resources of some kinds only: columns when some table is
expanded, roles on modern servers.  Whatever the store answers, grants are on
resources of these kinds, with one exception.  On a legacy server an account
that a proxy row refers to may be read as a role, and the right to act as it
is then granted on a role although no roles are listed.
-/

namespace PrivilegeGraph.Connector

open Program (Handler)
open Reconciliation (Held rightWithOption)
open Store (AccountKind View)

/-- Whether the kind of an id is one that the connector lists. -/
def Syncs
    (connector : Connector)
    (id : ResourceId) : Prop :=
  ∃ kind ∈ connector.kinds, id.kind = kind.name

/-- Whether a resource with an id is met in a walk through the listing of a
kind that the connector lists. -/
def IsListed
    {σ : Type}
    (handler : Handler Store.interface σ)
    (state : σ)
    (connector : Connector)
    (kind : Kind)
    (id : ResourceId) : Prop :=
  kind ∈ connector.kinds ∧
    ∃ parent sizes most token pages,
      ((connector.walk kind parent most sizes token).run handler
            state).result =
          .ok pages ∧
        ∃ resource ∈ pages.flatMap Page.items, resource.id = id

/-- Whether the grants of every listed resource are on kinds that the
connector lists, whatever store they are read from. -/
def GrantsSynced (connector : Connector) : Prop :=
  ∀ (σ : Type) (handler : Handler Store.interface σ) (state : σ),
    ∀ kind id grants, IsListed handler state connector kind id →
      ((connector.grants kind id.id).run handler state).result = .ok grants →
        ∀ grant ∈ grants, connector.Syncs grant.resource

/-- A grant to act as an account that is read as a role. -/
inductive ProxiesRole : Grant → Prop
  | ofRight
      {right : Right}
      {role : Account}
      {withOption : Bool}
      (variant :
        right ∈ rightWithOption Privilege.proxyId (.role role) withOption)
      (principal : Identity) :
      ProxiesRole (Grant.ofRight right principal)

/-! ## Kinds of a connector -/

section

variable {connector : Connector}

/-- The id of a resource is of a kind that is listed exactly when the
resource is. -/
theorem syncs_resourceId_iff
    {identity : Identity} :
    connector.Syncs identity.resourceId ↔
      identity.kind ∈ connector.kinds := by
  constructor
  · rintro ⟨kind, listed, same⟩
    rw [Kind.name_injective same]
    exact listed
  · intro listed
    exact ⟨identity.kind, listed, rfl⟩

/-! ## What can be found -/

/-- What can be found is on a kind that the connector lists, or is the right
to act as a role on a legacy server. -/
theorem kind_mem_kinds_of_findable
    {right : Right}
    (findable : connector.reconciliation.Findable right) :
    right.resource.kind ∈ connector.kinds ∨
      connector.generation = .legacy ∧
        ∃ role withOption,
          right ∈ rightWithOption Privilege.proxyId (.role role)
            withOption := by
  cases findable with
  | server privilege => exact Or.inl (mem_kinds nofun nofun)
  | database kept privilege => exact Or.inl (mem_kinds nofun nofun)
  | table kept name privilege => exact Or.inl (mem_kinds nofun nofun)
  | column kept expanded name privilege =>
      exact Or.inl (column_mem_kinds_iff.2 (List.ne_nil_of_mem expanded))
  | @proxied kind account withOption _ variant =>
      have resource := Reconciliation.resource_of_mem_rightWithOption variant
      cases kind with
      | user =>
          rw [resource]
          exact Or.inl (mem_kinds nofun nofun)
      | role =>
          cases generation : connector.generation with
          | modern =>
              rw [resource]
              exact Or.inl (role_mem_kinds_iff.2 generation)
          | legacy => exact Or.inr ⟨rfl, account, withOption, variant⟩
  | @member modern kind account withOption _ variant =>
      rw [Reconciliation.resource_of_mem_rightWithOption variant,
        AccountKind.kind_identity]
      cases kind with
      | user => exact Or.inl (mem_kinds nofun nofun)
      | role => exact Or.inl (role_mem_kinds_iff.2 modern)

theorem syncs_or_proxiesRole
    {σ : Type}
    {handler : Handler Store.interface σ}
    {state : σ}
    {kind : Kind}
    {id : String}
    {grants : List Grant}
    (read :
      ((connector.grants kind id).run handler state).result = .ok grants)
    {grant : Grant}
    (member : grant ∈ grants) :
    connector.Syncs grant.resource ∨
      connector.generation = .legacy ∧ ProxiesRole grant := by
  rcases findable_of_grants read grant member with
    ⟨right, principal, rfl, findable, _⟩
  rcases kind_mem_kinds_of_findable findable with
    listed | ⟨legacy, role, withOption, variant⟩
  · exact Or.inl (syncs_resourceId_iff.2 listed)
  · exact Or.inr ⟨legacy, .ofRight variant principal⟩

end

/-! ## A legacy server with an account that is read as a role -/

/-- A store in which one account may act as another that is read as a
role. -/
def proxiedRole : Store.Memory :=
  { Store.Memory.ofAccounts
      [⟨"alice", "%", "user", ""⟩, ⟨"svc", "%", "role", ""⟩] with
    proxyGrants := [⟨"alice", "%", "svc", "%", false⟩] }

theorem agrees_proxiedRole :
    View.Agrees proxiedRole.reply proxiedRole.inventory :=
  Store.Memory.agrees_reply (by decide) (by decide)

theorem alice_mem_roster (collapse : Bool) :
    (⟨"alice", "%"⟩ : Account) ∈
      proxiedRole.inventory.roster .user collapse := by
  cases collapse with
  | false => decide
  | true => decide +kernel

/-- To act as the role is held whatever the settings and the generation
are. -/
theorem held_proxiedRole (connector : Connector) :
    Held proxiedRole.reply connector.reconciliation ⟨"alice", "%"⟩
      ⟨"proxy", .role ⟨"svc", "%"⟩⟩ := by
  refine ⟨?_, ⟨"alice", "%"⟩, by decide, ?_⟩
  · have listed :
        ∀ generation,
          Reconciliation.Listed generation
            ⟨"proxy", .role ⟨"svc", "%"⟩⟩ := by
      intro generation
      unfold Reconciliation.Listed
      cases generation <;> decide +kernel
    exact listed connector.generation
  · refine Or.inr (Or.inr (Or.inr (Or.inr (Or.inl ?_))))
    refine ⟨⟨"alice", "%", "svc", "%", false⟩, by decide, by decide, ?_⟩
    exact
      Or.inr
        ⟨by decide, ⟨"svc", "%", "role", ""⟩, by decide, rfl, Or.inl rfl⟩

/-- On a legacy server a listed account has a grant on a role. -/
theorem not_grantsSynced_of_legacy
    {connector : Connector}
    (legacy : connector.generation = .legacy) :
    ¬connector.GrantsSynced := by
  intro synced
  let id := (Identity.user ⟨"alice", "%"⟩).resourceId
  have own :
      ∀ id ∈ (none : Option ResourceId),
        id = connector.serverIdentity.resourceId :=
    nofun
  have yields :=
    yields_roster Store.Memory.answersFrom_openHandler agrees_proxiedRole
      connector .user own
  have listed :
      IsListed Store.Memory.openHandler proxiedRole connector .user id := by
    rcases yields fun _ => 10 with ⟨pages, items, ends⟩
    refine
      ⟨mem_kinds nofun nofun, none, _, _, "", pages, ends _ (Nat.le_refl _), ?_⟩
    rw [items]
    exact ⟨_, List.mem_map_of_mem (alice_mem_roster _), rfl⟩
  rcases
    exists_grants Store.Memory.answersFrom_openHandler agrees_proxiedRole
      connector (alice_mem_roster true) with
    ⟨_, found, rights, rfl, _, exactly⟩
  have held := (exactly _).2 (held_proxiedRole connector)
  have onRole :=
    synced _ _ _ _ _ _ listed found _ (List.mem_map_of_mem held)
  have modern := role_mem_kinds_iff.1 (syncs_resourceId_iff.1 onRole)
  rw [legacy] at modern
  cases modern

/-- Every grant is on a resource of a kind that the connector lists, unless
the server is legacy and the grant is to act as an account that is read as a
role.  So grants on columns need an expanded table, and all grants of listed
accounts are on listed kinds exactly on modern servers. -/
theorem grants_synced_unless_proxiesRole (connector : Connector) :
    (∀ (σ : Type) (handler : Handler Store.interface σ) (state : σ),
        ∀ kind id grants,
          ((connector.grants kind id).run handler state).result =
              .ok grants →
            ∀ grant ∈ grants,
              connector.Syncs grant.resource ∨
                connector.generation = .legacy ∧ ProxiesRole grant) ∧
      (connector.GrantsSynced ↔ connector.generation = .modern) := by
  constructor
  · intro σ handler state kind id grants read grant member
    exact syncs_or_proxiesRole read member
  · constructor
    · intro synced
      cases generation : connector.generation with
      | modern => rfl
      | legacy => exact absurd synced (not_grantsSynced_of_legacy generation)
    · intro modern σ handler state kind id grants _ read grant member
      rcases syncs_or_proxiesRole read member with listed | ⟨legacy, _⟩
      · exact listed
      · rw [modern] at legacy
        cases legacy

/-- The listed user may act as an account that is read as a role, and no kind
that a legacy server's connector lists is that of the grant's resource. -/
theorem role_granted_on_legacy :
    let connector : Connector := ⟨{}, .legacy, ⟨"db-01", "5.7.44"⟩⟩
    let grant : Grant :=
      Grant.ofRight ⟨"proxy", .role ⟨"svc", "%"⟩⟩ (.user ⟨"alice", "%"⟩)
    ((connector.list .user none ⟨"", 10⟩).run Store.Memory.openHandler
            proxiedRole).result =
          .ok ⟨[connector.accountResource .user ⟨"alice", "%"⟩], ""⟩ ∧
      HasGrants Store.Memory.openHandler proxiedRole connector .user
          ⟨"alice", "%"⟩ [grant] ∧
        ¬connector.Syncs grant.resource := by
  intro connector grant
  refine ⟨rfl, ?_, ?_⟩
  · unfold HasGrants
    decide +kernel
  · unfold Syncs
    decide +kernel

end PrivilegeGraph.Connector
