import PrivilegeGraph.Connector.Access
import PrivilegeGraph.Proofs.Connector.Walk
import PrivilegeGraph.Proofs.Identity.Codec
import PrivilegeGraph.Proofs.Reconciliation.Exactness
import PrivilegeGraph.Proofs.Store.Roster

/-!
# Accounts of a connector

Paging through the accounts of one sort yields those that the store lists,
and asking for the grants of one of them by its id ends with what the grant
tables say that it holds.
-/

namespace PrivilegeGraph.Connector

open Program (Handler)
open Reconciliation (AreHeld)
open Store (AccountKind AnswersFrom Gives Inventory View)

/-- An account as a connector lists it. -/
def accountResource
    (connector : Connector)
    (kind : AccountKind)
    (account : Account) : Resource :=
  Resource.ofAccount (kind.identity account)
    connector.serverIdentity.resourceId

/-- The accounts of one sort as a connector lists them. -/
def accountsShown
    (connector : Connector)
    (inventory : Inventory)
    (kind : AccountKind) : List Resource :=
  (inventory.roster kind connector.settings.collapseUsers).map
    (connector.accountResource kind)

/-- Whether every walk through a listing ends and meets exactly the given
resources, each in its place. -/
def Yields
    {σ : Type}
    (handler : Handler Store.interface σ)
    (state : σ)
    (connector : Connector)
    (kind : Kind)
    (parent : Option ResourceId)
    (resources : List Resource) : Prop :=
  ∀ sizes, ∃ pages : List (Page Resource),
    pages.flatMap Page.items = resources ∧
      ∀ most, pages.length ≤ most →
        ((connector.walk kind parent most sizes "").run handler
            state).result =
          .ok pages

/-- Whether asking for the grants of an account by its id ends with the given
ones. -/
def HasGrants
    {σ : Type}
    (handler : Handler Store.interface σ)
    (state : σ)
    (connector : Connector)
    (kind : AccountKind)
    (account : Account)
    (grants : List Grant) : Prop :=
  ((connector.grants kind.kind (kind.identity account).id).run handler
      state).result =
    .ok grants

section

variable
    {connector : Connector}
    {kind : AccountKind}

/-- Under its own server the listing of a sort of accounts shows those that are
listed. -/
theorem shows_accountsShown
    {inventory : Inventory}
    {parent : Option ResourceId}
    (own : ∀ id ∈ parent, id = connector.serverIdentity.resourceId) :
    connector.Shows inventory kind.kind parent
      (connector.accountsShown inventory kind) := by
  rw [accountsShown, Inventory.roster, List.map_map]
  exact .accounts kind own

/-- Whether an account can be read back from the id of its resource. -/
theorem parse_account_id
    {account : Account}
    (readable : account.host ≠ "" ∧ '@' ∉ account.host.toList) :
    Identity.parse (kind.identity account).id =
      .ok (kind.identity account) := by
  apply Identity.parse_eq_ok_iff.2
  refine ⟨rfl, ?_⟩
  cases kind <;> exact readable

theorem gives_grants
    {view : View}
    {account : Account}
    (readable : account.host ≠ "" ∧ '@' ∉ account.host.toList) :
    Gives view
      (AreHeld view connector.reconciliation (kind.identity account) account)
      (connector.grants kind.kind (kind.identity account).id) := by
  have asked :
      connector.grants kind.kind (kind.identity account).id =
        connector.accountGrants (kind.identity account).id := by
    cases kind <;> rfl
  rw [asked, accountGrants, parse_account_id readable]
  have held := kind.account?_identity account
  exact (Reconciliation.gives_areHeld held).mapError _

end

section

variable
    {σ : Type}
    {handler : Handler Store.interface σ}
    {views : σ → View}
    (answers : AnswersFrom handler views)
    {state : σ}
    {inventory : Inventory}
    (agrees : (views state).Agrees inventory)
    (connector : Connector)

include answers agrees

/-- Paging through the accounts of one sort yields those that are listed. -/
theorem yields_roster
    (kind : AccountKind)
    {parent : Option ResourceId}
    (own : ∀ id ∈ parent, id = connector.serverIdentity.resourceId) :
    Yields handler state connector kind.kind parent
      (connector.accountsShown inventory kind) := by
  have shown :
      connector.Shows inventory kind.kind parent
        (connector.accountsShown inventory kind) :=
    shows_accountsShown own
  have counted :
      (connector.accountsShown inventory kind).length ≤ 1 <<< 64 := by
    rw [accountsShown, List.length_map]
    exact agrees.countable kind connector.settings.collapseUsers
  have paged :=
    paged_of_cutFrom shown.cutFrom counted (agrees.keptBy answers) rfl
  intro sizes
  rcases paged.walks sizes with ⟨pages, partitions, ends⟩
  exact ⟨pages, partitions.items, ends⟩

/-- Asking for the grants of a listed account ends with what it holds. -/
theorem exists_grants
    {kind : AccountKind}
    {collapse : Bool}
    {account : Account}
    (listed : account ∈ inventory.roster kind collapse) :
    ∃ grants,
      HasGrants handler state connector kind account grants ∧
        AreHeld (views state) connector.reconciliation
          (kind.identity account) account grants := by
  have gives :
      Gives (views state)
        (AreHeld (views state) connector.reconciliation
          (kind.identity account) account)
        (connector.grants kind.kind (kind.identity account).id) :=
    gives_grants (agrees.readable listed)
  rcases Gives.run answers state gives with ⟨grants, ended, held, _⟩
  exact ⟨grants, ended, held⟩

/-- What asking for the grants of a listed account ends with is what it
holds. -/
theorem areHeld_of_hasGrants
    {kind : AccountKind}
    {collapse : Bool}
    {account : Account}
    (listed : account ∈ inventory.roster kind collapse)
    {grants : List Grant}
    (ended : HasGrants handler state connector kind account grants) :
    AreHeld (views state) connector.reconciliation (kind.identity account)
      account grants := by
  rcases exists_grants answers agrees connector listed with
    ⟨found, endedFound, held⟩
  rw [HasGrants, ended] at endedFound
  cases endedFound
  exact held

end

end PrivilegeGraph.Connector
