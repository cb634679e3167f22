import Mathlib.Data.List.Nodup
import PrivilegeGraph.Proofs.Identity.Separation
import PrivilegeGraph.Proofs.Reconciliation.Places
import PrivilegeGraph.Proofs.Store.Roster

/-!
# What grants say

A grant says, apart from who holds it, the id of an entitlement and the id of
a resource.  In a store whose accounts are found as they are listed, held
rights are told apart by what they say, unless names have dots in them.
-/

namespace PrivilegeGraph

/-- What a right says when it is granted: its own id and the id of its
resource. -/
def Right.fact (right : Right) : String × ResourceId :=
  (right.id, right.resource.resourceId)

/-- What a grant says apart from who holds it. -/
def Grant.fact (grant : Grant) : String × ResourceId :=
  (grant.entitlementId, grant.resource)

/-- The facts of the grants of rights are those of the rights. -/
theorem Grant.map_fact_ofRight
    (rights : List Right)
    (principal : Identity) :
    (rights.map fun right => ofRight right principal).map fact =
      rights.map Right.fact := by
  rw [List.map_map]
  rfl

/-- An image that is shared by no other value occurs as often as its value. -/
theorem count_map_of_alone
    {α β : Type}
    [DecidableEq α]
    [BEq β]
    [LawfulBEq β]
    {values : List α}
    {image : α → β}
    {value : α}
    (alone : ∀ other ∈ values, image other = image value → other = value) :
    (values.map image).count (image value) = values.count value := by
  rw [List.count, List.count, List.countP_map]
  apply List.countP_congr
  intro other among
  simp only [Function.comp_apply, beq_iff_eq]
  constructor
  · exact alone other among
  · rintro rfl
    rfl

namespace Reconciliation

open Store (Inventory View)

variable
    {view : View}
    {reconciliation : Reconciliation}
    {account account' : Account}

/-! ## Places in a store that agrees with its listings -/

section

variable
    {inventory : Inventory}
    (agrees : view.Agrees inventory)
    {name : String}
    (own : reconciliation.server = .server name)

include agrees own

/-- A right on an account is held on one that the store lists. -/
theorem Place.exists_listed
    {resource : Identity}
    (place : Place view reconciliation account resource)
    {target : Account}
    (named : resource.account? = some target) :
    ∃ kind : Store.AccountKind,
      resource = kind.identity target ∧
        target ∈ inventory.roster kind false := by
  have ofFound :
      ∀ (user host : String) (row : Store.AccountRow),
        view.getAccount user host = some row →
          row.identity.account? = some target →
            ∃ kind : Store.AccountKind,
              row.identity = kind.identity target ∧
                target ∈ inventory.roster kind false := by
    intro user host row found named
    rw [Store.AccountRow.identity, Store.AccountKind.account?_identity]
      at named
    cases named
    exact ⟨row.accountKind, rfl, agrees.finds user host row found⟩
  cases place with
  | server =>
      rw [own] at named
      cases named
  | database member => cases named
  | table member => cases named
  | column member => cases named
  | tableOfColumn member => cases named
  | proxied member other someone found => exact ofFound _ _ _ found named
  | role modern member other found => exact ofFound _ _ _ found named

theorem Place.hostUndivided
    {resource : Identity}
    (place : Place view reconciliation account resource) :
    resource.HostUndivided := by
  intro target named
  rcases place.exists_listed agrees own named with ⟨kind, _, listed⟩
  exact (agrees.plain kind target listed).noAt

omit agrees in
theorem Place.kind_ne_routine
    {resource : Identity}
    (place : Place view reconciliation account resource) :
    resource.kind ≠ .routine := by
  have ofRow : ∀ row : Store.AccountRow, row.identity.kind ≠ .routine := by
    intro row
    rw [Store.AccountRow.identity, Store.AccountKind.kind_identity]
    exact row.accountKind.kind_ne_routine
  intro sort
  cases place with
  | server =>
      rw [own] at sort
      cases sort
  | database member => cases sort
  | table member => cases sort
  | column member => cases sort
  | tableOfColumn member => cases sort
  | proxied member other someone found => exact ofRow _ sort
  | role modern member other found => exact ofRow _ sort

/-- Rights that say the same of a resource with an undotted id are the same
right. -/
theorem eq_of_fact_eq
    {right other : Right}
    (place : Place view reconciliation account right.resource)
    (place' : Place view reconciliation account' other.resource)
    (undotted : other.resource.resourceId.Undotted)
    (same : right.fact = other.fact) :
    right = other := by
  have resource : right.resource = other.resource :=
    Identity.eq_of_resourceId_eq undotted (place'.kind_ne_routine own)
      (place.hostUndivided agrees own) (place'.hostUndivided agrees own)
      (congrArg Prod.snd same)
  -- With one resource, the ids differ in nothing but the privilege.
  have privilege : right.privilege = other.privilege := by
    have ids : right.id = other.id := congrArg Prod.fst same
    rw [Right.id, Right.id, resource] at ids
    simpa using ids
  cases right
  cases other
  cases resource
  cases privilege
  rfl

end

/-! ## Grants for the rights that are held -/

section

variable
    {principal : Identity}
    {grants : List Grant}

theorem AreHeld.mem_facts_iff
    (held : AreHeld view reconciliation principal account grants)
    {fact : String × ResourceId} :
    fact ∈ grants.map Grant.fact ↔
      ∃ right, Held view reconciliation account right ∧ right.fact = fact := by
  rcases held with ⟨rights, rfl, _, exactly⟩
  simp only [Grant.map_fact_ofRight, List.mem_map, exactly]

/-- What grants say about a resource with an undotted id is said once. -/
theorem AreHeld.count_fact
    (held : AreHeld view reconciliation principal account grants)
    {inventory : Inventory}
    (agrees : view.Agrees inventory)
    {name : String}
    (own : reconciliation.server = .server name)
    {fact : String × ResourceId}
    (said : fact ∈ grants.map Grant.fact)
    (undotted : fact.2.Undotted) :
    (grants.map Grant.fact).count fact = 1 := by
  rcases held with ⟨rights, rfl, distinct, exactly⟩
  rw [Grant.map_fact_ofRight] at said ⊢
  rcases List.mem_map.1 said with ⟨right, member, rfl⟩
  rcases ((exactly right).1 member).exists_place with ⟨_, place⟩
  rw [count_map_of_alone, List.count_eq_one_of_mem distinct member]
  intro other among same
  rcases ((exactly other).1 among).exists_place with ⟨_, place'⟩
  exact eq_of_fact_eq agrees own place' place undotted same

/-- An account on one plain host holds what the grant tables say of it. -/
theorem held_iff_of_isPlainHost
    (plain : IsPlainHost account.host)
    {right : Right} :
    Held view reconciliation account right ↔
      Listed reconciliation.generation right ∧
        Holds view reconciliation account right := by
  simp [Held, Account.expanded_of_isPlainHost plain]

/-- A collapsed account holds what the listed accounts of its name hold. -/
theorem held_collapsed_iff
    {inventory : Inventory}
    (agrees : view.Agrees inventory)
    {kind : Store.AccountKind}
    (collapsed : account ∈ inventory.roster kind true)
    {right : Right} :
    Held view reconciliation account right ↔
      ∃ single ∈ inventory.roster kind false,
        single.name = account.name ∧
          Held view reconciliation single right := by
  have plain := agrees.plain kind
  simp only [Held,
    (agrees.collapses kind).mem_expanded_iff plain collapsed]
  constructor
  · rintro ⟨listed, single, ⟨among, named⟩, holds⟩
    refine ⟨single, among, named, ?_⟩
    exact (held_iff_of_isPlainHost (plain single among)).2 ⟨listed, holds⟩
  · rintro ⟨single, among, named, held⟩
    rcases (held_iff_of_isPlainHost (plain single among)).1 held with
      ⟨listed, holds⟩
    exact ⟨listed, single, ⟨among, named⟩, holds⟩

end

end Reconciliation

end PrivilegeGraph
