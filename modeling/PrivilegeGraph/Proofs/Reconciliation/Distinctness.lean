import PrivilegeGraph.Proofs.Catalog
import PrivilegeGraph.Proofs.Grant.Codec
import PrivilegeGraph.Proofs.Identity.Separation
import PrivilegeGraph.Proofs.Reconciliation.Offered
import PrivilegeGraph.Proofs.Reconciliation.Reading
import PrivilegeGraph.Proofs.Store.Roster

/-!
# Ids of grants told apart

The rights that a principal holds are gathered as a set of rights, and ids are
written for them afterwards.  An id is one flat text, so two rights of the set
can end with one id: when they are one privilege on two resources that are
confused.  Nothing else, whatever a store answers, brings an id twice.
-/

namespace PrivilegeGraph

namespace Right

/-- Whether two rights are one privilege on resources that are confused. -/
def Confused (right other : Right) : Prop :=
  right.privilege = other.privilege ∧
    right.resource.Confused other.resource

/-- Where privileges hold no colon and there is at most one routine, two rights
have one id if they are the same or confused, and only then. -/
theorem id_eq_iff
    {right other : Right}
    (free : ':' ∉ right.privilege.toList)
    (free' : ':' ∉ other.privilege.toList)
    (routines :
      right.resource.kind = .routine → other.resource.kind = .routine →
        right.resource = other.resource) :
    right.id = other.id ↔ right = other ∨ right.Confused other := by
  constructor
  · intro same
    rcases privilege_resource_of_id_eq free free' same with
      ⟨privilege, resource⟩
    by_cases here : right.resource = other.resource
    · left
      cases right
      cases other
      cases privilege
      cases here
      rfl
    · right
      -- One id means one kind, so both resources would be routines.
      have settled : other.resource.kind ≠ .routine := by
        intro routine
        have kinds := (Identity.kind_body_of_id_eq resource).1
        exact here (routines (kinds.trans routine) routine)
      exact ⟨privilege, Identity.confused_of_id_eq settled here resource⟩
  · rintro (rfl | ⟨privilege, confused⟩)
    · rfl
    · rw [id, id, privilege, confused.id_eq]

end Right

theorem Grant.id_ofRight_eq_iff
    {right other : Right}
    {principal : Identity} :
    (ofRight right principal).id = (ofRight other principal).id ↔
      right.id = other.id := by
  simp [ofRight, make]

/-- If values have one image just when they are equal or related, the images
of values without repetition are without repetition when no two of the values
are related. -/
theorem nodup_map_iff_pairwise
    {α β : Type}
    {image : α → β}
    {related : α → α → Prop}
    {values : List α}
    (distinct : values.Nodup)
    (one :
      ∀ value ∈ values, ∀ other ∈ values,
        image value = image other ↔ value = other ∨ related value other) :
    (values.map image).Nodup ↔
      values.Pairwise fun value other => ¬related value other := by
  rw [List.Nodup, List.pairwise_map]
  constructor
  · intro apart
    apply apart.imp_of_mem
    intro value other member member' differ related
    exact differ ((one value member other member').2 (Or.inr related))
  · intro apart
    apply (apart.and distinct).imp_of_mem
    rintro value other member member' ⟨unrelated, differ⟩ same
    rcases (one value member other member').1 same with equal | related
    · exact differ equal
    · exact unrelated related

namespace Reconciliation

open Program (Handler)

variable {reconciliation : Reconciliation}

/-- The only routine on which a right can be found is the server's own
identity, if that is one. -/
theorem Findable.eq_server_of_routine
    {right : Right}
    (findable : reconciliation.Findable right)
    (routine : right.resource.kind = .routine) :
    right.resource = reconciliation.server := by
  have ofAccount
      {kind : Store.AccountKind}
      {account : Account}
      (onAccount : right.resource = kind.identity account) :
      False := by
    rw [onAccount, Store.AccountKind.kind_identity] at routine
    exact kind.kind_ne_routine routine
  cases findable with
  | server privilege => rfl
  | database kept privilege => cases routine
  | table kept name privilege => cases routine
  | column kept expanded name privilege => cases routine
  | proxied variant =>
      exact (ofAccount (resource_of_mem_rightWithOption variant)).elim
  | member modern variant =>
      exact (ofAccount (resource_of_mem_rightWithOption variant)).elim

theorem colon_not_mem_privilege
    {right : Right}
    (known : reconciliation.isKnown right = true) :
    ':' ∉ right.privilege.toList := by
  rcases isKnown_iff.1 known with ⟨entry, listed, named⟩
  rw [← named]
  exact Catalog.Entry.colon_not_mem_id listed

/-- Rights that are found and that the catalog lists have one id if they are
the same or confused, and only then. -/
theorem id_eq_iff_of_known
    {right other : Right}
    (findable : reconciliation.Findable right)
    (findable' : reconciliation.Findable other)
    (known : reconciliation.isKnown right = true)
    (known' : reconciliation.isKnown other = true) :
    right.id = other.id ↔ right = other ∨ right.Confused other := by
  apply
    Right.id_eq_iff (colon_not_mem_privilege known)
      (colon_not_mem_privilege known')
  intro routine routine'
  rw [findable.eq_server_of_routine routine,
    findable'.eq_server_of_routine routine']

/-- The grants of a principal are written for a set of rights that can be
found and that the catalog lists. -/
theorem exists_rights_of_grants
    {σ : Type}
    {handler : Handler Store.interface σ}
    {state : σ}
    {principal : Identity}
    {grants : List Grant}
    (found :
      ((reconciliation.grantsHeldBy principal).run handler state).result =
        .ok grants) :
    ∃ rights : List Right,
      grants = rights.map (fun right => Grant.ofRight right principal) ∧
        rights.Nodup ∧
        ∀ right ∈ rights,
          reconciliation.Findable right ∧
            reconciliation.isKnown right = true := by
  cases named : principal.account? with
  | none =>
      rw [grantsHeldBy, named] at found
      cases found
  | some account =>
      rw [result_run_grantsHeldBy handler state named] at found
      have holds :=
        (Program.Confined.collect_yielding reconciliation.finds_rightsOf
          account.expanded).result_run handler state
      cases ended :
          ((Program.collect reconciliation.rightsOf account.expanded).run
              handler state).result with
      | error error =>
          rw [ended] at found
          cases found
      | ok lists =>
          rw [ended] at found holds
          rcases found with ⟨⟩
          refine ⟨_, rfl, (Sorted.rising_ofList _).nodup.filter _, ?_⟩
          intro right member
          rcases List.mem_filter.1 member with ⟨among, known⟩
          rcases List.mem_flatten.1 (Sorted.mem_ofList.1 among) with
            ⟨rights, gathered, inside⟩
          exact ⟨holds rights gathered right inside, known⟩

/-- Whatever a store answers, the grants of a principal are written for
different rights, and two of them have one id, or one entitlement's id, just
when their rights are confused: when they are one privilege on two tables or
two columns whose dotted names read the same, or on two accounts of which one
has an at sign in its host.  So ids are without repetition exactly when no two
of the rights are confused. -/
theorem grant_ids_distinct_iff
    {σ : Type}
    {handler : Handler Store.interface σ}
    {state : σ}
    {principal : Identity}
    {grants : List Grant}
    (found :
      ((reconciliation.grantsHeldBy principal).run handler state).result =
        .ok grants) :
    ∃ rights : List Right,
      grants = rights.map (fun right => Grant.ofRight right principal) ∧
        rights.Nodup ∧
        ((grants.map Grant.id).Nodup ↔
          rights.Pairwise fun right other => ¬right.Confused other) ∧
        ((grants.map Grant.entitlementId).Nodup ↔
          rights.Pairwise fun right other => ¬right.Confused other) := by
  rcases exists_rights_of_grants found with ⟨rights, rfl, distinct, each⟩
  have one :
      ∀ right ∈ rights, ∀ other ∈ rights,
        right.id = other.id ↔ right = other ∨ right.Confused other := by
    intro right member other member'
    rcases each right member with ⟨findable, known⟩
    rcases each other member' with ⟨findable', known'⟩
    exact id_eq_iff_of_known findable findable' known known'
  refine ⟨rights, rfl, distinct, ?_, ?_⟩
  · rw [List.map_map]
    apply nodup_map_iff_pairwise distinct
    intro right member other member'
    exact Grant.id_ofRight_eq_iff.trans (one right member other member')
  · rw [List.map_map]
    exact nodup_map_iff_pairwise distinct one

/-! ## A store with dotted names -/

/-- A store in which one account may read two tables that are written with one
id. -/
def confusedTables : Store.Memory :=
  { Store.Memory.ofAccounts [⟨"alice", "%", "user", ""⟩] with
    tableGrants :=
      [⟨"alice", "%", "a.b", "c", "Select"⟩,
        ⟨"alice", "%", "a", "b.c", "Select"⟩] }

theorem result_run_confusedTables :
    ((grantsHeldBy ⟨{}, .modern, .server "db"⟩ (.user ⟨"alice", "%"⟩)).run
        Store.Memory.handler confusedTables).result =
      .ok
        [.ofRight ⟨"select", .table "a" "b.c"⟩ (.user ⟨"alice", "%"⟩),
          .ofRight ⟨"select", .table "a.b" "c"⟩ (.user ⟨"alice", "%"⟩)] := by
  decide +kernel

theorem grant_ids_distinct_iff_confusedTables :
    let reconciliation : Reconciliation := ⟨{}, .modern, .server "db"⟩
    let principal : Identity := .user ⟨"alice", "%"⟩
    ∃ grants,
      ((reconciliation.grantsHeldBy principal).run Store.Memory.handler
            confusedTables).result =
          .ok grants ∧
        ∃ rights : List Right,
          grants = rights.map (fun right => Grant.ofRight right principal) ∧
            rights.Nodup ∧
            ((grants.map Grant.id).Nodup ↔
              rights.Pairwise fun right other => ¬right.Confused other) ∧
            ((grants.map Grant.entitlementId).Nodup ↔
              rights.Pairwise fun right other => ¬right.Confused other) :=
  ⟨_, result_run_confusedTables,
    grant_ids_distinct_iff result_run_confusedTables⟩

/-- Two rights on different tables are granted under one id. -/
theorem grant_id_repeated :
    ∃ right other : Right,
      right ≠ other ∧
        ∃ principal : Identity,
          ((grantsHeldBy ⟨{}, .modern, .server "db"⟩ principal).run
                Store.Memory.handler confusedTables).result =
              .ok
                [Grant.ofRight right principal,
                  Grant.ofRight other principal] ∧
            (Grant.ofRight right principal).id =
              (Grant.ofRight other principal).id := by
  refine
    ⟨⟨"select", .table "a" "b.c"⟩, ⟨"select", .table "a.b" "c"⟩, by decide,
      .user ⟨"alice", "%"⟩, result_run_confusedTables, ?_⟩
  decide +kernel

end Reconciliation

end PrivilegeGraph
