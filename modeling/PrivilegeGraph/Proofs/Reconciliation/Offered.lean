import PrivilegeGraph.Entitlement
import PrivilegeGraph.Proofs.Reconciliation.Exactness

/-!
# Grants and what is offered

The grants of a principal are found in what grant tables say, while the
entitlements on a resource come from the catalog.  Whatever a store answers,
also when it answers a question differently each time, a right that is found
becomes a grant exactly when an entitlement is offered for it on its own
resource.  So no grant refers to an entitlement that is not there.
-/

namespace PrivilegeGraph.Reconciliation

open Program (Handler)

/-- Whether a grant is of an entitlement that is offered on a resource. -/
def IsOffered
    (generation : Generation)
    (resource : Identity)
    (grant : Grant) : Prop :=
  grant.resource = resource.resourceId ∧
    ∃ entitlement ∈ Entitlement.allFor generation resource,
      entitlement.id = grant.entitlementId ∧
        entitlement.resource = grant.resource

section

variable
    {reconciliation : Reconciliation}
    {σ : Type}
    (handler : Handler Store.interface σ)
    (state : σ)

/-- The grant of a right is of an entitlement that is offered exactly when the
catalog lists the right. -/
theorem isOffered_ofRight_iff
    {generation : Generation}
    {right : Right}
    {principal : Identity} :
    IsOffered generation right.resource (Grant.ofRight right principal) ↔
      Listed generation right := by
  constructor
  · rintro ⟨_, entitlement, offered, named, _⟩
    rcases List.mem_map.1 offered with ⟨entry, listed, rfl⟩
    -- Both ids are written for one resource, so the privileges agree.
    have written : (Entitlement.rightOf entry right.resource).id = right.id :=
      named
    have same : entry.id = right.privilege := by
      simpa [Entitlement.rightOf, Right.id] using written
    exact ⟨entry, listed, same⟩
  · rintro ⟨entry, listed, named⟩
    have origin : Entitlement.rightOf entry right.resource = right := by
      rw [Entitlement.rightOf, named]
    exact
      ⟨rfl, _, List.mem_map_of_mem listed, congrArg Right.id origin, rfl⟩

/-- Rights are kept or dropped without a question. -/
theorem result_run_keepKnown (rights : List Right) :
    ((reconciliation.keepKnown rights).run handler state).result =
      .ok (rights.filter reconciliation.isKnown) := by
  induction rights with
  | nil => rfl
  | cons right rest ih =>
      rw [keepKnown]
      split
      · next known =>
        rw [List.filter_cons_of_pos known, Program.result_run_bind_ok ih]
        rfl
      · next unknown =>
        rw [List.filter_cons_of_neg unknown]
        exact ih

/-- Grants are found exactly when the rights of every host are. -/
theorem result_run_grantsHeldBy
    {principal : Identity}
    {account : Account}
    (named : principal.account? = some account) :
    ((reconciliation.grantsHeldBy principal).run handler state).result =
      ((Program.collect reconciliation.rightsOf account.expanded).run handler
          state).result.map
        fun lists =>
          ((Sorted.ofList lists.flatten).filter
            reconciliation.isKnown).map fun right =>
              Grant.ofRight right principal := by
  rw [grantsHeldBy, named]
  cases ended :
      ((Program.collect reconciliation.rightsOf account.expanded).run handler
          state).result with
  | error error => exact Program.result_run_bind_error ended
  | ok lists =>
      apply (Program.result_run_bind_ok ended).trans
      exact
        Program.result_run_bind_ok
          (result_run_keepKnown handler _ (Sorted.ofList lists.flatten))

/-- The grants of a principal are those of the rights found for one of its
hosts that are offered as entitlements on their own resources.  So each grant
is of an entitlement that is offered on the resource of the grant, and a
privilege that is not offered there gives no grant, whatever the text that it
is read from. -/
theorem grants_offered
    {principal : Identity}
    {grants : List Grant}
    (found :
      ((reconciliation.grantsHeldBy principal).run handler state).result =
        .ok grants) :
    ∃ account lists,
      principal.account? = some account ∧
        ((Program.collect reconciliation.rightsOf account.expanded).run
              handler state).result =
            .ok lists ∧
          ∀ grant,
            grant ∈ grants ↔
              ∃ rights ∈ lists, ∃ right ∈ rights,
                grant = Grant.ofRight right principal ∧
                  IsOffered reconciliation.generation right.resource
                    grant := by
  cases named : principal.account? with
  | none =>
      rw [grantsHeldBy, named] at found
      cases found
  | some account =>
      rw [result_run_grantsHeldBy handler state named] at found
      cases ended :
          ((Program.collect reconciliation.rightsOf account.expanded).run
              handler state).result with
      | error error =>
          rw [ended] at found
          cases found
      | ok lists =>
          rw [ended] at found
          rcases found with ⟨⟩
          refine ⟨account, lists, rfl, ended, ?_⟩
          intro grant
          simp only [List.mem_map, List.mem_filter, Sorted.mem_ofList,
            List.mem_flatten, isKnown_iff]
          constructor
          · rintro ⟨right, ⟨⟨rights, gathered, member⟩, listed⟩, rfl⟩
            exact
              ⟨rights, gathered, right, member, rfl,
                isOffered_ofRight_iff.2 listed⟩
          · rintro ⟨rights, gathered, right, member, rfl, offered⟩
            exact
              ⟨right,
                ⟨⟨rights, gathered, member⟩,
                  isOffered_ofRight_iff.1 offered⟩,
                rfl⟩

end

theorem grants_offered_everyScope :
    let reconciliation : Reconciliation := ⟨{}, .modern, .server "db"⟩
    let handler := Store.Memory.openHandler
    let state := Store.Memory.everyScope
    let principal : Identity := .user ⟨"alice", "%"⟩
    ∃ grants,
      ((reconciliation.grantsHeldBy principal).run handler state).result =
          .ok grants ∧
        ∃ account lists,
          principal.account? = some account ∧
            ((Program.collect reconciliation.rightsOf account.expanded).run
                  handler state).result =
                .ok lists ∧
              ∀ grant,
                grant ∈ grants ↔
                  ∃ rights ∈ lists, ∃ right ∈ rights,
                    grant = Grant.ofRight right principal ∧
                      IsOffered reconciliation.generation right.resource
                        grant := by
  intro reconciliation handler state principal
  have named : principal.account? = some ⟨"alice", "%"⟩ := rfl
  rcases
    Store.Gives.run Store.Memory.answersFrom_openHandler state
      (gives_areHeld named) with
    ⟨grants, found, _⟩
  exact ⟨grants, found, grants_offered handler state found⟩

end PrivilegeGraph.Reconciliation
