import PrivilegeGraph.Entitlement
import PrivilegeGraph.Proofs.Catalog
import PrivilegeGraph.Proofs.Grant.Codec

/-!
# The vocabulary of entitlements

Entitlements are written for the entries of the catalog on a resource, and a
request is read back into a resource and an entry.  The two sides are shown to
share one vocabulary: what is read is what is written, and an id stands for
one entry on one resource.
-/

namespace PrivilegeGraph.Entitlement

open Catalog (Entry)

/-- Whether a text is read as a right for which the catalog has an entry. -/
def ReadsAs
    (generation : Generation)
    (text : String)
    (right : Right)
    (entry : Entry) : Prop :=
  Right.ofId text = .ok right ∧
    Catalog.lookup? right.resource.kind right.privilege generation =
      some entry

section

variable
    {generation : Generation}
    {resource : Identity}
    {entry : Entry}

/-- The right of an entry can be read back from its id wherever the resource
can stand in it. -/
theorem encodable_rightOf
    (stands : resource.StandsInComposite)
    (listed : entry ∈ Catalog.entries resource.kind generation) :
    (rightOf entry resource).Encodable := by
  rcases Identity.standsInComposite_iff.1 stands with ⟨wellFormed, bodyFree⟩
  have ofTable := (Catalog.mem_entries_iff.1 listed).1
  exact
    ⟨Entry.id_ne_empty ofTable, Entry.colon_not_mem_id listed, wellFormed,
      bodyFree⟩

/-- A text is read as a right and an entry exactly when it is the id of that
entry's right on a resource that can stand in it. -/
theorem readsAs_iff
    {text : String}
    {right : Right} :
    ReadsAs generation text right entry ↔
      right.resource.StandsInComposite ∧
        entry ∈ Catalog.entries right.resource.kind generation ∧
        right = rightOf entry right.resource ∧
        text = right.id := by
  rw [ReadsAs, Right.ofId_eq_ok_iff, Catalog.lookup?_eq_some_iff]
  constructor
  · rintro ⟨⟨written, _, _, wellFormed, bodyFree⟩, listed, named⟩
    have stands :=
      Identity.standsInComposite_iff.2 ⟨wellFormed, bodyFree⟩
    refine ⟨stands, listed, ?_, written⟩
    rw [rightOf, named]
  · rintro ⟨stands, listed, ofEntry, written⟩
    have encodable : right.Encodable := by
      rw [ofEntry]
      exact encodable_rightOf stands listed
    exact ⟨⟨written, encodable⟩, listed, congrArg Right.privilege ofEntry.symm⟩

theorem eq_of_rightOf_id_eq
    {other : Entry}
    (same : (rightOf entry resource).id = (rightOf other resource).id) :
    entry.id = other.id := by
  simpa [rightOf, Right.id] using same

end

/-- A text is read as a right that the catalog lists exactly when it is the id
of an entitlement on a resource that can stand in it.  That resource is then
the one that is read, and the entry from which the entitlement is made is the
one that the catalog finds.  On no resource do two entitlements have one
id. -/
theorem vocabulary_shared (generation : Generation) :
    (∀ text,
        (∃ right entry, ReadsAs generation text right entry) ↔
          ∃ resource : Identity,
            resource.StandsInComposite ∧
              ∃ entitlement ∈ allFor generation resource,
                entitlement.id = text) ∧
      (∀ text right entry, ReadsAs generation text right entry →
        ofEntry generation right.resource entry ∈
            allFor generation right.resource ∧
          (ofEntry generation right.resource entry).id = text ∧
          ∀ resource : Identity, resource.StandsInComposite →
            ∀ origin ∈ Catalog.entries resource.kind generation,
              (ofEntry generation resource origin).id = text →
                resource = right.resource ∧ origin = entry) ∧
      ∀ resource,
        ((allFor generation resource).map Entitlement.id).Nodup := by
  refine ⟨?_, ?_, ?_⟩
  · intro text
    constructor
    · rintro ⟨right, entry, reads⟩
      rcases readsAs_iff.1 reads with ⟨stands, listed, ofEntry, rfl⟩
      refine ⟨right.resource, stands, _, List.mem_map_of_mem listed, ?_⟩
      exact congrArg Right.id ofEntry.symm
    · rintro ⟨resource, stands, entitlement, offered, rfl⟩
      rcases List.mem_map.1 offered with ⟨entry, listed, rfl⟩
      exact
        ⟨rightOf entry resource, entry,
          readsAs_iff.2 ⟨stands, listed, rfl, rfl⟩⟩
  · intro text right entry reads
    have described := readsAs_iff.1 reads
    refine ⟨List.mem_map_of_mem described.2.1, ?_, ?_⟩
    · rw [described.2.2.2]
      exact congrArg Right.id described.2.2.1.symm
    · intro resource stands origin listed written
      -- The text is also read as the right of the other origin.
      have readsOrigin :
          ReadsAs generation text (rightOf origin resource) origin :=
        readsAs_iff.2 ⟨stands, listed, rfl, written.symm⟩
      have rights : rightOf origin resource = right :=
        Except.ok.inj (readsOrigin.1.symm.trans reads.1)
      subst rights
      exact ⟨rfl, Option.some.inj (readsOrigin.2.symm.trans reads.2)⟩
  · intro resource
    rw [map_id_allFor]
    have distinct := Catalog.nodup_map_id_entries resource.kind generation
    refine List.Nodup.map_on ?_ distinct.of_map
    intro entry listed other listed' same
    exact
      List.inj_on_of_nodup_map distinct listed listed'
        (eq_of_rightOf_id_eq same)

end PrivilegeGraph.Entitlement
