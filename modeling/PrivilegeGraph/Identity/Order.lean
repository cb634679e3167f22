import PrivilegeGraph.Identity

/-!
# The order of identities

Identities are sorted by kind first and then by their parts, each by code point.
-/

namespace PrivilegeGraph.Identity

instance : Ord Identity where
  compare :=
    compareLex (compareOn fun identity => identity.kind.rank) (compareOn parts)

/-- Kind and parts name a resource completely. -/
theorem eq_of_kind_parts
    {first second : Identity}
    (sameKind : first.kind = second.kind)
    (sameParts : first.parts = second.parts) :
    first = second := by
  have firstBuilt := ofParts?_parts first
  rw [sameKind, sameParts, ofParts?_parts second] at firstBuilt
  exact (Option.some.inj firstBuilt).symm

instance : Std.TransOrd Identity :=
  inferInstanceAs
    (Std.TransCmp
      (compareLex (compareOn fun identity : Identity => identity.kind.rank)
        (compareOn parts)))

instance : Std.LawfulEqOrd Identity where
  eq_of_compare {first second} same := by
    have both :
        compare first.kind.rank second.kind.rank = .eq ∧
          compare first.parts second.parts = .eq :=
      Ordering.then_eq_eq.1 same
    exact eq_of_kind_parts
      (Kind.rank_injective (Std.LawfulEqOrd.eq_of_compare both.1))
      (Std.LawfulEqOrd.eq_of_compare both.2)

end PrivilegeGraph.Identity
