import PrivilegeGraph.Error
import PrivilegeGraph.Identity.Order

/-!
# Rights

A right is a privilege on a resource.  It is what an entitlement offers, what a
principal is observed to hold, and what a change of access names.  Its id is
`entitlement:{privilege}:{resource id}`.
-/

namespace PrivilegeGraph

/-- A privilege, by its catalog id, on a resource. -/
structure Right where
  privilege : String
  resource : Identity
  deriving DecidableEq, Repr

namespace Right

/-- The id of a right. -/
def id (right : Right) : String :=
  "entitlement:" ++ right.privilege ++ ":" ++ right.resource.id

/-- Read the id of a right.  It has exactly four parts between colons, so
neither the privilege nor the body of the resource can hold one. -/
def ofId (id : String) : Except Error Right :=
  match Text.pieces ':' id with
  | ["entitlement", privilege, kind, body] =>
      if privilege = "" then
        .error (.malformedCompositeId id)
      else do
        let resource ← Identity.parse (kind ++ ":" ++ body)
        return ⟨privilege, resource⟩
  | _ => .error (.malformedCompositeId id)

instance : Ord Right where
  compare := compareLex (compareOn privilege) (compareOn resource)

instance : Std.TransOrd Right :=
  inferInstanceAs
    (Std.TransCmp (compareLex (compareOn privilege) (compareOn resource)))

instance : Std.LawfulEqOrd Right where
  eq_of_compare {first second} same := by
    have both :
        compare first.privilege second.privilege = .eq ∧
          compare first.resource second.resource = .eq :=
      Ordering.then_eq_eq.1 same
    cases first
    cases second
    simp only [mk.injEq]
    exact
      ⟨Std.LawfulEqOrd.eq_of_compare both.1,
        Std.LawfulEqOrd.eq_of_compare both.2⟩

end Right

/-- Read the id of a user or role that takes part in a grant.  It has exactly
one colon. -/
def Identity.principalOfId (id : String) : Except Error Identity :=
  match Text.pieces ':' id with
  | [_, _] => do
      let identity ← Identity.parse id
      match identity with
      | .user _ | .role _ => return identity
      | other => throw (.unsupportedKind other.kind.name)
  | _ => .error (.malformedCompositeId id)

end PrivilegeGraph
