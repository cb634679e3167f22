import PrivilegeGraph.Grant
import PrivilegeGraph.Proofs.Identity.Codec

/-!
# Composite ids

Entitlement, principal and grant ids are flat texts of four, two and seven
parts between colons.  Each reader accepts exactly the ids of values whose
parts can be told apart, so reading and writing are inverse where reading
succeeds.
-/

namespace PrivilegeGraph

/-- Whether a right's parts can be told apart in its id. -/
def Right.Encodable (right : Right) : Prop :=
  right.privilege ≠ "" ∧ ':' ∉ right.privilege.toList ∧
    right.resource.WellFormed ∧ ':' ∉ right.resource.body.toList

/-- Whether an identity is a user or role whose parts can be told apart in a
composite id. -/
def Identity.EncodablePrincipal (principal : Identity) : Prop :=
  (∃ account, principal.account? = some account) ∧
    principal.WellFormed ∧ ':' ∉ principal.body.toList

theorem Identity.eq_of_append_colon_eq_id
    {kind body : String}
    {identity : Identity}
    (free : ':' ∉ kind.toList)
    (same : kind ++ ":" ++ body = identity.id) :
    kind = identity.kind.name ∧ body = identity.body :=
  Text.append_separator_inj free
    (Identity.colon_not_mem_kindName identity.kind) same

namespace Right

theorem id_eq_joined (right : Right) :
    right.id =
      Text.joined ':'
        ["entitlement", right.privilege, right.resource.kind.name,
          right.resource.body] := by
  simp [id, Identity.id, String.append_assoc]

/-- Where privileges hold no colon, the id of a right tells its privilege and
the id of its resource. -/
theorem privilege_resource_of_id_eq
    {right other : Right}
    (free : ':' ∉ right.privilege.toList)
    (free' : ':' ∉ other.privilege.toList)
    (same : right.id = other.id) :
    right.privilege = other.privilege ∧
      right.resource.id = other.resource.id := by
  have rest :
      right.privilege ++ ":" ++ right.resource.id =
        other.privilege ++ ":" ++ other.resource.id := by
    simpa [id, String.append_assoc] using same
  exact Text.append_separator_inj free free' rest

theorem pieces_id
    {right : Right}
    (encodable : right.Encodable) :
    Text.pieces ':' right.id =
      ["entitlement", right.privilege, right.resource.kind.name,
        right.resource.body] := by
  rcases encodable with ⟨_, free, _, bodyFree⟩
  refine
    Text.pieces_eq_iff.2
      ⟨id_eq_joined right, List.cons_ne_nil _ _, ?_⟩
  simp [free, bodyFree, Identity.colon_not_mem_kindName]

theorem ofId_eq_ok_iff
    {id : String}
    {right : Right} :
    Right.ofId id = .ok right ↔ id = right.id ∧ right.Encodable := by
  constructor
  · intro read
    rw [Right.ofId] at read
    split at read
    · next privilege kind body cut =>
      split at read
      · cases read
      · next present =>
        rcases Text.pieces_eq_iff.1 cut with ⟨whole, _, free⟩
        cases parsed : Identity.parse (kind ++ ":" ++ body) with
        | error error =>
            rw [parsed] at read
            cases read
        | ok resource =>
            rw [parsed] at read
            cases read
            rcases Identity.parse_eq_ok_iff.1 parsed with ⟨same, wellFormed⟩
            have kindFree := free kind (by simp)
            rcases Identity.eq_of_append_colon_eq_id kindFree same with
              ⟨rfl, rfl⟩
            have privilegeFree := free privilege (by simp)
            have bodyFree := free resource.body (by simp)
            rw [whole, id_eq_joined]
            exact ⟨rfl, present, privilegeFree, wellFormed, bodyFree⟩
    · cases read
  · rintro ⟨rfl, encodable⟩
    have parsed :
        Identity.parse
            (right.resource.kind.name ++ ":" ++ right.resource.body) =
          .ok right.resource :=
      Identity.parse_eq_ok_iff.2 ⟨rfl, encodable.2.2.1⟩
    rw [Right.ofId, pieces_id encodable]
    simp only [if_neg encodable.1, parsed]
    rfl

end Right

namespace Identity

theorem pieces_id
    {identity : Identity}
    (bodyFree : ':' ∉ identity.body.toList) :
    Text.pieces ':' identity.id = [identity.kind.name, identity.body] := by
  refine Text.pieces_eq_iff.2 ⟨?_, List.cons_ne_nil _ _, ?_⟩
  · simp [id]
  · simp [bodyFree, colon_not_mem_kindName]

theorem principalOfId_eq_ok_iff
    {id : String}
    {principal : Identity} :
    principalOfId id = .ok principal ↔
      id = principal.id ∧ principal.EncodablePrincipal := by
  constructor
  · intro read
    rw [principalOfId] at read
    split at read
    · next kind body cut =>
      rcases Text.pieces_eq_iff.1 cut with ⟨whole, _, free⟩
      cases parsed : parse id with
      | error error =>
          rw [parsed] at read
          cases read
      | ok identity =>
          rw [parsed] at read
          rcases parse_eq_ok_iff.1 parsed with ⟨rfl, wellFormed⟩
          have bodyFree : ':' ∉ identity.body.toList := by
            have same : kind ++ ":" ++ body = identity.id := by
              simpa [String.append_assoc] using whole.symm
            rcases eq_of_append_colon_eq_id (free kind (by simp)) same with
              ⟨_, rfl⟩
            exact free _ (by simp)
          cases identity with
          | user account =>
              cases read
              exact ⟨rfl, ⟨account, rfl⟩, wellFormed, bodyFree⟩
          | role account =>
              cases read
              exact ⟨rfl, ⟨account, rfl⟩, wellFormed, bodyFree⟩
          | _ => cases read
    · cases read
  · rintro ⟨rfl, ⟨account, named⟩, wellFormed, bodyFree⟩
    have parsed : parse principal.id = .ok principal :=
      parse_eq_ok_iff.2 ⟨rfl, wellFormed⟩
    rw [principalOfId, pieces_id bodyFree]
    simp only [parsed]
    cases principal with
    | user account => rfl
    | role account => rfl
    | _ => cases named

end Identity

namespace Grant

/-- A grant id is read as a right and a principal exactly when it is the id of
the grant of that right to that principal and both can be told apart in it. -/
theorem partsOfId_eq_ok_iff
    {id : String}
    {right : Right}
    {principal : Identity} :
    partsOfId id = .ok (right, principal) ↔
      id = (ofRight right principal).id ∧ right.Encodable ∧
        principal.EncodablePrincipal := by
  constructor
  · intro read
    rw [partsOfId] at read
    split at read
    · next privilege kind body principalKind principalBody cut =>
      rcases Text.pieces_eq_iff.1 cut with ⟨whole, _, _⟩
      cases first :
          Right.ofId
            ("entitlement:" ++ privilege ++ ":" ++ kind ++ ":" ++ body) with
      | error error =>
          rw [first] at read
          cases read
      | ok found =>
          cases second :
              Identity.principalOfId
                (principalKind ++ ":" ++ principalBody) with
          | error error =>
              rw [first, second] at read
              cases read
          | ok holder =>
              rw [first, second] at read
              cases read
              rcases Right.ofId_eq_ok_iff.1 first with ⟨rightId, encodable⟩
              rcases Identity.principalOfId_eq_ok_iff.1 second with
                ⟨principalId, encodablePrincipal⟩
              refine ⟨?_, encodable, encodablePrincipal⟩
              rw [whole, ofRight, make, Identity.resourceId, ← rightId,
                ← principalId]
              simp [String.append_assoc]
    · cases read
  · rintro ⟨rfl, encodable, encodablePrincipal⟩
    have cut :
        Text.pieces ':' (ofRight right principal).id =
          ["grant", "entitlement", right.privilege, right.resource.kind.name,
            right.resource.body, principal.kind.name, principal.body] := by
      refine Text.pieces_eq_iff.2 ⟨?_, List.cons_ne_nil _ _, ?_⟩
      · simp [ofRight, make, Identity.resourceId, Right.id, Identity.id,
          String.append_assoc]
      · simp [encodable.2.1, encodable.2.2.2, encodablePrincipal.2.2,
          Identity.colon_not_mem_kindName]
    have first :
        Right.ofId
            ("entitlement:" ++ right.privilege ++ ":" ++
              right.resource.kind.name ++ ":" ++ right.resource.body) =
          .ok right := by
      refine Right.ofId_eq_ok_iff.2 ⟨?_, encodable⟩
      simp [Right.id, Identity.id, String.append_assoc]
    have second :
        Identity.principalOfId
            (principal.kind.name ++ ":" ++ principal.body) =
          .ok principal :=
      Identity.principalOfId_eq_ok_iff.2 ⟨rfl, encodablePrincipal⟩
    rw [partsOfId, cut]
    simp only [first, second]
    rfl

end Grant

/-! ## Writing and reading composite ids -/

/-- Whether reading undoes writing on exactly the values of a domain, and no
text is read that is not written. -/
structure ReadsBack
    {α : Type}
    (write : α → String)
    (read : String → Except Error α)
    (domain : α → Prop) : Prop where
  read_write : ∀ value, read (write value) = .ok value ↔ domain value
  write_of_read : ∀ id value, read id = .ok value → write value = id
  eq_of_read :
    ∀ id id' value, read id = .ok value → read id' = .ok value → id = id'

theorem ReadsBack.of_iff
    {α : Type}
    {write : α → String}
    {read : String → Except Error α}
    {domain : α → Prop}
    (reads :
      ∀ id value, read id = .ok value ↔ id = write value ∧ domain value) :
    ReadsBack write read domain where
  read_write value := by
    rw [reads]
    exact and_iff_right rfl
  write_of_read id value here := ((reads id value).1 here).1.symm
  eq_of_read id id' value here there :=
    ((reads id value).1 here).1.trans ((reads id' value).1 there).1.symm

theorem ReadsBack.congr
    {α : Type}
    {write : α → String}
    {read : String → Except Error α}
    {domain domain' : α → Prop}
    (readsBack : ReadsBack write read domain)
    (same : ∀ value, domain value ↔ domain' value) :
    ReadsBack write read domain' :=
  { readsBack with
    read_write := fun value =>
      (readsBack.read_write value).trans (same value) }

/-- Whether an identity is read from its own id, whose body holds no colon. -/
def Identity.StandsInComposite (identity : Identity) : Prop :=
  Identity.parse identity.id = .ok identity ∧
    ':' ∉ identity.body.toList

theorem Identity.standsInComposite_iff
    {identity : Identity} :
    identity.StandsInComposite ↔
      identity.WellFormed ∧ ':' ∉ identity.body.toList := by
  rw [StandsInComposite, parse_eq_ok_iff]
  simp

/-- The id of an entitlement is read back when the privilege is neither empty
nor divided by a colon and the resource can stand in it; the id of a principal
is when it is a user or role that can stand in it; and the id of a grant is
when both are.  What is read at all is read from the id that is written for
it. -/
theorem compositeIds_readBack :
    ReadsBack Right.id Right.ofId
        (fun right =>
          right.privilege ≠ "" ∧ ':' ∉ right.privilege.toList ∧
            right.resource.StandsInComposite) ∧
      ReadsBack Identity.id Identity.principalOfId
        (fun principal =>
          principal.account?.isSome = true ∧ principal.StandsInComposite) ∧
      ReadsBack
        (fun held : Right × Identity =>
          (Grant.make held.1.id held.1.resource.resourceId
            held.2.resourceId).id)
        Grant.partsOfId
        (fun held =>
          (held.1.privilege ≠ "" ∧ ':' ∉ held.1.privilege.toList ∧
              held.1.resource.StandsInComposite) ∧
            held.2.account?.isSome = true ∧ held.2.StandsInComposite) := by
  have ofRight :
      ∀ right : Right,
        right.Encodable ↔
          right.privilege ≠ "" ∧ ':' ∉ right.privilege.toList ∧
            right.resource.StandsInComposite := by
    intro right
    rw [Right.Encodable, Identity.standsInComposite_iff]
  have ofPrincipal :
      ∀ principal : Identity,
        principal.EncodablePrincipal ↔
          principal.account?.isSome = true ∧
            principal.StandsInComposite := by
    intro principal
    rw [Identity.EncodablePrincipal, Identity.standsInComposite_iff,
      Option.isSome_iff_exists]
  refine ⟨?_, ?_, ?_⟩
  · have readsBack := ReadsBack.of_iff fun _ _ => Right.ofId_eq_ok_iff
    exact readsBack.congr ofRight
  · have readsBack :=
      ReadsBack.of_iff fun _ _ => Identity.principalOfId_eq_ok_iff
    exact readsBack.congr ofPrincipal
  · apply ReadsBack.of_iff
    rintro id ⟨right, principal⟩
    rw [Grant.partsOfId_eq_ok_iff, ofRight right, ofPrincipal principal]
    exact Iff.rfl

end PrivilegeGraph
