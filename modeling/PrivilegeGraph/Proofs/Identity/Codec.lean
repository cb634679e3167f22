import PrivilegeGraph.Error
import PrivilegeGraph.Proofs.Text.Pieces

/-!
# Ids and the identities that they denote

An identity is well formed when its parts can be told apart in its id.  A text
is read as an identity exactly when the identity is well formed and the text
is its id.
-/

namespace PrivilegeGraph.Identity

/-- Whether a part can be told apart between dots. -/
def IsSegment (part : String) : Prop :=
  part ≠ "" ∧ '.' ∉ part.toList

instance (part : String) : Decidable (IsSegment part) :=
  inferInstanceAs (Decidable (_ ∧ _))

/-- Whether the parts of an identity can be told apart in its id. -/
def WellFormed : Identity → Prop
  | .server name => name ≠ ""
  | .database name => IsSegment name
  | .table schema name => IsSegment schema ∧ IsSegment name
  | .column schema owner name =>
      IsSegment schema ∧ IsSegment owner ∧ IsSegment name
  | .routine schema name => IsSegment schema ∧ IsSegment name
  | .user account => account.host ≠ "" ∧ '@' ∉ account.host.toList
  | .role account => account.host ≠ "" ∧ '@' ∉ account.host.toList

/-- Whether the parts of resources of a kind stand between dots. -/
def isDotted : Kind → Bool
  | .database | .table | .column | .routine => true
  | .server | .user | .role => false

theorem body_eq_joined
    {identity : Identity}
    (dotted : isDotted identity.kind = true) :
    identity.body = Text.joined '.' identity.parts := by
  cases identity with
  | server name => cases dotted
  | user account => cases dotted
  | role account => cases dotted
  | database name => simp [body, parts]
  | table schema name => simp [body, parts]
  | column schema owner name =>
      simp [body, parts, String.append_assoc]
  | routine schema name => simp [body, parts]

theorem wellFormed_iff_segments
    {identity : Identity}
    (dotted : isDotted identity.kind = true) :
    identity.WellFormed ↔ ∀ part ∈ identity.parts, IsSegment part := by
  cases identity with
  | server name => cases dotted
  | user account => cases dotted
  | role account => cases dotted
  | database name => simp [WellFormed, parts]
  | table schema name => simp [WellFormed, parts]
  | column schema owner name => simp [WellFormed, parts]
  | routine schema name => simp [WellFormed, parts]

theorem parts_ne_nil (identity : Identity) :
    identity.parts ≠ [] := by
  cases identity <;> simp [parts]

theorem bodyParts?_dotted
    {kind : Kind}
    (dotted : isDotted kind = true)
    (body : String) :
    bodyParts? kind body =
      if "" ∈ Text.pieces '.' body then none
      else some (Text.pieces '.' body) := by
  cases kind <;> first | rfl | cases dotted

theorem ofParts?_eq_some_iff
    {kind : Kind}
    {parts : List String}
    {identity : Identity} :
    ofParts? kind parts = some identity ↔
      identity.kind = kind ∧ identity.parts = parts := by
  constructor
  · exact kind_parts_of_ofParts?
  · rintro ⟨rfl, rfl⟩
    exact ofParts?_parts identity

theorem ofBody?_dotted_iff
    {kind : Kind}
    (dotted : isDotted kind = true)
    {body : String}
    {identity : Identity} :
    ofBody? kind body = some identity ↔
      identity.kind = kind ∧ body = identity.body ∧
        identity.WellFormed := by
  rw [ofBody?, bodyParts?_dotted dotted]
  constructor
  · intro built
    split at built
    · cases built
    · next noneEmpty =>
      rcases ofParts?_eq_some_iff.1 built with ⟨rfl, same⟩
      rcases Text.pieces_eq_iff.1 same.symm with ⟨whole, _, free⟩
      refine ⟨rfl, whole.trans (body_eq_joined dotted).symm, ?_⟩
      rw [wellFormed_iff_segments dotted]
      intro part member
      refine ⟨?_, free part member⟩
      rintro rfl
      exact noneEmpty (same ▸ member)
  · rintro ⟨rfl, rfl, wellFormed⟩
    rw [wellFormed_iff_segments dotted] at wellFormed
    have cut :
        Text.pieces '.' identity.body = identity.parts :=
      Text.pieces_eq_iff.2
        ⟨body_eq_joined dotted, parts_ne_nil identity,
          fun part member => (wellFormed part member).2⟩
    rw [cut, if_neg fun member => (wellFormed "" member).1 rfl]
    exact ofParts?_parts identity

theorem body_ne_empty
    {identity : Identity}
    (wellFormed : identity.WellFormed) :
    identity.body ≠ "" := by
  cases identity with
  | server name => exact wellFormed
  | database name => exact wellFormed.1
  | table schema name => simp [body]
  | column schema owner name => simp [body]
  | routine schema name => simp [body]
  | user account => simp [body, Account.text]
  | role account => simp [body, Account.text]

theorem map_ofText?_eq_some_iff
    {build : Account → Identity}
    {body : String}
    {identity : Identity} :
    (Account.ofText? body).map build = some identity ↔
      ∃ account, build account = identity ∧ body = account.text ∧
        account.host ≠ "" ∧ '@' ∉ account.host.toList := by
  simp only [Option.map_eq_some_iff, Account.ofText?_eq_some_iff]
  constructor
  · rintro ⟨account, parsed, built⟩
    exact ⟨account, built, parsed⟩
  · rintro ⟨account, built, parsed⟩
    exact ⟨account, parsed, built⟩

theorem ofBody?_user (body : String) :
    ofBody? .user body = (Account.ofText? body).map Identity.user := by
  cases found : Account.ofText? body <;>
    simp [ofBody?, bodyParts?, found, ofParts?]

theorem ofBody?_role (body : String) :
    ofBody? .role body = (Account.ofText? body).map Identity.role := by
  cases found : Account.ofText? body <;>
    simp [ofBody?, bodyParts?, found, ofParts?]

/-- A body that is not empty is read as an identity exactly when the identity
is well formed and the body is its own. -/
theorem ofBody?_eq_some_iff
    {kind : Kind}
    {body : String}
    (present : body ≠ "")
    {identity : Identity} :
    ofBody? kind body = some identity ↔
      identity.kind = kind ∧ body = identity.body ∧
        identity.WellFormed := by
  cases kind with
  | database => exact ofBody?_dotted_iff rfl
  | table => exact ofBody?_dotted_iff rfl
  | column => exact ofBody?_dotted_iff rfl
  | routine => exact ofBody?_dotted_iff rfl
  | server =>
      constructor
      · rintro ⟨⟩
        exact ⟨rfl, rfl, present⟩
      · rintro ⟨sameKind, rfl, _⟩
        cases identity <;> first | rfl | cases sameKind
  | user =>
      rw [ofBody?_user, map_ofText?_eq_some_iff]
      constructor
      · rintro ⟨account, rfl, parsed⟩
        exact ⟨rfl, parsed⟩
      · rintro ⟨sameKind, parsed⟩
        cases identity with
        | user account => exact ⟨account, rfl, parsed⟩
        | _ => cases sameKind
  | role =>
      rw [ofBody?_role, map_ofText?_eq_some_iff]
      constructor
      · rintro ⟨account, rfl, parsed⟩
        exact ⟨rfl, parsed⟩
      · rintro ⟨sameKind, parsed⟩
        cases identity with
        | role account => exact ⟨account, rfl, parsed⟩
        | _ => cases sameKind

theorem colon_not_mem_kindName (kind : Kind) :
    ':' ∉ kind.name.toList := by
  cases kind <;> decide

/-- A text is read as an identity exactly when it is the id of that identity,
which is well formed. -/
theorem ofId?_eq_some_iff
    {id : String}
    {identity : Identity} :
    ofId? id = some identity ↔
      id = identity.id ∧ identity.WellFormed := by
  constructor
  · intro read
    unfold ofId? at read
    split at read
    · next kindName body cut =>
      rcases Text.cutFirst?_eq_some_iff.1 cut with ⟨whole, _⟩
      split at read
      · cases read
      · next present =>
        rcases Option.bind_eq_some_iff.1 read with ⟨kind, named, built⟩
        rcases (ofBody?_eq_some_iff present).1 built with
          ⟨rfl, rfl, wellFormed⟩
        rw [Kind.ofName?_eq_some_iff.1 named] at whole
        exact ⟨whole, wellFormed⟩
    · cases read
  · rintro ⟨rfl, wellFormed⟩
    have cut :
        Text.cutFirst? ':' identity.id =
          some (identity.kind.name, identity.body) :=
      Text.cutFirst?_eq_some_iff.2
        ⟨rfl, colon_not_mem_kindName identity.kind⟩
    have present := body_ne_empty wellFormed
    have built :
        ofBody? identity.kind identity.body = some identity :=
      (ofBody?_eq_some_iff present).2 ⟨rfl, rfl, wellFormed⟩
    unfold ofId?
    rw [cut]
    simp [present, built]

theorem parse_eq_ok_iff
    {id : String}
    {identity : Identity} :
    parse id = .ok identity ↔
      id = identity.id ∧ identity.WellFormed := by
  rw [← ofId?_eq_some_iff]
  rw [parse]
  cases ofId? id <;> simp

/-- Reading an id fails in one way only. -/
theorem eq_of_parse_error
    {id : String}
    {error : Error}
    (failed : parse id = .error error) :
    error = .malformedId id := by
  rw [parse] at failed
  split at failed
  · cases failed
  · cases failed
    rfl

end PrivilegeGraph.Identity
