import PrivilegeGraph.Identity.Order
import PrivilegeGraph.Proofs.Identity.Codec

/-!
# Resources and the databases around them

A database contains itself and the tables, columns and routines in it.  A
resource is outside some databases when none of them contains it.  Ids keep
that apart: one that is read at all as a resource with dotted parts was made
for that resource.
-/

namespace PrivilegeGraph

namespace Identity

/-- The database that a resource is or lies in. -/
def database? : Identity → Option String
  | .database name => some name
  | .table schema _ => some schema
  | .column schema _ _ => some schema
  | .routine schema _ => some schema
  | _ => none

/-- Whether a resource is none of some databases and lies in none of them. -/
def Outside
    (identity : Identity)
    (databases : List String) : Prop :=
  ∀ database ∈ identity.database?, database ∉ databases

theorem outside_of_database
    {identity : Identity}
    {database : String}
    {databases : List String}
    (lies : identity.database? = some database)
    (apart : database ∉ databases) :
    identity.Outside databases := by
  intro other member
  rw [lies] at member
  cases member
  exact apart

theorem outside_of_not_dotted
    {identity : Identity}
    (plain : isDotted identity.kind = false)
    (databases : List String) :
    identity.Outside databases := by
  intro database member
  cases identity with
  | server name => cases member
  | user account => cases member
  | role account => cases member
  | _ => cases plain

theorem length_parts_of_kind
    {first second : Identity}
    (same : first.kind = second.kind) :
    first.parts.length = second.parts.length := by
  cases first <;> cases second <;> first | rfl | cases same

/-- The id of a resource tells its kind and its body. -/
theorem kind_body_of_id_eq
    {identity other : Identity}
    (same : identity.id = other.id) :
    identity.kind = other.kind ∧ identity.body = other.body := by
  rcases
      Text.append_separator_inj (colon_not_mem_kindName identity.kind)
        (colon_not_mem_kindName other.kind) same with
    ⟨kinds, bodies⟩
  exact ⟨Kind.name_injective kinds, bodies⟩

/-- A resource whose dotted parts hold no dots shares its id with no other
one. -/
theorem eq_of_id_eq
    {identity other : Identity}
    (dotted : isDotted other.kind = true)
    (free : ∀ part ∈ other.parts, '.' ∉ part.toList)
    (same : identity.id = other.id) :
    identity = other := by
  rcases kind_body_of_id_eq same with ⟨kinds, bodies⟩
  apply eq_of_kind_parts kinds
  apply
    Text.eq_of_joined_eq other.parts_ne_nil (length_parts_of_kind kinds) free
  rw [← body_eq_joined dotted, ← body_eq_joined (kinds ▸ dotted), bodies]

/-- An id that is read as a resource with dotted parts was made for no other
one. -/
theorem eq_of_parse_id
    {identity read : Identity}
    (dotted : isDotted read.kind = true)
    (parsed : parse identity.id = .ok read) :
    identity = read := by
  rcases parse_eq_ok_iff.1 parsed with ⟨same, wellFormed⟩
  apply eq_of_id_eq dotted _ same
  intro part member
  exact ((wellFormed_iff_segments dotted).1 wellFormed part member).2

theorem Outside.of_parse
    {identity read : Identity}
    {databases : List String}
    (outside : identity.Outside databases)
    (parsed : parse identity.id = .ok read) :
    read.Outside databases := by
  cases dotted : isDotted read.kind with
  | false => exact outside_of_not_dotted dotted databases
  | true =>
      rw [← eq_of_parse_id dotted parsed]
      exact outside

end Identity

/-- Whether an id was made for a resource outside some databases, and is read
as one if it is read at all. -/
structure ResourceId.Outside
    (id : ResourceId)
    (databases : List String) : Prop where
  made :
    ∃ identity : Identity,
      id = identity.resourceId ∧ identity.Outside databases
  read :
    ∀ identity, Identity.parse id.id = .ok identity →
      identity.Outside databases

theorem Identity.Outside.resourceId
    {identity : Identity}
    {databases : List String}
    (outside : identity.Outside databases) :
    identity.resourceId.Outside databases where
  made := ⟨identity, rfl, outside⟩
  read _ := outside.of_parse

end PrivilegeGraph
