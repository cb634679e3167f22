import Mathlib.Data.Set.Function
import PrivilegeGraph.Proofs.Grant.Codec
import PrivilegeGraph.Proofs.Identity.Containment

/-!
# Ids of resources, one to one

Writing and reading ids are inverse to one another between the identities
whose parts can be told apart and the texts that are read at all.  A resource
with dotted parts that cannot be told apart has an id that is read as nothing,
so a name with a dot in it never stands for another resource.
-/

namespace PrivilegeGraph.Identity

/-- The texts that are read as an identity. -/
def acceptedIds : Set String :=
  {text | ∃ identity, parse text = .ok identity}

theorem id_readsBack : ReadsBack Identity.id parse WellFormed :=
  ReadsBack.of_iff fun _ _ => parse_eq_ok_iff

theorem bijOn_id :
    Set.BijOn Identity.id {identity | identity.WellFormed} acceptedIds := by
  refine ⟨?_, ?_, ?_⟩
  · intro identity wellFormed
    exact ⟨identity, (id_readsBack.read_write identity).2 wellFormed⟩
  · intro first wellFormed second wellFormed' same
    have readFirst := (id_readsBack.read_write first).2 wellFormed
    have readSecond := (id_readsBack.read_write second).2 wellFormed'
    rw [same, readSecond] at readFirst
    exact (Except.ok.inj readFirst).symm
  · rintro text ⟨identity, read⟩
    have written := id_readsBack.write_of_read text identity read
    refine ⟨identity, ?_, written⟩
    rw [← written] at read
    exact (id_readsBack.read_write identity).1 read

/-- What the id of a resource with dotted parts is read as is the resource
itself, so nothing is read where that is ill-formed. -/
theorem parse_id_of_not_wellFormed
    {identity : Identity}
    (dotted : isDotted identity.kind = true)
    (illFormed : ¬identity.WellFormed) :
    parse identity.id = .error (.malformedId identity.id) := by
  cases parsed : parse identity.id with
  | error error => rw [eq_of_parse_error parsed]
  | ok read =>
      rcases parse_eq_ok_iff.1 parsed with ⟨same, wellFormed⟩
      rw [(kind_body_of_id_eq same).1] at dotted
      rw [eq_of_parse_id dotted parsed] at illFormed
      exact absurd wellFormed illFormed

/-- Well-formed identities and accepted texts correspond one to one: a text
that is read is the id of what it is read as, and an identity is read back
from its id exactly if it is well formed.  The id of an ill-formed resource
with dotted parts is refused. -/
theorem ids_oneToOne :
    ReadsBack Identity.id parse WellFormed ∧
      Set.BijOn Identity.id {identity | identity.WellFormed} acceptedIds ∧
      ∀ identity : Identity,
        isDotted identity.kind = true → ¬identity.WellFormed →
          parse identity.id = .error (.malformedId identity.id) :=
  ⟨id_readsBack, bijOn_id, fun _ => parse_id_of_not_wellFormed⟩

/-- A table in a database whose name has a dot is not read as a column. -/
theorem ids_oneToOne_dottedSchema :
    let table : Identity := .table "shop.old" "orders"
    isDotted table.kind = true ∧ ¬table.WellFormed ∧
      parse "table:shop.old.orders" =
        .error (.malformedId "table:shop.old.orders") := by
  intro table
  have illFormed : ¬table.WellFormed := by
    rintro ⟨⟨_, free⟩, _⟩
    exact free (by decide)
  exact ⟨rfl, illFormed, ids_oneToOne.2.2 table rfl illFormed⟩

end PrivilegeGraph.Identity
