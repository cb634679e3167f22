import Mathlib.Data.List.Forall2
import PrivilegeGraph.Proofs.Sql.Names
import PrivilegeGraph.Proofs.Sql.Reading

/-!
# Patterns of database names

In a statement about everything in a database, a server takes the quoted name
for a pattern.  An allow-listed name holds no percent sign and no backslash,
so it covers the names of its own length that agree with it apart from its
underscores, and it covers its own name alone exactly when it has none.
-/

namespace PrivilegeGraph.Sql

/-- Whether a pattern covers a name.  An underscore stands for any one
character and a percent sign for any sequence of them, and a backslash makes
the character after it stand for itself. -/
def coversChars : List Char → List Char → Bool
  | [], name => name.isEmpty
  | '\\' :: c :: pattern, x :: rest => x == c && coversChars pattern rest
  | '\\' :: _ :: _, [] => false
  | '%' :: pattern, name => name.tails.any (coversChars pattern)
  | c :: pattern, x :: rest =>
      (c == '_' || x == c) && coversChars pattern rest
  | _ :: _, [] => false

/-- Whether a pattern covers a database. -/
def Covers (pattern database : String) : Prop :=
  coversChars pattern.toList database.toList = true

instance (pattern database : String) : Decidable (Covers pattern database) :=
  inferInstanceAs (Decidable (_ = true))

/-- The pattern of a statement about everything in a database: the name that
stands between `ON` and `.*`. -/
def databasePattern? (statement : String) : Option String :=
  match readTokens? statement.toList with
  | some (.bare opening :: .name pattern :: .bare closing :: _) =>
      if " ON ".toList <:+ opening.toList ∧ ".*".toList <+: closing.toList then
        some pattern
      else
        none
  | _ => none

/-! ## Allow-listed names as patterns -/

/-- Whether a name agrees with a pattern apart from its underscores. -/
def AgreesApart (pattern name : List Char) : Prop :=
  List.Forall₂ (fun mark c => mark = '_' ∨ c = mark) pattern name

/-- A pattern without percent signs and backslashes leaves open nothing but
what stands for its underscores. -/
theorem coversChars_iff_agreesApart
    {pattern name : List Char}
    (noPercent : '%' ∉ pattern)
    (noEscape : '\\' ∉ pattern) :
    coversChars pattern name = true ↔ AgreesApart pattern name := by
  induction pattern generalizing name with
  | nil => cases name <;> simp [coversChars, AgreesApart]
  | cons mark pattern ih =>
      simp only [List.mem_cons, not_or] at noPercent noEscape
      have unescaped :
          ∀ c rest, mark = '\\' → pattern = c :: rest → False :=
        fun _ _ escape _ => noEscape.1 escape.symm
      have single : mark = '%' → False :=
        fun percent => noPercent.1 percent.symm
      cases name with
      | nil => simp [coversChars, AgreesApart]
      | cons x name =>
          rw [coversChars.eq_5 mark pattern x name unescaped single]
          simp [AgreesApart, ih noPercent.2 noEscape.2]

theorem covers_iff_agreesApart
    {pattern : String}
    (allowed : isAllowed isIdentChar pattern = true)
    (database : String) :
    Covers pattern database ↔
      AgreesApart pattern.toList database.toList :=
  coversChars_iff_agreesApart (not_mem_of_isAllowed allowed (by decide))
    (not_mem_of_isAllowed allowed (by decide))

theorem eq_of_agreesApart
    {pattern name : List Char}
    (closed : '_' ∉ pattern)
    (agrees : AgreesApart pattern name) :
    name = pattern := by
  induction agrees with
  | nil => rfl
  | @cons mark c pattern name same rest ih =>
      simp only [List.mem_cons, not_or] at closed
      have first : c = mark := same.resolve_left fun mark => closed.1 mark.symm
      rw [first, ih closed.2]

/-- Another character in the place of each underscore agrees apart from them. -/
theorem agreesApart_filled (pattern : List Char) :
    AgreesApart pattern (pattern.map fun c => if c = '_' then 'x' else c) := by
  rw [AgreesApart, List.forall₂_map_right_iff, List.forall₂_same]
  intro c _
  by_cases mark : c = '_'
  · exact Or.inl mark
  · exact Or.inr (if_neg mark)

/-- A name without underscores is the only one that agrees with it, and a name
with one is not. -/
theorem forall_eq_iff_of_agreesApart {pattern : String} :
    (∀ name : String,
        AgreesApart pattern.toList name.toList → name = pattern) ↔
      '_' ∉ pattern.toList := by
  constructor
  · intro only member
    let filled := pattern.toList.map fun c => if c = '_' then 'x' else c
    have same : String.ofList filled = pattern := by
      apply only
      rw [String.toList_ofList]
      exact agreesApart_filled pattern.toList
    rw [← same, String.toList_ofList] at member
    rcases List.mem_map.1 member with ⟨c, _, stays⟩
    split at stays
    · cases stays
    · contradiction
  · intro closed name agrees
    exact String.toList_injective (eq_of_agreesApart closed agrees)

end PrivilegeGraph.Sql
