import Mathlib.Tactic.ByContra
import PrivilegeGraph.Proofs.Account.Hosts
import PrivilegeGraph.Proofs.Identity.Containment

/-!
# Resources told apart by their ids

Two resources can share an id only when they are two tables, two columns or
two routines with dots in their names, or two accounts with at signs in their
hosts.
-/

namespace PrivilegeGraph

/-- Whether the id of a table or a column has no dots but those between its
parts. -/
structure ResourceId.Undotted (id : ResourceId) : Prop where
  table : id.kind = "table" → id.id.toList.count '.' = 1
  column : id.kind = "column" → id.id.toList.count '.' = 2

namespace Identity

theorem count_dot_id (identity : Identity) :
    identity.id.toList.count '.' = identity.body.toList.count '.' := by
  have noDot : ∀ kind : Kind, kind.name.toList.count '.' = 0 := by
    intro kind
    cases kind <;> decide
  simp [id, noDot]

/-- Parts between as few dots as possible hold none. -/
theorem dot_not_mem_parts
    {identity : Identity}
    (dotted : isDotted identity.kind = true)
    (few : identity.id.toList.count '.' + 1 = identity.parts.length) :
    ∀ part ∈ identity.parts, '.' ∉ part.toList := by
  rw [count_dot_id, body_eq_joined dotted,
    Text.count_joined '.' identity.parts_ne_nil] at few
  have none : (identity.parts.flatMap String.toList).count '.' = 0 := by
    omega
  simpa [List.count_eq_zero] using none

/-- Whether a resource that is an account has no at sign in its host. -/
def HostUndivided (identity : Identity) : Prop :=
  ∀ account ∈ identity.account?, '@' ∉ account.host.toList

/-- Whether some part of a resource has a dot in it. -/
def HasDot (identity : Identity) : Prop :=
  ∃ part ∈ identity.parts, '.' ∈ part.toList

/-- Whether two resources are different and written with one id all the same:
two tables or two columns, with dots in their names, or two accounts, one with
an at sign in its host. -/
structure Confused (first second : Identity) : Prop where
  differ : first ≠ second
  kind : first.kind = second.kind
  body : first.body = second.body
  cause :
    first.kind ∈ [.table, .column] ∧ first.HasDot ∧ second.HasDot ∨
      first.kind ∈ [.user, .role] ∧
        ¬(first.HostUndivided ∧ second.HostUndivided)

theorem Confused.id_eq
    {first second : Identity}
    (confused : Confused first second) :
    first.id = second.id := by
  rw [id, id, confused.kind, confused.body]

/-- A resource with dotted parts that shares its id with another one has a dot
in some part. -/
theorem hasDot_of_id_eq
    {identity other : Identity}
    (dotted : isDotted other.kind = true)
    (differ : identity ≠ other)
    (same : identity.id = other.id) :
    other.HasDot := by
  by_contra none
  apply differ
  apply eq_of_id_eq dotted _ same
  intro part member dot
  exact none ⟨part, member, dot⟩

/-- Resources that are no routines share an id only if they are confused. -/
theorem confused_of_id_eq
    {first second : Identity}
    (settled : second.kind ≠ .routine)
    (differ : first ≠ second)
    (same : first.id = second.id) :
    Confused first second := by
  rcases kind_body_of_id_eq same with ⟨kinds, bodies⟩
  refine ⟨differ, kinds, bodies, ?_⟩
  have dots (dotted : isDotted second.kind = true) :
      first.HasDot ∧ second.HasDot :=
    ⟨hasDot_of_id_eq (kinds ▸ dotted) differ.symm same.symm,
      hasDot_of_id_eq dotted differ same⟩
  rw [kinds]
  cases second with
  | table schema name => exact Or.inl ⟨List.mem_cons_self, dots rfl⟩
  | column schema owner name => exact Or.inl ⟨by simp [kind], dots rfl⟩
  | routine schema name => exact absurd rfl settled
  | server name =>
      cases first with
      | server other => exact absurd (congrArg server bodies) differ
      | _ => cases kinds
  | database name =>
      cases first with
      | database other => exact absurd (congrArg database bodies) differ
      | _ => cases kinds
  | user account =>
      cases first with
      | user other =>
          refine Or.inr ⟨List.mem_cons_self, ?_⟩
          rintro ⟨free, free'⟩
          have accounts :=
            Account.eq_of_text_eq (free _ rfl) (free' _ rfl) bodies
          exact differ (congrArg user accounts)
      | _ => cases kinds
  | role account =>
      cases first with
      | role other =>
          refine Or.inr ⟨by simp [kind], ?_⟩
          rintro ⟨free, free'⟩
          have accounts :=
            Account.eq_of_text_eq (free _ rfl) (free' _ rfl) bodies
          exact differ (congrArg role accounts)
      | _ => cases kinds

/-- A table or a column with an undotted id has no dot in its parts. -/
theorem not_hasDot_of_undotted
    {identity : Identity}
    (sort : identity.kind ∈ [.table, .column])
    (undotted : identity.resourceId.Undotted) :
    ¬identity.HasDot := by
  rintro ⟨part, member, dot⟩
  refine dot_not_mem_parts ?_ ?_ part member dot
  · cases identity <;> first | rfl | simp [kind] at sort
  · cases identity with
    | table schema name =>
        have one : (table schema name).id.toList.count '.' = 1 :=
          undotted.table rfl
        rw [one]
        rfl
    | column schema owner name =>
        have two : (column schema owner name).id.toList.count '.' = 2 :=
          undotted.column rfl
        rw [two]
        rfl
    | _ => simp [kind] at sort

/-- Among resources that are no routines and whose hosts hold no at signs, one
with an undotted id shares it with no other. -/
theorem eq_of_resourceId_eq
    {identity other : Identity}
    (undotted : other.resourceId.Undotted)
    (settled : other.kind ≠ .routine)
    (free : identity.HostUndivided)
    (free' : other.HostUndivided)
    (same : identity.resourceId = other.resourceId) :
    identity = other := by
  by_contra differ
  have confused :=
    confused_of_id_eq settled differ (congrArg ResourceId.id same)
  rcases confused.cause with ⟨sort, _, dot⟩ | ⟨_, divided⟩
  · rw [confused.kind] at sort
    exact not_hasDot_of_undotted sort undotted dot
  · exact divided ⟨free, free'⟩

end Identity

end PrivilegeGraph
