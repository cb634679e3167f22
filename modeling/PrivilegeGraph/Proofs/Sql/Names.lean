import PrivilegeGraph.Proofs.Text.Pieces
import PrivilegeGraph.Sql.Name

/-!
# Names that pass their allow-lists

What passes an allow-list holds none of the characters that divide ids and
dotted names, so it is one part wherever it is put.
-/

namespace PrivilegeGraph

/-- Whether the name and the host of an account pass their allow-lists. -/
def Account.Allowed (account : Account) : Prop :=
  Sql.isAllowed Sql.isUserChar account.name = true ∧
    Sql.isAllowed Sql.isHostChar account.host = true

instance (account : Account) : Decidable account.Allowed :=
  inferInstanceAs (Decidable (_ ∧ _))

/-- Whether the parts of a resource that statements quote pass their
allow-lists.  The name of a server is never quoted. -/
def Identity.Allowed : Identity → Prop
  | .server _ => True
  | .database name => Sql.isAllowed Sql.isIdentChar name = true
  | .table schema name =>
      ∀ part ∈ [schema, name], Sql.isAllowed Sql.isIdentChar part = true
  | .column schema owner name =>
      ∀ part ∈ [schema, owner, name],
        Sql.isAllowed Sql.isIdentChar part = true
  | .routine schema name =>
      ∀ part ∈ [schema, name], Sql.isAllowed Sql.isIdentChar part = true
  | .user account => account.Allowed
  | .role account => account.Allowed

namespace Sql

section

variable
    {allowed : Char → Bool}
    {text : String}

theorem ne_empty_of_isAllowed
    (passes : isAllowed allowed text = true) :
    text ≠ "" := by
  simp only [isAllowed, Bool.and_eq_true, bne_iff_ne] at passes
  exact passes.1

theorem allowed_of_mem
    (passes : isAllowed allowed text = true)
    {c : Char}
    (member : c ∈ text.toList) :
    allowed c = true := by
  simp only [isAllowed, Bool.and_eq_true, List.all_eq_true] at passes
  exact passes.2 c member

theorem not_mem_of_isAllowed
    (passes : isAllowed allowed text = true)
    {c : Char}
    (refused : allowed c = false) :
    c ∉ text.toList := by
  intro member
  rw [allowed_of_mem passes member] at refused
  cases refused

end

/-- What may stand in an account is printable ASCII other than the blank. -/
theorem printable_of_isHostChar
    {c : Char}
    (host : isHostChar c = true) :
    33 ≤ c.toNat ∧ c.toNat ≤ 126 := by
  have same : c.toNat = c.val.toNat := rfl
  simp only [isHostChar, isUserChar, isIdentChar, Bool.or_eq_true,
    Bool.and_eq_true, decide_eq_true_eq, beq_iff_eq, Char.le_def,
    UInt32.le_iff_toNat_le, or_assoc] at host
  rw [same]
  rcases host with lower | upper | digit | rfl | rfl | rfl | rfl | rfl
  · simp at lower
    omega
  · simp at upper
    omega
  · simp at digit
    omega
  all_goals decide

theorem not_blank_of_isHostChar
    {c : Char}
    (host : isHostChar c = true) :
    Text.isBlank c = false := by
  have printable := printable_of_isHostChar host
  simp only [Text.isBlank, Text.inRanges, Text.blankRanges]
  simp
  omega

theorem trimmed_of_isAllowed
    {host : String}
    (passes : isAllowed isHostChar host = true) :
    Text.trimmed host = host := by
  have unblank : ∀ c ∈ host.toList, Text.isBlank c = false :=
    fun c member => not_blank_of_isHostChar (allowed_of_mem passes member)
  rw [Text.trimmed, Text.trimmedChars_eq_self, String.ofList_toList]
  · intro c first
    exact unblank c (List.mem_of_head? first)
  · intro c last
    exact unblank c (List.mem_of_getLast? last)

theorem Path.ofText_eq_ok_iff
    {text : String}
    {path : Path} :
    Path.ofText text = .ok path ↔ path.parts = Text.pieces '.' text := by
  rcases path with ⟨parts, allowed⟩
  rw [Path.ofText]
  constructor
  · intro read
    split at read
    · cases read
      rfl
    · cases read
  · rintro rfl
    rw [dif_pos allowed]

theorem Grantee.ofAccount_eq_ok_iff
    {account : Account}
    {grantee : Grantee} :
    Grantee.ofAccount account = .ok grantee ↔ grantee.account = account := by
  rcases grantee with ⟨checked, name_allowed, host_allowed⟩
  rw [Grantee.ofAccount]
  constructor
  · intro read
    split at read
    · split at read
      · cases read
        rfl
      · cases read
    · cases read
  · rintro rfl
    rw [dif_pos name_allowed, dif_pos host_allowed]

theorem Grantee.allowed (grantee : Grantee) : grantee.account.Allowed :=
  ⟨grantee.name_allowed, grantee.host_allowed⟩

/-- An account that passes can stand in a statement. -/
theorem exists_grantee
    {account : Account}
    (passes : account.Allowed) :
    ∃ grantee : Grantee, grantee.account = account :=
  ⟨⟨account, passes.1, passes.2⟩, rfl⟩

/-- Names that pass can stand in a statement. -/
theorem exists_path
    {parts : List String}
    (pass : ∀ part ∈ parts, isAllowed isIdentChar part = true) :
    ∃ path : Path, path.parts = parts :=
  ⟨⟨parts, pass⟩, rfl⟩

end Sql

end PrivilegeGraph
