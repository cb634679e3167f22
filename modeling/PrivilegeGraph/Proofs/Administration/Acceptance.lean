import PrivilegeGraph.Proofs.Administration.Requests
import PrivilegeGraph.Proofs.Catalog

/-!
# Requests that are not refused

A resource is addressable when its parts pass their allow-lists, or when it is
a server whose name can stand in an id.  An entry of the catalog on an
addressable resource that is no routine always stands for a change, and a
user that passes the allow-lists can always be its grantee.
-/

namespace PrivilegeGraph

open Sql

/-- Whether a resource can be named in ids and in statements. -/
def Identity.Addressable : Identity → Prop
  | .server name => name ≠ "" ∧ ':' ∉ name.toList
  | other => other.Allowed

namespace Identity

theorem isSegment_of_isAllowed
    {part : String}
    (passes : isAllowed isIdentChar part = true) :
    IsSegment part :=
  ⟨ne_empty_of_isAllowed passes, not_mem_of_isAllowed passes (by decide)⟩

theorem wellFormed_of_addressable
    {identity : Identity}
    (addressable : identity.Addressable) :
    identity.WellFormed := by
  have ofAccount :
      ∀ account : Account, account.Allowed →
        account.host ≠ "" ∧ '@' ∉ account.host.toList :=
    fun account allowed =>
      ⟨ne_empty_of_isAllowed allowed.2,
        not_mem_of_isAllowed allowed.2 (by decide)⟩
  have ofParts :
      ∀ parts : List String,
        (∀ part ∈ parts, isAllowed isIdentChar part = true) →
          ∀ part ∈ parts, IsSegment part :=
    fun parts allowed part member =>
      isSegment_of_isAllowed (allowed part member)
  cases identity with
  | server name => exact addressable.1
  | user account => exact ofAccount account addressable
  | role account => exact ofAccount account addressable
  | database name => exact isSegment_of_isAllowed addressable
  | table schema name =>
      exact (wellFormed_iff_segments rfl).2 (ofParts _ addressable)
  | column schema owner name =>
      exact (wellFormed_iff_segments rfl).2 (ofParts _ addressable)
  | routine schema name =>
      exact (wellFormed_iff_segments rfl).2 (ofParts _ addressable)

theorem colon_not_mem_body
    {identity : Identity}
    (addressable : identity.Addressable) :
    ':' ∉ identity.body.toList := by
  have ofIdent :
      ∀ part, isAllowed isIdentChar part = true → ':' ∉ part.toList :=
    fun part passes => not_mem_of_isAllowed passes (by decide)
  have ofAccount :
      ∀ account : Account, account.Allowed → ':' ∉ account.text.toList := by
    rintro ⟨name, host⟩ ⟨nameAllowed, hostAllowed⟩
    have inName := not_mem_of_isAllowed nameAllowed (c := ':') (by decide)
    have inHost := not_mem_of_isAllowed hostAllowed (c := ':') (by decide)
    simp only at inName inHost
    simp [Account.text, inName, inHost]
  cases identity with
  | server name => exact addressable.2
  | user account => exact ofAccount account addressable
  | role account => exact ofAccount account addressable
  | database name => exact ofIdent name addressable
  | table schema name =>
      have inSchema := ofIdent schema (addressable schema (by simp))
      have inName := ofIdent name (addressable name (by simp))
      simp [body, inSchema, inName]
  | column schema owner name =>
      have inSchema := ofIdent schema (addressable schema (by simp))
      have inOwner := ofIdent owner (addressable owner (by simp))
      have inName := ofIdent name (addressable name (by simp))
      simp [body, inSchema, inOwner, inName]
  | routine schema name =>
      have inSchema := ofIdent schema (addressable schema (by simp))
      have inName := ofIdent name (addressable name (by simp))
      simp [body, inSchema, inName]

theorem encodablePrincipal_of_allowed
    {principal : Identity}
    {account : Account}
    (named : principal.account? = some account)
    (allowed : account.Allowed) :
    principal.EncodablePrincipal := by
  have addressable : principal.Addressable := by
    cases principal with
    | user holder =>
        cases named
        exact allowed
    | role holder =>
        cases named
        exact allowed
    | _ => cases named
  exact
    ⟨⟨account, named⟩, wellFormed_of_addressable addressable,
      colon_not_mem_body addressable⟩

end Identity

/-- The id of a right that the catalog lists on an addressable resource can be
read. -/
theorem Right.encodable_of_addressable
    {right : Right}
    {generation : Generation}
    {entry : Catalog.Entry}
    (listed : entry ∈ Catalog.entries right.resource.kind generation)
    (named : entry.id = right.privilege)
    (addressable : right.resource.Addressable) :
    right.Encodable := by
  refine
    ⟨?_, ?_, Identity.wellFormed_of_addressable addressable,
      Identity.colon_not_mem_body addressable⟩
  · rw [← named]
    exact Catalog.Entry.id_ne_empty (Catalog.mem_entries_iff.1 listed).1
  · rw [← named]
    exact Catalog.Entry.colon_not_mem_id listed

namespace Administration

open Store (Call)

theorem exists_accountDemand
    {entry : Catalog.Entry}
    {account : Account}
    (kind : Kind)
    (allowed : account.Allowed)
    (ofAccounts :
      entry.privilege.id = Privilege.roleAssignmentId ∨
        entry.privilege.id = Privilege.proxyId) :
    ∃ change,
      demandOn.accountDemand entry kind account = .ok (.change change) := by
  rcases exists_grantee allowed with ⟨target, named⟩
  have checked := Grantee.ofAccount_eq_ok_iff.2 named
  rw [demandOn.accountDemand, checked]
  by_cases assigns : entry.privilege.id = Privilege.roleAssignmentId
  · exact ⟨.membership target entry.withOption, if_pos assigns⟩
  · have proxies := ofAccounts.resolve_left assigns
    exact
      ⟨.proxy (some target) entry.withOption,
        (if_neg assigns).trans (if_pos proxies)⟩

theorem exists_dotted
    {schema name : String}
    (allowed : ∀ part ∈ [schema, name], isAllowed isIdentChar part = true) :
    ∃ target, Path.ofText (schema ++ "." ++ name) = .ok target := by
  rcases exists_path allowed with ⟨target, parts⟩
  have schemaSegment :=
    Identity.isSegment_of_isAllowed (allowed schema (by simp))
  have nameSegment :=
    Identity.isSegment_of_isAllowed (allowed name (by simp))
  exact ⟨target, (ofText_dotted_eq_ok_iff schemaSegment nameSegment).2 parts⟩

theorem exists_name
    {name : String}
    (allowed : isAllowed isIdentChar name = true) :
    ∃ target, Path.ofText name = .ok target := by
  have whole : ∀ part ∈ [name], isAllowed isIdentChar part = true := by
    simpa using allowed
  rcases exists_path whole with ⟨target, parts⟩
  have segment := Identity.isSegment_of_isAllowed allowed
  exact ⟨target, (ofText_eq_ok_iff_of_segment segment).2 parts⟩

theorem exists_demand
    {resource : Identity}
    {generation : Generation}
    {entry : Catalog.Entry}
    (listed : entry ∈ Catalog.entries resource.kind generation)
    (addressable : resource.Addressable)
    (settled : resource.kind ≠ .routine) :
    ∃ change, demandOn entry resource = .ok (.change change) := by
  cases resource with
  | server name =>
      rw [demandOn]
      split
      · exact ⟨_, rfl⟩
      · exact ⟨_, rfl⟩
  | database name =>
      rcases exists_name addressable with ⟨target, read⟩
      rw [demandOn, read]
      exact ⟨_, rfl⟩
  | table schema name =>
      rcases exists_dotted addressable with ⟨target, read⟩
      rw [demandOn, read]
      exact ⟨_, rfl⟩
  | column schema owner name =>
      have ofTable :
          ∀ part ∈ [schema, owner], isAllowed isIdentChar part = true :=
        fun part member =>
          addressable part (List.mem_append_left [name] member)
      rcases exists_dotted ofTable with ⟨table, tableRead⟩
      rcases exists_name (addressable name (by simp)) with ⟨column, read⟩
      rw [demandOn, read, tableRead]
      exact ⟨_, rfl⟩
  | routine schema name => exact absurd rfl settled
  | user account =>
      exact
        exists_accountDemand .user addressable
          (Catalog.privilege_of_account_entry (Or.inl rfl) listed)
  | role account =>
      exact
        exists_accountDemand .role addressable
          (Catalog.privilege_of_account_entry (Or.inr rfl) listed)

/-- A request about a listed right on an addressable resource that is no
routine passes every check for a user that passes the allow-lists. -/
theorem check_user
    {right : Right}
    {generation : Generation}
    {entry : Catalog.Entry}
    {grantee : Grantee}
    (listed :
      Catalog.lookup? right.resource.kind right.privilege generation =
        some entry)
    (addressable : right.resource.Addressable)
    (settled : right.resource.kind ≠ .routine) :
    ∃ change,
      check generation (.user grantee.account) right =
          .ok (.change change, grantee) ∧
        Means entry right.resource change := by
  have member := (Catalog.mem_entries_of_lookup? listed).1
  rcases exists_demand member addressable settled with ⟨change, demanded⟩
  have wellFormed := Identity.wellFormed_of_addressable addressable
  refine
    ⟨change, ?_, means_of_demandOn wellFormed demanded (.change change)⟩
  have found : entryOf generation right = .ok entry := by
    rw [entryOf, listed]
  have checked : Grantee.ofAccount grantee.account = .ok grantee :=
    Grantee.ofAccount_eq_ok_iff.2 rfl
  rw [check, found]
  show
    (Grantee.ofAccount grantee.account >>= fun grantee =>
        demandOn entry right.resource >>= fun demand =>
          pure (demand, grantee)) =
      Except.ok (Demand.change change, grantee)
  rw [checked, demanded]
  rfl

end Administration

end PrivilegeGraph
