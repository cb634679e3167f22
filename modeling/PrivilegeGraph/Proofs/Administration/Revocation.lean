import PrivilegeGraph.Proofs.Administration.Acceptance

/-!
# Statements that take rights back

`Revokes` writes out, kind by kind, the text that takes an entry on a resource
back from an account.  Revoking the grant of a listed right to a user hands
over this text and nothing else, provided that names pass their allow-lists.
-/

namespace PrivilegeGraph

open Sql

/-! ## Texts -/

/-- A name in backticks. -/
def Sql.backticked (name : String) : String :=
  "`" ++ name ++ "`"

/-- An account as statements write it. -/
def Account.quoted (account : Account) : String :=
  Sql.quoted account.name ++ "@" ++ Sql.quoted account.host

namespace Sql

theorem tokensText_bare
    (text : String)
    (tokens : List Token) :
    tokensText (.bare text :: tokens) = text ++ tokensText tokens := by
  simp [tokensText, Token.chars]

theorem tokensText_literal
    (text : String)
    (tokens : List Token) :
    tokensText (.literal text :: tokens) =
      quoted text ++ tokensText tokens := by
  simp [tokensText, quoted]

theorem nameChars_of_isAllowed
    {name : String}
    (passes : isAllowed isIdentChar name = true) :
    nameChars name.toList = name.toList := by
  rw [nameChars, doubled_of_not_mem]
  exact not_mem_of_isAllowed passes (by decide)

theorem tokensText_name
    {name : String}
    (passes : isAllowed isIdentChar name = true)
    (tokens : List Token) :
    tokensText (.name name :: tokens) =
      backticked name ++ tokensText tokens := by
  simp [tokensText, Token.chars, nameChars_of_isAllowed passes, backticked,
    String.append_assoc]

theorem tokensText_nil : tokensText [] = "" := rfl

theorem tokensText_account (name host : String) :
    tokensText (accountTokens name host) =
      (Account.mk name host).quoted := by
  simp [accountTokens, tokensText_literal, tokensText_bare, tokensText_nil,
    Account.quoted, String.append_assoc]

theorem tokensText_path_singleton
    {path : Path}
    {name : String}
    (parts : path.parts = [name]) :
    tokensText path.tokens = backticked name := by
  have passes := path.allowed name (by simp [parts])
  simp [Path.tokens, parts, tokensText_name passes, tokensText_nil]

theorem tokensText_path_pair
    {path : Path}
    {schema name : String}
    (parts : path.parts = [schema, name]) :
    tokensText path.tokens =
      backticked schema ++ "." ++ backticked name := by
  have schemaPasses := path.allowed schema (by simp [parts])
  have namePasses := path.allowed name (by simp [parts])
  simp [Path.tokens, parts, tokensText_name schemaPasses,
    tokensText_name namePasses, tokensText_bare, tokensText_nil,
    String.append_assoc]

end Sql

namespace Administration

open Store (Call attempted executed)

/-- Whether a text takes an entry on a resource back from an account.  Proxies
and memberships are named by the account that they are about; the right to
pass privileges on is taken from a column with the four privileges that a
column can have. -/
inductive Revokes (entry : Catalog.Entry) (account : Account) :
    Identity → String → Prop
  | everything
      {name : String}
      (ordinary : entry.privilege.id ≠ Privilege.proxyId) :
      Revokes entry account (.server name)
        ("REVOKE " ++ entry.keyword ++ " ON *.* FROM " ++ account.quoted)
  | everyAccount
      {name : String}
      (proxies : entry.privilege.id = Privilege.proxyId) :
      Revokes entry account (.server name)
        ("REVOKE PROXY ON ''@'' FROM " ++ account.quoted)
  | database
      {name : String} :
      Revokes entry account (.database name)
        ("REVOKE " ++ entry.keyword ++ " ON " ++ backticked name ++
          ".* FROM " ++ account.quoted)
  | table
      {schema name : String} :
      Revokes entry account (.table schema name)
        ("REVOKE " ++ entry.keyword ++ " ON " ++ backticked schema ++ "." ++
          backticked name ++ " FROM " ++ account.quoted)
  | column
      {schema owner name : String}
      (ordinary : entry.privilege.id ≠ Privilege.grantId) :
      Revokes entry account (.column schema owner name)
        ("REVOKE " ++ entry.keyword ++ " (" ++ backticked name ++ ") ON " ++
          backticked schema ++ "." ++ backticked owner ++ " FROM " ++
            account.quoted)
  | columnBundle
      {schema owner name : String}
      (grants : entry.privilege.id = Privilege.grantId) :
      Revokes entry account (.column schema owner name)
        ("REVOKE SELECT (" ++ backticked name ++ "), INSERT (" ++
          backticked name ++ "), UPDATE (" ++ backticked name ++
            "), REFERENCES (" ++ backticked name ++ ") ON " ++
              backticked schema ++ "." ++ backticked owner ++ " FROM " ++
                account.quoted)
  | membership
      {resource : Identity}
      {role : Account}
      (named : resource.account? = some role)
      (assigns : entry.privilege.id = Privilege.roleAssignmentId) :
      Revokes entry account resource
        ("REVOKE " ++ role.quoted ++ " FROM " ++ account.quoted)
  | proxy
      {resource : Identity}
      {target : Account}
      (named : resource.account? = some target)
      (proxies : entry.privilege.id = Privilege.proxyId) :
      Revokes entry account resource
        ("REVOKE PROXY ON " ++ target.quoted ++ " FROM " ++ account.quoted)

theorem Revokes.of_text
    {entry : Catalog.Entry}
    {account : Account}
    {resource : Identity}
    {text text' : String}
    (revokes : Revokes entry account resource text)
    (same : text' = text) :
    Revokes entry account resource text' := by
  rwa [same]

theorem text_revoke
    (change : Change)
    (grantee : Grantee) :
    (Statement.access .revoke change grantee).text =
      "REVOKE " ++ (tokensText change.objectTokens ++ " FROM ") ++
        grantee.account.quoted := by
  have noOption : change.optionTokens .revoke = [] := by
    cases change <;> rfl
  simp [Statement.text, Statement.tokens, noOption, tokensText_bare,
    Grantee.tokens, tokensText_account, Action.verb, Action.preposition,
    String.append_assoc]

theorem tokensText_columnPrivilege
    {column : Path}
    {name : String}
    (parts : column.parts = [name])
    (keyword : String) :
    tokensText (columnPrivilege column keyword) =
      keyword ++ " (" ++ backticked name ++ ")" := by
  simp [columnPrivilege, tokensText_bare, tokensText_path_singleton parts,
    tokensText_nil, String.append_assoc]

/-- The statement that an entry means is the one that takes it back. -/
theorem revokes_of_means
    {entry : Catalog.Entry}
    {resource : Identity}
    {change : Change}
    {grantee : Grantee}
    (settled : resource.kind ≠ .routine)
    (means : Means entry resource change) :
    Revokes entry grantee.account resource
      (Statement.access .revoke change grantee).text := by
  rw [text_revoke]
  cases means with
  | everything ordinary =>
      apply (Revokes.everything ordinary).of_text
      apply String.toList_injective
      simp [Change.objectTokens, Target.tokens, tokensText_bare,
        tokensText_nil]
  | everyAccount proxies =>
      have nobody : (Account.mk "" "").quoted = "''@''" := by decide
      apply (Revokes.everyAccount proxies).of_text
      apply String.toList_injective
      simp [Change.objectTokens, tokensText_bare, tokensText_account, nobody]
  | database parts =>
      apply Revokes.database.of_text
      apply String.toList_injective
      simp [Change.objectTokens, Target.tokens, tokensText_bare,
        tokensText_nil, tokensText_path_singleton parts]
  | table parts =>
      apply Revokes.table.of_text
      apply String.toList_injective
      simp [Change.objectTokens, Target.tokens, tokensText_bare,
        tokensText_path_pair parts]
  | column parts tableParts =>
      by_cases bundle : entry.privilege.id = Privilege.grantId
      · apply (Revokes.columnBundle bundle).of_text
        apply String.toList_injective
        simp [Change.objectTokens, columnKeywords, bundle, List.intercalate,
          tokensText_bare, tokensText_columnPrivilege parts,
          tokensText_path_pair tableParts]
      · apply (Revokes.column bundle).of_text
        apply String.toList_injective
        simp [Change.objectTokens, columnKeywords, bundle, List.intercalate,
          tokensText_bare, tokensText_columnPrivilege parts,
          tokensText_path_pair tableParts]
  | routine type parts ofRoutines => exact absurd rfl settled
  | membership named assigns =>
      apply (Revokes.membership named assigns).of_text
      apply String.toList_injective
      simp [Change.objectTokens, Grantee.tokens, tokensText_account]
  | proxy named proxies =>
      apply (Revokes.proxy named proxies).of_text
      apply String.toList_injective
      simp [Change.objectTokens, Grantee.tokens, tokensText_account,
        tokensText_bare]

/-! ## Runs -/

theorem run_apply
    {σ : Type}
    {handler : Program.Handler Store.interface σ}
    (executes :
      ∀ statement state, (handler (.execute statement) state).1 = .ok ())
    (built : Statement)
    (state : σ) :
    let run := (apply built).run handler state
    run.result = .ok () ∧ attempted run = [built.text] ∧
      executed run = [built.text] := by
  have answered :
      handler (.execute built.text) state =
        (.ok (), (handler (.execute built.text) state).2) :=
    Prod.ext (executes built.text state) rfl
  have whole :
      (apply built).run handler state =
        ⟨.ok (), (handler (.execute built.text) state).2,
          [.asked (.execute built.text) (.ok ()),
            .noted (.applied built.text)]⟩ := by
    unfold apply Store.request
    simp only [Program.bind_eq, Program.bind, Program.run]
    rw [answered]
    rfl
  rw [whole]
  exact ⟨rfl, rfl, rfl⟩

/-- Revoking the grant of a listed right on an addressable resource to a user
that passes the allow-lists hands over the statement that takes the right
back, and nothing else. -/
theorem run_revoke
    {σ : Type}
    {handler : Program.Handler Store.interface σ}
    (executes :
      ∀ statement state, (handler (.execute statement) state).1 = .ok ())
    {right : Right}
    {generation : Generation}
    {entry : Catalog.Entry}
    {account : Account}
    (listed :
      Catalog.lookup? right.resource.kind right.privilege generation =
        some entry)
    (addressable : right.resource.Addressable)
    (settled : right.resource.kind ≠ .routine)
    (allowed : account.Allowed) :
    ∃ statement,
      Revokes entry account right.resource statement ∧
        ∀ state,
          let grantId := (Grant.ofRight right (.user account)).id
          let run := (revoke generation grantId).run handler state
          run.result = .ok () ∧ attempted run = [statement] ∧
            executed run = [statement] := by
  rcases exists_grantee allowed with ⟨grantee, rfl⟩
  rcases check_user listed addressable settled with ⟨change, passed, means⟩
  rcases Catalog.mem_entries_of_lookup? listed with ⟨member, named⟩
  have decoded :
      Grant.partsOfId (Grant.ofRight right (.user grantee.account)).id =
        .ok (right, .user grantee.account) :=
    Grant.partsOfId_eq_ok_iff.2
      ⟨rfl, Right.encodable_of_addressable member named addressable,
        Identity.encodablePrincipal_of_allowed rfl allowed⟩
  have built :
      revoke generation (Grant.ofRight right (.user grantee.account)).id =
        apply (.access .revoke change grantee) := by
    rw [revoke, decoded]
    show
      (statement generation .revoke (.user grantee.account) right >>= apply) =
        _
    rw [statement, passed]
    rfl
  refine ⟨_, revokes_of_means settled means, ?_⟩
  intro state
  have ran := run_apply executes (.access .revoke change grantee) state
  rw [← built] at ran
  exact ran

end Administration

end PrivilegeGraph
