import PrivilegeGraph.Proofs.Administration.Grantability
import PrivilegeGraph.Proofs.Administration.Mirroring
import PrivilegeGraph.Proofs.Sql.Pattern

/-!
# What a grant on a database covers

The name of a database is written into a statement as it is, and there a
server takes it for a pattern.  So a grant on a database covers every database
whose name agrees with that name apart from its underscores, and it stays
within the database exactly when the name has none.
-/

namespace PrivilegeGraph.Administration

open Program (Handler)
open Sql
open Store (attempted)

section

variable
    {generation : Generation}
    {entry : Catalog.Entry}

/-- A listed right on an addressable resource that is no routine is granted to
a principal that passes the allow-lists and may hold it by one statement. -/
theorem exists_grant_eq_apply
    {principal : Identity}
    {right : Right}
    {grantee : Grantee}
    (listed :
      Catalog.lookup? right.resource.kind right.privilege generation =
        some entry)
    (addressable : right.resource.Addressable)
    (settled : right.resource.kind ≠ .routine)
    (named : principal.account? = some grantee.account)
    (mayHold : MayHold principal right.resource entry) :
    ∃ change,
      Means entry right.resource change ∧
        grant generation principal.id right.id =
          apply (.access .grant change grantee) := by
  rcases Catalog.mem_entries_of_lookup? listed with ⟨member, id_eq⟩
  have wellFormed := Identity.wellFormed_of_addressable addressable
  have encodable :=
    Right.encodable_of_addressable member id_eq addressable
  have encodablePrincipal :=
    Identity.encodablePrincipal_of_allowed named grantee.allowed
  have found : entryOf generation right = .ok entry := by
    rw [entryOf, listed]
  have checked : Grantee.ofAccount grantee.account = .ok grantee :=
    Grantee.ofAccount_eq_ok_iff.2 rfl
  rcases exists_demand member addressable settled with ⟨change, demanded⟩
  refine
    ⟨change, means_of_demandOn wellFormed demanded (.change change), ?_⟩
  rw [grant_of_encodable encodable encodablePrincipal, statement_bind, found]
  show
    Program.ofExcept (granteeAccount principal right.resource entry) >>= _ = _
  rw [granteeAccount_of_mayHold named mayHold]
  show Program.ofExcept (Grantee.ofAccount grantee.account) >>= _ = _
  rw [checked]
  show Program.ofExcept (demandOn entry right.resource) >>= resolve >>= _ = _
  rw [demanded]
  rfl

/-- Users and roles alike may hold what is listed on databases. -/
theorem mayHold_database
    {principal : Identity}
    {account : Account}
    {database : String}
    (listed : entry ∈ Catalog.entries .database generation)
    (named : principal.account? = some account) :
    MayHold principal (.database database) entry := by
  cases principal with
  | user holder => exact Or.inl rfl
  | role holder =>
      exact
        Or.inr
          ⟨rfl, Or.inr rfl, Catalog.not_proxy_of_database_entry listed⟩
  | _ => cases named

/-- The tokens of a statement about a database, up to the account. -/
theorem merged_of_database
    {database : String}
    {target : Path}
    (parts : target.parts = [database])
    (action : Action)
    (keyword : String)
    (withOption : Bool)
    (grantee : Grantee) :
    ∃ rest,
      merged
          (Statement.access action
            (.privilege keyword (.database target) withOption) grantee).tokens =
        .bare (action.verb ++ " " ++ keyword ++ " ON ") :: .name database ::
          .bare (".* " ++ action.preposition ++ " ") :: rest := by
  let change := Change.privilege keyword (.database target) withOption
  refine ⟨merged (grantee.tokens ++ change.optionTokens action), ?_⟩
  cases action <;>
    simp [change, parts, Statement.tokens, Change.objectTokens, Target.tokens,
      Path.tokens, Grantee.tokens, accountTokens, Action.verb,
      Action.preposition, merged, joinBare, String.append_assoc]

/-- A statement about a database is read back with the database as its
pattern. -/
theorem databasePattern?_text
    {database : String}
    {change : Change}
    (listed : entry ∈ Catalog.entries .database generation)
    (means : Means entry (.database database) change)
    (action : Action)
    (grantee : Grantee) :
    databasePattern? (Statement.access action change grantee).text =
      some database := by
  have framed :=
    framed_tokens action grantee (Catalog.mem_entries_iff.1 listed).1 means
  rw [databasePattern?, Statement.text, framed.readTokens?_tokensText]
  cases means with
  | database parts =>
      rcases merged_of_database parts action entry.keyword entry.withOption
          grantee with
        ⟨rest, read⟩
      rw [read]
      have opening :
          " ON ".toList <:+
            (action.verb ++ " " ++ entry.keyword ++ " ON ").toList := by
        rw [String.toList_append]
        exact List.suffix_append _ _
      have closing :
          ".*".toList <+: (".* " ++ action.preposition ++ " ").toList := by
        cases action <;> decide
      exact if_pos ⟨opening, closing⟩
  | membership named _ => cases named
  | proxy named _ => cases named

end

/-- Granting a listed privilege on an allow-listed database to an account that
passes the allow-lists hands over one statement.  Its pattern covers that
database and whatever agrees with it apart from its underscores, so nothing
else is covered exactly when the name has no underscore. -/
theorem database_grant_covers
    {σ : Type}
    (handler : Handler Store.interface σ)
    (state : σ)
    {generation : Generation}
    {entry : Catalog.Entry}
    {principal : Identity}
    {account : Account}
    {database : String}
    (allowed : isAllowed isIdentChar database = true)
    (listed : entry ∈ Catalog.entries .database generation)
    (named : principal.account? = some account)
    (accepted : account.Allowed) :
    ∃ text pattern,
      attempted
          ((grant generation principal.id
                (Right.id ⟨entry.id, .database database⟩)).run handler
            state) =
        [text] ∧
        databasePattern? text = some pattern ∧
        Covers pattern database ∧
        (∀ other,
          Covers pattern other ↔
            AgreesApart database.toList other.toList) ∧
        ((∀ other, Covers pattern other → other = database) ↔
          '_' ∉ database.toList) := by
  rcases exists_grantee accepted with ⟨grantee, rfl⟩
  let right : Right := ⟨entry.id, .database database⟩
  have found :
      Catalog.lookup? right.resource.kind right.privilege generation =
        some entry :=
    Catalog.lookup?_eq_some_iff.2 ⟨listed, rfl⟩
  have settled : right.resource.kind ≠ .routine := by
    intro routine
    cases routine
  rcases exists_grant_eq_apply found allowed settled named
      (mayHold_database listed named) with
    ⟨change, means, built⟩
  have covers := covers_iff_agreesApart allowed
  have itself : AgreesApart database.toList database.toList :=
    List.forall₂_same.2 fun _ _ => Or.inr rfl
  refine ⟨_, database, ?_, databasePattern?_text listed means .grant grantee,
    (covers database).2 itself, covers, ?_⟩
  · rw [built]
    exact attempted_apply _ handler state
  · simp only [covers]
    exact forall_eq_iff_of_agreesApart

theorem database_grant_covers_underscore :
    let account : Account := ⟨"alice", "%"⟩
    isAllowed isIdentChar "shop_1" = true ∧ account.Allowed ∧
      (Identity.user account).account? = some account ∧
        ∃ entry ∈ Catalog.entries .database .modern, entry.id = "select" ∧
          ∃ text pattern,
            attempted
                ((grant .modern (Identity.user account).id
                      (Right.id ⟨entry.id, .database "shop_1"⟩)).run
                  Store.Memory.openHandler Store.Memory.everyScope) =
              [text] ∧
              databasePattern? text = some pattern ∧
              Covers pattern "shop_1" ∧
              (∀ other,
                Covers pattern other ↔
                  AgreesApart "shop_1".toList other.toList) ∧
              ((∀ other, Covers pattern other → other = "shop_1") ↔
                '_' ∉ "shop_1".toList) := by
  intro account
  have allowed : isAllowed isIdentChar "shop_1" = true := by decide
  have accepted : account.Allowed := by decide
  have known :
      (Catalog.lookup? .database "select" .modern).isSome = true := by
    decide +kernel
  rcases Option.isSome_iff_exists.1 known with ⟨entry, found⟩
  rcases Catalog.mem_entries_of_lookup? found with ⟨listed, id_eq⟩
  exact
    ⟨allowed, accepted, rfl, entry, listed, id_eq,
      database_grant_covers Store.Memory.openHandler Store.Memory.everyScope
        allowed listed rfl accepted⟩

/-- A grant on one database reaches another one. -/
theorem database_grant_reaches_another :
    let text := "GRANT SELECT ON `shop_1`.* TO 'alice'@'%'"
    attempted
        ((grant .modern "user:alice@%" "entitlement:select:database:shop_1").run
          Store.Memory.openHandler Store.Memory.everyScope) =
      [text] ∧
      databasePattern? text = some "shop_1" ∧
      Covers "shop_1" "shopx1" ∧ "shopx1" ≠ "shop_1" := by
  intro text
  refine ⟨by decide +kernel, ?_, by decide, by decide⟩
  cbv

end PrivilegeGraph.Administration
