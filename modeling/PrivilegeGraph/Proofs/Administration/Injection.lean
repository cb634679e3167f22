import PrivilegeGraph.Proofs.Administration.Requests
import PrivilegeGraph.Proofs.Sql.Quoting
import PrivilegeGraph.Store.Memory

/-!
# No request changes the shape of its statement

The skeletons of statements are a fixed list, made from the catalog alone.
Whatever the ids of a request and the store's replies are, the statement that
is handed over is read back as one of these skeletons, and what is quoted in
it is what the ids denote, place by place.
-/

namespace PrivilegeGraph.Administration

open Sql
open Store (Call)

/-! ## Skeletons -/

/-- The places of an account. -/
def accountSlots : List Slot :=
  [.literal, .bare "@", .literal]

/-- An option clause, which only a grant can have. -/
def clauseSlots (action : Action) (withOption : Bool) (clause : String) :
    List Slot :=
  match action, withOption with
  | .grant, true => [.bare clause]
  | _, _ => []

/-- The end of a skeleton from the text after its object on. -/
def closingSlots (action : Action) (lead : String) : List Slot :=
  .bare (lead ++ action.preposition ++ " ") :: accountSlots

/-- The places of a dotted name of two parts. -/
def pairSlots : List Slot :=
  [.name, .bare ".", .name]

/-- The skeletons of statements about an entry on a kind of resource.  There
are two of them for routines, one for each sort. -/
def skeletonsOf (action : Action) (entry : Catalog.Entry) :
    Kind → List (List Slot)
  | .server =>
      if entry.privilege.id = Privilege.proxyId then
        [.bare (action.verb ++ " PROXY ON ") :: .nothing :: .bare "@" ::
          .nothing :: closingSlots action " " ++
            clauseSlots action entry.withOption " WITH GRANT OPTION"]
      else
        [.bare (action.verb ++ " " ++ entry.keyword ++ " ON *.* " ++
            action.preposition ++ " ") :: accountSlots ++
          clauseSlots action entry.withOption " WITH GRANT OPTION"]
  | .database =>
      [.bare (action.verb ++ " " ++ entry.keyword ++ " ON ") :: .name ::
        closingSlots action ".* " ++
          clauseSlots action entry.withOption " WITH GRANT OPTION"]
  | .table =>
      [.bare (action.verb ++ " " ++ entry.keyword ++ " ON ") :: pairSlots ++
        closingSlots action " " ++
          clauseSlots action entry.withOption " WITH GRANT OPTION"]
  | .column =>
      if entry.privilege.id = Privilege.grantId then
        [.bare (action.verb ++ " SELECT (") :: .name ::
          .bare "), INSERT (" :: .name :: .bare "), UPDATE (" :: .name ::
            .bare "), REFERENCES (" :: .name :: .bare ") ON " :: pairSlots ++
              closingSlots action " "]
      else
        [.bare (action.verb ++ " " ++ entry.keyword ++ " (") :: .name ::
          .bare ") ON " :: pairSlots ++ closingSlots action " "]
  | .routine =>
      [RoutineType.function, .procedure].map fun type =>
        .bare (action.verb ++ " " ++ entry.keyword ++ " ON " ++
            type.keyword ++ " ") :: pairSlots ++ closingSlots action " "
  | .user | .role =>
      if entry.privilege.id = Privilege.roleAssignmentId then
        [.bare (action.verb ++ " ") :: accountSlots ++
          closingSlots action " " ++
            clauseSlots action entry.withOption " WITH ADMIN OPTION"]
      else
        [.bare (action.verb ++ " PROXY ON ") :: accountSlots ++
          closingSlots action " " ++
            clauseSlots action entry.withOption " WITH GRANT OPTION"]

/-- Every skeleton of a statement that gives or takes a right. -/
def skeletons (action : Action) : List (List Slot) :=
  Kind.all.flatMap fun kind =>
    (Catalog.entries kind .modern).flatMap fun entry =>
      skeletonsOf action entry kind

theorem mem_skeletons
    {action : Action}
    {generation : Generation}
    {kind : Kind}
    {entry : Catalog.Entry}
    {skeleton : List Slot}
    (listed : entry ∈ Catalog.entries kind generation)
    (member : skeleton ∈ skeletonsOf action entry kind) :
    skeleton ∈ skeletons action := by
  apply List.mem_flatMap.2
  refine ⟨kind, Kind.mem_all kind, ?_⟩
  apply List.mem_flatMap.2
  exact ⟨entry, Catalog.mem_entries_modern listed, member⟩

/-- What the quoted tokens before the grantee hold, in order. -/
def quotedNames (entry : Catalog.Entry) : Identity → List String
  | .server _ =>
      if entry.privilege.id = Privilege.proxyId then ["", ""] else []
  | .database name => [name]
  | .table schema name => [schema, name]
  | .column schema owner name =>
      (columnKeywords entry).map (fun _ => name) ++ [schema, owner]
  | .routine schema name => [schema, name]
  | .user account => [account.name, account.host]
  | .role account => [account.name, account.host]

/-! ## The tokens of a change -/

theorem framed_column
    {keyword : String}
    (plain : Plain keyword)
    (column : Path) :
    Framed (columnPrivilege column keyword) := by
  have opening : Plain " (" := Plain.of_frameWords [" ", "("] rfl (by decide)
  have closing : Plain ")" := Plain.of_frameWords [")"] rfl (by decide)
  have framed : Framed (column.tokens ++ [.bare ")"]) :=
    (framed_path column).append ⟨by decide, closing, trivial⟩ rfl
  exact ⟨by simp, plain.append opening, framed⟩

theorem framed_columns
    {keywords : List String}
    (plain : ∀ keyword ∈ keywords, Plain keyword)
    (column : Path) :
    Framed
      ([.bare ", "].intercalate (keywords.map (columnPrivilege column))) := by
  have comma : Plain ", " := Plain.of_frameWords [",", " "] rfl (by decide)
  induction keywords with
  | nil => exact trivial
  | cons keyword rest ih =>
      have first :=
        framed_column (plain keyword List.mem_cons_self) column
      have others :=
        ih fun later member =>
          plain later (List.mem_cons_of_mem keyword member)
      cases rest with
      | nil => simpa [List.intercalate] using first
      | cons next more =>
          have joined :=
            first.append
              (show Framed (.bare ", " :: _) from
                ⟨by decide, comma, others⟩) rfl
          simpa [List.intercalate] using joined

theorem framed_target (target : Target) :
    Framed target.tokens := by
  cases target with
  | everything =>
      exact ⟨by decide, Plain.of_frameWords ["*.*"] rfl (by decide), trivial⟩
  | database name =>
      have plain : Plain ".*" := Plain.of_frameWords [".*"] rfl (by decide)
      exact (framed_path name).append ⟨by decide, plain, trivial⟩ rfl
  | table name => exact framed_path name
  | routine type name =>
      refine ⟨?_, ?_, framed_path name⟩
      · cases type <;> decide
      · cases type with
        | function =>
            exact Plain.of_frameWords ["FUNCTION", " "] rfl (by decide)
        | procedure =>
            exact Plain.of_frameWords ["PROCEDURE", " "] rfl (by decide)

section

variable
    {entry : Catalog.Entry}
    {resource : Identity}
    {change : Change}

theorem plain_columnKeywords
    (listed : entry.privilege ∈ Privilege.table)
    {keyword : String}
    (member : keyword ∈ columnKeywords entry) :
    Plain keyword := by
  rw [columnKeywords] at member
  split at member
  · have fixed :
        ∀ keyword ∈ ["SELECT", "INSERT", "UPDATE", "REFERENCES"],
          keyword ∈ frameWords := by
      decide
    apply Plain.of_frameWords [keyword] (by simp)
    simpa using fixed keyword member
  · rw [List.mem_singleton.1 member]
    exact Plain.keyword listed

theorem framed_object
    (listed : entry.privilege ∈ Privilege.table)
    (means : Means entry resource change) :
    Framed change.objectTokens := by
  have on : Plain " ON " := Plain.of_frameWords [" ", "ON", " "] rfl (by decide)
  have proxyOn : Plain "PROXY ON " :=
    Plain.of_frameWords ["PROXY", " ", "ON", " "] rfl (by decide)
  have ofPrivilege :
      ∀ target withOption,
        Framed
          (Change.privilege entry.keyword target withOption).objectTokens := by
    intro target withOption
    exact
      ⟨by simp, (Plain.keyword listed).append on, framed_target target⟩
  cases means with
  | everything ordinary => exact ofPrivilege _ _
  | database parts => exact ofPrivilege _ _
  | table parts => exact ofPrivilege _ _
  | routine type parts ofRoutines => exact ofPrivilege _ _
  | everyAccount proxies =>
      exact ⟨by decide, proxyOn, framed_account "" ""⟩
  | @column _ _ _ column table parts tableParts =>
      exact
        (framed_columns (fun _ => plain_columnKeywords listed) column).append
          ⟨by decide, on, framed_path table⟩ rfl
  | membership named assigns => exact framed_account _ _
  | proxy named proxies => exact ⟨by decide, proxyOn, framed_account _ _⟩

theorem option_cases
    (action : Action)
    (change : Change) :
    change.optionTokens action = [] ∨
      change.optionTokens action = [.bare " WITH GRANT OPTION"] ∨
      change.optionTokens action = [.bare " WITH ADMIN OPTION"] := by
  have ofClause :
      ∀ withOption clause,
        action.option withOption clause = [] ∨
          action.option withOption clause = [.bare (" " ++ clause)] := by
    intro withOption clause
    cases action with
    | revoke => exact Or.inl rfl
    | grant =>
        cases withOption with
        | false => exact Or.inl rfl
        | true => exact Or.inr rfl
  cases change with
  | privilege keyword target withOption =>
      exact (ofClause withOption "WITH GRANT OPTION").imp_right Or.inl
  | columns keywords column owner => exact Or.inl rfl
  | proxy target withOption =>
      exact (ofClause withOption "WITH GRANT OPTION").imp_right Or.inl
  | membership role withOption =>
      exact (ofClause withOption "WITH ADMIN OPTION").imp_right Or.inr

theorem framed_tokens
    (action : Action)
    (grantee : Grantee)
    (listed : entry.privilege ∈ Privilege.table)
    (means : Means entry resource change) :
    Framed (Statement.access action change grantee).tokens := by
  have verb : Plain (action.verb ++ " ") := by
    cases action with
    | grant => exact Plain.of_frameWords ["GRANT", " "] rfl (by decide)
    | revoke => exact Plain.of_frameWords ["REVOKE", " "] rfl (by decide)
  have preposition : Plain (" " ++ action.preposition ++ " ") := by
    cases action with
    | grant => exact Plain.of_frameWords [" ", "TO", " "] rfl (by decide)
    | revoke => exact Plain.of_frameWords [" ", "FROM", " "] rfl (by decide)
  have ofAccount := framed_account grantee.account.name grantee.account.host
  have closing : Framed (grantee.tokens ++ change.optionTokens action) := by
    rcases option_cases action change with none | grants | admin
    · rw [none]
      exact ofAccount.append trivial rfl
    · rw [grants]
      have plain : Plain " WITH GRANT OPTION" :=
        Plain.of_frameWords [" ", "WITH GRANT OPTION"] rfl (by decide)
      exact ofAccount.append ⟨by decide, plain, trivial⟩ rfl
    · rw [admin]
      have plain : Plain " WITH ADMIN OPTION" :=
        Plain.of_frameWords [" ", "WITH ADMIN OPTION"] rfl (by decide)
      exact ofAccount.append ⟨by decide, plain, trivial⟩ rfl
  have whole :
      Framed
        (.bare (action.verb ++ " ") ::
          (change.objectTokens ++
            .bare (" " ++ action.preposition ++ " ") ::
              (grantee.tokens ++ change.optionTokens action))) :=
    ⟨by simp, verb,
      (framed_object listed means).append
        ⟨by simp, preposition, closing⟩ rfl⟩
  simpa [Statement.tokens] using whole

/-! ## What is quoted -/

theorem contents_path (path : Path) :
    contents path.tokens = path.parts := by
  have ofParts :
      ∀ parts : List String,
        contents ((parts.map Token.name).intersperse (.bare ".")) = parts := by
    intro parts
    induction parts with
    | nil => rfl
    | cons part rest ih =>
        cases rest with
        | nil => rfl
        | cons next others => exact congrArg (part :: ·) ih
  exact ofParts path.parts

theorem contents_columns
    {name : String}
    {column : Path}
    (parts : column.parts = [name])
    (keywords : List String) :
    contents
        ([.bare ", "].intercalate (keywords.map (columnPrivilege column))) =
      keywords.map fun _ => name := by
  have first :
      ∀ keyword, contents (columnPrivilege column keyword) = [name] := by
    intro keyword
    simp [columnPrivilege, contents, contents_path, parts]
  induction keywords with
  | nil => rfl
  | cons keyword rest ih =>
      cases rest with
      | nil => simp [List.intercalate, first]
      | cons next more =>
          have joined :=
            congrArg (contents (columnPrivilege column keyword) ++ ·) ih
          simpa [List.intercalate, first, contents] using joined

theorem account_of_named
    {account : Account}
    (named : resource.account? = some account) :
    quotedNames entry resource = [account.name, account.host] ∧
      ∀ action, skeletonsOf action entry resource.kind =
        skeletonsOf action entry .user := by
  cases resource with
  | user account => cases named; exact ⟨rfl, fun _ => rfl⟩
  | role account => cases named; exact ⟨rfl, fun _ => rfl⟩
  | _ => cases named

theorem contents_object
    (means : Means entry resource change) :
    contents change.objectTokens = quotedNames entry resource := by
  cases means with
  | everything ordinary => exact (if_neg ordinary).symm
  | everyAccount proxies => exact (if_pos proxies).symm
  | database parts =>
      simp [Change.objectTokens, Target.tokens, contents, contents_path,
        quotedNames, parts]
  | table parts =>
      simp [Change.objectTokens, Target.tokens, contents, contents_path,
        quotedNames, parts]
  | routine type parts ofRoutines =>
      simp [Change.objectTokens, Target.tokens, contents, contents_path,
        quotedNames, parts]
  | column parts tableParts =>
      simp [Change.objectTokens, contents, contents_columns parts,
        contents_path, quotedNames, tableParts]
  | membership named assigns => exact (account_of_named named).1.symm
  | proxy named proxies => exact (account_of_named named).1.symm

theorem contents_tokens
    (action : Action)
    (grantee : Grantee)
    (means : Means entry resource change) :
    contents (Statement.access action change grantee).tokens =
      quotedNames entry resource ++
        [grantee.account.name, grantee.account.host] := by
  have noOption : contents (change.optionTokens action) = [] := by
    rcases option_cases action change with none | grants | admin
    · rw [none]; rfl
    · rw [grants]; rfl
    · rw [admin]; rfl
  simp [Statement.tokens, contents, contents_object means, noOption,
    Grantee.tokens, accountTokens]

attribute [local simp] Statement.tokens Change.objectTokens
  Change.optionTokens Target.tokens Path.tokens columnPrivilege Grantee.tokens
  accountTokens Action.verb Action.preposition Action.option merged joinBare
  Token.slot skeletonsOf pairSlots closingSlots accountSlots clauseSlots
  columnKeywords Identity.kind String.append_assoc List.intercalate
  RoutineType.keyword

theorem skeleton_mem
    (action : Action)
    (grantee : Grantee)
    (means : Means entry resource change) :
    (merged (Statement.access action change grantee).tokens).map Token.slot ∈
      skeletonsOf action entry resource.kind := by
  have name := ne_empty_of_isAllowed grantee.name_allowed
  have host := ne_empty_of_isAllowed grantee.host_allowed
  cases means with
  | everything ordinary =>
      cases action <;> cases option : entry.withOption <;>
        simp [ordinary, option, name, host]
  | everyAccount proxies =>
      cases action <;> cases option : entry.withOption <;>
        simp [proxies, option, name, host]
  | database parts =>
      cases action <;> cases option : entry.withOption <;>
        simp [parts, option, name, host]
  | table parts =>
      cases action <;> cases option : entry.withOption <;>
        simp [parts, option, name, host]
  | column parts tableParts =>
      by_cases bundle : entry.privilege.id = Privilege.grantId <;>
        cases action <;>
          simp [bundle, parts, tableParts, name, host]
  | routine type parts ofRoutines =>
      cases action <;> cases type <;> simp [parts, name, host]
  | @membership _ target named assigns =>
      have targetName := ne_empty_of_isAllowed target.name_allowed
      have targetHost := ne_empty_of_isAllowed target.host_allowed
      rw [(account_of_named named).2]
      cases action <;> cases option : entry.withOption <;>
        simp [assigns, option, name, host, targetName, targetHost]
  | @proxy _ target named proxies =>
      have targetName := ne_empty_of_isAllowed target.name_allowed
      have targetHost := ne_empty_of_isAllowed target.host_allowed
      have other : Privilege.proxyId ≠ Privilege.roleAssignmentId := by decide
      rw [(account_of_named named).2]
      cases action <;> cases option : entry.withOption <;>
        simp [proxies, other, option, name, host, targetName, targetHost]

theorem allowed_of_means
    (means : Means entry resource change) :
    resource.Allowed := by
  cases means with
  | everything ordinary => exact trivial
  | everyAccount proxies => exact trivial
  | @database name target parts =>
      exact target.allowed name (by simp [parts])
  | @table schema name target parts =>
      intro part member
      exact target.allowed part (by rwa [parts])
  | @column schema owner name column table parts tableParts =>
      intro part member
      have divided : part ∈ [schema, owner] ∨ part = name := by
        simpa [or_assoc] using member
      rcases divided with ofTable | rfl
      · exact table.allowed part (by rwa [tableParts])
      · exact column.allowed part (by simp [parts])
  | @routine schema name target type parts ofRoutines =>
      intro part member
      exact target.allowed part (by rwa [parts])
  | @membership _ target named assigns =>
      cases resource with
      | user account => cases named; exact target.allowed
      | role account => cases named; exact target.allowed
      | _ => cases named
  | @proxy _ target named proxies =>
      cases resource with
      | user account => cases named; exact target.allowed
      | role account => cases named; exact target.allowed
      | _ => cases named

end

/-! ## Statements that are handed over -/

/-- Whether tokens are one of the fixed skeletons, filled with what a
resource and an account are named and nothing else. -/
structure Faithful
    (action : Action)
    (entry : Catalog.Entry)
    (resource : Identity)
    (account : Account)
    (tokens : List Token) : Prop where
  fixed : tokens.map Token.slot ∈ skeletons action
  shape : tokens.map Token.slot ∈ skeletonsOf action entry resource.kind
  plain : ∀ text, .bare text ∈ tokens → Plain text
  harmless :
    ∀ text, .bare text ∈ tokens → ∀ c ∈ text.toList,
      32 ≤ c.toNat ∧ c.toNat < 127 ∧
        c ∉ [';', '#', '-', '/', '\'', '\x60']
  quoted :
    contents tokens =
      quotedNames entry resource ++ [account.name, account.host]
  allowed : resource.Allowed
  accountAllowed : account.Allowed
  empty :
    "" ∈ contents tokens →
      resource.kind = .server ∧ entry.privilege.id = Privilege.proxyId

/-- Nothing that passed its allow-list is empty, so only the account that a
server's proxies may not be told apart from is. -/
theorem server_of_empty_mem
    {entry : Catalog.Entry}
    {resource : Identity}
    (allowed : resource.Allowed)
    (member : "" ∈ quotedNames entry resource) :
    resource.kind = .server ∧ entry.privilege.id = Privilege.proxyId := by
  have noIdent : ¬ isAllowed isIdentChar "" = true := by decide
  have noUser : ¬ isAllowed isUserChar "" = true := by decide
  have noHost : ¬ isAllowed isHostChar "" = true := by decide
  have ofAccount :
      ∀ account : Account, account.Allowed →
        "" ∉ [account.name, account.host] := by
    rintro ⟨name, host⟩ ⟨nameAllowed, hostAllowed⟩ inside
    rcases List.mem_cons.1 inside with rfl | inHost
    · exact noUser nameAllowed
    · rw [List.mem_singleton] at inHost
      rw [← inHost] at hostAllowed
      exact noHost hostAllowed
  cases resource with
  | server name =>
      rw [quotedNames] at member
      split at member
      · next proxies => exact ⟨rfl, proxies⟩
      · cases member
  | database name =>
      rw [quotedNames, List.mem_singleton] at member
      rw [Identity.Allowed, ← member] at allowed
      exact absurd allowed noIdent
  | table schema name => exact absurd (allowed "" member) noIdent
  | routine schema name => exact absurd (allowed "" member) noIdent
  | column schema owner name =>
      have inside : "" ∈ [schema, owner, name] := by
        simp only [quotedNames, List.mem_append, List.mem_map] at member
        rcases member with ⟨keyword, _, rfl⟩ | ofTable
        · simp
        · exact List.mem_append_left [name] ofTable
      exact absurd (allowed "" inside) noIdent
  | user account => exact absurd member (ofAccount account allowed)
  | role account => exact absurd member (ofAccount account allowed)

theorem faithful_of_means
    {action : Action}
    {generation : Generation}
    {entry : Catalog.Entry}
    {resource : Identity}
    {change : Change}
    {grantee : Grantee}
    (listed : entry ∈ Catalog.entries resource.kind generation)
    (means : Means entry resource change) :
    Faithful action entry resource grantee.account
      (merged (Statement.access action change grantee).tokens) := by
  have framed : Framed (Statement.access action change grantee).tokens :=
    framed_tokens action grantee (Catalog.mem_entries_iff.1 listed).1 means
  have plain := plain_merged framed.plain_of_mem
  have shape := skeleton_mem action grantee means
  have quoted := contents_tokens action grantee means
  exact {
    fixed := mem_skeletons listed shape
    shape := shape
    plain := plain
    harmless := fun text member c inText =>
      harmless_of_isPlainChar ((plain text member).isPlainChar_of_mem inText)
    quoted := by rw [contents_merged, quoted]
    allowed := allowed_of_means means
    accountAllowed := grantee.allowed
    empty := by
      intro member
      rw [contents_merged, quoted] at member
      rcases List.mem_append.1 member with ofResource | ofAccount
      · exact server_of_empty_mem (allowed_of_means means) ofResource
      · have name := ne_empty_of_isAllowed grantee.name_allowed
        have host := ne_empty_of_isAllowed grantee.host_allowed
        simp [name.symm, host.symm] at ofAccount }

theorem account?_of_granteeAccount
    {principal resource : Identity}
    {entry : Catalog.Entry}
    {account : Account}
    (held : granteeAccount principal resource entry = .ok account) :
    principal.account? = some account := by
  cases principal with
  | user named =>
      cases held
      rfl
  | role named =>
      rw [granteeAccount] at held
      split at held
      · cases held
        rfl
      · cases held
  | _ => cases held

/-- Whatever a request hands to the store is read back as one of the fixed
skeletons, filled with what its ids denote.  Neither the ids nor any reply of
the store has a say in anything else. -/
theorem faithful_of_mem_calls
    {σ : Type}
    (handler : Program.Handler Store.interface σ)
    (state : σ)
    (generation : Generation)
    (request : Request)
    (text : String)
    (handed :
      Call.execute text ∈
        ((request.carryOut generation).run handler state).calls) :
    ∃ right principal account entry tokens,
      request.subject = .ok (right, principal) ∧
        principal.account? = some account ∧
        Catalog.lookup? right.resource.kind right.privilege generation =
          some entry ∧
        readTokens? text.toList = some tokens ∧
        Faithful request.action entry right.resource account tokens := by
  have writes :=
    (request.carryOut_confined generation).allowed_of_mem_calls handler state
      handed text rfl
  rcases writes with
    ⟨right, principal, built, entry, change, grantee, denoted, fits, rfl⟩
  rcases fits with ⟨rfl, listed, held, means⟩
  have member := (Catalog.mem_entries_of_lookup? listed).1
  have framed :
      Framed (Statement.access request.action change grantee).tokens :=
    framed_tokens _ grantee (Catalog.mem_entries_iff.1 member).1 means
  exact
    ⟨right, principal, grantee.account, entry, _, denoted,
      account?_of_granteeAccount held, listed,
      framed.readTokens?_tokensText, faithful_of_means member means⟩

/-- A server with one procedure. -/
def procedureServer : Store.Memory where
  hostname := "db"
  version := "8.0.36"
  databases := ["shop"]
  tables := []
  columns := []
  routines := [⟨"shop", "refresh", "procedure"⟩]
  accounts := []
  globalGrants := []
  databaseGrants := []
  tableGrants := []
  columnGrants := []
  proxyGrants := []
  roleEdges := []
  closed := fun _ => false

theorem faithful_procedure_grant :
    let request :=
      Request.grant "user:alice@%" "entitlement:execute:routine:shop.refresh"
    let text :=
      "GRANT EXECUTE ON PROCEDURE `shop`.`refresh` TO 'alice'@'%'"
    Call.execute text ∈
        ((request.carryOut .modern).run Store.Memory.handler
          procedureServer).calls ∧
      ∃ right principal account entry tokens,
        request.subject = .ok (right, principal) ∧
          principal.account? = some account ∧
          Catalog.lookup? right.resource.kind right.privilege .modern =
            some entry ∧
          readTokens? text.toList = some tokens ∧
          Faithful request.action entry right.resource account tokens := by
  intro request text
  have asked :
      ((request.carryOut .modern).run Store.Memory.handler
          procedureServer).calls =
        [.routineType "shop" "refresh", .execute text] := by
    rfl
  have handed :
      Call.execute text ∈
        ((request.carryOut .modern).run Store.Memory.handler
          procedureServer).calls := by
    rw [asked]
    exact List.mem_cons_of_mem _ List.mem_cons_self
  exact
    ⟨handed,
      faithful_of_mem_calls Store.Memory.handler procedureServer .modern
        request text handed⟩

end PrivilegeGraph.Administration
