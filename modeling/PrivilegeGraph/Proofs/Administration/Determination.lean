import PrivilegeGraph.Proofs.Administration.Injection

/-!
# What a statement that grants determines

The text of a statement is read back as tokens, the bare ones of which tell
the kind of resource and the entry, and the quoted ones the resource and the
account.  Only two things are not told: how the server is named, and whether
an account is a user or a role.
-/

namespace PrivilegeGraph.Administration

open Sql

/-! ## The kind of a skeleton -/

/-- The kind as far as statements tell it: an account is not said to be a
role. -/
def toldKind : Kind → Kind
  | .role => .user
  | kind => kind

/-- The kind that is read off the skeleton of a grant.  Tables and routines
are named alike, and the text before a routine's name ends with its sort. -/
def kindOf : List Slot → Kind
  | _ :: .nothing :: _ => .server
  | _ :: .literal :: _ :: _ :: _ :: .literal :: _ => .user
  | _ :: .literal :: _ => .server
  | _ :: .name :: .bare ".* TO " :: _ => .database
  | .bare heading :: .name :: .bare "." :: _ =>
      if " ON ".toList <:+ heading.toList then .table else .routine
  | _ => .column

theorem suffix_append_toList (first second : String) :
    second.toList <:+ (first ++ second).toList := by
  rw [String.toList_append]
  exact List.suffix_append _ _

/-- The text before the name of a routine. -/
def routineHeading
    (keyword : String)
    (type : RoutineType) :
    String :=
  "GRANT " ++ keyword ++ " ON " ++ (type.keyword ++ " ")

theorem suffix_routineHeading
    (keyword : String)
    (type : RoutineType) :
    (type.keyword ++ " ").toList <:+ (routineHeading keyword type).toList :=
  suffix_append_toList ("GRANT " ++ keyword ++ " ON ") _

theorem not_suffix_on_routineHeading
    (keyword : String)
    (type : RoutineType) :
    ¬" ON ".toList <:+ (routineHeading keyword type).toList := by
  intro suffix
  rcases List.suffix_or_suffix_of_suffix suffix
      (suffix_routineHeading keyword type) with inside | around
  · cases type <;> revert inside <;> decide
  · cases type <;> revert around <;> decide

theorem type_eq_of_routineHeading_eq
    {keyword keyword' : String}
    {type type' : RoutineType}
    (same : routineHeading keyword type = routineHeading keyword' type') :
    type = type' := by
  have suffix := suffix_routineHeading keyword type
  rw [same] at suffix
  rcases List.suffix_or_suffix_of_suffix suffix
      (suffix_routineHeading keyword' type') with inside | around
  · cases type <;> cases type' <;> revert inside <;> decide
  · cases type <;> cases type' <;> revert around <;> decide

theorem kinds_of_told
    {kind kind' : Kind}
    (told : toldKind kind = toldKind kind') :
    (kind = .user ∨ kind = .role) ∧ (kind' = .user ∨ kind' = .role) ∨
      kind = kind' ∧ toldKind kind ≠ .user := by
  revert told
  cases kind <;> cases kind' <;> decide

/-- Statements do not tell roles from users. -/
theorem skeletonsOf_account
    {kind : Kind}
    (account : kind = .user ∨ kind = .role)
    (entry : Catalog.Entry) :
    skeletonsOf .grant entry kind = skeletonsOf .grant entry .user := by
  rcases account with rfl | rfl <;> rfl

section

variable
    {generation generation' : Generation}
    {first second : Catalog.Entry}
    {kind kind' : Kind}
    {skeleton : List Slot}

theorem kindOf_of_mem_account
    (member : skeleton ∈ skeletonsOf .grant first .user) :
    kindOf skeleton = .user := by
  rw [skeletonsOf] at member
  split at member
  · rw [List.mem_singleton] at member
    subst member
    rfl
  · rw [List.mem_singleton] at member
    subst member
    rfl

theorem kindOf_of_mem
    (member : skeleton ∈ skeletonsOf .grant first kind) :
    kindOf skeleton = toldKind kind := by
  cases kind with
  | server =>
      rw [skeletonsOf] at member
      split at member
      · rw [List.mem_singleton] at member
        subst member
        rfl
      · rw [List.mem_singleton] at member
        subst member
        cases first.withOption <;> rfl
  | database =>
      rw [skeletonsOf, List.mem_singleton] at member
      subst member
      rfl
  | table =>
      rw [skeletonsOf, List.mem_singleton] at member
      subst member
      exact if_pos (suffix_append_toList _ " ON ")
  | column =>
      rw [skeletonsOf] at member
      split at member
      · rw [List.mem_singleton] at member
        subst member
        rfl
      · rw [List.mem_singleton] at member
        subst member
        rfl
  | routine =>
      rw [skeletonsOf, List.mem_map] at member
      rcases member with ⟨type, _, rfl⟩
      have heading :
          Action.grant.verb ++ " " ++ first.keyword ++ " ON " ++ type.keyword ++
              " " =
            routineHeading first.keyword type :=
        String.append_assoc
      rw [heading]
      exact if_neg (not_suffix_on_routineHeading first.keyword type)
  | user => exact kindOf_of_mem_account member
  | role =>
      rw [skeletonsOf_account (Or.inr rfl)] at member
      exact kindOf_of_mem_account member

/-! ## The entry of a skeleton -/

theorem clauseSlots_injective
    {chosen chosen' : Bool}
    {clause : String}
    (same :
      clauseSlots .grant chosen clause = clauseSlots .grant chosen' clause) :
    chosen = chosen' := by
  cases chosen <;> cases chosen' <;> first | rfl | cases same

section

variable
    (listed : first ∈ Catalog.entries kind generation)
    (listed' : second ∈ Catalog.entries kind' generation')

include listed listed'

theorem entry_eq_of_server
    (member : skeleton ∈ skeletonsOf .grant first .server)
    (member' : skeleton ∈ skeletonsOf .grant second .server) :
    first = second := by
  simp only [skeletonsOf] at member member'
  split at member <;> split at member' <;>
    rw [List.mem_singleton] at member member' <;>
    rw [member] at member'
  · next proxies proxies' =>
    have option := clauseSlots_injective (List.append_cancel_left member')
    exact
      Catalog.Entry.eq_of_privilege_id_eq listed listed'
        (proxies.trans proxies'.symm) option
  · simp [accountSlots] at member'
  · simp [accountSlots] at member'
  · next ordinary ordinary' =>
    have parts := List.append_inj member' rfl
    have written : first.keyword = second.keyword := by
      simpa [accountSlots] using parts.1
    exact
      Catalog.Entry.eq_of_keyword_eq listed listed' written
        (clauseSlots_injective parts.2)

/-- On databases and tables everything but the keyword and the option is
fixed. -/
theorem entry_eq_of_object
    {object : List Slot}
    {clause : String}
    (same :
      .bare ("GRANT " ++ first.keyword ++ " ON ") :: object ++
          clauseSlots .grant first.withOption clause =
        .bare ("GRANT " ++ second.keyword ++ " ON ") :: object ++
          clauseSlots .grant second.withOption clause) :
    first = second := by
  have parts := List.append_inj same rfl
  have written : first.keyword = second.keyword := by
    simpa using parts.1
  exact
    Catalog.Entry.eq_of_keyword_eq listed listed' written
      (clauseSlots_injective parts.2)

theorem entry_eq_of_column
    (column : kind = .column)
    (column' : kind' = .column)
    (member : skeleton ∈ skeletonsOf .grant first .column)
    (member' : skeleton ∈ skeletonsOf .grant second .column) :
    first = second := by
  have option : first.withOption = second.withOption := by
    rw [Catalog.Entry.withOption_eq_false (Or.inl column) listed,
      Catalog.Entry.withOption_eq_false (Or.inl column') listed']
  simp only [skeletonsOf] at member member'
  split at member <;> split at member' <;>
    rw [List.mem_singleton] at member member' <;>
    rw [member] at member'
  · next bundle bundle' =>
    exact
      Catalog.Entry.eq_of_privilege_id_eq listed listed'
        (bundle.trans bundle'.symm) option
  · simp at member'
  · simp at member'
  · next single single' =>
    have written : first.keyword = second.keyword := by
      simpa using member'
    exact Catalog.Entry.eq_of_keyword_eq listed listed' written option

theorem entry_eq_of_routine
    (routine : kind = .routine)
    (routine' : kind' = .routine)
    (member : skeleton ∈ skeletonsOf .grant first .routine)
    (member' : skeleton ∈ skeletonsOf .grant second .routine) :
    first = second := by
  have option : first.withOption = second.withOption := by
    rw [Catalog.Entry.withOption_eq_false (Or.inr routine) listed,
      Catalog.Entry.withOption_eq_false (Or.inr routine') listed']
  rw [skeletonsOf, List.mem_map] at member member'
  rcases member with ⟨type, _, rfl⟩
  rcases member' with ⟨type', _, same⟩
  have heading :
      routineHeading second.keyword type' =
        routineHeading first.keyword type := by
    simpa [routineHeading, Action.verb, String.append_assoc] using same
  -- The sort of the routine ends the heading and is told first.
  cases type_eq_of_routineHeading_eq heading
  have written : second.keyword = first.keyword := by
    simpa [routineHeading] using heading
  exact Catalog.Entry.eq_of_keyword_eq listed listed' written.symm option

theorem entry_eq_of_account
    (account : kind = .user ∨ kind = .role)
    (account' : kind' = .user ∨ kind' = .role)
    (member : skeleton ∈ skeletonsOf .grant first .user)
    (member' : skeleton ∈ skeletonsOf .grant second .user) :
    first = second := by
  simp only [skeletonsOf] at member member'
  split at member <;> split at member' <;>
    rw [List.mem_singleton] at member member' <;>
    rw [member] at member'
  · next assigns assigns' =>
    have option := clauseSlots_injective (List.append_cancel_left member')
    exact
      Catalog.Entry.eq_of_privilege_id_eq listed listed'
        (assigns.trans assigns'.symm) option
  · simp [Action.verb] at member'
  · simp [Action.verb] at member'
  · next other other' =>
    have proxies :=
      (Catalog.privilege_of_account_entry account listed).resolve_left other
    have proxies' :=
      (Catalog.privilege_of_account_entry account' listed').resolve_left other'
    have option := clauseSlots_injective (List.append_cancel_left member')
    exact
      Catalog.Entry.eq_of_privilege_id_eq listed listed'
        (proxies.trans proxies'.symm) option

/-- A skeleton is that of one entry, on one kind as far as statements tell
it. -/
theorem entry_eq_of_mem
    (member : skeleton ∈ skeletonsOf .grant first kind)
    (member' : skeleton ∈ skeletonsOf .grant second kind') :
    first = second ∧ toldKind kind = toldKind kind' := by
  have told : toldKind kind = toldKind kind' := by
    rw [← kindOf_of_mem member, ← kindOf_of_mem member']
  refine ⟨?_, told⟩
  rcases kinds_of_told told with ⟨account, account'⟩ | ⟨rfl, other⟩
  · rw [skeletonsOf_account account] at member
    rw [skeletonsOf_account account'] at member'
    exact entry_eq_of_account listed listed' account account' member member'
  · cases kind with
    | server => exact entry_eq_of_server listed listed' member member'
    | database =>
        rw [skeletonsOf, List.mem_singleton] at member member'
        exact entry_eq_of_object listed listed' (member.symm.trans member')
    | table =>
        rw [skeletonsOf, List.mem_singleton] at member member'
        exact entry_eq_of_object listed listed' (member.symm.trans member')
    | column => exact entry_eq_of_column listed listed' rfl rfl member member'
    | routine => exact entry_eq_of_routine listed listed' rfl rfl member member'
    | user => exact absurd rfl other
    | role => exact absurd rfl other

end

end

/-! ## The resource and the account -/

/-- Whether statements name two resources alike: they neither name servers
nor tell users from roles. -/
inductive Alike : Identity → Identity → Prop
  | same (resource : Identity) : Alike resource resource
  | servers (name name' : String) : Alike (.server name) (.server name')
  | accounts
      {resource resource' : Identity}
      {account : Account}
      (named : resource.account? = some account)
      (named' : resource'.account? = some account) :
      Alike resource resource'

theorem account_eq_of_quoted
    {account account' : Account}
    (same : [account.name, account.host] = [account'.name, account'.host]) :
    account = account' := by
  cases account
  cases account'
  cases same
  rfl

theorem alike_of_quotedNames
    {entry : Catalog.Entry}
    {resource resource' : Identity}
    (told : toldKind resource.kind = toldKind resource'.kind)
    (same : quotedNames entry resource = quotedNames entry resource') :
    Alike resource resource' := by
  cases resource with
  | server name =>
      cases resource' with
      | server name' => exact .servers name name'
      | _ => cases told
  | database name =>
      cases resource' with
      | database name' =>
          cases same
          exact .same _
      | _ => cases told
  | table schema name =>
      cases resource' with
      | table schema' name' =>
          cases same
          exact .same _
      | _ => cases told
  | column schema owner name =>
      cases resource' with
      | column schema' owner' name' =>
          have parts := List.append_inj' same rfl
          have names := parts.1
          cases parts.2
          rw [columnKeywords] at names
          split at names <;> cases names <;> exact .same _
      | _ => cases told
  | routine schema name =>
      cases resource' with
      | routine schema' name' =>
          cases same
          exact .same _
      | _ => cases told
  | user account =>
      cases resource' with
      | user account' =>
          cases account_eq_of_quoted same
          exact .same _
      | role account' =>
          cases account_eq_of_quoted same
          exact .accounts rfl rfl
      | _ => cases told
  | role account =>
      cases resource' with
      | user account' =>
          cases account_eq_of_quoted same
          exact .accounts rfl rfl
      | role account' =>
          cases account_eq_of_quoted same
          exact .same _
      | _ => cases told

section

variable
    {generation generation' : Generation}
    {entry entry' : Catalog.Entry}
    {resource resource' : Identity}
    {change change' : Change}
    {grantee grantee' : Grantee}

theorem merged_eq_of_text_eq
    (listed : entry.privilege ∈ Privilege.table)
    (listed' : entry'.privilege ∈ Privilege.table)
    (means : Means entry resource change)
    (means' : Means entry' resource' change')
    (same :
      (Statement.access .grant change grantee).text =
        (Statement.access .grant change' grantee').text) :
    merged (Statement.access .grant change grantee).tokens =
      merged (Statement.access .grant change' grantee').tokens := by
  have framed := framed_tokens .grant grantee listed means
  have framed' := framed_tokens .grant grantee' listed' means'
  apply Option.some.inj
  rw [← framed.readTokens?_tokensText, ← framed'.readTokens?_tokensText]
  exact congrArg (fun text => readTokens? text.toList) same

/-- The bare tokens of a statement tell the entry and the kind, and the quoted
ones the resource and the account. -/
theorem determined_of_means
    (listed : entry ∈ Catalog.entries resource.kind generation)
    (listed' : entry' ∈ Catalog.entries resource'.kind generation')
    (means : Means entry resource change)
    (means' : Means entry' resource' change')
    (same :
      (Statement.access .grant change grantee).text =
        (Statement.access .grant change' grantee').text) :
    entry = entry' ∧
      Alike resource resource' ∧
      grantee.account = grantee'.account := by
  have tokens :=
    merged_eq_of_text_eq (Catalog.mem_entries_iff.1 listed).1
      (Catalog.mem_entries_iff.1 listed').1 means means' same
  have shape := skeleton_mem .grant grantee means
  have shape' := skeleton_mem .grant grantee' means'
  rw [← tokens] at shape'
  rcases entry_eq_of_mem listed listed' shape shape' with ⟨rfl, told⟩
  have quoted := congrArg contents tokens
  rw [contents_merged, contents_merged, contents_tokens .grant grantee means,
    contents_tokens .grant grantee' means'] at quoted
  have parts := List.append_inj' quoted rfl
  exact
    ⟨rfl, alike_of_quotedNames told parts.1, account_eq_of_quoted parts.2⟩

end

/-! ## Requests -/

/-- Whether the ids of a grant denote a right and a principal for which a
statement is built. -/
structure Builds
    {σ : Type}
    (handler : Program.Handler Store.interface σ)
    (state : σ)
    (generation : Generation)
    (principalId entitlementId : String)
    (right : Right)
    (principal : Identity)
    (built : Statement) : Prop where
  denoted :
    (Request.grant principalId entitlementId).subject = .ok (right, principal)
  ended :
    ((statement generation .grant principal right).run handler state).result =
      .ok built

section

variable
    {σ τ : Type}
    {handler : Program.Handler Store.interface σ}
    {handler' : Program.Handler Store.interface τ}
    {state : σ}
    {state' : τ}
    {generation generation' : Generation}
    {principalId entitlementId principalId' entitlementId' : String}
    {right right' : Right}
    {principal principal' : Identity}
    {built built' : Statement}

theorem Builds.exists_fits
    (builds :
      Builds handler state generation principalId entitlementId right principal
        built) :
    ∃ entry change grantee,
      Fits generation .grant right principal built entry change grantee := by
  have wellFormed := (Request.encodable_of_subject builds.denoted).1.2.2.1
  have reads := statement_reads generation .grant principal wellFormed
  have yields := reads.result_run handler state
  rw [builds.ended] at yields
  exact yields

theorem Builds.entitlementId_eq
    (builds :
      Builds handler state generation principalId entitlementId right principal
        built) :
    entitlementId = right.id := by
  rcases exists_of_bind_eq_ok builds.denoted with ⟨holder, _, rest⟩
  rcases exists_of_bind_eq_ok rest with ⟨named, read, same⟩
  cases same
  exact (Right.ofId_eq_ok_iff.1 read).1

/-- Statements of one text are of one privilege, for one account, on one
resource as far as statements name resources.  So neither two entitlements of
a resource nor two accounts are ever confused in what is handed over. -/
theorem determined_of_text_eq
    (first :
      Builds handler state generation principalId entitlementId right principal
        built)
    (second :
      Builds handler' state' generation' principalId' entitlementId' right'
        principal' built')
    (same : built.text = built'.text) :
    right.privilege = right'.privilege ∧
      Alike right.resource right'.resource ∧
      (∃ account,
        principal.account? = some account ∧
          principal'.account? = some account) ∧
      (right.resource = right'.resource → entitlementId = entitlementId') := by
  rcases first.exists_fits with
    ⟨entry, change, grantee, rfl, found, held, means⟩
  rcases second.exists_fits with
    ⟨entry', change', grantee', rfl, found', held', means'⟩
  rcases Catalog.mem_entries_of_lookup? found with ⟨listed, id⟩
  rcases Catalog.mem_entries_of_lookup? found' with ⟨listed', id'⟩
  rcases determined_of_means listed listed' means means' same with
    ⟨rfl, alike, account⟩
  have privilege : right.privilege = right'.privilege := id.symm.trans id'
  refine ⟨privilege, alike, ?_, ?_⟩
  · refine ⟨grantee.account, account?_of_granteeAccount held, ?_⟩
    rw [account, account?_of_granteeAccount held']
  · intro resource
    rw [first.entitlementId_eq, second.entitlementId_eq, Right.id, Right.id,
      privilege, resource]

end

/-- One statement grants a right on a server that goes by two names to a user
and to a role of one account. -/
theorem determined_of_text_eq_servers :
    let built :=
      Statement.access .grant (.privilege "CREATE USER" .everything false)
        ⟨⟨"alice", "%"⟩, by decide, by decide⟩
    Builds Store.Memory.handler procedureServer .modern "user:alice@%"
        "entitlement:create_user:server:db" ⟨"create_user", .server "db"⟩
        (.user ⟨"alice", "%"⟩) built ∧
      Builds Store.Memory.handler procedureServer .legacy "role:alice@%"
        "entitlement:create_user:server:replica"
        ⟨"create_user", .server "replica"⟩ (.role ⟨"alice", "%"⟩) built ∧
      Alike (.server "db") (.server "replica") := by
  intro built
  have first :
      Builds Store.Memory.handler procedureServer .modern "user:alice@%"
        "entitlement:create_user:server:db" ⟨"create_user", .server "db"⟩
        (.user ⟨"alice", "%"⟩) built :=
    ⟨by rfl, by rfl⟩
  have second :
      Builds Store.Memory.handler procedureServer .legacy "role:alice@%"
        "entitlement:create_user:server:replica"
        ⟨"create_user", .server "replica"⟩ (.role ⟨"alice", "%"⟩) built :=
    ⟨by rfl, by rfl⟩
  exact ⟨first, second, (determined_of_text_eq first second rfl).2.1⟩

end PrivilegeGraph.Administration
