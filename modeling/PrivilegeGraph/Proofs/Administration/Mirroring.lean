import PrivilegeGraph.Proofs.Administration.Injection
import PrivilegeGraph.Proofs.Administration.Revocation

/-!
# Taking access back as it is given

A right is given and taken back on the same conditions, and by two statements
that say the same word for word, but for the verb, the preposition before the
account and the option clause, which only the first can end with.  Requests by
id come in the same pairs: a grant of an entitlement to a principal, and the
revocation of the grant id that is made of their two ids.
-/

namespace PrivilegeGraph.Administration

open Program (Handler Run)
open Sql
open Store (Access Call attempted)

/-! ## Texts -/

/-- What can follow the account in a statement that gives access. -/
def optionClauses : List String :=
  ["", " WITH GRANT OPTION", " WITH ADMIN OPTION"]

/-- Whether one text gives an account what another takes from it. -/
def Mirrors (account : Account) (given taken : String) : Prop :=
  ∃ object, ∃ clause ∈ optionClauses,
    given = "GRANT " ++ object ++ " TO " ++ account.quoted ++ clause ∧
      taken = "REVOKE " ++ object ++ " FROM " ++ account.quoted

theorem text_grant
    (change : Change)
    (grantee : Grantee) :
    (Statement.access .grant change grantee).text =
      "GRANT " ++ tokensText change.objectTokens ++ " TO " ++
        grantee.account.quoted ++ tokensText (change.optionTokens .grant) := by
  simp [Statement.text, Statement.tokens, tokensText_bare, Grantee.tokens,
    tokensText_account, Action.verb, Action.preposition, String.append_assoc]

theorem optionClause_mem
    (change : Change) :
    tokensText (change.optionTokens .grant) ∈ optionClauses := by
  rcases option_cases .grant change with none | grants | admin
  · rw [none]
    decide
  · rw [grants]
    decide
  · rw [admin]
    decide

/-- Both statements of one change to one account are written from the same
object and the same account. -/
theorem mirrors_access
    (change : Change)
    (grantee : Grantee) :
    Mirrors grantee.account (Statement.access .grant change grantee).text
      (Statement.access .revoke change grantee).text := by
  refine ⟨tokensText change.objectTokens, _, optionClause_mem change, ?_, ?_⟩
  · exact text_grant change grantee
  · simp [text_revoke, String.append_assoc]

/-! ## Statements -/

/-- The change and the account that a request is about, after all checks. -/
def settle
    (generation : Generation)
    (principal : Identity)
    (right : Right) :
    Access (Change × Grantee) := do
  let (demand, grantee) ←
    Program.ofExcept (check generation principal right)
  let change ← resolve demand
  return (change, grantee)

/-- Whether access is given or taken matters only once all is settled. -/
theorem statement_eq_settle
    (generation : Generation)
    (action : Action)
    (principal : Identity)
    (right : Right) :
    statement generation action principal right =
      settle generation principal right >>= fun settled =>
        pure (.access action settled.1 settled.2) := by
  simp only [statement, settle, bind_assoc, pure_bind]

/-- Whether a store says the same of every routine in two of its states. -/
def RoutinesAgree
    {σ : Type}
    (handler : Handler Store.interface σ)
    (state state' : σ) : Prop :=
  ∀ schema name,
    (handler (.routineType schema name) state).1 =
      (handler (.routineType schema name) state').1

section

variable
    {σ : Type}
    {handler : Handler Store.interface σ}
    {state state' : σ}

/-- The sort of a routine is the one thing that a store is asked for. -/
theorem result_run_resolve
    (agree : RoutinesAgree handler state state')
    (demand : Demand) :
    ((resolve demand).run handler state).result =
      ((resolve demand).run handler state').result := by
  cases demand with
  | change change => rfl
  | routine keyword schema name target =>
      have asked :
          ((Store.request (.routineType schema name)).run handler
              state).result =
            ((Store.request (.routineType schema name)).run handler
              state').result := by
        rw [Store.result_run_request, Store.result_run_request,
          agree schema name]
      refine Program.result_run_bind_congr ?_ fun _ _ _ => rfl
      apply Program.result_run_bind_congr asked
      intro found later later'
      cases found with
      | none => rfl
      | some text => rfl

theorem result_run_settle
    (agree : RoutinesAgree handler state state')
    (generation : Generation)
    (principal : Identity)
    (right : Right) :
    ((settle generation principal right).run handler state).result =
      ((settle generation principal right).run handler state').result := by
  rw [settle]
  cases check generation principal right with
  | error error => rfl
  | ok checked =>
      show
        ((resolve checked.1 >>= _).run handler state).result =
          ((resolve checked.1 >>= _).run handler state').result
      exact
        Program.result_run_bind_congr (result_run_resolve agree checked.1)
          fun _ _ _ => rfl

end

/-- What is settled is about the account of the principal. -/
theorem settle_yields
    (generation : Generation)
    (principal : Identity)
    (right : Right) :
    (settle generation principal right).Confined
      (Call.IsReadOn generation)
      (Program.Yielding fun settled =>
        principal.account? = some settled.2.account) := by
  rw [settle]
  cases passed : check generation principal right with
  | error error => exact trivial
  | ok checked =>
      rcases checked with ⟨demand, grantee⟩
      rcases check_eq_ok passed with ⟨entry, _, held, _⟩
      show Program.Confined _ _ (resolve demand >>= _)
      apply (resolve_reads demand).bind_yielding
      intro change _
      exact account?_of_granteeAccount held

/-- Whether two ways to build a statement for a principal are refused alike,
or build one text that mirrors the other. -/
inductive EndAlike (principal : Identity) :
    Except Error Statement → Except Error Statement → Prop
  | refused (error : Error) : EndAlike principal (.error error) (.error error)
  | built
      {account : Account}
      {given taken : Statement}
      (named : principal.account? = some account)
      (mirrors : Mirrors account given.text taken.text) :
      EndAlike principal (.ok given) (.ok taken)

/-- If one of two ways that end alike builds a statement, both do. -/
theorem EndAlike.exists_of_isOk
    {principal : Identity}
    {first second : Except Error Statement}
    (alike : EndAlike principal first second)
    (built : first.isOk = true ∨ second.isOk = true) :
    ∃ account given taken,
      principal.account? = some account ∧
        first = .ok given ∧ second = .ok taken ∧
          Mirrors account given.text taken.text := by
  cases alike with
  | refused error =>
      rcases built with impossible | impossible
      · cases impossible
      · cases impossible
  | built named mirrors => exact ⟨_, _, _, named, rfl, rfl, mirrors⟩

section

variable
    {σ : Type}
    {handler : Handler Store.interface σ}
    {state state' : σ}
    (agree : RoutinesAgree handler state state')
    (generation : Generation)

include agree

theorem statement_endAlike
    (principal : Identity)
    (right : Right) :
    EndAlike principal
      ((statement generation .grant principal right).run handler state).result
      ((statement generation .revoke principal right).run handler
        state').result := by
  have settled := result_run_settle agree generation principal right
  have account :=
    (settle_yields generation principal right).result_run handler state'
  rw [statement_eq_settle, statement_eq_settle]
  cases ended :
      ((settle generation principal right).run handler state').result with
  | error error =>
      rw [ended] at settled
      rw [Program.result_run_bind_error settled,
        Program.result_run_bind_error ended]
      exact .refused error
  | ok found =>
      rw [ended] at settled account
      rw [Program.result_run_bind_ok settled, Program.result_run_bind_ok ended]
      exact .built account (mirrors_access found.1 found.2)

end

/-! ## Requests -/

section

variable
    {σ : Type}
    {request : Request}
    {right : Right}
    {principal : Identity}

theorem attempted_apply
    (built : Statement)
    (handler : Handler Store.interface σ)
    (state : σ) :
    attempted ((apply built).run handler state) = [built.text] := by
  have handed :
      attempted
          ((Store.request (.execute built.text)).run handler state) =
        [built.text] := by
    refine (Store.attempted_ask (.execute built.text) _ handler state).trans ?_
    cases (handler (.execute built.text) state).1 with
    | ok reply => rfl
    | error fault => rfl
  rw [apply, Store.attempted_bind, handed]
  cases ((Store.request (.execute built.text)).run handler state).result with
  | ok reply => rfl
  | error error => rfl

/-- A request hands over the statement that is built for it. -/
theorem attempted_carryOut
    {generation : Generation}
    (denoted : request.subject = .ok (right, principal))
    {handler : Handler Store.interface σ}
    {state : σ}
    {built : Statement}
    (ended :
      ((statement generation request.action principal right).run handler
        state).result = .ok built) :
    attempted ((request.carryOut generation).run handler state) =
      [built.text] := by
  have wellFormed := (Request.encodable_of_subject denoted).1.2.2.1
  have reads :=
    statement_reads generation request.action principal wellFormed
  have readsOnly :=
    Store.attempted_eq_nil (reads.weaken (fun _ => And.left) fun _ => id)
      handler state
  rw [Request.carryOut_eq, denoted]
  show
    attempted
        ((statement generation request.action principal right >>= apply).run
          handler state) =
      _
  rw [Store.attempted_bind, readsOnly, ended]
  exact attempted_apply built handler _

/-- A request that succeeds denotes a right and a principal for which a
statement is built. -/
theorem exists_built_of_ok
    (request : Request)
    {generation : Generation}
    {handler : Handler Store.interface σ}
    {state : σ}
    (succeeded :
      ((request.carryOut generation).run handler state).result = .ok ()) :
    ∃ right principal built,
      request.subject = .ok (right, principal) ∧
        ((statement generation request.action principal right).run handler
          state).result = .ok built := by
  rw [Request.carryOut_eq] at succeeded
  cases denoted : request.subject with
  | error error =>
      rw [denoted] at succeeded
      cases succeeded
  | ok subject =>
      rw [denoted] at succeeded
      rcases subject with ⟨right, principal⟩
      change
        ((statement generation request.action principal right >>= apply).run
          handler state).result =
            .ok () at succeeded
      cases ended :
          ((statement generation request.action principal right).run handler
            state).result with
      | error error =>
          rw [Program.result_run_bind_error ended] at succeeded
          cases succeeded
      | ok built => exact ⟨right, principal, built, rfl, ended⟩

theorem subject_grant_eq_ok_iff
    {principalId entitlementId : String} :
    (Request.grant principalId entitlementId).subject =
        .ok (right, principal) ↔
      (principalId = principal.id ∧ principal.EncodablePrincipal) ∧
        entitlementId = right.id ∧ right.Encodable := by
  rw [← Identity.principalOfId_eq_ok_iff, ← Right.ofId_eq_ok_iff]
  constructor
  · intro denoted
    rcases exists_of_bind_eq_ok denoted with ⟨holder, first, rest⟩
    rcases exists_of_bind_eq_ok rest with ⟨named, second, same⟩
    cases same
    exact ⟨first, second⟩
  · rintro ⟨first, second⟩
    rw [Request.subject, first, second]
    rfl

/-- Two ids denote what the grant id that is made of them denotes. -/
theorem subject_revoke_of_grant
    {principalId entitlementId : String}
    (denoted :
      (Request.grant principalId entitlementId).subject =
        .ok (right, principal)) :
    (Request.revoke
          ("grant:" ++ entitlementId ++ ":" ++ principalId)).subject =
      .ok (right, principal) := by
  rcases subject_grant_eq_ok_iff.1 denoted with
    ⟨⟨rfl, holder⟩, rfl, encodable⟩
  exact Grant.partsOfId_eq_ok_iff.2 ⟨rfl, encodable, holder⟩

end

/-- Whether the ids of a principal and an entitlement have a statement handed
over, and the grant id that is made of them the one that mirrors it. -/
def HandOverMirrored
    {σ : Type}
    (handler : Handler Store.interface σ)
    (state state' : σ)
    (generation : Generation)
    (principalId entitlementId : String) : Prop :=
  ∃ (principal : Identity) (account : Account) (given taken : String),
    principalId = principal.id ∧
      principal.account? = some account ∧
      attempted
          ((grant generation principalId entitlementId).run handler state) =
        [given] ∧
      attempted
          ((revoke generation
              ("grant:" ++ entitlementId ++ ":" ++ principalId)).run handler
            state') =
        [taken] ∧
      Mirrors account given taken

section

variable
    {σ : Type}
    {handler : Handler Store.interface σ}
    {state state' : σ}
    (agree : RoutinesAgree handler state state')

include agree

/-- Both ways to name a grant hand over the statements that are built for its
right and its principal. -/
theorem handOverMirrored_of_isOk
    {generation : Generation}
    {principalId entitlementId : String}
    {right : Right}
    {principal : Identity}
    (denoted :
      (Request.grant principalId entitlementId).subject =
        .ok (right, principal))
    (built :
      ((statement generation .grant principal right).run handler
          state).result.isOk = true ∨
        ((statement generation .revoke principal right).run handler
          state').result.isOk = true) :
    HandOverMirrored handler state state' generation principalId
      entitlementId := by
  rcases
      (statement_endAlike agree generation principal right).exists_of_isOk
        built with
    ⟨account, given, taken, named, endedGiven, endedTaken, mirrors⟩
  have denoted' := subject_revoke_of_grant denoted
  exact
    ⟨principal, account, given.text, taken.text,
      (subject_grant_eq_ok_iff.1 denoted).1.1, named,
      attempted_carryOut denoted endedGiven,
      attempted_carryOut denoted' endedTaken, mirrors⟩

/-- Giving a right to a principal and taking it back are refused for the same
reason, or their statements mirror each other.  A request that succeeds to
give access by two ids is mirrored by the request to take back the grant id
that is made of them, and whatever grant id is taken back is made of two ids
in this way. -/
theorem revocation_mirrors
    (generation : Generation) :
    (∀ principal right,
        EndAlike principal
          ((statement generation .grant principal right).run handler
            state).result
          ((statement generation .revoke principal right).run handler
            state').result) ∧
      (∀ principalId entitlementId,
        ((grant generation principalId entitlementId).run handler
              state).result =
            .ok () →
          HandOverMirrored handler state state' generation principalId
            entitlementId) ∧
      ∀ grantId,
        ((revoke generation grantId).run handler state').result = .ok () →
          ∃ principalId entitlementId,
            grantId = "grant:" ++ entitlementId ++ ":" ++ principalId ∧
              HandOverMirrored handler state state' generation principalId
                entitlementId := by
  refine ⟨?_, ?_, ?_⟩
  · exact statement_endAlike agree generation
  · intro principalId entitlementId succeeded
    rcases
        exists_built_of_ok (.grant principalId entitlementId) succeeded with
      ⟨right, principal, built, denoted, ended⟩
    exact
      handOverMirrored_of_isOk agree denoted
        (Or.inl (congrArg Except.isOk ended))
  · intro grantId succeeded
    rcases exists_built_of_ok (.revoke grantId) succeeded with
      ⟨right, principal, built, denoted, ended⟩
    rcases Grant.partsOfId_eq_ok_iff.1 denoted with ⟨rfl, encodable, holder⟩
    have denoted' :
        (Request.grant principal.id right.id).subject =
          .ok (right, principal) :=
      subject_grant_eq_ok_iff.2 ⟨⟨rfl, holder⟩, rfl, encodable⟩
    refine ⟨principal.id, right.id, rfl, ?_⟩
    exact
      handOverMirrored_of_isOk agree denoted'
        (Or.inr (congrArg Except.isOk ended))

end

/-- The right to run a procedure is taken back as it is given. -/
theorem revocation_mirrors_procedure :
    RoutinesAgree Store.Memory.handler procedureServer procedureServer ∧
      ((grant .modern "user:alice@%"
            "entitlement:execute:routine:shop.refresh").run
              Store.Memory.handler procedureServer).result =
          .ok () ∧
        HandOverMirrored Store.Memory.handler procedureServer procedureServer
            .modern "user:alice@%"
            "entitlement:execute:routine:shop.refresh" ∧
          ((revoke .modern
              "grant:entitlement:execute:routine:shop.refresh:user:alice@%").run
                Store.Memory.handler procedureServer).result =
              .ok () ∧
            ∃ principalId entitlementId,
              "grant:entitlement:execute:routine:shop.refresh:user:alice@%" =
                  "grant:" ++ entitlementId ++ ":" ++ principalId ∧
                HandOverMirrored Store.Memory.handler procedureServer
                  procedureServer .modern principalId entitlementId := by
  have agree :
      RoutinesAgree Store.Memory.handler procedureServer procedureServer :=
    fun _ _ => rfl
  have given :
      ((grant .modern "user:alice@%"
          "entitlement:execute:routine:shop.refresh").run
            Store.Memory.handler procedureServer).result = .ok () := by
    rfl
  have taken :
      ((revoke .modern
          "grant:entitlement:execute:routine:shop.refresh:user:alice@%").run
            Store.Memory.handler procedureServer).result = .ok () := by
    rfl
  rcases revocation_mirrors agree .modern with ⟨_, ofGrant, ofRevoke⟩
  exact ⟨agree, given, ofGrant _ _ given, taken, ofRevoke _ taken⟩

end PrivilegeGraph.Administration
