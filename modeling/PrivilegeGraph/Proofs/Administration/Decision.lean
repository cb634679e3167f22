import PrivilegeGraph.Administration
import PrivilegeGraph.Proofs.Administration.Rules
import PrivilegeGraph.Proofs.Catalog
import PrivilegeGraph.Proofs.Identity.Codec

/-!
# When access is given

The rules for giving an entitlement to a principal, in the order in which they
are checked.  A request is accepted exactly if it meets them all, and
otherwise fails with the error of the first rule that it does not meet, for
every store, generation and pair of ids.
-/

namespace PrivilegeGraph.Administration

open Program (Handler)
open Sql
open Store (Access)

/-! ## The rules -/

/-- The id of a principal has two parts, is the id of a resource, and that is
a user or a role. -/
def principalRules
    (id : String)
    (next : Identity → Account → Rules) : Rules :=
  .demand ((Text.pieces ':' id).length = 2) (.malformedCompositeId id) fun _ =>
  .need
    (fun principal : Identity => id = principal.id ∧ principal.WellFormed)
    (.malformedId id) fun principal _ =>
  .need (fun account => principal.account? = some account)
    (.unsupportedKind principal.kind.name) fun account _ =>
  next principal account

/-- The parts of the id of a right. -/
structure RightParts where
  privilege : String
  kind : String
  body : String

/-- The id of the resource among the parts. -/
def RightParts.resourceId (parts : RightParts) : String :=
  parts.kind ++ ":" ++ parts.body

/-- The id of an entitlement has four parts, of which the first says so and
the second is not empty, and the others are the id of a resource. -/
def rightRules
    (id : String)
    (next : Right → Rules) : Rules :=
  .need
    (fun parts : RightParts =>
      Text.pieces ':' id =
          ["entitlement", parts.privilege, parts.kind, parts.body] ∧
        parts.privilege ≠ "")
    (.malformedCompositeId id) fun parts _ =>
  .need
    (fun resource : Identity =>
      parts.resourceId = resource.id ∧ resource.WellFormed)
    (.malformedId parts.resourceId) fun resource _ =>
  next ⟨parts.privilege, resource⟩

/-- The catalog lists the privilege for the kind of the resource. -/
def entryRules
    (generation : Generation)
    (right : Right)
    (next : Catalog.Entry → Rules) : Rules :=
  .need
    (fun entry =>
      entry ∈ Catalog.entries right.resource.kind generation ∧
        entry.id = right.privilege)
    (.unsupportedPrivilege right.privilege right.resource.kind)
    fun entry _ => next entry

/-- Whether a principal is of a kind that may hold an entry on a resource. -/
def MayHold
    (principal resource : Identity)
    (entry : Catalog.Entry) : Prop :=
  principal.kind = .user ∨
    principal.kind = .role ∧
      (resource.kind = .server ∨ resource.kind = .database) ∧
        entry.privilege.id ≠ Privilege.proxyId

theorem rolesAllowed_iff
    {resource : Identity}
    {entry : Catalog.Entry} :
    rolesAllowed resource entry = true ↔
      (resource.kind = .server ∨ resource.kind = .database) ∧
        entry.privilege.id ≠ Privilege.proxyId := by
  simp [rolesAllowed]

theorem granteeAccount_of_mayHold
    {principal resource : Identity}
    {account : Account}
    {entry : Catalog.Entry}
    (named : principal.account? = some account)
    (mayHold : MayHold principal resource entry) :
    granteeAccount principal resource entry = .ok account := by
  cases principal with
  | user holder =>
      cases named
      rfl
  | role holder =>
      cases named
      rcases mayHold with isUser | ⟨_, allowed⟩
      · cases isUser
      · rw [granteeAccount, if_pos (rolesAllowed_iff.2 allowed)]
  | _ => cases named

theorem granteeAccount_of_not_mayHold
    {principal resource : Identity}
    {account : Account}
    {entry : Catalog.Entry}
    (named : principal.account? = some account)
    (mayNotHold : ¬MayHold principal resource entry) :
    granteeAccount principal resource entry =
      .error (.unsupportedKind principal.kind.name) := by
  cases principal with
  | user holder => exact absurd (Or.inl rfl) mayNotHold
  | role holder =>
      rw [granteeAccount, if_neg]
      intro allowed
      exact mayNotHold (Or.inr ⟨rfl, rolesAllowed_iff.1 allowed⟩)
  | _ => cases named

/-- The name of an account passes its allow-list, and then its host. -/
def accountRules
    (account : Account)
    (next : Grantee → Rules) : Rules :=
  .demand (isAllowed isUserChar account.name = true)
    (.invalidIdentifier account.name) fun name =>
  .demand (isAllowed isHostChar account.host = true)
    (.invalidIdentifier account.host) fun host =>
  next ⟨account, name, host⟩

/-- The parts of a dotted name pass their allow-list. -/
def pathRules
    (parts : List String)
    (next : Path → Rules) : Rules :=
  .demand (∀ part ∈ parts, isAllowed isIdentChar part = true)
    (.invalidIdentifier (Text.joined '.' parts)) fun allowed =>
  next ⟨parts, allowed⟩

section

variable
    {σ : Type}
    (handler : Handler Store.interface σ)
    (state : σ)

/-- The store knows the routine, and as one of the two sorts. -/
def routineRules
    (schema name : String)
    (next : RoutineType → σ → Rules) : Rules :=
  let asked := handler (.routineType schema name) state
  .answered asked.1 fun found : Option String =>
  .need (fun text => found = some text)
    (.unresolved (Identity.routine schema name).id) fun text _ =>
  .need (fun type : RoutineType => Text.uppered text = type.keyword)
    (.unsupportedKind (Text.uppered text)) fun type _ =>
  next type asked.2

/-- What a statement quotes of a resource passes the allow-lists.  Only two
privileges can be given on a routine, whose sort the store has to know. -/
def resourceRules
    (entry : Catalog.Entry)
    (next : Change → σ → Rules) : Identity → Rules
  | .server _ =>
      if entry.privilege.id = Privilege.proxyId then
        next (.proxy none entry.withOption) state
      else
        next (.privilege entry.keyword .everything entry.withOption) state
  | .database name =>
      pathRules [name] fun target =>
      next (.privilege entry.keyword (.database target) entry.withOption)
        state
  | .table schema name =>
      pathRules [schema, name] fun target =>
      next (.privilege entry.keyword (.table target) entry.withOption) state
  | .column schema owner name =>
      pathRules [name] fun column =>
      pathRules [schema, owner] fun table =>
      next (.columns (columnKeywords entry) column table) state
  | .routine schema name =>
      .demand
        (entry.privilege.id = Privilege.executeId ∨
          entry.privilege.id = Privilege.alterRoutineId)
        (.unsupportedPrivilege entry.id .routine) fun _ =>
      pathRules [schema, name] fun target =>
      routineRules handler state schema name fun type later =>
      next (.privilege entry.keyword (.routine type target) false) later
  | .user account | .role account =>
      accountRules account fun target =>
      if entry.privilege.id = Privilege.roleAssignmentId then
        next (.membership target entry.withOption) state
      else
        next (.proxy (some target) entry.withOption) state

/-- The rules for giving an entitlement to a principal, both by id.  The last
one is that the store runs the statement. -/
def grantRules
    (generation : Generation)
    (principalId entitlementId : String) : Rules :=
  principalRules principalId fun principal account =>
  rightRules entitlementId fun right =>
  entryRules generation right fun entry =>
  .demand (MayHold principal right.resource entry)
    (.unsupportedKind principal.kind.name) fun _ =>
  accountRules account fun grantee =>
  resourceRules handler state entry
    (fun change later =>
      .answered
        (handler (.execute (Statement.access .grant change grantee).text)
          later).1
        fun _ : Unit => .done)
    right.resource

end

/-! ## The checks meet their rules -/

namespace Rules

theorem ofExcept_bind
    {α β : Type}
    (check : Except Error α)
    (next : α → Except Error β) :
    (Program.ofExcept (check >>= next) : Access β) =
      Program.ofExcept check >>= fun value =>
        Program.ofExcept (next value) := by
  cases check with
  | ok value => rfl
  | error error => rfl

section

variable
    {σ : Type}
    {handler : Handler Store.interface σ}
    {state : σ}

theorem decideTo_principal
    {id : String}
    {next : Identity → Account → Rules}
    {rest : Identity → Access Unit}
    (continues :
      ∀ principal account, principal.account? = some account →
        (next principal account).DecideTo
          ((rest principal).run handler state).result) :
    (principalRules id next).DecideTo
      ((Program.ofExcept (Identity.principalOfId id) >>= rest).run handler
        state).result := by
  unfold Identity.principalOfId
  split
  · next first second shape =>
    refine decideTo_of_meets () (by rw [shape]; rfl) (fun _ _ => rfl) ?_
    rw [ofExcept_bind, bind_assoc]
    apply decideTo_check
    · intro principal
      exact Identity.parse_eq_ok_iff
    · intro error
      exact Identity.eq_of_parse_error
    · intro principal _
      cases principal with
      | user account =>
          refine decideTo_of_meets account rfl ?_ (continues _ _ rfl)
          rintro other ⟨⟩
          rfl
      | role account =>
          refine decideTo_of_meets account rfl ?_ (continues _ _ rfl)
          rintro other ⟨⟩
          rfl
      | _ => exact decideTo_of_not_meets nofun
  · next other =>
    apply decideTo_of_not_meets
    intro _ two
    rcases List.length_eq_two.1 two with ⟨first, second, shape⟩
    exact other first second shape

/-- What is read as a right is on a well-formed resource. -/
theorem decideTo_right
    {id : String}
    {next : Right → Rules}
    {rest : Right → Access Unit}
    (continues :
      ∀ right, right.resource.WellFormed →
        (next right).DecideTo ((rest right).run handler state).result) :
    (rightRules id next).DecideTo
      ((Program.ofExcept (Right.ofId id) >>= rest).run handler
        state).result := by
  unfold Right.ofId
  split
  · next privilege kind body shape =>
    split
    · next empty =>
      apply decideTo_of_not_meets
      rintro parts ⟨same, present⟩
      rw [shape] at same
      cases same
      exact present empty
    · next present =>
      refine decideTo_of_meets ⟨privilege, kind, body⟩ ⟨shape, present⟩ ?_ ?_
      · rintro parts ⟨same, _⟩
        rw [shape] at same
        cases same
        rfl
      · rw [ofExcept_bind, bind_assoc]
        apply decideTo_check
        · intro resource
          exact Identity.parse_eq_ok_iff
        · intro error
          exact Identity.eq_of_parse_error
        · rintro resource ⟨_, wellFormed⟩
          exact continues ⟨privilege, resource⟩ wellFormed
  · next other =>
    apply decideTo_of_not_meets
    rintro parts ⟨shape, _⟩
    exact other _ _ _ shape

theorem decideTo_entry
    {generation : Generation}
    {right : Right}
    {next : Catalog.Entry → Rules}
    {rest : Catalog.Entry → Access Unit}
    (continues :
      ∀ entry,
        entry ∈ Catalog.entries right.resource.kind generation →
          (next entry).DecideTo ((rest entry).run handler state).result) :
    (entryRules generation right next).DecideTo
      ((Program.ofExcept (entryOf generation right) >>= rest).run handler
        state).result := by
  apply decideTo_check
  · intro entry
    rw [← Catalog.lookup?_eq_some_iff, entryOf]
    split
    · next found listed =>
      rw [listed, Except.ok.injEq, Option.some.injEq]
    · next missing =>
      rw [missing]
      exact iff_of_false nofun nofun
  · intro error failed
    rw [entryOf] at failed
    split at failed
    · cases failed
    · cases failed
      rfl
  · intro entry listed
    exact continues entry listed.1

theorem decideTo_holder
    {principal resource : Identity}
    {account : Account}
    {entry : Catalog.Entry}
    (named : principal.account? = some account)
    {next : Rules}
    {rest : Account → Access Unit}
    (continues : next.DecideTo ((rest account).run handler state).result) :
    (demand (MayHold principal resource entry)
        (.unsupportedKind principal.kind.name) fun _ => next).DecideTo
      ((Program.ofExcept (granteeAccount principal resource entry) >>=
          rest).run handler state).result := by
  apply decideTo_test
  · intro mayHold
    exact ⟨account, granteeAccount_of_mayHold named mayHold, continues⟩
  · exact granteeAccount_of_not_mayHold named

theorem decideTo_account
    {account : Account}
    {next : Grantee → Rules}
    {rest : Grantee → Access Unit}
    (continues :
      ∀ grantee,
        (next grantee).DecideTo ((rest grantee).run handler state).result) :
    (accountRules account next).DecideTo
      ((Program.ofExcept (Grantee.ofAccount account) >>= rest).run handler
        state).result := by
  unfold Grantee.ofAccount
  split
  · next name =>
    refine decideTo_of_meets () name (fun _ _ => rfl) ?_
    split
    · next host =>
      exact decideTo_of_meets () host (fun _ _ => rfl) (continues _)
    · next refused => exact decideTo_of_not_meets fun _ => refused
  · next refused => exact decideTo_of_not_meets fun _ => refused

theorem decideTo_path
    {parts : List String}
    {text : String}
    (shape : Text.pieces '.' text = parts)
    {next : Path → Rules}
    {rest : Path → Access Unit}
    (continues :
      ∀ path,
        (next path).DecideTo ((rest path).run handler state).result) :
    (pathRules parts next).DecideTo
      ((Program.ofExcept (Path.ofText text) >>= rest).run handler
        state).result := by
  subst shape
  rw [pathRules, Text.joined_pieces]
  apply decideTo_test
  · intro allowed
    exact ⟨_, dif_pos allowed, continues _⟩
  · intro refused
    exact dif_neg refused

theorem routineTypeOf_eq_ok_iff
    {text : String}
    {type : RoutineType} :
    routineTypeOf text = .ok type ↔ Text.uppered text = type.keyword := by
  rw [routineTypeOf]
  cases type with
  | function =>
      split
      · next isFunction => exact iff_of_true rfl isFunction
      · next other =>
        refine iff_of_false ?_ other
        split
        · nofun
        · nofun
  | procedure =>
      split
      · next isFunction =>
        refine iff_of_false nofun ?_
        rw [isFunction]
        decide
      · split
        · next isProcedure => exact iff_of_true rfl isProcedure
        · next other => exact iff_of_false nofun other

theorem eq_of_routineTypeOf_error
    {text : String}
    {error : Error}
    (failed : routineTypeOf text = .error error) :
    error = .unsupportedKind (Text.uppered text) := by
  rw [routineTypeOf] at failed
  split at failed
  · cases failed
  · split at failed
    · cases failed
    · cases failed
      rfl

theorem decideTo_routine
    {schema name : String}
    {next : RoutineType → σ → Rules}
    {rest : RoutineType → Access Unit}
    (continues :
      ∀ type later,
        (next type later).DecideTo ((rest type).run handler later).result) :
    (routineRules handler state schema name next).DecideTo
      ((routineType schema name >>= rest).run handler state).result := by
  have inSequence : routineType schema name >>= rest = _ :=
    Program.bind_assoc (Store.request (.routineType schema name)) _ rest
  rw [inSequence]
  apply decideTo_request
  intro found
  cases found with
  | none => exact decideTo_of_not_meets nofun
  | some text =>
      refine decideTo_of_meets text rfl ?_ ?_
      · rintro other ⟨⟩
        rfl
      · apply decideTo_check
        · intro type
          exact routineTypeOf_eq_ok_iff
        · intro error
          exact eq_of_routineTypeOf_error
        · intro type _
          exact continues _ _

/-! ## Changes -/

/-- The catalog has two privileges on accounts, so the refusal of any other
one is no rule. -/
theorem decideTo_accountDemand
    {entry : Catalog.Entry}
    {kind : Kind}
    {account : Account}
    (ofAccounts :
      entry.privilege.id = Privilege.roleAssignmentId ∨
        entry.privilege.id = Privilege.proxyId)
    {next : Change → σ → Rules}
    {rest : Change → Access Unit}
    (continues :
      ∀ change later,
        (next change later).DecideTo
          ((rest change).run handler later).result) :
    (accountRules account fun target =>
        if entry.privilege.id = Privilege.roleAssignmentId then
          next (.membership target entry.withOption) state
        else
          next (.proxy (some target) entry.withOption) state).DecideTo
      ((Program.ofExcept (demandOn.accountDemand entry kind account) >>=
          resolve >>= rest).run handler state).result := by
  rw [demandOn.accountDemand, ofExcept_bind, bind_assoc, bind_assoc]
  apply decideTo_account
  intro target
  by_cases assigns : entry.privilege.id = Privilege.roleAssignmentId
  · rw [if_pos assigns, if_pos assigns]
    exact continues _ _
  · rw [if_neg assigns, if_neg assigns,
      if_pos (ofAccounts.resolve_left assigns)]
    exact continues _ _

/-- The parts of a well-formed resource are the pieces of its dotted names, so
checking a name piece by piece checks the parts. -/
theorem decideTo_resource
    {generation : Generation}
    {entry : Catalog.Entry}
    {resource : Identity}
    (listed : entry ∈ Catalog.entries resource.kind generation)
    (wellFormed : resource.WellFormed)
    {next : Change → σ → Rules}
    {rest : Change → Access Unit}
    (continues :
      ∀ change later,
        (next change later).DecideTo
          ((rest change).run handler later).result) :
    (resourceRules handler state entry next resource).DecideTo
      ((Program.ofExcept (demandOn entry resource) >>= resolve >>= rest).run
          handler state).result := by
  cases resource with
  | server name =>
      rw [resourceRules, demandOn]
      split
      · exact continues _ _
      · exact continues _ _
  | database name =>
      rw [resourceRules, demandOn, ofExcept_bind, bind_assoc, bind_assoc]
      apply decideTo_path (Text.pieces_singleton wellFormed.2)
      intro target
      exact continues _ _
  | table schema name =>
      rw [resourceRules, demandOn, ofExcept_bind, bind_assoc, bind_assoc]
      apply decideTo_path (Text.pieces_pair wellFormed.1.2 wellFormed.2.2)
      intro target
      exact continues _ _
  | column schema owner name =>
      rcases wellFormed with ⟨schemaSegment, ownerSegment, nameSegment⟩
      rw [resourceRules, demandOn, ofExcept_bind, bind_assoc, bind_assoc]
      apply decideTo_path (Text.pieces_singleton nameSegment.2)
      intro column
      rw [ofExcept_bind, bind_assoc]
      apply
        decideTo_path (Text.pieces_pair schemaSegment.2 ownerSegment.2)
      intro table
      exact continues _ _
  | routine schema name =>
      rw [resourceRules, demandOn]
      split
      · next ofRoutines =>
        refine decideTo_of_meets () ofRoutines (fun _ _ => rfl) ?_
        rw [ofExcept_bind, bind_assoc, bind_assoc]
        apply decideTo_path (Text.pieces_pair wellFormed.1.2 wellFormed.2.2)
        intro target
        show
          (routineRules handler state schema name _).DecideTo
            ((routineType schema name >>=
                  (fun type =>
                    pure (.privilege entry.keyword (.routine type target)
                      false)) >>=
                rest).run handler state).result
        rw [bind_assoc]
        apply decideTo_routine
        intro type later
        exact continues _ _
      · next other => exact decideTo_of_not_meets fun _ => other
  | user account =>
      exact
        decideTo_accountDemand
          (Catalog.privilege_of_account_entry (Or.inl rfl) listed) continues
  | role account =>
      exact
        decideTo_accountDemand
          (Catalog.privilege_of_account_entry (Or.inr rfl) listed) continues

end

end Rules

/-! ## The decision -/

/-- A statement is built by one check after another. -/
theorem statement_bind
    {α : Type}
    (generation : Generation)
    (action : Action)
    (principal : Identity)
    (right : Right)
    (rest : Statement → Access α) :
    statement generation action principal right >>= rest =
      Program.ofExcept (entryOf generation right) >>= fun entry =>
        Program.ofExcept (granteeAccount principal right.resource entry) >>=
          fun account =>
        Program.ofExcept (Grantee.ofAccount account) >>= fun grantee =>
          Program.ofExcept (demandOn entry right.resource) >>= resolve >>=
            fun change => rest (.access action change grantee) := by
  simp only [statement, check, Rules.ofExcept_bind, bind_assoc]
  rfl

/-- A request to give access is accepted exactly if it meets all rules, and
otherwise fails with the error of the first that it does not meet. -/
theorem grant_decided
    {σ : Type}
    (handler : Handler Store.interface σ)
    (state : σ)
    (generation : Generation)
    (principalId entitlementId : String) :
    (grantRules handler state generation principalId entitlementId).DecideTo
      ((grant generation principalId entitlementId).run handler
        state).result := by
  apply Rules.decideTo_principal
  intro principal account named
  apply Rules.decideTo_right
  intro right wellFormed
  rw [statement_bind]
  apply Rules.decideTo_entry
  intro entry listed
  apply Rules.decideTo_holder named
  apply Rules.decideTo_account
  intro grantee
  apply Rules.decideTo_resource listed wellFormed
  intro change later
  apply Rules.decideTo_request
  intro reply
  exact Rules.decideTo_done

end PrivilegeGraph.Administration
