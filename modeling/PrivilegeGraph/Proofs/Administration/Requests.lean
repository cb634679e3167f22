import PrivilegeGraph.Administration
import PrivilegeGraph.Proofs.Grant.Codec
import PrivilegeGraph.Proofs.Sql.Names
import PrivilegeGraph.Proofs.Store.Execution

/-!
# What requests for a change of access mean

A request names a right and a principal by ids.  `Means` says which change an
entry of the catalog stands for on a resource, without regard to the checks
that are made on the way.  A statement that is built at all is that of the
change which its request means.
-/

namespace PrivilegeGraph.Administration

open Sql
open Store (Access Call)

/-- A step of a checked computation that gave a result gave a value first. -/
theorem exists_of_bind_eq_ok
    {ε α β : Type}
    {first : Except ε α}
    {next : α → Except ε β}
    {result : β}
    (succeeded : first >>= next = .ok result) :
    ∃ value, first = .ok value ∧ next value = .ok result := by
  cases first with
  | error error => cases succeeded
  | ok value => exact ⟨value, rfl, succeeded⟩

/-! ## Requests by id -/

/-- A request to give or to take back a right, by ids. -/
inductive Request
  | grant (principalId entitlementId : String)
  | revoke (grantId : String)

namespace Request

/-- Whether access is given or taken. -/
def action : Request → Action
  | grant _ _ => .grant
  | revoke _ => .revoke

/-- The right and the principal that the ids denote. -/
def subject : Request → Except Error (Right × Identity)
  | grant principalId entitlementId => do
      let principal ← Identity.principalOfId principalId
      let right ← Right.ofId entitlementId
      return (right, principal)
  | revoke grantId => Grant.partsOfId grantId

/-- Carry a request out. -/
def carryOut (generation : Generation) : Request → Access Unit
  | grant principalId entitlementId =>
      Administration.grant generation principalId entitlementId
  | revoke grantId => Administration.revoke generation grantId

/-- Both requests read their ids and then take the same course. -/
theorem carryOut_eq
    (generation : Generation)
    (request : Request) :
    request.carryOut generation =
      Program.ofExcept request.subject >>= fun subject =>
        statement generation request.action subject.2 subject.1 >>= apply := by
  cases request with
  | grant principalId entitlementId =>
      simp only [carryOut, Administration.grant, subject]
      cases Identity.principalOfId principalId with
      | error error => rfl
      | ok principal =>
          cases Right.ofId entitlementId with
          | error error => rfl
          | ok right => rfl
  | revoke grantId => rfl

/-- The right and the principal of a request can be told apart in its ids. -/
theorem encodable_of_subject
    {request : Request}
    {right : Right}
    {principal : Identity}
    (denoted : request.subject = .ok (right, principal)) :
    right.Encodable ∧ principal.EncodablePrincipal := by
  cases request with
  | grant principalId entitlementId =>
      rcases exists_of_bind_eq_ok denoted with ⟨holder, first, rest⟩
      rcases exists_of_bind_eq_ok rest with ⟨named, second, same⟩
      cases same
      exact
        ⟨(Right.ofId_eq_ok_iff.1 second).2,
          (Identity.principalOfId_eq_ok_iff.1 first).2⟩
  | revoke grantId =>
      exact (Grant.partsOfId_eq_ok_iff.1 denoted).2

end Request

/-! ## What entries mean -/

/-- The change that an entry stands for on a resource.  The sort of a routine
is the only part that neither of them determines. -/
inductive Means (entry : Catalog.Entry) : Identity → Change → Prop
  | everything
      {name : String}
      (ordinary : entry.privilege.id ≠ Privilege.proxyId) :
      Means entry (.server name)
        (.privilege entry.keyword .everything entry.withOption)
  | everyAccount
      {name : String}
      (proxies : entry.privilege.id = Privilege.proxyId) :
      Means entry (.server name) (.proxy none entry.withOption)
  | database
      {name : String}
      {target : Path}
      (parts : target.parts = [name]) :
      Means entry (.database name)
        (.privilege entry.keyword (.database target) entry.withOption)
  | table
      {schema name : String}
      {target : Path}
      (parts : target.parts = [schema, name]) :
      Means entry (.table schema name)
        (.privilege entry.keyword (.table target) entry.withOption)
  | column
      {schema owner name : String}
      {column table : Path}
      (parts : column.parts = [name])
      (tableParts : table.parts = [schema, owner]) :
      Means entry (.column schema owner name)
        (.columns (columnKeywords entry) column table)
  | routine
      {schema name : String}
      {target : Path}
      (type : RoutineType)
      (parts : target.parts = [schema, name])
      (ofRoutines :
        entry.privilege.id = Privilege.executeId ∨
          entry.privilege.id = Privilege.alterRoutineId) :
      Means entry (.routine schema name)
        (.privilege entry.keyword (.routine type target) false)
  | membership
      {resource : Identity}
      {target : Grantee}
      (named : resource.account? = some target.account)
      (assigns : entry.privilege.id = Privilege.roleAssignmentId) :
      Means entry resource (.membership target entry.withOption)
  | proxy
      {resource : Identity}
      {target : Grantee}
      (named : resource.account? = some target.account)
      (proxies : entry.privilege.id = Privilege.proxyId) :
      Means entry resource (.proxy (some target) entry.withOption)

/-- What a demand becomes once the sort of its routine is known. -/
inductive Resolves : Demand → Change → Prop
  | change (change : Change) : Resolves (.change change) change
  | routine
      {keyword schema name : String}
      {target : Path}
      (type : RoutineType) :
      Resolves (.routine keyword schema name target)
        (.privilege keyword (.routine type target) false)

theorem ofText_dotted_eq_ok_iff
    {schema name : String}
    {target : Path}
    (schemaSegment : Identity.IsSegment schema)
    (nameSegment : Identity.IsSegment name) :
    Path.ofText (schema ++ "." ++ name) = .ok target ↔
      target.parts = [schema, name] := by
  rw [Path.ofText_eq_ok_iff]
  exact iff_of_eq
    (congrArg (target.parts = ·)
      (Text.pieces_pair schemaSegment.2 nameSegment.2))

theorem ofText_eq_ok_iff_of_segment
    {name : String}
    {target : Path}
    (segment : Identity.IsSegment name) :
    Path.ofText name = .ok target ↔ target.parts = [name] := by
  rw [Path.ofText_eq_ok_iff, Text.pieces_singleton segment.2]

theorem means_of_accountDemand
    {entry : Catalog.Entry}
    {resource : Identity}
    {account : Account}
    {kind : Kind}
    {demand : Demand}
    {change : Change}
    (named : resource.account? = some account)
    (demanded : demandOn.accountDemand entry kind account = .ok demand)
    (resolves : Resolves demand change) :
    Means entry resource change := by
  rcases exists_of_bind_eq_ok demanded with ⟨target, checked, rest⟩
  have targetNamed : resource.account? = some target.account := by
    rw [Grantee.ofAccount_eq_ok_iff.1 checked, named]
  split at rest
  · next assigns =>
    cases rest
    cases resolves
    exact .membership targetNamed assigns
  · split at rest
    · next proxies =>
      cases rest
      cases resolves
      exact .proxy targetNamed proxies
    · cases rest

/-- What is demanded of a well-formed resource is what the entry means. -/
theorem means_of_demandOn
    {entry : Catalog.Entry}
    {resource : Identity}
    {demand : Demand}
    {change : Change}
    (wellFormed : resource.WellFormed)
    (demanded : demandOn entry resource = .ok demand)
    (resolves : Resolves demand change) :
    Means entry resource change := by
  cases resource with
  | server name =>
      rw [demandOn] at demanded
      split at demanded
      · next proxies =>
        cases demanded
        cases resolves
        exact .everyAccount proxies
      · next ordinary =>
        cases demanded
        cases resolves
        exact .everything ordinary
  | database name =>
      rcases exists_of_bind_eq_ok demanded with ⟨target, read, same⟩
      cases same
      cases resolves
      exact .database ((ofText_eq_ok_iff_of_segment wellFormed).1 read)
  | table schema name =>
      rcases exists_of_bind_eq_ok demanded with ⟨target, read, same⟩
      cases same
      cases resolves
      exact .table ((ofText_dotted_eq_ok_iff wellFormed.1 wellFormed.2).1 read)
  | column schema owner name =>
      rcases exists_of_bind_eq_ok demanded with ⟨column, read, rest⟩
      rcases exists_of_bind_eq_ok rest with ⟨table, tableRead, same⟩
      cases same
      cases resolves
      exact
        .column ((ofText_eq_ok_iff_of_segment wellFormed.2.2).1 read)
          ((ofText_dotted_eq_ok_iff wellFormed.1 wellFormed.2.1).1 tableRead)
  | routine schema name =>
      rw [demandOn] at demanded
      split at demanded
      · next ofRoutines =>
        rcases exists_of_bind_eq_ok demanded with ⟨target, read, same⟩
        cases same
        cases resolves with
        | routine type =>
            exact
              .routine type
                ((ofText_dotted_eq_ok_iff wellFormed.1 wellFormed.2).1 read)
                ofRoutines
      · cases demanded
  | user account => exact means_of_accountDemand rfl demanded resolves
  | role account => exact means_of_accountDemand rfl demanded resolves

/-! ## Statements that are built -/

/-- Whether a statement is that of an action which a right and a principal
mean to a server. -/
structure Fits
    (generation : Generation)
    (action : Action)
    (right : Right)
    (principal : Identity)
    (built : Statement)
    (entry : Catalog.Entry)
    (change : Change)
    (grantee : Grantee) : Prop where
  written : built = .access action change grantee
  listed :
    Catalog.lookup? right.resource.kind right.privilege generation =
      some entry
  held : granteeAccount principal right.resource entry = .ok grantee.account
  meant : Means entry right.resource change

theorem routineType_reads
    {generation : Generation}
    (schema name : String) :
    (routineType schema name).Confined (Call.IsReadOn generation)
      (Program.Yielding fun _ => True) := by
  have reads : Call.IsReadOn generation (.routineType schema name) :=
    ⟨rfl, trivial⟩
  have asked :
      (Store.request (.routineType schema name)).Confined
        (Call.IsReadOn generation) (Program.Yielding fun _ => True) :=
    Store.isReadOn_request reads (fun _ => trivial) fun _ => trivial
  apply asked.bind_yielding
  intro found _
  cases found with
  | none => exact trivial
  | some text =>
      show Program.Yielding _ (routineTypeOf text)
      cases routineTypeOf text with
      | ok type => exact trivial
      | error error => exact trivial

theorem resolve_reads
    {generation : Generation}
    (demand : Demand) :
    (resolve demand).Confined (Call.IsReadOn generation)
      (Program.Yielding (Resolves demand)) := by
  cases demand with
  | change change => exact .change change
  | routine keyword schema name target =>
      apply (routineType_reads schema name).bind_yielding
      intro type _
      exact Resolves.routine type

theorem check_eq_ok
    {generation : Generation}
    {principal : Identity}
    {right : Right}
    {demand : Demand}
    {grantee : Grantee}
    (passed : check generation principal right = .ok (demand, grantee)) :
    ∃ entry,
      Catalog.lookup? right.resource.kind right.privilege generation =
          some entry ∧
        granteeAccount principal right.resource entry = .ok grantee.account ∧
        demandOn entry right.resource = .ok demand := by
  rcases exists_of_bind_eq_ok passed with ⟨entry, found, rest⟩
  rcases exists_of_bind_eq_ok rest with ⟨account, held, rest⟩
  rcases exists_of_bind_eq_ok rest with ⟨checked, named, rest⟩
  rcases exists_of_bind_eq_ok rest with ⟨demanded, means, same⟩
  cases same
  refine ⟨entry, ?_, ?_, means⟩
  · rw [entryOf] at found
    split at found
    · next listed =>
      cases found
      exact listed
    · cases found
  · rw [Grantee.ofAccount_eq_ok_iff.1 named, held]

/-- Building a statement only reads, and what is built fits the request. -/
theorem statement_reads
    (generation : Generation)
    (action : Action)
    (principal : Identity)
    {right : Right}
    (wellFormed : right.resource.WellFormed) :
    (statement generation action principal right).Confined
      (Call.IsReadOn generation)
      (Program.Yielding fun built =>
        ∃ entry change grantee,
          Fits generation action right principal built entry change
            grantee) := by
  rw [statement]
  cases passed : check generation principal right with
  | error error => exact trivial
  | ok found =>
      rcases found with ⟨demand, grantee⟩
      rcases check_eq_ok passed with ⟨entry, listed, held, demanded⟩
      show Program.Confined _ _ (resolve demand >>= _)
      apply (resolve_reads demand).bind_yielding
      intro change resolves
      exact
        ⟨entry, change, grantee, rfl, listed, held,
          means_of_demandOn wellFormed demanded resolves⟩

/-! ## Requests that are carried out -/

/-- Whether a text is that of a statement which fits a request. -/
def Request.Writes
    (generation : Generation)
    (request : Request)
    (text : String) : Prop :=
  ∃ right principal built entry change grantee,
    request.subject = .ok (right, principal) ∧
      Fits generation request.action right principal built entry change
        grantee ∧
      text = built.text

/-- Whatever a request hands over is the text of a statement that fits it. -/
theorem Request.carryOut_confined
    (generation : Generation)
    (request : Request) :
    (request.carryOut generation).Confined
      (fun call =>
        ∀ text, Call.statement? call = some text →
          request.Writes generation text)
      (fun _ => True) := by
  rw [carryOut_eq]
  cases denoted : request.subject with
  | error error => exact trivial
  | ok subject =>
      rcases subject with ⟨right, principal⟩
      have wellFormed := (encodable_of_subject denoted).1.2.2.1
      have reads :=
        statement_reads generation request.action principal wellFormed
      show
        Program.Confined _ _
          (statement generation request.action principal right >>= apply)
      refine
        Program.Confined.bind
          (reads.weaken ?_ fun _ holds => holds) (fun _ _ => trivial) ?_
      · intro call callReads text handed
        rw [show Call.statement? call = none from callReads.1] at handed
        cases handed
      · rintro built ⟨entry, change, grantee, fits⟩
        refine ⟨?_, ?_⟩
        · intro text handed
          cases handed
          exact
            ⟨right, principal, built, entry, change, grantee, denoted, fits,
              rfl⟩
        · intro answer
          cases answer with
          | ok reply => exact trivial
          | error fault => exact trivial

/-! ## Requests are atomic -/

theorem execute_atomic
    {generation : Generation}
    (text : String) :
    Store.Atomic generation (Store.request (.execute text)) := by
  refine Store.Atomic.execute ?_ ?_
  · intro fault
    exact rfl
  · exact rfl

theorem apply_atomic
    {generation : Generation}
    (built : Statement) :
    Store.Atomic generation (apply built) :=
  (execute_atomic built.text).bind_settled fun _ => rfl

/-- Whether a right fits a principal is settled before anything is handed
over, and nothing is asked afterwards. -/
theorem Request.carryOut_atomic
    (generation : Generation)
    (request : Request) :
    Store.Atomic generation (request.carryOut generation) := by
  rw [carryOut_eq]
  cases denoted : request.subject with
  | error error => exact .refused error
  | ok subject =>
      rcases subject with ⟨right, principal⟩
      have wellFormed := (encodable_of_subject denoted).1.2.2.1
      show
        Store.Atomic generation
          (statement generation request.action principal right >>= apply)
      exact
        Store.Atomic.bind_reads
          (statement_reads generation request.action principal wellFormed)
          apply_atomic

end PrivilegeGraph.Administration
