import PrivilegeGraph.Entitlement
import PrivilegeGraph.Proofs.Administration.Acceptance
import PrivilegeGraph.Proofs.Administration.Decision
import PrivilegeGraph.Proofs.Store.View

/-!
# Who an entitlement can be granted to

An entitlement lists the kinds of principals that can hold it, and a request
refuses principals of a kind that may not.  The list depends on the generation
of the server alone, and the refusal on the resource and the privilege alone.
They always agree on users; on roles they agree exactly where the server is
modern and roles may hold the entry, or where neither is so.
-/

namespace PrivilegeGraph.Administration

open Program (Handler)
open Sql
open Store (Access)

/-! ## Checks that are not about kinds -/

/-- Whether a result is no failure for the kind of a resource. -/
def SparesKind {α : Type} (result : Except Error α) : Prop :=
  ∀ kind, result ≠ .error (.unsupportedKind kind)

namespace SparesKind

theorem bind
    {α β : Type}
    {check : Except Error α}
    {next : α → Except Error β}
    (first : SparesKind check)
    (rest : ∀ value, SparesKind (next value)) :
    SparesKind (check >>= next) := by
  intro kind failed
  cases check with
  | ok value => exact rest value kind failed
  | error error =>
      cases failed
      exact first kind rfl

theorem ok
    {α : Type}
    (value : α) :
    SparesKind (.ok value) := by
  intro kind failed
  cases failed

theorem ofText (text : String) : SparesKind (Path.ofText text) := by
  intro kind failed
  rw [Path.ofText] at failed
  split at failed
  · cases failed
  · cases failed

theorem ofAccount (account : Account) :
    SparesKind (Grantee.ofAccount account) := by
  intro kind failed
  rw [Grantee.ofAccount] at failed
  split at failed
  · split at failed
    · cases failed
    · cases failed
  · cases failed

theorem accountDemand
    (entry : Catalog.Entry)
    (kind : Kind)
    (account : Account) :
    SparesKind (demandOn.accountDemand entry kind account) := by
  apply (ofAccount account).bind
  intro target
  split
  · intro _ failed
    cases failed
  · split
    · intro _ failed
      cases failed
    · intro _ failed
      cases failed

/-- What is demanded of a resource fails for a name or a privilege only. -/
theorem demandOn
    (entry : Catalog.Entry)
    (resource : Identity) :
    SparesKind (demandOn entry resource) := by
  cases resource with
  | server name =>
      rw [Administration.demandOn]
      split
      · intro _ failed
        cases failed
      · intro _ failed
        cases failed
  | database name =>
      apply (ofText name).bind
      exact fun _ => ok _
  | table schema name =>
      apply (ofText _).bind
      exact fun _ => ok _
  | column schema owner name =>
      apply (ofText _).bind
      intro column
      apply (ofText _).bind
      exact fun _ => ok _
  | routine schema name =>
      rw [Administration.demandOn]
      split
      · apply (ofText _).bind
        exact fun _ => ok _
      · intro _ failed
        cases failed
  | user account => exact accountDemand entry .user account
  | role account => exact accountDemand entry .role account

section

variable
    {σ α β : Type}
    {handler : Handler Store.interface σ}
    {state : σ}

theorem run_check
    {check : Except Error α}
    {rest : α → Access β}
    (spares : SparesKind check)
    (continues :
      ∀ value, check = .ok value →
        SparesKind ((rest value).run handler state).result) :
    SparesKind
      ((Program.ofExcept check >>= rest).run handler state).result := by
  cases check with
  | ok value => exact continues value rfl
  | error error =>
      intro kind failed
      cases failed
      exact spares kind rfl

theorem run_request
    {call : Store.Call}
    {rest : call.Reply → Access β}
    (continues :
      ∀ reply, (handler call state).1 = .ok reply →
        SparesKind
          ((rest reply).run handler (handler call state).2).result) :
    SparesKind ((Store.request call >>= rest).run handler state).result := by
  simp only [Store.request, Program.bind_eq, Program.bind, Program.run]
  cases answer : (handler call state).1 with
  | ok reply => exact continues reply answer
  | error fault =>
      intro _ failed
      cases failed

end

end SparesKind

/-! ## Requests and the kinds of principals -/

section

variable
    {σ : Type}
    (handler : Handler Store.interface σ)
    (state : σ)

/-- Whether a resource is no routine, or one that the store knows as one of
the two sorts. -/
def RoutineKnown : Identity → Prop
  | .routine schema name =>
      ∃ text,
        (handler (.routineType schema name) state).1 = .ok (some text) ∧
          ∃ type : RoutineType, Text.uppered text = type.keyword
  | _ => True

/-- Whether a request is refused for the kind of its principal or of a
resource. -/
def RefusedForKind
    (generation : Generation)
    (principalId entitlementId : String) : Prop :=
  ∃ kind,
    ((grant generation principalId entitlementId).run handler state).result =
      .error (.unsupportedKind kind)

end

/-- Only what is demanded of a routine is left to the store. -/
theorem eq_routine_of_demandOn
    {entry : Catalog.Entry}
    {resource : Identity}
    {keyword schema name : String}
    {target : Path}
    (demanded :
      demandOn entry resource = .ok (.routine keyword schema name target)) :
    resource = .routine schema name := by
  have notOfAccount :
      ∀ kind account,
        demandOn.accountDemand entry kind account ≠
          .ok (.routine keyword schema name target) := by
    intro kind account demanded
    rcases exists_of_bind_eq_ok demanded with ⟨_, _, rest⟩
    split at rest
    · cases rest
    · split at rest
      · cases rest
      · cases rest
  cases resource with
  | server _ =>
      rw [demandOn] at demanded
      split at demanded
      · cases demanded
      · cases demanded
  | database _ =>
      rcases exists_of_bind_eq_ok demanded with ⟨_, _, same⟩
      cases same
  | table _ _ =>
      rcases exists_of_bind_eq_ok demanded with ⟨_, _, same⟩
      cases same
  | column _ _ _ =>
      rcases exists_of_bind_eq_ok demanded with ⟨_, _, rest⟩
      rcases exists_of_bind_eq_ok rest with ⟨_, _, same⟩
      cases same
  | routine _ _ =>
      rw [demandOn] at demanded
      split at demanded
      · rcases exists_of_bind_eq_ok demanded with ⟨_, _, same⟩
        cases same
        rfl
      · cases demanded
  | user account => exact absurd demanded (notOfAccount _ _)
  | role account => exact absurd demanded (notOfAccount _ _)

section

variable
    {σ : Type}
    {handler : Handler Store.interface σ}
    {state : σ}

/-- Finding the sort of a routine that the store knows fails for no kind. -/
theorem sparesKind_routineType
    {schema name : String}
    (known : RoutineKnown handler state (.routine schema name))
    {rest : RoutineType → Access Unit}
    (continues :
      ∀ type later, SparesKind ((rest type).run handler later).result) :
    SparesKind
      ((routineType schema name >>= rest).run handler state).result := by
  rcases known with ⟨text, answer, type, sort⟩
  have inSequence : routineType schema name >>= rest = _ :=
    Program.bind_assoc (Store.request (.routineType schema name)) _ rest
  rw [inSequence]
  apply SparesKind.run_request
  intro reply replied
  rw [answer] at replied
  cases replied
  apply SparesKind.run_check
  · rw [Rules.routineTypeOf_eq_ok_iff.2 sort]
    exact SparesKind.ok _
  · intro found _
    exact continues found _

theorem sparesKind_resource
    {entry : Catalog.Entry}
    {resource : Identity}
    (known : RoutineKnown handler state resource)
    {rest : Change → Access Unit}
    (continues :
      ∀ change later, SparesKind ((rest change).run handler later).result) :
    SparesKind
      ((Program.ofExcept (demandOn entry resource) >>= resolve >>= rest).run
          handler state).result := by
  rw [bind_assoc]
  apply SparesKind.run_check (SparesKind.demandOn entry resource)
  intro demand demanded
  cases demand with
  | change change => exact continues change state
  | routine keyword schema name target =>
      rw [eq_routine_of_demandOn demanded] at known
      show
        SparesKind
          ((routineType schema name >>=
                (fun type =>
                  pure (.privilege keyword (.routine type target) false)) >>=
              rest).run handler state).result
      rw [bind_assoc]
      apply sparesKind_routineType known
      intro type later
      exact continues _ _

variable
    {generation : Generation}
    {principal : Identity}
    {right : Right}
    {account : Account}
    {entry : Catalog.Entry}

/-- A request is read back from the ids of its right and its principal. -/
theorem grant_of_encodable
    (encodable : right.Encodable)
    (encodablePrincipal : principal.EncodablePrincipal) :
    grant generation principal.id right.id =
      statement generation .grant principal right >>= apply := by
  rw [grant, Identity.principalOfId_eq_ok_iff.2 ⟨rfl, encodablePrincipal⟩,
    Right.ofId_eq_ok_iff.2 ⟨rfl, encodable⟩]
  rfl

/-- A request for a listed right that can be read fails for a kind exactly if
its principal may not hold the entry. -/
theorem refusedForKind_iff
    (encodable : right.Encodable)
    (encodablePrincipal : principal.EncodablePrincipal)
    (known : RoutineKnown handler state right.resource)
    (listed :
      Catalog.lookup? right.resource.kind right.privilege generation =
        some entry) :
    RefusedForKind handler state generation principal.id right.id ↔
      ¬MayHold principal right.resource entry := by
  rcases encodablePrincipal.1 with ⟨account, named⟩
  have found : entryOf generation right = .ok entry := by
    rw [entryOf, listed]
  rw [RefusedForKind, grant_of_encodable encodable encodablePrincipal,
    statement_bind, found]
  -- Past the holder, every check and every answer spares the kind.
  constructor
  · rintro ⟨kind, refused⟩ mayHold
    refine SparesKind.run_check ?_ ?_ kind refused
    · exact SparesKind.ok _
    · rintro _ ⟨⟩
      rw [granteeAccount_of_mayHold named mayHold]
      apply SparesKind.run_check
      · exact SparesKind.ok _
      · rintro _ ⟨⟩
        apply SparesKind.run_check (SparesKind.ofAccount account)
        intro grantee _
        apply sparesKind_resource known
        intro change later
        apply SparesKind.run_request
        exact fun _ _ => SparesKind.ok _
  · intro mayNotHold
    refine ⟨principal.kind.name, ?_⟩
    show
      ((Program.ofExcept
              (granteeAccount principal right.resource entry) >>= _).run
          handler state).result = _
    rw [granteeAccount_of_not_mayHold named mayNotHold]
    rfl

end

/-! ## What is offered and what is accepted -/

/-- Whether an entitlement lists the kind of a principal exactly if requests
to grant it to that principal are not refused for a kind. -/
def OffersTruly
    {σ : Type}
    (handler : Handler Store.interface σ)
    (state : σ)
    (generation : Generation)
    (entitlement : Entitlement)
    (principal : Identity) : Prop :=
  principal.kind ∈ entitlement.grantableTo ↔
    ¬RefusedForKind handler state generation principal.id entitlement.id

theorem mem_principalKinds_user (generation : Generation) :
    Kind.user ∈ Entitlement.principalKinds generation := by
  cases generation <;> decide

theorem mem_principalKinds_role_iff
    {generation : Generation} :
    Kind.role ∈ Entitlement.principalKinds generation ↔
      generation = .modern := by
  cases generation <;> decide

/-- Entitlements on an addressable resource offer themselves truly to users.
To roles they do exactly when the server is modern if and only if the resource
is a server or a database and the entitlement is not about acting as another
account. -/
theorem offersTruly_iff
    {σ : Type}
    {handler : Handler Store.interface σ}
    {state : σ}
    {generation : Generation}
    {resource : Identity}
    (addressable : resource.Addressable)
    (known : RoutineKnown handler state resource)
    {entitlement : Entitlement}
    (offered : entitlement ∈ Entitlement.allFor generation resource)
    {account : Account}
    (allowed : account.Allowed) :
    ∃ entry ∈ Catalog.entries resource.kind generation,
      entitlement = Entitlement.ofEntry generation resource entry ∧
        OffersTruly handler state generation entitlement (.user account) ∧
        (OffersTruly handler state generation entitlement (.role account) ↔
          (generation = .modern ↔
            (resource.kind = .server ∨ resource.kind = .database) ∧
              entry.privilege.id ≠ "proxy")) := by
  rcases List.mem_map.1 offered with ⟨entry, listed, rfl⟩
  refine ⟨entry, listed, rfl, ?_⟩
  have encodable : (Entitlement.rightOf entry resource).Encodable :=
    Right.encodable_of_addressable listed rfl addressable
  have found :
      Catalog.lookup? resource.kind entry.id generation = some entry :=
    Catalog.lookup?_eq_some_iff.2 ⟨listed, rfl⟩
  have refused :
      ∀ principal : Identity, principal.account? = some account →
        (RefusedForKind handler state generation principal.id
            (Entitlement.ofEntry generation resource entry).id ↔
          ¬MayHold principal resource entry) :=
    fun principal named =>
      refusedForKind_iff encodable
        (Identity.encodablePrincipal_of_allowed named allowed) known found
  constructor
  · rw [OffersTruly, refused _ rfl, not_not]
    exact iff_of_true (mem_principalKinds_user generation) (Or.inl rfl)
  · have ofRole :
        MayHold (.role account) resource entry ↔
          (resource.kind = .server ∨ resource.kind = .database) ∧
            entry.privilege.id ≠ "proxy" := by
      simp [MayHold, Identity.kind, Privilege.proxyId]
    rw [OffersTruly, refused _ rfl, not_not, ofRole]
    exact iff_congr mem_principalKinds_role_iff Iff.rfl

/-- A column of a table of the store that has something in every scope. -/
def total : Identity :=
  .column "shop" "orders" "total"

theorem total_addressable : total.Addressable := by
  intro part member
  simp only [List.mem_cons, List.not_mem_nil, or_false] at member
  rcases member with rfl | rfl | rfl
  · decide
  · decide
  · decide

theorem offersTruly_iff_total :
    total.Addressable ∧
      RoutineKnown Store.Memory.openHandler Store.Memory.everyScope total ∧
        ∀ entitlement ∈ Entitlement.allFor .modern total,
          OffersTruly Store.Memory.openHandler Store.Memory.everyScope .modern
              entitlement (.user ⟨"analyst", "%"⟩) ∧
            ¬OffersTruly Store.Memory.openHandler Store.Memory.everyScope
                .modern entitlement (.role ⟨"analyst", "%"⟩) := by
  have known :
      RoutineKnown Store.Memory.openHandler Store.Memory.everyScope total :=
    trivial
  have allowed : Account.Allowed ⟨"analyst", "%"⟩ := by decide
  refine ⟨total_addressable, known, ?_⟩
  intro entitlement offered
  rcases offersTruly_iff total_addressable known offered allowed with
    ⟨entry, _, _, toUsers, toRoles⟩
  refine ⟨toUsers, ?_⟩
  rw [toRoles]
  simp [total, Identity.kind]

/-- What is offered to roles on a column is refused for their kind. -/
theorem column_offer_refused :
    ∃ entitlement ∈ Entitlement.allFor .modern total,
      Kind.role ∈ entitlement.grantableTo ∧
        RefusedForKind Store.Memory.openHandler Store.Memory.everyScope
          .modern (Identity.role ⟨"analyst", "%"⟩).id entitlement.id := by
  refine ⟨_, List.mem_cons_self, by decide, "role", ?_⟩
  decide +kernel

end PrivilegeGraph.Administration
