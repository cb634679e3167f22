import PrivilegeGraph.Proofs.Catalog
import PrivilegeGraph.Proofs.Connector.LeftOut
import PrivilegeGraph.Proofs.Connector.Session

/-!
# Legacy servers

Dynamic privileges, the privileges that manage roles and membership in roles
came with modern servers.  A connector to a legacy server neither asks for
them nor speaks of them: whatever the store answers, over any session, it
never reads the tables that hold them, returns no entitlement and no grant of
such a privilege, and hands over no statement about one.
-/

namespace PrivilegeGraph

/-! ## What only modern servers have -/

namespace Catalog

/-- Whether an id is of an entry of a privilege that only modern servers
have. -/
def ModernOnly (id : String) : Prop :=
  ∃ kind, ∃ entry ∈ entries kind .modern,
    entry.privilege.modernOnly = true ∧ entry.id = id

theorem not_modernOnly_of_legacy
    {kind : Kind}
    {entry : Entry}
    (listed : entry ∈ entries kind .legacy) :
    ¬ModernOnly entry.id := by
  rintro ⟨_, other, otherListed, modern, same⟩
  cases Entry.eq_of_id_eq otherListed listed same
  have available := (mem_entries_iff.1 listed).2.2.1
  simp [Catalog.available, Generation.isModern, modern] at available

end Catalog

namespace Connector

open Program (Handler)
open Sql (Action Change Grantee Statement)
open Store (Call attempted executed)

/-- Whether an id is that of a right, and of no right to a privilege that only
modern servers have, however it is read. -/
def IsShared (id : String) : Prop :=
  (∃ right : Right, id = right.id) ∧
    ∀ right : Right, id = right.id → ¬Catalog.ModernOnly right.privilege

/-- Whether a reply gives away no privilege that only modern servers have. -/
def Command.Spares : (command : Command) → command.Reply → Prop
  | .entitlements _ _, (offered : List Entitlement) =>
      ∀ entitlement ∈ offered, IsShared entitlement.id
  | .grants _ _, (held : List Grant) =>
      ∀ grant ∈ held, IsShared grant.entitlementId
  | _, _ => True

/-- The texts of statements that a legacy server knows. -/
inductive LegacyText : String → Prop
  | createUser
      (account : Grantee)
      (password : String) :
      LegacyText (Statement.createUser account password).text
  | dropUser (account : Grantee) :
      LegacyText (Statement.dropUser account).text
  | access
      {entry : Catalog.Entry}
      {resource : Identity}
      {change : Change}
      (action : Action)
      (grantee : Grantee)
      (means : Administration.Means entry resource change)
      (listed : entry ∈ Catalog.entries resource.kind .legacy)
      (shared : entry.privilege.modernOnly = false)
      (static : entry.privilege.dynamic = false)
      (roleless :
        entry.privilege.id ∉
          ["create_role", "drop_role", Privilege.roleAssignmentId]) :
      LegacyText (Statement.access action change grantee).text

/-- Whether a command kept to what a legacy server knows. -/
structure Carried.OnLegacy
    {σ : Type}
    (carried : Carried σ) : Prop where
  unasked :
    ∀ user host,
      Call.globalGrants user host ∉ carried.run.calls ∧
        Call.roleEdges user host ∉ carried.run.calls
  spares :
    ∀ reply, carried.run.result = .ok reply → carried.command.Spares reply
  handed : ∀ text ∈ attempted carried.run, LegacyText text
  executed : executed carried.run ⊆ attempted carried.run

/-! ## Replies -/

theorem isShared_of_listed
    {right : Right}
    {entry : Catalog.Entry}
    (listed : entry ∈ Catalog.entries right.resource.kind .legacy)
    (named : entry.id = right.privilege) :
    IsShared right.id := by
  refine ⟨⟨right, rfl⟩, ?_⟩
  intro other same modern
  have free : ':' ∉ right.privilege.toList := by
    rw [← named]
    exact Catalog.Entry.colon_not_mem_id listed
  have free' : ':' ∉ other.privilege.toList := by
    rcases modern with ⟨_, otherEntry, otherListed, _, otherNamed⟩
    rw [← otherNamed]
    exact Catalog.Entry.colon_not_mem_id otherListed
  have privilege := (Right.privilege_resource_of_id_eq free free' same).1
  rw [← privilege, ← named] at modern
  exact Catalog.not_modernOnly_of_legacy listed modern

section

variable
    {σ : Type}
    {connector : Connector}
    {handler : Handler Store.interface σ}
    {state : σ}

theorem isShared_of_entitlements
    (legacy : connector.generation = .legacy)
    {id : String}
    {offered : List Entitlement}
    (read :
      ((connector.entitlements id).run handler state).result = .ok offered) :
    ∀ entitlement ∈ offered, IsShared entitlement.id := by
  rw [entitlements] at read
  cases parsed : Identity.parse id with
  | error error =>
      rw [parsed] at read
      cases read
  | ok resource =>
      rw [parsed] at read
      cases read
      intro entitlement member
      rcases List.mem_map.1 member with ⟨entry, listed, rfl⟩
      rw [legacy] at listed
      have shared : IsShared (Entitlement.rightOf entry resource).id :=
        isShared_of_listed listed rfl
      exact shared

theorem isShared_of_grants
    (legacy : connector.generation = .legacy)
    {kind : Kind}
    {id : String}
    {held : List Grant}
    (read :
      ((connector.grants kind id).run handler state).result = .ok held) :
    ∀ grant ∈ held, IsShared grant.entitlementId := by
  intro grant member
  rcases findable_of_grants read grant member with
    ⟨right, principal, rfl, _, known⟩
  rcases Option.isSome_iff_exists.1 known with ⟨entry, found⟩
  rw [reconciliation, legacy] at found
  rcases Catalog.mem_entries_of_lookup? found with ⟨listed, named⟩
  exact isShared_of_listed listed named

/-! ## Statements -/

theorem legacyText_of_writes
    {request : Administration.Request}
    {text : String}
    (writes : request.Writes .legacy text) :
    LegacyText text := by
  rcases writes with
    ⟨right, principal, _, entry, change, grantee, _,
      ⟨rfl, found, _, means⟩, rfl⟩
  have listed := (Catalog.mem_entries_of_lookup? found).1
  rcases Catalog.Entry.plain_of_legacy listed with ⟨shared, static, roleless⟩
  exact .access request.action grantee means listed shared static roleless

/-- What hands over legacy texts only. -/
def Hands
    {ε α : Type}
    (program : Program Store.interface ε α) : Prop :=
  program.Confined
    (fun call => ∀ text, Call.statement? call = some text → LegacyText text)
    fun _ => True

theorem hands_of_reads
    {ε α : Type}
    {generation : Generation}
    {program : Program Store.interface ε α}
    (reads : Store.Reading generation program) :
    Hands program := by
  apply reads.isRead.weaken _ fun _ holds => holds
  intro call isRead text handed
  rw [show Call.statement? call = none from isRead] at handed
  cases handed

theorem Hands.during
    {α : Type}
    {access : Store.Access α}
    (hands : Hands access)
    (activity : Activity) :
    Hands (during activity access) :=
  hands.mapError fun _ _ => trivial

theorem Hands.bind
    {ε α β : Type}
    {program : Program Store.interface ε α}
    {next : α → Program Store.interface ε β}
    (first : Hands program)
    (rest : ∀ value, Hands (next value)) :
    Hands (program >>= next) :=
  Program.Confined.bind first (fun _ _ => trivial) fun value _ => rest value

theorem hands_carryOut (request : Administration.Request) :
    Hands (request.carryOut .legacy) := by
  apply (request.carryOut_confined .legacy).weaken _ fun _ _ => trivial
  intro call writes text handed
  exact legacyText_of_writes (writes text handed)

theorem hands_execute
    {statement : Statement}
    (known : LegacyText statement.text) :
    Hands (Store.request (.execute statement.text)) := by
  refine ⟨?_, ?_⟩
  · intro text handed
    cases handed
    exact known
  · intro answer
    cases answer with
    | ok reply => exact trivial
    | error fault => exact trivial

theorem hands_checked
    {α : Type}
    (result : Except Error α) :
    Hands (checked result) := by
  have reads : Store.Reading .legacy (checked result) := checked_reads result
  exact hands_of_reads reads

theorem hands_createAccount
    (profile : List (String × String))
    (request : Password.Request)
    (draws : Password.Draws) :
    Hands (connector.createAccount profile request draws) := by
  apply (hands_checked _).bind
  intro name
  apply (hands_checked _).bind
  intro password
  have creates :
      ∀ account, Hands (Administration.createUser account password) := by
    intro account
    rw [Administration.createUser]
    cases Grantee.ofAccount account with
    | error error => exact trivial
    | ok grantee =>
        have handed := hands_execute (.createUser grantee password)
        exact handed.bind fun _ => trivial
  exact ((creates _).during _).bind fun _ => trivial

theorem hands_deleteAccount (id : String) :
    Hands (deleteAccount id) := by
  apply (hands_checked _).bind
  intro account
  have drops : Hands (Administration.dropUser account) := by
    rw [Administration.dropUser]
    cases Grantee.ofAccount account with
    | error error => exact trivial
    | ok grantee =>
        exact (hands_execute (.dropUser grantee)).bind fun _ => trivial
  exact drops.during _

theorem perform_hands
    (legacy : connector.generation = .legacy)
    (command : Command) :
    Hands (connector.perform command) := by
  cases command with
  | grant principalId entitlementId =>
      have hands := hands_carryOut (.grant principalId entitlementId)
      rw [← legacy] at hands
      exact hands.during (.grant principalId entitlementId)
  | revoke grantId =>
      have hands := hands_carryOut (.revoke grantId)
      rw [← legacy] at hands
      exact hands.during (.revoke grantId)
  | createAccount profile request draws =>
      exact hands_createAccount profile request draws
  | deleteAccount id => exact hands_deleteAccount id
  | _ => exact hands_of_reads (connector.perform_reads rfl)

/-! ## Sessions -/

/-- Every command keeps to what a legacy server knows, from whatever state it
is carried out. -/
theorem onLegacy_run
    (legacy : connector.generation = .legacy)
    (command : Command)
    (state : σ) :
    Carried.OnLegacy
      ⟨command, (connector.perform command).run handler state⟩ where
  unasked := by
    have suits := connector.perform_suits command
    rw [legacy] at suits
    intro user host
    constructor
    · intro asked
      cases suits.allowed_of_mem_calls handler state asked
    · intro asked
      cases suits.allowed_of_mem_calls handler state asked
  spares := by
    intro reply read
    cases command with
    | entitlements kind id => exact isShared_of_entitlements legacy read
    | grants kind id => exact isShared_of_grants legacy read
    | _ => exact trivial
  handed := by
    intro text member
    rcases List.mem_filterMap.1 member with ⟨call, asked, hands⟩
    exact
      (perform_hands legacy command).allowed_of_mem_calls handler state asked
        text hands
  executed := Store.executed_subset_attempted _

/-- Over any session with any store, a connector to a legacy server never asks
for what only modern servers have, gives away no privilege that only they
have, and hands over no statement about one. -/
theorem session_onLegacy
    (legacy : connector.generation = .legacy)
    (commands : List Command)
    (state : σ) :
    ∀ carried ∈ connector.session handler commands state,
      carried.OnLegacy :=
  connector.forall_mem_session handler (onLegacy_run legacy) commands state

end

/-- A store whose rows name privileges that only modern servers have. -/
def strayRows : Store.Memory :=
  { Store.Memory.everyScope with
    accounts :=
      [⟨"alice", "%", "user", "Select,Create Role"⟩, ⟨"dba", "%", "role", ""⟩] }

/-- A role is refused, as is a dynamic privilege, and only what a legacy server
knows is read off the rows. -/
theorem session_onLegacy_strayRows :
    let connector : Connector := ⟨{}, .legacy, ⟨"db", "5.7.44"⟩⟩
    let alice := "user:alice@%"
    let commands : List Command :=
      [.grants .user alice, .entitlements .server "server:db",
        .grant alice "entitlement:role_assignment:role:dba@%",
        .grant alice "entitlement:backup_admin:server:db",
        .grant alice "entitlement:select:database:shop"]
    let session :=
      connector.session Store.Memory.openHandler commands strayRows
    connector.generation = .legacy ∧
      log session = ["GRANT SELECT ON `shop`.* TO 'alice'@'%'"] ∧
        ∀ carried ∈ session, carried.OnLegacy := by
  intro connector alice commands session
  exact
    ⟨rfl, by decide +kernel, session_onLegacy rfl commands strayRows⟩

end Connector

end PrivilegeGraph
