import PrivilegeGraph.Proofs.Administration.Revocation
import PrivilegeGraph.Proofs.Reconciliation.Places

/-!
# Observed grants can be revoked

What reading grants finds and what revoking accepts are described apart.
Here they are shown to agree: as far as names pass their allow-lists, every
right that the grant tables say an account has is one that can be taken back
from it.
-/

namespace PrivilegeGraph.Reconciliation

open Sql
open Store (AnswersFrom Gives View attempted executed)

/-- Whether the names in an account's rows pass their allow-lists, and so do
the accounts that its proxy rows and role edges are resolved to. -/
structure NamesAllowed
    (view : View)
    (generation : Generation)
    (account : Account) : Prop where
  databases :
    ∀ row ∈ view.databaseGrants account.name account.host,
      isAllowed isIdentChar row.database = true
  tables :
    ∀ row ∈ view.tableGrants account.name account.host,
      ∀ name ∈ [row.schema, row.name], isAllowed isIdentChar name = true
  columns :
    ∀ row ∈ view.columnGrants account.name account.host,
      ∀ name ∈ [row.schema, row.owner, row.name],
        isAllowed isIdentChar name = true
  proxies :
    ∀ row ∈ view.proxyGrants account.name account.host,
      ¬(row.proxiedUser = row.user ∧ row.proxiedHost = row.host) →
        ¬(row.proxiedUser = "" ∧ row.proxiedHost = "") →
          ∀ target ∈ view.getAccount row.proxiedUser row.proxiedHost,
            target.account.Allowed
  roles :
    generation = .modern →
      ∀ edge ∈ view.roleEdges account.name account.host,
        ¬(edge.fromUser = edge.toUser ∧ edge.fromHost = edge.toHost) →
          ∀ role ∈ view.getAccount edge.fromUser edge.fromHost,
            role.account.Allowed

theorem isHostOf_iff_of_allowed
    {account : Account}
    (allowed : account.Allowed)
    {host : String} :
    IsHostOf account host ↔ host = account.host := by
  have single : Text.pieces ',' account.host = [account.host] :=
    Text.pieces_singleton (not_mem_of_isAllowed allowed.2 (by decide))
  have kept := trimmed_of_isAllowed allowed.2
  have present := ne_empty_of_isAllowed allowed.2
  constructor
  · rintro ⟨_, piece, cut, rfl⟩
    rw [single, List.mem_singleton] at cut
    rw [cut, kept]
  · rintro rfl
    exact ⟨present, account.host, by simp [single], kept.symm⟩

theorem addressable_of_row
    {row : Store.AccountRow}
    (allowed : row.account.Allowed) :
    row.identity.Addressable ∧ row.identity.kind ≠ .routine := by
  rw [Store.AccountRow.identity]
  cases row.accountKind with
  | user => exact ⟨allowed, nofun⟩
  | role => exact ⟨allowed, nofun⟩

/-- What the grant tables say an account has lies on addressable resources,
none of which is a routine. -/
theorem addressable_of_holds
    {view : View}
    {reconciliation : Reconciliation}
    {account : Account}
    {right : Right}
    (server :
      reconciliation.server.Addressable ∧
        reconciliation.server.kind ≠ .routine)
    (names : NamesAllowed view reconciliation.generation account)
    (holds : Holds view reconciliation account right) :
    right.resource.Addressable ∧ right.resource.kind ≠ .routine := by
  have place := holds.place
  generalize right.resource = resource at place
  cases place with
  | server => exact server
  | database member => exact ⟨names.databases _ member, nofun⟩
  | table member => exact ⟨names.tables _ member, nofun⟩
  | column member => exact ⟨names.columns _ member, nofun⟩
  | @tableOfColumn row member =>
      refine ⟨?_, nofun⟩
      intro name inTable
      exact
        names.columns row member name (List.mem_append_left [row.name] inTable)
  | proxied member other someone found =>
      exact addressable_of_row (names.proxies _ member other someone _ found)
  | role modern member other found =>
      exact addressable_of_row (names.roles modern _ member other _ found)

/-- Against a store that answers every read and executes every statement,
each grant that is found of a user can be revoked by its id, at any time: this
hands over one statement, which takes that grant's privilege on that grant's
resource back from that user. -/
theorem grants_revocable
    {σ : Type}
    {handler : Program.Handler Store.interface σ}
    {views : σ → View}
    (answers : AnswersFrom handler views)
    (executes :
      ∀ statement state, (handler (.execute statement) state).1 = .ok ())
    (settings : Settings)
    (generation : Generation)
    {hostname : String}
    (present : hostname ≠ "")
    (free : ':' ∉ hostname.toList)
    {account : Account}
    (allowed : account.Allowed)
    (state : σ)
    (names : NamesAllowed (views state) generation account) :
    ∃ grants,
      ((grantsHeldBy ⟨settings, generation, .server hostname⟩
              (.user account)).run handler state).result =
          .ok grants ∧
        ∀ grant ∈ grants, ∃ right entry statement,
          grant = Grant.ofRight right (.user account) ∧
            Catalog.lookup? right.resource.kind right.privilege generation =
              some entry ∧
            Administration.Revokes entry account right.resource statement ∧
            ∀ later,
              let run :=
                (Administration.revoke generation grant.id).run handler later
              run.result = .ok () ∧ attempted run = [statement] ∧
                executed run = [statement] := by
  have found :
      Gives (views state)
        (IsExact (views state) ⟨settings, generation, .server hostname⟩
          (.user account) account)
        (grantsHeldBy ⟨settings, generation, .server hostname⟩
          (.user account)) :=
    gives_grantsHeldBy rfl
  rcases Gives.run answers state found with
    ⟨grants, ended, ⟨rights, rfl, exactly⟩, _⟩
  refine ⟨_, ended, ?_⟩
  intro grant member
  rcases List.mem_map.1 member with ⟨right, held, rfl⟩
  rcases (exactly right).1 held with ⟨known, host, isHost, holds⟩
  have same := (isHostOf_iff_of_allowed allowed).1 isHost
  rw [same] at holds
  have server :
      (Identity.server hostname).Addressable ∧
        (Identity.server hostname).kind ≠ .routine :=
    ⟨⟨present, free⟩, nofun⟩
  rcases addressable_of_holds server names holds with
    ⟨addressable, settled⟩
  rcases Option.isSome_iff_exists.1 (isKnown_iff.2 known) with
    ⟨entry, listed⟩
  rcases
      Administration.run_revoke executes listed addressable settled allowed with
    ⟨statement, revokes, runs⟩
  exact ⟨right, entry, statement, rfl, listed, revokes, runs⟩

theorem namesAllowed_everyScope :
    NamesAllowed Store.Memory.everyScope.reply .modern ⟨"alice", "%"⟩ where
  databases := by decide
  tables := by decide
  columns := by decide
  proxies := by decide
  roles := by decide

theorem grants_revocable_everyScope :
    let account : Account := ⟨"alice", "%"⟩
    NamesAllowed Store.Memory.everyScope.reply .modern account ∧
      ∃ grants,
        ((grantsHeldBy ⟨{}, .modern, .server "db"⟩ (.user account)).run
              Store.Memory.openHandler Store.Memory.everyScope).result =
            .ok grants ∧
          ∀ grant ∈ grants, ∃ right entry statement,
            grant = Grant.ofRight right (.user account) ∧
              Catalog.lookup? right.resource.kind right.privilege .modern =
                some entry ∧
              Administration.Revokes entry account right.resource
                statement ∧
              ∀ later,
                let run :=
                  (Administration.revoke .modern grant.id).run
                    Store.Memory.openHandler later
                run.result = .ok () ∧ attempted run = [statement] ∧
                  executed run = [statement] :=
  ⟨namesAllowed_everyScope,
    grants_revocable Store.Memory.answersFrom_openHandler
      (fun _ _ => rfl) {} .modern (by decide) (by decide) (by decide)
      Store.Memory.everyScope namesAllowed_everyScope⟩

end PrivilegeGraph.Reconciliation
