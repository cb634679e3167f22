import PrivilegeGraph.Proofs.Reconciliation.Exactness
import PrivilegeGraph.Proofs.Store.Script

/-!
# The reads of a reconciliation

Which reads rebuild the grants of a principal depends on what earlier reads
found: on the row of the account itself, on the accounts that its proxy rows
and its role edges refer to, and on the generation of the server.  The reads
are written here as a script, scope after scope and host after host.
Rebuilding follows the script.  So it ends well exactly when every read of the
script does, and then with all grants, of which a missing account takes away
only what its own row would have added; and the first read that fails is the
last one that is made, and its fault is the whole result.
-/

namespace PrivilegeGraph.Reconciliation

open Program (Handler)
open Store (AccountKind Access Answers Call Conducts Follows Repeats View)

/-! ## The script -/

section

variable
    (view : View)
    (reconciliation : Reconciliation)
    (account : Account)

/-- A modern server has dynamic privileges, which are read for an account's
row. -/
def dynamicScript (row : Store.AccountRow) : List Call :=
  match reconciliation.generation with
  | .legacy => []
  | .modern => [.globalGrants row.user row.host]

/-- The account is looked up, and if it is found, so are its dynamic
privileges. -/
def serverScript : List Call :=
  .getAccount account.name account.host ::
    match view.getAccount account.name account.host with
    | none => []
    | some row => dynamicScript reconciliation row

/-- The account of each proxy row is looked up, unless the row is about the
account itself or about every account. -/
def proxyScript : List Call :=
  .proxyGrants account.name account.host ::
    ((view.proxyGrants account.name account.host).filter fun row =>
        ¬(row.proxiedUser = row.user ∧ row.proxiedHost = row.host) ∧
          ¬(row.proxiedUser = "" ∧ row.proxiedHost = "")).map
      fun row => .getAccount row.proxiedUser row.proxiedHost

/-- On a modern server the role of each edge is looked up, unless the edge
leads from an account to itself. -/
def roleScript : List Call :=
  match reconciliation.generation with
  | .legacy => []
  | .modern =>
      .roleEdges account.name account.host ::
        ((view.roleEdges account.name account.host).filter fun edge =>
            ¬(edge.fromUser = edge.toUser ∧
              edge.fromHost = edge.toHost)).map
          fun edge => .getAccount edge.fromUser edge.fromHost

/-- The reads about an account on one host. -/
def hostScript : List Call :=
  serverScript view reconciliation account ++
    .databaseGrants account.name account.host ::
      .tableGrants account.name account.host ::
        .columnGrants account.name account.host ::
          (proxyScript view account ++
            roleScript view reconciliation account)

/-- The reads about an account, host after host. -/
def script : List Call :=
  account.expanded.flatMap (hostScript view reconciliation)

end

/-! ## What each scope reads -/

section

variable
    {answers : Answers}
    {reconciliation : Reconciliation}

/-- Rows are read, and what is gathered from them follows its own script. -/
theorem follows_gathered
    {ρ : Type}
    {rows : Access (List ρ)}
    {found : List ρ}
    {rightsIn : ρ → Access (List Right)}
    {call : Call}
    {others : List Call}
    (read : Follows answers (· = found) rows [call])
    (gathers :
      Follows answers (fun _ => True) (Program.collect rightsIn found)
        others) :
    Follows answers (fun _ => True) (gathered rows rightsIn)
      (call :: others) := by
  apply read.bind
  rintro rows rfl
  apply gathers.andThen
  intro rights _
  exact Follows.pure trivial

theorem follows_lookUp
    (purpose : LookupPurpose)
    (user host : String) :
    Follows answers (· = answers.view.getAccount user host)
      (lookUp purpose user host) [.getAccount user host] := by
  have read :
      Follows answers (· = answers.view.getAccount user host)
        (Store.request (.getAccount user host)) [.getAccount user host] :=
    Follows.request rfl
  apply read.andThen
  rintro found rfl
  cases found : answers.view.getAccount user host with
  | none => exact ⟨rfl, rfl⟩
  | some row => exact ⟨rfl, rfl⟩

/-- What an account that is looked up is taken for asks nothing more. -/
theorem follows_ofFound
    {rightsIn : Store.AccountRow → List Right}
    (purpose : LookupPurpose)
    (user host : String) :
    Follows answers (fun _ => True)
      (lookUp purpose user host >>= fun found =>
        match found with
        | none => pure []
        | some row => pure (rightsIn row))
      [.getAccount user host] := by
  apply (follows_lookUp purpose user host).andThen
  intro found _
  cases found with
  | none => exact Follows.pure trivial
  | some row => exact Follows.pure trivial

theorem follows_unlessSkipped
    (database : String)
    (rights : List Right) :
    Follows answers (fun _ => True)
      (reconciliation.unlessSkipped database rights) [] := by
  rw [unlessSkipped]
  split
  · exact (Follows.report _).andThen fun _ _ => Follows.pure trivial
  · exact Follows.pure trivial

/-- Of rows with comma lists only the rows themselves are read. -/
theorem follows_listedRights
    {ρ : Type}
    {rows : Access (List ρ)}
    {found : List ρ}
    {databaseOf listOf : ρ → String}
    {resourceOf : ρ → Identity}
    {call : Call}
    (read : Follows answers (· = found) rows [call]) :
    Follows answers (fun _ => True)
      (reconciliation.listedRights rows databaseOf resourceOf listOf)
      [call] :=
  follows_gathered read
    (Follows.collect_silent (fun _ => follows_unlessSkipped _ _) _)

variable (account : Account)

theorem follows_databaseRights :
    Follows answers (fun _ => True) (reconciliation.databaseRights account)
      [.databaseGrants account.name account.host] :=
  follows_listedRights (Follows.request rfl)

theorem follows_tableRights :
    Follows answers (fun _ => True) (reconciliation.tableRights account)
      [.tableGrants account.name account.host] :=
  follows_listedRights (Follows.request rfl)

theorem follows_columnRights :
    Follows answers (fun _ => True) (reconciliation.columnRights account)
      [.columnGrants account.name account.host] :=
  follows_listedRights (Follows.request rfl)

theorem follows_dynamicRights (row : Store.AccountRow) :
    Follows answers (fun _ => True) (reconciliation.dynamicRights row)
      (dynamicScript reconciliation row) := by
  unfold dynamicRights dynamicScript
  cases reconciliation.generation with
  | legacy => exact Follows.pure trivial
  | modern =>
      have read :
          Follows answers (· = answers.view.globalGrants row.user row.host)
            (Store.request (.globalGrants row.user row.host))
            [.globalGrants row.user row.host] :=
        Follows.request rfl
      exact read.andThen fun _ _ => Follows.pure trivial

theorem follows_serverRights :
    Follows answers (fun _ => True) (reconciliation.serverRights account)
      (serverScript answers.view reconciliation account) := by
  apply (follows_lookUp _ _ _).bind
  rintro found rfl
  cases answers.view.getAccount account.name account.host with
  | none => exact Follows.pure trivial
  | some row =>
      exact (follows_dynamicRights row).andThen fun _ _ =>
        Follows.pure trivial

theorem follows_proxyRights :
    Follows answers (fun _ => True) (reconciliation.proxyRights account)
      (proxyScript answers.view account) := by
  refine follows_gathered (Follows.request rfl)
    (Follows.collect_where ?_ ?_ _)
  · intro row wanted
    rcases of_decide_eq_true wanted with ⟨other, one⟩
    rw [proxyRowRights, if_neg other, if_neg one]
    exact follows_ofFound _ _ _
  · intro row unwanted
    rw [proxyRowRights]
    split
    · exact Follows.pure trivial
    · next other =>
      split
      · exact Follows.pure trivial
      · next one => exact absurd ⟨other, one⟩ (of_decide_eq_false unwanted)

theorem follows_roleRights :
    Follows answers (fun _ => True) (reconciliation.roleRights account)
      (roleScript answers.view reconciliation account) := by
  unfold roleRights roleScript
  cases reconciliation.generation with
  | legacy => exact Follows.pure trivial
  | modern =>
      refine follows_gathered (Follows.request rfl)
        (Follows.collect_where ?_ ?_ _)
      · intro edge wanted
        rw [roleEdgeRights, if_neg (of_decide_eq_true wanted)]
        exact follows_ofFound _ _ _
      · intro edge unwanted
        rw [roleEdgeRights, if_pos (not_not.1 (of_decide_eq_false unwanted))]
        exact Follows.pure trivial

/-- What is read about an account on one host. -/
theorem follows_rightsOf :
    Follows answers (fun _ => True) (reconciliation.rightsOf account)
      (hostScript answers.view reconciliation account) := by
  apply (Follows.report _).bind
  intro _ _
  apply (follows_serverRights account).bind
  intro _ _
  apply (follows_databaseRights account).bind
  intro _ _
  apply (follows_tableRights account).bind
  intro _ _
  apply (follows_columnRights account).bind
  intro _ _
  apply (follows_proxyRights account).bind
  intro _ _
  apply (follows_roleRights account).andThen
  intro _ _
  exact Follows.pure trivial

theorem follows_keepKnown (rights : List Right) :
    Follows answers (fun _ => True) (reconciliation.keepKnown rights) [] := by
  induction rights with
  | nil => exact Follows.pure trivial
  | cons right rest ih =>
      rw [keepKnown]
      split
      · exact ih.andThen fun _ _ => Follows.pure trivial
      · exact ih

/-- What is read about a principal. -/
theorem follows_grantsHeldBy
    {principal : Identity}
    {account : Account}
    (named : principal.account? = some account) :
    Follows answers (fun _ => True) (reconciliation.grantsHeldBy principal)
      (script answers.view reconciliation account) := by
  rw [grantsHeldBy, named]
  apply (Follows.collect follows_rightsOf _).andThen
  intro found _
  apply (follows_keepKnown _).andThen
  intro known _
  exact Follows.pure trivial

end

/-! ## All or nothing -/

/-- Against any store that always gives one read one answer, the grants of a
user or role are rebuilt by the reads of the script in its order.  All of them
are made when none fails, and then the result is every grant that the grant
tables and the catalog say the principal has, where an account that is not
found is no error and adds nothing.  Otherwise the reads end with the first
that fails, and its fault is the result. -/
theorem grantsHeldBy_all_or_nothing
    {σ : Type}
    {handler : Handler Store.interface σ}
    {answers : σ → Answers}
    (repeats : Repeats handler answers)
    (reconciliation : Reconciliation)
    (kind : AccountKind)
    (account : Account)
    (state : σ) :
    Conducts (answers state)
        (script (answers state).view reconciliation account)
        ((reconciliation.grantsHeldBy (kind.identity account)).run handler
          state) ∧
      ((∀ call ∈ script (answers state).view reconciliation account,
          (answers state call).isOk = true) →
        ∃ grants,
          ((reconciliation.grantsHeldBy (kind.identity account)).run handler
                state).result =
              .ok grants ∧
            IsExact (answers state).view reconciliation
              (kind.identity account) account grants) := by
  have named := AccountKind.account?_identity kind account
  have follows :
      Follows (answers state) (fun _ => True)
        (reconciliation.grantsHeldBy (kind.identity account))
        (script (answers state).view reconciliation account) :=
    follows_grantsHeldBy named
  refine ⟨follows.conducts repeats, ?_⟩
  intro succeed
  have exactly :=
    follows.of_gives
      (fun call among => Answers.eq_ok_view (succeed call among))
      (gives_grantsHeldBy named)
  rcases exactly.run_ok repeats succeed with ⟨grants, ended, holds, _⟩
  exact ⟨grants, ended, holds⟩

/-- A host without an account of its own is read all the same, and the read
that fails is the last, so that the other host is not reached. -/
theorem grantsHeldBy_stops_at_tables :
    let memory : Store.Memory :=
      { Store.Memory.everyScope with
        closed := fun call => call = .tableGrants "alice" "localhost" }
    let reconciliation : Reconciliation := ⟨{}, .legacy, .server "db"⟩
    let run :=
      (reconciliation.grantsHeldBy (.user ⟨"alice", "localhost,%"⟩)).run
        Store.Memory.handler memory
    Repeats Store.Memory.handler Store.Memory.answer ∧
      run.calls =
          [.getAccount "alice" "localhost", .databaseGrants "alice" "localhost",
            .tableGrants "alice" "localhost"] ∧
        run.result = .error (.storage .closedPool) := by
  intro memory reconciliation run
  have conducted :=
    (grantsHeldBy_all_or_nothing Store.Memory.repeats_handler reconciliation
      .user ⟨"alice", "localhost,%"⟩ memory).1
  refine ⟨Store.Memory.repeats_handler, ?_⟩
  exact
    conducted.stops
      [.getAccount "alice" "localhost", .databaseGrants "alice" "localhost"]
      (.tableGrants "alice" "localhost") _ .closedPool rfl
      (by decide +kernel) rfl

end PrivilegeGraph.Reconciliation
