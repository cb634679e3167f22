import Mathlib.Data.List.Forall2
import PrivilegeGraph.Connector.Command
import PrivilegeGraph.Proofs.Administration.Requests
import PrivilegeGraph.Proofs.Connector.Course
import PrivilegeGraph.Proofs.Reconciliation.Reading

/-!
# Sessions

A session carries commands out one after another against a store that may
fail at any call and change in any way in between.  Commands that read leave
the server as it is.  Each of the others is one statement or nothing: it is
refused without a trace, or succeeds with exactly one executed statement.  So
the log of a session is one statement for each change that succeeded.
-/

namespace PrivilegeGraph.Connector

open Program (Handler Run)
open Store (Reading Atomic AllOrNothing attempted executed)

/-- Whether a command is meant to change the server. -/
def Command.isMutation : Command → Bool
  | .grant _ _ => true
  | .revoke _ => true
  | .createAccount _ _ _ => true
  | .deleteAccount _ => true
  | _ => false

/-! ## Commands that read -/

section

variable {generation : Generation}

theorem during_reads
    {α : Type}
    {activity : Activity}
    {access : Store.Access α}
    (reads : Reading generation access) :
    Reading generation (during activity access) :=
  reads.mapError

theorem checked_reads
    {α : Type}
    (result : Except Error α) :
    Reading generation (checked result) := by
  cases result with
  | ok value => exact trivial
  | error error => exact trivial

theorem answers_reads : Reading generation answers := by
  have pings : Reading generation (Store.request .ping) :=
    Reading.request ⟨rfl, trivial⟩
  apply pings.outcome.bind
  intro pinged
  cases pinged with
  | ok reply => exact trivial
  | error error => exact trivial

theorem fetching_reads
    {α : Type}
    {activity : Activity}
    {read : Window → Store.Access (List α)}
    {build : α → Resource}
    (reads : ∀ window, Reading generation (read window))
    (request : PageRequest) :
    Reading generation (fetching activity read build request) := by
  have fetched : Reading generation (fetchPage request activity read) := by
    apply (checked_reads _).bind
    intro window
    apply (during_reads (reads window)).bind
    intro rows
    exact trivial
  exact fetched.bind fun page => trivial

theorem Course.reads
    {connector : Connector}
    {kind : Kind}
    {parent : Option ResourceId}
    {listing : PageRequest → Operation (Page Resource)}
    (course : connector.Course kind parent listing)
    (request : PageRequest) :
    Reading generation (listing request) := by
  cases course with
  | refused error => exact trivial
  | server => exact trivial
  | childless => exact trivial
  | databases named =>
      refine fetching_reads ?_ _
      exact fun _ => Reading.request ⟨rfl, trivial⟩
  | tables named kept =>
      refine fetching_reads ?_ _
      exact fun _ => Reading.request ⟨rfl, trivial⟩
  | columns named expanded =>
      refine fetching_reads ?_ _
      exact fun _ => Reading.request ⟨rfl, trivial⟩
  | routines named kept =>
      refine fetching_reads ?_ _
      exact fun _ => Reading.request ⟨rfl, trivial⟩
  | accounts kind own =>
      refine fetching_reads ?_ _
      exact fun _ => Reading.request ⟨rfl, trivial⟩

end

section

variable (connector : Connector)

theorem entitlements_reads (id : String) :
    Reading connector.generation (connector.entitlements id) := by
  apply (checked_reads _).bind
  intro resource
  exact trivial

theorem grants_reads
    (kind : Kind)
    (id : String) :
    Reading connector.generation (connector.grants kind id) := by
  have ofAccount :
      Reading connector.generation (connector.accountGrants id) := by
    apply (checked_reads _).bind
    intro principal
    exact during_reads (connector.reconciliation.grantsHeldBy_reads principal)
  cases kind with
  | user => exact ofAccount
  | role => exact ofAccount
  | _ => exact trivial

theorem perform_reads
    {command : Command}
    (reads : command.isMutation = false) :
    Reading connector.generation (connector.perform command) := by
  cases command with
  | check => exact answers_reads
  | describe => exact trivial
  | list kind parent request =>
      exact (connector.course_list parent kind).reads request
  | entitlements kind id => exact connector.entitlements_reads id
  | grants kind id => exact connector.grants_reads kind id
  | grant principalId entitlementId => cases reads
  | revoke grantId => cases reads
  | createAccount profile request draws => cases reads
  | deleteAccount id => cases reads

end

/-! ## Commands that change the server -/

section

variable {generation : Generation}

theorem createUser_atomic
    (account : Account)
    (password : String) :
    Atomic generation (Administration.createUser account password) := by
  rw [Administration.createUser]
  cases Sql.Grantee.ofAccount account with
  | error error => exact .refused error
  | ok grantee =>
      exact
        (Administration.execute_atomic
          (Sql.Statement.createUser grantee password).text).bind_settled
            fun _ => rfl

theorem dropUser_atomic (account : Account) :
    Atomic generation (Administration.dropUser account) := by
  rw [Administration.dropUser]
  cases Sql.Grantee.ofAccount account with
  | error error => exact .refused error
  | ok grantee => exact Administration.apply_atomic (.dropUser grantee)

theorem createAccount_atomic
    (connector : Connector)
    (profile : List (String × String))
    (request : Password.Request)
    (draws : Password.Draws) :
    Atomic generation (connector.createAccount profile request draws) := by
  apply Atomic.bind_reads (checked_reads (usernameOf profile))
  intro name
  apply Atomic.bind_reads (checked_reads (Password.generate request draws))
  intro password
  exact
    (createUser_atomic ⟨name, connector.settings.accountHost⟩
      password).mapError.bind_settled fun _ => rfl

theorem deleteAccount_atomic (id : String) :
    Atomic generation (deleteAccount id) := by
  apply Atomic.bind_reads (checked_reads (userAccount id))
  intro account
  exact (dropUser_atomic account).mapError

end

theorem perform_atomic
    (connector : Connector)
    {command : Command}
    (changes : command.isMutation = true) :
    Atomic connector.generation (connector.perform command) := by
  cases command with
  | grant principalId entitlementId =>
      exact
        ((Administration.Request.grant principalId
            entitlementId).carryOut_atomic connector.generation).mapError
  | revoke grantId =>
      exact
        ((Administration.Request.revoke grantId).carryOut_atomic
          connector.generation).mapError
  | createAccount profile request draws =>
      exact connector.createAccount_atomic profile request draws
  | deleteAccount id => exact deleteAccount_atomic id
  | _ => cases changes

/-- No command asks for what servers of the connector's generation do not
have. -/
theorem perform_suits
    (connector : Connector)
    (command : Command) :
    (connector.perform command).Confined
      (Store.Call.Suits connector.generation) fun _ => True := by
  cases changes : command.isMutation with
  | false =>
      exact
        (connector.perform_reads changes).weaken (fun _ reads => reads.2)
          fun _ _ => trivial
  | true => exact (connector.perform_atomic changes).suits

/-! ## Sessions -/

/-- A command and the run that it was carried out by. -/
structure Carried (σ : Type) where
  command : Command
  run : Run Store.interface σ Failure command.Reply

namespace Carried

variable {σ : Type}

/-- Whether a command was meant to change the server and succeeded. -/
def changed (carried : Carried σ) : Bool :=
  carried.command.isMutation && carried.run.result.isOk

end Carried

section

variable
    {σ : Type}
    (connector : Connector)
    (handler : Handler Store.interface σ)

/-- Carry out commands one after another, each from the state that the one
before it left. -/
def session : List Command → σ → List (Carried σ)
  | [], _ => []
  | command :: rest, state =>
      let run := (connector.perform command).run handler state
      ⟨command, run⟩ :: session rest run.state

/-- The statements that a session executed, in order. -/
def log (session : List (Carried σ)) : List String :=
  session.flatMap fun carried => executed carried.run

/-- Whether a command kept to its own: it handed over at most one statement;
if it was meant to change the server it succeeded exactly when it handed one
over that was executed, and was refused without a trace otherwise; if it was
not, it handed none over. -/
structure Carried.Sound (carried : Carried σ) : Prop where
  once : (attempted carried.run).length ≤ 1
  succeeds_iff :
    carried.command.isMutation = true →
      (carried.run.result.isOk = true ↔
        ∃ statement,
          attempted carried.run = [statement] ∧
            executed carried.run = [statement])
  refused : carried.run.result.isOk = false → executed carried.run = []
  reads :
    carried.command.isMutation = false →
      attempted carried.run = [] ∧ executed carried.run = []

/-- Every command keeps to its own, from whatever state it is carried out. -/
theorem sound_run
    (command : Command)
    (state : σ) :
    Carried.Sound
      ⟨command, (connector.perform command).run handler state⟩ := by
  cases changes : command.isMutation with
  | false =>
      have reads := (connector.perform_reads changes).isRead
      have none := Store.attempted_eq_nil reads handler state
      have nothing := Store.executed_eq_nil reads handler state
      exact {
        once := by simp [none]
        succeeds_iff := by
          intro mutation
          rw [changes] at mutation
          cases mutation
        refused := fun _ => nothing
        reads := fun _ => ⟨none, nothing⟩ }
  | true =>
      have atomic := connector.perform_atomic changes
      have noRead : command.isMutation ≠ false := by simp [changes]
      rcases atomic.allOrNothing handler state with
        ⟨fails, nothing, once⟩ | ⟨statement, succeeds, one, tried⟩
      · exact {
          once := once
          succeeds_iff := by
            intro _
            constructor
            · intro succeeds
              rw [fails] at succeeds
              cases succeeds
            · rintro ⟨statement, _, one⟩
              rw [nothing] at one
              cases one
          refused := fun _ => nothing
          reads := fun reads => absurd reads noRead }
      · exact {
          once := by simp [tried]
          succeeds_iff := fun _ =>
            ⟨fun _ => ⟨statement, tried, one⟩, fun _ => succeeds⟩
          refused := by
            intro fails
            rw [succeeds] at fails
            cases fails
          reads := fun reads => absurd reads noRead }

/-- What every command keeps, from whatever state it is carried out, holds all
through a session. -/
theorem forall_mem_session
    {property : Carried σ → Prop}
    (each :
      ∀ command state,
        property ⟨command, (connector.perform command).run handler state⟩)
    (commands : List Command)
    (state : σ) :
    ∀ carried ∈ connector.session handler commands state,
      property carried := by
  induction commands generalizing state with
  | nil => exact fun _ member => absurd member List.not_mem_nil
  | cons command rest ih =>
      exact List.forall_mem_cons.2 ⟨each command state, ih _⟩

theorem executed_eq_nil_of_not_changed
    {carried : Carried σ}
    (sound : carried.Sound)
    (unchanged : carried.changed = false) :
    executed carried.run = [] := by
  cases mutation : carried.command.isMutation with
  | false => exact (sound.reads mutation).2
  | true =>
      apply sound.refused
      simpa [Carried.changed, mutation] using unchanged

theorem exists_executed_of_changed
    {carried : Carried σ}
    (sound : carried.Sound)
    (changed : carried.changed = true) :
    ∃ statement, executed carried.run = [statement] := by
  simp only [Carried.changed, Bool.and_eq_true] at changed
  rcases (sound.succeeds_iff changed.1).1 changed.2 with
    ⟨statement, _, one⟩
  exact ⟨statement, one⟩

/-- The log of commands that keep to their own has one statement for each
change that succeeded, in their order. -/
theorem log_of_sound
    {carried : List (Carried σ)}
    (sound : ∀ each ∈ carried, each.Sound) :
    List.Forall₂ (fun statement each => executed each.run = [statement])
      (log carried) (carried.filter Carried.changed) := by
  induction carried with
  | nil => exact .nil
  | cons first rest ih =>
      have others := ih fun each member =>
        sound each (List.mem_cons_of_mem first member)
      have firstSound := sound first List.mem_cons_self
      cases changed : first.changed with
      | false =>
          have nothing := executed_eq_nil_of_not_changed firstSound changed
          simpa [log, changed, nothing] using others
      | true =>
          rcases exists_executed_of_changed firstSound changed with
            ⟨statement, one⟩
          have whole :
              List.Forall₂
                (fun statement each => executed each.run = [statement])
                (statement :: log rest)
                (first :: rest.filter Carried.changed) :=
            .cons one others
          simpa [log, changed, one] using whole

/-- Over any session with any store every command is one statement or nothing,
and the log is one statement for each change that succeeded. -/
theorem session_all_or_nothing
    (commands : List Command)
    (state : σ) :
    (∀ carried ∈ connector.session handler commands state,
        carried.Sound) ∧
      List.Forall₂
        (fun statement carried => executed carried.run = [statement])
        (log (connector.session handler commands state))
        ((connector.session handler commands state).filter
          Carried.changed) := by
  have sound :
      ∀ carried ∈ connector.session handler commands state,
        carried.Sound :=
    connector.forall_mem_session handler (connector.sound_run handler)
      commands state
  exact ⟨sound, log_of_sound sound⟩

end

end PrivilegeGraph.Connector
