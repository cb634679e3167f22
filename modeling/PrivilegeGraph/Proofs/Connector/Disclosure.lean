import PrivilegeGraph.Proofs.Connector.Provisioning
import PrivilegeGraph.Sql.Client

/-!
# What a log tells of passwords

While an account is created, a connector reports the account and nothing of
its password: over any store, two runs with different draws differ in what
they report only if one of them fails.  The client that serves the store
reports the text of every statement before it is sent, and so the password
with it.
-/

namespace PrivilegeGraph.Connector

open Program (Handler Run)
open Sql (readTokens?)

/-- The records that a run leaves in a log of every level, in order. -/
def records
    {I : Interface}
    {σ ε α : Type}
    (run : Run I σ ε α) :
    List Record :=
  run.events.map Event.record

section

variable
    {σ : Type}
    (connector : Connector)
    (handler : Handler Store.interface σ)
    (profile : List (String × String))
    (request : Password.Request)

/-! ## Over any store -/

/-- Either nothing was created and nothing reported, or an account was, and
only its name and host. -/
theorem events_createAccount
    (draws : Password.Draws)
    (state : σ) :
    let run := (connector.createAccount profile request draws).run handler state
    (run.result.isOk = false ∧ run.events = []) ∨
      run.result.isOk = true ∧
        ∃ account password,
          connector.Provides profile request draws account password ∧
            run.events = [.createdUser account] := by
  by_cases provided :
      ∃ account password,
        connector.Provides profile request draws account password
  · rcases provided with ⟨account, password, provides⟩
    rw [createAccount_eq_ask provides]
    simp only [Program.run, Run.events]
    cases (handler (.execute (creationText account password)) state).1 with
    | ok reply => exact Or.inr ⟨rfl, account, password, provides, rfl⟩
    | error fault => exact Or.inl ⟨rfl, rfl⟩
  · rcases createAccount_eq_fail provided with ⟨failure, fails⟩
    rw [fails]
    exact Or.inl ⟨rfl, rfl⟩

/-- What is reported over a store tells whether the account was created, and
nothing else that depends on the draws. -/
theorem records_createAccount_eq_iff
    (draws draws' : Password.Draws)
    (state state' : σ) :
    let run := (connector.createAccount profile request draws).run handler state
    let run' :=
      (connector.createAccount profile request draws').run handler state'
    records run = records run' ↔ run.result.isOk = run'.result.isOk := by
  intro run run'
  rcases connector.events_createAccount handler profile request draws state with
    ⟨failed, none⟩ | ⟨succeeded, account, password, provides, one⟩
  · rcases connector.events_createAccount handler profile request draws' state'
      with ⟨failed', none'⟩ | ⟨succeeded', account', password', _, one'⟩
    · simp only [run, run', records, failed, failed', none, none']
    · simp [run, run', records, failed, succeeded', none, one']
  · rcases connector.events_createAccount handler profile request draws' state'
      with ⟨failed', none'⟩ | ⟨succeeded', account', password', provides', one'⟩
    · simp [run, run', records, succeeded, failed', one, none']
    · have same := account_eq_of_provides provides provides'
      simp only [run, run', records, succeeded, succeeded', one, one', same]

end

/-! ## Over a server -/

section

variable
    {τ : Type}
    {connector : Connector}
    {profile : List (String × String)}
    {request : Password.Request}
    {draws draws' : Password.Draws}
    {account account' : Account}
    {password password' : String}

/-- Creating an account on a server, through the client that serves the
store. -/
def createOnServer
    (connector : Connector)
    (profile : List (String × String))
    (request : Password.Request)
    (draws : Password.Draws) :
    Program Sql.interface Failure CreatedAccount :=
  (connector.createAccount profile request draws).through
    (Sql.Client.serve connector.generation)

theorem createOnServer_eq
    (provides : connector.Provides profile request draws account password) :
    connector.createOnServer profile request draws =
      .note (.executing (creationText account password))
        (.ask ⟨creationText account password, none⟩ fun
          | .ok _ =>
              .note (.createdUser account)
                (.done
                  (.ok
                    ⟨Resource.ofAccount (.user account)
                      connector.serverIdentity.resourceId, password⟩))
          | .error reason =>
              .done
                (.error
                  ⟨some (.createUser account),
                    .storage (.refused reason)⟩)) := by
  rw [createOnServer, createAccount_eq_ask provides]
  refine
    congrArg (Program.note _) (congrArg (Program.ask (I := Sql.interface) _) ?_)
  funext answer
  cases answer with
  | ok result => rfl
  | error reason => rfl

theorem records_createOnServer
    (provides : connector.Provides profile request draws account password)
    (server : Handler Sql.interface τ)
    (state : τ) :
    let run := (connector.createOnServer profile request draws).run server state
    records run =
      (Event.executing (creationText account password)).record ::
        if run.result.isOk then [(Event.createdUser account).record]
        else [] := by
  rw [createOnServer_eq provides]
  rcases answered : server ⟨creationText account password, none⟩ state with
    ⟨answer, after⟩
  simp only [Program.run, answered]
  cases answer with
  | ok result => rfl
  | error reason => rfl

theorem creationText_injective
    (same : creationText account password = creationText account password') :
    password = password' := by
  have quoted : Sql.quoted password = Sql.quoted password' := by
    simpa [creationText] using same
  apply Option.some.inj
  rw [← Sql.literalValue?_quoted password, quoted, Sql.literalValue?_quoted]

/-- What is logged over a server tells the passwords of two accounts that are
created apart. -/
theorem records_createOnServer_eq_iff
    (provides : connector.Provides profile request draws account password)
    (provides' : connector.Provides profile request draws' account' password')
    (server : Handler Sql.interface τ)
    (state state' : τ) :
    let run := (connector.createOnServer profile request draws).run server state
    let run' :=
      (connector.createOnServer profile request draws').run server state'
    records run = records run' ↔
      password = password' ∧ run.result.isOk = run'.result.isOk := by
  intro run run'
  cases account_eq_of_provides provides provides'
  have whole := records_createOnServer provides server state
  have whole' := records_createOnServer provides' server state'
  constructor
  · intro same
    rw [whole, whole', List.cons.injEq] at same
    rcases same with ⟨statement, rest⟩
    have text :
        creationText account password = creationText account password' := by
      simpa [Event.record] using statement
    refine ⟨creationText_injective text, ?_⟩
    show run.result.isOk = run'.result.isOk
    cases ok : run.result.isOk <;> cases ok' : run'.result.isOk <;>
      simp [run, run', ok, ok'] at rest ⊢
  · rintro ⟨rfl, ok⟩
    rw [whole, whole', ok]

end

/-- A connector logs nothing of the password of an account that it creates:
over any store, what it logs for two choices of draws differs only if one of
the two fails.  The client that serves the store on a server logs the
statement as well, so that what is logged there for two choices of draws is
the same only if the passwords are. -/
theorem passwords_logged_by_client_only
    (connector : Connector)
    (profile : List (String × String))
    (request : Password.Request)
    (draws draws' : Password.Draws) :
    (∀ (σ : Type) (handler : Handler Store.interface σ) (state state' : σ),
        let run :=
          (connector.createAccount profile request draws).run handler state
        let run' :=
          (connector.createAccount profile request draws').run handler state'
        records run = records run' ↔ run.result.isOk = run'.result.isOk) ∧
      ∀ account password account' password',
        connector.Provides profile request draws account password →
          connector.Provides profile request draws' account' password' →
            ∀ (τ : Type) (server : Handler Sql.interface τ) (state state' : τ),
              let run :=
                (connector.createOnServer profile request draws).run server
                  state
              let run' :=
                (connector.createOnServer profile request draws').run server
                  state'
              records run = records run' ↔
                password = password' ∧
                  run.result.isOk = run'.result.isOk := by
  constructor
  · intro σ handler
    exact
      connector.records_createAccount_eq_iff handler profile request draws
        draws'
  · intro account password account' password' provides provides' τ
    exact records_createOnServer_eq_iff provides provides'

/-- Two choices of draws for which the password is made in the first block, on
a server that executes every statement. -/
theorem passwords_told_apart_in_log :
    let connector : Connector := ⟨{}, .modern, ⟨"db-01", "8.0.36"⟩⟩
    let profile := [("username", "alice")]
    let draws : Password.Draws := fun index => [64, 33, 18, 3].getD index 0
    let draws' : Password.Draws := fun index => [65, 33, 18, 3].getD index 0
    let logged := fun draws =>
      records
        ((connector.createOnServer profile (.random 4) draws).run
          Sql.Script.handler [])
    Password.generate (.random 4) draws = .ok "aB3$" ∧
      Password.generate (.random 4) draws' = .ok "bB3$" ∧
      logged draws =
        [⟨.debug, "executing",
            [("statement",
              .text "CREATE USER 'alice'@'%' IDENTIFIED BY 'aB3$'")]⟩,
          ⟨.info, "created user", [("account", .text "alice@%")]⟩] ∧
      logged draws ≠ logged draws' := by
  intro connector profile draws draws' logged
  refine ⟨?_, ?_, ?_, ?_⟩
  · decide +kernel
  · decide +kernel
  · decide +kernel
  · decide +kernel

end PrivilegeGraph.Connector
