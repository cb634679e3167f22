import PrivilegeGraph.Proofs.Administration.Revocation
import PrivilegeGraph.Proofs.Connector.Session
import PrivilegeGraph.Proofs.Sql.Reading
import PrivilegeGraph.Proofs.Store.View

/-!
# Creating and deleting accounts

Creating an account is one statement, and it succeeds exactly when the profile
names an account that passes the allow-lists, a password can be made, and the
statement is executed.  A server that reads the statement finds in it the
account and the password that is handed out.  Deleting what was created is one
statement for the same account, and nothing but a user that passes the
allow-lists can be deleted.
-/

namespace PrivilegeGraph.Connector

open Program (Handler Run)
open Sql (Grantee Statement Token literalValue? readTokens? tokensText_bare)
open Store (Call Settled attempted executed)

/-! ## Statements about accounts -/

/-- The text that creates an account with a password. -/
def creationText
    (account : Account)
    (password : String) :
    String :=
  "CREATE USER " ++ account.quoted ++ " IDENTIFIED BY " ++ Sql.quoted password

/-- The text that deletes an account. -/
def deletionText (account : Account) : String :=
  "DROP USER " ++ account.quoted

theorem text_createUser
    (grantee : Grantee)
    (password : String) :
    (Statement.createUser grantee password).text =
      creationText grantee.account password := by
  simp [Statement.text, Statement.tokens, Grantee.tokens, creationText,
    tokensText_bare, Sql.tokensText_account, Sql.tokensText_literal,
    Sql.tokensText_nil, String.append_assoc]

theorem text_dropUser (grantee : Grantee) :
    (Statement.dropUser grantee).text = deletionText grantee.account := by
  simp [Statement.text, Statement.tokens, Grantee.tokens, deletionText,
    tokensText_bare, Sql.tokensText_account]

/-- A statement that creates an account is read back as the account's name and
host and the password, each in quotes of its own. -/
theorem readTokens?_creationText
    {account : Account}
    (allowed : account.Allowed)
    (password : String) :
    readTokens? (creationText account password).toList =
      some
        [.bare "CREATE USER ", .literal account.name, .bare "@",
          .literal account.host, .bare " IDENTIFIED BY ",
          .literal password] := by
  rcases Sql.exists_grantee allowed with ⟨grantee, rfl⟩
  have tokens :
      (Statement.createUser grantee password).tokens =
        [.bare "CREATE USER ", .literal grantee.account.name, .bare "@",
          .literal grantee.account.host, .bare " IDENTIFIED BY ",
          .literal password] :=
    rfl
  have unmarked :
      ∀ text ∈ ["CREATE USER ", "@", " IDENTIFIED BY "],
        text.toList.all (fun c => !Sql.isMark c) = true := by
    decide
  simp only [List.all_eq_true, Bool.not_eq_true'] at unmarked
  have separate :
      Sql.Separate (Statement.createUser grantee password).tokens := by
    simp only [tokens, Sql.Separate]
    exact
      ⟨by decide, unmarked _ (by simp), rfl, by decide, unmarked _ (by simp),
        rfl, by decide, unmarked _ (by simp), rfl, trivial⟩
  rw [← text_createUser, Statement.text, Sql.tokensText, String.toList_ofList,
    Sql.readTokens?_flatMap_chars separate, tokens]
  rfl

example :
    creationText ⟨"alice", "%"⟩ "a'B3" =
      "CREATE USER 'alice'@'%' IDENTIFIED BY 'a''B3'" := by
  decide

/-! ## Creating an account -/

/-- What a profile, the settings and the draws provide for a new account. -/
structure Provides
    (connector : Connector)
    (profile : List (String × String))
    (request : Password.Request)
    (draws : Password.Draws)
    (account : Account)
    (password : String) : Prop where
  named :
    (profile.lookup "username").map Text.trimmed = some account.name
  present : account.name ≠ ""
  host : account.host = connector.settings.accountHost
  generated : Password.generate request draws = .ok password
  allowed : account.Allowed

theorem usernameOf_eq_ok_iff
    {profile : List (String × String)}
    {name : String} :
    usernameOf profile = .ok name ↔
      (profile.lookup "username").map Text.trimmed = some name ∧
        name ≠ "" := by
  rw [usernameOf]
  split
  · next trimmed found =>
    split
    · next empty =>
      constructor
      · intro read
        cases read
      · rintro ⟨same, present⟩
        rw [found, empty] at same
        cases same
        exact absurd rfl present
    · next present =>
      constructor
      · intro read
        cases read
        exact ⟨found, present⟩
      · rintro ⟨same, _⟩
        rw [found] at same
        cases same
        rfl
  · next missing =>
    constructor
    · intro read
      cases read
    · rintro ⟨same, _⟩
      rw [missing] at same
      cases same

section

variable
    {connector : Connector}
    {profile : List (String × String)}
    {request : Password.Request}
    {draws : Password.Draws}
    {account : Account}
    {password : String}

/-- The account does not depend on the draws. -/
theorem account_eq_of_provides
    {draws' : Password.Draws}
    {account' : Account}
    {password' : String}
    (provides : connector.Provides profile request draws account password)
    (provides' : connector.Provides profile request draws' account' password') :
    account = account' := by
  have name := provides.named.symm.trans provides'.named
  have host := provides.host.trans provides'.host.symm
  cases account
  cases account'
  cases name
  cases host
  rfl

/-- What is provided is created by one statement, and nothing is asked after
it. -/
theorem createAccount_eq_ask
    (provides : connector.Provides profile request draws account password) :
    connector.createAccount profile request draws =
      .ask (.execute (creationText account password)) fun
        | .ok _ =>
            .note (.createdUser account)
              (.done
                (.ok
                  ⟨Resource.ofAccount (.user account)
                    connector.serverIdentity.resourceId, password⟩))
        | .error fault =>
            .done (.error ⟨some (.createUser account), .storage fault⟩) := by
  rcases account with ⟨name, host⟩
  cases provides.host
  have named := usernameOf_eq_ok_iff.2 ⟨provides.named, provides.present⟩
  rcases Sql.exists_grantee provides.allowed with ⟨grantee, same⟩
  have checks := Grantee.ofAccount_eq_ok_iff.2 same
  rw [createAccount, named, provides.generated]
  show
    (during _ (Administration.createUser
      ⟨name, connector.settings.accountHost⟩ password) >>= _) = _
  rw [Administration.createUser, checks]
  have text := text_createUser grantee password
  rw [same] at text
  show
    ((during _ (Store.request
      (.execute (Statement.createUser grantee password).text) >>= _)) >>= _) = _
  rw [text]
  refine congrArg (Program.ask _) ?_
  funext answer
  cases answer with
  | ok reply => rfl
  | error fault => rfl

/-- Whatever is not provided is refused before anything is asked. -/
theorem createAccount_eq_fail
    (lacks :
      ¬∃ account password,
        connector.Provides profile request draws account password) :
    ∃ failure,
      connector.createAccount profile request draws =
        Program.fail failure := by
  rw [createAccount]
  cases named : usernameOf profile with
  | error error => exact ⟨_, rfl⟩
  | ok name =>
      cases generated : Password.generate request draws with
      | error error => exact ⟨_, rfl⟩
      | ok password =>
          cases checks :
              Grantee.ofAccount ⟨name, connector.settings.accountHost⟩ with
          | error error =>
              let account : Account := ⟨name, connector.settings.accountHost⟩
              refine ⟨⟨some (.createUser account), error⟩, ?_⟩
              show
                (during _ (Administration.createUser account password) >>= _) =
                  _
              rw [Administration.createUser, checks]
              rfl
          | ok grantee =>
              let account : Account := ⟨name, connector.settings.accountHost⟩
              refine absurd ⟨account, password, ?_⟩ lacks
              rcases usernameOf_eq_ok_iff.1 named with ⟨found, present⟩
              have allowed := grantee.allowed
              rw [Grantee.ofAccount_eq_ok_iff.1 checks] at allowed
              exact ⟨found, present, rfl, generated, allowed⟩

end

/-! ## Deleting an account -/

/-- Whether an id is that of a user with one host that passes the
allow-lists. -/
structure Deletable
    (id : String)
    (account : Account) : Prop where
  parsed : Identity.parse id = .ok (.user account)
  single : account.isCollapsed = false
  allowed : account.Allowed

theorem isCollapsed_of_allowed
    {account : Account}
    (allowed : account.Allowed) :
    account.isCollapsed = false := by
  have noComma : ',' ∉ account.host.toList :=
    Sql.not_mem_of_isAllowed allowed.2 (by decide)
  have hosts : account.hosts.length ≤ 1 := by
    rw [Account.hosts, Text.entries, Text.pieces_singleton noComma]
    exact List.length_filter_le _ _
  simpa [Account.isCollapsed] using hosts

theorem userAccount_eq_ok_iff
    {id : String}
    {account : Account} :
    userAccount id = .ok account ↔
      Identity.parse id = .ok (.user account) := by
  rw [userAccount, Identity.parseOfKind]
  cases Identity.parse id with
  | error error =>
      constructor
      · intro read
        cases read
      · intro read
        cases read
  | ok identity =>
      cases identity with
      | user other =>
          constructor
          · intro read
            cases read
            rfl
          · intro read
            cases read
            rfl
      | _ =>
          constructor
          · intro read
            cases read
          · intro read
            cases read

/-- The id of an account that passes the allow-lists is read back. -/
theorem deletable_id
    {account : Account}
    (allowed : account.Allowed) :
    Deletable (Identity.user account).id account where
  parsed :=
    Identity.parse_eq_ok_iff.2
      ⟨rfl, (Identity.encodablePrincipal_of_allowed rfl allowed).2.1⟩
  single := isCollapsed_of_allowed allowed
  allowed := allowed

theorem deleteAccount_eq_ask
    {id : String}
    {account : Account}
    (deletable : Deletable id account) :
    deleteAccount id =
      .ask (.execute (deletionText account)) fun
        | .ok _ => .note (.applied (deletionText account)) (.done (.ok ()))
        | .error fault =>
            .done (.error ⟨some (.deleteUser account), .storage fault⟩) := by
  rcases Sql.exists_grantee deletable.allowed with ⟨grantee, rfl⟩
  have checks :
      Grantee.ofAccount grantee.account = .ok grantee :=
    Grantee.ofAccount_eq_ok_iff.2 rfl
  rw [deleteAccount, userAccount_eq_ok_iff.2 deletable.parsed]
  show during _ (Administration.dropUser grantee.account) = _
  rw [Administration.dropUser, checks, ← text_dropUser]
  refine congrArg (Program.ask _) ?_
  funext answer
  cases answer with
  | ok reply => rfl
  | error fault => rfl

theorem deleteAccount_eq_fail
    {id : String}
    (refused : ¬∃ account, Deletable id account) :
    ∃ failure, deleteAccount id = Program.fail failure := by
  rw [deleteAccount]
  cases read : userAccount id with
  | error error => exact ⟨_, rfl⟩
  | ok account =>
      cases checks : Grantee.ofAccount account with
      | error error =>
          refine ⟨⟨some (.deleteUser account), error⟩, ?_⟩
          show during _ (Administration.dropUser account) = _
          rw [Administration.dropUser, checks]
          rfl
      | ok grantee =>
          have allowed := grantee.allowed
          rw [Grantee.ofAccount_eq_ok_iff.1 checks] at allowed
          exact
            absurd
              ⟨account, userAccount_eq_ok_iff.1 read,
                isCollapsed_of_allowed allowed, allowed⟩
              refused

/-! ## Runs -/

section

variable
    {σ : Type}
    {connector : Connector}
    {profile : List (String × String)}
    {request : Password.Request}
    {draws : Password.Draws}
    {account : Account}
    {password : String}

theorem run_deleteAccount
    {id : String}
    (deletable : Deletable id account)
    (handler : Handler Store.interface σ)
    (state : σ) :
    let run := (deleteAccount id).run handler state
    attempted run = [deletionText account] ∧
      run.result.isOk =
        (handler (.execute (deletionText account)) state).1.isOk ∧
      executed run =
        if (handler (.execute (deletionText account)) state).1.isOk then
          [deletionText account]
        else [] := by
  rw [deleteAccount_eq_ask deletable]
  apply Store.run_execute
  · intro fault
    exact rfl
  · exact rfl

theorem run_createAccount
    (provides : connector.Provides profile request draws account password)
    (handler : Handler Store.interface σ)
    (state : σ) :
    let text := creationText account password
    let run := (connector.createAccount profile request draws).run handler state
    attempted run = [text] ∧
      run.result.isOk = (handler (.execute text) state).1.isOk ∧
      executed run =
        if (handler (.execute text) state).1.isOk then [text] else [] := by
  rw [createAccount_eq_ask provides]
  apply Store.run_execute
  · intro fault
    exact rfl
  · exact rfl

theorem created_eq
    (provides : connector.Provides profile request draws account password)
    {handler : Handler Store.interface σ}
    {state : σ}
    {created : CreatedAccount}
    (ended :
      ((connector.createAccount profile request draws).run handler
          state).result = .ok created) :
    created =
      ⟨Resource.ofAccount (.user account) connector.serverIdentity.resourceId,
        password⟩ := by
  rw [createAccount_eq_ask provides] at ended
  simp only [Program.run] at ended
  cases answered :
      (handler (.execute (creationText account password)) state).1 with
  | ok reply =>
      rw [answered] at ended
      cases ended
      rfl
  | error fault =>
      rw [answered] at ended
      cases ended

/-- Whether a run created an account by one statement, in which a server reads
the password that is handed out, and the account can be deleted by the id that
is handed out, again by one statement. -/
structure Creates
    (connector : Connector)
    (handler : Handler Store.interface σ)
    (account : Account)
    (run : Run Store.interface σ Failure CreatedAccount)
    (created : CreatedAccount) : Prop where
  attempted : attempted run = [creationText account created.password]
  executed : executed run = [creationText account created.password]
  read :
    readTokens? (creationText account created.password).toList =
      some
        [.bare "CREATE USER ", .literal account.name, .bare "@",
          .literal account.host, .bare " IDENTIFIED BY ",
          .literal created.password]
  literal :
    literalValue? (Sql.quoted created.password) = some created.password
  policy : Password.satisfiesPolicy created.password = true
  resource :
    created.resource =
      Resource.ofAccount (.user account) connector.serverIdentity.resourceId
  parsed : Identity.parse created.resource.id.id = .ok (.user account)
  deletes :
    ∀ later,
      let deletion :=
        (deleteAccount created.resource.id.id).run handler later
      let executes :=
        (handler (.execute (deletionText account)) later).1.isOk
      Store.attempted deletion = [deletionText account] ∧
        deletion.result.isOk = executes ∧
        Store.executed deletion =
          if executes then [deletionText account] else []

theorem creates_of_provides
    (provides : connector.Provides profile request draws account password)
    {handler : Handler Store.interface σ}
    {state : σ}
    {created : CreatedAccount}
    (ended :
      ((connector.createAccount profile request draws).run handler
          state).result = .ok created) :
    connector.Creates handler account
      ((connector.createAccount profile request draws).run handler state)
      created := by
  rcases run_createAccount provides handler state with ⟨tried, succeeds, one⟩
  have executes :
      (handler (.execute (creationText account password)) state).1.isOk =
        true := by
    rw [← succeeds, ended]
    rfl
  rw [if_pos executes] at one
  cases created_eq provides ended
  exact {
    attempted := tried
    executed := one
    read := readTokens?_creationText provides.allowed password
    literal := Sql.literalValue?_quoted password
    policy := Password.satisfiesPolicy_of_generate provides.generated
    resource := rfl
    parsed := (deletable_id provides.allowed).parsed
    deletes := run_deleteAccount (deletable_id provides.allowed) handler }

theorem isOk_createAccount_iff
    (handler : Handler Store.interface σ)
    (state : σ) :
    ((connector.createAccount profile request draws).run handler
        state).result.isOk = true ↔
      ∃ account password,
        connector.Provides profile request draws account password ∧
          (handler (.execute (creationText account password)) state).1.isOk =
            true := by
  constructor
  · intro ok
    by_cases provided :
        ∃ account password,
          connector.Provides profile request draws account password
    · rcases provided with ⟨account, password, provides⟩
      have succeeds := (run_createAccount provides handler state).2.1
      exact ⟨account, password, provides, succeeds.symm.trans ok⟩
    · rcases createAccount_eq_fail provided with ⟨failure, fails⟩
      rw [fails] at ok
      cases ok
  · rintro ⟨account, password, provides, executes⟩
    exact (run_createAccount provides handler state).2.1.trans executes

theorem exists_creates
    {handler : Handler Store.interface σ}
    {state : σ}
    {created : CreatedAccount}
    (ended :
      ((connector.createAccount profile request draws).run handler
          state).result = .ok created) :
    ∃ account,
      connector.Provides profile request draws account created.password ∧
        connector.Creates handler account
          ((connector.createAccount profile request draws).run handler state)
          created := by
  by_cases provided :
      ∃ account password,
        connector.Provides profile request draws account password
  · rcases provided with ⟨account, password, provides⟩
    refine ⟨account, ?_, creates_of_provides provides ended⟩
    rw [created_eq provides ended]
    exact provides
  · rcases createAccount_eq_fail provided with ⟨failure, fails⟩
    rw [fails] at ended
    cases ended

theorem run_deleteAccount_of_refused
    {id : String}
    (refused : ¬∃ account, Deletable id account)
    (handler : Handler Store.interface σ)
    (state : σ) :
    let run := (deleteAccount id).run handler state
    run.result.isOk = false ∧ attempted run = [] ∧ executed run = [] := by
  rcases deleteAccount_eq_fail refused with ⟨failure, fails⟩
  rw [fails]
  exact ⟨rfl, rfl, rfl⟩

end

/-- An account is created exactly when the profile, the settings and the draws
provide for it and the store executes the statement.  What is handed out is
then what the statement says, and deletes what it created.  Whatever id is not
that of a user with one host that passes the allow-lists is refused without a
trace. -/
theorem accounts_created_and_deleted
    (connector : Connector)
    {σ : Type}
    (handler : Handler Store.interface σ) :
    (∀ profile request draws state,
        let run :=
          (connector.createAccount profile request draws).run handler state
        (run.result.isOk = true ↔
            ∃ account password,
              connector.Provides profile request draws account password ∧
                (handler (.execute (creationText account password))
                  state).1.isOk = true) ∧
          ∀ created, run.result = .ok created →
            ∃ account,
              connector.Provides profile request draws account
                  created.password ∧
                connector.Creates handler account run created) ∧
      ∀ id, (¬∃ account, Deletable id account) →
        ∀ state,
          let run := (deleteAccount id).run handler state
          run.result.isOk = false ∧ attempted run = [] ∧ executed run = [] := by
  constructor
  · intro profile request draws state
    exact
      ⟨isOk_createAccount_iff handler state,
        fun _ ended => exists_creates ended⟩
  · intro id refused state
    exact run_deleteAccount_of_refused refused handler state

/-- An account is created under its trimmed name, with a password made in the
first block of draws, and a role is not deleted. -/
theorem accounts_created_and_deleted_alice :
    let connector : Connector := ⟨{}, .modern, ⟨"db-01", "8.0.36"⟩⟩
    let draws : Password.Draws := fun index => [64, 33, 18, 3].getD index 0
    let run :=
      (connector.createAccount [("username", " alice ")] (.random 4) draws).run
        Store.Memory.openHandler Store.Memory.everyScope
    let refused :=
      (deleteAccount "role:dba@%").run Store.Memory.openHandler
        Store.Memory.everyScope
    executed run = ["CREATE USER 'alice'@'%' IDENTIFIED BY 'aB3$'"] ∧
      (∃ created account,
        run.result = .ok created ∧
          connector.Creates Store.Memory.openHandler account run created) ∧
      refused.result.isOk = false ∧ attempted refused = [] := by
  intro connector draws run refused
  rcases accounts_created_and_deleted connector Store.Memory.openHandler with
    ⟨creation, deletion⟩
  have role : ¬∃ account, Deletable "role:dba@%" account := by
    rintro ⟨account, parsed, _, _⟩
    cases parsed
  refine ⟨by decide +kernel, ?_, ?_⟩
  · have succeeds : run.result.isOk = true := by decide +kernel
    cases ended : run.result with
    | error failure =>
        rw [ended] at succeeds
        cases succeeds
    | ok created =>
        rcases (creation _ _ _ _).2 created ended with ⟨account, _, creates⟩
        exact ⟨created, account, rfl, creates⟩
  · rcases deletion _ role Store.Memory.everyScope with ⟨fails, none, _⟩
    exact ⟨fails, none⟩

end PrivilegeGraph.Connector
