import PrivilegeGraph.Sql.Name
import PrivilegeGraph.Sql.Token

/-!
# Administrative statements

The statements that change access, as data.  Names and accounts in them have
passed their allow-lists, and a statement is written from tokens.
-/

namespace PrivilegeGraph.Sql

/-- Whether access is given or taken. -/
inductive Action
  | grant
  | revoke
  deriving DecidableEq, Repr

/-- The sorts of stored routines. -/
inductive RoutineType
  | function
  | procedure
  deriving DecidableEq, Repr

/-- The keyword of a sort of routine. -/
def RoutineType.keyword : RoutineType → String
  | function => "FUNCTION"
  | procedure => "PROCEDURE"

/-- What a privilege is held on. -/
inductive Target
  | everything
  | database (name : Path)
  | table (name : Path)
  | routine (type : RoutineType) (name : Path)

/-- What is given or taken.  The option is the right to pass it on. -/
inductive Change
  | privilege (keyword : String) (target : Target) (withOption : Bool)
  | columns (keywords : List String) (column owner : Path)
  | proxy (target : Option Grantee) (withOption : Bool)
  | membership (role : Grantee) (withOption : Bool)

/-- An administrative statement. -/
inductive Statement
  | access (action : Action) (change : Change) (grantee : Grantee)
  | createUser (account : Grantee) (password : String)
  | dropUser (account : Grantee)

/-- A dotted name: its parts in backticks, with dots between. -/
def Path.tokens (path : Path) : List Token :=
  (path.parts.map Token.name).intersperse (.bare ".")

/-- An account: its name and host in single quotes, with an at sign between. -/
def accountTokens (name host : String) : List Token :=
  [.literal name, .bare "@", .literal host]

/-- The tokens of a checked account. -/
def Grantee.tokens (grantee : Grantee) : List Token :=
  accountTokens grantee.account.name grantee.account.host

namespace Action

/-- The leading keyword. -/
def verb : Action → String
  | grant => "GRANT"
  | revoke => "REVOKE"

/-- The word before the account. -/
def preposition : Action → String
  | grant => "TO"
  | revoke => "FROM"

/-- The option clause, which only a grant can have. -/
def option
    (action : Action)
    (withOption : Bool)
    (clause : String) :
    List Token :=
  match action with
  | grant => if withOption then [.bare (" " ++ clause)] else []
  | revoke => []

end Action

/-- The tokens of a target. -/
def Target.tokens : Target → List Token
  | everything => [.bare "*.*"]
  | database name => name.tokens ++ [.bare ".*"]
  | table name => name.tokens
  | routine type name => .bare (type.keyword ++ " ") :: name.tokens

/-- The tokens of a privilege on one column. -/
def columnPrivilege
    (column : Path)
    (keyword : String) :
    List Token :=
  .bare (keyword ++ " (") :: column.tokens ++ [.bare ")"]

namespace Change

/-- What stands between the verb and the preposition. -/
def objectTokens : Change → List Token
  | privilege keyword target _ => .bare (keyword ++ " ON ") :: target.tokens
  | columns keywords column owner =>
      [.bare ", "].intercalate (keywords.map (columnPrivilege column)) ++
        .bare " ON " :: owner.tokens
  | proxy (some target) _ => .bare "PROXY ON " :: target.tokens
  | proxy none _ => .bare "PROXY ON " :: accountTokens "" ""
  | membership role _ => role.tokens

/-- The option clause of a change for an action. -/
def optionTokens (action : Action) : Change → List Token
  | privilege _ _ withOption => action.option withOption "WITH GRANT OPTION"
  | columns _ _ _ => []
  | proxy _ withOption => action.option withOption "WITH GRANT OPTION"
  | membership _ withOption => action.option withOption "WITH ADMIN OPTION"

end Change

namespace Statement

/-- The tokens of a statement. -/
def tokens : Statement → List Token
  | access action change grantee =>
      .bare (action.verb ++ " ") :: change.objectTokens ++
        .bare (" " ++ action.preposition ++ " ") :: grantee.tokens ++
          change.optionTokens action
  | createUser account password =>
      .bare "CREATE USER " :: account.tokens ++
        [.bare " IDENTIFIED BY ", .literal password]
  | dropUser account => .bare "DROP USER " :: account.tokens

/-- The text of a statement. -/
def text (statement : Statement) : String :=
  tokensText statement.tokens

end Statement

/-- The text of a checked dotted name. -/
def Path.text (path : Path) : String :=
  tokensText path.tokens

/-- The text of a checked account. -/
def Grantee.text (grantee : Grantee) : String :=
  tokensText grantee.tokens

end PrivilegeGraph.Sql
