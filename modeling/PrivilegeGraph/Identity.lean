import PrivilegeGraph.Account
import PrivilegeGraph.Kind

/-!
# Identities and ids

An identity says which resource is meant.  Its id is the text `kind:body`, where
the body is a host name for a server, dotted names for a database and what lies
in it, and `name@host` for accounts.
-/

namespace PrivilegeGraph

/-- A resource of the server, named by its parts.  The schema of a table, column
or routine is the database that holds it, and the owner of a column is its
table. -/
inductive Identity
  | server (name : String)
  | database (name : String)
  | table (schema name : String)
  | column (schema owner name : String)
  | routine (schema name : String)
  | user (account : Account)
  | role (account : Account)
  deriving DecidableEq, Repr

/-- The id of a resource as it is exchanged: the name of its kind and the full
id.  The two are independent texts, as ids that arrive from outside need not
agree with their kind. -/
structure ResourceId where
  kind : String
  id : String
  deriving DecidableEq, Repr

namespace Identity

/-- The kind of a resource. -/
def kind : Identity → Kind
  | .server _ => .server
  | .database _ => .database
  | .table _ _ => .table
  | .column _ _ _ => .column
  | .routine _ _ => .routine
  | .user _ => .user
  | .role _ => .role

/-- The named parts of a resource, outermost first. -/
def parts : Identity → List String
  | .server name => [name]
  | .database name => [name]
  | .table schema name => [schema, name]
  | .column schema owner name => [schema, owner, name]
  | .routine schema name => [schema, name]
  | .user account => [account.name, account.host]
  | .role account => [account.name, account.host]

/-- The id without the kind. -/
def body : Identity → String
  | .server name => name
  | .database name => name
  | .table schema name => schema ++ "." ++ name
  | .column schema owner name => schema ++ "." ++ owner ++ "." ++ name
  | .routine schema name => schema ++ "." ++ name
  | .user account => account.text
  | .role account => account.text

/-- The id of a resource. -/
def id (identity : Identity) : String :=
  identity.kind.name ++ ":" ++ identity.body

/-- The id of a resource as it is exchanged. -/
def resourceId (identity : Identity) : ResourceId :=
  ⟨identity.kind.name, identity.id⟩

/-- The resource around a column, table or routine.  A database lies on the
server, which its id does not name. -/
def parent? : Identity → Option Identity
  | .column schema owner _ => some (.table schema owner)
  | .table schema _ => some (.database schema)
  | .routine schema _ => some (.database schema)
  | _ => none

/-- The account that a user or role is. -/
def account? : Identity → Option Account
  | .user account => some account
  | .role account => some account
  | _ => none

/-- The resource of a kind with the given parts, if they are as many as the kind
needs. -/
def ofParts? : Kind → List String → Option Identity
  | .server, [name] => some (.server name)
  | .database, [name] => some (.database name)
  | .table, [schema, name] => some (.table schema name)
  | .column, [schema, owner, name] => some (.column schema owner name)
  | .routine, [schema, name] => some (.routine schema name)
  | .user, [name, host] => some (.user ⟨name, host⟩)
  | .role, [name, host] => some (.role ⟨name, host⟩)
  | _, _ => none

/-- The parts that a body denotes for a kind.  A server's body is one part
whatever it holds, an account's is divided at its last at sign, and all others
at their dots, between which nothing may be empty. -/
def bodyParts?
    (kind : Kind)
    (body : String) :
    Option (List String) :=
  match kind with
  | .server => some [body]
  | .user | .role =>
      (Account.ofText? body).map fun account => [account.name, account.host]
  | .database | .table | .column | .routine =>
      let parts := Text.pieces '.' body
      if "" ∈ parts then none else some parts

/-- The resource of a kind with the given body. -/
def ofBody?
    (kind : Kind)
    (body : String) :
    Option Identity :=
  (bodyParts? kind body).bind (ofParts? kind)

/-- Read an id.  The kind ends at the first colon, and the body must not be
empty. -/
def ofId? (id : String) : Option Identity :=
  match Text.cutFirst? ':' id with
  | some (kind, body) =>
      if body = "" then none
      else (Kind.ofName? kind).bind fun kind => ofBody? kind body
  | none => none

/-- Kind and parts determine a resource. -/
theorem ofParts?_parts (identity : Identity) :
    ofParts? identity.kind identity.parts = some identity := by
  cases identity <;> rfl

/-- A resource built from parts has that kind and those parts. -/
theorem kind_parts_of_ofParts?
    {kind : Kind}
    {parts : List String}
    {identity : Identity}
    (built : ofParts? kind parts = some identity) :
    identity.kind = kind ∧ identity.parts = parts := by
  unfold ofParts? at built
  split at built <;> simp_all <;> subst built <;> exact ⟨rfl, rfl⟩

end Identity

end PrivilegeGraph
