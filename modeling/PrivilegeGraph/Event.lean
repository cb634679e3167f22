import PrivilegeGraph.Generation
import PrivilegeGraph.Right

/-!
# Events

Operations report what they do as events.  An event is logged as a record: a
level, a message and named fields.
-/

namespace PrivilegeGraph

/-- How weighty a record is, weightiest first. -/
inductive Level
  | error
  | warn
  | info
  | debug
  | trace
  deriving DecidableEq, Repr

/-- The value of a record's field. -/
inductive FieldValue
  | text (value : String)
  | number (value : Nat)
  | flag (value : Bool)
  deriving DecidableEq, Repr

/-- An event as it is logged. -/
structure Record where
  level : Level
  message : String
  fields : List (String × FieldValue)
  deriving DecidableEq, Repr

/-- The reads in which an account is looked up. -/
inductive LookupPurpose
  | globalGrants
  | proxyGrants
  | roleEdges
  deriving DecidableEq, Repr

/-- The words of a lookup's purpose. -/
def LookupPurpose.message : LookupPurpose → String
  | globalGrants => "global grants"
  | proxyGrants => "proxy grants"
  | roleEdges => "role edges"

/-- What operations report. -/
inductive Event
  /-- A client has connected to a server. -/
  | connected (hostname version : String) (generation : Generation)
  /-- A connector is ready for use. -/
  | ready (hostname version : String) (generation : Generation)
  /-- The server did not answer a check. -/
  | checkFailed (error : Error)
  /-- The grants of an account are about to be read.  There is no event of their
  having been read, whose record would tell the time that this took: time is not
  modelled. -/
  | reconciling (account : Account)
  /-- An account that a row refers to does not exist. -/
  | unresolved (purpose : LookupPurpose) (user host : String)
  /-- A grant lies in a database that is left out. -/
  | skippedDatabase (database : String)
  /-- A right was read that the catalog does not list. -/
  | unknownRight (right : Right)
  /-- A client is about to run a statement. -/
  | executing (statement : String)
  /-- A statement has been run. -/
  | applied (statement : String)
  /-- An account has been created. -/
  | createdUser (account : Account)
  deriving DecidableEq, Repr

namespace Event

/-- The fields that describe a server. -/
def serverFields
    (hostname version : String)
    (generation : Generation) :
    List (String × FieldValue) :=
  [("hostname", .text hostname), ("version", .text version),
    ("modern", .flag generation.isModern)]

/-- The record of an event. -/
def record : Event → Record
  | connected hostname version generation =>
      ⟨.debug, "connected", serverFields hostname version generation⟩
  | ready hostname version generation =>
      ⟨.info, "mysql connector ready", serverFields hostname version generation⟩
  | checkFailed error =>
      ⟨.warn, "mysql connection check failed: " ++ error.message, []⟩
  | reconciling account =>
      ⟨.debug, "reconciling " ++ account.text ++ ": starting", []⟩
  | unresolved purpose user host =>
      ⟨.warn,
        purpose.message ++ ": " ++
          (Error.unresolved (user ++ "@" ++ host)).message ++ ", ignoring",
        [("user", .text user), ("host", .text host)]⟩
  | skippedDatabase database =>
      ⟨.debug, "skipping grants on skipped database",
        [("database", .text database)]⟩
  | unknownRight right =>
      ⟨.debug, "skipping privilege missing from catalog",
        [("privilege", .text right.privilege),
          ("resource", .text right.resource.id)]⟩
  | executing statement =>
      ⟨.debug, "executing", [("statement", .text statement)]⟩
  | applied statement => ⟨.info, "applied", [("statement", .text statement)]⟩
  | createdUser account =>
      ⟨.info, "created user", [("account", .text account.text)]⟩

end Event

end PrivilegeGraph
