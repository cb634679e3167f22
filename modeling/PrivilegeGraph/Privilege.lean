import PrivilegeGraph.Kind

/-!
# Privileges

A privilege is described by one row of the privilege table.  Static privileges
have a column of their own in the grant tables.  Dynamic privileges are
registered with a modern server by name.
-/

namespace PrivilegeGraph

/-- What holding an entitlement means. -/
inductive Purpose
  | permission
  | assignment
  deriving DecidableEq, Repr

/-- A row of the privilege table. -/
structure Privilege where
  id : String
  displayName : String
  description : String
  /-- The kinds of resources on which the privilege can be held. -/
  kinds : List Kind
  /-- Whether the privilege can be held together with the right to pass it
  on. -/
  grantable : Bool := false
  /-- Whether legacy servers lack the privilege. -/
  modernOnly : Bool := false
  /-- Whether statements write the privilege with its underscores. -/
  dynamic : Bool := false
  purpose : Purpose := .permission
  deriving DecidableEq, Repr

namespace Privilege

/-- A static privilege of every supported server. -/
def static
    (id displayName description : String)
    (kinds : List Kind) :
    Privilege :=
  { id, displayName, description, kinds }

/-- A static privilege that only modern servers have. -/
def modernStatic (id displayName description : String) : Privilege :=
  { id, displayName, description, kinds := [.server], modernOnly := true }

/-- A dynamic privilege: held on the server, of modern servers only, and
grantable. -/
def registered (id displayName description : String) : Privilege :=
  { id, displayName, description, kinds := [.server], grantable := true,
    modernOnly := true, dynamic := true }

/-- The id of the right to pass privileges on. -/
def grantId : String := "grant"

/-- The id of the right to act as another account. -/
def proxyId : String := "proxy"

/-- The id of role membership. -/
def roleAssignmentId : String := "role_assignment"

/-- The id of the right to run a routine. -/
def executeId : String := "execute"

/-- The id of the right to change a routine. -/
def alterRoutineId : String := "alter_routine"

/-- What the id of a privilege held with the right to pass it on ends with. -/
def grantOptionSuffix : String := "_with_grant"

end Privilege

end PrivilegeGraph
