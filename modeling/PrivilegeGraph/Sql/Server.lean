import PrivilegeGraph.Program

/-!
# SQL servers

A server is the party that answers one statement at a time, with a table of rows
or with a refusal.  Values are found in a row by the exact name of their column.
-/

namespace PrivilegeGraph.Sql

/-- A value bound to a statement's parameter. -/
inductive Parameter
  | text (value : String)
  | number (value : Nat)
  deriving DecidableEq, Repr

/-- A statement as it is sent.  Plain text has no parameters at all. -/
structure Request where
  sql : String
  parameters : Option (List Parameter)
  deriving DecidableEq, Repr

/-- The types of result columns. -/
inductive ColumnType
  | text
  | flag
  deriving DecidableEq, Repr

/-- A result column. -/
structure Column where
  name : String
  type : ColumnType
  deriving DecidableEq, Repr

/-- A value of a result row. -/
inductive Cell
  | null
  | text (value : String)
  | number (value : Int)
  deriving DecidableEq, Repr

/-- A result row: its values with their columns. -/
abbrev Row := List (Column × Cell)

/-- The rows that a server returns. -/
structure ResultSet where
  rows : List Row
  deriving DecidableEq, Repr

/-- A server as an interface: each answer is a result or the words of a
refusal. -/
def interface : Interface where
  Call := Request
  Answer _ := Except String ResultSet

namespace Row

/-- The value in the last column of a name. -/
def find?
    (row : Row)
    (name : String) :
    Option (Column × Cell) :=
  row.reverse.find? fun value => value.1.name == name

/-- The text that a value holds, if its column is one of text. -/
def textOf? : Column × Cell → Option String
  | (⟨_, .text⟩, .text value) => some value
  | _ => none

/-- The flag that a value holds, if its column is one of flags. -/
def flagOf? : Column × Cell → Option Bool
  | (⟨_, .flag⟩, .number value) => some (value != 0)
  | _ => none

/-- The text in a column. -/
def text
    (row : Row)
    (name : String) :
    Except Fault String :=
  match (row.find? name).bind textOf? with
  | some value => .ok value
  | none => .error (.undecodable name)

/-- The text in a column, or nothing when there is no such column. -/
def textIfAny
    (row : Row)
    (name : String) :
    Except Fault String :=
  match row.find? name with
  | some _ => row.text name
  | none => .ok ""

/-- The flag in a column. -/
def flag
    (row : Row)
    (name : String) :
    Except Fault Bool :=
  match (row.find? name).bind flagOf? with
  | some value => .ok value
  | none => .error (.undecodable name)

end Row

/-- A server that answers from a script and returns no rows when the script has
ended. -/
abbrev Script := List (Except String ResultSet)

/-- The scripted server as a handler. -/
def Script.handler : Program.Handler interface Script := fun _ script =>
  match script with
  | [] => (.ok ⟨[]⟩, [])
  | answer :: rest => (answer, rest)

end PrivilegeGraph.Sql
