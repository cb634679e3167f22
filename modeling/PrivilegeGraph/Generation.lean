import PrivilegeGraph.Error
import PrivilegeGraph.Text.Case
import PrivilegeGraph.Text.Numeral
import PrivilegeGraph.Text.Search

/-!
# Server generations

Roles and dynamic privileges exist on modern servers only.  The generation is
read from the server's version text: MySQL 8 and 9 are modern, MySQL 5.7 and
MariaDB 10 and 11 are legacy, and nothing else is supported.
-/

namespace PrivilegeGraph

/-- Whether a server knows roles and dynamic privileges. -/
inductive Generation
  | legacy
  | modern
  deriving DecidableEq, Repr

namespace Generation

/-- Whether a generation is the modern one. -/
def isModern : Generation → Bool
  | legacy => false
  | modern => true

/-- The first number of a version: its leading digits. -/
def majorNumber? (version : String) : Option Nat :=
  Text.numeral? 32 (version.toList.takeWhile Text.isDigit)

/-- The second number of a version: the digits after the one character that ends
the first number, or zero. -/
def minorNumber (version : String) : Nat :=
  let afterMajor := (version.toList.dropWhile Text.isDigit).drop 1
  (Text.numeral? 32 (afterMajor.takeWhile Text.isDigit)).getD 0

/-- Whether a version names MariaDB, in any letter case. -/
def isMariaDb (version : String) : Bool :=
  Text.occurs "mariadb" (Text.lowered version)

/-- The generation of a version, if it is supported. -/
def ofVersion? (version : String) : Option Generation :=
  match majorNumber? version with
  | none => none
  | some major =>
      if isMariaDb version then
        if major = 10 ∨ major = 11 then some legacy else none
      else if major = 8 ∨ major = 9 then some modern
      else if major = 5 ∧ minorNumber version = 7 then some legacy
      else none

/-- The generation of a server, or the report that its version is not
supported. -/
def probe (version : String) : Except Error Generation :=
  match ofVersion? version with
  | some generation => .ok generation
  | none => .error (.unsupportedServer version)

end Generation

end PrivilegeGraph
