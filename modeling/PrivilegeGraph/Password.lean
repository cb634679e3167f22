import PrivilegeGraph.Error
import PrivilegeGraph.Text.Numeral

/-!
# Passwords

Passwords for new accounts are drawn from the 94 visible ASCII characters.  A
password is acceptable when it holds an upper case letter, a lower case letter,
a digit and a symbol.  Up to twenty consecutive blocks of draws are tried.
-/

namespace PrivilegeGraph.Password

/-- Whether a character is a visible ASCII character. -/
def isVisible (c : Char) : Bool :=
  '!' ≤ c && c ≤ '~'

/-- Whether a character is an ASCII upper case letter. -/
def isUpper (c : Char) : Bool :=
  'A' ≤ c && c ≤ 'Z'

/-- Whether a character is an ASCII lower case letter. -/
def isLower (c : Char) : Bool :=
  'a' ≤ c && c ≤ 'z'

/-- Whether a character is a visible ASCII character but no letter or digit. -/
def isSymbol (c : Char) : Bool :=
  isVisible c && !isUpper c && !isLower c && !Text.isDigit c

/-- Whether a password holds a character of each of the four classes. -/
def satisfiesPolicy (password : String) : Bool :=
  password.toList.any isUpper && password.toList.any isLower &&
    password.toList.any Text.isDigit && password.toList.any isSymbol

/-- How the credential of a new account is to be made. -/
inductive Request
  | random (length : Nat)
  | noPassword
  deriving DecidableEq, Repr

/-- The length of a password when none is asked for. -/
def defaultLength : Nat := 12

/-- How many blocks of draws are tried. -/
def maxAttempts : Nat := 20

/-- An endless supply of random draws from the visible characters. -/
abbrev Draws := Nat → Fin 94

/-- The visible character of a draw. -/
def visibleChar (draw : Fin 94) : Char :=
  Char.ofNat ('!'.toNat + draw.val)

/-- The password made of a block of draws. -/
def block
    (draws : Draws)
    (length index : Nat) :
    String :=
  String.ofList
    ((List.range length).map fun offset =>
      visibleChar (draws (index * length + offset)))

/-- The blocks that are tried, in turn. -/
def candidates
    (draws : Draws)
    (length : Nat) :
    List String :=
  (List.range maxAttempts).map (block draws length)

/-- The length of the password for a requested length, where zero asks for the
default. -/
def wantedLength (length : Nat) : Nat :=
  if length = 0 then defaultLength else length

/-- The first acceptable block of draws. -/
def generate
    (request : Request)
    (draws : Draws) :
    Except Error String :=
  match request with
  | .noPassword => .error (.password .noCredential)
  | .random length =>
      match (candidates draws (wantedLength length)).find? satisfiesPolicy with
      | some password => .ok password
      | none => .error (.password (.exhausted maxAttempts))

/-- Every generated password is acceptable. -/
theorem satisfiesPolicy_of_generate
    {request : Request}
    {draws : Draws}
    {password : String}
    (generated : generate request draws = .ok password) :
    satisfiesPolicy password = true := by
  unfold generate at generated
  split at generated
  · simp at generated
  · split at generated
    · next found =>
      simp only [Except.ok.injEq] at generated
      subst generated
      exact List.find?_some found
    · simp at generated

end PrivilegeGraph.Password
