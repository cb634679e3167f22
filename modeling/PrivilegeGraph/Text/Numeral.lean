/-!
# Decimal numerals

Numbers arrive as text and are held in words of a fixed width.  Reading accepts
ASCII digits, after one plus sign at most, and refuses what does not fit the
width.
-/

namespace PrivilegeGraph.Text

/-- Whether a character is one of the ten ASCII digits. -/
def isDigit (c : Char) : Bool :=
  '0' ≤ c && c ≤ '9'

/-- The value of a run of digits, most significant first. -/
def digitsValue (digits : List Char) : Nat :=
  digits.foldl (fun value c => 10 * value + (c.toNat - '0'.toNat)) 0

/-- The value of a non-empty run of digits that fits a word of the width. -/
def numeral?
    (width : Nat)
    (digits : List Char) :
    Option Nat :=
  if digits ≠ [] ∧ digits.all isDigit = true ∧
      digitsValue digits < 1 <<< width then
    some (digitsValue digits)
  else
    none

/-- The value of a text that is a numeral, with or without a plus sign in
front. -/
def readNumeral?
    (width : Nat)
    (text : String) :
    Option Nat :=
  match text.toList with
  | '+' :: digits => numeral? width digits
  | digits => numeral? width digits

end PrivilegeGraph.Text
