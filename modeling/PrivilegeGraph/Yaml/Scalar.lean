/-!
# Scalars

A plain word of a configuration document is read as what it looks like: nothing,
a truth value, a number, or text.  Whatever it was read as, a scalar has a text
again, which is not always the text that it was written with: nothing is `null`,
a truth value is in lower case, and a decimal number loses a fraction of zero.
-/

namespace PrivilegeGraph.Yaml

/-- A scalar, by what it was written as.  Numbers keep their digits. -/
inductive Scalar
  | null
  | bool (value : Bool)
  | whole (digits : String)
  | decimal (digits : String)
  | text (value : String)
  deriving DecidableEq, Repr

/-- Reversed characters from behind the fractions of zero that they begin
with. -/
def behindZeros : List Char → List Char
  | '0' :: '.' :: rest => behindZeros rest
  | characters => characters

/-- Characters without the fractions of zero at their end. -/
def withoutZeros (characters : List Char) : List Char :=
  (behindZeros characters.reverse).reverse

/-- The names of what is no finite number, with the text of each. -/
def unboundedNames : List (String × String) :=
  [(".inf", "inf"), (".Inf", "inf"), (".INF", "inf"), ("-.inf", "-inf"),
    ("-.Inf", "-inf"), ("-.INF", "-inf"), (".nan", "NaN"), (".NaN", "NaN"),
    (".NAN", "NaN")]

namespace Scalar

/-- The decimal number that is written with some characters. -/
def ofDecimal (characters : List Char) : Scalar :=
  .decimal (String.ofList (withoutZeros characters))

/-- The scalar that has a name. -/
def named? (name : String) : Option Scalar :=
  if ["~", "null", "Null", "NULL"].contains name then some .null
  else if ["true", "True", "TRUE"].contains name then some (.bool true)
  else if ["false", "False", "FALSE"].contains name then some (.bool false)
  else (unboundedNames.lookup name).map .decimal

/-- What plain text is read as. -/
def ofPlain (characters : List Char) : Scalar :=
  let value := String.ofList characters
  (named? value).getD (.text value)

/-- The text of a scalar, whatever it was written as. -/
def asText : Scalar → String
  | .null => "null"
  | .bool true => "true"
  | .bool false => "false"
  | .whole digits => digits
  | .decimal digits => digits
  | .text value => value

/-- The text of a scalar that was written as text. -/
def text? : Scalar → Option String
  | .text value => some value
  | _ => none

end Scalar

end PrivilegeGraph.Yaml
