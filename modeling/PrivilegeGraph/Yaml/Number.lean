import PrivilegeGraph.Text.Numeral
import PrivilegeGraph.Yaml.Place
import PrivilegeGraph.Yaml.Scalar

/-!
# Numbers at the start of a line

A number is read from its first character on.  A whole number is one only if the
line ends behind it or a mark of the notation follows, with blanks in between or
none.  A decimal number may also be followed by any blanks of which the last is
a space.
-/

namespace PrivilegeGraph.Yaml

/-- A line divided into a first part and what follows it. -/
abbrev Span := List Char × List Char

/-- A span with further characters in front. -/
def Span.after
    (start : List Char)
    (span : Span) :
    Span :=
  (start ++ span.1, span.2)

/-- The characters of a kind that a line begins with, if there is one. -/
def runSpan?
    (kind : Char → Bool)
    (line : List Char) :
    Option Span :=
  if (line.takeWhile kind).isEmpty then none
  else some (line.takeWhile kind, line.dropWhile kind)

/-- The decimal digits that a line begins with, if there is one. -/
def digitSpan? (line : List Char) : Option Span :=
  runSpan? Text.isDigit line

/-- Whether a character is a digit after the sign of another base: a decimal
digit, or a letter from `b` to `g`. -/
def isBasedDigit (c : Char) : Bool :=
  Text.isDigit c || ('b' ≤ c && c ≤ 'g') || ('B' ≤ c && c ≤ 'G')

/-- The digits that a line begins with, after a minus sign or none. -/
def signedSpan? : List Char → Option Span
  | '-' :: rest => (digitSpan? rest).map (Span.after ['-'])
  | line => digitSpan? line

/-- The whole number that a line begins with.  Its digits may follow the sign of
another base than ten. -/
def wholeSpan? : List Char → Option Span
  | '0' :: 'x' :: rest =>
      (runSpan? isBasedDigit rest).map (Span.after ['0', 'x'])
  | '0' :: 'o' :: rest =>
      (runSpan? isBasedDigit rest).map (Span.after ['0', 'o'])
  | line => signedSpan? line

/-- What makes a decimal number of a whole one: a point with digits or none, or
an exponent with a sign or none. -/
def scaleSpan? : List Char → Option Span
  | '.' :: rest =>
      some ('.' :: rest.takeWhile Text.isDigit, rest.dropWhile Text.isDigit)
  | c :: '+' :: rest =>
      if c = 'e' || c = 'E' then (digitSpan? rest).map (Span.after [c, '+'])
      else none
  | c :: rest =>
      if c = 'e' || c = 'E' then (signedSpan? rest).map (Span.after [c])
      else none
  | [] => none

/-- The decimal number that a line begins with. -/
def decimalSpan? (line : List Char) : Option Span := do
  let whole ← signedSpan? line
  let scale ← scaleSpan? whole.2
  return scale.after whole.1

/-- Whether a number ends where a line goes on with some characters.  The end of
the last line does not end a number. -/
def endsNumber (isLast : Bool) : List Char → Bool
  | [] => !isLast
  | c :: _ => isMark c

/-- Whether a decimal number ends where a line goes on with some characters. -/
def endsDecimal
    (isLast : Bool)
    (after : List Char) :
    Bool :=
  match (after.takeWhile isSpace).getLast? with
  | none => endsNumber isLast after
  | some c => c == ' '

/-- The decimal number that a line begins with, and what follows it and its
blanks. -/
def leadingDecimal?
    (isLast : Bool)
    (line : List Char) :
    Option (Scalar × List Char) := do
  let (digits, after) ← decimalSpan? line
  if endsDecimal isLast after then
    some (.ofDecimal digits, after.dropWhile isSpace)
  else
    none

/-- The whole number that a line begins with, and what follows it and its
blanks. -/
def leadingWhole?
    (isLast : Bool)
    (line : List Char) :
    Option (Scalar × List Char) := do
  let (digits, after) ← wholeSpan? line
  if endsNumber isLast (after.dropWhile isSpace) then
    some (.whole (String.ofList digits), after.dropWhile isSpace)
  else none

/-- The number that a line begins with, and what follows it and its blanks. -/
def leadingNumber?
    (isLast : Bool)
    (line : List Char) :
    Option (Scalar × List Char) :=
  (leadingDecimal? isLast line).or (leadingWhole? isLast line)

end PrivilegeGraph.Yaml
