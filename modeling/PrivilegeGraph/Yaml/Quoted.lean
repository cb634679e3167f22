import PrivilegeGraph.Yaml.Folding
import PrivilegeGraph.Yaml.Place
import PrivilegeGraph.Yaml.Scalar

/-!
# Quoted text

Text in quotes goes on up to the closing quote, on the same line or on one
below.  A quote in single quotes is written twice.  In double quotes a backslash
changes the meaning of the character after it, once the lines have been put
together.
-/

namespace PrivilegeGraph.Yaml

/-- Text in single quotes up to the closing quote, and what follows it on the
line, if the quote closes there.  A quote in the text is written twice. -/
def singleSpan : List Char → List Char × Option (List Char)
  | [] => ([], none)
  | '\'' :: '\'' :: rest => ('\'' :: (singleSpan rest).1, (singleSpan rest).2)
  | c :: rest =>
      if c = '\'' then ([], some rest)
      else (c :: (singleSpan rest).1, (singleSpan rest).2)

/-- Text in double quotes up to the closing quote, and what follows it on the
line, if the quote closes there.  A quote after a backslash is part of the
text. -/
def doubleSpan : List Char → List Char × Option (List Char)
  | [] => ([], none)
  | '\\' :: '"' :: rest =>
      ('\\' :: '"' :: (doubleSpan rest).1, (doubleSpan rest).2)
  | c :: rest =>
      if c = '"' then ([], some rest)
      else (c :: (doubleSpan rest).1, (doubleSpan rest).2)

/-- The character that a backslash makes of the next one. -/
def escaped : Char → Char
  | 'n' => '\n'
  | 't' => '\t'
  | 'r' => '\r'
  | 'b' => '\x08'
  | 'f' => '\x0c'
  | c => c

/-- Text with every backslash and the character after it replaced by what they
mean. -/
def unescaped : List Char → List Char
  | [] => []
  | '\\' :: c :: rest => escaped c :: unescaped rest
  | c :: rest => c :: unescaped rest

/-- Reversed text with what some breaks add to it.  A single break takes away
the blanks before it, and adds nothing where the text ends with the sign of a
line break. -/
def withBreaks
    (breaks : Nat)
    (reversed : List Char) :
    List Char :=
  if breaks = 1 then
    if ['n', '\\'].isPrefixOf (trimmedEnd reversed) then trimmedEnd reversed
    else spacedEnd reversed
  else
    folded breaks ++ reversed

/-- How many breaks the end of a line of quoted text counts for if the text goes
on below.  A backslash takes the break away. -/
def breaksAfter (text : List Char) : Nat :=
  if text.getLast? = some '\\' then 0 else 1

/-- The further lines of quoted text up to the closing quote, after reversed
text and some breaks.  A line that is not empty ends a row of breaks, even if it
holds only blanks. -/
def quotedRest
    (span : List Char → List Char × Option (List Char))
    (reversed : List Char)
    (breaks : Nat) :
    List (List Char) → Option (List Char × Place)
  | [] => none
  | line :: below =>
      if line.isEmpty then
        quotedRest span reversed (breaks + 1) below
      else
        let start := withBreaks breaks reversed
        match span (line.dropWhile isSpace) with
        | (text, some rest) => some (start.reverse ++ text, ⟨rest, below⟩)
        | (text, none) =>
            quotedRest span (text.reverse ++ start) (breaksAfter text) below

/-- Quoted text after its opening quote, and the place after it, if the quote
closes. -/
def quotedText?
    (span : List Char → List Char × Option (List Char))
    (place : Place) :
    Option (List Char × Place) :=
  match span place.line with
  | (text, some rest) => some (text, ⟨rest, place.below⟩)
  | (text, none) => quotedRest span text.reverse (breaksAfter text) place.below

namespace Place

/-- The text in single quotes after its opening quote, and the place after
it. -/
def singleQuoted? (place : Place) : Option (Scalar × Place) :=
  (quotedText? singleSpan place).map fun found =>
    (.text (String.ofList found.1), found.2)

/-- The text in double quotes after its opening quote, and the place after
it. -/
def doubleQuoted? (place : Place) : Option (Scalar × Place) :=
  (quotedText? doubleSpan place).map fun found =>
    (.text (String.ofList (unescaped found.1)), found.2)

end Place

end PrivilegeGraph.Yaml
