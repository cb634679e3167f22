import PrivilegeGraph.Yaml.Folding
import PrivilegeGraph.Yaml.Place

/-!
# Plain text

Plain text has no quotes around it.  It goes on up to a colon that ends a key, a
space that a comment follows, or the end of its line, and then over further
lines as long as these are indented far enough.  The first line is read as it
stands.  On a further line, several blanks in a row that end with a space count
as one.
-/

namespace PrivilegeGraph.Yaml

/-- Whether plain text ends before the first of some characters: at a colon that
ends a key, or at a space that a comment follows.  The end of the last line ends
no key. -/
def endsPlain (isLast : Bool) : List Char → Bool
  | ':' :: [] => !isLast
  | ':' :: c :: _ => c == ' '
  | ' ' :: c :: _ => c == '#'
  | _ => false

/-- Divide a line where plain text ends. -/
def plainSpan (isLast : Bool) : List Char → List Char × List Char
  | [] => ([], [])
  | c :: rest =>
      if endsPlain isLast (c :: rest) then ([], c :: rest)
      else (c :: (plainSpan isLast rest).1, (plainSpan isLast rest).2)

/-- Reversed text with a character of a further line added.  A space takes the
place of the blanks before it. -/
def withFurther
    (reversed : List Char)
    (c : Char) :
    List Char :=
  if c = ' ' then spacedEnd reversed else c :: reversed

namespace Place

/-- The plain text up to its end on the line. -/
def plainLine (place : Place) : List Char × Place :=
  let span := plainSpan place.below.isEmpty place.line
  (span.1, ⟨span.2, place.below⟩)

/-- Read the further lines of plain text, which come to a column, as long as the
text goes on up to the end of the line before.  The text so far is given and
returned reversed. -/
def plainRest
    (column : Nat)
    (reversed : List Char)
    (place : Place) :
    List Char × Place :=
  if place.line.isEmpty then
    match _passed : place.gap? with
    | none => (reversed, place)
    | some (breaks, next) =>
        match indented? column next.line with
        | none => (reversed, place)
        | some content =>
            let line := Place.plainLine ⟨content, next.below⟩
            plainRest column
              (line.1.foldl withFurther (folded breaks ++ reversed))
              ⟨line.2.line, next.below⟩
  else
    (reversed, place)
termination_by place.below.length
decreasing_by exact length_below_lt_of_gap? _passed

/-- The plain text of a key or value in a column, and the place after it, unless
there are only blanks.  Its further lines are indented by two more than the
column; blanks at its end do not count. -/
def plainText?
    (column : Nat)
    (place : Place) :
    Option (List Char × Place) :=
  let line := place.plainLine
  let rest := plainRest (column + 2) line.1.reverse line.2
  let text := (trimmedEnd rest.1).reverse
  if text.isEmpty then none else some (text, rest.2)

end Place

end PrivilegeGraph.Yaml
