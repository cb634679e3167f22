import PrivilegeGraph.Text.Blank

/-!
# Breaks between lines

Text may run on over the lines below.  A single break then stands for a space,
and of several breaks in a row the first is dropped.  Text that is still to be
added to is held reversed.
-/

namespace PrivilegeGraph.Yaml

/-- What some breaks in a row stand for.  It is its own reverse. -/
def folded : (breaks : Nat) → List Char
  | 0 => []
  | 1 => [' ']
  | breaks + 2 => List.replicate (breaks + 1) '\n'

/-- Reversed text without the blanks at its end. -/
def trimmedEnd (reversed : List Char) : List Char :=
  reversed.dropWhile Text.isBlank

/-- Reversed text with a space in place of the blanks at its end. -/
def spacedEnd (reversed : List Char) : List Char :=
  ' ' :: trimmedEnd reversed

end PrivilegeGraph.Yaml
