import PrivilegeGraph.Yaml.Entries
import PrivilegeGraph.Yaml.Number
import PrivilegeGraph.Yaml.Plain
import PrivilegeGraph.Yaml.Quoted

/-!
# Configuration documents

Configuration files are written in a small part of YAML: block mappings and
sequences, plain and quoted scalars, comments, the empty mapping and several
documents in one file.

A mapping stands at a column.  Each of its further lines is indented by at least
that many spaces, and what is indented beyond the column belongs to the key.  A
key whose line ends after its colon has what stands on the lines below as its
value, if those are indented no less than the key, and otherwise nothing.

This reader stands for the YAML library that a program brings along.  It is
there to be run on files: no result of this library rests on it, or on a
document being read one way or another.
-/

namespace PrivilegeGraph.Yaml

/-- What stands within a line: a scalar or the empty mapping. -/
inductive Flat
  | scalar (value : Scalar)
  | empty
  deriving DecidableEq, Repr

/-- A node of a document.  The entries of a mapping have different keys. -/
inductive Node
  | flat (value : Flat)
  | sequence (items : List Node)
  | mapping (entries : List (Flat × Node))

/-- Whether characters may begin a name. -/
def beginsName (characters : List Char) : Bool :=
  characters.head?.any fun c => c.isAlphanum || c == '-' || c == '_'

/-- Whether a value begins with a mark that stands for more than itself: a
bracket, the mark of a name, or the mark of a text block that ends the line. -/
def beginsMarked : List Char → Bool
  | '[' :: _ | ']' :: _ | '{' :: _ | '}' :: _ => true
  | '&' :: rest | '*' :: rest | '!' :: rest => beginsName rest
  | '|' :: rest | '>' :: rest =>
      (rest.dropWhile fun c => c == '-' || c == '+').isEmpty
  | _ => false

/-- Plain text in a column, and the place after it.  Where there is none, there
is nothing. -/
def plainAt
    (column : Nat)
    (place : Place) :
    Scalar × Place :=
  match place.plainText? column with
  | some (text, after) => (.ofPlain text, after)
  | none => (.null, place)

/-- A scalar in a column, and the place after it. -/
def scalarAt?
    (column : Nat)
    (place : Place) :
    Option (Scalar × Place) :=
  match leadingNumber? place.below.isEmpty place.line, place.line with
  | some (number, after), _ => some (number, ⟨after, place.below⟩)
  | none, '\'' :: rest => Place.singleQuoted? ⟨rest, place.below⟩
  | none, '"' :: rest => Place.doubleQuoted? ⟨rest, place.below⟩
  | none, line =>
      if beginsMarked line then none else some (plainAt column place)

/-- The empty mapping or a scalar in a column, and the place after it. -/
def flatAt?
    (column : Nat)
    (place : Place) :
    Option (Flat × Place) :=
  match place.line with
  | '{' :: rest =>
      match rest.dropWhile isSpace with
      | '}' :: after => some (.empty, ⟨after, place.below⟩)
      | _ => none
  | _ => (scalarAt? column place).map fun found => (.scalar found.1, found.2)

/-- A key in a column with its colon, and the place after it. -/
def keyAt?
    (column : Nat)
    (place : Place) :
    Option (Flat × Place) := do
  let (key, after) ← flatAt? column place
  return (key, ← after.colon?)

/-- The next line of a mapping or sequence at a column, unless it ends. -/
def nextAt?
    (column : Nat)
    (place : Place) :
    Option Place := do
  let (_, next) ← place.gap?
  if next.isEnd || isMarker next.line then none
  else return ⟨← indented? column next.line, next.below⟩

/-- The start of what stands below a key or dash at a column, with the column of
its own. -/
def nestedAt?
    (column : Nat)
    (place : Place) :
    Option (Nat × Place) := do
  let (_, next) ← place.gap?
  return Place.settle column (← indented? column next.line) next.below

/-- The value on the line of a key at a column.  Where only a comment is left of
the text, there is nothing. -/
def besideAt?
    (column : Nat)
    (place : Place) :
    Option (Flat × Place) :=
  if place.isSpent then some (.scalar .null, ⟨[], []⟩) else flatAt? column place

mutual

/-- The entries of the mapping at a column, from the place of a key on. -/
def entriesAt? : (fuel : Nat) → (column : Nat) → Place →
    Option (List (Flat × Node) × Place)
  | 0, _, _ => none
  | fuel + 1, column, place => do
      let (key, start) ← keyAt? column place
      let (value, after) ← valueAt? fuel column start
      match nextAt? column after with
      | none => return ([(key, value)], after)
      | some next =>
          let (rest, after) ← entriesAt? fuel column next
          return ((key, value) :: rest, after)

/-- The items of the sequence at a column, from the place of a dash on. -/
def itemsAt? :
    (fuel : Nat) → (column : Nat) → Place → Option (List Node × Place)
  | 0, _, _ => none
  | fuel + 1, column, place => do
      let start ← place.dash?
      let beside := (column + place.line.length - start.line.length, start)
      let (inner, begun) := (nestedAt? column start).getD beside
      let (item, after) ← blockAt? fuel inner begun
      match nextAt? column after with
      | none => return ([item], after)
      | some next =>
          if next.dash?.isSome then
            let (rest, after) ← itemsAt? fuel column next
            return (item :: rest, after)
          else
            return ([item], after)

/-- The node that begins at a place in a column. -/
def blockAt? : (fuel : Nat) → (column : Nat) → Place → Option (Node × Place)
  | 0, _, _ => none
  | fuel + 1, column, place =>
      if place.dash?.isSome then
        (itemsAt? fuel column place).map fun found =>
          (.sequence found.1, found.2)
      else if (keyAt? column place).isSome then
        (entriesAt? fuel column place).map fun found =>
          (.mapping (latest found.1), found.2)
      else
        (flatAt? column place).map fun found => (.flat found.1, found.2)

/-- The value of a key at a column, from the place after its colon on. -/
def valueAt? : (fuel : Nat) → (column : Nat) → Place → Option (Node × Place)
  | 0, _, _ => none
  | fuel + 1, column, place =>
      match nestedAt? column place with
      | some (inner, start) => blockAt? fuel inner start
      | none =>
          (besideAt? column place).map fun found => (.flat found.1, found.2)

end

/-- The place behind the marker of a document. -/
def afterMarker? (place : Place) : Option Place :=
  if isMarker place.line then some ⟨place.line.drop 3, place.below⟩ else none

/-- The documents from a place behind a marker on.  Each further one has a
marker. -/
def documentsAt? (size : Nat) : (fuel : Nat) → Place → Option (List Node)
  | 0, _ => none
  | fuel + 1, place => do
      let (node, after) ← blockAt? size 0 place.afterSpaces.afterGap
      if after.afterGap.isSpent then
        return [node]
      else
        let start ← afterMarker? after.afterGap
        let rest ← documentsAt? size fuel start
        return node :: rest

/-- The documents of a text, if all of them can be read.  The first needs no
marker.  Of any four steps of reading in a row one takes a character, so four
times the length of the text bounds the steps. -/
def documents? (text : String) : Option (List Node) :=
  let start := Place.ofText text
  let size := 4 * text.length + 8
  documentsAt? size size ((afterMarker? start.afterGap).getD start)

namespace Flat

/-- The text of a scalar, whatever it was written as. -/
def asText? : Flat → Option String
  | .scalar value => some value.asText
  | .empty => none

/-- The text of a scalar that was written as text. -/
def text? : Flat → Option String
  | .scalar value => value.text?
  | .empty => none

end Flat

namespace Node

/-- What stands within a line, if the node does. -/
def flat? : Node → Option Flat
  | .flat value => some value
  | _ => none

/-- The text of a scalar, whatever it was written as. -/
def asText? (node : Node) : Option String :=
  node.flat?.bind Flat.asText?

/-- The text of a scalar that was written as text. -/
def text? (node : Node) : Option String :=
  node.flat?.bind Flat.text?

/-- The entries of a mapping. -/
def entries? : Node → Option (List (Flat × Node))
  | .mapping entries => some entries
  | .flat .empty => some []
  | _ => none

end Node

end PrivilegeGraph.Yaml
