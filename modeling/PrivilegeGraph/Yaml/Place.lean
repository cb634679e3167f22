/-!
# Places in a document

A document is read line by line and, within a line, from left to right.  A place
is what is still to be read.  This module holds the moves that skip what carries
no content: the break between two lines with the empty lines and comments around
it, the blanks after a colon, and the indentation of a line.
-/

namespace PrivilegeGraph.Yaml

/-- What is still to be read: the rest of a line, and the lines below it. -/
structure Place where
  line : List Char
  below : List (List Char)

/-- The lines of a text, of which there is at least one. -/
def linesOf : List Char → List (List Char)
  | [] => [[]]
  | '\r' :: '\n' :: rest => [] :: linesOf rest
  | c :: rest =>
      if c = '\n' || c = '\r' then
        [] :: linesOf rest
      else
        match linesOf rest with
        | [] => [[c]]
        | line :: lines => (c :: line) :: lines

/-- Whether a character may stand between the parts of a line. -/
def isSpace (c : Char) : Bool :=
  c == ' ' || c == '\t' || c == '\x0c'

/-- Whether a character is a mark of the notation, which needs no space before
it. -/
def isMark (c : Char) : Bool :=
  [',', ':', '[', ']', '{', '}'].contains c

/-- How far a line is indented. -/
def indentOf (line : List Char) : Nat :=
  (line.takeWhile isSpace).length

/-- A line from behind the spaces that bring it to a column, if it has so
many. -/
def indented? : (column : Nat) → (line : List Char) → Option (List Char)
  | 0, line => some line
  | column + 1, ' ' :: rest => indented? column rest
  | _ + 1, _ => none

/-- Whether nothing but a comment stands on a line. -/
def isComment (line : List Char) : Bool :=
  (line.dropWhile isSpace).head? == some '#'

/-- Whether a line is empty or nothing but a comment stands on it. -/
def isHollow (line : List Char) : Bool :=
  line.isEmpty || isComment line

/-- Whether a line begins a document. -/
def isMarker (line : List Char) : Bool :=
  ['-', '-', '-'].isPrefixOf line

namespace Place

/-- The start of a text. -/
def ofText (text : String) : Place :=
  match linesOf text.toList with
  | [] => ⟨[], []⟩
  | line :: lines => ⟨line, lines⟩

/-- Whether nothing is left. -/
def isEnd (place : Place) : Bool :=
  place.line.isEmpty && place.below.isEmpty

/-- Whether nothing but a comment is left. -/
def isSpent (place : Place) : Bool :=
  isHollow place.line && place.below.isEmpty

/-- Go down line by line while a line is hollow and another line follows.  The
number of breaks passed is added to `breaks`. -/
def descend
    (breaks : Nat)
    (line : List Char) :
    List (List Char) → Nat × Place
  | [] => (breaks, ⟨line, []⟩)
  | next :: rest =>
      if isHollow line then descend (breaks + 1) next rest
      else (breaks, ⟨line, next :: rest⟩)

/-- Pass the breaks between a line that is read up to its end and the next line
that is not hollow.  The last line is not passed, whatever it holds. -/
def gap? (place : Place) : Option (Nat × Place) :=
  match place.below with
  | [] => none
  | next :: rest =>
      if isHollow place.line then some (descend 1 next rest) else none

/-- The place after a gap, if there is one. -/
def afterGap (place : Place) : Place :=
  match place.gap? with
  | some (_, next) => next
  | none => place

/-- The place after spaces. -/
def afterSpaces (place : Place) : Place :=
  ⟨place.line.dropWhile (· == ' '), place.below⟩

/-- Pass blanks and breaks alike.  The number of characters passed is added to
`column`. -/
def settle
    (column : Nat)
    (line : List Char) :
    List (List Char) → Nat × Place
  | [] => (column + indentOf line, ⟨line.dropWhile isSpace, []⟩)
  | next :: rest =>
      if (line.dropWhile isSpace).isEmpty then
        settle (column + line.length + 1) next rest
      else
        (column + indentOf line, ⟨line.dropWhile isSpace, next :: rest⟩)

/-- Pass what ends a colon or a dash: blanks of which the first is a space, the
end of a line that is not the last, or nothing if a mark follows. -/
def bound? (place : Place) : Option Place :=
  match place.line with
  | [] => if place.below.isEmpty then none else some place
  | c :: rest =>
      if c = ' ' then some ⟨rest.dropWhile isSpace, place.below⟩
      else if isMark c then some place
      else none

/-- Pass a colon that ends a key. -/
def colon? (place : Place) : Option Place :=
  match place.line with
  | ':' :: rest => bound? ⟨rest, place.below⟩
  | _ => none

/-- Pass a dash that begins an item. -/
def dash? (place : Place) : Option Place :=
  match place.line with
  | '-' :: rest => bound? ⟨rest, place.below⟩
  | _ => none

theorem length_below_descend
    (breaks : Nat)
    (line : List Char)
    (below : List (List Char)) :
    (descend breaks line below).2.below.length ≤ below.length := by
  induction below generalizing breaks line with
  | nil => simp [descend]
  | cons next rest ih =>
    by_cases hollow : isHollow line
    · simp only [descend, hollow, if_true, List.length_cons]
      exact Nat.le_succ_of_le (ih (breaks + 1) next)
    · simp [descend, hollow]

/-- Passing a gap leaves a line behind. -/
theorem length_below_lt_of_gap?
    {place next : Place}
    {breaks : Nat}
    (passed : place.gap? = some (breaks, next)) :
    next.below.length < place.below.length := by
  unfold gap? at passed
  split at passed
  · simp at passed
  · next line rest lines =>
    split at passed
    · simp only [Option.some.injEq] at passed
      have shorter := length_below_descend 1 line rest
      rw [passed] at shorter
      rw [lines, List.length_cons]
      exact Nat.lt_succ_of_le shorter
    · simp at passed

end Place

end PrivilegeGraph.Yaml
