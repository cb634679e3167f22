import PrivilegeGraph.Text.CaseContext
import PrivilegeGraph.Text.CaseMapping
import PrivilegeGraph.Text.Ranges

/-!
# Upper and lower case

Full case mapping of a text.  One character may become several, and the lower
case of a Greek capital sigma depends on its surroundings: at the end of a word
it is the final sigma.
-/

namespace PrivilegeGraph.Text

/-- The image of a character on the first run that holds it, or the character
itself. -/
def runImage
    (runs : List CaseRun)
    (c : Char) :
    Char :=
  match runs.findSome? (·.map? c.toNat) with
  | some code => Char.ofNat code
  | none => c

/-- The lower case of a character outside any word. -/
def lowerOf (c : Char) : List Char :=
  if c.toNat < 0x80 then [c.toLower]
  else if c = 'İ' then ['i', Char.ofNat 0x307]
  else [runImage lowerRuns c]

/-- The upper case of a character. -/
def upperOf (c : Char) : List Char :=
  if c.toNat < 0x80 then [c.toUpper]
  else
    match upperSequences.lookup c.toNat with
    | some codes => codes.map Char.ofNat
    | none => [runImage upperRuns c]

/-- Whether the first character that is not case ignorable is cased. -/
def meetsCased (characters : List Char) : Bool :=
  match characters.dropWhile (inRanges caseIgnorableRanges) with
  | [] => false
  | c :: _ => inRanges casedRanges c

/-- The lower case of a sigma between the characters before it, nearest first,
and those after it: final when a letter precedes and none follows. -/
def lowerSigma (before after : List Char) : Char :=
  if meetsCased before && !meetsCased after then 'ς' else 'σ'

/-- Lower case of the characters that follow `before`, which is held nearest
first. -/
def lowerAfter (before : List Char) : List Char → List Char
  | [] => []
  | c :: rest =>
      (if c = 'Σ' then [lowerSigma before rest] else lowerOf c) ++
        lowerAfter (c :: before) rest

/-- A text in lower case. -/
def lowered (text : String) : String :=
  String.ofList (lowerAfter [] text.toList)

/-- A text in upper case. -/
def uppered (text : String) : String :=
  String.ofList (text.toList.flatMap upperOf)

/-- ASCII letters are mapped by the core library's rule. -/
theorem lowerOf_ascii
    {c : Char}
    (ascii : c.toNat < 0x80) :
    lowerOf c = [c.toLower] := by
  simp [lowerOf, ascii]

theorem upperOf_ascii
    {c : Char}
    (ascii : c.toNat < 0x80) :
    upperOf c = [c.toUpper] := by
  simp [upperOf, ascii]

/-- An ASCII text is lowered letter by letter, wherever it stands. -/
theorem lowerAfter_ascii
    {characters : List Char}
    (before : List Char)
    (ascii : ∀ c ∈ characters, c.toNat < 0x80) :
    lowerAfter before characters = characters.map Char.toLower := by
  induction characters generalizing before with
  | nil => rfl
  | cons c rest ih =>
    have small : c.toNat < 0x80 := ascii c (by simp)
    have notSigma : c ≠ 'Σ' := by
      rintro rfl
      exact absurd small (by decide)
    rw [lowerAfter, if_neg notSigma, lowerOf_ascii small,
      ih (c :: before) fun d member => ascii d (by simp [member])]
    rfl

end PrivilegeGraph.Text
