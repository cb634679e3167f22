import PrivilegeGraph.Text.Ranges
import PrivilegeGraph.Text.Split

/-!
# Blank characters and comma lists

A character is blank when it has the Unicode property White_Space.  Trimming
removes blanks at both ends, and a comma list is read as its trimmed pieces
without the empty ones.
-/

namespace PrivilegeGraph.Text

/-- The code points with the property White_Space, as closed ranges in rising
order. -/
def blankRanges : List (Nat × Nat) :=
  [(0x09, 0x0d), (0x20, 0x20), (0x85, 0x85), (0xa0, 0xa0), (0x1680, 0x1680),
    (0x2000, 0x200a), (0x2028, 0x2029), (0x202f, 0x202f), (0x205f, 0x205f),
    (0x3000, 0x3000)]

/-- Whether a character has the property White_Space. -/
def isBlank (c : Char) : Bool :=
  inRanges blankRanges c

/-- A list of characters without the blanks at both ends. -/
def trimmedChars (characters : List Char) : List Char :=
  ((characters.dropWhile isBlank).reverse.dropWhile isBlank).reverse

/-- A text without the blanks at both ends. -/
def trimmed (text : String) : String :=
  String.ofList (trimmedChars text.toList)

/-- The entries of a comma list: its pieces, trimmed, without those left
empty. -/
def entries (text : String) : List String :=
  ((pieces ',' text).map trimmed).filter (· != "")

/-- Trimming takes blanks away, and only at the two ends. -/
theorem exists_blanks_around_trimmedChars (characters : List Char) :
    ∃ before after,
      (∀ c ∈ before, isBlank c = true) ∧ (∀ c ∈ after, isBlank c = true) ∧
        characters = before ++ trimmedChars characters ++ after := by
  let rest := characters.dropWhile isBlank
  let after := (rest.reverse.takeWhile isBlank).reverse
  refine ⟨characters.takeWhile isBlank, after, ?_, ?_, ?_⟩
  · intro c member
    exact List.all_eq_true.1 List.all_takeWhile c member
  · intro c member
    exact List.all_eq_true.1 List.all_takeWhile c (List.mem_reverse.1 member)
  · have ending : rest = trimmedChars characters ++ after := by
      unfold trimmedChars
      rw [← List.reverse_append, List.takeWhile_append_dropWhile,
        List.reverse_reverse]
    rw [List.append_assoc, ← ending, List.takeWhile_append_dropWhile]

/-- Trimming leaves a text alone that neither begins nor ends with a blank. -/
theorem trimmedChars_eq_self
    {characters : List Char}
    (first : ∀ c, characters.head? = some c → isBlank c = false)
    (last : ∀ c, characters.getLast? = some c → isBlank c = false) :
    trimmedChars characters = characters := by
  have keep : ∀ l : List Char, (∀ c, l.head? = some c → isBlank c = false) →
      l.dropWhile isBlank = l := by
    intro l head
    cases l with
    | nil => rfl
    | cons c rest => simp [head c rfl]
  unfold trimmedChars
  rw [keep characters first, keep characters.reverse (by simpa using last)]
  simp

/-- No entry of a comma list is empty. -/
theorem ne_empty_of_mem_entries
    {text entry : String}
    (member : entry ∈ entries text) :
    entry ≠ "" := by
  simp only [entries, List.mem_filter, bne_iff_ne] at member
  exact member.2

end PrivilegeGraph.Text
