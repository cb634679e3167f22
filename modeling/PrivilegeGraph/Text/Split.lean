/-!
# Cutting text

Ids, host lists and configured lists are flat text with one-character
separators.  This module cuts such text and states, next to each cut, that
joining the parts again with the separator gives the text back.
-/

namespace PrivilegeGraph.Text

/-- The pieces of a text between the occurrences of a separator.  A text without
the separator is its own single piece, so there is always at least one piece. -/
def pieces
    (separator : Char)
    (text : String) :
    List String :=
  (text.toList.splitOn separator).map String.ofList

/-- Join pieces with a one-character separator. -/
def joined
    (separator : Char)
    (parts : List String) :
    String :=
  String.ofList ([separator].intercalate (parts.map String.toList))

/-- Cut a text at the first occurrence of a separator, which belongs to neither
part. -/
def cutFirst?
    (separator : Char)
    (text : String) :
    Option (String × String) :=
  match text.toList.dropWhile (· != separator) with
  | [] => none
  | _ :: after =>
      some
        (String.ofList (text.toList.takeWhile (· != separator)),
          String.ofList after)

/-- Cut a text at the last occurrence of a separator, which belongs to neither
part. -/
def cutLast?
    (separator : Char)
    (text : String) :
    Option (String × String) :=
  match text.toList.reverse.dropWhile (· != separator) with
  | [] => none
  | _ :: before =>
      some
        (String.ofList before.reverse,
          String.ofList
            (text.toList.reverse.takeWhile (· != separator)).reverse)

/-- Exchange every occurrence of one character for another. -/
def exchanged
    (old new : Char)
    (text : String) :
    String :=
  String.ofList (text.toList.map fun c => if c = old then new else c)

theorem pieces_ne_nil
    (separator : Char)
    (text : String) :
    pieces separator text ≠ [] := by
  simp [pieces, List.splitOn_ne_nil]

/-- Joining the pieces with their separator restores the text. -/
theorem joined_pieces
    (separator : Char)
    (text : String) :
    joined separator (pieces separator text) = text := by
  have restored : (String.toList ∘ String.ofList) = id := by
    funext characters
    simp
  simp [joined, pieces, restored, List.intercalate_splitOn]

/-- Parts that do not hold the separator are the pieces of their joined text. -/
theorem pieces_joined
    (separator : Char)
    (parts : List String)
    (free : ∀ part ∈ parts, separator ∉ part.toList)
    (nonempty : parts ≠ []) :
    pieces separator (joined separator parts) = parts := by
  have restored : (String.ofList ∘ String.toList) = id := by
    funext text
    simp
  have split :
      List.splitOn separator
          ([separator].intercalate (parts.map String.toList)) =
        parts.map String.toList :=
    List.splitOn_intercalate separator
      (by simpa using free)
      (by simpa using nonempty)
  simp [joined, pieces, split, restored]

/-- What a search for a character passes over does not hold it, and what it
stops at begins with it. -/
theorem dropWhile_ne_eq_cons
    {separator head : Char}
    {characters rest : List Char}
    (dropped : characters.dropWhile (· != separator) = head :: rest) :
    head = separator ∧
      characters =
        characters.takeWhile (· != separator) ++ separator :: rest := by
  have headEq : head = separator := by
    have := List.head_dropWhile_not (p := (· != separator)) (l := characters)
      (by simp [dropped])
    simpa [dropped] using this
  refine ⟨headEq, ?_⟩
  have whole :=
    List.takeWhile_append_dropWhile (p := (· != separator)) (l := characters)
  rw [dropped, headEq] at whole
  exact whole.symm

theorem not_mem_takeWhile_ne
    (separator : Char)
    (characters : List Char) :
    separator ∉ characters.takeWhile (· != separator) := by
  induction characters with
  | nil => simp
  | cons c rest ih =>
    by_cases same : c = separator
    · simp [same]
    · have different : separator ≠ c := fun equal => same equal.symm
      simp [same, different, ih]

/-- A search for a character stops at its first occurrence. -/
theorem takeWhile_dropWhile_ne
    {separator : Char}
    {before : List Char}
    (free : separator ∉ before)
    (after : List Char) :
    (before ++ separator :: after).takeWhile (· != separator) = before ∧
      (before ++ separator :: after).dropWhile (· != separator) =
        separator :: after := by
  have keep : ∀ c ∈ before, (c != separator) = true := by
    intro c member
    simp only [bne_iff_ne, ne_eq]
    rintro rfl
    exact free member
  constructor
  · rw [List.takeWhile_append_of_pos keep]
    simp
  · rw [List.dropWhile_append_of_pos keep]
    simp

/-- A text is cut into the part before its first separator and the part after
it. -/
theorem cutFirst?_eq_some_iff
    {separator : Char}
    {text before after : String} :
    cutFirst? separator text = some (before, after) ↔
      text = before ++ separator.toString ++ after ∧
        separator ∉ before.toList := by
  constructor
  · intro cut
    unfold cutFirst? at cut
    split at cut
    · simp at cut
    · next dropped =>
      simp only [Option.some.injEq, Prod.mk.injEq] at cut
      obtain ⟨rfl, rfl⟩ := cut
      refine ⟨String.toList_injective ?_, ?_⟩
      · simpa using (dropWhile_ne_eq_cons dropped).2
      · simpa using not_mem_takeWhile_ne separator text.toList
  · rintro ⟨rfl, free⟩
    have found := takeWhile_dropWhile_ne free after.toList
    unfold cutFirst?
    simp [found.1, found.2]

/-- A text is cut into the part before its last separator and the part after
it. -/
theorem cutLast?_eq_some_iff
    {separator : Char}
    {text before after : String} :
    cutLast? separator text = some (before, after) ↔
      text = before ++ separator.toString ++ after ∧
        separator ∉ after.toList := by
  constructor
  · intro cut
    unfold cutLast? at cut
    split at cut
    · simp at cut
    · next dropped =>
      simp only [Option.some.injEq, Prod.mk.injEq] at cut
      obtain ⟨rfl, rfl⟩ := cut
      refine ⟨String.toList_injective ?_, ?_⟩
      · have whole := congrArg List.reverse (dropWhile_ne_eq_cons dropped).2
        simpa using whole
      · simpa using not_mem_takeWhile_ne separator text.toList.reverse
  · rintro ⟨rfl, free⟩
    have freeReversed : separator ∉ after.toList.reverse := by simpa using free
    have found := takeWhile_dropWhile_ne freeReversed before.toList.reverse
    unfold cutLast?
    simp [found.1, found.2]

end PrivilegeGraph.Text
