import PrivilegeGraph.Text.Split

/-!
# Pieces and joined texts

Cutting a text at every separator and joining parts with the separator are
inverse to one another on parts that do not hold it.  `pieces_eq_iff` states
both directions at once, and every fact about composite ids is read off it.
-/

namespace PrivilegeGraph.Text

/-- No piece of a cut list holds the character at which it was cut. -/
theorem not_mem_of_mem_splitOn
    {separator : Char}
    {characters piece : List Char}
    (member : piece ∈ characters.splitOn separator) :
    separator ∉ piece := by
  induction characters generalizing piece with
  | nil =>
      have empty : piece = [] := by simpa using member
      simp [empty]
  | cons c rest ih =>
      rw [List.splitOn_cons_eq_if_modifyHead] at member
      split at member
      · rcases List.mem_cons.1 member with rfl | later
        · simp
        · exact ih later
      · next different =>
          rcases List.exists_cons_of_ne_nil
              (List.splitOn_ne_nil separator rest) with
            ⟨first, others, whole⟩
          rw [whole] at member ih
          rcases List.mem_cons.1 member with rfl | later
          · have firstFree := ih List.mem_cons_self
            have apart : separator ≠ c := by
              rintro rfl
              simp at different
            simp [apart, firstFree]
          · exact ih (List.mem_cons_of_mem first later)

theorem not_mem_of_mem_pieces
    {separator : Char}
    {text piece : String}
    (member : piece ∈ pieces separator text) :
    separator ∉ piece.toList := by
  rcases List.mem_map.1 member with ⟨characters, cut, rfl⟩
  simpa using not_mem_of_mem_splitOn cut

/-- The pieces of a text are the one list of parts without the separator that
the text is joined from. -/
theorem pieces_eq_iff
    {separator : Char}
    {text : String}
    {parts : List String} :
    pieces separator text = parts ↔
      text = joined separator parts ∧
        parts ≠ [] ∧
        ∀ part ∈ parts, separator ∉ part.toList := by
  constructor
  · rintro rfl
    exact
      ⟨(joined_pieces separator text).symm,
        pieces_ne_nil separator text,
        fun _ => not_mem_of_mem_pieces⟩
  · rintro ⟨rfl, present, free⟩
    exact pieces_joined separator parts free present

@[simp]
theorem joined_singleton
    (separator : Char)
    (part : String) :
    joined separator [part] = part := by
  simp [joined]

@[simp]
theorem joined_cons_cons
    (separator : Char)
    (first second : String)
    (rest : List String) :
    joined separator (first :: second :: rest) =
      first ++ separator.toString ++ joined separator (second :: rest) := by
  apply String.toList_injective
  simp [joined, List.intercalate]

/-- A joined text holds its separator and what its parts hold, and nothing
else. -/
theorem mem_joined
    {separator c : Char}
    {parts : List String}
    (member : c ∈ (joined separator parts).toList) :
    c = separator ∨ ∃ part ∈ parts, c ∈ part.toList := by
  induction parts with
  | nil => simp [joined] at member
  | cons first rest ih =>
      cases rest with
      | nil =>
          rw [joined_singleton] at member
          exact Or.inr ⟨first, List.mem_cons_self, member⟩
      | cons second rest =>
          simp only [joined_cons_cons, String.toList_append,
            List.mem_append] at member
          rcases member with (ofFirst | between) | later
          · exact Or.inr ⟨first, List.mem_cons_self, ofFirst⟩
          · exact Or.inl (by simpa using between)
          · rcases ih later with between | ⟨part, among, holds⟩
            · exact Or.inl between
            · exact Or.inr ⟨part, List.mem_cons_of_mem first among, holds⟩

theorem mem_joined_of_mem
    {separator c : Char}
    {parts : List String}
    {part : String}
    (among : part ∈ parts)
    (holds : c ∈ part.toList) :
    c ∈ (joined separator parts).toList := by
  induction parts with
  | nil => cases among
  | cons first rest ih =>
      cases rest with
      | nil =>
          rcases List.mem_singleton.1 among with rfl
          rwa [joined_singleton]
      | cons second rest =>
          simp only [joined_cons_cons, String.toList_append, List.mem_append]
          rcases List.mem_cons.1 among with rfl | later
          · exact Or.inl (Or.inl holds)
          · exact Or.inr (ih later)

theorem joined_append
    (separator : Char)
    {parts parts' : List String}
    (present : parts ≠ [])
    (present' : parts' ≠ []) :
    joined separator (parts ++ parts') =
      joined separator parts ++ separator.toString ++
        joined separator parts' := by
  induction parts with
  | nil => exact absurd rfl present
  | cons first rest ih =>
      cases rest with
      | nil =>
          rcases List.exists_cons_of_ne_nil present' with ⟨next, others, rfl⟩
          rw [joined_singleton]
          exact joined_cons_cons separator first next others
      | cons second rest =>
          have others := ih (List.cons_ne_nil _ _)
          rw [List.cons_append] at others
          rw [List.cons_append, List.cons_append, joined_cons_cons, others,
            joined_cons_cons]
          simp only [String.append_assoc]

theorem joined_ne_empty
    {separator : Char}
    {parts : List String}
    (present : parts ≠ [])
    (filled : "" ∉ parts) :
    joined separator parts ≠ "" := by
  cases parts with
  | nil => exact absurd rfl present
  | cons first rest =>
      cases rest with
      | nil =>
          rw [joined_singleton]
          rintro rfl
          exact filled List.mem_cons_self
      | cons second rest => simp

/-- The pieces around one separator are those before it and those after it. -/
theorem pieces_append
    (separator : Char)
    (before after : String) :
    pieces separator (before ++ separator.toString ++ after) =
      pieces separator before ++ pieces separator after := by
  have present := pieces_ne_nil separator before
  have present' := pieces_ne_nil separator after
  refine pieces_eq_iff.2 ⟨?_, List.append_ne_nil_of_left_ne_nil present _, ?_⟩
  · rw [joined_append separator present present', joined_pieces, joined_pieces]
  · intro part among
    rcases List.mem_append.1 among with first | second
    · exact not_mem_of_mem_pieces first
    · exact not_mem_of_mem_pieces second

theorem pieces_singleton
    {separator : Char}
    {part : String}
    (free : separator ∉ part.toList) :
    pieces separator part = [part] := by
  refine pieces_eq_iff.2 ⟨?_, List.cons_ne_nil _ _, ?_⟩
  · simp
  · simp [free]

theorem pieces_pair
    {separator : Char}
    {first second : String}
    (free : separator ∉ first.toList)
    (free' : separator ∉ second.toList) :
    pieces separator (first ++ separator.toString ++ second) =
      [first, second] := by
  rw [pieces_append, pieces_singleton free, pieces_singleton free']
  rfl

/-- The first separator of a text is at one place only. -/
theorem append_separator_inj
    {separator : Char}
    {before after before' after' : String}
    (free : separator ∉ before.toList)
    (free' : separator ∉ before'.toList)
    (same :
      before ++ separator.toString ++ after =
        before' ++ separator.toString ++ after') :
    before = before' ∧ after = after' := by
  have first := cutFirst?_eq_some_iff.2 ⟨same, free'⟩
  rw [cutFirst?_eq_some_iff.2 ⟨rfl, free⟩] at first
  simpa using first

/-- A joined text holds the separators of its parts and one between each two
of them. -/
theorem count_joined
    (separator : Char)
    {parts : List String}
    (present : parts ≠ []) :
    (joined separator parts).toList.count separator + 1 =
      (parts.flatMap String.toList).count separator + parts.length := by
  induction parts with
  | nil => exact absurd rfl present
  | cons first rest ih =>
      cases rest with
      | nil => simp
      | cons second rest =>
          have others := ih (List.cons_ne_nil _ _)
          simp only [joined_cons_cons, String.toList_append, List.count_append,
            List.flatMap_cons, List.length_cons] at others ⊢
          have between : separator.toString.toList.count separator = 1 := by
            simp
          omega

/-- Parts without the separator are told apart from any other parts that are
as many. -/
theorem eq_of_joined_eq
    {separator : Char}
    {parts free : List String}
    (present : free ≠ [])
    (many : parts.length = free.length)
    (apart : ∀ part ∈ free, separator ∉ part.toList)
    (same : joined separator parts = joined separator free) :
    parts = free := by
  have partsPresent : parts ≠ [] := by
    rintro rfl
    exact present (List.length_eq_zero_iff.1 many.symm)
  have none : (free.flatMap String.toList).count separator = 0 := by
    simpa [List.count_eq_zero] using apart
  have few : (parts.flatMap String.toList).count separator = 0 := by
    have counted := count_joined separator partsPresent
    rw [same, count_joined separator present] at counted
    omega
  have partsApart : ∀ part ∈ parts, separator ∉ part.toList := by
    simpa [List.count_eq_zero] using few
  rw [← pieces_joined separator parts partsApart partsPresent, same,
    pieces_joined separator free apart present]

/-! ## Exchanged characters -/

theorem mem_exchanged
    {old new c : Char}
    {text : String}
    (member : c ∈ (exchanged old new text).toList) :
    c = new ∨ c ≠ old ∧ c ∈ text.toList := by
  rw [exchanged, String.toList_ofList, List.mem_map] at member
  rcases member with ⟨d, among, rfl⟩
  split
  · exact Or.inl rfl
  · next other => exact Or.inr ⟨other, among⟩

theorem exchanged_ne_empty
    {old new : Char}
    {text : String}
    (present : text ≠ "") :
    exchanged old new text ≠ "" := by
  simpa [exchanged] using present

theorem exchanged_of_not_mem
    {old new : Char}
    {text : String}
    (free : old ∉ text.toList) :
    exchanged old new text = text := by
  have same :
      text.toList.map (fun c => if c = old then new else c) =
        text.toList.map id := by
    apply List.map_congr_left
    intro c member
    apply if_neg
    rintro rfl
    exact free member
  rw [exchanged, same, List.map_id, String.ofList_toList]

end PrivilegeGraph.Text
