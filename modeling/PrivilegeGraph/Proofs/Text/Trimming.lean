import PrivilegeGraph.Proofs.Text.Pieces
import PrivilegeGraph.Text.Blank

/-!
# Trimmed texts and comma lists

What trimming leaves of a text is the one part of it that has nothing but
blanks around it and no blank at its ends.  The entries of a comma list are
what trimming leaves of its pieces, unless that is nothing.
-/

namespace PrivilegeGraph.Text

/-- Whether characters neither begin nor end with a blank. -/
structure Unpadded (core : List Char) : Prop where
  first : ∀ c ∈ core.head?, isBlank c = false
  last : ∀ c ∈ core.getLast?, isBlank c = false

/-- Whether a text is a core without blanks at its ends and nothing but blanks
around it. -/
def TrimsTo (text core : String) : Prop :=
  Unpadded core.toList ∧
    ∃ before after,
      (∀ c ∈ before, isBlank c = true) ∧ (∀ c ∈ after, isBlank c = true) ∧
        text.toList = before ++ core.toList ++ after

/-- Blanks before characters that do not begin with one are taken away. -/
theorem dropWhile_isBlank_append
    {before rest : List Char}
    (blank : ∀ c ∈ before, isBlank c = true)
    (first : ∀ c ∈ rest.head?, isBlank c = false) :
    (before ++ rest).dropWhile isBlank = rest := by
  rw [List.dropWhile_append_of_pos blank]
  cases rest with
  | nil => rfl
  | cons c rest => simp [first c rfl]

theorem trimmedChars_around
    {before core after : List Char}
    (unpadded : Unpadded core)
    (blankBefore : ∀ c ∈ before, isBlank c = true)
    (blankAfter : ∀ c ∈ after, isBlank c = true) :
    trimmedChars (before ++ core ++ after) = core := by
  have lastOfCore : ∀ c ∈ core.reverse.head?, isBlank c = false := by
    simpa using unpadded.last
  have blankReversed : ∀ c ∈ after.reverse, isBlank c = true := by
    simpa using blankAfter
  cases core with
  | nil =>
      have blank : ∀ c ∈ before ++ after, isBlank c = true := by
        simpa [or_imp, forall_and] using ⟨blankBefore, blankAfter⟩
      have none : (before ++ after ++ []).dropWhile isBlank = [] :=
        dropWhile_isBlank_append blank (by simp)
      rw [List.append_nil] at none
      simp [trimmedChars, none]
  | cons c core =>
      have front :
          (before ++ (c :: core) ++ after).dropWhile isBlank =
            (c :: core) ++ after := by
        rw [List.append_assoc]
        exact dropWhile_isBlank_append blankBefore unpadded.first
      have back :=
        dropWhile_isBlank_append blankReversed lastOfCore
      rw [trimmedChars, front, List.reverse_append, back,
        List.reverse_reverse]

theorem isBlank_head_dropWhile (characters : List Char) :
    ∀ c ∈ (characters.dropWhile isBlank).head?, isBlank c = false := by
  intro c first
  have stops := List.head?_dropWhile_not isBlank characters
  rw [Option.mem_def.1 first] at stops
  exact stops

theorem unpadded_trimmedChars (characters : List Char) :
    Unpadded (trimmedChars characters) where
  first := by
    intro c first
    let rest := characters.dropWhile isBlank
    have shorter : trimmedChars characters <+: rest := by
      have suffix := List.dropWhile_suffix (l := rest.reverse) isBlank
      simpa [trimmedChars, rest] using List.reverse_prefix.2 suffix
    rcases shorter with ⟨after, whole⟩
    rcases List.head?_eq_some_iff.1 first with ⟨more, core⟩
    apply isBlank_head_dropWhile characters c
    show c ∈ rest.head?
    rw [← whole, core]
    rfl
  last := by
    intro c last
    rw [trimmedChars, List.getLast?_reverse] at last
    exact isBlank_head_dropWhile _ c last

/-- Trimming leaves the one core that a text has. -/
theorem trimmed_eq_iff {text core : String} :
    trimmed text = core ↔ TrimsTo text core := by
  constructor
  · rintro rfl
    have around := exists_blanks_around_trimmedChars text.toList
    refine ⟨?_, ?_⟩
    · simpa [trimmed] using unpadded_trimmedChars text.toList
    · simpa [trimmed] using around
  · rintro ⟨unpadded, before, after, blankBefore, blankAfter, whole⟩
    rw [trimmed, whole, trimmedChars_around unpadded blankBefore blankAfter,
      String.ofList_toList]

/-- Trimming leaves nothing exactly of texts that are blank throughout. -/
theorem trimmed_eq_empty_iff {text : String} :
    trimmed text = "" ↔ ∀ c ∈ text.toList, isBlank c = true := by
  rw [trimmed_eq_iff]
  constructor
  · rintro ⟨_, before, after, blankBefore, blankAfter, whole⟩ c member
    rw [whole] at member
    simp only [String.toList_empty, List.append_nil, List.mem_append] at member
    rcases member with first | second
    · exact blankBefore c first
    · exact blankAfter c second
  · intro blank
    refine ⟨⟨by simp, by simp⟩, text.toList, [], blank, by simp, ?_⟩
    simp

theorem mem_of_mem_trimmed
    {text : String}
    {c : Char}
    (member : c ∈ (trimmed text).toList) :
    c ∈ text.toList := by
  rcases exists_blanks_around_trimmedChars text.toList with
    ⟨before, after, _, _, whole⟩
  rw [trimmed, String.toList_ofList] at member
  rw [whole]
  exact List.mem_append_left after (List.mem_append_right before member)

theorem trimmed_of_not_blank
    {text : String}
    (noBlank : ∀ c ∈ text.toList, isBlank c = false) :
    trimmed text = text := by
  refine trimmed_eq_iff.2 ⟨⟨?_, ?_⟩, [], [], by simp⟩
  · exact fun c first => noBlank c (List.mem_of_mem_head? first)
  · exact fun c last => noBlank c (List.mem_of_mem_getLast? last)

/-- Whether a comma list has an entry. -/
def ListsEntry (text entry : String) : Prop :=
  entry ≠ "" ∧ ∃ piece ∈ pieces ',' text, TrimsTo piece entry

theorem mem_entries_iff {text entry : String} :
    entry ∈ entries text ↔ ListsEntry text entry := by
  simp [entries, ListsEntry, trimmed_eq_iff, and_comm]

theorem entries_append (first second : String) :
    entries (first ++ "," ++ second) = entries first ++ entries second := by
  have cut := pieces_append ',' first second
  rw [show "," = ','.toString from rfl, entries, cut, List.map_append,
    List.filter_append, entries, entries]

theorem comma_not_mem_of_mem_entries
    {text entry : String}
    (member : entry ∈ entries text) :
    ',' ∉ entry.toList := by
  rcases List.mem_map.1 (List.mem_filter.1 member).1 with ⟨piece, cut, rfl⟩
  intro comma
  exact not_mem_of_mem_pieces cut (mem_of_mem_trimmed comma)

/-- A text without commas and blanks is its own only entry. -/
theorem entries_singleton
    {text : String}
    (present : text ≠ "")
    (noComma : ',' ∉ text.toList)
    (noBlank : ∀ c ∈ text.toList, isBlank c = false) :
    entries text = [text] := by
  rw [entries, pieces_singleton noComma, List.map_singleton,
    trimmed_of_not_blank noBlank,
    List.filter_cons_of_pos (by simpa using present), List.filter_nil]

/-- A comma list without entries is made of commas and blanks. -/
theorem entries_eq_nil_iff {text : String} :
    entries text = [] ↔
      ∀ c ∈ text.toList, c = ',' ∨ isBlank c = true := by
  simp only [entries, List.filter_eq_nil_iff, List.forall_mem_map,
    bne_iff_ne, ne_eq, Classical.not_not, trimmed_eq_empty_iff]
  constructor
  · intro blank c member
    rw [← joined_pieces ',' text] at member
    rcases mem_joined member with comma | ⟨piece, among, holds⟩
    · exact Or.inl comma
    · exact Or.inr (blank piece among c holds)
  · intro blank piece among c holds
    have member : c ∈ text.toList := by
      rw [← joined_pieces ',' text]
      exact mem_joined_of_mem among holds
    rcases blank c member with rfl | isBlank
    · exact absurd holds (not_mem_of_mem_pieces among)
    · exact isBlank

end PrivilegeGraph.Text
