import Mathlib.Data.List.Forall2
import PrivilegeGraph.Proofs.Text.Lowering

/-!
# Words in any letter case

A text has a given lower case in more ways than by its ASCII letters: the
Kelvin sign has the lower case k.  No other letter of the alphabet is met in
the lower case of a character beyond ASCII, so a word without k is the lower
case of its spellings in small and capital letters and of nothing else.
-/

namespace PrivilegeGraph.Text

/-- Whether a text is a word with any of its letters in upper case. -/
def SpelledAs (word text : String) : Prop :=
  List.Forall₂ (fun letter c => c = letter ∨ c = letter.toUpper) word.toList
    text.toList

/-- Whether a character is a small letter other than k. -/
def isPlainLetter (c : Char) : Bool :=
  c.isLower && c != 'k'

/-! ## Lower case beyond ASCII -/

theorem ascii_of_isPlainLetter
    {c : Char}
    (plain : isPlainLetter c = true) :
    c.toNat < 0x80 := by
  rw [isPlainLetter, Bool.and_eq_true] at plain
  have lower : (decide (c.val ≥ 97) && decide (c.val ≤ 122)) = true := plain.1
  have bounds : 97 ≤ c.val.toNat ∧ c.val.toNat ≤ 122 := by
    simpa [UInt32.le_iff_toNat_le] using lower
  have same : c.toNat = c.val.toNat := rfl
  omega

theorem not_isPlainLetter_runImage
    {c : Char}
    (large : 0x80 ≤ c.toNat) :
    isPlainLetter (runImage lowerRuns c) = false := by
  rcases large_runImage large with beyond | null | kelvin
  · by_contra plain
    have ascii := ascii_of_isPlainLetter (Bool.not_eq_false _ ▸ plain)
    omega
  · rw [null]
    decide
  · rw [kelvin]
    decide

theorem ascii_of_lowerOf
    {c : Char}
    (plain : ∀ d ∈ lowerOf c, isPlainLetter d = true) :
    c.toNat < 0x80 := by
  by_contra beyond
  rw [lowerOf, if_neg beyond] at plain
  split at plain
  · have dot := plain (Char.ofNat 0x307) (by simp)
    revert dot
    decide
  · have image := plain _ List.mem_cons_self
    rw [not_isPlainLetter_runImage (by omega)] at image
    cases image

theorem not_isPlainLetter_lowerSigma (before after : List Char) :
    isPlainLetter (lowerSigma before after) = false := by
  unfold lowerSigma
  split <;> decide

/-- What has plain letters for its lower case is ASCII. -/
theorem ascii_of_lowerAfter
    {before characters : List Char}
    (plain :
      ∀ d ∈ lowerAfter before characters, isPlainLetter d = true) :
    ∀ c ∈ characters, c.toNat < 0x80 := by
  induction characters generalizing before with
  | nil => simp
  | cons c rest ih =>
      rw [lowerAfter] at plain
      have later :=
        ih fun d member => plain d (List.mem_append_right _ member)
      have first : c.toNat < 0x80 := by
        split at plain
        · have sigma := plain _ (List.mem_append_left _ List.mem_cons_self)
          rw [not_isPlainLetter_lowerSigma] at sigma
          cases sigma
        · exact
            ascii_of_lowerOf fun d member =>
              plain d (List.mem_append_left _ member)
      simpa using ⟨first, later⟩

/-! ## Spellings -/

theorem eq_or_eq_toUpper
    {c : Char}
    (ascii : c.toNat < 0x80)
    (plain : isPlainLetter c.toLower = true) :
    c = c.toLower ∨ c = c.toLower.toUpper := by
  have checked :
      ∀ code < 0x80, isPlainLetter (Char.ofNat code).toLower = true →
        Char.ofNat code = (Char.ofNat code).toLower ∨
          Char.ofNat code = (Char.ofNat code).toLower.toUpper := by
    decide +kernel
  rw [← Char.ofNat_toNat c] at plain ⊢
  exact checked c.toNat ascii plain

theorem toLower_of_isPlainLetter
    {letter c : Char}
    (plain : isPlainLetter letter = true)
    (spelled : c = letter ∨ c = letter.toUpper) :
    c.toNat < 0x80 ∧ c.toLower = letter := by
  have checked :
      ∀ code < 0x80, isPlainLetter (Char.ofNat code) = true →
        (Char.ofNat code).toLower = Char.ofNat code ∧
          (Char.ofNat code).toUpper.toNat < 0x80 ∧
            (Char.ofNat code).toUpper.toLower = Char.ofNat code := by
    decide +kernel
  have ascii := ascii_of_isPlainLetter plain
  have facts := checked letter.toNat ascii
  rw [Char.ofNat_toNat] at facts
  rcases facts plain with ⟨small, capital, lowers⟩
  rcases spelled with rfl | rfl
  · exact ⟨ascii, small⟩
  · exact ⟨capital, lowers⟩

theorem map_toLower_of_spelled
    {word characters : List Char}
    (plain : ∀ letter ∈ word, isPlainLetter letter = true)
    (spelled :
      List.Forall₂ (fun letter c => c = letter ∨ c = letter.toUpper) word
        characters) :
    (∀ c ∈ characters, c.toNat < 0x80) ∧
      characters.map Char.toLower = word := by
  induction spelled with
  | nil => simp
  | cons first _ ih =>
      rcases List.forall_mem_cons.1 plain with ⟨plainFirst, plainRest⟩
      rcases toLower_of_isPlainLetter plainFirst first with ⟨ascii, lowers⟩
      rcases ih plainRest with ⟨asciiRest, lowersRest⟩
      exact
        ⟨List.forall_mem_cons.2 ⟨ascii, asciiRest⟩,
          by rw [List.map_cons, lowers, lowersRest]⟩

theorem spelledAs_empty_iff {text : String} :
    SpelledAs "" text ↔ text = "" := by
  simp [SpelledAs]

/-- A word of plain letters is the lower case of its spellings. -/
theorem lowered_eq_iff
    {word text : String}
    (plain : word.toList.all isPlainLetter = true) :
    lowered text = word ↔ SpelledAs word text := by
  rw [List.all_eq_true] at plain
  constructor
  · rintro rfl
    rw [lowered, String.toList_ofList] at plain
    have ascii := ascii_of_lowerAfter plain
    have letterwise := lowerAfter_ascii [] ascii
    rw [letterwise] at plain
    rw [SpelledAs, lowered, String.toList_ofList, letterwise,
      List.forall₂_map_left_iff, List.forall₂_same]
    intro c member
    exact
      eq_or_eq_toUpper (ascii c member)
        (plain _ (List.mem_map_of_mem member))
  · intro spelled
    rcases map_toLower_of_spelled plain spelled with ⟨ascii, lowers⟩
    rw [lowered, lowerAfter_ascii [] ascii, lowers, String.ofList_toList]

end PrivilegeGraph.Text
