import PrivilegeGraph.Text.Case

/-!
# What lower case keeps

Characters beyond ASCII have their lower case beyond ASCII too, but for the
Kelvin sign, which has the lower case k.  So a comma or a space in the lower
case of a text stood there before.  A text none of whose characters is changed
is not changed as a whole, although the lower case of a sigma depends on its
surroundings.
-/

namespace PrivilegeGraph.Text

/-- A run takes code points beyond ASCII to such code points, or to k. -/
theorem image_of_mem_lowerRuns :
    ∀ run ∈ lowerRuns,
      0x80 ≤ run.image ∨ run.last < 0x80 ∨
        run.first = run.last ∧ run.image = 'k'.toNat := by
  decide +kernel

theorem large_ofNat
    {code : Nat}
    (large : 0x80 ≤ code) :
    0x80 ≤ (Char.ofNat code).toNat ∨ Char.ofNat code = '\x00' := by
  by_cases valid : code.isValidChar
  · have same : (Char.ofNat code).toNat = code := by
      rw [Char.ofNat, dif_pos valid]
      rfl
    exact Or.inl (by rwa [same])
  · refine Or.inr ?_
    rw [Char.ofNat, dif_neg valid]
    rfl

/-- The image of a character beyond ASCII is beyond ASCII, or is k.  That it is
null is left open, for an image that is no code point. -/
theorem large_runImage
    {c : Char}
    (large : 0x80 ≤ c.toNat) :
    0x80 ≤ (runImage lowerRuns c).toNat ∨
      runImage lowerRuns c = '\x00' ∨ runImage lowerRuns c = 'k' := by
  unfold runImage
  split
  · next code found =>
      rcases List.exists_of_findSome?_eq_some found with ⟨run, listed, maps⟩
      unfold CaseRun.map? at maps
      split at maps
      · next inside =>
          cases maps
          rcases image_of_mem_lowerRuns run listed with
            beyond | below | ⟨single, kelvin⟩
          · exact (large_ofNat (by omega)).imp_right Or.inl
          · omega
          · have same : c.toNat - run.first + run.image = 'k'.toNat := by omega
            rw [same]
            exact Or.inr (Or.inr (by decide))
      · cases maps
  · exact Or.inl large

/-! ## Separators -/

/-- A comma or a space in the lower case of a character is the character. -/
theorem eq_of_mem_lowerOf
    {c separator : Char}
    (separates : separator = ',' ∨ separator = ' ')
    (member : separator ∈ lowerOf c) :
    separator = c := by
  unfold lowerOf at member
  split at member
  · next ascii =>
    have checked :
        ∀ code < 0x80,
          (Char.ofNat code).toLower ∈ [',', ' '] →
            (Char.ofNat code).toLower = Char.ofNat code := by
      decide +kernel
    have lower := checked c.toNat ascii
    rw [Char.ofNat_toNat] at lower
    rw [List.mem_singleton.1 member] at separates ⊢
    exact lower (by simpa using separates)
  · next beyond =>
    split at member
    · rcases separates with rfl | rfl <;> exact absurd member (by decide)
    · have same := List.mem_singleton.1 member
      rcases large_runImage (Nat.not_lt.1 beyond) with large | null | kelvin
      · rw [← same] at large
        rcases separates with rfl | rfl <;> exact absurd large (by decide)
      · rw [null] at same
        rcases separates with rfl | rfl <;> cases same
      · rw [kelvin] at same
        rcases separates with rfl | rfl <;> cases same

theorem not_mem_lowerSigma
    {separator : Char}
    (separates : separator = ',' ∨ separator = ' ')
    (before after : List Char) :
    separator ≠ lowerSigma before after := by
  unfold lowerSigma
  rcases separates with rfl | rfl <;> split <;> decide

theorem mem_of_mem_lowerAfter
    {separator : Char}
    (separates : separator = ',' ∨ separator = ' ')
    {before characters : List Char}
    (member : separator ∈ lowerAfter before characters) :
    separator ∈ characters := by
  induction characters generalizing before with
  | nil => cases member
  | cons c rest ih =>
      rw [lowerAfter] at member
      rcases List.mem_append.1 member with first | later
      · split at first
        · exact
            absurd (List.mem_singleton.1 first)
              (not_mem_lowerSigma separates before rest)
        · rw [eq_of_mem_lowerOf separates first]
          exact List.mem_cons_self
      · exact List.mem_cons_of_mem c (ih later)

/-- Lower case brings no comma and no space into a text. -/
theorem mem_of_mem_lowered
    {separator : Char}
    (separates : separator = ',' ∨ separator = ' ')
    {text : String}
    (member : separator ∈ (lowered text).toList) :
    separator ∈ text.toList := by
  rw [lowered, String.toList_ofList] at member
  exact mem_of_mem_lowerAfter separates member

/-! ## Texts that are kept -/

theorem lowerOf_ne_nil (c : Char) : lowerOf c ≠ [] := by
  unfold lowerOf
  split
  · exact List.cons_ne_nil _ _
  · split <;> exact List.cons_ne_nil _ _

theorem lowered_ne_empty
    {text : String}
    (present : text ≠ "") :
    lowered text ≠ "" := by
  intro empty
  rw [lowered, String.ofList_eq_empty_iff] at empty
  cases characters : text.toList with
  | nil => exact present (String.toList_eq_nil_iff.1 characters)
  | cons c rest =>
      rw [characters, lowerAfter] at empty
      have none := (List.append_eq_nil_iff.1 empty).1
      split at none
      · cases none
      · exact lowerOf_ne_nil c none

/-- Whether a character is its own lower case. -/
def IsLower (c : Char) : Prop :=
  lowered c.toString = c.toString

instance : DecidablePred IsLower := fun c =>
  inferInstanceAs (Decidable (lowered c.toString = c.toString))

theorem lowerOf_of_isLower
    {c : Char}
    (isLower : IsLower c) :
    c ≠ 'Σ' ∧ lowerOf c = [c] := by
  have image : lowerAfter [] [c] = [c] := by
    simpa [IsLower, lowered] using congrArg String.toList isLower
  have notSigma : c ≠ 'Σ' := by
    rintro rfl
    revert image
    decide +kernel
  refine ⟨notSigma, ?_⟩
  simpa [lowerAfter, notSigma] using image

theorem lowerAfter_of_isLower
    {before characters : List Char}
    (isLower : ∀ c ∈ characters, IsLower c) :
    lowerAfter before characters = characters := by
  induction characters generalizing before with
  | nil => rfl
  | cons c rest ih =>
      rcases List.forall_mem_cons.1 isLower with ⟨first, others⟩
      rcases lowerOf_of_isLower first with ⟨notSigma, image⟩
      rw [lowerAfter, if_neg notSigma, image, ih others]
      rfl

theorem lowered_of_isLower
    {text : String}
    (isLower : ∀ c ∈ text.toList, IsLower c) :
    lowered text = text := by
  rw [lowered, lowerAfter_of_isLower isLower, String.ofList_toList]

end PrivilegeGraph.Text
