import Mathlib.Data.List.Induction
import Mathlib.Data.Nat.Digits.Defs
import PrivilegeGraph.Text.Numeral

/-!
# Numbers written and read

A number that fits the width is read back from its decimal text.  A run of
digits at the front of a text is read as what it denotes in the decimal system.
-/

namespace PrivilegeGraph.Text

/-! ## Numbers -/

theorem isDigit_eq_isDigit (c : Char) : isDigit c = c.isDigit := by
  simp [isDigit, Char.isDigit, Char.le_def]

theorem digitsValue_toDigits (value : Nat) :
    digitsValue (Nat.toDigits 10 value) = value :=
  Nat.ofDigitChars_toDigits (by decide) (by decide)

theorem isDigit_of_mem_toDigits
    {value : Nat}
    {c : Char}
    (member : c ∈ Nat.toDigits 10 value) :
    isDigit c = true := by
  rw [isDigit_eq_isDigit]
  exact Nat.isDigit_of_mem_toDigits (by decide) (by decide) member

theorem toList_repr (value : Nat) :
    value.repr.toList = Nat.toDigits 10 value := by
  simp [Nat.repr_eq_ofList_toDigits]

theorem repr_ne_empty (value : Nat) : value.repr ≠ "" := by
  intro empty
  have noDigits : Nat.toDigits 10 value = [] := by
    rw [← toList_repr, empty]
    rfl
  exact Nat.toDigits_ne_nil noDigits

theorem numeral?_toDigits
    {width value : Nat}
    (fits : value < 1 <<< width) :
    numeral? width (Nat.toDigits 10 value) = some value := by
  have digits : (Nat.toDigits 10 value).all isDigit = true :=
    List.all_eq_true.2 fun _ member => isDigit_of_mem_toDigits member
  rw [numeral?, digitsValue_toDigits]
  exact if_pos ⟨Nat.toDigits_ne_nil, digits, fits⟩

theorem readNumeral?_repr
    {width value : Nat}
    (fits : value < 1 <<< width) :
    readNumeral? width value.repr = some value := by
  rw [readNumeral?, toList_repr]
  split
  · next rest written =>
    have first : '+' ∈ Nat.toDigits 10 value := by
      simp [written]
    have digit : isDigit '+' = true := isDigit_of_mem_toDigits first
    cases digit
  · exact numeral?_toDigits fits

/-! ## Runs of digits -/

/-- What a run of digits denotes in the decimal system. -/
def decimal (run : List Char) : Nat :=
  Nat.ofDigits 10 (run.reverse.map fun c => c.toNat - '0'.toNat)

theorem digitsValue_eq_decimal (run : List Char) :
    digitsValue run = decimal run := by
  induction run using List.reverseRecOn with
  | nil => rfl
  | append_singleton run last ih =>
      rw [decimal, List.reverse_concat, List.map_cons, Nat.ofDigits_cons,
        ← decimal, ← ih, digitsValue, List.foldl_append, ← digitsValue,
        Nat.add_comm]
      rfl

/-- Whether characters begin with a run of digits, which may be empty, and do
not go on with a further one. -/
structure LeadingRun (characters run rest : List Char) : Prop where
  whole : characters = run ++ rest
  digits : ∀ c ∈ run, c.isDigit = true
  ends : ∀ c ∈ rest.head?, c.isDigit = false

theorem exists_leadingRun (characters : List Char) :
    LeadingRun characters (characters.takeWhile isDigit)
      (characters.dropWhile isDigit) where
  whole := List.takeWhile_append_dropWhile.symm
  digits := by
    intro c member
    rw [← isDigit_eq_isDigit]
    exact List.all_eq_true.1 List.all_takeWhile c member
  ends := by
    intro c first
    have stops := List.head?_dropWhile_not isDigit characters
    rw [Option.mem_def.1 first] at stops
    rwa [← isDigit_eq_isDigit]

theorem LeadingRun.eq
    {characters run rest : List Char}
    (leads : LeadingRun characters run rest) :
    characters.takeWhile isDigit = run ∧
      characters.dropWhile isDigit = rest := by
  have digits : ∀ c ∈ run, isDigit c = true := by
    intro c member
    rw [isDigit_eq_isDigit]
    exact leads.digits c member
  rw [leads.whole, List.takeWhile_append_of_pos digits,
    List.dropWhile_append_of_pos digits]
  cases rest with
  | nil => simp
  | cons c rest =>
      have other : isDigit c = false := by
        rw [isDigit_eq_isDigit]
        exact leads.ends c rfl
      simp [other]

/-- A run of digits is a number when it is not empty and its value fits. -/
theorem numeral?_eq
    {width : Nat}
    {run : List Char}
    (digits : ∀ c ∈ run, c.isDigit = true) :
    numeral? width run =
      if run ≠ [] ∧ decimal run < 2 ^ width then some (decimal run)
      else none := by
  have all : run.all isDigit = true := by
    simpa [isDigit_eq_isDigit] using digits
  simp only [numeral?, all, digitsValue_eq_decimal, true_and,
    Nat.one_shiftLeft]

end PrivilegeGraph.Text
