import PrivilegeGraph.Generation
import PrivilegeGraph.Proofs.Text.Numeral

/-!
# Version texts

A version text is divided here into its runs of digits, and its numbers are
what these runs denote in the decimal system.  A server is supported by these
two numbers and by whether the text names MariaDB, and a text that cannot be
read as numbers is not an error of its own but a version that is not
supported.
-/

namespace PrivilegeGraph.Generation

open Text (LeadingRun decimal)

/-- Whether a version begins with a run of digits and goes on, behind one more
character, with a second one.  Either may be empty. -/
def Numbered (version : String) (first second : List Char) : Prop :=
  ∃ rest rest',
    LeadingRun version.toList first rest ∧
      LeadingRun (rest.drop 1) second rest'

section

variable
    {version : String}
    {first second : List Char}

theorem exists_numbered (version : String) :
    ∃ first second, Numbered version first second :=
  ⟨_, _, _, _, Text.exists_leadingRun _, Text.exists_leadingRun _⟩

theorem Numbered.majorNumber?_eq
    (numbered : Numbered version first second) :
    majorNumber? version =
      if first ≠ [] ∧ decimal first < 2 ^ 32 then some (decimal first)
      else none := by
  rcases numbered with ⟨rest, _, leads, _⟩
  rw [majorNumber?, leads.eq.1, Text.numeral?_eq leads.digits]

theorem Numbered.minorNumber_eq
    (numbered : Numbered version first second) :
    minorNumber version =
      if decimal second < 2 ^ 32 then decimal second else 0 := by
  rcases numbered with ⟨rest, _, leads, leads'⟩
  simp only [minorNumber, leads.eq.2, leads'.eq.1,
    Text.numeral?_eq leads'.digits]
  -- The empty run denotes zero, so only the value decides.
  cases second with
  | nil => rfl
  | cons c others =>
      simp only [ne_eq, List.cons_ne_nil, not_false_eq_true, true_and]
      split <;> rfl

/-- Whether the lower case of a version has the name MariaDB in it. -/
def NamesMariaDb (version : String) : Prop :=
  "mariadb".toList <:+: (Text.lowered version).toList

theorem isMariaDb_iff : isMariaDb version = true ↔ NamesMariaDb version :=
  Text.occurs_iff

/-- The servers that are supported and their generations, by whether they are
MariaDB and by the first two numbers of their versions. -/
inductive Supports (mariaDb : Prop) (major minor : Nat) : Generation → Prop
  | mySql (other : ¬mariaDb) (release : major = 8 ∨ major = 9) :
      Supports mariaDb major minor .modern
  | oldMySql (other : ¬mariaDb) (release : major = 5 ∧ minor = 7) :
      Supports mariaDb major minor .legacy
  | mariaDb (named : mariaDb) (release : major = 10 ∨ major = 11) :
      Supports mariaDb major minor .legacy

/-- Whether a version is supported by the numbers that its runs of digits
denote.  The first has to be there and to fit 32 bits, and the second counts as
zero if it does not fit. -/
def SupportsVersion
    (version : String)
    (first second : List Char)
    (generation : Generation) : Prop :=
  (first ≠ [] ∧ decimal first < 2 ^ 32) ∧
    Supports (NamesMariaDb version) (decimal first)
      (if decimal second < 2 ^ 32 then decimal second else 0) generation

theorem eq_some_iff_supports
    {mariaDb : Bool}
    {major minor : Nat}
    {generation : Generation} :
    (if mariaDb then
        if major = 10 ∨ major = 11 then some legacy else none
      else if major = 8 ∨ major = 9 then some modern
      else if major = 5 ∧ minor = 7 then some legacy
      else none) = some generation ↔
      Supports (mariaDb = true) major minor generation := by
  constructor
  · intro found
    split at found
    · next named =>
      split at found
      · next release =>
        cases found
        exact .mariaDb named release
      · cases found
    · next other =>
      split at found
      · next release =>
        cases found
        exact .mySql other release
      · split at found
        · next release =>
          cases found
          exact .oldMySql other release
        · cases found
  · rintro (⟨other, release⟩ | ⟨other, release⟩ | ⟨named, release⟩)
    · rw [if_neg other, if_pos release]
    · have old : ¬(major = 8 ∨ major = 9) := by omega
      rw [if_neg other, if_neg old, if_pos release]
    · rw [if_pos named, if_pos release]

theorem Numbered.ofVersion?_eq_some_iff
    (numbered : Numbered version first second)
    {generation : Generation} :
    ofVersion? version = some generation ↔
      SupportsVersion version first second generation := by
  rw [ofVersion?, numbered.majorNumber?_eq, numbered.minorNumber_eq,
    SupportsVersion, ← propext isMariaDb_iff]
  split
  · next unread =>
    simp only [ite_eq_right_iff, reduceCtorEq, imp_false] at unread
    constructor
    · intro none
      cases none
    · intro supported
      exact absurd supported.1 unread
  · next major read =>
    simp only [Option.ite_none_right_eq_some, Option.some.injEq] at read
    rcases read with ⟨readable, rfl⟩
    rw [eq_some_iff_supports, and_iff_right readable]

end

/-- Every version has two runs of digits at its front, and by the numbers that
they denote and by whether it names MariaDB it is supported or not.  Exactly
the supported ones are read, as servers of their generations, and any other
version is reported as it is. -/
theorem probe_decided (version : String) :
    (∃ first second, Numbered version first second) ∧
      ∀ first second, Numbered version first second →
        (∀ generation,
          probe version = .ok generation ↔
            SupportsVersion version first second generation) ∧
          ∀ error,
            probe version = .error error ↔
              error = .unsupportedServer version ∧
                ¬∃ generation,
                  SupportsVersion version first second generation := by
  refine ⟨exists_numbered version, ?_⟩
  intro first second numbered
  simp only [← numbered.ofVersion?_eq_some_iff, probe]
  cases ofVersion? version with
  | none => simp [eq_comm]
  | some generation => simp

/-- A version with leading zeros, and with a second number that does not fit 32
bits, of a server that is legacy by the name within its text. -/
theorem probe_decided_overlong :
    let version := "0010.4294967296-xMARIAdb"
    Numbered version "0010".toList "4294967296".toList ∧
      probe version = .ok .legacy ∧
        SupportsVersion version "0010".toList "4294967296".toList .legacy := by
  intro version
  have numbered : Numbered version "0010".toList "4294967296".toList :=
    ⟨".4294967296-xMARIAdb".toList, "-xMARIAdb".toList,
      ⟨by decide +kernel, by simp, by simp⟩,
      ⟨by decide +kernel, by simp, by simp⟩⟩
  have read : probe version = .ok .legacy := by
    decide +kernel
  exact
    ⟨numbered, read, (((probe_decided version).2 _ _ numbered).1 _).1 read⟩

end PrivilegeGraph.Generation
