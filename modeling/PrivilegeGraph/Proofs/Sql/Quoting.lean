import PrivilegeGraph.Proofs.Sql.Names
import PrivilegeGraph.Proofs.Sql.Skeleton
import PrivilegeGraph.Sql.Statement

/-!
# Quoted names, accounts and passwords

Names and accounts are quoted exactly if they are written in fixed alphabets,
and reading the quotes gives them back.  A password may hold anything.  Its
literal ends at its last character whether or not a server takes backslashes
for escapes, and where it does, the literal denotes the password.
-/

namespace PrivilegeGraph.Sql

/-! ## Alphabets -/

/-- The characters of the names of database objects. -/
def identAlphabet : String :=
  "ABCDEFGHIJKLMNOPQRSTUVWXYZabcdefghijklmnopqrstuvwxyz0123456789_"

/-- The characters of the names of accounts. -/
def userAlphabet : String :=
  identAlphabet ++ "%.-"

/-- The characters of the hosts of accounts. -/
def hostAlphabet : String :=
  userAlphabet ++ "\\"

/-- Whether a text is not empty and has characters of an alphabet only. -/
def WrittenIn (alphabet text : String) : Prop :=
  text ≠ "" ∧ ∀ c ∈ text.toList, c ∈ alphabet.toList

theorem isIdentChar_iff {c : Char} :
    isIdentChar c = true ↔ c ∈ identAlphabet.toList := by
  constructor
  · intro ident
    have host : isHostChar c = true := by
      simp [isHostChar, isUserChar, ident]
    have ascii := (printable_of_isHostChar host).2
    have checked :
        ∀ code < 127, isIdentChar (Char.ofNat code) = true →
          Char.ofNat code ∈ identAlphabet.toList := by
      decide +kernel
    rw [← Char.ofNat_toNat c] at ident ⊢
    exact checked c.toNat (by omega) ident
  · have checked : identAlphabet.toList.all isIdentChar = true := by
      decide +kernel
    exact List.all_eq_true.1 checked c

theorem isUserChar_iff {c : Char} :
    isUserChar c = true ↔ c ∈ userAlphabet.toList := by
  simp [isUserChar, isIdentChar_iff, userAlphabet, or_assoc]

theorem isHostChar_iff {c : Char} :
    isHostChar c = true ↔ c ∈ hostAlphabet.toList := by
  simp [isHostChar, isUserChar_iff, hostAlphabet]

theorem isAllowed_iff_writtenIn
    {allowed : Char → Bool}
    {alphabet : String}
    (same : ∀ {c}, allowed c = true ↔ c ∈ alphabet.toList)
    (text : String) :
    isAllowed allowed text = true ↔ WrittenIn alphabet text := by
  simp [isAllowed, WrittenIn, same]

/-! ## Dotted names -/

/-- The names that tokens are, if they are names with single dots between. -/
def dottedNames? : List Token → Option (List String)
  | [.name text] => some [text]
  | .name text :: .bare "." :: rest => (dottedNames? rest).map (text :: ·)
  | _ => none

/-- Read a text as names in backticks with dots between. -/
def readPath? (text : String) : Option (List String) :=
  (readTokens? text.toList).bind dottedNames?

theorem framed_path (path : Path) :
    Framed path.tokens := by
  have plain : Plain "." := Plain.of_frameWords ["."] rfl (by decide)
  have ofParts :
      ∀ parts : List String,
        Framed ((parts.map Token.name).intersperse (.bare ".")) := by
    intro parts
    induction parts with
    | nil => exact trivial
    | cons part rest ih =>
        cases rest with
        | nil => exact ⟨rfl, trivial⟩
        | cons next others => exact ⟨rfl, by decide, plain, ih⟩
  exact ofParts path.parts

/-- The tokens of a path are names with single dots between. -/
theorem dottedNames?_merged
    {parts : List String}
    (present : parts ≠ []) :
    dottedNames?
        (merged ((parts.map Token.name).intersperse (.bare "."))) =
      some parts := by
  induction parts with
  | nil => exact absurd rfl present
  | cons part rest ih =>
      cases rest with
      | nil => rfl
      | cons next others =>
          have later := ih (List.cons_ne_nil _ _)
          have led :
              ∃ more,
                ((next :: others).map Token.name).intersperse (.bare ".") =
                  .name next :: more := by
            cases others <;> exact ⟨_, rfl⟩
          rcases led with ⟨more, tail⟩
          show
            dottedNames?
                (.name part :: joinBare "."
                  (merged
                    (((next :: others).map Token.name).intersperse
                      (.bare ".")))) =
              _
          rw [tail] at later ⊢
          show (dottedNames? (merged (.name next :: more))).map (part :: ·) = _
          rw [later]
          rfl

theorem readPath?_text
    {path : Path}
    (present : path.parts ≠ []) :
    readPath? path.text = some path.parts := by
  rw [readPath?, Path.text, (framed_path path).readTokens?_tokensText]
  exact dottedNames?_merged present

/-! ## Accounts -/

/-- Read a text as a name and a host in single quotes with an at sign
between. -/
def readAccount? (text : String) : Option Account :=
  match readTokens? text.toList with
  | some [.literal name, .bare "@", .literal host] => some ⟨name, host⟩
  | _ => none

theorem framed_account (name host : String) :
    Framed (accountTokens name host) := by
  have plain : Plain "@" := Plain.of_frameWords ["@"] rfl (by decide)
  exact ⟨rfl, by decide, plain, rfl, trivial⟩

theorem readAccount?_text (grantee : Grantee) :
    readAccount? grantee.text = some grantee.account := by
  rw [readAccount?, Grantee.text, Grantee.tokens,
    (framed_account _ _).readTokens?_tokensText]
  rfl

/-! ## Passwords -/

/-- Read a literal up to its closing quote where a backslash is an ordinary
character.  Only a doubled quote denotes one. -/
def readUnescapedBody : List Char → Option (List Char × List Char)
  | [] => none
  | '\'' :: '\'' :: rest =>
      (readUnescapedBody rest).map fun found => ('\'' :: found.1, found.2)
  | '\'' :: rest => some ([], rest)
  | c :: rest =>
      (readUnescapedBody rest).map fun found => (c :: found.1, found.2)

/-- The text that a complete literal denotes where a backslash is an ordinary
character. -/
def unescapedValue? (text : String) : Option String :=
  match text.toList with
  | '\'' :: body =>
      match readUnescapedBody body with
      | some (value, []) => some (String.ofList value)
      | _ => none
  | _ => none

/-- Characters with each backslash doubled. -/
def escapesDoubled (characters : List Char) : List Char :=
  doubled '\\' characters

/-- Without escapes, reading undoes the doubling of quotes. -/
theorem readUnescapedBody_doubled
    (characters rest : List Char)
    (ends : rest.head? ≠ some '\'') :
    readUnescapedBody (doubled '\'' characters ++ '\'' :: rest) =
      some (characters, rest) := by
  induction characters with
  | nil =>
      cases rest with
      | nil => rfl
      | cons c others =>
          have different : c ≠ '\'' := by simpa using ends
          simp [doubled, readUnescapedBody, different]
  | cons c others ih =>
      by_cases quote : c = '\''
      · subst quote
        simp [doubled_cons_self, readUnescapedBody, ih]
      · simp [doubled_cons_of_ne quote, readUnescapedBody, quote, ih]

/-- Hence what was quoted is read back with its backslashes doubled. -/
theorem unescapedValue?_quoted (text : String) :
    unescapedValue? (quoted text) =
      some (String.ofList (escapesDoubled text.toList)) := by
  unfold unescapedValue?
  rw [toList_quoted]
  simp only
  rw [literalChars, readUnescapedBody_doubled _ [] (by simp)]
  rfl

/-! ## Quoting as a whole -/

/-- Dotted names and accounts are quoted exactly if all their parts are
written in the alphabet of the part, and reading the quotes gives the parts
back.  The literal of a password is complete with and without escapes, and
with them denotes the password. -/
theorem quotes_readBack :
    (∀ text,
        ((∃ path, Path.ofText text = .ok path) ↔
            ∀ part ∈ Text.pieces '.' text, WrittenIn identAlphabet part) ∧
          ∀ path, Path.ofText text = .ok path →
            readPath? path.text = some (Text.pieces '.' text)) ∧
      (∀ account,
        ((∃ grantee, Grantee.ofAccount account = .ok grantee) ↔
            WrittenIn userAlphabet account.name ∧
              WrittenIn hostAlphabet account.host) ∧
          ∀ grantee, Grantee.ofAccount account = .ok grantee →
            readAccount? grantee.text = some account) ∧
      ∀ password,
        literalValue? (quoted password) = some password ∧
          unescapedValue? (quoted password) =
            some (String.ofList (escapesDoubled password.toList)) := by
  refine ⟨fun text => ⟨?_, ?_⟩, fun account => ⟨?_, ?_⟩, fun password => ?_⟩
  · simp only [← isAllowed_iff_writtenIn isIdentChar_iff]
    rw [← Path.ofText_isOk_iff]
    cases Path.ofText text <;> simp [Except.isOk, Except.toBool]
  · intro path read
    have parts := Path.ofText_eq_ok_iff.1 read
    have present : path.parts ≠ [] := by
      rw [parts]
      exact Text.pieces_ne_nil '.' text
    rw [readPath?_text present, parts]
  · rw [← isAllowed_iff_writtenIn isUserChar_iff,
      ← isAllowed_iff_writtenIn isHostChar_iff, ← Grantee.ofAccount_isOk_iff]
    cases Grantee.ofAccount account <;> simp [Except.isOk, Except.toBool]
  · intro grantee read
    rw [readAccount?_text, Grantee.ofAccount_eq_ok_iff.1 read]
  · exact ⟨literalValue?_quoted password, unescapedValue?_quoted password⟩

end PrivilegeGraph.Sql
