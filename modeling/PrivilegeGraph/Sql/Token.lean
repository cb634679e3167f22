/-!
# Statement tokens

A statement is written from tokens of three sorts: bare text, names in backticks
and literals in single quotes.  Quoting doubles what would end or escape the
token.
-/

namespace PrivilegeGraph.Sql

/-- A part of a statement. -/
inductive Token
  | bare (text : String)
  | name (text : String)
  | literal (text : String)
  deriving DecidableEq, Repr

/-- Characters with a mark written twice wherever it occurs. -/
def doubled
    (mark : Char)
    (characters : List Char) :
    List Char :=
  characters.flatMap fun c => if c = mark then [c, c] else [c]

/-- Characters between single quotes: every backslash is doubled, and then every
quote. -/
def literalChars (characters : List Char) : List Char :=
  doubled '\'' (doubled '\\' characters)

/-- Characters between backticks: every backtick is doubled. -/
def nameChars (characters : List Char) : List Char :=
  doubled '\x60' characters

/-- The written characters of a token. -/
def Token.chars : Token → List Char
  | bare text => text.toList
  | name text => '\x60' :: nameChars text.toList ++ ['\x60']
  | literal text => '\'' :: literalChars text.toList ++ ['\'']

/-- The text of a list of tokens. -/
def tokensText (tokens : List Token) : String :=
  String.ofList (tokens.flatMap Token.chars)

/-- A text in single quotes. -/
def quoted (text : String) : String :=
  tokensText [.literal text]

/-- What a backslash and the character after it denote in a literal.  The two
pattern characters keep their backslash. -/
def escapeValue (c : Char) : List Char :=
  match c with
  | '0' => ['\x00']
  | 'b' => ['\x08']
  | 'n' => ['\n']
  | 'r' => ['\r']
  | 't' => ['\t']
  | 'Z' => ['\x1a']
  | '%' => ['\\', '%']
  | '_' => ['\\', '_']
  | c => [c]

/-- Read a literal up to its closing quote, and return what it denotes and what
follows.  A backslash escapes the next character, and a doubled quote denotes
one. -/
def readLiteralBody : List Char → Option (List Char × List Char)
  | [] => none
  | '\\' :: c :: rest =>
      (readLiteralBody rest).map fun found =>
        (escapeValue c ++ found.1, found.2)
  | '\'' :: '\'' :: rest =>
      (readLiteralBody rest).map fun found => ('\'' :: found.1, found.2)
  | '\'' :: rest => some ([], rest)
  | c :: rest => (readLiteralBody rest).map fun found => (c :: found.1, found.2)

/-- The text that a complete literal denotes. -/
def literalValue? (text : String) : Option String :=
  match text.toList with
  | '\'' :: body =>
      match readLiteralBody body with
      | some (value, []) => some (String.ofList value)
      | _ => none
  | _ => none

@[simp]
theorem tokensText_append (first second : List Token) :
    tokensText (first ++ second) = tokensText first ++ tokensText second := by
  simp [tokensText]

theorem doubled_cons_self
    (mark : Char)
    (rest : List Char) :
    doubled mark (mark :: rest) = mark :: mark :: doubled mark rest := by
  simp [doubled]

theorem doubled_cons_of_ne
    {c mark : Char}
    (other : c ≠ mark)
    (rest : List Char) :
    doubled mark (c :: rest) = c :: doubled mark rest := by
  simp [doubled, other]

theorem doubled_of_not_mem
    {mark : Char}
    {characters : List Char}
    (absent : mark ∉ characters) :
    doubled mark characters = characters := by
  induction characters with
  | nil => rfl
  | cons c rest ih =>
      have other : c ≠ mark := by
        rintro rfl
        exact absent List.mem_cons_self
      rw [doubled_cons_of_ne other,
        ih fun member => absent (List.mem_cons_of_mem c member)]

/-- The two passes come to one, in which a backslash and a quote are each
doubled.  The first pass brings no quote for the second to double. -/
theorem literalChars_cons
    (c : Char)
    (rest : List Char) :
    literalChars (c :: rest) =
      (if c = '\\' ∨ c = '\'' then [c, c] else [c]) ++ literalChars rest := by
  by_cases backslash : c = '\\'
  · subst backslash
    have other : '\\' ≠ '\'' := by decide
    rw [if_pos (Or.inl rfl), literalChars, doubled_cons_self,
      doubled_cons_of_ne other, doubled_cons_of_ne other]
    rfl
  · rw [literalChars, doubled_cons_of_ne backslash]
    by_cases quote : c = '\''
    · subst quote
      rw [if_pos (Or.inr rfl), doubled_cons_self]
      rfl
    · rw [if_neg (not_or.2 ⟨backslash, quote⟩), doubled_cons_of_ne quote]
      rfl

/-- Reading back what was quoted gives the text and leaves what follows it,
unless that begins with a quote. -/
theorem readLiteralBody_literalChars
    (characters rest : List Char)
    (ends : rest.head? ≠ some '\'') :
    readLiteralBody (literalChars characters ++ '\'' :: rest) =
      some (characters, rest) := by
  induction characters with
  | nil =>
    cases rest with
    | nil => rfl
    | cons c others =>
      have different : c ≠ '\'' := by simpa using ends
      simp [literalChars, doubled, readLiteralBody, different]
  | cons c others ih =>
    rw [literalChars_cons]
    by_cases backslash : c = '\\'
    · subst backslash
      simp [readLiteralBody, escapeValue, ih]
    · by_cases quote : c = '\''
      · subst quote
        simp [readLiteralBody, ih]
      · simp [backslash, quote, readLiteralBody, ih]

theorem toList_quoted (text : String) :
    (quoted text).toList = '\'' :: (literalChars text.toList ++ ['\'']) := by
  simp [quoted, tokensText, Token.chars]

/-- A quoted text denotes that text. -/
theorem literalValue?_quoted (text : String) :
    literalValue? (quoted text) = some text := by
  unfold literalValue?
  rw [toList_quoted]
  simp only
  rw [readLiteralBody_literalChars text.toList [] (by simp)]
  simp

end PrivilegeGraph.Sql
