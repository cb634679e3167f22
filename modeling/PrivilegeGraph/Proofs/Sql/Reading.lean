import PrivilegeGraph.Sql.Token

/-!
# Reading statements back

`readTokens?` divides the characters of a statement into names in backticks,
literals in single quotes and the bare text between them, as a server's own
reader does.  It knows nothing of how statements are built.

The main statement is that a list of tokens in which no two quoted tokens
touch is read back from its written characters, up to the joining of bare
texts that stand next to one another.
-/

namespace PrivilegeGraph.Sql

/-- Whether a character opens a quoted token. -/
def isMark (c : Char) : Bool :=
  c == '\x60' || c == '\''

/-- Read a name up to its closing backtick.  A doubled backtick denotes one. -/
def readNameBody : List Char → Option (List Char × List Char)
  | [] => none
  | '\x60' :: '\x60' :: rest =>
      (readNameBody rest).map fun found => ('\x60' :: found.1, found.2)
  | '\x60' :: rest => some ([], rest)
  | c :: rest =>
      (readNameBody rest).map fun found => (c :: found.1, found.2)

/-- Put bare text before tokens, joined with the bare text that leads them. -/
def joinBare (text : String) : List Token → List Token
  | .bare next :: rest => .bare (text ++ next) :: rest
  | tokens => if text = "" then tokens else .bare text :: tokens

/-! ## Quoted tokens take characters away -/

private theorem exists_of_map_extended
    {found : Option (List Char × List Char)}
    {extend : List Char → List Char}
    {value rest : List Char}
    (read :
      found.map (fun inner => (extend inner.1, inner.2)) =
        some (value, rest)) :
    ∃ inner, found = some (inner, rest) := by
  rcases Option.map_eq_some_iff.1 read with ⟨⟨inner, after⟩, same, equal⟩
  cases equal
  exact ⟨inner, same⟩

theorem length_lt_of_readNameBody
    {characters value rest : List Char}
    (read : readNameBody characters = some (value, rest)) :
    rest.length < characters.length := by
  induction characters using readNameBody.induct generalizing value with
  | case1 =>
      simp [readNameBody] at read
  | case2 tail ih =>
      rw [readNameBody] at read
      rcases exists_of_map_extended read with ⟨inner, innerRead⟩
      have shorter := ih innerRead
      simp only [List.length_cons]
      omega
  | case3 tail alone =>
      rw [readNameBody] at read
      · cases read
        simp
      · exact alone
  | case4 c tail noPair noMark ih =>
      rw [readNameBody] at read
      · rcases exists_of_map_extended read with ⟨inner, innerRead⟩
        have shorter := ih innerRead
        simp only [List.length_cons]
        omega
      · exact noPair
      · exact noMark

theorem length_lt_of_readLiteralBody
    {characters value rest : List Char}
    (read : readLiteralBody characters = some (value, rest)) :
    rest.length < characters.length := by
  induction characters using readLiteralBody.induct generalizing value with
  | case1 =>
      simp [readLiteralBody] at read
  | case2 c tail ih =>
      rw [readLiteralBody] at read
      rcases exists_of_map_extended read with ⟨inner, innerRead⟩
      have shorter := ih innerRead
      simp only [List.length_cons]
      omega
  | case3 tail ih =>
      rw [readLiteralBody] at read
      rcases exists_of_map_extended read with ⟨inner, innerRead⟩
      have shorter := ih innerRead
      simp only [List.length_cons]
      omega
  | case4 tail alone =>
      rw [readLiteralBody] at read
      · cases read
        simp
      · exact alone
  | case5 c tail noEscape noPair noMark ih =>
      rw [readLiteralBody] at read
      · rcases exists_of_map_extended read with ⟨inner, innerRead⟩
        have shorter := ih innerRead
        simp only [List.length_cons]
        omega
      · exact noEscape
      · exact noPair
      · exact noMark

/-! ## The reader -/

/-- Divide the characters of a statement into tokens.  A quoted token that is
not closed makes the whole unreadable. -/
def readTokens? : List Char → Option (List Token)
  | [] => some []
  | c :: rest =>
      if c = '\x60' then
        match _read : readNameBody rest with
        | some (value, after) =>
            (readTokens? after).map (.name (String.ofList value) :: ·)
        | none => none
      else if c = '\'' then
        match _read : readLiteralBody rest with
        | some (value, after) =>
            (readTokens? after).map (.literal (String.ofList value) :: ·)
        | none => none
      else
        (readTokens? rest).map (joinBare (String.ofList [c]))
termination_by characters => characters.length
decreasing_by
  · have shorter := length_lt_of_readNameBody _read
    simp only [List.length_cons]
    omega
  · have shorter := length_lt_of_readLiteralBody _read
    simp only [List.length_cons]
    omega
  · simp

theorem readTokens?_name
    {rest value after : List Char}
    (read : readNameBody rest = some (value, after)) :
    readTokens? ('\x60' :: rest) =
      (readTokens? after).map (.name (String.ofList value) :: ·) := by
  rw [readTokens?, if_pos rfl]
  split
  · next found foundRead =>
      rw [read] at foundRead
      cases foundRead
      rfl
  · next missing =>
      rw [read] at missing
      cases missing

theorem readTokens?_literal
    {rest value after : List Char}
    (read : readLiteralBody rest = some (value, after)) :
    readTokens? ('\'' :: rest) =
      (readTokens? after).map (.literal (String.ofList value) :: ·) := by
  rw [readTokens?, if_neg (by decide), if_pos rfl]
  split
  · next found foundRead =>
      rw [read] at foundRead
      cases foundRead
      rfl
  · next missing =>
      rw [read] at missing
      cases missing

theorem readTokens?_bare
    {c : Char}
    (unmarked : isMark c = false)
    (rest : List Char) :
    readTokens? (c :: rest) =
      (readTokens? rest).map (joinBare (String.ofList [c])) := by
  simp only [isMark, Bool.or_eq_false_iff, beq_eq_false_iff_ne] at unmarked
  rw [readTokens?, if_neg unmarked.1, if_neg unmarked.2]

/-! ## Written tokens are read back -/

theorem joinBare_empty (tokens : List Token) :
    joinBare "" tokens = tokens := by
  cases tokens with
  | nil => rfl
  | cons token rest => cases token <;> simp [joinBare]

theorem joinBare_append
    (first second : String)
    (tokens : List Token) :
    joinBare (first ++ second) tokens =
      joinBare first (joinBare second tokens) := by
  by_cases empty : second = ""
  · rw [empty, joinBare_empty, String.append_empty]
  · cases tokens with
    | nil => simp [joinBare, empty]
    | cons token rest =>
        cases token <;> simp [joinBare, empty, String.append_assoc]

/-- Reading passes over bare text character by character and joins it again. -/
theorem readTokens?_append_of_unmarked
    {text : List Char}
    (unmarked : ∀ c ∈ text, isMark c = false)
    (rest : List Char) :
    readTokens? (text ++ rest) =
      (readTokens? rest).map (joinBare (String.ofList text)) := by
  induction text with
  | nil =>
      simp [show joinBare "" = id from funext joinBare_empty]
  | cons c tail ih =>
      have tailRead :=
        ih fun d member => unmarked d (List.mem_cons_of_mem c member)
      have split :
          String.ofList (c :: tail) =
            String.ofList [c] ++ String.ofList tail := by
        rw [← String.ofList_append]
        rfl
      rw [List.cons_append, readTokens?_bare (unmarked c List.mem_cons_self),
        tailRead, Option.map_map, split]
      congr 1
      funext tokens
      exact (joinBare_append _ _ _).symm

/-- Reading back what was put between backticks gives the text and leaves what
follows it, unless that begins with a backtick. -/
theorem readNameBody_nameChars
    (characters rest : List Char)
    (ends : rest.head? ≠ some '\x60') :
    readNameBody (nameChars characters ++ '\x60' :: rest) =
      some (characters, rest) := by
  induction characters with
  | nil =>
      cases rest with
      | nil => rfl
      | cons c others =>
          have different : c ≠ '\x60' := by simpa using ends
          simp [nameChars, doubled, readNameBody, different]
  | cons c others ih =>
      rw [nameChars] at ih ⊢
      by_cases mark : c = '\x60'
      · subst mark
        simp [doubled_cons_self, readNameBody, ih]
      · simp [doubled_cons_of_ne mark, readNameBody, mark, ih]

/-- Whether tokens begin with bare text or are none at all. -/
def beginsBare : List Token → Bool
  | [] => true
  | .bare _ :: _ => true
  | _ => false

/-- Tokens that stay apart when they are written: bare text is not empty and
holds no quotation mark, and quoted tokens do not touch. -/
def Separate : List Token → Prop
  | [] => True
  | .bare text :: rest =>
      text ≠ "" ∧ (∀ c ∈ text.toList, isMark c = false) ∧ Separate rest
  | _ :: rest => beginsBare rest = true ∧ Separate rest

/-- Tokens with the bare texts that stand next to one another joined. -/
def merged : List Token → List Token
  | [] => []
  | .bare text :: rest => joinBare text (merged rest)
  | token :: rest => token :: merged rest

theorem Separate.head_unmarked
    {tokens : List Token}
    (separate : Separate tokens)
    (bare : beginsBare tokens = true)
    {c : Char}
    (head : (tokens.flatMap Token.chars).head? = some c) :
    isMark c = false := by
  cases tokens with
  | nil => simp at head
  | cons token rest =>
      cases token with
      | bare text =>
          rcases separate with ⟨present, unmarked, _⟩
          have nonempty : text.toList ≠ [] := by
            simpa using present
          rcases List.exists_cons_of_ne_nil nonempty with ⟨first, others, whole⟩
          have same : first = c := by
            simpa [Token.chars, whole] using head
          exact unmarked c (by simp [whole, same])
      | name text => simp [beginsBare] at bare
      | literal text => simp [beginsBare] at bare

/-- Separate tokens are read back from their written characters. -/
theorem readTokens?_flatMap_chars
    {tokens : List Token}
    (separate : Separate tokens) :
    readTokens? (tokens.flatMap Token.chars) = some (merged tokens) := by
  induction tokens with
  | nil =>
      simp [readTokens?, merged]
  | cons token rest ih =>
      cases token with
      | bare text =>
          rcases separate with ⟨_, unmarked, restSeparate⟩
          rw [List.flatMap_cons, Token.chars,
            readTokens?_append_of_unmarked unmarked, ih restSeparate]
          simp [merged]
      | name text =>
          rcases separate with ⟨bare, restSeparate⟩
          have apart : (rest.flatMap Token.chars).head? ≠ some '\x60' := by
            intro head
            exact absurd (restSeparate.head_unmarked bare head) (by decide)
          have read := readNameBody_nameChars text.toList _ apart
          have whole :
              (Token.name text :: rest).flatMap Token.chars =
                '\x60' :: (nameChars text.toList ++
                  '\x60' :: rest.flatMap Token.chars) := by
            simp [Token.chars]
          rw [whole, readTokens?_name read, ih restSeparate]
          simp [merged]
      | literal text =>
          rcases separate with ⟨bare, restSeparate⟩
          have apart : (rest.flatMap Token.chars).head? ≠ some '\'' := by
            intro head
            exact absurd (restSeparate.head_unmarked bare head) (by decide)
          have read := readLiteralBody_literalChars text.toList _ apart
          have whole :
              (Token.literal text :: rest).flatMap Token.chars =
                '\'' :: (literalChars text.toList ++
                  '\'' :: rest.flatMap Token.chars) := by
            simp [Token.chars]
          rw [whole, readTokens?_literal read, ih restSeparate]
          simp [merged]

end PrivilegeGraph.Sql
