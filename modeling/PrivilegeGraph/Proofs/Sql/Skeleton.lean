import PrivilegeGraph.Catalog
import PrivilegeGraph.Proofs.Catalog
import PrivilegeGraph.Proofs.Sql.Reading

/-!
# What stands outside quotes

The skeleton of a list of tokens keeps bare text as it is and forgets what is
quoted.  Plain text is put together from the fixed texts of administrative
statements; it has no character that could end a statement, begin a comment
or open a quotation.
-/

namespace PrivilegeGraph.Sql

/-- A place of a skeleton.  An empty literal is a place of its own, as it
stands for no account. -/
inductive Slot
  | bare (text : String)
  | name
  | literal
  | nothing
  deriving DecidableEq, Repr

/-- The place that a token fills. -/
def Token.slot : Token → Slot
  | bare text => .bare text
  | name _ => .name
  | literal text => if text = "" then .nothing else .literal

/-- What is quoted in tokens, unquoted, in order. -/
def contents : List Token → List String
  | [] => []
  | .bare _ :: rest => contents rest
  | .name text :: rest => text :: contents rest
  | .literal text :: rest => text :: contents rest

@[simp]
theorem contents_append (first second : List Token) :
    contents (first ++ second) = contents first ++ contents second := by
  induction first with
  | nil => rfl
  | cons token rest ih =>
      cases token with
      | bare text => exact ih
      | name text => exact congrArg (text :: ·) ih
      | literal text => exact congrArg (text :: ·) ih

/-! ## Plain text -/

/-- The words and signs around the keywords of privileges. -/
def frameWords : List String :=
  ["GRANT", "REVOKE", "TO", "FROM", "ON", "PROXY", "FUNCTION", "PROCEDURE",
    "SELECT", "INSERT", "UPDATE", "REFERENCES", "WITH GRANT OPTION",
    "WITH ADMIN OPTION", "*.*", ".*", ".", "@", ",", "(", ")", " "]

/-- The fixed texts of administrative statements. -/
def lexemes : List String :=
  frameWords ++
    Privilege.table.map fun privilege =>
      (Catalog.Entry.mk privilege false).keyword

/-- Text that is put together from fixed texts. -/
inductive Plain : String → Prop
  | empty : Plain ""
  | cons
      {lexeme rest : String}
      (fixed : lexeme ∈ lexemes)
      (plain : Plain rest) :
      Plain (lexeme ++ rest)

/-- The characters of fixed texts. -/
def isPlainChar (c : Char) : Bool :=
  Catalog.isKeywordChar c || " *.@,()".toList.contains c

theorem isPlainChar_of_mem_lexeme
    {lexeme : String}
    (fixed : lexeme ∈ lexemes)
    {c : Char}
    (member : c ∈ lexeme.toList) :
    isPlainChar c = true := by
  rcases List.mem_append.1 fixed with word | keyword
  · have checked :
        ∀ lexeme ∈ frameWords, lexeme.toList.all isPlainChar = true := by
      decide
    exact List.all_eq_true.1 (checked lexeme word) c member
  · rcases List.mem_map.1 keyword with ⟨privilege, listed, rfl⟩
    have ofKeyword : Catalog.isKeywordChar c = true :=
      Catalog.Entry.isKeywordChar_of_mem_keyword listed member
    simp [isPlainChar, ofKeyword]

namespace Plain

theorem append
    {first second : String}
    (firstPlain : Plain first)
    (secondPlain : Plain second) :
    Plain (first ++ second) := by
  induction firstPlain with
  | empty => rwa [String.empty_append]
  | cons fixed _ ih =>
      rw [String.append_assoc]
      exact cons fixed ih

theorem isPlainChar_of_mem
    {text : String}
    (plain : Plain text)
    {c : Char}
    (member : c ∈ text.toList) :
    isPlainChar c = true := by
  induction plain with
  | empty => cases member
  | cons fixed _ ih =>
      rw [String.toList_append, List.mem_append] at member
      rcases member with here | later
      · exact isPlainChar_of_mem_lexeme fixed here
      · exact ih later

/-- A text that is frame words in a row is plain. -/
theorem of_frameWords
    {text : String}
    (words : List String)
    (whole : String.join words = text)
    (fixed : ∀ word ∈ words, word ∈ frameWords) :
    Plain text := by
  rw [← whole]
  clear whole
  induction words with
  | nil => exact empty
  | cons word rest ih =>
      rw [String.join_cons]
      have here : word ∈ lexemes :=
        List.mem_append_left _ (fixed word List.mem_cons_self)
      have later : ∀ word ∈ rest, word ∈ frameWords :=
        fun other member => fixed other (List.mem_cons_of_mem word member)
      exact cons here (ih later)

theorem keyword
    {entry : Catalog.Entry}
    (listed : entry.privilege ∈ Privilege.table) :
    Plain entry.keyword := by
  have fixed : entry.keyword ∈ lexemes :=
    List.mem_append_right _
      (List.mem_map.2 ⟨entry.privilege, listed, rfl⟩)
  have plain := cons fixed empty
  rwa [String.append_empty] at plain

end Plain

/-- Plain text is printable ASCII, and none of its characters could end a
statement, begin a comment or open a quotation. -/
theorem harmless_of_isPlainChar
    {c : Char}
    (plain : isPlainChar c = true) :
    32 ≤ c.toNat ∧ c.toNat < 127 ∧
      c ∉ [';', '#', '-', '/', '\'', '\x60'] := by
  have refused :
      [';', '#', '-', '/', '\'', '\x60'].all
        (fun d => !isPlainChar d) = true := by
    decide
  have printable :
      ['_', ' ', ' ', '*', '.', '@', ',', '(', ')'].all
        (fun d => decide (32 ≤ d.toNat ∧ d.toNat < 127)) = true := by
    decide
  have absent : c ∉ [';', '#', '-', '/', '\'', '\x60'] := by
    intro member
    have notPlain := List.all_eq_true.mp refused c member
    rw [plain] at notPlain
    cases notPlain
  by_cases upper : c.isUpper = true
  · simp only [Char.isUpper, decide_eq_true_eq,
      UInt32.le_iff_toNat_le] at upper
    rcases upper with ⟨first, last⟩
    have from65 : 65 ≤ c.toNat := first
    have to90 : c.toNat ≤ 90 := last
    exact ⟨by omega, by omega, absent⟩
  · have fixed : c ∈ ['_', ' ', ' ', '*', '.', '@', ',', '(', ')'] := by
      simpa [isPlainChar, Catalog.isKeywordChar, upper, or_assoc] using plain
    have bounds := of_decide_eq_true (List.all_eq_true.mp printable c fixed)
    exact ⟨bounds.1, bounds.2, absent⟩

theorem Plain.unmarked
    {text : String}
    (plain : Plain text)
    {c : Char}
    (member : c ∈ text.toList) :
    isMark c = false := by
  have absent := (harmless_of_isPlainChar (plain.isPlainChar_of_mem member)).2.2
  simp only [isMark, Bool.or_eq_false_iff, beq_eq_false_iff_ne]
  constructor
  · rintro rfl
    exact absent (by decide)
  · rintro rfl
    exact absent (by decide)

/-! ## What joining bare texts leaves unchanged -/

theorem contents_joinBare
    (text : String)
    (tokens : List Token) :
    contents (joinBare text tokens) = contents tokens := by
  by_cases empty : text = ""
  · rw [empty, joinBare_empty]
  · cases tokens with
    | nil => simp [joinBare, empty, contents]
    | cons token rest =>
        cases token <;> simp [joinBare, empty, contents]

theorem contents_merged (tokens : List Token) :
    contents (merged tokens) = contents tokens := by
  induction tokens with
  | nil => rfl
  | cons token rest ih =>
      cases token with
      | bare text =>
          rw [merged, contents_joinBare, ih]
          rfl
      | name text => simp [merged, contents, ih]
      | literal text => simp [merged, contents, ih]

theorem plain_joinBare
    {text : String}
    {tokens : List Token}
    (plain : Plain text)
    (rest : ∀ found, .bare found ∈ tokens → Plain found) :
    ∀ found, .bare found ∈ joinBare text tokens → Plain found := by
  intro found member
  by_cases empty : text = ""
  · rw [empty, joinBare_empty] at member
    exact rest found member
  · have alone :
        ∀ found, .bare found ∈ Token.bare text :: tokens → Plain found := by
      intro found member
      rcases List.mem_cons.1 member with same | later
      · cases same
        exact plain
      · exact rest found later
    cases tokens with
    | nil => exact alone found (by simpa [joinBare, empty] using member)
    | cons token others =>
        cases token with
        | bare next =>
            rcases List.mem_cons.1 member with same | later
            · cases same
              exact plain.append (rest next List.mem_cons_self)
            · exact rest found (List.mem_cons_of_mem _ later)
        | name next =>
            exact alone found (by simpa [joinBare, empty] using member)
        | literal next =>
            exact alone found (by simpa [joinBare, empty] using member)

theorem plain_merged
    {tokens : List Token}
    (plain : ∀ found, .bare found ∈ tokens → Plain found) :
    ∀ found, .bare found ∈ merged tokens → Plain found := by
  induction tokens with
  | nil => exact plain
  | cons token rest ih =>
      have restPlain := ih fun text member =>
        plain text (List.mem_cons_of_mem token member)
      cases token with
      | bare text =>
          exact plain_joinBare (plain text List.mem_cons_self) restPlain
      | name text =>
          intro found member
          rcases List.mem_cons.1 member with same | later
          · cases same
          · exact restPlain found later
      | literal text =>
          intro found member
          rcases List.mem_cons.1 member with same | later
          · cases same
          · exact restPlain found later

/-! ## Quoted tokens in a frame of plain text -/

/-- Whether quoted tokens are kept apart by plain text. -/
def Framed : List Token → Prop
  | [] => True
  | .bare text :: rest => text ≠ "" ∧ Plain text ∧ Framed rest
  | _ :: rest => beginsBare rest = true ∧ Framed rest

namespace Framed

theorem append
    {first second : List Token}
    (firstFramed : Framed first)
    (secondFramed : Framed second)
    (begins : beginsBare second = true) :
    Framed (first ++ second) := by
  have begins_append :
      ∀ tokens, beginsBare tokens = true →
        beginsBare (tokens ++ second) = true := by
    intro tokens bare
    cases tokens with
    | nil => exact begins
    | cons token rest => cases token <;> exact bare
  induction first with
  | nil => exact secondFramed
  | cons token rest ih =>
      cases token with
      | bare text =>
          rcases firstFramed with ⟨present, plain, restFramed⟩
          exact ⟨present, plain, ih restFramed⟩
      | name text =>
          rcases firstFramed with ⟨bare, restFramed⟩
          exact ⟨begins_append rest bare, ih restFramed⟩
      | literal text =>
          rcases firstFramed with ⟨bare, restFramed⟩
          exact ⟨begins_append rest bare, ih restFramed⟩

theorem separate
    {tokens : List Token}
    (framed : Framed tokens) :
    Separate tokens := by
  induction tokens with
  | nil => exact trivial
  | cons token rest ih =>
      cases token with
      | bare text =>
          rcases framed with ⟨present, plain, restFramed⟩
          exact ⟨present, fun _ => plain.unmarked, ih restFramed⟩
      | name text => exact ⟨framed.1, ih framed.2⟩
      | literal text => exact ⟨framed.1, ih framed.2⟩

theorem plain_of_mem
    {tokens : List Token}
    (framed : Framed tokens) :
    ∀ text, .bare text ∈ tokens → Plain text := by
  intro text member
  induction tokens with
  | nil => cases member
  | cons token rest ih =>
      cases token with
      | bare first =>
          rcases framed with ⟨_, plain, restFramed⟩
          rcases List.mem_cons.1 member with same | later
          · cases same
            exact plain
          · exact ih restFramed later
      | name first =>
          rcases List.mem_cons.1 member with same | later
          · cases same
          · exact ih framed.2 later
      | literal first =>
          rcases List.mem_cons.1 member with same | later
          · cases same
          · exact ih framed.2 later

/-- Framed tokens are read back from their text. -/
theorem readTokens?_tokensText
    {tokens : List Token}
    (framed : Framed tokens) :
    readTokens? (tokensText tokens).toList = some (merged tokens) := by
  rw [tokensText, String.toList_ofList]
  exact readTokens?_flatMap_chars framed.separate

end Framed

end PrivilegeGraph.Sql
