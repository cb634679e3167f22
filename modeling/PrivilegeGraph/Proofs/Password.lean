import Mathlib.Data.List.Nodup
import Mathlib.Data.List.Perm.Subperm
import PrivilegeGraph.Password
import PrivilegeGraph.Program

/-!
# Passwords drawn from a stream

A password is a block of an endless stream of characters.  The stream is
written here with the alphabet that it is drawn from, and the making of a
password as a program that draws one character after another and begins a new
block when the last one was not acceptable.  What this program ends with is
the first acceptable block, and the number of its draws tells that the blocks
follow one another without a gap.  An acceptable block holds a character of
each of four classes, and since no character is in two of them it cannot be
shorter than four.
-/

namespace PrivilegeGraph.Password

open Program (Handler)

/-! ## The alphabet -/

def capitals : List Char := "ABCDEFGHIJKLMNOPQRSTUVWXYZ".toList

def smallLetters : List Char := "abcdefghijklmnopqrstuvwxyz".toList

def digits : List Char := "0123456789".toList

def symbols : List Char :=
  "!\"#$%&'()*+,-./:;<=>?@[\\]^_`\x7b|\x7d~".toList

/-- The classes of which an acceptable password has a character each. -/
def classes : List (List Char) :=
  [capitals, smallLetters, digits, symbols]

/-- The characters that passwords are made of. -/
def alphabet : List Char := classes.flatten

/-- Whether characters are acceptable as a password. -/
def Acceptable (characters : List Char) : Prop :=
  ∀ members ∈ classes, ∃ c ∈ characters, c ∈ members

/-- The characters of a stream of draws. -/
def stream (draws : Draws) : Nat → Char :=
  fun index => visibleChar (draws index)

theorem visibleChar_mem_alphabet :
    ∀ draw, visibleChar draw ∈ alphabet := by
  decide +kernel

theorem exists_visibleChar_eq :
    ∀ c ∈ alphabet, ∃ draw, visibleChar draw = c := by
  have each : ∀ position, ∃ draw, visibleChar draw = alphabet.get position := by
    decide +kernel
  intro c member
  rcases List.get_of_mem member with ⟨position, rfl⟩
  exact each position

/-- Draws give every stream of characters of the alphabet, and no other. -/
theorem exists_stream_eq_iff {characters : Nat → Char} :
    (∃ draws, stream draws = characters) ↔
      ∀ index, characters index ∈ alphabet := by
  constructor
  · rintro ⟨draws, rfl⟩ index
    exact visibleChar_mem_alphabet (draws index)
  · intro visible
    choose draws drawn using fun index =>
      exists_visibleChar_eq _ (visible index)
    exact ⟨draws, funext drawn⟩

/-- A test that only ASCII characters pass is a list of characters, if it is
one up to there. -/
theorem test_iff_mem
    {test : Char → Bool}
    {characters : List Char}
    (ascii : ∀ c, test c = true → c.toNat < 0x7f)
    (listed :
      ∀ code < 0x7f,
        test (Char.ofNat code) = true → Char.ofNat code ∈ characters)
    (passes : characters.all test = true)
    {c : Char} :
    test c = true ↔ c ∈ characters := by
  constructor
  · intro passed
    have small := ascii c passed
    rw [← Char.ofNat_toNat c] at passed ⊢
    exact listed c.toNat small passed
  · exact List.all_eq_true.1 passes c

theorem ascii_of_le
    {c last : Char}
    (below : c ≤ last)
    (ascii : last.toNat < 0x7f) :
    c.toNat < 0x7f := by
  have bound : c.toNat ≤ last.toNat := below
  omega

theorem isUpper_iff_mem {c : Char} : isUpper c = true ↔ c ∈ capitals := by
  apply test_iff_mem _ (by decide +kernel) (by decide +kernel)
  intro c upper
  have bounds : 'A' ≤ c ∧ c ≤ 'Z' := by simpa [isUpper] using upper
  exact ascii_of_le bounds.2 (by decide)

theorem isLower_iff_mem {c : Char} :
    isLower c = true ↔ c ∈ smallLetters := by
  apply test_iff_mem _ (by decide +kernel) (by decide +kernel)
  intro c lower
  have bounds : 'a' ≤ c ∧ c ≤ 'z' := by simpa [isLower] using lower
  exact ascii_of_le bounds.2 (by decide)

theorem isDigit_iff_mem {c : Char} :
    Text.isDigit c = true ↔ c ∈ digits := by
  apply test_iff_mem _ (by decide +kernel) (by decide +kernel)
  intro c digit
  have bounds : '0' ≤ c ∧ c ≤ '9' := by simpa [Text.isDigit] using digit
  exact ascii_of_le bounds.2 (by decide)

theorem isSymbol_iff_mem {c : Char} :
    isSymbol c = true ↔ c ∈ symbols := by
  apply test_iff_mem _ (by decide +kernel) (by decide +kernel)
  intro c symbol
  have visible : isVisible c = true := by
    simp only [isSymbol, Bool.and_eq_true] at symbol
    exact symbol.1.1.1
  have bounds : '!' ≤ c ∧ c ≤ '~' := by simpa [isVisible] using visible
  exact ascii_of_le bounds.2 (by decide)

/-- The policy asks for a character of each class. -/
theorem satisfiesPolicy_iff {password : String} :
    satisfiesPolicy password = true ↔ Acceptable password.toList := by
  simp [satisfiesPolicy, Acceptable, classes, isUpper_iff_mem,
    isLower_iff_mem, isDigit_iff_mem, isSymbol_iff_mem, and_assoc]

/-! ## How short a password can be -/

/-- From characters that meet every one of some classes that have nothing in
common, one can be chosen for each class. -/
theorem exists_chosen
    {sets : List (List Char)}
    {characters : List Char}
    (apart : sets.Pairwise List.Disjoint)
    (meets : ∀ members ∈ sets, ∃ c ∈ characters, c ∈ members) :
    ∃ chosen : List Char,
      chosen.length = sets.length ∧ chosen.Nodup ∧ chosen ⊆ characters ∧
        ∀ c ∈ chosen, ∃ members ∈ sets, c ∈ members := by
  induction sets with
  | nil => exact ⟨[], by simp⟩
  | cons first rest ih =>
      rcases List.pairwise_cons.1 apart with ⟨apartFirst, apartRest⟩
      rcases List.forall_mem_cons.1 meets with ⟨⟨c, among, member⟩, others⟩
      rcases ih apartRest others with ⟨chosen, many, distinct, inside, origin⟩
      have fresh : c ∉ chosen := by
        intro again
        rcases origin c again with ⟨members, later, member'⟩
        exact apartFirst members later member member'
      refine
        ⟨c :: chosen, by simp [many], List.nodup_cons.2 ⟨fresh, distinct⟩,
          List.cons_subset.2 ⟨among, inside⟩, ?_⟩
      intro other here
      rcases List.mem_cons.1 here with rfl | before
      · exact ⟨first, List.mem_cons_self, member⟩
      · rcases origin other before with ⟨members, later, member'⟩
        exact ⟨members, List.mem_cons_of_mem first later, member'⟩

theorem Acceptable.four_le
    {characters : List Char}
    (acceptable : Acceptable characters) :
    4 ≤ characters.length := by
  have distinct : alphabet.Nodup := by
    decide +kernel
  have apart := (List.nodup_flatten.1 distinct).2
  rcases exists_chosen apart acceptable with ⟨chosen, many, once, inside, _⟩
  have bound := (List.subperm_of_subset once inside).length_le
  rwa [many] at bound

/-! ## Blocks -/

/-- The characters of one of the blocks of a length that follow one another in
a stream. -/
def blockChars
    (characters : Nat → Char)
    (length index : Nat) :
    List Char :=
  (List.range length).map fun offset => characters (index * length + offset)

theorem block_eq
    (draws : Draws)
    (length index : Nat) :
    block draws length index =
      String.ofList (blockChars (stream draws) length index) :=
  rfl

theorem satisfiesPolicy_block_iff
    {draws : Draws}
    {length index : Nat} :
    satisfiesPolicy (block draws length index) = true ↔
      Acceptable (blockChars (stream draws) length index) := by
  rw [satisfiesPolicy_iff, block_eq, String.toList_ofList]

/-- The first acceptable block among those that are tried. -/
def firstAcceptable?
    (draws : Draws)
    (length : Nat) :
    Option Nat :=
  (List.range maxAttempts).find? fun index =>
    satisfiesPolicy (block draws length index)

/-- Whether a block is the first acceptable one, and one of those that are
tried. -/
structure IsFirst
    (characters : Nat → Char)
    (length index : Nat) : Prop where
  tried : index < 20
  acceptable : Acceptable (blockChars characters length index)
  first :
    ∀ earlier < index, ¬Acceptable (blockChars characters length earlier)

section

variable
    {draws : Draws}
    {length : Nat}

theorem firstAcceptable?_eq_some_iff {index : Nat} :
    firstAcceptable? draws length = some index ↔
      IsFirst (stream draws) length index := by
  rw [firstAcceptable?, List.find?_range_eq_some]
  simp only [List.mem_range, Bool.not_eq_true', ← Bool.not_eq_true,
    satisfiesPolicy_block_iff]
  constructor
  · rintro ⟨acceptable, tried, first⟩
    exact ⟨tried, acceptable, first⟩
  · rintro ⟨tried, acceptable, first⟩
    exact ⟨acceptable, tried, first⟩

theorem firstAcceptable?_eq_none_iff :
    firstAcceptable? draws length = none ↔
      ∀ index < 20, ¬Acceptable (blockChars (stream draws) length index) := by
  simp only [firstAcceptable?, List.find?_eq_none, List.mem_range,
    satisfiesPolicy_block_iff]
  rfl

/-- What is generated is the first acceptable block. -/
theorem generate_random_eq :
    generate (.random length) draws =
      match firstAcceptable? draws (wantedLength length) with
      | some index => .ok (block draws (wantedLength length) index)
      | none => .error (.password (.exhausted maxAttempts)) := by
  rw [generate, candidates, List.find?_map, firstAcceptable?]
  unfold Function.comp
  cases (List.range maxAttempts).find? fun index =>
      satisfiesPolicy (block draws (wantedLength length) index) <;> rfl

end

/-! ## Drawing one character after another -/

/-- The party that draws: each question is for one more draw. -/
def source : Interface where
  Call := Unit
  Answer _ := Fin 94

/-- A stream of draws as a source.  Its state is how many it has given. -/
def Draws.handler (draws : Draws) : Handler source Nat :=
  fun _ taken => (draws taken, taken + 1)

def drawChar : Program source Error Char :=
  .ask () fun draw => .done (.ok (visibleChar draw))

def drawBlock (length : Nat) : Program source Error (List Char) :=
  Program.collect (fun _ => drawChar) (List.range length)

/-- Draw blocks until one is acceptable, but no more than some of them. -/
def drawAcceptable (length : Nat) : Nat → Program source Error String
  | 0 => Program.fail (.password (.exhausted maxAttempts))
  | attempts + 1 => do
      let characters ← drawBlock length
      if satisfiesPolicy (String.ofList characters) then
        return String.ofList characters
      else
        drawAcceptable length attempts

/-- Make a password by drawing. -/
def draw : Request → Program source Error String
  | .noPassword => Program.fail (.password .noCredential)
  | .random length => drawAcceptable (wantedLength length) maxAttempts

/-- Whether a program that draws from a stream, from which some draws have been
taken, ends with a result when so many have been taken in all. -/
def Ends
    {α : Type}
    (draws : Draws)
    (before : Nat)
    (program : Program source Error α)
    (result : Except Error α)
    (after : Nat) : Prop :=
  (program.run draws.handler before).result = result ∧
    (program.run draws.handler before).state = after

section

variable {draws : Draws}

theorem Ends.bind
    {α β : Type}
    {before between after : Nat}
    {program : Program source Error α}
    {next : α → Program source Error β}
    {value : α}
    {result : Except Error β}
    (first : Ends draws before program (.ok value) between)
    (rest : Ends draws between (next value) result after) :
    Ends draws before (program >>= next) result after := by
  rcases first with ⟨ended, rfl⟩
  rw [Ends, Program.bind_eq, Program.run_bind]
  simp only [ended]
  exact rest

/-- As many characters are drawn as there are values to draw one for. -/
theorem ends_collect_drawChar
    (draws : Draws)
    {ρ : Type}
    (values : List ρ)
    (before : Nat) :
    Ends draws before (Program.collect (fun _ => drawChar) values)
      (.ok ((List.range values.length).map fun offset =>
        stream draws (before + offset)))
      (before + values.length) := by
  induction values generalizing before with
  | nil => exact ⟨rfl, rfl⟩
  | cons value rest ih =>
      have first :
          Ends draws before drawChar (.ok (stream draws before))
            (before + 1) :=
        ⟨rfl, rfl⟩
      refine first.bind ((ih (before + 1)).bind ⟨?_, ?_⟩)
      · have shifted :
            (fun offset => stream draws (before + offset)) ∘ Nat.succ =
              fun offset => stream draws (before + 1 + offset) := by
          funext offset
          exact congrArg (stream draws) (by simp; omega)
        rw [List.length_cons, List.range_succ_eq_map, List.map_cons,
          List.map_map, shifted]
        rfl
      · show before + 1 + rest.length = before + (rest.length + 1)
        omega

theorem ends_drawBlock (length index : Nat) :
    Ends draws (index * length) (drawBlock length)
      (.ok (blockChars (stream draws) length index))
      ((index + 1) * length) := by
  have drawn := ends_collect_drawChar draws (List.range length) (index * length)
  rw [List.length_range] at drawn
  exact ⟨drawn.1, drawn.2.trans (Nat.succ_mul index length).symm⟩

/-- A block that is not acceptable is passed over. -/
theorem Ends.skip
    {length attempts start after : Nat}
    {result : Except Error String}
    (unacceptable : satisfiesPolicy (block draws length start) = false)
    (rest :
      Ends draws ((start + 1) * length) (drawAcceptable length attempts)
        result after) :
    Ends draws (start * length) (drawAcceptable length (attempts + 1)) result
      after := by
  apply (ends_drawBlock length start).bind
  rw [← block_eq, unacceptable]
  exact rest

/-- Drawing on from a block ends with the first acceptable one from there on,
and no character is drawn beyond it. -/
theorem ends_drawAcceptable
    (draws : Draws)
    (length attempts start : Nat) :
    match
        (List.range' start attempts).find? fun index =>
          satisfiesPolicy (block draws length index) with
    | some index =>
        Ends draws (start * length) (drawAcceptable length attempts)
          (.ok (block draws length index)) ((index + 1) * length)
    | none =>
        Ends draws (start * length) (drawAcceptable length attempts)
          (.error (.password (.exhausted maxAttempts)))
          ((start + attempts) * length) := by
  induction attempts generalizing start with
  | zero => exact ⟨rfl, rfl⟩
  | succ attempts ih =>
      rw [List.range'_succ, List.find?_cons]
      cases acceptable : satisfiesPolicy (block draws length start) with
      | true =>
          apply (ends_drawBlock length start).bind
          rw [← block_eq, acceptable]
          exact ⟨rfl, rfl⟩
      | false =>
          have later := ih (start + 1)
          rw [show start + 1 + attempts = start + (attempts + 1) by omega]
            at later
          split at later
          · next found =>
            rw [found]
            exact later.skip acceptable
          · next found =>
            rw [found]
            exact later.skip acceptable

end

/-! ## What becomes of a request -/

/-- What becomes of a request when characters are drawn from a stream, and how
many of them are drawn. -/
inductive Outcome (characters : Nat → Char) :
    Request → Except Error String → Nat → Prop
  | refused :
      Outcome characters .noPassword (.error (.password .noCredential)) 0
  | made
      {length wanted index : Nat}
      (asked : wanted = if length = 0 then 12 else length)
      (first : IsFirst characters wanted index) :
      Outcome characters (.random length)
        (.ok (String.ofList (blockChars characters wanted index)))
        ((index + 1) * wanted)
  | exhausted
      {length wanted : Nat}
      (asked : wanted = if length = 0 then 12 else length)
      (none :
        ∀ index < 20, ¬Acceptable (blockChars characters wanted index)) :
      Outcome characters (.random length)
        (.error (.password (.exhausted 20))) (20 * wanted)

theorem IsFirst.unique
    {characters : Nat → Char}
    {length index index' : Nat}
    (first : IsFirst characters length index)
    (first' : IsFirst characters length index') :
    index = index' := by
  rcases Nat.lt_trichotomy index index' with before | same | after
  · exact absurd first.acceptable (first'.first index before)
  · exact same
  · exact absurd first'.acceptable (first.first index' after)

theorem Outcome.unique
    {characters : Nat → Char}
    {request : Request}
    {result result' : Except Error String}
    {taken taken' : Nat}
    (outcome : Outcome characters request result taken)
    (outcome' : Outcome characters request result' taken') :
    result = result' ∧ taken = taken' := by
  cases outcome with
  | refused =>
      cases outcome'
      exact ⟨rfl, rfl⟩
  | made asked first =>
      subst asked
      cases outcome' with
      | made asked first' =>
          subst asked
          cases first.unique first'
          exact ⟨rfl, rfl⟩
      | exhausted asked none =>
          subst asked
          exact absurd first.acceptable (none _ first.tried)
  | exhausted asked none =>
      subst asked
      cases outcome' with
      | made asked first =>
          subst asked
          exact absurd first.acceptable (none _ first.tried)
      | exhausted asked none' =>
          subst asked
          exact ⟨rfl, rfl⟩

/-- Drawing makes the password that is generated. -/
theorem exists_outcome
    (draws : Draws)
    (request : Request) :
    ∃ taken,
      Ends draws 0 (draw request) (generate request draws) taken ∧
        Outcome (stream draws) request (generate request draws) taken := by
  cases request with
  | noPassword => exact ⟨0, ⟨rfl, rfl⟩, .refused⟩
  | random length =>
      have drawn :=
        ends_drawAcceptable draws (wantedLength length) maxAttempts 0
      rw [Nat.zero_mul, Nat.zero_add, ← List.range_eq_range'] at drawn
      rw [generate_random_eq]
      cases found : firstAcceptable? draws (wantedLength length) with
      | some index =>
          have first := firstAcceptable?_eq_some_iff.1 found
          rw [firstAcceptable?] at found
          rw [found] at drawn
          exact ⟨_, drawn, .made rfl first⟩
      | none =>
          have none := firstAcceptable?_eq_none_iff.1 found
          rw [firstAcceptable?] at found
          rw [found] at drawn
          exact ⟨_, drawn, .exhausted rfl none⟩

/-- A stream that begins with a character of each class. -/
def varied : Draws := fun index => [32, 64, 15, 0].getD index 0

theorem acceptable_varied
    {length : Nat}
    (long : 4 ≤ length) :
    Acceptable (blockChars (stream varied) length 0) := by
  have among :
      ∀ offset < 4,
        stream varied offset ∈ blockChars (stream varied) length 0 := by
    intro offset few
    refine List.mem_map.2 ⟨offset, List.mem_range.2 (by omega), ?_⟩
    rw [Nat.zero_mul, Nat.zero_add]
  have members :
      stream varied 0 ∈ capitals ∧ stream varied 1 ∈ smallLetters ∧
        stream varied 2 ∈ digits ∧ stream varied 3 ∈ symbols := by
    decide +kernel
  simp only [Acceptable, classes, List.forall_mem_cons, List.not_mem_nil]
  exact
    ⟨⟨_, among 0 (by omega), members.1⟩,
      ⟨_, among 1 (by omega), members.2.1⟩,
      ⟨_, among 2 (by omega), members.2.2.1⟩,
      ⟨_, among 3 (by omega), members.2.2.2⟩, by simp⟩

theorem made_of_generated
    {draws : Draws}
    {length : Nat}
    {password : String}
    (generated : generate (.random length) draws = .ok password) :
    ∃ index,
      IsFirst (stream draws) (wantedLength length) index ∧
        password.toList =
          blockChars (stream draws) (wantedLength length) index := by
  rw [generate_random_eq] at generated
  split at generated
  · next index found =>
    cases generated
    refine ⟨index, firstAcceptable?_eq_some_iff.1 found, ?_⟩
    rw [block_eq, String.toList_ofList]
  · cases generated

theorem exists_generated_iff {length : Nat} :
    (∃ draws, (generate (.random length) draws).isOk = true) ↔
      4 ≤ wantedLength length := by
  constructor
  · rintro ⟨draws, ok⟩
    cases generated : generate (.random length) draws with
    | error error =>
        rw [generated] at ok
        cases ok
    | ok password =>
        rcases made_of_generated generated with ⟨index, first, _⟩
        simpa [blockChars] using first.acceptable.four_le
  · intro long
    refine ⟨varied, ?_⟩
    have first : IsFirst (stream varied) (wantedLength length) 0 :=
      ⟨by decide, acceptable_varied long, by simp⟩
    rw [generate_random_eq, firstAcceptable?_eq_some_iff.2 first]
    rfl

/-- Over any stream of characters of the alphabet, drawing makes the first of
twenty consecutive blocks that is acceptable, and fails exactly if none is.  A
password that is made has the wanted length, is made of characters of the
alphabet and is acceptable, and a length is possible exactly from four on.
Without a password nothing is drawn. -/
theorem generate_decided :
    (∀ characters : Nat → Char,
        (∃ draws, stream draws = characters) ↔
          ∀ index, characters index ∈ alphabet) ∧
      (∀ draws request result taken,
        generate request draws = result ∧
            Ends draws 0 (draw request) result taken ↔
          Outcome (stream draws) request result taken) ∧
      (∀ draws length password,
        generate (.random length) draws = .ok password →
          password.toList.length = (if length = 0 then 12 else length) ∧
            (∀ c ∈ password.toList, c ∈ alphabet) ∧
            Acceptable password.toList) ∧
      ∀ length,
        (∃ draws, (generate (.random length) draws).isOk = true) ↔
          4 ≤ if length = 0 then 12 else length := by
  refine ⟨fun _ => exists_stream_eq_iff, ?_, ?_, fun _ => exists_generated_iff⟩
  · intro draws request result taken
    rcases exists_outcome draws request with ⟨total, ends, outcome⟩
    constructor
    · rintro ⟨rfl, ended⟩
      cases ends.2.symm.trans ended.2
      exact outcome
    · intro outcome'
      rcases outcome'.unique outcome with ⟨rfl, rfl⟩
      exact ⟨rfl, ends⟩
  · intro draws length password generated
    rcases made_of_generated generated with ⟨index, first, made⟩
    rw [made]
    have length :
        (blockChars (stream draws) (wantedLength length) index).length =
          wantedLength length := by
      simp [blockChars]
    refine ⟨length, ?_, first.acceptable⟩
    intro c member
    rcases List.mem_map.1 member with ⟨offset, _, rfl⟩
    exact visibleChar_mem_alphabet _

/-- The first block has small letters only, and the second one is the
password. -/
theorem generate_decided_secondBlock :
    let draws : Draws := fun index =>
      [64, 65, 66, 67, 64, 33, 18, 3].getD index 0
    Outcome (stream draws) (.random 4) (.ok "aB3$") 8 ∧
      generate (.random 4) draws = .ok "aB3$" ∧
        "aB3$".toList.length = 4 ∧ (∀ c ∈ "aB3$".toList, c ∈ alphabet) ∧
          Acceptable "aB3$".toList := by
  intro draws
  have generated : generate (.random 4) draws = .ok "aB3$" := by
    decide +kernel
  have ended : Ends draws 0 (draw (.random 4)) (.ok "aB3$") 8 :=
    ⟨by decide +kernel, by decide +kernel⟩
  exact
    ⟨(generate_decided.2.1 draws _ _ _).1 ⟨generated, ended⟩, generated,
      generate_decided.2.2.1 draws 4 _ generated⟩

end PrivilegeGraph.Password
