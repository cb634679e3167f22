import Mathlib
import PrivilegeGraph.Catalog
import PrivilegeGraph.Text.Case

/-!
# Facts about the catalog

What every entry of the catalog has in common: which privilege it comes from,
which characters its id and its keyword are made of, and which entries an
account can have.  The privilege table is looked at here and nowhere else.
-/

namespace PrivilegeGraph.Catalog

/-! ## Entries and the table -/

theorem mem_variants_iff
    {privilege : Privilege}
    {entry : Entry} :
    entry ∈ variants privilege ↔
      entry.privilege = privilege ∧
        (entry.withOption = true → privilege.grantable = true) := by
  rcases entry with ⟨origin, withOption⟩
  rw [variants]
  cases grantable : privilege.grantable <;>
    cases withOption <;>
      simp

theorem mem_entries_iff
    {kind : Kind}
    {generation : Generation}
    {entry : Entry} :
    entry ∈ entries kind generation ↔
      entry.privilege ∈ Privilege.table ∧
        kind ∈ entry.privilege.kinds ∧
        available generation entry.privilege = true ∧
        (entry.withOption = true → entry.privilege.grantable = true) := by
  simp only [entries, List.mem_flatMap, List.mem_filter, Bool.and_eq_true,
    decide_eq_true_eq, mem_variants_iff]
  constructor
  · rintro ⟨privilege, ⟨listed, held, present⟩, rfl, option⟩
    exact ⟨listed, held, present, option⟩
  · rintro ⟨listed, held, present, option⟩
    exact ⟨entry.privilege, ⟨listed, held, present⟩, rfl, option⟩

/-- A modern server has every entry of a legacy one. -/
theorem mem_entries_modern
    {kind : Kind}
    {generation : Generation}
    {entry : Entry}
    (member : entry ∈ entries kind generation) :
    entry ∈ entries kind .modern := by
  rw [mem_entries_iff] at member ⊢
  exact ⟨member.1, member.2.1, rfl, member.2.2.2⟩

theorem Entry.id_ne_empty
    {entry : Entry}
    (listed : entry.privilege ∈ Privilege.table) :
    entry.id ≠ "" := by
  have checked : ∀ privilege ∈ Privilege.table, privilege.id ≠ "" := by
    decide
  have present := checked entry.privilege listed
  rw [Entry.id]
  split
  · simp [present]
  · exact present

/-! ## Ids -/

/-- Whether a character may stand in the id of a privilege. -/
def isIdChar (c : Char) : Bool :=
  c.isLower || c == '_'

/-- Ids in the table are made of id characters, and none of them ends as the
ids of variants with the option do. -/
theorem toList_id_of_mem_table :
    ∀ privilege ∈ Privilege.table,
      privilege.id.toList.all isIdChar = true ∧
        ¬Privilege.grantOptionSuffix.toList <:+ privilege.id.toList := by
  decide +kernel

theorem isIdChar_of_mem_table
    {privilege : Privilege}
    (listed : privilege ∈ Privilege.table)
    {c : Char}
    (member : c ∈ privilege.id.toList) :
    isIdChar c = true :=
  List.all_eq_true.1 (toList_id_of_mem_table privilege listed).1 c member

/-- No two privileges have one id. -/
theorem nodup_map_id_table :
    (Privilege.table.map Privilege.id).Nodup := by
  decide +kernel

theorem privilege_eq_of_id_eq
    {first second : Privilege}
    (firstListed : first ∈ Privilege.table)
    (secondListed : second ∈ Privilege.table)
    (same : first.id = second.id) :
    first = second :=
  List.inj_on_of_nodup_map nodup_map_id_table firstListed secondListed same

theorem Entry.eq_of_privilege_id_eq
    {kind kind' : Kind}
    {generation generation' : Generation}
    {first second : Entry}
    (firstListed : first ∈ entries kind generation)
    (secondListed : second ∈ entries kind' generation')
    (same : first.privilege.id = second.privilege.id)
    (option : first.withOption = second.withOption) :
    first = second := by
  have privilege :=
    privilege_eq_of_id_eq (mem_entries_iff.1 firstListed).1
      (mem_entries_iff.1 secondListed).1 same
  cases first
  cases second
  cases privilege
  cases option
  rfl

/-- The id of an entry tells the entry, whatever kind it is listed for. -/
theorem Entry.eq_of_id_eq
    {kind kind' : Kind}
    {generation generation' : Generation}
    {first second : Entry}
    (firstListed : first ∈ entries kind generation)
    (secondListed : second ∈ entries kind' generation')
    (same : first.id = second.id) :
    first = second := by
  have unsuffixed :=
    (toList_id_of_mem_table _ (mem_entries_iff.1 firstListed).1).2
  have unsuffixed' :=
    (toList_id_of_mem_table _ (mem_entries_iff.1 secondListed).1).2
  rw [Entry.id, Entry.id] at same
  cases option : first.withOption <;>
    cases option' : second.withOption <;>
      simp only [option, option', Bool.false_eq_true, if_true, if_false] at same
  · exact
      Entry.eq_of_privilege_id_eq firstListed secondListed same
        (option.trans option'.symm)
  · refine absurd ?_ unsuffixed
    rw [same, String.toList_append]
    exact List.suffix_append _ _
  · refine absurd ?_ unsuffixed'
    rw [← same, String.toList_append]
    exact List.suffix_append _ _
  · exact
      Entry.eq_of_privilege_id_eq firstListed secondListed
        ((String.append_left_inj _).1 same) (option.trans option'.symm)

theorem nodup_entries
    (kind : Kind)
    (generation : Generation) :
    (entries kind generation).Nodup := by
  refine List.nodup_flatMap.2 ⟨?_, ?_⟩
  · intro privilege _
    rw [variants]
    split <;> simp
  · have distinct :
        (Privilege.table.filter fun privilege =>
          kind ∈ privilege.kinds && available generation privilege).Nodup :=
      (List.Nodup.of_map _ nodup_map_id_table).filter _
    apply distinct.imp
    intro first second different entry inFirst inSecond
    have origin := (mem_variants_iff.1 inFirst).1
    have origin' := (mem_variants_iff.1 inSecond).1
    exact different (origin.symm.trans origin')

/-- No two entries for a kind have one id. -/
theorem nodup_map_id_entries
    (kind : Kind)
    (generation : Generation) :
    ((entries kind generation).map Entry.id).Nodup :=
  (nodup_entries kind generation).map_on
    fun _ firstListed _ secondListed same =>
      Entry.eq_of_id_eq firstListed secondListed same

/-- The entry that is found for an id is the one that has it. -/
theorem lookup?_eq_some_iff
    {kind : Kind}
    {id : String}
    {generation : Generation}
    {entry : Entry} :
    lookup? kind id generation = some entry ↔
      entry ∈ entries kind generation ∧ entry.id = id := by
  constructor
  · exact mem_entries_of_lookup?
  · rintro ⟨member, rfl⟩
    cases found : lookup? kind entry.id generation with
    | none =>
        have missing := List.find?_eq_none.1 found entry member
        simp at missing
    | some other =>
        rcases mem_entries_of_lookup? found with ⟨otherMember, same⟩
        exact congrArg some (Entry.eq_of_id_eq otherMember member same)

/-- Legacy servers have neither dynamic privileges nor any about roles. -/
theorem Entry.plain_of_legacy
    {kind : Kind}
    {entry : Entry}
    (member : entry ∈ entries kind .legacy) :
    entry.privilege.modernOnly = false ∧
      entry.privilege.dynamic = false ∧
      entry.privilege.id ∉
        ["create_role", "drop_role", Privilege.roleAssignmentId] := by
  have checked :
      ∀ privilege ∈ Privilege.table,
        privilege.modernOnly = false →
          privilege.dynamic = false ∧
            privilege.id ∉
              ["create_role", "drop_role", Privilege.roleAssignmentId] := by
    decide +kernel
  rcases mem_entries_iff.1 member with ⟨listed, _, available, _⟩
  have shared : entry.privilege.modernOnly = false := by
    simpa [Catalog.available, Generation.isModern] using available
  exact ⟨shared, checked entry.privilege listed shared⟩

/-- What is held on columns and routines is never held with the right to pass
it on. -/
theorem Entry.withOption_eq_false
    {kind : Kind}
    {generation : Generation}
    {entry : Entry}
    (innermost : kind = .column ∨ kind = .routine)
    (member : entry ∈ entries kind generation) :
    entry.withOption = false := by
  have checked :
      ∀ privilege ∈ Privilege.table,
        Kind.column ∈ privilege.kinds ∨ Kind.routine ∈ privilege.kinds →
          privilege.grantable = false := by
    decide
  rw [mem_entries_iff] at member
  rcases member with ⟨listed, held, _, option⟩
  have plain : entry.privilege.grantable = false := by
    apply checked entry.privilege listed
    rcases innermost with rfl | rfl
    · exact Or.inl held
    · exact Or.inr held
  by_contra chosen
  rw [Bool.not_eq_false] at chosen
  rw [option chosen] at plain
  cases plain

/-- No entry on databases is about acting as another account. -/
theorem not_proxy_of_database_entry
    {generation : Generation}
    {entry : Entry}
    (member : entry ∈ entries .database generation) :
    entry.privilege.id ≠ Privilege.proxyId := by
  have checked :
      ∀ privilege ∈ Privilege.table, Kind.database ∈ privilege.kinds →
        privilege.id ≠ Privilege.proxyId := by
    decide
  rw [mem_entries_iff] at member
  exact checked entry.privilege member.1 member.2.1

/-- Accounts can only be acted as or be held as roles. -/
theorem privilege_of_account_entry
    {kind : Kind}
    {generation : Generation}
    {entry : Entry}
    (account : kind = .user ∨ kind = .role)
    (member : entry ∈ entries kind generation) :
    entry.privilege.id = Privilege.roleAssignmentId ∨
      entry.privilege.id = Privilege.proxyId := by
  have checked :
      ∀ privilege ∈ Privilege.table,
        Kind.user ∈ privilege.kinds ∨ Kind.role ∈ privilege.kinds →
          privilege.id = Privilege.roleAssignmentId ∨
            privilege.id = Privilege.proxyId := by
    decide
  rw [mem_entries_iff] at member
  apply checked entry.privilege member.1
  rcases account with rfl | rfl
  · exact Or.inl member.2.1
  · exact Or.inr member.2.1

/-! ## Characters of ids and keywords -/

/-- Whether a character may stand in a keyword. -/
def isKeywordChar (c : Char) : Bool :=
  c.isUpper || c == '_' || c == ' '

theorem Entry.isIdChar_of_mem_id
    {kind : Kind}
    {generation : Generation}
    {entry : Entry}
    (listed : entry ∈ entries kind generation)
    {c : Char}
    (member : c ∈ entry.id.toList) :
    isIdChar c = true := by
  have ofTable := (mem_entries_iff.1 listed).1
  have ofSuffix :
      Privilege.grantOptionSuffix.toList.all isIdChar = true := by
    decide
  rw [Entry.id] at member
  split at member
  · rw [String.toList_append, List.mem_append] at member
    rcases member with inId | inSuffix
    · exact isIdChar_of_mem_table ofTable inId
    · exact List.all_eq_true.1 ofSuffix c inSuffix
  · exact isIdChar_of_mem_table ofTable member

theorem Entry.colon_not_mem_id
    {kind : Kind}
    {generation : Generation}
    {entry : Entry}
    (listed : entry ∈ entries kind generation) :
    ':' ∉ entry.id.toList := by
  intro member
  have noIdChar : ¬isIdChar ':' = true := by decide
  exact noIdChar (Entry.isIdChar_of_mem_id listed member)

theorem ascii_of_isIdChar
    {c : Char}
    (inId : isIdChar c = true) :
    c.toNat < 0x80 := by
  rcases Bool.or_eq_true _ _ |>.mp inId with lower | underscore
  · simp only [Char.isLower, Bool.and_eq_true, decide_eq_true_eq,
      UInt32.le_iff_toNat_le] at lower
    have last : c.val.toNat ≤ 122 := lower.2
    exact Nat.lt_of_le_of_lt last (by decide)
  · have same : c = '_' := by simpa using underscore
    subst same
    decide

/-- The upper case of the characters of an id, and of blanks, is what keywords
are made of. -/
theorem isKeywordChar_upperOf
    {c d : Char}
    (source : isIdChar c = true ∨ c = ' ')
    (member : d ∈ Text.upperOf c) :
    isKeywordChar d = true := by
  rcases source with inId | rfl
  · rw [Text.upperOf_ascii (ascii_of_isIdChar inId),
      List.mem_singleton] at member
    subst member
    rcases Bool.or_eq_true _ _ |>.mp inId with lower | underscore
    · simp [isKeywordChar, Char.isAlpha, lower]
    · have same : c = '_' := by simpa using underscore
      subst same
      decide
  · have only : d = ' ' := by simpa [Text.upperOf] using member
    subst only
    decide

theorem Entry.isKeywordChar_of_mem_keyword
    {entry : Entry}
    (listed : entry.privilege ∈ Privilege.table)
    {c : Char}
    (member : c ∈ entry.keyword.toList) :
    isKeywordChar c = true := by
  have ofGrant :
      "GRANT OPTION".toList.all isKeywordChar = true := by
    decide
  rw [Entry.keyword] at member
  split at member
  · exact List.all_eq_true.1 ofGrant c member
  · split at member
    · simp only [Text.uppered, String.toList_ofList, List.mem_flatMap] at member
      rcases member with ⟨source, inId, inUpper⟩
      exact
        isKeywordChar_upperOf
          (Or.inl (isIdChar_of_mem_table listed inId)) inUpper
    · simp only [Text.uppered, Text.exchanged, String.toList_ofList,
        List.mem_flatMap, List.mem_map] at member
      rcases member with ⟨source, ⟨original, inId, rfl⟩, inUpper⟩
      apply isKeywordChar_upperOf _ inUpper
      split
      · exact Or.inr rfl
      · exact Or.inl (isIdChar_of_mem_table listed inId)

/-! ## What keywords denote -/

/-- The character of an id that stands behind one of a keyword. -/
def idCharOf (c : Char) : Char :=
  if c = ' ' then '_' else c.toLower

theorem idCharOf_toUpper
    {c : Char}
    (inId : isIdChar c = true) :
    idCharOf c.toUpper = c := by
  rcases Bool.or_eq_true _ _ |>.mp inId with lower | underscore
  · have notUpper : ¬c.isUpper = true := by
      intro upper
      simp only [Char.isUpper, Char.isLower, Bool.and_eq_true,
        decide_eq_true_eq, UInt32.le_iff_toNat_le] at upper lower
      have high : 97 ≤ c.val.toNat := lower.1
      have low : c.val.toNat ≤ 90 := upper.2
      omega
    have notBlank : c.toUpper ≠ ' ' := by
      intro blank
      have letter : c.toUpper.isUpper = true := by
        rw [Char.isUpper_toUpper_eq_isAlpha]
        simp [Char.isAlpha, lower]
      rw [blank] at letter
      cases letter
    rw [idCharOf, if_neg notBlank, Char.toLower_toUpper_eq_toLower,
      Char.toLower_eq_of_not_isUpper notUpper]
  · have same : c = '_' := by simpa using underscore
    subst same
    decide

/-- A keyword is read back as the id it was made from, whether or not its
underscores were written as blanks. -/
theorem Entry.map_idCharOf_keyword
    {entry : Entry}
    (listed : entry.privilege ∈ Privilege.table)
    (ordinary : entry.privilege.id ≠ Privilege.grantId) :
    entry.keyword.toList.map idCharOf = entry.privilege.id.toList := by
  have read :
      ∀ c ∈ entry.privilege.id.toList,
        (Text.upperOf c).map idCharOf = [c] := by
    intro c member
    have inId := isIdChar_of_mem_table listed member
    rw [Text.upperOf_ascii (ascii_of_isIdChar inId), List.map_singleton,
      idCharOf_toUpper inId]
  have readSpaced :
      ∀ c ∈ entry.privilege.id.toList,
        (Text.upperOf (if c = '_' then ' ' else c)).map idCharOf = [c] := by
    intro c member
    split
    · next underscore =>
      subst underscore
      decide
    · exact read c member
  rw [Entry.keyword, if_neg ordinary]
  split
  · simp only [Text.uppered, String.toList_ofList, List.map_flatMap]
    rw [List.flatMap_congr read]
    simp
  · simp only [Text.uppered, Text.exchanged, String.toList_ofList,
      List.map_flatMap, List.flatMap_map]
    rw [List.flatMap_congr readSpaced]
    simp

/-- Only the right to pass privileges on is not written after its id. -/
theorem Entry.keyword_eq_grantOption_iff
    {entry : Entry}
    (listed : entry.privilege ∈ Privilege.table) :
    entry.keyword = "GRANT OPTION" ↔
      entry.privilege.id = Privilege.grantId := by
  constructor
  · intro written
    by_contra ordinary
    have unused :
        ∀ privilege ∈ Privilege.table, privilege.id ≠ "grant_option" := by
      decide +kernel
    have read := Entry.map_idCharOf_keyword listed ordinary
    rw [written,
      show "GRANT OPTION".toList.map idCharOf = "grant_option".toList by decide]
      at read
    exact unused entry.privilege listed (String.toList_injective read.symm)
  · intro grants
    rw [Entry.keyword, if_pos grants]

/-- No two privileges are written with one keyword. -/
theorem Entry.privilege_eq_of_keyword_eq
    {first second : Entry}
    (firstListed : first.privilege ∈ Privilege.table)
    (secondListed : second.privilege ∈ Privilege.table)
    (same : first.keyword = second.keyword) :
    first.privilege = second.privilege := by
  apply privilege_eq_of_id_eq firstListed secondListed
  by_cases grants : first.privilege.id = Privilege.grantId
  · have written := (Entry.keyword_eq_grantOption_iff firstListed).2 grants
    rw [same, Entry.keyword_eq_grantOption_iff secondListed] at written
    rw [grants, written]
  · have ordinary : second.privilege.id ≠ Privilege.grantId := by
      rwa [ne_eq, ← Entry.keyword_eq_grantOption_iff secondListed, ← same,
        Entry.keyword_eq_grantOption_iff firstListed]
    apply String.toList_injective
    rw [← Entry.map_idCharOf_keyword firstListed grants,
      ← Entry.map_idCharOf_keyword secondListed ordinary, same]

theorem Entry.eq_of_keyword_eq
    {kind kind' : Kind}
    {generation generation' : Generation}
    {first second : Entry}
    (firstListed : first ∈ entries kind generation)
    (secondListed : second ∈ entries kind' generation')
    (written : first.keyword = second.keyword)
    (option : first.withOption = second.withOption) :
    first = second := by
  have privilege :=
    Entry.privilege_eq_of_keyword_eq (mem_entries_iff.1 firstListed).1
      (mem_entries_iff.1 secondListed).1 written
  exact
    Entry.eq_of_privilege_id_eq firstListed secondListed
      (congrArg Privilege.id privilege) option

end PrivilegeGraph.Catalog
