import PrivilegeGraph.Proofs.Reconciliation.Canonicity
import PrivilegeGraph.Proofs.Reconciliation.Script
import PrivilegeGraph.Proofs.Text.Lowering
import PrivilegeGraph.Proofs.Text.Trimming
import PrivilegeGraph.Sql.Query

/-!
# Comma lists of privileges

A comma list of privileges is read piece by piece.  No piece can make a comma
or a space, so a list put together of two lists means what the two mean, and
privileges written one after the other with a comma behind each, as the flag
columns write them, are read back.  What a principal is granted therefore does
not depend on how the privileges on one place are spread over rows.
-/

namespace PrivilegeGraph

open Text (IsLower isBlank)

namespace Privilege

/-! ## Ids in a list -/

/-- The ids of two lists joined with a comma are those of the one and then
those of the other. -/
theorem idsOf_append (first second : String) :
    idsOf (first ++ "," ++ second) = idsOf first ++ idsOf second := by
  rw [idsOf, Text.entries_append, List.map_append, idsOf, idsOf]

/-- An id is not empty and has no comma and no space. -/
theorem spec_of_mem_idsOf
    {list id : String}
    (member : id ∈ idsOf list) :
    id ≠ "" ∧ ',' ∉ id.toList ∧ ' ' ∉ id.toList := by
  rcases List.mem_map.1 member with ⟨entry, among, rfl⟩
  refine ⟨?_, ?_, ?_⟩
  · have present := Text.ne_empty_of_mem_entries among
    exact Text.lowered_ne_empty (Text.exchanged_ne_empty present)
  · intro comma
    have before := Text.mem_of_mem_lowered (Or.inl rfl) comma
    rcases Text.mem_exchanged before with underscore | ⟨_, inEntry⟩
    · exact absurd underscore (by decide)
    · exact Text.comma_not_mem_of_mem_entries among inEntry
  · intro space
    have before := Text.mem_of_mem_lowered (Or.inr rfl) space
    rcases Text.mem_exchanged before with underscore | ⟨other, _⟩
    · exact absurd underscore (by decide)
    · exact other rfl

/-! ## Lists of flags -/

/-- Whether a text is its own id in a comma list: it is not empty and free of
commas, of blanks and of characters that lower case changes. -/
structure IsListable (name : String) : Prop where
  present : name ≠ ""
  noComma : ',' ∉ name.toList
  noBlank : ∀ c ∈ name.toList, isBlank c = false
  lower : ∀ c ∈ name.toList, IsLower c

theorem isListable_iff
    {name : String} :
    IsListable name ↔
      name ≠ "" ∧ ',' ∉ name.toList ∧
        name.toList.all (fun c => !isBlank c && decide (IsLower c)) = true := by
  simp only [List.all_eq_true, Bool.and_eq_true, Bool.not_eq_true',
    decide_eq_true_eq]
  constructor
  · intro listable
    exact
      ⟨listable.present, listable.noComma,
        fun c member => ⟨listable.noBlank c member, listable.lower c member⟩⟩
  · rintro ⟨present, noComma, each⟩
    exact
      ⟨present, noComma, fun c member => (each c member).1,
        fun c member => (each c member).2⟩

instance : DecidablePred IsListable := fun _ =>
  decidable_of_iff _ isListable_iff.symm

theorem idsOf_of_isListable
    {name : String}
    (listable : IsListable name) :
    idsOf name = [name] := by
  have single : Text.entries name = [name] :=
    Text.entries_singleton listable.present listable.noComma listable.noBlank
  have noSpace : ' ' ∉ name.toList := by
    intro space
    cases listable.noBlank ' ' space
  rw [idsOf, single, List.map_singleton, Text.exchanged_of_not_mem noSpace,
    Text.lowered_of_isLower listable.lower]

/-- Names with a comma behind each are read back. -/
theorem idsOf_join
    {names : List String}
    (listable : ∀ name ∈ names, IsListable name) :
    idsOf (String.join (names.map (· ++ ","))) = names := by
  induction names with
  | nil => decide
  | cons name rest ih =>
      rcases List.forall_mem_cons.1 listable with ⟨first, others⟩
      rw [List.map_cons, String.join_cons, idsOf_append, ih others,
        idsOf_of_isListable first]
      rfl

/-- Every flag column stands for a privilege that can be listed. -/
theorem isListable_flags :
    ∀ flag ∈
        Sql.Query.databaseFlags ++ Sql.Query.accountFlags ++
          Sql.Query.modernAccountFlags,
      IsListable flag.2 := by
  decide +kernel

/-- What flag columns write one after the other: a set one its privilege and a
comma, and another one nothing. -/
def flagText
    (isSet : String × String → Bool)
    (flags : List (String × String)) : String :=
  String.join (flags.map fun flag => if isSet flag then flag.2 ++ "," else "")

theorem flagText_eq
    (isSet : String × String → Bool)
    (flags : List (String × String)) :
    flagText isSet flags =
      String.join (((flags.filter isSet).map Prod.snd).map (· ++ ",")) := by
  rw [flagText]
  induction flags with
  | nil => rfl
  | cons flag rest ih =>
      rw [List.map_cons, String.join_cons, ih]
      by_cases set : isSet flag = true
      · rw [if_pos set, List.filter_cons_of_pos set, List.map_cons,
          List.map_cons, String.join_cons]
      · rw [if_neg set, List.filter_cons_of_neg set, String.empty_append]

/-- What flag columns write is read as the privileges of those that are
set. -/
theorem idsOf_flagText
    {flags : List (String × String)}
    (columns :
      flags ⊆
        Sql.Query.databaseFlags ++ Sql.Query.accountFlags ++
          Sql.Query.modernAccountFlags)
    (isSet : String × String → Bool) :
    idsOf (flagText isSet flags) = (flags.filter isSet).map Prod.snd := by
  rw [flagText_eq]
  apply idsOf_join
  intro name member
  rcases List.mem_map.1 member with ⟨flag, among, rfl⟩
  exact isListable_flags flag (columns (List.mem_filter.1 among).1)

end Privilege

namespace Reconciliation

open Program (Handler)
open Store (Answers Call Follows Repeats View)

/-! ## Rows that name the same privileges -/

/-- Whether rows name the same privileges on the same places, in whatever
order and however they are spread. -/
def NameSame
    {ρ κ : Type}
    (placeOf : ρ → κ)
    (listOf : ρ → String)
    (rows rows' : List ρ) : Prop :=
  ∀ place privilege,
    (∃ row ∈ rows, placeOf row = place ∧ Names (listOf row) privilege) ↔
      ∃ row ∈ rows', placeOf row = place ∧ Names (listOf row) privilege

section

variable
    {ρ κ : Type}
    {placeOf : ρ → κ}
    {listOf : ρ → String}
    {rows rows' : List ρ}

theorem NameSame.symm (same : NameSame placeOf listOf rows rows') :
    NameSame placeOf listOf rows' rows :=
  fun place privilege => (same place privilege).symm

theorem NameSame.exists_of_exists
    (same : NameSame placeOf listOf rows rows')
    {allowed : κ → Prop}
    {privilege : String}
    (named :
      ∃ row ∈ rows,
        allowed (placeOf row) ∧ Names (listOf row) privilege) :
    ∃ row ∈ rows',
      allowed (placeOf row) ∧ Names (listOf row) privilege := by
  rcases named with ⟨row, member, isAllowed, names⟩
  rcases (same _ _).1 ⟨row, member, rfl, names⟩ with
    ⟨other, member', place, names'⟩
  rw [← place] at isAllowed
  exact ⟨other, member', isAllowed, names'⟩

theorem NameSame.exists_iff
    (same : NameSame placeOf listOf rows rows')
    (allowed : κ → Prop)
    (privilege : String) :
    (∃ row ∈ rows,
        allowed (placeOf row) ∧ Names (listOf row) privilege) ↔
      ∃ row ∈ rows',
        allowed (placeOf row) ∧ Names (listOf row) privilege :=
  ⟨same.exists_of_exists, same.symm.exists_of_exists⟩

/-- Whether two rows that differ in nothing but their lists stand where other
rows have a single one, with their lists joined by a comma. -/
def JoinsTwo
    (row : String → ρ)
    (rows rows' : List ρ) : Prop :=
  ∃ first second others,
    rows.Perm (row first :: row second :: others) ∧
      rows'.Perm (row (first ++ "," ++ second) :: others)

theorem names_append
    {first second privilege : String} :
    Names (first ++ "," ++ second) privilege ↔
      Names first privilege ∨ Names second privilege := by
  rw [← mem_idsOf_iff, Privilege.idsOf_append, List.mem_append,
    mem_idsOf_iff, mem_idsOf_iff]

theorem JoinsTwo.nameSame
    {row : String → ρ}
    {here : κ}
    (joins : JoinsTwo row rows rows')
    (place : ∀ list, placeOf (row list) = here)
    (lists : ∀ list, listOf (row list) = list) :
    NameSame placeOf listOf rows rows' := by
  rcases joins with ⟨first, second, others, apart, together⟩
  intro there privilege
  simp only [apart.mem_iff, together.mem_iff, List.mem_cons,
    exists_eq_or_imp, place, lists, names_append]
  tauto

/-- Rows that are the same, or joined forth or back, name the same. -/
theorem nameSame_of_joins
    {rowWith : ρ → String → ρ}
    (either :
      rows = rows' ∨
        (∃ row, JoinsTwo (rowWith row) rows rows') ∨
          ∃ row, JoinsTwo (rowWith row) rows' rows)
    (place : ∀ row list, placeOf (rowWith row list) = placeOf row)
    (lists : ∀ row list, listOf (rowWith row list) = list) :
    NameSame placeOf listOf rows rows' := by
  rcases either with rfl | ⟨row, joins⟩ | ⟨row, joins⟩
  · exact fun _ _ => Iff.rfl
  · exact joins.nameSame (place row) (lists row)
  · exact (joins.nameSame (place row) (lists row)).symm

end

/-! ## Stores that name the same privileges -/

/-- Whether two views differ in nothing that is read about grants but in how
the privileges on each place are spread over rows. -/
structure SpreadsSame (view view' : View) : Prop where
  getAccount : view.getAccount = view'.getAccount
  globalGrants : view.globalGrants = view'.globalGrants
  databaseGrants :
    ∀ user host,
      NameSame (fun row => row.database) (fun row => row.privileges)
        (view.databaseGrants user host) (view'.databaseGrants user host)
  tableGrants :
    ∀ user host,
      NameSame (fun row => (row.schema, row.name)) (fun row => row.privileges)
        (view.tableGrants user host) (view'.tableGrants user host)
  columnGrants :
    ∀ user host,
      NameSame (fun row => (row.schema, row.owner, row.name))
        (fun row => row.privileges)
        (view.columnGrants user host) (view'.columnGrants user host)
  proxyGrants : view.proxyGrants = view'.proxyGrants
  roleEdges : view.roleEdges = view'.roleEdges

section

variable
    {view view' : View}
    {reconciliation : Reconciliation}
    {account : Account}

theorem SpreadsSame.onDatabases_iff
    (same : SpreadsSame view view')
    (right : Right) :
    OnDatabases view reconciliation account right ↔
      OnDatabases view' reconciliation account right := by
  simpa only [OnDatabases, and_assoc] using
    (same.databaseGrants account.name account.host).exists_iff
      (fun database =>
        database ∉ reconciliation.settings.skipDatabases ∧
          right.resource = .database database)
      right.privilege

theorem SpreadsSame.onTables_iff
    (same : SpreadsSame view view')
    (right : Right) :
    OnTables view reconciliation account right ↔
      OnTables view' reconciliation account right := by
  simpa only [OnTables, and_assoc] using
    (same.tableGrants account.name account.host).exists_iff
      (fun place =>
        place.1 ∉ reconciliation.settings.skipDatabases ∧
          right.resource = .table place.1 place.2)
      right.privilege

theorem SpreadsSame.onColumns_iff
    (same : SpreadsSame view view')
    (right : Right) :
    OnColumns view reconciliation account right ↔
      OnColumns view' reconciliation account right := by
  simpa only [OnColumns, and_assoc] using
    (same.columnGrants account.name account.host).exists_iff
      (fun place =>
        place.1 ∉ reconciliation.settings.skipDatabases ∧
          (place.1 ++ "." ++ place.2.1 ∈
                reconciliation.settings.expandColumns ∧
              right.resource = .column place.1 place.2.1 place.2.2 ∨
            place.1 ++ "." ++ place.2.1 ∉
                reconciliation.settings.expandColumns ∧
              right.resource = .table place.1 place.2.1))
      right.privilege

theorem SpreadsSame.held_iff
    (same : SpreadsSame view view')
    (right : Right) :
    Held view reconciliation account right ↔
      Held view' reconciliation account right := by
  simp only [Held, Holds, same.onDatabases_iff, same.onTables_iff,
    same.onColumns_iff, OnServer, AsProxy, InRoles, same.getAccount,
    same.globalGrants, same.proxyGrants, same.roleEdges]

/-- What is read does not depend on how privileges are spread. -/
theorem SpreadsSame.script_eq (same : SpreadsSame view view') :
    script view reconciliation account =
      script view' reconciliation account := by
  have each :
      hostScript view reconciliation = hostScript view' reconciliation := by
    funext single
    simp only [hostScript, serverScript, proxyScript, roleScript,
      same.getAccount, same.proxyGrants, same.roleEdges]
  rw [script, script, each]

end

/-- Whether two stores fail for the same calls with the same faults, and
otherwise differ only in how privileges are spread over rows. -/
structure AnswersSame (answers answers' : Answers) : Prop where
  faults :
    ∀ call fault, answers call = .error fault ↔ answers' call = .error fault
  views : SpreadsSame answers.view answers'.view

theorem AnswersSame.isOk_iff
    {answers answers' : Answers}
    (same : AnswersSame answers answers')
    (call : Call) :
    (answers call).isOk = true ↔ (answers' call).isOk = true := by
  have ok_iff :
      ∀ {α : Type} (result : Except Fault α),
        result.isOk = true ↔ ∀ fault, result ≠ .error fault := by
    intro α result
    cases result <;> simp [Except.isOk, Except.toBool]
  rw [ok_iff, ok_iff]
  simp only [ne_eq, same.faults]

section

variable
    {σ σ' : Type}
    {handler : Handler Store.interface σ}
    {handler' : Handler Store.interface σ'}
    {answers : σ → Answers}
    {answers' : σ' → Answers}
    {state : σ}
    {state' : σ'}

/-- When no read fails, grants are those of the rights that are held. -/
theorem exists_grants_of_succeed
    (repeats : Repeats handler answers)
    {reconciliation : Reconciliation}
    {principal : Identity}
    {account : Account}
    (named : principal.account? = some account)
    (succeed :
      ∀ call ∈ script (answers state).view reconciliation account,
        (answers state call).isOk = true) :
    ∃ grants,
      ((reconciliation.grantsHeldBy principal).run handler state).result =
          .ok grants ∧
        AreHeldInOrder (answers state).view reconciliation principal account
          grants := by
  have follows :
      Follows (answers state)
        (AreHeldInOrder (answers state).view reconciliation principal account)
        (reconciliation.grantsHeldBy principal)
        (script (answers state).view reconciliation account) :=
    (follows_grantsHeldBy named).of_gives
      (fun call among => Answers.eq_ok_view (succeed call among))
      (gives_areHeldInOrder named)
  rcases follows.run_ok repeats succeed with ⟨grants, ended, held, _⟩
  exact ⟨grants, ended, held⟩

/-- The grants of a principal, or the fault in their place, do not depend on
how privileges are spread. -/
theorem AnswersSame.result_eq
    (repeats : Repeats handler answers)
    (repeats' : Repeats handler' answers')
    (same : AnswersSame (answers state) (answers' state'))
    (reconciliation : Reconciliation)
    (principal : Identity) :
    ((reconciliation.grantsHeldBy principal).run handler state).result =
      ((reconciliation.grantsHeldBy principal).run handler' state').result := by
  cases named : principal.account? with
  | none =>
      rw [grantsHeldBy, named]
      rfl
  | some account =>
      have reads :
          script (answers state).view reconciliation account =
            script (answers' state').view reconciliation account :=
        same.views.script_eq
      by_cases succeed :
          ∀ call ∈ script (answers state).view reconciliation account,
            (answers state call).isOk = true
      · have succeed' :
            ∀ call ∈ script (answers' state').view reconciliation account,
              (answers' state' call).isOk = true := by
          intro call among
          rw [← reads] at among
          exact (same.isOk_iff call).1 (succeed call among)
        rcases exists_grants_of_succeed repeats named succeed with
          ⟨_, ended, ⟨rights, rfl, rising, exactly⟩⟩
        rcases exists_grants_of_succeed repeats' named succeed' with
          ⟨_, ended', ⟨rights', rfl, rising', exactly'⟩⟩
        have agree : rights = rights' := by
          apply rising.eq_of_mem_iff rising'
          intro right
          rw [exactly, exactly', same.views.held_iff]
        rw [ended, ended', agree]
      · rcases Answers.exists_first_error succeed with
          ⟨before, call, after, fault, whole, earlier, fails⟩
        have stops :=
          (follows_grantsHeldBy named).conducts repeats |>.stops before call
            after fault whole earlier fails
        have stops' :=
          (follows_grantsHeldBy named).conducts repeats' |>.stops before call
            after fault (reads ▸ whole)
            (fun one among => (same.isOk_iff one).1 (earlier one among))
            ((same.faults call fault).1 fails)
        rw [stops.2, stops'.2]

end

/-! ## Two rows for one -/

/-- Whether a list of rows has two rows of one account on one database, table
or column where another has a single row.  No other reply is a list of rows
with a comma list. -/
def Joins : (call : Call) → call.Reply → call.Reply → Prop
  | .databaseGrants _ _, rows, rows' =>
      ∃ row : Store.DatabaseGrant,
        JoinsTwo (fun privileges => { row with privileges }) rows rows'
  | .tableGrants _ _, rows, rows' =>
      ∃ row : Store.TableGrant,
        JoinsTwo (fun privileges => { row with privileges }) rows rows'
  | .columnGrants _ _, rows, rows' =>
      ∃ row : Store.ColumnGrant,
        JoinsTwo (fun privileges => { row with privileges }) rows rows'
  | _, _, _ => False

/-- Whether two stores give each call the same answer or lists of rows of which
the one has two rows where the other has a single row. -/
def JoinsRows (answers answers' : Answers) : Prop :=
  ∀ call,
    answers call = answers' call ∨
      ∃ reply reply',
        answers call = .ok reply ∧ answers' call = .ok reply' ∧
          (Joins call reply reply' ∨ Joins call reply' reply)

section

variable {answers answers' : Answers}

theorem JoinsRows.faults
    (joins : JoinsRows answers answers')
    (call : Call)
    (fault : Fault) :
    answers call = .error fault ↔ answers' call = .error fault := by
  rcases joins call with same | ⟨reply, reply', replied, replied', _⟩
  · rw [same]
  · simp [replied, replied']

theorem JoinsRows.view
    (joins : JoinsRows answers answers')
    (call : Call) :
    answers.view call = answers'.view call ∨
      Joins call (answers.view call) (answers'.view call) ∨
        Joins call (answers'.view call) (answers.view call) := by
  rcases joins call with same | ⟨reply, reply', replied, replied', either⟩
  · exact Or.inl (by rw [Answers.view, Answers.view, same])
  · rw [Answers.view_of_ok replied, Answers.view_of_ok replied']
    exact Or.inr either

/-- Where no rows are joined, the views are the same. -/
theorem JoinsRows.view_eq
    (joins : JoinsRows answers answers')
    {call : Call}
    (apart : ∀ reply reply', ¬Joins call reply reply') :
    answers.view call = answers'.view call := by
  rcases joins.view call with same | forth | back
  · exact same
  · exact absurd forth (apart _ _)
  · exact absurd back (apart _ _)

theorem JoinsRows.answersSame (joins : JoinsRows answers answers') :
    AnswersSame answers answers' where
  faults := joins.faults
  views :=
    { getAccount := funext₂ fun _ _ => joins.view_eq fun _ _ => id
      globalGrants := funext₂ fun _ _ => joins.view_eq fun _ _ => id
      databaseGrants := fun user host =>
        nameSame_of_joins (joins.view (.databaseGrants user host))
          (fun _ _ => rfl) fun _ _ => rfl
      tableGrants := fun user host =>
        nameSame_of_joins (joins.view (.tableGrants user host))
          (fun _ _ => rfl) fun _ _ => rfl
      columnGrants := fun user host =>
        nameSame_of_joins (joins.view (.columnGrants user host))
          (fun _ _ => rfl) fun _ _ => rfl
      proxyGrants := funext₂ fun _ _ => joins.view_eq fun _ _ => id
      roleEdges := funext₂ fun _ _ => joins.view_eq fun _ _ => id }

end

/-! ## Lists and rows together -/

/-- Comma lists of privileges are read piece by piece, each piece as an id
without commas and spaces, and what flag columns write is read back.  Hence
two rows of one account on one place can be replaced by a single row with both
lists, or the reverse, in any number of replies, and the grants of every
principal stay as they are, as does the fault in their place when a read
fails. -/
theorem lists_compose :
    (∀ first second,
        Privilege.idsOf (first ++ "," ++ second) =
          Privilege.idsOf first ++ Privilege.idsOf second) ∧
      (∀ list, ∀ id ∈ Privilege.idsOf list,
          id ≠ "" ∧ ',' ∉ id.toList ∧ ' ' ∉ id.toList) ∧
      (∀ names, (∀ name ∈ names, Privilege.IsListable name) →
          Privilege.idsOf (String.join (names.map (· ++ ","))) = names) ∧
      (∀ isSet flags,
          flags ⊆
              Sql.Query.databaseFlags ++ Sql.Query.accountFlags ++
                Sql.Query.modernAccountFlags →
            Privilege.idsOf (Privilege.flagText isSet flags) =
              (flags.filter isSet).map Prod.snd) ∧
      ∀ {σ σ' : Type}
        {handler : Handler Store.interface σ}
        {handler' : Handler Store.interface σ'}
        {answers : σ → Answers}
        {answers' : σ' → Answers},
        Repeats handler answers →
          Repeats handler' answers' →
            ∀ state state',
              JoinsRows (answers state) (answers' state') →
                ∀ (reconciliation : Reconciliation) (principal : Identity),
                  ((reconciliation.grantsHeldBy principal).run handler
                        state).result =
                    ((reconciliation.grantsHeldBy principal).run handler'
                        state').result := by
  refine
    ⟨Privilege.idsOf_append, fun _ _ => Privilege.spec_of_mem_idsOf,
      fun _ => Privilege.idsOf_join,
      fun isSet _ columns => Privilege.idsOf_flagText columns isSet, ?_⟩
  intro σ σ' handler handler' answers answers' repeats repeats' state state'
    joins reconciliation principal
  exact
    joins.answersSame.result_eq repeats repeats' reconciliation principal

/-- The store in which one account holds something in every scope, with other
rows on databases. -/
def withDatabaseGrants (rows : List Store.DatabaseGrant) : Store.Memory :=
  { Store.Memory.everyScope with databaseGrants := rows }

theorem lists_compose_database :
    let apart :=
      withDatabaseGrants
        [⟨"alice", "%", "shop", "Insert,"⟩,
          ⟨"alice", "%", "shop", " Lock Tables,Grant"⟩]
    let together :=
      withDatabaseGrants
        [⟨"alice", "%", "shop", "Insert,, Lock Tables,Grant"⟩]
    let reconciliation : Reconciliation := ⟨{}, .modern, .server "db"⟩
    let principal : Identity := .user ⟨"alice", "%"⟩
    Privilege.idsOf "select,create_view," = ["select", "create_view"] ∧
      JoinsRows apart.answer together.answer ∧
        ((reconciliation.grantsHeldBy principal).run Store.Memory.handler
              apart).result =
          ((reconciliation.grantsHeldBy principal).run Store.Memory.handler
              together).result := by
  intro apart together reconciliation principal
  have joins : JoinsRows apart.answer together.answer := by
    intro call
    cases call with
    | databaseGrants user host =>
        by_cases here : user = "alice" ∧ host = "%"
        · rcases here with ⟨rfl, rfl⟩
          refine
            Or.inr
              ⟨_, _, rfl, rfl, Or.inl ⟨⟨"alice", "%", "shop", ""⟩, ?_⟩⟩
          exact
            ⟨"Insert,", " Lock Tables,Grant", [], List.Perm.refl _,
              List.Perm.refl _⟩
        · have other : ¬("alice" = user ∧ "%" = host) := by
            rintro ⟨rfl, rfl⟩
            exact here ⟨rfl, rfl⟩
          refine Or.inl ?_
          simp [Store.Memory.answer, Store.Memory.reply, apart, together,
            withDatabaseGrants, other]
    | _ => exact Or.inl rfl
  rcases lists_compose with ⟨_, _, join, _, compose⟩
  refine ⟨?_, joins, ?_⟩
  · exact join ["select", "create_view"] (by decide +kernel)
  · exact
      compose Store.Memory.repeats_handler Store.Memory.repeats_handler apart
        together joins reconciliation principal

end Reconciliation

end PrivilegeGraph
