import PrivilegeGraph.Proofs.Reconciliation.Rows
import PrivilegeGraph.Proofs.Text.Trimming

/-!
# Each scope in step

Scope after scope, what is read and reported while the grants of a principal
are rebuilt is in step with the rows that are read.  A row is dealt with by
itself, then the rows of one reply are, then the scopes of one host, and then
the hosts.
-/

namespace PrivilegeGraph.Reconciliation

open Store (Access Leaves Trace)

section

variable
    {reconciliation : Reconciliation}
    {before : List Row}
    {rights : List Right}
    {trace : Trace}

/-! ## Lookups -/

/-- What the lookup of an account leaves behind. -/
def lookUpTrace
    (purpose : LookupPurpose)
    (user host : String) :
    Option Store.AccountRow → Trace
  | none =>
      [.asked (.getAccount user host) (.ok none),
        .noted (.unresolved purpose user host)]
  | some row => [.asked (.getAccount user host) (.ok (some row))]

theorem leaves_lookUp
    (purpose : LookupPurpose)
    (user host : String) :
    Leaves (fun found trace => trace = lookUpTrace purpose user host found)
      (lookUp purpose user host) := by
  have asks :
      Leaves
        (fun found trace =>
          trace = [.asked (.getAccount user host) (.ok found)])
        (Store.request (.getAccount user host)) :=
    Leaves.request rfl fun _ => rfl
  apply asks.bind
  rintro found trace rfl
  cases found with
  | none => exact rfl
  | some row => exact rfl

/-- A lookup is in step when the rows before it and the row that it finds are
settled. -/
theorem inStep_lookUpTrace
    {purpose : LookupPurpose}
    {user host : String}
    {found : Option Store.AccountRow}
    (free : databasesOf before = [])
    (settled :
      ∀ row ∈ before ++ found.toList.map .account,
        IsSettled reconciliation (lookUpTrace purpose user host found) rights
          row) :
    InStep reconciliation before rights
      (lookUpTrace purpose user host found) := by
  have noDatabase :
      leftOutOf reconciliation
          (before ++ rowsRead (lookUpTrace purpose user host found)) =
        [] := by
    rw [leftOutOf, databasesOf_append, free]
    cases found with
    | none => rfl
    | some row => rfl
  cases found with
  | none => exact ⟨rfl, by rw [noDatabase]; rfl, silent_singleton rfl, settled⟩
  | some row => exact ⟨rfl, by rw [noDatabase]; rfl, Silent.nil, settled⟩

/-! ## Rights on the server -/

theorem exists_names_of_not_blank
    {list : String}
    (filled : ¬IsBlankList list) :
    ∃ privilege, Names list privilege := by
  have present : Privilege.idsOf list ≠ [] := by
    intro none
    exact filled (Text.entries_eq_nil_iff.1 (List.map_eq_nil_iff.1 none))
  rcases List.exists_mem_of_ne_nil _ present with ⟨privilege, member⟩
  exact ⟨privilege, mem_idsOf_iff.1 member⟩

/-- A row with a comma list has nothing in it, or says what its list names. -/
theorem isSettled_list
    {row : Row}
    {resource : Identity}
    {list : String}
    (idle : IsBlankList list → row.IsIdle)
    (said :
      ∀ privilege, Names list privilege →
        Says reconciliation trace row ⟨privilege, resource⟩) :
    IsSettled reconciliation trace (rightsOn resource list) row := by
  by_cases blank : IsBlankList list
  · exact Or.inr (Or.inr (idle blank))
  · rcases exists_names_of_not_blank blank with ⟨privilege, names⟩
    let right : Right := ⟨privilege, resource⟩
    have member : right ∈ rightsOn resource list :=
      (collects_rightsOn _ _ right).2 ⟨rfl, names⟩
    exact Or.inl ⟨right, member, said privilege names⟩

theorem leftOutOf_dynamic (rows : List Store.GlobalGrant) :
    leftOutOf reconciliation (rows.map .dynamic) = [] := by
  simp [leftOutOf, databasesOf]

theorem leaves_dynamicRights (row : Store.AccountRow) :
    Leaves (InStep reconciliation []) (reconciliation.dynamicRights row) := by
  rw [dynamicRights]
  cases reconciliation.generation with
  | legacy => exact inStep_nil rfl (by simp)
  | modern =>
      have asks :
          Leaves
            (fun rows trace =>
              trace = [.asked (.globalGrants row.user row.host) (.ok rows)])
            (Store.request (.globalGrants row.user row.host)) :=
        Leaves.request rfl fun _ => rfl
      apply asks.bind
      rintro rows trace rfl
      refine InStep.asked (inStep_nil (leftOutOf_dynamic rows) ?_) rfl
      intro row member
      rcases List.mem_map.1 member with ⟨granted, among, rfl⟩
      let right : Right :=
        ⟨Text.lowered granted.privilege, reconciliation.server⟩
      have variant : right ∈ reconciliation.globalRights granted :=
        (collects_rightWithOption _ _ _ right).2 ⟨rfl, Or.inl rfl⟩
      exact
        Or.inl
          ⟨right, List.mem_flatMap.2 ⟨granted, among, variant⟩, rfl, Or.inl rfl⟩

theorem leaves_serverRights (account : Account) :
    Leaves (InStep reconciliation [])
      (reconciliation.serverRights account) := by
  apply (leaves_lookUp _ _ _).bind
  rintro found trace rfl
  cases found with
  | none =>
      show InStep reconciliation [] [] (lookUpTrace _ _ _ none ++ [])
      rw [List.append_nil]
      exact inStep_lookUpTrace rfl (by simp)
  | some row =>
      have own :
          InStep reconciliation []
            (rightsOn reconciliation.server row.privileges)
            (lookUpTrace .globalGrants account.name account.host (some row)) :=
        inStep_lookUpTrace rfl <|
          List.forall_mem_singleton.2 <|
            isSettled_list id fun _ names => Or.inl ⟨rfl, names⟩
      apply (leaves_dynamicRights row).bind
      intro dynamic trace inStep
      show
        InStep reconciliation [] (dynamic ++ rightsOn _ row.privileges)
          (lookUpTrace _ _ _ (some row) ++ (trace ++ []))
      rw [List.append_nil]
      exact (own.append inStep (Or.inr rfl)).mono List.perm_append_comm.subset

/-! ## Rights in rows -/

/-- Whether a part of a run deals with one row, and reads no rows on databases
for it. -/
def DealsWith
    (reconciliation : Reconciliation)
    (row : Row)
    (rights : List Right)
    (trace : Trace) : Prop :=
  InStep reconciliation [row] rights trace ∧
    databasesOf (rowsRead trace) = []

/-- Whether a trace is a question that is replied to with rows. -/
def ReadsRows
    {ρ : Type}
    (rowOf : ρ → Row)
    (found : List ρ)
    (trace : Trace) : Prop :=
  ∃ call reply,
    trace = [.asked call (.ok reply)] ∧
      rowsOf call reply = found.map rowOf ∧
        lookedUpInVain trace = []

/-- Rows that are read and dealt with one after the other. -/
theorem leaves_gathered
    {ρ : Type}
    (rowOf : ρ → Row)
    {rows : Access (List ρ)}
    {rightsIn : ρ → Access (List Right)}
    (asks : Leaves (ReadsRows rowOf) rows)
    (each :
      ∀ row, Leaves (DealsWith reconciliation (rowOf row)) (rightsIn row)) :
    Leaves (InStep reconciliation []) (gathered rows rightsIn) := by
  have all (found : List ρ) :
      Leaves
        (fun lists trace =>
          InStep reconciliation (found.map rowOf) lists.flatten trace)
        (Program.collect rightsIn found) := by
    apply
      Leaves.collect
        (fun found lists trace =>
          InStep reconciliation (found.map rowOf) lists.flatten trace)
        each (inStep_nil rfl (by simp))
    intro row rights trace rest lists later deals inStep
    exact deals.1.append inStep (Or.inl deals.2)
  apply asks.bind
  rintro found _ ⟨call, reply, rfl, same, notInVain⟩
  apply (all found).bind
  intro lists trace inStep
  show
    InStep reconciliation [] lists.flatten
      (.asked call (.ok reply) :: (trace ++ []))
  rw [List.append_nil]
  rw [← same] at inStep
  exact inStep.asked notInVain

/-- Whether a row lies in a database and lists privileges on a resource. -/
structure Lists
    (reconciliation : Reconciliation)
    (row : Row)
    (database : String)
    (resource : Identity)
    (list : String) : Prop where
  here : databasesOf [row] = [database]
  causes : row.Causes (.skippedDatabase database)
  idle : IsBlankList list → row.IsIdle
  said :
    database ∉ reconciliation.settings.skipDatabases →
      ∀ privilege, Names list privilege →
        Says reconciliation [] row ⟨privilege, resource⟩

/-- A row with a comma list is reported when its database is left out, and
otherwise says what its list names. -/
theorem Lists.leaves_unlessSkipped
    {row : Row}
    {database list : String}
    {resource : Identity}
    (lists : Lists reconciliation row database resource list) :
    Leaves (DealsWith reconciliation row)
      (reconciliation.unlessSkipped database (rightsOn resource list)) := by
  rw [unlessSkipped]
  by_cases skipped : database ∈ reconciliation.settings.skipDatabases
  · rw [if_pos (Settings.leavesOut_iff.2 skipped)]
    have leftOut : leftOutOf reconciliation [row] = [database] := by
      rw [leftOutOf, lists.here,
        List.filter_cons_of_pos (by simpa using skipped), List.filter_nil]
    refine ⟨⟨rfl, ?_, silent_singleton ?_, ?_⟩, rfl⟩
    · show LogsEach _ _ (leftOutOf reconciliation [row]) _
      rw [leftOut]
      rfl
    · simp [Record.isDebug, Event.record, unknownMessage]
    · refine List.forall_mem_singleton.2 (Or.inr (Or.inl ?_))
      exact ⟨_, List.mem_singleton_self _, lists.causes⟩
  · rw [if_neg (mt Settings.leavesOut_iff.1 skipped)]
    have kept : leftOutOf reconciliation [row] = [] := by
      rw [leftOutOf, lists.here,
        List.filter_cons_of_neg (by simpa using skipped), List.filter_nil]
    have settled :
        IsSettled reconciliation [] (rightsOn resource list) row :=
      isSettled_list lists.idle (lists.said skipped)
    exact ⟨inStep_nil kept (List.forall_mem_singleton.2 settled), rfl⟩

/-- Rows with comma lists are read and dealt with one after the other. -/
theorem leaves_listedRights
    {ρ : Type}
    (rowOf : ρ → Row)
    {rows : Access (List ρ)}
    {databaseOf listOf : ρ → String}
    {resourceOf : ρ → Identity}
    (asks : Leaves (ReadsRows rowOf) rows)
    (each :
      ∀ row,
        Lists reconciliation (rowOf row) (databaseOf row) (resourceOf row)
          (listOf row)) :
    Leaves (InStep reconciliation [])
      (reconciliation.listedRights rows databaseOf resourceOf listOf) :=
  leaves_gathered rowOf asks fun row => (each row).leaves_unlessSkipped

/-- A row that refers to an account is reported when there is none, and
otherwise says a privilege on it. -/
theorem leaves_ofFound
    {row : Row}
    {purpose : LookupPurpose}
    {user host privilege : String}
    {withOption : Bool}
    (free : databasesOf [row] = [])
    (causes : row.Causes (.unresolved purpose user host))
    (said :
      ∀ {trace target},
        HasFound trace user host target →
          Says reconciliation trace row ⟨privilege, target.identity⟩)
    (held : privilege = "proxy" ∨ privilege = "role_assignment") :
    Leaves (DealsWith reconciliation row)
      (lookUp purpose user host >>= fun found =>
        match found with
        | none => pure []
        | some target =>
            pure (rightWithOption privilege target.identity withOption)) := by
  apply (leaves_lookUp purpose user host).bind
  rintro found trace rfl
  cases found with
  | none =>
      show DealsWith reconciliation row [] (lookUpTrace _ _ _ none ++ [])
      rw [List.append_nil]
      refine ⟨inStep_lookUpTrace free (List.forall_mem_singleton.2 ?_), rfl⟩
      exact Or.inr (Or.inl ⟨_, List.mem_singleton_self _, causes⟩)
  | some target =>
      let right : Right := ⟨privilege, target.identity⟩
      have found :
          right ∈ rightWithOption privilege target.identity withOption :=
        (collects_rightWithOption _ _ _ right).2 ⟨rfl, Or.inl rfl⟩
      show
        DealsWith reconciliation row
          (rightWithOption privilege target.identity withOption)
          (lookUpTrace _ _ _ (some target) ++ [])
      rw [List.append_nil]
      refine ⟨inStep_lookUpTrace free ?_, rfl⟩
      intro one member
      rcases List.mem_cons.1 member with rfl | later
      · exact Or.inl ⟨right, found, said (List.mem_singleton_self _)⟩
      · rcases List.mem_singleton.1 later with rfl
        exact Or.inl ⟨right, found, Or.inr ⟨rfl, held⟩⟩

/-! ## Each scope -/

variable (account : Account)

theorem leaves_databaseRights :
    Leaves (InStep reconciliation [])
      (reconciliation.databaseRights account) :=
  leaves_listedRights .database
    (Leaves.request rfl fun rows => ⟨_, rows, rfl, rfl, rfl⟩)
    fun _ => ⟨rfl, rfl, id, fun kept _ names => ⟨kept, rfl, names⟩⟩

theorem leaves_tableRights :
    Leaves (InStep reconciliation [])
      (reconciliation.tableRights account) :=
  leaves_listedRights .table
    (Leaves.request rfl fun rows => ⟨_, rows, rfl, rfl, rfl⟩)
    fun _ => ⟨rfl, rfl, id, fun kept _ names => ⟨kept, rfl, names⟩⟩

theorem leaves_columnRights :
    Leaves (InStep reconciliation [])
      (reconciliation.columnRights account) :=
  leaves_listedRights .column
    (Leaves.request rfl fun rows => ⟨_, rows, rfl, rfl, rfl⟩)
    fun _ => ⟨rfl, rfl, id, fun kept _ names => ⟨kept, rfl, names⟩⟩

/-- A row with nothing in it is dealt with by doing nothing. -/
theorem dealsWith_idle
    {row : Row}
    (free : leftOutOf reconciliation [row] = [])
    (idle : row.IsIdle) :
    DealsWith reconciliation row [] [] :=
  ⟨inStep_nil free (List.forall_mem_singleton.2 (Or.inr (Or.inr idle))), rfl⟩

theorem leaves_proxyRowRights (row : Store.ProxyGrant) :
    Leaves (DealsWith reconciliation (.proxy row))
      (reconciliation.proxyRowRights row) := by
  rw [proxyRowRights]
  split
  · next itself => exact dealsWith_idle rfl itself
  · split
    · next every =>
      let right : Right := ⟨"proxy", reconciliation.server⟩
      have held :
          right ∈
            rightWithOption Privilege.proxyId reconciliation.server
              row.withOption :=
        (collects_rightWithOption _ _ _ right).2 ⟨rfl, Or.inl rfl⟩
      refine ⟨inStep_nil rfl (List.forall_mem_singleton.2 ?_), rfl⟩
      exact Or.inl ⟨right, held, Or.inl ⟨every, rfl, Or.inl rfl⟩⟩
    · apply leaves_ofFound
      · exact rfl
      · exact rfl
      · intro trace target found
        exact Or.inr ⟨target, found, rfl, Or.inl rfl⟩
      · exact Or.inl rfl

theorem leaves_proxyRights :
    Leaves (InStep reconciliation [])
      (reconciliation.proxyRights account) := by
  apply leaves_gathered .proxy
  · exact Leaves.request rfl fun rows => ⟨_, rows, rfl, rfl, rfl⟩
  · exact leaves_proxyRowRights

theorem leaves_roleEdgeRights (edge : Store.RoleEdge) :
    Leaves (DealsWith reconciliation (.role edge)) (roleEdgeRights edge) := by
  rw [roleEdgeRights]
  split
  · next itself => exact dealsWith_idle rfl itself
  · apply leaves_ofFound
    · exact rfl
    · exact rfl
    · intro trace role found
      exact ⟨role, found, rfl, Or.inl rfl⟩
    · exact Or.inr rfl

theorem leaves_roleRights :
    Leaves (InStep reconciliation []) (reconciliation.roleRights account) := by
  rw [roleRights]
  cases reconciliation.generation with
  | legacy => exact inStep_nil rfl (by simp)
  | modern =>
      apply leaves_gathered .role
      · exact Leaves.request rfl fun edges => ⟨_, edges, rfl, rfl, rfl⟩
      · exact leaves_roleEdgeRights

/-- The message that an account is read is none of the others. -/
theorem isDebug_reconciling
    {message : String}
    (other : message.toList.head? ≠ some 'r')
    (account : Account) :
    Record.isDebug message (Event.reconciling account).record = false := by
  rw [Record.isDebug, Bool.and_eq_false_imp]
  intro _
  rw [beq_eq_false_iff_ne]
  rintro rfl
  exact other (by simp [Event.record])

theorem inStep_reconciling :
    InStep reconciliation [] [] [.noted (.reconciling account)] where
  warnings := rfl
  skips := (silent_singleton (isDebug_reconciling (by decide) account)).logsEach
  silent := silent_singleton (isDebug_reconciling (by decide) account)
  settled := by simp [rowsRead]

/-- What is read of one host is in step. -/
theorem leaves_rightsOf :
    Leaves (InStep reconciliation []) (reconciliation.rightsOf account) := by
  have started :
      Leaves (fun _ trace => trace = [.noted (.reconciling account)])
        (Program.report (.reconciling account) : Access Unit) :=
    Leaves.report rfl
  apply started.bind
  rintro _ _ rfl
  apply (leaves_serverRights account).bind
  intro onServer serverTrace server
  apply (leaves_databaseRights account).bind
  intro onDatabases databaseTrace databases
  apply (leaves_tableRights account).bind
  intro onTables tableTrace tables
  apply (leaves_columnRights account).bind
  intro onColumns columnTrace columns
  apply (leaves_proxyRights account).bind
  intro asProxy proxyTrace proxies
  apply (leaves_roleRights account).bind
  intro inRoles roleTrace roles
  have both {rights rights' : List Right} {trace trace' : Trace}
      (first : InStep reconciliation [] rights trace)
      (second : InStep reconciliation [] rights' trace') :
      InStep reconciliation [] (rights ++ rights') (trace ++ trace') :=
    first.append second (Or.inr rfl)
  have all :=
    both (inStep_reconciling account)
      (both server
        (both databases (both tables (both columns (both proxies roles)))))
  show
    InStep reconciliation []
      (onServer ++ onDatabases ++ onTables ++ onColumns ++ asProxy ++ inRoles)
      _
  simpa only [List.append_assoc, List.nil_append, List.append_nil] using all

/-- What is read of one host after the other is in step. -/
theorem leaves_collect_rightsOf
    (reconciliation : Reconciliation)
    (accounts : List Account) :
    Leaves (fun found trace => InStep reconciliation [] found.flatten trace)
      (Program.collect reconciliation.rightsOf accounts) := by
  apply
    Leaves.collect
      (fun _ found trace =>
        InStep reconciliation [] found.flatten trace)
      leaves_rightsOf (inStep_nil rfl (by simp))
  intro _ rights trace _ found later first others
  exact first.append others (Or.inr rfl)

/-! ## Rights that are not granted -/

/-- The reports of those rights that the catalog does not list. -/
def unknownTrace
    (reconciliation : Reconciliation)
    (rights : List Right) :
    Trace :=
  (rights.filter fun right => !reconciliation.isKnown right).map
    fun right => .noted (.unknownRight right)

theorem leaves_keepKnown (rights : List Right) :
    Leaves
      (fun known trace =>
        known = rights.filter reconciliation.isKnown ∧
          trace = unknownTrace reconciliation rights)
      (reconciliation.keepKnown rights) := by
  induction rights with
  | nil => exact ⟨rfl, rfl⟩
  | cons right rest ih =>
      rw [keepKnown]
      split
      · next known =>
        apply ih.bind
        rintro _ _ ⟨rfl, rfl⟩
        refine ⟨?_, ?_⟩
        · rw [List.filter_cons_of_pos known]
        · rw [unknownTrace, unknownTrace,
            List.filter_cons_of_neg (by simp [known]), List.append_nil]
      · next unknown =>
        apply ih.weaken
        rintro _ _ ⟨rfl, rfl⟩
        refine ⟨?_, ?_⟩
        · rw [List.filter_cons_of_neg unknown]
        · rw [unknownTrace, unknownTrace,
            List.filter_cons_of_pos (by simp [unknown]), List.map_cons]

end

end PrivilegeGraph.Reconciliation
