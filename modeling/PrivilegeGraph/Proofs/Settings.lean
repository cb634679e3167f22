import PrivilegeGraph.Proofs.Identity.Codec
import PrivilegeGraph.Proofs.Text.Spelling
import PrivilegeGraph.Proofs.Text.Trimming
import PrivilegeGraph.Settings

/-!
# What settings mean

A configuration and its credentials are texts under keys.  What they mean is
said here without the functions that read them: a flag is a word in any letter
case with blanks around it, a list is told by its entries, and a table on the
expansion list by its two names.  Settings are read exactly if all three rules
are met, and the first rule that is not met is reported.
-/

namespace PrivilegeGraph

open Identity (IsSegment)

/-! ## Lists and flags -/

namespace Config

/-- Whether the comma list under a key has an entry. -/
def Lists
    (config : Config)
    (key entry : String) : Prop :=
  ∃ text, config.values.lookup key = some text ∧ Text.ListsEntry text entry

/-- What a flag may be set to: `true` or `false` in any letter case, or
nothing, which is false. -/
inductive FlagWord : Bool → String → Prop
  | blank : FlagWord false ""
  | no {word : String} (spelled : Text.SpelledAs "false" word) :
      FlagWord false word
  | yes {word : String} (spelled : Text.SpelledAs "true" word) :
      FlagWord true word

/-- Whether a flag is set to a value.  An absent flag is false. -/
inductive Flags (config : Config) (key : String) : Bool → Prop
  | absent (missing : config.values.lookup key = none) :
      Flags config key false
  | present
      {text word : String}
      {value : Bool}
      (found : config.values.lookup key = some text)
      (trims : Text.TrimsTo text word)
      (means : FlagWord value word) :
      Flags config key value

section

variable
    {config : Config}
    {key : String}

theorem mem_listAt_iff {entry : String} :
    entry ∈ config.listAt key ↔ config.Lists key entry := by
  rw [listAt, Lists]
  cases config.values.lookup key with
  | none => simp
  | some text => simp [Text.mem_entries_iff]

theorem flagWord_true_iff {word : String} :
    FlagWord true word ↔ Text.lowered word = "true" := by
  rw [Text.lowered_eq_iff (by decide)]
  constructor
  · rintro ⟨⟩
    assumption
  · exact .yes

theorem flagWord_false_iff {word : String} :
    FlagWord false word ↔
      Text.lowered word = "false" ∨ Text.lowered word = "" := by
  rw [Text.lowered_eq_iff (by decide), Text.lowered_eq_iff (by decide),
    Text.spelledAs_empty_iff]
  constructor
  · rintro (_ | spelled)
    · exact .inr rfl
    · exact .inl spelled
  · rintro (spelled | rfl)
    · exact .no spelled
    · exact .blank

theorem flags_iff_of_present
    {text : String}
    {value : Bool}
    (found : config.values.lookup key = some text) :
    config.Flags key value ↔ FlagWord value (Text.trimmed text) := by
  constructor
  · rintro (missing | ⟨found', trims, means⟩)
    · rw [found] at missing
      cases missing
    · rw [found] at found'
      cases found'
      rwa [Text.trimmed_eq_iff.2 trims]
  · exact .present found (Text.trimmed_eq_iff.1 rfl)

/-- A flag is read exactly if it is set to a value. -/
theorem flagAt_eq_ok_iff {value : Bool} :
    config.flagAt key = .ok value ↔ config.Flags key value := by
  rw [flagAt]
  cases found : config.values.lookup key with
  | none =>
      constructor
      · rintro ⟨⟩
        exact .absent found
      · rintro (_ | ⟨found', _, _⟩)
        · rfl
        · rw [found] at found'
          cases found'
  | some text =>
      rw [flags_iff_of_present found]
      cases value with
      | true =>
          rw [flagWord_true_iff]
          by_cases yes : Text.lowered (Text.trimmed text) = "true"
          · simp [yes]
          · simp only [Option.map_some, if_neg yes]
            split <;> simp [yes]
      | false =>
          rw [flagWord_false_iff]
          by_cases yes : Text.lowered (Text.trimmed text) = "true"
          · simp [yes]
          · simp only [Option.map_some, if_neg yes]
            split
            · next no => simp [no]
            · next neither => simp [neither]

/-- A flag that is set to no value is reported with its lower case. -/
theorem flagAt_of_unclear
    (unclear : ∀ value, ¬config.Flags key value) :
    ∃ text word,
      config.values.lookup key = some text ∧ Text.TrimsTo text word ∧
        config.flagAt key = .error (.unclearFlag key (Text.lowered word)) := by
  cases found : config.values.lookup key with
  | none => exact absurd (.absent found) (unclear false)
  | some text =>
      simp only [flags_iff_of_present found] at unclear
      have notTrue := mt flagWord_true_iff.2 (unclear true)
      have notFalse := mt flagWord_false_iff.2 (unclear false)
      refine ⟨text, Text.trimmed text, rfl, Text.trimmed_eq_iff.1 rfl, ?_⟩
      simp only [flagAt, found, Option.map_some, if_neg notTrue,
        if_neg notFalse]

end

end Config

namespace Settings

/-! ## Tables on the expansion list -/

/-- Whether an entry of the expansion list names a table: it is two segments
with a dot between. -/
def NamesTable (entry : String) : Prop :=
  ∃ schema owner,
    entry = schema ++ "." ++ owner ∧ IsSegment schema ∧ IsSegment owner

theorem isTableName_iff {entry : String} :
    isTableName entry = true ↔ NamesTable entry := by
  have cut :
      ∀ schema owner,
        Text.cutFirst? '.' entry = some (schema, owner) ↔
          entry = schema ++ "." ++ owner ∧ '.' ∉ schema.toList :=
    fun _ _ => Text.cutFirst?_eq_some_iff
  unfold isTableName
  constructor
  · intro named
    split at named
    · next schema owner found =>
        rcases (cut schema owner).1 found with ⟨whole, free⟩
        simp at named
        exact ⟨schema, owner, whole, ⟨named.1.1, free⟩, named.1.2, named.2⟩
    · cases named
  · rintro ⟨schema, owner, whole, ⟨present, free⟩, present', free'⟩
    rw [(cut schema owner).2 ⟨whole, free⟩]
    simp [present, present', free']

/-- A table is named by its own two names alone. -/
theorem namesTable_dotted_iff {schema owner : String} :
    NamesTable (schema ++ "." ++ owner) ↔
      IsSegment schema ∧ IsSegment owner := by
  constructor
  · rintro ⟨schema', owner', same, segment, segment'⟩
    have joined :
        Text.joined '.' [schema, owner] =
          Text.joined '.' [schema', owner'] := by
      simpa using same
    have free : ∀ part ∈ [schema', owner'], '.' ∉ part.toList := by
      simpa using ⟨segment.2, segment'.2⟩
    have parts : [schema, owner] = [schema', owner'] :=
      Text.eq_of_joined_eq (List.cons_ne_nil _ _) rfl free joined
    cases parts
    exact ⟨segment, segment'⟩
  · rintro ⟨segment, segment'⟩
    exact ⟨schema, owner, rfl, segment, segment'⟩

/-! ## Credentials and hosts -/

/-- Whether credentials have a connection string. -/
def Connects
    (credentials : Credentials)
    (connection : String) : Prop :=
  connection ≠ "" ∧
    ∃ text, credentials.lookup "connection_string" = some text ∧
      Text.TrimsTo text connection

/-- Whether accounts are created on a host: the configured one, or any where
none is configured or it is blank. -/
inductive HostsAccounts (config : Config) : String → Prop
  | configured
      {text host : String}
      (found : config.values.lookup "account_host" = some text)
      (trims : Text.TrimsTo text host)
      (present : host ≠ "") :
      HostsAccounts config host
  | anywhere
      (blank :
        ∀ text ∈ config.values.lookup "account_host", Text.TrimsTo text "") :
      HostsAccounts config "%"

theorem hostsAccounts_accountHostOf (config : Config) :
    HostsAccounts config (accountHostOf config) := by
  unfold accountHostOf
  cases found : config.values.lookup "account_host" with
  | none => exact .anywhere (by simp [found])
  | some text =>
      have trims : Text.TrimsTo text (Text.trimmed text) :=
        Text.trimmed_eq_iff.1 rfl
      by_cases blank : Text.trimmed text = ""
      · simp only [Option.map_some, if_pos blank]
        rw [blank] at trims
        exact .anywhere (by simpa [found] using trims)
      · simp only [Option.map_some, if_neg blank]
        exact .configured found trims blank

/-- The connection string that is read is what the credentials have, and is
empty only if they have none. -/
theorem connects_iff {credentials : Credentials} {connection : String} :
    Connects credentials connection ↔
      connection ≠ "" ∧
        ((credentials.lookup "connection_string").map Text.trimmed).getD "" =
          connection := by
  rw [Connects]
  refine and_congr_right fun present => ?_
  cases credentials.lookup "connection_string" with
  | none => simp [present.symm]
  | some text => simp [Text.trimmed_eq_iff]

/-! ## Reading settings -/

/-- What settings have to be for a configuration and its credentials. -/
structure Express
    (config : Config)
    (credentials : Credentials)
    (settings : Settings) : Prop where
  connection : Connects credentials settings.connectionString
  collapses : config.Flags "collapse_users" settings.collapseUsers
  leavesOut :
    ∀ database,
      settings.leavesOut database = true ↔
        config.Lists "skip_databases" database
  /-- A dotted name is not mistaken for that of another table. -/
  showsColumns :
    ∀ schema owner,
      settings.showsColumns schema owner = true ↔
        IsSegment schema ∧ IsSegment owner ∧
          config.Lists "expand_columns" (schema ++ "." ++ owner)
  host : HostsAccounts config settings.accountHost

/-- Whether a configuration and its credentials can be read. -/
structure Readable
    (config : Config)
    (credentials : Credentials) : Prop where
  flag : ∃ value, config.Flags "collapse_users" value
  connection : ∃ connection, Connects credentials connection
  tables :
    ∀ entry, config.Lists "expand_columns" entry → NamesTable entry

/-- What reading a configuration and its credentials gives.  The first rule
that is broken is reported. -/
inductive Outcome (config : Config) (credentials : Credentials) :
    Except Error Settings → Prop
  | unclear
      {text word : String}
      (meaningless : ∀ value, ¬config.Flags "collapse_users" value)
      (found : config.values.lookup "collapse_users" = some text)
      (trims : Text.TrimsTo text word) :
      Outcome config credentials
        (.error
          (.invalidSettings
            (.unclearFlag "collapse_users" (Text.lowered word))))
  | disconnected
      (flag : ∃ value, config.Flags "collapse_users" value)
      (missing : ∀ connection, ¬Connects credentials connection) :
      Outcome config credentials
        (.error (.invalidSettings .noConnectionString))
  | unnamed
      {entry : String}
      (flag : ∃ value, config.Flags "collapse_users" value)
      (connection : ∃ connection, Connects credentials connection)
      (listed : config.Lists "expand_columns" entry)
      (nameless : ¬NamesTable entry) :
      Outcome config credentials
        (.error (.invalidSettings (.badExpansion entry)))
  | read
      {settings : Settings}
      (readable : Readable config credentials)
      (express : Express config credentials settings) :
      Outcome config credentials (.ok settings)

/-- The settings before they are checked. -/
def unchecked
    (config : Config)
    (credentials : Credentials)
    (collapses : Bool) : Settings where
  connectionString :=
    ((credentials.lookup "connection_string").map Text.trimmed).getD ""
  skipDatabases := Sorted.ofList (config.listAt "skip_databases")
  expandColumns := Sorted.ofList (config.listAt "expand_columns")
  collapseUsers := collapses
  accountHost := accountHostOf config

section

variable
    {config : Config}
    {credentials : Credentials}
    {collapses : Bool}

theorem ofConfig_of_flags (flag : config.Flags "collapse_users" collapses) :
    ofConfig config credentials =
      (unchecked config credentials collapses).check.map
        fun _ => unchecked config credentials collapses := by
  rw [ofConfig, Config.flagAt_eq_ok_iff.2 flag]
  rfl

theorem mem_expandColumns_iff {entry : String} :
    entry ∈ (unchecked config credentials collapses).expandColumns ↔
      config.Lists "expand_columns" entry :=
  Sorted.mem_ofList.trans Config.mem_listAt_iff

/-- Settings that name only tables are what they were read from. -/
theorem express_unchecked
    (flag : config.Flags "collapse_users" collapses)
    (connected :
      (unchecked config credentials collapses).connectionString ≠ "")
    (named :
      ∀ entry, config.Lists "expand_columns" entry → NamesTable entry) :
    Express config credentials (unchecked config credentials collapses) where
  connection := connects_iff.2 ⟨connected, rfl⟩
  collapses := flag
  leavesOut database := by
    rw [leavesOut_iff, ← Config.mem_listAt_iff]
    exact Sorted.mem_ofList
  showsColumns schema owner := by
    rw [showsColumns_iff, mem_expandColumns_iff]
    constructor
    · intro listed
      rcases namesTable_dotted_iff.1 (named _ listed) with ⟨segment, segment'⟩
      exact ⟨segment, segment', listed⟩
    · rintro ⟨_, _, listed⟩
      exact listed
  host := hostsAccounts_accountHostOf config

theorem outcome_of_flags (flag : config.Flags "collapse_users" collapses) :
    Outcome config credentials (ofConfig config credentials) := by
  rw [ofConfig_of_flags flag, check]
  by_cases connected :
      (unchecked config credentials collapses).connectionString = ""
  · rw [if_pos connected]
    refine .disconnected ⟨_, flag⟩ fun connection connects => ?_
    rcases connects_iff.1 connects with ⟨present, rfl⟩
    exact present connected
  · have connects : ∃ connection, Connects credentials connection :=
      ⟨_, connects_iff.2 ⟨connected, rfl⟩⟩
    rw [if_neg connected]
    cases searched :
        (unchecked config credentials collapses).expandColumns.find?
          fun entry => !isTableName entry with
    | some entry =>
        have member := List.mem_of_find?_eq_some searched
        have listed := mem_expandColumns_iff.1 member
        have nameless : ¬NamesTable entry := by
          simpa [← isTableName_iff] using List.find?_some searched
        exact .unnamed ⟨_, flag⟩ connects listed nameless
    | none =>
        have named :
            ∀ entry,
              config.Lists "expand_columns" entry → NamesTable entry := by
          intro entry listed
          have kept :=
            List.find?_eq_none.1 searched entry (mem_expandColumns_iff.2 listed)
          simpa [isTableName_iff] using kept
        exact
          .read ⟨⟨_, flag⟩, connects, named⟩
            (express_unchecked flag connected named)

end

theorem outcome_ofConfig
    (config : Config)
    (credentials : Credentials) :
    Outcome config credentials (ofConfig config credentials) := by
  by_cases flag : ∃ collapses, config.Flags "collapse_users" collapses
  · rcases flag with ⟨collapses, flag⟩
    exact outcome_of_flags flag
  · have meaningless := not_exists.1 flag
    rcases Config.flagAt_of_unclear meaningless with
      ⟨text, word, found, trims, refused⟩
    have stops :
        ofConfig config credentials =
          .error
            (.invalidSettings
              (.unclearFlag "collapse_users" (Text.lowered word))) := by
      rw [ofConfig, refused]
      rfl
    rw [stops]
    exact .unclear meaningless found trims

/-- Settings are read exactly if the flag has a value, there is a connection
string and every entry of the expansion list names a table.  They then mean
what the configuration says, and otherwise the first of the three that fails
is reported. -/
theorem ofConfig_means
    (config : Config)
    (credentials : Credentials) :
    ((∃ settings, ofConfig config credentials = .ok settings) ↔
        Readable config credentials) ∧
      Outcome config credentials (ofConfig config credentials) := by
  have outcome := outcome_ofConfig config credentials
  refine ⟨⟨?_, fun readable => ?_⟩, outcome⟩
  · rintro ⟨settings, ok⟩
    rw [ok] at outcome
    cases outcome with
    | read readable _ => exact readable
  · cases given : ofConfig config credentials with
    | ok settings => exact ⟨settings, rfl⟩
    | error error =>
        rw [given] at outcome
        cases outcome with
        | unclear meaningless _ _ =>
            rcases readable.flag with ⟨value, flag⟩
            exact absurd flag (meaningless value)
        | disconnected _ missing =>
            rcases readable.connection with ⟨connection, connects⟩
            exact absurd connects (missing connection)
        | unnamed _ _ listed nameless =>
            exact absurd (readable.tables _ listed) nameless

end Settings

end PrivilegeGraph
