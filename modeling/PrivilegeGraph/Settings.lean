import PrivilegeGraph.Error
import PrivilegeGraph.Sorted
import PrivilegeGraph.Text.Case

/-!
# Settings

A connector is configured by texts under keys.  This module reads lists and
flags from them and checks the settings that the connector runs with.  A flag
that is neither true nor false is reported before a missing connection string,
and that before an entry of the expansion list that does not name a table.
-/

namespace PrivilegeGraph

/-- The configuration of a connector: its type and the texts under its further
keys. -/
structure Config where
  type : String
  values : List (String × String)
  deriving DecidableEq, Repr

/-- The secrets of a connector, by key. -/
abbrev Credentials := List (String × String)

namespace Config

/-- The entries of the comma list under a key; none for an absent key. -/
def listAt
    (config : Config)
    (key : String) :
    List String :=
  match config.values.lookup key with
  | some text => Text.entries text
  | none => []

/-- The flag under a key.  Letter case and blanks around it do not matter; an
absent or blank flag is false. -/
def flagAt
    (config : Config)
    (key : String) :
    Except SettingsFlaw Bool :=
  match (config.values.lookup key).map fun text =>
      Text.lowered (Text.trimmed text) with
  | none => .ok false
  | some value =>
      if value = "true" then .ok true
      else if value = "false" ∨ value = "" then .ok false
      else .error (.unclearFlag key value)

end Config

/-- The settings of a connector.  The two sets are held as sorted lists. -/
structure Settings where
  connectionString : String := ""
  /-- Databases left out of every listing and grant scope. -/
  skipDatabases : List String := []
  /-- Names `database.table` of the tables whose column grants are kept by
  column. -/
  expandColumns : List String := []
  /-- Whether accounts of one name are shown as one. -/
  collapseUsers : Bool := false
  /-- The host of accounts that the connector creates. -/
  accountHost : String := "%"
  deriving DecidableEq, Repr

namespace Settings

/-- The host of created accounts when none is configured. -/
def defaultAccountHost : String := "%"

/-- Whether a database is left out. -/
def leavesOut
    (settings : Settings)
    (database : String) :
    Bool :=
  settings.skipDatabases.contains database

/-- Whether a table's columns are shown. -/
def showsColumns
    (settings : Settings)
    (schema owner : String) :
    Bool :=
  settings.expandColumns.contains (schema ++ "." ++ owner)

/-- Whether an entry of the expansion list has exactly one dot, with text on
both sides. -/
def isTableName (entry : String) : Bool :=
  match Text.cutFirst? '.' entry with
  | some (schema, owner) =>
      schema != "" && owner != "" && !owner.toList.contains '.'
  | none => false

/-- Refuse settings without a connection string or with a bad expansion
entry. -/
def check (settings : Settings) : Except Error Unit :=
  if settings.connectionString = "" then
    .error (.invalidSettings .noConnectionString)
  else
    match settings.expandColumns.find? fun entry => !isTableName entry with
    | some entry => .error (.invalidSettings (.badExpansion entry))
    | none => .ok ()

/-- The configured host of created accounts, unless it is absent or blank. -/
def accountHostOf (config : Config) : String :=
  match (config.values.lookup "account_host").map Text.trimmed with
  | some host => if host = "" then defaultAccountHost else host
  | none => defaultAccountHost

/-- The settings that a configuration and its credentials describe. -/
def ofConfig
    (config : Config)
    (credentials : Credentials) :
    Except Error Settings := do
  let collapseUsers ←
    (config.flagAt "collapse_users").mapError Error.invalidSettings
  let settings : Settings := {
    connectionString :=
      ((credentials.lookup "connection_string").map Text.trimmed).getD ""
    skipDatabases := Sorted.ofList (config.listAt "skip_databases")
    expandColumns := Sorted.ofList (config.listAt "expand_columns")
    collapseUsers
    accountHost := accountHostOf config }
  settings.check
  return settings

theorem leavesOut_iff
    {settings : Settings}
    {database : String} :
    settings.leavesOut database = true ↔ database ∈ settings.skipDatabases := by
  simp [leavesOut]

theorem showsColumns_iff
    {settings : Settings}
    {schema owner : String} :
    settings.showsColumns schema owner = true ↔
      schema ++ "." ++ owner ∈ settings.expandColumns := by
  simp [showsColumns]

end Settings

end PrivilegeGraph
