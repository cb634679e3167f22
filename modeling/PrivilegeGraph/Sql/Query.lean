/-!
# Query texts

The text of every read of a MySQL server's catalog and grant tables.  Texts
differ with the server's generation where a grant table has further columns on
modern servers.
-/

namespace PrivilegeGraph.Sql.Query

/-- The server's host name and version. -/
def serverInfo : String :=
  "SELECT @@hostname AS hostname, @@version AS version"

/-- A query that any server answers. -/
def ping : String :=
  "SELECT 1"

/-- The clause that leaves out a number of names, each a parameter. -/
def skipClause (skipped : Nat) : String :=
  if skipped = 0 then ""
  else
    "WHERE SCHEMA_NAME NOT IN (" ++
      ", ".intercalate (List.replicate skipped "?") ++ ") "

/-- The databases in order of name, without a number of names. -/
def listDatabases (skipped : Nat) : String :=
  "SELECT SCHEMA_NAME FROM information_schema.SCHEMATA " ++
    skipClause skipped ++ "ORDER BY SCHEMA_NAME LIMIT ? OFFSET ?"

/-- The tables of a database. -/
def listTables : String :=
  "SELECT TABLE_SCHEMA, TABLE_NAME FROM information_schema.TABLES " ++
    "WHERE TABLE_SCHEMA = ? ORDER BY TABLE_NAME LIMIT ? OFFSET ?"

/-- The columns of a table. -/
def listColumns : String :=
  "SELECT TABLE_SCHEMA, TABLE_NAME, COLUMN_NAME " ++
    "FROM information_schema.COLUMNS WHERE TABLE_SCHEMA = ? " ++
    "AND TABLE_NAME = ? ORDER BY ORDINAL_POSITION LIMIT ? OFFSET ?"

/-- The routines of a database. -/
def listRoutines : String :=
  "SELECT ROUTINE_SCHEMA, SPECIFIC_NAME, ROUTINE_TYPE " ++
    "FROM information_schema.ROUTINES WHERE ROUTINE_SCHEMA = ? " ++
    "ORDER BY SPECIFIC_NAME LIMIT ? OFFSET ?"

/-- One routine. -/
def routineType : String :=
  "SELECT ROUTINE_SCHEMA, SPECIFIC_NAME, ROUTINE_TYPE " ++
    "FROM information_schema.ROUTINES WHERE ROUTINE_SCHEMA = ? " ++
    "AND SPECIFIC_NAME = ?"

/-- The dynamic privileges of an account. -/
def globalGrants : String :=
  "SELECT USER, HOST, PRIV, " ++
    "CAST(WITH_GRANT_OPTION AS CHAR) AS WITH_GRANT_OPTION " ++
    "FROM mysql.global_grants WHERE USER = ? AND HOST = ?"

/-- The privileges of an account on tables. -/
def tableGrants : String :=
  "SELECT User, Host, Db, Table_name, " ++
    "CAST(Table_priv AS CHAR) AS Table_priv " ++
    "FROM mysql.tables_priv WHERE User = ? AND Host = ?"

/-- The privileges of an account on columns. -/
def columnGrants : String :=
  "SELECT User, Host, Db, Table_name, Column_name, " ++
    "CAST(Column_priv AS CHAR) AS Column_priv " ++
    "FROM mysql.columns_priv WHERE User = ? AND Host = ?"

/-- The accounts that an account may act as. -/
def proxyGrants : String :=
  "SELECT User, Host, Proxied_user, Proxied_host, With_grant " ++
    "FROM mysql.proxies_priv WHERE User = ? AND Host = ?"

/-- The roles that an account holds. -/
def roleEdges : String :=
  "SELECT FROM_USER, FROM_HOST, TO_USER, TO_HOST, " ++
    "CAST(WITH_ADMIN_OPTION AS CHAR) AS WITH_ADMIN_OPTION " ++
    "FROM mysql.role_edges WHERE TO_USER = ? AND TO_HOST = ?"

/-- The flag columns of the database grant table and the privilege each stands
for. -/
def databaseFlags : List (String × String) := [
  ("Select_priv", "select"), ("Insert_priv", "insert"),
  ("Update_priv", "update"), ("Delete_priv", "delete"),
  ("Create_priv", "create"), ("Drop_priv", "drop"), ("Grant_priv", "grant"),
  ("References_priv", "references"), ("Index_priv", "index"),
  ("Alter_priv", "alter"), ("Create_tmp_table_priv", "create_temporary_tables"),
  ("Lock_tables_priv", "lock_tables"), ("Execute_priv", "execute"),
  ("Create_view_priv", "create_view"), ("Show_view_priv", "show_view"),
  ("Create_routine_priv", "create_routine"),
  ("Alter_routine_priv", "alter_routine"), ("Event_priv", "event"),
  ("Trigger_priv", "trigger")]

/-- The flag columns of the account table and the privilege each stands for. -/
def accountFlags : List (String × String) := [
  ("Select_priv", "select"), ("Insert_priv", "insert"),
  ("Update_priv", "update"), ("Delete_priv", "delete"),
  ("Create_priv", "create"), ("Drop_priv", "drop"), ("Reload_priv", "reload"),
  ("Shutdown_priv", "shutdown"), ("Process_priv", "process"),
  ("File_priv", "file"), ("Grant_priv", "grant"),
  ("References_priv", "references"), ("Index_priv", "index"),
  ("Alter_priv", "alter"), ("Show_db_priv", "show_databases"),
  ("Super_priv", "super"), ("Create_tmp_table_priv", "create_temporary_tables"),
  ("Lock_tables_priv", "lock_tables"), ("Execute_priv", "execute"),
  ("Repl_slave_priv", "replication_slave"),
  ("Repl_client_priv", "replication_client"),
  ("Create_view_priv", "create_view"), ("Show_view_priv", "show_view"),
  ("Create_routine_priv", "create_routine"),
  ("Alter_routine_priv", "alter_routine"), ("Create_user_priv", "create_user"),
  ("Event_priv", "event"), ("Trigger_priv", "trigger"),
  ("Create_tablespace_priv", "create_tablespace")]

/-- The further flag columns of the account table on modern servers. -/
def modernAccountFlags : List (String × String) := [
  ("Create_role_priv", "create_role"), ("Drop_role_priv", "drop_role")]

/-- The text that a flag column adds to a comma list when it is set. -/
def flagCase (flag : String × String) : String :=
  "CASE WHEN " ++ flag.1 ++ " = 'Y' THEN '" ++ flag.2 ++ ",' ELSE '' END"

/-- The comma list of the set flags. -/
def flagList (flags : List (String × String)) : String :=
  "CAST(CONCAT(\n    " ++ ",\n    ".intercalate (flags.map flagCase) ++
    "\n    ) AS CHAR) AS privs"

/-- The privileges of an account on databases. -/
def databaseGrants : String :=
  "SELECT User, Host, Db, " ++ flagList databaseFlags ++
    "\n    FROM mysql.db WHERE User = ? AND Host = ?"

/-- The sort of an account: one without a way to log in is a role. -/
def userType : String :=
  "CAST(CASE WHEN authentication_string = '' THEN 'role' ELSE 'user' END " ++
    "AS CHAR) AS user_type"

/-- One account with its static privileges on the server. -/
def getAccount (modern : Bool) : String :=
  "SELECT User, Host, " ++
    flagList (accountFlags ++ if modern then modernAccountFlags else []) ++
      ", " ++ userType ++ " FROM mysql.user WHERE User = ? AND Host = ?"

/-- The condition that an account is a role, or that it is none. -/
def sortFilter (role : Bool) : String :=
  if role then "authentication_string = ''" else "authentication_string != ''"

/-- The accounts of one sort, with accounts of one name merged when that is
asked for. -/
def listAccounts (role collapse : Bool) : String :=
  if collapse then
    "SELECT User, CAST(GROUP_CONCAT(Host ORDER BY Host) AS CHAR) AS Host, '" ++
      (if role then "role" else "user") ++
      "' AS user_type FROM mysql.user WHERE " ++ sortFilter role ++
      " GROUP BY User ORDER BY User LIMIT ? OFFSET ?"
  else
    "SELECT User, Host, " ++ userType ++ " FROM mysql.user WHERE " ++
      sortFilter role ++ " ORDER BY User, Host LIMIT ? OFFSET ?"

end PrivilegeGraph.Sql.Query
