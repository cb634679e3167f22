import PrivilegeGraph.Privilege

/-!
# The privilege table

The fixed table of privileges, in the order in which they are listed.
-/

namespace PrivilegeGraph.Privilege

/-- The kinds of a privilege that is held on the server as a whole. -/
def onServer : List Kind := [.server]

/-- The kinds of a privilege that reaches down to databases. -/
def toDatabase : List Kind := [.server, .database]

/-- The kinds of a privilege that reaches down to routines. -/
def toRoutine : List Kind := [.server, .database, .routine]

/-- The kinds of a privilege that reaches down to tables. -/
def toTable : List Kind := [.server, .database, .table]

/-- The kinds of a privilege that reaches down to columns. -/
def toColumn : List Kind := [.server, .database, .table, .column]

/-- The kinds of a privilege that every object has. -/
def everyObject : List Kind := [.server, .database, .table, .column, .routine]

/-- Every privilege once, in listing order. -/
def table : List Privilege := [
    .static "alter" "Alter" "Enable use of ALTER TABLE" toTable,
    .static "alter_routine" "Alter routine"
      "Enable stored routines to be altered or dropped" toRoutine,
    .static "create" "Create" "Enable database and table creation" toTable,
    .modernStatic "create_role" "Create role" "Enable role creation",
    .static "create_routine" "Create routine"
      "Enable stored routine creation" toDatabase,
    .static "create_tablespace" "Create tablespace"
      ("Enable tablespaces and log file groups to be created, altered, or " ++
        "dropped")
      onServer,
    .static "create_temporary_tables" "Create temporary tables"
      "Enable use of CREATE TEMPORARY TABLE" toDatabase,
    .static "create_user" "Create user"
      ("Enable use of CREATE USER, DROP USER, RENAME USER, and REVOKE ALL " ++
        "PRIVILEGES")
      onServer,
    .static "create_view" "Create view"
      "Enable views to be created or altered" toTable,
    .static "delete" "Delete" "Enable use of DELETE" toTable,
    .static "drop" "Drop"
      "Enable databases, tables, and views to be dropped" toTable,
    .modernStatic "drop_role" "Drop role" "Enable roles to be dropped",
    .static "event" "Event"
      "Enable use of events for the Event Scheduler" toDatabase,
    .static "execute" "Execute"
      "Enable the user to execute stored routines" toRoutine,
    .static "file" "File"
      "Enable the user to cause the server to read or write files" onServer,
    .static "grant" "Grant"
      "Enable privileges to be granted to or removed from other accounts"
      everyObject,
    .static "index" "Index" "Enable indexes to be created or dropped" toTable,
    .static "insert" "Insert" "Enable use of INSERT" toColumn,
    .static "lock_tables" "Lock tables"
      ("Enable use of LOCK TABLES on tables for which you have the SELECT " ++
        "privilege")
      toDatabase,
    .static "process" "Process"
      "Enable the user to see all processes with SHOW PROCESSLIST" onServer,
    { static "proxy" "Proxy" "Enable user proxying" [.server, .user, .role] with
      grantable := true },
    .static "references" "References" "Enable foreign key creation" toColumn,
    .static "reload" "Reload" "Enable use of FLUSH operations" onServer,
    .static "replication_client" "Replication client"
      "Enable the user to ask where source or replica servers are." onServer,
    .static "replication_slave" "Replication slave"
      "Enable replicas to read binary log events from the source" onServer,
    .static "select" "Select" "Enable use of SELECT" toColumn,
    .static "show_databases" "Show databases"
      "Enable SHOW DATABASES to show all databases." onServer,
    .static "show_view" "Show view" "Enable use of SHOW CREATE VIEW" toTable,
    .static "shutdown" "Shutdown" "Enable use of mysqladmin shutdown" onServer,
    .static "super" "Super"
      ("Enable use of other administrative operations such as CHANGE " ++
        "REPLICATION SOURCE TO, CHANGE MASTER TO, KILL, PURGE BINARY LOGS, " ++
        "SET GLOBAL, and mysqladmin debug command.")
      onServer,
    .static "trigger" "Trigger" "Enable trigger operations" toTable,
    .static "update" "Update" "Enable use of UPDATE" toColumn,
    .registered "application_password_admin" "Application password admin"
      "Enable dual password administration",
    .registered "audit_abort_exempt" "Audit abort exempt"
      "Allow queries blocked by audit log filter",
    .registered "audit_admin" "Audit admin" "Enable audit log configuration",
    .registered "authentication_policy_admin" "Authentication policy admin"
      "Enable authentication policy administration.",
    .registered "backup_admin" "Backup admin" "Enable backup administration",
    .registered "binlog_admin" "Binlog admin" "Enable binary log control",
    .registered "binlog_encryption_admin" "Binlog encryption admin"
      "Enable activation and deactivation of binary log encryption",
    .registered "clone_admin" "Clone admin" "Enable clone administration",
    .registered "connection_admin" "Connection admin"
      "Enable connection limit/restriction control",
    .registered "encryption_key_admin" "Encryption key admin"
      "Enable InnoDB key rotation",
    .registered "firewall_admin" "Firewall admin"
      "Enable firewall rule administration, any user",
    .registered "firewall_exempt" "Firewall exempt"
      "Exempt user from firewall restrictions",
    .registered "firewall_user" "Firewall user"
      "Enable firewall rule administration, self",
    .registered "flush_optimizer_costs" "Flush optimizer costs"
      "Enable optimizer cost reloading",
    .registered "flush_status" "Flush status"
      "Enable status indicator flushing",
    .registered "flush_tables" "Flush tables" "Enable table flushing",
    .registered "flush_user_resources" "Flush user resources"
      "Enable user-resource flushing",
    .registered "group_replication_admin" "Group replication admin"
      "Enable Group Replication control",
    .registered "group_replication_stream" "Group replication stream"
      ("Allows a user account to be used for establishing Group " ++
        "Replication's group communication connections."),
    .registered "innodb_redo_log_archive" "InnoDB redo log archive"
      "Enable redo log archiving administration",
    .registered "innodb_redo_log_enable" "InnoDB redo log enable"
      "Enable or disable redo logging",
    .registered "ndb_stored_user" "NDB stored user"
      "Enable sharing of user or role between SQL nodes (NDB Cluster)",
    .registered "passwordless_user_admin" "Passwordless user admin"
      "Enable passwordless user account administration",
    .registered "persist_ro_variables_admin" "Persist RO variables admin"
      "Enable persisting read-only system variables",
    .registered "replication_applier" "Replication applier"
      "Act as the PRIVILEGE_CHECKS_USER for a replication channel",
    .registered "replication_slave_admin" "Replication slave admin"
      "Enable regular replication control",
    .registered "resource_group_admin" "Resource group admin"
      "Enable resource group administration",
    .registered "resource_group_user" "Resource group user"
      "Enable resource group administration",
    .registered "role_admin" "Role admin"
      "Enable roles to be granted or revoked, use of WITH ADMIN OPTION",
    .registered "sensitive_variables_observer" "Sensitive variables observer"
      "Enable viewing the values of sensitive system variables",
    .registered "service_connection_admin" "Service connection admin"
      ("Enables connections to the network interface that permits only " ++
        "administrative connections"),
    .registered "session_variables_admin" "Session variables admin"
      "Enable setting restricted session system variables",
    .registered "set_user_id" "Set user ID"
      "Enable setting non-self DEFINER values",
    .registered "show_routine" "Show routine"
      "Enable access to stored routine definitions",
    .registered "skip_query_rewrite" "Skip query rewrite"
      "Do not rewrite queries executed by this user",
    .registered "system_user" "System user"
      "Designate account as system account",
    .registered "system_variables_admin" "System variables admin"
      "Enable modifying or persisting global system variables",
    .registered "table_encryption_admin" "Table encryption admin"
      "Enable overriding default encryption settings",
    .registered "version_token_admin" "Version token admin"
      "Enable use of Version Tokens functions",
    .registered "xa_recover_admin" "XA recover admin"
      "Enable XA RECOVER execution",
    { id := "role_assignment", displayName := "Role Member",
      description := "Enables SET ROLE", kinds := [.user, .role],
      grantable := true, modernOnly := true, purpose := .assignment }]

end PrivilegeGraph.Privilege
