import SqlGateway.Text.Split

/-!
# The catalog statements of MySQL

Databases take the place of schemas; where none is named, the session's own counts.
-/

namespace SqlGateway.Queries.MySql

open Text (block)

def databases : String := "SHOW DATABASES"

def tables : String := block [
  "SELECT CAST(TABLE_NAME AS CHAR) AS name",
  "FROM information_schema.TABLES",
  "WHERE TABLE_SCHEMA = COALESCE(?, DATABASE()) AND TABLE_TYPE = 'BASE TABLE'",
  "ORDER BY TABLE_NAME"]

def views : String := block [
  "SELECT CAST(TABLE_NAME AS CHAR) AS name",
  "FROM information_schema.TABLES",
  "WHERE TABLE_SCHEMA = COALESCE(?, DATABASE()) AND TABLE_TYPE = 'VIEW'",
  "ORDER BY TABLE_NAME"]

def functions : String := block [
  "SELECT DISTINCT CAST(ROUTINE_NAME AS CHAR) AS name",
  "FROM information_schema.ROUTINES",
  "WHERE ROUTINE_SCHEMA = COALESCE(?, DATABASE())",
  "ORDER BY name"]

def columns : String := block [
  "SELECT",
  "    CAST(COLUMN_NAME AS CHAR) AS column_name,",
  "    CAST(COLUMN_TYPE AS CHAR) AS column_type,",
  "    CAST(IS_NULLABLE AS CHAR) AS is_nullable,",
  "    CAST(COLUMN_DEFAULT AS CHAR) AS column_default,",
  "    CAST(COLUMN_KEY AS CHAR) AS column_key",
  "FROM information_schema.COLUMNS",
  "WHERE TABLE_SCHEMA = COALESCE(?, DATABASE()) AND TABLE_NAME = ?",
  "ORDER BY ORDINAL_POSITION"]

def relationships : String := block [
  "SELECT",
  "    CAST(CONSTRAINT_NAME AS CHAR) AS constraint_name,",
  "    CAST(TABLE_SCHEMA AS CHAR) AS source_schema,",
  "    CAST(TABLE_NAME AS CHAR) AS source_table,",
  "    CAST(COLUMN_NAME AS CHAR) AS source_column,",
  "    CAST(REFERENCED_TABLE_SCHEMA AS CHAR) AS target_schema,",
  "    CAST(REFERENCED_TABLE_NAME AS CHAR) AS target_table,",
  "    CAST(REFERENCED_COLUMN_NAME AS CHAR) AS target_column",
  "FROM information_schema.KEY_COLUMN_USAGE",
  "WHERE TABLE_SCHEMA = COALESCE(?, DATABASE())",
  "AND REFERENCED_TABLE_NAME IS NOT NULL",
  "ORDER BY TABLE_NAME, CONSTRAINT_NAME, ORDINAL_POSITION"]

def tableCount : String := block [
  "SELECT COUNT(*) AS count",
  "FROM information_schema.TABLES",
  "WHERE TABLE_SCHEMA = DATABASE() AND TABLE_TYPE = 'BASE TABLE'"]

def databaseSize : String := block [
  "SELECT CAST(COALESCE(SUM(DATA_LENGTH + INDEX_LENGTH), 0) AS SIGNED) AS size",
  "FROM information_schema.TABLES",
  "WHERE TABLE_SCHEMA = DATABASE()"]

def activeSessions : String := block [
  "SELECT COUNT(*) AS count",
  "FROM information_schema.PROCESSLIST",
  "WHERE DB = DATABASE()"]

def largestTables : String := block [
  "SELECT",
  "    CAST(TABLE_NAME AS CHAR) AS name,",
  "    CAST(TABLE_SCHEMA AS CHAR) AS `schema`,",
  "    CAST(COALESCE(DATA_LENGTH + INDEX_LENGTH, 0) AS SIGNED) AS size_bytes,",
  "    CAST(TABLE_ROWS AS SIGNED) AS row_count",
  "FROM information_schema.TABLES",
  "WHERE TABLE_SCHEMA = DATABASE() AND TABLE_TYPE = 'BASE TABLE'",
  "ORDER BY size_bytes DESC",
  "LIMIT 5"]

def tableTypes : String := block [
  "SELECT CAST(TABLE_TYPE AS CHAR) AS table_type, COUNT(*) AS count",
  "FROM information_schema.TABLES",
  "WHERE TABLE_SCHEMA = DATABASE()",
  "GROUP BY TABLE_TYPE",
  "ORDER BY TABLE_TYPE"]

end SqlGateway.Queries.MySql
