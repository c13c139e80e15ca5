import SqlGateway.Text.Split

/-!
# The catalog statements of SQL Server

All counts and sizes are of the 64-bit type.
-/

namespace SqlGateway.Queries.SqlServer

open Text (block)

def databases : String := block [
  "SELECT name",
  "FROM sys.databases",
  "WHERE state_desc = 'ONLINE'",
  "ORDER BY name"]

/-- The schemas of users; those of fixed roles have higher numbers. -/
def schemas : String := block [
  "SELECT name",
  "FROM sys.schemas",
  "WHERE schema_id < 16384",
  "AND name NOT IN ('sys', 'INFORMATION_SCHEMA', 'guest')",
  "ORDER BY name"]

def tables : String := block [
  "SELECT TABLE_NAME AS name",
  "FROM INFORMATION_SCHEMA.TABLES",
  "WHERE TABLE_SCHEMA = @P1 AND TABLE_TYPE = 'BASE TABLE'",
  "ORDER BY TABLE_NAME"]

def views : String := block [
  "SELECT TABLE_NAME AS name",
  "FROM INFORMATION_SCHEMA.TABLES",
  "WHERE TABLE_SCHEMA = @P1 AND TABLE_TYPE = 'VIEW'",
  "ORDER BY TABLE_NAME"]

def functions : String := block [
  "SELECT DISTINCT ROUTINE_NAME AS name",
  "FROM INFORMATION_SCHEMA.ROUTINES",
  "WHERE ROUTINE_SCHEMA = @P1",
  "ORDER BY ROUTINE_NAME"]

def columns : String := block [
  "SELECT",
  "    c.COLUMN_NAME AS column_name,",
  "    CAST(CASE",
  "        WHEN c.CHARACTER_MAXIMUM_LENGTH = -1",
  "            THEN c.DATA_TYPE + '(max)'",
  "        WHEN c.CHARACTER_MAXIMUM_LENGTH IS NOT NULL",
  "            THEN c.DATA_TYPE + '(' + CAST(c.CHARACTER_MAXIMUM_LENGTH AS nvarchar(10)) + ')'",
  "        WHEN c.DATA_TYPE IN ('decimal', 'numeric')",
  "            THEN c.DATA_TYPE + '(' + CAST(c.NUMERIC_PRECISION AS nvarchar(10)) + ','",
  "                + CAST(c.NUMERIC_SCALE AS nvarchar(10)) + ')'",
  "        ELSE c.DATA_TYPE",
  "    END AS nvarchar(256)) AS column_type,",
  "    c.IS_NULLABLE AS is_nullable,",
  "    c.COLUMN_DEFAULT AS column_default,",
  "    pk.CONSTRAINT_NAME AS pk_name",
  "FROM INFORMATION_SCHEMA.COLUMNS c",
  "LEFT JOIN (",
  "    SELECT kcu.COLUMN_NAME, tc.CONSTRAINT_NAME",
  "    FROM INFORMATION_SCHEMA.TABLE_CONSTRAINTS tc",
  "    JOIN INFORMATION_SCHEMA.KEY_COLUMN_USAGE kcu",
  "        ON tc.CONSTRAINT_NAME = kcu.CONSTRAINT_NAME",
  "        AND tc.TABLE_SCHEMA = kcu.TABLE_SCHEMA",
  "        AND tc.TABLE_NAME = kcu.TABLE_NAME",
  "    WHERE tc.TABLE_SCHEMA = @P1",
  "    AND tc.TABLE_NAME = @P2",
  "    AND tc.CONSTRAINT_TYPE = 'PRIMARY KEY'",
  ") pk ON c.COLUMN_NAME = pk.COLUMN_NAME",
  "WHERE c.TABLE_SCHEMA = @P1 AND c.TABLE_NAME = @P2",
  "ORDER BY c.ORDINAL_POSITION"]

def relationships : String := block [
  "SELECT",
  "    fk.name AS constraint_name,",
  "    ss.name AS source_schema,",
  "    st.name AS source_table,",
  "    sc.name AS source_column,",
  "    ts.name AS target_schema,",
  "    tt.name AS target_table,",
  "    tc.name AS target_column",
  "FROM sys.foreign_key_columns fkc",
  "JOIN sys.foreign_keys fk ON fk.object_id = fkc.constraint_object_id",
  "JOIN sys.tables st ON st.object_id = fkc.parent_object_id",
  "JOIN sys.schemas ss ON ss.schema_id = st.schema_id",
  "JOIN sys.columns sc",
  "    ON sc.object_id = fkc.parent_object_id AND sc.column_id = fkc.parent_column_id",
  "JOIN sys.tables tt ON tt.object_id = fkc.referenced_object_id",
  "JOIN sys.schemas ts ON ts.schema_id = tt.schema_id",
  "JOIN sys.columns tc",
  "    ON tc.object_id = fkc.referenced_object_id AND tc.column_id = fkc.referenced_column_id",
  "WHERE (@P1 IS NULL OR ss.name = @P1)",
  "ORDER BY ss.name, st.name, fk.name, fkc.constraint_column_id"]

def tableCount : String := block [
  "SELECT CAST(COUNT(*) AS bigint) AS count",
  "FROM INFORMATION_SCHEMA.TABLES",
  "WHERE TABLE_TYPE = 'BASE TABLE'"]

/-- The sizes of files count pages of 8 kB. -/
def databaseSize : String := block [
  "SELECT CAST(COALESCE(SUM(CAST(size AS bigint)), 0) * 8192 AS bigint) AS size",
  "FROM sys.database_files"]

def activeSessions : String := block [
  "SELECT CAST(COUNT(*) AS bigint) AS count",
  "FROM sys.dm_exec_sessions",
  "WHERE database_id = DB_ID() AND is_user_process = 1"]

def largestTables : String := block [
  "SELECT TOP 5",
  "    t.name AS name,",
  "    s.name AS [schema],",
  "    CAST(SUM(ps.used_page_count) * 8192 AS bigint) AS size_bytes,",
  "    CAST(SUM(CASE WHEN ps.index_id IN (0, 1) THEN ps.row_count ELSE 0 END) AS bigint)",
  "        AS row_count",
  "FROM sys.tables t",
  "JOIN sys.schemas s ON s.schema_id = t.schema_id",
  "JOIN sys.dm_db_partition_stats ps ON ps.object_id = t.object_id",
  "GROUP BY t.name, s.name",
  "ORDER BY size_bytes DESC"]

def tableTypes : String := block [
  "SELECT TABLE_TYPE AS table_type, CAST(COUNT(*) AS bigint) AS count",
  "FROM INFORMATION_SCHEMA.TABLES",
  "GROUP BY TABLE_TYPE",
  "ORDER BY TABLE_TYPE"]

end SqlGateway.Queries.SqlServer
