import SqlGateway.Text.Split

/-!
# The catalog statements of PostgreSQL

A statement on a schema takes its name as the first parameter.
-/

namespace SqlGateway.Queries.PostgreSql

open Text (block)

def databases : String := block [
  "SELECT datname AS name",
  "FROM pg_database",
  "WHERE datistemplate = false AND datallowconn",
  "ORDER BY datname"]

def schemas : String := block [
  "SELECT schema_name AS name",
  "FROM information_schema.schemata",
  "WHERE schema_name NOT IN ('pg_catalog', 'information_schema')",
  "AND schema_name NOT LIKE 'pg\\_toast%'",
  "AND schema_name NOT LIKE 'pg\\_temp\\_%'",
  "ORDER BY schema_name"]

def tables : String := block [
  "SELECT table_name AS name",
  "FROM information_schema.tables",
  "WHERE table_schema = $1 AND table_type = 'BASE TABLE'",
  "ORDER BY table_name"]

def views : String := block [
  "SELECT table_name AS name",
  "FROM information_schema.views",
  "WHERE table_schema = $1",
  "ORDER BY table_name"]

def functions : String := block [
  "SELECT DISTINCT routine_name AS name",
  "FROM information_schema.routines",
  "WHERE routine_schema = $1",
  "ORDER BY routine_name"]

def columns : String := block [
  "SELECT",
  "    c.column_name,",
  "    format_type(a.atttypid, a.atttypmod) AS column_type,",
  "    c.is_nullable,",
  "    c.column_default,",
  "    pk.constraint_name AS pk_name",
  "FROM information_schema.columns c",
  "JOIN pg_class t ON t.relname = c.table_name",
  "JOIN pg_namespace n ON n.oid = t.relnamespace AND n.nspname = c.table_schema",
  "JOIN pg_attribute a ON a.attrelid = t.oid AND a.attname = c.column_name",
  "LEFT JOIN (",
  "    SELECT kcu.column_name, tc.constraint_name",
  "    FROM information_schema.table_constraints tc",
  "    JOIN information_schema.key_column_usage kcu",
  "        ON tc.constraint_name = kcu.constraint_name",
  "        AND tc.table_schema = kcu.table_schema",
  "        AND tc.table_name = kcu.table_name",
  "    WHERE tc.table_name = $1",
  "    AND tc.table_schema = $2",
  "    AND tc.constraint_type = 'PRIMARY KEY'",
  ") pk ON c.column_name = pk.column_name",
  "WHERE c.table_name = $1 AND c.table_schema = $2",
  "ORDER BY c.ordinal_position"]

def columnTypes : String := block [
  "SELECT a.attname AS name, format_type(a.atttypid, a.atttypmod) AS column_type",
  "FROM pg_attribute a",
  "JOIN pg_class c ON c.oid = a.attrelid",
  "JOIN pg_namespace n ON n.oid = c.relnamespace",
  "WHERE n.nspname = $1 AND c.relname = $2",
  "AND a.attnum > 0 AND NOT a.attisdropped"]

def relationships : String := block [
  "SELECT",
  "    con.conname AS constraint_name,",
  "    sn.nspname AS source_schema,",
  "    sc.relname AS source_table,",
  "    sa.attname AS source_column,",
  "    tn.nspname AS target_schema,",
  "    tc.relname AS target_table,",
  "    ta.attname AS target_column",
  "FROM pg_constraint con",
  "CROSS JOIN LATERAL unnest(con.conkey, con.confkey) WITH ORDINALITY AS k(src, tgt, ord)",
  "JOIN pg_class sc ON sc.oid = con.conrelid",
  "JOIN pg_namespace sn ON sn.oid = sc.relnamespace",
  "JOIN pg_attribute sa ON sa.attrelid = con.conrelid AND sa.attnum = k.src",
  "JOIN pg_class tc ON tc.oid = con.confrelid",
  "JOIN pg_namespace tn ON tn.oid = tc.relnamespace",
  "JOIN pg_attribute ta ON ta.attrelid = con.confrelid AND ta.attnum = k.tgt",
  "WHERE con.contype = 'f'",
  "AND ($1::text IS NULL OR sn.nspname = $1)",
  "ORDER BY sn.nspname, sc.relname, con.conname, k.ord"]

def tableCount : String := block [
  "SELECT COUNT(*) AS count",
  "FROM information_schema.tables",
  "WHERE table_schema NOT IN ('pg_catalog', 'information_schema')",
  "AND table_type = 'BASE TABLE'"]

def databaseSize : String := "SELECT pg_database_size(current_database()) AS size"

def activeSessions : String := block [
  "SELECT COUNT(*) AS count",
  "FROM pg_stat_activity",
  "WHERE datname = current_database()"]

def largestTables : String := block [
  "SELECT",
  "    c.relname AS name,",
  "    n.nspname AS schema,",
  "    pg_total_relation_size(c.oid) AS size_bytes,",
  "    c.reltuples::bigint AS row_count",
  "FROM pg_class c",
  "JOIN pg_namespace n ON n.oid = c.relnamespace",
  "WHERE c.relkind IN ('r', 'p')",
  "AND n.nspname NOT IN ('pg_catalog', 'information_schema')",
  "ORDER BY size_bytes DESC",
  "LIMIT 5"]

def tableTypes : String := block [
  "SELECT table_type, COUNT(*) AS count",
  "FROM information_schema.tables",
  "WHERE table_schema NOT IN ('pg_catalog', 'information_schema')",
  "GROUP BY table_type",
  "ORDER BY table_type"]

def endSessions : String := block [
  "SELECT pg_terminate_backend(pid) AS terminated",
  "FROM pg_stat_activity",
  "WHERE datname = $1 AND pid <> pg_backend_pid()"]

end SqlGateway.Queries.PostgreSql
