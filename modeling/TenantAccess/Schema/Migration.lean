import TenantAccess.Json.Value
import TenantAccess.Schema.Tables

set_option autoImplicit false

namespace TenantAccess.Schema

inductive Direction where
  | upgrade
  | downgrade
  deriving DecidableEq, Repr

namespace Direction

def ofText? : String → Option Direction
  | "upgrade" => some .upgrade
  | "downgrade" => some .downgrade
  | _ => none

/-- The tables after a migration; the version table stays. -/
def result : Direction → List Table
  | .upgrade => tables ++ [versionTable]
  | .downgrade => [versionTable]

end Direction

def ColumnType.embedded : ColumnType → String
  | .uuid => "CHAR(32)"
  | .text length => s!"VARCHAR({length})"
  | .json => "JSON"
  | .boolean => "BOOLEAN"
  | .timestamp => "DATETIME"

def ColumnType.server : ColumnType → String
  | .uuid => "UUID"
  | .text length => s!"VARCHAR({length})"
  | .json => "JSON"
  | .boolean => "BOOLEAN"
  | .timestamp => "TIMESTAMP WITH TIME ZONE"

def quotedDefault (text : String) : String := s!"'{text}'"

def strings (items : List String) : Json := .array (items.map .string)

def Column.describe (column : Column) : Json :=
  .array [.string column.name, .string column.type.embedded, .bool column.nullable,
    column.default.elim .null fun text => .string (quotedDefault text)]

def Table.describe (table : Table) : Json :=
  let indexes := table.indexes.mergeSort fun x y => decide (x.name ≤ y.name)
  .object
    [("columns", .array (table.columns.map Column.describe)),
      ("primary_key", strings table.primaryKey),
      ("indexes", .array (indexes.map fun index =>
        .array [.string index.name, strings index.columns, .bool index.unique])),
      ("uniques", .array (table.uniques.map fun rule =>
        .array [.string rule.name, strings rule.columns]))]

def describe (tables : List Table) : Json :=
  .object (tables.map fun table => (table.name, table.describe))

def list (names : List String) : String := ", ".intercalate names

def Column.clause (column : Column) : String :=
  let default := column.default.elim "" fun text => " DEFAULT " ++ quotedDefault text
  column.name ++ " " ++ column.type.server ++ default ++ if column.nullable then "" else " NOT NULL"

def Table.keyClause (table : Table) : String :=
  let key := s!"PRIMARY KEY ({list table.primaryKey})"
  if table = versionTable then s!"CONSTRAINT {table.name}_pkc {key}" else key

def Uniqueness.clause (rule : Uniqueness) : String :=
  s!"CONSTRAINT {rule.name} UNIQUE ({list rule.columns})"

/-- The lines of a parenthesized list, one clause a line. -/
def clauseLines : List String → List String
  | [] => []
  | [clause] => ["    " ++ clause]
  | clause :: rest => ("    " ++ clause ++ ",") :: clauseLines rest

def Table.createLines (table : Table) : List String :=
  s!"CREATE TABLE {table.name} ("
    :: clauseLines (table.columns.map Column.clause ++ [table.keyClause]
      ++ table.uniques.map Uniqueness.clause)
    ++ [");"]

def Index.createLine (index : Index) (table : Table) : String :=
  let kind := if index.unique then "CREATE UNIQUE INDEX" else "CREATE INDEX"
  s!"{kind} {index.name} ON {table.name} ({list index.columns});"

def revision : String := "202610190001"

def upgradeLines : List String :=
  tables.flatMap fun table =>
    table.createLines ++ table.indexes.map fun index => index.createLine table

def downgradeLines : List String :=
  tables.reverse.flatMap fun table =>
    (table.indexes.reverse.map fun index => s!"DROP INDEX {index.name};")
      ++ [s!"DROP TABLE {table.name};"]

/-- The script of a migration, as one transaction that keeps the version table up to date; the
table itself stays. -/
def Direction.script : Direction → List String
  | .upgrade =>
    let record := s!"INSERT INTO {versionTable.name} (version_num) VALUES ('{revision}') "
      ++ s!"RETURNING {versionTable.name}.version_num;"
    ["BEGIN;"] ++ versionTable.createLines ++ [s!"-- Running upgrade  -> {revision}"]
      ++ upgradeLines ++ [record, "COMMIT;"]
  | .downgrade =>
    let erase := s!"DELETE FROM {versionTable.name} WHERE {versionTable.name}.version_num = "
      ++ s!"'{revision}';"
    ["BEGIN;", s!"-- Running downgrade {revision} ->"] ++ downgradeLines
      ++ [erase, "COMMIT;"]

end TenantAccess.Schema
