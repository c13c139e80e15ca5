import SqlGateway.Catalog.Metrics
import SqlGateway.Report.Size

/-!
# Metrics as text
-/

namespace SqlGateway.Report

def fillRight (count : Nat) (text : String) : String :=
  String.ofList (text.toList ++ List.replicate (count - text.toList.length) ' ')

def fillLeft (count : Nat) (text : String) : String :=
  String.ofList (List.replicate (count - text.toList.length) ' ' ++ text.toList)

def typeLine (entry : TableTypeCount) : String :=
  "  " ++ fillRight 12 entry.tableType ++ " " ++ toString entry.count.toNat ++ "\n"

def sizeLine (entry : TableSize) : String :=
  let name :=
    match entry.schema with
    | some schema => schema ++ "." ++ entry.name
    | none => entry.name
  let rows :=
    match entry.rows with
    | some rows => " (~" ++ toString rows.toNat ++ " rows)"
    | none => ""
  "  " ++ fillRight 32 name ++ " " ++ fillLeft 10 (size entry.bytes) ++ rows ++ "\n"

def metrics (snapshot : DatabaseMetrics) : String :=
  "Tables: " ++ toString snapshot.tables.toNat ++ "\nSize: " ++ size snapshot.bytes ++
    "\nActive connections: " ++ toString snapshot.sessions.toNat ++ "\n" ++
    (if snapshot.types.isEmpty then ""
    else "\nBy type:\n" ++ String.join (snapshot.types.map typeLine)) ++
    (if snapshot.largest.isEmpty then ""
    else "\nLargest tables:\n" ++ String.join (snapshot.largest.map sizeLine))

end SqlGateway.Report
