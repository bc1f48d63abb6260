import RowGraph.Display.Ink
import RowGraph.Load

/-!
The account of a load, as it is shown: totals, a line for each table, and the
faults table by table. Every fault stands in exactly one group, the groups in
the order of their first fault.
-/

namespace RowGraph.Display

/-- Groups of faults with one more fault: in the group of its table, or in a
new group at the end. -/
def addToGroups (fault : Fault) : List (String × List Fault) → List (String × List Fault)
  | [] => [(fault.table, [fault])]
  | (table, group) :: rest =>
    if table = fault.table then (table, group ++ [fault]) :: rest
    else (table, group) :: addToGroups fault rest

def faultsByTable (faults : List Fault) : List (String × List Fault) :=
  faults.foldl (fun groups fault => addToGroups fault groups) []

def tableColumns (name rows nodes relationships : String) : String :=
  Text.padRight 24 name ++ " " ++ Text.padLeft 8 rows ++ " " ++ Text.padLeft 8 nodes ++ " " ++
    Text.padLeft 14 relationships

def tableLine (table : TableReport) : String :=
  tableColumns (Text.shorten 22 table.table) (toString table.rows) (toString table.nodes)
    (toString table.relationships)

def faultLine (ink : Ink) (fault : Fault) : String :=
  let key := (fault.key?.map RowKey.text).getD ""
  "    " ++ ink.paint .red "✗" ++ " " ++ ink.paint .yellow key ++ " " ++ fault.message

def groupLines (ink : Ink) (group : String × List Fault) : List String :=
  ("  " ++ ink.paint .bold group.1 ++ " (" ++ toString group.2.length ++ ")") ::
    group.2.map (faultLine ink)

def reportLines (ink : Ink) (report : Report) : List String :=
  let heading :=
    if report.isClean then ink.paint .boldGreen "Sync complete:"
    else ink.paint .boldRed "Sync finished with errors:"
  let totals := [
    "",
    heading,
    "  Nodes merged:          " ++ toString report.nodes,
    "  Relationships merged:  " ++ toString report.relationships]
  let skipped :=
    if report.skipped = 0 then []
    else ["  Skipped (null key):    " ++ ink.paint .yellow (toString report.skipped)]
  let tables :=
    if report.tables.isEmpty then []
    else
      "" :: tableColumns "Table" "Rows" "Nodes" "Relationships" :: rule 57 ::
        report.tables.map tableLine
  let faults :=
    if report.faults.isEmpty then []
    else
      "" :: (ink.paint .boldRed "Errors" ++ " (" ++ toString report.faults.length ++ "):") ::
        (faultsByTable report.faults).flatMap (groupLines ink)
  totals ++ skipped ++ tables ++ faults

end RowGraph.Display
