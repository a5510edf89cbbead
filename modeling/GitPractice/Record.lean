import GitPractice.Screen.Drawing
import GitPractice.Value.Json.Print
import GitPractice.Value.Shown

/-!
# Records

Results for other programs are written as records, one a line in JSON. For
people the same records become one table, in which well-known columns come
first.
-/

namespace GitPractice
namespace Record

/-- A value that is no record is wrapped in one. -/
def ofValue (v : Value) : Fields :=
  match v with
  | .record fields => fields
  | v => [("value", .text v.shown)]

/-- One line a record. -/
def jsonLines (records : List Fields) : String :=
  String.join (records.map fun fields => Json.print (.record fields) ++ "\n")

/-- The columns that come first. -/
def leadingColumns : List String :=
  ["id", "name", "category", "command", "output", "error", "description"]

/-- The columns for records that are like the first one. -/
def columns : List Fields → List String
  | [] => []
  | first :: _ =>
    let keys := first.keys.filterMap Scalar.text?
    let leading := leadingColumns.filter keys.contains
    leading ++ keys.filter fun k => !leading.contains k

/-- The text of a value in a table. -/
def cellText (v : Value) : String :=
  match v with
  | .null => ""
  | .bool b => if b then "yes" else "no"
  | .list items => Text.join ", " (items.map Value.shown)
  | .record fields => Json.print (.record fields)
  | v => v.shown

/-- A column of the table; heading and cells are read as markup. -/
def tableColumn (tm : Screen.Terminal) (records : List Fields) (name : String) : Screen.Unread where
  heading := Screen.marked tm name
  cells := records.map fun fields => Screen.marked tm (cellText ((fields.get? name).getD (.text "")))

/-- The records as a table, with the columns named or, when none are, those of the first record. -/
def table (records : List Fields) (names : List String) (tm : Screen.Terminal := .wide) : Except Fault String :=
  let names := if names.isEmpty then columns records else names
  if records.isEmpty then .ok "No results found\n"
  else if names.isEmpty then .ok (if tm.columns = 0 then "" else "\n")
  else Screen.table tm { box := Screen.Box.heavyHead } (names.map (tableColumn tm records))

/-- A failure as a record; an empty context is left out. -/
def error (message : String) (kind : String := "error") (context : Fields := []) : String :=
  let data : Fields := [("error", .text message), ("type", .text kind)]
  let more : Fields := if context.isEmpty then [] else [("context", .record context)]
  jsonLines [data ++ more]

end Record
end GitPractice
