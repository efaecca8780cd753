import SchemaStructs.CommandLine.Command

/-! # Plain lines of what a command shows -/

namespace SchemaStructs.CommandLine

open Markup

def padded (width : Nat) (cell : String) : String :=
  cell ++ .ofList (List.replicate (width - cell.length) ' ')

/-- The widths of the first `count` columns. -/
def columnWidths (count : Nat) (rows : List (List String)) : List Nat :=
  (List.range count).map fun i => (rows.map fun row => (row[i]?.getD "").length).foldl max 0

/-- Rows with their cells in columns, two spaces apart. -/
def alignedRows (rows : List (List String)) : List String :=
  let widths := columnWidths (rows.map List.length |>.foldl max 0) rows
  rows.map fun row => "  ".intercalate (List.zipWith padded widths row)

def Printed.lines : Printed → List String
  | .text markup => [withoutTags markup]
  | .table title headers rows => title :: alignedRows (headers :: rows)
  | .panel title content =>
    title :: (Text.splitAtEach '\n' (withoutTags content).toList).map fun l => "  " ++ .ofList l

/-- The lines that help with the use of the program. -/
def usageLines : List String := [
  "Usage: autostruct generate [options]",
  "       autostruct config",
  "",
  "  -o, --output DIR          output directory",
  "  -d, --database-url URL    connection string",
  "  -x, --exclude TABLE       table to skip; may be given again",
  "  -s, --schema SCHEMA       schema to read; may be given again",
  "  -f, --framework NAME      none or sqlx",
  "  -t, --timeout DURATION    connection timeout, such as 3s or 500ms",
  "      --singular, --plural  names of structs",
  "      --include-views, --no-include-views",
  "  -v, --verbose             show all log records"]

end SchemaStructs.CommandLine
