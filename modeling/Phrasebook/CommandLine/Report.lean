import Phrasebook.Analysis
import Phrasebook.CommandLine.Table
import Phrasebook.Locale.Coverage
import Phrasebook.Value.Text

/-! What commands find is reported as text or as JSON, whose fields stand in the order given here. -/

namespace Phrasebook

/-- A number in JSON. -/
def countValue (count : Nat) : Value :=
  -- Counts are integers.
  .int count

/-- Names in JSON. -/
def namesValue (names : List String) : Value :=
  -- They keep their order.
  .arr (names.map .str)

/-- A finding in JSON. -/
def Finding.report (finding : Finding) : Value :=
  -- The range has its own object.
  .obj [("severity", .str finding.severity.name),
    ("range", .obj [("start_line", countValue finding.range.first), ("end_line", countValue finding.range.last)]),
    ("message", .str finding.message), ("source", .str finding.source)]

/-- What checking a file found. -/
structure FileReport where
  /-- The path of the file as given. -/
  file : String
  /-- Why the file cannot be read, if it cannot. -/
  loadError : Option String
  /-- What was found in the file and its imports. -/
  findings : List Finding
  deriving Inhabited

/-- The number of errors in a report. -/
def FileReport.errorCount (report : FileReport) : Nat :=
  -- A file that cannot be read is an error of its own.
  (if report.loadError.isSome then 1 else 0) + (report.findings.filter Finding.isError).length

/-- The number of warnings in a report. -/
def FileReport.warningCount (report : FileReport) : Nat :=
  -- What is no error is a warning.
  (report.findings.filter fun finding => !finding.isError).length

/-- A file report in JSON. -/
def FileReport.report (report : FileReport) : Value :=
  -- A file that can be read has no load error.
  let loadError := match report.loadError with
    | some message => [("load_error", Value.str message)]
    | none => []
  .obj (("file", .str report.file) :: loadError ++ [("diagnostics", .arr (report.findings.map Finding.report))])

/-- Coverage in JSON. -/
def Coverage.report (coverage : Coverage) : Value :=
  -- The missing templates are named, the others counted.
  .obj [("resource", .str coverage.resource), ("locale", .str coverage.locale),
    ("translated", countValue coverage.translated), ("total", countValue coverage.total),
    ("missing", namesValue coverage.missing)]

/-- The row of a coverage table. -/
def Coverage.row (coverage : Coverage) : List String :=
  -- The missing templates are counted here and named below the table.
  [coverage.resource, coverage.locale, toString coverage.translated ++ "/" ++ toString coverage.total,
    toString coverage.missing.length]

/-- The lines that name what a localized file lacks. -/
def Coverage.missingText (coverage : Coverage) : String :=
  -- A file that lacks nothing is not mentioned.
  if coverage.isIncomplete then
    "\nMissing in " ++ coverage.resource ++ " (" ++ coverage.locale ++ "):\n" ++
      String.join (coverage.missing.map fun name => "  - " ++ name ++ "\n")
  else ""

/-- Coverage as text. -/
def coverageText (coverage : List Coverage) : String :=
  -- Below the table stand the names of what is missing.
  renderTable ["Resource", "Locale", "Coverage", "Missing"] (coverage.map Coverage.row) ++ "\n" ++
    String.join (coverage.map Coverage.missingText)

/-- Dependencies in JSON. -/
def Dependencies.report (found : Dependencies) : Value :=
  -- Both lists keep their order.
  .obj [("variables", namesValue found.paths), ("template_references", namesValue found.templates)]

/-- The rows of two columns side by side. -/
def sideBySide : List String → List String → List (List String)
  -- The shorter column is filled up with empty cells.
  | [], [] => []
  | [], right :: rights => ["", right] :: sideBySide [] rights
  | left :: lefts, [] => [left, ""] :: sideBySide lefts []
  | left :: lefts, right :: rights => [left, right] :: sideBySide lefts rights

/-- Dependencies as a table. -/
def Dependencies.table (found : Dependencies) : String :=
  -- The columns have nothing to do with each other.
  renderTable ["Variables", "Templates"] (sideBySide found.paths found.templates)

end Phrasebook
