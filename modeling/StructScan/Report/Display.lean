import StructScan.Console.Text
import StructScan.Json
import StructScan.Report

/-!
# Showing reports

A report on the console, one line for each remark, and as a JSON value.  A
source that could not be opened is announced when that happens, so the report
does not show it again.
-/

namespace StructScan

namespace Report

/-- The name under which a report shows its source. -/
def sourceName (r : Report) : String :=
  match r.file with
  | some p => p.name
  | none => "<text>"

/-- The marked-up line of a remark. -/
def markupLine (r : Report) (colour : String) (d : Diagnostic) : String :=
  s!"  [bold]{r.sourceName}[/bold]:{d.line}: [{colour}]{d.code}[/{colour}]: " ++
    Console.Markup.escape d.message

/-- The marked-up lines that a report shows; a quiet one leaves its warnings out. -/
def markupLines (r : Report) (quiet : Bool) : List String :=
  (r.errors.filter fun d => d.code ≠ Diagnostic.sourceUnavailable).map (r.markupLine "red") ++
    if quiet then [] else r.warnings.map (r.markupLine "yellow")

/-- What a report prints, line by line. -/
def display (r : Report) (quiet : Bool) : List (Except Console.Markup.Error String) :=
  (r.markupLines quiet).map Console.printFolded

end Report

namespace Diagnostic

/-- A remark as a JSON value. -/
def toJson (d : Diagnostic) : Json :=
  .object [("line", .int d.line), ("code", .string d.code), ("message", .string d.message)]

end Diagnostic

namespace Report

/-- A report as a JSON value. -/
def toJson (r : Report) : Json :=
  .object
    [("file", match r.file with
      | some p => .string p.toString
      | none => .null),
     ("errors", .array (r.errors.map Diagnostic.toJson)),
     ("warnings", .array (r.warnings.map Diagnostic.toJson)),
     ("passed", .bool r.passed)]

end Report

end StructScan
