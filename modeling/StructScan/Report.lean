import StructScan.File.Path

/-!
# Reports

What was noticed while one source was scanned.  Scanning never depends on a
report; it only adds to it.

Main results:

- Theorem `Report.passed_iff`: a report passes exactly if nothing was recorded.
-/

namespace StructScan

/-- One remark: where, under which code, and what. -/
structure Diagnostic where
  line : Int
  code : String
  message : String
  deriving DecidableEq, Repr

/-- The errors and warnings of one source. -/
structure Report where
  file : Option Path := none
  errors : List Diagnostic := []
  warnings : List Diagnostic := []
  deriving DecidableEq, Repr

namespace Diagnostic

/-- The code of a source that could not be opened. -/
def sourceUnavailable : String := "E001"

/-- The code of a `struct` that was skipped. -/
def malformedStruct : String := "W001"

/-- The code of a `typedef` that was skipped. -/
def malformedTypedef : String := "W002"

end Diagnostic

namespace Report

/-- Records an error after all others. -/
def error (r : Report) (d : Diagnostic) : Report :=
  { r with errors := r.errors ++ [d] }

/-- Records a warning after all others. -/
def warning (r : Report) (d : Diagnostic) : Report :=
  { r with warnings := r.warnings ++ [d] }

/-- Records several warnings in order. -/
def warn (r : Report) (ds : List Diagnostic) : Report :=
  { r with warnings := r.warnings ++ ds }

/-- Whether nothing at all was recorded. -/
def passed (r : Report) : Bool :=
  r.errors.isEmpty && r.warnings.isEmpty

/-- A report is passed if it holds neither errors nor warnings. -/
theorem passed_iff (r : Report) : r.passed = true ↔ r.errors = [] ∧ r.warnings = [] := by
  simp [passed]

/-- Names the file of the report unless it has one already. -/
def about (r : Report) (file : Path) : Report :=
  { r with file := some (r.file.getD file) }

end Report

end StructScan
