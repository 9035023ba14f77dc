import StructScan.Encoding
import StructScan.File.Tree
import StructScan.Scan

/-!
# Scanning files

A file is opened under a path and an encoding and scanned from its start.  A
file that cannot be opened is no failure: the report notes it, and the scan
finds nothing.
-/

namespace StructScan

/-- Why a scan of a file cannot even be tried. -/
inductive OpenError where
  /-- The path holds a NUL character. -/
  | pathHoldsNul
  /-- The name of the encoding holds a NUL character. -/
  | encodingHoldsNul
  /-- There is no text encoding of that name. -/
  | encoding (e : Encoding.LookupError)
  deriving DecidableEq, Repr

/-- A scan of a file, and the remark to make if the file could not be opened. -/
structure OpenedScan where
  scan : Scan
  notice : Option String := none
  deriving DecidableEq, Repr

/-- A source over the content of a file.  Content that cannot be decoded holds no line. -/
def Source.ofBytes (e : Encoding) (bytes : Bytes) : Source :=
  match e.decodeLenient bytes with
  | some cs => { pending := Text.cutLines (Text.foldNewlines cs) }
  | none => { pending := [], ending := .undecodable }

/-- The remark about a file that could not be opened. -/
def unavailable (p : Path) (e : Errno) : String :=
  s!"couldn't open '{p.toString}': {e.text}"

/-- Opens a file for scanning. -/
def openScan (d : Disk) (p : Path) (encoding : String) (report : Option Report := none) :
    Except OpenError OpenedScan :=
  let report := report.map (Report.about · p)
  if !Encoding.isName encoding then .error .encodingHoldsNul
  else if p.hasNul then .error .pathHoldsNul
  else
    match d.read p with
    | .error e =>
      let message := unavailable p e
      let report := report.map (Report.error · ⟨0, Diagnostic.sourceUnavailable, message⟩)
      .ok ⟨Scan.nothing report, some message⟩
    | .ok bytes =>
      match Encoding.ofName encoding with
      | .error e => .error (.encoding e)
      | .ok e => .ok ⟨Scan.ofSource (Source.ofBytes e bytes) report, none⟩

end StructScan
