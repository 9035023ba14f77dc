import StructScan.Command.Invocation
import StructScan.Console.Table
import StructScan.DumpCode
import StructScan.File.Open
import StructScan.File.Write
import StructScan.Layout.Json
import StructScan.Report.Display
import StructScan.Settings.Load

/-!
# Running commands

A command reads and writes a disk and prints on two streams.  It ends with an
exit status, or with an error that it does not handle.
-/

namespace StructScan

namespace Command

/-! ## Effects -/

/-- An error that a command does not handle. -/
inductive Escape where
  | os (e : OsError)
  | pathHoldsNul
  | encodingHoldsNul
  | encoding (e : Encoding.LookupError)
  | unencodable
  | markup (e : Console.Markup.Error)
  | settingsTooDeep (o : Toml.Overflow)
  | directoriesTooDeep
  deriving DecidableEq, Repr

/-- The error in words. -/
def Escape.message : Escape → String
  | os e => e.message
  | pathHoldsNul => "embedded null byte"
  | encodingHoldsNul => "embedded null character"
  | encoding e => e.message
  | unencodable => "character not in encoding"
  | markup e => e.message
  | settingsTooDeep o => o.message
  | directoriesTooDeep =>
    "maximum recursion depth exceeded while calling a Python object"

/-- Why a command stops before its end. -/
inductive Stop where
  | exit (status : Nat)
  | escaped (e : Escape)
  deriving DecidableEq, Repr

/-- What a command works on: a disk, names for temporary files, and the two streams. -/
structure Session where
  disk : Disk
  salts : List String
  out : String := ""
  err : String := ""
  deriving DecidableEq, Repr

/-- A computation of a command. -/
abbrev Run := EStateM Stop Session

/-- Writes to the standard output. -/
def putOut (s : String) : Run Unit :=
  modify fun x => { x with out := x.out ++ s }

/-- Writes to the standard error stream. -/
def putErr (s : String) : Run Unit :=
  modify fun x => { x with err := x.err ++ s }

/-- Stops with an error that is not handled. -/
def escape (e : Escape) : Run α :=
  throw (.escaped e)

/-- Writes a printed text to the standard error stream. -/
def putPrinted : Except Console.Markup.Error String → Run Unit
  | .ok s => putErr s
  | .error e => escape (.markup e)

/-- Writes a JSON document to the standard output. -/
def putJson (j : Json) : Run Unit :=
  putOut (j.render ++ "\n")

/-- The document that reports an error. -/
def refusal (message : String) : Json :=
  .object [("error", .string message)]

/-- Reports an error and stops: a document in JSON mode, a line otherwise. -/
def fail (json : Bool) (message : String) : Run α := do
  if json then putJson (refusal message)
  else
    putPrinted (Console.printUnfolded
      ("[red bold]error:[/red bold] " ++ Console.Markup.escape message))
  throw (.exit 1)

/-! ## Settings and scans -/

/-- The directory that a command is told to take its settings from. -/
def configRoot (config : Option String) : Option Path :=
  match config with
  | none | some "" => none
  | some dir => some (Path.ofString dir)

/-- The settings that were loaded, or the error that kept them from being loaded. -/
def settingsOf (json : Bool) : Except Settings.LoadError Settings → Run Settings
  | .ok settings => pure settings
  | .error (.settings e) => fail json e.message
  | .error (.tooDeep o) => escape (.settingsTooDeep o)
  | .error (.os e) => escape (.os e)

/-- Loads the settings from the given directory, or from the nearest one. -/
def getSettings (json : Bool) (config : Option String) : Run Settings := do
  let d := (← get).disk
  let root := configRoot config
  match root with
  | none => pure ()
  | some p =>
    match d.probe p with
    | .error e => escape (.os ⟨e, p.toString, none⟩)
    | .ok (some .directory) => pure ()
    | .ok _ => fail json s!"Config directory not found: {p.toString}"
  settingsOf json (Settings.load d root)

/-- How a remark about a file that cannot be opened is printed. -/
def noticeText (message : String) : Except Console.Markup.Error String :=
  Console.printUnfolded ("[yellow]" ++ Console.Markup.escape message ++ "[/yellow]")

/-- A scan that cannot even be tried, as an error that is not handled. -/
def Escape.ofOpenError : OpenError → Escape
  | .pathHoldsNul => .pathHoldsNul
  | .encodingHoldsNul => .encodingHoldsNul
  | .encoding e => .encoding e

/-- Scans a file to its end, and announces a file that cannot be opened. -/
def scanFile (settings : Settings) (p : Path) : Run (List Layout × Report) := do
  match openScan (← get).disk p settings.encoding (some {}) with
  | .error e => escape (.ofOpenError e)
  | .ok o =>
    match o.notice with
    | none => pure ()
    | some message => putPrinted (noticeText message)
    let (layouts, scan) := o.scan.rest
    return (layouts.toOption.getD [], scan.report.getD {})

/-- Shows a report. -/
def showReport (r : Report) (quiet : Bool) : Run Unit :=
  (r.display quiet).forM putPrinted

/-! ## The dump command -/

/-- Writes generated code to a file. -/
def writeCode (p : Path) (code : String) : Run Unit := do
  let s ← get
  match Disk.writeAtomically s.salts p code "utf-8" s.disk with
  | .ok () disk => set { s with disk }
  | .error e disk =>
    set { s with disk }
    match e with
    | .os e => fail false s!"Failed to write {p.toString}: {e.message}"
    | .noTemporaryName =>
      fail false s!"Failed to write {p.toString}: [Errno 17] No usable temporary file name found"
    | .pathHoldsNul => escape .pathHoldsNul
    | .encodingHoldsNul => escape .encodingHoldsNul
    | .encoding e => escape (.encoding e)
    | .unencodable => escape .unencodable
    | .tooDeep => escape .directoriesTooDeep

/-- The message about the diagnostics of a source. -/
def diagnosed (report : Report) (source : String) : String :=
  s!"{report.errors.length} error(s), {report.warnings.length} warning(s) in {source}"

/-- The document that holds the code for the layouts of a file. -/
def dumped (source code : String) (layouts : List Layout) (report : Report) : Json :=
  .object
    [("file", .string source),
     ("structs", .array (layouts.map Layout.toJson)),
     ("code", .string code),
     ("diagnostics", report.toJson)]

/-- The remark about code that was written. -/
def writtenText (count : Nat) (output : String) : String :=
  Console.echo s!"Wrote {count} dump functions to {(Path.ofString output).toString}" ++ "\n"

/-- The end of the dump command: code for the layouts of a file is delivered. -/
def deliver (r : DumpRequest) (source code : String) (layouts : List Layout) (report : Report) :
    Run Unit :=
  if r.json then putJson (dumped source code layouts report)
  else
    match r.output with
    | none => putOut (Console.echo code)
    | some output => do
      writeCode (Path.ofString output) code
      putErr (writtenText layouts.length output)

/-- Generates dump functions for the layouts of one file. -/
def dump (r : DumpRequest) : Run Unit := do
  match r.source with
  | none => fail r.json "Source file argument is required"
  | some source =>
    if r.json && r.output.isSome then fail true "--json and --output cannot be combined"
    let settings ← getSettings r.json r.config
    let (layouts, report) ← scanFile settings (Path.ofString source)
    if r.strict && !report.passed then
      if !r.json then showReport report false
      fail r.json (diagnosed report source)
    let code := dumpCode (some settings) (r.includeStdio || settings.includeStdio) layouts
    deliver r source code layouts report

/-! ## The structs command -/

/-- What was found in one file. -/
structure Listing where
  path : Path
  layouts : List Layout
  report : Report

/-- A listing as a JSON value. -/
def Listing.toJson (l : Listing) : Json :=
  .object
    [("file", .string l.path.toString),
     ("structs", .array (l.layouts.map Layout.toJson)),
     ("diagnostics", l.report.toJson)]

/-- The table of the layouts of one file. -/
def Listing.table (l : Listing) : Except Console.Markup.Error String :=
  Console.table l.path.toString
    [⟨.left, "Struct".toList :: l.layouts.map fun x => x.name.toList⟩,
     ⟨.right, "Fields".toList :: l.layouts.map fun x => Nat.toDigits 10 x.fields.length⟩,
     ⟨.left, "Members".toList :: l.layouts.map fun x => x.members.toList⟩]

/-- Shows a listing: its table, if it has any layouts, and its report. -/
def showListing (quiet : Bool) (l : Listing) : Run Unit := do
  if l.layouts.isEmpty then
    putErr (Console.echo s!"{l.path.toString}: no structs found" ++ "\n")
  else
    match l.table with
    | .ok s => putOut s
    | .error e => escape (.markup e)
  showReport l.report quiet

/-- Scans a file for a listing. -/
def listFile (settings : Settings) (p : Path) : Run Listing := do
  let (layouts, report) ← scanFile settings p
  return ⟨p, layouts, report⟩

/-- The document of some listings. -/
def listed (listings : List Listing) : Json :=
  .array (listings.map Listing.toJson)

/-- The end of the structs command: listings of all files are shown. -/
def conclude (r : ListRequest) (listings : List Listing) : Run Unit := do
  if r.json then putJson (listed listings)
  else listings.forM (showListing r.quiet)
  let failed := listings.filter fun l => !l.report.passed
  if r.strict && !failed.isEmpty then
    if r.json then throw (.exit 1)
    else
      let names := ", ".intercalate (failed.map fun l => l.path.toString)
      fail false s!"Diagnostics reported for {failed.length} file(s): {names}"

/-- Lists the layouts of files. -/
def list (r : ListRequest) : Run Unit := do
  let paths := r.files.map Path.ofString
  if paths.any Path.hasNul then escape .pathHoldsNul
  let settings ← getSettings r.json r.config
  let listings ← paths.mapM (listFile settings)
  conclude r listings

/-! ## Programs -/

/-- A summary of the commands. -/
def usage : String :=
  "Usage: cintrospect structs FILES... [--strict] [--quiet] [--json] [--config DIR]\n" ++
    "       cintrospect dump SOURCE [--output FILE] [--include-stdio] [--strict] [--json] " ++
    "[--config DIR]\n"

/-- How a program ended. -/
structure Outcome where
  status : Nat
  escaped : Option Escape := none
  session : Session
  deriving DecidableEq, Repr

/-- The status of a program whose command line is misused. -/
def misuse : Nat := 2

/-- How a program ended, from how its command did. -/
def Outcome.ofResult : EStateM.Result Stop Session Unit → Outcome
  | .ok () y => { status := 0, session := y }
  | .error (.exit status) y => { status, session := y }
  | .error (.escaped e) y => { status := 1, escaped := some e, session := y }

/-- Carries out what a program is asked to do. -/
def Invocation.run : Invocation → Run Unit
  | .dump r => Command.dump r
  | .list r => Command.list r
  | .help => putOut usage

/-- Runs a program on a command line. -/
def Program.run (p : Program) (line : List String) (s : Session) : Outcome :=
  match p.read line with
  | none => { status := misuse, session := s }
  | some i => .ofResult (i.run s)

end Command

end StructScan
