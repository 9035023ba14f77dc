import StructScan.Command.Line

/-!
# Invocations

Two programs share two commands.  The full one names the command first; the
other one knows the dump command only.
-/

namespace StructScan.Command

/-- The programs. -/
inductive Program where
  | full
  | dumpOnly
  deriving DecidableEq, Repr

/-- The name that a program is called by. -/
def Program.name : Program → String
  | full => "cintrospect"
  | dumpOnly => "cintrospect-dump"

/-- What the dump command is asked to do. -/
structure DumpRequest where
  source : Option String := none
  output : Option String := none
  includeStdio : Bool := false
  strict : Bool := false
  json : Bool := false
  config : Option String := none
  deriving DecidableEq, Repr

/-- What the structs command is asked to do. -/
structure ListRequest where
  files : List String
  strict : Bool := false
  quiet : Bool := false
  json : Bool := false
  config : Option String := none
  deriving DecidableEq, Repr

/-- What a program is asked to do. -/
inductive Invocation where
  | dump (r : DumpRequest)
  | list (r : ListRequest)
  | help
  deriving DecidableEq, Repr

/-- The options that every command knows. -/
def commonSwitches : List Switch :=
  [{ long := "strict" }, { long := "json" }, { long := "help" },
    { long := "config", short := some 'c', takesValue := true }]

/-- The options of the dump command. -/
def dumpSwitches : List Switch :=
  [{ long := "output", short := some 'o', takesValue := true }, { long := "include-stdio" }] ++
    commonSwitches

/-- The options of the structs command. -/
def listSwitches : List Switch :=
  { long := "quiet", short := some 'q' } :: commonSwitches

/-- Reads the words after the dump command, which takes one argument at most. -/
def readDump (line : List String) : Option Invocation := do
  let w ← words dumpSwitches line
  if w.has "help" then return .help
  let source ← match w.arguments with
    | [] => some none
    | [source] => some (some source)
    | _ => none
  return .dump
    { source
      output := w.value? "output"
      includeStdio := w.has "include-stdio"
      strict := w.has "strict"
      json := w.has "json"
      config := w.value? "config" }

/-- Reads the words after the structs command, which takes one argument at least. -/
def readList (line : List String) : Option Invocation := do
  let w ← words listSwitches line
  if w.has "help" then return .help
  if w.arguments.isEmpty then none
  return .list
    { files := w.arguments
      strict := w.has "strict"
      quiet := w.has "quiet"
      json := w.has "json"
      config := w.value? "config" }

/-- Reads the name of a command and the words after it. -/
def readCommand : List String → Option Invocation
  | "structs" :: rest => readList rest
  | "dump" :: rest => readDump rest
  | _ => none

/-- Reads a command line; there is no result if it is misused. -/
def Program.read (p : Program) (line : List String) : Option Invocation :=
  match p, line with
  | dumpOnly, line => readDump line
  | full, "--help" :: _ => some .help
  | full, "--" :: rest => readCommand rest
  | full, line => readCommand line

end StructScan.Command
