import StructScan.Command.Invocation
import StructScan.File.Tree
import StructScan.Settings.Document

/-!
# The footprint of an invocation

The places that a program has to look at to do what it is asked: the ways to the
paths on its command line and the settings files that may apply.  Nothing else
of a file tree matters to it.
-/

namespace StructScan.Command

/-- The places that some names lead through, the last one included. -/
def descent (loc : Location) : List String → List Location
  | [] => [loc]
  | part :: parts =>
    loc :: descent (if part = ".." then loc.dropLast else loc ++ [part]) parts

/-- The places that a path leads through from a working directory. -/
def route (cwd : Location) (p : Path) : List Location :=
  match p.anchor with
  | .relative => descent cwd p.parts
  | _ => descent [] p.parts

/-- The settings file of a directory that is given on the command line. -/
def settingsPath (config : Option String) : List Path :=
  config.toList.map fun dir => (Path.ofString dir).join Settings.fileName

/-- The paths that an invocation names. -/
def Invocation.paths : Invocation → List Path
  | .dump r => (r.source.toList ++ r.output.toList).map Path.ofString ++ settingsPath r.config
  | .list r => r.files.map Path.ofString ++ settingsPath r.config
  | .help => []

/-- The places on the way up from a working directory, each with its settings file. -/
def upward (cwd : Location) : List Location :=
  (List.range (cwd.length + 1)).flatMap fun n =>
    [cwd.take n, cwd.take n ++ [Settings.fileName]]

/-- The places that an invocation looks at. -/
def Invocation.places (i : Invocation) (cwd : Location) : List Location :=
  (upward cwd ++ i.paths.flatMap (route cwd)).eraseDups.filter (· ≠ [])

end StructScan.Command
