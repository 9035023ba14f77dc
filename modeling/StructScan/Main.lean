import StructScan.Command.Footprint
import StructScan.Command.Run
import StructScan.File.Change

/-!
# The programs

Reads what a command line needs from the file system, runs the command, and
carries out what it did.  Which of the two programs runs depends on the name of
the executable.
-/

namespace StructScan.Command

/-- What stands at a place of the file system. -/
def lookAt (loc : Location) : IO (Option Node) := do
  let place := (← IO.currentDir) / (Disk.absolute loc).toString
  if ← place.isDir then return some .directory
  match ← (IO.FS.readBinFile place).toBaseIO with
  | .ok bytes => return some (.file bytes.toList)
  | .error _ => return none

/-- The part of the file system at some places. -/
def snapshot (places : List Location) : IO FileTree :=
  places.foldlM (fun t loc => return ((← lookAt loc).map (t.put loc)).getD t) {}

/-- Carries out a change of the file system. -/
def carryOut : Change → IO Unit
  | .makeDirectory loc => IO.FS.createDir (Disk.absolute loc).toString
  | .write loc bytes => IO.FS.writeBinFile (Disk.absolute loc).toString bytes.toByteArray
  | .move source target =>
    IO.FS.rename (Disk.absolute source).toString (Disk.absolute target).toString
  | .remove loc => IO.FS.removeFile (Disk.absolute loc).toString

/-- The characters of the names of temporary files. -/
def saltAlphabet : List Char :=
  "abcdefghijklmnopqrstuvwxyz0123456789_".toList

/-- A name for a temporary file. -/
def salt : IO String := do
  let picks ← (List.range 8).mapM fun _ => IO.rand 0 (saltAlphabet.length - 1)
  return String.ofList (picks.filterMap (saltAlphabet[·]?))

/-- Runs a program on the file system and returns its status. -/
def Program.perform (p : Program) (line : List String) : IO UInt32 := do
  let cwd := (Path.ofString (← IO.currentDir).toString).parts
  let places := ((p.read line).map (Invocation.places · cwd)).getD []
  let disk : Disk := { cwd, tree := ← snapshot places }
  let outcome := p.run line { disk, salts := ← (List.range 100).mapM fun _ => salt }
  outcome.session.disk.changes.forM carryOut
  IO.print outcome.session.out
  IO.eprint outcome.session.err
  if outcome.status = misuse then IO.eprint usage
  match outcome.escaped with
  | some e => IO.eprintln e.message
  | none => pure ()
  return outcome.status.toUInt32

end StructScan.Command

/-- Runs the program that the executable is named for. -/
def main (line : List String) : IO UInt32 := do
  let name := (← IO.appPath).fileName
  if name = some StructScan.Command.Program.dumpOnly.name then
    StructScan.Command.Program.dumpOnly.perform line
  else
    StructScan.Command.Program.full.perform line
