import StructScan.File.Tree
import StructScan.Settings.Document

/-!
# Finding the settings of a project

The settings of a project stand in a file of a fixed name.  Unless a directory
is given, the nearest one is taken that has an entry of that name, going up from
the working directory; an entry that cannot be looked at stops the search, and
with it the loading.  Without a file the settings are the default ones.
-/

namespace StructScan.Settings

/-- Why settings could not be loaded. -/
inductive LoadError where
  | settings (e : Error)
  /-- Values of the document stand too deep in one another. -/
  | tooDeep (o : Toml.Overflow)
  | os (e : OsError)
  deriving Repr

/-- What an error about a document is to the one who loads the settings. -/
def LoadError.ofError : Error → LoadError
  | .tooDeep o => .tooDeep o
  | e => .settings e

/-- The error in words. -/
def LoadError.message : LoadError → String
  | settings e => e.message
  | tooDeep o => o.message
  | os e => e.message

/--
Whether the search for settings ends in a directory: an entry named as a settings file is there, or
cannot be looked at.
-/
def endsSearch (d : Disk) (loc : Location) : Bool :=
  match d.probe ((Disk.absolute loc).join fileName) with
  | .ok none => false
  | _ => true

/-- The nearest directory, going up from a place, in which the search for settings ends. -/
def nearest? (d : Disk) : Nat → Location → Option Location
  | 0, loc => if endsSearch d loc then some loc else none
  | n + 1, loc => if endsSearch d loc then some loc else nearest? d n loc.dropLast

/-- Loads the settings from a directory. -/
def loadFrom (d : Disk) (root : Path) : Except LoadError Settings :=
  let file := root.join fileName
  match d.probe file with
  | .error e => .error (.os ⟨e, file.toString, none⟩)
  | .ok none => .ok { root }
  | .ok (some _) =>
    match d.read file with
    | .error e => .error (.os ⟨e, file.toString, none⟩)
    | .ok bytes => (ofBytes root file bytes).mapError .ofError

/-- The directory from which settings are loaded, if there is any. -/
def rootOf (d : Disk) (given : Option Path) : Option Path :=
  given.or ((nearest? d d.cwd.length d.cwd).map Disk.absolute)

/-- Loads the settings from a directory, or from the nearest one that has any. -/
def load (d : Disk) (given : Option Path) : Except LoadError Settings :=
  match rootOf d given with
  | some root => loadFrom d root
  | none => .ok { root := Disk.absolute d.cwd }

end StructScan.Settings
