import StructScan.File.Path
import StructScan.Text.Quoted

/-!
# File trees

Directories and regular files by their place under the root, and how a path is
followed from a working directory.  Every step of a path goes through an
existing directory; a double dot goes to the directory above.

Main results:

- Theorem `FileTree.node?_put`: an entry that was put is found, and no other
  entry changes.
- Theorem `FileTree.node?_remove`: an entry that was removed is gone, and no
  other entry changes.
-/

namespace StructScan

/-- A place under the root: the names to go down. -/
abbrev Location := List String

/-- The content of a file. -/
abbrev Bytes := List UInt8

/-- What can stand at a place. -/
inductive Node where
  | directory
  | file (bytes : Bytes)
  deriving DecidableEq, Repr

/-! ## Errors of the operating system -/

/-- Why an operation on files fails. -/
inductive Errno where
  | notFound
  | busy
  | alreadyExists
  | notDirectory
  | isDirectory
  | nameTooLong
  deriving DecidableEq, Repr

/-- The number of an error. -/
def Errno.number : Errno → Nat
  | notFound => 2
  | busy => 16
  | alreadyExists => 17
  | notDirectory => 20
  | isDirectory => 21
  | nameTooLong => 36

/-- An error in words. -/
def Errno.text : Errno → String
  | notFound => "No such file or directory"
  | busy => "Device or resource busy"
  | alreadyExists => "File exists"
  | notDirectory => "Not a directory"
  | isDirectory => "Is a directory"
  | nameTooLong => "File name too long"

/-- An error with the path that it is about, and the second path of a renaming. -/
structure OsError where
  errno : Errno
  path : String
  target : Option String := none
  deriving DecidableEq, Repr

/-- The error with its number and its quoted paths. -/
def OsError.message (e : OsError) : String :=
  let target := match e.target with
    | some t => " -> " ++ Text.quote t
    | none => ""
  s!"[Errno {e.errno.number}] {e.errno.text}: {Text.quote e.path}" ++ target

/-! ## Trees -/

/-- The entries below the root, which is always there itself. -/
structure FileTree where
  entries : List (Location × Node) := []
  deriving DecidableEq, Repr

namespace FileTree

/-- What stands at a place. -/
def node? (t : FileTree) (loc : Location) : Option Node :=
  if loc = [] then some .directory else t.entries.lookup loc

/-- Removes the entry at a place. -/
def remove (t : FileTree) (loc : Location) : FileTree :=
  ⟨t.entries.filter fun e => e.1 ≠ loc⟩

/-- Puts an entry at a place, over the one that is there. -/
def put (t : FileTree) (loc : Location) (node : Node) : FileTree :=
  ⟨(loc, node) :: (t.remove loc).entries⟩

/-- The content of the regular file at a place. -/
def file? (t : FileTree) (loc : Location) : Option Bytes :=
  match t.node? loc with
  | some (.file bytes) => some bytes
  | _ => none

private theorem lookup_filter_ne (entries : List (Location × Node)) (loc loc' : Location) :
    (entries.filter fun e => e.1 ≠ loc).lookup loc' =
      if loc' = loc then none else entries.lookup loc' := by
  induction entries with
  | nil => simp
  | cons e entries ih =>
    obtain ⟨k, n⟩ := e
    rw [List.filter_cons]
    by_cases hl : loc' = k
    · subst hl
      by_cases hk : loc' = loc
      · simpa [hk] using ih
      · simp [hk]
    · have hb : (loc' == k) = false := beq_eq_false_iff_ne.mpr hl
      by_cases hk : k = loc
      · subst hk
        simpa [hl, List.lookup_cons, hb] using ih
      · simpa [hk, List.lookup_cons, hb] using ih

/-- An entry that was removed is gone, and no other entry changes. -/
theorem node?_remove (t : FileTree) (loc loc' : Location) (h : loc' ≠ []) :
    (t.remove loc).node? loc' = if loc' = loc then none else t.node? loc' := by
  simp only [node?, h, if_false, remove]
  exact lookup_filter_ne _ _ _

/-- An entry that was put is found, and no other entry changes. -/
theorem node?_put (t : FileTree) (loc loc' : Location) (node : Node) (h : loc' ≠ []) :
    (t.put loc node).node? loc' = if loc' = loc then some node else t.node? loc' := by
  simp only [node?, h, if_false, put, List.lookup_cons]
  by_cases hl : loc' = loc
  · simp [hl]
  · have : (loc' == loc) = false := by simpa using hl
    simp only [this, hl, if_false]
    have := lookup_filter_ne t.entries loc loc'
    simp only [hl, if_false] at this
    exact this

end FileTree

/-! ## Following paths -/

/-- The longest name of an entry, in bytes, as the file system of the environment has it. -/
def nameLimit : Nat := 255

/-- The least length of a path that is too long for that file system, in bytes. -/
def pathLimit : Nat := 4096

/--
A file tree as a process sees it: with a working directory, and with the states
that it went through.
-/
structure Disk where
  cwd : Location
  tree : FileTree
  /-- The earlier states of the tree, the latest one first. -/
  past : List FileTree := []
  deriving DecidableEq, Repr

namespace Disk

/-- Goes down from a place, one name after the other. -/
def walk (t : FileTree) (loc : Location) : List String → Except Errno Location
  | [] => .ok loc
  | part :: parts =>
    match t.node? loc with
    | none => .error .notFound
    | some (.file _) => .error .notDirectory
    | some .directory =>
      if part = ".." then walk t loc.dropLast parts
      else if nameLimit < part.utf8ByteSize then .error .nameTooLong
      else walk t (loc ++ [part]) parts

/-- The place that a path leads to.  Nothing need be there yet. -/
def resolve (d : Disk) (p : Path) : Except Errno Location :=
  if pathLimit ≤ p.toString.utf8ByteSize then .error .nameTooLong
  else
    match p.anchor with
    | .relative => walk d.tree d.cwd p.parts
    | _ => walk d.tree [] p.parts

/-- What stands at the end of a path. -/
def find (d : Disk) (p : Path) : Except Errno Node := do
  match d.tree.node? (← d.resolve p) with
  | some node => return node
  | none => throw .notFound

/-- The content of the file at the end of a path. -/
def read (d : Disk) (p : Path) : Except Errno Bytes := do
  match ← d.find p with
  | .file bytes => return bytes
  | .directory => throw .isDirectory

/-- What stands at the end of a path, if anything: a path that leads nowhere is no error. -/
def probe (d : Disk) (p : Path) : Except Errno (Option Node) :=
  if p.hasNul then .ok none
  else
    match d.find p with
    | .ok node => .ok (some node)
    | .error .notFound => .ok none
    | .error .notDirectory => .ok none
    | .error e => .error e

/-- What is found at the end of a path can be read if it is a file. -/
theorem read_of_probe {d : Disk} {p : Path} {node : Node} (h : d.probe p = .ok (some node)) :
    d.read p = match node with
      | .file bytes => .ok bytes
      | .directory => .error .isDirectory := by
  unfold probe at h
  split at h
  · cases h
  · split at h
    · rename_i node' hfind
      cases h
      rw [read, hfind]
      cases node <;> rfl
    · cases h
    · cases h
    · cases h

/-- Moves on to another state of the tree. -/
def commit (d : Disk) (tree : FileTree) : Disk :=
  { d with tree := tree, past := d.tree :: d.past }

/-- The path of a place. -/
def absolute (loc : Location) : Path where
  anchor := .root
  parts := loc

/-- The place that a path names when double dots are taken back in the text alone. -/
def lexical (d : Disk) (p : Path) : Location :=
  let start := match p.anchor with
    | .relative => d.cwd
    | _ => []
  p.parts.foldl (fun loc part => if part = ".." then loc.dropLast else loc ++ [part]) start

end Disk

end StructScan
