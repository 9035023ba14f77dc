import StructScan.File.Tree

/-!
# Changes of a file tree

A disk remembers the states that it went through.  From one state to the next
directories are made and files are written, moved or removed.  The same changes,
in the same order, bring another disk with the same entries to the same state.
-/

namespace StructScan

/-- One change of a file tree. -/
inductive Change where
  | makeDirectory (loc : Location)
  | write (loc : Location) (bytes : Bytes)
  | move (source target : Location)
  | remove (loc : Location)
  deriving DecidableEq, Repr

namespace FileTree

/-- The entries of a tree that another tree does not have at all. -/
def lost (t next : FileTree) : List (Location × Node) :=
  t.entries.filter fun e => (next.node? e.1).isNone

/-- The change that puts an entry into a tree. -/
def putting : Location × Node → Change
  | (loc, .directory) => .makeDirectory loc
  | (loc, .file bytes) => .write loc bytes

/-- The entries of the next tree that this one does not have, or has otherwise. -/
def gained (t next : FileTree) : List (Location × Node) :=
  next.entries.filter fun e => t.node? e.1 ≠ some e.2

/--
The changes that lead from one tree to the next.  A file that is lost in one
place and gained in another was moved.
-/
def changes (t next : FileTree) : List Change :=
  match t.lost next, t.gained next with
  | [(source, node)], [(target, node')] =>
    if node = node' then [.move source target]
    else [putting (target, node'), .remove source]
  | lost, gained => gained.map putting ++ lost.map fun e => .remove e.1

end FileTree

/-- The changes through a list of states, the first state first. -/
def changesThrough : List FileTree → List Change
  | [] => []
  | [_] => []
  | t :: next :: rest => t.changes next ++ changesThrough (next :: rest)

/-- The changes that a disk went through. -/
def Disk.changes (d : Disk) : List Change :=
  changesThrough (d.tree :: d.past).reverse

end StructScan
