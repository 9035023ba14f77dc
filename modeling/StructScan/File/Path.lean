import StructScan.Text.Split

/-!
# Paths

A path as its components.  Empty components and single dots are dropped when a
path is read; double dots are kept, since they mean what the directories say.
-/

namespace StructScan

/-- Where a path starts. -/
inductive Path.Anchor where
  /-- At the working directory. -/
  | relative
  /-- At the root. -/
  | root
  /-- At a root written with exactly two slashes. -/
  | doubleRoot
  deriving DecidableEq, Repr

/-- A path: where it starts and the components that it goes down. -/
structure Path where
  anchor : Path.Anchor := .relative
  parts : List String := []
  deriving DecidableEq, Repr

namespace Path

/-- The text of an anchor. -/
def Anchor.text : Anchor → String
  | relative => ""
  | root => "/"
  | doubleRoot => "//"

/-- The anchor of a text: more than two slashes count for one. -/
def Anchor.ofText : List Char → Anchor
  | '/' :: '/' :: '/' :: _ => root
  | '/' :: '/' :: _ => doubleRoot
  | '/' :: _ => root
  | _ => relative

/-- The path that a text names. -/
def ofString (s : String) : Path where
  anchor := Anchor.ofText s.toList
  parts :=
    ((Text.split '/' s.toList).filter fun part => part ≠ [] && part ≠ ['.']).map String.ofList

/-- The text of a path; a path without any component is a single dot. -/
def toString (p : Path) : String :=
  match p.anchor, p.parts with
  | .relative, [] => "."
  | anchor, parts => anchor.text ++ "/".intercalate parts

instance : ToString Path := ⟨toString⟩

/-- The last component, if there is one. -/
def name (p : Path) : String :=
  p.parts.getLast?.getD ""

/-- The path without its last component. -/
def parent (p : Path) : Path :=
  { p with parts := p.parts.dropLast }

/-- The entry of a given name under a path. -/
def join (p : Path) (name : String) : Path :=
  { p with parts := p.parts ++ [name] }

/-- Whether a component holds a NUL character, which no file name can. -/
def hasNul (p : Path) : Bool :=
  p.parts.any fun part => part.toList.contains '\x00'

end Path

end StructScan
