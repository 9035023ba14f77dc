import StructScan.Text.Newline
import StructScan.Token.Lexer

/-!
# Sources of lines

A source hands out its lines one by one.  After the last line it ends, or it
fails.  Failing to read or to decode is taken for the end; any other failure
strikes once and leaves an ended source behind.  A source counts the lines it
has handed out and the times it was closed.

Main results:

- Theorem `Source.fault?_exhaust`: a source fails at most once.
-/

namespace StructScan

open Token (Line)

/-- A failure of a source that its reader does not handle. -/
structure Fault where
  message : String
  deriving DecidableEq, Repr

/-- What happens after the last line of a source. -/
inductive Source.Ending where
  /-- The source ends. -/
  | quiet
  /-- The source cannot be read any further. -/
  | unreadable
  /-- The source cannot be decoded any further. -/
  | undecodable
  /-- The source fails for another reason. -/
  | fatal (fault : Fault)
  deriving DecidableEq, Repr

/-- A source of lines. -/
structure Source where
  /-- The lines not handed out yet. -/
  pending : List Line
  /-- What happens after them. -/
  ending : Source.Ending := .quiet
  /-- The number of lines handed out. -/
  pulled : Nat := 0
  /-- The number of times the source was closed. -/
  closings : Nat := 0
  deriving DecidableEq, Repr

namespace Source

/-- A source that hands out the given lines as they are. -/
def ofLines (lines : List String) (ending : Ending := .quiet) : Source where
  pending := lines.map String.toList
  ending := ending

/-- A source over a text, whose lines end at any kind of newline. -/
def ofText (text : String) : Source where
  pending := Text.lines text

/-- Hands out lines until the given ones are left. -/
def handOut (s : Source) (count : Nat) (left : List Line) : Source :=
  { s with pending := left, pulled := s.pulled + count }

/-- The failure that asking for a line meets when none is left. -/
def fault? (s : Source) : Option Fault :=
  match s.ending with
  | .fatal fault => some fault
  | _ => none

/-- The source after it was asked for a line in vain. -/
def exhaust (s : Source) : Source :=
  { s with ending := .quiet }

/-- A source fails at most once. -/
@[simp]
theorem fault?_exhaust (s : Source) : s.exhaust.fault? = none :=
  rfl

/-- Closes the source. -/
def close (s : Source) : Source :=
  { s with closings := s.closings + 1 }

/-- Whether the source was closed. -/
def isClosed (s : Source) : Bool :=
  0 < s.closings

end Source

end StructScan
