import StructScan.Layout
import StructScan.Settings

/-!
# Dump functions

For every layout a C function is generated that prints each field with the
conversion that the settings choose for its type.  Without settings the
built-in choices hold.
-/

namespace StructScan

/-- One line of generated code. -/
abbrev CodeLine := String

/-- The line that prints a field. -/
def fieldLine (s : Option Settings) (f : Field) : CodeLine :=
  "  printf (\"  " ++ f.name ++ " = " ++ Settings.formatSpecifier s f.typename ++
    "\\n\",var->" ++ f.name ++ ");"

/-- The lines of the function for a layout. -/
def functionLines (s : Option Settings) (l : Layout) : List CodeLine :=
  ["void " ++ Settings.prefixFor s ++ l.name ++ " (struct " ++ l.name ++ " * var) \x7b",
    "  printf (\"struct " ++ l.name ++ " = \x7b\\n\");"] ++
  l.fields.map (fieldLine s) ++
  ["  printf (\"\x7d\\n\");", "\x7d"]

/-- The function for a layout. -/
def dumpFunction (s : Option Settings) (l : Layout) : String :=
  String.join ((functionLines s l).map (· ++ "\n"))

/-- The line that includes the header which declares printf. -/
def stdioHeader : String := "#include <stdio.h>\n\n"

/-- The functions for all layouts. -/
def dumpCode (s : Option Settings) (includeStdio : Bool) (ls : List Layout) : String :=
  (if includeStdio then stdioHeader else "") ++ String.join (ls.map (dumpFunction s))

end StructScan
