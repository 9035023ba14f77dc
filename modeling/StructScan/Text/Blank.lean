import StructScan.Text.CharSet

/-!
# Blank characters

The whitespace characters of Unicode 14.0 together with the four information
separators.  A zero-width space and a byte order mark are not blank.
-/

namespace StructScan.Text

/-- Characters that separate words and mean nothing themselves. -/
def blanks : CharSet := ⟨
  [(9, 13), (28, 32), (133, 133), (160, 160), (5760, 5760), (8192, 8202), (8232, 8233),
   (8239, 8239), (8287, 8287), (12288, 12288)]⟩

/-- A whitespace character. -/
def isBlank (c : Char) : Bool :=
  blanks.contains c

end StructScan.Text
