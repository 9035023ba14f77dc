import StructScan.Text.Printable

/-!
# Quoted texts

A text shown between quotes on one line: quotes and backslashes are escaped,
characters that cannot be printed are given by their code.  Apostrophes
delimit the text unless it holds an apostrophe and no double quote.
-/

namespace StructScan.Text

/-- The hexadecimal digits of a number, in lower case, padded with zeros to a least width. -/
def hex (least n : Nat) : List Char :=
  let ds := Nat.toDigits 16 n
  List.replicate (least - ds.length) '0' ++ ds

/-- The code of a character that cannot be shown: two, four or eight hexadecimal digits. -/
def codeEscape (c : Char) : List Char :=
  let n := c.toNat
  if n < 0x100 then '\\' :: 'x' :: hex 2 n
  else if n < 0x10000 then '\\' :: 'u' :: hex 4 n
  else '\\' :: 'U' :: hex 8 n

/-- How one character is written inside a text delimited by `delim`. -/
def quoteChar (delim c : Char) : List Char :=
  if c == delim || c == '\\' then ['\\', c]
  else if c == '\n' then ['\\', 'n']
  else if c == '\r' then ['\\', 'r']
  else if c == '\t' then ['\\', 't']
  else if isPrintable c then [c]
  else codeEscape c

/-- The delimiter of a text: an apostrophe unless the text has one and has no double quote. -/
def delimiter (cs : List Char) : Char :=
  if cs.contains '\'' && !cs.contains '"' then '"' else '\''

/-- The text between quotes, on one line and in printable characters only. -/
def quote (s : String) : String :=
  let delim := delimiter s.toList
  String.ofList (delim :: s.toList.flatMap (quoteChar delim) ++ [delim])

end StructScan.Text
