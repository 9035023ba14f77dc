import StructScan.Console.Text

/-!
# Tables on a console

A table without lines: a title, a header and rows.  Every column is as wide as
its widest cell, with two blanks on both sides.  If the columns together are
wider than the console, the widest ones give way; a cell then takes several
lines, and a word that fits on no line is cut off.  The title is centred over
the table and folded if it is wider.
-/

namespace StructScan.Console

open StructScan.Text (width)

/-- On which side the text of a column stands. -/
inductive Align where
  | left
  | right
  deriving DecidableEq, Repr

/-- One column: where its text stands, its header and its cells. -/
structure Column where
  align : Align
  cells : List (List Char)

/-- The blanks on either side of a cell. -/
def padding : Nat := 2

/-- A number of blanks. -/
def spaces (n : Nat) : List Char :=
  List.replicate n ' '

/-! ## Widths -/

/-- The columns that a column of a table takes if nothing hinders it. -/
def Column.natural (c : Column) : Nat :=
  min ((c.cells.map width).foldl max 0 + 2 * padding) columns

/-- A quotient rounded to the nearest whole number, a half to the even one. -/
def roundedQuotient (n d : Nat) : Nat :=
  let q := n / d
  let twice := 2 * (n % d)
  if d < twice || (twice = d && q % 2 = 1) then q + 1 else q

/--
Takes an excess from the widest of some widths, `count` of them, in equal shares
of at most `share`.
-/
def takeShares (widest share : Nat) (excess count : Nat) : List Nat → List Nat
  | [] => []
  | w :: ws =>
    if w = widest then
      let taken := min share (roundedQuotient excess count)
      (w - taken) :: takeShares widest share (excess - taken) (count - 1) ws
    else w :: takeShares widest share excess count ws

/-- Narrows the widest of some widths, but not below the next ones. -/
def narrowWidest (excess : Nat) (ws : List Nat) : List Nat :=
  let widest := ws.foldl max 0
  let next := (ws.filter (· ≠ widest)).foldl max 0
  takeShares widest (min excess (widest - next)) excess (ws.count widest) ws

/-- The sum of some widths. -/
def totalWidth (ws : List Nat) : Nat :=
  ws.foldl (· + ·) 0

/-- Narrows the widest of some widths in rounds until their sum is within a limit. -/
def narrow (limit : Nat) : Nat → List Nat → List Nat
  | 0, ws => ws
  | rounds + 1, ws =>
    if totalWidth ws ≤ limit then ws
    else narrow limit rounds (narrowWidest (totalWidth ws - limit) ws)

/-- The widths of the columns of a table. -/
def columnWidths (cols : List Column) : List Nat :=
  narrow columns (2 * cols.length) (cols.map Column.natural)

/-! ## Cells -/

/-- A line of a cell that ends with three dots if it is too long. -/
def ellipsis (limit : Nat) (line : List Char) : List Char :=
  if limit < width line then crop (limit - 1) line ++ ['…'] else line

/-- A line filled up to a number of columns on the side that its text does not stand. -/
def Align.fill (limit : Nat) (line : List Char) : Align → List Char
  | left =>
    let text := ellipsis limit (trimExcess limit line)
    text ++ spaces (limit - width text)
  | right =>
    let text := ellipsis limit (trimEnd line)
    spaces (limit - width text) ++ text

/-- The lines of a cell of a given width, with its padding. -/
def Column.cellLines (c : Column) (outer : Nat) (cell : List Char) : List (List Char) :=
  let limit := outer - 2 * padding
  (fold limit cell .kept).map fun line =>
    spaces padding ++ c.align.fill limit line ++ spaces padding

/-- Puts the lines of two cells side by side; the shorter cell is filled up with blanks. -/
def besideLines (left right : Nat) : List (List Char) → List (List Char) → List (List Char)
  | [], [] => []
  | x :: xs, [] => (x ++ spaces right) :: besideLines left right xs []
  | [], y :: ys => (spaces left ++ y) :: besideLines left right [] ys
  | x :: xs, y :: ys => (x ++ y) :: besideLines left right xs ys

/-- The rows of columns that stand side by side, each row as its lines. -/
def rowLines : List (Column × Nat) → List (List (List Char))
  | [] => []
  | [(c, w)] => c.cells.map (c.cellLines w)
  | (c, w) :: rest =>
    List.zipWith (besideLines w (totalWidth (rest.map (·.2)))) (c.cells.map (c.cellLines w))
      (rowLines rest)

/-! ## Tables -/

/-- A line in the middle of a number of columns; an odd blank goes to the right. -/
def centre (limit : Nat) (line : List Char) : List Char :=
  let text := trimEnd line
  let free := limit - width text
  spaces (free / 2) ++ text ++ spaces (free - free / 2)

/-- The lines of a title over a table. -/
def titleLines (limit : Nat) (title : String) : Except Markup.Error (List (List Char)) :=
  (Markup.render title).map fun cs =>
    ((shownLines cs).flatMap (fold limit)).map (centre limit)

/-- A table with its title. -/
def table (title : String) (cols : List Column) : Except Markup.Error String :=
  let widths := columnWidths cols
  (titleLines (totalWidth widths) title).map fun lines =>
    unlines (lines ++ (rowLines (cols.zip widths)).flatten)

end StructScan.Console
