import StructScan.Console.Markup
import StructScan.Text.CellWidth
import StructScan.Text.Split

/-!
# Lines on a console

What a console shows of a text: without control characters that would move the
cursor, with tabs filled up by spaces, and folded where a line is too long.  A
line is broken between words, and inside a word only if the word fits on no
line.
-/

namespace StructScan.Console

open StructScan.Text (isBlank charWidth width)

/--
The width of the console in columns.  It is a value of the environment and not of the program: a
console may have any width, and here it is set so wide that only very long lines are folded.
-/
def columns : Nat := 10000

/-! ## Characters -/

/-- Control characters that a console never shows. -/
def isDropped (c : Char) : Bool :=
  [7, 8, 11, 12, 13].contains c.toNat

/-- Fills tabs up to the next multiple of eight columns, from a given column on. -/
def expandTabs (column : Nat) : List Char → List Char
  | [] => []
  | c :: cs =>
    if c = '\t' then
      let fill := 8 - column % 8
      List.replicate fill ' ' ++ expandTabs (column + fill) cs
    else c :: expandTabs (column + charWidth c) cs

/-- The lines that a text makes on a console. -/
def shownLines (cs : List Char) : List (List Char) :=
  (Text.split '\n' (cs.filter fun c => !isDropped c)).map (expandTabs 0)

/-! ## Folding -/

/-- Cuts a text into words, each with the blanks around it that no earlier word has. -/
def words : Nat → List Char → List (List Char)
  | 0, _ => []
  | n + 1, cs =>
    let lead := cs.takeWhile isBlank
    let body := (cs.dropWhile isBlank).takeWhile fun c => !isBlank c
    let trail := ((cs.dropWhile isBlank).dropWhile fun c => !isBlank c).takeWhile isBlank
    if body.isEmpty then []
    else
      let word := lead ++ body ++ trail
      word :: words n (cs.drop word.length)

/-- Drops the blanks at the end of a text. -/
def trimEnd (cs : List Char) : List Char :=
  (cs.reverse.dropWhile isBlank).reverse

/--
Cuts a word into parts of at most `limit` columns; `used` columns are taken by the
part before the cursor.
-/
def chop (limit used : Nat) (part : List Char) : List Char → List (List Char)
  | [] => [part.reverse]
  | c :: cs =>
    if limit < used + charWidth c then part.reverse :: chop limit (charWidth c) [c] cs
    else chop limit (used + charWidth c) (c :: part) cs

/-- The places of the parts of a word after the first one, from the place of the word on. -/
def partStarts (start : Nat) : List (List Char) → List Nat
  | [] => []
  | [_] => [start]
  | part :: parts => start :: partStarts (start + part.length) parts

/-- What happens to a word that fits on no line. -/
inductive LongWord where
  /-- It is cut into parts that fit. -/
  | chopped
  /-- It has a line of its own. -/
  | kept
  deriving DecidableEq, Repr

/-- The parts of a word that fits on no line. -/
def LongWord.parts (limit : Nat) (word : List Char) : LongWord → List (List Char)
  | chopped => chop limit 0 [] word
  | kept => [word]

/--
Where a line has to be broken, given the words from a place on and the columns
used before it.
-/
def breaks (long : LongWord) (limit start used : Nat) : List (List Char) → List Nat
  | [] => []
  | word :: rest =>
    let after := start + word.length
    let size := width (trimEnd word)
    if size + used ≤ limit then breaks long limit after (used + width word) rest
    else if limit < size then
      let parts := long.parts limit word
      (partStarts start parts).filter (0 < ·) ++
        breaks long limit after (width ((parts.getLast?).getD [])) rest
    else if 0 < used && 0 < start then start :: breaks long limit after (width word) rest
    else breaks long limit after used rest

/-- Cuts a text at places in ascending order; the text starts at `start`. -/
def cutAt (start : Nat) (cs : List Char) : List Nat → List (List Char)
  | [] => [cs]
  | place :: places => cs.take (place - start) :: cutAt place (cs.drop (place - start)) places

/-- Folds one line to a number of columns. -/
def fold (limit : Nat) (line : List Char) (long : LongWord := .chopped) : List (List Char) :=
  cutAt 0 line (breaks long limit 0 0 (words (line.length + 1) line))

/-- Drops blanks at the end of a line as far as the line is too long. -/
def trimExcess (limit : Nat) (line : List Char) : List Char :=
  let excess := line.length - limit
  let blanks := line.length - (trimEnd line).length
  line.take (line.length - min excess blanks)

/--
The part of a text that fits into a number of columns.  Half of a wide character
is a blank.
-/
def crop (limit : Nat) : List Char → List Char
  | [] => []
  | c :: cs =>
    if charWidth c ≤ limit then c :: crop (limit - charWidth c) cs
    else List.replicate limit ' '

/-! ## Printing -/

/-- Joins lines, each ended by a line feed. -/
def unlines (lines : List (List Char)) : String :=
  String.ofList (lines.flatMap (· ++ ['\n']))

/-- A marked-up text as printed, however long its lines are. -/
def printUnfolded (markup : String) : Except Markup.Error String :=
  (Markup.render markup).map fun cs => unlines ((shownLines cs).map (trimExcess columns))

/-- A marked-up text as printed, folded to the console. -/
def printFolded (markup : String) : Except Markup.Error String :=
  (Markup.render markup).map fun cs =>
    unlines (((shownLines cs).flatMap (fold columns)).map (crop columns ∘ trimExcess columns))

/-! ## Terminal control sequences -/

/-- A character of the parameters of a control sequence. -/
def isParameter (c : Char) : Bool :=
  c.isDigit || c = ';' || c = '?'

/-- Drops the control sequences that a terminal would act on. -/
def dropSequences : Nat → List Char → List Char
  | 0, cs => cs
  | _ + 1, [] => []
  | n + 1, '\x1b' :: '[' :: cs =>
    match cs.dropWhile isParameter with
    | c :: rest =>
      if c.isAlpha then dropSequences n rest else '\x1b' :: dropSequences n ('[' :: cs)
    | [] => '\x1b' :: dropSequences n ('[' :: cs)
  | n + 1, c :: cs => c :: dropSequences n cs

/-- A text as it is written to a stream that is no terminal. -/
def echo (s : String) : String :=
  String.ofList (dropSequences (s.length + 1) s.toList)

end StructScan.Console
