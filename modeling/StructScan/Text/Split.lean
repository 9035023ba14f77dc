import StructScan.Text.Blank

/-!
# Cutting texts

A text cut at a character, and a text cut into its words.
-/

namespace StructScan.Text

/-- Cuts a text at every occurrence of a character. -/
def split (mark : Char) : List Char → List (List Char)
  | [] => [[]]
  | c :: cs =>
    if c = mark then [] :: split mark cs
    else
      match split mark cs with
      | [] => [[c]]
      | part :: parts => (c :: part) :: parts

/-- Puts a character in front of the first word. -/
def extendWord (c : Char) : List (List Char) → List (List Char)
  | [] => [[c]]
  | word :: rest => (c :: word) :: rest

/-- The words of a text, which blanks separate. -/
def wordsOf : List Char → List (List Char)
  | [] => []
  | [c] => if isBlank c then [] else [[c]]
  | c :: d :: cs =>
    if isBlank c then wordsOf (d :: cs)
    else if isBlank d then [c] :: wordsOf cs
    else extendWord c (wordsOf (d :: cs))

/-- Drops the blanks around a text. -/
def trim (cs : List Char) : List Char :=
  ((cs.dropWhile isBlank).reverse.dropWhile isBlank).reverse

end StructScan.Text
