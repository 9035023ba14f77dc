/-!
# Lines of a text

A text in memory or in a file may end its lines by a line feed, a carriage
return or both.  Reading folds all three into a line feed and then cuts the
text after every line feed.

Main results:

- Theorem `flatten_cutLines`: cutting a text into lines loses no character.
-/

namespace StructScan.Text

/-- Turns every carriage return, with a line feed after it if there is one, into a line feed. -/
def foldNewlines : List Char → List Char
  | [] => []
  | '\r' :: '\n' :: cs => '\n' :: foldNewlines cs
  | '\r' :: cs => '\n' :: foldNewlines cs
  | c :: cs => c :: foldNewlines cs

/-- Cuts a text after every line feed; a text that ends in one has no empty last line. -/
def cutLines : List Char → List (List Char)
  | [] => []
  | c :: cs =>
    if c = '\n' then [c] :: cutLines cs
    else
      match cutLines cs with
      | [] => [[c]]
      | line :: lines => (c :: line) :: lines

/-- Cutting a text into lines loses no character. -/
theorem flatten_cutLines (cs : List Char) : (cutLines cs).flatten = cs := by
  induction cs with
  | nil => rfl
  | cons c cs ih =>
    rw [cutLines]
    split
    · simp [ih]
    · split
      · rename_i h
        simp [h] at ih
        simp [← ih]
      · rename_i line lines h
        simp [h] at ih
        simp [ih]

/-- The lines of a text, each with its line feed. -/
def lines (text : String) : List (List Char) :=
  cutLines (foldNewlines text.toList)

end StructScan.Text
