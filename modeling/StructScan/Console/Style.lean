import StructScan.Console.Color

/-!
# Styles

A style sets attributes of a text, its colour, the colour behind it, and where
it links to.  Several descriptions mean one style; the canonical description
names the attributes in a fixed order before the colours and the link.
-/

namespace StructScan.Console

/-- An attribute of a text. -/
inductive Attribute where
  | bold
  | dim
  | italic
  | underline
  | blink
  | fastBlink
  | reverse
  | conceal
  | strike
  | doubleUnderline
  | frame
  | encircle
  | overline
  deriving DecidableEq, Repr

namespace Attribute

/-- All attributes, in the order of the canonical description. -/
def all : List Attribute :=
  [bold, dim, italic, underline, blink, fastBlink, reverse, conceal, strike, doubleUnderline,
   frame, encircle, overline]

/-- The name of an attribute in a description. -/
def name : Attribute → String
  | bold => "bold"
  | dim => "dim"
  | italic => "italic"
  | underline => "underline"
  | blink => "blink"
  | fastBlink => "blink2"
  | reverse => "reverse"
  | conceal => "conceal"
  | strike => "strike"
  | doubleUnderline => "underline2"
  | frame => "frame"
  | encircle => "encircle"
  | overline => "overline"

/-- The short name of an attribute, if it has one. -/
def shortName? : Attribute → Option String
  | bold => some "b"
  | dim => some "d"
  | italic => some "i"
  | underline => some "u"
  | reverse => some "r"
  | conceal => some "c"
  | strike => some "s"
  | doubleUnderline => some "uu"
  | overline => some "o"
  | _ => none

/-- The attribute that a word names. -/
def ofName? (word : String) : Option Attribute :=
  all.find? fun a => a.name = word || a.shortName? = some word

end Attribute

/-- A style of a text. -/
structure Style where
  /-- The attributes that are set on or off, the latest setting first. -/
  settings : List (Attribute × Bool) := []
  color : Option (List Char) := none
  background : Option (List Char) := none
  link : Option (List Char) := none
  deriving DecidableEq, Repr

namespace Style

/-- Reads the words of a description from the left; later words win. -/
def readWords (s : Style) : List (List Char) → Except Color.Error Style
  | [] => .ok s
  | word :: rest =>
    let lowered := Text.lower word
    if lowered = "on".toList then
      match rest with
      | [] => .error .unknown
      | c :: rest => do
        let background ← Color.read c
        readWords { s with background := some background } rest
    else if lowered = "not".toList then
      match rest with
      | [] => .error .unknown
      | a :: rest =>
        match Attribute.ofName? (String.ofList a) with
        | none => .error .unknown
        | some a => readWords { s with settings := (a, false) :: s.settings } rest
    else if lowered = "link".toList then
      match rest with
      | [] => .error .unknown
      | target :: rest => readWords { s with link := some target } rest
    else
      match Attribute.ofName? (String.ofList lowered) with
      | some a => readWords { s with settings := (a, true) :: s.settings } rest
      | none => do
        let color ← Color.read word
        readWords { s with color := some color } rest

/-- Reads a description; the word `none` alone sets nothing. -/
def read (description : List Char) : Except Color.Error Style :=
  if Text.trim description = "none".toList then .ok {}
  else readWords {} (Text.wordsOf description)

/-- The words of the canonical description. -/
def words (s : Style) : List String :=
  Attribute.all.filterMap (fun a => (s.settings.lookup a).map fun on =>
    if on then a.name else "not " ++ a.name) ++
  (match s.color with
    | some c => [String.ofList c]
    | none => []) ++
  (match s.background with
    | some c => ["on", String.ofList c]
    | none => []) ++
  (match s.link with
    | some target => ["link", String.ofList target]
    | none => [])

/-- The canonical description of a style. -/
def description (s : Style) : String :=
  if s.words.isEmpty then "none" else " ".intercalate s.words

/--
The canonical form of a description.  What describes no style is kept, in lower
case and without blanks around it.
-/
def canonical (text : List Char) : Except Text.NumberError String :=
  match read text with
  | .ok s => .ok s.description
  | .error .unknown => .ok (String.ofList (Text.lower (Text.trim text)))
  | .error (.component e) => .error e

end Style

end StructScan.Console
