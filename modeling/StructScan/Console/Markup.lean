import StructScan.Console.Action
import StructScan.Console.Emoji
import StructScan.Console.Style

/-!
# Console markup

Text for a terminal may hold style tags in square brackets and emoji codes
between colons.  A tag opens with a lower-case letter, `#`, `/` or `@`; it styles
the text and is not shown.  A closing tag closes the innermost open one of the
same style, however that style was described.  Backslashes before a tag make it
plain text.

A terminal that takes no styles shows what is left: the text without its tags.
-/

namespace StructScan.Console.Markup

/-! ## Tags -/

/-- A character that a tag can open with. -/
def opensTag (c : Char) : Bool :=
  ('a' ≤ c && c ≤ 'z') || c = '#' || c = '/' || c = '@'

/-- A character other than a square bracket. -/
def isInner (c : Char) : Bool :=
  c ≠ ']' && c ≠ '['

/-- The content of the tag that follows an opening bracket, and what comes after the tag. -/
def tag? : List Char → Option (List Char × List Char)
  | [] => none
  | c :: cs =>
    if opensTag c then
      match cs.dropWhile isInner with
      | ']' :: rest => some (c :: cs.takeWhile isInner, rest)
      | _ => none
    else none

/-- A part of a marked-up text, with the position that it starts at. -/
inductive Piece where
  | plain (text : List Char)
  | tag (position : Nat) (content : List Char)
  deriving DecidableEq, Repr

/-- The plain text that was collected, in front of other pieces. -/
def flush (collected : List Char) (pieces : List Piece) : List Piece :=
  if collected.isEmpty then pieces else .plain collected.reverse :: pieces

/--
The pieces that `slashes` backslashes and a tag at a position make.  Each pair
of backslashes is one; a backslash left over makes the tag plain text.
-/
def tagPieces (position slashes : Nat) (content : List Char) : List Piece :=
  let pairs := slashes / 2
  let literal := flush (List.replicate pairs '\\') []
  if slashes % 2 = 1 then literal ++ [.plain ('[' :: content ++ [']'])]
  else literal ++ [.tag (position + 2 * pairs) content]

/--
Cuts a text into plain parts and tags; `collected` is the plain text before the
cursor, reversed.
-/
def cut : Nat → Nat → List Char → List Char → List Piece
  | 0, _, collected, _ => flush collected []
  | n + 1, position, collected, cs =>
    let slashes := (cs.takeWhile (· = '\\')).length
    match cs.dropWhile (· = '\\') with
    | '[' :: rest =>
      match tag? rest with
      | some (content, after) =>
        flush collected (tagPieces position slashes content ++
          cut n (position + slashes + content.length + 2) [] after)
      | none =>
        cut n (position + slashes + 1) ('[' :: List.replicate slashes '\\' ++ collected) rest
    | c :: rest =>
      cut n (position + slashes + 1) (c :: List.replicate slashes '\\' ++ collected) rest
    | [] => flush (List.replicate slashes '\\' ++ collected) []

/-- The parts of a marked-up text. -/
def pieces (cs : List Char) : List Piece :=
  cut (cs.length + 1) 0 [] cs

/-! ## Emoji -/

/-- Replaces emoji codes: names without blanks between two colons. -/
def replaceEmoji : Nat → List Char → List Char
  | 0, cs => cs
  | _ + 1, [] => []
  | n + 1, ':' :: cs =>
    let name := cs.takeWhile fun c => c ≠ ':' && !Text.isBlank c
    match cs.dropWhile fun c => c ≠ ':' && !Text.isBlank c with
    | ':' :: rest =>
      match Emoji.text? name with
      | some text => text ++ replaceEmoji n rest
      | none => ':' :: name ++ ':' :: replaceEmoji n rest
    | _ => ':' :: replaceEmoji n cs
  | n + 1, c :: cs => c :: replaceEmoji n cs

/-! ## Plain text -/

/-- Drops the backslash before every opening bracket. -/
def unescape : List Char → List Char
  | [] => []
  | '\\' :: '[' :: cs => '[' :: unescape cs
  | c :: cs => c :: unescape cs

/-- A plain part as it is shown. -/
def showPlain (cs : List Char) : List Char :=
  let text := unescape cs
  replaceEmoji (text.length + 1) text

/-- What is wrong with a marked-up text. -/
inductive Error where
  /-- A closing tag whose style is not open. -/
  | unmatched (content : List Char) (position : Nat)
  /-- A closing tag without a name where nothing is open. -/
  | nothingOpen (position : Nat)
  /-- A component of a colour that is no number. -/
  | component (e : Text.NumberError)
  /-- The parameters of an action that is closed cannot be read. -/
  | action (e : Action.Error)
  deriving DecidableEq, Repr

/-- The error in words. -/
def Error.message : Error → String
  | unmatched content position =>
    s!"closing tag '[{String.ofList content}]' at position {position} doesn't match any open tag"
  | nothingOpen position => s!"closing tag '[/]' at position {position} has nothing to close"
  | component e => e.message
  | action e => e.message

/-- A tag that is open: the canonical name of its style, and its parameters. -/
structure OpenTag where
  name : String
  parameters : Option (List Char)
  deriving DecidableEq, Repr

/-- The canonical name of a style. -/
def styleName (name : List Char) : Except Error String :=
  (Style.canonical name).mapError .component

/-- The name part of the content of a tag, before its parameters. -/
def namePart (content : List Char) : List Char :=
  content.takeWhile (· ≠ '=')

/-- The parameters of a tag, which follow an equals sign. -/
def parameters? (content : List Char) : Option (List Char) :=
  match content.dropWhile (· ≠ '=') with
  | _ :: ps => some ps
  | [] => none

/-- The tag that a content opens. -/
def OpenTag.ofContent (content : List Char) : Except Error OpenTag :=
  (styleName (namePart content)).map fun name => ⟨name, parameters? content⟩

/-- The description of the style of a tag. -/
def OpenTag.description (t : OpenTag) : List Char :=
  t.name.toList ++
    match t.parameters with
    | some ps => ' ' :: ps
    | none => []

/-- Requires the components of the colours of a tag to be numbers. -/
def OpenTag.check (t : OpenTag) : Except Error Unit :=
  match Style.read t.description with
  | .error (.component e) => .error (.component e)
  | _ => .ok ()

/-- Requires the parameters of a tag that is closed to be right, if the tag names an action. -/
def OpenTag.close (t : OpenTag) : Except Error Unit :=
  match t.name.toList.head?, t.parameters with
  | some '@', some (p :: ps) => (Action.check (p :: ps)).mapError .action
  | _, _ => .ok ()

/-- The tags that are left open when one of a name is closed, and the one that is closed. -/
def close? (name : String) : List OpenTag → Option (OpenTag × List OpenTag)
  | [] => none
  | t :: rest =>
    if t.name = name then some (t, rest)
    else (close? name rest).map fun r => (r.1, t :: r.2)

/--
The text of some pieces, and the tags in them; `opened` are the open tags, the
innermost first.
-/
def showPieces (opened : List OpenTag) : List Piece → Except Error (List Char × List OpenTag)
  | [] => .ok ([], [])
  | .plain cs :: rest => do
    let (text, tags) ← showPieces opened rest
    return (showPlain cs ++ text, tags)
  | .tag position content :: rest =>
    match namePart content with
    | '/' :: name =>
      if (Text.trim name).isEmpty then
        match opened with
        | [] => .error (.nothingOpen position)
        | tag :: outer => do
          tag.close
          showPieces outer rest
      else do
        let style ← styleName (Text.trim name)
        match close? style opened with
        | some (tag, others) =>
          tag.close
          showPieces others rest
        | none => .error (.unmatched content position)
    | _ => do
      let tag ← OpenTag.ofContent content
      let (text, tags) ← showPieces (tag :: opened) rest
      return (text, tag :: tags)

/-- The text of a marked-up text without its styles. -/
def render (markup : String) : Except Error (List Char) :=
  if markup.toList.contains '[' then do
    let (text, tags) ← showPieces [] (pieces markup.toList)
    tags.forM OpenTag.check
    return text
  else .ok (replaceEmoji (markup.length + 1) markup.toList)

/-! ## Escaping -/

/-- Puts backslashes before everything that would be taken for a tag. -/
def escapeTags : Nat → List Char → List Char
  | 0, cs => cs
  | n + 1, cs =>
    let slashes := (cs.takeWhile (· = '\\')).length
    let kept := List.replicate slashes '\\'
    match cs.dropWhile (· = '\\') with
    | '[' :: rest =>
      match tag? rest with
      | some (content, after) =>
        kept ++ kept ++ '\\' :: '[' :: content ++ ']' :: escapeTags n after
      | none => kept ++ '[' :: escapeTags n rest
    | c :: rest => kept ++ c :: escapeTags n rest
    | [] => kept

/-- A text that is shown as it is; a single backslash at its end is doubled. -/
def escape (s : String) : String :=
  let cs := escapeTags (s.length + 1) s.toList
  let trailing := (cs.reverse.takeWhile (· = '\\')).length
  String.ofList (if trailing = 1 then cs ++ ['\\'] else cs)

end StructScan.Console.Markup
