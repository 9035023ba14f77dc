import StructScan.Text.Alphanumeric
import StructScan.Text.Digit
import StructScan.Text.Quoted

/-!
# Tokens

The lexical units of C struct declarations.  A word is a keyword, a number if
its first character is a digit, and an identifier otherwise; every other
character that is not blank is a token of its own.

Main results:

- Theorem `Token.ofWord_text`: the token of a word shows the word.
- Theorem `Token.Kind.ofLabel?_label`: the label of a kind determines it.
-/

namespace StructScan

/-- What a token is to the grammar. -/
inductive Token.Kind where
  | openBrace
  | closeBrace
  | semicolon
  | star
  | int
  | long
  | struct
  | typedef
  | classKeyword
  | identifier
  | number
  | other
  deriving DecidableEq, Repr

/-- One lexical unit: its kind, its literal text and the line that it starts on. -/
structure Token where
  kind : Token.Kind
  text : String
  line : Int := 0
  deriving DecidableEq, Repr

namespace Token.Kind

/-- The name under which a kind is shown. -/
def label : Kind → String
  | openBrace => "LBRACE"
  | closeBrace => "RBRACE"
  | semicolon => "SEMICOLON"
  | star => "STAR"
  | int => "INT"
  | long => "LONG"
  | struct => "STRUCT"
  | typedef => "TYPEDEF"
  | classKeyword => "CLASS"
  | identifier => "IDENTIFIER"
  | number => "NUMBER"
  | other => "PUNCT"

/-- Every kind of token. -/
def all : List Kind :=
  [openBrace, closeBrace, semicolon, star, int, long, struct, typedef, classKeyword, identifier,
    number, other]

/-- The kind that a label names. -/
def ofLabel? (label : String) : Option Kind :=
  all.find? fun k => k.label == label

/-- The label of a kind determines it. -/
theorem ofLabel?_label (k : Kind) : ofLabel? k.label = some k := by
  cases k <;> decide

/-- The keywords of the language. -/
def keyword? : String → Option Kind
  | "struct" => some struct
  | "typedef" => some typedef
  | "class" => some classKeyword
  | "int" => some int
  | "long" => some long
  | _ => none

/-- The kind of a character that belongs to no word. -/
def ofPunctuation : Char → Kind
  | '\x7b' => openBrace
  | '\x7d' => closeBrace
  | ';' => semicolon
  | '*' => star
  | _ => other

/-- The kinds that can name the type of a field. -/
def isType : Kind → Bool
  | int | long | identifier => true
  | _ => false

end Token.Kind

namespace Token

/-- The token of the word that starts with `first` and goes on with `rest`. -/
def ofWord (first : Char) (rest : List Char) (line : Int) : Token :=
  let word := String.ofList (first :: rest)
  let kind := (Kind.keyword? word).getD (if Text.isDigit first then .number else .identifier)
  ⟨kind, word, line⟩

/-- A word is its own text, whether it is a keyword or a name. -/
@[simp]
theorem ofWord_text (first : Char) (rest : List Char) (line : Int) :
    (ofWord first rest line).text = String.ofList (first :: rest) :=
  rfl

/-- The token of a word; the empty text is no word. -/
def ofWord? (word : String) (line : Int) : Option Token :=
  match word.toList with
  | [] => none
  | c :: cs => some (ofWord c cs line)

/-- Two tokens agree if they have one kind and one text, wherever they stand. -/
def agrees (t u : Token) : Bool :=
  t.kind == u.kind && t.text == u.text

/-- The token with its kind, its quoted text and its line. -/
def describe (t : Token) : String :=
  s!"Token({t.kind.label}, {Text.quote t.text}, line={t.line})"

end Token

end StructScan
