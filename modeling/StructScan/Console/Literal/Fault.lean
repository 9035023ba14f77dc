import StructScan.Text.Number
import StructScan.Text.Printable
import StructScan.Text.Quoted

/-!
# Faults of literals

Why a text is no literal: a fault of its words, of its grammar or of its values.
-/

namespace StructScan.Console.Literal

/-- The ways to write a number. -/
inductive Numeral where
  | decimal
  | hexadecimal
  | octal
  | binary
  | imaginary
  deriving DecidableEq, Repr

/-- The name of a way to write numbers. -/
def Numeral.name : Numeral → String
  | decimal => "decimal"
  | hexadecimal => "hexadecimal"
  | octal => "octal"
  | binary => "binary"
  | imaginary => "imaginary"

/-- Why an escape inside quotes stands for no character. -/
inductive EscapeFlaw where
  /-- Digits are missing behind the letter of the escape. -/
  | truncated (letter : Char) (digits : Nat)
  /-- The code is beyond the last character. -/
  | beyond
  /-- The name of a character is not in braces. -/
  | unnamed
  deriving DecidableEq, Repr

/-- The flaw in words. -/
def EscapeFlaw.text : EscapeFlaw → String
  | truncated letter digits =>
    let code := String.ofList (List.replicate digits 'X')
    s!"truncated \\{letter}{code} escape"
  | beyond => "illegal Unicode character"
  | unnamed => "malformed \\N character escape"

/-- Why a text is no literal. -/
inductive Fault where
  /-- A closing bracket closes nothing. -/
  | unmatched (closing : Char)
  /-- A closing bracket closes another kind of bracket, perhaps of an earlier line. -/
  | mismatched (closing opening : Char) (line : Option Nat)
  /-- A quote is not closed; the line is the one where that shows. -/
  | unterminated (triple : Bool) (line : Nat)
  /-- A character that no word has. -/
  | strayCharacter (c : Char)
  /-- A number that is not written well. -/
  | badNumber (n : Numeral)
  /-- A digit that the notation of its number does not have. -/
  | badDigit (digit : Char) (n : Numeral)
  | leadingZeros
  | number (e : Text.NumberError)
  /-- A backslash that does not end its line. -/
  | afterBackslash
  | tooNested
  /-- An opening bracket is never closed. -/
  | unclosed (opening : Char)
  | unexpectedEnd
  | unexpectedIndent
  | holdsNul
  | badEscape (first last : Nat) (flaw : EscapeFlaw)
  | badByteEscape (position : Nat)
  | nonAsciiBytes
  | mixedBytes
  /-- The words follow no rule. -/
  | ungrammatical
  | missingComma
  | missingElse
  | missingParentheses (name : String)
  | singleEquals
  | assignment (form : String)
  | assignmentHere (form : String)
  | namedAssignment (form : String)
  | argumentAssignment
  | positionalAfterKeyword (unpacked : Bool)
  | starredAfterUnpacked
  | bareGenerator
  | missingStarred
  | starredInGroup (double : Bool)
  | starredInComprehension (double : Bool)
  | bareTarget
  | starredValue
  | missingColon
  | missingValue
  /-- A value that cannot be an item of a set or a key. -/
  | unhashable (type : String)
  /-- An expression that is no literal. -/
  | notLiteral (entry : Bool)
  deriving DecidableEq, Repr

namespace Fault

/-- A code point as four or more hexadecimal digits in upper case. -/
def codeText (c : Char) : String :=
  "U+" ++ String.ofList ((Text.hex 4 c.toNat).map Char.toUpper)

/-- The place of an escape, and what is wrong with it. -/
def escapeText (first last : Nat) (flaw : EscapeFlaw) : String :=
  let place := if first = last then s!"byte 0x5c in position {first}"
    else s!"bytes in position {first}-{last}"
  s!"(unicode error) 'unicodeescape' codec can't decode {place}: {flaw.text}"

/-- The fault in words. -/
def message : Fault → String
  | unmatched closing => s!"unmatched '{closing}'"
  | mismatched closing opening none =>
    s!"closing parenthesis '{closing}' does not match opening parenthesis '{opening}'"
  | mismatched closing opening (some line) =>
    s!"closing parenthesis '{closing}' does not match opening parenthesis '{opening}' " ++
      s!"on line {line}"
  | unterminated true line =>
    s!"unterminated triple-quoted string literal (detected at line {line})"
  | unterminated false line => s!"unterminated string literal (detected at line {line})"
  | strayCharacter c =>
    if Text.isPrintable c then s!"invalid character '{c}' ({codeText c})"
    else s!"invalid non-printable character {codeText c}"
  | badNumber n => s!"invalid {n.name} literal"
  | badDigit digit n => s!"invalid digit '{digit}' in {n.name} literal"
  | leadingZeros =>
    "leading zeros in decimal integer literals are not permitted; " ++
      "use an 0o prefix for octal integers"
  | number e =>
    e.message ++ " - Consider hexadecimal for huge integer literals to avoid decimal " ++
      "conversion limits."
  | afterBackslash => "unexpected character after line continuation character"
  | tooNested => "too many nested parentheses"
  | unclosed opening => s!"'{opening}' was never closed"
  | unexpectedEnd => "unexpected EOF while parsing"
  | unexpectedIndent => "unexpected indent"
  | holdsNul => "source code string cannot contain null bytes"
  | badEscape first last flaw => escapeText first last flaw
  | badByteEscape position => s!"(value error) invalid \\x escape at position {position}"
  | nonAsciiBytes => "bytes can only contain ASCII literal characters"
  | mixedBytes => "cannot mix bytes and nonbytes literals"
  | ungrammatical => "invalid syntax"
  | missingComma => "invalid syntax. Perhaps you forgot a comma?"
  | missingElse => "expected 'else' after 'if' expression"
  | missingParentheses name =>
    s!"Missing parentheses in call to '{name}'. Did you mean {name}(...)?"
  | singleEquals => "invalid syntax. Maybe you meant '==' or ':=' instead of '='?"
  | assignment form => s!"cannot assign to {form}"
  | assignmentHere form =>
    s!"cannot assign to {form} here. Maybe you meant '==' instead of '='?"
  | namedAssignment form => s!"cannot use assignment expressions with {form}"
  | argumentAssignment =>
    "expression cannot contain assignment, perhaps you meant \"==\"?"
  | positionalAfterKeyword true =>
    "positional argument follows keyword argument unpacking"
  | positionalAfterKeyword false => "positional argument follows keyword argument"
  | starredAfterUnpacked =>
    "iterable argument unpacking follows keyword argument unpacking"
  | bareGenerator => "Generator expression must be parenthesized"
  | missingStarred => "Invalid star expression"
  | starredInGroup false => "cannot use starred expression here"
  | starredInGroup true => "cannot use double starred expression here"
  | starredInComprehension false => "iterable unpacking cannot be used in comprehension"
  | starredInComprehension true =>
    "dict unpacking cannot be used in dict comprehension"
  | bareTarget => "did you forget parentheses around the comprehension target?"
  | starredValue => "cannot use a starred expression in a dictionary value"
  | missingColon => "':' expected after dictionary key"
  | missingValue => "expression expected after dictionary key and ':'"
  | unhashable type => s!"unhashable type: '{type}'"
  | notLiteral false => "malformed node or string"
  | notLiteral true => "malformed node or string: None"

/-- Whether a fault is one of the values and not of how they are written. -/
def isOfValue : Fault → Bool
  | unhashable _ | notLiteral _ => true
  | _ => false

end Fault

end StructScan.Console.Literal
