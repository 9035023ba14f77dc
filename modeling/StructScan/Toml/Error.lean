import StructScan.Text.Number

/-!
# Faults of a configuration document

Why a text is no TOML document.
-/

namespace StructScan.Toml

/-- What values are too deep for that stand too deep in one another. -/
inductive Overflow where
  | reading
  | showing
  deriving DecidableEq, Repr

/-- The failure in words. -/
def Overflow.message : Overflow → String
  | reading => "maximum recursion depth exceeded"
  | showing => "maximum recursion depth exceeded while getting the repr of an object"

/-- Why a text is no TOML document. -/
inductive Error where
  | invalidStatement
  | invalidKey
  | missingEquals
  | invalidValue
  | invalidDate
  | unterminatedString
  | illegalCharacter
  | badEscape
  | unclosedArray
  | unclosedTable
  | unclosedHeader
  | declaredTwice
  | overwritten
  | immutable
  | missingNewline
  /-- An integer has too many digits. -/
  | number (e : Text.NumberError)
  /-- Values stand too deep in one another. -/
  | tooDeep
  deriving DecidableEq, Repr

/-- The fault in words. -/
def Error.message : Error → String
  | invalidStatement => "Invalid statement"
  | invalidKey => "Invalid key"
  | missingEquals => "Expected an equals sign after a key"
  | invalidValue => "Invalid value"
  | invalidDate => "Invalid date or time"
  | unterminatedString => "Unterminated string"
  | illegalCharacter => "Illegal character"
  | badEscape => "Invalid escape sequence"
  | unclosedArray => "Unclosed array"
  | unclosedTable => "Unclosed inline table"
  | unclosedHeader => "Unclosed table header"
  | declaredTwice => "Table declared twice"
  | overwritten => "Value overwritten"
  | immutable => "Inline value extended"
  | missingNewline => "Expected a new line after a statement"
  | number e => e.message
  | tooDeep => Overflow.reading.message

end StructScan.Toml
