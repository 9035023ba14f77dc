import StructScan.Text.Hex
import StructScan.Toml.Error
import StructScan.Toml.Value

/-!
# Keys and scalars of a configuration document

Readers for the parts of a document that hold no other values: blanks and
comments, keys, strings, numbers, dates and times.  A reader takes the text at
the cursor and returns what it read with the text that is left.
-/

namespace StructScan.Toml

/-- The text that is left to read. -/
abbrev Input := List Char

/-! ## Blanks and comments -/

/-- A space or a tab. -/
def isSpace (c : Char) : Bool :=
  c = ' ' || c = '\t'

/-- A control character other than a tab. -/
def isControl (c : Char) : Bool :=
  (c.toNat < 32 || c.toNat = 127) && c ≠ '\t'

/-- Skips spaces and tabs. -/
def skipSpaces (cs : Input) : Input :=
  cs.dropWhile isSpace

/-- Skips a comment up to the end of its line. -/
def skipComment : Input → Except Error Input
  | '#' :: cs =>
    if (cs.takeWhile (· ≠ '\n')).any isControl then .error .illegalCharacter
    else .ok (cs.dropWhile (· ≠ '\n'))
  | cs => .ok cs

/-- Skips spaces, newlines and comments between the items of an array. -/
def skipFiller : Nat → Input → Except Error Input
  | 0, cs => .ok cs
  | n + 1, cs =>
    match cs.dropWhile fun c => isSpace c || c = '\n' with
    | '#' :: cs' => do skipFiller n (← skipComment ('#' :: cs'))
    | cs' => .ok cs'

/-! ## Strings -/

/-- The character of an escape by a letter. -/
def letterEscape? : Char → Option Char
  | 'b' => some '\x08'
  | 't' => some '\t'
  | 'n' => some '\n'
  | 'f' => some '\x0c'
  | 'r' => some '\r'
  | '"' => some '"'
  | '\\' => some '\\'
  | _ => none

/-- Where a string over several lines stands after a backslash at the end of a line. -/
inductive Fold where
  | text
  /-- On the line of the backslash. -/
  | beforeNewline
  /-- On a later line, before its first character. -/
  | afterNewline
  deriving DecidableEq, Repr

/-- Puts a character in front of what was read. -/
def prepend (c : Char) (r : Except Error (List Char × Input)) :
    Except Error (List Char × Input) :=
  r.map fun x => (c :: x.1, x.2)

/-- Reads a string with escapes up to its closing quotes. -/
def basicBody (multiline : Bool) : Fold → Input → Except Error (List Char × Input)
  | _, [] => .error .unterminatedString
  | fold, c :: cs =>
    if fold = .afterNewline && (isSpace c || c = '\n') then basicBody multiline .afterNewline cs
    else if fold = .beforeNewline then
      if c = '\n' then basicBody multiline .afterNewline cs
      else if isSpace c then basicBody multiline .beforeNewline cs
      else .error .badEscape
    else if c = '"' then
      if multiline then
        match cs with
        | '"' :: '"' :: rest => .ok ([], rest)
        | _ => prepend '"' (basicBody multiline .text cs)
      else .ok ([], cs)
    else if c = '\\' then
      match cs with
      | 'u' :: a :: b :: c :: d :: rest =>
        match Text.hexChar? [a, b, c, d] with
        | some x => prepend x (basicBody multiline .text rest)
        | none => .error .badEscape
      | 'U' :: a :: b :: c :: d :: e :: f :: g :: h :: rest =>
        match Text.hexChar? [a, b, c, d, e, f, g, h] with
        | some x => prepend x (basicBody multiline .text rest)
        | none => .error .badEscape
      | e :: rest =>
        if multiline && e = '\n' then basicBody multiline .afterNewline rest
        else if multiline && isSpace e then basicBody multiline .beforeNewline rest
        else
          match letterEscape? e with
          | some x => prepend x (basicBody multiline .text rest)
          | none => .error .badEscape
      | [] => .error .badEscape
    else if isControl c && !(multiline && c = '\n') then .error .illegalCharacter
    else prepend c (basicBody multiline .text cs)

/-- Reads a string without escapes up to its closing quotes. -/
def literalBody (multiline : Bool) : Input → Except Error (List Char × Input)
  | [] => .error .unterminatedString
  | c :: cs =>
    if c = '\'' then
      if multiline then
        match cs with
        | '\'' :: '\'' :: rest => .ok ([], rest)
        | _ => prepend '\'' (literalBody multiline cs)
      else .ok ([], cs)
    else if isControl c && !(multiline && c = '\n') then .error .illegalCharacter
    else prepend c (literalBody multiline cs)

/-- Adds up to two quotes that stand before the three closing ones. -/
def closingQuotes (quote : Char) (r : List Char × Input) : List Char × Input :=
  match r.2 with
  | a :: b :: rest =>
    if a = quote && b = quote then (r.1 ++ [quote, quote], rest)
    else if a = quote then (r.1 ++ [quote], b :: rest)
    else r
  | [a] => if a = quote then (r.1 ++ [quote], []) else r
  | [] => r

/-- Drops the newline right after three opening quotes. -/
def dropNewline : Input → Input
  | '\n' :: cs => cs
  | cs => cs

/-- Reads a string, if there is one. -/
def string? (cs : Input) : Option (Except Error (String × Input)) :=
  let toText (r : List Char × Input) : String × Input := (String.ofList r.1, r.2)
  match cs with
  | '"' :: '"' :: '"' :: rest =>
    some ((basicBody true .text (dropNewline rest)).map (toText ∘ closingQuotes '"'))
  | '"' :: rest => some ((basicBody false .text rest).map toText)
  | '\'' :: '\'' :: '\'' :: rest =>
    some ((literalBody true (dropNewline rest)).map (toText ∘ closingQuotes '\''))
  | '\'' :: rest => some ((literalBody false rest).map toText)
  | _ => none

/-! ## Keys -/

/-- A character of a key without quotes. -/
def isBareKey (c : Char) : Bool :=
  c.isAlphanum || c = '-' || c = '_'

/-- A dotted key. -/
abbrev Key := List String

/-- Reads one part of a key; a part never spans several lines. -/
def keyPart : Input → Except Error (String × Input)
  | '"' :: rest => (basicBody false .text rest).map fun r => (String.ofList r.1, r.2)
  | '\'' :: rest => (literalBody false rest).map fun r => (String.ofList r.1, r.2)
  | cs =>
    match cs.takeWhile isBareKey with
    | [] => .error .invalidKey
    | word => .ok (String.ofList word, cs.dropWhile isBareKey)

/-- Reads a key and the spaces after it. -/
def key : Nat → Input → Except Error (Key × Input)
  | 0, _ => .error .invalidKey
  | n + 1, cs => do
    let (part, rest) ← keyPart cs
    match skipSpaces rest with
    | '.' :: more =>
      let (parts, rest) ← key n (skipSpaces more)
      return (part :: parts, rest)
    | rest => return ([part], rest)

/-! ## Numbers -/

/-- Reads digits with single underscores between them, after a first digit. -/
def moreDigits (isDigit : Char → Bool) : Input → List Char × Input
  | '_' :: d :: cs =>
    if isDigit d then
      let r := moreDigits isDigit cs
      (d :: r.1, r.2)
    else ([], '_' :: d :: cs)
  | d :: cs =>
    if isDigit d then
      let r := moreDigits isDigit cs
      (d :: r.1, r.2)
    else ([], d :: cs)
  | [] => ([], [])

/-- Reads digits with single underscores between them. -/
def digits? (isDigit : Char → Bool) : Input → Option (List Char × Input)
  | d :: cs =>
    if isDigit d then
      let r := moreDigits isDigit cs
      some (d :: r.1, r.2)
    else none
  | [] => none

/-- The value of digits in a base. -/
def digitsValue (base : Nat) (ds : List Char) : Nat :=
  ds.foldl (fun n d => n * base + ((Text.hexDigit? d).getD 0)) 0

/-- Whether a character is a digit of a base. -/
def isDigitOf (base : Nat) (c : Char) : Bool :=
  match Text.hexDigit? c with
  | some n => n < base
  | none => false

/-- Reads an integer with the mark of its base. -/
def basedInteger? : Input → Option (Value × Input)
  | '0' :: mark :: cs => do
    let base ← match mark with
      | 'x' => some 16
      | 'o' => some 8
      | 'b' => some 2
      | _ => none
    let (ds, rest) ← digits? (isDigitOf base) cs
    return (.integer (digitsValue base ds), rest)
  | _ => none

/-- Reads a sign; without one a number is positive. -/
def sign : Input → Bool × Input
  | '-' :: cs => (true, cs)
  | '+' :: cs => (false, cs)
  | cs => (false, cs)

/-- Reads the whole part of a number, which has no leading zeros. -/
def wholePart? : Input → Option (List Char × Input)
  | '0' :: cs => some (['0'], cs)
  | cs => digits? (isDigitOf 10) cs

/-- Reads the fraction of a number, if there is one. -/
def fraction? : Input → Option (List Char × Input)
  | '.' :: cs => digits? (isDigitOf 10) cs
  | _ => none

/-- Reads the power of ten of a number, if there is one. -/
def power? : Input → Option (Int × Input)
  | e :: cs =>
    if e = 'e' || e = 'E' then
      let (negative, cs) := sign cs
      (digits? (isDigitOf 10) cs).map fun r =>
        let n : Int := digitsValue 10 r.1
        (if negative then -n else n, r.2)
    else none
  | [] => none

/-- The integer of decimal digits. -/
def decimalInteger (negative : Bool) (ds : List Char) : Except Error Value :=
  match Text.decimal ds with
  | .ok n => .ok (.integer (if negative then -n else n))
  | .error e => .error (.number e)

/-- Reads an integer or a float in decimal notation. -/
def decimal? (cs : Input) : Option (Except Error (Value × Input)) := do
  let (negative, cs) := sign cs
  let (whole, cs) ← wholePart? cs
  let frac := fraction? cs
  let cs := (frac.map (·.2)).getD cs
  let power := power? cs
  let cs := (power.map (·.2)).getD cs
  if frac.isNone && power.isNone then
    return (decimalInteger negative whole).map fun v => (v, cs)
  else
    let fracDigits := (frac.map (·.1)).getD []
    let exponent : Int := (power.map (·.1)).getD 0
    return .ok (.float (Text.Binary64.ofDecimal negative (digitsValue 10 (whole ++ fracDigits))
      (exponent - fracDigits.length)), cs)

/-- Reads a float that is no decimal number. -/
def specialFloat? (cs : Input) : Option (Value × Input) :=
  let (negative, rest) := sign cs
  match rest with
  | 'i' :: 'n' :: 'f' :: rest => some (.float (.infinite negative), rest)
  | 'n' :: 'a' :: 'n' :: rest => some (.float .nan, rest)
  | _ => none

/-! ## Dates and times -/

/-- Reads two digits whose value lies in a range. -/
def twoDigits? (low high : Nat) : Input → Option (Nat × Input)
  | a :: b :: cs =>
    if isDigitOf 10 a && isDigitOf 10 b then
      let n := digitsValue 10 [a, b]
      if low ≤ n && n ≤ high then some (n, cs) else none
    else none
  | _ => none

/-- Requires a character. -/
def char? (c : Char) : Input → Option Input
  | x :: cs => if x = c then some cs else none
  | [] => none

/-- Reads the fraction of a second in millionths, cutting off further digits. -/
def microseconds : Input → Nat × Input
  | '.' :: cs =>
    match cs.takeWhile (isDigitOf 10) with
    | [] => (0, '.' :: cs)
    | ds => (digitsValue 10 ((ds ++ List.replicate 6 '0').take 6), cs.dropWhile (isDigitOf 10))
  | cs => (0, cs)

/-- Reads a time of day. -/
def time? (cs : Input) : Option (Time × Input) := do
  let (hour, cs) ← twoDigits? 0 23 cs
  let cs ← char? ':' cs
  let (minute, cs) ← twoDigits? 0 59 cs
  let cs ← char? ':' cs
  let (second, cs) ← twoDigits? 0 59 cs
  let (micro, cs) := microseconds cs
  return (⟨hour, minute, second, micro⟩, cs)

/-- Reads how many minutes a time is ahead of universal time. -/
def offset? (cs : Input) : Option (Int × Input) :=
  match cs with
  | [] => none
  | c :: rest =>
    if c = 'Z' || c = 'z' then some (0, rest)
    else if c = '+' || c = '-' then do
      let (hours, rest) ← twoDigits? 0 23 rest
      let rest ← char? ':' rest
      let (minutes, rest) ← twoDigits? 0 59 rest
      let n : Int := 60 * hours + minutes
      return (if c = '-' then -n else n, rest)
    else none

/-- Reads a calendar date, whose day may exceed its month. -/
def date? (cs : Input) : Option (Date × Input) := do
  let (century, cs) ← twoDigits? 0 99 cs
  let (year, cs) ← twoDigits? 0 99 cs
  let cs ← char? '-' cs
  let (month, cs) ← twoDigits? 1 12 cs
  let cs ← char? '-' cs
  let (day, cs) ← twoDigits? 1 31 cs
  return (⟨100 * century + year, month, day⟩, cs)

/-- Reads the time after a date, if there is one. -/
def timeAfterDate? : Input → Option (Time × Input)
  | c :: cs => if c = 'T' || c = 't' || c = ' ' then time? cs else none
  | [] => none

/-- Reads a date, or a date and a time. -/
def dateTime? (cs : Input) : Option (Except Error (Value × Input)) := do
  let (d, afterDate) ← date? cs
  let found : Value × Input := match timeAfterDate? afterDate with
    | none => (.date d, afterDate)
    | some (t, afterTime) =>
      match offset? afterTime with
      | none => (.dateTime d t none, afterTime)
      | some (offset, rest) => (.dateTime d t (some offset), rest)
  return if d.isValid then .ok found else .error .invalidDate

/-- Reads a value that holds no other values and is no string. -/
def scalar (cs : Input) : Except Error (Value × Input) :=
  match cs with
  | 't' :: 'r' :: 'u' :: 'e' :: rest => .ok (.boolean true, rest)
  | 'f' :: 'a' :: 'l' :: 's' :: 'e' :: rest => .ok (.boolean false, rest)
  | _ =>
    match dateTime? cs with
    | some r => r
    | none =>
      match time? cs with
      | some (t, rest) => .ok (.time t, rest)
      | none =>
        match basedInteger? cs, decimal? cs, specialFloat? cs with
        | some r, _, _ => .ok r
        | none, some r, _ => r
        | none, none, some r => .ok r
        | none, none, none => .error .invalidValue

end StructScan.Toml
