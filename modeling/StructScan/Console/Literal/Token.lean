import StructScan.Console.Literal.Fault
import StructScan.Text.Alphanumeric
import StructScan.Text.CellWidth
import StructScan.Text.Hex
import StructScan.Text.Newline

/-!
# Words of literals

Cuts a text into names, numbers, quoted texts and operators.  Brackets have to
match; inside them the end of a line means nothing.
-/

namespace StructScan.Console.Literal

/-- What a word is. -/
inductive Kind where
  | name (s : String)
  | number (imaginary : Bool)
  /-- A quoted text: of bytes, with expressions in it, and what is wrong with it. -/
  | text (bytes formatted : Bool) (fault : Option Fault)
  | operator (s : String)
  | newline
  | indent
  | finish
  /-- A place that reading must not come to. -/
  | stop (f : Fault)
  deriving DecidableEq, Repr

/-- A word, and how many brackets are open behind it. -/
structure Token where
  kind : Kind
  level : Nat
  deriving DecidableEq, Repr

/-! ## Names -/

/-- A character that is taken into a name before the name is checked. -/
def mayBeName (c : Char) : Bool :=
  c.isAlphanum || c = '_' || 128 ≤ c.toNat

/-- Characters with a numeric value that stand in no name, and some presentation forms. -/
def numerals : Text.CharSet := ⟨
  [(178, 179), (185, 185), (188, 190), (890, 890), (2548, 2553), (2930, 2935), (3056, 3058),
   (3192, 3198), (3416, 3422), (3440, 3448), (3882, 3891), (4978, 4988), (6128, 6137),
   (8304, 8304), (8308, 8313), (8320, 8329), (8528, 8543), (8585, 8585), (9312, 9371),
   (9450, 9471), (10102, 10131), (11517, 11517), (11823, 11823), (12690, 12693), (12832, 12841),
   (12872, 12879), (12881, 12895), (12928, 12937), (12977, 12991), (43056, 43061), (64606, 64611),
   (65018, 65019), (65136, 65136), (65138, 65138), (65140, 65140), (65142, 65142), (65144, 65144),
   (65146, 65146), (65148, 65148), (65150, 65150), (65799, 65843), (65909, 65912), (65930, 65931),
   (66273, 66299), (66336, 66339), (67672, 67679), (67705, 67711), (67751, 67759), (67835, 67839),
   (67862, 67867), (68028, 68029), (68032, 68047), (68050, 68095), (68160, 68168), (68221, 68222),
   (68253, 68255), (68331, 68335), (68440, 68447), (68472, 68479), (68521, 68527), (68858, 68863),
   (69216, 69246), (69405, 69414), (69457, 69460), (69573, 69579), (69714, 69733), (70113, 70132),
   (71482, 71483), (71914, 71922), (72794, 72812), (73664, 73684), (93019, 93025), (93824, 93846),
   (119520, 119539), (119648, 119672), (125127, 125135), (126065, 126123), (126125, 126127),
   (126129, 126132), (126209, 126253), (126255, 126269), (127232, 127244)]⟩

/-- A letter or a digit of a name. -/
def isNameLetter (c : Char) : Bool :=
  c.isAlphanum || c = '_' ||
    (128 ≤ c.toNat && Text.isAlphanumeric c && !numerals.contains c)

/-- A character inside a name: a letter, a digit, or a mark on one. -/
def continuesName (c : Char) : Bool :=
  isNameLetter c || (768 ≤ c.toNat && Text.zeroWidth.contains c && Text.isPrintable c)

/-- A character that a name can start with. -/
def startsName (c : Char) : Bool :=
  isNameLetter c && (Text.decimalDigit? c).isNone

/-- Checks the characters of a name. -/
def checkName : List Char → Except Fault Unit
  | [] => .ok ()
  | c :: cs =>
    if !startsName c then .error (.strayCharacter c)
    else
      match cs.find? fun x => !continuesName x with
      | some x => .error (.strayCharacter x)
      | none => .ok ()

/-! ## Numbers -/

/-- Keywords that may follow a number directly, if they end there. -/
def joinable : List String := ["and", "else", "for", "or", "not"]

/-- Keywords that may follow a number directly, whatever comes after them. -/
def alwaysJoinable : List String := ["if", "in", "is"]

/-- Whether a text starts with a keyword that may follow a number directly. -/
def joins (cs : List Char) : Bool :=
  (alwaysJoinable.any fun w => w.toList.isPrefixOf cs) ||
    joinable.any fun w =>
      w.toList.isPrefixOf cs && !((cs.drop w.length).head?.map mayBeName).getD false

/-- Requires a number to end. -/
def checkEnd (n : Numeral) : List Char → Except Fault Unit
  | [] => .ok ()
  | c :: cs =>
    if joins (c :: cs) then .ok ()
    else if c.isAlphanum || c = '_' then .error (.badNumber n)
    else .ok ()

/-- Digits after a first one, with single underscores between them. -/
def decimalTail : List Char → Except Fault (List Char)
  | '_' :: d :: cs => if d.isDigit then decimalTail cs else .error (.badNumber .decimal)
  | ['_'] => .error (.badNumber .decimal)
  | c :: cs => if c.isDigit then decimalTail cs else .ok (c :: cs)
  | [] => .ok []

/-- A digit of a notation with a mark. -/
def isDigitOf : Numeral → Char → Bool
  | .hexadecimal, c => (Text.hexDigit? c).isSome
  | .octal, c => '0' ≤ c && c ≤ '7'
  | .binary, c => c = '0' || c = '1'
  | _, c => c.isDigit

/-- What is wrong where a digit of a notation is missing. -/
def missingDigit (n : Numeral) : List Char → Fault
  | c :: _ => if n ≠ .hexadecimal && c.isDigit then .badDigit c n else .badNumber n
  | [] => .badNumber n

/-- Digits of a notation with a mark; underscores stand between or before them. -/
def markedDigits (n : Numeral) : Nat → List Char → Except Fault (List Char)
  | 0, cs => .ok cs
  | fuel + 1, cs =>
    let cs := match cs with
      | '_' :: rest => rest
      | _ => cs
    match cs.takeWhile (isDigitOf n), cs.dropWhile (isDigitOf n) with
    | [], rest => .error (missingDigit n rest)
    | _, '_' :: rest => markedDigits n fuel ('_' :: rest)
    | _, c :: rest =>
      if n ≠ .hexadecimal && c.isDigit then .error (.badDigit c n)
      else (checkEnd n (c :: rest)).map fun _ => c :: rest
    | _, [] => .ok []

/-- The notation of a mark after a zero. -/
def numeralOf? (c : Char) : Option Numeral :=
  match c.toLower with
  | 'x' => some .hexadecimal
  | 'o' => some .octal
  | 'b' => some .binary
  | _ => none

/-- The end of a number: perhaps the mark of an imaginary one. -/
def numberEnd : List Char → Except Fault (Kind × List Char)
  | c :: cs =>
    if c = 'j' || c = 'J' then
      (checkEnd .imaginary cs).map fun _ => (.number true, cs)
    else (checkEnd .decimal (c :: cs)).map fun _ => (.number false, c :: cs)
  | [] => .ok (.number false, [])

/-- The power of ten of a number, if there is one, and the end of the number. -/
def powerPart : List Char → Except Fault (Kind × List Char)
  | e :: cs =>
    if e = 'e' || e = 'E' then
      match cs with
      | [] => (checkEnd .decimal (e :: cs)).map fun _ => (.number false, e :: cs)
      | c :: rest =>
        if c = '+' || c = '-' then
          match rest with
          | d :: rest =>
            if d.isDigit then do numberEnd (← decimalTail rest)
            else .error (.badNumber .decimal)
          | [] => .error (.badNumber .decimal)
        else if c.isDigit then do numberEnd (← decimalTail rest)
        else (checkEnd .decimal (e :: cs)).map fun _ => (.number false, e :: cs)
    else numberEnd (e :: cs)
  | [] => .ok (.number false, [])

/-- The digits behind a point, if there are any, and the rest of the number. -/
def fractionPart : List Char → Except Fault (Kind × List Char)
  | d :: cs =>
    if d.isDigit then do powerPart (← decimalTail cs) else powerPart (d :: cs)
  | [] => powerPart []

/-- Whether a number goes on behind its digits. -/
def goesOn : List Char → Bool
  | c :: _ => c = '.' || c = 'e' || c = 'E' || c = 'j' || c = 'J'
  | [] => false

/-- Reads a number that starts with a digit. -/
def number (cs : List Char) : Except Fault (Kind × List Char) := do
  match cs with
  | '0' :: mark :: rest =>
    match numeralOf? mark with
    | some n => return (.number false, ← markedDigits n (rest.length + 1) rest)
    | none => decimal cs
  | _ => decimal cs
where
  /-- Reads a number without a mark. -/
  decimal (cs : List Char) : Except Fault (Kind × List Char) := do
    let rest ← decimalTail (cs.drop 1)
    let digits := (cs.take (cs.length - rest.length)).filter Char.isDigit
    match rest with
    | '.' :: rest => fractionPart rest
    | _ =>
      if !goesOn rest && digits.head? = some '0' && digits.any (· ≠ '0') then
        throw .leadingZeros
      powerPart rest

/-! ## Quoted texts -/

/-- A quoted text up to its closing quote, what follows, and how many lines it ends. -/
def quotedBody (quote : Char) (triple : Bool) (line : Nat) :
    List Char → Except Fault (List Char × List Char × Nat)
  | [] => .error (.unterminated triple line)
  | '\\' :: c :: cs =>
    let line := if c = '\n' && !cs.isEmpty then line + 1 else line
    (quotedBody quote triple line cs).map fun r => ('\\' :: c :: r.1, r.2)
  | c :: cs =>
    if c = quote then
      if triple then
        match cs with
        | a :: b :: rest =>
          if a = quote && b = quote then .ok ([], rest, line)
          else (quotedBody quote triple line cs).map fun r => (c :: r.1, r.2)
        | _ => .error (.unterminated triple line)
      else .ok ([], cs, line)
    else if c = '\n' then
      if triple then
        (quotedBody quote triple (if cs.isEmpty then line else line + 1) cs).map fun r =>
          (c :: r.1, r.2)
      else .error (.unterminated triple line)
    else (quotedBody quote triple line cs).map fun r => (c :: r.1, r.2)

/-- How many hexadecimal digits an escape takes. -/
def escapeDigits? : Char → Option Nat
  | 'x' => some 2
  | 'u' => some 4
  | 'U' => some 8
  | _ => none

/-- The places that a character takes where escapes are counted. -/
def places (c : Char) : Nat :=
  if c.toNat < 128 then 1 else 10

/-- Checks the escapes of a text from a place on. -/
def checkEscapes : Nat → List Char → Option Fault
  | place, '\\' :: e :: cs =>
    match escapeDigits? e with
    | some count =>
      let ds := (cs.take count).takeWhile fun d => (Text.hexDigit? d).isSome
      if ds.length < count then
        some (.badEscape place (place + 1 + ds.length) (.truncated e count))
      else if 0x10FFFF < (Text.hexValue? ds).getD 0 then
        some (.badEscape place (place + 1 + count) .beyond)
      else checkEscapes (place + 2) cs
    | none =>
      if e = 'N' then
        match cs with
        | '\x7b' :: rest =>
          let name := rest.takeWhile (· ≠ '\x7d')
          if name.isEmpty || name.length = rest.length then
            some (.badEscape place (place + 2 + name.length) .unnamed)
          else checkEscapes (place + 2) cs
        | _ => some (.badEscape place (place + 1) .unnamed)
      else checkEscapes (place + 1 + places e) cs
  | place, c :: cs => checkEscapes (place + places c) cs
  | _, [] => none

/-- Checks the escapes of a text of bytes from a place on. -/
def checkByteEscapes : Nat → List Char → Option Fault
  | place, '\\' :: e :: cs =>
    if e = 'x' && ((cs.take 2).takeWhile fun d => (Text.hexDigit? d).isSome).length < 2 then
      some (.badByteEscape place)
    else checkByteEscapes (place + 2) cs
  | place, _ :: cs => checkByteEscapes (place + 1) cs
  | _, [] => none

/-- What is wrong inside a quoted text whose quotes have letters in front. -/
def bodyFault (letters body : List Char) : Option Fault :=
  if letters.contains 'b' then
    if body.any fun c => 128 ≤ c.toNat then some .nonAsciiBytes
    else if letters.contains 'r' then none
    else checkByteEscapes 0 body
  else if letters.contains 'r' || letters.contains 'f' then none
  else checkEscapes 0 body

/-- The letters that can stand in front of a quoted text. -/
def quoteLetters : List String := ["", "b", "u", "r", "f", "br", "rb", "fr", "rf"]

/-- Reads a quoted text that starts with a quote. -/
def quoted (letters : List Char) (line : Nat) (cs : List Char) :
    Except Fault (Kind × List Char × Nat) := do
  let finish (r : List Char × List Char × Nat) : Kind × List Char × Nat :=
    (.text (letters.contains 'b') (letters.contains 'f') (bodyFault letters r.1), r.2)
  match cs with
  | [] => throw (.unterminated false line)
  | q :: rest =>
    match rest with
    | a :: b :: more =>
      if a = q && b = q then return finish (← quotedBody q true line more)
      else return finish (← quotedBody q false line rest)
    | _ => return finish (← quotedBody q false line rest)

/-! ## Operators -/

/-- Operators of several characters, the longer ones first. -/
def longOperators : List String :=
  ["**=", "//=", ">>=", "<<=", "...", "==", "!=", "<>", "<=", ">=", "->", ":=", "+=", "-=",
   "*=", "/=", "%=", "&=", "|=", "^=", "@=", "//", "<<", ">>", "**"]

/-- The operator at the start of a text. -/
def operator (cs : List Char) : List Char :=
  match longOperators.find? fun o => o.toList.isPrefixOf cs with
  | some o => o.toList
  | none => cs.take 1

/-- The bracket that closes an opening one. -/
def closing? : Char → Option Char
  | '(' => some ')'
  | '[' => some ']'
  | '\x7b' => some '\x7d'
  | _ => none

/-- A closing bracket. -/
def isClosing (c : Char) : Bool :=
  c = ')' || c = ']' || c = '\x7d'

/-- How deep brackets can stand in one another. -/
def bracketLimit : Nat := 200

/-- The brackets that are open, innermost first, each with its line. -/
abbrev Brackets := List (Char × Nat)

/-- The open brackets behind an operator of one character. -/
def Brackets.after (opened : Brackets) (line : Nat) (c : Char) : Except Fault Brackets :=
  if (closing? c).isSome then
    if bracketLimit ≤ opened.length then .error .tooNested else .ok ((c, line) :: opened)
  else if isClosing c then
    match opened with
    | [] => .error (.unmatched c)
    | (o, l) :: rest =>
      if closing? o = some c then .ok rest
      else .error (.mismatched c o (if l = line then none else some l))
  else .ok opened

/-! ## Texts -/

/-- A character between words. -/
def isGap (c : Char) : Bool :=
  c = ' ' || c = '\t' || c = '\x0c'

/-- Where reading stands: the open brackets, the line, and whether it holds a word yet. -/
structure Cursor where
  brackets : Brackets := []
  line : Nat := 1
  fresh : Bool := true

/-- The words at the end of a text. -/
def Cursor.finish (s : Cursor) : List Token :=
  match s.brackets with
  | (o, _) :: rest => [⟨.stop (.unclosed o), rest.length + 1⟩]
  | [] => if s.fresh then [⟨.finish, 0⟩] else [⟨.newline, 0⟩, ⟨.finish, 0⟩]

/-- The indentation of a line that follows a finished one. -/
def indentation (cs : List Char) : List Token :=
  match cs.takeWhile isGap, cs.dropWhile isGap with
  | [], _ => []
  | _, c :: _ => if c = '\n' || c = '#' then [] else [⟨.indent, 0⟩]
  | _, [] => []

/-- Reads one word, and where reading stands behind it. -/
def word (s : Cursor) (cs : List Char) : Except Fault (Token × Cursor × List Char) := do
  let level := s.brackets.length
  let name := cs.takeWhile mayBeName
  let afterName := cs.dropWhile mayBeName
  let letters := name.map Char.toLower
  match cs with
  | [] => return (⟨.finish, level⟩, s, [])
  | c :: rest =>
    if quoteLetters.contains (String.ofList letters) &&
        (afterName.head? = some '"' || afterName.head? = some '\'') then
      let (kind, rest, line) ← quoted letters s.line afterName
      return (⟨kind, level⟩, { s with line := line, fresh := false }, rest)
    else if c.isDigit then
      let (kind, rest) ← number cs
      return (⟨kind, level⟩, { s with fresh := false }, rest)
    else if mayBeName c then
      checkName name
      return (⟨.name (String.ofList name), level⟩, { s with fresh := false }, afterName)
    else if c = '.' && (rest.head?.map Char.isDigit).getD false then
      let (kind, rest) ← fractionPart rest
      return (⟨kind, level⟩, { s with fresh := false }, rest)
    else if c.toNat < 32 || c.toNat = 127 then throw (.strayCharacter c)
    else
      let o := operator cs
      let brackets ← s.brackets.after s.line c
      return (⟨.operator (String.ofList o), brackets.length⟩,
        { s with brackets := brackets, fresh := false }, cs.drop o.length)

/-- Reads the words of a text. -/
def scan : Nat → Cursor → List Char → Except Fault (List Token)
  | 0, s, _ => .ok s.finish
  | _ + 1, s, [] => .ok s.finish
  | n + 1, s, c :: cs =>
    if isGap c then scan n s cs
    else if c = '#' then scan n s (cs.dropWhile (· ≠ '\n'))
    else if c = '\n' then
      let next := { s with line := s.line + 1 }
      if !s.brackets.isEmpty then scan n next cs
      else do
        let rest ← scan n { next with fresh := true } cs
        let start := indentation cs ++ rest
        return if s.fresh then start else ⟨.newline, 0⟩ :: start
    else if c = '\\' then
      match cs with
      | '\n' :: [] => .ok [⟨.stop .unexpectedEnd, s.brackets.length⟩]
      | '\n' :: cs => scan n { s with line := s.line + 1 } cs
      | _ => .ok [⟨.stop .afterBackslash, s.brackets.length⟩]
    else do
      let (token, next, rest) ← word s (c :: cs)
      return token :: (← scan n next rest)

/-- The words of a text. -/
def tokens (cs : List Char) : Except Fault (List Token) :=
  if cs.contains '\x00' then .error .holdsNul
  else
    let text := Text.foldNewlines cs
    scan (text.length + 1) {} text

end StructScan.Console.Literal
