import StructScan.Text.Binary64
import StructScan.Text.Number
import StructScan.Text.Quoted
import StructScan.Toml.Error

/-!
# Values of a configuration document

The values that a TOML document can hold, and the text by which a message shows
a value that does not belong where it stands.
-/

namespace StructScan.Toml

/-- A calendar date. -/
structure Date where
  year : Nat
  month : Nat
  day : Nat
  deriving DecidableEq, Repr

/-- A time of day. -/
structure Time where
  hour : Nat
  minute : Nat
  second : Nat
  microsecond : Nat
  deriving DecidableEq, Repr

/-- A value.  The entries of a table keep the order in which they were made. -/
inductive Value where
  | string (s : String)
  | integer (n : Int)
  | float (x : Text.Binary64)
  | boolean (b : Bool)
  | date (d : Date)
  | time (t : Time)
  /-- A date and a time, and how many minutes they are ahead of universal time, if that is known. -/
  | dateTime (d : Date) (t : Time) (offset : Option Int)
  | array (items : List Value)
  | table (entries : List (String × Value))
  deriving Repr

/-- The entries of a table. -/
abbrev Table := List (String × Value)

/-! ## Dates and times -/

/-- Whether a year has a 29th of February. -/
def isLeap (year : Nat) : Bool :=
  year % 4 = 0 && (year % 100 ≠ 0 || year % 400 = 0)

/-- The number of days of a month. -/
def daysIn (year month : Nat) : Nat :=
  if month = 2 then (if isLeap year then 29 else 28)
  else if month = 4 || month = 6 || month = 9 || month = 11 then 30
  else 31

/-- Whether a date is in the calendar, which starts with the year 1. -/
def Date.isValid (d : Date) : Bool :=
  1 ≤ d.year && 1 ≤ d.month && d.month ≤ 12 && 1 ≤ d.day && d.day ≤ daysIn d.year d.month

/-- The parts of a date. -/
def Date.parts (d : Date) : List Nat :=
  [d.year, d.month, d.day]

/-- The parts of a time, without the seconds and their fraction if those are zero. -/
def Time.parts (t : Time) : List Nat :=
  if t.microsecond ≠ 0 then [t.hour, t.minute, t.second, t.microsecond]
  else if t.second ≠ 0 then [t.hour, t.minute, t.second]
  else [t.hour, t.minute]

/-- An offset from universal time, given in whole days and the seconds left over. -/
def offsetText (minutes : Int) : String :=
  let seconds := 60 * minutes
  let days := seconds.fdiv 86400
  let rest := seconds.fmod 86400
  if minutes = 0 then "datetime.timezone.utc"
  else if days = 0 then s!"datetime.timezone(datetime.timedelta(seconds={rest}))"
  else s!"datetime.timezone(datetime.timedelta(days={days}, seconds={rest}))"

/-- Why a value cannot be shown. -/
inductive ShowError where
  /-- An integer has too many digits. -/
  | number (e : Text.NumberError)
  /-- Values stand too deep in one another. -/
  | tooDeep
  deriving DecidableEq, Repr

/-- The reason in words. -/
def ShowError.message : ShowError → String
  | number e => e.message
  | tooDeep => Overflow.showing.message

/--
How deep values may stand in one another to be shown.  It is a value of the environment: the room
that its limit on nested calls leaves when an error is put into words.
-/
def showLimit : Nat := 991

/-- Numbers separated by commas. -/
def commaText (ns : List Nat) : String :=
  ", ".intercalate (ns.map fun n => String.ofList (Nat.toDigits 10 n))

/-! ## Values -/

mutual

/-- A value as a message shows it, where values may go on standing in one another `room` times. -/
def Value.textWithin (room : Nat) (v : Value) : Except ShowError String :=
  if room = 0 then .error .tooDeep
  else
    match v with
    | .string s => .ok (Text.quote s)
    | .integer n => (Text.showInteger n).mapError .number
    | .float x => .ok x.text
    | .boolean true => .ok "True"
    | .boolean false => .ok "False"
    | .date d => .ok s!"datetime.date({commaText d.parts})"
    | .time t => .ok s!"datetime.time({commaText t.parts})"
    | .dateTime d t none => .ok s!"datetime.datetime({commaText (d.parts ++ t.parts)})"
    | .dateTime d t (some offset) =>
      .ok s!"datetime.datetime({commaText (d.parts ++ t.parts)}, tzinfo={offsetText offset})"
    | .array items => do
      return "[" ++ ", ".intercalate (← itemTexts (room - 1) items) ++ "]"
    | .table entries => do
      return "\x7b" ++ ", ".intercalate (← entryTexts (room - 1) entries) ++ "\x7d"

/-- The items of an array. -/
def itemTexts (room : Nat) : List Value → Except ShowError (List String)
  | [] => .ok []
  | v :: vs => do
    let text ← v.textWithin room
    return text :: (← itemTexts room vs)

/-- The entries of a table. -/
def entryTexts (room : Nat) : List (String × Value) → Except ShowError (List String)
  | [] => .ok []
  | (k, v) :: rest => do
    let text ← v.textWithin room
    return (Text.quote k ++ ": " ++ text) :: (← entryTexts room rest)

end

/-- A value as a message shows it. -/
def Value.text (v : Value) : Except ShowError String :=
  v.textWithin showLimit

end StructScan.Toml
