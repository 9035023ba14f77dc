import StructScan.Text.CharSet

/-!
# Whole numbers in decimal digits

Whole numbers are read from the decimal digits of any script.  Neither reading
nor showing takes a number of more than 4300 digits, since the work grows with
the square of their count.
-/

namespace StructScan.Text

/-- The decimal digits of all scripts; each range holds the digits from zero to nine in order. -/
def decimalDigits : CharSet := ⟨
  [(48, 57), (1632, 1641), (1776, 1785), (1984, 1993), (2406, 2415), (2534, 2543), (2662, 2671),
   (2790, 2799), (2918, 2927), (3046, 3055), (3174, 3183), (3302, 3311), (3430, 3439),
   (3558, 3567), (3664, 3673), (3792, 3801), (3872, 3881), (4160, 4169), (4240, 4249),
   (6112, 6121), (6160, 6169), (6470, 6479), (6608, 6617), (6784, 6793), (6800, 6809),
   (6992, 7001), (7088, 7097), (7232, 7241), (7248, 7257), (42528, 42537), (43216, 43225),
   (43264, 43273), (43472, 43481), (43504, 43513), (43600, 43609), (44016, 44025), (65296, 65305),
   (66720, 66729), (68912, 68921), (69734, 69743), (69872, 69881), (69942, 69951), (70096, 70105),
   (70384, 70393), (70736, 70745), (70864, 70873), (71248, 71257), (71360, 71369), (71472, 71481),
   (71904, 71913), (72016, 72025), (72784, 72793), (73040, 73049), (73120, 73129), (92768, 92777),
   (92864, 92873), (93008, 93017), (120782, 120831), (123200, 123209), (123632, 123641),
   (125264, 125273), (130032, 130041)]⟩

/-- The value of a decimal digit of any script. -/
def decimalDigit? (c : Char) : Option Nat :=
  (decimalDigits.ranges.find? fun r => r.1 ≤ c.toNat && c.toNat ≤ r.2).map fun r =>
    (c.toNat - r.1) % 10

/-- The most digits that a number may have to be read or shown, as the environment is set up. -/
def digitLimit : Nat := 4300

/-- Why a number cannot be read or shown. -/
inductive NumberError where
  /-- There is no digit to read. -/
  | noDigits
  /-- A text has too many digits to be read. -/
  | tooLong (digits : Nat)
  /-- A number has too many digits to be shown. -/
  | tooLarge
  deriving DecidableEq, Repr

/-- The error in words. -/
def NumberError.message : NumberError → String
  | noDigits => "invalid literal for int() with base 10: ''"
  | tooLong digits =>
    s!"Exceeds the limit ({digitLimit} digits) for integer string conversion: value has " ++
      s!"{digits} digits; use sys.set_int_max_str_digits() to increase the limit"
  | tooLarge =>
    s!"Exceeds the limit ({digitLimit} digits) for integer string conversion; " ++
      "use sys.set_int_max_str_digits() to increase the limit"

/-- The number that decimal digits stand for; other characters are not counted. -/
def decimal (cs : List Char) : Except NumberError Nat :=
  match cs.filterMap decimalDigit? with
  | [] => .error .noDigits
  | ds => if digitLimit < ds.length then .error (.tooLong ds.length)
    else .ok (ds.foldl (fun n d => n * 10 + d) 0)

/-- The least natural number that has too many digits to be shown. -/
def showBound : Nat := Nat.pow 10 digitLimit

/-- The decimal digits of an integer. -/
def showInteger (n : Int) : Except NumberError String :=
  if showBound ≤ n.natAbs then .error .tooLarge else .ok (toString n)

end StructScan.Text
