/-!
# Numbers of double precision

A finite number of double precision is a whole number below 2^53 times a power
of two.  A decimal number is read as the nearest such number, the even one in a
tie, and a number is written with the fewest digits that read back as it.

Everything is computed in whole numbers, so that nothing is rounded twice.
-/

namespace StructScan.Text

/-- A number of double precision. -/
inductive Binary64 where
  /-- The number `mantissa * 2 ^ exponent`, or its negative. -/
  | finite (negative : Bool) (mantissa : Nat) (exponent : Int)
  | infinite (negative : Bool)
  | nan
  deriving DecidableEq, Repr

namespace Binary64

/-! ## Fractions -/

/-- A fraction of whole numbers times a power of the base. -/
def scale (base num den : Nat) (e : Int) : Nat × Nat :=
  if 0 ≤ e then (num * Nat.pow base e.toNat, den) else (num, den * Nat.pow base (-e).toNat)

/-- The nearest whole number to a fraction, the even one in a tie. -/
def roundHalfEven (num den : Nat) : Nat :=
  let q := num / den
  let r := num % den
  if 2 * r < den then q
  else if den < 2 * r then q + 1
  else if q % 2 = 0 then q else q + 1

/-! ## Reading -/

/-- The least mantissa of a number that is not near zero, 2^52. -/
def leastMantissa : Nat := 0x10000000000000

/-- What every mantissa is below, 2^53. -/
def mantissaBound : Nat := 0x20000000000000

/-- The least exponent of a number. -/
def leastExponent : Int := -1074

/-- The greatest exponent of a number. -/
def greatestExponent : Int := 971

/--
The exponent at which a positive fraction has 53 binary digits before the point,
or the least one.
-/
def exponentFor (num den : Nat) : Int :=
  let guess : Int := (num.log2 : Int) - (den.log2 : Int) - 52
  let x := scale 2 num den (-guess)
  let exact :=
    if x.1 < leastMantissa * x.2 then guess - 1
    else if mantissaBound * x.2 ≤ x.1 then guess + 1
    else guess
  max exact leastExponent

/-- The nearest number to a fraction. -/
def nearest (negative : Bool) (num den : Nat) : Binary64 :=
  if num = 0 then .finite negative 0 leastExponent
  else
    let e := exponentFor num den
    let x := scale 2 num den (-e)
    let m := roundHalfEven x.1 x.2
    let (m, e) := if m = mantissaBound then (leastMantissa, e + 1) else (m, e)
    if greatestExponent < e then .infinite negative else .finite negative m e

/--
The nearest number to a decimal one.  A power of ten that is out of all bounds is
not computed.
-/
def ofDecimal (negative : Bool) (digits : Nat) (exponent : Int) : Binary64 :=
  let size : Int := (Nat.toDigits 10 digits).length
  if digits = 0 || exponent + size < -400 then .finite negative 0 leastExponent
  else if 400 < exponent + size then .infinite negative
  else
    let x := scale 10 digits 1 exponent
    nearest negative x.1 x.2

/-! ## Writing -/

/--
The place of the first decimal digit of a positive fraction, counted from the one
before the point.
-/
def magnitude (num den : Nat) : Int :=
  if den ≤ num then ((Nat.toDigits 10 (num / den)).length : Int) - 1
  else -((Nat.toDigits 10 ((den + num - 1) / num - 1)).length : Int)

/-- A range of numbers around one of them, over a common denominator. -/
structure Interval where
  low : Nat
  value : Nat
  high : Nat
  den : Nat
  closed : Bool

/-- The real numbers that are read as a given positive number. -/
def interval (m : Nat) (e : Int) : Interval :=
  let unit := scale 2 1 1 (e - 2)
  let below := if m = leastMantissa && leastExponent < e then 1 else 2
  { low := (4 * m - below) * unit.1
    value := 4 * m * unit.1
    high := (4 * m + 2) * unit.1
    den := unit.2
    closed := m % 2 = 0 }

/-- Whether the multiple `k` of a power of ten lies in a range. -/
def Interval.holds (i : Interval) (k : Nat) (p : Int) : Bool :=
  let x := scale 10 k 1 p
  let here := x.1 * i.den
  if i.closed then i.low * x.2 ≤ here && here ≤ i.high * x.2
  else i.low * x.2 < here && here < i.high * x.2

/-- The multiple of a power of ten in a range that is nearest to its value. -/
def Interval.pick? (i : Interval) (p : Int) : Option Nat :=
  let x := scale 10 i.value i.den (-p)
  let below := x.1 / x.2
  match i.holds below p, i.holds (below + 1) p with
  | true, true => some (roundHalfEven x.1 x.2)
  | true, false => some below
  | false, true => some (below + 1)
  | false, false => none

/-- The first power of ten, going down, that has a multiple in a range. -/
def Interval.shortest (i : Interval) : Nat → Int → Nat × Int
  | 0, p => (i.value, p)
  | n + 1, p =>
    match i.pick? p with
    | some k => (k, p)
    | none => i.shortest n (p - 1)

/-- Takes trailing zeros off a number and counts them into its exponent. -/
def stripZeros : Nat → Nat → Int → Nat × Int
  | 0, k, p => (k, p)
  | n + 1, k, p => if k % 10 = 0 then stripZeros n (k / 10) (p + 1) else (k, p)

/-- The shortest decimal digits of a positive number, and the exponent of the last one. -/
def decimal (m : Nat) (e : Int) : List Char × Int :=
  let i := interval m e
  let (k, p) := i.shortest 18 (magnitude i.value i.den)
  let (k, p) := stripZeros 20 k p
  (Nat.toDigits 10 k, p)

/-- Digits with a point among them, or with an exponent if the point would be far from them. -/
def layOut (digits : List Char) (p : Int) : List Char :=
  let point : Int := digits.length + p
  if point ≤ -4 || 16 < point then
    let e := point - 1
    let power := Nat.toDigits 10 e.natAbs
    let head := match digits with
      | [] => []
      | [d] => [d]
      | d :: ds => d :: '.' :: ds
    head ++ ['e', if e < 0 then '-' else '+'] ++ List.replicate (2 - power.length) '0' ++ power
  else if point ≤ 0 then '0' :: '.' :: List.replicate (-point).toNat '0' ++ digits
  else if digits.length ≤ point.toNat then
    digits ++ List.replicate (point.toNat - digits.length) '0' ++ ['.', '0']
  else digits.take point.toNat ++ '.' :: digits.drop point.toNat

/-- A number with the fewest digits that read back as it. -/
def text : Binary64 → String
  | nan => "nan"
  | infinite false => "inf"
  | infinite true => "-inf"
  | finite negative m e =>
    let body := if m = 0 then ['0', '.', '0'] else
      let (digits, p) := decimal m e
      layOut digits p
    String.ofList (if negative then '-' :: body else body)

end Binary64

end StructScan.Text
