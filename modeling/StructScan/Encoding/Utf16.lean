import StructScan.Encoding.Utf8

/-!
# UTF-16

Bytes in pairs, in either order.  A character above the first plane is a high
and a low surrogate.  A surrogate without its partner and a single last byte
are replaced when decoding.
-/

namespace StructScan.Encoding.Utf16

/-- The order of the two bytes of a unit. -/
inductive Order where
  | little
  | big
  deriving DecidableEq, Repr

/-- The unit of two bytes. -/
def Order.unit (o : Order) (a b : UInt8) : Nat :=
  match o with
  | little => a.toNat + 256 * b.toNat
  | big => 256 * a.toNat + b.toNat

/-- The two bytes of a unit. -/
def Order.bytes (o : Order) (unit : Nat) : List UInt8 :=
  let low := UInt8.ofNat (unit % 256)
  let high := UInt8.ofNat (unit / 256 % 256)
  match o with
  | little => [low, high]
  | big => [high, low]

/-- Whether a unit opens a pair of surrogates. -/
def isHigh (unit : Nat) : Bool :=
  0xD800 ≤ unit && unit < 0xDC00

/-- Whether a unit completes a pair of surrogates. -/
def isLow (unit : Nat) : Bool :=
  0xDC00 ≤ unit && unit < 0xE000

/-- Decodes bytes, with a replacement character for everything that is no character. -/
def decodeLenient (o : Order) : List UInt8 → List Char
  | [] => []
  | [_] => [replacement]
  | a :: b :: rest =>
    let unit := o.unit a b
    if isLow unit then replacement :: decodeLenient o rest
    else if isHigh unit then
      match rest with
      | c :: d :: rest' =>
        let low := o.unit c d
        if isLow low then
          Char.ofNat (0x10000 + (unit - 0xD800) * 0x400 + (low - 0xDC00)) :: decodeLenient o rest'
        else replacement :: decodeLenient o (c :: d :: rest')
      | _ => [replacement]
    else Char.ofNat unit :: decodeLenient o rest

/-- The units of a character. -/
def units (c : Char) : List Nat :=
  let n := c.toNat
  if n < 0x10000 then [n]
  else [0xD800 + (n - 0x10000) / 0x400, 0xDC00 + (n - 0x10000) % 0x400]

/-- Encodes a text without a byte order mark. -/
def encode (o : Order) (cs : List Char) : List UInt8 :=
  cs.flatMap fun c => (units c).flatMap o.bytes

/-- The byte order mark. -/
def mark (o : Order) : List UInt8 :=
  o.bytes 0xFEFF

end StructScan.Encoding.Utf16
