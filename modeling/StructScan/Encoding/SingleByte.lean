import StructScan.Encoding.Utf8

/-!
# Encodings of one byte per character

Three encodings in which every character is one byte.  They agree on ASCII and
differ in what the upper half means.

Main results:

- Theorem `SingleByte.char?_ascii`: all of them agree on ASCII.
-/

namespace StructScan.Encoding

/-- An encoding of one byte per character. -/
inductive SingleByte where
  | ascii
  | latin1
  | windows1252
  deriving DecidableEq, Repr

namespace SingleByte

/-- The characters of the bytes from 128 to 159 in Windows-1252; five bytes have none. -/
def windowsBlock : List (Option Nat) :=
  [some 8364, none, some 8218, some 402, some 8222, some 8230, some 8224, some 8225,
   some 710, some 8240, some 352, some 8249, some 338, none, some 381, none,
   none, some 8216, some 8217, some 8220, some 8221, some 8226, some 8211, some 8212,
   some 732, some 8482, some 353, some 8250, some 339, none, some 382, some 376]

/-- The character of a byte, if it has one. -/
def char? (e : SingleByte) (b : UInt8) : Option Char :=
  if b < 0x80 then some (Char.ofNat b.toNat)
  else
    match e with
    | ascii => none
    | latin1 => some (Char.ofNat b.toNat)
    | windows1252 =>
      match windowsBlock[b.toNat - 0x80]? with
      | some code => code.map Char.ofNat
      | none => some (Char.ofNat b.toNat)

/-- The encodings agree on ASCII. -/
theorem char?_ascii (e : SingleByte) {b : UInt8} (h : b < 0x80) :
    e.char? b = some (Char.ofNat b.toNat) := by
  simp [char?, h]

/-- Every byte. -/
def allBytes : List UInt8 :=
  (List.range 256).map UInt8.ofNat

/-- The byte of a character, if it has one. -/
def byte? (e : SingleByte) (c : Char) : Option UInt8 :=
  if c.toNat < 0x80 then some (UInt8.ofNat c.toNat)
  else allBytes.find? fun b => e.char? b == some c

/-- Decodes bytes, with a replacement character for every byte that has none. -/
def decodeLenient (e : SingleByte) (bytes : List UInt8) : List Char :=
  bytes.map fun b => (e.char? b).getD replacement

/-- Encodes a text, unless one of its characters has no byte. -/
def encode? (e : SingleByte) (cs : List Char) : Option (List UInt8) :=
  cs.mapM e.byte?

end SingleByte

end StructScan.Encoding
