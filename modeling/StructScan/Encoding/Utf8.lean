/-!
# UTF-8

Bytes are cut into pieces: a character, or the longest run of bytes that begins
a character and then breaks off.  Strict decoding refuses the first broken
piece; lenient decoding puts a replacement character for each.
-/

namespace StructScan.Encoding

/-- The character that stands for bytes that cannot be decoded. -/
def replacement : Char := '\uFFFD'

namespace Utf8

/-- Why bytes break off. -/
inductive Flaw where
  | invalidStart
  | invalidContinuation
  | unexpectedEnd
  deriving DecidableEq, Repr

/-- The flaw in words. -/
def Flaw.text : Flaw → String
  | invalidStart => "invalid start byte"
  | invalidContinuation => "invalid continuation byte"
  | unexpectedEnd => "unexpected end of data"

/-- What stands at the front of some bytes: a character or a flaw. -/
abbrev Front := Except Flaw Char

/-- A byte that goes on with a character. -/
def isContinuation (b : UInt8) : Bool :=
  0x80 ≤ b && b < 0xC0

/-- The range of the second byte after a first one; it excludes overlong forms and surrogates. -/
def secondRange (first : UInt8) : UInt8 × UInt8 :=
  if first = 0xE0 then (0xA0, 0xBF)
  else if first = 0xED then (0x80, 0x9F)
  else if first = 0xF0 then (0x90, 0xBF)
  else if first = 0xF4 then (0x80, 0x8F)
  else (0x80, 0xBF)

/-- The number of bytes of a character by its first byte. -/
def lengthOf (first : UInt8) : Option Nat :=
  if first < 0x80 then some 1
  else if first < 0xC2 then none
  else if first < 0xE0 then some 2
  else if first < 0xF0 then some 3
  else if first < 0xF5 then some 4
  else none

/-- The bytes after a first one that go on with its character, at most `want` of them. -/
def continuations (first : UInt8) (want : Nat) (rest : List UInt8) : List UInt8 :=
  match rest with
  | [] => []
  | second :: more =>
    let range := secondRange first
    if want = 0 || second < range.1 || range.2 < second then []
    else second :: (more.take (want - 1)).takeWhile isContinuation

/-- The code point of a character of `size` bytes. -/
def codePoint (size : Nat) (first : UInt8) (tail : List UInt8) : Nat :=
  let lead := first.toNat % (if size = 1 then 0x80 else 0x80 >>> size)
  tail.foldl (fun n b => n * 64 + b.toNat % 64) lead

/-- What stands at the front of the bytes that start with `first`, and how many bytes it takes. -/
def front (first : UInt8) (rest : List UInt8) : Front × Nat :=
  match lengthOf first with
  | none => (.error .invalidStart, 1)
  | some size =>
    let tail := continuations first (size - 1) rest
    let used := 1 + tail.length
    if tail.length = size - 1 then (.ok (Char.ofNat (codePoint size first tail)), used)
    else if tail.length = rest.length then (.error .unexpectedEnd, used)
    else (.error .invalidContinuation, used)

/-- One piece of some bytes, and the bytes that it takes. -/
structure Piece where
  front : Front
  bytes : List UInt8
  deriving Repr

/-- Cuts bytes into characters and flaws. -/
def pieces : List UInt8 → List Piece
  | [] => []
  | first :: rest =>
    let found := front first rest
    ⟨found.1, (first :: rest).take found.2⟩ :: pieces (rest.drop (found.2 - 1))
termination_by bytes => bytes.length
decreasing_by
  rw [List.length_drop, List.length_cons]
  omega

/-- Decodes bytes, with a replacement character for every flaw. -/
def decodeLenient (bytes : List UInt8) : List Char :=
  (pieces bytes).map fun p => p.front.toOption.getD replacement

/-- Where and why strict decoding stopped. -/
structure DecodeError where
  position : Nat
  bytes : List UInt8
  flaw : Flaw
  deriving Repr

/-- Decodes pieces that start at a position, up to the first flaw. -/
def decodePieces (position : Nat) : List Piece → Except DecodeError (List Char)
  | [] => .ok []
  | p :: ps =>
    match p.front with
    | .error flaw => .error ⟨position, p.bytes, flaw⟩
    | .ok c => (c :: ·) <$> decodePieces (position + p.bytes.length) ps

/-- Decodes bytes that must be valid throughout. -/
def decode (bytes : List UInt8) : Except DecodeError (List Char) :=
  decodePieces 0 (pieces bytes)

/-- Encodes a text. -/
def encode (cs : List Char) : List UInt8 :=
  cs.flatMap String.utf8EncodeChar

/-- The byte order mark. -/
def mark : List UInt8 := [0xEF, 0xBB, 0xBF]

end Utf8

end StructScan.Encoding
