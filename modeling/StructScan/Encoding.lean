import StructScan.Encoding.SingleByte
import StructScan.Encoding.Utf16

/-!
# Text encodings

The encodings that a source can be read in and a text be written in, and the
names that they go by.  A name is looked up without regard to case, and any run
of other characters than letters, digits and dots separates its parts.

Main results:

- Theorem `Encoding.ofName_name`: every encoding is found under its own name.
-/

namespace StructScan

/-- A text encoding. -/
inductive Encoding where
  | utf8
  /-- UTF-8 that starts with a byte order mark. -/
  | utf8Marked
  | single (e : Encoding.SingleByte)
  /-- UTF-16 in the order that a byte order mark tells. -/
  | utf16Marked
  | utf16 (order : Encoding.Utf16.Order)
  deriving DecidableEq, Repr

namespace Encoding

/-! ## Decoding and encoding -/

/-- Decodes bytes with replacement characters; fails only where a byte order mark is missing. -/
def decodeLenient (e : Encoding) (bytes : List UInt8) : Option (List Char) :=
  match e with
  | utf8 => some (Utf8.decodeLenient bytes)
  | utf8Marked =>
    if Utf8.mark.isPrefixOf bytes then some (Utf8.decodeLenient (bytes.drop 3))
    else if bytes.isPrefixOf Utf8.mark then some []
    else some (Utf8.decodeLenient bytes)
  | single s => some (s.decodeLenient bytes)
  | utf16Marked =>
    match bytes with
    | [] => some []
    | [_] => some [replacement]
    | a :: b :: rest =>
      if [a, b] = Utf16.mark .little then some (Utf16.decodeLenient .little rest)
      else if [a, b] = Utf16.mark .big then some (Utf16.decodeLenient .big rest)
      else none
  | utf16 order => some (Utf16.decodeLenient order bytes)

/-- Encodes a text, unless one of its characters is not in the encoding. -/
def encode? (e : Encoding) (cs : List Char) : Option (List UInt8) :=
  match e with
  | utf8 => some (Utf8.encode cs)
  | utf8Marked => some (Utf8.mark ++ Utf8.encode cs)
  | single s => s.encode? cs
  | utf16Marked => some (Utf16.mark .little ++ Utf16.encode .little cs)
  | utf16 order => some (Utf16.encode order cs)

/-! ## Names -/

/-- What a known name stands for. -/
inductive Codec where
  | text (e : Encoding)
  /-- A transformation of bytes, in which no text can be read or written. -/
  | binary
  deriving DecidableEq, Repr

/--
A name in lower case with single underscores between its parts.  The flags say
whether a separator was seen and whether a part came before it.
-/
def foldName (pending : Bool) (started : Bool) : List Char → List Char
  | [] => []
  | c :: cs =>
    if c.isAlphanum || c = '.' then
      if pending && started then '_' :: c.toLower :: foldName false true cs
      else c.toLower :: foldName false true cs
    else foldName true started cs

/-- A codec with its own name and the other names that it goes by. -/
structure Entry where
  codec : Codec
  own : String
  aliases : List String

/--
The codecs of the model: eight text encodings and seven codecs that are none.  The environment knows
more of them; a name of one that is not in the table is looked up as unknown here.
-/
def table : List Entry :=
  [⟨.text .utf8, "utf_8", ["u8", "utf", "utf8", "utf8_ucs2", "utf8_ucs4", "cp65001"]⟩,
   ⟨.text .utf8Marked, "utf_8_sig", []⟩,
   ⟨.text (.single .latin1), "latin_1",
     ["8859", "cp819", "csisolatin1", "ibm819", "iso8859", "iso8859_1", "iso_8859_1",
      "iso_8859_1_1987", "iso_ir_100", "l1", "latin", "latin1"]⟩,
   ⟨.text (.single .ascii), "ascii",
     ["646", "ansi_x3.4_1968", "ansi_x3_4_1968", "ansi_x3.4_1986", "cp367", "csascii", "ibm367",
      "iso646_us", "iso_646.irv_1991", "iso_ir_6", "us", "us_ascii"]⟩,
   ⟨.text (.single .windows1252), "cp1252", ["1252", "windows_1252"]⟩,
   ⟨.text .utf16Marked, "utf_16", ["u16", "utf16"]⟩,
   ⟨.text (.utf16 .little), "utf_16_le", ["unicodelittleunmarked", "utf_16le"]⟩,
   ⟨.text (.utf16 .big), "utf_16_be", ["unicodebigunmarked", "utf_16be"]⟩,
   ⟨.binary, "hex_codec", ["hex"]⟩,
   ⟨.binary, "base64_codec", ["base64", "base_64"]⟩,
   ⟨.binary, "bz2_codec", ["bz2"]⟩,
   ⟨.binary, "quopri_codec", ["quopri", "quoted_printable", "quotedprintable"]⟩,
   ⟨.binary, "rot_13", ["rot13"]⟩,
   ⟨.binary, "uu_codec", ["uu"]⟩,
   ⟨.binary, "zlib_codec", ["zip", "zlib"]⟩]

/-- Whether an entry goes by a folded name.  An alias may be spelled with dots for underscores. -/
def Entry.goesBy (e : Entry) (folded : List Char) : Bool :=
  let undotted := folded.map fun c => if c = '.' then '_' else c
  e.own.toList == folded ||
    e.aliases.any fun a => a.toList == folded || a.toList == undotted

/-- Why a name gives no text encoding. -/
inductive LookupError where
  | unknown (name : String)
  | notText (name : String)
  deriving DecidableEq, Repr

/-- The error in words. -/
def LookupError.message : LookupError → String
  | unknown name => s!"unknown encoding: {name}"
  | notText name =>
    s!"'{name}' is not a text encoding; use codecs.open() to handle arbitrary codecs"

/-- Whether a name can be looked up at all: it holds no NUL character. -/
def isName (name : String) : Bool :=
  !name.toList.contains '\x00'

/-- The codec that a name stands for. -/
def lookup (name : String) : Except LookupError Codec :=
  match table.find? fun e => e.goesBy (foldName false false name.toList) with
  | some e => .ok e.codec
  | none => .error (.unknown name)

/-- The text encoding that a name stands for. -/
def ofName (name : String) : Except LookupError Encoding :=
  match lookup name with
  | .ok (.text e) => .ok e
  | .ok .binary => .error (.notText name)
  | .error e => .error e

/-- The name of an encoding. -/
def name : Encoding → String
  | utf8 => "utf-8"
  | utf8Marked => "utf-8-sig"
  | single .ascii => "ascii"
  | single .latin1 => "latin-1"
  | single .windows1252 => "cp1252"
  | utf16Marked => "utf-16"
  | utf16 .little => "utf-16-le"
  | utf16 .big => "utf-16-be"

/-- Every encoding is found under its own name. -/
theorem ofName_name (e : Encoding) : ofName e.name = .ok e := by
  rcases e with _ | _ | s | _ | o
  · rfl
  · rfl
  · cases s <;> rfl
  · rfl
  · cases o <;> rfl

end Encoding

end StructScan
