import StructScan.Encoding
import StructScan.Settings
import StructScan.Toml.Document

/-!
# Settings from a document

A document overlays the default settings.  Every setting that it names must
have the right type; what it names besides has no effect.  The first setting
that is wrong is reported, in a fixed order.
-/

namespace StructScan.Settings

/-- The name of the file that holds the settings of a project. -/
def fileName : String := "cintrospect.toml"

/-- The types that a single setting can have. -/
inductive Kind where
  | text
  | flag
  deriving DecidableEq, Repr

/-- The name of a type. -/
def Kind.name : Kind → String
  | text => "str"
  | flag => "bool"

/-- What is wrong with a settings file. -/
inductive Error where
  /-- The file is not UTF-8. -/
  | notUtf8 (e : Encoding.Utf8.DecodeError)
  /-- The file is no TOML document. -/
  | notToml (file : Path) (e : Toml.Error)
  /-- An integer of the document has too many digits. -/
  | number (e : Text.NumberError)
  /-- Values of the document stand too deep in one another. -/
  | tooDeep (o : Toml.Overflow)
  /-- A section is no table. -/
  | notTable (name : String)
  /-- A setting has the wrong type. -/
  | wrongType (name key : String) (kind : Kind) (value : Toml.Value)
  /-- A printf conversion is no string. -/
  | formatNotText (typename : String) (value : Toml.Value)
  /-- No encoding has the given name. -/
  | unknownEncoding (name : String)
  /-- The name of the encoding holds a NUL character. -/
  | encodingHoldsNul
  deriving Repr

namespace Error

/-- The place and the reason of a decoding error. -/
def decodeText (e : Encoding.Utf8.DecodeError) : String :=
  match e.bytes with
  | [b] =>
    let byte := String.ofList (Text.hex 2 b.toNat)
    s!"'utf-8' codec can't decode byte 0x{byte} in position {e.position}: {e.flaw.text}"
  | bytes =>
    let last := e.position + bytes.length - 1
    s!"'utf-8' codec can't decode bytes in position {e.position}-{last}: {e.flaw.text}"

/-- A message that ends with a value, or that says why the value cannot be shown. -/
def withValue (text : String) (value : Toml.Value) : String :=
  match value.text with
  | .ok shown => text ++ shown
  | .error e => e.message

/-- The error in words. -/
def message : Error → String
  | notUtf8 e => decodeText e
  | notToml file e => s!"Invalid {file.toString}: {e.message}"
  | number e => e.message
  | tooDeep o => o.message
  | notTable name => s!"[{name}] in {fileName} must be a table"
  | wrongType name key kind value =>
    withValue s!"{name}.{key} must be of type {kind.name}, got " value
  | formatNotText typename value =>
    withValue s!"dump.formats.{typename} must be a string, got " value
  | unknownEncoding name => s!"parser.encoding: unknown encoding {Text.quote name}"
  | encodingHoldsNul => "embedded null character"

/-- The error about a value, unless the value stands too deep to be shown. -/
def about (value : Toml.Value) (e : Error) : Error :=
  match value.text with
  | .error .tooDeep => tooDeep .showing
  | _ => e

end Error

/-! ## Looking settings up -/

/-- A section of a table; one that is missing is empty. -/
def sectionOf (t : Toml.Table) (key name : String) : Except Error Toml.Table :=
  match t.lookup key with
  | none => .ok []
  | some (.table entries) => .ok entries
  | some _ => .error (.notTable name)

/-- A text setting, or its default. -/
def textSetting (t : Toml.Table) (name key default : String) : Except Error String :=
  match t.lookup key with
  | none => .ok default
  | some (.string s) => .ok s
  | some v => .error (.about v (.wrongType name key .text v))

/-- A flag, or its default. -/
def flagSetting (t : Toml.Table) (name key : String) (default : Bool) : Except Error Bool :=
  match t.lookup key with
  | none => .ok default
  | some (.boolean b) => .ok b
  | some v => .error (.about v (.wrongType name key .flag v))

/-- Requires the name of an encoding to be known. -/
def knownEncoding (name : String) : Except Error String :=
  if !Encoding.isName name then .error .encodingHoldsNul
  else
    match Encoding.lookup name with
    | .ok _ => .ok name
    | .error _ => .error (.unknownEncoding name)

/-- Overlays printf conversions, which must be texts. -/
def overlayFormats (formats : List (String × String)) :
    Toml.Table → Except Error (List (String × String))
  | [] => .ok formats
  | (typename, .string spec) :: rest => overlayFormats (putFormat formats typename spec) rest
  | (typename, v) :: _ => .error (.about v (.formatNotText typename v))

/-- The settings that a document gives to the project in a directory. -/
def ofDocument (root : Path) (document : Toml.Table) : Except Error Settings := do
  let defaults : Settings := {}
  let parser ← sectionOf document "parser" "parser"
  let dump ← sectionOf document "dump" "dump"
  let encoding ← textSetting parser "parser" "encoding" defaults.encoding
  let encoding ← knownEncoding encoding
  let formats ← sectionOf dump "formats" "dump.formats"
  let formats ← overlayFormats defaults.formats formats
  let functionPrefix ← textSetting dump "dump" "prefix" defaults.functionPrefix
  let fallback ← textSetting dump "dump" "fallback" defaults.fallback
  let includeStdio ← flagSetting dump "dump" "include_stdio" defaults.includeStdio
  return { root, encoding, functionPrefix, fallback, includeStdio, formats }

/-- What is wrong with a settings file that is no document. -/
def Error.ofToml (file : Path) : Toml.Error → Error
  | .number e => .number e
  | .tooDeep => .tooDeep .reading
  | e => .notToml file e

/-- The settings that the content of a settings file gives. -/
def ofBytes (root file : Path) (bytes : List UInt8) : Except Error Settings :=
  match Encoding.Utf8.decode bytes with
  | .error e => .error (.notUtf8 e)
  | .ok text =>
    match Toml.parse text with
    | .error e => .error (.ofToml file e)
    | .ok document => ofDocument root document

end StructScan.Settings
