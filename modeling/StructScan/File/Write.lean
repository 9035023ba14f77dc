import StructScan.Encoding
import StructScan.File.Tree

/-!
# Writing files atomically

A text is written to a temporary file beside its target, which then takes the
target's place.  Missing directories are made first.  Whatever goes wrong, the
temporary file does not stay.
-/

namespace StructScan

/-- Why a text could not be written. -/
inductive WriteError where
  | os (e : OsError)
  /-- The path holds a NUL character. -/
  | pathHoldsNul
  /-- The name of the encoding holds a NUL character. -/
  | encodingHoldsNul
  | encoding (e : Encoding.LookupError)
  /-- A character is not in the encoding. -/
  | unencodable
  /-- Every name that was tried for the temporary file is taken. -/
  | noTemporaryName
  /-- Too many directories above the target are missing. -/
  | tooDeep
  deriving DecidableEq, Repr

/-- A computation that changes a disk. -/
abbrev Writing := EStateM WriteError Disk

namespace Disk

/-! ## Directories -/

/-- Makes one directory. -/
def makeDirectory (d : Disk) (p : Path) : Except Errno Disk := do
  match p.parts.getLast? with
  | none => throw .alreadyExists
  | some name =>
    if pathLimit ≤ p.toString.utf8ByteSize then throw .nameTooLong
    let above ← d.resolve p.parent
    match d.tree.node? above with
    | none => throw .notFound
    | some (.file _) => throw .notDirectory
    | some .directory =>
      if name = ".." then throw .alreadyExists
      else if nameLimit < name.utf8ByteSize then throw .nameTooLong
      else if (d.tree.node? (above ++ [name])).isSome then throw .alreadyExists
      else return d.commit (d.tree.put (above ++ [name]) .directory)

/-- Makes one directory, which may be there already. -/
def makeIfMissing (d : Disk) (p : Path) : Except Errno Disk :=
  match d.makeDirectory p with
  | .ok d' => .ok d'
  | .error .notFound => .error .notFound
  | .error e => if d.find p matches .ok .directory then .ok d else .error e

/--
The most directories that are made one above the other.  It is a value of the environment: each
directory takes a nested call, and this is the room that its limit on them leaves.
-/
def depthLimit : Nat := 985

/-- Makes a directory and all those above it that are missing, a number of them at most. -/
def makeDirectories : Nat → Path → Writing Unit
  | 0, _ => throw .tooDeep
  | n + 1, p => fun d =>
    match d.makeIfMissing p with
    | .ok d' => .ok () d'
    | .error .notFound =>
      match makeDirectories n p.parent d with
      | .error e d' => .error e d'
      | .ok () d' =>
        match d'.makeIfMissing p with
        | .ok d'' => .ok () d''
        | .error e => .error (.os ⟨e, p.toString, none⟩) d'
    | .error e => .error (.os ⟨e, p.toString, none⟩) d

/-! ## The temporary file -/

/-- The name of a temporary file for a target, with a salt that makes it unlike others. -/
def temporaryName (p : Path) (salt : String) : String :=
  s!".{p.name}.{salt}.tmp"

/-- The place of the temporary file for a target. -/
def temporaryPlace (d : Disk) (p : Path) (salt : String) : Location :=
  d.lexical p.parent ++ [temporaryName p salt]

/-- Makes an empty temporary file under the first name that is free. -/
def createTemporary (p : Path) : List String → Writing Location
  | [] => throw .noTemporaryName
  | salt :: salts => fun d =>
    let place := d.temporaryPlace p salt
    if nameLimit < (temporaryName p salt).utf8ByteSize ||
        pathLimit ≤ (absolute place).toString.utf8ByteSize then
      .error (.os ⟨.nameTooLong, (absolute place).toString, none⟩) d
    else if (d.tree.node? place).isSome then createTemporary p salts d
    else .ok place (d.commit (d.tree.put place (.file [])))

/-- Removes a temporary file. -/
def unlink (d : Disk) (place : Location) : Disk :=
  d.commit (d.tree.remove place)

/-! ## Writing -/

/-- Puts a file in the place of a target. -/
def rename (place : Location) (p : Path) : Writing Unit := fun d =>
  let fail (e : Errno) : EStateM.Result WriteError Disk Unit :=
    .error (.os ⟨e, (absolute place).toString, some p.toString⟩) d
  match p.parts.getLast? with
  | none => fail .busy
  | some ".." => fail .busy
  | some _ =>
    match d.resolve p with
    | .error e => fail e
    | .ok target =>
      match d.tree.node? target, d.tree.node? place with
      | some .directory, _ => fail .isDirectory
      | _, some node => .ok () (d.commit ((d.tree.remove place).put target node))
      | _, none => fail .notFound

/-- The bytes of a text in the encoding of a name. -/
def encodeText (text encoding : String) : Except WriteError Bytes :=
  if !Encoding.isName encoding then .error .encodingHoldsNul
  else
    match Encoding.ofName encoding with
    | .error e => .error (.encoding e)
    | .ok e =>
      match e.encode? text.toList with
      | none => .error .unencodable
      | some bytes => .ok bytes

/-- Fills the temporary file and puts it in the place of its target. -/
def fill (place : Location) (p : Path) (text encoding : String) : Writing Unit := fun d =>
  match encodeText text encoding with
  | .error e => .error e d
  | .ok bytes => rename place p (d.commit (d.tree.put place (.file bytes)))

/-- The last stage of a write: the temporary file is filled and renamed, or taken back. -/
def fillOrUnlink (place : Location) (p : Path) (text encoding : String) : Writing Unit := fun d =>
  match fill place p text encoding d with
  | .ok () d' => .ok () d'
  | .error e d' => .error e (d'.unlink place)

/--
Writes a text so that its target is never seen half-written.  The salts are the
names to try for the temporary file.
-/
def writeAtomically (salts : List String) (p : Path) (text : String)
    (encoding : String := "utf-8") : Writing Unit := do
  if p.parent.hasNul then throw .pathHoldsNul
  makeDirectories depthLimit p.parent
  if p.hasNul then throw .pathHoldsNul
  let place ← createTemporary p salts
  fillOrUnlink place p text encoding

end Disk

end StructScan
