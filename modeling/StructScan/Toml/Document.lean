import StructScan.Toml.Scalar

/-!
# Configuration documents

A document is a sequence of statements: headers that open a table or add one to
an array, and pairs of a key and a value for the table that is open.  A table is
opened by a header once; values written inline cannot be extended afterwards.
-/

namespace StructScan.Toml

/-! ## Values that hold other values -/

/-- Changes the entry of a key. -/
def replaceEntry (t : Table) (k : String) (v : Value) : Table :=
  t.map fun e => if e.1 = k then (k, v) else e

/--
Changes the table at the end of a key, making the tables on the way that are
missing.  Through an array the way goes to its last item, if arrays may be
entered at all.
-/
def updateAt (enterArrays : Bool) :
    Key → (Table → Except Error Table) → Table → Except Error Table
  | [], f, t => f t
  | k :: ks, f, t =>
    match t.lookup k with
    | none => do
      let sub ← updateAt enterArrays ks f []
      return t ++ [(k, .table sub)]
    | some (.table sub) => do
      let sub ← updateAt enterArrays ks f sub
      return replaceEntry t k (.table sub)
    | some (.array items) =>
      match enterArrays, items.getLast? with
      | true, some (.table sub) => do
        let sub ← updateAt enterArrays ks f sub
        return replaceEntry t k (.array (items.dropLast ++ [.table sub]))
      | _, _ => .error .overwritten
    | some _ => .error .overwritten

/-- Adds an entry for a new key. -/
def addEntry (k : String) (v : Value) (t : Table) : Except Error Table :=
  if (t.lookup k).isSome then .error .overwritten else .ok (t ++ [(k, v)])

/-- Whether a value holds other values. -/
def Value.isContainer : Value → Bool
  | .array _ | .table _ => true
  | _ => false

/-- The last part of a key. -/
def Key.stem (k : Key) : String :=
  k.getLast?.getD ""

/--
How deep values can stand in one another, in steps.  It is a value of the environment: the room
that its limit on nested calls leaves when a document is read.
-/
def depthLimit : Nat := 985

/-- The steps that are left inside a value that takes some of them. -/
def descend (steps room : Nat) : Except Error Nat :=
  if room < steps then .error .tooDeep else .ok (room - steps)

mutual

/-- Reads a value; an array takes two steps of the room for nesting, an inline table three. -/
def value : Nat → Nat → Input → Except Error (Value × Input)
  | 0, _, _ => .error .invalidValue
  | n + 1, room, cs =>
    match string? cs with
    | some r => r.map fun x => (.string x.1, x.2)
    | none =>
      match cs with
      | '[' :: rest => do
        let room ← descend 2 room
        match ← skipFiller (n + 1) rest with
        | ']' :: rest => return (.array [], rest)
        | rest =>
          let (items, rest) ← arrayItems n room rest
          return (.array items, rest)
      | '\x7b' :: rest => do
        let room ← descend 3 room
        match skipSpaces rest with
        | '\x7d' :: rest => return (.table [], rest)
        | rest =>
          let (entries, rest) ← inlineEntries n room [] [] rest
          return (.table entries, rest)
      | _ => scalar cs

/-- Reads the items of an array up to its closing bracket. -/
def arrayItems : Nat → Nat → Input → Except Error (List Value × Input)
  | 0, _, _ => .error .unclosedArray
  | n + 1, room, cs => do
    let (item, rest) ← value n room cs
    match ← skipFiller (n + 1) rest with
    | ']' :: rest => return ([item], rest)
    | ',' :: rest =>
      match ← skipFiller (n + 1) rest with
      | ']' :: rest => return ([item], rest)
      | rest =>
        let (items, rest) ← arrayItems n room rest
        return (item :: items, rest)
    | _ => throw .unclosedArray

/--
Reads the entries of an inline table up to its closing brace; `frozen` are the
keys of its containers.
-/
def inlineEntries : Nat → Nat → Table → List Key → Input → Except Error (Table × Input)
  | 0, _, _, _, _ => .error .unclosedTable
  | n + 1, room, t, frozen, cs => do
    let (k, rest) ← key (n + 1) cs
    match rest with
    | '=' :: rest =>
      let (v, rest) ← value n room (skipSpaces rest)
      if frozen.any (·.isPrefixOf k) then throw .immutable
      let t ← updateAt false k.dropLast (addEntry (Key.stem k) v) t
      match skipSpaces rest with
      | '\x7d' :: rest => return (t, rest)
      | ',' :: rest =>
        inlineEntries n room t (if v.isContainer then k :: frozen else frozen) (skipSpaces rest)
      | _ => throw .unclosedTable
    | _ => throw .missingEquals

end

/-! ## Statements -/

/-- A document while it is read. -/
structure Draft where
  table : Table := []
  /-- The key of the table that is open. -/
  header : Key := []
  /-- The tables that no header may open any more. -/
  closed : List Key := []
  /-- The tables that were made by dotted keys since the last header. -/
  pending : List Key := []
  /-- The values that were written inline. -/
  frozen : List Key := []
  deriving Repr

namespace Draft

/-- Whether a key leads to or through a value that was written inline. -/
def isFrozen (d : Draft) (k : Key) : Bool :=
  d.frozen.any (·.isPrefixOf k)

/-- Closes the tables that dotted keys have made. -/
def settle (d : Draft) : Draft :=
  { d with closed := d.pending ++ d.closed, pending := [] }

/-- Opens a table. -/
def openTable (d : Draft) (k : Key) : Except Error Draft := do
  if d.closed.contains k || d.isFrozen k then throw .declaredTwice
  let table ← updateAt true k .ok d.table
  return { d with table := table, header := k, closed := k :: d.closed }

/-- Adds an empty table to an array. -/
def addItem (k : String) (t : Table) : Except Error Table :=
  match t.lookup k with
  | none => .ok (t ++ [(k, .array [.table []])])
  | some (.array items) => .ok (replaceEntry t k (.array (items ++ [.table []])))
  | some _ => .error .overwritten

/--
Adds a table to an array and opens it; everything known of the tables below the
key is forgotten.
-/
def openItem (d : Draft) (k : Key) : Except Error Draft := do
  if d.isFrozen k then throw .immutable
  let table ← updateAt true k.dropLast (addItem (Key.stem k)) d.table
  return { d with
    table := table
    header := k
    closed := k :: d.closed.filter fun c => !k.isPrefixOf c
    frozen := d.frozen.filter fun c => !k.isPrefixOf c }

/-- The tables that a dotted key goes through, from the table that is open. -/
def through (d : Draft) (k : Key) : List Key :=
  (List.range (k.length - 1)).map fun i => d.header ++ k.take (i + 1)

/-- Adds a pair of a key and a value. -/
def addPair (d : Draft) (k : Key) (v : Value) : Except Error Draft := do
  let way := d.through k
  if way.any d.closed.contains then throw .declaredTwice
  if d.isFrozen (d.header ++ k.dropLast) then throw .immutable
  let table ← updateAt true (d.header ++ k.dropLast) (addEntry (Key.stem k) v) d.table
  return { d with
    table := table
    pending := way ++ d.pending
    frozen := if v.isContainer then (d.header ++ k) :: d.frozen else d.frozen }

end Draft

/-- Reads the rest of a line after a statement. -/
def endOfLine (cs : Input) : Except Error Input := do
  match ← skipComment (skipSpaces cs) with
  | [] => return []
  | '\n' :: rest => return rest
  | _ => throw .missingNewline

/-- Reads one statement. -/
def statement (fuel : Nat) (d : Draft) (cs : Input) : Except Error (Draft × Input) := do
  match cs with
  | [] => return (d, [])
  | '#' :: _ => return (d, cs)
  | '[' :: '[' :: rest =>
    let (k, rest) ← key fuel (skipSpaces rest)
    let d ← d.settle.openItem k
    match rest with
    | ']' :: ']' :: rest => return (d, rest)
    | _ => throw .unclosedHeader
  | '[' :: rest =>
    let (k, rest) ← key fuel (skipSpaces rest)
    let d ← d.settle.openTable k
    match rest with
    | ']' :: rest => return (d, rest)
    | _ => throw .unclosedHeader
  | c :: _ =>
    if isBareKey c || c = '"' || c = '\'' then
      let (k, rest) ← key fuel cs
      match rest with
      | '=' :: rest =>
        let (v, rest) ← value fuel depthLimit (skipSpaces rest)
        return (← d.addPair k v, rest)
      | _ => throw .missingEquals
    else throw .invalidStatement

/-- Reads statements to the end of the document. -/
def statements (fuel : Nat) : Nat → Draft → Input → Except Error Draft
  | 0, d, _ => .ok d
  | n + 1, d, cs =>
    match skipSpaces cs with
    | [] => .ok d
    | '\n' :: rest => statements fuel n d rest
    | cs => do
      let (d, rest) ← statement fuel d cs
      statements fuel n d (← endOfLine rest)

/-- Turns every pair of a carriage return and a line feed into a line feed. -/
def joinNewlines : Input → Input
  | [] => []
  | '\r' :: '\n' :: cs => '\n' :: joinNewlines cs
  | c :: cs => c :: joinNewlines cs

/-- Reads a document. -/
def parse (text : List Char) : Except Error Table := do
  let cs := joinNewlines text
  let fuel := cs.length + 2
  return (← statements fuel fuel {} cs).table

end StructScan.Toml
