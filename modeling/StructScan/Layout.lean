/-!
# Struct layouts

What is known of a struct: its name and its fields in the order of their
declaration.  A pointer field carries the star in its type.
-/

namespace StructScan

/-- One field of a struct. -/
structure Field where
  typename : String
  name : String
  deriving DecidableEq, Repr

namespace Field

/-- Whether the type of the field is a pointer. -/
def isPointer (f : Field) : Bool :=
  f.typename.endsWith "*"

/-- The field as its type followed by its name. -/
def text (f : Field) : String :=
  f.typename ++ " " ++ f.name

end Field

/-- A struct: its name and its fields. -/
structure Layout where
  name : String
  fields : List Field := []
  deriving DecidableEq, Repr

namespace Layout

/-- The fields on one line. -/
def members (l : Layout) : String :=
  ", ".intercalate (l.fields.map Field.text)

end Layout

end StructScan
