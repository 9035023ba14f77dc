import StructScan.Json
import StructScan.Layout

/-!
# Layouts as JSON values
-/

namespace StructScan

/-- A field as a JSON value. -/
def Field.toJson (f : Field) : Json :=
  .object [("typename", .string f.typename), ("name", .string f.name)]

/-- A layout as a JSON value. -/
def Layout.toJson (l : Layout) : Json :=
  .object [("name", .string l.name), ("fields", .array (l.fields.map Field.toJson))]

end StructScan
