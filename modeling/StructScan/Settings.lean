import StructScan.File.Path
import StructScan.Text.Quoted

/-!
# Settings

What a project can choose: the encoding of its sources and the shape of the
dump functions that are generated for it.

Main results:

- Theorem `Settings.lookup_putFormat`: a conversion that was set for a type is
  found for it, and no other one changes.
-/

namespace StructScan

/-- The settings of a project. -/
structure Settings where
  /-- The directory that the settings belong to. -/
  root : Path := {}
  /-- The name of the encoding of the sources. -/
  encoding : String := "utf-8"
  /-- What the name of a dump function starts with. -/
  functionPrefix : String := "var_dump_"
  /-- The printf conversion of a type that has none of its own. -/
  fallback : String := "%x"
  /-- Whether generated code includes the header that declares printf. -/
  includeStdio : Bool := false
  /-- The printf conversions of types. -/
  formats : List (String × String) := [("int", "%d"), ("long", "%ld")]
  deriving DecidableEq, Repr

namespace Settings

/-- The printf conversion for a field of a type. -/
def formatFor (s : Settings) (typename : String) : String :=
  (s.formats.lookup typename).getD s.fallback

/-- The printf conversion of a type where no settings are given. -/
def builtinFormat (typename : String) : String :=
  if typename = "int" then "%d"
  else if typename = "long" then "%ld"
  else "%x"

/-- The printf conversion of a type, by the settings if there are any. -/
def formatSpecifier (s : Option Settings) (typename : String) : String :=
  match s with
  | some s => s.formatFor typename
  | none => builtinFormat typename

/-- What the name of a dump function starts with, by the settings if there are any. -/
def prefixFor (s : Option Settings) : String :=
  match s with
  | some s => s.functionPrefix
  | none => "var_dump_"

/-- Sets the printf conversion of a type. -/
def putFormat (formats : List (String × String)) (typename spec : String) :
    List (String × String) :=
  if (formats.lookup typename).isSome then
    formats.map fun e => if e.1 = typename then (typename, spec) else e
  else formats ++ [(typename, spec)]

/-- Replacing the conversion of one type leaves that of another. -/
private theorem lookup_map_ne (formats : List (String × String)) {typename t spec : String}
    (h : t ≠ typename) :
    (formats.map fun e => if e.1 = typename then (typename, spec) else e).lookup t =
      formats.lookup t := by
  induction formats with
  | nil => rfl
  | cons e formats ih =>
    obtain ⟨k, v⟩ := e
    by_cases hk : k = typename
    · subst hk
      have : (t == k) = false := by simpa using h
      simp [List.lookup_cons, this, ih]
    · simp only [List.map_cons, hk, if_false, List.lookup_cons, ih]

private theorem lookup_map_eq (formats : List (String × String)) {typename spec : String}
    (h : (formats.lookup typename).isSome) :
    (formats.map fun e => if e.1 = typename then (typename, spec) else e).lookup typename =
      some spec := by
  induction formats with
  | nil => simp at h
  | cons e formats ih =>
    obtain ⟨k, v⟩ := e
    by_cases hk : k = typename
    · simp [hk]
    · have hk' : (typename == k) = false := by simpa using fun h => hk h.symm
      simp only [List.lookup_cons, hk'] at h
      simp only [List.map_cons, hk, if_false, List.lookup_cons, hk']
      exact ih h

/-- A conversion that is added at the end is found if there was none before. -/
private theorem lookup_concat (formats : List (String × String)) (typename spec t : String) :
    (formats ++ [(typename, spec)]).lookup t =
      (formats.lookup t).or (if t = typename then some spec else none) := by
  induction formats with
  | nil =>
    by_cases h : t = typename
    · simp [h]
    · have : (t == typename) = false := by simpa using h
      simp [List.lookup_cons, this, h]
  | cons e formats ih =>
    obtain ⟨k, v⟩ := e
    simp only [List.cons_append, List.lookup_cons]
    split <;> simp [ih]

/-- A conversion that was set is found, and no other one changes. -/
theorem lookup_putFormat (formats : List (String × String)) (typename spec t : String) :
    (putFormat formats typename spec).lookup t =
      if t = typename then some spec else formats.lookup t := by
  unfold putFormat
  by_cases ht : t = typename
  · subst ht
    split
    · rename_i h
      simpa using lookup_map_eq formats h
    · rename_i h
      have hn : formats.lookup t = none := Option.not_isSome_iff_eq_none.1 h
      simp [lookup_concat, hn]
  · split
    · simpa [ht] using lookup_map_ne formats ht
    · rw [lookup_concat]
      simp [ht]

end Settings

end StructScan
