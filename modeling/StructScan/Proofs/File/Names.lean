import StructScan.File.Path
import StructScan.Proofs.Text.Split

/-!
# The texts of paths

A path that was read from a text has only components that a text can hold: they are not empty, they
are not single dots, and they hold no slash.  Such a path is found again in its own text.

Main results:

- Theorem `Path.isCanonical_ofString`: what components a path has that was read from a text.
- Theorem `Path.ofString_toString`: such a path is found again in its text.
-/

namespace StructScan.Path

/-- A component that stands for itself in the text of a path. -/
structure IsComponent (part : String) : Prop where
  ne_empty : part ≠ ""
  ne_dot : part ≠ "."
  noSlash : '/' ∉ part.toList

/-- A path that is made of such components. -/
def IsCanonical (p : Path) : Prop :=
  ∀ part ∈ p.parts, IsComponent part

/-- The components that a text names. -/
def components (cs : List Char) : List String :=
  ((Text.split '/' cs).filter fun part => part ≠ [] && part ≠ ['.']).map String.ofList

theorem ofString_eq (s : String) : ofString s = ⟨.ofText s.toList, components s.toList⟩ :=
  rfl

/-- A path that was read from a text is canonical. -/
theorem isCanonical_ofString (s : String) : (ofString s).IsCanonical := by
  intro part hpart
  rw [ofString_eq, components, List.mem_map] at hpart
  obtain ⟨cs, hcs, rfl⟩ := hpart
  obtain ⟨hsplit, hkept⟩ := List.mem_filter.mp hcs
  simp only [Bool.and_eq_true, decide_eq_true_eq] at hkept
  constructor
  · intro hempty
    exact hkept.1 (by simpa using congrArg String.toList hempty)
  · intro hdot
    exact hkept.2 (by simpa using congrArg String.toList hdot)
  · rw [String.toList_ofList]
    exact Text.notMem_of_mem_split hsplit

/-- A slash in front adds no component. -/
theorem components_slash (cs : List Char) : components ('/' :: cs) = components cs := by
  simp [components, Text.split]

/-- Components are found again between the slashes. -/
theorem components_intercalate {parts : List String} (h : ∀ part ∈ parts, IsComponent part) :
    components (['/'].intercalate (parts.map String.toList)) = parts := by
  cases parts with
  | nil => rfl
  | cons first rest =>
    have hsplit : Text.split '/' (['/'].intercalate ((first :: rest).map String.toList)) =
        (first :: rest).map String.toList := by
      refine Text.split_intercalate (List.cons_ne_nil _ _) fun cs hcs => ?_
      obtain ⟨part, hpart, rfl⟩ := List.mem_map.mp hcs
      exact (h part hpart).noSlash
    have hkept : ∀ cs ∈ (first :: rest).map String.toList,
        (decide (cs ≠ []) && decide (cs ≠ ['.'])) = true := by
      intro cs hcs
      obtain ⟨part, hpart, rfl⟩ := List.mem_map.mp hcs
      have hdot : part.toList ≠ ['.'] := fun heq =>
        (h part hpart).ne_dot (String.toList_injective heq)
      simpa using ⟨(h part hpart).ne_empty, hdot⟩
    rw [components, hsplit, List.filter_eq_self.mpr hkept, List.map_map]
    simp [Function.comp_def]

/-- Components do not start with a slash, so the slashes of an anchor are found again. -/
theorem Anchor.ofText_append {cs : List Char} (h : cs.head? ≠ some '/') (a : Anchor) :
    ofText (a.text.toList ++ cs) = a := by
  cases cs with
  | nil => cases a <;> rfl
  | cons c cs =>
    have hc : c ≠ '/' := fun heq => h (by rw [heq]; rfl)
    cases a with
    | relative => simp [ofText, text, hc]
    | root => simp [ofText, text, hc]
    | doubleRoot => simp [ofText, text, hc]

theorem head?_intercalate {parts : List String} (h : ∀ part ∈ parts, IsComponent part) :
    (['/'].intercalate (parts.map String.toList)).head? ≠ some '/' := by
  cases parts with
  | nil => simp
  | cons part parts =>
    have hpart := h part List.mem_cons_self
    cases hcs : part.toList with
    | nil => exact absurd (String.toList_eq_nil_iff.mp hcs) hpart.ne_empty
    | cons c cs =>
      have hc : c ≠ '/' := by
        rintro rfl
        exact hpart.noSlash (hcs ▸ List.mem_cons_self)
      -- Whatever follows, the text starts with the first character of the first component.
      cases parts with
      | nil => simpa [hcs] using hc
      | cons next parts => simpa [hcs, List.intercalate_cons_cons] using hc

/-- A canonical path is found again in its text. -/
theorem ofString_toString {p : Path} (h : p.IsCanonical) : ofString p.toString = p := by
  obtain ⟨anchor, parts⟩ := p
  have hparts := components_intercalate h
  have hanchor := Anchor.ofText_append (head?_intercalate h) anchor
  by_cases hdot : anchor = .relative ∧ parts = []
  · obtain ⟨rfl, rfl⟩ := hdot
    rfl
  · have htext : (toString ⟨anchor, parts⟩).toList =
        anchor.text.toList ++ ['/'].intercalate (parts.map String.toList) := by
      unfold toString
      split
      · rename_i hrelative hnone
        exact absurd ⟨hrelative, hnone⟩ hdot
      · rw [String.toList_append, String.toList_intercalate]
        rfl
    rw [ofString_eq, htext, hanchor]
    cases anchor with
    | relative => exact congrArg (Path.mk .relative) hparts
    | root => exact congrArg (Path.mk .root) ((components_slash _).trans hparts)
    | doubleRoot =>
      exact congrArg (Path.mk .doubleRoot)
        (((components_slash _).trans (components_slash _)).trans hparts)

end StructScan.Path
