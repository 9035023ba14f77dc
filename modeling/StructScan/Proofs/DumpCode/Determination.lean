import StructScan.Proofs.DumpCode.PrintCalls

/-!
# What generated code tells of its layouts

Generated code is put together from names and conversions without any escaping.  Still no two
lists of layouts share their code by accident.  A name of word characters ends at the blank behind
it, a line ends at its newline, and the line that closes the body of a function differs from the
lines of its fields at the first character that a call prints.  So the code can be cut up again from
left to right, whatever stands in the prefix of the functions or in the conversions, as long as
no conversion holds a newline.

Main results:

- Theorem `fieldLine_inj`: the line of a field tells its name and its conversion.
- Theorem `fieldsText_cancel`: the lines of fields tell the fields, and where they end.
- Theorem `dumpFunction_cancel`: a function tells its layout, and where it ends.
- Theorem `dumpCode_eq_iff`: code is the same exactly for layouts that are printed alike.
-/

namespace StructScan

/-! ## Layouts that are printed alike -/

/-- Two fields with one name and one conversion. -/
structure Field.PrintedAlike (s : Option Settings) (f g : Field) : Prop where
  name : f.name = g.name
  conversion : Settings.formatSpecifier s f.typename = Settings.formatSpecifier s g.typename

/-- Two layouts with one name whose fields are printed alike, in the same order. -/
structure Layout.PrintedAlike (s : Option Settings) (l l' : Layout) : Prop where
  name : l.name = l'.name
  fields : List.Forall₂ (Field.PrintedAlike s) l.fields l'.fields

/-- Settings without a newline in any conversion. -/
structure Settings.OnOneLine (s : Settings) : Prop where
  fallback : '\n' ∉ s.fallback.toList
  formats : ∀ entry ∈ s.formats, '\n' ∉ entry.2.toList

/-- Where no conversion of the settings holds a newline, none that is chosen does. -/
theorem Settings.newline_notMem_formatSpecifier {s : Option Settings}
    (h : ∀ settings, s = some settings → settings.OnOneLine) (typename : String) :
    '\n' ∉ (formatSpecifier s typename).toList := by
  cases s with
  | none =>
    have hbuiltin := formatSpecifier_defaults none typename
    simp only [List.mem_cons, List.not_mem_nil, or_false] at hbuiltin
    change '\n' ∉ (formatSpecifier (Settings.defaults none) typename).toList
    rcases hbuiltin with heq | heq | heq <;> simp [heq]
  | some settings =>
    obtain ⟨hfallback, hformats⟩ := h settings rfl
    simp only [formatSpecifier, formatFor]
    cases hlookup : settings.formats.lookup typename with
    | none => exact hfallback
    | some spec =>
      obtain ⟨before, after, heq, -⟩ := List.lookup_eq_some_iff.mp hlookup
      apply hformats (typename, spec)
      simp [heq]

/-! ## The lines of fields -/

/-- The characters of the line of a field: the name ends at a blank, the conversion at the end. -/
theorem toList_fieldLine (s : Option Settings) (f : Field) :
    (fieldLine s f).toList = "  printf (\"  ".toList ++ (f.name.toList ++ ' ' :: ("= ".toList ++
      ((Settings.formatSpecifier s f.typename).toList ++
        ("\\n\",var->" ++ f.name ++ ");").toList))) := by
  unfold fieldLine
  -- Which conversion is chosen makes no difference here.
  generalize Settings.formatSpecifier s f.typename = conversion
  simp

/-- The line of a field tells its name and its conversion. -/
theorem fieldLine_inj {s : Option Settings} {f g : Field} (hf : IsWord f.name) (hg : IsWord g.name)
    (h : fieldLine s f = fieldLine s g) : f.PrintedAlike s g := by
  have hchars := congrArg String.toList h
  rw [toList_fieldLine, toList_fieldLine] at hchars
  have hblank : Text.isWordChar ' ' = false := by decide
  obtain ⟨hname, hrest⟩ := Text.eq_of_append_mark_eq (hf.notMem hblank) (hg.notMem hblank)
    (List.append_cancel_left hchars)
  have hnames : f.name = g.name := String.toList_inj.mp hname
  rw [hnames] at hrest
  have hconversion := List.append_cancel_right (List.append_cancel_left hrest)
  exact ⟨hnames, String.toList_inj.mp hconversion⟩

/-- Fields that are printed alike have the same line. -/
theorem fieldLine_congr {s : Option Settings} {f g : Field} (h : f.PrintedAlike s g) :
    fieldLine s f = fieldLine s g := by
  unfold fieldLine
  rw [h.name, h.conversion]

/-- Fields that are printed alike, one by one, have the same lines. -/
theorem fieldLines_congr {s : Option Settings} {fields fields' : List Field}
    (h : List.Forall₂ (Field.PrintedAlike s) fields fields') :
    fields.map (fieldLine s) = fields'.map (fieldLine s) := by
  induction h with
  | nil => rfl
  | cons hfield _ ih => rw [List.map_cons, List.map_cons, ih, fieldLine_congr hfield]

/-- The line of a field holds no newline if its conversion holds none. -/
theorem newline_notMem_fieldLine {s : Option Settings}
    (hs : ∀ settings, s = some settings → settings.OnOneLine) {f : Field} (hf : IsWord f.name) :
    '\n' ∉ (fieldLine s f).toList := by
  have hconversion := Settings.newline_notMem_formatSpecifier hs f.typename
  have hname := hf.notMem (c := '\n') (by decide)
  rw [toList_fieldLine]
  generalize Settings.formatSpecifier s f.typename = conversion at hconversion
  simp [hconversion, hname]

/-- The lines of fields, each with its newline. -/
def fieldsText (s : Option Settings) (fields : List Field) : String :=
  String.join ((fields.map (fieldLine s)).map (· ++ "\n"))

@[simp]
theorem toList_fieldsText_nil (s : Option Settings) : (fieldsText s []).toList = [] := by
  simp [fieldsText]

@[simp]
theorem toList_fieldsText_cons (s : Option Settings) (f : Field) (fields : List Field) :
    (fieldsText s (f :: fields)).toList =
      (fieldLine s f).toList ++ '\n' :: (fieldsText s fields).toList := by
  simp [fieldsText]

/-- The text of the line that closes the body of a function, and of the brace on the next line. -/
def closingText : List Char :=
  "  printf (\"\x7d\\n\");\n\x7d\n".toList

/-- The line of a field is no closing line: they differ in the first character that is printed. -/
theorem closingText_ne_fieldLine (s : Option Settings) (f : Field) (rest rest' : List Char) :
    closingText ++ rest ≠ (fieldLine s f).toList ++ rest' := by
  rewrite [toList_fieldLine]
  unfold closingText
  generalize Settings.formatSpecifier s f.typename = conversion
  simp

/-- The lines of fields tell the fields, and where the lines end. -/
theorem fieldsText_cancel {s : Option Settings}
    (hs : ∀ settings, s = some settings → settings.OnOneLine) {fields fields' : List Field}
    (hf : ∀ f ∈ fields, IsWord f.name) (hf' : ∀ f ∈ fields', IsWord f.name) {rest rest' : List Char}
    (h : (fieldsText s fields).toList ++ (closingText ++ rest) =
      (fieldsText s fields').toList ++ (closingText ++ rest')) :
    List.Forall₂ (Field.PrintedAlike s) fields fields' ∧ rest = rest' := by
  -- Line by line; the closing line is found on both sides at once.
  induction fields generalizing fields' with
  | nil =>
    cases fields' with
    | nil =>
      simp only [toList_fieldsText_nil, List.nil_append] at h
      exact ⟨.nil, List.append_cancel_left h⟩
    | cons g fields' =>
      rw [toList_fieldsText_nil, toList_fieldsText_cons, List.append_assoc] at h
      exact absurd h (closingText_ne_fieldLine s g _ _)
  | cons f fields ih =>
    cases fields' with
    | nil =>
      rw [toList_fieldsText_nil, toList_fieldsText_cons, List.append_assoc] at h
      exact absurd h.symm (closingText_ne_fieldLine s f _ _)
    | cons g fields' =>
      simp only [List.forall_mem_cons] at hf hf'
      simp only [toList_fieldsText_cons, List.append_assoc, List.cons_append] at h
      obtain ⟨hline, hlater⟩ := Text.eq_of_append_mark_eq (newline_notMem_fieldLine hs hf.1)
        (newline_notMem_fieldLine hs hf'.1) h
      obtain ⟨hfields, hrest⟩ := ih hf.2 hf'.2 hlater
      exact ⟨.cons (fieldLine_inj hf.1 hf'.1 (String.toList_inj.mp hline)) hfields, hrest⟩

/-! ## Functions -/

/-- The characters of a function: the name ends at a blank, and the fields at the closing line. -/
theorem toList_dumpFunction (s : Option Settings) (l : Layout) :
    (dumpFunction s l).toList = ("void " ++ Settings.prefixFor s).toList ++ (l.name.toList ++
      ' ' :: (("(struct " ++ l.name ++ " * var) \x7b\n  printf (\"struct " ++ l.name ++
        " = \x7b\\n\");\n").toList ++ ((fieldsText s l.fields).toList ++ closingText))) := by
  unfold dumpFunction functionLines fieldsText closingText
  generalize l.fields.map (fieldLine s) = lines
  generalize Settings.prefixFor s = start
  simp

/-- A function tells its layout, and where it ends. -/
theorem dumpFunction_cancel {s : Option Settings}
    (hs : ∀ settings, s = some settings → settings.OnOneLine) {l l' : Layout} (hl : l.Worded)
    (hl' : l'.Worded) {rest rest' : List Char}
    (h : (dumpFunction s l).toList ++ rest = (dumpFunction s l').toList ++ rest') :
    l.PrintedAlike s l' ∧ rest = rest' := by
  have hblank : Text.isWordChar ' ' = false := by decide
  simp only [toList_dumpFunction, List.append_assoc, List.cons_append] at h
  obtain ⟨hname, hbody⟩ := Text.eq_of_append_mark_eq (hl.1.notMem hblank) (hl'.1.notMem hblank)
    (List.append_cancel_left h)
  have hnames : l.name = l'.name := String.toList_inj.mp hname
  rw [hnames] at hbody
  obtain ⟨hfields, hrest⟩ := fieldsText_cancel hs hl.2 hl'.2 (List.append_cancel_left hbody)
  exact ⟨⟨hnames, hfields⟩, hrest⟩

/-- Layouts that are printed alike have the same function. -/
theorem dumpFunction_congr {s : Option Settings} {l l' : Layout} (h : l.PrintedAlike s l') :
    dumpFunction s l = dumpFunction s l' := by
  unfold dumpFunction functionLines
  rw [fieldLines_congr h.fields, h.name]

/-! ## Whole lists of layouts -/

/-- The functions for all layouts, without what is put in front of them. -/
theorem toList_dumpCode (s : Option Settings) (includeStdio : Bool) (ls : List Layout) :
    (dumpCode s includeStdio ls).toList =
      (if includeStdio then stdioHeader else "").toList ++
        ls.flatMap fun l => (dumpFunction s l).toList := by
  unfold dumpCode
  generalize (if includeStdio then stdioHeader else "") = header
  rw [String.toList_append, List.append_cancel_left_eq]
  induction ls with
  | nil => rfl
  | cons l ls ih => simpa using ih

/-- A function is not empty. -/
theorem dumpFunction_append_ne_nil (s : Option Settings) (l : Layout) (rest : List Char) :
    (dumpFunction s l).toList ++ rest ≠ [] := by
  rewrite [toList_dumpFunction]
  simp

/-- Functions one after the other tell their layouts. -/
theorem dumpFunctions_cancel {s : Option Settings}
    (hs : ∀ settings, s = some settings → settings.OnOneLine) {ls ls' : List Layout}
    (hls : ∀ l ∈ ls, l.Worded) (hls' : ∀ l ∈ ls', l.Worded)
    (h : (ls.flatMap fun l => (dumpFunction s l).toList) =
      ls'.flatMap fun l => (dumpFunction s l).toList) :
    List.Forall₂ (Layout.PrintedAlike s) ls ls' := by
  induction ls generalizing ls' with
  | nil =>
    cases ls' with
    | nil => exact .nil
    | cons l' ls' => exact absurd h.symm (dumpFunction_append_ne_nil s l' _)
  | cons l ls ih =>
    cases ls' with
    | nil => exact absurd h (dumpFunction_append_ne_nil s l _)
    | cons l' ls' =>
      simp only [List.forall_mem_cons] at hls hls'
      simp only [List.flatMap_cons] at h
      obtain ⟨hfirst, hlater⟩ := dumpFunction_cancel hs hls.1 hls'.1 h
      exact .cons hfirst (ih hls.2 hls'.2 hlater)

/--
Two lists of layouts whose names are words have the same code exactly if they are printed alike:
they are equally long, and at each place stand layouts with one name and with equally many
fields, which agree in order on their names and conversions.  The settings may be any, as
long as none of their conversions holds a newline.
-/
theorem dumpCode_eq_iff {s : Option Settings}
    (hs : ∀ settings, s = some settings → settings.OnOneLine) (includeStdio : Bool)
    {ls ls' : List Layout} (hls : ∀ l ∈ ls, l.Worded) (hls' : ∀ l ∈ ls', l.Worded) :
    dumpCode s includeStdio ls = dumpCode s includeStdio ls' ↔
      List.Forall₂ (Layout.PrintedAlike s) ls ls' := by
  rw [← String.toList_inj, toList_dumpCode, toList_dumpCode, List.append_cancel_left_eq]
  constructor
  · exact dumpFunctions_cancel hs hls hls'
  · intro h
    induction h with
    | nil => rfl
    | cons hfirst _ ih =>
      simp only [List.forall_mem_cons] at hls hls'
      rw [List.flatMap_cons, List.flatMap_cons, dumpFunction_congr hfirst, ih hls.2 hls'.2]

/--
A prefix with a newline and a conversion that closes its literal: different types that share the
conversion give the same code, and nothing else does.
-/
theorem dumpCode_eq_iff_quoted :
    let settings : Settings :=
      { functionPrefix := "f\nvoid ", fallback := "\",var->x);  printf (\"  y = %p" }
    let ls : List Layout := [⟨"A", [⟨"short", "x"⟩, ⟨"int", "y"⟩]⟩, ⟨"", []⟩]
    let ls' : List Layout := [⟨"A", [⟨"char*", "x"⟩, ⟨"int", "y"⟩]⟩, ⟨"", []⟩]
    (∀ chosen, some settings = some chosen → chosen.OnOneLine) ∧ (∀ l ∈ ls, l.Worded) ∧
      (∀ l ∈ ls', l.Worded) ∧
      (dumpCode (some settings) true ls = dumpCode (some settings) true ls' ↔
        List.Forall₂ (Layout.PrintedAlike (some settings)) ls ls') := by
  intro settings ls ls'
  have hs (chosen : Settings) (h : some settings = some chosen) : chosen.OnOneLine := by
    cases h
    exact ⟨by decide, by decide⟩
  have hls : ∀ l ∈ ls, l.Worded := by decide +kernel
  have hls' : ∀ l ∈ ls', l.Worded := by decide +kernel
  exact ⟨hs, hls, hls', dumpCode_eq_iff hs true hls hls'⟩

end StructScan
