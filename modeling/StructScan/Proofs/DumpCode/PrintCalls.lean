import StructScan.DumpCode
import StructScan.Proofs.Scan.Validity
import StructScan.Proofs.Text.Split

/-!
# Generated code read back

Names go from a source into generated code as they are, between the quotes of string literals.
Here the code is read back, line by line, by a reader that knows nothing of layouts: it finds
functions, in their bodies calls of printf, and in a call a string literal, which ends at the
first quote that is not escaped, and arguments.  For the code of layouts that a scan finds it
finds a function for each layout, and in it a call for each field, with one conversion in the
literal and one argument.

Main results:

- Theorem `Code.printCall?_line`: a line with a closed literal is read as the call that it spells.
- Theorem `Code.functions?_functionLines`: the lines of a function are read as one function.
- Theorem `Code.functions?_dumpCode`: generated code is read as a function for each layout.
- Theorem `Scan.functions?_of_text`: so is the code for the layouts of any text.
-/

namespace StructScan

/-! ## Cutting texts -/

/-- Lines that are ended by newlines are the first parts of the text. -/
theorem Text.split_lines {lines : List String} (h : ∀ line ∈ lines, '\n' ∉ line.toList)
    (rest : List Char) :
    split '\n' ((String.join (lines.map (· ++ "\n"))).toList ++ rest) =
      lines.map String.toList ++ split '\n' rest := by
  induction lines with
  | nil => rfl
  | cons line lines ih =>
    have hlater := ih fun l hl => h l (List.mem_cons_of_mem _ hl)
    have hfirst := split_append (h line List.mem_cons_self)
      ((String.join (lines.map (· ++ "\n"))).toList ++ rest)
    rw [hlater] at hfirst
    simpa using hfirst

/-! ## Words and default settings -/

/-- A name that is made of the characters of words only. -/
def IsWord (name : String) : Prop :=
  ∀ c ∈ name.toList, Text.isWordChar c = true

instance (name : String) : Decidable (IsWord name) :=
  List.decidableBAll _ name.toList

/-- A character that belongs to no word is in no name. -/
theorem IsWord.notMem {name : String} (h : IsWord name) {c : Char}
    (hc : Text.isWordChar c = false) : c ∉ name.toList := by
  intro hmem
  rw [h c hmem] at hc
  contradiction

/-- A layout whose names are words. -/
def Layout.Worded (l : Layout) : Prop :=
  IsWord l.name ∧ ∀ f ∈ l.fields, IsWord f.name

instance (l : Layout) : Decidable l.Worded :=
  inferInstanceAs (Decidable (_ ∧ ∀ f ∈ l.fields, _))

/-- The default settings of the project in a directory, or no settings at all. -/
def Settings.defaults (root : Option Path) : Option Settings :=
  root.map fun root => { root }

theorem Settings.prefixFor_defaults (root : Option Path) :
    prefixFor (Settings.defaults root) = "var_dump_" := by
  cases root <;> rfl

/-- Without further settings, one of three conversions is chosen. -/
theorem Settings.formatSpecifier_defaults (root : Option Path) (typename : String) :
    formatSpecifier (Settings.defaults root) typename ∈ ["%d", "%ld", "%x"] := by
  have hbuiltin : builtinFormat typename ∈ ["%d", "%ld", "%x"] := by
    unfold builtinFormat
    split
    · simp
    · split <;> simp
  cases root with
  | none => exact hbuiltin
  | some root =>
    simp only [defaults, Option.map_some, formatSpecifier, formatFor,
      List.lookup_cons, List.lookup_nil]
    split
    · simp
    · split <;> simp

namespace Code

/-! ## Reading -/

/-- A call of printf: the characters between the quotes of its literal, and its arguments. -/
structure PrintCall where
  literal : List Char
  arguments : List (List Char)
  deriving DecidableEq, Repr

/-- A function: its first line and the calls in its body. -/
structure Function where
  head : List Char
  calls : List PrintCall
  deriving DecidableEq, Repr

/--
The characters of a string literal up to the quote that ends it, and what follows the quote.  A
backslash takes the character after it along, so that an escaped quote ends nothing.
-/
def literal? : List Char → Option (List Char × List Char)
  | [] => none
  | '"' :: cs => some ([], cs)
  | '\\' :: c :: cs => (literal? cs).map fun r => ('\\' :: c :: r.1, r.2)
  | c :: cs => (literal? cs).map fun r => (c :: r.1, r.2)

/-- The arguments of a call, each behind a comma, up to the end of the line. -/
def arguments? (cs : List Char) : Option (List (List Char)) :=
  match [')', ';'].isSuffixOf? cs with
  | none => none
  | some inner =>
    match Text.split ',' inner with
    | [] :: arguments => some arguments
    | _ => none

/-- The call of printf that takes up a line. -/
def printCall? (line : List Char) : Option PrintCall :=
  match "printf (\"".toList.isPrefixOf? (line.dropWhile (· = ' ')) with
  | none => none
  | some rest =>
    match literal? rest with
    | none => none
    | some (literal, rest) => (arguments? rest).map (⟨literal, ·⟩)

/-- The calls of a body up to the line with its closing brace, and the lines after that. -/
def body? : List (List Char) → Option (List PrintCall × List (List Char))
  | [] => none
  | line :: lines =>
    if line = ['\x7d'] then some ([], lines)
    else
      match printCall? line, body? lines with
      | some call, some (calls, rest) => some (call :: calls, rest)
      | _, _ => none

/-- A body takes up its closing brace at least. -/
theorem body?_length {lines rest : List (List Char)} {calls : List PrintCall}
    (h : body? lines = some (calls, rest)) : rest.length < lines.length := by
  fun_induction body? lines generalizing calls rest with
  | case1 => contradiction
  | case2 lines =>
    obtain ⟨-, rfl⟩ := Prod.mk.inj (Option.some.inj h)
    simp
  | case3 line lines hline call calls' rest' hbody hcall ih =>
    obtain ⟨-, rfl⟩ := Prod.mk.inj (Option.some.inj h)
    have hshorter := ih hbody
    simp only [List.length_cons]
    omega
  | case4 => contradiction

/-- The functions in the lines of code; after the last newline nothing is left. -/
def functions? (lines : List (List Char)) : Option (List Function) :=
  match lines with
  | [] => none
  | [[]] => some []
  | head :: lines =>
    match _h : body? lines with
    | none => none
    | some (calls, rest) => (functions? rest).map (⟨head, calls⟩ :: ·)
termination_by lines.length
decreasing_by
  have hshorter := body?_length _h
  simp only [List.length_cons]
  omega

/-! ## What is read from calls -/

/-- Characters without a quote and without a backslash. -/
def Plain (cs : List Char) : Prop :=
  '"' ∉ cs ∧ '\\' ∉ cs

/-- A literal of plain characters and an escaped newline ends where it should. -/
theorem literal?_plain {cs : List Char} (h : Plain cs) (rest : List Char) :
    literal? (cs ++ '\\' :: 'n' :: '"' :: rest) = some (cs ++ ['\\', 'n'], rest) := by
  induction cs with
  | nil => rfl
  | cons c cs ih =>
    obtain ⟨hquote, hslash⟩ := h
    have hc : c ≠ '"' ∧ c ≠ '\\' :=
      ⟨fun heq => hquote (heq ▸ List.mem_cons_self), fun heq => hslash (heq ▸ List.mem_cons_self)⟩
    have hlater := ih ⟨fun hmem => hquote (List.mem_cons_of_mem _ hmem),
      fun hmem => hslash (List.mem_cons_of_mem _ hmem)⟩
    rw [List.cons_append, literal?, hlater]
    · rfl
    · rintro rfl
      exact hc.1 rfl
    · rintro d ds rfl
      exact absurd rfl hc.2

/-- The arguments of a call that has none. -/
theorem arguments?_nil : arguments? [')', ';'] = some [] := by
  decide

/-- The argument of a call that has one. -/
theorem arguments?_single {cs : List Char} (h : ',' ∉ cs) :
    arguments? (',' :: cs ++ [')', ';']) = some [cs] := by
  have hinner : [')', ';'].isSuffixOf? (',' :: cs ++ [')', ';']) = some (',' :: cs) := by
    simp [List.isSuffixOf?, List.isPrefixOf?]
  rw [arguments?, hinner]
  simp only [Text.split, if_true, Text.split_of_notMem h]

/-- A line with a closed literal is read as the call that it spells. -/
theorem printCall?_line {shown rest : List Char} {arguments : List (List Char)}
    (hshown : Plain shown) (hrest : arguments? rest = some arguments) :
    printCall? ("  printf (\"".toList ++ (shown ++ '\\' :: 'n' :: '"' :: rest)) =
      some ⟨shown ++ ['\\', 'n'], arguments⟩ := by
  have hprefix (cs : List Char) :
      "printf (\"".toList.isPrefixOf? (("  printf (\"".toList ++ cs).dropWhile (· = ' ')) =
        some cs := by
    simp [List.isPrefixOf?]
  rw [printCall?, hprefix]
  simp only [literal?_plain hshown, hrest, Option.map_some]

/-! ## Calls for texts and for fields -/

/-- A call that prints a text: one escaped newline at the end, no conversion and no argument. -/
structure PrintCall.PrintsText (call : PrintCall) : Prop where
  literal : ∃ shown, call.literal = shown ++ ['\\', 'n'] ∧ Plain shown
  conversions : '%' ∉ call.literal
  arguments : call.arguments = []

/--
A call that prints a field: its literal shows the name of the field, has one conversion and no
other, and ends in an escaped newline; its one argument is the field of that name.
-/
structure PrintCall.PrintsField (f : Field) (call : PrintCall) : Prop where
  literal : ∃ shown, call.literal = shown ++ ['\\', 'n'] ∧ Plain shown ∧
    ∃ conversion ∈ ["%d", "%ld", "%x"], shown = ("  " ++ f.name ++ " = " ++ conversion).toList
  conversions : call.literal.count '%' = 1
  arguments : call.arguments = [("var->" ++ f.name).toList]

/-- A function that prints a layout: a text, one call for each field in order, and a text. -/
structure Function.Prints (l : Layout) (fn : Function) : Prop where
  head : fn.head = ("void var_dump_" ++ l.name ++ " (struct " ++ l.name ++ " * var) \x7b").toList
  calls : ∃ opening fields closing, fn.calls = opening :: (fields ++ [closing]) ∧
    opening.PrintsText ∧ opening.literal = ("struct " ++ l.name ++ " = \x7b\\n").toList ∧
    List.Forall₂ PrintCall.PrintsField l.fields fields ∧
    closing.PrintsText ∧ closing.literal = "\x7d\\n".toList

/-! ## Lines of generated code -/

variable (root : Option Path)

/-- The line of a field is read as a call that prints the field. -/
theorem printCall?_fieldLine {f : Field} (h : IsWord f.name) :
    ∃ call, printCall? (fieldLine (Settings.defaults root) f).toList = some call ∧
      call.PrintsField f := by
  have hquote := h.notMem (c := '"') (by decide)
  have hslash := h.notMem (c := '\\') (by decide)
  have hpercent : f.name.toList.count '%' = 0 := List.count_eq_zero.mpr (h.notMem (by decide))
  have hcomma := h.notMem (c := ',') (by decide)
  have hargument : arguments? (',' :: ("var->" ++ f.name).toList ++ [')', ';']) =
      some [("var->" ++ f.name).toList] := by
    apply arguments?_single
    simp [hcomma]
  have hconversion := Settings.formatSpecifier_defaults root f.typename
  unfold fieldLine
  generalize Settings.formatSpecifier (Settings.defaults root) f.typename = conversion
    at hconversion
  -- What the literal shows is the name of the field and the conversion.
  obtain ⟨shown, hshown⟩ : ∃ shown, shown = ("  " ++ f.name ++ " = " ++ conversion).toList :=
    ⟨_, rfl⟩
  have hfacts : Plain shown ∧ (shown ++ ['\\', 'n']).count '%' = 1 := by
    simp only [List.mem_cons, List.not_mem_nil, or_false] at hconversion
    rcases hconversion with rfl | rfl | rfl <;> simp [hshown, Plain, hquote, hslash, hpercent]
  refine ⟨⟨shown ++ ['\\', 'n'], [("var->" ++ f.name).toList]⟩, ?_, ?_⟩
  · have hline := printCall?_line hfacts.1 hargument
    rw [← hline, hshown]
    simp
  · exact ⟨⟨shown, rfl, hfacts.1, conversion, hconversion, hshown⟩, hfacts.2, rfl⟩

/-- A line that prints a plain text without a conversion is read as a call that prints it. -/
theorem printCall?_text {shown : List Char} (hplain : Plain shown) (hpercent : '%' ∉ shown) :
    ∃ call : PrintCall,
      printCall? ("  printf (\"".toList ++ (shown ++ '\\' :: 'n' :: '"' :: [')', ';'])) =
          some call ∧
        call.PrintsText ∧ call.literal = shown ++ ['\\', 'n'] := by
  refine ⟨⟨shown ++ ['\\', 'n'], []⟩, printCall?_line hplain arguments?_nil, ?_, rfl⟩
  exact ⟨⟨shown, rfl, hplain⟩, by simp [hpercent], rfl⟩

/-! ## Functions -/

/-- Lines that are read as calls make a body, up to the closing brace. -/
theorem body?_lines {lines : List (List Char)} {calls : List PrintCall}
    (h : List.Forall₂ (fun line call => printCall? line = some call) lines calls)
    (rest : List (List Char)) : body? (lines ++ ['\x7d'] :: rest) = some (calls, rest) := by
  induction h with
  | nil => simp [body?]
  | @cons line call lines calls hcall _ ih =>
    have hline : line ≠ ['\x7d'] := by
      rintro rfl
      have hnone : printCall? ['\x7d'] = none := by decide
      rw [hnone] at hcall
      contradiction
    simp only [List.cons_append, body?, if_neg hline, hcall, ih]

/-- A first line and a body after it are a function. -/
theorem functions?_cons {head : List Char} {lines rest : List (List Char)} {calls : List PrintCall}
    (h : body? lines = some (calls, rest)) :
    functions? (head :: lines) = (functions? rest).map (⟨head, calls⟩ :: ·) := by
  have hlines : lines ≠ [] := by
    rintro rfl
    simp [body?] at h
  rw [functions?]
  · split
    · rename_i hnone
      rw [h] at hnone
      contradiction
    · rename_i calls' rest' hsome
      rw [h] at hsome
      cases hsome
      rfl
  · rintro - rfl
    exact hlines rfl

/-- The lines of fields are read as calls that print the fields. -/
theorem exists_fieldCalls {fields : List Field} (h : ∀ f ∈ fields, IsWord f.name) :
    ∃ calls,
      List.Forall₂ (fun line call => printCall? line = some call)
        (fields.map fun f => (fieldLine (Settings.defaults root) f).toList) calls ∧
      List.Forall₂ PrintCall.PrintsField fields calls := by
  induction fields with
  | nil => exact ⟨[], .nil, .nil⟩
  | cons f fields ih =>
    obtain ⟨call, hcall, hprints⟩ := printCall?_fieldLine root (h f List.mem_cons_self)
    obtain ⟨calls, hcalls, hall⟩ := ih fun g hg => h g (List.mem_cons_of_mem _ hg)
    exact ⟨call :: calls, .cons hcall hcalls, .cons hprints hall⟩

/-- The lines of a function are read as one function, which prints its layout. -/
theorem functions?_functionLines {l : Layout} (h : l.Worded) (rest : List (List Char)) :
    ∃ fn : Function, fn.Prints l ∧
      functions? ((functionLines (Settings.defaults root) l).map String.toList ++ rest) =
        (functions? rest).map (fn :: ·) := by
  have hquote := h.1.notMem (c := '"') (by decide)
  have hslash := h.1.notMem (c := '\\') (by decide)
  have hpercent := h.1.notMem (c := '%') (by decide)
  obtain ⟨opening, hopening, hopens, hopeningText⟩ :=
    @printCall?_text ("struct " ++ l.name ++ " = \x7b").toList
      (by simp [Plain, hquote, hslash]) (by simp [hpercent])
  obtain ⟨closing, hclosing, hcloses, hclosingText⟩ :=
    @printCall?_text "\x7d".toList (by simp [Plain]) (by simp)
  obtain ⟨calls, hcalls, hall⟩ := exists_fieldCalls root h.2
  let head := ("void var_dump_" ++ l.name ++ " (struct " ++ l.name ++ " * var) \x7b").toList
  refine ⟨⟨head, opening :: (calls ++ [closing])⟩, ⟨rfl, opening, calls, closing, rfl, hopens, ?_,
    hall, hcloses, hclosingText⟩, ?_⟩
  · rw [hopeningText]
    simp
  · -- The first line is followed by the lines of the calls and by a brace.
    have hbody := body?_lines (.cons hopening (List.rel_append hcalls (.cons hclosing .nil))) rest
    rw [← functions?_cons hbody]
    simp [functionLines, Settings.prefixFor_defaults, head, Function.comp_def]

/-! ## Whole texts -/

/-- No line of a function has a newline in it. -/
theorem newline_notMem_functionLines {l : Layout} (h : l.Worded) :
    ∀ line ∈ functionLines (Settings.defaults root) l, '\n' ∉ line.toList := by
  have hnewline {name : String} (hname : IsWord name) : '\n' ∉ name.toList :=
    hname.notMem (by decide)
  have hfields (f : Field) (hf : f ∈ l.fields) :
      '\n' ∉ (fieldLine (Settings.defaults root) f).toList := by
    have hconversion := Settings.formatSpecifier_defaults root f.typename
    unfold fieldLine
    generalize Settings.formatSpecifier (Settings.defaults root) f.typename = conversion
      at hconversion
    simp only [List.mem_cons, List.not_mem_nil, or_false] at hconversion
    rcases hconversion with rfl | rfl | rfl <;> simp [hnewline (h.2 f hf)]
  intro line hline
  simp only [functionLines, Settings.prefixFor_defaults, List.mem_append, List.mem_cons,
    List.mem_map, List.not_mem_nil, or_false] at hline
  rcases hline with ((rfl | rfl) | ⟨f, hf, rfl⟩) | (rfl | rfl)
  · simp [hnewline h.1]
  · simp [hnewline h.1]
  · exact hfields f hf
  · simp
  · simp

/-- Generated code is read as one function for each layout, in order. -/
theorem functions?_dumpCode {ls : List Layout} (h : ∀ l ∈ ls, l.Worded) :
    ∃ fns,
      functions? (Text.split '\n' (dumpCode (Settings.defaults root) false ls).toList) =
        some fns ∧
      List.Forall₂ Function.Prints ls fns := by
  induction ls with
  | nil => exact ⟨[], by simp [dumpCode, Text.split, functions?], .nil⟩
  | cons l ls ih =>
    have hl := h l List.mem_cons_self
    obtain ⟨fns, hfns, hall⟩ := ih fun l' hl' => h l' (List.mem_cons_of_mem _ hl')
    have hcode : (dumpCode (Settings.defaults root) false (l :: ls)).toList =
        (dumpFunction (Settings.defaults root) l).toList ++
          (dumpCode (Settings.defaults root) false ls).toList := by
      simp [dumpCode]
    obtain ⟨fn, hprints, hfn⟩ := functions?_functionLines root hl
      (Text.split '\n' (dumpCode (Settings.defaults root) false ls).toList)
    refine ⟨fn :: fns, ?_, .cons hprints hall⟩
    rw [hcode, dumpFunction, Text.split_lines (newline_notMem_functionLines root hl), hfn, hfns]
    rfl

end Code

/-! ## Layouts that a scan finds -/

/-- A layout that is valid has words for its names. -/
theorem Layout.Valid.worded {l : Layout} (h : l.Valid) : l.Worded :=
  ⟨h.name.word, fun f hf => (h.fields f hf).name.word⟩

/-- The layouts among the pieces of lexed tokens are valid. -/
theorem Accounts.valid {last : Nat} {ts : List Token} {segments : List Segment}
    (h : Accounts last ts segments) (hlexed : ∀ t ∈ ts, t.Lexed) :
    ∀ l ∈ layoutsOf segments, l.Valid := by
  induction h with
  | nil => simp [layoutsOf]
  | dropped _ _ ih => exact ih fun t ht => hlexed t (List.mem_cons_of_mem _ ht)
  | @found _ keyword body rest layout segments _ hspells _ ih =>
    obtain ⟨hbody, hrest⟩ := List.forall_mem_append.mp (List.forall_mem_cons.mp hlexed).2
    intro l hl
    rw [layoutsOf_found] at hl
    rcases List.mem_cons.mp hl with rfl | hl
    · exact (hspells.valid hbody).1
    · exact ih hrest l hl
  | @skipped _ keyword matched left rest malformed segments _ hgivesUp _ ih =>
    refine ih fun t ht => hlexed t ?_
    simp [hgivesUp.refuses.tokens, ht]

/--
The code that is generated with the default settings for the layouts of any text, read back: one
function for each layout that the text completes, in the order of the text, and in it a call for
each field in the order of the fields, between two calls that print a text.  Every literal ends
in an escaped newline and has no other backslash and no quote.  The literal of a field shows its
name and has one conversion; the call has the field of that name as its one argument.  The other
literals have no conversion, and their calls no argument.
-/
theorem Scan.functions?_of_text (text : String) (report : Option Report) (root : Option Path) :
    ∃ segments fns,
      Accounts (Text.lines text).length (TokenStream.tokensOfText text) segments ∧
      (ofText text report).rest.1 = .ok (layoutsOf segments) ∧
      Code.functions? (Text.split '\n'
        (dumpCode (Settings.defaults root) false (layoutsOf segments)).toList) = some fns ∧
      List.Forall₂ Code.Function.Prints (layoutsOf segments) fns := by
  obtain ⟨segments, haccounts, hlayouts, -⟩ := rest_ofText text report
  have hvalid := haccounts.valid fun t => TokenStream.lexed_of_mem_tokensOfText
  obtain ⟨fns, hfns, hall⟩ := Code.functions?_dumpCode root fun l hl => (hvalid l hl).worded
  exact ⟨segments, fns, haccounts, hlayouts, hfns, hall⟩

end StructScan
