import StructScan.Proofs.Scan.Respacing

/-!
# Layouts written and read back

A layout can be written as a `struct`, as an anonymous `typedef` or as a `typedef` with a
tag.  As long as its names are identifiers and its types are `int`, `long` or identifiers
with at most one star, a scan of what was written finds the layout again, and any number
of layouts written one after the other are found in order without a warning.

Main results:

- Theorem `Reads.word`: a word in front of a character of no word is read as one token.
- Theorem `Field.source_reads`: a written field is read as the tokens of the field.
- Theorem `Layout.source_reads`: a written layout is read as a complete construct.
- Theorem `Scan.rest_sources`: a scan of written layouts finds them, and warns of nothing.
-/

namespace StructScan

open Token (face faces)
open TokenStream (tokensOfText)

/-! ## Names -/

/-- A word that names something: no keyword, and not a number. -/
structure IsIdentifier (name : String) : Prop where
  ne_empty : name ≠ ""
  word : ∀ c ∈ name.toList, Text.isWordChar c = true
  head : ∀ c ∈ name.toList.head?, Text.isDigit c = false
  notKeyword : name ∉ ["struct", "typedef", "class", "int", "long"]

/-- Identifiers are told by checks on their characters. -/
theorem isIdentifier_iff {name : String} :
    IsIdentifier name ↔ name ≠ "" ∧ name.toList.all Text.isWordChar = true ∧
      name.toList.head?.any Text.isDigit = false ∧
      name ∉ ["struct", "typedef", "class", "int", "long"] := by
  have hhead : name.toList.head?.any Text.isDigit = false ↔
      ∀ c ∈ name.toList.head?, Text.isDigit c = false := by
    cases name.toList.head? <;> simp
  rw [List.all_eq_true, hhead]
  constructor
  · intro h
    exact ⟨h.ne_empty, h.word, h.head, h.notKeyword⟩
  · rintro ⟨hne, hword, hstart, hnot⟩
    exact ⟨hne, hword, hstart, hnot⟩

instance (name : String) : Decidable (IsIdentifier name) :=
  decidable_of_iff _ isIdentifier_iff.symm

/-- A type as it is written in front of a field, without a star. -/
def IsBaseType (base : String) : Prop :=
  base = "int" ∨ base = "long" ∨ IsIdentifier base

/-- A field with an identifier as its name, and a type that has at most one star. -/
structure Field.Valid (f : Field) : Prop where
  name : IsIdentifier f.name
  typename : ∃ base, IsBaseType base ∧ (f.typename = base ∨ f.typename = base ++ "*")

/-- A layout with an identifier as its name and with valid fields. -/
structure Layout.Valid (l : Layout) : Prop where
  name : IsIdentifier l.name
  fields : ∀ f ∈ l.fields, f.Valid

/-! ## Source text -/

/-- The ways to write a layout. -/
inductive Form where
  /-- As `struct Name { … };`. -/
  | plain
  /-- As `typedef struct { … } Name;`. -/
  | anonymous
  /-- As `typedef struct Tag { … } Name;`. -/
  | tagged (tag : String)
  deriving DecidableEq, Repr

/-- A form whose tag, if it has one, is an identifier. -/
def Form.Valid : Form → Prop
  | tagged tag => IsIdentifier tag
  | _ => True

/-- A field as it is written: the star of a pointer stands in front of the name. -/
def Field.source (f : Field) : String :=
  if f.isPointer then String.ofList f.typename.toList.dropLast ++ " *" ++ f.name ++ "; "
  else f.typename ++ " " ++ f.name ++ "; "

/-- The fields of a layout as they are written between braces. -/
def Layout.body (l : Layout) : String :=
  "\x7b " ++ String.join (l.fields.map Field.source) ++ "\x7d"

/-- A layout as it is written in a form. -/
def Layout.source (l : Layout) : Form → String
  | .plain => "struct " ++ l.name ++ " " ++ l.body ++ ";"
  | .anonymous => "typedef struct " ++ l.body ++ " " ++ l.name ++ ";"
  | .tagged tag => "typedef struct " ++ tag ++ " " ++ l.body ++ " " ++ l.name ++ ";"

/-! ## Reading characters -/

/-- Characters that are read as certain tokens, whatever follows them. -/
def Reads (cs : List Char) (shown : List (Token.Kind × String)) : Prop :=
  ∀ later, faces .code (cs ++ later) = shown ++ faces .code later

namespace Reads

theorem nil : Reads [] [] :=
  fun _ => rfl

theorem append {cs ds : List Char} {shown shown' : List (Token.Kind × String)}
    (h : Reads cs shown) (h' : Reads ds shown') : Reads (cs ++ ds) (shown ++ shown') := by
  intro later
  rw [List.append_assoc, h, h', List.append_assoc]

theorem space {cs : List Char} {shown : List (Token.Kind × String)} (h : Reads cs shown) :
    Reads (' ' :: cs) shown := by
  intro later
  rw [List.cons_append, Token.faces_blank (by decide), h]

/-- A character that belongs to no word and is no slash is read as one token. -/
theorem single {c : Char} {cs : List Char} {shown : List (Token.Kind × String)}
    (hblank : Text.isBlank c = false) (hsingle : Text.isWordChar c = false) (hslash : c ≠ '/')
    (h : Reads cs shown) :
    Reads (c :: cs) ((Token.Kind.ofPunctuation c, String.ofList [c]) :: shown) := by
  intro later
  rw [List.cons_append, Token.faces_single hblank hsingle fun heq => absurd heq hslash, h,
    List.cons_append]

/-- A word in front of a character that belongs to no word is read as one token. -/
theorem word {word : String} {t : Token} {c : Char} {cs : List Char}
    {shown : List (Token.Kind × String)} (ht : Token.ofWord? word 0 = some t)
    (hword : ∀ c ∈ word.toList, Text.isWordChar c = true) (hc : Text.isWordChar c = false)
    (h : Reads (c :: cs) shown) : Reads (word.toList ++ c :: cs) (t.face :: shown) := by
  intro later
  unfold Token.ofWord? at ht
  split at ht
  · contradiction
  · rename_i first rest hlist
    cases ht
    rw [hlist] at hword ⊢
    have hend (d : Char) (hd : (c :: cs ++ later).head? = some d) : Text.isWordChar d = false := by
      cases hd
      exact hc
    rw [List.append_assoc, Token.faces_word hword hend, h]
    rfl

end Reads

/-! ## Reading names -/

/-- An identifier is the word of an identifier token. -/
theorem IsIdentifier.ofWord? {name : String} (h : IsIdentifier name) :
    Token.ofWord? name 0 = some ⟨.identifier, name, 0⟩ := by
  have hkeyword : Token.Kind.keyword? name = none := by
    have hnot := h.notKeyword
    unfold Token.Kind.keyword?
    split <;> simp_all
  have hname : String.ofList name.toList = name := String.ofList_toList
  unfold Token.ofWord?
  cases hlist : name.toList with
  | nil => exact absurd (String.toList_eq_nil_iff.mp hlist) h.ne_empty
  | cons first rest =>
    have hdigit := h.head first (by rw [hlist]; rfl)
    rw [hlist] at hname
    simp [Token.ofWord, hname, hkeyword, hdigit]

/-- An identifier in front of a character that belongs to no word is read as one token. -/
theorem IsIdentifier.reads {name : String} (h : IsIdentifier name) {c : Char} {cs : List Char}
    {shown : List (Token.Kind × String)} (hc : Text.isWordChar c = false)
    (hcs : Reads (c :: cs) shown) :
    Reads (name.toList ++ c :: cs) ((.identifier, name) :: shown) :=
  .word h.ofWord? h.word hc hcs

/-- A type is the word of a token that can stand for a type. -/
theorem IsBaseType.ofWord? {base : String} (h : IsBaseType base) :
    ∃ kind, kind.isType = true ∧ Token.ofWord? base 0 = some ⟨kind, base, 0⟩ := by
  rcases h with rfl | rfl | h
  · exact ⟨.int, rfl, by decide⟩
  · exact ⟨.long, rfl, by decide⟩
  · exact ⟨.identifier, rfl, h.ofWord?⟩

theorem IsBaseType.word {base : String} (h : IsBaseType base) :
    ∀ c ∈ base.toList, Text.isWordChar c = true := by
  rcases h with rfl | rfl | h
  · exact List.all_eq_true.mp (by decide)
  · exact List.all_eq_true.mp (by decide)
  · exact h.word

/-- A field is a pointer exactly if its type ends in a star. -/
theorem Field.isPointer_iff (f : Field) : f.isPointer = true ↔ ['*'] <:+ f.typename.toList := by
  rw [isPointer, ← String.endsWith_toSlice, String.Slice.endsWith_string_iff, String.copy_toSlice]
  rfl

/-! ## Reading fields -/

/-- A written field is read as the tokens of the field. -/
theorem Field.source_reads {f : Field} (h : f.Valid) :
    ∃ ts, Declares f ts ∧ Reads f.source.toList (ts.map face) := by
  obtain ⟨hname, base, hbase, htypename⟩ := h
  obtain ⟨typename, name⟩ := f
  obtain ⟨kind, hkind, hword⟩ := hbase.ofWord?
  -- Both forms end in the name, a semicolon and a blank.
  have hend : Reads (name.toList ++ [';', ' ']) [(.identifier, name), (.semicolon, ";")] :=
    hname.reads (by decide) (.single (by decide) (by decide) (by decide) (.space .nil))
  rcases htypename with rfl | rfl
  · have hvalue : isPointer ⟨typename, name⟩ = false := by
      rw [Bool.eq_false_iff, Ne, isPointer_iff]
      intro hstar
      have := hbase.word '*' (hstar.mem (by simp))
      simp at this
    have hdeclares := @Declares.value ⟨kind, typename, 0⟩ ⟨.identifier, name, 0⟩
      ⟨.semicolon, ";", 0⟩ hkind rfl rfl
    refine ⟨_, hdeclares, ?_⟩
    have hsource : (source ⟨typename, name⟩).toList =
        typename.toList ++ ' ' :: (name.toList ++ [';', ' ']) := by
      simp [source, hvalue]
    rw [hsource]
    exact .word hword hbase.word (by decide) (.space hend)
  · have hpointer : isPointer ⟨base ++ "*", name⟩ = true := by
      rw [isPointer_iff]
      simp
    have hdeclares := @Declares.pointer ⟨kind, base, 0⟩ ⟨.star, "*", 0⟩ ⟨.identifier, name, 0⟩
      ⟨.semicolon, ";", 0⟩ hkind rfl rfl rfl
    refine ⟨_, hdeclares, ?_⟩
    have hsource : (source ⟨base ++ "*", name⟩).toList =
        base.toList ++ ' ' :: '*' :: (name.toList ++ [';', ' ']) := by
      simp [source, hpointer]
    rw [hsource]
    exact .word hword hbase.word (by decide)
      (.space (.single (by decide) (by decide) (by decide) hend))

/-- Written fields are read as the tokens of the fields. -/
theorem Field.sources_read {fs : List Field} (h : ∀ f ∈ fs, f.Valid) :
    ∃ ts, DeclaresAll fs ts ∧ Reads (String.join (fs.map source)).toList (ts.map face) := by
  induction fs with
  | nil => exact ⟨[], .nil, .nil⟩
  | cons f fs ih =>
    obtain ⟨ts, hdeclares, hreads⟩ := source_reads (h f (by simp))
    obtain ⟨us, hall, hreads'⟩ := ih fun g hg => h g (by simp [hg])
    refine ⟨ts ++ us, .cons hdeclares hall, ?_⟩
    rw [List.map_append]
    simpa using hreads.append hreads'

/-! ## Reading layouts -/

/-- The fields that are written between braces are read as the tokens of a body. -/
theorem Layout.body_reads {l : Layout} (h : l.Valid) :
    ∃ ts, Body l.fields ts ∧ Reads l.body.toList (ts.map face) := by
  obtain ⟨ts, hdeclares, hreads⟩ := Field.sources_read h.fields
  have hopened := @OpenBody.mk _ ⟨.openBrace, "\x7b", 0⟩ _ rfl hdeclares
  have hbody := @Body.mk _ _ ⟨.closeBrace, "\x7d", 0⟩ hopened rfl
  have hclose : Reads ['\x7d'] [(.closeBrace, "\x7d")] :=
    .single (by decide) (by decide) (by decide) .nil
  have hinner := (hreads.append hclose).space
  refine ⟨_, hbody, ?_⟩
  have hsource : l.body.toList =
      '\x7b' :: ' ' :: ((String.join (l.fields.map Field.source)).toList ++ ['\x7d']) := by
    simp [body]
  rw [hsource, List.map_append]
  exact hinner.single (by decide) (by decide) (by decide)

/-- A written layout is read as the keyword and the other tokens of a complete construct. -/
theorem Layout.source_reads {l : Layout} (h : l.Valid) {form : Form} (hform : form.Valid) :
    ∃ construct keyword ts, Construct.ofKind? keyword.kind = some construct ∧
      Spells construct l ts ∧ Reads (l.source form).toList ((keyword :: ts).map face) := by
  obtain ⟨body, hbody, hreads⟩ := l.body_reads h
  have hname := h.name
  have hend : Reads [';'] [(.semicolon, ";")] :=
    .single (by decide) (by decide) (by decide) .nil
  have hstruct {cs : List Char} {shown : List (Token.Kind × String)} (hcs : Reads cs shown) :
      Reads ("struct".toList ++ ' ' :: cs) ((.struct, "struct") :: shown) :=
    .word (t := ⟨.struct, "struct", 0⟩) (by decide) (List.all_eq_true.mp (by decide)) (by decide)
      hcs.space
  have htypedef {cs : List Char} {shown : List (Token.Kind × String)} (hcs : Reads cs shown) :
      Reads ("typedef".toList ++ ' ' :: cs) ((.typedef, "typedef") :: shown) :=
    .word (t := ⟨.typedef, "typedef", 0⟩) (by decide) (List.all_eq_true.mp (by decide)) (by decide)
      hcs.space
  -- Both typedefs end in a body, a name and a semicolon.
  have hnamed : Reads (l.body.toList ++ ' ' :: (l.name.toList ++ [';']))
      (body.map face ++ [(.identifier, l.name), (.semicolon, ";")]) :=
    hreads.append (.space (hname.reads (by decide) hend))
  cases form with
  | plain =>
    have hspells := @Spells.struct ⟨.identifier, l.name, 0⟩ ⟨.semicolon, ";", 0⟩ _ _ rfl hbody rfl
    refine ⟨.struct, ⟨.struct, "struct", 0⟩, _, rfl, hspells, ?_⟩
    have hsource : (l.source .plain).toList =
        "struct".toList ++ ' ' :: (l.name.toList ++ ' ' :: (l.body.toList ++ [';'])) := by
      unfold source
      simp
    rw [hsource, List.map_cons, List.map_append]
    exact hstruct (hname.reads (by decide) (hreads.append hend).space)
  | anonymous =>
    have hspells := @Spells.typedef ⟨.struct, "struct", 0⟩ ⟨.identifier, l.name, 0⟩
      ⟨.semicolon, ";", 0⟩ _ _ _ rfl .absent hbody rfl rfl
    refine ⟨.typedef, ⟨.typedef, "typedef", 0⟩, _, rfl, hspells, ?_⟩
    have hsource : (l.source .anonymous).toList = "typedef".toList ++ ' ' ::
        ("struct".toList ++ ' ' :: (l.body.toList ++ ' ' :: (l.name.toList ++ [';']))) := by
      unfold source
      simp
    rw [hsource, List.map_cons, List.map_append]
    exact htypedef (hstruct hnamed)
  | tagged tag =>
    have hspells := @Spells.typedef ⟨.struct, "struct", 0⟩ ⟨.identifier, l.name, 0⟩
      ⟨.semicolon, ";", 0⟩ _ _ _ rfl (@Tag.present ⟨.identifier, tag, 0⟩ rfl) hbody rfl rfl
    refine ⟨.typedef, ⟨.typedef, "typedef", 0⟩, _, rfl, hspells, ?_⟩
    have hsource : (l.source (.tagged tag)).toList = "typedef".toList ++ ' ' ::
        ("struct".toList ++ ' ' :: (tag.toList ++ ' ' ::
          (l.body.toList ++ ' ' :: (l.name.toList ++ [';'])))) := by
      unfold source
      simp
    rw [hsource, List.map_cons, List.map_append]
    exact htypedef (hstruct (IsIdentifier.reads hform (by decide) hnamed.space))

/-! ## Whole texts -/

/-- Written layouts are read as tokens that are cut up into their constructs and nothing else. -/
theorem Layout.sources_read {items : List (Layout × Form)} (hlayouts : ∀ i ∈ items, i.1.Valid)
    (hforms : ∀ i ∈ items, i.2.Valid) :
    ∃ ts segments, Accounts 0 ts segments ∧ layoutsOf segments = items.map Prod.fst ∧
      skipsOf segments = [] ∧
      Reads (String.join (items.map fun i => i.1.source i.2)).toList (ts.map face) := by
  induction items with
  | nil => exact ⟨[], [], .nil, rfl, rfl, .nil⟩
  | cons item items ih =>
    obtain ⟨construct, keyword, ts, hkind, hspells, hreads⟩ :=
      source_reads (hlayouts item (by simp)) (hforms item (by simp))
    obtain ⟨us, segments, haccounts, hfound, hskips, hreads'⟩ :=
      ih (fun i hi => hlayouts i (by simp [hi])) (fun i hi => hforms i (by simp [hi]))
    refine ⟨keyword :: (ts ++ us), .found construct keyword ts item.1 :: segments,
      .found hkind hspells haccounts, ?_, hskips, ?_⟩
    · rw [layoutsOf_found, hfound, List.map_cons]
    · rw [← List.cons_append, List.map_append]
      simpa using hreads.append hreads'

/--
Layouts that are written one after the other, each in any form, are found again in order by
a scan, which adds nothing to its report.
-/
theorem Scan.rest_sources {items : List (Layout × Form)} (hlayouts : ∀ i ∈ items, i.1.Valid)
    (hforms : ∀ i ∈ items, i.2.Valid) (report : Option Report) :
    let text := String.join (items.map fun i => i.1.source i.2)
    (ofText text report).rest.1 = .ok (items.map Prod.fst) ∧
      (ofText text report).rest.2.report = report := by
  intro text
  obtain ⟨ts, segments, haccounts, hfound, hskips, hreads⟩ :=
    Layout.sources_read hlayouts hforms
  obtain ⟨segments', haccounts', hlayouts', hreport⟩ := rest_ofText text report
  have hfaces : SameFaces (tokensOfText text) ts := by
    have hall := hreads []
    rw [List.append_nil] at hall
    rw [SameFaces, TokenStream.map_face_tokensOfText, hall]
    exact List.append_nil _
  obtain ⟨hsame, hcount⟩ := haccounts'.of_faces haccounts hfaces
  have hskips' : skipsOf segments' = [] := by
    rw [hskips] at hcount
    exact List.eq_nil_of_length_eq_zero hcount
  refine ⟨by rw [hlayouts', hsame, hfound], ?_⟩
  rw [hreport, notedIn, hskips']
  cases report with
  | none => rfl
  | some r => simp [Report.warn]

/-- A typedef whose tag is the name of the struct after it, and one with an accent in its name. -/
theorem Scan.rest_sources_tag :
    let items : List (Layout × Form) :=
      [(⟨"List", [⟨"long", "size"⟩, ⟨"Node*", "head"⟩]⟩, .tagged "Node"), (⟨"Node", []⟩, .plain),
        (⟨"été", [⟨"int*", "_1"⟩]⟩, .anonymous)]
    let text := String.join (items.map fun i => i.1.source i.2)
    ((∀ i ∈ items, i.1.Valid) ∧ ∀ i ∈ items, i.2.Valid) ∧
      (ofText text (some {})).rest.1 = .ok (items.map Prod.fst) ∧
      (ofText text (some {})).rest.2.report = some {} := by
  intro items text
  have hlist : Layout.Valid ⟨"List", [⟨"long", "size"⟩, ⟨"Node*", "head"⟩]⟩ := by
    refine ⟨by decide +kernel, ?_⟩
    simp only [List.mem_cons, List.not_mem_nil, or_false, forall_eq_or_imp, forall_eq]
    exact ⟨⟨by decide +kernel, "long", .inr (.inl rfl), .inl rfl⟩,
      ⟨by decide +kernel, "Node", .inr (.inr (by decide +kernel)), .inr (by decide)⟩⟩
  have hnode : Layout.Valid ⟨"Node", []⟩ := ⟨by decide +kernel, by simp⟩
  have haccent : Layout.Valid ⟨"été", [⟨"int*", "_1"⟩]⟩ := by
    refine ⟨by decide +kernel, ?_⟩
    simp only [List.mem_cons, List.not_mem_nil, or_false, forall_eq]
    exact ⟨by decide +kernel, "int", .inl rfl, .inr (by decide)⟩
  have hlayouts : ∀ i ∈ items, i.1.Valid := by
    simp only [items, List.mem_cons, List.not_mem_nil, or_false, forall_eq_or_imp, forall_eq]
    exact ⟨hlist, hnode, haccent⟩
  have hforms : ∀ i ∈ items, i.2.Valid := by
    simp only [items, List.mem_cons, List.not_mem_nil, or_false, forall_eq_or_imp, forall_eq]
    exact ⟨show IsIdentifier "Node" by decide +kernel, trivial, trivial⟩
  exact ⟨⟨hlayouts, hforms⟩, rest_sources hlayouts hforms (some {})⟩

end StructScan
