import Mathlib.Data.List.Forall2
import StructScan.Proofs.Grammar.Shift
import StructScan.Proofs.Scan.Segments
import StructScan.Proofs.Text.Lines
import StructScan.Proofs.Token.Visible

/-!
# Scanning on after a closing brace and a semicolon

Whatever stands before them, a closing brace and a semicolon leave no construct
unsettled: it is complete, or it was given up at one of them or before.  The tokens
after them are cut up as if nothing stood before, and so is any text after a text that
ends in this way.

Main results:

- Theorem `GivesUp.append`: a construct that is given up before the end is given up in
  the same way when tokens are added at the end.
- Theorem `Accounts.append`: sealed tokens, and tokens in which nothing was skipped,
  are cut up apart from what follows.
- Theorem `Accounts.shift`: tokens further down are cut up alike.
- Theorem `Scan.rest_ofText_append`: a scan of two texts finds what scans of both find,
  and reports what they report.
-/

namespace StructScan

open TokenStream

/-! ## Sealed tokens -/

/-- Tokens that end in a closing brace and a semicolon. -/
def Sealed (ts : List Token) : Prop :=
  ∃ before brace semicolon, ts = before ++ [brace, semicolon] ∧ brace.kind = .closeBrace ∧
    semicolon.kind = .semicolon

/-- What follows a keyword up to the end of sealed tokens is sealed. -/
theorem Sealed.of_keyword {before ts : List Token} {keyword : Token} {construct : Construct}
    (hkind : Construct.ofKind? keyword.kind = some construct)
    (h : Sealed (before ++ keyword :: ts)) : Sealed ts := by
  obtain ⟨start, brace, semicolon, heq, hbrace, hsemicolon⟩ := h
  rw [List.append_cons, List.append_eq_append_iff] at heq
  rcases heq with ⟨middle, -, hts⟩ | ⟨tail, hbefore, hts⟩
  · exact ⟨middle, brace, semicolon, hts, hbrace, hsemicolon⟩
  · -- The keyword is neither the brace nor the semicolon, so it stands before both.
    rcases List.eq_nil_or_concat tail with rfl | ⟨tail, t, rfl⟩
    · exact ⟨[], brace, semicolon, hts.symm, hbrace, hsemicolon⟩
    · rw [List.concat_eq_append, ← List.append_assoc] at hbefore
      obtain ⟨-, hlast⟩ := List.append_inj' hbefore rfl
      obtain rfl : keyword = t := by simpa using hlast
      have hmem : keyword ∈ [brace, semicolon] := by simp [hts]
      rcases List.mem_pair.mp hmem with rfl | rfl
      · simp [hbrace, Construct.ofKind?] at hkind
      · simp [hsemicolon, Construct.ofKind?] at hkind

/-- An opened body holds no closing brace. -/
theorem OpenBody.ne_closeBrace {fs : List Field} {ts : List Token} (h : OpenBody fs ts) :
    ∀ t ∈ ts, t.kind ≠ .closeBrace := by
  obtain ⟨hbrace, hfields⟩ := h
  intro t ht
  rcases List.mem_cons.mp ht with rfl | ht
  · simp [hbrace]
  · exact (Token.Kind.inField_eq_true (hfields.inField t ht)).2.1

/-- A tag is no closing brace. -/
theorem Tag.ne_closeBrace {ts : List Token} (h : Tag ts) : ∀ t ∈ ts, t.kind ≠ .closeBrace := by
  cases h with
  | absent => simp
  | present hname => simp [hname]

/--
A construct that has begun holds no closing brace yet, or goes on behind the brace with
something other than a semicolon.
-/
theorem Begins.ne_closeBrace {construct : Construct} {what : Expectation} {ts : List Token}
    (h : Begins construct what ts) :
    (∀ t ∈ ts, t.kind ≠ .closeBrace) ∨
      (what ≠ .closeBraceOrField ∧ ∃ begun t, ts = begun ++ [t] ∧ t.kind ≠ .semicolon) := by
  cases h with
  | structName => simp
  | structOpen hname => simp [hname]
  | structClose hname hopened =>
    left
    intro t ht
    rcases List.mem_cons.mp ht with rfl | ht
    · simp [hname]
    · exact hopened.ne_closeBrace t ht
  | @structEnd name _ _ _ hbody =>
    obtain @⟨opened, brace, _, hbrace⟩ := hbody
    exact .inr ⟨by simp, name :: opened, brace, by simp, by simp [hbrace]⟩
  | typedefStruct => simp
  | typedefOpen hstruct htag =>
    left
    intro t ht
    rcases List.mem_cons.mp ht with rfl | ht
    · simp [hstruct]
    · exact htag.ne_closeBrace t ht
  | typedefClose hstruct htag hopened =>
    left
    intro t ht
    rcases List.mem_append.mp ht with ht | ht
    · rcases List.mem_cons.mp ht with rfl | ht
      · simp [hstruct]
      · exact htag.ne_closeBrace t ht
    · exact hopened.ne_closeBrace t ht
  | @typedefName struct tag _ _ _ _ hbody =>
    obtain @⟨opened, brace, _, hbrace⟩ := hbody
    exact .inr ⟨by simp, struct :: tag ++ opened, brace, by simp, by simp [hbrace]⟩
  | typedefEnd _ _ _ hname => exact .inr ⟨by simp, _, _, rfl, by simp [hname]⟩

/-- A construct that is given up in sealed tokens is given up before their end. -/
theorem GivesUp.of_sealed {construct : Construct} {last : Nat} {matched left rest : List Token}
    {e : Malformed} (h : GivesUp construct last matched left e rest)
    (hsealed : Sealed (matched ++ left)) :
    left ≠ [] ∧ (e.expected = .closeBraceOrField → ∃ t ∈ left, t.kind = .closeBrace) := by
  obtain ⟨before, brace, semicolon, heq, hbrace, hsemicolon⟩ := hsealed
  rcases h.begins.ne_closeBrace with hopen | ⟨hwhat, begun, t, rfl, ht⟩
  · have hmem : brace ∈ matched ++ left := by simp [heq]
    rcases List.mem_append.mp hmem with hmem | hmem
    · exact absurd hbrace (hopen brace hmem)
    · exact ⟨List.ne_nil_of_mem hmem, fun _ => ⟨brace, hmem, hbrace⟩⟩
  · refine ⟨?_, fun hwhat' => absurd hwhat' hwhat⟩
    rintro rfl
    rw [List.append_nil, List.append_cons before] at heq
    obtain ⟨-, hlast⟩ := List.append_inj' heq rfl
    obtain rfl : t = semicolon := by simpa using hlast
    exact ht hsemicolon

/-! ## Adding tokens at the end -/

theorem Refuses.append {last : Nat} {e : Malformed} {left rest : List Token}
    (h : Refuses last e left rest) (hleft : left ≠ []) (last' : Nat) (us : List Token) :
    Refuses last' e (left ++ us) (rest ++ us) := by
  obtain ⟨t, left, rfl⟩ := List.exists_cons_of_ne_nil hleft
  obtain ⟨hfound, rfl⟩ := h.found_of_cons
  refine ⟨by simp [hfound], h.refused, by simp [hfound], ?_⟩
  simpa [hfound] using h.line

/-- What may come next is a field, or a single token. -/
theorem MayFollow.inField_or_singleton {construct : Construct} {what : Expectation}
    {begun part : List Token} (h : MayFollow construct what begun part) :
    (what = .closeBraceOrField ∧ ∀ t ∈ part, t.kind.inField = true) ∨ ∃ t, part = [t] := by
  cases h with
  | field hfield => exact .inl ⟨rfl, hfield.inField⟩
  | tag hname => exact .inr ⟨_, rfl⟩

/--
A construct that is given up before the end is given up in the same way when tokens are
added at the end: they neither complete a field nor are they needed for the failure.
-/
theorem GivesUp.append {construct : Construct} {last : Nat} {matched left rest : List Token}
    {e : Malformed} (h : GivesUp construct last matched left e rest) (hleft : left ≠ [])
    (hbrace : e.expected = .closeBraceOrField → ∃ t ∈ left, t.kind = .closeBrace)
    (last' : Nat) (us : List Token) :
    GivesUp construct last' matched (left ++ us) e (rest ++ us) where
  begins := h.begins
  longest part later hpart heq := by
    rcases List.append_eq_append_iff.mp heq with ⟨more, rfl, -⟩ | ⟨more, hmore, -⟩
    · -- The part reaches up to the old end or beyond it: no field does so over a brace.
      rcases hpart.inField_or_singleton with ⟨hwhat, hfield⟩ | ⟨t, ht⟩
      · obtain ⟨brace, hmem, hkind⟩ := hbrace hwhat
        have hinField := hfield brace (List.mem_append_left more hmem)
        exact (Token.Kind.inField_eq_true hinField).2.1 hkind
      · obtain ⟨rfl, rfl⟩ | ⟨rfl, -⟩ := List.append_eq_singleton_iff.mp ht
        · exact hleft rfl
        · exact h.longest _ [] hpart (by simp_all)
    · exact h.longest part more hpart hmore
  refuses := h.refuses.append hleft last' us

/--
Tokens at the end of sealed ones, and tokens in which nothing was skipped, are cut up
apart from what follows.
-/
theorem Accounts.append {last last' : Nat} {ts us : List Token} {segments later : List Segment}
    (h : Accounts last ts segments)
    (hcut : (∃ before, Sealed (before ++ ts)) ∨ skipsOf segments = [])
    (h' : Accounts last' us later) : Accounts last' (ts ++ us) (segments ++ later) := by
  induction h with
  | nil => exact h'
  | @dropped token rest _ hkind _ ih =>
    refine .dropped hkind (ih ?_)
    rcases hcut with ⟨before, hsealed⟩ | hskips
    · exact .inl ⟨before ++ [token], by simpa using hsealed⟩
    · exact .inr hskips
  | @found _ keyword body rest _ _ hkind hspells _ ih =>
    rw [List.cons_append, List.append_assoc]
    refine .found hkind hspells (ih ?_)
    rcases hcut with ⟨before, hsealed⟩ | hskips
    · exact .inl ⟨before ++ keyword :: body, by simpa using hsealed⟩
    · exact .inr hskips
  | @skipped _ keyword matched left rest malformed _ hkind hgivesUp _ ih =>
    rcases hcut with ⟨before, hsealed⟩ | hskips
    · obtain ⟨hleft, hbrace⟩ := hgivesUp.of_sealed (hsealed.of_keyword hkind)
      rw [List.cons_append, List.append_assoc]
      refine .skipped hkind (hgivesUp.append hleft hbrace last' us) (ih (.inl ?_))
      rw [hgivesUp.refuses.tokens] at hsealed
      exact ⟨before ++ keyword :: matched ++ malformed.found.toList, by simpa using hsealed⟩
    · simp [skipsOf, Segment.skip?] at hskips

/-! ## Segments further down -/

/-- The skipped construct a number of lines further down. -/
def Skip.shift (n : Int) (s : Skip) : Skip where
  construct := s.construct
  keyword := s.keyword.shift n
  malformed := s.malformed.shift n

/-- The piece a number of lines further down. -/
def Segment.shift (n : Int) : Segment → Segment
  | dropped token => dropped (token.shift n)
  | found construct keyword body layout =>
    found construct (keyword.shift n) (body.map (Token.shift n)) layout
  | skipped skip matched => skipped (skip.shift n) (matched.map (Token.shift n))

@[simp]
theorem layoutsOf_shift (n : Int) (segments : List Segment) :
    layoutsOf (segments.map (Segment.shift n)) = layoutsOf segments := by
  rw [layoutsOf, List.filterMap_map]
  refine List.filterMap_congr fun segment _ => ?_
  cases segment <;> rfl

@[simp]
theorem skipsOf_shift (n : Int) (segments : List Segment) :
    skipsOf (segments.map (Segment.shift n)) = (skipsOf segments).map (Skip.shift n) := by
  rw [skipsOf, skipsOf, List.filterMap_map, List.map_filterMap]
  refine List.filterMap_congr fun segment _ => ?_
  cases segment <;> rfl

/-- Tokens further down are cut up alike. -/
theorem Accounts.shift {last : Nat} {ts : List Token} {segments : List Segment}
    (h : Accounts last ts segments) (n : Nat) :
    Accounts (last + n) (ts.map (Token.shift n)) (segments.map (Segment.shift n)) := by
  induction h with
  | nil => exact .nil
  | dropped hkind _ ih => exact .dropped hkind ih
  | found hkind hspells _ ih =>
    rw [List.map_cons, List.map_append]
    exact .found hkind (hspells.shift n) ih
  | skipped hkind hgivesUp _ ih =>
    rw [List.map_cons, List.map_append]
    exact .skipped hkind (hgivesUp.shift n) ih

/--
One warning is another moved down: on its line and on the line that its message names a
number of lines are added, and all else is the same.
-/
def Diagnostic.Moved (n : Nat) (d moved : Diagnostic) : Prop :=
  moved.line = d.line + n ∧ moved.code = d.code ∧
    ∃ (keyword : String) (line : Int) (reason : String),
      d.message = s!"skipped '{keyword}' at line {line}: {reason}" ∧
      moved.message = s!"skipped '{keyword}' at line {line + n}: {reason}"

/-- The warning about a skipped construct moves down with it. -/
theorem Skip.diagnostic_shift (n : Nat) (s : Skip) :
    s.diagnostic.Moved n (s.shift n).diagnostic := by
  refine ⟨rfl, rfl, s.keyword.text, s.keyword.line, s.malformed.reason, rfl, ?_⟩
  simp [diagnostic, shift]

/-! ## Two texts -/

/-- The tokens of a text come before those of what follows, which are further down. -/
theorem TokenStream.tokensOfText_append {text : String}
    (hnewline : text.toList.getLast? = some '\n')
    (hcode : (Token.visibleFrom 1 .code (Text.lines text)).2 = .code) (later : String) :
    tokensOfText (text ++ later) =
      tokensOfText text ++ (tokensOfText later).map (Token.shift (Text.lines text).length) := by
  have hgap := (Token.linesTokens_tile 1 .code (Text.lines text)).1
  simp only [tokensOfText_eq_linesTokens]
  rw [Text.lines_append hnewline, Token.linesTokens_append, hgap, hcode, Token.linesTokens_shift]

namespace Scan

/-- Scanning a text to its end finds layouts and adds warnings to the report, if there is one. -/
structure Gives (text : String) (layouts : List Layout) (warnings : List Diagnostic) : Prop where
  found : ∀ report, (ofText text report).rest.1 = .ok layouts
  warned : ∀ report, (ofText text report).rest.2.report = report.map fun r => r.warn warnings

/-- How the tokens of a text are cut up says what a scan gives, whatever its report. -/
theorem gives_of_accounts {text : String} {segments : List Segment}
    (h : Accounts (Text.lines text).length (tokensOfText text) segments) :
    Gives text (layoutsOf segments) ((skipsOf segments).map Skip.diagnostic) where
  found report := (rest_of_accounts h report).1
  warned report := (rest_of_accounts h report).2

/--
A text that ends its last line outside of a comment, and either ends in a closing brace and
a semicolon or is scanned without a warning, is scanned apart from what follows.  A scan of
both finds the layouts of the one and then those of the other; it warns about the one, and
then about the other with all lines moved down by the lines of the one.
-/
theorem rest_ofText_append {text : String} (later : String)
    (hnewline : text.toList.getLast? = some '\n')
    (hcode : (Token.visibleFrom 1 .code (Text.lines text)).2 = .code)
    (hcut : Sealed (tokensOfText text) ∨
      ∃ report, (ofText text (some {})).rest.2.report = some report ∧ report.warnings = []) :
    ∃ layouts layouts' warnings warnings' moved,
      Gives text layouts warnings ∧ Gives later layouts' warnings' ∧
      Gives (text ++ later) (layouts ++ layouts') (warnings ++ moved) ∧
      List.Forall₂ (Diagnostic.Moved (Text.lines text).length) warnings' moved := by
  obtain ⟨segments, haccounts, -, hreport⟩ := rest_ofText text (some {})
  obtain ⟨segments', haccounts', -⟩ := rest_ofText later none
  have hcut' : (∃ before, Sealed (before ++ tokensOfText text)) ∨ skipsOf segments = [] := by
    rcases hcut with hsealed | ⟨report, hreport', hwarnings⟩
    · exact .inl ⟨[], hsealed⟩
    · right
      rw [hreport] at hreport'
      cases hreport'
      simpa [Report.warn] using hwarnings
  have hboth := haccounts.append hcut' (haccounts'.shift (Text.lines text).length)
  rw [← tokensOfText_append hnewline hcode, Nat.add_comm, ← List.length_append,
    ← Text.lines_append hnewline] at hboth
  have hgives := gives_of_accounts hboth
  simp only [layoutsOf_append, layoutsOf_shift, skipsOf_append, skipsOf_shift, List.map_append,
    List.map_map] at hgives
  refine ⟨_, _, _, _, _, gives_of_accounts haccounts, gives_of_accounts haccounts', hgives, ?_⟩
  rw [List.forall₂_map_left_iff, List.forall₂_map_right_iff]
  exact List.forall₂_same.mpr fun skip _ => skip.diagnostic_shift _

/-- A struct with half a field is skipped, and one without an end after it is skipped on its own. -/
theorem rest_ofText_append_halfField :
    Sealed (tokensOfText "struct A \x7b int \x7d;\n") ∧
    ∃ layouts layouts' warnings warnings' moved,
      Gives "struct A \x7b int \x7d;\n" layouts warnings ∧
      Gives "struct B \x7b\n" layouts' warnings' ∧
      Gives ("struct A \x7b int \x7d;\n" ++ "struct B \x7b\n") (layouts ++ layouts')
        (warnings ++ moved) ∧
      List.Forall₂ (Diagnostic.Moved (Text.lines "struct A \x7b int \x7d;\n").length) warnings'
        moved := by
  have hsealed : Sealed (tokensOfText "struct A \x7b int \x7d;\n") := by
    refine ⟨[⟨.struct, "struct", 1⟩, ⟨.identifier, "A", 1⟩, ⟨.openBrace, "\x7b", 1⟩,
      ⟨.int, "int", 1⟩], ⟨.closeBrace, "\x7d", 1⟩, ⟨.semicolon, ";", 1⟩, ?_, rfl, rfl⟩
    decide +kernel
  exact ⟨hsealed, rest_ofText_append "struct B \x7b\n" (by decide) (by decide) (.inl hsealed)⟩

end Scan

end StructScan
