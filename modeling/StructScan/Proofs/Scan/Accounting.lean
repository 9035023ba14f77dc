import StructScan.Proofs.Scan.Segments

/-!
# Every keyword is accounted for

A scan never loses a token and never looks at one twice, however malformed its
text.  Every token has one role in the piece that it belongs to.  A keyword that
opens constructs is never among the dropped ones, nor inside a construct other
than directly after `typedef`.

Main results:

- Theorem `Segment.map_fst_marked`: roles are given to the tokens of a piece, each
  once.
- Theorem `Accounts.role_of_keyword`: the roles that a keyword can have.
- Theorem `Scan.tokens_accounted_for`: a scan of a text accounts for every token.
-/

namespace StructScan

open TokenStream

/-! ## Roles -/

/-- What a token is to the scan. -/
inductive Role where
  /-- It opens no construct and belongs to none. -/
  | dropped
  /-- It is the keyword of a construct that was found. -/
  | opensFound
  /-- It is the keyword of a construct that was skipped. -/
  | opensSkipped
  /-- It is the `struct` directly after such a `typedef`. -/
  | afterTypedef
  /-- It is any other token of the part of a construct that is there. -/
  | inner
  /-- It is the token at which a construct was given up. -/
  | offending
  deriving DecidableEq, Repr

/-- The roles of the tokens after a keyword. -/
def markInner : Construct → List Token → List (Token × Role)
  | .typedef, struct :: ts => (struct, .afterTypedef) :: ts.map fun t => (t, .inner)
  | _, ts => ts.map fun t => (t, .inner)

namespace Segment

/-- The tokens of a piece, each with its role. -/
def marked : Segment → List (Token × Role)
  | dropped token => [(token, .dropped)]
  | found construct keyword body _ => (keyword, .opensFound) :: markInner construct body
  | skipped skip matched =>
    (skip.keyword, .opensSkipped) :: markInner skip.construct matched ++
      skip.malformed.found.toList.map fun t => (t, .offending)

end Segment

@[simp]
theorem map_fst_markInner (construct : Construct) (ts : List Token) :
    (markInner construct ts).map Prod.fst = ts := by
  have hinner (us : List Token) : (us.map fun t => (t, Role.inner)).map Prod.fst = us := by
    simp [Function.comp_def]
  cases construct with
  | struct => exact hinner ts
  | typedef =>
    cases ts with
    | nil => rfl
    | cons struct ts => exact congrArg (struct :: ·) (hinner ts)

/-- Roles are given to the tokens of a piece, in order and each once. -/
theorem Segment.map_fst_marked (segment : Segment) :
    segment.marked.map Prod.fst = segment.tokens := by
  cases segment with
  | dropped token => rfl
  | found construct keyword body layout => simp [marked, tokens]
  | skipped skip matched => simp [marked, tokens, Function.comp_def]

/-- Roles are given to all tokens of pieces, in order and each once. -/
theorem map_fst_flatMap_marked (segments : List Segment) :
    (segments.flatMap Segment.marked).map Prod.fst = segments.flatMap Segment.tokens := by
  induction segments with
  | nil => rfl
  | cons segment segments ih => simp [ih, Segment.map_fst_marked]

/-! ## Keywords inside constructs -/

/-- A kind of token that opens no construct. -/
def Token.Kind.Plain (k : Token.Kind) : Prop :=
  Construct.ofKind? k = none

/-- The tokens of a construct after its keyword, less the `struct` after `typedef`. -/
def innerTokens : Construct → List Token → List Token
  | .struct, ts => ts
  | .typedef, ts => ts.tail

theorem OpenBody.plain {fs : List Field} {ts : List Token} (h : OpenBody fs ts) :
    ∀ t ∈ ts, t.kind.Plain := by
  obtain ⟨hbrace, hfields⟩ := h
  intro t ht
  rcases List.mem_cons.mp ht with rfl | ht
  · simp [Token.Kind.Plain, hbrace, Construct.ofKind?]
  · exact (Token.Kind.inField_eq_true (hfields.inField t ht)).2.2

theorem Body.plain {fs : List Field} {ts : List Token} (h : Body fs ts) :
    ∀ t ∈ ts, t.kind.Plain := by
  obtain ⟨hopened, hbrace⟩ := h
  intro t ht
  rcases List.mem_append.mp ht with ht | ht
  · exact hopened.plain t ht
  · rw [List.mem_singleton] at ht
    simp [Token.Kind.Plain, ht, hbrace, Construct.ofKind?]

theorem Tag.plain {ts : List Token} (h : Tag ts) : ∀ t ∈ ts, t.kind.Plain := by
  cases h with
  | absent => simp
  | present hname => simp [Token.Kind.Plain, hname, Construct.ofKind?]

/-- In a construct that has begun, no keyword stands but the `struct` after `typedef`. -/
theorem Begins.plain {construct : Construct} {what : Expectation} {ts : List Token}
    (h : Begins construct what ts) : ∀ t ∈ innerTokens construct ts, t.kind.Plain := by
  have hidentifier {t : Token} (ht : t.kind = .identifier) : t.kind.Plain := by
    simp [Token.Kind.Plain, ht, Construct.ofKind?]
  intro t ht
  cases h with
  | structName => simp [innerTokens] at ht
  | structOpen hname =>
    simp only [innerTokens, List.mem_singleton] at ht
    exact hidentifier (ht ▸ hname)
  | structClose hname hopened =>
    rcases List.mem_cons.mp ht with rfl | ht
    · exact hidentifier hname
    · exact hopened.plain t ht
  | structEnd hname hbody =>
    rcases List.mem_cons.mp ht with rfl | ht
    · exact hidentifier hname
    · exact hbody.plain t ht
  | typedefStruct => simp [innerTokens] at ht
  | typedefOpen hstruct htag => exact htag.plain t ht
  | typedefClose hstruct htag hopened =>
    rcases List.mem_append.mp ht with ht | ht
    · exact htag.plain t ht
    · exact hopened.plain t ht
  | typedefName hstruct htag hbody =>
    rcases List.mem_append.mp ht with ht | ht
    · exact htag.plain t ht
    · exact hbody.plain t ht
  | typedefEnd hstruct htag hbody hname =>
    rcases List.mem_append.mp ht with ht | ht
    · rcases List.mem_append.mp ht with ht | ht
      · exact htag.plain t ht
      · exact hbody.plain t ht
    · rw [List.mem_singleton] at ht
      exact hidentifier (ht ▸ hname)

/-- In a complete construct, no keyword stands but the `struct` after `typedef`. -/
theorem Spells.plain {construct : Construct} {layout : Layout} {ts : List Token}
    (h : Spells construct layout ts) : ∀ t ∈ innerTokens construct ts, t.kind.Plain := by
  obtain ⟨what, begun, semicolon, rfl, hbegins, hsemicolon⟩ := h.begins
  have hplain : semicolon.kind.Plain := by
    simp [Token.Kind.Plain, hsemicolon, Construct.ofKind?]
  intro t ht
  cases construct with
  | struct =>
    rcases List.mem_append.mp ht with ht | ht
    · exact hbegins.plain t ht
    · rw [List.mem_singleton] at ht
      exact ht ▸ hplain
  | typedef =>
    cases begun with
    | nil => simp [innerTokens] at ht
    | cons struct begun =>
      rcases List.mem_append.mp ht with ht | ht
      · exact hbegins.plain t ht
      · rw [List.mem_singleton] at ht
        exact ht ▸ hplain

/-- After a keyword, a token with a role of its own is plain. -/
theorem plain_of_mem_markInner {construct : Construct} {ts : List Token} {t : Token} {role : Role}
    (hplain : ∀ u ∈ innerTokens construct ts, u.kind.Plain)
    (h : (t, role) ∈ markInner construct ts) : role = .afterTypedef ∨ t.kind.Plain := by
  cases construct with
  | struct =>
    obtain ⟨u, hu, heq⟩ := List.mem_map.mp h
    cases heq
    exact .inr (hplain _ hu)
  | typedef =>
    cases ts with
    | nil => simp [markInner] at h
    | cons struct ts =>
      rcases List.mem_cons.mp h with heq | h
      · cases heq
        exact .inl rfl
      · obtain ⟨u, hu, heq⟩ := List.mem_map.mp h
        cases heq
        exact .inr (hplain _ hu)

/-! ## Whole texts -/

/--
A keyword opens a construct that was found or one that was skipped, or it is the
`struct` directly after such a `typedef`, or a construct was given up at it.
-/
theorem Accounts.role_of_keyword {last : Nat} {ts : List Token} {segments : List Segment}
    (h : Accounts last ts segments) {t : Token} {role : Role}
    (hmem : (t, role) ∈ segments.flatMap Segment.marked) (hkeyword : ¬t.kind.Plain) :
    role = .opensFound ∨ role = .opensSkipped ∨ role = .afterTypedef ∨ role = .offending := by
  induction h with
  | nil => simp at hmem
  | dropped hkind _ ih =>
    rw [List.flatMap_cons] at hmem
    rcases List.mem_append.mp hmem with hmem | hmem
    · obtain ⟨rfl, -⟩ := Prod.mk.inj (List.mem_singleton.mp hmem)
      exact absurd hkind hkeyword
    · exact ih hmem
  | found hkind hspells _ ih =>
    rw [List.flatMap_cons] at hmem
    rcases List.mem_append.mp hmem with hmem | hmem
    · rcases List.mem_cons.mp hmem with heq | hmem
      · cases heq
        exact .inl rfl
      · rcases plain_of_mem_markInner hspells.plain hmem with hrole | hplain
        · exact .inr (.inr (.inl hrole))
        · exact absurd hplain hkeyword
    · exact ih hmem
  | skipped hkind hgivesUp _ ih =>
    rw [List.flatMap_cons] at hmem
    rcases List.mem_append.mp hmem with hmem | hmem
    · rcases List.mem_cons.mp hmem with heq | hmem
      · cases heq
        exact .inr (.inl rfl)
      · rcases List.mem_append.mp hmem with hmem | hmem
        · rcases plain_of_mem_markInner hgivesUp.begins.plain hmem with hrole | hplain
          · exact .inr (.inr (.inl hrole))
          · exact absurd hplain hkeyword
        · obtain ⟨u, -, heq⟩ := List.mem_map.mp hmem
          cases heq
          exact .inr (.inr (.inr rfl))
    · exact ih hmem

/--
A scan of any text cuts its tokens, in order and without loss, into dropped tokens,
one complete construct for each layout found, and for each warning one construct
that was given up.  Each token has one role in this, and no keyword of a construct
is merely dropped or passed over.
-/
theorem Scan.tokens_accounted_for (text : String) (report : Report) :
    ∃ segments,
      Accounts (Text.lines text).length (tokensOfText text) segments ∧
      segments.flatMap Segment.tokens = tokensOfText text ∧
      (ofText text (some report)).rest.1 = .ok (layoutsOf segments) ∧
      (ofText text (some report)).rest.2.report =
        some (report.warn ((skipsOf segments).map Skip.diagnostic)) ∧
      (segments.flatMap Segment.marked).map Prod.fst = tokensOfText text ∧
      ∀ t role, (t, role) ∈ segments.flatMap Segment.marked →
        t.kind = .struct ∨ t.kind = .typedef →
        role = .opensFound ∨ role = .opensSkipped ∨ role = .afterTypedef ∨ role = .offending := by
  obtain ⟨segments, haccounts, hlayouts, hreport⟩ := rest_ofText text (some report)
  refine ⟨segments, haccounts, haccounts.flatMap_tokens, hlayouts, hreport, ?_, ?_⟩
  · rw [map_fst_flatMap_marked, haccounts.flatMap_tokens]
  · intro t role hmem hkind
    apply haccounts.role_of_keyword hmem
    rcases hkind with hkind | hkind <;> simp [Token.Kind.Plain, hkind, Construct.ofKind?]

end StructScan
