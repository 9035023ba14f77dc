import StructScan.Proofs.Scan.Accounting

/-!
# What a clean report means

The tokens of a file are clean if constructs stand in it complete, and every other
token opens none.  A scan leaves a fresh report clean exactly for such tokens, and
then finds one layout for each construct.

Main results:

- Theorems `Clean.accounts` and `Accounts.clean`: nothing is skipped exactly if the
  tokens are clean.
- Theorem `Clean.length_eq_countP`: a clean list has one layout for each `struct`.
- Theorem `Scan.passed_iff_clean`: the report of a scan passes exactly if the tokens
  are clean, and then the layouts are those of the constructs.
-/

namespace StructScan

open TokenStream

/--
Tokens in which every construct is complete: single tokens that open none, and
`struct Name { fields } ;` or `typedef struct [Tag] { fields } Name ;` with its
layout.
-/
inductive Clean : List Token → List Layout → Prop where
  | nil : Clean [] []
  | token {t : Token} {ts : List Token} {layouts : List Layout} (hstruct : t.kind ≠ .struct)
      (htypedef : t.kind ≠ .typedef) (hrest : Clean ts layouts) : Clean (t :: ts) layouts
  | struct {keyword : Token} {body ts : List Token} {layout : Layout} {layouts : List Layout}
      (hkind : keyword.kind = .struct) (hspells : Spells .struct layout body)
      (hrest : Clean ts layouts) : Clean (keyword :: (body ++ ts)) (layout :: layouts)
  | typedef {keyword : Token} {body ts : List Token} {layout : Layout} {layouts : List Layout}
      (hkind : keyword.kind = .typedef) (hspells : Spells .typedef layout body)
      (hrest : Clean ts layouts) : Clean (keyword :: (body ++ ts)) (layout :: layouts)

/-! ## Clean tokens and pieces -/

/-- A kind that opens a construct is the kind of its keyword. -/
theorem Construct.ofKind?_eq_some_iff {k : Token.Kind} {construct : Construct} :
    Construct.ofKind? k = some construct ↔
      (k = .struct ∧ construct = .struct) ∨ (k = .typedef ∧ construct = .typedef) := by
  cases k <;> cases construct <;> simp [Construct.ofKind?]

/-- A kind opens no construct exactly if it is neither keyword. -/
theorem Construct.ofKind?_eq_none_iff {k : Token.Kind} :
    Construct.ofKind? k = none ↔ k ≠ .struct ∧ k ≠ .typedef := by
  cases k <;> simp [Construct.ofKind?]

/-- Clean tokens are cut up without skipping anything. -/
theorem Clean.accounts {ts : List Token} {layouts : List Layout} (h : Clean ts layouts)
    (last : Nat) :
    ∃ segments, Accounts last ts segments ∧ layoutsOf segments = layouts ∧
      skipsOf segments = [] := by
  induction h with
  | nil => exact ⟨[], .nil, rfl, rfl⟩
  | @token t ts layouts hstruct htypedef _ ih =>
    obtain ⟨segments, haccounts, hlayouts, hskips⟩ := ih
    have hkind := Construct.ofKind?_eq_none_iff.mpr ⟨hstruct, htypedef⟩
    exact ⟨.dropped t :: segments, .dropped hkind haccounts, hlayouts, hskips⟩
  | @struct keyword body ts layout layouts hkind hspells _ ih =>
    obtain ⟨segments, haccounts, hlayouts, hskips⟩ := ih
    have hkind := Construct.ofKind?_eq_some_iff.mpr (.inl ⟨hkind, rfl⟩)
    refine ⟨.found .struct keyword body layout :: segments, .found hkind hspells haccounts, ?_,
      hskips⟩
    rw [← hlayouts]
    rfl
  | @typedef keyword body ts layout layouts hkind hspells _ ih =>
    obtain ⟨segments, haccounts, hlayouts, hskips⟩ := ih
    have hkind := Construct.ofKind?_eq_some_iff.mpr (.inr ⟨hkind, rfl⟩)
    refine ⟨.found .typedef keyword body layout :: segments, .found hkind hspells haccounts, ?_,
      hskips⟩
    rw [← hlayouts]
    rfl

/-- Tokens that are cut up without skipping anything are clean. -/
theorem Accounts.clean {last : Nat} {ts : List Token} {segments : List Segment}
    (h : Accounts last ts segments) (hskips : skipsOf segments = []) :
    Clean ts (layoutsOf segments) := by
  induction h with
  | nil => exact .nil
  | dropped hkind _ ih =>
    obtain ⟨hstruct, htypedef⟩ := Construct.ofKind?_eq_none_iff.mp hkind
    exact .token hstruct htypedef (ih hskips)
  | found hkind hspells _ ih =>
    rcases Construct.ofKind?_eq_some_iff.mp hkind with ⟨hstruct, rfl⟩ | ⟨htypedef, rfl⟩
    · exact .struct hstruct hspells (ih hskips)
    · exact .typedef htypedef hspells (ih hskips)
  | skipped => simp [skipsOf, Segment.skip?] at hskips

/-! ## Counting -/

/-- Tokens that open no construct hold no `struct`. -/
theorem countP_struct_of_plain {ts : List Token} (h : ∀ t ∈ ts, t.kind.Plain) :
    ts.countP (fun t => t.kind = .struct) = 0 := by
  rw [List.countP_eq_zero]
  intro t ht hstruct
  exact (Construct.ofKind?_eq_none_iff.mp (h t ht)).1 (by simpa using hstruct)

/-- A `struct` stands directly after the keyword of a typedef. -/
theorem Spells.head_struct {layout : Layout} {ts : List Token} (h : Spells .typedef layout ts) :
    ∃ struct rest, ts = struct :: rest ∧ struct.kind = .struct := by
  cases h with
  | typedef hstruct _ _ _ _ => exact ⟨_, _, rfl, hstruct⟩

/-- A clean list has one layout for each `struct`. -/
theorem Clean.length_eq_countP {ts : List Token} {layouts : List Layout} (h : Clean ts layouts) :
    layouts.length = ts.countP (fun t => t.kind = .struct) := by
  induction h with
  | nil => rfl
  | token hstruct _ _ ih => simp [hstruct, ih]
  | struct hkind hspells _ ih =>
    have hbody := countP_struct_of_plain hspells.plain
    simp only [innerTokens] at hbody
    simp [hkind, hbody, ih]
  | typedef hkind hspells _ ih =>
    obtain ⟨struct, rest, rfl, hstruct⟩ := hspells.head_struct
    have hrest := countP_struct_of_plain hspells.plain
    simp only [innerTokens, List.tail_cons] at hrest
    simp [hkind, hstruct, hrest, ih]

/-! ## Whole texts -/

/--
The report of a scan of any text passes exactly if the tokens of the text are clean,
and then the scan finds the layouts of its constructs, one for each `struct`.
-/
theorem Scan.passed_iff_clean (text : String) :
    (∃ report, (ofText text (some {})).rest.2.report = some report ∧
      (report.passed = true ↔ ∃ layouts, Clean (tokensOfText text) layouts)) ∧
    ∀ layouts, Clean (tokensOfText text) layouts →
      (ofText text (some {})).rest.1 = .ok layouts ∧
      layouts.length = (tokensOfText text).countP (fun t => t.kind = .struct) := by
  obtain ⟨segments, haccounts, hlayouts, hreport⟩ := rest_ofText text (some {})
  constructor
  · refine ⟨_, hreport, ?_⟩
    rw [Report.passed_iff]
    constructor
    · rintro ⟨-, hwarnings⟩
      exact ⟨_, haccounts.clean (by simpa [Report.warn] using hwarnings)⟩
    · rintro ⟨layouts, hclean⟩
      obtain ⟨segments', haccounts', -, hskips⟩ := hclean.accounts (Text.lines text).length
      rw [haccounts.unique haccounts', hskips]
      exact ⟨rfl, rfl⟩
  · intro layouts hclean
    obtain ⟨segments', haccounts', hlayouts', -⟩ := hclean.accounts (Text.lines text).length
    refine ⟨?_, hclean.length_eq_countP⟩
    rw [hlayouts, haccounts.unique haccounts', hlayouts']

end StructScan
