import StructScan.Proofs.Grammar.Following
import StructScan.Scan

/-!
# How a scan cuts up its tokens

A scan goes through the tokens once.  It drops tokens that open no construct,
finds constructs that are complete, and skips constructs that are not, up to and
including the token at which they are given up.  Here the pieces are named, and a
scan to the end is shown to cut the tokens into such pieces and nothing else.

Main results:

- Theorem `Accounts.flatMap_tokens`: the pieces put together are the tokens.
- Theorem `Accounts.unique`: the tokens can be cut up in one way only.
- Theorem `hunt_cutsOff`: looking for a layout cuts pieces off the front of the
  list.
- Theorem `Scan.rest_accounts`: a scan to the end finds the layouts of the pieces
  and reports their skips.
- Theorem `Scan.rest_of_accounts`: so the pieces of the tokens of a text say what a
  scan of the text gives.
-/

namespace StructScan

open TokenStream

/-! ## Segments -/

/-- One piece of the tokens that a scan went through. -/
inductive Segment where
  /-- A token that opens no construct. -/
  | dropped (token : Token)
  /-- A complete construct: its keyword, the tokens after it, and its layout. -/
  | found (construct : Construct) (keyword : Token) (body : List Token) (layout : Layout)
  /-- A construct that was skipped, and the part of it that is there. -/
  | skipped (skip : Skip) (matched : List Token)
  deriving DecidableEq, Repr

namespace Segment

/-- The tokens of a piece. -/
def tokens : Segment → List Token
  | dropped token => [token]
  | found _ keyword body _ => keyword :: body
  | skipped skip matched => skip.keyword :: matched ++ skip.malformed.found.toList

/-- The layout of a piece, if it is a complete construct. -/
def layout? : Segment → Option Layout
  | found _ _ _ layout => some layout
  | _ => none

/-- What was skipped in a piece, if anything was. -/
def skip? : Segment → Option Skip
  | skipped skip _ => some skip
  | _ => none

end Segment

/-- The layouts of pieces, in order. -/
def layoutsOf (segments : List Segment) : List Layout :=
  segments.filterMap Segment.layout?

/-- What was skipped in pieces, in order. -/
def skipsOf (segments : List Segment) : List Skip :=
  segments.filterMap Segment.skip?

@[simp]
theorem layoutsOf_dropped (token : Token) (segments : List Segment) :
    layoutsOf (.dropped token :: segments) = layoutsOf segments :=
  rfl

@[simp]
theorem layoutsOf_found (construct : Construct) (keyword : Token) (body : List Token)
    (layout : Layout) (segments : List Segment) :
    layoutsOf (.found construct keyword body layout :: segments) =
      layout :: layoutsOf segments :=
  rfl

@[simp]
theorem layoutsOf_skipped (skip : Skip) (matched : List Token) (segments : List Segment) :
    layoutsOf (.skipped skip matched :: segments) = layoutsOf segments :=
  rfl

@[simp]
theorem layoutsOf_append (segments later : List Segment) :
    layoutsOf (segments ++ later) = layoutsOf segments ++ layoutsOf later :=
  List.filterMap_append

@[simp]
theorem skipsOf_append (segments later : List Segment) :
    skipsOf (segments ++ later) = skipsOf segments ++ skipsOf later :=
  List.filterMap_append

/--
Pieces that account for a list of tokens: one after the other they are dropped
tokens, complete constructs, and constructs that are given up, where every one is
judged by the tokens that follow.
-/
inductive Accounts (last : Nat) : List Token → List Segment → Prop where
  | nil : Accounts last [] []
  | dropped {token : Token} {rest : List Token} {segments : List Segment}
      (hkind : Construct.ofKind? token.kind = none) (hrest : Accounts last rest segments) :
      Accounts last (token :: rest) (.dropped token :: segments)
  | found {construct : Construct} {keyword : Token} {body rest : List Token} {layout : Layout}
      {segments : List Segment} (hkind : Construct.ofKind? keyword.kind = some construct)
      (hspells : Spells construct layout body) (hrest : Accounts last rest segments) :
      Accounts last (keyword :: (body ++ rest)) (.found construct keyword body layout :: segments)
  | skipped {construct : Construct} {keyword : Token} {matched left rest : List Token}
      {malformed : Malformed} {segments : List Segment}
      (hkind : Construct.ofKind? keyword.kind = some construct)
      (hgivesUp : GivesUp construct last matched left malformed rest)
      (hrest : Accounts last rest segments) :
      Accounts last (keyword :: (matched ++ left))
        (.skipped ⟨construct, keyword, malformed⟩ matched :: segments)

namespace Accounts

/-- The pieces put together are the tokens, in order. -/
theorem flatMap_tokens {last : Nat} {ts : List Token} {segments : List Segment}
    (h : Accounts last ts segments) : segments.flatMap Segment.tokens = ts := by
  induction h with
  | nil => rfl
  | dropped hkind hrest ih => simp [Segment.tokens, ih]
  | found hkind hspells hrest ih => simp [Segment.tokens, ih]
  | skipped hkind hgivesUp hrest ih => simp [Segment.tokens, ih, hgivesUp.refuses.tokens]

/-- The first piece of tokens that open no construct is the first token. -/
theorem of_cons_dropped {last : Nat} {t : Token} {ts : List Token} {segments : List Segment}
    (hkind : Construct.ofKind? t.kind = none) (h : Accounts last (t :: ts) segments) :
    ∃ later, segments = .dropped t :: later ∧ Accounts last ts later := by
  cases h with
  | dropped hkind' hrest => exact ⟨_, rfl, hrest⟩
  | found hkind' _ _ =>
    rw [hkind] at hkind'
    contradiction
  | skipped hkind' _ _ =>
    rw [hkind] at hkind'
    contradiction

/-- The first piece of tokens that open a construct is settled by the parser of the construct. -/
theorem of_cons_construct {last : Nat} {t : Token} {ts : List Token} {segments : List Segment}
    {construct : Construct} (hkind : Construct.ofKind? t.kind = some construct)
    (h : Accounts last (t :: ts) segments) :
    ∃ rest later, Accounts last rest later ∧
      ((∃ body layout, Listed.parse construct last ts = (.ok layout, rest) ∧ ts = body ++ rest ∧
          segments = .found construct t body layout :: later) ∨
        ∃ matched malformed, Listed.parse construct last ts = (.error malformed, rest) ∧
          ts = matched ++ (malformed.found.toList ++ rest) ∧
          segments = .skipped ⟨construct, t, malformed⟩ matched :: later) := by
  generalize hts : t :: ts = ts' at h
  cases h with
  | nil => contradiction
  | dropped hkind' _ =>
    obtain ⟨rfl, -⟩ := List.cons.inj hts
    rw [hkind] at hkind'
    contradiction
  | found hkind' hspells hrest =>
    obtain ⟨rfl, rfl⟩ := List.cons.inj hts
    obtain rfl := Option.some.inj (hkind.symm.trans hkind')
    exact ⟨_, _, hrest, .inl ⟨_, _, hspells.parse last _, rfl, rfl⟩⟩
  | skipped hkind' hgivesUp hrest =>
    obtain ⟨rfl, rfl⟩ := List.cons.inj hts
    obtain rfl := Option.some.inj (hkind.symm.trans hkind')
    refine ⟨_, _, hrest, .inr ⟨_, _, hgivesUp.parse, ?_, rfl⟩⟩
    rw [← hgivesUp.refuses.tokens]

/-- The first piece of tokens that start with a complete construct is the construct. -/
theorem of_cons_found {last : Nat} {keyword : Token} {body rest : List Token} {layout : Layout}
    {segments : List Segment} {construct : Construct}
    (hkind : Construct.ofKind? keyword.kind = some construct)
    (hspells : Spells construct layout body)
    (h : Accounts last (keyword :: (body ++ rest)) segments) :
    ∃ later, segments = .found construct keyword body layout :: later ∧
      Accounts last rest later := by
  obtain ⟨rest', later, hlater, hfirst⟩ := of_cons_construct hkind h
  -- The parser reads the construct, so it left the same tokens in both cuts.
  rw [hspells.parse last rest] at hfirst
  rcases hfirst with ⟨body', layout', hparse, hts, rfl⟩ | ⟨matched, malformed, hparse, -, rfl⟩
  · cases hparse
    rw [List.append_cancel_right hts]
    exact ⟨later, rfl, hlater⟩
  · cases hparse

/-- The first piece of tokens that start with a construct that is given up is its begun part. -/
theorem of_cons_skipped {last : Nat} {keyword : Token} {matched left rest : List Token}
    {malformed : Malformed} {segments : List Segment} {construct : Construct}
    (hkind : Construct.ofKind? keyword.kind = some construct)
    (hgivesUp : GivesUp construct last matched left malformed rest)
    (h : Accounts last (keyword :: (matched ++ left)) segments) :
    ∃ later, segments = .skipped ⟨construct, keyword, malformed⟩ matched :: later ∧
      Accounts last rest later := by
  obtain ⟨rest', later, hlater, hfirst⟩ := of_cons_construct hkind h
  rw [hgivesUp.parse] at hfirst
  rcases hfirst with ⟨body, layout, hparse, -, rfl⟩ | ⟨matched', malformed', hparse, hts, rfl⟩
  · cases hparse
  · cases hparse
    rw [hgivesUp.refuses.tokens] at hts
    rw [List.append_cancel_right hts]
    exact ⟨later, rfl, hlater⟩

/-- The tokens can be cut up in one way only. -/
theorem unique {last : Nat} {ts : List Token} {segments segments' : List Segment}
    (h : Accounts last ts segments) (h' : Accounts last ts segments') : segments = segments' := by
  induction h generalizing segments' with
  | nil =>
    cases h'
    rfl
  | dropped hkind _ ih =>
    obtain ⟨later, rfl, hlater⟩ := of_cons_dropped hkind h'
    rw [ih hlater]
  | found hkind hspells _ ih =>
    obtain ⟨later, rfl, hlater⟩ := of_cons_found hkind hspells h'
    rw [ih hlater]
  | skipped hkind hgivesUp _ ih =>
    obtain ⟨later, rfl, hlater⟩ := of_cons_skipped hkind hgivesUp h'
    rw [ih hlater]

end Accounts

/-! ## Scanning -/

/--
What a search did to the list of its stream: it cut pieces off the front, skipped
what is skipped in them, and came to a layout at the last of them or to the end.
-/
structure Hunt.CutsOff (s : TokenStream) (h : Hunt) (segments : List Segment) : Prop where
  calm : h.stream.Calm
  lastLine : h.stream.lastLine = s.lastLine
  front : ∀ later, Accounts s.lastLine h.stream.remaining later →
    Accounts s.lastLine s.remaining (segments ++ later)
  skips : h.skips = skipsOf segments
  outcome : (∃ layout, h.outcome = .found layout ∧ layoutsOf segments = [layout]) ∨
    (h.outcome = .ended ∧ layoutsOf segments = [] ∧ h.stream.remaining = [])

/-- Looking for a layout cuts pieces off the front of the list. -/
theorem hunt_cutsOff (s : TokenStream) (hcalm : s.Calm) :
    ∃ segments, (hunt s).CutsOff s segments := by
  fun_induction hunt s with
  | case1 s fault s' hnext => exact absurd hnext (next_follows.ne_error hcalm)
  | case2 s s' hnext =>
    obtain ⟨hlist, hlist', hleaves⟩ := remaining_of_next_none hcalm hnext
    refine ⟨[], hleaves.calm, hleaves.lastLine, ?_, rfl, .inr ⟨rfl, rfl, hlist'⟩⟩
    intro later hlater
    rwa [hlist, ← hlist']
  | case3 s keyword s' hnext hkind ih =>
    obtain ⟨hlist, hleaves⟩ := remaining_of_next_some hcalm hnext
    obtain ⟨segments, hcut⟩ := ih hleaves.calm
    refine ⟨.dropped keyword :: segments, hcut.calm, hcut.lastLine.trans hleaves.lastLine, ?_,
      hcut.skips, hcut.outcome⟩
    intro later hlater
    rw [← hleaves.lastLine] at hlater ⊢
    rw [hlist]
    exact .dropped hkind (hcut.front later hlater)
  | case4 s keyword s' hnext construct hkind fault s'' hparse =>
    obtain ⟨-, hleaves⟩ := remaining_of_next_some hcalm hnext
    exact absurd hparse ((parse_parsesAs construct).ne_error hleaves.calm)
  | case5 s keyword s' hnext construct hkind layout s'' hparse =>
    obtain ⟨hlist, hleaves⟩ := remaining_of_next_some hcalm hnext
    obtain ⟨hresult, hleaves'⟩ := (parse_parsesAs construct).eq_of_ok hleaves.calm hparse
    obtain ⟨body, hbody, hspells⟩ := Listed.parse_ok_iff.mp hresult
    refine ⟨[.found construct keyword body layout], hleaves'.calm,
      hleaves'.lastLine.trans hleaves.lastLine, ?_, rfl, .inl ⟨layout, rfl, rfl⟩⟩
    intro later hlater
    rw [hlist, hbody]
    exact .found hkind hspells hlater
  | case6 s keyword s' hnext construct hkind malformed s'' hparse later ih =>
    obtain ⟨hlist, hleaves⟩ := remaining_of_next_some hcalm hnext
    obtain ⟨hresult, hleaves'⟩ := (parse_parsesAs construct).eq_of_ok hleaves.calm hparse
    obtain ⟨matched, left, hmatched, hgivesUp⟩ := Listed.parse_error_iff.mp hresult
    obtain ⟨segments, hcut⟩ := ih hleaves'.calm
    have hlast := hleaves'.lastLine.trans hleaves.lastLine
    refine ⟨.skipped ⟨construct, keyword, malformed⟩ matched :: segments, hcut.calm,
      hcut.lastLine.trans hlast, ?_, ?_, hcut.outcome⟩
    · intro rest hrest
      have hfront := hcut.front rest
      rw [hlast] at hfront
      rw [hleaves.lastLine] at hgivesUp
      rw [hlist, hmatched]
      exact .skipped hkind hgivesUp (hfront hrest)
    · rw [hcut.skips]
      rfl

/-! ## Scanning to the end -/

/-- Warnings that are recorded one after the other are recorded together. -/
@[simp]
theorem Report.warn_warn (r : Report) (ds es : List Diagnostic) :
    (r.warn ds).warn es = r.warn (ds ++ es) := by
  simp [warn]

/-- The report after what was skipped in pieces was noted. -/
def notedIn (report : Option Report) (segments : List Segment) : Option Report :=
  report.map fun r => r.warn ((skipsOf segments).map Skip.diagnostic)

theorem notedIn_append (report : Option Report) (segments later : List Segment) :
    notedIn (notedIn report segments) later = notedIn report (segments ++ later) := by
  cases report with
  | none => rfl
  | some r => simp [notedIn]

namespace Scan

theorem next_of_found {s : Scan} {layout : Layout} (hopen : s.finished = false)
    (h : (hunt s.stream).outcome = .found layout) :
    s.next = (.found layout, s.record (hunt s.stream)) := by
  simp [next, hopen, h]

theorem next_of_ended {s : Scan} (hopen : s.finished = false)
    (h : (hunt s.stream).outcome = .ended) :
    s.next = (.ended, (s.record (hunt s.stream)).close) := by
  simp [next, hopen, h]

/-- A layout that is found comes before those found after it. -/
theorem rest_of_found {s s' : Scan} {layout : Layout} (h : s.next = (.found layout, s')) :
    s.rest = (s'.rest.1.map (layout :: ·), s'.rest.2) := by
  rw [rest]
  split
  · rename_i layout' s'' hnext
    rw [h] at hnext
    cases hnext
    split
    · rename_i hrest
      simp [hrest, Except.map]
    · rename_i hrest
      simp [hrest, Except.map]
  · rename_i hnext
    rw [h] at hnext
    cases hnext
  · rename_i hnext
    rw [h] at hnext
    cases hnext

/-- At the end nothing more is found. -/
theorem rest_of_ended {s s' : Scan} (h : s.next = (.ended, s')) : s.rest = (.ok [], s') := by
  rw [rest]
  split
  · rename_i hnext
    rw [h] at hnext
    cases hnext
  · rename_i hnext
    rw [h] at hnext
    cases hnext
    rfl
  · rename_i hnext
    rw [h] at hnext
    cases hnext

/-- A search notes what is skipped in the pieces that it cuts off. -/
theorem record_report {s : Scan} {h : Hunt} {segments : List Segment}
    (hcut : h.CutsOff s.stream segments) :
    (s.record h).report = notedIn s.report segments := by
  simp [record, notedIn, hcut.skips]

/-- Closing a scan does not touch its report. -/
theorem close_report (s : Scan) : s.close.report = s.report := by
  unfold close
  split <;> rfl

/-- A scan to the end finds the layouts of the pieces, and reports their skips. -/
theorem rest_accounts (s : Scan) (hcalm : s.stream.Calm) (hopen : s.finished = false) :
    ∃ segments, Accounts s.stream.lastLine s.stream.remaining segments ∧
      s.rest.1 = .ok (layoutsOf segments) ∧ s.rest.2.report = notedIn s.report segments := by
  obtain ⟨segments, hcut⟩ := hunt_cutsOff s.stream hcalm
  rcases hcut.outcome with ⟨layout, houtcome, hlayouts⟩ | ⟨houtcome, hlayouts, hend⟩
  · -- The search found a layout; the scan goes on with a lighter stream.
    have hnext := next_of_found hopen houtcome
    have hlight := next_weight hnext
    obtain ⟨later, haccounts, hfound, hreport⟩ :=
      rest_accounts (s.record (hunt s.stream)) hcut.calm hopen
    rw [record_report hcut, notedIn_append] at hreport
    change Accounts (hunt s.stream).stream.lastLine _ later at haccounts
    rw [hcut.lastLine] at haccounts
    refine ⟨segments ++ later, hcut.front later haccounts, ?_, ?_⟩
    · rw [rest_of_found hnext, hfound, layoutsOf_append, hlayouts]
      rfl
    · rw [rest_of_found hnext, hreport]
  · have hnext := next_of_ended hopen houtcome
    have hnil : Accounts s.stream.lastLine (hunt s.stream).stream.remaining [] := hend ▸ .nil
    have haccounts := hcut.front [] hnil
    rw [List.append_nil] at haccounts
    refine ⟨segments, haccounts, ?_, ?_⟩
    · rw [rest_of_ended hnext, hlayouts]
    · rw [rest_of_ended hnext, close_report, record_report hcut]
termination_by s.stream.weight

/-- A scan of a text to its end finds and reports what the pieces of its tokens say. -/
theorem rest_ofText (text : String) (report : Option Report) :
    ∃ segments, Accounts (Text.lines text).length (tokensOfText text) segments ∧
      (ofText text report).rest.1 = .ok (layoutsOf segments) ∧
      (ofText text report).rest.2.report = notedIn report segments := by
  have h := rest_accounts (ofText text report) (calm_ofText text) rfl
  rw [tokensOfText_eq_remaining]
  have hlast := lastLine_ofSource (Source.ofText text)
  change (ofText text report).stream.lastLine = (Text.lines text).length at hlast
  rwa [hlast] at h

/-- The pieces of the tokens of a text say what a scan finds and reports, whatever its report. -/
theorem rest_of_accounts {text : String} {segments : List Segment}
    (h : Accounts (Text.lines text).length (tokensOfText text) segments)
    (report : Option Report) :
    (ofText text report).rest.1 = .ok (layoutsOf segments) ∧
      (ofText text report).rest.2.report = notedIn report segments := by
  obtain ⟨segments', haccounts, hlayouts, hreport⟩ := rest_ofText text report
  rw [hlayouts, hreport, h.unique haccounts]
  exact ⟨rfl, rfl⟩

end Scan

end StructScan
