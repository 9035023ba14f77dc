import StructScan.Proofs.Grammar.Quieting
import StructScan.Proofs.Scan.LifeCycle
import StructScan.Proofs.Scan.WarningLines

/-!
# Scans with and without a report

A report only observes.  Whatever the source does and whichever steps are taken, a scan gives
the same replies and treats its source alike with a report and without one.  What the report
gets is told by the pieces into which the tokens of the source are cut up: every step goes
through the next pieces, and notes the constructs that are skipped in them.  A source that fails
takes what is left of the pieces with it.

Main results:

- Theorem `Scan.Step.run_unreported`: a run without a report is the run with one, the report
  left out.
- Theorem `TokenStream.Faces.hunt`: a search goes through the pieces up to the next layout.
- Theorem `Scan.Faces.perform`: so does every step, and it notes what is skipped in them.
- Theorem `Scan.Step.run_observed`: what a report does to a run, and a run to its report.
-/

namespace StructScan

open Token (linesTokens)
open TokenStream

/-! ## Leaving out the report -/

namespace Scan

/-- The scan without its report. -/
def unreported (s : Scan) : Scan :=
  { s with report := none }

theorem close_unreported (s : Scan) : s.unreported.close = s.close.unreported := by
  cases hfinished : s.finished with
  | true =>
    have hfinished' : s.unreported.finished = true := hfinished
    rw [close_of_finished hfinished, close_of_finished hfinished']
  | false =>
    have hfinished' : s.unreported.finished = false := hfinished
    rw [close_of_open hfinished, close_of_open hfinished']
    rfl

/-- A scan finds the next layout without its report as it does with it. -/
theorem next_unreported (s : Scan) : s.unreported.next = (s.next.1, s.next.2.unreported) := by
  cases hfinished : s.finished with
  | true =>
    have hfinished' : s.unreported.finished = true := hfinished
    rw [next_of_finished hfinished, next_of_finished hfinished']
  | false =>
    have hfinished' : s.unreported.finished = false := hfinished
    have hstream : s.unreported.stream = s.stream := rfl
    have hrecord : s.unreported.record (hunt s.stream) =
        (s.record (hunt s.stream)).unreported := rfl
    rw [next_of_open hfinished, next_of_open hfinished', hstream, hrecord, close_unreported]
    by_cases hended : (hunt s.stream).outcome = .ended <;> simp [hended]

/-- A failure ends the search for all layouts. -/
theorem rest_of_failed {s s' : Scan} {fault : Fault} (h : s.next = (.failed fault, s')) :
    s.rest = (.error fault, s') := by
  rw [rest]
  split
  · rename_i hnext
    rw [h] at hnext
    cases hnext
  · rename_i hnext
    rw [h] at hnext
    cases hnext
  · rename_i hnext
    rw [h] at hnext
    cases hnext
    rfl

/-- A scan finds all layouts without its report as it does with it. -/
theorem rest_unreported (s : Scan) : s.unreported.rest = (s.rest.1, s.rest.2.unreported) := by
  have hplain := next_unreported s
  cases hnext : s.next with
  | mk outcome s' =>
    rw [hnext] at hplain
    cases outcome with
    | found layout =>
      have hlight := next_weight hnext
      rw [rest_of_found hplain, rest_of_found hnext, rest_unreported s']
    | ended => rw [rest_of_ended hplain, rest_of_ended hnext]
    | failed fault => rw [rest_of_failed hplain, rest_of_failed hnext]
termination_by s.stream.weight

namespace Step

theorem perform_unreported (step : Step) (s : Scan) :
    step.perform s.unreported = ((step.perform s).1, (step.perform s).2.unreported) := by
  cases step with
  | next => simp only [perform, next_unreported]
  | list => simp only [perform, rest_unreported]
  | close => simp only [perform, close_unreported]
  | within => simp only [perform, next_unreported, close_unreported]

/-- A run without a report is the run with one, the report left out. -/
theorem run_unreported (steps : List Step) (s : Scan) :
    run steps s.unreported = ((run steps s).1, (run steps s).2.unreported) := by
  induction steps generalizing s with
  | nil => rfl
  | cons step steps ih => simp only [run, perform_unreported, ih]

end Step

end Scan

/-! ## Going through pieces -/

/-- What lies ahead of a scan: the pieces of the tokens left, and the failure after them if any. -/
structure Ahead where
  pieces : List Segment := []
  fault? : Option Fault := none
  deriving DecidableEq, Repr

/--
A search goes through the pieces ahead up to the next layout, or through all of them if there is
none.  A failure strikes before the end, and leaves nothing ahead.
-/
inductive Finds : Ahead → Hunt.Outcome → List Segment → Ahead → Prop where
  | found {before left : List Segment} {construct : Construct} {keyword : Token}
      {body : List Token} {layout : Layout} {fault? : Option Fault}
      (hbefore : layoutsOf before = []) :
      Finds ⟨before ++ .found construct keyword body layout :: left, fault?⟩ (.found layout)
        (before ++ [.found construct keyword body layout]) ⟨left, fault?⟩
  | ended {pieces : List Segment} (hpieces : layoutsOf pieces = []) :
      Finds ⟨pieces, none⟩ .ended pieces {}
  | failed {gone lost : List Segment} {fault : Fault} (hgone : layoutsOf gone = []) :
      Finds ⟨gone ++ lost, some fault⟩ (.failed fault) gone {}

/-- A piece without a layout that comes first is gone through first. -/
theorem Finds.cons {piece : Segment} {pieces gone : List Segment} {fault? : Option Fault}
    {left : Ahead} {outcome : Hunt.Outcome} (h : Finds ⟨pieces, fault?⟩ outcome gone left)
    (hpiece : piece.layout? = none) :
    Finds ⟨piece :: pieces, fault?⟩ outcome (piece :: gone) left := by
  have hlayouts (segments : List Segment) : layoutsOf (piece :: segments) = layoutsOf segments := by
    simp [layoutsOf, hpiece]
  cases h with
  | found hbefore => exact @Finds.found (piece :: _) _ _ _ _ _ _ ((hlayouts _).trans hbefore)
  | ended hpieces => exact .ended ((hlayouts _).trans hpieces)
  | failed hgone => exact @Finds.failed (piece :: _) _ _ ((hlayouts _).trans hgone)

namespace Scan.Step

/-- A step goes through pieces ahead: asking for all layouts as far as it gets, closing none. -/
inductive Passes : Step → Ahead → Reply → List Segment → Ahead → Prop where
  | next {ahead left : Ahead} {outcome : Hunt.Outcome} {gone : List Segment}
      (h : Finds ahead outcome gone left) : Passes .next ahead (.outcome outcome) gone left
  | list {pieces : List Segment} :
      Passes .list ⟨pieces, none⟩ (.listed (.ok (layoutsOf pieces))) pieces {}
  | listFailed {gone lost : List Segment} {fault : Fault} :
      Passes .list ⟨gone ++ lost, some fault⟩ (.listed (.error fault)) gone {}
  | close {ahead : Ahead} : Passes .close ahead .done [] {}
  | within {ahead left : Ahead} {outcome : Hunt.Outcome} {gone : List Segment}
      (h : Finds ahead outcome gone left) : Passes .within ahead (.outcome outcome) gone {}

/-- Steps go through the pieces one after the other. -/
inductive PassAll : List Step → Ahead → List Reply → List Segment → Prop where
  | nil {ahead : Ahead} : PassAll [] ahead [] []
  | cons {step : Step} {steps : List Step} {ahead left : Ahead} {reply : Reply}
      {replies : List Reply} {gone later : List Segment} (hstep : step.Passes ahead reply gone left)
      (hsteps : PassAll steps left replies later) :
      PassAll (step :: steps) ahead (reply :: replies) (gone ++ later)

end Scan.Step

/-- Asking for all layouts goes on behind the one that is found. -/
theorem Finds.list {ahead left : Ahead} {layout : Layout} {gone later : List Segment}
    {listed : Except Fault (List Layout)} (h : Finds ahead (.found layout) gone left)
    (hlater : Scan.Step.list.Passes left (.listed listed) later {}) :
    Scan.Step.list.Passes ahead (.listed (listed.map (layout :: ·))) (gone ++ later) {} := by
  cases h with
  | @found before left construct keyword body layout fault? hbefore =>
    cases hlater with
    | list =>
      have hlayouts : layout :: layoutsOf later =
          layoutsOf (before ++ .found construct keyword body layout :: later) := by
        simp [hbefore]
      simp only [Except.map, hlayouts, List.append_assoc, List.cons_append, List.nil_append]
      exact .list
    | @listFailed _ lost fault =>
      have hpieces : before ++ .found construct keyword body layout :: (later ++ lost) =
          before ++ [.found construct keyword body layout] ++ later ++ lost := by simp
      rw [hpieces]
      exact .listFailed

/-- What a search goes through and what it leaves ahead stand at the front of the pieces. -/
theorem Finds.isPrefix {ahead left : Ahead} {outcome : Hunt.Outcome} {gone : List Segment}
    (h : Finds ahead outcome gone left) : gone ++ left.pieces <+: ahead.pieces := by
  cases h with
  | found hbefore => simp
  | ended hpieces => simp
  | failed hgone => simp

namespace Scan.Step

theorem Passes.isPrefix {step : Step} {ahead left : Ahead} {reply : Reply} {gone : List Segment}
    (h : step.Passes ahead reply gone left) : gone ++ left.pieces <+: ahead.pieces := by
  cases h with
  | next hfinds => exact hfinds.isPrefix
  | list => simp
  | listFailed => simp
  | close => simp
  | within hfinds =>
    rw [List.append_nil]
    exact (List.prefix_append _ _).trans hfinds.isPrefix

/-- Steps go through a front of the pieces, in their order. -/
theorem PassAll.isPrefix {steps : List Step} {ahead : Ahead} {replies : List Reply}
    {gone : List Segment} (h : PassAll steps ahead replies gone) : gone <+: ahead.pieces := by
  induction h with
  | nil => exact List.nil_prefix
  | @cons step steps ahead left reply replies gone later hstep _ ih =>
    exact ((List.prefix_append_right_inj gone).mpr ih).trans hstep.isPrefix

end Scan.Step

/-! ## Searches -/

theorem Source.UsedUp.fault?_eq_none {s : Source} (h : s.UsedUp) : s.fault? = none := by
  simp [Source.fault?, h.2]

/-- The given failure, if any, is still to come, and the stream has ended only at the end. -/
structure TokenStream.Meets (s : TokenStream) (fault? : Option Fault) : Prop where
  fault : s.source.fault? = fault?
  usedUp : s.ended = true → s.source.UsedUp

/-- The given pieces and failure lie ahead of a stream. -/
structure TokenStream.Faces (s : TokenStream) (ahead : Ahead) : Prop where
  pieces : Accounts s.lastLine s.remaining ahead.pieces
  meets : s.Meets ahead.fault?

namespace TokenStream.Meets

variable {s s' : TokenStream} {fault? : Option Fault} {m : Reading α}

/-- What is read is what the tokens left give; the failure is still to come. -/
theorem of_ok {f : Nat → List Token → α × List Token} {a : α} (h : s.Meets fault?)
    (hfollows : Follows m f) (hmirrors : Mirrors m) (hread : Keeps ReadOn m)
    (hrun : m s = .ok a s') :
    f s.lastLine s.remaining = (a, s'.remaining) ∧ s'.lastLine = s.lastLine ∧ s'.Meets fault? := by
  obtain ⟨hlist, hlast, hfault⟩ := hfollows.eq_of_mirrors hmirrors hrun
  have hreadOn := leftBy_of_ok hrun ▸ hread s
  exact ⟨hlist, hlast, hfault.trans h.fault, hreadOn.usedUp h.usedUp⟩

/-- A failure is the one that was to come, and leaves nothing ahead. -/
theorem of_error {fault : Fault} (h : s.Meets fault?) (hmirrors : Mirrors m)
    (hread : Keeps ReadOn m) (hrun : m s = .error fault s') :
    fault? = some fault ∧ s'.Faces {} := by
  obtain ⟨hfault, hcalm, hnil⟩ := (mirrorsAt_of_error hrun).mp (hmirrors s)
  have hreadOn := leftBy_of_error hrun ▸ hread s
  exact ⟨h.fault.symm.trans hfault, hnil ▸ .nil, hcalm, hreadOn.usedUp h.usedUp⟩

/-- A token that is read was the first one left. -/
theorem of_next_some {t : Token} (h : s.Meets fault?) (hnext : next s = .ok (some t) s') :
    s.remaining = t :: s'.remaining ∧ s'.lastLine = s.lastLine ∧ s'.Meets fault? := by
  obtain ⟨hlist, hrest⟩ := h.of_ok next_follows next_mirrors framed_readOn.next hnext
  obtain ⟨hhead, htail⟩ := Prod.mk.inj hlist
  obtain ⟨ts, hts⟩ := List.head?_eq_some_iff.mp hhead
  rw [hts, List.tail_cons] at htail
  exact ⟨htail ▸ hts, hrest⟩

/-- Where no token is left, no failure is left either. -/
theorem of_next_none (h : s.Meets fault?) (hnext : next s = .ok none s') :
    s.remaining = [] ∧ fault? = none ∧ s'.Faces {} := by
  obtain ⟨hlist, -, hmeets⟩ := h.of_ok next_follows next_mirrors framed_readOn.next hnext
  obtain ⟨hhead, htail⟩ := Prod.mk.inj hlist
  have hnil := List.head?_eq_none_iff.mp hhead
  have husedUp := hmeets.usedUp ((ended_of_next hnext).2 rfl).1
  obtain rfl : fault? = none := hmeets.fault.symm.trans husedUp.fault?_eq_none
  rw [hnil, List.tail_nil] at htail
  exact ⟨hnil, rfl, htail ▸ .nil, hmeets⟩

/-- A construct that is parsed is the first piece, and the others are still ahead. -/
theorem of_parse {construct : Construct} {keyword : Token} {pieces : List Segment}
    {result : Except Malformed Layout} (h : s.Meets fault?)
    (hkind : Construct.ofKind? keyword.kind = some construct)
    (hpieces : Accounts s.lastLine (keyword :: s.remaining) pieces)
    (hparse : construct.parse s = .ok result s') :
    ∃ piece later, pieces = piece :: later ∧ s'.Faces ⟨later, fault?⟩ ∧
      match result with
      | .ok layout => ∃ body, piece = .found construct keyword body layout
      | .error malformed =>
        ∃ matched, piece = .skipped ⟨construct, keyword, malformed⟩ matched := by
  obtain ⟨hresult, hlast, hmeets⟩ := h.of_ok (parse_parsesAs construct) (parse_mirrors construct)
    (framed_readOn.parse construct) hparse
  obtain ⟨rest, later, hlater, hfirst⟩ := Accounts.of_cons_construct hkind hpieces
  rw [hresult] at hfirst
  rw [← hlast] at hlater
  rcases hfirst with ⟨body, layout, hparsed, -, rfl⟩ | ⟨matched, malformed, hparsed, -, rfl⟩
  · cases hparsed
    exact ⟨_, later, rfl, ⟨hlater, hmeets⟩, body, rfl⟩
  · cases hparsed
    exact ⟨_, later, rfl, ⟨hlater, hmeets⟩, matched, rfl⟩

end TokenStream.Meets

/-- Looking for a layout goes through pieces ahead, and skips what is skipped in them. -/
theorem TokenStream.Faces.hunt {s : TokenStream} {ahead : Ahead} (h : s.Faces ahead) :
    ∃ gone left, Finds ahead (hunt s).outcome gone left ∧ (hunt s).skips = skipsOf gone ∧
      (hunt s).stream.Faces left := by
  obtain ⟨pieces, fault?⟩ := ahead
  obtain ⟨hpieces, hmeets⟩ := h
  simp only at hpieces hmeets
  fun_induction StructScan.hunt s generalizing pieces with
  | case1 s fault s' hnext =>
    obtain ⟨rfl, hfaces⟩ := hmeets.of_error next_mirrors framed_readOn.next hnext
    exact ⟨[], {}, @Finds.failed [] _ _ rfl, rfl, hfaces⟩
  | case2 s s' hnext =>
    obtain ⟨hnil, rfl, hfaces⟩ := hmeets.of_next_none hnext
    rw [hnil] at hpieces
    cases hpieces
    exact ⟨[], {}, .ended rfl, rfl, hfaces⟩
  | case3 s keyword s' hnext hkind ih =>
    obtain ⟨hlist, hlast, hmeets'⟩ := hmeets.of_next_some hnext
    rw [hlist, ← hlast] at hpieces
    obtain ⟨later, rfl, hlater⟩ := Accounts.of_cons_dropped hkind hpieces
    obtain ⟨gone, left, hfinds, hskips, hfaces⟩ := ih later hlater hmeets'
    exact ⟨_, left, hfinds.cons rfl, hskips, hfaces⟩
  | case4 s keyword s' hnext construct hkind fault s'' hparse =>
    obtain ⟨-, -, hmeets'⟩ := hmeets.of_next_some hnext
    obtain ⟨rfl, hfaces⟩ :=
      hmeets'.of_error (parse_mirrors construct) (framed_readOn.parse construct) hparse
    exact ⟨[], {}, @Finds.failed [] _ _ rfl, rfl, hfaces⟩
  | case5 s keyword s' hnext construct hkind layout s'' hparse =>
    obtain ⟨hlist, hlast, hmeets'⟩ := hmeets.of_next_some hnext
    rw [hlist, ← hlast] at hpieces
    obtain ⟨_, later, rfl, hfaces, body, rfl⟩ := hmeets'.of_parse hkind hpieces hparse
    exact ⟨_, ⟨later, fault?⟩, @Finds.found [] _ _ _ _ _ _ rfl, rfl, hfaces⟩
  | case6 s keyword s' hnext construct hkind malformed s'' hparse rest ih =>
    obtain ⟨hlist, hlast, hmeets'⟩ := hmeets.of_next_some hnext
    rw [hlist, ← hlast] at hpieces
    obtain ⟨_, later, rfl, hfaces, matched, rfl⟩ := hmeets'.of_parse hkind hpieces hparse
    obtain ⟨gone, left, hfinds, hskips, hfaces'⟩ := ih later hfaces.pieces hfaces.meets
    refine ⟨_, left, hfinds.cons rfl, ?_, hfaces'⟩
    rw [hskips]
    rfl

/-! ## Scans -/

theorem notedIn_nil (report : Option Report) : notedIn report [] = report := by
  cases report with
  | none => rfl
  | some r => simp [notedIn, Report.warn, skipsOf]

namespace Scan

/-- What lies ahead of a scan is what lies ahead of its stream, and nothing once it is finished. -/
def Faces (s : Scan) (ahead : Ahead) : Prop :=
  if s.finished then ahead = {} else s.stream.Faces ahead

theorem faces_of_finished {s : Scan} (h : s.finished = true) {ahead : Ahead} :
    s.Faces ahead ↔ ahead = {} := by
  simp [Faces, h]

theorem faces_of_open {s : Scan} (h : s.finished = false) {ahead : Ahead} :
    s.Faces ahead ↔ s.stream.Faces ahead := by
  simp [Faces, h]

theorem faces_close (s : Scan) : s.close.Faces {} :=
  (faces_of_finished (finished_close s)).mpr rfl

namespace Faces

variable {s : Scan} {ahead : Ahead}

/-- Looking for a layout goes through pieces ahead, and notes what is skipped in them. -/
theorem next (h : s.Faces ahead) :
    ∃ gone left, Finds ahead s.next.1 gone left ∧ s.next.2.Faces left ∧
      s.next.2.report = notedIn s.report gone := by
  cases hfinished : s.finished with
  | true =>
    obtain rfl := (faces_of_finished hfinished).mp h
    rw [next_of_finished hfinished]
    exact ⟨[], {}, .ended rfl, h, (notedIn_nil _).symm⟩
  | false =>
    obtain ⟨gone, left, hfinds, hskips, hfaces⟩ := ((faces_of_open hfinished).mp h).hunt
    have hreport : (s.record (hunt s.stream)).report = notedIn s.report gone := by
      simp [record, notedIn, hskips]
    rw [next_of_open hfinished]
    refine ⟨gone, left, hfinds, ?_, ?_⟩
    · by_cases hended : (hunt s.stream).outcome = .ended
      · rw [hended] at hfinds
        cases hfinds
        simpa [hended] using faces_close _
      · simpa [hended] using (faces_of_open (s := s.record (hunt s.stream)) hfinished).mpr hfaces
    · by_cases hended : (hunt s.stream).outcome = .ended
      · simpa [hended, close_report] using hreport
      · simpa [hended] using hreport

/-- Looking for all layouts goes through all pieces ahead, or meets the failure among them. -/
theorem rest (h : s.Faces ahead) :
    ∃ gone, Step.list.Passes ahead (.listed s.rest.1) gone {} ∧ s.rest.2.Faces {} ∧
      s.rest.2.report = notedIn s.report gone := by
  fun_induction Scan.rest s generalizing ahead with
  | case1 s layout s' hnext layouts s'' hrest ih =>
    obtain ⟨gone, left, hfinds, hfaces, hreport⟩ := hnext ▸ h.next
    obtain ⟨later, hpasses, hfaces', hreport'⟩ := hrest ▸ ih hfaces
    exact ⟨gone ++ later, hfinds.list hpasses, hfaces', by rw [hreport', hreport, notedIn_append]⟩
  | case2 s layout s' hnext fault s'' hrest ih =>
    obtain ⟨gone, left, hfinds, hfaces, hreport⟩ := hnext ▸ h.next
    obtain ⟨later, hpasses, hfaces', hreport'⟩ := hrest ▸ ih hfaces
    exact ⟨gone ++ later, hfinds.list hpasses, hfaces', by rw [hreport', hreport, notedIn_append]⟩
  | case3 s s' hnext =>
    obtain ⟨gone, left, hfinds, hfaces, hreport⟩ := hnext ▸ h.next
    cases hfinds with
    | ended hpieces => exact ⟨gone, hpieces ▸ .list, hfaces, hreport⟩
  | case4 s fault s' hnext =>
    obtain ⟨gone, left, hfinds, hfaces, hreport⟩ := hnext ▸ h.next
    cases hfinds with
    | failed hgone => exact ⟨gone, .listFailed, hfaces, hreport⟩

/-- Every step goes through pieces ahead, and notes what is skipped in them. -/
theorem perform (h : s.Faces ahead) (step : Step) :
    ∃ gone left, step.Passes ahead (step.perform s).1 gone left ∧ (step.perform s).2.Faces left ∧
      (step.perform s).2.report = notedIn s.report gone := by
  cases step with
  | next =>
    obtain ⟨gone, left, hfinds, hfaces, hreport⟩ := h.next
    exact ⟨gone, left, .next hfinds, hfaces, hreport⟩
  | list =>
    obtain ⟨gone, hpasses, hfaces, hreport⟩ := h.rest
    exact ⟨gone, {}, hpasses, hfaces, hreport⟩
  | close => exact ⟨[], {}, .close, faces_close s, by rw [notedIn_nil]; exact close_report s⟩
  | within =>
    obtain ⟨gone, left, hfinds, -, hreport⟩ := h.next
    exact ⟨gone, {}, .within hfinds, faces_close _, (close_report _).trans hreport⟩

/-- Any number of steps go through the pieces ahead, and note what is skipped in them. -/
theorem run (h : s.Faces ahead) (steps : List Step) :
    ∃ gone, Step.PassAll steps ahead (Step.run steps s).1 gone ∧
      (Step.run steps s).2.report = notedIn s.report gone := by
  induction steps generalizing s ahead with
  | nil => exact ⟨[], .nil, (notedIn_nil _).symm⟩
  | cons step steps ih =>
    obtain ⟨gone, left, hpasses, hfaces, hreport⟩ := h.perform step
    obtain ⟨later, hpasses', hreport'⟩ := ih hfaces
    refine ⟨gone ++ later, .cons hpasses hpasses', ?_⟩
    rw [Step.run, hreport', hreport, notedIn_append]

end Faces

/-- The pieces of its tokens, and its failure, lie ahead of a scan of a source. -/
theorem exists_faces_ofSource (source : Source) (report : Option Report) :
    ∃ pieces, Accounts source.pending.length (linesTokens 1 .code source.pending).1 pieces ∧
      (ofSource source report).Faces ⟨pieces, source.fault?⟩ := by
  obtain ⟨pieces, haccounts, -⟩ :=
    rest_accounts { stream := (TokenStream.ofSource source).quieted } rfl rfl
  have haccounts' : Accounts (TokenStream.ofSource source).lastLine
      (TokenStream.ofSource source).remaining pieces := haccounts
  refine ⟨pieces, ?_, haccounts', rfl, ?_⟩
  · rwa [lastLine_ofSource, remaining_ofSource] at haccounts'
  · simp [ofSource, TokenStream.ofSource]

/-- The code of a warning tells which keyword was skipped. -/
theorem code_of_mem_skipsOf {last : Nat} {ts : List Token} {pieces : List Segment}
    (h : Accounts last ts pieces) {skip : Skip} (hskip : skip ∈ skipsOf pieces) :
    skip.keyword.kind = .struct ∧ skip.diagnostic.code = "W001" ∨
      skip.keyword.kind = .typedef ∧ skip.diagnostic.code = "W002" := by
  obtain ⟨before, matched, left, rest, -, hkind, -⟩ := h.exists_of_mem_skipsOf hskip
  cases hconstruct : skip.construct with
  | struct =>
    refine .inl ⟨?_, by simp [Skip.diagnostic, Skip.code, hconstruct, Diagnostic.malformedStruct]⟩
    cases hkeyword : skip.keyword.kind <;> simp [hkeyword, hconstruct, Construct.ofKind?] at hkind ⊢
  | typedef =>
    refine .inr ⟨?_, by simp [Skip.diagnostic, Skip.code, hconstruct, Diagnostic.malformedTypedef]⟩
    cases hkeyword : skip.keyword.kind <;> simp [hkeyword, hconstruct, Construct.ofKind?] at hkind ⊢

/--
A report only observes.  Whatever the source does and whichever steps are taken, the replies are
the same with a report and without one, the scan is finished in both cases or in none, and its
source handed out as many lines and was closed or not alike.  The report keeps its file and its
errors.  To its warnings are added those about the constructs that were skipped, in the order in
which the steps went through them; each warning has the code of the keyword that was skipped.
A scan of nothing gives the same replies too, and leaves its report as it was.
-/
theorem Step.run_observed (source : Source) (report : Report) (steps : List Step) :
    let plain := run steps (ofSource source)
    let noted := run steps (ofSource source (some report))
    noted.1 = plain.1 ∧ noted.2.finished = plain.2.finished ∧
      noted.2.stream.source.pulled = plain.2.stream.source.pulled ∧
      noted.2.stream.source.isClosed = plain.2.stream.source.isClosed ∧
      (∃ pieces gone,
        Accounts source.pending.length (linesTokens 1 .code source.pending).1 pieces ∧
        PassAll steps ⟨pieces, source.fault?⟩ plain.1 gone ∧ gone <+: pieces ∧
        noted.2.report = some { report with
          warnings := report.warnings ++ (skipsOf gone).map Skip.diagnostic } ∧
        ∀ skip ∈ skipsOf gone,
          skip.keyword.kind = .struct ∧ skip.diagnostic.code = "W001" ∨
            skip.keyword.kind = .typedef ∧ skip.diagnostic.code = "W002") ∧
      (run steps (nothing (some report))).1 = (run steps nothing).1 ∧
      (run steps (nothing (some report))).2 = nothing (some report) := by
  intro plain noted
  have hplain : plain = (noted.1, noted.2.unreported) :=
    run_unreported steps (ofSource source (some report))
  obtain ⟨pieces, haccounts, hfaces⟩ := exists_faces_ofSource source (some report)
  obtain ⟨gone, hpasses, hreport⟩ := hfaces.run steps
  have hfront := hpasses.isPrefix
  refine ⟨by rw [hplain], by rw [hplain]; rfl, by rw [hplain]; rfl, by rw [hplain]; rfl,
    ⟨pieces, gone, haccounts, by rwa [hplain], hfront, hreport, ?_⟩, ?_, ?_⟩
  · intro skip hskip
    obtain ⟨left, rfl⟩ := hfront
    exact code_of_mem_skipsOf haccounts (by simp [hskip])
  · rw [run_of_finished steps rfl, run_of_finished steps rfl]
  · rw [run_of_finished steps rfl]

end Scan

end StructScan
