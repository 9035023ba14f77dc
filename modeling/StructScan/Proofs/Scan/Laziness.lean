import StructScan.Proofs.Grammar.Calls
import StructScan.Proofs.Grammar.Lookahead
import StructScan.Proofs.Scan.Steps

/-!
# How far a scan reads

A scan takes a line only if it needs one.  When it finds a layout, the last line that it took
is the one with the semicolon that completes the layout, whatever was skipped before; and when
a token is read that was not given back, the last line that was taken is the one with the
token.

What carries this is that a scan meets a keyword only with nothing given back: of the tokens
that a construct leaves behind when it is given up, none but the last opens a construct.

Main results:

- Theorem `Underway.hunt`: a search leaves a stream that is underway, and stops at the
  semicolon of the layout that it finds.
- Theorem `Scan.invariant_underway`: so do any steps of a scan.
- Theorem `Scan.next_stops`: a scan takes no line beyond the layout that it finds, and a stream
  none beyond the token that it reads.
-/

namespace StructScan

open Token (linesTokens)
open TokenStream

/-! ## Sources that do not fail -/

/-- Lines without a failure after them make a source that never fails. -/
theorem Source.fault?_ofLines (lines : List String) {ending : Ending}
    (hending : ∀ fault, ending ≠ .fatal fault) : (ofLines lines ending).fault? = none := by
  cases ending with
  | fatal fault => exact absurd rfl (hending fault)
  | quiet => rfl
  | unreadable => rfl
  | undecodable => rfl

/-! ## Layouts among tokens -/

/--
Tokens that complete a layout: the keyword of a construct, the construct as it spells the
layout, up to the given semicolon, and the tokens left after it.
-/
inductive Completes : List Token → Layout → Token → List Token → Prop where
  | mk {construct : Construct} {layout : Layout} {before begun left : List Token}
      {keyword semicolon : Token} (hkind : Construct.ofKind? keyword.kind = some construct)
      (hspells : Spells construct layout (begun ++ [semicolon]))
      (hsemicolon : semicolon.kind = .semicolon) :
      Completes (before ++ keyword :: (begun ++ [semicolon] ++ left)) layout semicolon left

/-! ## Streams on their way through a source -/

/--
A stream on its way through a source with the given tokens: what is left are the last of them,
what was given back is left of an attempt, and the lines were counted.
-/
structure Underway (ts : List Token) (s : TokenStream) : Prop where
  calm : s.Calm
  suffix : s.remaining <:+ ts
  leftover : Leftover s.returned
  counted : s.line = s.source.pulled

namespace Underway

variable {ts : List Token} {s s' : TokenStream}

theorem ofSource {source : Source} (hcalm : source.fault? = none) (hfresh : source.pulled = 0) :
    Underway (linesTokens 1 .code source.pending).1 (TokenStream.ofSource source) where
  calm := hcalm
  suffix := ⟨[], remaining_ofSource source⟩
  leftover := by simp [TokenStream.ofSource, Leftover]
  counted := hfresh.symm

/-- A stream that is closed has nothing left. -/
theorem close (h : Underway ts s) : Underway ts s.close where
  calm := h.calm
  suffix := by simp [remaining, ahead, TokenStream.close]
  leftover := by simp [TokenStream.close, Leftover]
  counted := h.counted

/-- Lines stay counted on a stream that advances. -/
theorem counted_of_advances (h : Underway ts s) (hadvances : Advances s s') :
    s'.line = s'.source.pulled := by
  have hbefore := h.counted
  have hafter := hadvances.counted
  omega

theorem next {found : Option Token} (h : Underway ts s)
    (hnext : TokenStream.next s = .ok found s') : Underway ts s' := by
  obtain ⟨hlist, hleaves⟩ := next_follows.eq_of_ok h.calm hnext
  refine ⟨hleaves.calm, ?_, ?_, ?_⟩
  · rw [← (Prod.mk.inj hlist).2]
    exact (List.tail_suffix _).trans h.suffix
  · exact (returned_of_next hnext).1 ▸ h.leftover.tail
  · exact h.counted_of_advances (leftBy_of_ok hnext ▸ framed_advances.next s h.calm)

theorem parse {construct : Construct} {result : Except Malformed Layout} (h : Underway ts s)
    (hclear : s.Clear) (hparse : construct.parse.run s = .ok result s') : Underway ts s' := by
  obtain ⟨hresult, hleaves⟩ := (parse_parsesAs construct).eq_of_ok h.calm hparse
  have hclears := construct.parse_clears s result s' hclear hparse
  refine ⟨hleaves.calm, ?_, ?_, ?_⟩
  · refine List.IsSuffix.trans ?_ h.suffix
    cases result with
    | ok layout =>
      obtain ⟨spelled, hspelled, -⟩ := Listed.parse_ok_iff.mp hresult
      exact ⟨spelled, hspelled.symm⟩
    | error e =>
      obtain ⟨matched, left, hmatched, hgivesUp⟩ := Listed.parse_error_iff.mp hresult
      rw [hmatched, hgivesUp.refuses.tokens, ← List.append_assoc]
      exact List.suffix_append _ _
  · cases result with
    | ok layout => simp [hclears.1, Leftover]
    | error e => exact hclears
  · exact h.counted_of_advances (leftBy_of_ok hparse ▸ framed_advances.parse construct s h.calm)

/-- A construct that is read after its keyword completes its layout on the line taken last. -/
theorem completes {s'' : TokenStream} {keyword : Token} {construct : Construct} {layout : Layout}
    (h : Underway ts s) (hnext : TokenStream.next s = .ok (some keyword) s')
    (hkind : Construct.ofKind? keyword.kind = some construct)
    (hparse : construct.parse.run s' = .ok (.ok layout) s'') :
    ∃ semicolon, Completes ts layout semicolon s''.remaining ∧
      (s''.source.pulled : Int) = semicolon.line := by
  have h' := h.next hnext
  have hclear := clear_of_keyword h.leftover hnext hkind
  obtain ⟨begun, semicolon, hlist, hspells, hsemicolon, hline⟩ :=
    construct.parse_stops h'.calm hclear hparse
  obtain ⟨before, rfl⟩ := h.suffix
  refine ⟨semicolon, ?_, ?_⟩
  · rw [(remaining_of_next_some h.calm hnext).1, hlist]
    exact .mk hkind hspells hsemicolon
  · rw [← hline, (h'.parse hclear hparse).counted]

/-- A search leaves a stream underway, and stops at the semicolon of the layout that it finds. -/
theorem hunt (h : Underway ts s) :
    Underway ts (StructScan.hunt s).stream ∧
      ∀ layout, (StructScan.hunt s).outcome = .found layout →
        ∃ semicolon, Completes ts layout semicolon (StructScan.hunt s).stream.remaining ∧
          ((StructScan.hunt s).stream.source.pulled : Int) = semicolon.line := by
  fun_induction StructScan.hunt s with
  | case1 s fault s' hnext => exact absurd hnext (next_follows.ne_error h.calm)
  | case2 s s' hnext =>
    refine ⟨h.next hnext, ?_⟩
    intro layout hfound
    cases hfound
  | case3 s keyword s' hnext hkind ih => exact ih (h.next hnext)
  | case4 s keyword s' hnext construct hkind fault s'' hparse =>
    exact absurd hparse ((parse_parsesAs construct).ne_error (h.next hnext).calm)
  | case5 s keyword s' hnext construct hkind layout s'' hparse =>
    refine ⟨(h.next hnext).parse (clear_of_keyword h.leftover hnext hkind) hparse, ?_⟩
    intro found hfound
    obtain rfl := Hunt.Outcome.found.inj hfound
    exact h.completes hnext hkind hparse
  | case6 s keyword s' hnext construct hkind malformed s'' hparse later ih =>
    exact ih ((h.next hnext).parse (clear_of_keyword h.leftover hnext hkind) hparse)

end Underway

namespace Scan

/-! ## Any number of steps -/

/-- A scan underway that finds a layout has stopped at the semicolon that completes it. -/
theorem completes_of_next {ts : List Token} {s s' : Scan} {layout : Layout}
    (h : Underway ts s.stream) (hnext : s.next = (.found layout, s')) :
    ∃ semicolon, Completes ts layout semicolon s'.stream.remaining ∧
      (s'.stream.source.pulled : Int) = semicolon.line := by
  cases hfinished : s.finished with
  | true =>
    rw [next_of_finished hfinished] at hnext
    cases hnext
  | false =>
    rw [next_of_open hfinished] at hnext
    obtain ⟨houtcome, hstream⟩ := Prod.mk.inj hnext
    rw [houtcome] at hstream
    obtain rfl : s.record (hunt s.stream) = s' := by simpa using hstream
    exact h.hunt.2 layout houtcome

/-- Every layout that is found is completed by tokens of the source. -/
theorem invariant_underway (ts : List Token) :
    Invariant (fun s => Underway ts s.stream)
      (fun layout => ∃ semicolon left, Completes ts layout semicolon left) where
  next s h := by
    cases hfinished : s.finished with
    | true => rwa [next_of_finished hfinished]
    | false =>
      rw [next_of_open hfinished]
      split
      · rw [close_of_open (s := s.record (hunt s.stream)) hfinished]
        exact h.hunt.1.close
      · exact h.hunt.1
  found s layout h hfound := by
    obtain ⟨semicolon, hcompletes, -⟩ := completes_of_next h (Prod.ext hfound rfl)
    exact ⟨semicolon, _, hcompletes⟩
  close s h := by
    cases hfinished : s.finished with
    | true => rwa [close_of_finished hfinished]
    | false =>
      rw [close_of_open hfinished]
      exact h.close

/-- A token that was not given back is read from the line that was taken last. -/
theorem line_of_next {s s' : TokenStream} {t : Token} (hcounted : s.line = s.source.pulled)
    (hclear : s.Clear) (hnext : TokenStream.next s = .ok (some t) s') :
    (s'.source.pulled : Int) = t.line := by
  rcases next_cases s with ⟨u, ts, hcons, -⟩ | ⟨-, -, hnone⟩ | ⟨-, -, hlex⟩
  · rw [hclear] at hcons
    contradiction
  · rw [hnext] at hnone
    cases hnone
  · rw [hnext] at hlex
    obtain ⟨-, hlines, hfound⟩ := lex_spec hlex.symm
    rw [(hfound t rfl).1]
    omega

/-- Calls on a stream whose lines are counted keep them counted. -/
theorem counted_of_run {s : TokenStream} (hcalm : s.Calm) (hcounted : s.line = s.source.pulled)
    (calls : List Call) : (Call.run calls s).2.line = (Call.run calls s).2.source.pulled := by
  have hclose (s : TokenStream) (hcalm : s.Calm) : Advances s s.close := by
    refine ⟨hcalm, fun _ => rfl, rfl, s.ahead, ?_, by simp [TokenStream.close]⟩
    simp [ahead, TokenStream.close]
  have hadvances := (Call.run_keeps framed_advances hclose calls s hcalm).counted
  omega

/--
A scan over lines takes no line beyond the layout that it finds: whatever steps were taken and
whatever was skipped before, the number of lines taken is the line of the semicolon that
completes the layout.  Nor does its stream take a line beyond the token that it reads: whatever
was called before, the number of lines taken is the line of the token, unless the token had
been given back.
-/
theorem next_stops (lines : List String) {ending : Source.Ending}
    (hending : ∀ fault, ending ≠ .fatal fault) (report : Option Report) (steps : List Step)
    (calls : List Call) :
    let s := (Step.run steps (ofSource (Source.ofLines lines ending) report)).2
    let u := (Call.run calls s.stream).2
    (∀ layout s', s.next = (.found layout, s') →
      ∃ semicolon, Completes (linesTokens 1 .code (lines.map String.toList)).1 layout semicolon
          s'.stream.remaining ∧
        (s'.stream.source.pulled : Int) = semicolon.line) ∧
      ∀ t u', u.returned = [] → TokenStream.next u = .ok (some t) u' →
        (u'.source.pulled : Int) = t.line := by
  intro s u
  have hstart := Underway.ofSource (Source.fault?_ofLines lines hending) rfl
  obtain ⟨hunderway, -⟩ :=
    (invariant_underway _).run steps (ofSource (Source.ofLines lines ending) report) hstart
  refine ⟨fun layout s' => completes_of_next hunderway, fun t u' => ?_⟩
  exact line_of_next (counted_of_run hunderway.calm hunderway.counted calls)

/--
A struct that is given up in a field that runs into the next struct, which is found in what was
given back; the one after it ends on the same line.
-/
theorem next_stops_leftover :
    let lines := ["struct A \x7b int\n", "* struct\n", "B \x7b long n;\n",
      "\x7d; struct C \x7b\x7d;\n", "int x;\n"]
    let s := (Step.run [.next] (ofSource (Source.ofLines lines .unreadable))).2
    (∀ fault, Source.Ending.unreadable ≠ .fatal fault) ∧
      s.stream.source.pulled = 4 ∧ s.next.1 = .found ⟨"C", []⟩ ∧
      ∃ semicolon, Completes (linesTokens 1 .code (lines.map String.toList)).1 ⟨"C", []⟩ semicolon
          s.next.2.stream.remaining ∧
        (s.next.2.stream.source.pulled : Int) = semicolon.line := by
  intro lines s
  have hending (fault : Fault) : Source.Ending.unreadable ≠ .fatal fault := nofun
  have hfound : s.next.1 = .found ⟨"C", []⟩ := by decide +kernel
  refine ⟨hending, by decide +kernel, hfound, ?_⟩
  exact (next_stops lines hending none [.next] []).1 _ _ (Prod.ext hfound rfl)

end Scan

end StructScan
