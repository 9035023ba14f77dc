import StructScan.Proofs.Scan.Segments
import StructScan.Proofs.Scan.Steps

/-!
# The life of a scan

A scan owns its source and closes it once, when it finishes.  It finishes by coming to the end
of its input, by being closed, or by leaving a block, and in no other way; a failure of its
source leaves it open.  From then on it takes no line, reports nothing, and finds nothing.

Main results:

- Theorem `framed_readOn`: reading never closes a source, and ends a stream only where the
  source is used up.
- Theorem `Scan.invariant_owns`: a scan has closed its source exactly if it is finished.
- Theorem `Scan.Step.run_of_finished`: a scan that is finished stays as it is.
- Theorem `Scan.Step.finished_perform_iff`: the ways for a scan to finish.
- Theorem `Scan.Step.run_lifeCycle`: the life of a scan over any run of steps.
-/

namespace StructScan

open TokenStream

/-! ## Reading and the source -/

/-- A source that has handed out every line and has no failure in store. -/
def Source.UsedUp (s : Source) : Prop :=
  s.pending = [] ∧ s.ending = .quiet

/-- Reading does not close the source, and ends the stream only where the source is used up. -/
structure ReadOn (s s' : TokenStream) : Prop where
  closings : s'.source.closings = s.source.closings
  usedUp : (s.ended = true → s.source.UsedUp) → s'.ended = true → s'.source.UsedUp

theorem lex_readOn {s : TokenStream} (hended : s.ended = false) : ReadOn s (leftBy lex s) := by
  have hpending := @Token.reach_pending_eq_nil .code s.rest s.source.pending
  unfold leftBy lex
  generalize Token.reach .code s.rest s.source.pending = r at hpending
  obtain ⟨start, pending, pulled⟩ := r
  simp only [arrive]
  cases start with
  | some found => exact ⟨rfl, by simp [hended]⟩
  | none =>
    cases (s.source.handOut pulled pending).fault? with
    | none => exact ⟨rfl, fun _ _ => ⟨hpending rfl, rfl⟩⟩
    | some fault => exact ⟨rfl, by simp [hended]⟩

/-- Whatever is read, the source is not closed, and the stream ends where it is used up. -/
theorem framed_readOn : Framed ReadOn where
  refl s := ⟨rfl, id⟩
  trans s s' s'' h h' := ⟨h'.closings.trans h.closings, fun hs => h'.usedUp (h.usedUp hs)⟩
  next s := by
    rcases next_cases s with ⟨t, ts, -, hnext⟩ | ⟨-, -, hnext⟩ | ⟨-, hopen, hnext⟩
    · rw [leftBy_of_ok hnext]
      exact ⟨rfl, id⟩
    · rw [leftBy_of_ok hnext]
      exact ⟨rfl, id⟩
    · rw [leftBy, hnext]
      exact lex_readOn hopen
  unread tokens s := ⟨rfl, id⟩

/-- A search that comes to the end ends its stream. -/
theorem ended_of_hunt {s : TokenStream} (h : (hunt s).outcome = .ended) :
    (hunt s).stream.ended = true := by
  fun_induction hunt s with
  | case1 s fault s' hnext => cases h
  | case2 s s' hnext => exact ((ended_of_next hnext).2 rfl).1
  | case3 s keyword s' hnext hkind ih => exact ih h
  | case4 s keyword s' hnext construct hkind fault s'' hparse => cases h
  | case5 s keyword s' hnext construct hkind layout s'' hparse => cases h
  | case6 s keyword s' hnext construct hkind malformed s'' hparse later ih => exact ih h

namespace Scan

/-! ## Finishing -/

@[simp]
theorem finished_close (s : Scan) : s.close.finished = true := by
  cases h : s.finished with
  | true => rw [close_of_finished h, h]
  | false => rw [close_of_open h]

@[simp]
theorem finished_record (s : Scan) (h : Hunt) : (s.record h).finished = s.finished :=
  rfl

/-- Looking for a layout finishes an open scan exactly if there is none left. -/
theorem finished_of_next {s s' : Scan} {outcome : Hunt.Outcome} (hopen : s.finished = false)
    (hnext : s.next = (outcome, s')) : s'.finished = true ↔ outcome = .ended := by
  rw [next_of_open hopen] at hnext
  cases hnext
  by_cases hended : (hunt s.stream).outcome = .ended
  · simp [hended]
  · simp [hended, hopen]

/-- Looking for all layouts finishes an open scan exactly if it does not fail. -/
theorem finished_rest_iff {s : Scan} (hopen : s.finished = false) :
    s.rest.2.finished = true ↔ ∃ layouts, s.rest.1 = .ok layouts := by
  fun_induction rest s with
  | case1 s layout s' hnext layouts s'' hrest ih =>
    have hlater := ih (by simpa using finished_of_next hopen hnext)
    rw [hrest] at hlater
    simpa using hlater
  | case2 s layout s' hnext fault s'' hrest ih =>
    have hlater := ih (by simpa using finished_of_next hopen hnext)
    rw [hrest] at hlater
    simpa using hlater
  | case3 s s' hnext => simpa using finished_of_next hopen hnext
  | case4 s fault s' hnext => simpa using finished_of_next hopen hnext

/-! ## Owning a source -/

/--
A scan owns a source: it has closed it once if it is finished, and never before; while it is
open, its stream has ended only if the source is used up.
-/
structure Owns (source : Source) (s : Scan) : Prop where
  closings : s.stream.source.closings = source.closings + (if s.finished then 1 else 0)
  usedUp : s.finished = false → s.stream.ended = true → s.stream.source.UsedUp

theorem owns_ofSource (source : Source) (report : Option Report) :
    (ofSource source report).Owns source :=
  ⟨rfl, by simp [ofSource, TokenStream.ofSource]⟩

theorem Owns.close {source : Source} {s : Scan} (h : s.Owns source) : s.close.Owns source := by
  cases hfinished : s.finished with
  | true => rwa [close_of_finished hfinished]
  | false =>
    rw [close_of_open hfinished]
    refine ⟨?_, by simp⟩
    have hclosings := h.closings
    simp only [hfinished, Bool.false_eq_true, if_false] at hclosings
    simp [TokenStream.close, Source.close, hclosings]

/-- A search leaves the source open. -/
theorem Owns.record {source : Source} {s : Scan} (h : s.Owns source) (hopen : s.finished = false) :
    (s.record (hunt s.stream)).Owns source := by
  have hread := framed_readOn.hunt s.stream
  exact ⟨hread.closings.trans h.closings, fun _ => hread.usedUp (h.usedUp hopen)⟩

/-- Finding and closing keep a source owned. -/
theorem invariant_owns (source : Source) : Invariant (Owns source) (fun _ => True) where
  next s h := by
    cases hfinished : s.finished with
    | true => rwa [next_of_finished hfinished]
    | false =>
      rw [next_of_open hfinished]
      by_cases hended : (hunt s.stream).outcome = .ended
      · simpa [hended] using (h.record hfinished).close
      · simpa [hended] using h.record hfinished
  found _ _ _ _ := trivial
  close _ h := h.close

/-- Where no layout is left, the source is used up. -/
theorem usedUp_of_next {source : Source} {s : Scan} (h : s.Owns source)
    (hopen : s.finished = false) (hended : s.next.1 = .ended) :
    s.next.2.stream.source.UsedUp := by
  have houtcome : (hunt s.stream).outcome = .ended := by rwa [next_of_open hopen] at hended
  have husedUp := (h.record hopen).usedUp hopen (ended_of_hunt houtcome)
  rw [next_of_ended hopen houtcome, close_of_open (s := s.record (hunt s.stream)) hopen]
  exact husedUp

/-- Where all layouts were found, the source is used up. -/
theorem usedUp_of_rest {source : Source} {s : Scan} {layouts : List Layout} (h : s.Owns source)
    (hopen : s.finished = false) (hrest : s.rest.1 = .ok layouts) :
    s.rest.2.stream.source.UsedUp := by
  fun_induction rest s generalizing layouts with
  | case1 s layout s' hnext found s'' hlater ih =>
    have hkept := (invariant_owns source).next s h
    rw [hnext] at hkept
    have hopen' : s'.finished = false := by simpa using finished_of_next hopen hnext
    have husedUp := ih hkept hopen' (congrArg Prod.fst hlater)
    rwa [hlater] at husedUp
  | case2 s layout s' hnext fault s'' hlater ih => cases hrest
  | case3 s s' hnext =>
    have husedUp := usedUp_of_next h hopen (congrArg Prod.fst hnext)
    rwa [hnext] at husedUp
  | case4 s fault s' hnext => cases hrest

/-! ## Steps -/

/-- The reply that tells that nothing is left. -/
def Reply.ends : Reply → Bool
  | outcome .ended => true
  | listed (.ok _) => true
  | _ => false

namespace Step

/-- The steps that close a scan, whatever they find. -/
def closes : Step → Bool
  | close | within => true
  | next | list => false

/-- The reply of a scan that is finished. -/
def idle : Step → Reply
  | next | within => .outcome .ended
  | list => .listed (.ok [])
  | close => .done

theorem perform_of_finished (step : Step) {s : Scan} (h : s.finished = true) :
    step.perform s = (step.idle, s) := by
  have hnext := next_of_finished h
  cases step with
  | next => simp [perform, idle, hnext]
  | list => simp [perform, idle, rest_of_ended hnext]
  | close => simp [perform, idle, close_of_finished h]
  | within => simp [perform, idle, hnext, close_of_finished h]

/-- A scan that is finished finds nothing and stays as it is. -/
theorem run_of_finished (steps : List Step) {s : Scan} (h : s.finished = true) :
    run steps s = (steps.map idle, s) := by
  induction steps with
  | nil => rfl
  | cons step steps ih => rw [run, perform_of_finished step h, ih, List.map_cons]

/-- An open scan finishes by closing, or by a step that finds nothing left. -/
theorem finished_perform_iff (step : Step) {s : Scan} (hopen : s.finished = false) :
    (step.perform s).2.finished = true ↔
      step.closes = true ∨ (step.perform s).1.ends = true := by
  cases step with
  | next =>
    have hiff : s.next.2.finished = true ↔ s.next.1 = .ended := finished_of_next hopen rfl
    rw [perform, hiff]
    cases s.next.1 <;> simp [closes, Reply.ends]
  | list =>
    rw [perform, finished_rest_iff hopen]
    cases s.rest.1 <;> simp [closes, Reply.ends]
  | close => simp [perform, closes]
  | within => simp [perform, closes]

/-- A step finds nothing left only where the source is used up. -/
theorem usedUp_of_ends {source : Source} (step : Step) {s : Scan} (h : s.Owns source)
    (hopen : s.finished = false) (hends : (step.perform s).1.ends = true) :
    (step.perform s).2.stream.source.UsedUp := by
  have hnext (hends : (Reply.outcome s.next.1).ends = true) :
      s.next.2.finished = true ∧ s.next.2.stream.source.UsedUp := by
    have hended : s.next.1 = .ended := by
      cases houtcome : s.next.1 <;> simp [houtcome, Reply.ends] at hends ⊢
    exact ⟨(finished_of_next hopen rfl).mpr hended, usedUp_of_next h hopen hended⟩
  cases step with
  | next => exact (hnext hends).2
  | list =>
    cases hrest : s.rest.1 with
    | ok layouts => exact usedUp_of_rest h hopen hrest
    | error fault => simp [perform, hrest, Reply.ends] at hends
  | close => simp [perform, Reply.ends] at hends
  | within =>
    obtain ⟨hfinished, husedUp⟩ := hnext hends
    rwa [perform, close_of_finished hfinished]

/--
The life of a scan, whatever its source does and whichever steps are taken.  Its source was
closed once if it is finished, and not at all if it is not.  Once it is finished, every
later step finds nothing and changes nothing.  It finishes by being closed, by leaving a block,
or by finding nothing left, and it finds nothing left only where the source is used up.  A scan
of nothing is finished from the start.
-/
theorem run_lifeCycle (source : Source) (report : Option Report) (steps : List Step) :
    let s := (run steps (ofSource source report)).2
    s.stream.source.closings = source.closings + (if s.finished then 1 else 0) ∧
      (s.finished = true → ∀ later, run later s = (later.map idle, s)) ∧
      (s.finished = false → ∀ step : Step,
        ((step.perform s).2.finished = true ↔
          step.closes = true ∨ (step.perform s).1.ends = true) ∧
        ((step.perform s).1.ends = true → (step.perform s).2.stream.source.UsedUp)) ∧
      (nothing report).finished = true ∧
      ∀ later, run later (nothing report) = (later.map idle, nothing report) := by
  intro s
  obtain ⟨howns, -⟩ := (invariant_owns source).run steps _ (owns_ofSource source report)
  refine ⟨howns.closings, ?_, ?_, rfl, ?_⟩
  · intro hfinished later
    exact run_of_finished later hfinished
  · intro hopen step
    exact ⟨finished_perform_iff step hopen, usedUp_of_ends step howns hopen⟩
  · intro later
    exact run_of_finished later rfl

/-- A source that fails inside a struct leaves the scan open; the next step comes to the end. -/
theorem run_lifeCycle_failing :
    let start := ofSource (Source.ofLines ["struct S \x7b\n"] (.fatal ⟨"source failed"⟩)) (some {})
    let s := (run [.next] start).2
    let t := (run [.next, .list] start).2
    (s.finished = false ∧ s.stream.source.closings = 0 ∧ ∀ step : Step,
      ((step.perform s).2.finished = true ↔
        step.closes = true ∨ (step.perform s).1.ends = true)) ∧
      t.finished = true ∧ t.stream.source.closings = 1 ∧
      ∀ later, run later t = (later.map idle, t) := by
  intro start s t
  have hopen : s.finished = false := by decide +kernel
  have hfinished : t.finished = true := by decide +kernel
  obtain ⟨hclosings, -, hsteps, -⟩ := run_lifeCycle _ _ [.next]
  obtain ⟨hclosings', hidle, -⟩ := run_lifeCycle _ _ [.next, .list]
  refine ⟨⟨hopen, ?_, fun step => (hsteps hopen step).1⟩, hfinished, ?_, hidle hfinished⟩
  · change s.stream.source.closings = 0 + if s.finished then 1 else 0 at hclosings
    rw [hclosings, hopen]
    rfl
  · change t.stream.source.closings = 0 + if t.finished then 1 else 0 at hclosings'
    rw [hclosings', hfinished]
    rfl

end Step

end Scan

end StructScan
