import StructScan.Proofs.Grammar.Watched
import StructScan.Proofs.Scan.Observation

/-!
# Watching a scan

A scan is watched from its first step to its last: the tokens its searches ask for and give back,
the constructs they enter, find and give up, and what each token that was dealt with has led to.

Main results:

- Theorem `Hunt.told_by_moments`: what a search skips and finds is told by what is seen of it.
- Theorem `Scan.Chained.run`: what looking for a layout keeps up along what is seen, any steps of a
  scan keep up.
-/

namespace StructScan

open TokenStream
open Watched (ask parse)

/-! ## Searches -/

/-- A search deals with one token after the other. -/
theorem hunt_eq (s : TokenStream) :
    hunt s = match next s with
      | .error fault s' => ⟨.failed fault, [], s'⟩
      | .ok none s' => ⟨.ended, [], s'⟩
      | .ok (some keyword) s' =>
        match Construct.ofKind? keyword.kind with
        | none => hunt s'
        | some construct =>
          match construct.parse.run s' with
          | .error fault s'' => ⟨.failed fault, [], s''⟩
          | .ok (.ok layout) s'' => ⟨.found layout, [], s''⟩
          | .ok (.error malformed) s'' =>
            { hunt s'' with skips := ⟨construct, keyword, malformed⟩ :: (hunt s'').skips } := by
  fun_cases hunt s with
  | case1 fault s' hnext => rw [hnext]
  | case2 s' hnext => rw [hnext]
  | case3 keyword s' hnext hkind => rw [hnext]; simp only [hkind]
  | case4 keyword s' hnext construct hkind fault s'' hparse =>
    rw [hnext]
    simp only [hkind, hparse]
  | case5 keyword s' hnext construct hkind layout s'' hparse =>
    rw [hnext]
    simp only [hkind, hparse]
  | case6 keyword s' hnext construct hkind malformed s'' hparse later =>
    rw [hnext]
    simp only [hkind, hparse, later]

/-- What is seen while a layout is looked for. -/
def Hunt.moments (s : TokenStream) : List Moment :=
  match _h : next s with
  | .error _ _ => ask.moments s
  | .ok none _ => ask.moments s
  | .ok (some keyword) s' =>
    match Construct.ofKind? keyword.kind with
    | none => ask.moments s ++ .passed s s' :: moments s'
    | some construct =>
      let seen := ask.moments s ++ .entered construct s' :: (parse construct).moments s'
      match _h' : construct.parse.run s' with
      | .error _ _ => seen
      | .ok (.ok layout) s'' => seen ++ [.found layout s'', .passed s s'']
      | .ok (.error malformed) s'' =>
        seen ++ .gaveUp ⟨construct, keyword, malformed⟩ s'' :: .passed s s'' :: moments s''
termination_by s.weight
decreasing_by
  · have := next_bounded s
    simp [_h, count] at this
    omega
  · have := next_bounded s
    simp [_h, count] at this
    have h'' := construct.parse_spends s'
    simp [_h', partCount] at h''
    omega

namespace Moment

/-- The construct that is given up at a moment. -/
def skip? : Moment → Option Skip
  | gaveUp skip _ => some skip
  | _ => none

/-- The layout that is found at a moment. -/
def layout? : Moment → Option Layout
  | found layout _ => some layout
  | _ => none

/-- A moment in the reading of a construct, which comes to no end there. -/
def Inner (moment : Moment) : Prop :=
  moment.skip? = none ∧ moment.layout? = none

end Moment

/-- What is seen inside a construct tells nothing of how it comes out. -/
theorem Watched.parse_inner (c : Construct) (s : TokenStream) :
    ∀ moment ∈ (parse c).moments s, moment.Inner := by
  have hchained : Chained fun _ l _ => ∀ moment ∈ l, moment.Inner := by
    refine ⟨by simp, fun s l s' l' s'' h h' => List.forall_mem_append.mpr ⟨h, h'⟩, ?_, ?_⟩
    · intro s
      exact List.forall_mem_singleton.mpr ⟨rfl, rfl⟩
    · intro tokens s
      exact List.forall_mem_singleton.mpr ⟨rfl, rfl⟩
  refine hchained.parse (fun s l found s' _ hl => ?_) c s
  exact List.forall_mem_append.mpr ⟨hl, List.forall_mem_singleton.mpr ⟨rfl, rfl⟩⟩

/-- So does what is seen of a keyword up to the end of its construct. -/
theorem Watched.keyword_inner (c : Construct) (s s' : TokenStream) :
    ∀ moment ∈ ask.moments s ++ .entered c s' :: (parse c).moments s', moment.Inner := by
  have hask : ∀ moment ∈ ask.moments s, moment.Inner :=
    List.forall_mem_singleton.mpr ⟨rfl, rfl⟩
  exact List.forall_mem_append.mpr
    ⟨hask, List.forall_mem_cons.mpr ⟨⟨rfl, rfl⟩, parse_inner c s'⟩⟩

namespace Hunt

/-- What is told by moments on either side of which nothing is told. -/
theorem filterMap_inner {l : List Moment} (h : ∀ moment ∈ l, moment.Inner) (later : List Moment) :
    (l ++ later).filterMap Moment.skip? = later.filterMap Moment.skip? ∧
      (l ++ later).filterMap Moment.layout? = later.filterMap Moment.layout? := by
  have hskips : l.filterMap Moment.skip? = [] :=
    List.filterMap_eq_nil_iff.mpr fun moment hmem => (h moment hmem).1
  have hlayouts : l.filterMap Moment.layout? = [] :=
    List.filterMap_eq_nil_iff.mpr fun moment hmem => (h moment hmem).2
  rw [List.filterMap_append, List.filterMap_append, hskips, hlayouts]
  exact ⟨rfl, rfl⟩

/-- What was seen tells which constructs a search has skipped, and which layout it has found. -/
structure Told (h : Hunt) (seen : List Moment) : Prop where
  skips : h.skips = seen.filterMap Moment.skip?
  layouts : (Scan.Reply.outcome h.outcome).layouts = seen.filterMap Moment.layout?

/-- A search skips what is seen to be given up in it, and comes to what is seen to be found. -/
theorem told_by_moments (s : TokenStream) : (hunt s).Told (moments s) := by
  fun_induction moments s with
  | case1 s fault s' hnext =>
    rw [hunt_eq, hnext]
    exact ⟨rfl, rfl⟩
  | case2 s s' hnext =>
    rw [hunt_eq, hnext]
    exact ⟨rfl, rfl⟩
  | case3 s keyword s' hnext hkind ih =>
    rw [hunt_eq, hnext]
    simp only [hkind]
    exact ⟨ih.skips, ih.layouts⟩
  | case4 s keyword s' hnext construct hkind seen fault s'' hparse =>
    obtain ⟨hskips, hlayouts⟩ := filterMap_inner (Watched.keyword_inner construct s s') []
    rw [List.append_nil] at hskips hlayouts
    rw [hunt_eq, hnext]
    simp only [hkind, hparse]
    exact ⟨hskips.symm, hlayouts.symm⟩
  | case5 s keyword s' hnext construct hkind seen layout s'' hparse =>
    obtain ⟨hskips, hlayouts⟩ :=
      filterMap_inner (Watched.keyword_inner construct s s') [.found layout s'', .passed s s'']
    rw [hunt_eq, hnext]
    simp only [hkind, hparse]
    exact ⟨hskips.symm, hlayouts.symm⟩
  | case6 s keyword s' hnext construct hkind seen malformed s'' hparse ih =>
    obtain ⟨hskips, hlayouts⟩ := filterMap_inner (Watched.keyword_inner construct s s')
      (.gaveUp ⟨construct, keyword, malformed⟩ s'' :: .passed s s'' :: moments s'')
    rw [hunt_eq, hnext]
    simp only [hkind, hparse]
    exact ⟨(congrArg _ ih.skips).trans hskips.symm, ih.layouts.trans hlayouts.symm⟩

end Hunt

/-! ## Scans -/

namespace Scan

/-- What is seen while a scan looks for the next layout. -/
def seenInNext (s : Scan) : List Moment :=
  if s.finished then [] else Hunt.moments s.stream

/-- What is seen while a scan looks for all layouts that are left. -/
def seenInRest (s : Scan) : List Moment :=
  match _h : s.next with
  | (.found _, s') => s.seenInNext ++ s'.seenInRest
  | (.ended, _) => s.seenInNext
  | (.failed _, _) => s.seenInNext
termination_by s.stream.weight
decreasing_by exact next_weight _h

namespace Step

/-- What is seen of one step. -/
def seen : Step → Scan → List Moment
  | next, s => s.seenInNext
  | list, s => s.seenInRest
  | close, _ => []
  | within, s => s.seenInNext

/-- What is seen of steps that are taken one after the other. -/
def seenInRun : List Step → Scan → List Moment
  | [], _ => []
  | step :: steps, s => step.seen s ++ seenInRun steps (step.perform s).2

end Step

/-! ## What is kept up along the way -/

/--
A relation between two scans and what was seen on the way from one to the other, that looking for a
layout and closing keep up, over any number of steps.
-/
structure Chained (R : Scan → List Moment → Scan → Prop) : Prop where
  refl : ∀ s, R s [] s
  trans : ∀ s l s' l' s'', R s l s' → R s' l' s'' → R s (l ++ l') s''
  next : ∀ s, R s s.seenInNext s.next.2
  close : ∀ s, R s [] s.close

namespace Chained

variable {R : Scan → List Moment → Scan → Prop}

theorem rest (h : Chained R) (s : Scan) : R s s.seenInRest s.rest.2 := by
  have hnext := h.next s
  fun_induction Scan.seenInRest s with
  | case1 s layout s' hfound ih =>
    rw [hfound] at hnext
    rw [rest_of_found hfound]
    exact h.trans s _ s' _ _ hnext (ih (h.next s'))
  | case2 s s' hended =>
    rw [hended] at hnext
    rwa [rest_of_ended hended]
  | case3 s fault s' hfailed =>
    rw [hfailed] at hnext
    rwa [rest_of_failed hfailed]

theorem perform (h : Chained R) (step : Step) (s : Scan) :
    R s (step.seen s) (step.perform s).2 := by
  cases step with
  | next => exact h.next s
  | list => exact h.rest s
  | close => exact h.close s
  | within =>
    have hboth := h.trans s _ s.next.2 _ _ (h.next s) (h.close s.next.2)
    rwa [List.append_nil] at hboth

/-- What looking for a layout and closing keep up, any number of steps keep up. -/
theorem run (h : Chained R) (steps : List Step) (s : Scan) :
    R s (Step.seenInRun steps s) (Step.run steps s).2 := by
  induction steps generalizing s with
  | nil => exact h.refl s
  | cons step steps ih => exact h.trans s _ _ _ _ (h.perform step s) (ih _)

end Chained

end Scan

end StructScan
