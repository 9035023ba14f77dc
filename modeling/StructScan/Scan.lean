import StructScan.Grammar
import StructScan.Report

/-!
# Scans

A scan goes through a stream once, finds the layouts in it one by one, and
skips everything else.  Constructs that do not complete are skipped as well,
and noted in the report if there is one.  A scan is finished when it has come
to the end or was closed; from then on it finds nothing.

Main results:

- Theorem `Hunt.weight_le`: looking for a layout never makes the stream
  heavier, and finding one makes it lighter.
-/

namespace StructScan

open TokenStream

/-! ## Skipped constructs -/

/-- A construct that was skipped: its keyword and what was wrong with it. -/
structure Skip where
  construct : Construct
  keyword : Token
  malformed : Malformed
  deriving DecidableEq, Repr

namespace Skip

/-- The code of a warning about a construct. -/
def code (s : Skip) : String :=
  match s.construct with
  | .struct => Diagnostic.malformedStruct
  | .typedef => Diagnostic.malformedTypedef

/-- The warning about a skipped construct. -/
def diagnostic (s : Skip) : Diagnostic where
  line := s.malformed.line
  code := s.code
  message := s!"skipped '{s.keyword.text}' at line {s.keyword.line}: {s.malformed.reason}"

end Skip

/-! ## Looking for the next layout -/

/-- How the search for a layout came out. -/
inductive Hunt.Outcome where
  | found (layout : Layout)
  | ended
  | failed (fault : Fault)
  deriving DecidableEq, Repr

/-- A search for a layout: how it came out, what it skipped, and the stream after it. -/
structure Hunt where
  outcome : Hunt.Outcome
  skips : List Skip
  stream : TokenStream
  deriving DecidableEq, Repr

/-- Looks for the next layout in a stream. -/
def hunt (s : TokenStream) : Hunt :=
  match _h : next s with
  | .error fault s' => ⟨.failed fault, [], s'⟩
  | .ok none s' => ⟨.ended, [], s'⟩
  | .ok (some keyword) s' =>
    match Construct.ofKind? keyword.kind with
    | none => hunt s'
    | some construct =>
      match _h' : construct.parse.run s' with
      | .error fault s'' => ⟨.failed fault, [], s''⟩
      | .ok (.ok layout) s'' => ⟨.found layout, [], s''⟩
      | .ok (.error malformed) s'' =>
        let later := hunt s''
        { later with skips := ⟨construct, keyword, malformed⟩ :: later.skips }
termination_by s.weight
decreasing_by
  · have := next_bounded s
    simp [_h, count] at this
    omega
  · have := next_bounded s
    simp [_h, count] at this
    have h'' := construct.parse_spends s'
    simp [_h', partCount] at h''
    omega

/-- Finding a layout makes a stream lighter; finding none never makes it heavier. -/
theorem Hunt.weight_le (s : TokenStream) :
    (hunt s).stream.weight +
        (match (hunt s).outcome with
          | .found _ => 1
          | _ => 0) ≤ s.weight := by
  fun_induction hunt s with
  | case1 s fault s' h =>
    have := next_bounded s
    simpa [h] using this
  | case2 s s' h =>
    have := next_bounded s
    simpa [h, count] using this
  | case3 s keyword s' h hk ih =>
    have := next_bounded s
    simp [h, count] at this
    omega
  | case4 s keyword s' h construct hk fault s'' h' =>
    have := next_bounded s
    simp [h, count] at this
    have h'' := construct.parse_spends s'
    simp [h'] at h''
    simp
    omega
  | case5 s keyword s' h construct hk layout s'' h' =>
    have := next_bounded s
    simp [h, count] at this
    have h'' := construct.parse_spends s'
    simp [h', partCount] at h''
    simp
    omega
  | case6 s keyword s' h construct hk malformed s'' h' later ih =>
    have := next_bounded s
    simp [h, count] at this
    have h'' := construct.parse_spends s'
    simp [h', partCount] at h''
    simp only [later] at *
    omega

/-! ## Scans -/

/-- A scan: its stream, whether it is finished, and the report that it adds to. -/
structure Scan where
  stream : TokenStream
  finished : Bool := false
  report : Option Report := none
  deriving DecidableEq, Repr

namespace Scan

/-- A scan of a source from its start. -/
def ofSource (source : Source) (report : Option Report := none) : Scan where
  stream := TokenStream.ofSource source
  report := report

/-- A scan of nothing, finished from the start. -/
def nothing (report : Option Report := none) : Scan where
  stream := TokenStream.ofSource ⟨[], .quiet, 0, 0⟩
  finished := true
  report := report

/-- A scan of a text. -/
def ofText (text : String) (report : Option Report := none) : Scan :=
  ofSource (Source.ofText text) report

/-- Finishes the scan and closes its stream, once. -/
def close (s : Scan) : Scan :=
  if s.finished then s else { s with stream := s.stream.close, finished := true }

/-- Takes over the stream of a search and notes what the search skipped. -/
def record (s : Scan) (h : Hunt) : Scan :=
  { s with
    stream := h.stream
    report := s.report.map fun r => r.warn (h.skips.map Skip.diagnostic) }

/-- Finds the next layout. -/
def next (s : Scan) : Hunt.Outcome × Scan :=
  if s.finished then (.ended, s)
  else
    let h := hunt s.stream
    match h.outcome with
    | .ended => (.ended, (s.record h).close)
    | outcome => (outcome, s.record h)

/-- Finding a layout makes the stream of a scan lighter. -/
theorem next_weight {s s' : Scan} {layout : Layout} (h : s.next = (.found layout, s')) :
    s'.stream.weight < s.stream.weight := by
  unfold next at h
  split at h
  · simp at h
  · have hw := Hunt.weight_le s.stream
    simp only at h
    split at h
    · simp at h
    · simp only [Prod.mk.injEq] at h
      rw [← h.2]
      simp only [h.1] at hw
      exact hw

/-- Finds all layouts that are left; a failure loses those found on the way to it. -/
def rest (s : Scan) : Except Fault (List Layout) × Scan :=
  match _h : s.next with
  | (.found layout, s') =>
    match rest s' with
    | (.ok layouts, s'') => (.ok (layout :: layouts), s'')
    | (.error fault, s'') => (.error fault, s'')
  | (.ended, s') => (.ok [], s')
  | (.failed fault, s') => (.error fault, s')
termination_by s.stream.weight
decreasing_by exact next_weight _h

end Scan

end StructScan
