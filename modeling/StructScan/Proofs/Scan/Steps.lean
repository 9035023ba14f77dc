import StructScan.Proofs.Grammar.Framing
import StructScan.Scan

/-!
# Steps of a scan

The user of a scan asks for the next layout or for all that are left, closes the scan, or asks
for a layout inside a block that closes the scan when it is left, in whatever order.  A step
that fails does not keep the user from going on.  All of this comes down to finding and
closing: what these two keep up, every run of steps keeps up.

Main results:

- Theorem `Framed.hunt`: what reading and giving back keep up, a search keeps up.
- Theorem `Scan.Invariant.run`: what finding and closing keep up, any number of steps keep up,
  and what holds of every layout that is found holds of every layout in a reply.
-/

namespace StructScan

open TokenStream

/-! ## Searches -/

/-- What reading and giving back keep up, looking for a layout keeps up. -/
theorem Framed.hunt {R : TokenStream → TokenStream → Prop} (h : Framed R) (s : TokenStream) :
    R s (hunt s).stream := by
  fun_induction StructScan.hunt s with
  | case1 s fault s' hnext => exact leftBy_of_error hnext ▸ h.next s
  | case2 s s' hnext => exact leftBy_of_ok hnext ▸ h.next s
  | case3 s keyword s' hnext hkind ih =>
    have hfirst := leftBy_of_ok hnext ▸ h.next s
    exact h.trans s s' _ hfirst ih
  | case4 s keyword s' hnext construct hkind fault s'' hparse =>
    have hfirst := leftBy_of_ok hnext ▸ h.next s
    exact h.trans s s' s'' hfirst (leftBy_of_error hparse ▸ h.parse construct s')
  | case5 s keyword s' hnext construct hkind layout s'' hparse =>
    have hfirst := leftBy_of_ok hnext ▸ h.next s
    exact h.trans s s' s'' hfirst (leftBy_of_ok hparse ▸ h.parse construct s')
  | case6 s keyword s' hnext construct hkind malformed s'' hparse later ih =>
    have hfirst := leftBy_of_ok hnext ▸ h.next s
    have hsecond := leftBy_of_ok hparse ▸ h.parse construct s'
    exact h.trans s s'' _ (h.trans s s' s'' hfirst hsecond) ih

namespace Scan

/-! ## Open and finished scans -/

theorem close_of_finished {s : Scan} (h : s.finished = true) : s.close = s := by
  simp [close, h]

/-- A scan that is finished gives nothing more. -/
theorem next_of_finished {s : Scan} (h : s.finished = true) : s.next = (.ended, s) := by
  simp [next, h]

theorem close_of_open {s : Scan} (h : s.finished = false) :
    s.close = { s with stream := s.stream.close, finished := true } := by
  simp [close, h]

/-- A scan that is open finds what its search finds, and closes at the end. -/
theorem next_of_open {s : Scan} (hopen : s.finished = false) :
    s.next = ((hunt s.stream).outcome,
      if (hunt s.stream).outcome = .ended then (s.record (hunt s.stream)).close
      else s.record (hunt s.stream)) := by
  unfold next
  cases houtcome : (hunt s.stream).outcome with
  | found layout => simp [hopen, houtcome]
  | ended => simp [hopen, houtcome]
  | failed fault => simp [hopen, houtcome]

/-! ## Steps and replies -/

/-- One step of the user of a scan. -/
inductive Step where
  /-- Asks for the next layout. -/
  | next
  /-- Asks for all layouts that are left. -/
  | list
  /-- Closes the scan. -/
  | close
  /-- Asks for a layout inside a block, and leaves the block, which closes the scan. -/
  | within
  deriving DecidableEq, Repr

/-- What a step gives. -/
inductive Reply where
  | outcome (outcome : Hunt.Outcome)
  | listed (layouts : Except Fault (List Layout))
  | done
  deriving Repr

/-- The layouts in a reply. -/
def Reply.layouts : Reply → List Layout
  | outcome (.found layout) => [layout]
  | listed (.ok layouts) => layouts
  | _ => []

namespace Step

/-- Takes one step.  A block is left after a failure inside it as well. -/
def perform : Step → Scan → Reply × Scan
  | next, s => (.outcome s.next.1, s.next.2)
  | list, s => (.listed s.rest.1, s.rest.2)
  | close, s => (.done, s.close)
  | within, s => (.outcome s.next.1, s.next.2.close)

/-- Takes steps one after the other, going on after those that fail. -/
def run : List Step → Scan → List Reply × Scan
  | [], s => ([], s)
  | step :: steps, s =>
    ((step.perform s).1 :: (run steps (step.perform s).2).1, (run steps (step.perform s).2).2)

end Step

/-! ## Invariants -/

/--
What finding and closing keep up, `P`, together with what it says of every layout that is
found, `Q`.
-/
structure Invariant (P : Scan → Prop) (Q : Layout → Prop) : Prop where
  next : ∀ s, P s → P s.next.2
  found : ∀ s layout, P s → s.next.1 = .found layout → Q layout
  close : ∀ s, P s → P s.close

namespace Invariant

variable {P : Scan → Prop} {Q : Layout → Prop}

/-- What finding keeps up, finding all that is left keeps up. -/
theorem rest (h : Invariant P Q) (s : Scan) (hs : P s) :
    P s.rest.2 ∧ ∀ layouts, s.rest.1 = .ok layouts → ∀ layout ∈ layouts, Q layout := by
  fun_induction Scan.rest s with
  | case1 s layout s' hnext layouts s'' hrest ih =>
    have hkept := h.next s hs
    rw [hnext] at hkept
    obtain ⟨hkept', hlater⟩ := ih hkept
    rw [hrest] at hkept' hlater
    refine ⟨hkept', ?_⟩
    rintro - ⟨rfl⟩ found hfound
    rcases List.mem_cons.mp hfound with rfl | hfound
    · exact h.found s found hs (by rw [hnext])
    · exact hlater layouts rfl found hfound
  | case2 s layout s' hnext fault s'' hrest ih =>
    have hkept := h.next s hs
    rw [hnext] at hkept
    obtain ⟨hkept', -⟩ := ih hkept
    rw [hrest] at hkept'
    exact ⟨hkept', by simp⟩
  | case3 s s' hnext =>
    have hkept := h.next s hs
    rw [hnext] at hkept
    refine ⟨hkept, ?_⟩
    rintro - ⟨rfl⟩ found hfound
    simp at hfound
  | case4 s fault s' hnext =>
    have hkept := h.next s hs
    rw [hnext] at hkept
    exact ⟨hkept, by simp⟩

/-- What finding and closing keep up, every step keeps up. -/
theorem perform (h : Invariant P Q) (step : Step) (s : Scan) (hs : P s) :
    P (step.perform s).2 ∧ ∀ layout ∈ (step.perform s).1.layouts, Q layout := by
  have hfound : ∀ layout ∈ (Reply.outcome s.next.1).layouts, Q layout := by
    intro layout hlayout
    cases houtcome : s.next.1 with
    | found layout' =>
      rw [houtcome] at hlayout
      obtain rfl := List.mem_singleton.mp hlayout
      exact h.found s layout hs houtcome
    | ended => simp [houtcome, Reply.layouts] at hlayout
    | failed fault => simp [houtcome, Reply.layouts] at hlayout
  cases step with
  | next => exact ⟨h.next s hs, hfound⟩
  | list =>
    obtain ⟨hkept, hlisted⟩ := h.rest s hs
    refine ⟨hkept, ?_⟩
    intro layout hlayout
    cases hrest : s.rest.1 with
    | ok layouts =>
      simp only [Step.perform, hrest, Reply.layouts] at hlayout
      exact hlisted layouts hrest layout hlayout
    | error fault => simp [Step.perform, hrest, Reply.layouts] at hlayout
  | close => exact ⟨h.close s hs, by simp [Step.perform, Reply.layouts]⟩
  | within => exact ⟨h.close _ (h.next s hs), hfound⟩

/-- What finding and closing keep up, any number of steps keep up. -/
theorem run (h : Invariant P Q) (steps : List Step) (s : Scan) (hs : P s) :
    P (Step.run steps s).2 ∧
      ∀ reply ∈ (Step.run steps s).1, ∀ layout ∈ reply.layouts, Q layout := by
  induction steps generalizing s with
  | nil => exact ⟨hs, by simp [Step.run]⟩
  | cons step steps ih =>
    obtain ⟨hkept, hfirst⟩ := h.perform step s hs
    obtain ⟨hkept', hlater⟩ := ih _ hkept
    refine ⟨hkept', ?_⟩
    intro reply hreply
    rcases List.mem_cons.mp hreply with rfl | hreply
    · exact hfirst
    · exact hlater reply hreply

end Invariant

end Scan

end StructScan
