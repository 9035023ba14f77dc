import StructScan.Proofs.Scan.Segments
import StructScan.Proofs.Token.Cut

/-!
# A text that goes on keeps its layouts

What is added to a text can complete a construct that was given up at its end, and it
can change the last token of the text.  Neither reaches back to a layout that was found:
a construct ends in a semicolon, which stays what it is, and a construct that is given up
otherwise than before has only parts of a field behind it.

Main results:

- Theorem `Accounts.layoutsOf_eq_nil`: no layout is found where at most the last token is
  a keyword.
- Theorem `Accounts.layoutsOf_prefix`: tokens that go on have all layouts that they had.
- Theorem `Scan.rest_prefix`: a scan of a text that goes on finds all layouts that a scan
  of the text finds, and maybe others after them.
-/

namespace StructScan

open TokenStream (tokensOfText)

/-! ## Parts of tokens that go on -/

/-- A part of tokens that go on stays as it is, or it ends where all of them end. -/
theorem GoesOn.of_append_left {part rest us : List Token} (h : GoesOn (part ++ rest) us) :
    (∃ us', us = part ++ us' ∧ GoesOn rest us') ∨
      (rest = [] ∧ ∃ before t, part = before ++ [t] ∧ t.kind ≠ .semicolon) := by
  induction part generalizing us with
  | nil => exact .inl ⟨us, rfl, h⟩
  | cons t part ih =>
    generalize hts : t :: part ++ rest = ts at h
    cases h with
    | nil => contradiction
    | last hkind us =>
      obtain ⟨rfl, hnil⟩ := List.cons.inj hts
      obtain ⟨rfl, rfl⟩ := List.append_eq_nil_iff.mp hnil
      exact .inr ⟨rfl, [], t, rfl, hkind⟩
    | cons t' hrest =>
      obtain ⟨rfl, rfl⟩ := List.cons.inj hts
      rcases ih hrest with ⟨us', rfl, hus'⟩ | ⟨hnil, before, u, rfl, hkind⟩
      · exact .inl ⟨us', rfl, hus'⟩
      · exact .inr ⟨hnil, t :: before, u, rfl, hkind⟩

/-- Tokens that go on to a part they did not start with are, but for the last, of that part. -/
theorem GoesOn.exists_front {ts part later : List Token} (h : GoesOn ts (part ++ later))
    (hpart : ∀ rest, ts ≠ part ++ rest) :
    ∃ front tail, ts = front ++ tail ∧ (∀ t ∈ front, t ∈ part) ∧ tail.length ≤ 1 := by
  induction part generalizing ts with
  | nil => exact absurd rfl (hpart ts)
  | cons t part ih =>
    generalize hus : t :: part ++ later = us at h
    cases h with
    | nil => exact ⟨[], [], rfl, by simp, by simp⟩
    | @last u hkind => exact ⟨[], [u], rfl, by simp, by simp⟩
    | @cons u ts us hrest =>
      obtain ⟨rfl, rfl⟩ := List.cons.inj hus
      have hpart' (rest : List Token) : ts ≠ part ++ rest := by
        rintro rfl
        exact hpart rest rfl
      obtain ⟨front, tail, rfl, hfront, htail⟩ := ih hrest hpart'
      refine ⟨t :: front, tail, rfl, ?_, htail⟩
      intro v hv
      rcases List.mem_cons.mp hv with rfl | hv
      · simp
      · simp [hfront v hv]

/-! ## Tokens without layouts -/

theorem Accounts.eq_nil {last : Nat} {segments : List Segment} (h : Accounts last [] segments) :
    segments = [] := by
  cases h
  rfl

/-- One token is no layout. -/
theorem Accounts.layoutsOf_singleton {last : Nat} {t : Token} {segments : List Segment}
    (h : Accounts last [t] segments) : layoutsOf segments = [] := by
  cases hkind : Construct.ofKind? t.kind with
  | none =>
    obtain ⟨later, rfl, hlater⟩ := h.of_cons_dropped hkind
    rw [hlater.eq_nil]
    rfl
  | some construct =>
    obtain ⟨rest, later, hlater, hfirst⟩ := h.of_cons_construct hkind
    rcases hfirst with ⟨body, layout, hparse, -, rfl⟩ | ⟨matched, malformed, -, hnil, rfl⟩
    · -- A construct is not complete without a semicolon behind its keyword.
      obtain ⟨spelled, hspelled, hspells⟩ := Listed.parse_ok_iff.mp hparse
      obtain ⟨what, begun, semicolon, rfl, -⟩ := hspells.begins
      simp at hspelled
    · obtain rfl : rest = [] := by
        have := List.append_eq_nil_iff.mp (List.append_eq_nil_iff.mp hnil.symm).2
        exact this.2
      rw [hlater.eq_nil]
      rfl

/-- No layout is found where at most the last token is a keyword. -/
theorem Accounts.layoutsOf_eq_nil {last : Nat} {front tail : List Token} {segments : List Segment}
    (h : Accounts last (front ++ tail) segments)
    (hfront : ∀ t ∈ front, Construct.ofKind? t.kind = none) (htail : tail.length ≤ 1) :
    layoutsOf segments = [] := by
  induction front generalizing segments with
  | cons t front ih =>
    obtain ⟨later, rfl, hlater⟩ := h.of_cons_dropped (hfront t (by simp))
    rw [layoutsOf_dropped]
    exact ih hlater fun u hu => hfront u (by simp [hu])
  | nil =>
    rcases tail with _ | ⟨t, _ | ⟨u, tail⟩⟩
    · rw [h.eq_nil]
      rfl
    · exact h.layoutsOf_singleton
    · simp at htail

/-- What may come next in a construct holds no keyword. -/
theorem MayFollow.ofKind?_eq_none {construct : Construct} {what : Expectation}
    {begun part : List Token} (h : MayFollow construct what begun part) :
    ∀ t ∈ part, Construct.ofKind? t.kind = none := by
  cases h with
  | field hfield => exact fun t ht => (Token.Kind.inField_eq_true (hfield.inField t ht)).2.2
  | tag hname => simp [hname, Construct.ofKind?]

/-! ## Layouts stay -/

/-- The token that was found decides a failure, not what stands behind it. -/
theorem Refuses.of_cons {last : Nat} {e : Malformed} {t : Token} {left rest : List Token}
    (h : Refuses last e (t :: left) rest) (last' : Nat) (left' : List Token) :
    Refuses last' e (t :: left') left' := by
  obtain ⟨hfound, rfl⟩ := h.found_of_cons
  refine ⟨by simp [hfound], h.refused, by simp [hfound], ?_⟩
  simpa [hfound] using h.line

/--
A construct that is given up before the end is given up in the same way when the tokens go
on, or else all that was left behind it, but for one token, is part of a field.
-/
theorem GivesUp.goesOn {construct : Construct} {last : Nat} {matched left rest us : List Token}
    {e : Malformed} (h : GivesUp construct last matched left e rest) (hgoesOn : GoesOn left us)
    (last' : Nat) :
    (∃ rest', GivesUp construct last' matched us e rest' ∧ GoesOn rest rest') ∨
      ∃ front tail, rest = front ++ tail ∧
        (∀ t ∈ front, Construct.ofKind? t.kind = none) ∧ tail.length ≤ 1 := by
  cases hgoesOn with
  | nil us =>
    have hnil := List.append_eq_nil_iff.mp h.refuses.tokens.symm
    exact .inr ⟨[], [], hnil.2, by simp, by simp⟩
  | last hkind us =>
    obtain ⟨-, rfl⟩ := h.refuses.found_of_cons
    exact .inr ⟨[], [], rfl, by simp, by simp⟩
  | @cons t left us hrest =>
    obtain ⟨-, rfl⟩ := h.refuses.found_of_cons
    by_cases hlonger : ∃ part later, MayFollow construct e.expected matched part ∧
        t :: us = part ++ later
    · -- Something comes next now that did not before, so the tokens ended inside of it.
      right
      obtain ⟨part, later, hpart, hus⟩ := hlonger
      have hnone := hpart.ofKind?_eq_none
      have hlongest := h.longest part
      cases part with
      | nil => exact absurd rfl (hlongest _ hpart)
      | cons u part =>
        obtain ⟨rfl, rfl⟩ := List.cons.inj hus
        have hpart' (more : List Token) : left ≠ part ++ more := by
          rintro rfl
          exact hlongest more hpart rfl
        obtain ⟨front, tail, hleft, hfront, htail⟩ := hrest.exists_front hpart'
        exact ⟨front, tail, hleft, fun v hv => hnone v (by simp [hfront v hv]), htail⟩
    · refine .inl ⟨us, ⟨h.begins, ?_, h.refuses.of_cons last' us⟩, hrest⟩
      intro part later hpart hus
      exact hlonger ⟨part, later, hpart, hus⟩

/-- Tokens that go on have all layouts that they had, and maybe others after them. -/
theorem Accounts.layoutsOf_prefix {last last' : Nat} {ts us : List Token}
    {segments segments' : List Segment} (h : Accounts last ts segments)
    (h' : Accounts last' us segments') (hgoesOn : GoesOn ts us) :
    layoutsOf segments <+: layoutsOf segments' := by
  induction h generalizing us segments' with
  | nil => exact List.nil_prefix
  | dropped hkind hrest ih =>
    cases hgoesOn with
    | last =>
      rw [hrest.eq_nil]
      exact List.nil_prefix
    | cons _ hgoesOn =>
      obtain ⟨later, rfl, hlater⟩ := h'.of_cons_dropped hkind
      rw [layoutsOf_dropped, layoutsOf_dropped]
      exact ih hlater hgoesOn
  | @found construct keyword body rest layout later hkind hspells _ ih =>
    obtain ⟨what, begun, semicolon, rfl, -, hsemicolon⟩ := hspells.begins
    rw [← List.cons_append] at hgoesOn
    rcases hgoesOn.of_append_left with ⟨us', rfl, hus'⟩ | ⟨-, before, t, hbody, ht⟩
    · obtain ⟨later', rfl, hlater⟩ := h'.of_cons_found hkind hspells
      rw [layoutsOf_found, layoutsOf_found, List.prefix_cons_inj]
      exact ih hlater hus'
    · rw [← List.cons_append] at hbody
      obtain ⟨-, hlast⟩ := List.append_inj' hbody rfl
      obtain rfl : semicolon = t := by simpa using hlast
      exact absurd hsemicolon ht
  | @skipped construct keyword matched left rest malformed later hkind hgivesUp hrest ih =>
    rw [← List.cons_append] at hgoesOn
    rw [layoutsOf_skipped]
    rcases hgoesOn.of_append_left with ⟨us', rfl, hus'⟩ | ⟨rfl, -⟩
    · rcases hgivesUp.goesOn hus' last' with
        ⟨rest', hgivesUp', hrest'⟩ | ⟨front, tail, rfl, hfront, htail⟩
      · obtain ⟨later', rfl, hlater⟩ := h'.of_cons_skipped hkind hgivesUp'
        rw [layoutsOf_skipped]
        exact ih hlater hrest'
      · rw [hrest.layoutsOf_eq_nil hfront htail]
        exact List.nil_prefix
    · have hnil := List.append_eq_nil_iff.mp hgivesUp.refuses.tokens.symm
      rw [hnil.2] at hrest
      rw [hrest.eq_nil]
      exact List.nil_prefix

/-! ## Whole texts -/

/--
A scan of a text that goes on finds all layouts that a scan of the text finds, wherever the
text was cut, and maybe others after them.
-/
theorem Scan.rest_prefix (text later : String) :
    ∃ layouts layouts', layouts <+: layouts' ∧
      (∀ report, (ofText text report).rest.1 = .ok layouts) ∧
      ∀ report, (ofText (text ++ later) report).rest.1 = .ok layouts' := by
  obtain ⟨segments, haccounts, -⟩ := rest_ofText text none
  obtain ⟨segments', haccounts', -⟩ := rest_ofText (text ++ later) none
  have hprefix : layoutsOf segments <+: layoutsOf segments' :=
    haccounts.layoutsOf_prefix haccounts' (TokenStream.tokensOfText_goesOn text later)
  refine ⟨layoutsOf segments, layoutsOf segments', hprefix, ?_, ?_⟩
  · exact fun report => (rest_of_accounts haccounts report).1
  · exact fun report => (rest_of_accounts haccounts' report).1

end StructScan
