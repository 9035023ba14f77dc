import StructScan.Proofs.Scan.Segments
import StructScan.Proofs.Token.Visible

/-!
# The lines of warnings

A warning names two lines: that of the keyword that was skipped, and that at which its construct
was given up.  Both are lines of the source, in this order, whatever was read ahead and given
back in between; and a construct is given up before the keyword of the next one is met.  Only
the last warning of a scan can be about a construct that ran into the end of the input.

Main results:

- Theorem `Accounts.points`: where each skipped construct stands among the tokens.
- Theorem `Accounts.skips_pairwise`: skipped constructs follow each other without overlap.
- Theorem `Scan.rest_warnings`: the lines of the warnings of a scan to the end.
-/

namespace StructScan

open Token (linesTokens)
open TokenStream

/-! ## Among tokens in the order of their lines -/

/-- A skipped construct stands somewhere among the tokens, and is given up there. -/
theorem Accounts.exists_of_mem_skipsOf {last : Nat} {ts : List Token} {segments : List Segment}
    (h : Accounts last ts segments) {skip : Skip} (hskip : skip ∈ skipsOf segments) :
    ∃ before matched left rest, ts = before ++ skip.keyword :: (matched ++ left) ∧
      Construct.ofKind? skip.keyword.kind = some skip.construct ∧
      GivesUp skip.construct last matched left skip.malformed rest := by
  induction h with
  | nil => contradiction
  | @dropped token _ _ _ _ ih =>
    obtain ⟨before, matched, left, rest, rfl, hstands⟩ := ih hskip
    exact ⟨token :: before, matched, left, rest, rfl, hstands⟩
  | @found _ keyword body _ _ _ _ _ _ ih =>
    obtain ⟨before, matched, left, rest, rfl, hstands⟩ := ih hskip
    exact ⟨keyword :: (body ++ before), matched, left, rest, by simp, hstands⟩
  | @skipped _ keyword matched left rest malformed _ hkind hgivesUp _ ih =>
    rcases List.mem_cons.mp hskip with rfl | hskip
    · exact ⟨[], matched, left, rest, rfl, hkind, hgivesUp⟩
    · obtain ⟨before, matched', left', rest', rfl, hstands⟩ := ih hskip
      refine ⟨keyword :: (matched ++ malformed.found.toList) ++ before, matched', left', rest', ?_,
        hstands⟩
      simp [hgivesUp.refuses.tokens]

/--
A skipped construct among the given tokens, the last line of which is known: its keyword is one
of them, and so is the token at which it was given up, no earlier than the keyword; or the
construct ran into the end of the input.
-/
structure Skip.Points (last : Nat) (ts : List Token) (skip : Skip) : Prop where
  keyword : skip.keyword ∈ ts
  offending : ∀ t, skip.malformed.found = some t → t ∈ ts ∧ skip.malformed.line = t.line
  atEnd : skip.malformed.found = none → skip.malformed.line = last
  ordered : skip.keyword.line ≤ skip.malformed.line

namespace Accounts

variable {last : Nat} {ts : List Token} {segments : List Segment}

/-- Every skipped construct points to its keyword and to where it was given up. -/
theorem points (h : Accounts last ts segments)
    (hsorted : ts.Pairwise fun t u => t.line ≤ u.line) (hlast : ∀ t ∈ ts, t.line ≤ last)
    {skip : Skip} (hskip : skip ∈ skipsOf segments) : skip.Points last ts := by
  obtain ⟨before, matched, left, rest, rfl, -, hgivesUp⟩ := h.exists_of_mem_skipsOf hskip
  have hmem (t : Token) (ht : skip.malformed.found = some t) : t ∈ matched ++ left := by
    simp [hgivesUp.refuses.tokens, ht]
  have hline := hgivesUp.refuses.line
  refine ⟨by simp, fun t ht => ⟨?_, by simpa [ht] using hline⟩, fun hnone => ?_, ?_⟩
  · exact List.mem_append_right _ (List.mem_cons_of_mem _ (hmem t ht))
  · simpa [hnone] using hline
  · cases hfound : skip.malformed.found with
    | none => simpa [hline, hfound] using hlast skip.keyword (by simp)
    | some t =>
      have hafter := (List.pairwise_append.mp hsorted).2.1
      simpa [hline, hfound] using List.rel_of_pairwise_cons hafter (hmem t hfound)

/-- A construct is given up at a token, before the keyword of the next skipped one. -/
theorem skips_pairwise (h : Accounts last ts segments)
    (hsorted : ts.Pairwise fun t u => t.line ≤ u.line) :
    (skipsOf segments).Pairwise fun first next =>
      first.malformed.line ≤ next.keyword.line ∧ first.malformed.found.isSome := by
  induction h with
  | nil => exact .nil
  | dropped _ _ ih => exact ih hsorted.of_cons
  | found _ _ _ ih => exact ih (List.pairwise_append.mp hsorted.of_cons).2.1
  | @skipped _ keyword matched left rest malformed segments _ hgivesUp hrest ih =>
    have htokens := hgivesUp.refuses.tokens
    have hline := hgivesUp.refuses.line
    have hleft : left.Pairwise fun t u => t.line ≤ u.line :=
      (List.pairwise_append.mp hsorted.of_cons).2.1
    rw [htokens] at hleft
    refine .cons (fun next hnext => ?_) (ih (List.pairwise_append.mp hleft).2.1)
    have hkeyword : next.keyword ∈ rest := by
      obtain ⟨before, matched', left', rest', rfl, -⟩ := hrest.exists_of_mem_skipsOf hnext
      simp
    -- A token is left, so it was at a token that the construct was given up.
    cases hfound : malformed.found with
    | none =>
      rw [hgivesUp.refuses.atEnd hfound] at hkeyword
      contradiction
    | some t =>
      rw [hfound] at hleft hline
      exact ⟨by simpa [hline] using List.rel_of_pairwise_cons hleft hkeyword, by simp⟩

end Accounts

/-! ## Scans to the end -/

namespace Token

/-- No token of lines stands behind the last of them. -/
theorem line_le_of_mem_linesTokens {lines : List Line} {t : Token}
    (h : t ∈ (linesTokens 1 .code lines).1) : t.line ≤ lines.length := by
  obtain ⟨-, placed, hplaced⟩ := linesTokens_tile 1 .code lines
  rw [← hplaced.tokens_eq, List.mem_map] at h
  obtain ⟨p, hp, rfl⟩ := h
  obtain ⟨i, cs, hline, hget, -⟩ := hplaced.stands p hp
  have hbound := (List.getElem?_eq_some_iff.mp hget).1
  omega

end Token

/--
The warnings of a scan of lines to the end, one for each construct that is skipped when the
tokens of the lines are cut up.  A warning stands on the line where its construct was given up
and names the line of its keyword.  Both are lines of the source, the keyword's not after the
other.  The construct was given up on the line of a token, or on the last line if it ran into
the end of the input, which is so of the last warning only.  No warning stands after the keyword
that a later one names.
-/
theorem Scan.rest_warnings (lines : List String) (report : Report) :
    let tokens := (linesTokens 1 .code (lines.map String.toList)).1
    ∃ segments, Accounts lines.length tokens segments ∧
      (ofSource (Source.ofLines lines) (some report)).rest.2.report =
        some { report with
          warnings := report.warnings ++ (skipsOf segments).map Skip.diagnostic } ∧
      (∀ skip ∈ skipsOf segments,
        skip.diagnostic = ⟨skip.malformed.line, skip.code,
          s!"skipped '{skip.keyword.text}' at line {skip.keyword.line}: {skip.malformed.reason}"⟩ ∧
        1 ≤ skip.keyword.line ∧ skip.keyword.line ≤ skip.malformed.line ∧
        skip.malformed.line ≤ lines.length ∧ skip.keyword ∈ tokens ∧
        (∀ t, skip.malformed.found = some t → t ∈ tokens ∧ skip.malformed.line = t.line) ∧
        (skip.malformed.found = none → skip.malformed.line = lines.length)) ∧
      (skipsOf segments).Pairwise fun first next =>
        first.malformed.line ≤ next.keyword.line ∧ first.malformed.found.isSome := by
  intro tokens
  obtain ⟨segments, haccounts, -, hreport⟩ :=
    rest_accounts (ofSource (Source.ofLines lines) (some report)) rfl rfl
  have hlast : (ofSource (Source.ofLines lines) (some report)).stream.lastLine = lines.length := by
    rw [ofSource, lastLine_ofSource, Source.ofLines, List.length_map]
  have hremaining : (ofSource (Source.ofLines lines) (some report)).stream.remaining = tokens :=
    remaining_ofSource _
  rw [hlast, hremaining] at haccounts
  have hsorted : tokens.Pairwise fun t u => t.line ≤ u.line := Token.linesTokens_pairwise _ _ _
  have hbound (t : Token) (ht : t ∈ tokens) : t.line ≤ lines.length := by
    simpa using Token.line_le_of_mem_linesTokens ht
  refine ⟨segments, haccounts, hreport, ?_, haccounts.skips_pairwise hsorted⟩
  intro skip hskip
  have hpoints := haccounts.points hsorted hbound hskip
  have hfirst : 1 ≤ skip.keyword.line := by
    simpa using Token.le_line_of_mem_linesTokens hpoints.keyword
  have hend : skip.malformed.line ≤ lines.length := by
    cases hfound : skip.malformed.found with
    | none => exact Int.le_of_eq (hpoints.atEnd hfound)
    | some t =>
      obtain ⟨hmem, hline⟩ := hpoints.offending t hfound
      exact hline ▸ hbound t hmem
  exact ⟨rfl, hfirst, hpoints.ordered, hend, hpoints.keyword, hpoints.offending, hpoints.atEnd⟩

end StructScan
