import StructScan.Proofs.Grammar.Lookahead
import StructScan.Proofs.Scan.Watched

/-!
# How much is given back

A scan never has more than four tokens given back: those of an attempt at a field that read a type,
a star, a name and a token that is not a semicolon.  It reads a construct only with nothing given
back, and finds a layout with nothing given back.  A construct that is given up leaves what is left
of such an attempt, which is at most three tokens, and none of them but the last opens another
construct.

The bound on one attempt would not carry over to the next one if tokens were left from the one
before.  They are not: what is left of an attempt is read up to the next keyword, and the keyword
is the last of it or comes after it.

Main results:

- Theorem `Watched.parse_orderly`: reading a construct, started with nothing given back.
- Theorem `Hunt.moments_disciplined`: a search, started with what is left of an attempt.
- Theorem `Scan.Step.run_disciplined`: any steps of a scan over a source.
-/

namespace StructScan

open TokenStream

/-! ## Few tokens given back -/

/-- At most a number of tokens are given back. -/
def TokenStream.Few (n : Nat) (s : TokenStream) : Prop :=
  s.returned.length ≤ n

namespace TokenStream

/-- A stream is clear if nothing was given back. -/
theorem few_zero_iff {s : TokenStream} : s.Few 0 ↔ s.Clear := by
  rw [Few, Clear, Nat.le_zero, List.length_eq_zero_iff]

theorem Few.mono {m n : Nat} {s : TokenStream} (h : s.Few m) (hle : m ≤ n) : s.Few n :=
  Nat.le_trans h hle

/-- Whether a token is read or not, the first one given back is taken off. -/
theorem returned_leftBy_next (s : TokenStream) : (leftBy next s).returned = s.returned.tail := by
  rcases next_cases s with ⟨t, ts, hcons, hnext⟩ | ⟨hnil, -, hnext⟩ | ⟨hnil, -, hnext⟩
  · rw [leftBy_of_ok hnext, hcons, List.tail_cons]
  · rw [leftBy_of_ok hnext, hnil, List.tail_nil]
  · rw [leftBy, hnext, lex, hnil, List.tail_nil]
    generalize Token.reach .code s.rest s.source.pending = r
    obtain ⟨start, pending, pulled⟩ := r
    simp only [arrive]
    cases start with
    | some first => exact hnil
    | none =>
      cases (s.source.handOut pulled pending).fault? with
      | none => exact hnil
      | some fault => exact hnil

/-- Reading takes one token off those given back. -/
theorem Few.leftBy_next {n : Nat} {s : TokenStream} (h : s.Few n) : (leftBy next s).Few (n - 1) := by
  rw [Few, returned_leftBy_next, List.length_tail]
  exact Nat.sub_le_sub_right h 1

end TokenStream

/-- How many tokens may be given back at a moment, and which. -/
def Moment.Disciplined : Moment → Prop
  | asked s | gaveBack s => s.Few 4
  | tried s _ s' | passed s s' => s.Few 4 ∧ s'.Few 4
  | entered _ s | found _ s => s.Clear
  | gaveUp _ s =>
    s.Few 3 ∧ ∀ t ∈ s.returned.dropLast, t.kind ≠ .typedef ∧ t.kind ≠ .struct

/-! ## Reading constructs -/

namespace Watched

variable {α β : Type} {P : TokenStream → Prop}

/--
Started where `P` holds, a watched computation is disciplined at every moment, and leaves a stream
where `Q` holds if it gives a result.
-/
structure Orderly (P : TokenStream → Prop) (m : Watched α) (Q : α → TokenStream → Prop) :
    Prop where
  seen : ∀ s, P s → ∀ moment ∈ m.moments s, moment.Disciplined
  ensures : Ensures P m.run Q

namespace Orderly

theorem pure {Q : α → TokenStream → Prop} {a : α} (h : ∀ s, P s → Q a s) :
    Orderly P (Pure.pure a : Watched α) Q where
  seen := by simp
  ensures := Ensures.pure h

/-- One disciplined computation after another is disciplined. -/
theorem bind {Q : α → TokenStream → Prop} {R : β → TokenStream → Prop} {m : Watched α}
    {k : α → Watched β} (hm : Orderly P m Q) (hk : ∀ a, Orderly (Q a) (k a) R) :
    Orderly P (m >>= k) R where
  seen := by
    intro s hs
    cases hrun : m.run s with
    | error fault s' =>
      rw [moments_bind_of_error hrun]
      exact hm.seen s hs
    | ok a s' =>
      rw [moments_bind_of_ok hrun]
      have hafter := hm.ensures s a s' hs hrun
      exact List.forall_mem_append.mpr ⟨hm.seen s hs, (hk a).seen s' hafter⟩
  ensures := hm.ensures.bind fun a => (hk a).ensures

end Orderly

/-! ### Fields -/

/-- Asking takes one token off those that were given back. -/
theorem ask_orderly {n : Nat} (hn : n ≤ 4) : Orderly (Few n) ask fun _ => Few (n - 1) where
  seen s hs :=
    List.forall_mem_singleton.mpr (hs.leftBy_next.mono (by omega) : (leftBy next s).Few 4)
  ensures s found s' hs hnext := leftBy_of_ok hnext ▸ hs.leftBy_next

/-- Four tokens at most may be given back to a clear stream. -/
theorem giveBack_orderly {tokens : List Token} (h : tokens.length ≤ 4) :
    Orderly (Few 0) (giveBack tokens) fun _ => Few tokens.length := by
  have hleft (s : TokenStream) (hs : s.Few 0) : (leftBy (unread tokens) s).Few tokens.length := by
    have hreturned : (leftBy (unread tokens) s).returned = tokens ++ s.returned := rfl
    exact Nat.le_of_eq (by rw [hreturned, few_zero_iff.mp hs, List.append_nil])
  refine ⟨fun s hs => List.forall_mem_singleton.mpr ((hleft s hs).mono h), ?_⟩
  intro s _ s' hs hunread
  exact leftBy_of_ok hunread ▸ hleft s hs

/-- An attempt at a field gives nothing back if it succeeds, and four tokens at most if not. -/
def Attempted (found : Option Field) (s : TokenStream) : Prop :=
  match found with
  | some _ => s.Few 0
  | none => s.Few 4

/-- The tokens of a field that is given up are four at most. -/
theorem abandon_orderly {tokens : List Token} (h : tokens.length ≤ 4) :
    Orderly (Few 0) (abandon tokens) Attempted :=
  (giveBack_orderly h).bind fun _ => .pure fun _ hs => hs.mono h

/-- An attempt gives all it has read back at once, which are four tokens at most. -/
theorem attempt_orderly : Orderly (Few 0) attempt Attempted := by
  have hstop {n : Nat} {m : Watched (Option Field)} (hn : n ≤ 4) (hm : Stops n m) :
      Orderly (Few 0) m Attempted := by
    cases hm with
    | nothing => exact .pure fun _ hs => hs.mono (Nat.zero_le 4)
    | abandoned read => exact abandon_orderly hn
  have hask : Orderly (Few 0) ask fun _ => Few 0 := ask_orderly (Nat.zero_le 4)
  have hrule : AttemptRule fun _ m => Orderly (Few 0) m Attempted := by
    refine ⟨fun n k hn hnone hsome => hask.bind fun found => ?_, fun n m hn hm => hstop hn hm,
      fun n f => .pure fun _ hs => hs⟩
    cases found with
    | none => exact hstop (Nat.le_succ_of_le hn) hnone
    | some t => exact hsome t
  exact hrule.attempt

/-- Reading a field is as disciplined as its attempt. -/
theorem field?_orderly : Orderly (Few 0) field? Attempted := by
  refine ⟨fun s hs => ?_, attempt_orderly.ensures⟩
  have hseen := attempt_orderly.seen s hs
  simp only [field?, telling]
  cases hrun : attempt.run s with
  | error fault s' => exact hseen
  | ok found s' =>
    have hafter : s'.Few 4 := by
      have hattempted := attempt_orderly.ensures s found s' hs hrun
      cases found with
      | none => exact hattempted
      | some f => exact TokenStream.Few.mono hattempted (by omega)
    exact List.forall_mem_append.mpr
      ⟨hseen, List.forall_mem_singleton.mpr ⟨hs.mono (by omega), hafter⟩⟩

/-- Only the attempt that ends the fields gives tokens back. -/
theorem fields_orderly : Orderly (Few 0) fields fun _ => Few 4 := by
  refine ⟨fun s hs => ?_, fun s fs s' hs hrun => ?_⟩
  · change ∀ moment ∈ seenInFields s, moment.Disciplined
    have hfirst := field?_orderly.seen s hs
    fun_induction seenInFields s with
    | case1 s f s' hfield ih =>
      have hclear : s'.Few 0 := field?_orderly.ensures s (some f) s' hs (run_field? ▸ hfield)
      exact List.forall_mem_append.mpr ⟨hfirst, ih hclear (field?_orderly.seen s' hclear)⟩
    | case2 s s' hfield => exact hfirst
    | case3 s fault s' hfield => exact hfirst
  · change readFields s = .ok fs s' at hrun
    fun_induction readFields s generalizing fs s' with
    | case1 s f s₁ hfield fs' s₂ hrest ih =>
      cases hrun
      have hclear : s₁.Few 0 := field?_orderly.ensures s (some f) s₁ hs (run_field? ▸ hfield)
      exact ih _ _ hclear hrest
    | case2 s f s₁ hfield fault s₂ hrest ih => cases hrun
    | case3 s s₁ hfield =>
      cases hrun
      exact field?_orderly.ensures s _ _ hs (run_field? ▸ hfield)
    | case4 s fault s₁ hfield => cases hrun

/-! ### Constructs -/

/-- What a part of a construct leaves given back, whether it is there or missing. -/
def PartLeaves (n : Nat) (result : Except Malformed α) (s : TokenStream) : Prop :=
  match result with
  | .ok _ => s.Few n
  | .error _ => s.Few 3

/-- A part of a construct, by how many tokens are given back before and after it. -/
def OrderlyPart (before : Nat) (m : ExceptT Malformed Watched α) (after : Nat) : Prop :=
  Orderly (Few before) m.run (PartLeaves after)

namespace OrderlyPart

variable {before between after : Nat}

theorem pure {a : α} (h : before ≤ after) :
    OrderlyPart before (Pure.pure a : ExceptT Malformed Watched α) after :=
  Orderly.pure (a := Except.ok a) fun _ hs => hs.mono h

/-- A part that is missing ends the construct. -/
theorem bind {m : ExceptT Malformed Watched α} {k : α → ExceptT Malformed Watched β}
    (hm : OrderlyPart before m between) (hk : ∀ a, OrderlyPart between (k a) after) :
    OrderlyPart before (m >>= k) after := by
  refine Orderly.bind hm fun result => ?_
  cases result with
  | ok a => exact hk a
  | error e => exact Orderly.pure (a := Except.error e) fun _ hs => hs

theorem lift {m : Watched α} (hm : Orderly (Few before) m fun _ => Few after) :
    OrderlyPart before (m : ExceptT Malformed Watched α) after :=
  Orderly.bind hm fun a => Orderly.pure (a := Except.ok a) fun _ hs => hs

end OrderlyPart

/-- Whatever an expectation finds, it takes one token off those given back. -/
theorem expect_orderly (what : Expectation) {n : Nat} (hn : n ≤ 4) :
    OrderlyPart n (expect what) (n - 1) where
  seen := (ask_orderly hn).seen
  ensures s result s' hs hrun := by
    obtain ⟨found, hnext, -⟩ := next_of_expect hrun
    have hfew := (ask_orderly hn).ensures s found s' hs hnext
    cases result with
    | ok t => exact hfew
    | error e => exact hfew.mono (by omega)

/-- A token that is no tag is the only one to go back. -/
theorem tag_orderly : Orderly (Few 0) tag fun _ => Few 1 := by
  refine (ask_orderly (by omega)).bind fun found => ?_
  cases found with
  | none => exact .pure fun _ hs => hs.mono (by omega)
  | some t =>
    simp only
    split
    · exact .pure fun _ hs => hs.mono (by omega)
    · exact giveBack_orderly (by simp)

/-- A construct that is read with nothing given back leaves three tokens given back at most. -/
theorem parse_orderly (c : Construct) : Orderly (Few 0) (parse c) (PartLeaves 3) := by
  have hfields : OrderlyPart 0 (fields : ExceptT Malformed Watched (List Field)) 4 :=
    .lift fields_orderly
  cases c with
  | struct =>
    exact (expect_orderly _ (by omega)).bind fun _ => (expect_orderly _ (by omega)).bind fun _ =>
      hfields.bind fun _ => (expect_orderly _ (by omega)).bind fun _ =>
      (expect_orderly _ (by omega)).bind fun _ => .pure (by omega)
  | typedef =>
    exact (expect_orderly _ (by omega)).bind fun _ => (OrderlyPart.lift tag_orderly).bind fun _ =>
      (expect_orderly _ (by omega)).bind fun _ => hfields.bind fun _ =>
      (expect_orderly _ (by omega)).bind fun _ => (expect_orderly _ (by omega)).bind fun _ =>
      (expect_orderly _ (by omega)).bind fun _ => .pure (by omega)

end Watched

/-! ## Searches -/

/-- A stream between two tokens that a search deals with. -/
structure TokenStream.Tidy (s : TokenStream) : Prop where
  leftover : Leftover s.returned
  few : s.Few 3

namespace TokenStream.Tidy

/-- A clear stream is tidy. -/
theorem of_clear {s : TokenStream} (h : s.Clear) : s.Tidy := by
  rw [Clear] at h
  exact ⟨by simp [Leftover, h], by simp [Few, h]⟩

theorem leftBy_next {s : TokenStream} (h : s.Tidy) : (leftBy next s).Tidy where
  leftover := returned_leftBy_next s ▸ h.leftover.tail
  few := h.few.leftBy_next.mono (by omega)

/-- Where reading a construct meets a failure, nothing is given back. -/
theorem of_failure {c : Construct} {s s' : TokenStream} {fault : Fault}
    (h : c.parse.run s = .error fault s') : s'.Tidy := by
  obtain ⟨-, hremaining⟩ := (parse_mirrors c).of_error h
  exact of_clear (List.append_eq_nil_iff.mp hremaining).1

/-- What a construct that is given up leaves given back. -/
theorem of_malformed {c : Construct} {s s' : TokenStream} {malformed : Malformed}
    (hclear : s.Clear) (h : c.parse.run s = .ok (.error malformed) s') : s'.Tidy where
  leftover := c.parse_clears s (.error malformed) s' hclear h
  few := (Watched.parse_orderly c).ensures s (.error malformed) s' (few_zero_iff.mpr hclear)
    (Watched.run_parse c ▸ h)

end TokenStream.Tidy

/-- A token in the middle of what is left of an attempt opens no construct. -/
theorem Leftover.not_keyword {ts : List Token} (h : Leftover ts) :
    ∀ t ∈ ts.dropLast, t.kind ≠ .typedef ∧ t.kind ≠ .struct := by
  intro t ht
  have hfield := h t ht
  constructor
  · intro hkind
    rw [hkind] at hfield
    contradiction
  · intro hkind
    rw [hkind] at hfield
    contradiction

namespace Hunt

/-- Up to the end of a construct that a search enters, every moment is disciplined. -/
theorem keyword_disciplined {s s' : TokenStream} (hs : s.Tidy) (hclear : s'.Clear) (c : Construct) :
    ∀ moment ∈ Watched.ask.moments s ++ .entered c s' :: (Watched.parse c).moments s',
      moment.Disciplined := by
  have hparse := (Watched.parse_orderly c).seen s' (few_zero_iff.mpr hclear)
  have hask := (Watched.ask_orderly (by omega)).seen s hs.few
  exact List.forall_mem_append.mpr ⟨hask, List.forall_mem_cons.mpr ⟨hclear, hparse⟩⟩

/-- A search that starts with what is left of an attempt is disciplined, and ends with such. -/
theorem moments_disciplined {s : TokenStream} (hs : s.Tidy) :
    (∀ moment ∈ moments s, moment.Disciplined) ∧ (hunt s).stream.Tidy := by
  have hask {s : TokenStream} (hs : s.Tidy) :
      ∀ moment ∈ Watched.ask.moments s, moment.Disciplined :=
    (Watched.ask_orderly (by omega)).seen s hs.few
  have hpassed {s s' : TokenStream} (hs : s.Tidy) (hs' : s'.Tidy) :
      (Moment.passed s s').Disciplined := ⟨hs.few.mono (by omega), hs'.few.mono (by omega)⟩
  fun_induction moments s with
  | case1 s fault s' hnext =>
    have hleft := leftBy_of_error hnext ▸ hs.leftBy_next
    rw [hunt_eq, hnext]
    exact ⟨hask hs, hleft⟩
  | case2 s s' hnext =>
    have hleft := leftBy_of_ok hnext ▸ hs.leftBy_next
    rw [hunt_eq, hnext]
    exact ⟨hask hs, hleft⟩
  | case3 s keyword s' hnext hkind ih =>
    have hleft : s'.Tidy := leftBy_of_ok hnext ▸ hs.leftBy_next
    obtain ⟨hlater, hend⟩ := ih hleft
    rw [hunt_eq, hnext]
    simp only [hkind]
    exact ⟨List.forall_mem_append.mpr
      ⟨hask hs, List.forall_mem_cons.mpr ⟨hpassed hs hleft, hlater⟩⟩, hend⟩
  | case4 s keyword s' hnext construct hkind seen fault s'' hparse =>
    have hclear := clear_of_keyword hs.leftover hnext hkind
    rw [hunt_eq, hnext]
    simp only [hkind, hparse]
    exact ⟨keyword_disciplined hs hclear construct, .of_failure hparse⟩
  | case5 s keyword s' hnext construct hkind seen layout s'' hparse =>
    have hclear := clear_of_keyword hs.leftover hnext hkind
    have hclear' : s''.Clear := (construct.parse_clears s' (.ok layout) s'' hclear hparse).1
    have hleft := Tidy.of_clear hclear'
    rw [hunt_eq, hnext]
    simp only [hkind, hparse]
    refine ⟨List.forall_mem_append.mpr ⟨keyword_disciplined hs hclear construct, ?_⟩, hleft⟩
    exact List.forall_mem_cons.mpr ⟨hclear', List.forall_mem_singleton.mpr (hpassed hs hleft)⟩
  | case6 s keyword s' hnext construct hkind seen malformed s'' hparse ih =>
    have hclear := clear_of_keyword hs.leftover hnext hkind
    have hleft := Tidy.of_malformed hclear hparse
    obtain ⟨hlater, hend⟩ := ih hleft
    rw [hunt_eq, hnext]
    simp only [hkind, hparse]
    refine ⟨List.forall_mem_append.mpr ⟨keyword_disciplined hs hclear construct, ?_⟩, hend⟩
    have hgaveUp : (Moment.gaveUp ⟨construct, keyword, malformed⟩ s'').Disciplined :=
      ⟨hleft.few, hleft.leftover.not_keyword⟩
    exact List.forall_mem_cons.mpr
      ⟨hgaveUp, List.forall_mem_cons.mpr ⟨hpassed hs hleft, hlater⟩⟩

end Hunt

/-! ## Scans -/

namespace Scan

theorem tidy_close {s : Scan} (h : s.stream.Tidy) : s.close.stream.Tidy := by
  cases hfinished : s.finished with
  | true => rwa [close_of_finished hfinished]
  | false =>
    rw [close_of_open hfinished]
    exact .of_clear rfl

/-- A scan that starts with what is left of an attempt is disciplined, and ends with such. -/
theorem chained_disciplined : Chained fun s l s' =>
    s.stream.Tidy → (∀ moment ∈ l, moment.Disciplined) ∧ s'.stream.Tidy where
  refl s hs := ⟨by simp, hs⟩
  trans s l s' l' s'' h h' hs := by
    obtain ⟨hfirst, hs'⟩ := h hs
    obtain ⟨hsecond, hs''⟩ := h' hs'
    exact ⟨List.forall_mem_append.mpr ⟨hfirst, hsecond⟩, hs''⟩
  next s hs := by
    cases hfinished : s.finished with
    | true =>
      rw [next_of_finished hfinished]
      exact ⟨by simp [seenInNext, hfinished], hs⟩
    | false =>
      obtain ⟨hseen, hleft⟩ := Hunt.moments_disciplined hs
      have hrecord : (s.record (hunt s.stream)).stream.Tidy := hleft
      rw [next_of_open hfinished]
      refine ⟨by simpa [seenInNext, hfinished] using hseen, ?_⟩
      dsimp only
      split
      · exact tidy_close hrecord
      · exact hrecord
  close s hs := ⟨by simp, tidy_close hs⟩

/--
Whatever its source does and whichever steps are taken, a scan is disciplined.  At no moment are
more than four tokens given back.  None are where it enters a construct and where it finds a
layout.  Where it gives a construct up at most three are, and no keyword of a construct among them
but for the last.  What is watched is the scan itself: without what is seen of them, its parsers
are those of the grammar, and its searches tell all that they find and skip.
-/
theorem Step.run_disciplined (source : Source) (report : Option Report) (steps : List Step) :
    (∀ moment ∈ seenInRun steps (ofSource source report), moment.Disciplined) ∧
      (∀ c : Construct, (Watched.parse c).run = c.parse.run) ∧
      ∀ s, (hunt s).Told (Hunt.moments s) := by
  have hstart : (ofSource source report).stream.Tidy := .of_clear rfl
  obtain ⟨hseen, -⟩ := chained_disciplined.run steps (ofSource source report) hstart
  exact ⟨hseen, Watched.run_parse, Hunt.told_by_moments⟩

/-- Four tokens are given back where a field has everything but its semicolon. -/
example : ∃ moment ∈ Step.seenInRun [.next] (ofText "struct S \x7b int *x y"),
    (match moment with
      | .gaveBack s => s.returned.length
      | _ => 0) = 4 := by
  decide +kernel

end Scan

end StructScan
