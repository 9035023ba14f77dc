import StructScan.Proofs.Token.Listing
import StructScan.TokenStream

/-!
# What a stream still holds

A stream is a source, a cursor, a flag and the tokens that were given back.  To
its reader it is a list: the tokens still to come.  This module fixes that view
and says what every primitive does to it.  A computation on a stream then follows
a function on lists, and computations that are put together follow the functions
put together.

Main results:

- Theorem `next_of_remaining_cons`: reading takes the first token off the list.
- Theorem `next_of_remaining_nil`: once the list is empty, reading gives nothing
  and the stream stands on its last line.
- Theorem `Follows.bind`: what computations do to the list composes.
- Theorem `drain_of_calm`: reading to the end gives the whole list.
-/

namespace StructScan.TokenStream

open Token (Gap linesTokens reach lexeme)

/-! ## The list of a stream -/

/-- The tokens still to be found in the source. -/
def ahead (s : TokenStream) : List Token :=
  if s.ended then [] else (linesTokens s.line .code (s.rest :: s.source.pending)).1

/-- The tokens still to come: those given back and those still to be found. -/
def remaining (s : TokenStream) : List Token :=
  s.returned ++ s.ahead

/-- The number of the line on which the stream comes to its end. -/
def lastLine (s : TokenStream) : Nat :=
  if s.ended then s.line else s.line + s.source.pending.length

/-- A stream whose source ends without a failure that its reader would notice. -/
def Calm (s : TokenStream) : Prop :=
  s.source.fault? = none

instance (s : TokenStream) : Decidable s.Calm :=
  inferInstanceAs (Decidable (_ = _))

/-- A stream that was read on: the same source, with the given tokens left. -/
structure Leaves (s : TokenStream) (s' : TokenStream) (ts : List Token) : Prop where
  calm : s'.Calm
  lastLine : s'.lastLine = s.lastLine
  remaining : s'.remaining = ts

/-- Reading on twice is reading on. -/
theorem Leaves.trans {s s' s'' : TokenStream} {ts us : List Token} (h : Leaves s s' ts)
    (h' : Leaves s' s'' us) : Leaves s s'' us where
  calm := h'.calm
  lastLine := h'.lastLine.trans h.lastLine
  remaining := h'.remaining

/-- A stream over a source holds the tokens of all its lines. -/
theorem remaining_ofSource (source : Source) :
    (ofSource source).remaining = (linesTokens 1 .code source.pending).1 := by
  simp [remaining, ahead, ofSource, Token.linesTokens_cons]

/-- A stream over a source ends on its last line. -/
theorem lastLine_ofSource (source : Source) :
    (ofSource source).lastLine = source.pending.length := by
  simp [lastLine, ofSource]

/-! ## Reading one token -/

/-- Reading from a source without a token left moves to its end. -/
theorem lex_of_start_none {s : TokenStream} (hcalm : s.Calm) (hended : s.ended = false)
    (h : (reach .code s.rest s.source.pending).start = none) :
    s.ahead = [] ∧ ∃ s', lex s = .ok none s' ∧ s'.line = s.lastLine ∧ s'.returned = s.returned ∧
      s'.ended = true ∧ s'.Calm := by
  have hlist := Token.linesTokens_eq_nil_of_reach s.line h
  have hpulled := Token.reach_pulled .code s.rest s.source.pending
  have hpending := Token.reach_pending_eq_nil h
  refine ⟨by simp [ahead, hended, hlist], ?_⟩
  simp only [hpending, List.length_nil] at hpulled
  unfold lex
  generalize reach .code s.rest s.source.pending = r at *
  obtain ⟨start, pending, pulled⟩ := r
  simp only at h
  subst h
  have hfault : (s.source.handOut pulled pending).fault? = none := hcalm
  simp only [arrive, hfault]
  refine ⟨_, rfl, ?_, rfl, rfl, rfl⟩
  simp only [lastLine, hended, Bool.false_eq_true, if_false] at *
  omega

/-- Reading from a source with a token left takes it off the list. -/
theorem lex_of_start_some {s : TokenStream} {first : Char} {rest : List Char} (hcalm : s.Calm)
    (hended : s.ended = false)
    (h : (reach .code s.rest s.source.pending).start = some (first, rest)) :
    ∃ t s', s.ahead = t :: s'.ahead ∧ lex s = .ok (some t) s' ∧ s'.lastLine = s.lastLine ∧
      s'.returned = s.returned ∧ s'.Calm := by
  have hlist := Token.linesTokens_eq_cons_of_reach s.line h
  have hpulled := Token.reach_pulled .code s.rest s.source.pending
  unfold lex
  generalize reach .code s.rest s.source.pending = r at *
  obtain ⟨start, pending, pulled⟩ := r
  simp only at h
  subst h
  simp only [arrive]
  refine ⟨_, _, ?_, rfl, ?_, rfl, hcalm⟩
  · simpa [ahead, hended, Source.handOut] using hlist
  · simp only [lastLine, hended, Source.handOut, Bool.false_eq_true, if_false] at *
    omega

/-- Reading takes the first token off the list. -/
theorem next_of_remaining_cons {s : TokenStream} {t : Token} {ts : List Token} (hcalm : s.Calm)
    (h : s.remaining = t :: ts) : ∃ s', next s = .ok (some t) s' ∧ Leaves s s' ts := by
  unfold next
  cases hreturned : s.returned with
  | cons u us =>
    simp only [remaining, hreturned, List.cons_append, List.cons.injEq] at h
    obtain ⟨rfl, rfl⟩ := h
    exact ⟨_, rfl, hcalm, rfl, rfl⟩
  | nil =>
    simp only [remaining, hreturned, List.nil_append] at h
    cases hended : s.ended with
    | true => simp [ahead, hended] at h
    | false =>
      simp only [Bool.false_eq_true, if_false]
      cases hstart : (reach .code s.rest s.source.pending).start with
      | none =>
        have hnil := (lex_of_start_none hcalm hended hstart).1
        rw [h] at hnil
        contradiction
      | some found =>
        obtain ⟨u, s', hlist, hlex, hlast, hret, hcalm'⟩ :=
          lex_of_start_some hcalm hended hstart
        rw [h, List.cons.injEq] at hlist
        obtain ⟨rfl, rfl⟩ := hlist
        exact ⟨s', hlex, hcalm', hlast, by simp [remaining, hret, hreturned]⟩

/-- Once the list is empty, reading gives nothing, and the stream stands on its last line. -/
theorem next_of_remaining_nil {s : TokenStream} (hcalm : s.Calm) (h : s.remaining = []) :
    ∃ s', next s = .ok none s' ∧ Leaves s s' [] ∧ s'.line = s.lastLine := by
  obtain ⟨hreturned, hahead⟩ := List.append_eq_nil_iff.mp h
  unfold next
  simp only [hreturned]
  cases hended : s.ended with
  | true => exact ⟨s, by simp, ⟨hcalm, rfl, h⟩, by simp [lastLine, hended]⟩
  | false =>
    simp only [Bool.false_eq_true, if_false]
    cases hstart : (reach .code s.rest s.source.pending).start with
    | none =>
      obtain ⟨-, s', hlex, hline, hret, hended', hcalm'⟩ := lex_of_start_none hcalm hended hstart
      refine ⟨s', hlex, ⟨hcalm', ?_, ?_⟩, hline⟩
      · simp [lastLine, hended', hline]
      · simp [remaining, ahead, hended', hret, hreturned]
    | some found =>
      obtain ⟨t, s', hlist, -⟩ := lex_of_start_some hcalm hended hstart
      rw [hahead] at hlist
      contradiction

/-! ## Computations as functions on the list -/

/--
A computation that does to the tokens left what a function does to a list.  The
function is told the last line, which is where the end of the input is noticed.
-/
def Follows (m : Reading α) (f : Nat → List Token → α × List Token) : Prop :=
  ∀ s, s.Calm → ∃ s', m s = .ok (f s.lastLine s.remaining).1 s' ∧
    Leaves s s' (f s.lastLine s.remaining).2

/-- What a computation gives on a calm stream is what its function gives on the list. -/
theorem Follows.eq_of_ok {m : Reading α} {f : Nat → List Token → α × List Token}
    (hm : Follows m f) {s s' : TokenStream} {a : α} (hcalm : s.Calm) (hrun : m s = .ok a s') :
    f s.lastLine s.remaining = (a, s'.remaining) ∧ Leaves s s' s'.remaining := by
  obtain ⟨s₁, hrun', hleaves⟩ := hm s hcalm
  rw [hrun, EStateM.Result.ok.injEq] at hrun'
  obtain ⟨rfl, rfl⟩ := hrun'
  exact ⟨by rw [hleaves.remaining], hleaves.calm, hleaves.lastLine, rfl⟩

/-- No computation that follows a function fails on a calm stream. -/
theorem Follows.ne_error {m : Reading α} {f : Nat → List Token → α × List Token}
    (hm : Follows m f) {s s' : TokenStream} {fault : Fault} (hcalm : s.Calm) :
    m s ≠ .error fault s' := by
  intro hrun
  obtain ⟨s₁, hrun', -⟩ := hm s hcalm
  rw [hrun] at hrun'
  contradiction

/-- A result in hand leaves the list as it is. -/
theorem Follows.pure (a : α) : Follows (Pure.pure a : Reading α) fun _ ts => (a, ts) := by
  intro s hcalm
  exact ⟨s, rfl, hcalm, rfl, rfl⟩

/-- One computation after another does what one function after the other does. -/
theorem Follows.bind {m : Reading α} {k : α → Reading β} {f : Nat → List Token → α × List Token}
    {g : α → Nat → List Token → β × List Token} (hm : Follows m f)
    (hk : ∀ a, Follows (k a) (g a)) :
    Follows (m >>= k) fun last ts => g (f last ts).1 last (f last ts).2 := by
  intro s hcalm
  obtain ⟨s', hrun, hleaves⟩ := hm s hcalm
  obtain ⟨s'', hrun', hleaves'⟩ := hk _ s' hleaves.calm
  rw [hleaves.lastLine, hleaves.remaining] at hrun' hleaves'
  refine ⟨s'', ?_, hleaves.trans hleaves'⟩
  simp only [Bind.bind, EStateM.bind, hrun, hrun']

/-- Reading a token takes the head of the list, if there is one. -/
theorem next_follows : Follows next fun _ ts => (ts.head?, ts.tail) := by
  intro s hcalm
  cases h : s.remaining with
  | nil =>
    obtain ⟨s', hnext, hleaves, -⟩ := next_of_remaining_nil hcalm h
    exact ⟨s', hnext, hleaves⟩
  | cons t ts => exact next_of_remaining_cons hcalm h

/-- Functions that agree on every list are followed alike. -/
theorem Follows.congr {m : Reading α} {f g : Nat → List Token → α × List Token}
    (h : Follows m f) (hfg : ∀ last ts, f last ts = g last ts) : Follows m g := by
  have : f = g := funext fun last => funext fun ts => hfg last ts
  rwa [← this]

/-- A choice that does not depend on the stream is made on the list alike. -/
theorem Follows.ite {p : Prop} [Decidable p] {m n : Reading α}
    {f g : Nat → List Token → α × List Token} (hm : Follows m f) (hn : Follows n g) :
    Follows (if p then m else n) fun last ts => if p then f last ts else g last ts := by
  by_cases hp : p
  · simpa [hp] using hm
  · simpa [hp] using hn

/-- Reading a token and going on splits the list into its head and its tail. -/
theorem Follows.next_bind {k : Option Token → Reading α} {f : Nat → List Token → α × List Token}
    {g : Token → Nat → List Token → α × List Token} (hnone : Follows (k none) f)
    (hsome : ∀ t, Follows (k (some t)) (g t)) :
    Follows (next >>= k) fun last ts =>
      match ts with
      | [] => f last []
      | t :: ts => g t last ts := by
  have hk (found : Option Token) :
      Follows (k found) fun last ts => found.elim (f last ts) fun t => g t last ts := by
    cases found with
    | none => exact hnone
    | some t => exact hsome t
  refine (next_follows.bind hk).congr fun last ts => ?_
  cases ts with
  | nil => rfl
  | cons t ts => rfl

/-- Tokens that are given back stand in front of the list again. -/
theorem unread_follows (tokens : List Token) :
    Follows (unread tokens) fun _ ts => ((), tokens ++ ts) := by
  intro s hcalm
  refine ⟨{ s with returned := tokens ++ s.returned }, rfl, hcalm, rfl, ?_⟩
  simp [remaining, ahead]

/-- A token that was read was the head of the list. -/
theorem remaining_of_next_some {s s' : TokenStream} {t : Token} (hcalm : s.Calm)
    (hnext : next s = .ok (some t) s') :
    s.remaining = t :: s'.remaining ∧ Leaves s s' s'.remaining := by
  obtain ⟨hlist, hleaves⟩ := next_follows.eq_of_ok hcalm hnext
  obtain ⟨hhead, htail⟩ := Prod.mk.inj hlist
  obtain ⟨ts, hts⟩ := List.head?_eq_some_iff.mp hhead
  refine ⟨?_, hleaves⟩
  rw [← htail, hts, List.tail_cons]

/-- Nothing was read because the list was empty. -/
theorem remaining_of_next_none {s s' : TokenStream} (hcalm : s.Calm)
    (hnext : next s = .ok none s') :
    s.remaining = [] ∧ s'.remaining = [] ∧ Leaves s s' s'.remaining := by
  obtain ⟨hlist, hleaves⟩ := next_follows.eq_of_ok hcalm hnext
  obtain ⟨hhead, htail⟩ := Prod.mk.inj hlist
  have hnil := List.head?_eq_none_iff.mp hhead
  refine ⟨hnil, ?_, hleaves⟩
  rw [← htail, hnil, List.tail_nil]

/-! ## Reading to the end -/

/-- Reading to the end gives the whole list, without a failure. -/
theorem drain_of_calm (s : TokenStream) (hcalm : s.Calm) :
    s.drain.items = s.remaining ∧ s.drain.fault = none := by
  fun_induction drain s with
  | case1 s t s' hnext ih =>
    obtain ⟨hlist, hleaves⟩ := remaining_of_next_some hcalm hnext
    obtain ⟨hitems, hfault⟩ := ih hleaves.calm
    refine ⟨?_, hfault⟩
    rw [hlist, ← hitems]
    rfl
  | case2 s s' hnext => exact ⟨(remaining_of_next_none hcalm hnext).1.symm, rfl⟩
  | case3 s fault s' hnext => exact absurd hnext (next_follows.ne_error hcalm)

/-- All tokens of a text. -/
def tokensOfText (text : String) : List Token :=
  (ofSource (Source.ofText text)).drain.items

/-- A stream over a text meets no failure. -/
theorem calm_ofText (text : String) : (ofSource (Source.ofText text)).Calm :=
  rfl

/-- The tokens of a text are what a stream over it holds at the start. -/
theorem tokensOfText_eq_remaining (text : String) :
    tokensOfText text = (ofSource (Source.ofText text)).remaining :=
  (drain_of_calm _ (calm_ofText text)).1

/-- The tokens of a text are those of its lines. -/
theorem tokensOfText_eq_linesTokens (text : String) :
    tokensOfText text = (linesTokens 1 .code (Text.lines text)).1 := by
  rw [tokensOfText_eq_remaining, remaining_ofSource]
  rfl

end StructScan.TokenStream
