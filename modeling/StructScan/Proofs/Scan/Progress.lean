import StructScan.Proofs.Grammar.Progress
import StructScan.Proofs.Scan.Watched

/-!
# A scan comes to an end

Each token that a scan deals with shortens what is left, whatever was given back in between, and so
a scan comes to the end of its tokens.  On the way it makes no attempt at a field twice in the same
place, and asks for no more than five times as many tokens as there are, and one at the end.

A layout takes five tokens at least, its keyword included, and a construct that is given up takes
its keyword and the token at which it is given up.  Only the last one may be given up at the end of
the input, so a scan cannot find and report more than its tokens allow.

Main results:

- Theorem `Hunt.covers`: what a search does to the tokens that are left.
- Theorem `Scan.covers_rest`: what looking for all layouts does to them.
- Theorem `Accounts.enough_tokens`: how many layouts and skips a number of tokens allows.
- Theorem `Scan.progresses`: a scan makes progress, at every step and over a whole run.
-/

namespace StructScan

open TokenStream

/-! ## Searches -/

/--
What was seen between two streams goes forward, attempts at fields are made further and further on,
and the tokens asked for are paid for, with something in hand before and after.
-/
structure Covers (held : Nat) (s : TokenStream) (moments : List Moment) (s' : TokenStream)
    (kept : Nat) : Prop where
  forward : ∀ moment ∈ moments, moment.Forward
  falls : Falls s.remaining.length moments s'.remaining.length
  afforded : asks moments + 5 * s'.remaining.length + kept ≤ 5 * s.remaining.length + held

namespace Covers

variable {held between kept : Nat} {s s' s'' : TokenStream} {l l' : List Moment}

theorem refl (s : TokenStream) (h : kept ≤ held) : Covers held s [] s kept where
  forward := by simp
  falls := .of_quiet rfl (Nat.le_refl _)
  afforded := by
    show 0 + 5 * s.remaining.length + kept ≤ _
    omega

theorem trans (h : Covers held s l s' between) (h' : Covers between s' l' s'' kept) :
    Covers held s (l ++ l') s'' kept where
  forward := List.forall_mem_append.mpr ⟨h.forward, h'.forward⟩
  falls := h.falls.trans h'.falls
  afforded := by
    have hfirst := h.afforded
    have hsecond := h'.afforded
    rw [asks_append]
    omega

theorem weaken {kept' : Nat} (h : Covers held s l s' kept) (hle : kept' ≤ kept) :
    Covers held s l s' kept' :=
  { h with afforded := Nat.le_trans (Nat.add_le_add_left hle _) h.afforded }

/-- Where nothing is left any more, no token is asked for. -/
theorem of_nil (h : Covers held s l s' kept) (hnil : s''.remaining = []) :
    Covers held s l s'' kept where
  forward := h.forward
  falls := by
    rw [hnil]
    exact ⟨Nat.zero_le _, fun n hn => ⟨Nat.zero_le _, (h.falls.between n hn).2⟩, h.falls.falling⟩
  afforded := by
    have hafforded := h.afforded
    rw [hnil, List.length_nil]
    omega

/-- A moment at which nothing is asked for and no field is tried adds nothing but itself. -/
theorem concat {moment : Moment} (h : Covers held s l s' kept) (hforward : moment.Forward)
    (hattempt : moment.attempt? = none) (hask : moment.isAsk = false) :
    Covers held s (l ++ [moment]) s' kept where
  forward := List.forall_mem_append.mpr ⟨h.forward, List.forall_mem_singleton.mpr hforward⟩
  falls := h.falls.trans (.of_quiet (by simp [attempts, hattempt]) (Nat.le_refl _))
  afforded := by
    have hnone : asks [moment] = 0 := by simp [asks, hask]
    rw [asks_append, hnone]
    exact h.afforded

end Covers

namespace Hunt

/-- A token that is asked for costs one, and is worth five if there is one. -/
theorem covers_ask {s s' : TokenStream} {found : Option Token} (h : next s = .ok found s') :
    Covers 1 s (Watched.ask.moments s) s' (5 * count found) where
  forward := List.forall_mem_singleton.mpr trivial
  falls := by
    obtain ⟨hremaining, -⟩ := next_takes h
    exact .of_quiet rfl (by rw [hremaining, List.length_append]; omega)
  afforded := by
    have hafforded := Watched.ask_affords s
    have hrun : Watched.ask.run s = .ok found s' := h
    rwa [hrun] at hafforded

/-- What reading a construct does to the tokens that are left, however it comes out. -/
theorem parse_paid (c : Construct) (s : TokenStream) :
    asks ((Watched.parse c).moments s) + 5 * (leftBy c.parse.run s).remaining.length ≤
      5 * s.remaining.length + 1 := by
  have hafforded := Watched.parse_affords c s
  rw [Watched.run_parse] at hafforded
  cases hparse : c.parse.run s with
  | error fault s' =>
    rw [hparse] at hafforded
    rw [leftBy_of_error hparse, ((parse_mirrors c).of_error hparse).2]
    exact hafforded
  | ok result s' =>
    simp only [hparse] at hafforded
    rw [leftBy_of_ok hparse]
    omega

/-- What reading a keyword and its construct does to the tokens that are left. -/
theorem covers_construct {s s' : TokenStream} {keyword : Token}
    (hnext : next s = .ok (some keyword) s') (c : Construct) :
    Covers 1 s (Watched.ask.moments s ++ .entered c s' :: (Watched.parse c).moments s')
      (leftBy c.parse.run s') 4 where
  forward := by
    have hask : ∀ moment ∈ Watched.ask.moments s, moment.Forward := (covers_ask hnext).forward
    exact List.forall_mem_append.mpr
      ⟨hask, List.forall_mem_cons.mpr ⟨trivial, Watched.parse_forward c s'⟩⟩
  falls := by
    have hshorter := (shortens_of_next hnext).length_lt
    have hkeyword : Falls s.remaining.length (Watched.ask.moments s ++ [.entered c s'])
        (s'.remaining.length + 1) := .of_quiet rfl hshorter
    have hboth := hkeyword.trans (Watched.parse_falling c s')
    rwa [Watched.run_parse, List.append_assoc] at hboth
  afforded := by
    have hpaid := parse_paid c s'
    have hshorter := (shortens_of_next hnext).length_lt
    have hasks : asks (Watched.ask.moments s ++ .entered c s' :: (Watched.parse c).moments s') =
        1 + asks ((Watched.parse c).moments s') := asks_append _ _
    rw [hasks]
    omega

/-- What a search keeps in hand: enough to look for another layout if it has found one. -/
def kept : Outcome → Nat
  | .found _ => 1
  | _ => 0

/-- What a search does to the tokens that are left. -/
theorem covers (s : TokenStream) :
    Covers 1 s (moments s) (hunt s).stream (kept (hunt s).outcome) := by
  fun_induction moments s with
  | case1 s fault s' hnext =>
    have hnil := (next_mirrors.of_error hnext).2
    rw [hunt_eq, hnext]
    refine ⟨List.forall_mem_singleton.mpr trivial, .of_quiet rfl (by simp [hnil]), ?_⟩
    show 1 + 5 * s'.remaining.length + 0 ≤ _
    rw [hnil, List.length_nil]
    omega
  | case2 s s' hnext =>
    rw [hunt_eq, hnext]
    exact covers_ask hnext
  | case3 s keyword s' hnext hkind ih =>
    have hpass : Covers 1 s (Watched.ask.moments s ++ [.passed s s']) s' 5 :=
      (covers_ask hnext).concat (shortens_of_next hnext) rfl rfl
    have hboth := (hpass.weaken (by omega)).trans ih
    rw [hunt_eq, hnext]
    simp only [hkind]
    rwa [List.append_assoc] at hboth
  | case4 s keyword s' hnext construct hkind seen fault s'' hparse =>
    have hconstruct := covers_construct hnext construct
    rw [leftBy_of_error hparse] at hconstruct
    rw [hunt_eq, hnext]
    simp only [hkind, hparse]
    exact hconstruct.weaken (Nat.zero_le _)
  | case5 s keyword s' hnext construct hkind seen layout s'' hparse =>
    have hconstruct := covers_construct hnext construct
    rw [leftBy_of_ok hparse] at hconstruct
    have hshortens := (shortens_of_next hnext).of_suffix (Construct.parse_suffix hparse)
    have hfound : Covers 1 s (seen ++ [.found layout s'']) s'' 4 :=
      hconstruct.concat trivial rfl rfl
    have hpass : Covers 1 s (seen ++ [.found layout s''] ++ [.passed s s'']) s'' 4 :=
      hfound.concat hshortens rfl rfl
    rw [hunt_eq, hnext]
    simp only [hkind, hparse]
    rw [List.append_assoc] at hpass
    exact hpass.weaken (by simp [kept])
  | case6 s keyword s' hnext construct hkind seen malformed s'' hparse ih =>
    have hconstruct := covers_construct hnext construct
    rw [leftBy_of_ok hparse] at hconstruct
    have hshortens := (shortens_of_next hnext).of_suffix (Construct.parse_suffix hparse)
    have hgaveUp : Covers 1 s (seen ++ [.gaveUp ⟨construct, keyword, malformed⟩ s'']) s'' 4 :=
      hconstruct.concat trivial rfl rfl
    have hpass : Covers 1 s
        (seen ++ [.gaveUp ⟨construct, keyword, malformed⟩ s''] ++ [.passed s s'']) s'' 4 :=
      hgaveUp.concat hshortens rfl rfl
    have hboth := (hpass.weaken (by omega)).trans ih
    rw [hunt_eq, hnext]
    simp only [hkind, hparse]
    rwa [List.append_assoc, List.append_assoc] at hboth

/-- A search fails only where its source does. -/
theorem fault_of_failed {s : TokenStream} {fault : Fault} (h : (hunt s).outcome = .failed fault) :
    s.source.fault? = some fault := by
  have hsame {s s' : TokenStream} {found : Option Token} (hnext : next s = .ok found s') :
      s'.source.fault? = s.source.fault? := ((mirrorsAt_of_ok hnext).mp (next_mirrors s)).2
  fun_induction hunt s with
  | case1 s fault' s' hnext =>
    cases h
    exact (next_mirrors.of_error hnext).1
  | case2 s s' hnext => cases h
  | case3 s keyword s' hnext hkind ih => exact hsame hnext ▸ ih h
  | case4 s keyword s' hnext construct hkind fault' s'' hparse =>
    cases h
    exact hsame hnext ▸ ((parse_mirrors construct).of_error hparse).1
  | case5 s keyword s' hnext construct hkind layout s'' hparse => cases h
  | case6 s keyword s' hnext construct hkind malformed s'' hparse later ih =>
    have hsame' := ((mirrorsAt_of_ok hparse).mp (parse_mirrors construct s')).2
    exact hsame hnext ▸ hsame' ▸ ih h

end Hunt

/-! ## Scans -/

namespace Scan

theorem remaining_close (s : TokenStream) : s.close.remaining = [] := by
  simp [remaining, ahead, TokenStream.close]

/-- What looking for the next layout does to the tokens that are left. -/
theorem covers_next (s : Scan) :
    Covers 1 s.stream s.seenInNext s.next.2.stream (Hunt.kept s.next.1) := by
  cases hfinished : s.finished with
  | true =>
    have hseen : s.seenInNext = [] := by simp [seenInNext, hfinished]
    rw [next_of_finished hfinished, hseen]
    exact .refl s.stream (Nat.zero_le 1)
  | false =>
    have hhunt := Hunt.covers s.stream
    have hseen : s.seenInNext = Hunt.moments s.stream := by simp [seenInNext, hfinished]
    rw [next_of_open hfinished, hseen]
    dsimp only
    split
    · rw [close_of_open (s := s.record (hunt s.stream)) hfinished]
      exact hhunt.of_nil (remaining_close _)
    · exact hhunt

/-- What looking for all layouts that are left does to the tokens that are left. -/
theorem covers_rest (s : Scan) : Covers 1 s.stream s.seenInRest s.rest.2.stream 0 := by
  have hnext := covers_next s
  fun_induction seenInRest s with
  | case1 s layout s' hfound ih =>
    rw [hfound] at hnext
    rw [rest_of_found hfound]
    -- The search that has found a layout pays for asking for the next keyword.
    exact hnext.trans (ih (covers_next s'))
  | case2 s s' hended =>
    rw [hended] at hnext
    rwa [rest_of_ended hended]
  | case3 s fault s' hfailed =>
    rw [hfailed] at hnext
    rwa [rest_of_failed hfailed]

/-- A scan fails only where its source does. -/
theorem fault_of_next {s : Scan} {fault : Fault} (h : s.next.1 = .failed fault) :
    s.stream.source.fault? = some fault := by
  cases hfinished : s.finished with
  | true =>
    rw [next_of_finished hfinished] at h
    cases h
  | false =>
    rw [next_of_open hfinished] at h
    exact Hunt.fault_of_failed h

/-- Over any steps a scan goes forward, and makes its attempts at fields further and further on. -/
theorem chained_progress : Chained fun s l s' =>
    (∀ moment ∈ l, moment.Forward) ∧
      Falls s.stream.remaining.length l s'.stream.remaining.length where
  refl s := ⟨by simp, .of_quiet rfl (Nat.le_refl _)⟩
  trans s l s' l' s'' h h' := ⟨List.forall_mem_append.mpr ⟨h.1, h'.1⟩, h.2.trans h'.2⟩
  next s := ⟨(covers_next s).forward, (covers_next s).falls⟩
  close s := by
    refine ⟨by simp, .of_quiet rfl ?_⟩
    cases hfinished : s.finished with
    | true => exact Nat.le_of_eq (by rw [close_of_finished hfinished])
    | false =>
      rw [close_of_open hfinished, remaining_close]
      exact Nat.zero_le _

end Scan

/-! ## How many layouts and skips there can be -/

/-- A construct has four tokens at least after its keyword. -/
theorem Spells.four_le_length {c : Construct} {layout : Layout} {ts : List Token}
    (h : Spells c layout ts) : 4 ≤ ts.length := by
  have hbody {fs : List Field} {body : List Token} (h : Body fs body) : 2 ≤ body.length := by
    obtain ⟨⟨-, -⟩, -⟩ := h
    simp
  cases h with
  | struct hname hbody' hsemicolon =>
    have := hbody hbody'
    simp
    omega
  | typedef hstruct htag hbody' hname hsemicolon =>
    have := hbody hbody'
    simp
    omega

/--
Five tokens go into a layout at least, and two into a construct that is given up, except for one
that is given up at the end.
-/
theorem Accounts.enough_tokens {last : Nat} {ts : List Token} {segments : List Segment}
    (h : Accounts last ts segments) :
    5 * (layoutsOf segments).length + 2 * (skipsOf segments).length ≤ ts.length + 1 := by
  induction h with
  | nil => simp [layoutsOf, skipsOf]
  | @dropped token rest segments hkind hrest ih =>
    have hskips : skipsOf (.dropped token :: segments) = skipsOf segments := rfl
    rw [layoutsOf_dropped, hskips, List.length_cons]
    omega
  | @found construct keyword body rest layout segments hkind hspells hrest ih =>
    have hskips : skipsOf (.found construct keyword body layout :: segments) = skipsOf segments :=
      rfl
    have hbody := hspells.four_le_length
    rw [layoutsOf_found, hskips]
    simp only [List.length_cons, List.length_append]
    omega
  | @skipped construct keyword matched left rest malformed segments hkind hgivesUp hrest ih =>
    have hskips : skipsOf (.skipped ⟨construct, keyword, malformed⟩ matched :: segments) =
        ⟨construct, keyword, malformed⟩ :: skipsOf segments := rfl
    rw [layoutsOf_skipped, hskips, hgivesUp.refuses.tokens]
    simp only [List.length_cons, List.length_append]
    cases hfound : malformed.found with
    | some t =>
      simp only [Option.toList_some, List.length_singleton]
      omega
    | none =>
      -- Nothing is left at the end of the input, so no construct comes after this one.
      obtain rfl := hgivesUp.refuses.atEnd hfound
      cases hrest
      simp [layoutsOf, skipsOf]

/-! ## Progress -/

/--
A watched computation that runs as the given one, asks for a bounded number of tokens, fails only
where its source does, and gets on at every moment, without an attempt at a field that is made again.
-/
structure Watched.Progresses {α : Type} (w : Watched α) (m : Reading α) (s : TokenStream)
    (bound : Nat) : Prop where
  watches : w.run = m
  asked : asks (w.moments s) ≤ bound
  fails : ∀ fault s', m s = .error fault s' → s.source.fault? = some fault
  forward : ∀ moment ∈ w.moments s, moment.Forward
  falling : (attempts (w.moments s)).Pairwise (· > ·)

namespace Watched

theorem ask_progresses (s : TokenStream) : ask.Progresses next s 1 where
  watches := rfl
  asked := Nat.le_refl 1
  fails _ _ h := (next_mirrors.of_error h).1
  forward := List.forall_mem_singleton.mpr trivial
  falling := List.Pairwise.nil

theorem field?_progresses (s : TokenStream) : field?.Progresses StructScan.field? s 4 where
  watches := run_field?
  asked := asks_field? s ▸ AsksAtMost.attempt s
  fails _ _ h := (field?_mirrors.of_error h).1
  forward := field?_forward s
  falling := by
    rw [attempts_field?]
    split <;> simp

theorem parse_progresses (c : Construct) (s : TokenStream) :
    (parse c).Progresses c.parse.run s (5 * s.remaining.length + 1) where
  watches := run_parse c
  asked := Nat.le_trans (Nat.le_add_right _ _) (Hunt.parse_paid c s)
  fails _ _ h := ((parse_mirrors c).of_error h).1
  forward := parse_forward c s
  falling := (parse_falling c s).falling

end Watched

namespace Scan

/--
A scan makes progress, whatever its source does and from wherever its stream stands.  Reading a
token, an attempt at a field and reading a construct come to an end with a bounded number of tokens
asked for; so do looking for the next layout and for all that are left; and they fail only where
the source does.  Every token that is dealt with and every field that is read shorten what is left,
an attempt that fails leaves it as it was, and over any steps no attempt is made twice in the same
place.  A scan of a text finds and reports no more than the tokens of the text allow.
-/
theorem progresses :
    (∀ s : TokenStream, Watched.ask.Progresses TokenStream.next s 1 ∧
      Watched.field?.Progresses field? s 4 ∧
      ∀ c, (Watched.parse c).Progresses c.parse.run s (5 * s.remaining.length + 1)) ∧
    (∀ s s' found, TokenStream.next s = .ok found s' →
      s.remaining = found.toList ++ s'.remaining ∧ (found = none → s.remaining = []) ∧
        s'.weight + count found ≤ s.weight) ∧
    (∀ s, (hunt s).Told (Hunt.moments s)) ∧
    (∀ s : Scan, asks s.seenInNext ≤ 5 * s.stream.remaining.length + 1 ∧
      asks s.seenInRest ≤ 5 * s.stream.remaining.length + 1 ∧
      ∀ fault, s.next.1 = .failed fault → s.stream.source.fault? = some fault) ∧
    (∀ steps s, (∀ moment ∈ Step.seenInRun steps s, moment.Forward) ∧
      (attempts (Step.seenInRun steps s)).Pairwise (· > ·)) ∧
    ∀ text report, ∃ layouts warnings,
      (ofText text (some report)).rest.1 = .ok layouts ∧
      (ofText text (some report)).rest.2.report = some (report.warn warnings) ∧
      5 * layouts.length + 2 * warnings.length ≤ (tokensOfText text).length + 1 := by
  refine ⟨fun s => ⟨Watched.ask_progresses s, Watched.field?_progresses s,
    fun c => Watched.parse_progresses c s⟩, fun s s' found hnext => ?_, Hunt.told_by_moments,
    fun s => ?_, fun steps s => ?_, fun text report => ?_⟩
  · have hbounded := next_bounded s
    rw [hnext] at hbounded
    exact ⟨(next_takes hnext).1, (next_takes hnext).2, hbounded⟩
  · have hnext := (covers_next s).afforded
    have hrest := (covers_rest s).afforded
    exact ⟨by omega, by omega, fun fault => fault_of_next⟩
  · have hrun := chained_progress.run steps s
    exact ⟨hrun.1, hrun.2.falling⟩
  · obtain ⟨segments, haccounts, hlayouts, hreport⟩ := rest_ofText text (some report)
    refine ⟨_, (skipsOf segments).map Skip.diagnostic, hlayouts, hreport, ?_⟩
    rw [List.length_map]
    exact haccounts.enough_tokens

end Scan

end StructScan
