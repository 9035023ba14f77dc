import StructScan.Proofs.Grammar.Lookahead
import StructScan.Proofs.Grammar.Watched

/-!
# Reading comes to an end

Giving back makes a stream longer again, so neither the tokens given back nor the characters not
read tell that a parser gets on.  The tokens that are left do, those given back and those still to
be read together.  An attempt at a field that fails leaves them as they were, and a field that is
read takes some of them off.  After an attempt has failed, a token is taken before there is
another one, so no attempt is made twice in the same place.

How often a parser asks for a token is settled by paying for it.  Every token that is left is worth
five: it pays for being read, and if it is given back it is worth five again.  The four tokens that
an attempt asks for at most are paid for by the token that ended the field before, or by the brace
that opened the body.

Main results:

- Theorem `TokenStream.next_takes`: reading takes the first of the tokens that are left.
- Theorem `Watched.parse_forward`: what is seen while a construct is read goes forward.
- Theorem `Watched.parse_falling`: the attempts at fields of a construct, each of them further on.
- Theorem `Watched.parse_affords`: how often a construct asks for a token.
-/

namespace StructScan

open TokenStream

/-! ## What is left -/

/-- Reading takes the first of the tokens that are left, or there are none. -/
theorem TokenStream.next_takes {s s' : TokenStream} {found : Option Token}
    (h : next s = .ok found s') :
    s.remaining = found.toList ++ s'.remaining ∧ (found = none → s.remaining = []) := by
  obtain ⟨hlist, -, -⟩ := next_follows.eq_of_mirrors next_mirrors h
  obtain ⟨rfl, htail⟩ := Prod.mk.inj hlist
  rw [← htail]
  cases s.remaining with
  | nil => exact ⟨rfl, fun _ => rfl⟩
  | cons t ts => exact ⟨rfl, by simp⟩

/-- Reading a construct takes tokens off those that are left, whether it is complete or not. -/
theorem Construct.parse_suffix {c : Construct} {s s' : TokenStream}
    {result : Except Malformed Layout} (h : c.parse.run s = .ok result s') :
    s'.remaining <:+ s.remaining := by
  obtain ⟨hlist, -, -⟩ := (parse_parsesAs c).eq_of_mirrors (parse_mirrors c) h
  cases result with
  | ok layout =>
    obtain ⟨spelled, hspelled, -⟩ := Listed.parse_ok_iff.mp hlist
    exact ⟨spelled, hspelled.symm⟩
  | error malformed =>
    obtain ⟨matched, left, hmatched, hgivesUp⟩ := Listed.parse_error_iff.mp hlist
    refine ⟨matched ++ malformed.found.toList, ?_⟩
    rw [hmatched, hgivesUp.refuses.tokens, List.append_assoc]

/-! ## Going forward -/

/-- Tokens are taken off those that are left, one at least. -/
def TokenStream.Shortens (s s' : TokenStream) : Prop :=
  ∃ taken, taken ≠ [] ∧ s.remaining = taken ++ s'.remaining

theorem TokenStream.Shortens.length_lt {s s' : TokenStream} (h : s.Shortens s') :
    s'.remaining.length < s.remaining.length := by
  obtain ⟨taken, hne, hremaining⟩ := h
  have hpos := List.length_pos_iff.mpr hne
  rw [hremaining, List.length_append]
  omega

/-- A token that is read shortens what is left. -/
theorem TokenStream.shortens_of_next {s s' : TokenStream} {t : Token}
    (h : next s = .ok (some t) s') : s.Shortens s' :=
  ⟨[t], List.cons_ne_nil _ _, (next_takes h).1⟩

/-- Reading on from a shorter stream keeps it shorter. -/
theorem TokenStream.Shortens.of_suffix {s s' s'' : TokenStream} (h : s.Shortens s')
    (h' : s''.remaining <:+ s'.remaining) : s.Shortens s'' := by
  obtain ⟨taken, hne, hremaining⟩ := h
  obtain ⟨taken', hremaining'⟩ := h'
  exact ⟨taken ++ taken', by simp [hne], by rw [hremaining, ← hremaining', List.append_assoc]⟩

/--
A moment at which a scan gets on: a field that was read and a token that was dealt with shorten
what is left, and an attempt that failed leaves it as it was.
-/
def Moment.Forward : Moment → Prop
  | tried s (some _) s' | passed s s' => s.Shortens s'
  | tried s none s' => s'.remaining = s.remaining
  | _ => True

/-- An attempt at a field takes the field off what is left, or leaves it as it was. -/
theorem field?_forward {s s' : TokenStream} {found : Option Field}
    (h : field? s = .ok found s') : (Moment.tried s found s').Forward := by
  obtain ⟨hlist, -, -⟩ := field?_follows.eq_of_mirrors field?_mirrors h
  cases hfield : Listed.field? s.remaining with
  | none =>
    rw [hfield] at hlist
    obtain ⟨rfl, hsame⟩ := Prod.mk.inj hlist
    exact hsame.symm
  | some taken =>
    rw [hfield] at hlist
    obtain ⟨f, rest⟩ := taken
    obtain ⟨declaration, hdeclaration, hdeclares⟩ := Listed.field?_eq_some_iff.mp hfield
    obtain ⟨rfl, hrest⟩ := Prod.mk.inj hlist
    refine ⟨declaration, ?_, hrest ▸ hdeclaration⟩
    rintro rfl
    cases hdeclares

namespace Watched

variable {α β : Type}

/-- What is seen while a construct is read goes forward. -/
theorem chained_forward : Chained fun _ l _ => ∀ moment ∈ l, moment.Forward where
  refl s := by simp
  trans s l s' l' s'' h h' := List.forall_mem_append.mpr ⟨h, h'⟩
  ask s := List.forall_mem_singleton.mpr trivial
  giveBack tokens s := List.forall_mem_singleton.mpr trivial

theorem field?_forward (s : TokenStream) : ∀ moment ∈ field?.moments s, moment.Forward :=
  chained_forward.field? (fun _ _ _ _ hfield hl =>
    List.forall_mem_append.mpr
      ⟨hl, List.forall_mem_singleton.mpr (StructScan.field?_forward hfield)⟩) s

/-- No attempt at a field in a construct turns back. -/
theorem parse_forward (c : Construct) (s : TokenStream) :
    ∀ moment ∈ (parse c).moments s, moment.Forward :=
  chained_forward.parse (fun _ _ _ _ hfield hl =>
    List.forall_mem_append.mpr
      ⟨hl, List.forall_mem_singleton.mpr (StructScan.field?_forward hfield)⟩) c s

end Watched

/-! ## Attempts at fields -/

/-- How many tokens are left where an attempt at a field starts. -/
def Moment.attempt? : Moment → Option Nat
  | tried s _ _ => some s.remaining.length
  | _ => none

/-- How many tokens are left where attempts at fields start. -/
def attempts (moments : List Moment) : List Nat :=
  moments.filterMap Moment.attempt?

@[simp]
theorem attempts_append (l l' : List Moment) : attempts (l ++ l') = attempts l ++ attempts l' :=
  List.filterMap_append

/--
Attempts at fields of which each has fewer tokens left than the one before: all of them start
between two places, and none at the first of these.
-/
structure Falls (high : Nat) (moments : List Moment) (low : Nat) : Prop where
  le : low ≤ high
  between : ∀ n ∈ attempts moments, low ≤ n ∧ n < high
  falling : (attempts moments).Pairwise (· > ·)

namespace Falls

variable {high between low : Nat} {l l' : List Moment}

/-- No attempts at all are in order. -/
theorem of_quiet (hquiet : attempts l = []) (hle : low ≤ high) : Falls high l low where
  le := hle
  between := by simp [hquiet]
  falling := by simp [hquiet]

theorem mono {high' : Nat} (h : Falls high l low) (hle : high ≤ high') : Falls high' l low where
  le := Nat.le_trans h.le hle
  between n hn := ⟨(h.between n hn).1, Nat.lt_of_lt_of_le (h.between n hn).2 hle⟩
  falling := h.falling

/-- Attempts that start further on come after those before. -/
theorem trans (h : Falls high l between) (h' : Falls between l' low) :
    Falls high (l ++ l') low where
  le := Nat.le_trans h'.le h.le
  between := by
    rw [attempts_append]
    refine List.forall_mem_append.mpr ⟨fun n hn => ?_, fun n hn => ?_⟩
    · exact ⟨Nat.le_trans h'.le (h.between n hn).1, (h.between n hn).2⟩
    · exact ⟨(h'.between n hn).1, Nat.lt_of_lt_of_le (h'.between n hn).2 h.le⟩
  falling := by
    rw [attempts_append]
    refine List.pairwise_append.mpr ⟨h.falling, h'.falling, fun n hn n' hn' => ?_⟩
    exact Nat.lt_of_lt_of_le (h'.between n' hn').2 (h.between n hn).1

end Falls

namespace Watched

variable {α β : Type}

/-- A computation whose attempts at fields start one after the other further on. -/
def Falling (m : Watched α) : Prop :=
  ∀ s, Falls (s.remaining.length + 1) (m.moments s) (leftBy m.run s).remaining.length

/-- A computation without attempts at fields. -/
def Quiet (m : Watched α) : Prop :=
  ∀ s, attempts (m.moments s) = [] ∧ (leftBy m.run s).remaining.length ≤ s.remaining.length

/-- A computation without attempts has none out of order. -/
theorem Quiet.falling {m : Watched α} (h : Quiet m) : Falling m := fun s =>
  .of_quiet (h s).1 (Nat.le_succ_of_le (h s).2)

theorem Quiet.pure (a : α) : Quiet (Pure.pure a : Watched α) := fun _ => ⟨rfl, Nat.le_refl _⟩

/-- What comes before attempts takes nothing from them. -/
theorem Falling.after_quiet {m : Watched α} {k : α → Watched β} (hm : Quiet m)
    (hk : ∀ a, Falling (k a)) : Falling (m >>= k) := by
  intro s
  obtain ⟨hquiet, hle⟩ := hm s
  cases hrun : m.run s with
  | error fault s' =>
    rw [moments_bind_of_error hrun, leftBy_of_error (run_bind_of_error hrun k)]
    rw [leftBy_of_error hrun] at hle
    exact .of_quiet hquiet (by omega)
  | ok a s' =>
    rw [moments_bind_of_ok hrun, leftBy, run_bind_of_ok hrun]
    rw [leftBy_of_ok hrun] at hle
    exact (Falls.of_quiet hquiet (by omega)).trans (hk a s')

/-- What comes after attempts takes nothing from them. -/
theorem Falling.then_quiet {m : Watched α} {k : α → Watched β} (hm : Falling m)
    (hk : ∀ a, Quiet (k a)) : Falling (m >>= k) := by
  intro s
  have hfirst := hm s
  cases hrun : m.run s with
  | error fault s' =>
    rw [moments_bind_of_error hrun, leftBy_of_error (run_bind_of_error hrun k)]
    rwa [leftBy_of_error hrun] at hfirst
  | ok a s' =>
    obtain ⟨hquiet, hle⟩ := hk a s'
    rw [moments_bind_of_ok hrun, leftBy, run_bind_of_ok hrun]
    rw [leftBy_of_ok hrun] at hfirst
    exact hfirst.trans (.of_quiet hquiet hle)

/-- Two computations without attempts have none together. -/
theorem Quiet.bind {m : Watched α} {k : α → Watched β} (hm : Quiet m) (hk : ∀ a, Quiet (k a)) :
    Quiet (m >>= k) := by
  intro s
  obtain ⟨hquiet, hle⟩ := hm s
  cases hrun : m.run s with
  | error fault s' =>
    rw [moments_bind_of_error hrun, leftBy_of_error (run_bind_of_error hrun k)]
    rw [leftBy_of_error hrun] at hle
    exact ⟨hquiet, hle⟩
  | ok a s' =>
    obtain ⟨hquiet', hle'⟩ := hk a s'
    rw [moments_bind_of_ok hrun, leftBy, run_bind_of_ok hrun, attempts_append, hquiet, hquiet']
    rw [leftBy_of_ok hrun] at hle
    exact ⟨rfl, Nat.le_trans hle' hle⟩

/-! ### Fields -/

/-- What only asks and gives back makes no attempt. -/
theorem chained_quiet : Chained fun _ l _ => attempts l = [] where
  refl _ := rfl
  trans s l s' l' s'' h h' := by rw [attempts_append, h, h', List.append_nil]
  ask _ := rfl
  giveBack _ _ := rfl

/-- What is seen of an attempt that comes out is that it was made, in its place. -/
theorem attempts_field? (s : TokenStream) :
    attempts (field?.moments s) =
      match StructScan.field? s with
      | .ok _ _ => [s.remaining.length]
      | .error _ _ => [] := by
  have hquiet : attempts (attempt.moments s) = [] := chained_quiet.attempt s
  have hrun : attempt.run s = StructScan.field? s := congrFun run_attempt s
  rw [← hrun, field?, telling]
  cases hattempt : attempt.run s with
  | error fault s' => simp only [hattempt, hquiet]
  | ok found s' =>
    simp only [hattempt, attempts_append, hquiet]
    rfl

/-- An attempt that fails leaves what is left as it was, and is the last one. -/
theorem fields_falling : Falling fields := by
  intro s
  change Falls _ (seenInFields s) (leftBy StructScan.fields s).remaining.length
  have htold := attempts_field? s
  fun_induction seenInFields s with
  | case1 s f s' hfield ih =>
    have hshorter := (StructScan.field?_forward hfield : s.Shortens s').length_lt
    have hfirst : Falls (s.remaining.length + 1) (field?.moments s) s.remaining.length := by
      simp only [hfield] at htold
      exact ⟨by omega, by simp [htold], by simp [htold]⟩
    rw [leftBy_fields_of_some hfield]
    exact hfirst.trans ((ih (attempts_field? s')).mono (by omega))
  | case2 s s' hfield =>
    have hsame : s'.remaining = s.remaining := StructScan.field?_forward hfield
    have hrun : StructScan.fields s = .ok [] s' := by rw [fields_eq, hfield]
    simp only [hfield] at htold
    rw [leftBy_of_ok hrun, hsame]
    exact ⟨by omega, by simp [htold], by simp [htold]⟩
  | case3 s fault s' hfield =>
    have hrun : StructScan.fields s = .error fault s' := by rw [fields_eq, hfield]
    simp only [hfield] at htold
    rw [leftBy_of_error hrun, (field?_mirrors.of_error hfield).2]
    exact .of_quiet htold (by simp)

/-! ### Constructs -/

/-- Without attempts, and with tokens only taken off those that are left. -/
theorem Quiet.of_suffix {m : Watched α} (hquiet : ∀ s, attempts (m.moments s) = [])
    (hmirrors : Mirrors m.run)
    (hsuffix : ∀ s a s', m.run s = .ok a s' → s'.remaining <:+ s.remaining) : Quiet m := by
  intro s
  refine ⟨hquiet s, ?_⟩
  cases hrun : m.run s with
  | error fault s' =>
    rw [leftBy_of_error hrun, (hmirrors.of_error hrun).2]
    exact Nat.zero_le _
  | ok a s' =>
    rw [leftBy_of_ok hrun]
    exact (hsuffix s a s' hrun).length_le

/-- An expectation is no attempt at a field. -/
theorem expect_quiet (what : Expectation) : Quiet (expect what).run := by
  refine .of_suffix (chained_quiet.expect what) (expect_mirrors what) fun s result s' hrun => ?_
  obtain ⟨found, hnext, -⟩ := next_of_expect hrun
  exact ⟨found.toList, (next_takes hnext).1.symm⟩

/-- Neither is a tag. -/
theorem tag_quiet : Quiet tag := by
  refine .of_suffix chained_quiet.tag (run_tag ▸ tag_mirrors) fun s _ s' hrun => ?_
  obtain ⟨hlist, -, -⟩ := tag_follows.eq_of_mirrors tag_mirrors (run_tag ▸ hrun)
  obtain ⟨taken, hremaining, -⟩ := Listed.dropTag_spec s.remaining
  exact ⟨taken, (Prod.mk.inj hlist).2 ▸ hremaining.symm⟩

/-- A part of a construct after another; a part that is missing ends the construct. -/
theorem Quiet.parseBind {m : ExceptT Malformed Watched α} {k : α → ExceptT Malformed Watched β}
    (hm : Quiet m.run) (hk : ∀ a, Quiet (k a).run) : Quiet (m >>= k).run := by
  refine Quiet.bind hm fun result => ?_
  cases result with
  | ok a => exact hk a
  | error e => exact Quiet.pure (Except.error e)

theorem Quiet.lift {m : Watched α} (hm : Quiet m) :
    Quiet (m : ExceptT Malformed Watched α).run :=
  hm.bind fun a => Quiet.pure (Except.ok a)

/-- The parts of a construct before its fields leave their attempts in order. -/
theorem Falling.parse_after_quiet {m : ExceptT Malformed Watched α}
    {k : α → ExceptT Malformed Watched β} (hm : Quiet m.run) (hk : ∀ a, Falling (k a).run) :
    Falling (m >>= k).run := by
  refine Falling.after_quiet hm fun result => ?_
  cases result with
  | ok a => exact hk a
  | error e => exact (Quiet.pure (Except.error e)).falling

/-- So do the parts after them. -/
theorem Falling.parse_then_quiet {m : Watched α} {k : α → ExceptT Malformed Watched β}
    (hm : Falling m) (hk : ∀ a, Quiet (k a).run) :
    Falling ((m : ExceptT Malformed Watched α) >>= k).run := by
  refine Falling.then_quiet (hm.then_quiet fun a => Quiet.pure (Except.ok a)) fun result => ?_
  cases result with
  | ok a => exact hk a
  | error e => exact Quiet.pure (Except.error e)

/-- The attempts at fields of a construct start one after the other further on. -/
theorem parse_falling (c : Construct) : Falling (parse c) := by
  cases c with
  | struct =>
    exact .parse_after_quiet (expect_quiet _) fun _ => .parse_after_quiet (expect_quiet _) fun _ =>
      .parse_then_quiet fields_falling fun _ => (expect_quiet _).parseBind fun _ =>
      (expect_quiet _).parseBind fun _ => Quiet.pure (Except.ok _)
  | typedef =>
    exact .parse_after_quiet (expect_quiet _) fun _ => .parse_after_quiet tag_quiet.lift fun _ =>
      .parse_after_quiet (expect_quiet _) fun _ => .parse_then_quiet fields_falling fun _ =>
      (expect_quiet _).parseBind fun _ => (expect_quiet _).parseBind fun _ =>
      (expect_quiet _).parseBind fun _ => Quiet.pure (Except.ok _)

end Watched

/-! ## How often tokens are asked for -/

/-- Whether a token was asked for. -/
def Moment.isAsk : Moment → Bool
  | asked _ => true
  | _ => false

/-- How often a token was asked for. -/
def asks (moments : List Moment) : Nat :=
  moments.countP Moment.isAsk

@[simp]
theorem asks_append (l l' : List Moment) : asks (l ++ l') = asks l + asks l' :=
  List.countP_append

namespace Watched

variable {α β : Type}

/-! ### One attempt -/

/-- A computation that asks for a bounded number of tokens, wherever it starts. -/
def AsksAtMost (bound : Nat) (m : Watched α) : Prop :=
  ∀ s, asks (m.moments s) ≤ bound

namespace AsksAtMost

theorem pure (a : α) : AsksAtMost 0 (Pure.pure a : Watched α) := fun _ => Nat.le_refl _

/-- One computation after another asks for the tokens of both. -/
theorem bind {b c : Nat} {m : Watched α} {k : α → Watched β} (hm : AsksAtMost b m)
    (hk : ∀ a, AsksAtMost c (k a)) : AsksAtMost (b + c) (m >>= k) := by
  intro s
  have hfirst := hm s
  cases hrun : m.run s with
  | error fault s' =>
    rw [moments_bind_of_error hrun]
    omega
  | ok a s' =>
    have hsecond := hk a s'
    rw [moments_bind_of_ok hrun, asks_append]
    omega

theorem mono {b c : Nat} {m : Watched α} (hm : AsksAtMost b m) (hle : b ≤ c) : AsksAtMost c m :=
  fun s => Nat.le_trans (hm s) hle

/-- What ends an attempt asks for nothing. -/
theorem of_stops {n : Nat} {m : Watched (Option Field)} (h : Stops n m) : AsksAtMost 0 m := by
  intro s
  cases h with
  | nothing => exact Nat.le_refl 0
  | abandoned read => exact Nat.le_refl 0

/-- An attempt asks for four tokens at most, the one after which it is given up included. -/
theorem attempt : AsksAtMost 4 attempt := by
  have hrule : AttemptRule fun n m => AsksAtMost (4 - n) m := by
    refine ⟨fun n k hn hnone hsome => ?_, fun n m _ hm => (of_stops hm).mono (Nat.zero_le _),
      fun n f => (pure _).mono (Nat.zero_le _)⟩
    have hask : AsksAtMost 1 ask := fun _ => Nat.le_refl 1
    have hboth : AsksAtMost (1 + (4 - (n + 1))) (ask >>= k) := by
      refine hask.bind fun found => ?_
      cases found with
      | none => exact (of_stops hnone).mono (Nat.zero_le _)
      | some t => exact hsome t
    exact hboth.mono (by omega)
  exact hrule.attempt

end AsksAtMost

/-- Telling how an attempt has come out asks for nothing. -/
theorem asks_field? (s : TokenStream) : asks (field?.moments s) = asks (attempt.moments s) := by
  rw [field?, telling]
  cases hattempt : attempt.run s with
  | error fault s' => simp only [hattempt]
  | ok found s' =>
    simp only [hattempt, asks_append]
    rfl

/-! ### What asking costs -/

/--
A computation that pays for the tokens it asks for.  Each token that is left is worth five.  What
the computation holds at first is `held`; what it keeps, by its result, is `kept`.
-/
def Affords (held : Nat) (kept : α → Nat) (m : Watched α) : Prop :=
  ∀ s, match m.run s with
    | .ok a s' =>
      asks (m.moments s) + 5 * s'.remaining.length + kept a ≤ 5 * s.remaining.length + held
    | .error _ _ => asks (m.moments s) ≤ 5 * s.remaining.length + held

namespace Affords

variable {held : Nat} {kept : α → Nat} {m : Watched α}

theorem pure {a : α} (h : kept a ≤ held) : Affords held kept (Pure.pure a : Watched α) := by
  intro s
  show 0 + 5 * s.remaining.length + kept a ≤ 5 * s.remaining.length + held
  omega

/-- What one computation keeps, the next one holds. -/
theorem bind {kept' : β → Nat} {k : α → Watched β} (hm : Affords held kept m)
    (hk : ∀ a, Affords (kept a) kept' (k a)) : Affords held kept' (m >>= k) := by
  intro s
  have hfirst := hm s
  cases hrun : m.run s with
  | error fault s' =>
    rw [run_bind_of_error hrun, moments_bind_of_error hrun]
    simpa only [hrun] using hfirst
  | ok a s' =>
    have hsecond := hk a s'
    rw [run_bind_of_ok hrun, moments_bind_of_ok hrun, asks_append]
    simp only [hrun] at hfirst
    cases hrun' : (k a).run s' with
    | error fault s'' =>
      simp only [hrun'] at hsecond ⊢
      omega
    | ok b s'' =>
      simp only [hrun'] at hsecond ⊢
      omega

/-- A computation affords what it does with more in hand before, and less after. -/
theorem mono {held' : Nat} {kept' : α → Nat} (hm : Affords held kept m) (hheld : held ≤ held')
    (hkept : ∀ a, kept' a ≤ kept a) : Affords held' kept' m := by
  intro s
  have h := hm s
  cases hrun : m.run s with
  | error fault s' =>
    simp only [hrun] at h ⊢
    omega
  | ok a s' =>
    simp only [hrun] at h ⊢
    have := hkept a
    omega

/-- What a computation holds beyond its needs, it keeps. -/
theorem carry (hm : Affords held kept m) (extra : Nat) :
    Affords (extra + held) (fun a => extra + kept a) m := by
  intro s
  have h := hm s
  cases hrun : m.run s with
  | error fault s' =>
    simp only [hrun] at h ⊢
    omega
  | ok a s' =>
    simp only [hrun] at h ⊢
    omega

end Affords

/-- Asking costs one; a token that is read is in hand then. -/
theorem ask_affords : Affords 1 (fun found => 5 * count found) ask := by
  intro s
  cases hnext : ask.run s with
  | error fault s' => exact Nat.le_add_left _ _
  | ok found s' =>
    obtain ⟨hremaining, -⟩ := next_takes hnext
    have hasks : asks (ask.moments s) = 1 := rfl
    simp only [hasks, hremaining, List.length_append]
    cases found with
    | none => simp [count]; omega
    | some t => simp [count]; omega

/-- A token that is given back is no longer in hand. -/
theorem giveBack_affords (tokens : List Token) :
    Affords (5 * tokens.length) (fun _ => 0) (giveBack tokens) := by
  intro s
  have hremaining : (leftBy (unread tokens) s).remaining = tokens ++ s.remaining :=
    List.append_assoc ..
  show 0 + 5 * (leftBy (unread tokens) s).remaining.length + 0 ≤ _
  rw [hremaining, List.length_append]
  omega

/-! ### Fields -/

/-- After a field that was read, another attempt can be paid for. -/
def fieldKept (found : Option Field) : Nat :=
  if found.isSome then 4 else 0

/-- What the tokens of a field are worth pays for giving them back. -/
theorem abandon_affords (tokens : List Token) :
    Affords (5 * tokens.length) fieldKept (abandon tokens) :=
  (giveBack_affords tokens).bind fun _ => .pure (by simp [fieldKept])

/-- An attempt asks for four tokens at most, and those that it has read are in hand. -/
theorem attempt_affords : Affords 4 fieldKept attempt := by
  have hstop {n : Nat} {m : Watched (Option Field)} (hm : Stops n m) :
      Affords (5 * n) fieldKept m := by
    cases hm with
    | nothing => exact .pure (Nat.zero_le _)
    | abandoned read => exact abandon_affords read
  -- After `n` tokens, five times as much is in hand, and what the others cost.
  have hrule : AttemptRule fun n m => Affords (4 * n + 4) fieldKept m := by
    refine ⟨fun n k hn hnone hsome => ?_,
      fun n m hn hm => (hstop hm).mono (by omega) fun _ => Nat.le_refl _,
      fun n f => .pure (Nat.le_add_left _ _)⟩
    refine (ask_affords.carry (4 * n + 3)).bind fun found => ?_
    cases found with
    | none => exact (hstop hnone).mono (by omega) fun _ => Nat.le_refl _
    | some t =>
      have hcount : count (some t) = 1 := rfl
      exact (hsome t).mono (by omega) fun _ => Nat.le_refl _
  exact hrule.attempt

/-- Reading a field costs what its attempt does. -/
theorem field?_affords : Affords 4 fieldKept field? := by
  intro s
  rw [asks_field?]
  exact attempt_affords s

/-- The end of each field pays for the attempt at the next one. -/
theorem fields_affords : Affords 4 (fun _ => 0) fields := by
  intro s
  rw [show fields.run s = StructScan.fields s from rfl,
    show fields.moments s = seenInFields s from rfl]
  fun_induction seenInFields s with
  | case1 s f s' hfield ih =>
    have hfirst := field?_affords s
    simp only [run_field?, hfield, fieldKept, Option.isSome_some, if_true] at hfirst
    rw [fields_eq, hfield, asks_append]
    cases hrest : StructScan.fields s' with
    | error fault s'' =>
      simp only [hrest] at ih ⊢
      omega
    | ok fs s'' =>
      simp only [hrest] at ih ⊢
      omega
  | case2 s s' hfield =>
    have hfirst := field?_affords s
    rw [run_field?, hfield] at hfirst
    rw [fields_eq, hfield]
    exact hfirst
  | case3 s fault s' hfield =>
    have hfirst := field?_affords s
    rw [run_field?, hfield] at hfirst
    rw [fields_eq, hfield]
    exact hfirst

/-! ### Constructs -/

/-- What a part of a construct keeps if it is there. -/
def partKept (kept : Nat) (result : Except Malformed α) : Nat :=
  match result with
  | .ok _ => kept
  | .error _ => 0

/-- A part of a construct that pays for the tokens it asks for. -/
def AffordsPart (held : Nat) (m : ExceptT Malformed Watched α) (kept : Nat) : Prop :=
  Affords held (partKept kept) m.run

namespace AffordsPart

variable {held between kept : Nat}

theorem pure {a : α} (h : kept ≤ held) :
    AffordsPart held (Pure.pure a : ExceptT Malformed Watched α) kept :=
  Affords.pure (a := Except.ok a) h

/-- A part that is missing ends the construct. -/
theorem bind {m : ExceptT Malformed Watched α} {k : α → ExceptT Malformed Watched β}
    (hm : AffordsPart held m between) (hk : ∀ a, AffordsPart between (k a) kept) :
    AffordsPart held (m >>= k) kept := by
  refine Affords.bind hm fun result => ?_
  cases result with
  | ok a => exact hk a
  | error e => exact Affords.pure (a := Except.error e) (Nat.zero_le _)

/-- A reading pays the same as a part of a construct. -/
theorem lift {m : Watched α} (hm : Affords held (fun _ => kept) m) :
    AffordsPart held (m : ExceptT Malformed Watched α) kept :=
  Affords.bind hm fun a => Affords.pure (a := Except.ok a) (Nat.le_refl _)

end AffordsPart

/-- The token that is expected pays for being asked for, with what was in hand before. -/
theorem expect_affords (what : Expectation) (extra : Nat) :
    AffordsPart (extra + 1) (expect what) (extra + 5) := by
  intro s
  have h := ask_affords.carry extra s
  cases hrun : (expect what).run.run s with
  | error fault s' =>
    have hasks : asks ((expect what).run.moments s) = 1 := rfl
    simp only [hasks]
    omega
  | ok result s' =>
    obtain ⟨found, hnext, hfound⟩ := next_of_expect hrun
    have hask : ask.run s = .ok found s' := hnext
    simp only [hask] at h
    cases result with
    | error e =>
      have hsame : asks ((expect what).run.moments s) = asks (ask.moments s) := rfl
      simp only [partKept, hsame]
      omega
    | ok t =>
      obtain ⟨rfl, -⟩ := hfound t rfl
      exact h

/-- Looking for a tag costs one token, which may go back. -/
theorem tag_affords (extra : Nat) : Affords (extra + 1) (fun _ => extra) tag := by
  refine (ask_affords.carry extra).bind fun found => ?_
  cases found with
  | none => exact .pure (Nat.le_add_right _ _)
  | some t =>
    simp only
    split
    · exact .pure (Nat.le_add_right _ _)
    · exact ((giveBack_affords [t]).carry extra).mono (by simp [count]) fun _ => Nat.le_refl _

/-- A construct is paid for by its tokens, but for the first one that is asked for. -/
theorem parse_affords (c : Construct) : Affords 1 (partKept 1) (parse c) := by
  have hfields (extra : Nat) : AffordsPart (extra + 4)
      (fields : ExceptT Malformed Watched (List Field)) extra :=
    .lift (fields_affords.carry extra)
  cases c with
  | struct =>
    exact (expect_affords _ 0).bind fun _ => (expect_affords _ 4).bind fun _ =>
      (hfields 5).bind fun _ => (expect_affords _ 4).bind fun _ =>
      (expect_affords _ 8).bind fun _ => .pure (by omega)
  | typedef =>
    exact (expect_affords _ 0).bind fun _ => (AffordsPart.lift (tag_affords 4)).bind fun _ =>
      (expect_affords _ 3).bind fun _ => (hfields 4).bind fun _ => (expect_affords _ 3).bind fun _ =>
      (expect_affords _ 7).bind fun _ => (expect_affords _ 11).bind fun _ => .pure (by omega)

end Watched

end StructScan
