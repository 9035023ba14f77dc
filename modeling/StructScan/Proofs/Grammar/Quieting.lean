import StructScan.Proofs.Grammar.Following
import StructScan.Proofs.Grammar.Framing

/-!
# Sources that fail

A source that fails after its last line hands out the same lines as one that ends there.  So a
computation on the stream does what it would do over the quiet source, up to the point where it
meets the failure; and there nothing is left to read.

Main results:

- Theorem `next_mirrors`: reading a token differs only where the source fails.
- Theorem `Mirrors.bind`: computations that differ there only can be put together.
- Theorem `parse_mirrors`: a construct is read alike over both sources, or meets the failure.
- Theorem `TokenStream.Follows.eq_of_mirrors`: so what is read from a source that may fail is what
  the tokens that are left give.
-/

namespace StructScan

open TokenStream

/-! ## Quiet streams -/

/-- The stream over a source that ends where the given one may fail. -/
def TokenStream.quieted (s : TokenStream) : TokenStream :=
  { s with source := s.source.exhaust }

namespace TokenStream

/-- Such a stream never fails, since a source that is exhausted does not. -/
theorem calm_quieted (s : TokenStream) : s.quieted.Calm :=
  s.source.fault?_exhaust

end TokenStream

/-! ## Computations over both sources -/

/--
A computation gives over a quiet source what it gives over one that may fail, unless it meets
the failure; then nothing is left to read, and no failure is left either.
-/
def MirrorsAt (m : Reading α) (s : TokenStream) : Prop :=
  match m s with
  | .ok a s' => m s.quieted = .ok a s'.quieted ∧ s'.source.fault? = s.source.fault?
  | .error fault s' => s.source.fault? = some fault ∧ s'.Calm ∧ s'.remaining = []

/--
Where a computation succeeds, it does so over a quiet source, and the failure is still to come.
-/
theorem mirrorsAt_of_ok {m : Reading α} {s s' : TokenStream} {a : α} (h : m s = .ok a s') :
    MirrorsAt m s ↔ m s.quieted = .ok a s'.quieted ∧ s'.source.fault? = s.source.fault? := by
  simp only [MirrorsAt, h]

/-- Where it fails, the failure is the one of the source, and nothing is left to read. -/
theorem mirrorsAt_of_error {m : Reading α} {s s' : TokenStream} {fault : Fault}
    (h : m s = .error fault s') :
    MirrorsAt m s ↔ s.source.fault? = some fault ∧ s'.Calm ∧ s'.remaining = [] := by
  simp only [MirrorsAt, h]

/-- A computation that, from wherever it starts, differs only where the source fails. -/
def Mirrors (m : Reading α) : Prop :=
  ∀ s, MirrorsAt m s

/-- Where a computation meets a failure, it is the failure of the source, and nothing is left. -/
theorem Mirrors.of_error {m : Reading α} (hm : Mirrors m) {s s' : TokenStream} {fault : Fault}
    (h : m s = .error fault s') : s.source.fault? = some fault ∧ s'.remaining = [] := by
  obtain ⟨hfault, -, hremaining⟩ := (mirrorsAt_of_error h).mp (hm s)
  exact ⟨hfault, hremaining⟩

/-- Reading from the source differs only where the source fails. -/
theorem lex_mirrorsAt {s : TokenStream} (hreturned : s.returned = []) : MirrorsAt lex s := by
  have hpending := @Token.reach_pending_eq_nil .code s.rest s.source.pending
  have hleft := @Token.skip_remainder .code s.rest s.source.pending
  have hquiet : lex s.quieted = s.quieted.arrive (Token.reach .code s.rest s.source.pending) := rfl
  unfold MirrorsAt
  rw [hquiet, lex]
  generalize Token.reach .code s.rest s.source.pending = r at hpending hleft
  obtain ⟨start, pending, pulled⟩ := r
  have hsame : (s.source.handOut pulled pending).fault? = s.source.fault? := rfl
  cases start with
  | some found => exact ⟨rfl, rfl⟩
  | none =>
    simp only [arrive, hsame]
    cases hfault : s.source.fault? with
    | none => exact ⟨rfl, rfl⟩
    | some fault =>
      obtain rfl : pending = [] := hpending rfl
      refine ⟨rfl, rfl, ?_⟩
      simp [remaining, ahead, hreturned, Source.handOut, Source.exhaust, Token.linesTokens_cons,
        Token.lineTokens_of_lineEnd (hleft rfl)]

/-- Reading a token differs only where the source fails. -/
theorem next_mirrors : Mirrors next := by
  intro s
  rcases next_cases s with ⟨t, ts, hcons, hnext⟩ | ⟨hnil, hended, hnext⟩ | ⟨hnil, hopen, hnext⟩
  · rw [mirrorsAt_of_ok hnext]
    exact ⟨by simp [next, quieted, hcons], rfl⟩
  · rw [mirrorsAt_of_ok hnext]
    exact ⟨by simp [next, quieted, hnil, hended], rfl⟩
  · have hquiet : next s.quieted = lex s.quieted := by simp [next, quieted, hnil, hopen]
    have hlex := lex_mirrorsAt hnil
    unfold MirrorsAt at hlex ⊢
    rwa [hnext, hquiet]

/-- Giving back does not look at the source. -/
theorem unread_mirrors (tokens : List Token) : Mirrors (unread tokens) :=
  fun _ => ⟨rfl, rfl⟩

namespace Mirrors

theorem pure (a : α) : Mirrors (Pure.pure a : Reading α) :=
  fun _ => ⟨rfl, rfl⟩

/-- Computations that differ only where the source fails can be put together. -/
theorem bind {m : Reading α} {k : α → Reading β} (hm : Mirrors m) (hk : ∀ a, Mirrors (k a)) :
    Mirrors (m >>= k) := by
  intro s
  have hfirst := hm s
  cases hrun : m s with
  | error fault s' =>
    have hboth : (m >>= k) s = .error fault s' := by simp only [Bind.bind, EStateM.bind, hrun]
    rwa [mirrorsAt_of_error hboth, ← mirrorsAt_of_error hrun]
  | ok a s' =>
    obtain ⟨hquiet, hfault⟩ := (mirrorsAt_of_ok hrun).mp hfirst
    have hsecond := hk a s'
    have hboth : (m >>= k) s = k a s' := by simp only [Bind.bind, EStateM.bind, hrun]
    cases hrun' : k a s' with
    | error fault s'' =>
      rw [mirrorsAt_of_error (hboth.trans hrun'), ← hfault, ← mirrorsAt_of_error hrun']
      exact hsecond
    | ok b s'' =>
      obtain ⟨hquiet', hfault'⟩ := (mirrorsAt_of_ok hrun').mp hsecond
      rw [mirrorsAt_of_ok (hboth.trans hrun')]
      refine ⟨?_, hfault'.trans hfault⟩
      simp only [Bind.bind, EStateM.bind, hquiet, hquiet']

/-- A choice that does not depend on the stream is made alike over both sources. -/
theorem ite {p : Prop} [Decidable p] {m n : Reading α} (hm : Mirrors m) (hn : Mirrors n) :
    Mirrors (if p then m else n) := by
  by_cases hp : p
  · simpa [hp] using hm
  · simpa [hp] using hn

/-- Reading a token and going on is alike over both sources if going on is. -/
theorem next_bind {k : Option Token → Reading α} (hnone : Mirrors (k none))
    (hsome : ∀ t, Mirrors (k (some t))) : Mirrors (next >>= k) := by
  refine next_mirrors.bind fun found => ?_
  cases found with
  | none => exact hnone
  | some t => exact hsome t

end Mirrors

/-! ## Fields -/

theorem abandon_mirrors (tokens : List Token) : Mirrors (abandon tokens) :=
  (unread_mirrors tokens).bind fun _ => Mirrors.pure none

theorem fieldEnd_mirrors (read : List Token) (field : Field) : Mirrors (fieldEnd read field) :=
  .next_bind (abandon_mirrors read) fun _ => (Mirrors.pure _).ite (abandon_mirrors _)

theorem fieldName_mirrors (read : List Token) (typename : String) (found : Option Token) :
    Mirrors (fieldName read typename found) := by
  cases found with
  | none => exact abandon_mirrors read
  | some t => exact (fieldEnd_mirrors _ _).ite (abandon_mirrors _)

/-- A field is read the same, as far as the source lasts. -/
theorem field?_mirrors : Mirrors field? := by
  refine .next_bind (Mirrors.pure none) fun type => Mirrors.ite ?_ (abandon_mirrors _)
  refine .next_bind (fieldName_mirrors _ _ _) fun t => Mirrors.ite ?_ (fieldName_mirrors _ _ _)
  exact next_mirrors.bind fun found => fieldName_mirrors _ _ found

/-- The fields of a stream are its first field and those after it, if there is a first one. -/
theorem fields_eq (s : TokenStream) :
    fields s = match field? s with
      | .ok (some f) s' => match fields s' with
        | .ok fs s'' => .ok (f :: fs) s''
        | .error fault s'' => .error fault s''
      | .ok none s' => .ok [] s'
      | .error fault s' => .error fault s' := by
  rw [fields, readFields]
  split
  · rename_i hfield
    rewrite [hfield]
    rfl
  · rename_i hfield
    rewrite [hfield]
    rfl
  · rename_i hfield
    rewrite [hfield]
    rfl

/-- Reading fields differs only where the source fails. -/
theorem fields_mirrors : Mirrors fields := by
  intro s
  -- The recursion of the parser, one field at a time.
  fun_induction readFields s with
  | case1 s f s' hfield fs s'' hrest ih =>
    change fields s' = _ at hrest
    obtain ⟨hquiet, hfault⟩ := (mirrorsAt_of_ok hfield).mp (field?_mirrors s)
    obtain ⟨hquiet', hfault'⟩ := (mirrorsAt_of_ok hrest).mp ih
    have hrun : fields s = .ok (f :: fs) s'' := by
      rw [fields_eq, hfield]
      simp only [hrest]
    rw [mirrorsAt_of_ok hrun]
    refine ⟨?_, hfault'.trans hfault⟩
    rw [fields_eq, hquiet]
    simp only [hquiet']
  | case2 s f s' hfield fault s'' hrest ih =>
    change fields s' = _ at hrest
    obtain ⟨-, hfault⟩ := (mirrorsAt_of_ok hfield).mp (field?_mirrors s)
    have hrun : fields s = .error fault s'' := by
      rw [fields_eq, hfield]
      simp only [hrest]
    rw [mirrorsAt_of_error hrun, ← hfault, ← mirrorsAt_of_error hrest]
    exact ih
  | case3 s s' hfield =>
    obtain ⟨hquiet, hfault⟩ := (mirrorsAt_of_ok hfield).mp (field?_mirrors s)
    have hrun : fields s = .ok [] s' := by rw [fields_eq, hfield]
    rw [mirrorsAt_of_ok hrun]
    exact ⟨by rw [fields_eq, hquiet], hfault⟩
  | case4 s fault s' hfield =>
    have hrun : fields s = .error fault s' := by rw [fields_eq, hfield]
    rw [mirrorsAt_of_error hrun, ← mirrorsAt_of_error hfield]
    exact field?_mirrors s

/-! ## Constructs -/

/-- A part of a construct after another; a part that is missing ends the construct. -/
theorem Mirrors.parseBind {m : Parsing α} {k : α → Parsing β} (hm : Mirrors m.run)
    (hk : ∀ a, Mirrors (k a).run) : Mirrors (m >>= k).run := by
  refine hm.bind fun result => ?_
  cases result with
  | ok a => exact hk a
  | error e => exact Mirrors.pure (Except.error e)

theorem Mirrors.lift {m : Reading α} (hm : Mirrors m) : Mirrors (m : Parsing α).run :=
  hm.bind fun a => Mirrors.pure (Except.ok a)

/-- So is each token that is expected. -/
theorem expect_mirrors (what : Expectation) : Mirrors (expect what).run := by
  intro s
  have hnext := next_mirrors s
  simp only [MirrorsAt, ExceptT.run, expect] at hnext ⊢
  cases hrun : next s with
  | error fault s' => simpa only [hrun] using hnext
  | ok found s' =>
    simp only [hrun] at hnext
    cases found with
    | none => exact ⟨by simp only [hnext.1]; rfl, hnext.2⟩
    | some t => by_cases hkind : t.kind = what.kind <;> simpa [hkind, hnext.1] using hnext.2

theorem tag_mirrors : Mirrors tag :=
  .next_bind (Mirrors.pure ()) fun t => (Mirrors.pure ()).ite (unread_mirrors [t])

/-- A construct is read alike over both sources, or it meets the failure. -/
theorem parse_mirrors (construct : Construct) : Mirrors construct.parse.run := by
  cases construct with
  | struct =>
    exact (expect_mirrors _).parseBind fun _ => (expect_mirrors _).parseBind fun _ =>
      fields_mirrors.lift.parseBind fun _ => (expect_mirrors _).parseBind fun _ =>
      (expect_mirrors _).parseBind fun _ => Mirrors.pure (Except.ok _)
  | typedef =>
    exact (expect_mirrors _).parseBind fun _ => tag_mirrors.lift.parseBind fun _ =>
      (expect_mirrors _).parseBind fun _ => fields_mirrors.lift.parseBind fun _ =>
      (expect_mirrors _).parseBind fun _ => (expect_mirrors _).parseBind fun _ =>
      (expect_mirrors _).parseBind fun _ => Mirrors.pure (Except.ok _)

/-! ## What is read from a stream that may fail -/

/--
What a computation gives, over whatever source, is what its function gives on the tokens that
are left.
-/
theorem TokenStream.Follows.eq_of_mirrors {m : Reading α} {f : Nat → List Token → α × List Token}
    (hfollows : Follows m f) (hmirrors : Mirrors m) {s s' : TokenStream} {a : α}
    (hrun : m s = .ok a s') :
    f s.lastLine s.remaining = (a, s'.remaining) ∧ s'.lastLine = s.lastLine ∧
      s'.source.fault? = s.source.fault? := by
  obtain ⟨hquiet, hfault⟩ := (mirrorsAt_of_ok hrun).mp (hmirrors s)
  obtain ⟨hlist, hleaves⟩ := hfollows.eq_of_ok s.calm_quieted hquiet
  exact ⟨hlist, hleaves.lastLine, hfault⟩

end StructScan
