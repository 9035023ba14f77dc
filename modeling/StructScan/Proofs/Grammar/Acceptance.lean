import StructScan.Proofs.Grammar.Following

/-!
# What parsers accept, and where they stop

A parser of the grammar is judged by the list of tokens that reading to the end would give, before
it runs and after.  A field is taken off that list whole or not at all.  A construct is taken off
whole, or its parser stops one token behind the longest part of it that stands there: behind
whole fields, behind the tag if there is one, and behind the token that cannot come next.

Main results:

- Theorem `GivesUp.longestPart`: what was matched of a construct that is given up is all of it
  that is there.
- Theorem `LongestPart.unique`: there is one such part.
- Theorem `parse_locates`: a failure names the line of the token that was found, or the line on
  which the stream stands.
- Theorem `field?_takesWhole`: a field is taken off the list exactly if the list starts with one,
  and otherwise the list stays as it is.
- Theorem `Construct.parse_judges`: a construct is taken off the list exactly if the list starts
  with one, and otherwise its longest part and one more token are.
-/

namespace StructScan

open TokenStream

/-! ## The longest part of a construct -/

/-- The longest part of a construct, after its keyword, that stands at the head of a list. -/
structure LongestPart (construct : Construct) (what : Expectation) (part ts : List Token) :
    Prop where
  begins : Begins construct what part
  isPrefix : part <+: ts
  longest : ∀ what' begun, Begins construct what' begun → begun <+: ts → begun <+: part

/-- There is one longest part. -/
theorem LongestPart.unique {construct : Construct} {what what' : Expectation}
    {part part' ts : List Token} (h : LongestPart construct what part ts)
    (h' : LongestPart construct what' part' ts) : part = part' := by
  have hle := h'.longest what part h.begins h.isPrefix
  have hge := h.longest what' part' h'.begins h'.isPrefix
  exact hle.eq_of_length_le hge.length_le

/-- What may come next is not empty. -/
theorem MayFollow.ne_nil {construct : Construct} {what : Expectation} {begun part : List Token}
    (h : MayFollow construct what begun part) : part ≠ [] := by
  cases h with
  | field hfield => cases hfield <;> simp
  | tag hname => simp

/-- Where the input ends within a construct, the construct is given up there. -/
theorem Begins.givesUp {construct : Construct} {what : Expectation} {begun : List Token}
    (h : Begins construct what begun) (last : Nat) :
    GivesUp construct last begun [] ⟨what, none, last⟩ [] where
  begins := h
  longest part later hpart heq := hpart.ne_nil (List.append_eq_nil_iff.mp heq.symm).1
  refuses := ⟨rfl, by simp, by simp, rfl⟩

/-- What is found is the first token left, and all but that token is left after it. -/
theorem Refuses.found_eq {last : Nat} {e : Malformed} {left rest : List Token}
    (h : Refuses last e left rest) : e.found = left.head? ∧ rest = left.tail := by
  cases left with
  | nil =>
    obtain ⟨hfound, hrest⟩ := List.append_eq_nil_iff.mp h.tokens.symm
    exact ⟨by simpa using hfound, hrest⟩
  | cons t left =>
    obtain ⟨hfound, rfl⟩ := h.found_of_cons
    exact ⟨hfound, rfl⟩

/-- A construct that is given up at a token is given up there also if the input ends sooner. -/
theorem GivesUp.of_prefix {construct : Construct} {last : Nat} {t : Token}
    {matched left left' rest : List Token} {e : Malformed}
    (h : GivesUp construct last matched (t :: left) e rest) (hstart : left' <+: left) :
    GivesUp construct last matched (t :: left') e left' := by
  obtain ⟨more, rfl⟩ := hstart
  obtain ⟨hfound, rfl⟩ := h.refuses.found_of_cons
  refine ⟨h.begins, ?_, by simp [hfound], h.refuses.refused, by simp [hfound], h.refuses.line⟩
  intro part later hpart heq
  apply h.longest part (later ++ more) hpart
  rw [← List.append_assoc, ← heq, List.cons_append]

/-- A construct is given up in one way. -/
theorem GivesUp.unique {construct : Construct} {last : Nat}
    {matched matched' left left' rest rest' : List Token} {e e' : Malformed}
    (h : GivesUp construct last matched left e rest)
    (h' : GivesUp construct last matched' left' e' rest')
    (hsame : matched ++ left = matched' ++ left') : e = e' := by
  have hparse := h.parse
  rw [hsame, h'.parse] at hparse
  have herror := congrArg Prod.fst hparse
  exact (Except.error.inj herror).symm

/-- What was matched of a construct that is given up is all of it that is there. -/
theorem GivesUp.longestPart {construct : Construct} {last : Nat} {matched left rest : List Token}
    {e : Malformed} (h : GivesUp construct last matched left e rest) :
    LongestPart construct e.expected matched (matched ++ left) := by
  refine ⟨h.begins, List.prefix_append _ _, ?_⟩
  intro what begun hbegins hbegun
  rcases List.prefix_or_prefix_of_prefix hbegun (List.prefix_append matched left) with hle | hge
  · exact hle
  · obtain ⟨more, rfl⟩ := hge
    rcases more with _ | ⟨t, more⟩
    · simp
    · -- A longer part would be given up at the end of the input, and at the token found before.
      obtain ⟨later, hleft⟩ := (List.prefix_append_right_inj matched).mp hbegun
      subst hleft
      have hfound := h.refuses.found_of_cons.1
      have hearly := h.of_prefix (List.prefix_append more later)
      have hlate := hbegins.givesUp last
      have hsame : e = ⟨what, none, last⟩ := hearly.unique hlate (by simp)
      rw [hsame] at hfound
      contradiction

/-! ## The lines of failures -/

/--
A parser whose failures name the line of the token that was found or, at the end of the input, the
line on which the stream then stands.
-/
def Locates (m : Parsing α) : Prop :=
  ∀ s s' e, m.run s = .ok (.error e) s' →
    e.line = (e.found.map Token.line).getD (s'.line : Int)

namespace Locates

theorem pure (a : α) : Locates (Pure.pure a : Parsing α) := by
  intro s s' e h
  cases h

/-- Parsers after each other stop where one of them does. -/
theorem bind {m : Parsing α} {k : α → Parsing β} (hm : Locates m) (hk : ∀ a, Locates (k a)) :
    Locates (m >>= k) := by
  intro s s' e h
  change EStateM.bind m.run (ExceptT.bindCont k) s = _ at h
  unfold EStateM.bind at h
  cases hfirst : m.run s with
  | error fault s₁ =>
    rw [hfirst] at h
    contradiction
  | ok result s₁ =>
    rw [hfirst] at h
    cases result with
    | ok a => exact hk a s₁ s' e h
    | error e₁ =>
      cases h
      exact hm _ _ _ hfirst

/-- Reading without expectations never fails. -/
theorem lift (m : Reading α) : Locates (m : Parsing α) := by
  intro s s' e h
  change EStateM.bind m (fun a => Pure.pure (Except.ok a)) s = _ at h
  unfold EStateM.bind at h
  cases hrun : m s with
  | error fault s₁ =>
    rw [hrun] at h
    contradiction
  | ok a s₁ =>
    rw [hrun] at h
    cases h

end Locates

theorem expect_locates (what : Expectation) : Locates (expect what) := by
  intro s s' e h
  simp only [ExceptT.run, expect] at h
  split at h
  · split at h
    · cases h
    · cases h
      rfl
  · cases h
    rfl
  · contradiction

/-- A construct that is given up is given up on the line of what was found. -/
theorem parse_locates (construct : Construct) : Locates construct.parse := by
  cases construct with
  | struct =>
    exact (expect_locates _).bind fun _ => (expect_locates _).bind fun _ =>
      (Locates.lift fields).bind fun _ => (expect_locates _).bind fun _ =>
      (expect_locates _).bind fun _ => Locates.pure _
  | typedef =>
    exact (expect_locates _).bind fun _ => (Locates.lift tag).bind fun _ =>
      (expect_locates _).bind fun _ => (Locates.lift fields).bind fun _ =>
      (expect_locates _).bind fun _ => (expect_locates _).bind fun _ =>
      (expect_locates _).bind fun _ => Locates.pure _

/-! ## Fields -/

/-- A parser that follows a function leaves for later what the function leaves. -/
theorem TokenStream.Follows.exists_drain {m : Reading α} {f : Nat → List Token → α × List Token}
    (hm : Follows m f) {s : TokenStream} (hcalm : s.Calm) :
    ∃ s', m s = .ok (f s.lastLine s.drain.items).1 s' ∧
      s'.drain.items = (f s.lastLine s.drain.items).2 := by
  obtain ⟨s', hrun, hleaves⟩ := hm s hcalm
  refine ⟨s', ?_, ?_⟩
  · rw [(drain_of_calm s hcalm).1, hrun]
  · rw [(drain_of_calm s hcalm).1, (drain_of_calm s' hleaves.calm).1, hleaves.remaining]

/--
What an attempt at a field does to the tokens that are left.  It gives a field exactly if they
start with one, which is then gone.  It gives none exactly if they start with none, and then
the same tokens are left in the same order.
-/
structure TakesField (s : TokenStream) : Prop where
  taken : ∀ f later, (∃ s', field? s = .ok (some f) s' ∧ s'.drain.items = later) ↔
    ∃ declaration, Declares f declaration ∧ s.drain.items = declaration ++ later
  refused : (∃ s', field? s = .ok none s' ∧ s'.drain.items = s.drain.items) ↔
    ∀ f declaration, Declares f declaration → ¬ declaration <+: s.drain.items

/-- A field is taken off the tokens that are left, or they stay as they are. -/
theorem field?_takesWhole {s : TokenStream} (hcalm : s.Calm) : TakesField s := by
  obtain ⟨s', hrun, hleft⟩ := field?_follows.exists_drain hcalm
  cases hfield : Listed.field? s.drain.items with
  | none =>
    rw [hfield] at hrun hleft
    have hnone (f : Field) (declaration : List Token) (hdeclares : Declares f declaration) :
        ¬ declaration <+: s.drain.items := by
      rintro ⟨later, heq⟩
      exact Listed.field?_eq_none_iff.mp hfield f declaration later hdeclares heq.symm
    refine ⟨fun f later => ⟨?_, ?_⟩, fun _ => hnone, fun _ => ⟨s', hrun, hleft⟩⟩
    · rintro ⟨s'', hrun', -⟩
      rw [hrun] at hrun'
      cases hrun'
    · rintro ⟨declaration, hdeclares, heq⟩
      exact absurd ⟨later, heq.symm⟩ (hnone f declaration hdeclares)
  | some found =>
    obtain ⟨f, rest⟩ := found
    rw [hfield] at hrun hleft
    obtain ⟨declaration, heq, hdeclares⟩ := Listed.field?_eq_some_iff.mp hfield
    refine ⟨fun g later => ⟨?_, ?_⟩, ?_, ?_⟩
    · rintro ⟨s'', hrun', rfl⟩
      rw [hrun] at hrun'
      cases hrun'
      exact ⟨declaration, hdeclares, hleft ▸ heq⟩
    · rintro ⟨declaration', hdeclares', heq'⟩
      have hsame := Listed.field?_eq_some_iff.mpr ⟨declaration', heq', hdeclares'⟩
      rw [hfield] at hsame
      cases hsame
      exact ⟨s', hrun, hleft⟩
    · rintro ⟨s'', hrun', -⟩
      rw [hrun] at hrun'
      cases hrun'
    · intro hnone
      exact absurd ⟨rest, heq.symm⟩ (hnone f declaration hdeclares)

/-- A field whose type was given back, and whose name stands behind a comment on the next line. -/
theorem field?_takesWhole_comment :
    let s : TokenStream :=
      { source := Source.ofLines ["*/ p;\n"] .unreadable, rest := " * /*".toList, line := 3,
        returned := [⟨.identifier, "size_t", 3⟩] }
    s.Calm ∧ TakesField s := by
  intro s
  have hcalm : s.Calm := rfl
  exact ⟨hcalm, field?_takesWhole hcalm⟩

/-! ## Constructs -/

/--
What the parser of a construct does to the tokens that are left after the keyword.

* It gives a layout exactly if they start with the construct, which is then gone.
* Otherwise it fails.  The longest part of the construct and one more token, if there is one, are
  then gone, and the failure names that token and its line, or the line of the stream.
* In particular, among fields it fails at the first token of what is no field.
-/
structure Construct.Judges (construct : Construct) (s : TokenStream) : Prop where
  accepts : ∀ layout later,
    (∃ s', construct.parse.run s = .ok (.ok layout) s' ∧ s'.drain.items = later) ↔
      ∃ spelled, Spells construct layout spelled ∧ s.drain.items = spelled ++ later
  givesUp : (∀ layout spelled, Spells construct layout spelled → ¬ spelled <+: s.drain.items) →
    ∃ e s' part left, construct.parse.run s = .ok (.error e) s' ∧
      LongestPart construct e.expected part s.drain.items ∧ s.drain.items = part ++ left ∧
      e.found = left.head? ∧ s'.drain.items = left.tail ∧
      e.line = (left.head?.map Token.line).getD (s'.line : Int)
  badField : ∀ part t later, Begins construct .closeBraceOrField part →
    s.drain.items = part ++ t :: later → t.kind ≠ .closeBrace →
    (∀ f declaration, Declares f declaration → ¬ declaration <+: t :: later) →
    ∃ s', construct.parse.run s = .ok (.error ⟨.closeBraceOrField, some t, t.line⟩) s' ∧
      s'.drain.items = later

/-- A token among fields that starts none and closes nothing is where a construct is given up. -/
theorem Begins.givesUp_field {construct : Construct} {part later : List Token} {t : Token}
    (h : Begins construct .closeBraceOrField part) (ht : t.kind ≠ .closeBrace)
    (hnone : ∀ f declaration, Declares f declaration → ¬ declaration <+: t :: later) (last : Nat) :
    GivesUp construct last part (t :: later) ⟨.closeBraceOrField, some t, t.line⟩ later where
  begins := h
  longest := by
    apply Listed.longest_closeBraceOrField.mpr
    apply Listed.field?_eq_none_iff.mpr
    intro f declaration more hdeclares heq
    exact hnone f declaration hdeclares ⟨more, heq.symm⟩
  refuses := by
    refine ⟨rfl, ?_, by simp, rfl⟩
    intro u hu
    cases hu
    exact ht

/-- The parser of a construct accepts its language and stops where that is left. -/
theorem Construct.parse_judges (construct : Construct) {s : TokenStream} (hcalm : s.Calm) :
    construct.Judges s := by
  obtain ⟨s', hrun, hleft⟩ := Follows.exists_drain (parse_parsesAs construct) hcalm
  refine ⟨fun layout later => ⟨?_, ?_⟩, ?_, ?_⟩
  · rintro ⟨s'', hrun', rfl⟩
    rw [hrun, EStateM.Result.ok.injEq] at hrun'
    obtain ⟨hresult, rfl⟩ := hrun'
    obtain ⟨spelled, heq, hspells⟩ := Listed.parse_ok_iff.mp (Prod.ext hresult hleft.symm)
    exact ⟨spelled, hspells, heq⟩
  · rintro ⟨spelled, hspells, heq⟩
    have hparse := hspells.parse s.lastLine later
    rw [heq, hparse] at hrun hleft
    exact ⟨s', hrun, hleft⟩
  · intro hnone
    cases hparse : Listed.parse construct s.lastLine s.drain.items with
    | mk result rest =>
      rw [hparse] at hrun hleft
      cases result with
      | ok layout =>
        obtain ⟨spelled, heq, hspells⟩ := Listed.parse_ok_iff.mp hparse
        exact absurd ⟨rest, heq.symm⟩ (hnone layout spelled hspells)
      | error e =>
        obtain ⟨matched, left, heq, hgivesUp⟩ := Listed.parse_error_iff.mp hparse
        obtain ⟨hfound, hrest⟩ := hgivesUp.refuses.found_eq
        refine ⟨e, s', matched, left, hrun, ?_, heq, hfound, hleft.trans hrest, ?_⟩
        · rw [heq]
          exact hgivesUp.longestPart
        · rw [← hfound]
          exact parse_locates construct s s' e hrun
  · intro part t later hbegins heq ht hfield
    have hparse := (hbegins.givesUp_field ht hfield s.lastLine).parse
    rw [heq, hparse] at hrun hleft
    exact ⟨s', hrun, hleft⟩

/-- A typedef whose second field is an array, with its tag given back and its end missing. -/
theorem Construct.parse_judges_array :
    let s : TokenStream :=
      { source := Source.ofLines ["int y[3];\n"] .undecodable, rest := "\x7b int *x;\n".toList,
        line := 1, returned := [⟨.struct, "struct", 1⟩, ⟨.identifier, "Tag", 1⟩] }
    s.Calm ∧ Construct.typedef.Judges s := by
  intro s
  have hcalm : s.Calm := rfl
  exact ⟨hcalm, Construct.parse_judges .typedef hcalm⟩

end StructScan
