import StructScan.Proofs.Grammar.Listed

/-!
# Parsers follow the list

The parsers of the grammar read a stream token by token and give tokens back when
a field does not complete.  Seen from outside, each does to the list of tokens still
to come what the function of the same name does.

Main results:

- Theorem `field?_follows`: a field is taken off the list, or the list stays as it
  was.
- Theorem `parse_parsesAs`: a construct is taken off the list, or it is given up at
  the token where the list departs from it.
-/

namespace StructScan

open TokenStream

/-! ## Fields -/

/--
What an attempt at a field does to the list: the field is taken off, or the tokens
read before the attempt go back in front.
-/
def Listed.settle (read ts : List Token) : Option (Field × List Token) → Option Field × List Token
  | some (f, rest) => (some f, rest)
  | none => (none, read ++ ts)

/-- Tokens read before an attempt count as part of the list. -/
theorem Listed.settle_eq (read ts : List Token) (found : Option (Field × List Token)) :
    settle read ts found = settle [] (read ++ ts) found := by
  cases found with
  | none => rfl
  | some _ => rfl

theorem abandon_follows (tokens : List Token) :
    Follows (abandon tokens) fun _ ts => (none, tokens ++ ts) :=
  (unread_follows tokens).bind fun _ => Follows.pure none

/-- The semicolon of a field is taken off the list, or all that was read goes back. -/
theorem fieldEnd_follows (read : List Token) (name : Token) (typename : String)
    (hname : name.kind = .identifier) :
    Follows (fieldEnd (read ++ [name]) ⟨typename, name.text⟩) fun _ ts =>
      Listed.settle read (name :: ts) (Listed.fieldName? typename (name :: ts)) := by
  refine (Follows.next_bind (abandon_follows _) fun t =>
    (Follows.pure _).ite (abandon_follows _)).congr fun last ts => ?_
  cases ts with
  | nil => simp [Listed.fieldName?, Listed.settle]
  | cons t ts =>
    by_cases hkind : t.kind = .semicolon
    · simp [Listed.fieldName?, Listed.settle, hname, hkind]
    · simp [Listed.fieldName?, Listed.settle, hname, hkind]

/-- The name of a field is taken off the list, or all that was read goes back. -/
theorem fieldName_follows (read : List Token) (typename : String) (name : Token) :
    Follows (fieldName read typename (some name)) fun _ ts =>
      Listed.settle read (name :: ts) (Listed.fieldName? typename (name :: ts)) := by
  by_cases hname : name.kind = .identifier
  · simpa [fieldName, hname] using fieldEnd_follows read name typename hname
  · have hnone (ts : List Token) : Listed.fieldName? typename (name :: ts) = none := by
      cases ts <;> simp [Listed.fieldName?, hname]
    simpa [fieldName, hname, hnone, Listed.settle] using abandon_follows (read ++ [name])

/-- A field is taken off the list, or the list stays as it was. -/
theorem field?_follows : Follows field? fun _ ts => Listed.settle [] ts (Listed.field? ts) := by
  -- The attempt reads a type, then a star or a name, and after a star the name.
  refine Follows.congr (Follows.next_bind (Follows.pure none) fun type =>
    .ite (Follows.next_bind (abandon_follows [type]) fun name =>
      .ite (Follows.next_bind (abandon_follows [type, name]) fun name' =>
        fieldName_follows [type, name] (type.text ++ "*") name')
        (fieldName_follows [type] type.text name))
      (abandon_follows [type])) fun last ts => ?_
  rcases ts with _ | ⟨type, _ | ⟨name, _ | ⟨name', ts⟩⟩⟩
  · simp [Listed.settle, Listed.field?]
  · simp [Listed.settle, Listed.field?]
  · by_cases htype : type.kind.isType <;> by_cases hstar : name.kind = .star <;>
      simp [Listed.settle, Listed.field?, Listed.fieldName?, htype, hstar]
  · dsimp only
    rw [Listed.settle_eq [type, name], Listed.settle_eq [type]]
    by_cases htype : type.kind.isType
    · by_cases hstar : name.kind = .star <;> simp [Listed.field?, htype, hstar]
    · simp [Listed.settle, Listed.field?, htype]

/-- Reading fields takes all that come next off the list. -/
theorem readFields_of_calm (s : TokenStream) (hcalm : s.Calm) :
    ∃ s', readFields s = .ok (Listed.fields s.remaining).1 s' ∧
      Leaves s s' (Listed.fields s.remaining).2 := by
  -- The recursion of the parser; each field leaves a calm stream with the rest of the list.
  fun_induction readFields s with
  | case1 s f s' hfield fs s'' hrest ih =>
    obtain ⟨hsettle, hleaves⟩ := field?_follows.eq_of_ok hcalm hfield
    have hlist : Listed.field? s.remaining = some (f, s'.remaining) := by
      cases hfound : Listed.field? s.remaining with
      | none => simp [hfound, Listed.settle] at hsettle
      | some found => simpa [hfound, Listed.settle, Prod.ext_iff] using hsettle
    obtain ⟨s₁, hrun, hleaves'⟩ := ih hleaves.calm
    rw [hrest, EStateM.Result.ok.injEq] at hrun
    obtain ⟨rfl, rfl⟩ := hrun
    rw [Listed.fields_of_some hlist]
    exact ⟨s'', rfl, hleaves.trans hleaves'⟩
  | case2 s f s' hfield fault s'' hrest ih =>
    obtain ⟨-, hleaves⟩ := field?_follows.eq_of_ok hcalm hfield
    obtain ⟨s₁, hrun, -⟩ := ih hleaves.calm
    rw [hrest] at hrun
    contradiction
  | case3 s s' hfield =>
    obtain ⟨hsettle, hleaves⟩ := field?_follows.eq_of_ok hcalm hfield
    cases hlist : Listed.field? s.remaining with
    | none =>
      have hsame : s'.remaining = s.remaining := by
        simpa [hlist, Listed.settle] using hsettle.symm
      rw [Listed.fields_of_none hlist]
      exact ⟨s', rfl, hsame ▸ hleaves⟩
    | some found => simp [hlist, Listed.settle] at hsettle
  | case4 s fault s' hfield => exact absurd hfield (field?_follows.ne_error hcalm)

theorem fields_follows : Follows fields fun _ ts => Listed.fields ts :=
  readFields_of_calm

/-! ## Constructs -/

/-- A parser that does to the tokens left what a function does to a list. -/
def ParsesAs (m : Parsing α) (f : Nat → List Token → Listed.Result α) : Prop :=
  Follows m.run f

theorem ParsesAs.pure (a : α) : ParsesAs (Pure.pure a : Parsing α) fun _ ts => (.ok a, ts) := by
  exact Follows.pure (Except.ok a)

/-- A parser after another stops where the first one stops. -/
theorem ParsesAs.bind {m : Parsing α} {k : α → Parsing β}
    {f : Nat → List Token → Listed.Result α} {g : α → Nat → List Token → Listed.Result β}
    (hm : ParsesAs m f) (hk : ∀ a, ParsesAs (k a) (g a)) :
    ParsesAs (m >>= k) fun last ts => Listed.andThen (f last ts) fun a ts => g a last ts := by
  have hrest (r : Except Malformed α) : Follows (ExceptT.bindCont k r) fun last ts =>
      Listed.andThen (r, ts) fun a ts => g a last ts := by
    cases r with
    | ok a => exact hk a
    | error e => exact Follows.pure (Except.error e)
  exact Follows.bind hm hrest

/-- Reading without expectations never stops a parser. -/
theorem ParsesAs.lift {m : Reading α} {f : Nat → List Token → α × List Token}
    (hm : Follows m f) :
    ParsesAs (m : Parsing α) fun last ts => (.ok (f last ts).1, (f last ts).2) := by
  exact Follows.bind hm fun a => Follows.pure (Except.ok a)

/-- The expected token is taken off the list, or the token that stands there instead. -/
theorem expect_parsesAs (what : Expectation) : ParsesAs (expect what) (Listed.expect what) := by
  intro s hcalm
  cases hts : s.remaining with
  | nil =>
    obtain ⟨s', hnext, hleaves, hline⟩ := next_of_remaining_nil hcalm hts
    refine ⟨s', ?_, hleaves⟩
    simp [ExceptT.run, expect, hnext, hline, Listed.expect]
  | cons t ts =>
    obtain ⟨s', hnext, hleaves⟩ := next_of_remaining_cons hcalm hts
    by_cases hkind : t.kind = what.kind
    · refine ⟨s', by simp [ExceptT.run, expect, hnext, hkind, Listed.expect], ?_⟩
      simpa [Listed.expect, hkind] using hleaves
    · refine ⟨s', by simp [ExceptT.run, expect, hnext, hkind, Listed.expect], ?_⟩
      simpa [Listed.expect, hkind] using hleaves

/-- The tag of a typedef is taken off the list if there is one. -/
theorem tag_follows : Follows tag fun _ ts => ((), Listed.dropTag ts) := by
  refine Follows.congr (Follows.next_bind (Follows.pure ()) fun t =>
    .ite (Follows.pure ()) (unread_follows [t])) fun last ts => ?_
  cases ts with
  | nil => rfl
  | cons t ts => by_cases hkind : t.kind = .identifier <;> simp [Listed.dropTag, hkind]

/-- A construct is taken off the list, or given up at the token where the list departs from it. -/
theorem parse_parsesAs (construct : Construct) :
    ParsesAs construct.parse (Listed.parse construct) := by
  cases construct with
  | struct =>
    refine Follows.congr ((expect_parsesAs .structName).bind fun name =>
      (expect_parsesAs .openBrace).bind fun _ => (ParsesAs.lift fields_follows).bind fun fs =>
      (expect_parsesAs .closeBraceOrField).bind fun _ =>
      (expect_parsesAs .semicolonAfterStruct).bind fun _ => ParsesAs.pure (Layout.mk name.text fs))
      fun last ts => ?_
    simp only [Listed.parse, Listed.plainStruct, Listed.body, Listed.andThen_assoc,
      Listed.andThen_ok]
  | typedef =>
    refine Follows.congr ((expect_parsesAs .structAfterTypedef).bind fun _ =>
      (ParsesAs.lift tag_follows).bind fun _ =>
      (expect_parsesAs .openBrace).bind fun _ => (ParsesAs.lift fields_follows).bind fun fs =>
      (expect_parsesAs .closeBraceOrField).bind fun _ =>
      (expect_parsesAs .typedefName).bind fun name =>
      (expect_parsesAs .semicolonAfterTypedef).bind fun _ => ParsesAs.pure (Layout.mk name.text fs))
      fun last ts => ?_
    simp only [Listed.parse, Listed.typedefStruct, Listed.body, Listed.andThen_assoc,
      Listed.andThen_ok]

end StructScan
