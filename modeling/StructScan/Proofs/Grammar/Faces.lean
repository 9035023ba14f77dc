import StructScan.Proofs.Grammar.Listed
import StructScan.Proofs.Token.Faces

/-!
# Constructs are read by faces

The grammar looks at the kinds and the texts of tokens, and at nothing else.  Two lists
of tokens with the same faces are read alike: where one reads a field or a construct the
other reads the same, and what is left has the same faces again.

Main results:

- Theorem `Listed.field?_of_faces`: a field is read from any tokens that look alike.
- Theorem `Listed.Alike.andThen`: parts that are read alike are read alike one after the
  other.
- Theorem `Listed.parse_alike`: a construct is read alike, or given up alike.
- Theorems `Spells.of_faces` and `GivesUp.of_faces`: tokens that look like a construct are
  one, and tokens that look like one that is given up are given up.
-/

namespace StructScan

open Token (face)

/-- Two lists of tokens with the same faces. -/
def SameFaces (ts us : List Token) : Prop :=
  ts.map face = us.map face

namespace SameFaces

theorem symm {ts us : List Token} (h : SameFaces ts us) : SameFaces us ts :=
  Eq.symm h

theorem kind_eq {t u : Token} (h : t.face = u.face) : t.kind = u.kind :=
  congrArg Prod.fst h

theorem text_eq {t u : Token} (h : t.face = u.face) : t.text = u.text :=
  congrArg Prod.snd h

/-- What looks like a list with a head has a head that looks alike. -/
theorem exists_cons {t : Token} {ts us : List Token} (h : SameFaces (t :: ts) us) :
    ∃ u rest, us = u :: rest ∧ t.face = u.face ∧ SameFaces ts rest := by
  obtain ⟨u, rest, rfl, hface, hrest⟩ := List.map_eq_cons_iff.mp (Eq.symm h)
  exact ⟨u, rest, rfl, hface.symm, Eq.symm hrest⟩

/-- What looks like two lists put together falls into two lists that look alike. -/
theorem exists_append {ts ts' us : List Token} (h : SameFaces (ts ++ ts') us) :
    ∃ vs vs', us = vs ++ vs' ∧ SameFaces ts vs ∧ SameFaces ts' vs' := by
  rw [SameFaces, List.map_append] at h
  obtain ⟨vs, vs', rfl, hvs, hvs'⟩ := List.map_eq_append_iff.mp (Eq.symm h)
  exact ⟨vs, vs', rfl, Eq.symm hvs, Eq.symm hvs'⟩

theorem eq_nil {us : List Token} (h : SameFaces [] us) : us = [] :=
  List.map_eq_nil_iff.mp (Eq.symm h)

end SameFaces

open SameFaces

/-- Tokens that look like a field are that field. -/
theorem Declares.of_faces {f : Field} {ts us : List Token} (h : Declares f ts)
    (hfaces : SameFaces ts us) : Declares f us := by
  cases h with
  | value htype hname hsemicolon =>
    obtain ⟨type, _, rfl, ht, hfaces⟩ := hfaces.exists_cons
    obtain ⟨name, _, rfl, hn, hfaces⟩ := hfaces.exists_cons
    obtain ⟨semicolon, _, rfl, hs, hfaces⟩ := hfaces.exists_cons
    rw [hfaces.eq_nil, text_eq ht, text_eq hn]
    exact .value (kind_eq ht ▸ htype) (kind_eq hn ▸ hname) (kind_eq hs ▸ hsemicolon)
  | pointer htype hstar hname hsemicolon =>
    obtain ⟨type, _, rfl, ht, hfaces⟩ := hfaces.exists_cons
    obtain ⟨star, _, rfl, hp, hfaces⟩ := hfaces.exists_cons
    obtain ⟨name, _, rfl, hn, hfaces⟩ := hfaces.exists_cons
    obtain ⟨semicolon, _, rfl, hs, hfaces⟩ := hfaces.exists_cons
    rw [hfaces.eq_nil, text_eq ht, text_eq hn]
    exact .pointer (kind_eq ht ▸ htype) (kind_eq hp ▸ hstar) (kind_eq hn ▸ hname)
      (kind_eq hs ▸ hsemicolon)

namespace Listed

/-! ## Fields -/

/-- A field is read from any tokens that look alike. -/
theorem field?_of_faces {ts us rest : List Token} {f : Field} (hfaces : SameFaces ts us)
    (h : field? ts = some (f, rest)) :
    ∃ rest', field? us = some (f, rest') ∧ SameFaces rest rest' := by
  obtain ⟨declaration, rfl, hdeclares⟩ := field?_eq_some_iff.mp h
  obtain ⟨declaration', rest', rfl, hsame, hrest⟩ := hfaces.exists_append
  exact ⟨rest', field?_eq_some_iff.mpr ⟨declaration', rfl, hdeclares.of_faces hsame⟩, hrest⟩

/-- The same fields are read from tokens that look alike, and what is left looks alike. -/
theorem fields_of_faces {ts us : List Token} (hfaces : SameFaces ts us) :
    (fields ts).1 = (fields us).1 ∧ SameFaces (fields ts).2 (fields us).2 := by
  fun_induction fields ts generalizing us with
  | case1 ts f rest h ih =>
    obtain ⟨rest', h', hrest⟩ := field?_of_faces hfaces h
    obtain ⟨hfields, hleft⟩ := ih hrest
    rw [fields_of_some h']
    exact ⟨by rw [hfields], hleft⟩
  | case2 ts h =>
    have h' : field? us = none := by
      cases hfield : field? us with
      | none => rfl
      | some found =>
        obtain ⟨rest', hsome, -⟩ := field?_of_faces hfaces.symm hfield
        rw [h] at hsome
        contradiction
    rw [fields_of_none h']
    exact ⟨rfl, hfaces⟩

/-- A tag is taken off tokens that look alike, or off neither. -/
theorem dropTag_of_faces {ts us : List Token} (hfaces : SameFaces ts us) :
    SameFaces (dropTag ts) (dropTag us) := by
  cases ts with
  | nil =>
    rw [hfaces.eq_nil]
    rfl
  | cons t ts =>
    obtain ⟨u, us, rfl, hface, hrest⟩ := hfaces.exists_cons
    by_cases hkind : t.kind = .identifier
    · simpa [dropTag, hkind, ← kind_eq hface] using hrest
    · simpa [dropTag, hkind, ← kind_eq hface] using hfaces

/-! ## Constructs -/

/-- Two results that are alike: related values, or two failures, with the same faces left. -/
inductive Alike (rel : α → β → Prop) : Result α → Result β → Prop where
  | ok {a : α} {b : β} {rest rest' : List Token} (hvalue : rel a b)
      (hrest : SameFaces rest rest') : Alike rel (.ok a, rest) (.ok b, rest')
  | error {e e' : Malformed} {rest rest' : List Token} (hrest : SameFaces rest rest') :
      Alike rel (.error e, rest) (.error e', rest')

/-- Parts that are read alike are read alike one after the other. -/
theorem Alike.andThen {rel : α → β → Prop} {rel' : γ → δ → Prop} {r : Result α} {r' : Result β}
    {next : α → List Token → Result γ} {next' : β → List Token → Result δ} (h : Alike rel r r')
    (hnext : ∀ a b ts us, rel a b → SameFaces ts us → Alike rel' (next a ts) (next' b us)) :
    Alike rel' (Listed.andThen r next) (Listed.andThen r' next') := by
  cases h with
  | ok hvalue hrest => exact hnext _ _ _ _ hvalue hrest
  | error hrest => exact .error hrest

theorem expect_alike (what : Expectation) (last last' : Nat) {ts us : List Token}
    (hfaces : SameFaces ts us) :
    Alike (fun t u => t.face = u.face) (expect what last ts) (expect what last' us) := by
  cases ts with
  | nil =>
    rw [hfaces.eq_nil]
    exact .error rfl
  | cons t ts =>
    obtain ⟨u, us, rfl, hface, hrest⟩ := hfaces.exists_cons
    by_cases hkind : t.kind = what.kind
    · have hkind' : u.kind = what.kind := kind_eq hface ▸ hkind
      rw [expect, expect, if_pos hkind, if_pos hkind']
      exact .ok hface hrest
    · have hkind' : u.kind ≠ what.kind := kind_eq hface ▸ hkind
      rw [expect, expect, if_neg hkind, if_neg hkind']
      exact .error hrest

/-- A body is read the same from tokens with the same faces. -/
theorem body_alike (last last' : Nat) {ts us : List Token} (hfaces : SameFaces ts us) :
    Alike Eq (body last ts) (body last' us) := by
  refine (expect_alike .openBrace last last' hfaces).andThen fun _ _ ts us _ hfaces => ?_
  obtain ⟨hfields, hleft⟩ := fields_of_faces hfaces
  refine (expect_alike .closeBraceOrField last last' hleft).andThen fun _ _ ts us _ hfaces => ?_
  exact .ok hfields hfaces

/-- A construct is read alike from tokens that look alike, or given up alike. -/
theorem parse_alike (construct : Construct) (last last' : Nat) {ts us : List Token}
    (hfaces : SameFaces ts us) :
    Alike Eq (parse construct last ts) (parse construct last' us) := by
  cases construct with
  | struct =>
    refine (expect_alike .structName last last' hfaces).andThen
      fun name name' ts us hname hfaces => ?_
    refine (body_alike last last' hfaces).andThen fun fs fs' ts us hfields hfaces => ?_
    refine (expect_alike .semicolonAfterStruct last last' hfaces).andThen
      fun _ _ ts us _ hfaces => ?_
    exact .ok (by rw [text_eq hname, hfields]) hfaces
  | typedef =>
    refine (expect_alike .structAfterTypedef last last' hfaces).andThen fun _ _ ts us _ hfaces => ?_
    refine (body_alike last last' (dropTag_of_faces hfaces)).andThen
      fun fs fs' ts us hfields hfaces => ?_
    refine (expect_alike .typedefName last last' hfaces).andThen
      fun name name' ts us hname hfaces => ?_
    refine (expect_alike .semicolonAfterTypedef last last' hfaces).andThen
      fun _ _ ts us _ hfaces => ?_
    exact .ok (by rw [text_eq hname, hfields]) hfaces

end Listed

/-- Tokens that look like a construct at the head of others start with that construct. -/
theorem Spells.of_faces {construct : Construct} {layout : Layout} {ts rest us : List Token}
    (h : Spells construct layout ts) (hfaces : SameFaces (ts ++ rest) us) :
    ∃ ts' rest', us = ts' ++ rest' ∧ Spells construct layout ts' ∧ SameFaces rest rest' := by
  have halike := Listed.parse_alike construct 0 0 hfaces
  rw [h.parse] at halike
  generalize hparse : Listed.parse construct 0 us = result at halike
  cases halike with
  | ok hvalue hrest =>
    obtain ⟨ts', rfl, hspells⟩ := Listed.parse_ok_iff.mp hparse
    exact ⟨ts', _, rfl, hvalue ▸ hspells, hrest⟩

/-- Tokens that look like a construct that is given up are given up as well, at a token alike. -/
theorem GivesUp.of_faces {construct : Construct} {last : Nat} {matched left rest us : List Token}
    {e : Malformed} (h : GivesUp construct last matched left e rest) (last' : Nat)
    (hfaces : SameFaces (matched ++ left) us) :
    ∃ matched' left' e' rest', us = matched' ++ left' ∧
      GivesUp construct last' matched' left' e' rest' ∧ SameFaces rest rest' := by
  have halike := Listed.parse_alike construct last last' hfaces
  rw [h.parse] at halike
  generalize hparse : Listed.parse construct last' us = result at halike
  cases halike with
  | error hrest =>
    obtain ⟨matched', left', rfl, hgivesUp⟩ := Listed.parse_error_iff.mp hparse
    exact ⟨matched', left', _, _, rfl, hgivesUp, hrest⟩

end StructScan
