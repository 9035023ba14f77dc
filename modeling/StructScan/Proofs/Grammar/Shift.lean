import StructScan.Proofs.Grammar.Language
import StructScan.Proofs.Token.Listing

/-!
# Constructs further down

The grammar looks at the kinds and the texts of tokens, never at their lines.  Moving
tokens to other lines leaves a construct what it is, and moves the place where it is
given up along with it.

Main results:

- Theorem `Spells.shift`: a complete construct stays complete, with the same layout.
- Theorem `GivesUp.shift`: a construct is given up at the same token, which is
  further down.
-/

namespace StructScan

/-! ## Fields and bodies -/

/-- A field that is spelled out declares the same further down. -/
theorem Declares.shift {f : Field} {ts : List Token} (h : Declares f ts) (n : Int) :
    Declares f (ts.map (Token.shift n)) := by
  cases h with
  | @value type name semicolon htype hname hsemicolon =>
    exact @Declares.value (type.shift n) (name.shift n) (semicolon.shift n) htype hname hsemicolon
  | @pointer type star name semicolon htype hstar hname hsemicolon =>
    exact @Declares.pointer (type.shift n) (star.shift n) (name.shift n) (semicolon.shift n) htype
      hstar hname hsemicolon

/-- So do the fields of a body, one after another. -/
theorem DeclaresAll.shift {fs : List Field} {ts : List Token} (h : DeclaresAll fs ts) (n : Int) :
    DeclaresAll fs (ts.map (Token.shift n)) := by
  induction h with
  | nil => exact .nil
  | cons hfield _ ih =>
    rw [List.map_append]
    exact .cons (hfield.shift n) ih

theorem OpenBody.shift {fs : List Field} {ts : List Token} (h : OpenBody fs ts) (n : Int) :
    OpenBody fs (ts.map (Token.shift n)) := by
  obtain ⟨hbrace, hfields⟩ := h
  exact .mk hbrace (hfields.shift n)

/-- A body in braces stays one, with the same fields. -/
theorem Body.shift {fs : List Field} {ts : List Token} (h : Body fs ts) (n : Int) :
    Body fs (ts.map (Token.shift n)) := by
  obtain ⟨hopened, hbrace⟩ := h
  rw [List.map_append]
  exact .mk (hopened.shift n) hbrace

theorem Tag.shift {ts : List Token} (h : Tag ts) (n : Int) : Tag (ts.map (Token.shift n)) := by
  cases h with
  | absent => exact .absent
  | present hname => exact .present hname

/-! ## Constructs -/

/-- A complete construct stays complete, with the same layout. -/
theorem Spells.shift {construct : Construct} {layout : Layout} {ts : List Token}
    (h : Spells construct layout ts) (n : Int) :
    Spells construct layout (ts.map (Token.shift n)) := by
  cases h with
  | @struct name semicolon fields body hname hbody hsemicolon =>
    rw [List.map_append, List.map_cons]
    exact @Spells.struct (name.shift n) (semicolon.shift n) _ _ hname (hbody.shift n) hsemicolon
  | @typedef struct name semicolon tag body fields hstruct htag hbody hname hsemicolon =>
    rw [List.map_append, List.map_append, List.map_cons]
    exact @Spells.typedef (struct.shift n) (name.shift n) (semicolon.shift n) _ _ _ hstruct
      (htag.shift n) (hbody.shift n) hname hsemicolon

/-- The begun part of a construct still needs the same. -/
theorem Begins.shift {construct : Construct} {what : Expectation} {ts : List Token}
    (h : Begins construct what ts) (n : Int) : Begins construct what (ts.map (Token.shift n)) := by
  cases h with
  | structName => exact .structName
  | structOpen hname => exact .structOpen hname
  | structClose hname hopened => exact .structClose hname (hopened.shift n)
  | structEnd hname hbody => exact .structEnd hname (hbody.shift n)
  | typedefStruct => exact .typedefStruct
  | typedefOpen hstruct htag => exact .typedefOpen hstruct (htag.shift n)
  | typedefClose hstruct htag hopened =>
    rw [List.map_append, List.map_cons]
    exact .typedefClose hstruct (htag.shift n) (hopened.shift n)
  | typedefName hstruct htag hbody =>
    rw [List.map_append, List.map_cons]
    exact .typedefName hstruct (htag.shift n) (hbody.shift n)
  | typedefEnd hstruct htag hbody hname =>
    rw [List.map_append, List.map_append, List.map_cons]
    exact .typedefEnd hstruct (htag.shift n) (hbody.shift n) hname

/-- What may come next may do so further down. -/
theorem MayFollow.shift {construct : Construct} {what : Expectation} {begun part : List Token}
    (h : MayFollow construct what begun part) (n : Int) :
    MayFollow construct what (begun.map (Token.shift n)) (part.map (Token.shift n)) := by
  cases h with
  | field hfield => exact .field (hfield.shift n)
  | tag hname => exact .tag hname

/-- The failure a number of lines further down. -/
def Malformed.shift (n : Int) (e : Malformed) : Malformed :=
  { e with found := e.found.map (Token.shift n), line := e.line + n }

/-- The reason of a failure does not say where it is. -/
@[simp]
theorem Malformed.reason_shift (n : Int) (e : Malformed) : (e.shift n).reason = e.reason := by
  obtain ⟨expected, found, line⟩ := e
  cases found with
  | none => rfl
  | some t => rfl

/--
A token that is refused is refused further down as well, and the end of the text stays the end.
-/
theorem Refuses.shift {last : Nat} {e : Malformed} {left rest : List Token}
    (h : Refuses last e left rest) (n : Nat) :
    Refuses (last + n) (e.shift n) (left.map (Token.shift n)) (rest.map (Token.shift n)) := by
  obtain ⟨expected, found, line⟩ := e
  obtain ⟨htokens, hrefused, hatEnd, hline⟩ := h
  cases found with
  | none =>
    refine ⟨?_, by simp [Malformed.shift], ?_, ?_⟩
    · simp [htokens, Malformed.shift]
    · simp [hatEnd rfl]
    · simp only [Option.map_none, Option.getD_none] at hline
      simp [Malformed.shift, hline]
  | some t =>
    refine ⟨?_, ?_, by simp [Malformed.shift], ?_⟩
    · simp [htokens, Malformed.shift]
    · intro u hu
      cases hu
      exact hrefused t rfl
    · simp only [Option.map_some, Option.getD_some] at hline
      simp [Malformed.shift, hline]

/-- A construct is given up at the same token, which is further down. -/
theorem GivesUp.shift {construct : Construct} {last : Nat} {matched left rest : List Token}
    {e : Malformed} (h : GivesUp construct last matched left e rest) (n : Nat) :
    GivesUp construct (last + n) (matched.map (Token.shift n)) (left.map (Token.shift n))
      (e.shift n) (rest.map (Token.shift n)) where
  begins := h.begins.shift n
  longest part later hpart heq := by
    -- What could come next further down could, moved back, have come next before.
    have hpart' := hpart.shift (-n)
    rw [Token.map_shift_neg] at hpart'
    refine h.longest _ (later.map (Token.shift (-n))) hpart' ?_
    rw [← List.map_append, ← heq, Token.map_shift_neg]
  refuses := h.refuses.shift n

end StructScan
