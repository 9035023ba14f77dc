import StructScan.Grammar

/-!
# The language of struct declarations

What the tokens of a field and of the two constructs are, said without a parser.
A construct that was given up is described as well: by the part of it that is
there, and by the one token that cannot come next.

Main results:

- Theorem `DeclaresAll.inField`: no brace and no keyword of a construct stands
  among fields.
-/

namespace StructScan

/-! ## Fields -/

/-- The tokens of one field: a type, an optional star, a name and a semicolon. -/
inductive Declares : Field → List Token → Prop where
  | value {type name semicolon : Token} (htype : type.kind.isType = true)
      (hname : name.kind = .identifier) (hsemicolon : semicolon.kind = .semicolon) :
      Declares ⟨type.text, name.text⟩ [type, name, semicolon]
  | pointer {type star name semicolon : Token} (htype : type.kind.isType = true)
      (hstar : star.kind = .star) (hname : name.kind = .identifier)
      (hsemicolon : semicolon.kind = .semicolon) :
      Declares ⟨type.text ++ "*", name.text⟩ [type, star, name, semicolon]

/-- The tokens of fields in the order of their declaration. -/
inductive DeclaresAll : List Field → List Token → Prop where
  | nil : DeclaresAll [] []
  | cons {field : Field} {fields : List Field} {ts us : List Token}
      (hfield : Declares field ts) (hfields : DeclaresAll fields us) :
      DeclaresAll (field :: fields) (ts ++ us)

/-- An opening brace and the fields after it. -/
inductive OpenBody : List Field → List Token → Prop where
  | mk {fields : List Field} {brace : Token} {declarations : List Token}
      (hbrace : brace.kind = .openBrace) (hfields : DeclaresAll fields declarations) :
      OpenBody fields (brace :: declarations)

/-- Fields between braces. -/
inductive Body : List Field → List Token → Prop where
  | mk {fields : List Field} {opened : List Token} {brace : Token}
      (hopened : OpenBody fields opened) (hbrace : brace.kind = .closeBrace) :
      Body fields (opened ++ [brace])

/-- The optional tag of a typedef. -/
inductive Tag : List Token → Prop where
  | absent : Tag []
  | present {name : Token} (hname : name.kind = .identifier) : Tag [name]

/-! ## Constructs -/

/--
The tokens of a construct after its keyword: `Name { fields } ;` after `struct`,
and `struct [Tag] { fields } Name ;` after `typedef`.
-/
inductive Spells : Construct → Layout → List Token → Prop where
  | struct {name semicolon : Token} {fields : List Field} {body : List Token}
      (hname : name.kind = .identifier) (hbody : Body fields body)
      (hsemicolon : semicolon.kind = .semicolon) :
      Spells .struct ⟨name.text, fields⟩ (name :: body ++ [semicolon])
  | typedef {struct name semicolon : Token} {tag body : List Token} {fields : List Field}
      (hstruct : struct.kind = .struct) (htag : Tag tag) (hbody : Body fields body)
      (hname : name.kind = .identifier) (hsemicolon : semicolon.kind = .semicolon) :
      Spells .typedef ⟨name.text, fields⟩ (struct :: tag ++ body ++ [name, semicolon])

/--
The part of a construct, after its keyword, that comes before the place where
something is needed.
-/
inductive Begins : Construct → Expectation → List Token → Prop where
  | structName : Begins .struct .structName []
  | structOpen {name : Token} (hname : name.kind = .identifier) :
      Begins .struct .openBrace [name]
  | structClose {name : Token} {fields : List Field} {opened : List Token}
      (hname : name.kind = .identifier) (hopened : OpenBody fields opened) :
      Begins .struct .closeBraceOrField (name :: opened)
  | structEnd {name : Token} {fields : List Field} {body : List Token}
      (hname : name.kind = .identifier) (hbody : Body fields body) :
      Begins .struct .semicolonAfterStruct (name :: body)
  | typedefStruct : Begins .typedef .structAfterTypedef []
  | typedefOpen {struct : Token} {tag : List Token} (hstruct : struct.kind = .struct)
      (htag : Tag tag) : Begins .typedef .openBrace (struct :: tag)
  | typedefClose {struct : Token} {tag opened : List Token} {fields : List Field}
      (hstruct : struct.kind = .struct) (htag : Tag tag) (hopened : OpenBody fields opened) :
      Begins .typedef .closeBraceOrField (struct :: tag ++ opened)
  | typedefName {struct : Token} {tag body : List Token} {fields : List Field}
      (hstruct : struct.kind = .struct) (htag : Tag tag) (hbody : Body fields body) :
      Begins .typedef .typedefName (struct :: tag ++ body)
  | typedefEnd {struct name : Token} {tag body : List Token} {fields : List Field}
      (hstruct : struct.kind = .struct) (htag : Tag tag) (hbody : Body fields body)
      (hname : name.kind = .identifier) :
      Begins .typedef .semicolonAfterTypedef (struct :: tag ++ body ++ [name])

/-- A part that may come next in a construct that has begun, but need not. -/
inductive MayFollow : Construct → Expectation → List Token → List Token → Prop where
  | field {construct : Construct} {field : Field} {begun declaration : List Token}
      (hfield : Declares field declaration) :
      MayFollow construct .closeBraceOrField begun declaration
  | tag {struct name : Token} (hname : name.kind = .identifier) :
      MayFollow .typedef .openBrace [struct] [name]

/--
What is needed does not stand at the head of the tokens left.  What was found
there, on which line, and what is left after it are as the failure says; at the end
of the input nothing was found, on the last line.
-/
structure Refuses (last : Nat) (e : Malformed) (left rest : List Token) : Prop where
  tokens : left = e.found.toList ++ rest
  refused : ∀ t, e.found = some t → t.kind ≠ e.expected.kind
  atEnd : e.found = none → rest = []
  line : e.line = (e.found.map Token.line).getD last

/--
A construct that is given up.  The tokens in `matched` are all of it that is there:
nothing that may come next starts the tokens left, and neither does what is needed.
-/
structure GivesUp (construct : Construct) (last : Nat) (matched left : List Token)
    (e : Malformed) (rest : List Token) : Prop where
  begins : Begins construct e.expected matched
  longest : ∀ part later, MayFollow construct e.expected matched part → left ≠ part ++ later
  refuses : Refuses last e left rest

/-- As long as a token is left, it is what was found. -/
theorem Refuses.found_of_cons {last : Nat} {e : Malformed} {t : Token} {left rest : List Token}
    (h : Refuses last e (t :: left) rest) : e.found = some t ∧ left = rest := by
  have htokens := h.tokens
  cases hfound : e.found with
  | none =>
    rw [hfound, h.atEnd hfound] at htokens
    contradiction
  | some u =>
    rw [hfound] at htokens
    obtain ⟨rfl, rfl⟩ := List.cons.inj htokens
    exact ⟨rfl, rfl⟩

/-- A construct is complete with the semicolon that is needed at last. -/
theorem Spells.begins {construct : Construct} {layout : Layout} {ts : List Token}
    (h : Spells construct layout ts) :
    ∃ what begun semicolon, ts = begun ++ [semicolon] ∧ Begins construct what begun ∧
      semicolon.kind = .semicolon := by
  cases h with
  | struct hname hbody hsemicolon => exact ⟨_, _, _, rfl, .structEnd hname hbody, hsemicolon⟩
  | typedef hstruct htag hbody hname hsemicolon =>
    exact ⟨_, _, _, by simp, .typedefEnd hstruct htag hbody hname, hsemicolon⟩

/-! ## The kinds of tokens in a construct -/

/-- The kinds of tokens that fields are made of. -/
def Token.Kind.inField : Token.Kind → Bool
  | .int | .long | .identifier | .star | .semicolon => true
  | _ => false

theorem Token.Kind.inField_of_isType {k : Token.Kind} (h : k.isType = true) : k.inField = true := by
  cases k <;> simp_all [isType, inField]

/-- A token of a field is neither a keyword of a construct nor a brace. -/
theorem Token.Kind.inField_eq_true {k : Token.Kind} (h : k.inField = true) :
    k ≠ .openBrace ∧ k ≠ .closeBrace ∧ Construct.ofKind? k = none := by
  cases k <;> simp_all [inField, Construct.ofKind?]

/-- A field is made of the tokens that fields are made of. -/
theorem Declares.inField {f : Field} {ts : List Token} (h : Declares f ts) :
    ∀ t ∈ ts, t.kind.inField = true := by
  cases h with
  | value htype hname hsemicolon =>
    intro t ht
    simp only [List.mem_cons, List.not_mem_nil, or_false] at ht
    rcases ht with rfl | rfl | rfl
    · exact Token.Kind.inField_of_isType htype
    · rw [hname]; rfl
    · rw [hsemicolon]; rfl
  | pointer htype hstar hname hsemicolon =>
    intro t ht
    simp only [List.mem_cons, List.not_mem_nil, or_false] at ht
    rcases ht with rfl | rfl | rfl | rfl
    · exact Token.Kind.inField_of_isType htype
    · rw [hstar]; rfl
    · rw [hname]; rfl
    · rw [hsemicolon]; rfl

/-- Fields are made of the tokens that fields are made of. -/
theorem DeclaresAll.inField {fs : List Field} {ts : List Token} (h : DeclaresAll fs ts) :
    ∀ t ∈ ts, t.kind.inField = true := by
  induction h with
  | nil => simp
  | cons hfield _ ih =>
    intro t ht
    rcases List.mem_append.mp ht with ht | ht
    · exact hfield.inField t ht
    · exact ih t ht

/-- A body that was opened does not start with an identifier. -/
theorem OpenBody.head_kind {fs : List Field} {ts rest : List Token} (h : OpenBody fs ts) :
    ∀ t, (ts ++ rest).head? = some t → t.kind ≠ .identifier := by
  obtain ⟨hbrace, -⟩ := h
  intro t ht
  cases ht
  simp [hbrace]

/-- A body does not start with an identifier. -/
theorem Body.head_kind {fs : List Field} {ts rest : List Token} (h : Body fs ts) :
    ∀ t, (ts ++ rest).head? = some t → t.kind ≠ .identifier := by
  obtain ⟨hopened, -⟩ := h
  rw [List.append_assoc]
  exact hopened.head_kind

end StructScan
