import StructScan.Proofs.Grammar.Language
import StructScan.Proofs.TokenStream.Remaining

/-!
# Reading constructs from a list

The parsers of the grammar, as functions on the list of tokens still to come.  A
parser takes what it reads off the list, and a field that does not complete takes
nothing.  Each function accepts exactly its part of the language.

Main results:

- Theorem `Listed.field?_eq_some_iff`: a field is read exactly if the list starts
  with one.
- Theorem `Listed.parse_ok_iff`: a construct is read exactly if the list starts
  with one.
- Theorem `Listed.parse_error_iff`: a construct is given up exactly at the end of
  what is there of it.
-/

namespace StructScan

namespace Listed

/-! ## The functions -/

/-- What reading from a list gives: the result, and the list after it. -/
abbrev Result (α : Type) := Except Malformed α × List Token

/-- Goes on after a part that was there. -/
def andThen (r : Result α) (next : α → List Token → Result β) : Result β :=
  match r with
  | (.ok a, rest) => next a rest
  | (.error e, rest) => (.error e, rest)

/-- Takes one token and requires it to be what is expected. -/
def expect (what : Expectation) (last : Nat) : List Token → Result Token
  | [] => (.error ⟨what, none, last⟩, [])
  | t :: ts => if t.kind = what.kind then (.ok t, ts) else (.error ⟨what, some t, t.line⟩, ts)

/-- The field of the given type whose name stands at the head of the list. -/
def fieldName? (typename : String) : List Token → Option (Field × List Token)
  | name :: semicolon :: rest =>
    if name.kind = .identifier ∧ semicolon.kind = .semicolon then
      some (⟨typename, name.text⟩, rest)
    else none
  | _ => none

/-- The field at the head of the list. -/
def field? : List Token → Option (Field × List Token)
  | type :: name :: rest =>
    if type.kind.isType then
      if name.kind = .star then fieldName? (type.text ++ "*") rest
      else fieldName? type.text (name :: rest)
    else none
  | _ => none

/-- The name of a field takes tokens off the list. -/
theorem fieldName?_length {typename : String} {ts rest : List Token} {f : Field}
    (h : fieldName? typename ts = some (f, rest)) : rest.length < ts.length := by
  unfold fieldName? at h
  split at h
  · split at h
    · simp only [Option.some.injEq, Prod.mk.injEq] at h
      rw [← h.2, List.length_cons, List.length_cons]
      omega
    · contradiction
  · contradiction

/-- A field takes tokens off the list. -/
theorem field?_length {ts rest : List Token} {f : Field} (h : field? ts = some (f, rest)) :
    rest.length < ts.length := by
  unfold field? at h
  split at h
  · split at h
    · split at h
      · have := fieldName?_length h
        simp
        omega
      · have := fieldName?_length h
        simp at this ⊢
        omega
    · contradiction
  · contradiction

/-- The fields at the head of the list, and the list after them. -/
def fields (ts : List Token) : List Field × List Token :=
  match _h : field? ts with
  | some (f, rest) => (f :: (fields rest).1, (fields rest).2)
  | none => ([], ts)
termination_by ts.length
decreasing_by all_goals exact field?_length _h

/-- Takes fields between braces. -/
def body (last : Nat) (ts : List Token) : Result (List Field) :=
  andThen (expect .openBrace last ts) fun _ ts =>
    andThen (expect .closeBraceOrField last (fields ts).2) fun _ rest =>
      (.ok (fields ts).1, rest)

/-- Takes the optional tag of a typedef. -/
def dropTag : List Token → List Token
  | [] => []
  | t :: ts => if t.kind = .identifier then ts else t :: ts

/-- Takes `Name { fields } ;`. -/
def plainStruct (last : Nat) (ts : List Token) : Result Layout :=
  andThen (expect .structName last ts) fun name ts =>
    andThen (body last ts) fun fs ts =>
      andThen (expect .semicolonAfterStruct last ts) fun _ ts => (.ok ⟨name.text, fs⟩, ts)

/-- Takes `struct [Tag] { fields } Name ;`. -/
def typedefStruct (last : Nat) (ts : List Token) : Result Layout :=
  andThen (expect .structAfterTypedef last ts) fun _ ts =>
    andThen (body last (dropTag ts)) fun fs ts =>
      andThen (expect .typedefName last ts) fun name ts =>
        andThen (expect .semicolonAfterTypedef last ts) fun _ ts => (.ok ⟨name.text, fs⟩, ts)

/-- Takes a construct after its keyword. -/
def parse : Construct → Nat → List Token → Result Layout
  | .struct => plainStruct
  | .typedef => typedefStruct

/-! ## Fields -/

/-- A name and a semicolon are read exactly if they stand at the head of the list. -/
theorem fieldName?_eq_some_iff {typename : String} {ts rest : List Token} {f : Field} :
    fieldName? typename ts = some (f, rest) ↔
      ∃ name semicolon, ts = name :: semicolon :: rest ∧ name.kind = .identifier ∧
        semicolon.kind = .semicolon ∧ f = ⟨typename, name.text⟩ := by
  unfold fieldName?
  constructor
  · intro h
    split at h
    · rename_i name semicolon rest'
      split at h
      · rename_i hkinds
        simp only [Option.some.injEq, Prod.mk.injEq] at h
        exact ⟨name, semicolon, by rw [h.2], hkinds.1, hkinds.2, h.1.symm⟩
      · contradiction
    · contradiction
  · rintro ⟨name, semicolon, rfl, hname, hsemicolon, rfl⟩
    simp [hname, hsemicolon]

/-- A field is read exactly if the list starts with one. -/
theorem field?_eq_some_iff {ts rest : List Token} {f : Field} :
    field? ts = some (f, rest) ↔
      ∃ declaration, ts = declaration ++ rest ∧ Declares f declaration := by
  constructor
  · intro h
    unfold field? at h
    split at h
    · rename_i type next rest'
      split at h
      · rename_i htype
        split at h
        · rename_i hstar
          obtain ⟨name, semicolon, rfl, hname, hsemicolon, rfl⟩ := fieldName?_eq_some_iff.mp h
          exact ⟨[type, next, name, semicolon], rfl, .pointer htype hstar hname hsemicolon⟩
        · obtain ⟨name, semicolon, hts, hname, hsemicolon, rfl⟩ := fieldName?_eq_some_iff.mp h
          obtain ⟨rfl, rfl⟩ := List.cons.inj hts
          exact ⟨[type, next, semicolon], rfl, .value htype hname hsemicolon⟩
      · contradiction
    · contradiction
  · rintro ⟨declaration, rfl, hdeclares⟩
    cases hdeclares with
    | value htype hname hsemicolon => simp [field?, fieldName?, htype, hname, hsemicolon]
    | pointer htype hstar hname hsemicolon =>
      simp [field?, fieldName?, htype, hstar, hname, hsemicolon]

/-- No field is read exactly if the list starts with none. -/
theorem field?_eq_none_iff {ts : List Token} :
    field? ts = none ↔ ∀ f declaration later, Declares f declaration →
      ts ≠ declaration ++ later := by
  constructor
  · intro h f declaration later hdeclares hts
    have := field?_eq_some_iff.mpr ⟨declaration, hts, hdeclares⟩
    rw [h] at this
    contradiction
  · intro h
    cases hfield : field? ts with
    | none => rfl
    | some found =>
      obtain ⟨declaration, hts, hdeclares⟩ := field?_eq_some_iff.mp hfield
      exact absurd hts (h _ _ _ hdeclares)

theorem fields_of_none {ts : List Token} (h : field? ts = none) : fields ts = ([], ts) := by
  rw [fields]
  split
  · rename_i h'
    rw [h] at h'
    contradiction
  · rfl

theorem fields_of_some {ts rest : List Token} {f : Field} (h : field? ts = some (f, rest)) :
    fields ts = (f :: (fields rest).1, (fields rest).2) := by
  rw [fields]
  split
  · rename_i f' rest' h'
    rw [h] at h'
    simp only [Option.some.injEq, Prod.mk.injEq] at h'
    obtain ⟨rfl, rfl⟩ := h'
    rfl
  · rename_i h'
    rw [h] at h'
    contradiction

/-- Fields are taken off the list until it starts with none. -/
theorem fields_spec (ts : List Token) :
    (∃ declarations, ts = declarations ++ (fields ts).2 ∧
      DeclaresAll (fields ts).1 declarations) ∧ field? (fields ts).2 = none := by
  fun_induction fields ts with
  | case1 ts f rest h ih =>
    obtain ⟨declaration, hts, hdeclares⟩ := field?_eq_some_iff.mp h
    obtain ⟨⟨declarations, hrest, hall⟩, hnone⟩ := ih
    refine ⟨⟨declaration ++ declarations, ?_, .cons hdeclares hall⟩, hnone⟩
    rw [hts, List.append_assoc, ← hrest]
  | case2 ts h => exact ⟨⟨[], rfl, .nil⟩, h⟩

/-- Fields with none after them are read as they are declared. -/
theorem fields_append {fs : List Field} {declarations rest : List Token}
    (hall : DeclaresAll fs declarations) (hrest : field? rest = none) :
    fields (declarations ++ rest) = (fs, rest) := by
  induction hall with
  | nil => exact fields_of_none hrest
  | cons hfield _ ih =>
    rw [List.append_assoc]
    rw [fields_of_some (field?_eq_some_iff.mpr ⟨_, rfl, hfield⟩), ih]

/-- A closing brace starts no field. -/
theorem field?_closeBrace {brace : Token} (rest : List Token) (h : brace.kind = .closeBrace) :
    field? (brace :: rest) = none := by
  unfold field?
  split
  · rename_i type next rest' hts
    obtain ⟨rfl, -⟩ := List.cons.inj hts
    simp [h, Token.Kind.isType]
  · rfl

/-! ## Single tokens -/

/-- Going on gives a result exactly if both parts do. -/
theorem andThen_ok_iff {r : Result α} {next : α → List Token → Result β} {b : β}
    {rest : List Token} :
    andThen r next = (.ok b, rest) ↔ ∃ a us, r = (.ok a, us) ∧ next a us = (.ok b, rest) := by
  obtain ⟨result, us⟩ := r
  cases result with
  | ok a =>
    constructor
    · intro h
      exact ⟨a, us, rfl, h⟩
    · rintro ⟨a', us', hr, h⟩
      cases hr
      exact h
  | error e => simp [andThen]

/-- Going on fails exactly if the first part fails, or the second one after it. -/
theorem andThen_error_iff {r : Result α} {next : α → List Token → Result β} {e : Malformed}
    {rest : List Token} :
    andThen r next = (.error e, rest) ↔
      r = (.error e, rest) ∨ ∃ a us, r = (.ok a, us) ∧ next a us = (.error e, rest) := by
  obtain ⟨result, us⟩ := r
  cases result with
  | ok a =>
    constructor
    · intro h
      exact .inr ⟨a, us, rfl, h⟩
    · rintro (hr | ⟨a', us', hr, h⟩)
      · cases hr
      · cases hr
        exact h
  | error e => simp [andThen]

@[simp]
theorem andThen_ok (a : α) (rest : List Token) (next : α → List Token → Result β) :
    andThen (.ok a, rest) next = next a rest :=
  rfl

/-- Parts that were put together go on as one. -/
theorem andThen_assoc (r : Result α) (next : α → List Token → Result β)
    (later : β → List Token → Result γ) :
    andThen (andThen r next) later = andThen r fun a ts => andThen (next a ts) later := by
  obtain ⟨result, us⟩ := r
  cases result with
  | ok a => rfl
  | error e => rfl

/-- What is expected is read exactly if it stands at the head of the list. -/
theorem expect_ok_iff {what : Expectation} {last : Nat} {ts rest : List Token} {t : Token} :
    expect what last ts = (.ok t, rest) ↔ ts = t :: rest ∧ t.kind = what.kind := by
  cases ts with
  | nil => simp [expect]
  | cons u us =>
    by_cases hkind : u.kind = what.kind
    · simp only [expect, if_pos hkind, Prod.mk.injEq, Except.ok.injEq, List.cons.injEq]
      constructor
      · rintro ⟨rfl, rfl⟩
        exact ⟨⟨rfl, rfl⟩, hkind⟩
      · rintro ⟨⟨rfl, rfl⟩, -⟩
        exact ⟨rfl, rfl⟩
    · simp only [expect, if_neg hkind, Prod.mk.injEq, reduceCtorEq, false_and, false_iff,
        List.cons.injEq, not_and]
      rintro ⟨rfl, rfl⟩
      exact hkind

/-- What is expected is missed exactly if something else, or nothing, is at the head. -/
theorem expect_error_iff {what : Expectation} {last : Nat} {ts rest : List Token}
    {e : Malformed} :
    expect what last ts = (.error e, rest) ↔ e.expected = what ∧ Refuses last e ts rest := by
  obtain ⟨expected, found, line⟩ := e
  cases ts with
  | nil =>
    simp only [expect, Prod.mk.injEq, Except.error.injEq, Malformed.mk.injEq]
    constructor
    · rintro ⟨⟨rfl, rfl, rfl⟩, rfl⟩
      exact ⟨rfl, rfl, by simp, by simp, rfl⟩
    · rintro ⟨rfl, htokens, -, -, hline⟩
      obtain ⟨hfound, rfl⟩ := List.append_eq_nil_iff.mp htokens.symm
      obtain rfl : found = none := by simpa using hfound
      exact ⟨⟨rfl, rfl, by simpa using hline.symm⟩, rfl⟩
  | cons u us =>
    by_cases hkind : u.kind = what.kind
    · simp only [expect, if_pos hkind, Prod.mk.injEq, reduceCtorEq, false_and, false_iff]
      rintro ⟨rfl, hrefuses⟩
      exact hrefuses.refused u hrefuses.found_of_cons.1 hkind
    · simp only [expect, if_neg hkind, Prod.mk.injEq, Except.error.injEq, Malformed.mk.injEq]
      constructor
      · rintro ⟨⟨rfl, rfl, rfl⟩, rfl⟩
        refine ⟨rfl, rfl, ?_, by simp, rfl⟩
        rintro t ht
        cases ht
        exact hkind
      · rintro ⟨rfl, hrefuses⟩
        obtain ⟨rfl, rfl⟩ := hrefuses.found_of_cons
        exact ⟨⟨rfl, rfl, by simpa using hrefuses.line.symm⟩, rfl⟩

/-! ## Bodies -/

/-- Fields between braces are read exactly if the list starts with them. -/
theorem body_ok_iff {last : Nat} {ts rest : List Token} {fs : List Field} :
    body last ts = (.ok fs, rest) ↔ ∃ spelled, ts = spelled ++ rest ∧ Body fs spelled := by
  unfold body
  simp only [andThen_ok_iff, expect_ok_iff]
  constructor
  · rintro ⟨opening, us, ⟨rfl, hopening⟩, closing, vs, ⟨hus, hclosing⟩, hresult⟩
    cases hresult
    obtain ⟨⟨declarations, hdeclarations, hall⟩, -⟩ := fields_spec us
    refine ⟨(opening :: declarations) ++ [closing], ?_, .mk (.mk hopening hall) hclosing⟩
    rw [hus] at hdeclarations
    simp [hdeclarations]
  · rintro ⟨spelled, rfl, hbody⟩
    obtain @⟨_, closing, @⟨opening, declarations, hopening, hall⟩, hclosing⟩ := hbody
    have hfields := fields_append hall (field?_closeBrace rest hclosing)
    refine ⟨opening, declarations ++ closing :: rest, ⟨by simp, hopening⟩, closing, rest, ?_⟩
    rw [hfields]
    exact ⟨⟨rfl, hclosing⟩, rfl⟩

/-- Fields between braces are missed at the first brace, or after all fields that are there. -/
theorem body_error_iff {last : Nat} {ts rest : List Token} {e : Malformed} :
    body last ts = (.error e, rest) ↔
      (e.expected = .openBrace ∧ Refuses last e ts rest) ∨
        ∃ fs opened left, ts = opened ++ left ∧ OpenBody fs opened ∧ field? left = none ∧
          e.expected = .closeBraceOrField ∧ Refuses last e left rest := by
  unfold body
  simp only [andThen_error_iff, expect_error_iff, expect_ok_iff]
  constructor
  · rintro (h | ⟨opening, us, ⟨rfl, hopening⟩, h | ⟨_, _, _, h⟩⟩)
    · exact .inl h
    · obtain ⟨⟨declarations, hdeclarations, hall⟩, hnone⟩ := fields_spec us
      refine .inr ⟨_, opening :: declarations, _, ?_, .mk hopening hall, hnone, h⟩
      rw [List.cons_append, ← hdeclarations]
    · cases h
  · rintro (h | ⟨fs, opened, left, rfl, hopened, hnone, h⟩)
    · exact .inl h
    · obtain @⟨opening, declarations, hopening, hall⟩ := hopened
      refine .inr ⟨opening, declarations ++ left, ⟨rfl, hopening⟩, .inl ?_⟩
      rw [fields_append hall hnone]
      exact h

/-! ## Constructs -/

/-- The tag of a typedef is what is taken off in front of an opening brace. -/
theorem dropTag_spec (ts : List Token) :
    ∃ tag, ts = tag ++ dropTag ts ∧ Tag tag ∧
      (tag = [] → ∀ t, ts.head? = some t → t.kind ≠ .identifier) := by
  cases ts with
  | nil => exact ⟨[], rfl, .absent, by simp⟩
  | cons t ts =>
    by_cases hkind : t.kind = .identifier
    · exact ⟨[t], by simp [dropTag, hkind], .present hkind, by simp⟩
    · refine ⟨[], by simp [dropTag, hkind], .absent, ?_⟩
      rintro - u hu
      cases hu
      exact hkind

/-- A tag is taken off, and nothing else is if no identifier follows. -/
theorem dropTag_append {tag rest : List Token} (htag : Tag tag)
    (h : tag = [] → ∀ t, rest.head? = some t → t.kind ≠ .identifier) :
    dropTag (tag ++ rest) = rest := by
  cases htag with
  | present hname => simp [dropTag, hname]
  | absent =>
    cases rest with
    | nil => rfl
    | cons t ts => simp [dropTag, h rfl t rfl]

/-- A construct is read exactly if the list starts with one. -/
theorem parse_ok_iff {construct : Construct} {last : Nat} {ts rest : List Token}
    {layout : Layout} :
    parse construct last ts = (.ok layout, rest) ↔
      ∃ spelled, ts = spelled ++ rest ∧ Spells construct layout spelled := by
  cases construct with
  | struct =>
    simp only [parse, plainStruct, andThen_ok_iff, expect_ok_iff, body_ok_iff]
    constructor
    · rintro ⟨name, us, ⟨rfl, hname⟩, fs, vs, ⟨spelled, rfl, hbody⟩, semicolon, ws,
        ⟨rfl, hsemicolon⟩, hresult⟩
      cases hresult
      exact ⟨_, by simp, .struct hname hbody hsemicolon⟩
    · rintro ⟨spelled, rfl, hspells⟩
      cases hspells with
      | @struct name semicolon fields body hname hbody hsemicolon =>
        exact ⟨name, body ++ semicolon :: rest, ⟨by simp, hname⟩, fields, semicolon :: rest,
          ⟨body, rfl, hbody⟩, semicolon, rest, ⟨rfl, hsemicolon⟩, rfl⟩
  | typedef =>
    simp only [parse, typedefStruct, andThen_ok_iff, expect_ok_iff, body_ok_iff]
    constructor
    · rintro ⟨struct, us, ⟨rfl, hstruct⟩, fs, vs, ⟨spelled, hspelled, hbody⟩, name, ws,
        ⟨rfl, hname⟩, semicolon, xs, ⟨rfl, hsemicolon⟩, hresult⟩
      cases hresult
      obtain ⟨tag, hus, htag, -⟩ := dropTag_spec us
      refine ⟨_, ?_, .typedef hstruct htag hbody hname hsemicolon⟩
      rw [hus, hspelled]
      simp
    · rintro ⟨spelled, rfl, hspells⟩
      cases hspells with
      | @typedef struct name semicolon tag body fields hstruct htag hbody hname hsemicolon =>
        refine ⟨struct, tag ++ (body ++ name :: semicolon :: rest), ⟨by simp, hstruct⟩, fields,
          name :: semicolon :: rest, ⟨body, ?_, hbody⟩, name, semicolon :: rest, ⟨rfl, hname⟩,
          semicolon, rest, ⟨rfl, hsemicolon⟩, rfl⟩
        exact dropTag_append htag fun _ => hbody.head_kind

/-- Only a field may come next where fields end. -/
theorem longest_closeBraceOrField {construct : Construct} {begun left : List Token} :
    (∀ part later, MayFollow construct .closeBraceOrField begun part → left ≠ part ++ later) ↔
      field? left = none := by
  rw [field?_eq_none_iff]
  constructor
  · intro h f declaration later hdeclares
    exact h declaration later (.field hdeclares)
  · intro h part later hpart
    cases hpart with
    | field hdeclares => exact h _ _ _ hdeclares

/-- Only a tag may come next in front of the body of a typedef, and only once. -/
theorem longest_openBrace {struct : Token} {tag left : List Token} :
    (∀ part later, MayFollow .typedef .openBrace (struct :: tag) part → left ≠ part ++ later) ↔
      (tag = [] → ∀ t, left.head? = some t → t.kind ≠ .identifier) := by
  constructor
  · rintro h rfl t ht hkind
    obtain ⟨later, rfl⟩ := List.head?_eq_some_iff.mp ht
    exact h [t] later (.tag hkind) rfl
  · rintro h part later hpart rfl
    cases hpart with
    | tag hname => exact h rfl _ rfl hname

/-- A `struct` is given up exactly at the end of what is there of it. -/
theorem plainStruct_error_iff {last : Nat} {ts rest : List Token} {e : Malformed} :
    plainStruct last ts = (.error e, rest) ↔
      ∃ matched left, ts = matched ++ left ∧ GivesUp .struct last matched left e rest := by
  simp only [plainStruct, andThen_error_iff, expect_error_iff, expect_ok_iff, body_error_iff,
    body_ok_iff]
  constructor
  · rintro (⟨he, h⟩ | ⟨name, us, ⟨rfl, hname⟩,
      (⟨he, h⟩ | ⟨fs, opened, left, rfl, hopened, hnone, he, h⟩) |
        ⟨fs, vs, ⟨spelled, rfl, hbody⟩, ⟨he, h⟩ | ⟨_, _, _, h⟩⟩⟩)
    · exact ⟨[], ts, rfl, he ▸ .structName, by rw [he]; nofun, h⟩
    · exact ⟨[name], us, rfl, he ▸ .structOpen hname, by rw [he]; nofun, h⟩
    · refine ⟨name :: opened, left, by simp, he ▸ .structClose hname hopened, ?_, h⟩
      rw [he]
      exact longest_closeBraceOrField.mpr hnone
    · exact ⟨name :: spelled, vs, by simp, he ▸ .structEnd hname hbody, by rw [he]; nofun, h⟩
    · cases h
  · rintro ⟨matched, left, rfl, hbegins, hlongest, h⟩
    generalize e.expected = what at *
    cases hbegins with
    | structName => exact .inl ⟨rfl, h⟩
    | structOpen hname => exact .inr ⟨_, _, ⟨rfl, hname⟩, .inl (.inl ⟨rfl, h⟩)⟩
    | structClose hname hopened =>
      exact .inr ⟨_, _, ⟨rfl, hname⟩, .inl (.inr ⟨_, _, _, rfl, hopened,
        longest_closeBraceOrField.mp hlongest, rfl, h⟩)⟩
    | structEnd hname hbody =>
      exact .inr ⟨_, _, ⟨rfl, hname⟩, .inr ⟨_, _, ⟨_, rfl, hbody⟩, .inl ⟨rfl, h⟩⟩⟩

/-- A `typedef` is given up exactly at the end of what is there of it. -/
theorem typedefStruct_error_iff {last : Nat} {ts rest : List Token} {e : Malformed} :
    typedefStruct last ts = (.error e, rest) ↔
      ∃ matched left, ts = matched ++ left ∧ GivesUp .typedef last matched left e rest := by
  simp only [typedefStruct, andThen_error_iff, expect_error_iff, expect_ok_iff, body_error_iff,
    body_ok_iff]
  constructor
  · rintro (⟨he, h⟩ | ⟨struct, us, ⟨rfl, hstruct⟩, h⟩)
    · exact ⟨[], ts, rfl, he ▸ .typedefStruct, by rw [he]; nofun, h⟩
    · obtain ⟨tag, hus, htag, hnotag⟩ := dropTag_spec us
      generalize dropTag us = vs at h hus
      subst hus
      rcases h with (⟨he, h⟩ | ⟨fs, opened, left, rfl, hopened, hnone, he, h⟩) |
        ⟨fs, ws, ⟨spelled, rfl, hbody⟩, ⟨he, h⟩ | ⟨name, xs, ⟨rfl, hname⟩, ⟨he, h⟩ | ⟨_, _, _, h⟩⟩⟩
      · refine ⟨struct :: tag, vs, by simp, he ▸ .typedefOpen hstruct htag, ?_, h⟩
        rw [he, longest_openBrace]
        rintro rfl
        exact hnotag rfl
      · refine ⟨struct :: tag ++ opened, left, by simp, he ▸ .typedefClose hstruct htag hopened,
          ?_, h⟩
        rw [he]
        exact longest_closeBraceOrField.mpr hnone
      · exact ⟨struct :: tag ++ spelled, ws, by simp, he ▸ .typedefName hstruct htag hbody,
          by rw [he]; nofun, h⟩
      · exact ⟨struct :: tag ++ spelled ++ [name], xs, by simp,
          he ▸ .typedefEnd hstruct htag hbody hname, by rw [he]; nofun, h⟩
      · cases h
  · rintro ⟨matched, left, rfl, hbegins, hlongest, h⟩
    generalize e.expected = what at *
    cases hbegins with
    | typedefStruct => exact .inl ⟨rfl, h⟩
    | @typedefOpen struct tag hstruct htag =>
      refine .inr ⟨struct, tag ++ left, ⟨rfl, hstruct⟩, ?_⟩
      rw [dropTag_append htag (longest_openBrace.mp hlongest)]
      exact .inl (.inl ⟨rfl, h⟩)
    | @typedefClose struct tag opened fs hstruct htag hopened =>
      refine .inr ⟨struct, tag ++ (opened ++ left), ⟨by simp, hstruct⟩, ?_⟩
      rw [dropTag_append htag fun _ => hopened.head_kind]
      exact .inl (.inr ⟨_, _, _, rfl, hopened, longest_closeBraceOrField.mp hlongest, rfl, h⟩)
    | @typedefName struct tag body fs hstruct htag hbody =>
      refine .inr ⟨struct, tag ++ (body ++ left), ⟨by simp, hstruct⟩, ?_⟩
      rw [dropTag_append htag fun _ => hbody.head_kind]
      exact .inr ⟨_, _, ⟨_, rfl, hbody⟩, .inl ⟨rfl, h⟩⟩
    | @typedefEnd struct name tag body fs hstruct htag hbody hname =>
      refine .inr ⟨struct, tag ++ (body ++ name :: left), ⟨by simp, hstruct⟩, ?_⟩
      rw [dropTag_append htag fun _ => hbody.head_kind]
      exact .inr ⟨_, _, ⟨_, rfl, hbody⟩, .inr ⟨name, left, ⟨rfl, hname⟩, .inl ⟨rfl, h⟩⟩⟩

/-- A construct is given up exactly at the end of what is there of it. -/
theorem parse_error_iff {construct : Construct} {last : Nat} {ts rest : List Token}
    {e : Malformed} :
    parse construct last ts = (.error e, rest) ↔
      ∃ matched left, ts = matched ++ left ∧ GivesUp construct last matched left e rest := by
  cases construct with
  | struct => exact plainStruct_error_iff
  | typedef => exact typedefStruct_error_iff

end Listed

/-- A construct is read off the list, whatever follows it. -/
theorem Spells.parse {construct : Construct} {layout : Layout} {spelled : List Token}
    (h : Spells construct layout spelled) (last : Nat) (rest : List Token) :
    Listed.parse construct last (spelled ++ rest) = (.ok layout, rest) :=
  Listed.parse_ok_iff.mpr ⟨spelled, rfl, h⟩

/-- A construct that is given up is given up by its parser. -/
theorem GivesUp.parse {construct : Construct} {last : Nat} {matched left rest : List Token}
    {e : Malformed} (h : GivesUp construct last matched left e rest) :
    Listed.parse construct last (matched ++ left) = (.error e, rest) :=
  Listed.parse_error_iff.mpr ⟨matched, left, rfl, h⟩

end StructScan
