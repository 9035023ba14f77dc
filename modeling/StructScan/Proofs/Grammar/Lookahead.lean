import StructScan.Proofs.Grammar.Following
import StructScan.Proofs.Grammar.Framing

/-!
# How far parsers look ahead

A token that is read from the source stands on the line that was taken last.  Whether a parser
has gone further than what it was reading is therefore a question of what it has given back.
An attempt at a field gives back all it has read, and only the last of those tokens can be one
that has no place in a field.  So a construct that was given up leaves tokens behind none of
which, but the last, opens a construct; and a construct that was read has taken its tokens from
the source, up to its last semicolon and no further.

Main results:

- Theorem `framed_advances`: what is read on takes tokens from the source in order, and the
  stream stands on the line of the last of them.
- Theorem `Construct.parse_clears`: what a construct leaves given back.
- Theorem `Construct.parse_stops`: a construct that was read ends on the line taken last.
-/

namespace StructScan

open TokenStream

/-! ## One token -/

/-- A token is read on the line on which it starts. -/
@[simp]
theorem Token.lexeme_line (line : Int) (first : Char) (rest : List Char) :
    (lexeme line first rest).1.line = line := by
  unfold lexeme
  split <;> rfl

/-- Reading from the source counts its lines, and a token stands on the line taken last. -/
theorem TokenStream.lex_spec {s s' : TokenStream} {found : Option Token}
    (h : lex s = .ok found s') :
    s'.returned = s.returned ∧ s'.line + s.source.pulled = s.line + s'.source.pulled ∧
      ∀ t, found = some t → t.line = s'.line ∧ s'.ended = s.ended := by
  unfold lex at h
  generalize Token.reach .code s.rest s.source.pending = r at h
  obtain ⟨start, pending, pulled⟩ := r
  simp only [arrive] at h
  cases start with
  | some start =>
    cases h
    refine ⟨rfl, by simp only [Source.handOut]; omega, ?_⟩
    rintro t ⟨rfl⟩
    simp
  | none =>
    cases hfault : (s.source.handOut pulled pending).fault? with
    | none =>
      rw [hfault] at h
      cases h
      exact ⟨rfl, by simp only [Source.handOut, Source.exhaust]; omega, by simp⟩
    | some fault =>
      rw [hfault] at h
      cases h

/-- Reading takes the first token off what was given back; else its token is from the source. -/
theorem TokenStream.returned_of_next {s s' : TokenStream} {found : Option Token}
    (h : next s = .ok found s') :
    s'.returned = s.returned.tail ∧
      ∀ t, found = some t →
        s.returned = t :: s'.returned ∨ s.returned = [] ∧ s'.ended = false := by
  rcases next_cases s with ⟨u, ts, hcons, hnext⟩ | ⟨hnil, -, hnext⟩ | ⟨hnil, hopen, hnext⟩
  · rw [hnext] at h
    cases h
    rw [hcons]
    refine ⟨rfl, ?_⟩
    rintro - ⟨rfl⟩
    exact .inl rfl
  · rw [hnext] at h
    cases h
    simp [hnil]
  · rw [hnext] at h
    obtain ⟨hreturned, -, hfound⟩ := lex_spec h
    rw [hreturned, hnil]
    refine ⟨rfl, fun t ht => .inr ⟨rfl, ?_⟩⟩
    rw [(hfound t ht).2, hopen]

/-! ## What is taken from the source -/

/--
A stream that was read on.  Tokens were taken from the source in order, and as long as the
stream has not ended it stands on the line of the last of them.
-/
structure Advances (s s' : TokenStream) : Prop where
  calm : s'.Calm
  ended : s.ended = true → s'.ended = true
  counted : s'.line + s.source.pulled = s.line + s'.source.pulled
  taken : ∃ taken, s.ahead = taken ++ s'.ahead ∧
    (s'.ended = false → (s'.line : Int) = (taken.getLast?.map Token.line).getD s.line)

/-- A stream whose source is left alone. -/
theorem Advances.of_same {s s' : TokenStream} (hcalm : s.Calm) (hsource : s'.source = s.source)
    (hrest : s'.rest = s.rest) (hline : s'.line = s.line) (hended : s'.ended = s.ended) :
    Advances s s' where
  calm := by rwa [Calm, hsource]
  ended := by rw [hended]; exact id
  counted := by rw [hsource, hline]
  taken := ⟨[], by simp [ahead, hsource, hrest, hline, hended], by simp [hline]⟩

/-- Reading on twice is reading on. -/
theorem Advances.trans {s s' s'' : TokenStream} (h : Advances s s') (h' : Advances s' s'') :
    Advances s s'' where
  calm := h'.calm
  ended hended := h'.ended (h.ended hended)
  counted := by
    have hfirst := h.counted
    have hsecond := h'.counted
    omega
  taken := by
    obtain ⟨taken, hahead, hline⟩ := h.taken
    obtain ⟨taken', hahead', hline'⟩ := h'.taken
    refine ⟨taken ++ taken', by rw [hahead, hahead', List.append_assoc], ?_⟩
    intro hopen
    have hopen' : s'.ended = false := by
      cases hended : s'.ended with
      | true => rw [← h'.ended hended, hopen]
      | false => rfl
    rw [hline' hopen, List.getLast?_append]
    cases taken'.getLast? with
    | none => simp [hline hopen']
    | some t => simp

theorem lex_advances {s : TokenStream} (hcalm : s.Calm) (hopen : s.ended = false) :
    Advances s (leftBy lex s) := by
  cases hstart : (Token.reach .code s.rest s.source.pending).start with
  | none =>
    obtain ⟨hahead, s', hlex, -, -, hended, hcalm'⟩ := lex_of_start_none hcalm hopen hstart
    obtain ⟨-, hcounted, -⟩ := lex_spec hlex
    rw [leftBy_of_ok hlex]
    refine ⟨hcalm', fun _ => hended, hcounted, [], ?_, by simp [hended]⟩
    rw [hahead]
    simp [ahead, hended]
  | some found =>
    obtain ⟨t, s', hahead, hlex, -, -, hcalm'⟩ := lex_of_start_some hcalm hopen hstart
    obtain ⟨-, hcounted, hfound⟩ := lex_spec hlex
    obtain ⟨hline, hended⟩ := hfound t rfl
    rw [leftBy_of_ok hlex]
    exact ⟨hcalm', by simp [hopen], hcounted, [t], by simp [hahead], by simp [hline]⟩

/-- Whatever is read from a calm stream, it advances. -/
theorem framed_advances : Framed fun s s' => s.Calm → Advances s s' where
  refl s hcalm := .of_same hcalm rfl rfl rfl rfl
  trans s s' s'' h h' hcalm := (h hcalm).trans (h' (h hcalm).calm)
  next s hcalm := by
    rcases next_cases s with ⟨t, ts, -, hnext⟩ | ⟨-, -, hnext⟩ | ⟨-, hopen, hnext⟩
    · rw [leftBy_of_ok hnext]
      exact .of_same hcalm rfl rfl rfl rfl
    · rw [leftBy_of_ok hnext]
      exact .of_same hcalm rfl rfl rfl rfl
    · rw [leftBy, hnext]
      exact lex_advances hcalm hopen
  unread tokens s hcalm := .of_same hcalm rfl rfl rfl rfl

/-! ## What is left of an attempt -/

/-- Tokens of which all but the last have their place in a field. -/
def Leftover (ts : List Token) : Prop :=
  ∀ t ∈ ts.dropLast, t.kind.inField = true

namespace Leftover

theorem of_forall {ts : List Token} (h : ∀ t ∈ ts, t.kind.inField = true) : Leftover ts :=
  fun t ht => h t (List.dropLast_subset ts ht)

theorem concat {ts : List Token} (h : ∀ t ∈ ts, t.kind.inField = true) (last : Token) :
    Leftover (ts ++ [last]) := by
  simpa [Leftover] using h

theorem tail {ts : List Token} (h : Leftover ts) : Leftover ts.tail := by
  intro t ht
  rw [← List.tail_dropLast] at ht
  exact h t (List.mem_of_mem_tail ht)

/-- A token that has no place in a field is the last one. -/
theorem eq_nil_of_cons {t : Token} {ts : List Token} (h : Leftover (t :: ts))
    (hkind : t.kind.inField = false) : ts = [] := by
  cases ts with
  | nil => rfl
  | cons u us =>
    have hfield := h t (by simp)
    rw [hkind] at hfield
    contradiction

end Leftover

/-- Nothing is given back. -/
def TokenStream.Clear (s : TokenStream) : Prop :=
  s.returned = []

/-- Nothing is given back, and the stream has not ended. -/
def TokenStream.Direct (s : TokenStream) : Prop :=
  s.returned = [] ∧ s.ended = false

/-- A keyword that is read from what is left of an attempt, or after it, has nothing behind it. -/
theorem TokenStream.clear_of_keyword {s s' : TokenStream} {keyword : Token} {c : Construct}
    (hleftover : Leftover s.returned) (hnext : next s = .ok (some keyword) s')
    (hkind : Construct.ofKind? keyword.kind = some c) : s'.Clear := by
  have hplace : keyword.kind.inField = false := by
    cases hfield : keyword.kind.inField with
    | false => rfl
    | true =>
      rw [(Token.Kind.inField_eq_true hfield).2.2] at hkind
      contradiction
  obtain ⟨hreturned, hsome⟩ := returned_of_next hnext
  rcases hsome keyword rfl with hcons | ⟨hnil, -⟩
  · rw [hcons] at hleftover
    exact hleftover.eq_nil_of_cons hplace
  · rw [Clear, hreturned, hnil, List.tail_nil]

/-! ## What computations leave behind -/

/-- Started where `P` holds, a computation that gives a result leaves a stream where `Q` holds. -/
def Ensures (P : TokenStream → Prop) (m : Reading α) (Q : α → TokenStream → Prop) : Prop :=
  ∀ s a s', P s → m s = .ok a s' → Q a s'

namespace Ensures

variable {P : TokenStream → Prop}

theorem pure {Q : α → TokenStream → Prop} {a : α} (h : ∀ s, P s → Q a s) :
    Ensures P (Pure.pure a : Reading α) Q := by
  rintro s _ s' hs ⟨⟩
  exact h s hs

theorem bind {Q : α → TokenStream → Prop} {R : β → TokenStream → Prop} {m : Reading α}
    {k : α → Reading β} (hm : Ensures P m Q) (hk : ∀ a, Ensures (Q a) (k a) R) :
    Ensures P (m >>= k) R := by
  intro s b s'' hs hrun
  simp only [Bind.bind, EStateM.bind] at hrun
  cases hfirst : m s with
  | error fault s' => simp [hfirst] at hrun
  | ok a s' =>
    rw [hfirst] at hrun
    exact hk a s' b s'' (hm s a s' hs hfirst) hrun

theorem mono {Q R : α → TokenStream → Prop} {m : Reading α} (hm : Ensures P m Q)
    (h : ∀ a s, Q a s → R a s) : Ensures P m R :=
  fun s a s' hs hrun => h a s' (hm s a s' hs hrun)

end Ensures

/-! ## Fields -/

/-- Reading gives nothing back. -/
theorem next_clear : Ensures Clear next fun _ => Clear := by
  intro s found s' hclear hnext
  rw [Clear, (returned_of_next hnext).1, hclear, List.tail_nil]

/-- What an attempt at a field leaves given back: nothing, or what is left of the attempt. -/
def Settled (found : Option Field) (s : TokenStream) : Prop :=
  match found with
  | some _ => s.Clear
  | none => Leftover s.returned

theorem abandon_settles {tokens : List Token} (h : Leftover tokens) :
    Ensures Clear (abandon tokens) Settled := by
  rintro s _ s' hclear ⟨⟩
  rw [Clear] at hclear
  simpa [Settled, hclear] using h

section Read

variable {read : List Token} (hread : ∀ t ∈ read, t.kind.inField = true)
include hread

theorem fieldEnd_settles (field : Field) : Ensures Clear (fieldEnd read field) Settled := by
  refine next_clear.bind fun found => ?_
  cases found with
  | none => exact abandon_settles (.of_forall hread)
  | some t =>
    simp only
    split
    · exact .pure fun _ hclear => hclear
    · exact abandon_settles (.concat hread t)

theorem fieldName_settles (typename : String) (found : Option Token) :
    Ensures Clear (fieldName read typename found) Settled := by
  cases found with
  | none => exact abandon_settles (.of_forall hread)
  | some t =>
    simp only [fieldName]
    split
    · rename_i hname
      refine fieldEnd_settles ?_ _
      simp only [List.forall_mem_append, List.forall_mem_singleton]
      exact ⟨hread, by rw [hname]; rfl⟩
    · exact abandon_settles (.concat hread t)

end Read

theorem field?_settles : Ensures Clear field? Settled := by
  refine next_clear.bind fun found => ?_
  cases found with
  | none =>
    refine .pure fun s hclear => ?_
    simp [Settled, Leftover, show s.returned = [] from hclear]
  | some type =>
    simp only
    split
    · rename_i htype
      have hread : ∀ t ∈ [type], t.kind.inField = true := by
        simpa using Token.Kind.inField_of_isType htype
      refine next_clear.bind fun found => ?_
      cases found with
      | none => exact fieldName_settles hread _ _
      | some t =>
        simp only
        split
        · rename_i hstar
          refine next_clear.bind fun found => fieldName_settles ?_ _ _
          simp only [List.forall_mem_cons] at hread ⊢
          exact ⟨hread.1, by rw [hstar]; rfl, by simp⟩
        · exact fieldName_settles hread _ _
    · exact abandon_settles (by simp [Leftover])

/-- After all fields there are, what is left of the attempt at another one is given back. -/
theorem fields_settle : Ensures Clear fields fun _ s => Leftover s.returned := by
  intro s fs s' hclear hfields
  unfold fields at hfields
  fun_induction readFields s generalizing fs s' with
  | case1 s f s₁ hfield fs' s₂ hrest ih =>
    cases hfields
    exact ih _ _ (field?_settles s _ s₁ hclear hfield) hrest
  | case2 s f s₁ hfield fault s₂ hrest ih => cases hfields
  | case3 s s₁ hfield =>
    cases hfields
    exact field?_settles s _ _ hclear hfield
  | case4 s fault s₁ hfield => cases hfields

/-! ## Constructs -/

/--
Started where `P` holds, a part of a construct leaves a stream where `Q` holds if it is there,
and nothing but what is left of an attempt given back if it is not.
-/
def Clears (P : TokenStream → Prop) (m : Parsing α) (Q : TokenStream → Prop) : Prop :=
  Ensures P m.run fun result s =>
    match result with
    | .ok _ => Q s
    | .error _ => Leftover s.returned

namespace Clears

variable {P Q R : TokenStream → Prop}

theorem pure {a : α} (h : ∀ s, P s → Q s) : Clears P (Pure.pure a : Parsing α) Q :=
  Ensures.pure h

/-- A part that is missing ends the construct. -/
theorem bind {m : Parsing α} {k : α → Parsing β} (hm : Clears P m Q)
    (hk : ∀ a, Clears Q (k a) R) : Clears P (m >>= k) R := by
  refine Ensures.bind hm fun result => ?_
  cases result with
  | ok a => exact hk a
  | error e => exact Ensures.pure (a := Except.error e) fun _ h => h

theorem lift {m : Reading α} (hm : Ensures P m fun _ => Q) : Clears P (m : Parsing α) Q :=
  Ensures.bind hm fun a => Ensures.pure (a := Except.ok a) fun _ h => h

end Clears

/-- What is expected was read, or something else was. -/
theorem next_of_expect {what : Expectation} {s s' : TokenStream} {result : Except Malformed Token}
    (h : (expect what).run s = .ok result s') :
    ∃ found, next s = .ok found s' ∧
      ∀ t, result = .ok t → found = some t ∧ t.kind = what.kind := by
  simp only [ExceptT.run, expect] at h
  cases hnext : next s with
  | error fault s₁ => simp [hnext] at h
  | ok found s₁ =>
    rw [hnext] at h
    cases found with
    | none =>
      cases h
      exact ⟨none, rfl, by simp⟩
    | some t =>
      by_cases hkind : t.kind = what.kind
      · simp only [hkind, if_true] at h
        cases h
        exact ⟨some t, rfl, by simp [hkind]⟩
      · simp only [hkind, if_false] at h
        cases h
        exact ⟨some t, rfl, by simp⟩

/-- With at most one token given back, an expectation clears the stream. -/
theorem expect_clears (what : Expectation) :
    Clears (fun s => s.returned.length ≤ 1) (expect what) Clear := by
  intro s result s' hfew hexpect
  obtain ⟨found, hnext, -⟩ := next_of_expect hexpect
  have hclear : s'.returned = [] := by
    rw [(returned_of_next hnext).1, ← List.length_eq_zero_iff, List.length_tail]
    omega
  cases result with
  | ok t => exact hclear
  | error e => simp [hclear, Leftover]

/-- With nothing given back, what is expected is read from the source. -/
theorem expect_direct (what : Expectation) : Clears Clear (expect what) Direct := by
  intro s result s' hclear hexpect
  obtain ⟨found, hnext, hfound⟩ := next_of_expect hexpect
  obtain ⟨hreturned, hsome⟩ := returned_of_next hnext
  rw [hclear, List.tail_nil] at hreturned
  cases result with
  | ok t =>
    rcases hsome t (hfound t rfl).1 with hcons | ⟨-, hopen⟩
    · rw [hclear] at hcons
      contradiction
    · exact ⟨hreturned, hopen⟩
  | error e => simp [hreturned, Leftover]

/-- A closing brace is the last token of an attempt that met it. -/
theorem expect_closeBrace :
    Clears (fun s => Leftover s.returned) (expect .closeBraceOrField) Clear := by
  intro s result s' hleftover hexpect
  obtain ⟨found, hnext, hfound⟩ := next_of_expect hexpect
  obtain ⟨hreturned, hsome⟩ := returned_of_next hnext
  cases result with
  | ok t =>
    obtain ⟨hread, hkind⟩ := hfound t rfl
    rcases hsome t hread with hcons | ⟨hnil, -⟩
    · rw [hcons] at hleftover
      exact hleftover.eq_nil_of_cons (by rw [hkind]; rfl)
    · rw [Clear, hreturned, hnil, List.tail_nil]
  | error e => exact hreturned ▸ hleftover.tail

/-- At most one token is given back in place of a tag. -/
theorem tag_clears : Ensures Clear tag fun _ s => s.returned.length ≤ 1 := by
  have hshort (s : TokenStream) (hclear : s.Clear) : s.returned.length ≤ 1 := by
    rw [show s.returned = [] from hclear]
    simp
  refine next_clear.bind fun found => ?_
  cases found with
  | none => exact .pure hshort
  | some t =>
    simp only
    split
    · exact .pure hshort
    · rintro s _ s' hclear ⟨⟩
      simp [show s.returned = [] from hclear]

/--
A construct that is read with nothing given back leaves nothing given back, and was the last
thing read from the source; one that is given up leaves what is left of an attempt.
-/
theorem Construct.parse_clears (c : Construct) : Clears Clear c.parse Direct := by
  have hexpect (what : Expectation) : Clears Clear (expect what) Clear :=
    (expect_direct what).mono fun result s h => by
      cases result with
      | ok t => exact h.1
      | error e => exact h
  cases c with
  | struct =>
    exact (hexpect _).bind fun _ => (hexpect _).bind fun _ =>
      (Clears.lift fields_settle).bind fun _ => expect_closeBrace.bind fun _ =>
      (expect_direct _).bind fun _ => .pure fun _ h => h
  | typedef =>
    exact (hexpect _).bind fun _ => (Clears.lift tag_clears).bind fun _ =>
      (expect_clears _).bind fun _ => (Clears.lift fields_settle).bind fun _ =>
      expect_closeBrace.bind fun _ => (hexpect _).bind fun _ =>
      (expect_direct _).bind fun _ => .pure fun _ h => h

/--
A construct that was read with nothing given back was read up to its last semicolon and no
further: the stream stands on the line of the semicolon.
-/
theorem Construct.parse_stops {c : Construct} {s s' : TokenStream} {layout : Layout}
    (hcalm : s.Calm) (hclear : s.Clear) (h : c.parse.run s = .ok (.ok layout) s') :
    ∃ begun semicolon, s.remaining = begun ++ [semicolon] ++ s'.remaining ∧
      Spells c layout (begun ++ [semicolon]) ∧ semicolon.kind = .semicolon ∧
      (s'.line : Int) = semicolon.line := by
  obtain ⟨hresult, -⟩ := (parse_parsesAs c).eq_of_ok hcalm h
  obtain ⟨spelled, hspelled, hspells⟩ := Listed.parse_ok_iff.mp hresult
  obtain ⟨-, begun, semicolon, rfl, -, hsemicolon⟩ := hspells.begins
  obtain ⟨hclear', hopen⟩ := c.parse_clears s _ s' hclear h
  have hadvances := leftBy_of_ok h ▸ framed_advances.parse c s hcalm
  obtain ⟨taken, htaken, hline⟩ := hadvances.taken
  -- Nothing is given back on either side, so the tokens of the construct are those taken.
  have hsame : taken = begun ++ [semicolon] := by
    rw [remaining, remaining, hclear, hclear', List.nil_append, List.nil_append, htaken] at hspelled
    exact List.append_cancel_right hspelled
  refine ⟨begun, semicolon, hspelled, hspells, hsemicolon, ?_⟩
  rw [hline hopen, hsame, List.getLast?_concat]
  rfl

end StructScan
