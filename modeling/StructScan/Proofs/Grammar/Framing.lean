import StructScan.Grammar

/-!
# What every parser keeps up

A parser touches its stream in two ways only: it reads the next token, and it gives
tokens back.  So whatever both of them keep up from one stream to the next, over any number
of steps, every parser keeps up as well.

Main results:

- Theorem `TokenStream.next_cases`: where a token comes from.
- Theorem `Framed.bind`: what is kept up by two computations is kept up by one after the
  other.
- Theorem `Framed.parse`: what reading and giving back keep up, reading a construct does.
- Theorem `framed_staysEnded`: a stream that has ended takes nothing more from its source.
- Theorem `TokenStream.ended_of_next`: a stream ends by reading nothing from it.
-/

namespace StructScan

open TokenStream

/-! ## Reading one token -/

/-- A token comes from what was given back, and once nothing is, from the source. -/
theorem TokenStream.next_cases (s : TokenStream) :
    (∃ t ts, s.returned = t :: ts ∧ next s = .ok (some t) { s with returned := ts }) ∨
      (s.returned = [] ∧ s.ended = true ∧ next s = .ok none s) ∨
      (s.returned = [] ∧ s.ended = false ∧ next s = lex s) := by
  unfold next
  cases hreturned : s.returned with
  | cons t ts => exact .inl ⟨t, ts, rfl, rfl⟩
  | nil =>
    cases hended : s.ended with
    | true => exact .inr (.inl ⟨rfl, rfl, by simp⟩)
    | false => exact .inr (.inr ⟨rfl, rfl, by simp⟩)

/-! ## Relations between streams -/

/-- The stream that a computation leaves behind, whether it fails or not. -/
def TokenStream.leftBy (m : Reading α) (s : TokenStream) : TokenStream :=
  match m s with
  | .ok _ s' => s'
  | .error _ s' => s'

/-- A computation that succeeds leaves the stream that it ends with. -/
theorem TokenStream.leftBy_of_ok {m : Reading α} {s s' : TokenStream} {a : α}
    (h : m s = .ok a s') : leftBy m s = s' := by
  simp only [leftBy, h]

/-- So does one that fails. -/
theorem TokenStream.leftBy_of_error {m : Reading α} {s s' : TokenStream} {fault : Fault}
    (h : m s = .error fault s') : leftBy m s = s' := by
  simp only [leftBy, h]

/-- The stream after an expectation is the stream after reading, whatever was read. -/
theorem TokenStream.leftBy_expect (what : Expectation) (s : TokenStream) :
    leftBy (expect what).run s = leftBy next s := by
  simp only [leftBy, ExceptT.run, expect]
  cases next s with
  | error fault s' => rfl
  | ok found s' =>
    cases found with
    | none => rfl
    | some t => by_cases hkind : t.kind = what.kind <;> simp [hkind]

/-- A computation that takes every stream to a related one. -/
def Keeps (R : TokenStream → TokenStream → Prop) (m : Reading α) : Prop :=
  ∀ s, R s (leftBy m s)

/-- A relation that reading and giving back keep up, over any number of steps. -/
structure Framed (R : TokenStream → TokenStream → Prop) : Prop where
  refl : ∀ s, R s s
  trans : ∀ s s' s'', R s s' → R s' s'' → R s s''
  next : Keeps R next
  unread : ∀ tokens, Keeps R (unread tokens)

namespace Framed

variable {R : TokenStream → TokenStream → Prop}

theorem pure (h : Framed R) (a : α) : Keeps R (Pure.pure a : Reading α) :=
  h.refl

/-- What is kept up by two computations is kept up by one after the other. -/
theorem bind (h : Framed R) {m : Reading α} {k : α → Reading β} (hm : Keeps R m)
    (hk : ∀ a, Keeps R (k a)) : Keeps R (m >>= k) := by
  intro s
  have hfirst := hm s
  cases hrun : m s with
  | error fault s' =>
    have hboth : (m >>= k) s = .error fault s' := by simp only [Bind.bind, EStateM.bind, hrun]
    rw [leftBy_of_error hrun] at hfirst
    rwa [leftBy_of_error hboth]
  | ok a s' =>
    have hboth : leftBy (m >>= k) s = leftBy (k a) s' := by
      simp only [leftBy, Bind.bind, EStateM.bind, hrun]
    rw [leftBy_of_ok hrun] at hfirst
    rw [hboth]
    exact h.trans s s' _ hfirst (hk a s')

/-! ## Fields -/

/-- Giving up a field gives its tokens back and does nothing else. -/
theorem abandon (h : Framed R) (tokens : List Token) : Keeps R (abandon tokens) :=
  h.bind (h.unread tokens) fun _ => h.pure none

theorem fieldEnd (h : Framed R) (read : List Token) (field : Field) :
    Keeps R (fieldEnd read field) := by
  refine h.bind h.next fun found => ?_
  cases found with
  | none => exact h.abandon read
  | some t =>
    simp only
    split
    · exact h.pure _
    · exact h.abandon _

theorem fieldName (h : Framed R) (read : List Token) (typename : String) (found : Option Token) :
    Keeps R (fieldName read typename found) := by
  cases found with
  | none => exact h.abandon read
  | some t =>
    simp only [StructScan.fieldName]
    split
    · exact h.fieldEnd _ _
    · exact h.abandon _

/-- A field is read and given up in these two ways only. -/
theorem field? (h : Framed R) : Keeps R field? := by
  refine h.bind h.next fun found => ?_
  cases found with
  | none => exact h.pure none
  | some type =>
    simp only
    split
    · refine h.bind h.next fun found => ?_
      cases found with
      | none => exact h.fieldName _ _ _
      | some t =>
        simp only
        split
        · exact h.bind h.next fun found => h.fieldName _ _ _
        · exact h.fieldName _ _ _
    · exact h.abandon _

/-- So are all fields that come next. -/
theorem fields (h : Framed R) : Keeps R fields := by
  intro s
  unfold StructScan.fields leftBy
  -- The recursion of the parser, one field at a time.
  fun_induction readFields s with
  | case1 s f s' hfield fs s'' hrest ih =>
    have hfirst := h.field? s
    rw [leftBy_of_ok hfield] at hfirst
    rw [hrest] at ih
    exact h.trans s s' s'' hfirst ih
  | case2 s f s' hfield fault s'' hrest ih =>
    have hfirst := h.field? s
    rw [leftBy_of_ok hfield] at hfirst
    rw [hrest] at ih
    exact h.trans s s' s'' hfirst ih
  | case3 s s' hfield =>
    have hfirst := h.field? s
    rwa [leftBy_of_ok hfield] at hfirst
  | case4 s fault s' hfield =>
    have hfirst := h.field? s
    rwa [leftBy_of_error hfield] at hfirst

/-! ## Constructs -/

/-- A part of a construct after another; a part that is missing ends the construct. -/
theorem parseBind (h : Framed R) {m : Parsing α} {k : α → Parsing β} (hm : Keeps R m.run)
    (hk : ∀ a, Keeps R (k a).run) : Keeps R (m >>= k).run := by
  refine h.bind hm fun result => ?_
  cases result with
  | ok a => exact hk a
  | error e => exact h.pure (Except.error e)

theorem lift (h : Framed R) {m : Reading α} (hm : Keeps R m) : Keeps R (m : Parsing α).run :=
  h.bind hm fun a => h.pure (Except.ok a)

/-- An expectation reads one token, whether it is the right one or not. -/
theorem expect (h : Framed R) (what : Expectation) : Keeps R (expect what).run := by
  intro s
  rw [leftBy_expect]
  exact h.next s

/-- A tag is read, or given back if it is none. -/
theorem tag (h : Framed R) : Keeps R tag := by
  refine h.bind h.next fun found => ?_
  cases found with
  | none => exact h.pure ()
  | some t =>
    simp only
    split
    · exact h.pure ()
    · exact h.unread [t]

/-- What reading and giving back keep up, reading a construct keeps up. -/
theorem parse (h : Framed R) (construct : Construct) : Keeps R construct.parse.run := by
  cases construct with
  | struct =>
    exact h.parseBind (h.expect _) fun _ => h.parseBind (h.expect _) fun _ =>
      h.parseBind (h.lift h.fields) fun _ => h.parseBind (h.expect _) fun _ =>
      h.parseBind (h.expect _) fun _ => h.pure (Except.ok _)
  | typedef =>
    exact h.parseBind (h.expect _) fun _ => h.parseBind (h.lift h.tag) fun _ =>
      h.parseBind (h.expect _) fun _ => h.parseBind (h.lift h.fields) fun _ =>
      h.parseBind (h.expect _) fun _ => h.parseBind (h.expect _) fun _ =>
      h.parseBind (h.expect _) fun _ => h.pure (Except.ok _)

end Framed

/-! ## Streams that have ended -/

/-- A stream that has ended stays so, and takes no further line from its source. -/
def StaysEnded (s s' : TokenStream) : Prop :=
  s.ended = true →
    s'.ended = true ∧ s'.source.pending = s.source.pending ∧ s'.source.pulled = s.source.pulled

/-- Whatever is read from a stream that has ended, it takes no further line. -/
theorem framed_staysEnded : Framed StaysEnded where
  refl s hended := ⟨hended, rfl, rfl⟩
  trans s s' s'' h h' hended := by
    obtain ⟨hended', hpending, hpulled⟩ := h hended
    obtain ⟨hended'', hpending', hpulled'⟩ := h' hended'
    exact ⟨hended'', hpending'.trans hpending, hpulled'.trans hpulled⟩
  next s hended := by
    rcases next_cases s with ⟨t, ts, -, hnext⟩ | ⟨-, -, hnext⟩ | ⟨-, hopen, -⟩
    · rw [leftBy_of_ok hnext]
      exact ⟨hended, rfl, rfl⟩
    · rw [leftBy_of_ok hnext]
      exact ⟨hended, rfl, rfl⟩
    · rw [hended] at hopen
      contradiction
  unread tokens s hended := ⟨hended, rfl, rfl⟩

/--
Reading a token never ends a stream; reading none does, with nothing that was given back
left over.
-/
theorem TokenStream.ended_of_next {s s' : TokenStream} {found : Option Token}
    (h : next s = .ok found s') :
    (found.isSome → s'.ended = s.ended) ∧ (found = none → s'.ended = true ∧ s'.returned = []) := by
  rcases next_cases s with ⟨t, ts, -, hnext⟩ | ⟨hnil, hended, hnext⟩ | ⟨hnil, hopen, hnext⟩
  · rw [hnext] at h
    cases h
    simp
  · rw [hnext] at h
    cases h
    simp [hended, hnil]
  · rw [hnext] at h
    simp only [lex, arrive] at h
    split at h
    · cases h
      simp
    · cases h
      simp [hnil]
    · cases h

end StructScan
