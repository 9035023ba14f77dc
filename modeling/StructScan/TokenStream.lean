import StructScan.Source

/-!
# Streams of tokens

A stream reads tokens from a source on demand, pulling a line only when the
current one holds no further token.  Tokens can be given back and are then
read again first.

Main results:

- Theorem `TokenStream.next_bounded`: a token that is read makes the stream
  lighter.
- Theorem `TokenStream.unread_bounded`: giving tokens back makes it heavier by
  no more than their number.
- Theorem `TokenStream.Bounded.bind`: these bounds add up along a computation.
-/

namespace StructScan

open Token (Line Gap Reach reach remainder lexeme totalLength)

/-- A stream of tokens over a source. -/
structure TokenStream where
  source : Source
  /-- The part of the current line that was not read. -/
  rest : List Char := []
  /-- The number of the current line. -/
  line : Nat := 0
  /-- Whether the stream takes no more from its source. -/
  ended : Bool := false
  /-- The tokens that were given back, in the order in which they come next. -/
  returned : List Token := []
  deriving DecidableEq, Repr

/-- A computation that reads a stream and may be stopped by a failing source. -/
abbrev Reading := EStateM Fault TokenStream

namespace TokenStream

/-- A stream at the start of a source. -/
def ofSource (source : Source) : TokenStream where
  source := source

/-- Moves the stream to where reading on arrives, and reads the token there if there is one. -/
def arrive (s : TokenStream) (r : Reach) : EStateM.Result Fault TokenStream (Option Token) :=
  let source := s.source.handOut r.pulled r.pending
  let line := s.line + r.pulled
  match r.start, source.fault? with
  | some (first, rest), _ =>
    .ok (some (lexeme line first rest).1)
      { s with source, line, rest := (lexeme line first rest).2 }
  | none, none => .ok none { s with source := source.exhaust, line, rest := [], ended := true }
  | none, some fault =>
    -- The cursor stays where the line was asked for.
    let rest := remainder .code s.rest s.source.pending
    .error fault { s with source := source.exhaust, line, rest }

/-- Reads the next token from the source. -/
def lex : Reading (Option Token) := fun s =>
  s.arrive (reach .code s.rest s.source.pending)

/-- Reads the next token; there is none once the stream has ended. -/
def next : Reading (Option Token) := fun s =>
  match s.returned with
  | t :: ts => .ok (some t) { s with returned := ts }
  | [] => if s.ended then .ok none s else lex s

/-- Gives tokens back, to be read again in the order given. -/
def unread (tokens : List Token) : Reading Unit :=
  modify fun s => { s with returned := tokens ++ s.returned }

/-- Gives tokens back one after the other, so that the last one is read again first. -/
def pushBack (tokens : List Token) : Reading Unit :=
  unread tokens.reverse

/-- Ends the stream, forgets the tokens that were given back and closes the source. -/
def close (s : TokenStream) : TokenStream :=
  { s with ended := true, returned := [], source := s.source.close }

/-! ## What is left to read -/

/-- An upper bound on the number of tokens left: those given back and the characters not read. -/
def weight (s : TokenStream) : Nat :=
  s.returned.length + s.rest.length + totalLength s.source.pending

/--
A computation that makes a stream no heavier.  The tokens that it was given
count for `held`, and those that it hands on, by its result, for `kept`.
-/
def Bounded (held : Nat) (kept : α → Nat) (m : Reading α) : Prop :=
  ∀ s, match m s with
    | .ok a s' => s'.weight + kept a ≤ s.weight + held
    | .error _ s' => s'.weight ≤ s.weight + held

/-- A result in hand is bounded by the tokens in hand. -/
theorem Bounded.pure {held : Nat} {kept : α → Nat} {a : α} (h : kept a ≤ held) :
    Bounded held kept (Pure.pure a : Reading α) := by
  intro s
  show s.weight + kept a ≤ s.weight + held
  omega

/-- What one computation hands on, the next one holds. -/
theorem Bounded.bind {held : Nat} {kept : α → Nat} {kept' : β → Nat} {m : Reading α}
    {f : α → Reading β} (hm : Bounded held kept m) (hf : ∀ a, Bounded (kept a) kept' (f a)) :
    Bounded held kept' (m >>= f) := by
  intro s
  have h := hm s
  simp only [Bind.bind, EStateM.bind]
  cases hs : m s with
  | error fault s' => simpa [hs] using h
  | ok a s' =>
    simp only [hs] at h
    have h' := hf a s'
    simp only
    cases hf' : f a s' with
    | ok b s'' =>
      simp only [hf'] at h'
      show s''.weight + kept' b ≤ s.weight + held
      omega
    | error fault s'' =>
      simp only [hf'] at h'
      show s''.weight ≤ s.weight + held
      omega

/-- A bound holds with more tokens in hand before, and fewer after. -/
theorem Bounded.mono {held held' : Nat} {kept kept' : α → Nat} {m : Reading α}
    (hm : Bounded held kept m) (hh : held ≤ held') (hk : ∀ a, kept' a ≤ kept a) :
    Bounded held' kept' m := by
  intro s
  have h := hm s
  cases hs : m s with
  | ok a s' =>
    simp only [hs] at h
    have := hk a
    show s'.weight + kept' a ≤ s.weight + held'
    omega
  | error fault s' =>
    simp only [hs] at h
    show s'.weight ≤ s.weight + held'
    omega

/-- Tokens in hand that a computation does not touch stay in hand. -/
theorem Bounded.carry {held : Nat} {kept : α → Nat} {m : Reading α} (hm : Bounded held kept m)
    (extra : Nat) : Bounded (extra + held) (fun a => extra + kept a) m := by
  intro s
  have h := hm s
  cases hs : m s with
  | ok a s' =>
    simp only [hs] at h
    show s'.weight + (extra + kept a) ≤ s.weight + (extra + held)
    omega
  | error fault s' =>
    simp only [hs] at h
    show s'.weight ≤ s.weight + (extra + held)
    omega

/-- The number of tokens in an optional token. -/
def count (found : Option Token) : Nat :=
  if found.isSome then 1 else 0

/-- Reading from the source hands on the token that it takes off the stream. -/
theorem lex_bounded : Bounded 0 count lex := by
  intro s
  have h := Token.reach_size .code s.rest s.source.pending
  have hleft := Token.remainder_size .code s.rest s.source.pending
  unfold lex
  generalize reach .code s.rest s.source.pending = r at h hleft
  obtain ⟨start, pending, pulled⟩ := r
  unfold arrive
  cases start with
  | some found =>
    obtain ⟨first, rest⟩ := found
    have hl := Token.lexeme_length (s.line + pulled) first rest
    simp [weight, count, Source.handOut] at *
    omega
  | none =>
    cases hf : (s.source.handOut pulled pending).fault? with
    | none =>
      simp [hf, weight, count, Source.handOut, Source.exhaust] at *
      omega
    | some fault =>
      simp [hf, weight, Source.handOut, Source.exhaust] at *
      omega

/-- Reading hands on the token that it takes off the stream. -/
theorem next_bounded : Bounded 0 count next := by
  intro s
  unfold next
  cases hr : s.returned with
  | cons t ts =>
    simp only [weight, count, hr, List.length_cons, Option.isSome_some, if_true]
    omega
  | nil =>
    by_cases he : s.ended
    · simp [he, count]
    · simpa [he] using lex_bounded s

/-- Tokens that are given back are no longer in hand. -/
theorem unread_bounded (tokens : List Token) :
    Bounded tokens.length (fun _ => 0) (unread tokens) := by
  intro s
  have h : unread tokens s = .ok () { s with returned := tokens ++ s.returned } := rfl
  rw [h]
  simp only [weight, List.length_append]
  omega

/-! ## Reading several tokens -/

/--
What reading several times gave: what was read, the failure that cut it short if
there was one, and the stream after it.
-/
structure Gathered (α : Type) where
  items : List α := []
  fault : Option Fault := none
  stream : TokenStream
  deriving DecidableEq, Repr

/-- Puts an item in front of those read after it. -/
def Gathered.after {α : Type} (item : α) (later : Gathered α) : Gathered α :=
  { later with items := item :: later.items }

/-- Reads all tokens that are left, up to a failure. -/
def drain (s : TokenStream) : Gathered Token :=
  match _h : next s with
  | .ok (some t) s' => (drain s').after t
  | .ok none s' => { stream := s' }
  | .error fault s' => { fault := some fault, stream := s' }
termination_by s.weight
decreasing_by
  have := next_bounded s
  simp [_h, count] at this
  omega

/-- Reads a fixed number of times, whether there are tokens or not, up to a failure. -/
def nextTimes : Nat → TokenStream → Gathered (Option Token)
  | 0, s => { stream := s }
  | n + 1, s =>
    match next s with
    | .ok t s' => (nextTimes n s').after t
    | .error fault s' => { fault := some fault, stream := s' }

end TokenStream

end StructScan
