import StructScan.Layout
import StructScan.TokenStream

/-!
# The grammar of struct declarations

Two constructs are read from a stream of tokens, after their opening keyword:

* `Name { fields } ;` after `struct`,
* `struct [Tag] { fields } Name ;` after `typedef`.

A field is a type, an optional star, a name and a semicolon.  A field is read
whole or not at all.  A construct that does not complete is given up at the
first token that does not fit.

Main results:

- Theorem `field?_bounded`: a field that was read makes the stream lighter, and
  one that was not leaves it no heavier.
- Theorem `Construct.parse_spends`: a construct that was read makes the stream
  lighter, and one that was given up leaves it no heavier.
-/

namespace StructScan

/-! ## What went wrong -/

/-- What a construct needs at a place. -/
inductive Expectation where
  | structName
  | openBrace
  | closeBraceOrField
  | semicolonAfterStruct
  | structAfterTypedef
  | typedefName
  | semicolonAfterTypedef
  deriving DecidableEq, Repr

namespace Expectation

/-- The kind of token that meets the expectation. -/
def kind : Expectation → Token.Kind
  | structName | typedefName => .identifier
  | openBrace => .openBrace
  | closeBraceOrField => .closeBrace
  | semicolonAfterStruct | semicolonAfterTypedef => .semicolon
  | structAfterTypedef => .struct

/-- The expectation in words. -/
def text : Expectation → String
  | structName => "struct name"
  | openBrace => "'\x7b'"
  | closeBraceOrField => "'\x7d' or field declaration"
  | semicolonAfterStruct => "';' after struct body"
  | structAfterTypedef => "'struct' after 'typedef'"
  | typedefName => "typedef name"
  | semicolonAfterTypedef => "';' after typedef"

end Expectation

/-- A construct that did not complete: what it needed, what stood there, and on which line. -/
structure Malformed where
  expected : Expectation
  found : Option Token
  line : Int
  deriving DecidableEq, Repr

namespace Malformed

/-- What was needed and what was found. -/
def reason (e : Malformed) : String :=
  let got := match e.found with
    | some t => Text.quote t.text
    | none => "end of input"
  s!"expected {e.expected.text}, got {got}"

/-- The reason with the line in front of it, if the line is known. -/
def message (e : Malformed) : String :=
  if 0 < e.line then s!"line {e.line}: {e.reason}" else e.reason

end Malformed

/-! ## Reading -/

/-- A computation that reads a construct from a stream. -/
abbrev Parsing := ExceptT Malformed Reading

open TokenStream

/-- Reads one token and requires it to be what is expected. -/
def expect (what : Expectation) : Parsing Token := fun s =>
  match next s with
  | .ok (some t) s' =>
    if t.kind = what.kind then .ok (.ok t) s' else .ok (.error ⟨what, some t, t.line⟩) s'
  | .ok none s' => .ok (.error ⟨what, none, s'.line⟩) s'
  | .error fault s' => .error fault s'

/-- Gives back the tokens of a field that did not complete. -/
def abandon (tokens : List Token) : Reading (Option Field) := do
  unread tokens
  return none

/-- Reads the semicolon after a type and a name, which are given with all tokens read so far. -/
def fieldEnd (read : List Token) (field : Field) : Reading (Option Field) := do
  match ← next with
  | some t => if t.kind = .semicolon then return some field else abandon (read ++ [t])
  | none => abandon read

/-- Reads the name of a field, whose type is given with all tokens read so far. -/
def fieldName (read : List Token) (typename : String) : Option Token → Reading (Option Field)
  | some t =>
    if t.kind = .identifier then fieldEnd (read ++ [t]) ⟨typename, t.text⟩
    else abandon (read ++ [t])
  | none => abandon read

/-- Reads one field, or leaves the stream as it was. -/
def field? : Reading (Option Field) := do
  match ← next with
  | none => return none
  | some type =>
    if type.kind.isType then
      match ← next with
      | some t =>
        if t.kind = .star then fieldName [type, t] (type.text ++ "*") (← next)
        else fieldName [type] type.text (some t)
      | none => fieldName [type] type.text none
    else abandon [type]

/-! ## Progress -/

/-- A field that was read counts for one token. -/
def fieldCount (found : Option Field) : Nat :=
  if found.isSome then 1 else 0

theorem abandon_bounded (tokens : List Token) :
    Bounded tokens.length fieldCount (abandon tokens) :=
  (unread_bounded tokens).bind fun _ => Bounded.pure (by simp [fieldCount])

/-- A field keeps its tokens at its semicolon, or gives all of them back. -/
theorem fieldEnd_bounded (read : List Token) (field : Field) :
    Bounded read.length fieldCount (fieldEnd read field) := by
  refine (next_bounded.carry read.length).bind fun found => ?_
  cases found with
  | none => exact (abandon_bounded read).mono (by simp [count]) (fun _ => Nat.le_refl _)
  | some t =>
    simp only
    split
    · exact Bounded.pure (by simp [fieldCount, count])
    · exact (abandon_bounded (read ++ [t])).mono (by simp [count]) (fun _ => Nat.le_refl _)

theorem fieldName_bounded (read : List Token) (typename : String) (found : Option Token) :
    Bounded (read.length + count found) fieldCount (fieldName read typename found) := by
  cases found with
  | none => exact (abandon_bounded read).mono (by simp [count]) (fun _ => Nat.le_refl _)
  | some t =>
    simp only [fieldName]
    split
    · exact (fieldEnd_bounded (read ++ [t]) _).mono (by simp [count]) (fun _ => Nat.le_refl _)
    · exact (abandon_bounded (read ++ [t])).mono (by simp [count]) (fun _ => Nat.le_refl _)

/-- A field that was read makes the stream lighter; one that was not leaves it no heavier. -/
theorem field?_bounded : Bounded 0 fieldCount field? := by
  refine next_bounded.bind fun found => ?_
  cases found with
  | none => exact Bounded.pure (by simp [fieldCount])
  | some type =>
    simp only
    split
    · refine (next_bounded.carry 1).bind fun found => ?_
      cases found with
      | none =>
        exact (fieldName_bounded [type] type.text none).mono (by simp) (fun _ => Nat.le_refl _)
      | some t =>
        simp only
        split
        · refine (next_bounded.carry 2).bind fun found => ?_
          exact (fieldName_bounded [type, t] _ found).mono (by simp) (fun _ => Nat.le_refl _)
        · exact
            (fieldName_bounded [type] type.text (some t)).mono (by simp) (fun _ => Nat.le_refl _)
    · exact (abandon_bounded [type]).mono (by simp [count]) (fun _ => Nat.le_refl _)

/-- Reads fields from a stream as long as there are any. -/
def readFields (s : TokenStream) : EStateM.Result Fault TokenStream (List Field) :=
  match _h : field? s with
  | .ok (some f) s' =>
    match readFields s' with
    | .ok fs s'' => .ok (f :: fs) s''
    | .error fault s'' => .error fault s''
  | .ok none s' => .ok [] s'
  | .error fault s' => .error fault s'
termination_by s.weight
decreasing_by
  have := field?_bounded s
  simp [_h, fieldCount] at this
  omega

/-- Reads all fields that come next. -/
def fields : Reading (List Field) :=
  readFields

/-- Reading fields never makes the stream heavier. -/
theorem fields_bounded : Bounded 0 (fun _ => 0) fields := by
  intro s
  unfold fields
  fun_induction readFields s with
  | case1 s f s' h fs s'' h2 ih =>
    have := field?_bounded s
    simp [h, h2, fieldCount] at *
    omega
  | case2 s f s' h fault s'' h2 ih =>
    have := field?_bounded s
    simp [h, h2, fieldCount] at *
    omega
  | case3 s s' h =>
    have := field?_bounded s
    simpa [h, fieldCount] using this
  | case4 s fault s' h =>
    have := field?_bounded s
    simpa [h] using this

/-! ## The two constructs -/

/-- Reads `Name { fields } ;`. -/
def plainStruct : Parsing Layout := do
  let name ← expect .structName
  let _ ← expect .openBrace
  let fs ← fields
  let _ ← expect .closeBraceOrField
  let _ ← expect .semicolonAfterStruct
  return ⟨name.text, fs⟩

/-- Reads the optional tag of a typedef. -/
def tag : Reading Unit := do
  match ← next with
  | some t => if t.kind = .identifier then return () else unread [t]
  | none => return ()

/-- Reads `struct [Tag] { fields } Name ;`.  The tag is dropped. -/
def typedefStruct : Parsing Layout := do
  let _ ← expect .structAfterTypedef
  tag
  let _ ← expect .openBrace
  let fs ← fields
  let _ ← expect .closeBraceOrField
  let name ← expect .typedefName
  let _ ← expect .semicolonAfterTypedef
  return ⟨name.text, fs⟩

/-- A part of a construct counts for one token if it is there. -/
def partCount : Except Malformed α → Nat
  | .ok _ => 1
  | .error _ => 0

/-- A part of a construct that makes a stream no heavier, and lighter if it is there. -/
def Spends (held : Nat) (m : Parsing α) : Prop :=
  Bounded held partCount m.run

/-- An expectation reads one token and gives none back. -/
theorem expect_spends (what : Expectation) : Spends 0 (expect what) := by
  intro s
  have h := next_bounded s
  simp only [ExceptT.run, expect]
  cases hn : next s with
  | error fault s' => simpa [hn] using h
  | ok found s' =>
    cases found with
    | none => simpa [hn, partCount, count] using h
    | some t =>
      by_cases hk : t.kind = what.kind <;> simp [hn, hk, partCount, count] at * <;> omega

/-- A token that is no tag goes back. -/
theorem tag_bounded : Bounded 0 (fun _ => 0) tag := by
  refine next_bounded.bind fun found => ?_
  cases found with
  | none => exact Bounded.pure (by simp)
  | some t =>
    simp only
    split
    · exact Bounded.pure (by simp)
    · exact (unread_bounded [t]).mono (by simp [count]) (fun _ => Nat.le_refl _)

/-- The parts of a construct add up, and count once if all of them are there. -/
theorem Spends.bind {m : Parsing α} {f : α → Parsing β} {held : Nat} (hm : Spends held m)
    (hf : ∀ a, Spends 1 (f a)) : Spends held (m >>= f) := by
  refine Bounded.bind hm fun r => ?_
  cases r with
  | ok a => exact hf a
  | error e => exact Bounded.pure (Nat.le_refl _)

/-- A part that is there already keeps what is in hand. -/
theorem Spends.lift {m : Reading α} (hm : Bounded 0 (fun _ => 0) m) :
    Spends 1 (m : Parsing α) :=
  Bounded.bind (hm.carry 1) fun _ => Bounded.pure (Nat.le_refl _)

theorem Spends.pure (a : α) : Spends 1 (Pure.pure a : Parsing α) :=
  Bounded.pure (Nat.le_refl _)

/-- A part may follow others. -/
theorem Spends.after {m : Parsing α} (hm : Spends 0 m) : Spends 1 m :=
  Bounded.mono hm (by omega) (fun _ => Nat.le_refl _)

/-- The constructs, named for the keyword that opens them. -/
inductive Construct where
  | struct
  | typedef
  deriving DecidableEq, Repr

namespace Construct

/-- The construct that a keyword opens. -/
def ofKind? : Token.Kind → Option Construct
  | .struct => some struct
  | .typedef => some typedef
  | _ => none

/-- Reads the construct after its keyword. -/
def parse : Construct → Parsing Layout
  | struct => plainStruct
  | typedef => typedefStruct

/-- A construct that was read makes the stream lighter; one that was given up, no heavier. -/
theorem parse_spends (c : Construct) : Spends 0 c.parse := by
  have after (what : Expectation) : Spends 1 (expect what) := (expect_spends what).after
  cases c with
  | struct =>
    exact (expect_spends _).bind fun _ => (after _).bind fun _ =>
      (Spends.lift fields_bounded).bind fun _ => (after _).bind fun _ => (after _).bind fun _ =>
      Spends.pure _
  | typedef =>
    exact (expect_spends _).bind fun _ => (Spends.lift tag_bounded).bind fun _ =>
      (after _).bind fun _ => (Spends.lift fields_bounded).bind fun _ => (after _).bind fun _ =>
      (after _).bind fun _ => (after _).bind fun _ => Spends.pure _

end Construct

end StructScan
