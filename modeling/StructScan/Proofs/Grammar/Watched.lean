import StructScan.Proofs.Grammar.Quieting
import StructScan.Scan

/-!
# Watching what is read

The parsers are watched while they read: which tokens they ask for, what they give back, and how
their attempts at fields come out, each with the stream as it is then.  A watched parser is put
together as the parser is, from asking and giving back.  Without what was seen it is the parser.

Main results:

- Theorem `Watched.run_bind`: a watched computation runs as the one that is watched.
- Theorem `Watched.run_parse`: so does a watched construct.
- Theorem `Watched.Chained.parse`: what is kept up along the way, reading a construct keeps up.
-/

namespace StructScan

open TokenStream

/-! ## Moments -/

/-- What is seen of the reading of a stream, with the stream as it is then. -/
inductive Moment where
  /-- A token was asked for. -/
  | asked (s : TokenStream)
  /-- Tokens were given back. -/
  | gaveBack (s : TokenStream)
  /-- An attempt at a field has come out. -/
  | tried (before : TokenStream) (found : Option Field) (after : TokenStream)
  /-- A construct is about to be read. -/
  | entered (construct : Construct) (s : TokenStream)
  /-- A layout was found. -/
  | found (layout : Layout) (s : TokenStream)
  /-- A construct was given up. -/
  | gaveUp (skip : Skip) (s : TokenStream)
  /-- A search has dealt with one token and what was read on account of it. -/
  | passed (before after : TokenStream)
  deriving DecidableEq, Repr

/-! ## Watched computations -/

/-- A computation that reads a stream, and what is seen of it. -/
structure Watched (α : Type) where
  run : Reading α
  moments : TokenStream → List Moment

namespace Watched

variable {α β : Type}

instance : Monad Watched where
  pure a := ⟨pure a, fun _ => []⟩
  bind m k := ⟨m.run >>= fun a => (k a).run, fun s =>
    match m.run s with
    | .ok a s' => m.moments s ++ (k a).moments s'
    | .error _ _ => m.moments s⟩

@[simp]
theorem moments_pure (a : α) (s : TokenStream) : (pure a : Watched α).moments s = [] :=
  rfl

/-- A watched computation runs as the one that is watched, part by part. -/
theorem run_bind {m : Watched α} {k : α → Watched β} {m' : Reading α} {k' : α → Reading β}
    (hm : m.run = m') (hk : ∀ a, (k a).run = k' a) : (m >>= k).run = m' >>= k' := by
  obtain rfl := hm
  obtain rfl : (fun a => (k a).run) = k' := funext hk
  rfl

/-- A watched choice runs as the choice between what its branches run as. -/
theorem run_ite {p : Prop} [Decidable p] {m n : Watched α} {m' n' : Reading α} (hm : m.run = m')
    (hn : n.run = n') : (if p then m else n).run = if p then m' else n' := by
  rw [apply_ite run, hm, hn]

/-- After a computation that succeeds, the rest runs on the stream that it leaves. -/
theorem run_bind_of_ok {m : Watched α} {s s' : TokenStream} {a : α} (h : m.run s = .ok a s')
    (k : α → Watched β) : (m >>= k).run s = (k a).run s' := by
  simp only [bind, EStateM.bind, h]

/-- A computation that fails is the last one to run. -/
theorem run_bind_of_error {m : Watched α} {s s' : TokenStream} {fault : Fault}
    (h : m.run s = .error fault s') (k : α → Watched β) :
    (m >>= k).run s = .error fault s' := by
  simp only [bind, EStateM.bind, h]

/-- What is seen of two computations is what is seen of the first, then of the second. -/
theorem moments_bind_of_ok {m : Watched α} {s s' : TokenStream} {a : α} (h : m.run s = .ok a s')
    (k : α → Watched β) : (m >>= k).moments s = m.moments s ++ (k a).moments s' := by
  simp only [bind, h]

/-- Nothing is seen of what would have come after a failure. -/
theorem moments_bind_of_error {m : Watched α} {s s' : TokenStream} {fault : Fault}
    (h : m.run s = .error fault s') (k : α → Watched β) :
    (m >>= k).moments s = m.moments s := by
  simp only [bind, h]

/-- Reads a token. -/
def ask : Watched (Option Token) :=
  ⟨next, fun s => [.asked (leftBy next s)]⟩

/-- Gives tokens back. -/
def giveBack (tokens : List Token) : Watched Unit :=
  ⟨unread tokens, fun s => [.gaveBack (leftBy (unread tokens) s)]⟩

/-- Tells how an attempt at a field has come out. -/
def telling (m : Watched (Option Field)) : Watched (Option Field) :=
  ⟨m.run, fun s =>
    match m.run s with
    | .ok found s' => m.moments s ++ [.tried s found s']
    | .error _ _ => m.moments s⟩

/-! ## Fields -/

/-- Gives back the tokens of a field that did not complete. -/
def abandon (tokens : List Token) : Watched (Option Field) := do
  giveBack tokens
  return none

/-- Reads the semicolon after a type and a name. -/
def fieldEnd (read : List Token) (field : Field) : Watched (Option Field) := do
  match ← ask with
  | some t => if t.kind = .semicolon then return some field else abandon (read ++ [t])
  | none => abandon read

/-- Reads the name of a field. -/
def fieldName (read : List Token) (typename : String) : Option Token → Watched (Option Field)
  | some t =>
    if t.kind = .identifier then fieldEnd (read ++ [t]) ⟨typename, t.text⟩
    else abandon (read ++ [t])
  | none => abandon read

/-- Attempts to read one field. -/
def attempt : Watched (Option Field) := do
  match ← ask with
  | none => return none
  | some type =>
    if type.kind.isType then
      match ← ask with
      | some t =>
        if t.kind = .star then fieldName [type, t] (type.text ++ "*") (← ask)
        else fieldName [type] type.text (some t)
      | none => fieldName [type] type.text none
    else abandon [type]

/-- Reads one field, or leaves the stream as it was, and tells how it came out. -/
def field? : Watched (Option Field) :=
  telling attempt

/-- The semicolon after a name is read as it is unwatched. -/
theorem run_fieldEnd (read : List Token) (field : Field) :
    (fieldEnd read field).run = StructScan.fieldEnd read field := by
  refine run_bind rfl fun found => ?_
  cases found with
  | none => rfl
  | some t => exact run_ite rfl rfl

theorem run_fieldName (read : List Token) (typename : String) (found : Option Token) :
    (fieldName read typename found).run = StructScan.fieldName read typename found := by
  cases found with
  | none => rfl
  | some t => exact run_ite (run_fieldEnd _ _) rfl

/-- A watched attempt at a field runs as the parser of fields. -/
theorem run_attempt : attempt.run = StructScan.field? := by
  refine run_bind rfl fun found => ?_
  cases found with
  | none => rfl
  | some type =>
    refine run_ite (run_bind rfl fun found => ?_) rfl
    cases found with
    | none => rfl
    | some t =>
      exact run_ite (run_bind rfl fun found => run_fieldName _ _ found) (run_fieldName _ _ _)

/-- Telling how an attempt came out does not change it. -/
@[simp]
theorem run_field? : field?.run = StructScan.field? :=
  run_attempt

/-- What ends an attempt after a number of tokens: there is nothing to read, or all goes back. -/
inductive Stops : Nat → Watched (Option Field) → Prop where
  | nothing : Stops 0 (pure none)
  | abandoned (read : List Token) : Stops read.length (abandon read)

/--
What holds of an attempt step by step, where `J n` is about what is done after `n` tokens were read:
an attempt asks for tokens, four at most, and stops where there are no more, where one does not fit,
or with a field.
-/
structure AttemptRule (J : Nat → Watched (Option Field) → Prop) : Prop where
  ask : ∀ n k, n ≤ 3 → Stops n (k none) → (∀ t, J (n + 1) (k (some t))) → J n (ask >>= k)
  stop : ∀ n m, n ≤ 4 → Stops n m → J n m
  field : ∀ n f, J n (pure (some f))

namespace AttemptRule

variable {J : Nat → Watched (Option Field) → Prop}

/-- One token more may be read before all of them go back. -/
theorem abandon_concat (h : AttemptRule J) (read : List Token) (hread : read.length ≤ 3)
    (t : Token) : J (read.length + 1) (abandon (read ++ [t])) := by
  have hlength : (read ++ [t]).length = read.length + 1 := by
    rw [List.length_append, List.length_singleton]
  exact h.stop _ _ (by omega) (hlength ▸ .abandoned (read ++ [t]))

theorem fieldEnd (h : AttemptRule J) (read : List Token) (hread : read.length ≤ 3)
    (field : Field) : J read.length (fieldEnd read field) := by
  refine h.ask _ _ hread (.abandoned read) fun t => ?_
  simp only
  split
  · exact h.field _ _
  · exact h.abandon_concat read hread t

/-- A type that was read, in one token or two, leaves room for a name and a semicolon. -/
theorem fieldName (h : AttemptRule J) (read : List Token) (hread : read.length ≤ 2)
    (typename : String) (t : Token) :
    J (read.length + 1) (fieldName read typename (some t)) := by
  have hlength : (read ++ [t]).length = read.length + 1 := by
    rw [List.length_append, List.length_singleton]
  simp only [Watched.fieldName]
  split
  · exact hlength ▸ h.fieldEnd _ (by omega) _
  · exact h.abandon_concat read (by omega) t

/-- The rule covers a whole attempt, from its first token on. -/
theorem attempt (h : AttemptRule J) : J 0 attempt := by
  refine h.ask 0 _ (by omega) .nothing fun type => ?_
  simp only
  split
  · refine h.ask 1 _ (by omega) (.abandoned [type]) fun t => ?_
    simp only
    split
    · exact h.ask 2 _ (by omega) (.abandoned [type, t]) fun name =>
        h.fieldName [type, t] (Nat.le_refl 2) _ name
    · exact h.fieldName [type] (Nat.le_succ 1) _ t
  · exact h.abandon_concat [] (Nat.zero_le 3) type

end AttemptRule

/-- What is seen while all fields are read that come next. -/
def seenInFields (s : TokenStream) : List Moment :=
  match _h : StructScan.field? s with
  | .ok (some _) s' => field?.moments s ++ seenInFields s'
  | .ok none _ => field?.moments s
  | .error _ _ => field?.moments s
termination_by s.weight
decreasing_by
  have := field?_bounded s
  simp [_h, fieldCount] at this
  omega

/-- Reads all fields that come next. -/
def fields : Watched (List Field) :=
  ⟨StructScan.fields, seenInFields⟩

/-- After a field that was read, the fields after it decide what is left. -/
theorem leftBy_fields_of_some {s s' : TokenStream} {f : Field}
    (h : StructScan.field? s = .ok (some f) s') :
    leftBy StructScan.fields s = leftBy StructScan.fields s' := by
  rw [leftBy, fields_eq, h, leftBy]
  simp only
  cases StructScan.fields s' <;> rfl

/-! ## Constructs -/

/-- Reads one token and requires it to be what is expected. -/
def expect (what : Expectation) : ExceptT Malformed Watched Token :=
  ExceptT.mk ⟨(StructScan.expect what).run, ask.moments⟩

/-- Reads the optional tag of a typedef. -/
def tag : Watched Unit := do
  match ← ask with
  | some t => if t.kind = .identifier then return () else giveBack [t]
  | none => return ()

/-- Reads `Name { fields } ;`. -/
def plainStruct : ExceptT Malformed Watched Layout := do
  let name ← expect .structName
  let _ ← expect .openBrace
  let fs ← fields
  let _ ← expect .closeBraceOrField
  let _ ← expect .semicolonAfterStruct
  return ⟨name.text, fs⟩

/-- Reads `struct [Tag] { fields } Name ;`. -/
def typedefStruct : ExceptT Malformed Watched Layout := do
  let _ ← expect .structAfterTypedef
  tag
  let _ ← expect .openBrace
  let fs ← fields
  let _ ← expect .closeBraceOrField
  let name ← expect .typedefName
  let _ ← expect .semicolonAfterTypedef
  return ⟨name.text, fs⟩

/-- Reads a construct after its keyword. -/
def parse : Construct → Watched (Except Malformed Layout)
  | .struct => plainStruct.run
  | .typedef => typedefStruct.run

theorem run_tag : tag.run = StructScan.tag := by
  refine run_bind rfl fun found => ?_
  cases found with
  | none => rfl
  | some t => exact run_ite rfl rfl

/-- A part of a construct after another one runs as it does unwatched. -/
theorem run_parseBind {m : ExceptT Malformed Watched α} {k : α → ExceptT Malformed Watched β}
    {m' : Parsing α} {k' : α → Parsing β} (hm : m.run.run = m'.run)
    (hk : ∀ a, (k a).run.run = (k' a).run) : (m >>= k).run.run = (m' >>= k').run := by
  refine run_bind hm fun result => ?_
  cases result with
  | ok a => exact hk a
  | error e => rfl

/-- A reading among the parts of a construct runs as it does unwatched. -/
theorem run_lift {m : Watched α} {m' : Reading α} (h : m.run = m') :
    (m : ExceptT Malformed Watched α).run.run = (m' : Parsing α).run := by
  obtain rfl := h
  rfl

/-- A watched construct runs as the construct. -/
@[simp]
theorem run_parse (c : Construct) : (parse c).run = c.parse.run := by
  have hexpect (what : Expectation) : (expect what).run.run = (StructScan.expect what).run := rfl
  have hfields : (fields : ExceptT Malformed Watched (List Field)).run.run =
      (StructScan.fields : Parsing (List Field)).run := run_lift rfl
  cases c with
  | struct =>
    exact run_parseBind (hexpect _) fun _ => run_parseBind (hexpect _) fun _ =>
      run_parseBind hfields fun _ => run_parseBind (hexpect _) fun _ =>
      run_parseBind (hexpect _) fun _ => rfl
  | typedef =>
    exact run_parseBind (hexpect _) fun _ => run_parseBind (run_lift run_tag) fun _ =>
      run_parseBind (hexpect _) fun _ => run_parseBind hfields fun _ =>
      run_parseBind (hexpect _) fun _ => run_parseBind (hexpect _) fun _ =>
      run_parseBind (hexpect _) fun _ => rfl

/-! ## What is kept up along the way -/

/--
A relation between two streams and what was seen on the way from one to the other, that asking and
giving back keep up, over any number of steps.
-/
structure Chained (R : TokenStream → List Moment → TokenStream → Prop) : Prop where
  refl : ∀ s, R s [] s
  trans : ∀ s l s' l' s'', R s l s' → R s' l' s'' → R s (l ++ l') s''
  ask : ∀ s, R s [.asked (leftBy next s)] (leftBy next s)
  giveBack : ∀ tokens s,
    R s [.gaveBack (leftBy (unread tokens) s)] (leftBy (unread tokens) s)

/-- A watched computation that takes every stream to a related one. -/
def Keeps (R : TokenStream → List Moment → TokenStream → Prop) (m : Watched α) : Prop :=
  ∀ s, R s (m.moments s) (leftBy m.run s)

namespace Chained

variable {R : TokenStream → List Moment → TokenStream → Prop}

theorem pure (h : Chained R) (a : α) : Keeps R (Pure.pure a : Watched α) :=
  h.refl

/-- What two computations keep up, one after the other keeps up. -/
theorem bind (h : Chained R) {m : Watched α} {k : α → Watched β} (hm : Keeps R m)
    (hk : ∀ a, Keeps R (k a)) : Keeps R (m >>= k) := by
  intro s
  have hfirst := hm s
  cases hrun : m.run s with
  | error fault s' =>
    rw [leftBy_of_error hrun] at hfirst
    rwa [leftBy_of_error (run_bind_of_error hrun k), moments_bind_of_error hrun]
  | ok a s' =>
    rw [leftBy_of_ok hrun] at hfirst
    rw [leftBy, run_bind_of_ok hrun, moments_bind_of_ok hrun]
    exact h.trans s _ s' _ _ hfirst (hk a s')

theorem abandon (h : Chained R) (tokens : List Token) : Keeps R (abandon tokens) :=
  h.bind (h.giveBack tokens) fun _ => h.pure none

/-- An attempt at a field is made of asking and giving back only. -/
theorem attempt (h : Chained R) : Keeps R attempt := by
  have hstop {n : Nat} {m : Watched (Option Field)} (hm : Stops n m) : Keeps R m := by
    cases hm with
    | nothing => exact h.pure none
    | abandoned read => exact h.abandon read
  have hrule : AttemptRule fun _ m => Keeps R m := by
    refine ⟨fun n k _ hnone hsome => h.bind h.ask fun found => ?_, fun n m _ hm => hstop hm,
      fun n f => h.pure _⟩
    cases found with
    | none => exact hstop hnone
    | some t => exact hsome t
  exact hrule.attempt

/-- A part of a construct after another; a part that is missing ends the construct. -/
theorem parseBind (h : Chained R) {m : ExceptT Malformed Watched α}
    {k : α → ExceptT Malformed Watched β} (hm : Keeps R m.run) (hk : ∀ a, Keeps R (k a).run) :
    Keeps R (m >>= k).run := by
  refine h.bind hm fun result => ?_
  cases result with
  | ok a => exact hk a
  | error e => exact h.pure (Except.error e)

theorem lift (h : Chained R) {m : Watched α} (hm : Keeps R m) :
    Keeps R (m : ExceptT Malformed Watched α).run :=
  h.bind hm fun a => h.pure (Except.ok a)

/-- An expectation asks for one token and gives none back. -/
theorem expect (h : Chained R) (what : Expectation) : Keeps R (expect what).run := by
  intro s
  have hseen : (Watched.expect what).run.moments s = [.asked (leftBy next s)] := rfl
  change R s _ (leftBy (StructScan.expect what).run s)
  rw [hseen, leftBy_expect]
  exact h.ask s

theorem tag (h : Chained R) : Keeps R tag := by
  refine h.bind h.ask fun found => ?_
  cases found with
  | none => exact h.pure ()
  | some t =>
    simp only
    split
    · exact h.pure ()
    · exact h.giveBack [t]

variable (htried : ∀ s l found s', StructScan.field? s = .ok found s' → R s l s' →
  R s (l ++ [.tried s found s']) s')
include htried

/-- Reading a field keeps up what its attempt does and what the telling adds. -/
theorem field? (h : Chained R) : Keeps R field? := by
  intro s
  have hattempt := h.attempt s
  have hrun : Watched.field?.run s = Watched.attempt.run s := rfl
  cases hfield : Watched.attempt.run s with
  | error fault s' =>
    rw [leftBy_of_error hfield] at hattempt
    rw [leftBy_of_error (hrun.trans hfield)]
    simpa only [Watched.field?, telling, hfield] using hattempt
  | ok found s' =>
    rw [leftBy_of_ok hfield] at hattempt
    rw [leftBy_of_ok (hrun.trans hfield)]
    simpa only [Watched.field?, telling, hfield] using
      htried s _ found s' (run_attempt ▸ hfield) hattempt

/-- So does reading all fields that come next. -/
theorem fields (h : Chained R) : Keeps R fields := by
  intro s
  change R s (seenInFields s) (leftBy StructScan.fields s)
  -- The recursion of the parser, one attempt at a time.
  fun_induction seenInFields s with
  | case1 s f s' hfield ih =>
    have hfirst := h.field? htried s
    rw [leftBy_of_ok (run_field? ▸ hfield)] at hfirst
    rw [leftBy_fields_of_some hfield]
    exact h.trans s _ s' _ _ hfirst ih
  | case2 s s' hfield =>
    have hfirst := h.field? htried s
    have hrun : StructScan.fields s = .ok [] s' := by rw [fields_eq, hfield]
    rw [leftBy_of_ok (run_field? ▸ hfield)] at hfirst
    rwa [leftBy_of_ok hrun]
  | case3 s fault s' hfield =>
    have hfirst := h.field? htried s
    have hrun : StructScan.fields s = .error fault s' := by rw [fields_eq, hfield]
    rw [leftBy_of_error (run_field? ▸ hfield)] at hfirst
    rwa [leftBy_of_error hrun]

/-- What is kept up along the way, reading a construct keeps up. -/
theorem parse (h : Chained R) (c : Construct) : Keeps R (parse c) := by
  have hfields := h.lift (h.fields htried)
  cases c with
  | struct =>
    exact h.parseBind (h.expect _) fun _ => h.parseBind (h.expect _) fun _ =>
      h.parseBind hfields fun _ => h.parseBind (h.expect _) fun _ =>
      h.parseBind (h.expect _) fun _ => h.pure (Except.ok _)
  | typedef =>
    exact h.parseBind (h.expect _) fun _ => h.parseBind (h.lift h.tag) fun _ =>
      h.parseBind (h.expect _) fun _ => h.parseBind hfields fun _ =>
      h.parseBind (h.expect _) fun _ => h.parseBind (h.expect _) fun _ =>
      h.parseBind (h.expect _) fun _ => h.pure (Except.ok _)

end Chained

end Watched

end StructScan
