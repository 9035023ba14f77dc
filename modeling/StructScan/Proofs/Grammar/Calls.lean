import StructScan.Proofs.Grammar.Following
import StructScan.Proofs.Grammar.Framing

/-!
# Calls in any order

The callers of a stream read tokens, give any tokens back, read fields and constructs, and
close it, in whatever order they like.  To them the stream is a list, the tokens still to
come: every call answers what a function on that list answers, and leaves the list that the
function leaves.  The one thing that the list does not say is the line on which the input
ends.

Main results:

- Theorem `Listed.parse_zero`: the last line shows in nothing but a failure at the end.
- Theorem `Call.perform_of_calm`: one call does to the stream what it does to the list.
- Theorem `Call.run_of_calm`: so do any number of calls.
- Theorem `Call.run_keeps`: what reading, giving back and closing keep up, calls keep up.
- Theorem `Call.run_staysEnded`: once a stream has ended, no call takes a line.
- Theorem `Call.run_actsAsList`: a stream over lines acts as the list of their tokens.
-/

namespace StructScan

open Token (linesTokens)
open TokenStream

/-! ## Calls and answers -/

/-- One call on a stream. -/
inductive Call where
  | next
  | pushBack (tokens : List Token)
  | field
  | construct (construct : Construct)
  | close
  deriving DecidableEq, Repr

/-- What a call answers. -/
inductive Answer where
  | token (found : Option Token)
  | field (found : Option Field)
  | layout (layout : Layout)
  | malformed (e : Malformed)
  | done
  deriving DecidableEq, Repr

/-- The answer of the parser of a construct. -/
def Answer.ofParse : Except Malformed Layout → Answer
  | .ok found => .layout found
  | .error e => .malformed e

namespace Call

/-- Makes one call. -/
def perform : Call → Reading Answer
  | next => do return .token (← TokenStream.next)
  | pushBack tokens => do
    TokenStream.pushBack tokens
    return .done
  | field => do return .field (← field?)
  | construct c => do return .ofParse (← c.parse.run)
  | close => do
    modify TokenStream.close
    return .done

/-- Makes calls one after the other, going on after those that fail. -/
def run : List Call → TokenStream → List (Except Fault Answer) × TokenStream
  | [], s => ([], s)
  | call :: calls, s =>
    match call.perform s with
    | .ok answer s' => (.ok answer :: (run calls s').1, (run calls s').2)
    | .error fault s' => (.error fault :: (run calls s').1, (run calls s').2)

end Call

namespace Listed

/-- What a call answers on a list of tokens, and the list that it leaves. -/
def perform : Call → List Token → Answer × List Token
  | .next, ts => (.token ts.head?, ts.tail)
  | .pushBack tokens, ts => (.done, tokens.reverse ++ ts)
  | .field, ts =>
    match field? ts with
    | some (f, rest) => (.field (some f), rest)
    | none => (.field none, ts)
  | .construct c, ts => (.ofParse (parse c 0 ts).1, (parse c 0 ts).2)
  | .close, _ => (.done, [])

/-- What calls answer on a list of tokens, and the list that they leave. -/
def run : List Call → List Token → List Answer × List Token
  | [], ts => ([], ts)
  | call :: calls, ts =>
    ((perform call ts).1 :: (run calls (perform call ts).2).1, (run calls (perform call ts).2).2)

end Listed

/-! ## The line at the end of the input -/

/-- A failure without its line if the line is that of the end of the input. -/
def Malformed.blurred (e : Malformed) : Malformed :=
  if e.found = none then { e with line := 0 } else e

/-- An answer without the line of the end of the input. -/
def Answer.blurred : Answer → Answer
  | malformed e => malformed e.blurred
  | answer => answer

@[simp]
theorem Malformed.blurred_expected (e : Malformed) : e.blurred.expected = e.expected := by
  unfold blurred
  split <;> rfl

@[simp]
theorem Malformed.blurred_found (e : Malformed) : e.blurred.found = e.found := by
  unfold blurred
  split <;> rfl

/-- A construct is given up in the same way whichever line is the last one. -/
theorem GivesUp.blurred {construct : Construct} {last : Nat} {matched left rest : List Token}
    {e : Malformed} (h : GivesUp construct last matched left e rest) :
    GivesUp construct 0 matched left e.blurred rest := by
  have hline := h.refuses.line
  refine ⟨by simpa using h.begins, by simpa using h.longest, ?_⟩
  refine ⟨by simpa using h.refuses.tokens, by simpa using h.refuses.refused,
    by simpa using h.refuses.atEnd, ?_⟩
  cases hfound : e.found with
  | none => simp [Malformed.blurred, hfound]
  | some t => simpa [Malformed.blurred, hfound] using hline

/-- The last line shows in nothing but a failure at the end of the input. -/
theorem Listed.parse_zero (c : Construct) (last : Nat) (ts : List Token) :
    (Answer.ofParse (parse c last ts).1).blurred = .ofParse (parse c 0 ts).1 ∧
      (parse c last ts).2 = (parse c 0 ts).2 := by
  cases hparse : parse c last ts with
  | mk result rest =>
    cases result with
    | ok layout =>
      have hspelled := parse_ok_iff.mp hparse
      have hzero : parse c 0 ts = (.ok layout, rest) := parse_ok_iff.mpr hspelled
      rw [hzero]
      exact ⟨rfl, rfl⟩
    | error e =>
      obtain ⟨matched, left, hts, hgivesUp⟩ := parse_error_iff.mp hparse
      have hzero : parse c 0 ts = (.error e.blurred, rest) :=
        parse_error_iff.mpr ⟨matched, left, hts, hgivesUp.blurred⟩
      rw [hzero]
      exact ⟨rfl, rfl⟩

/-! ## One call -/

namespace Call

/-- A computation whose result is made an answer does to the list what it did before. -/
theorem answer_of_follows {m : Reading α} {g : α → Answer} {f : Nat → List Token → α × List Token}
    (hm : Follows m f) {s : TokenStream} (hcalm : s.Calm) :
    ∃ s', (do return g (← m) : Reading Answer) s = .ok (g (f s.lastLine s.remaining).1) s' ∧
      s'.Calm ∧ s'.remaining = (f s.lastLine s.remaining).2 := by
  obtain ⟨s', hrun, hleaves⟩ := (hm.bind fun a => Follows.pure (g a)) s hcalm
  exact ⟨s', hrun, hleaves.calm, hleaves.remaining⟩

/-- One call answers on a stream what it answers on the list, and leaves the list it leaves. -/
theorem perform_of_calm (call : Call) {s : TokenStream} (hcalm : s.Calm) :
    ∃ answer s', call.perform s = .ok answer s' ∧
      answer.blurred = (Listed.perform call s.remaining).1 ∧ s'.Calm ∧
      s'.remaining = (Listed.perform call s.remaining).2 := by
  cases call with
  | next =>
    obtain ⟨s', hrun, hcalm', hleft⟩ := answer_of_follows (g := Answer.token) next_follows hcalm
    exact ⟨_, s', hrun, rfl, hcalm', hleft⟩
  | pushBack tokens =>
    obtain ⟨s', hrun, hcalm', hleft⟩ :=
      answer_of_follows (g := fun _ => Answer.done) (unread_follows tokens.reverse) hcalm
    exact ⟨_, s', hrun, rfl, hcalm', hleft⟩
  | field =>
    obtain ⟨s', hrun, hcalm', hleft⟩ := answer_of_follows (g := Answer.field) field?_follows hcalm
    have hlisted : Listed.perform .field s.remaining =
        (.field (Listed.settle [] s.remaining (Listed.field? s.remaining)).1,
          (Listed.settle [] s.remaining (Listed.field? s.remaining)).2) := by
      rw [Listed.perform]
      cases Listed.field? s.remaining with
      | none => rfl
      | some found => rfl
    rw [hlisted]
    exact ⟨_, s', hrun, rfl, hcalm', hleft⟩
  | construct c =>
    obtain ⟨s', hrun, hcalm', hleft⟩ :=
      answer_of_follows (g := Answer.ofParse) (parse_parsesAs c) hcalm
    obtain ⟨hanswer, hrest⟩ := Listed.parse_zero c s.lastLine s.remaining
    exact ⟨_, s', hrun, hanswer, hcalm', hleft.trans hrest⟩
  | close => exact ⟨.done, s.close, rfl, rfl, hcalm, rfl⟩

/-! ## Any number of calls -/

theorem run_cons_of_ok {call : Call} {s s' : TokenStream} {answer : Answer}
    (h : call.perform s = .ok answer s') (calls : List Call) :
    run (call :: calls) s = (.ok answer :: (run calls s').1, (run calls s').2) := by
  simp only [run, h]

/-- Any number of calls answer on a stream what they answer on the list. -/
theorem run_of_calm (calls : List Call) {s : TokenStream} (hcalm : s.Calm) :
    ∃ answers : List Answer, (run calls s).1 = answers.map .ok ∧
      answers.map Answer.blurred = (Listed.run calls s.remaining).1 ∧ (run calls s).2.Calm ∧
      (run calls s).2.remaining = (Listed.run calls s.remaining).2 := by
  induction calls generalizing s with
  | nil => exact ⟨[], rfl, rfl, hcalm, rfl⟩
  | cons call calls ih =>
    obtain ⟨answer, s', hperform, hanswer, hcalm', hleft⟩ := call.perform_of_calm hcalm
    obtain ⟨answers, hrun, hanswers, hcalm'', hleft'⟩ := ih hcalm'
    rw [hleft] at hanswers hleft'
    rw [run_cons_of_ok hperform]
    refine ⟨answer :: answers, ?_, ?_, hcalm'', hleft'⟩
    · rw [List.map_cons, hrun]
    · rw [List.map_cons, hanswer, hanswers, Listed.run]

/-- Calls after others start from the stream that these leave. -/
theorem run_append (calls later : List Call) (s : TokenStream) :
    run (calls ++ later) s =
      ((run calls s).1 ++ (run later (run calls s).2).1, (run later (run calls s).2).2) := by
  induction calls generalizing s with
  | nil => rfl
  | cons call calls ih =>
    simp only [List.cons_append, run]
    cases call.perform s with
    | ok answer s' => simp [ih]
    | error fault s' => simp [ih]

/-! ## After the end -/

/-- What reading, giving back and closing keep up, a call keeps up. -/
theorem perform_keeps {R : TokenStream → TokenStream → Prop} (h : Framed R)
    (hclose : ∀ s, R s s.close) (call : Call) : Keeps R call.perform := by
  cases call with
  | next => exact h.bind h.next fun _ => h.pure _
  | pushBack tokens => exact h.bind (h.unread _) fun _ => h.pure _
  | field => exact h.bind h.field? fun _ => h.pure _
  | construct c => exact h.bind (h.parse c) fun _ => h.pure _
  | close => exact hclose

/-- What reading, giving back and closing keep up, any number of calls keep up. -/
theorem run_keeps {R : TokenStream → TokenStream → Prop} (h : Framed R)
    (hclose : ∀ s, R s s.close) (calls : List Call) (s : TokenStream) : R s (run calls s).2 := by
  induction calls generalizing s with
  | nil => exact h.refl s
  | cons call calls ih =>
    have hfirst := call.perform_keeps h hclose s
    simp only [run]
    cases hperform : call.perform s with
    | ok answer s' =>
      rw [leftBy_of_ok hperform] at hfirst
      exact h.trans _ _ _ hfirst (ih s')
    | error fault s' =>
      rw [leftBy_of_error hperform] at hfirst
      exact h.trans _ _ _ hfirst (ih s')

/-- Once a stream has ended, no call takes a line. -/
theorem run_staysEnded (calls : List Call) (s : TokenStream) : StaysEnded s (run calls s).2 :=
  run_keeps framed_staysEnded (fun _ _ => ⟨rfl, rfl, rfl⟩) calls s

end Call

/-! ## Where tokens come from -/

/-- The tokens that a call gives back. -/
def Call.givenBack : Call → List Token
  | pushBack tokens => tokens
  | _ => []

namespace Listed

/-- A call leaves tokens of the list and those that it gives back. -/
theorem mem_perform {call : Call} {ts : List Token} {t : Token} (h : t ∈ (perform call ts).2) :
    t ∈ ts ++ call.givenBack := by
  cases call with
  | next => exact List.mem_append_left _ (List.mem_of_mem_tail h)
  | pushBack tokens =>
    simp only [perform, List.mem_append, List.mem_reverse] at h
    simpa [Call.givenBack] using h.symm
  | field =>
    refine List.mem_append_left _ ?_
    simp only [perform] at h
    split at h
    · rename_i f rest hfield
      obtain ⟨declaration, rfl, -⟩ := field?_eq_some_iff.mp hfield
      exact List.mem_append_right _ h
    · exact h
  | construct c =>
    refine List.mem_append_left _ ?_
    simp only [perform] at h
    cases hparse : parse c 0 ts with
    | mk result rest =>
      rw [hparse] at h
      cases result with
      | ok layout =>
        obtain ⟨spelled, rfl, -⟩ := parse_ok_iff.mp hparse
        exact List.mem_append_right _ h
      | error e =>
        obtain ⟨matched, left, rfl, hgivesUp⟩ := parse_error_iff.mp hparse
        rw [hgivesUp.refuses.tokens]
        exact List.mem_append_right _ (List.mem_append_right _ h)
  | close => simp [perform] at h

/-- Only reading answers with a token, the head of the list. -/
theorem head?_of_read {call : Call} {ts : List Token} {found : Option Token}
    (h : (perform call ts).1 = .token found) : call = .next ∧ found = ts.head? := by
  cases call with
  | next =>
    cases h
    exact ⟨rfl, rfl⟩
  | pushBack tokens => cases h
  | field =>
    simp only [perform] at h
    split at h <;> cases h
  | construct c =>
    simp only [perform] at h
    cases hresult : (parse c 0 ts).1 <;> simp [hresult, Answer.ofParse] at h
  | close => cases h

/-- A token that is read is one of the list or one that was given back. -/
theorem mem_of_read {calls : List Call} {ts : List Token} {t : Token}
    (h : .token (some t) ∈ (run calls ts).1) : t ∈ ts ++ calls.flatMap Call.givenBack := by
  induction calls generalizing ts with
  | nil => simp [run] at h
  | cons call calls ih =>
    rw [run] at h
    rcases List.mem_cons.mp h with hfirst | hlater
    · have hhead := (head?_of_read hfirst.symm).2
      exact List.mem_append_left _ (List.mem_of_mem_head? hhead.symm)
    · rw [List.flatMap_cons, ← List.append_assoc]
      rcases List.mem_append.mp (ih hlater) with hleft | hgiven
      · exact List.mem_append_left _ (mem_perform hleft)
      · exact List.mem_append_right _ hgiven

end Listed

/-! ## Streams over lines -/

namespace Call

/-- Calls on a stream answer what they answer on a list of tokens, and leave what they leave. -/
structure ActAs (ts : List Token) (calls : List Call) (s : TokenStream) : Prop where
  answers : (run calls s).1.map (Except.map Answer.blurred) = (Listed.run calls ts).1.map .ok
  left : (run calls s).2.drain.items = (Listed.run calls ts).2

/--
A stream that is done with its source: no call takes a line any more, and no token is read
but those that were given back already and those that calls give back.
-/
structure Detached (s : TokenStream) : Prop where
  takes : ∀ calls, (run calls s).2.source.pulled = s.source.pulled ∧
    (run calls s).2.source.pending = s.source.pending
  reads : ∀ calls t, .ok (.token (some t)) ∈ (run calls s).1 →
    t ∈ s.returned ++ calls.flatMap givenBack

theorem detached_of_ended {s : TokenStream} (hcalm : s.Calm) (hended : s.ended = true) :
    Detached s where
  takes calls := by
    obtain ⟨-, hpending, hpulled⟩ := run_staysEnded calls s hended
    exact ⟨hpulled, hpending⟩
  reads calls t ht := by
    obtain ⟨answers, hrun, hanswers, -⟩ := run_of_calm calls hcalm
    have hremaining : s.remaining = s.returned := by simp [remaining, ahead, hended]
    have hmem : Answer.token (some t) ∈ answers := by
      rw [hrun] at ht
      simpa using ht
    have hblurred : Answer.token (some t) ∈ (Listed.run calls s.remaining).1 := by
      rw [← hanswers]
      exact List.mem_map.mpr ⟨_, hmem, rfl⟩
    rw [hremaining] at hblurred
    exact Listed.mem_of_read hblurred

/-- The result of a computation whose value is passed on by a function. -/
theorem exists_of_return {m : Reading α} {g : α → Answer} {s s' : TokenStream} {answer : Answer}
    (h : (do return g (← m) : Reading Answer) s = .ok answer s') :
    ∃ a, m s = .ok a s' ∧ answer = g a := by
  simp only [Bind.bind, EStateM.bind] at h
  cases hrun : m s with
  | error fault s'' => simp [hrun] at h
  | ok a s'' =>
    rw [hrun] at h
    cases h
    exact ⟨a, rfl, rfl⟩

/-- Closing a stream or reading nothing from it ends it, and nothing given back is left over. -/
theorem ended_of_perform {call : Call} {s s' : TokenStream} {answer : Answer}
    (h : call.perform s = .ok answer s') (hcall : call = .close ∨ answer = .token none) :
    s'.ended = true ∧ s'.returned = [] := by
  cases call with
  | close =>
    cases h
    exact ⟨rfl, rfl⟩
  | next =>
    obtain ⟨found, hnext, rfl⟩ := exists_of_return h
    have hnone : found = none := by simpa using hcall
    exact (ended_of_next hnext).2 hnone
  | pushBack tokens =>
    obtain ⟨_, -, rfl⟩ := exists_of_return h
    simp at hcall
  | field =>
    obtain ⟨_, -, rfl⟩ := exists_of_return h
    simp at hcall
  | construct c =>
    obtain ⟨result, -, rfl⟩ := exists_of_return h
    cases result <;> simp [Answer.ofParse] at hcall

/-- After calls among which the stream was closed or found empty, it has ended. -/
theorem ended_of_run {calls : List Call} {s : TokenStream} (hcalm : s.Calm)
    (h : .close ∈ calls ∨ .ok (.token none) ∈ (run calls s).1) : (run calls s).2.ended = true := by
  induction calls generalizing s with
  | nil => simp [run] at h
  | cons call calls ih =>
    obtain ⟨answer, s', hperform, -, hcalm', -⟩ := call.perform_of_calm hcalm
    rw [run_cons_of_ok hperform] at h ⊢
    by_cases hends : call = .close ∨ answer = .token none
    · have hended := (ended_of_perform hperform hends).1
      exact (run_staysEnded calls s' hended).1
    · obtain ⟨hclose, hnone⟩ := not_or.mp hends
      refine ih hcalm' ?_
      simpa [Ne.symm hclose, Ne.symm hnone] using h

/-- Directly after the stream was closed or found empty, nothing that was given back is left. -/
theorem returned_of_run {calls : List Call} {s : TokenStream} (hcalm : s.Calm)
    (h : calls.getLast? = some .close ∨ (run calls s).1.getLast? = some (.ok (.token none))) :
    (run calls s).2.returned = [] := by
  rcases List.eq_nil_or_concat calls with rfl | ⟨before, call, rfl⟩
  · simp [run] at h
  · obtain ⟨-, -, -, hcalm', -⟩ := run_of_calm before hcalm
    obtain ⟨answer, s', hperform, -⟩ := call.perform_of_calm hcalm'
    have hlast : run [call] (run before s).2 = ([.ok answer], s') := run_cons_of_ok hperform []
    rw [List.concat_eq_append, run_append, hlast] at h ⊢
    exact (ended_of_perform hperform (by simpa using h)).2

/--
A stream over lines acts as the list of their tokens, whichever calls are made in whichever
order.  Once it was closed or found empty it has ended, and a stream that has ended is done
with its source.  When it ends, also inside a parser, nothing that was given back is left over.
-/
theorem run_actsAsList (lines : List String) {ending : Source.Ending}
    (hending : ∀ fault, ending ≠ .fatal fault) (calls : List Call) :
    let start := ofSource (Source.ofLines lines ending)
    let s := (run calls start).2
    ActAs (linesTokens 1 .code (lines.map String.toList)).1 calls start ∧
      (.close ∈ calls ∨ .ok (.token none) ∈ (run calls start).1 → s.ended = true) ∧
      (s.ended = true → Detached s) ∧
      (calls.getLast? = some .close ∨
        (run calls start).1.getLast? = some (.ok (.token none)) → s.returned = []) ∧
      ∀ u u' found, TokenStream.next u = .ok found u' → u.ended = false → u'.ended = true →
        found = none ∧ u'.returned = [] := by
  intro start s
  have hcalm : start.Calm := by
    cases ending with
    | fatal fault => exact absurd rfl (hending fault)
    | quiet => rfl
    | unreadable => rfl
    | undecodable => rfl
  have htokens : start.remaining = (linesTokens 1 .code (lines.map String.toList)).1 :=
    remaining_ofSource _
  obtain ⟨answers, hrun, hanswers, hcalm', hleft⟩ := run_of_calm calls hcalm
  rw [htokens] at hanswers hleft
  refine ⟨⟨?_, ?_⟩, ended_of_run hcalm, detached_of_ended hcalm', returned_of_run hcalm, ?_⟩
  · rw [hrun, ← hanswers, List.map_map, List.map_map]
    rfl
  · rw [(drain_of_calm _ hcalm').1, hleft]
  · intro u u' found hnext hopen hended
    obtain ⟨hsome, hnone⟩ := ended_of_next hnext
    cases found with
    | none => exact ⟨rfl, (hnone rfl).2⟩
    | some t => simp [hsome rfl, hopen] at hended

/-- A struct that breaks off where the source does, with foreign tokens given back on the way. -/
theorem run_actsAsList_brokenOff :
    let lines := ["struct S \x7b\n", "int x"]
    let calls : List Call := [.next, .construct .struct, .pushBack [⟨.semicolon, ";", 9⟩], .field,
      .next, .close, .pushBack [⟨.int, "int", 7⟩, ⟨.star, "*", 8⟩], .next, .field, .next, .next]
    let start := ofSource (Source.ofLines lines .undecodable)
    let s := (run calls start).2
    (∀ fault, Source.Ending.undecodable ≠ .fatal fault) ∧
      ActAs (linesTokens 1 .code (lines.map String.toList)).1 calls start ∧
      (.close ∈ calls ∨ .ok (.token none) ∈ (run calls start).1 → s.ended = true) ∧
      (s.ended = true → Detached s) ∧
      (calls.getLast? = some .close ∨
        (run calls start).1.getLast? = some (.ok (.token none)) → s.returned = []) ∧
      ∀ u u' found, TokenStream.next u = .ok found u' → u.ended = false → u'.ended = true →
        found = none ∧ u'.returned = [] := by
  intro lines calls start s
  have hending (fault : Fault) : Source.Ending.undecodable ≠ .fatal fault := nofun
  exact ⟨hending, run_actsAsList lines hending calls⟩

end Call

end StructScan
