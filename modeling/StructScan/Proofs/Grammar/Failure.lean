import StructScan.Proofs.Grammar.Calls
import StructScan.Proofs.Grammar.Lookahead
import StructScan.Proofs.Grammar.Quieting

/-!
# Calls over a source that fails

A source that cannot be read or decoded any further is taken for one that ends: to the callers of
a stream the two are the same, whichever calls they make.  Any other failure comes out of the call
that strikes it.  It strikes where the lines run out, so among calls that read tokens and give them
back it takes the place of the first empty answer.  The cursor stays where the next line was asked
for, at a line comment or at the end of the last line, and no token is found there afterwards.

Main results:

- Theorem `Call.perform_mirrors`: a call differs over both sources only where the failure strikes.
- Theorem `TokenStream.lex_of_fault`: where it strikes, both streams are left dry.
- Theorem `Call.trace_of_dry`: streams that are dry are alike from then on.
- Theorem `Call.trace_failing`: what callers see over a source that fails.
-/

namespace StructScan

open TokenStream

/-! ## What is seen of calls -/

/-- What the maker of a call sees: the answer, the current line, and how many lines were taken. -/
structure Seen where
  answer : Except Fault Answer
  line : Nat
  pulled : Nat

/-- What is seen of a stream that has given an answer. -/
def Seen.of (answer : Except Fault Answer) (s : TokenStream) : Seen :=
  ⟨answer, s.line, s.source.pulled⟩

/-- What is seen if the first empty answer is a failure instead. -/
def Seen.raiseFirst (fault : Fault) : List Seen → List Seen
  | [] => []
  | ⟨.ok (.token none), line, pulled⟩ :: later => ⟨.error fault, line, pulled⟩ :: later
  | seen :: later => seen :: raiseFirst fault later

theorem Seen.raiseFirst_cons (fault : Fault) {seen : Seen} (h : seen.answer ≠ .ok (.token none))
    (later : List Seen) : raiseFirst fault (seen :: later) = seen :: raiseFirst fault later := by
  rw [raiseFirst]
  rintro line pulled rfl
  exact h rfl

namespace Call

/-- What is seen of calls that are made one after the other, going on after those that fail. -/
def trace : List Call → TokenStream → List Seen
  | [], _ => []
  | call :: calls, s =>
    match call.perform s with
    | .ok answer s' => .of (.ok answer) s' :: trace calls s'
    | .error fault s' => .of (.error fault) s' :: trace calls s'

/-- A call that succeeds is seen, and the calls after it see what it leaves. -/
theorem trace_cons_of_ok {call : Call} {s s' : TokenStream} {answer : Answer}
    (h : call.perform s = .ok answer s') (calls : List Call) :
    trace (call :: calls) s = .of (.ok answer) s' :: trace calls s' := by
  simp only [trace, h]

/-- So is a call that fails. -/
theorem trace_cons_of_error {call : Call} {s s' : TokenStream} {fault : Fault}
    (h : call.perform s = .error fault s') (calls : List Call) :
    trace (call :: calls) s = .of (.error fault) s' :: trace calls s' := by
  simp only [trace, h]

/-- A call that reads a token or gives tokens back. -/
inductive Turn where
  | next
  | giveBack (tokens : List Token)

/-- The call of a turn. -/
def Turn.call : Turn → Call
  | next => .next
  | giveBack tokens => .pushBack tokens

/-! ## Failures taken for the end -/

/-- A call differs over a source that fails and one that ends only where the failure strikes. -/
theorem perform_mirrors (call : Call) : Mirrors call.perform := by
  cases call with
  | next => exact next_mirrors.bind fun _ => Mirrors.pure _
  | pushBack tokens => exact (unread_mirrors _).bind fun _ => Mirrors.pure _
  | field => exact field?_mirrors.bind fun _ => Mirrors.pure _
  | construct c => exact (parse_mirrors c).bind fun _ => Mirrors.pure _
  | close => exact fun s => ⟨rfl, rfl⟩

/-- A failure that is taken for the end shows in no call, and no call fails. -/
theorem trace_of_calm (calls : List Call) {s : TokenStream} (hcalm : s.Calm) :
    trace calls s = trace calls s.quieted ∧
      ∀ seen ∈ trace calls s, ∃ answer, seen.answer = .ok answer := by
  induction calls generalizing s with
  | nil => exact ⟨rfl, by simp [trace]⟩
  | cons call calls ih =>
    obtain ⟨answer, s', hperform, -, hcalm', -⟩ := call.perform_of_calm hcalm
    obtain ⟨hquiet, -⟩ := (mirrorsAt_of_ok hperform).mp (call.perform_mirrors s)
    obtain ⟨hsame, hanswered⟩ := ih hcalm'
    rw [trace_cons_of_ok hperform, trace_cons_of_ok hquiet, hsame]
    refine ⟨rfl, ?_⟩
    rw [← hsame]
    simpa [Seen.of] using hanswered

end Call

/-! ## Where the failure strikes -/

namespace TokenStream

/-- A stream that finds nothing more in its source and stands on its last line. -/
structure Dry (s : TokenStream) : Prop where
  calm : s.Calm
  ahead : s.ahead = []
  line : s.lastLine = s.line

/-- Two streams that hold the same tokens given back and look alike otherwise, both of them dry. -/
structure DryAlike (s u : TokenStream) : Prop where
  left : s.Dry
  right : u.Dry
  returned : s.returned = u.returned
  line : s.line = u.line
  pulled : s.source.pulled = u.source.pulled

/-- Tokens that are given back or taken off leave a stream as dry as it was. -/
theorem Dry.withReturned {s : TokenStream} (h : s.Dry) (tokens : List Token) :
    Dry { s with returned := tokens } where
  calm := h.calm
  ahead := h.ahead
  line := h.line

/-- Reading from a dry stream without a token given back gives nothing and takes no line. -/
theorem Dry.next_none {s : TokenStream} (h : s.Dry) (hreturned : s.returned = []) :
    ∃ s', next s = .ok none s' ∧ s'.Dry ∧ s'.returned = [] ∧ s'.line = s.line ∧
      s'.source.pulled = s.source.pulled := by
  have hnil : s.remaining = [] := by rw [remaining, hreturned, h.ahead]; rfl
  obtain ⟨s', hnext, hleaves, hline⟩ := next_of_remaining_nil h.calm hnil
  obtain ⟨hreturned', hahead'⟩ := List.append_eq_nil_iff.mp hleaves.remaining
  have hsame : s'.line = s.line := hline.trans h.line
  -- No line was counted, so none was taken.
  have hcounted := (framed_advances.next s h.calm).counted
  rw [leftBy_of_ok hnext, hsame] at hcounted
  refine ⟨s', hnext, ⟨hleaves.calm, hahead', hleaves.lastLine.trans hline.symm⟩, hreturned',
    hsame, by omega⟩

/--
Where a failure strikes, the stream over the quiet source reads nothing.  Both streams are left
dry, though only the quiet one has ended.
-/
theorem lex_of_fault {s : TokenStream} {fault : Fault} (hfault : s.source.fault? = some fault)
    (h : (Token.reach .code s.rest s.source.pending).start = none) :
    ∃ s' u, lex s = .error fault s' ∧ lex s.quieted = .ok none u ∧ DryAlike s' u := by
  have hpending := Token.reach_pending_eq_nil h
  obtain ⟨left, hleft⟩ : ∃ gap', Token.lineTokens
      (s.line + (Token.reach .code s.rest s.source.pending).pulled) .code
      (Token.remainder .code s.rest s.source.pending) = ([], gap') :=
    ⟨_, Token.lineTokens_of_lineEnd (Token.skip_remainder h)⟩
  have hquiet : lex s.quieted = s.quieted.arrive (Token.reach .code s.rest s.source.pending) := rfl
  rw [hquiet, lex]
  generalize Token.reach .code s.rest s.source.pending = r at h hpending hleft
  obtain ⟨start, pending, pulled⟩ := r
  obtain rfl : start = none := h
  obtain rfl : pending = [] := hpending
  have hsame : (s.source.handOut pulled []).fault? = some fault := hfault
  simp only [arrive, hsame]
  refine ⟨_, _, rfl, rfl, ?_, ?_, rfl, rfl, rfl⟩
  · refine ⟨rfl, ?_, ?_⟩
    · simp [ahead, Source.handOut, Source.exhaust, Token.linesTokens_cons, hleft]
    · simp [lastLine, Source.handOut, Source.exhaust]
  · exact ⟨rfl, by simp [ahead], by simp [lastLine]⟩

/-- A token is read alike over both sources, and the first time that none is the failure strikes. -/
theorem next_of_fault {s : TokenStream} {fault : Fault} (hended : s.ended = false)
    (hfault : s.source.fault? = some fault) :
    (∃ t s', next s = .ok (some t) s' ∧ next s.quieted = .ok (some t) s'.quieted ∧
        s'.ended = false ∧ s'.source.fault? = some fault) ∨
      ∃ s' u, next s = .error fault s' ∧ next s.quieted = .ok none u ∧ DryAlike s' u := by
  have hmirrors := next_mirrors s
  rcases next_cases s with ⟨t, ts, -, hnext⟩ | ⟨-, hended', -⟩ | ⟨hreturned, -, hnext⟩
  · exact .inl ⟨t, _, hnext, ((mirrorsAt_of_ok hnext).mp hmirrors).1, hended, hfault⟩
  · rw [hended] at hended'
    contradiction
  · have hquiet : next s.quieted = lex s.quieted := by simp [next, quieted, hreturned, hended]
    cases hstart : (Token.reach .code s.rest s.source.pending).start with
    | none =>
      obtain ⟨s', u, hlex, hlex', hdry⟩ := lex_of_fault hfault hstart
      exact .inr ⟨s', u, hnext.trans hlex, hquiet.trans hlex', hdry⟩
    | some found =>
      obtain ⟨first, rest⟩ := found
      have hlex : ∃ t s', lex s = .ok (some t) s' ∧ s'.ended = s.ended := by
        simp only [lex, arrive, hstart]
        exact ⟨_, _, rfl, rfl⟩
      obtain ⟨t, s', hlex, hopen⟩ := hlex
      rw [hlex] at hnext
      obtain ⟨hsame, hfault'⟩ := (mirrorsAt_of_ok hnext).mp hmirrors
      exact .inl ⟨t, s', hnext, hsame, hopen.trans hended, hfault'.trans hfault⟩

end TokenStream

/-! ## Turns over a source that fails -/

namespace Call

theorem perform_next_of_ok {s s' : TokenStream} {found : Option Token}
    (h : TokenStream.next s = .ok found s') :
    Call.next.perform s = .ok (.token found) s' := by
  simp only [perform, Bind.bind, EStateM.bind, h]
  rfl

theorem perform_next_of_error {s s' : TokenStream} {fault : Fault}
    (h : TokenStream.next s = .error fault s') : Call.next.perform s = .error fault s' := by
  simp only [perform, Bind.bind, EStateM.bind, h]

theorem perform_pushBack (tokens : List Token) (s : TokenStream) :
    (pushBack tokens).perform s =
      .ok .done { s with returned := tokens.reverse ++ s.returned } :=
  rfl

/-- Dry streams that look alike stay so, whatever is read and given back. -/
theorem trace_of_dry (turns : List Turn) {s u : TokenStream} (h : DryAlike s u) :
    trace (turns.map Turn.call) s = trace (turns.map Turn.call) u := by
  induction turns generalizing s u with
  | nil => rfl
  | cons turn turns ih =>
    have hseen (answer : Except Fault Answer) {s u : TokenStream} (h : DryAlike s u) :
        Seen.of answer s = Seen.of answer u := by simp only [Seen.of, h.line, h.pulled]
    have hgiven (tokens : List Token) :
        DryAlike { s with returned := tokens } { u with returned := tokens } :=
      ⟨h.left.withReturned tokens, h.right.withReturned tokens, rfl, h.line, h.pulled⟩
    rw [List.map_cons]
    cases turn with
    | giveBack tokens =>
      rw [Turn.call, trace_cons_of_ok (perform_pushBack tokens s),
        trace_cons_of_ok (perform_pushBack tokens u), h.returned, hseen _ (hgiven _),
        ih (hgiven _)]
    | next =>
      rw [Turn.call]
      cases hreturned : u.returned with
      | cons t ts =>
        have hnext {v : TokenStream} (hv : v.returned = t :: ts) :
            TokenStream.next v = .ok (some t) { v with returned := ts } := by
          simp only [TokenStream.next, hv]
        rw [trace_cons_of_ok (perform_next_of_ok (hnext (h.returned.trans hreturned))),
          trace_cons_of_ok (perform_next_of_ok (hnext hreturned)), hseen _ (hgiven _),
          ih (hgiven _)]
      | nil =>
        obtain ⟨s', hnext, hdry, hnil, hline, hpulled⟩ :=
          h.left.next_none (h.returned.trans hreturned)
        obtain ⟨u', hnext', hdry', hnil', hline', hpulled'⟩ := h.right.next_none hreturned
        have halike : DryAlike s' u' := by
          refine ⟨hdry, hdry', hnil.trans hnil'.symm, ?_, ?_⟩
          · rw [hline, hline', h.line]
          · rw [hpulled, hpulled', h.pulled]
        rw [trace_cons_of_ok (perform_next_of_ok hnext),
          trace_cons_of_ok (perform_next_of_ok hnext'), hseen _ halike, ih halike]

/-- The failure is seen in place of the first empty answer, and nowhere else. -/
theorem trace_of_fault (turns : List Turn) {s : TokenStream} {fault : Fault}
    (hended : s.ended = false) (hfault : s.source.fault? = some fault) :
    trace (turns.map Turn.call) s =
      Seen.raiseFirst fault (trace (turns.map Turn.call) s.quieted) := by
  induction turns generalizing s with
  | nil => rfl
  | cons turn turns ih =>
    rw [List.map_cons]
    cases turn with
    | giveBack tokens =>
      let s' : TokenStream := { s with returned := tokens.reverse ++ s.returned }
      have hquiet : (pushBack tokens).perform s.quieted = .ok .done s'.quieted := rfl
      have hgiven : Seen.of (.ok .done) s' = .of (.ok .done) s'.quieted := rfl
      rw [Turn.call, trace_cons_of_ok (perform_pushBack tokens s), trace_cons_of_ok hquiet,
        Seen.raiseFirst_cons fault (by simp [Seen.of]), ← hgiven, ← @ih s' hended hfault]
    | next =>
      rw [Turn.call]
      rcases next_of_fault hended hfault with ⟨t, s', hnext, hquiet, hopen, hfault'⟩ |
        ⟨s', u, hnext, hquiet, hdry⟩
      · have hread : Seen.of (.ok (.token (some t))) s' = .of (.ok (.token (some t))) s'.quieted :=
          rfl
        rw [trace_cons_of_ok (perform_next_of_ok hnext),
          trace_cons_of_ok (perform_next_of_ok hquiet),
          Seen.raiseFirst_cons fault (by simp [Seen.of]), ← hread, ← ih hopen hfault']
      · rw [trace_cons_of_error (perform_next_of_error hnext),
          trace_cons_of_ok (perform_next_of_ok hquiet), Seen.of, Seen.of, Seen.raiseFirst,
          hdry.line, hdry.pulled, trace_of_dry turns hdry]

/--
Callers see no difference between a source that cannot be read or decoded any further and one that
ends, whichever calls they make, and none of their calls fails.  Callers that read tokens and give
tokens back see any other failure once, in place of the first empty answer.
-/
theorem trace_failing (lines : List String) (calls : List Call) (turns : List Turn)
    (fault : Fault) :
    let stream (ending : Source.Ending) := ofSource (Source.ofLines lines ending)
    trace calls (stream .unreadable) = trace calls (stream .quiet) ∧
      trace calls (stream .undecodable) = trace calls (stream .quiet) ∧
      (∀ seen ∈ trace calls (stream .quiet), ∃ answer, seen.answer = .ok answer) ∧
      trace (turns.map Turn.call) (stream (.fatal fault)) =
        Seen.raiseFirst fault (trace (turns.map Turn.call) (stream .quiet)) := by
  intro stream
  have hcalm (ending : Source.Ending) (h : (stream ending).Calm) :
      trace calls (stream ending) = trace calls (stream .quiet) := (trace_of_calm calls h).1
  have hanswers := (trace_of_calm calls (s := stream .quiet) rfl).2
  have hfault := trace_of_fault turns (s := stream (.fatal fault)) rfl rfl
  exact ⟨hcalm .unreadable rfl, hcalm .undecodable rfl, hanswers, hfault⟩

end Call

end StructScan
