import StructScan.Token.Lexer

/-!
# The tokens of a list of lines

A stream finds its tokens one by one and pulls lines as it goes.  Here the same
tokens are listed line by line: what a line holds from the cursor on, and then
what the lines after it hold.  A listing of lines can be cut after any line,
where all that is carried over is the number of the line and whether a block
comment is open.

Main results:

- Theorem `linesTokens_eq_nil_of_reach`: where reading on finds no token, none is
  listed.
- Theorem `linesTokens_eq_cons_of_reach`: reading on finds the first token that is
  listed, and goes on to the others.
- Theorem `linesTokens_append`: the tokens of two runs of lines follow each other.
- Theorem `linesTokens_shift`: counting lines from elsewhere moves every token
  alike.
-/

namespace StructScan.Token

/-! ## Listing -/

/--
The tokens from the cursor to the end of a line, and what the text at the end of
the line belongs to.
-/
def lineTokens (line : Nat) (gap : Gap) (cs : List Char) : List Token × Gap :=
  match _h : skip gap cs with
  | .lineEnd gap' => ([], gap')
  | .token first rest =>
    let later := lineTokens line .code (lexeme line first rest).2
    ((lexeme line first rest).1 :: later.1, later.2)
termination_by cs.length
decreasing_by
  have := skip_token_length _h
  have := lexeme_length line first rest
  omega

/-- The tokens of lines, the first of which has the given number. -/
def linesTokens (line : Nat) (gap : Gap) : List Line → List Token × Gap
  | [] => ([], gap)
  | cs :: lines =>
    let later := linesTokens (line + 1) (lineTokens line gap cs).2 lines
    ((lineTokens line gap cs).1 ++ later.1, later.2)

/-- A line on which nothing is found adds no token. -/
theorem lineTokens_of_lineEnd {line : Nat} {gap gap' : Gap} {cs : List Char}
    (h : skip gap cs = .lineEnd gap') : lineTokens line gap cs = ([], gap') := by
  rw [lineTokens]
  split
  · rename_i gap'' h'
    rw [h] at h'
    cases h'
    rfl
  · rename_i first rest h'
    rw [h] at h'
    contradiction

/-- The token that is found on a line comes before the others of the line. -/
theorem lineTokens_of_token {line : Nat} {gap : Gap} {cs rest : List Char} {first : Char}
    (h : skip gap cs = .token first rest) :
    lineTokens line gap cs =
      ((lexeme line first rest).1 :: (lineTokens line .code (lexeme line first rest).2).1,
        (lineTokens line .code (lexeme line first rest).2).2) := by
  rw [lineTokens]
  split
  · rename_i gap'' h'
    rw [h] at h'
    contradiction
  · rename_i first' rest' h'
    rw [h] at h'
    cases h'
    rfl

@[simp]
theorem lineTokens_nil (line : Nat) (gap : Gap) : lineTokens line gap [] = ([], gap) := by
  cases gap with
  | code => exact lineTokens_of_lineEnd (by simp [skip])
  | comment => exact lineTokens_of_lineEnd (by simp [skip])

@[simp]
theorem linesTokens_nil (line : Nat) (gap : Gap) : linesTokens line gap [] = ([], gap) :=
  rfl

theorem linesTokens_cons (line : Nat) (gap : Gap) (cs : List Char) (lines : List Line) :
    linesTokens line gap (cs :: lines) =
      ((lineTokens line gap cs).1 ++ (linesTokens (line + 1) (lineTokens line gap cs).2 lines).1,
        (linesTokens (line + 1) (lineTokens line gap cs).2 lines).2) :=
  rfl

/-! ## Reading on -/

/-- Reading on pulls as many lines as it does not leave. -/
theorem reach_pulled (gap : Gap) (cs : List Char) (pending : List Line) :
    (reach gap cs pending).pulled + (reach gap cs pending).pending.length = pending.length := by
  induction pending generalizing gap cs with
  | nil =>
    rw [reach]
    split <;> rfl
  | cons line pending ih =>
    rw [reach]
    split
    · simp
    · rename_i gap' _
      have := ih gap' line
      simp only [List.length_cons]
      omega

/-- Reading on to the end leaves no line. -/
theorem reach_pending_eq_nil {gap : Gap} {cs : List Char} {pending : List Line}
    (h : (reach gap cs pending).start = none) : (reach gap cs pending).pending = [] := by
  induction pending generalizing gap cs with
  | nil =>
    rw [reach]
    split <;> rfl
  | cons line pending ih =>
    rw [reach] at h ⊢
    split at h
    · simp at h
    · exact ih h

/-- Where reading on finds no token, none is listed. -/
theorem linesTokens_eq_nil_of_reach (line : Nat) {gap : Gap} {cs : List Char}
    {pending : List Line} (h : (reach gap cs pending).start = none) :
    (linesTokens line gap (cs :: pending)).1 = [] := by
  induction pending generalizing line gap cs with
  | nil =>
    rw [reach] at h
    split at h
    · simp at h
    · rename_i hskip
      simp [linesTokens_cons, lineTokens_of_lineEnd hskip]
  | cons next pending ih =>
    rw [reach] at h
    split at h
    · simp at h
    · rename_i gap' hskip
      have hlater := ih (line + 1) h
      simpa [linesTokens_cons line, lineTokens_of_lineEnd hskip] using hlater

/-- Reading on finds the first token that is listed, and goes on to the others. -/
theorem linesTokens_eq_cons_of_reach (line : Nat) {gap : Gap} {cs rest : List Char}
    {pending : List Line} {first : Char}
    (h : (reach gap cs pending).start = some (first, rest)) :
    (linesTokens line gap (cs :: pending)).1 =
      (lexeme ↑(line + (reach gap cs pending).pulled) first rest).1 ::
        (linesTokens (line + (reach gap cs pending).pulled) .code
          ((lexeme ↑(line + (reach gap cs pending).pulled) first rest).2 ::
            (reach gap cs pending).pending)).1 := by
  induction pending generalizing line gap cs with
  | nil =>
    rw [reach] at h ⊢
    split at h
    · rename_i first' rest' hskip
      simp only [Option.some.injEq, Prod.mk.injEq] at h
      obtain ⟨rfl, rfl⟩ := h
      simp [linesTokens_cons, lineTokens_of_token hskip]
    · simp at h
  | cons next pending ih =>
    rw [reach] at h ⊢
    split at h
    · rename_i first' rest' hskip
      simp only [Option.some.injEq, Prod.mk.injEq] at h
      obtain ⟨rfl, rfl⟩ := h
      simp [linesTokens_cons, lineTokens_of_token hskip]
    · rename_i gap' hskip
      have hlater := ih (line + 1) h
      rw [linesTokens_cons line, lineTokens_of_lineEnd hskip]
      simpa [Nat.add_assoc, Nat.add_comm 1] using hlater

/-! ## Cutting and moving lines -/

/-- The tokens of two runs of lines follow each other. -/
theorem linesTokens_append (line : Nat) (gap : Gap) (lines later : List Line) :
    linesTokens line gap (lines ++ later) =
      ((linesTokens line gap lines).1 ++
          (linesTokens (line + lines.length) (linesTokens line gap lines).2 later).1,
        (linesTokens (line + lines.length) (linesTokens line gap lines).2 later).2) := by
  induction lines generalizing line gap with
  | nil => simp
  | cons cs lines ih =>
    rw [List.cons_append, linesTokens_cons, ih, linesTokens_cons]
    simp [Nat.add_comm, Nat.add_left_comm]

/-- The token a number of lines further down, or further up if the number is negative. -/
def shift (n : Int) (t : Token) : Token :=
  { t with line := t.line + n }

@[simp]
theorem shift_kind (n : Int) (t : Token) : (t.shift n).kind = t.kind :=
  rfl

@[simp]
theorem shift_text (n : Int) (t : Token) : (t.shift n).text = t.text :=
  rfl

@[simp]
theorem shift_line (n : Int) (t : Token) : (t.shift n).line = t.line + n :=
  rfl

/-- Moving back undoes moving. -/
@[simp]
theorem map_shift_neg (n : Int) (ts : List Token) : (ts.map (shift n)).map (shift (-n)) = ts := by
  have hback (t : Token) : (t.shift n).shift (-n) = t := by
    simp only [shift, Int.add_neg_cancel_right]
  simp [Function.comp_def, hback]

/-- A token does not depend on its line, except that it carries the number. -/
theorem lexeme_shift (n line : Nat) (first : Char) (rest : List Char) :
    lexeme ↑(line + n) first rest =
      ((lexeme line first rest).1.shift ↑n, (lexeme line first rest).2) := by
  unfold lexeme
  split
  · simp [ofWord, shift]
  · simp [shift]

/-- Counting from elsewhere moves every token of a line alike. -/
theorem lineTokens_shift (n line : Nat) (gap : Gap) (cs : List Char) :
    lineTokens (line + n) gap cs =
      ((lineTokens line gap cs).1.map (shift ↑n), (lineTokens line gap cs).2) := by
  fun_induction lineTokens line gap cs with
  | case1 gap cs gap' h => simp [lineTokens_of_lineEnd h]
  | case2 gap cs first rest h later ih =>
    rw [lineTokens_of_token h, lexeme_shift]
    simp only [ih, later, List.map_cons]

/-- Counting lines from elsewhere moves every token alike. -/
theorem linesTokens_shift (n line : Nat) (gap : Gap) (lines : List Line) :
    linesTokens (line + n) gap lines =
      ((linesTokens line gap lines).1.map (shift ↑n), (linesTokens line gap lines).2) := by
  induction lines generalizing line gap with
  | nil => simp
  | cons cs lines ih =>
    rw [linesTokens_cons, linesTokens_cons, lineTokens_shift]
    have hlater := ih (line + 1) (lineTokens line gap cs).2
    rw [Nat.add_right_comm] at hlater
    simp [hlater]

end StructScan.Token
