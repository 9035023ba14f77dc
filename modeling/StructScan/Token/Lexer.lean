import StructScan.Text.Blank
import StructScan.Token

/-!
# Finding tokens in lines

Between two tokens stand blanks and comments.  A line comment runs to the end
of its line.  A block comment runs to the first closing mark that lies inside
one line, over as many lines as that takes.

Main results:

- Theorem `skip_token_length`: a token starts inside the part of the line that
  was skipped over.
- Theorem `skip_remainder`: where no token was found, none is found when the
  same place is read again.
- Theorem `lexeme_length`: a token takes up at least one character.
- Theorem `reach_size`: reaching a token never adds to what is left to read.
-/

namespace StructScan.Token

/-- One line of a source, with its line end if it has one. -/
abbrev Line := List Char

/-! ## Skipping inside one line -/

/-- What the text at the cursor belongs to. -/
inductive Gap where
  /-- Blanks, comments and tokens. -/
  | code
  /-- The inside of a block comment. -/
  | comment
  deriving DecidableEq, Repr

/-- Where skipping came to a halt. -/
inductive Halt where
  /-- At a character that starts a token, followed by the rest of the line. -/
  | token (first : Char) (rest : List Char)
  /-- At the end of the line. -/
  | lineEnd (gap : Gap)
  deriving DecidableEq, Repr

/-- Skips blanks and comments inside one line. -/
def skip : Gap → List Char → Halt
  | .code, [] => .lineEnd .code
  | .code, '/' :: '/' :: _ => .lineEnd .code
  | .code, '/' :: '*' :: cs => skip .comment cs
  | .code, c :: cs => if Text.isBlank c then skip .code cs else .token c cs
  | .comment, [] => .lineEnd .comment
  | .comment, '*' :: '/' :: cs => skip .code cs
  | .comment, _ :: cs => skip .comment cs

/-- A token starts inside the part of the line that was skipped over. -/
theorem skip_token_length {gap : Gap} {cs rest : List Char} {c : Char}
    (h : skip gap cs = .token c rest) : rest.length < cs.length := by
  fun_induction skip gap cs with
  | case1 => simp at h
  | case2 => simp at h
  | case3 cs ih => simp; have := ih h; omega
  | case4 c cs _ _ hb ih => simp; have := ih h; omega
  | case5 c cs =>
    simp only [Halt.token.injEq] at h
    simp [h.2]
  | case6 => simp at h
  | case7 cs ih => simp; have := ih h; omega
  | case8 c cs _ ih => simp; have := ih h; omega

/--
What is left of a line at the place where it turns out to hold no token: a line comment, which is
passed by taking the next line, or nothing.
-/
def leftAt : Gap → List Char → List Char
  | .code, [] => []
  | .code, '/' :: '/' :: cs => '/' :: '/' :: cs
  | .code, '/' :: '*' :: cs => leftAt .comment cs
  | .code, c :: cs => if Text.isBlank c then leftAt .code cs else []
  | .comment, [] => []
  | .comment, '*' :: '/' :: cs => leftAt .code cs
  | .comment, _ :: cs => leftAt .comment cs

/-- What is left is a part of the line. -/
theorem leftAt_length (gap : Gap) (cs : List Char) : (leftAt gap cs).length ≤ cs.length := by
  fun_induction leftAt gap cs with
  | case1 => exact Nat.le_refl _
  | case2 cs => exact Nat.le_refl _
  | case3 cs ih => simp only [List.length_cons]; omega
  | case4 c cs _ _ hb ih => simp only [List.length_cons]; omega
  | case5 => exact Nat.zero_le _
  | case6 => exact Nat.le_refl _
  | case7 cs ih => simp only [List.length_cons]; omega
  | case8 c cs _ ih => simp only [List.length_cons]; omega

/-- What is left of a line without a token holds none when it is read again. -/
theorem skip_leftAt {gap gap' : Gap} {cs : List Char} (h : skip gap cs = .lineEnd gap') :
    skip .code (leftAt gap cs) = .lineEnd .code := by
  fun_induction skip gap cs with
  | case1 => rfl
  | case2 cs => rfl
  | case3 cs ih => exact ih h
  | case4 c cs hline hblock hblank ih =>
    rw [leftAt, if_pos hblank]
    · exact ih h
    · exact hline
    · exact hblock
  | case5 c cs hline hblock hblank => contradiction
  | case6 => rfl
  | case7 cs ih => exact ih h
  | case8 c cs hclose ih =>
    rw [leftAt]
    · exact ih h
    · exact hclose

/-! ## One token -/

/-- The token that starts with a character, and what follows it: a whole word or one character. -/
def lexeme (line : Int) (first : Char) (rest : List Char) : Token × List Char :=
  if Text.isWordChar first then
    (ofWord first (rest.takeWhile Text.isWordChar) line, rest.dropWhile Text.isWordChar)
  else
    (⟨Kind.ofPunctuation first, String.ofList [first], line⟩, rest)

/-- A token takes up at least one character. -/
theorem lexeme_length (line : Int) (first : Char) (rest : List Char) :
    (lexeme line first rest).2.length ≤ rest.length := by
  unfold lexeme
  split
  · exact (List.dropWhile_suffix _).length_le
  · exact Nat.le_refl _

/-! ## Over several lines -/

/-- Where reading on from the cursor arrives. -/
structure Reach where
  /-- The first character of a token and the rest of its line, if there is a token. -/
  start : Option (Char × List Char)
  /-- The lines not read. -/
  pending : List Line
  /-- The number of lines read. -/
  pulled : Nat
  deriving DecidableEq, Repr

/-- Reads on to the next token, from line to line as long as the current one holds none. -/
def reach (gap : Gap) (cs : List Char) : List Line → Reach
  | [] =>
    match skip gap cs with
    | .token c rest => ⟨some (c, rest), [], 0⟩
    | .lineEnd _ => ⟨none, [], 0⟩
  | line :: pending =>
    match skip gap cs with
    | .token c rest => ⟨some (c, rest), line :: pending, 0⟩
    | .lineEnd gap' =>
      let r := reach gap' line pending
      { r with pulled := r.pulled + 1 }

/-- What is left of the last line where reading on finds no token. -/
def remainder (gap : Gap) (cs : List Char) : List Line → List Char
  | [] => leftAt gap cs
  | line :: pending =>
    match skip gap cs with
    | .token _ _ => []
    | .lineEnd gap' => remainder gap' line pending

/-- What is left where reading on finds no token holds none when it is read again. -/
theorem skip_remainder {gap : Gap} {cs : List Char} {pending : List Line}
    (h : (reach gap cs pending).start = none) :
    skip .code (remainder gap cs pending) = .lineEnd .code := by
  induction pending generalizing gap cs with
  | nil =>
    rw [reach] at h
    split at h
    · contradiction
    · rename_i gap' hskip
      exact skip_leftAt hskip
  | cons line pending ih =>
    rw [reach] at h
    rw [remainder]
    split at h
    · contradiction
    · exact ih h

/-- The number of characters in a list of lines. -/
def totalLength : List Line → Nat
  | [] => 0
  | line :: lines => line.length + totalLength lines

@[simp]
theorem totalLength_nil : totalLength [] = 0 :=
  rfl

@[simp]
theorem totalLength_cons (line : Line) (lines : List Line) :
    totalLength (line :: lines) = line.length + totalLength lines :=
  rfl

/-- Reaching a token uses up the character that it starts with. -/
theorem reach_size (gap : Gap) (cs : List Char) (pending : List Line) :
    totalLength (reach gap cs pending).pending +
        (match (reach gap cs pending).start with
          | some (_, rest) => rest.length + 1
          | none => 0) ≤
      cs.length + totalLength pending := by
  induction pending generalizing gap cs with
  | nil =>
    rw [reach]
    split
    · rename_i c rest h
      have := skip_token_length h
      simp
      omega
    · simp
  | cons line pending ih =>
    rw [reach]
    split
    · rename_i c rest h
      have := skip_token_length h
      simp
      omega
    · rename_i gap' h
      have := ih gap' line
      simp only [totalLength_cons]
      omega

/-- What is left of the last line was there before, and so were the lines not read. -/
theorem remainder_size (gap : Gap) (cs : List Char) (pending : List Line) :
    (remainder gap cs pending).length + totalLength (reach gap cs pending).pending ≤
      cs.length + totalLength pending := by
  induction pending generalizing gap cs with
  | nil =>
    have := leftAt_length gap cs
    rw [remainder, reach]
    split
    · simpa using this
    · simpa using this
  | cons line pending ih =>
    rw [remainder, reach]
    split
    · simp
    · rename_i gap' _
      have := ih gap' line
      simp only [totalLength_cons]
      omega

end StructScan.Token
