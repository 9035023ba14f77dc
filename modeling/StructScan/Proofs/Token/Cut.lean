import StructScan.Proofs.Token.Faces
import StructScan.Proofs.TokenStream.Remaining

/-!
# Tokens of a text that goes on

A text may be cut anywhere: inside a word, inside a comment, between the two characters
of a comment mark or of a newline.  When it goes on behind the cut, only its last token
can turn out to be another one, and this token is a word or a slash.

Main results:

- Theorem `skip_append`: more characters do not change where a token starts, unless it
  is a slash at the cut.
- Theorem `lexeme_append`: more characters do not change a token, unless it is a word at
  the cut.
- Theorem `TokenStream.tokensOfText_goesOn`: the tokens of a text go on with the text.
-/

namespace StructScan

/--
Tokens that go on: the second list starts with the first one, whose last token may be
replaced, unless it is a semicolon.
-/
inductive GoesOn : List Token → List Token → Prop where
  | nil (us : List Token) : GoesOn [] us
  | last {t : Token} (hkind : t.kind ≠ .semicolon) (us : List Token) : GoesOn [t] us
  | cons (t : Token) {ts us : List Token} (hrest : GoesOn ts us) : GoesOn (t :: ts) (t :: us)

namespace GoesOn

theorem append_left {ts us : List Token} (h : GoesOn ts us) (before : List Token) :
    GoesOn (before ++ ts) (before ++ us) := by
  induction before with
  | nil => exact h
  | cons t before ih => exact .cons t ih

theorem append_right {ts us : List Token} (h : GoesOn ts us) (more : List Token) :
    GoesOn ts (us ++ more) := by
  induction h with
  | nil us => exact .nil _
  | last hkind us => exact .last hkind _
  | cons t _ ih => exact .cons t ih

/-- Tokens go on with any tokens behind them. -/
theorem of_append (ts more : List Token) : GoesOn ts (ts ++ more) := by
  simpa using (nil more).append_left ts

end GoesOn

namespace Token

/-! ## One line -/

/-- More characters do not change where a token starts, unless it is a slash at the cut. -/
theorem skip_append {gap : Gap} {cs rest : List Char} {first : Char}
    (h : skip gap cs = .token first rest) (more : List Char) :
    (first = '/' ∧ rest = []) ∨ skip gap (cs ++ more) = .token first (rest ++ more) := by
  fun_induction skip gap cs with
  | case1 => contradiction
  | case2 => contradiction
  | case3 cs ih => simpa [skip] using ih h
  | case4 c cs _ _ hblank ih => simpa [skip_blank hblank] using ih h
  | case5 c cs hline hblock hblank =>
    cases h
    by_cases hcut : first = '/' ∧ rest = []
    · exact .inl hcut
    · right
      refine skip_token (by simpa using hblank) fun hslash => ?_
      cases rest with
      | nil => exact absurd ⟨hslash, rfl⟩ hcut
      | cons c rest =>
        refine ⟨fun hc => ?_, fun hc => ?_⟩
        · cases hc
          exact hline rest hslash rfl
        · cases hc
          exact hblock rest hslash rfl
  | case6 => contradiction
  | case7 cs ih => simpa [skip] using ih h
  | case8 c cs hclose ih =>
    -- The comment is closed before the cut, so `c` is not the first half of its closing mark.
    cases cs with
    | nil => simp [skip] at h
    | cons d cs =>
      have hmark : c = '*' → (d :: cs ++ more).head? ≠ some '/' := by
        intro hstar hd
        cases hd
        exact hclose cs hstar rfl
      rw [List.cons_append, skip_comment hmark]
      exact ih h

/-- No word is a semicolon. -/
theorem ofWord_kind_ne_semicolon (first : Char) (rest : List Char) (line : Int) :
    (ofWord first rest line).kind ≠ .semicolon := by
  have hkeyword : Kind.keyword? (String.ofList (first :: rest)) ≠ some .semicolon := by
    unfold Kind.keyword?
    split <;> simp
  simp only [ofWord]
  cases hkind : Kind.keyword? (String.ofList (first :: rest)) with
  | none => by_cases hdigit : Text.isDigit first = true <;> simp [hdigit]
  | some kind =>
    rintro rfl
    exact hkeyword hkind

/-- More characters do not change a token, unless it is a word at the cut. -/
theorem lexeme_append (line : Int) (first : Char) (rest more : List Char) :
    ((lexeme line first rest).1.kind ≠ .semicolon ∧ (lexeme line first rest).2 = []) ∨
      lexeme line first (rest ++ more) =
        ((lexeme line first rest).1, (lexeme line first rest).2 ++ more) := by
  by_cases hfirst : Text.isWordChar first = true
  · rw [lexeme, lexeme, if_pos hfirst, if_pos hfirst]
    cases hend : rest.dropWhile Text.isWordChar with
    | nil => exact .inl ⟨ofWord_kind_ne_semicolon _ _ _, rfl⟩
    | cons c later =>
      right
      have hsplit := List.takeWhile_append_dropWhile (p := Text.isWordChar) (l := rest)
      have hshort : (rest.takeWhile Text.isWordChar).length ≠ rest.length := by
        have hlength := congrArg List.length hsplit
        rw [hend, List.length_append, List.length_cons] at hlength
        omega
      rw [List.takeWhile_append, if_neg hshort, List.dropWhile_append, hend]
      rfl
  · right
    rw [lexeme, lexeme, if_neg hfirst, if_neg hfirst]

/-- The tokens of a line go on with the line. -/
theorem lineTokens_goesOn (line : Nat) (gap : Gap) (cs more : List Char) :
    GoesOn (lineTokens line gap cs).1 (lineTokens line gap (cs ++ more)).1 := by
  fun_induction lineTokens line gap cs with
  | case1 => exact .nil _
  | case2 gap cs first rest h later ih =>
    rcases skip_append h more with ⟨rfl, rfl⟩ | hskip
    · -- A slash at the cut may open a comment.
      have hslash : Kind.ofPunctuation '/' ≠ .semicolon := by decide
      simp only [later, lexeme, Text.isWordChar_slash, Bool.false_eq_true, if_false, lineTokens_nil]
      exact .last hslash _
    · rw [lineTokens_of_token hskip]
      rcases lexeme_append line first rest more with ⟨hkind, hend⟩ | hlexeme
      · simp only [later, hend, lineTokens_nil]
        exact .last hkind _
      · rw [hlexeme]
        exact .cons _ ih

/-! ## Several lines -/

/-- The tokens of lines go on with the last line and with the lines behind it. -/
theorem linesTokens_goesOn (line : Nat) (gap : Gap) (lines : List Line) (cs more : List Char)
    (later : List Line) :
    GoesOn (linesTokens line gap (lines ++ [cs])).1
      (linesTokens line gap (lines ++ (cs ++ more) :: later)).1 := by
  rw [linesTokens_append, linesTokens_append]
  refine GoesOn.append_left ?_ _
  rw [linesTokens_cons, linesTokens_cons, linesTokens_nil, List.append_nil]
  exact (lineTokens_goesOn _ _ cs more).append_right _

end Token

/-- The tokens of a text go on with the text, wherever it is cut. -/
theorem TokenStream.tokensOfText_goesOn (text later : String) :
    GoesOn (tokensOfText text) (tokensOfText (text ++ later)) := by
  rw [tokensOfText_eq_linesTokens, tokensOfText_eq_linesTokens]
  unfold Text.lines
  obtain ⟨more, hfold⟩ := Text.exists_foldNewlines_append text.toList later.toList
  rw [String.toList_append, hfold]
  rcases Text.cutLines_append_cases (Text.foldNewlines text.toList) more with
    ⟨lines, hlines⟩ | ⟨lines, line, extra, lines', hlines, hlines'⟩
  · rw [hlines, Token.linesTokens_append]
    exact GoesOn.of_append _ _
  · rw [hlines, hlines']
    exact Token.linesTokens_goesOn 1 .code lines line extra lines'

end StructScan
