import StructScan.Proofs.Text.Classes
import StructScan.Proofs.Text.Lines
import StructScan.Proofs.Token.Listing

/-!
# Tokens of a text, character by character

The face of a token is its kind and its text, without the line that it stands on.
A text has its newlines folded and is cut into lines before tokens are found in it,
but none of this shows in their faces: they can be read off the characters from left
to right.  This module says what each kind of piece at the head of a text adds.

Main results:

- Theorem `faces_append_of_lineTokens`: a piece of one line adds the tokens that it
  adds to a line.
- Theorems `faces_blank`, `faces_lineComment`, `faces_openComment` and
  `faces_closeComment`: what is skipped adds nothing.
- Theorems `faces_word` and `faces_single`: a word and a single character add one
  token each.
- Theorem `lexed_of_mem_linesTokens`: every token is a word or a single character.
-/

namespace StructScan.Token

/-! ## Faces -/

/-- What a token is, wherever it stands: its kind and its text. -/
def face (t : Token) : Kind × String :=
  (t.kind, t.text)

/-- The faces of the tokens of lines do not depend on where the lines are counted from. -/
theorem map_face_linesTokens (line : Nat) (gap : Gap) (lines : List Line) :
    (linesTokens line gap lines).1.map face = (linesTokens 1 gap lines).1.map face := by
  have hshift (n : Nat) :
      (linesTokens n gap lines).1.map face = (linesTokens 0 gap lines).1.map face := by
    have h := linesTokens_shift n 0 gap lines
    rw [Nat.zero_add] at h
    rw [h, List.map_map]
    rfl
  rw [hshift line, hshift 1]

/-- The faces of the tokens in the characters of a text, the first of which belongs to a gap. -/
def faces (gap : Gap) (cs : List Char) : List (Kind × String) :=
  (linesTokens 1 gap (Text.cutLines (Text.foldNewlines cs))).1.map face

/-- The first line can be told apart even if it is empty. -/
theorem linesTokens_firstLine (line : Nat) (gap : Gap) (cs : List Char) :
    linesTokens line gap ((Text.firstLine cs).1 :: (Text.firstLine cs).2) =
      linesTokens line gap (Text.cutLines cs) := by
  rw [Text.firstLine]
  cases Text.cutLines cs with
  | nil => simp [linesTokens_cons]
  | cons first lines => rfl

/--
Characters without a newline at the head of a text add the tokens that they add at the head
of a line, if that line goes on with nothing, a line feed or what the text goes on with.
-/
theorem faces_append_of_lineTokens {gap gap' : Gap} {later : List Char} (cs : List Char)
    (ts : List Token) (hfeed : '\n' ∉ cs) (hreturn : '\r' ∉ cs)
    (h : ∀ rest, (∀ c, rest.head? = some c → c = '\n' ∨ later.head? = some c) →
      lineTokens 1 gap (cs ++ rest) =
        (ts ++ (lineTokens 1 gap' rest).1, (lineTokens 1 gap' rest).2)) :
    faces gap (cs ++ later) = ts.map face ++ faces gap' later := by
  unfold faces
  rw [Text.foldNewlines_append_of_notMem hreturn, ← linesTokens_firstLine,
    ← linesTokens_firstLine 1 gap', Text.firstLine_append hfeed, linesTokens_cons,
    linesTokens_cons, h]
  · simp
  · intro c hc
    rw [Text.head?_firstLine] at hc
    exact Text.head?_foldNewlines hc

/-! ## One step of skipping -/

theorem skip_blank {c : Char} (hc : Text.isBlank c = true) (cs : List Char) :
    skip .code (c :: cs) = skip .code cs := by
  have hslash : c ≠ '/' := by
    rintro rfl
    exact absurd hc (by decide)
  rw [skip, if_pos hc]
  · exact fun _ h _ => hslash h
  · exact fun _ h _ => hslash h

/-- No comment starts with these characters. -/
def OpensNoComment (c : Char) (cs : List Char) : Prop :=
  c = '/' → cs.head? ≠ some '/' ∧ cs.head? ≠ some '*'

theorem skip_token {c : Char} {cs : List Char} (hc : Text.isBlank c = false)
    (hopens : OpensNoComment c cs) : skip .code (c :: cs) = .token c cs := by
  rw [skip, if_neg (by simp [hc])]
  · rintro rest hslash rfl
    exact (hopens hslash).1 rfl
  · rintro rest hslash rfl
    exact (hopens hslash).2 rfl

theorem skip_comment {c : Char} {cs : List Char} (h : c = '*' → cs.head? ≠ some '/') :
    skip .comment (c :: cs) = skip .comment cs := by
  rw [skip]
  rintro rest hstar rfl
  exact h hstar rfl

/-- A line holds the tokens that skipping leads to. -/
theorem lineTokens_congr (line : Nat) {gap gap' : Gap} {cs ds : List Char}
    (h : skip gap cs = skip gap' ds) : lineTokens line gap cs = lineTokens line gap' ds := by
  cases hskip : skip gap' ds with
  | lineEnd gap'' => rw [lineTokens_of_lineEnd (h.trans hskip), lineTokens_of_lineEnd hskip]
  | token first rest => rw [lineTokens_of_token (h.trans hskip), lineTokens_of_token hskip]

/-! ## What is skipped -/

@[simp]
theorem faces_newline (gap : Gap) (cs : List Char) : faces gap ('\n' :: cs) = faces gap cs := by
  have hline : lineTokens 1 gap ['\n'] = ([], gap) := by
    cases gap with
    | code => exact lineTokens_of_lineEnd (by decide)
    | comment => exact lineTokens_of_lineEnd (by decide)
  rw [faces, Text.foldNewlines_newline, Text.cutLines, if_pos rfl, linesTokens_cons, hline,
    List.nil_append, map_face_linesTokens]
  rfl

@[simp]
theorem faces_return (gap : Gap) (cs : List Char) : faces gap ('\r' :: cs) = faces gap cs := by
  by_cases hpair : ∃ rest, cs = '\n' :: rest
  · obtain ⟨rest, rfl⟩ := hpair
    rw [faces, faces, Text.foldNewlines, Text.foldNewlines_newline]
  · rw [← faces_newline gap cs, faces, faces, Text.foldNewlines, Text.foldNewlines_newline]
    exact fun rest hrest => hpair ⟨rest, hrest⟩

/-- A blank adds nothing, also if it is a newline or half of one. -/
theorem faces_blank {c : Char} (hc : Text.isBlank c = true) (cs : List Char) :
    faces .code (c :: cs) = faces .code cs := by
  by_cases hfeed : c = '\n'
  · rw [hfeed, faces_newline]
  · by_cases hreturn : c = '\r'
    · rw [hreturn, faces_return]
    · refine faces_append_of_lineTokens [c] [] ?_ ?_ fun rest _ => ?_
      · simpa using Ne.symm hfeed
      · simpa using Ne.symm hreturn
      · exact lineTokens_congr 1 (skip_blank hc rest)

/-- The mark that opens a block comment leads into the comment. -/
theorem faces_openComment (cs : List Char) : faces .code ('/' :: '*' :: cs) = faces .comment cs :=
  faces_append_of_lineTokens ['/', '*'] [] (by decide) (by decide) fun rest _ =>
    lineTokens_congr 1 (by simp [skip])

/-- The mark that closes a block comment leads out of it. -/
theorem faces_closeComment (cs : List Char) : faces .comment ('*' :: '/' :: cs) = faces .code cs :=
  faces_append_of_lineTokens ['*', '/'] [] (by decide) (by decide) fun rest _ =>
    lineTokens_congr 1 (by simp [skip])

/-- Inside a block comment a character that does not start the closing mark adds nothing. -/
theorem faces_comment {c : Char} {cs : List Char} (h : c = '*' → cs.head? ≠ some '/') :
    faces .comment (c :: cs) = faces .comment cs := by
  by_cases hfeed : c = '\n'
  · rw [hfeed, faces_newline]
  · by_cases hreturn : c = '\r'
    · rw [hreturn, faces_return]
    · refine faces_append_of_lineTokens [c] [] ?_ ?_ fun rest hrest => ?_
      · simpa using Ne.symm hfeed
      · simpa using Ne.symm hreturn
      · refine lineTokens_congr 1 (skip_comment fun hstar hslash => ?_)
        rcases hrest '/' hslash with heq | hhead
        · contradiction
        · exact h hstar hhead

/-- A line comment with its line feed adds nothing. -/
theorem faces_lineComment {body : List Char} (hfeed : '\n' ∉ body) (hreturn : '\r' ∉ body)
    (cs : List Char) : faces .code ('/' :: '/' :: body ++ '\n' :: cs) = faces .code cs := by
  have hline : lineTokens 1 .code ('/' :: '/' :: body ++ ['\n']) = ([], .code) :=
    lineTokens_of_lineEnd (by simp [skip])
  have hcomment : '\r' ∉ '/' :: '/' :: body ++ ['\n'] := by simp [hreturn]
  have hfirst : '\n' ∉ '/' :: '/' :: body := by simp [hfeed]
  rw [List.append_cons, faces, Text.foldNewlines_append_of_notMem hcomment, List.append_assoc,
    List.singleton_append, ← linesTokens_firstLine, Text.firstLine_append hfirst,
    Text.firstLine_newline, linesTokens_cons, hline, List.nil_append, map_face_linesTokens]
  rfl

/-! ## Tokens -/

/-- A word that goes on with no further character of a word adds one token. -/
theorem faces_word {first : Char} {rest cs : List Char}
    (hword : ∀ c ∈ first :: rest, Text.isWordChar c = true)
    (hend : ∀ c, cs.head? = some c → Text.isWordChar c = false) :
    faces .code (first :: rest ++ cs) = (ofWord first rest 0).face :: faces .code cs := by
  have hfeed : '\n' ∉ first :: rest := fun h => absurd (hword _ h) (by decide)
  have hreturn : '\r' ∉ first :: rest := fun h => absurd (hword _ h) (by decide)
  have hfirst := hword first (by simp)
  refine faces_append_of_lineTokens _ [ofWord first rest 1] hfeed hreturn fun later hlater => ?_
  have hend' (c : Char) (hc : later.head? = some c) : ¬Text.isWordChar c = true := by
    rcases hlater c hc with rfl | hhead
    · decide
    · simp [hend c hhead]
  have hskip : skip .code (first :: (rest ++ later)) = .token first (rest ++ later) :=
    skip_token (Text.isBlank_of_isWordChar hfirst) fun hslash =>
      absurd hslash (Text.ne_slash_of_isWordChar hfirst)
  have hlexeme : lexeme 1 first (rest ++ later) = (ofWord first rest 1, later) := by
    have hrest (c : Char) (hc : c ∈ rest) : Text.isWordChar c = true := hword c (by simp [hc])
    rw [lexeme, if_pos hfirst, List.takeWhile_append_of_pos hrest,
      List.dropWhile_append_of_pos hrest]
    cases later with
    | nil => simp
    | cons c later =>
      have hc := hend' c rfl
      rw [List.takeWhile_cons_of_neg hc, List.dropWhile_cons_of_neg hc, List.append_nil]
  rw [List.cons_append, lineTokens_of_token hskip]
  simp [hlexeme]

/-- A character that belongs to no word and opens no comment adds one token. -/
theorem faces_single {c : Char} {cs : List Char} (hblank : Text.isBlank c = false)
    (hsingle : Text.isWordChar c = false) (hopens : OpensNoComment c cs) :
    faces .code (c :: cs) = (Kind.ofPunctuation c, String.ofList [c]) :: faces .code cs := by
  have hfeed : '\n' ≠ c := by
    rintro rfl
    exact absurd hblank (by decide)
  have hreturn : '\r' ≠ c := by
    rintro rfl
    exact absurd hblank (by decide)
  refine faces_append_of_lineTokens [c] [⟨Kind.ofPunctuation c, String.ofList [c], 1⟩]
    (by simpa using hfeed) (by simpa using hreturn) fun rest hrest => ?_
  have hskip : skip .code (c :: rest) = .token c rest := by
    refine skip_token hblank fun hslash => ⟨fun hhead => ?_, fun hhead => ?_⟩
    · rcases hrest _ hhead with heq | hhead
      · contradiction
      · exact (hopens hslash).1 hhead
    · rcases hrest _ hhead with heq | hhead
      · contradiction
      · exact (hopens hslash).2 hhead
  rw [List.singleton_append, lineTokens_of_token hskip]
  simp [lexeme, hsingle]

/-! ## The shape of a token -/

/-- The tokens that a lexer finds: words, and single characters that belong to no word. -/
inductive Lexed : Token → Prop where
  | word {first : Char} {rest : List Char} {line : Int}
      (hword : ∀ c ∈ first :: rest, Text.isWordChar c = true) : Lexed (ofWord first rest line)
  | single {c : Char} {line : Int} (hblank : Text.isBlank c = false)
      (hsingle : Text.isWordChar c = false) :
      Lexed ⟨Kind.ofPunctuation c, String.ofList [c], line⟩

/-- Skipping never halts at a blank. -/
theorem isBlank_of_skip_token {gap : Gap} {cs rest : List Char} {first : Char}
    (h : skip gap cs = .token first rest) : Text.isBlank first = false := by
  fun_induction skip gap cs with
  | case1 => contradiction
  | case2 => contradiction
  | case3 cs ih => exact ih h
  | case4 c cs _ _ _ ih => exact ih h
  | case5 c cs _ _ hblank =>
    cases h
    simpa using hblank
  | case6 => contradiction
  | case7 cs ih => exact ih h
  | case8 c cs _ ih => exact ih h

theorem lexed_lexeme {first : Char} (hblank : Text.isBlank first = false) (line : Int)
    (rest : List Char) : Lexed (lexeme line first rest).1 := by
  by_cases hfirst : Text.isWordChar first = true
  · rw [lexeme, if_pos hfirst]
    refine .word fun c hc => ?_
    rcases List.mem_cons.mp hc with rfl | hc
    · exact hfirst
    · exact List.all_eq_true.mp List.all_takeWhile c hc
  · rw [lexeme, if_neg hfirst]
    exact .single hblank (by simpa using hfirst)

theorem lexed_of_mem_lineTokens {line : Nat} {gap : Gap} {cs : List Char} {t : Token}
    (h : t ∈ (lineTokens line gap cs).1) : Lexed t := by
  fun_induction lineTokens line gap cs with
  | case1 => simp at h
  | case2 gap cs first rest hskip later ih =>
    rcases List.mem_cons.mp h with rfl | h
    · exact lexed_lexeme (isBlank_of_skip_token hskip) line rest
    · exact ih h

/-- Every token of lines is a word or a single character. -/
theorem lexed_of_mem_linesTokens {line : Nat} {gap : Gap} {lines : List Line} {t : Token}
    (h : t ∈ (linesTokens line gap lines).1) : Lexed t := by
  induction lines generalizing line gap with
  | nil => simp at h
  | cons cs lines ih =>
    rw [linesTokens_cons] at h
    rcases List.mem_append.mp h with h | h
    · exact lexed_of_mem_lineTokens h
    · exact ih h

end StructScan.Token
