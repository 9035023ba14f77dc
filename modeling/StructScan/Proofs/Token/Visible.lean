import StructScan.Proofs.Text.Classes
import StructScan.Proofs.TokenStream.Remaining

/-!
# Tokens tile the visible characters

One pass over the lines says which characters are visible: it drops blanks, line
comments up to the end of their line, and block comments up to the first closing
mark that lies inside one line.  The tokens of the lines cover the visible
characters and nothing else, without gap or overlap, and each is a whole word or one
character that belongs to no word.

Main results:

- Theorem `lineTokens_tile`: the tokens of a line tile what is visible of it.
- Theorem `linesTokens_pairwise`: tokens come in the order of their lines.
- Theorem `TokenStream.tokens_tile_visible`: the tokens of any list of lines tile
  what is visible of them.
-/

namespace StructScan.Token

/-! ## Visible characters -/

/-- A character and where it stands. -/
structure Cell where
  line : Int
  column : Nat
  char : Char
  deriving DecidableEq, Repr

/-- What is visible of a line from a column on, and whether a block comment is open at its end. -/
def visibleIn (line : Nat) : Gap → Nat → List Char → List Cell × Gap
  | .code, _, [] => ([], .code)
  | .code, _, '/' :: '/' :: _ => ([], .code)
  | .code, column, '/' :: '*' :: cs => visibleIn line .comment (column + 2) cs
  | .code, column, c :: cs =>
    if Text.isBlank c then visibleIn line .code (column + 1) cs
    else
      let later := visibleIn line .code (column + 1) cs
      (⟨line, column, c⟩ :: later.1, later.2)
  | .comment, _, [] => ([], .comment)
  | .comment, column, '*' :: '/' :: cs => visibleIn line .code (column + 2) cs
  | .comment, column, _ :: cs => visibleIn line .comment (column + 1) cs

/-- What is visible of lines, the first of which has the given number. -/
def visibleFrom (line : Nat) (gap : Gap) : List Line → List Cell × Gap
  | [] => ([], gap)
  | cs :: lines =>
    let later := visibleFrom (line + 1) (visibleIn line gap 0 cs).2 lines
    ((visibleIn line gap 0 cs).1 ++ later.1, later.2)

/-- What is visible of lines, in order. -/
def visible (lines : List Line) : List Cell :=
  (visibleFrom 1 .code lines).1

/-- The cells of characters that stand side by side. -/
def cellsAt (line : Int) (column : Nat) : List Char → List Cell
  | [] => []
  | c :: cs => ⟨line, column, c⟩ :: cellsAt line (column + 1) cs

@[simp]
theorem map_char_cellsAt (line : Int) (column : Nat) (cs : List Char) :
    (cellsAt line column cs).map Cell.char = cs := by
  induction cs generalizing column with
  | nil => rfl
  | cons c cs ih => simp [cellsAt, ih]

/-! ## Skipping -/

/-- Characters whose last one, if there is one, belongs to no word. -/
def EndsWord (cs : List Char) : Prop :=
  ∀ c, cs.getLast? = some c → Text.isWordChar c = false

theorem EndsWord.cons {c : Char} {cs : List Char} (h : EndsWord cs)
    (hc : cs = [] → Text.isWordChar c = false) : EndsWord (c :: cs) := by
  intro d hd
  cases cs with
  | nil =>
    cases hd
    exact hc rfl
  | cons e es => exact h d hd

/-- Where skipping comes to the end of the line, nothing was visible. -/
theorem visibleIn_of_lineEnd {gap gap' : Gap} {cs : List Char} (h : skip gap cs = .lineEnd gap')
    (line column : Nat) : visibleIn line gap column cs = ([], gap') := by
  fun_induction skip gap cs generalizing column with
  | case1 =>
    cases h
    rfl
  | case2 =>
    cases h
    simp [visibleIn]
  | case3 cs ih =>
    rw [visibleIn]
    exact ih h _
  | case4 c cs hline hblock hblank ih =>
    rw [visibleIn, if_pos hblank]
    · exact ih h _
    · exact hline
    · exact hblock
  | case5 c cs hline hblock hblank => contradiction
  | case6 =>
    cases h
    rfl
  | case7 cs ih =>
    rw [visibleIn]
    exact ih h _
  | case8 c cs hclose ih =>
    rw [visibleIn]
    · exact ih h _
    · exact hclose

/-- Skipping passes over what is not visible, and halts at the next visible character. -/
theorem visibleIn_of_token {gap : Gap} {cs rest : List Char} {first : Char}
    (h : skip gap cs = .token first rest) :
    ∃ skipped, cs = skipped ++ first :: rest ∧ EndsWord skipped ∧ (gap = .comment → skipped ≠ []) ∧
      ∀ line column, visibleIn line gap column cs =
        (⟨line, column + skipped.length, first⟩ ::
            (visibleIn line .code (column + skipped.length + 1) rest).1,
          (visibleIn line .code (column + skipped.length + 1) rest).2) := by
  fun_induction skip gap cs with
  | case1 => contradiction
  | case2 => contradiction
  | case3 cs ih =>
    obtain ⟨skipped, rfl, hends, hne, hvisible⟩ := ih h
    refine ⟨'/' :: '*' :: skipped, rfl, (hends.cons fun _ => by simp).cons (by simp), by simp, ?_⟩
    intro line column
    rw [visibleIn, hvisible]
    simp [Nat.add_assoc, Nat.add_comm 2]
  | case4 c cs hline hblock hblank ih =>
    obtain ⟨skipped, rfl, hends, -, hvisible⟩ := ih h
    refine ⟨c :: skipped, rfl, hends.cons fun _ => Text.isWordChar_of_isBlank hblank, by simp, ?_⟩
    intro line column
    rw [visibleIn, if_pos hblank, hvisible]
    · simp [Nat.add_assoc, Nat.add_comm 1]
    · exact hline
    · exact hblock
  | case5 c cs hline hblock hblank =>
    cases h
    refine ⟨[], rfl, by simp [EndsWord], by simp, ?_⟩
    intro line column
    rw [visibleIn, if_neg hblank]
    · rfl
    · exact hline
    · exact hblock
  | case6 => contradiction
  | case7 cs ih =>
    obtain ⟨skipped, rfl, hends, -, hvisible⟩ := ih h
    refine ⟨'*' :: '/' :: skipped, rfl, (hends.cons fun _ => by simp).cons (by simp), by simp, ?_⟩
    intro line column
    rw [visibleIn, hvisible]
    simp [Nat.add_assoc, Nat.add_comm 2]
  | case8 c cs hclose ih =>
    obtain ⟨skipped, rfl, hends, hne, hvisible⟩ := ih h
    refine ⟨c :: skipped, rfl, hends.cons fun hnil => absurd hnil (hne rfl), by simp, ?_⟩
    intro line column
    rw [visibleIn, hvisible]
    · simp [Nat.add_assoc, Nat.add_comm 1]
    · exact hclose

/-- A word is visible as a whole. -/
theorem visibleIn_word {word : List Char} (hword : ∀ c ∈ word, Text.isWordChar c = true)
    (line column : Nat) (rest : List Char) :
    visibleIn line .code column (word ++ rest) =
      (cellsAt line column word ++ (visibleIn line .code (column + word.length) rest).1,
        (visibleIn line .code (column + word.length) rest).2) := by
  induction word generalizing column with
  | nil => rfl
  | cons c word ih =>
    have hc := hword c (by simp)
    have hblank : ¬Text.isBlank c = true := by simp [Text.isBlank_of_isWordChar hc]
    have hlater := ih (fun d hd => hword d (by simp [hd])) (column + 1)
    rw [List.cons_append, visibleIn, if_neg hblank, hlater]
    · simp [cellsAt, Nat.add_assoc, Nat.add_comm 1]
    · exact fun _ hslash _ => Text.ne_slash_of_isWordChar hc hslash
    · exact fun _ hslash _ => Text.ne_slash_of_isWordChar hc hslash

/-! ## Tiling a line -/

/--
A token stands in a line at a column: as a whole word, which its text and its first
character classify, or as one character that belongs to no word.
-/
inductive Stands (cs : List Char) (column : Nat) (t : Token) : Prop
  | word (before after : List Char) (first : Char) (rest : List Char)
      (hline : cs = before ++ (first :: rest) ++ after)
      (hcolumn : before.length = column)
      (hword : ∀ c ∈ first :: rest, Text.isWordChar c = true)
      (hbefore : ∀ c, before.getLast? = some c → Text.isWordChar c = false)
      (hafter : ∀ c, after.head? = some c → Text.isWordChar c = false)
      (htext : t.text.toList = first :: rest)
      (hkind : t.kind = (Kind.keyword? t.text).getD
        (if Text.isDigit first then .number else .identifier))
  | single (before after : List Char) (c : Char)
      (hline : cs = before ++ c :: after)
      (hcolumn : before.length = column)
      (hsingle : Text.isWordChar c = false)
      (htext : t.text.toList = [c])
      (hkind : t.kind = Kind.ofPunctuation c)

/-- No word runs from the end of the first characters into the others. -/
def WordsApart (before cs : List Char) : Prop :=
  ∀ c, cs.head? = some c → Text.isWordChar c = true → EndsWord before

theorem wordsApart_nil (cs : List Char) : WordsApart [] cs := by
  simp [WordsApart, EndsWord]

theorem EndsWord.append {before skipped cs : List Char} {first : Char} (hends : EndsWord skipped)
    (happart : WordsApart before (skipped ++ first :: cs)) (hfirst : Text.isWordChar first = true) :
    EndsWord (before ++ skipped) := by
  cases skipped with
  | nil =>
    rw [List.append_nil]
    exact happart first rfl hfirst
  | cons d skipped =>
    intro c hc
    rw [List.getLast?_append, List.getLast?_cons] at hc
    exact hends c (by simpa [List.getLast?_cons] using hc)

/-- The token that starts with a character stands there, and no word runs on behind it. -/
theorem lexeme_stands (line : Nat) (before : List Char) (first : Char) (rest : List Char)
    (hbefore : Text.isWordChar first = true → EndsWord before) :
    ∃ more, rest = more ++ (lexeme line first rest).2 ∧
      (∀ c ∈ more, Text.isWordChar c = true) ∧
      (lexeme line first rest).1.line = line ∧
      (lexeme line first rest).1.text.toList = first :: more ∧
      Stands (before ++ first :: rest) before.length (lexeme line first rest).1 ∧
      WordsApart (before ++ first :: more) (lexeme line first rest).2 := by
  unfold lexeme
  split
  · rename_i hfirst
    have hmore (c : Char) (hc : c ∈ rest.takeWhile Text.isWordChar) : Text.isWordChar c = true :=
      List.all_eq_true.mp List.all_takeWhile c hc
    have hafter (c : Char) (hc : (rest.dropWhile Text.isWordChar).head? = some c) :
        Text.isWordChar c = false := by
      have := List.head?_dropWhile_not Text.isWordChar rest
      simpa [hc] using this
    refine ⟨rest.takeWhile Text.isWordChar, by simp, hmore, rfl, by simp, ?_, ?_⟩
    · refine .word before (rest.dropWhile Text.isWordChar) first (rest.takeWhile Text.isWordChar)
        (by simp) rfl ?_ (hbefore hfirst) hafter (by simp) rfl
      intro c hc
      rcases List.mem_cons.mp hc with rfl | hc
      · exact hfirst
      · exact hmore c hc
    · intro c hc hword
      rw [hafter c hc] at hword
      contradiction
  · rename_i hfirst
    have hsingle : Text.isWordChar first = false := by simpa using hfirst
    refine ⟨[], rfl, by simp, rfl, by simp, .single before rest first rfl rfl hsingle (by simp) rfl,
      ?_⟩
    intro c _ _ d hd
    rw [List.getLast?_append] at hd
    cases hd
    exact hsingle

/-- Tokens, each at a place where it may stand, cover cells one after the other. -/
structure Tiles (mayStand : Nat → Token → Prop) (placed : List (Token × Nat))
    (tokens : List Token) (cells : List Cell) : Prop where
  tokens_eq : placed.map Prod.fst = tokens
  cells_eq : (placed.flatMap fun p => cellsAt p.1.line p.2 p.1.text.toList) = cells
  stands : ∀ p ∈ placed, mayStand p.2 p.1

theorem Tiles.append {mayStand mayStand' mayStand'' : Nat → Token → Prop}
    {placed placed' : List (Token × Nat)} {tokens tokens' : List Token} {cells cells' : List Cell}
    (h : Tiles mayStand placed tokens cells) (h' : Tiles mayStand' placed' tokens' cells')
    (himp : ∀ column t, mayStand column t → mayStand'' column t)
    (himp' : ∀ column t, mayStand' column t → mayStand'' column t) :
    Tiles mayStand'' (placed ++ placed') (tokens ++ tokens') (cells ++ cells') where
  tokens_eq := by rw [List.map_append, h.tokens_eq, h'.tokens_eq]
  cells_eq := by rw [List.flatMap_append, h.cells_eq, h'.cells_eq]
  stands p hp := by
    rcases List.mem_append.mp hp with hp | hp
    · exact himp _ _ (h.stands p hp)
    · exact himp' _ _ (h'.stands p hp)

/-- The concatenated texts of the tokens are the characters of the cells. -/
theorem Tiles.texts_eq {mayStand : Nat → Token → Prop} {placed : List (Token × Nat)}
    {tokens : List Token} {cells : List Cell} (h : Tiles mayStand placed tokens cells) :
    (tokens.flatMap fun t => t.text.toList) = cells.map Cell.char := by
  rw [← h.tokens_eq, ← h.cells_eq, List.flatMap_map, List.map_flatMap]
  simp

/-- The tokens from a cursor on tile what is visible from there on. -/
theorem lineTokens_tile (line : Nat) (gap : Gap) (before cs : List Char)
    (happart : WordsApart before cs) :
    (lineTokens line gap cs).2 = (visibleIn line gap before.length cs).2 ∧
      ∃ placed, Tiles (fun column t => t.line = line ∧ Stands (before ++ cs) column t) placed
        (lineTokens line gap cs).1 (visibleIn line gap before.length cs).1 := by
  -- What was passed over moves from `cs` to `before`, so the line stays the same.
  fun_induction lineTokens line gap cs generalizing before with
  | case1 gap cs gap' h =>
    rw [visibleIn_of_lineEnd h]
    exact ⟨rfl, [], rfl, rfl, by simp⟩
  | case2 gap cs first rest h later ih =>
    obtain ⟨skipped, rfl, hends, -, hvisible⟩ := visibleIn_of_token h
    obtain ⟨more, hrest, hmore, hline, htext, hstands, happart'⟩ :=
      lexeme_stands line (before ++ skipped) first rest (hends.append happart)
    obtain ⟨hgap, placed, hplaced⟩ := ih _ happart'
    have hword := visibleIn_word hmore line (before.length + skipped.length + 1)
      (lexeme line first rest).2
    rw [← hrest] at hword
    have hcolumn : (before ++ skipped ++ first :: more).length =
        before.length + skipped.length + 1 + more.length := by
      simp only [List.length_append, List.length_cons]
      omega
    rw [hcolumn] at hgap hplaced
    rw [hvisible, hword]
    refine ⟨hgap, ((lexeme line first rest).1, before.length + skipped.length) :: placed,
      ?_, ?_, ?_⟩
    · rw [List.map_cons, hplaced.tokens_eq]
    · rw [List.flatMap_cons, hplaced.cells_eq, hline, htext]
      rfl
    · intro p hp
      rcases List.mem_cons.mp hp with rfl | hp
      · refine ⟨hline, ?_⟩
        simpa using hstands
      · have := hplaced.stands p hp
        rw [List.append_assoc _ _ (lexeme line first rest).2, List.cons_append, ← hrest,
          List.append_assoc] at this
        exact this

/-! ## Tiling lines -/

/-- A token stands at a column of the line whose number it carries, counted from a given one. -/
def StandsIn (line : Nat) (lines : List Line) (column : Nat) (t : Token) : Prop :=
  ∃ i cs, t.line = ↑(line + i) ∧ lines[i]? = some cs ∧ Stands cs column t

theorem StandsIn.cons {line column : Nat} {lines : List Line} {t : Token}
    (h : StandsIn (line + 1) lines column t) (cs : Line) :
    StandsIn line (cs :: lines) column t := by
  obtain ⟨i, cs', hline, hget, hstands⟩ := h
  exact ⟨i + 1, cs', by rw [hline]; omega, hget, hstands⟩

/-- The tokens of a line carry its number. -/
theorem line_of_mem_lineTokens {line : Nat} {gap : Gap} {cs : List Char} {t : Token}
    (h : t ∈ (lineTokens line gap cs).1) : t.line = line := by
  obtain ⟨-, placed, hplaced⟩ := lineTokens_tile line gap [] cs (wordsApart_nil cs)
  rw [← hplaced.tokens_eq, List.mem_map] at h
  obtain ⟨p, hp, rfl⟩ := h
  exact (hplaced.stands p hp).1

/-- The tokens of lines tile what is visible of them. -/
theorem linesTokens_tile (line : Nat) (gap : Gap) (lines : List Line) :
    (linesTokens line gap lines).2 = (visibleFrom line gap lines).2 ∧
      ∃ placed, Tiles (StandsIn line lines) placed (linesTokens line gap lines).1
        (visibleFrom line gap lines).1 := by
  induction lines generalizing line gap with
  | nil => exact ⟨rfl, [], rfl, rfl, by simp⟩
  | cons cs lines ih =>
    obtain ⟨hgap, placed, hplaced⟩ := lineTokens_tile line gap [] cs (wordsApart_nil cs)
    obtain ⟨hgap', placed', hplaced'⟩ := ih (line + 1) (lineTokens line gap cs).2
    rw [linesTokens_cons, visibleFrom]
    simp only [List.length_nil, List.nil_append] at hgap hplaced
    rw [hgap] at hgap' hplaced' ⊢
    refine ⟨hgap', placed ++ placed', hplaced.append hplaced' ?_ fun _ _ h => h.cons cs⟩
    intro column t ⟨hline, hstands⟩
    exact ⟨0, cs, hline, rfl, hstands⟩

/-- No token of lines stands before the first of them. -/
theorem le_line_of_mem_linesTokens {line : Nat} {gap : Gap} {lines : List Line} {t : Token}
    (h : t ∈ (linesTokens line gap lines).1) : line ≤ t.line := by
  obtain ⟨-, placed, hplaced⟩ := linesTokens_tile line gap lines
  rw [← hplaced.tokens_eq, List.mem_map] at h
  obtain ⟨p, hp, rfl⟩ := h
  obtain ⟨i, cs, hline, -⟩ := hplaced.stands p hp
  omega

/-- Tokens come in the order of their lines. -/
theorem linesTokens_pairwise (line : Nat) (gap : Gap) (lines : List Line) :
    (linesTokens line gap lines).1.Pairwise fun t u => t.line ≤ u.line := by
  induction lines generalizing line gap with
  | nil => exact .nil
  | cons cs lines ih =>
    rw [linesTokens_cons]
    refine List.pairwise_append.mpr ⟨?_, ih _ _, ?_⟩
    · refine List.pairwise_of_forall_mem_list fun t ht u hu => ?_
      exact Int.le_of_eq ((line_of_mem_lineTokens ht).trans (line_of_mem_lineTokens hu).symm)
    · intro t ht u hu
      have := le_line_of_mem_linesTokens hu
      rw [line_of_mem_lineTokens ht]
      omega

end StructScan.Token

namespace StructScan.TokenStream

open Token

/--
The tokens of any list of lines tile what is visible of it.  Placed at their columns
they cover the visible characters in order, so their texts put together are those
characters; each stands in the line whose number it carries, as a whole word or as one
character that belongs to no word; and the numbers of the lines never go down.
-/
theorem tokens_tile_visible (lines : List String) :
    ∃ placed : List (Token × Nat),
      placed.map Prod.fst = (ofSource (Source.ofLines lines)).drain.items ∧
      (placed.flatMap fun p => cellsAt p.1.line p.2 p.1.text.toList) =
        visible (lines.map String.toList) ∧
      ((ofSource (Source.ofLines lines)).drain.items.flatMap fun t => t.text.toList) =
        (visible (lines.map String.toList)).map Cell.char ∧
      (∀ p ∈ placed, ∃ (i : Nat) (line : String), p.1.line = ↑(1 + i) ∧ lines[i]? = some line ∧
        Stands line.toList p.2 p.1) ∧
      (ofSource (Source.ofLines lines)).drain.items.Pairwise (fun t u => t.line ≤ u.line) ∧
      (ofSource (Source.ofLines lines)).drain.fault = none := by
  have hcalm : (ofSource (Source.ofLines lines)).Calm := rfl
  obtain ⟨hitems, hfault⟩ := drain_of_calm _ hcalm
  obtain ⟨-, placed, hplaced⟩ := linesTokens_tile 1 .code (lines.map String.toList)
  have htokens := remaining_ofSource (Source.ofLines lines)
  rw [hitems, htokens]
  refine ⟨placed, hplaced.tokens_eq, hplaced.cells_eq, hplaced.texts_eq, ?_,
    linesTokens_pairwise _ _ _, hfault⟩
  intro p hp
  obtain ⟨i, cs, hline, hget, hstands⟩ := hplaced.stands p hp
  rw [List.getElem?_map, Option.map_eq_some_iff] at hget
  obtain ⟨element, helement, rfl⟩ := hget
  exact ⟨i, element, hline, helement, hstands⟩

end StructScan.TokenStream
