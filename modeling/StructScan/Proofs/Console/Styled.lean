import StructScan.Proofs.Console.Escaping

/-!
# Styled texts

A text between a tag and the tag that closes it is shown as it would be without them.  The styles
that occur are names of the palette and the bold attribute, and an error is announced in both.

Main results:

- Theorem `Markup.showPieces_styled`: plain pieces between two tags are shown, and the tags are not.
- Theorem `Markup.piecesFrom_inert`: a text that is neither bracket nor backslash is collected as it
  is.
- Theorem `Markup.render_error`: an escaped text behind the word that announces an error is shown.
-/

namespace StructScan.Console

/-! ## Names of styles -/

theorem Color.red_mem_names : "red".toList ∈ Color.names := by
  -- Only the line of the palette that has the name is taken apart.
  refine List.mem_flatMap.mpr
    ⟨"plum1 plum2 plum3 plum4 purple purple3 purple4 red red1 red3 rosy_brown royal_blue1 salmon1",
      ?_, by decide⟩
  simp only [Color.palette, List.mem_cons, true_or, or_true]

/-- A name of the palette in lower case is a colour. -/
theorem Color.read_of_mem_names {name : List Char} (hmem : name ∈ names)
    (hlower : Text.lower name = name) : read name = .ok name := by
  have hname : names.contains name = true := List.contains_iff_mem.mpr hmem
  simp only [read, hlower, hname, Bool.true_or, if_true]

namespace Style

/-- A word that sets an attribute. -/
theorem readWords_attribute {word : List Char} {a : Attribute} (hlower : Text.lower word = word)
    (hword : word ∉ ["on".toList, "not".toList, "link".toList])
    (ha : Attribute.ofName? (String.ofList word) = some a) (s : Style) (rest : List (List Char)) :
    readWords s (word :: rest) = readWords { s with settings := (a, true) :: s.settings } rest := by
  simp only [List.mem_cons, List.not_mem_nil, or_false, not_or] at hword
  obtain ⟨hon, hnot, hlink⟩ := hword
  rw [readWords.eq_def]
  simp only [hlower, if_neg hon, if_neg hnot, if_neg hlink, ha]

/-- A word that sets a colour. -/
theorem readWords_colour {word : List Char} (hlower : Text.lower word = word)
    (hword : word ∉ ["on".toList, "not".toList, "link".toList])
    (ha : Attribute.ofName? (String.ofList word) = none) (hmem : word ∈ Color.names) (s : Style)
    (rest : List (List Char)) :
    readWords s (word :: rest) = readWords { s with color := some word } rest := by
  simp only [List.mem_cons, List.not_mem_nil, or_false, not_or] at hword
  obtain ⟨hon, hnot, hlink⟩ := hword
  rw [readWords.eq_def]
  simp only [hlower, if_neg hon, if_neg hnot, if_neg hlink, ha,
    Color.read_of_mem_names hmem hlower]
  rfl

/-- The word for a colour sets it. -/
theorem readWords_red (s : Style) (rest : List (List Char)) :
    readWords s ("red".toList :: rest) = readWords { s with color := some "red".toList } rest :=
  readWords_colour (by decide) (by decide) (by decide)
    Color.red_mem_names s rest

/-- The word for an attribute turns it on. -/
theorem readWords_bold (s : Style) (rest : List (List Char)) :
    readWords s ("bold".toList :: rest) =
      readWords { s with settings := (.bold, true) :: s.settings } rest :=
  readWords_attribute (by decide) (by decide) (by decide) s rest

/-- A description is read word by word. -/
theorem read_of_wordsOf {description : List Char} (ws : List (List Char))
    (hnone : ¬Text.trim description = "none".toList) (hwords : Text.wordsOf description = ws) :
    read description = readWords {} ws := by
  rw [read, if_neg hnone, hwords]

theorem read_bold : read "bold".toList = .ok { settings := [(.bold, true)] } := by
  rw [read_of_wordsOf ["bold".toList] (by decide) (by decide),
    readWords_bold, readWords]

theorem read_red : read "red".toList = .ok { color := some "red".toList } := by
  rw [read_of_wordsOf ["red".toList] (by decide) (by decide),
    readWords_red, readWords]

/-- A colour and an attribute in one description are both set. -/
theorem read_redBold : read "red bold".toList =
    .ok { settings := [(.bold, true)], color := some "red".toList } := by
  rw [read_of_wordsOf ["red".toList, "bold".toList] (by decide)
    (by decide), readWords_red, readWords_bold, readWords]

theorem read_boldRed : read "bold red".toList =
    .ok { settings := [(.bold, true)], color := some "red".toList } := by
  rw [read_of_wordsOf ["bold".toList, "red".toList] (by decide)
    (by decide), readWords_bold, readWords_red, readWords]

end Style

namespace Markup

/-! ## Tags that belong together -/

/-- The content of a tag whose style is opened and closed without a failure. -/
structure Opens (content : List Char) (tag : OpenTag) : Prop where
  opensTag : ∀ rest, tag? (content ++ ']' :: rest) = some (content, rest)
  head : content.head? ≠ some '/'
  ofContent : OpenTag.ofContent content = .ok tag
  check : tag.check = .ok ()
  /-- The tag that closes the style has the same content behind a slash. -/
  closesTag : ∀ rest, tag? ('/' :: content ++ ']' :: rest) = some ('/' :: content, rest)
  namePart_eq : namePart content = content
  trim_eq : Text.trim content = content
  close : tag.close = .ok ()

namespace Opens

/-- A description without parameters, if its canonical form describes the same style. -/
theorem of_read {content : List Char} {name : String} {s : Style}
    (hread : Style.read content = .ok s) (hname : s.description = name)
    (hcheck : Style.read name.toList = .ok s) (haction : name.toList.head? ≠ some '@')
    (hopens : content.head?.any fun c => Markup.opensTag c && c ≠ '/')
    (hinner : content.all isInner) (hplain : namePart content = content)
    (htrim : Text.trim content = content) : Opens content ⟨name, none⟩ where
  opensTag rest := by
    cases content with
    | nil => contradiction
    | cons c cs =>
      simp only [List.all_cons, Bool.and_eq_true, List.all_eq_true] at hinner
      simp only [List.head?_cons, Option.any_some, Bool.and_eq_true] at hopens
      exact tag?_append hopens.1 hinner.2 rest
  head := by
    rintro hslash
    simp [hslash] at hopens
  ofContent := by
    have hend : content.dropWhile (· ≠ '=') = [] := by
      have := List.takeWhile_append_dropWhile (p := (· ≠ '=')) (l := content)
      rw [← namePart, hplain] at this
      simpa using this
    rw [OpenTag.ofContent, hplain, styleName, Style.canonical, hread, parameters?, hend, ← hname]
    rfl
  check := by
    have hdescription : (⟨name, none⟩ : OpenTag).description = name.toList := by
      simp [OpenTag.description]
    rw [OpenTag.check, hdescription, hcheck]
  closesTag rest := tag?_append rfl (by simpa using hinner) rest
  namePart_eq := hplain
  trim_eq := htrim
  close := by
    rw [OpenTag.close]
    split
    · contradiction
    · rfl

theorem bold : Opens "bold".toList ⟨"bold", none⟩ :=
  of_read Style.read_bold (by decide) Style.read_bold (by decide)
    (by decide) (by decide) (by decide) (by decide)

theorem red : Opens "red".toList ⟨"red", none⟩ :=
  of_read Style.read_red (by decide) Style.read_red (by decide)
    (by decide) (by decide) (by decide) (by decide)

theorem yellow : Opens "yellow".toList ⟨"yellow", none⟩ :=
  of_read Style.read_yellow (by decide) Style.read_yellow (by decide)
    (by decide) (by decide) (by decide) (by decide)

/-- The canonical form of a description has its attributes in front. -/
theorem redBold : Opens "red bold".toList ⟨"bold red", none⟩ :=
  of_read Style.read_redBold (by decide) Style.read_boldRed (by decide)
    (by decide) (by decide) (by decide) (by decide)

end Opens

/-! ## Plain pieces -/

/-- What plain pieces are shown as. -/
def shown (plain : List Piece) : List Char :=
  plain.flatMap fun
    | .plain cs => showPlain cs
    | .tag _ _ => []

/-- Plain pieces are shown in front of what comes after them. -/
theorem showPieces_append {plain rest : List Piece} {opened tags : List OpenTag}
    {text : List Char} (hplain : ∀ p ∈ plain, p.isPlain = true)
    (hrest : showPieces opened rest = .ok (text, tags)) :
    showPieces opened (plain ++ rest) = .ok (shown plain ++ text, tags) := by
  induction plain with
  | nil => exact hrest
  | cons p plain ih =>
    have hlater := ih fun q hq => hplain q (List.mem_cons_of_mem _ hq)
    cases p with
    | plain cs =>
      rw [List.cons_append, showPieces, hlater]
      simp [shown, bind, Except.bind, pure, Except.pure]
    | tag position content => exact absurd (hplain _ List.mem_cons_self) Bool.false_ne_true

/-- Plain pieces between two tags are shown, and the tags are not. -/
theorem showPieces_styled {content : List Char} {tag : OpenTag} (h : Opens content tag)
    {inner rest : List Piece} {opened tags : List OpenTag} {text : List Char}
    (hinner : ∀ p ∈ inner, p.isPlain = true) (position position' : Nat)
    (hrest : showPieces opened rest = .ok (text, tags)) :
    showPieces opened
        (.tag position content :: (inner ++ .tag position' ('/' :: content) :: rest)) =
      .ok (shown inner ++ text, tag :: tags) := by
  have hname : namePart ('/' :: content) = '/' :: content := by
    rw [namePart, List.takeWhile_cons_of_pos (by decide), ← namePart, h.namePart_eq]
  have hstyle : styleName (Text.trim content) = .ok tag.name := by
    have hopens := h.ofContent
    rw [OpenTag.ofContent, h.namePart_eq] at hopens
    rw [h.trim_eq]
    cases hstyle : styleName content with
    | error e => simp [hstyle, Except.map] at hopens
    | ok name =>
      rw [hstyle] at hopens
      cases hopens
      rfl
  have hclose : showPieces (tag :: opened) (.tag position' ('/' :: content) :: rest) =
      .ok (text, tags) := by
    rw [showPieces_close position' hname hstyle h.close, hrest]
  exact showPieces_open position (by rw [h.namePart_eq]; exact h.head) h.ofContent
    (showPieces_append hinner hclose)

/-! ## Cutting -/

/-- Backslashes at the end are text. -/
theorem cut_end (n count position : Nat) (collected : List Char) :
    cut (n + 1) position collected (slashes count) = flush (slashes count ++ collected) [] := by
  have hstep := cut_slashes n count position collected [] nofun
  rwa [List.append_nil] at hstep

/-- Any limit beyond the length of a text lets it be cut to its end. -/
theorem cut_congr {k k' : Nat} {cs : List Char} (hk : cs.length < k) (hk' : cs.length < k')
    (position : Nat) (collected : List Char) :
    cut k position collected cs = cut k' position collected cs := by
  induction k generalizing k' cs position collected with
  | zero => omega
  | succ k ih =>
    obtain ⟨k', rfl⟩ : ∃ m, k' = m + 1 := ⟨k' - 1, by omega⟩
    obtain ⟨count, rest, rfl, hrest⟩ := exists_slashes cs
    simp only [List.length_append, List.length_replicate] at hk hk'
    cases rest with
    | nil => rw [List.append_nil, cut_end, cut_end]
    | cons c rest =>
      simp only [List.length_cons] at hk hk'
      by_cases hbracket : c = '['
      · subst hbracket
        cases htag : tag? rest with
        | none =>
          rw [cut_bracket _ _ _ _ htag, cut_bracket _ _ _ _ htag]
          exact ih (by omega) (by omega) _ _
        | some found =>
          obtain ⟨content, after⟩ := found
          obtain ⟨rfl, -⟩ := exists_of_tag? htag
          simp only [List.length_append, List.length_cons] at hk hk'
          rw [cut_tag _ _ _ _ htag, cut_tag _ _ _ _ htag, @ih k' after (by omega) (by omega)]
      · have hslash : c ≠ '\\' := by simpa using hrest
        rw [cut_char _ _ _ _ hslash hbracket, cut_char _ _ _ _ hslash hbracket]
        exact ih (by omega) (by omega) _ _

/-- The pieces of a text from a position on, where some plain text was collected before. -/
def piecesFrom (position : Nat) (collected cs : List Char) : List Piece :=
  cut (cs.length + 1) position collected cs

/-- Any number of rounds that lasts for the text cuts it into its pieces. -/
theorem cut_eq_piecesFrom {k : Nat} {cs : List Char} (h : cs.length < k) (position : Nat)
    (collected : List Char) : cut k position collected cs = piecesFrom position collected cs :=
  cut_congr h (Nat.lt_succ_self _) position collected

section Steps

variable (position : Nat) (collected : List Char)

/-- A character without a meaning is collected, with the backslashes before it. -/
theorem piecesFrom_char {c : Char} (hslash : c ≠ '\\') (hbracket : c ≠ '[') (count : Nat)
    (rest : List Char) :
    piecesFrom position collected (slashes count ++ c :: rest) =
      piecesFrom (position + count + 1) (c :: slashes count ++ collected) rest := by
  rw [piecesFrom, cut_char _ _ _ _ hslash hbracket, cut_eq_piecesFrom (by simp; omega)]

/-- So is a bracket that opens no tag. -/
theorem piecesFrom_bracket {rest : List Char} (h : tag? rest = none) (count : Nat) :
    piecesFrom position collected (slashes count ++ '[' :: rest) =
      piecesFrom (position + count + 1) ('[' :: slashes count ++ collected) rest := by
  rw [piecesFrom, cut_bracket _ _ _ _ h, cut_eq_piecesFrom (by simp; omega)]

/-- A tag ends the text before it. -/
theorem piecesFrom_tag {content : List Char}
    (h : ∀ rest, tag? (content ++ ']' :: rest) = some (content, rest)) (rest : List Char) :
    piecesFrom position collected ('[' :: (content ++ ']' :: rest)) =
      flush collected
        (.tag position content :: piecesFrom (position + content.length + 2) [] rest) := by
  have hstep := cut_tag ('[' :: (content ++ ']' :: rest)).length 0 position collected (h rest)
  rw [piecesFrom]
  refine hstep.trans ?_
  rw [cut_eq_piecesFrom (by simp; omega)]
  rfl

/-- A text that is neither bracket nor backslash is collected as it is. -/
theorem piecesFrom_inert {before : List Char} (h : ∀ c ∈ before, c ≠ '\\' ∧ c ≠ '[')
    (rest : List Char) :
    piecesFrom position collected (before ++ rest) =
      piecesFrom (position + before.length) (before.reverse ++ collected) rest := by
  induction before generalizing position collected with
  | nil => rfl
  | cons c before ih =>
    obtain ⟨⟨hslash, hbracket⟩, hlater⟩ := List.forall_mem_cons.mp h
    have hstep := piecesFrom_char position collected hslash hbracket 0 (before ++ rest)
    rw [List.cons_append]
    refine hstep.trans ?_
    rw [ih _ _ hlater]
    simp [Nat.add_assoc, Nat.add_comm 1]

end Steps

/-! ## Announcing an error -/

/-- An escaped text ends with some backslashes. -/
theorem exists_trailing (s : String) :
    ∃ count, (escape s).toList = escapeTags (s.length + 1) s.toList ++ slashes count := by
  unfold escape
  simp only [String.toList_ofList]
  split
  · exact ⟨1, rfl⟩
  · exact ⟨0, (List.append_nil _).symm⟩

theorem closing_slashes (count : Nat) : Closing (slashes count) := by
  have hdrop := @dropWhile_slashes count [] nofun
  rw [List.append_nil] at hdrop
  rw [Closing, hdrop]
  rintro c ⟨⟩

/-- An escaped text at the end is cut into plain pieces. -/
theorem piecesFrom_escape (s : String) (position : Nat) (collected : List Char) :
    ∀ p ∈ piecesFrom position collected (escape s).toList, p.isPlain = true := by
  obtain ⟨count, hescape⟩ := exists_trailing s
  rw [piecesFrom, hescape]
  obtain ⟨plain, k, position', collected', count', hplain, hcut⟩ := cut_escapeTags
    (show s.toList.length < s.length + 1 from Nat.lt_succ_self _) (closing_slashes count)
    ((escapeTags (s.length + 1) s.toList ++ slashes count).length + 1) position collected
  have hend : ∃ text, cut k position' collected' (slashes count' ++ slashes count) =
      flush text [] := by
    cases k with
    | zero => exact ⟨collected', rfl⟩
    | succ k =>
      rw [List.replicate_append_replicate, cut_end]
      exact ⟨_, rfl⟩
  obtain ⟨text, hend⟩ := hend
  obtain ⟨later, hlater, hflush⟩ := flush_eq_append text []
  rw [hcut, hend, hflush, List.append_nil]
  exact List.forall_mem_append.mpr ⟨hplain, hlater⟩

/-- An error is announced in front of its message, whatever that holds. -/
theorem render_error (s : String) :
    ∃ text, render ("[red bold]error:[/red bold] " ++ escape s) = .ok text := by
  have hchars : ("[red bold]error:[/red bold] " ++ escape s).toList =
      '[' :: ("red bold".toList ++ ']' :: ("error:".toList ++
        '[' :: ('/' :: "red bold".toList ++ ']' :: (" ".toList ++ (escape s).toList)))) := by
    simp
  have hpieces : pieces ("[red bold]error:[/red bold] " ++ escape s).toList =
      .tag 0 "red bold".toList :: ([.plain "error:".toList] ++
        .tag 16 ('/' :: "red bold".toList) ::
          piecesFrom 28 " ".toList (escape s).toList) := by
    rw [pieces, ← piecesFrom, hchars, piecesFrom_tag _ _ Opens.redBold.opensTag,
      piecesFrom_inert _ _ (by simp), piecesFrom_tag _ _ Opens.redBold.closesTag,
      piecesFrom_inert _ _ (by simp)]
    rfl
  have hend := showPieces_append (piecesFrom_escape s 28 " ".toList) (rfl : showPieces [] [] = _)
  rw [List.append_nil] at hend
  have hplain : ∀ p ∈ [Piece.plain "error:".toList], p.isPlain = true := by simp [Piece.isPlain]
  have hshown := showPieces_styled Opens.redBold hplain 0 16 hend
  have hchecked : ([⟨"bold red", none⟩] : List OpenTag).forM OpenTag.check = .ok () := by
    rw [List.forM, Opens.redBold.check]
    rfl
  exact ⟨_, render_of_showPieces (by rw [hchars]; simp) (hpieces ▸ hshown) hchecked⟩

end Markup

end StructScan.Console
