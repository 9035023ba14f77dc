import Mathlib.Data.List.Infix
import StructScan.Proofs.Console.Styled
import StructScan.Proofs.Text.Split

/-!
# Texts that are shown as they are

What a terminal shows of a marked-up text is not always what was put into it: a tag vanishes, an
emoji code becomes an emoji, a backslash before a bracket is dropped, tabs are filled up, control
characters are left out and long lines are folded.  A text without all of these is shown character
by character, be it escaped or, if it has no tags at all, as it stands.

Main results:

- Theorem `Markup.replaceEmoji_of_noEmoji`: a text without emoji codes keeps its colons.
- Theorem `Markup.piecesFrom_escapeTags`: an escaped text is cut into pieces that make up the text.
- Theorem `Markup.Renders.styled`: texts around and between two tags are shown as they would be
  alone.
- Theorem `printFolded_of_renders`: a line that fits is printed as it is.
-/

namespace StructScan.Console

open StructScan.Text (isBlank width)

namespace Markup

/-! ## Emoji codes and backslashes -/

/-- A text without the code of an emoji: a name between two colons. -/
def NoEmoji (cs : List Char) : Prop :=
  ∀ name, ':' :: (name ++ [':']) <:+: cs → (∀ c ∈ name, c ≠ ':' ∧ isBlank c = false) →
    Emoji.text? name = none

theorem NoEmoji.part {cs part : List Char} (h : NoEmoji cs) (hpart : part <:+: cs) :
    NoEmoji part :=
  fun name hname => h name (hname.trans hpart)

/-- A text without colons has no emoji codes. -/
theorem noEmoji_of_notMem {cs : List Char} (h : ':' ∉ cs) : NoEmoji cs :=
  fun _ hname => absurd (hname.subset List.mem_cons_self) h

/-- The first name behind a colon, with the colon that ends it. -/
theorem noEmoji_cons_colon {cs rest : List Char} (h : NoEmoji (':' :: cs))
    (hdrop : cs.dropWhile (fun c => c ≠ ':' && !isBlank c) = ':' :: rest) :
    cs = cs.takeWhile (fun c => c ≠ ':' && !isBlank c) ++ ':' :: rest ∧
      Emoji.text? (cs.takeWhile fun c => c ≠ ':' && !isBlank c) = none := by
  have hcs := (List.takeWhile_append_dropWhile (p := fun c => c ≠ ':' && !isBlank c) (l := cs)).symm
  rw [hdrop] at hcs
  refine ⟨hcs, h _ ?_ fun c hc => ?_⟩
  · refine ⟨[], rest, ?_⟩
    conv_rhs => rw [hcs]
    simp
  · simpa using List.all_eq_true.mp List.all_takeWhile c hc

/-- A text without emoji codes keeps its colons. -/
theorem replaceEmoji_of_noEmoji (n : Nat) {cs : List Char} (h : NoEmoji cs) :
    replaceEmoji n cs = cs := by
  fun_induction replaceEmoji n cs with
  | case1 => rfl
  | case2 => rfl
  | case3 n cs name rest hdrop text htext ih =>
    have hnone := (noEmoji_cons_colon h hdrop).2
    rw [hnone] at htext
    contradiction
  | case4 n cs name rest hdrop hnone ih =>
    obtain ⟨hcs, -⟩ := noEmoji_cons_colon h hdrop
    have hrest : rest <:+: ':' :: cs := by
      rw [hcs]
      exact ⟨':' :: (name ++ [':']), [], by simp [name]⟩
    rw [ih (h.part hrest), List.cons_append, ← hcs]
  | case5 n cs _ ih => rw [ih (h.part (List.suffix_cons _ _).isInfix)]
  | case6 n c cs _ ih => rw [ih (h.part (List.suffix_cons _ _).isInfix)]

/-- A text without a backslash before a bracket keeps its backslashes. -/
theorem unescape_of_not_infix {cs : List Char} (h : ¬['\\', '['] <:+: cs) : unescape cs = cs := by
  fun_induction unescape cs with
  | case1 => rfl
  | case2 cs ih => exact absurd ⟨[], cs, rfl⟩ h
  | case3 c cs _ ih =>
    rw [ih fun hpart => h (hpart.trans (List.suffix_cons _ _).isInfix)]

/-- A text in which nothing is taken for an emoji or for an escaped bracket. -/
structure Verbatim (cs : List Char) : Prop where
  bracket : ¬['\\', '['] <:+: cs
  emoji : NoEmoji cs

theorem Verbatim.part {cs part : List Char} (h : Verbatim cs) (hpart : part <:+: cs) :
    Verbatim part :=
  ⟨fun hbracket => h.bracket (hbracket.trans hpart), h.emoji.part hpart⟩

theorem Verbatim.showPlain_eq {cs : List Char} (h : Verbatim cs) : showPlain cs = cs := by
  rw [showPlain, unescape_of_not_infix h.bracket]
  exact replaceEmoji_of_noEmoji _ h.emoji

/-! ## The text of pieces -/

/-- The text that plain pieces make up. -/
def plainText (plain : List Piece) : List Char :=
  plain.flatMap fun
    | .plain cs => cs
    | .tag _ _ => []

@[simp]
theorem plainText_append (xs ys : List Piece) :
    plainText (xs ++ ys) = plainText xs ++ plainText ys := by
  simp [plainText]

@[simp]
theorem plainText_cons (cs : List Char) (plain : List Piece) :
    plainText (.plain cs :: plain) = cs ++ plainText plain := by
  simp [plainText]

/-- What was collected is a piece of its own in front of others. -/
theorem flush_eq (collected : List Char) (pieces : List Piece) :
    flush collected pieces = flush collected [] ++ pieces := by
  cases collected with
  | nil => rfl
  | cons c collected => rfl

@[simp]
theorem plainText_flush (collected : List Char) :
    plainText (flush collected []) = collected.reverse := by
  cases collected with
  | nil => rfl
  | cons c collected => simp [plainText, flush]

theorem isPlain_of_mem_flush {collected : List Char} {p : Piece}
    (h : p ∈ flush collected []) : p.isPlain = true := by
  cases collected with
  | nil => contradiction
  | cons c collected =>
    rw [flush, if_neg (by simp), List.mem_singleton] at h
    rw [h, Piece.isPlain]

/-- Pieces of a text that is shown as it is are shown as they are. -/
theorem shown_of_verbatim {plain : List Piece} (h : Verbatim (plainText plain)) :
    shown plain = plainText plain := by
  induction plain with
  | nil => rfl
  | cons p plain ih =>
    have hsplit : plainText (p :: plain) = plainText [p] ++ plainText plain :=
      plainText_append [p] plain
    rw [hsplit] at h ⊢
    have hlater := ih (h.part (List.suffix_append _ _).isInfix)
    have hfirst := h.part (List.prefix_append _ _).isInfix
    cases p with
    | plain cs =>
      have hcs : plainText [.plain cs] = cs := by simp [plainText]
      rw [hcs] at hfirst ⊢
      rw [← hlater]
      simp [shown, hfirst.showPlain_eq]
    | tag position content =>
      rw [← hlater]
      simp [shown, plainText]

/-! ## Cutting an escaped text -/

/-- A tag behind a single backslash is plain text. -/
theorem piecesFrom_escapedTag {content : List Char}
    (h : ∀ rest, tag? (content ++ ']' :: rest) = some (content, rest)) (position : Nat)
    (collected rest : List Char) :
    ∃ position', piecesFrom position collected ('\\' :: '[' :: (content ++ ']' :: rest)) =
      flush collected [] ++ .plain ('[' :: content ++ [']']) :: piecesFrom position' [] rest := by
  have hstep :=
    cut_tag ('\\' :: '[' :: (content ++ ']' :: rest)).length 1 position collected (h rest)
  refine ⟨position + 1 + content.length + 2, ?_⟩
  rw [piecesFrom]
  refine hstep.trans ?_
  rw [cut_eq_piecesFrom (by simp; omega), flush_eq]
  rfl

/-- An escaped text is cut into pieces that make up the text. -/
theorem piecesFrom_escapeTags {n : Nat} {cs tail : List Char} (hn : cs.length < n)
    (hbracket : ¬['\\', '['] <:+: cs) (hend : cs.getLast? ≠ some '\\') (htail : Closing tail)
    (position : Nat) (collected : List Char) :
    ∃ plain position' collected', (∀ p ∈ plain, p.isPlain = true) ∧
      piecesFrom position collected (escapeTags n cs ++ tail) =
        plain ++ piecesFrom position' collected' tail ∧
      plainText plain ++ collected'.reverse = collected.reverse ++ cs := by
  induction n generalizing cs position collected with
  | zero => omega
  | succ n ih =>
    -- What comes later in the text is shorter, and no less plain.
    have hlater {before rest : List Char} (hne : before ≠ []) (hcs : cs = before ++ rest) :
        rest.length < n ∧ ¬['\\', '['] <:+: rest ∧ rest.getLast? ≠ some '\\' := by
      subst hcs
      refine ⟨?_, fun h => hbracket (h.trans (List.suffix_append _ _).isInfix), fun h => ?_⟩
      · have := List.length_pos_of_ne_nil hne
        simp at hn
        omega
      · exact hend (by simp [List.getLast?_append, h])
    have hstep := escapes_escapeTags n cs
    generalize escapeTags (n + 1) cs = escaped at hstep ⊢
    cases hstep with
    | ends count =>
      cases count with
      | zero => exact ⟨[], position, collected, nofun, rfl, by simp [plainText]⟩
      | succ count => exact absurd (by simp [List.getLast?_replicate]) hend
    | char count hslash hchar rest =>
      rename_i c
      obtain ⟨hshort, hbracket', hend'⟩ :=
        @hlater (slashes count ++ [c]) rest (by simp) (by simp)
      rw [List.append_assoc, List.cons_append, piecesFrom_char _ _ hslash hchar]
      obtain ⟨plain, position', collected', hplain, hpieces, htext⟩ :=
        ih hshort hbracket' hend' (position + count + 1) (c :: slashes count ++ collected)
      exact ⟨plain, position', collected', hplain, hpieces, by simp [htext]⟩
    | @bracket count rest htag =>
      obtain ⟨hshort, hbracket', hend'⟩ :=
        @hlater (slashes count ++ ['[']) rest (by simp) (by simp)
      rw [List.append_assoc, List.cons_append,
        piecesFrom_bracket _ _ (tag?_escapeTags hshort htail htag)]
      obtain ⟨plain, position', collected', hplain, hpieces, htext⟩ :=
        ih hshort hbracket' hend' (position + count + 1) ('[' :: slashes count ++ collected)
      exact ⟨plain, position', collected', hplain, hpieces, by simp [htext]⟩
    | @tag count rest content after htag =>
      obtain ⟨rfl, hcontent⟩ := exists_of_tag? htag
      -- A backslash would stand before the bracket.
      obtain rfl : count = 0 := by
        cases count with
        | zero => rfl
        | succ count =>
          refine absurd ⟨slashes count, content ++ ']' :: after, ?_⟩ hbracket
          simp [slashes, List.replicate_succ']
      obtain ⟨hshort, hbracket', hend'⟩ :=
        @hlater ('[' :: content ++ [']']) after (by simp) (by simp)
      obtain ⟨position₁, hpieces₁⟩ := piecesFrom_escapedTag hcontent position collected
        (escapeTags n after ++ tail)
      obtain ⟨plain, position', collected', hplain, hpieces, htext⟩ :=
        ih hshort hbracket' hend' position₁ []
      refine ⟨flush collected [] ++ .plain ('[' :: content ++ [']']) :: plain, position',
        collected', ?_, ?_, ?_⟩
      · simp only [List.mem_append, List.mem_cons]
        rintro p (hp | rfl | hp)
        · exact isPlain_of_mem_flush hp
        · rfl
        · exact hplain p hp
      · have hchars : slashes (2 * 0 + 1) ++ '[' :: (content ++ ']' :: escapeTags n after) ++ tail =
            '\\' :: '[' :: (content ++ ']' :: (escapeTags n after ++ tail)) := by
          simp [slashes]
        rw [hchars, hpieces₁, hpieces]
        simp
      · have hfirst : plainText (flush collected [] ++ .plain ('[' :: content ++ [']']) :: plain) =
            collected.reverse ++ ('[' :: content ++ [']']) ++ plainText plain := by
          simp
        rw [hfirst, List.append_assoc, htext]
        simp

/-- An escaped text ends as it did before. -/
theorem getLast?_escapeTags {n : Nat} {cs : List Char} (hn : cs.length < n) :
    (escapeTags n cs).getLast? = cs.getLast? := by
  induction n generalizing cs with
  | zero => omega
  | succ n ih =>
    have hstep := escapes_escapeTags n cs
    generalize escapeTags (n + 1) cs = escaped at hstep ⊢
    cases hstep with
    | ends count => rfl
    | char count hslash hbracket rest =>
      simp only [List.length_append, List.length_replicate, List.length_cons] at hn
      simp [List.getLast?_append, List.getLast?_cons, ih (show rest.length < n by omega)]
    | @bracket count rest htag =>
      simp only [List.length_append, List.length_replicate, List.length_cons] at hn
      simp [List.getLast?_append, List.getLast?_cons, ih (show rest.length < n by omega)]
    | @tag count rest content after htag =>
      obtain ⟨rfl, -⟩ := exists_of_tag? htag
      simp only [List.length_append, List.length_replicate, List.length_cons] at hn
      simp [List.getLast?_append, List.getLast?_cons, ih (show after.length < n by omega)]

/-- A text without a backslash at its end has none to be doubled. -/
theorem escape_toList {s : String} (h : s.toList.getLast? ≠ some '\\') :
    (escape s).toList = escapeTags (s.length + 1) s.toList := by
  have hlast := getLast?_escapeTags (show s.toList.length < s.length + 1 from Nat.lt_succ_self _)
  have htrailing : (escapeTags (s.length + 1) s.toList).reverse.takeWhile (· = '\\') = [] := by
    cases hreverse : (escapeTags (s.length + 1) s.toList).reverse with
    | nil => rfl
    | cons c cs =>
      have hc : c ≠ '\\' := by
        rintro rfl
        rw [← List.head?_reverse, hreverse] at hlast
        exact h hlast.symm
      rw [List.takeWhile_cons_of_neg (by simpa using hc)]
  unfold escape
  simp [htrailing]

/-! ## Texts between tags -/

/--
A part of a marked-up text that is shown as another text, whatever comes after it: the pieces that
it is cut into and the text collected behind them.
-/
def ShownAs (markup text : List Char) : Prop :=
  ∀ tail, Closing tail → ∀ position, ∃ plain position' collected,
    (∀ p ∈ plain, p.isPlain = true) ∧
      piecesFrom position [] (markup ++ tail) = plain ++ piecesFrom position' collected tail ∧
      shown (plain ++ flush collected []) = text

namespace ShownAs

/-- A text that is neither bracket nor backslash is one piece. -/
theorem inert {cs : List Char} (h : ∀ c ∈ cs, c ≠ '\\' ∧ c ≠ '[') : ShownAs cs (showPlain cs) := by
  intro tail _ position
  refine ⟨[], position + cs.length, cs.reverse, nofun, ?_, ?_⟩
  · rw [piecesFrom_inert position [] h tail, List.append_nil, List.nil_append]
  · cases cs with
    | nil => rfl
    | cons c cs => simp [flush, shown]

/-- An escaped text is shown as it was. -/
theorem escaped {n : Nat} {cs : List Char} (hn : cs.length < n) (h : Verbatim cs)
    (hend : cs.getLast? ≠ some '\\') : ShownAs (escapeTags n cs) cs := by
  intro tail htail position
  obtain ⟨plain, position', collected, hplain, hpieces, htext⟩ :=
    piecesFrom_escapeTags hn h.bracket hend htail position []
  refine ⟨plain, position', collected, hplain, hpieces, ?_⟩
  have hwhole : plainText (plain ++ flush collected []) = cs := by
    rw [plainText_append, plainText_flush, htext]
    rfl
  rw [shown_of_verbatim (by rwa [hwhole]), hwhole]

end ShownAs

/-- A text in which no tag stands. -/
def Untagged (cs : List Char) : Prop :=
  ∀ rest, '[' :: rest <:+ cs → tag? rest = none

theorem untagged_of_notMem {cs : List Char} (h : '[' ∉ cs) : Untagged cs :=
  fun _ hrest => absurd (hrest.subset List.mem_cons_self) h

/-- There is nothing to escape in a text without tags. -/
theorem escapeTags_of_untagged (n : Nat) {cs : List Char} (h : Untagged cs) :
    escapeTags n cs = cs := by
  induction n generalizing cs with
  | zero => rfl
  | succ n ih =>
    have hlater {before rest : List Char} (hcs : cs = before ++ rest) : escapeTags n rest = rest :=
      ih fun rest' hrest' => h rest' (hcs ▸ hrest'.trans (List.suffix_append _ _))
    have hstep := escapes_escapeTags n cs
    generalize escapeTags (n + 1) cs = escaped at hstep ⊢
    cases hstep with
    | ends count => rfl
    | @char count c hslash hbracket rest =>
      rw [@hlater (slashes count ++ [c]) rest (by simp)]
    | @bracket count rest htag => rw [@hlater (slashes count ++ ['[']) rest (by simp)]
    | @tag count rest content after htag =>
      rw [h rest (List.suffix_append _ _)] at htag
      contradiction

/-- A text without tags is shown as it is. -/
theorem ShownAs.untagged {cs : List Char} (htag : Untagged cs) (h : Verbatim cs)
    (hend : cs.getLast? ≠ some '\\') : ShownAs cs cs := by
  have hescaped := ShownAs.escaped (Nat.lt_succ_self _) h hend
  rwa [escapeTags_of_untagged _ htag] at hescaped

/-- A marked-up text that is shown as another one, with all its styles closed and known. -/
def Renders (markup text : List Char) : Prop :=
  ∀ position opened, ∃ tags, showPieces opened (piecesFrom position [] markup) = .ok (text, tags) ∧
    tags.forM OpenTag.check = .ok ()

theorem closing_bracket (rest : List Char) : Closing ('[' :: rest) := by
  rintro c ⟨rfl⟩
  rfl

namespace Renders

/-- A text without tags, or one that is escaped. -/
theorem of_shownAs {markup text : List Char} (h : ShownAs markup text) : Renders markup text := by
  intro position opened
  obtain ⟨plain, position', collected, hplain, hpieces, rfl⟩ := h [] nofun position
  have hend : piecesFrom position' collected [] = flush collected [] := by
    exact (cut_end 0 0 position' collected).trans rfl
  have hall : ∀ p ∈ plain ++ flush collected [], p.isPlain = true :=
    List.forall_mem_append.mpr ⟨hplain, fun p => isPlain_of_mem_flush⟩
  have hshown := showPieces_append hall (rfl : showPieces opened [] = _)
  rw [List.append_nil markup] at hpieces
  refine ⟨[], ?_, rfl⟩
  rw [hpieces, hend]
  simpa using hshown

/-- Texts around and between two tags are shown as they would be alone. -/
theorem styled {content before before' inner inner' rest text : List Char} {tag : OpenTag}
    (hcontent : Opens content tag) (hbefore : ShownAs before before')
    (hinner : ShownAs inner inner') (hrest : Renders rest text) :
    Renders (before ++ '[' :: (content ++ ']' :: (inner ++
      '[' :: ('/' :: content ++ ']' :: rest)))) (before' ++ (inner' ++ text)) := by
  intro position opened
  obtain ⟨plain, position₁, collected, hplain, hpieces, rfl⟩ := hbefore _ (closing_bracket
    (content ++ ']' :: (inner ++ '[' :: ('/' :: content ++ ']' :: rest)))) position
  obtain ⟨plain', position₂, collected', hplain', hpieces', rfl⟩ := hinner _ (closing_bracket
    ('/' :: content ++ ']' :: rest)) (position₁ + content.length + 2)
  obtain ⟨tags, hshown, hchecked⟩ := hrest (position₂ + ('/' :: content).length + 2) opened
  have hinside : ∀ p ∈ plain' ++ flush collected' [], p.isPlain = true :=
    List.forall_mem_append.mpr ⟨hplain', fun p => isPlain_of_mem_flush⟩
  have houtside : ∀ p ∈ plain ++ flush collected [], p.isPlain = true :=
    List.forall_mem_append.mpr ⟨hplain, fun p => isPlain_of_mem_flush⟩
  have hstyled := showPieces_append houtside
    (showPieces_styled hcontent hinside position₁ position₂ hshown)
  refine ⟨tag :: tags, ?_, ?_⟩
  · rw [hpieces, piecesFrom_tag _ _ hcontent.opensTag, hpieces',
      piecesFrom_tag _ _ hcontent.closesTag, flush_eq collected, flush_eq collected']
    simpa using hstyled
  · rw [List.forM, hcontent.check]
    exact hchecked

/-- A text that is shown is rendered. -/
theorem render_eq {markup : String} {text : List Char} (h : Renders markup.toList text)
    (hbracket : '[' ∈ markup.toList) : render markup = .ok text := by
  obtain ⟨tags, hshown, hchecked⟩ := h 0 []
  exact render_of_showPieces (List.contains_iff_mem.mpr hbracket) hshown hchecked

end Renders

end Markup

/-! ## Lines -/

/-- A character that takes its place on a line of the console. -/
def IsPrinted (c : Char) : Prop :=
  c ≠ '\n' ∧ c ≠ '\t' ∧ isDropped c = false

instance : DecidablePred IsPrinted :=
  fun c => inferInstanceAs (Decidable (c ≠ '\n' ∧ c ≠ '\t' ∧ isDropped c = false))

/-- A text that fits on one line of the console, character by character. -/
structure FitsLine (cs : List Char) : Prop where
  printed : ∀ c ∈ cs, IsPrinted c
  length_le : cs.length ≤ columns
  width_le : width cs ≤ columns

theorem expandTabs_of_notMem {cs : List Char} (h : '\t' ∉ cs) (column : Nat) :
    expandTabs column cs = cs := by
  induction cs generalizing column with
  | nil => rfl
  | cons c cs ih =>
    rw [List.mem_cons, not_or] at h
    rw [expandTabs, if_neg (Ne.symm h.1), ih h.2]

/-- A text without line feeds makes one line. -/
theorem shownLines_of_printed {cs : List Char} (h : ∀ c ∈ cs, IsPrinted c) :
    shownLines cs = [cs] := by
  have hkept : (cs.filter fun c => !isDropped c) = cs :=
    List.filter_eq_self.mpr fun c hc => by simp [(h c hc).2.2]
  have hnewline : '\n' ∉ cs := fun hc => (h _ hc).1 rfl
  have htab : '\t' ∉ cs := fun hc => (h _ hc).2.1 rfl
  rw [shownLines, hkept, Text.split_of_notMem hnewline, List.map_singleton,
    expandTabs_of_notMem htab]

/-- Dropping blanks at the end makes a text no wider. -/
theorem width_trimEnd_le (cs : List Char) : width (trimEnd cs) ≤ width cs := by
  have hsplit : trimEnd cs ++ (cs.reverse.takeWhile isBlank).reverse = cs := by
    rw [trimEnd, ← List.reverse_append, List.takeWhile_append_dropWhile, List.reverse_reverse]
  calc width (trimEnd cs)
      ≤ width (trimEnd cs) + width (cs.reverse.takeWhile isBlank).reverse := Nat.le_add_right _ _
    _ = width cs := by rw [← Text.width_append, hsplit]

/-- A text starts with its first word, which has the blanks around it. -/
theorem append_word (cs : List Char) :
    (cs.takeWhile isBlank ++ (cs.dropWhile isBlank).takeWhile (fun c => !isBlank c) ++
        ((cs.dropWhile isBlank).dropWhile fun c => !isBlank c).takeWhile isBlank) ++
      ((cs.dropWhile isBlank).dropWhile fun c => !isBlank c).dropWhile isBlank = cs := by
  simp only [List.append_assoc, List.takeWhile_append_dropWhile]

/-- The words of a text take no more columns than the text. -/
theorem width_words_le (n : Nat) (cs : List Char) : width (words n cs).flatten ≤ width cs := by
  induction n generalizing cs with
  | zero => simp [words]
  | succ n ih =>
    have hword := append_word cs
    rw [words]
    dsimp only
    split
    · simp
    · rename_i hbody
      clear hbody
      generalize cs.takeWhile isBlank ++ (cs.dropWhile isBlank).takeWhile (fun c => !isBlank c) ++
        ((cs.dropWhile isBlank).dropWhile fun c => !isBlank c).takeWhile isBlank = word
        at hword ⊢
      generalize ((cs.dropWhile isBlank).dropWhile fun c => !isBlank c).dropWhile isBlank = rest
        at hword
      subst hword
      rw [List.drop_left, List.flatten_cons, Text.width_append, Text.width_append]
      exact Nat.add_le_add_left (ih rest) _

/-- Words that fit need no break. -/
theorem breaks_of_le {long : LongWord} {limit start used : Nat} {ws : List (List Char)}
    (h : used + width ws.flatten ≤ limit) : breaks long limit start used ws = [] := by
  induction ws generalizing start used with
  | nil => rfl
  | cons word ws ih =>
    rw [List.flatten_cons, Text.width_append] at h
    have htrim := width_trimEnd_le word
    rw [breaks]
    dsimp only
    rw [if_pos (by omega)]
    exact ih (by omega)

theorem fold_of_le {limit : Nat} {cs : List Char} (h : width cs ≤ limit) (long : LongWord) :
    fold limit cs long = [cs] := by
  have hwords := width_words_le (cs.length + 1) cs
  rw [fold, breaks_of_le (by omega), cutAt]

theorem trimExcess_of_le {limit : Nat} {cs : List Char} (h : cs.length ≤ limit) :
    trimExcess limit cs = cs := by
  have hexcess : cs.length - limit = 0 := by omega
  simp [trimExcess, hexcess]

theorem crop_of_le {limit : Nat} {cs : List Char} (h : width cs ≤ limit) : crop limit cs = cs := by
  induction cs generalizing limit with
  | nil => rfl
  | cons c cs ih =>
    rw [Text.width_cons] at h
    rw [crop, if_pos (by omega), ih (by omega)]

/-- A line that fits is printed as it is. -/
theorem printFolded_of_renders {markup : String} {text : List Char}
    (h : Markup.Renders markup.toList text) (hbracket : '[' ∈ markup.toList)
    (hfits : FitsLine text) :
    printFolded markup = .ok (String.ofList (text ++ ['\n'])) := by
  have hprinted : printFolded markup =
      .ok (unlines (((shownLines text).flatMap (fold columns)).map
        (crop columns ∘ trimExcess columns))) := by
    rw [printFolded, h.render_eq hbracket]
    rfl
  rw [hprinted, shownLines_of_printed hfits.printed, List.flatMap_singleton,
    fold_of_le hfits.width_le, List.map_singleton, Function.comp_apply,
    trimExcess_of_le hfits.length_le, crop_of_le hfits.width_le, unlines, List.flatMap_singleton]

end StructScan.Console
