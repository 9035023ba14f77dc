import Mathlib.Data.Bool.AllAny
import StructScan.Proofs.Console.Verbatim
import StructScan.Report.Display

/-!
# Reports on the console

A report shows one line for each remark: the name of its source, the number of the line, the code
and the message.  Of these only the message is escaped, and an escaped text still has its emoji
codes replaced.  So a remark is shown literally if its texts hold no markup and the number of its
line is not the name of an emoji, as a few numbers are.

Main results:

- Theorem `Report.showPlain_number`: how the number of a line is shown.
- Theorem `Report.markupLine_renders`: how a remark is shown.
- Theorem `Report.display_shown`: what a report prints, line by line.
-/

namespace StructScan

open Console (FitsLine)
open Console.Markup

/-! ## Remarks without markup -/

/-- A text at whose end, and in which, nothing is taken for an escape or an emoji. -/
structure Console.Markup.Lasting (cs : List Char) : Prop where
  verbatim : Verbatim cs
  getLast?_ne : cs.getLast? ≠ some '\\'

/-- A remark with a code of letters and digits and with a message without markup. -/
structure Diagnostic.Inert (d : Diagnostic) : Prop where
  code : ∀ c ∈ d.code.toList, Text.isAlphanumeric c = true
  message : Lasting d.message.toList

/-- A text of letters and digits has neither brackets nor backslashes nor colons. -/
theorem Text.ne_of_isAlphanumeric {c : Char} (h : Text.isAlphanumeric c = true) :
    c ≠ '[' ∧ c ≠ '\\' ∧ c ≠ ':' := by
  refine ⟨?_, ?_, ?_⟩
  all_goals
    rintro rfl
    revert h
    decide

namespace Console.Markup

/-- A text without backslashes and colons. -/
theorem Lasting.of_notMem {cs : List Char} (hslash : '\\' ∉ cs) (hcolon : ':' ∉ cs) :
    Lasting cs where
  verbatim :=
    ⟨fun hpart => hslash (hpart.subset List.mem_cons_self), noEmoji_of_notMem hcolon⟩
  getLast?_ne hlast := hslash (List.mem_of_getLast? hlast)

theorem Lasting.of_isAlphanumeric {cs : List Char}
    (h : ∀ c ∈ cs, Text.isAlphanumeric c = true) : Lasting cs :=
  .of_notMem (fun hmem => (Text.ne_of_isAlphanumeric (h _ hmem)).2.1 rfl)
    fun hmem => (Text.ne_of_isAlphanumeric (h _ hmem)).2.2 rfl

theorem untagged_of_isAlphanumeric {cs : List Char}
    (h : ∀ c ∈ cs, Text.isAlphanumeric c = true) : Untagged cs :=
  untagged_of_notMem fun hmem => (Text.ne_of_isAlphanumeric (h _ hmem)).1 rfl

/-- A colon and a blank in front of a text make no code of it. -/
theorem Lasting.behind_colon {cs : List Char} (h : Lasting cs) : Lasting (':' :: ' ' :: cs) := by
  refine ⟨⟨?_, ?_⟩, ?_⟩
  · rintro hpart
    rcases List.infix_cons_iff.mp hpart with hstart | hpart
    · simp at hstart
    · rcases List.infix_cons_iff.mp hpart with hstart | hpart
      · simp at hstart
      · exact h.verbatim.bracket hpart
  · intro name hpart hname
    rcases List.infix_cons_iff.mp hpart with hstart | hpart
    · -- The name would start with the blank.
      obtain ⟨-, hstart⟩ := List.cons_prefix_cons.mp hstart
      cases name with
      | nil => simp at hstart
      | cons c name =>
        rw [List.cons_append, List.cons_prefix_cons] at hstart
        have hblank := (hname c List.mem_cons_self).2
        rw [hstart.1] at hblank
        exact absurd hblank (by decide)
    · rcases List.infix_cons_iff.mp hpart with hstart | hpart
      · simp at hstart
      · exact h.verbatim.emoji name hpart hname
  · cases cs with
    | nil => decide
    | cons c cs => simpa using h.getLast?_ne

end Console.Markup

/-! ## Numbers of lines -/

namespace Report

/-- The digits of a number, with a sign in front if it is negative. -/
def numeral (line : Int) : List Char :=
  (toString line).toList

/-- The numeral of a line number consists of digits, after its sign. -/
theorem isDigit_of_mem_numeral {line : Int} {c : Char} (h : c ∈ numeral line) :
    c.isDigit = true ∨ c = '-' := by
  have hdigits {n : Nat} (h : c ∈ (toString n).toList) : c.isDigit = true := by
    rw [Nat.toString_eq_ofList_toDigits, String.toList_ofList] at h
    exact Nat.isDigit_of_mem_toDigits (by decide) (by decide) h
  cases line with
  | ofNat n => exact .inl (hdigits h)
  | negSucc n =>
    have hsign : toString (Int.negSucc n) = "-" ++ toString (n + 1) := rfl
    rw [numeral, hsign, String.toList_append] at h
    rcases List.mem_append.mp h with hc | hc
    · exact .inr (by simpa using hc)
    · exact .inl (hdigits hc)

/-- The digits of a number are no markup. -/
theorem ne_of_mem_numeral {line : Int} {c : Char} (h : c ∈ numeral line) :
    c ≠ ':' ∧ c ≠ '\\' ∧ c ≠ '[' ∧ Text.isBlank c = false := by
  obtain hdigit | rfl := isDigit_of_mem_numeral h
  · have hrange : 48 ≤ c.toNat ∧ c.toNat ≤ 57 := by
      simpa [Char.isDigit, UInt32.le_iff_toNat_le] using hdigit
    refine ⟨?_, ?_, ?_, ?_⟩
    · rintro rfl
      contradiction
    · rintro rfl
      contradiction
    · rintro rfl
      contradiction
    · have hnone : ∀ n < 58, 48 ≤ n → Text.CharSet.holds n Text.blanks.ranges = false := by
        decide
      exact hnone c.toNat (by omega) hrange.1
  · exact ⟨by decide, by decide, by decide, by decide⟩

/--
The number of a line as it is shown: between colons, unless it is the name of an emoji.
-/
def lineMark (line : Int) : List Char :=
  match Console.Emoji.text? (numeral line) with
  | some glyph => glyph
  | none => ':' :: (numeral line ++ [':'])

/-- How the number of a line is shown, with the colons around it and the blank behind them. -/
theorem showPlain_number (line : Int) :
    showPlain (':' :: (numeral line ++ [':', ' '])) = lineMark line ++ [' '] := by
  have hslash : ¬['\\', '['] <:+: ':' :: (numeral line ++ [':', ' ']) := by
    intro hpart
    have hmem := hpart.subset List.mem_cons_self
    simp only [List.mem_cons, List.mem_append, List.not_mem_nil, or_false] at hmem
    rcases hmem with hmem | hmem | hmem | hmem
    · contradiction
    · exact (ne_of_mem_numeral hmem).2.1 rfl
    · contradiction
    · contradiction
  have hname : ∀ c ∈ numeral line, (decide (c ≠ ':') && !Text.isBlank c) = true := by
    intro c hc
    obtain ⟨hcolon, -, -, hblank⟩ := ne_of_mem_numeral hc
    simp [hcolon, hblank]
  have htake : (numeral line ++ [':', ' ']).takeWhile (fun c => c ≠ ':' && !Text.isBlank c) =
      numeral line := by
    rw [List.takeWhile_append_of_pos hname]
    simp
  have hdrop : (numeral line ++ [':', ' ']).dropWhile (fun c => c ≠ ':' && !Text.isBlank c) =
      [':', ' '] := by
    rw [List.dropWhile_append_of_pos hname]
    simp
  have hblank (n : Nat) : replaceEmoji n [' '] = [' '] :=
    replaceEmoji_of_noEmoji n (noEmoji_of_notMem (by simp))
  rw [showPlain, unescape_of_not_infix hslash, replaceEmoji]
  simp only [htake, hdrop, hblank]
  unfold lineMark
  cases Console.Emoji.text? (numeral line) with
  | some glyph => rfl
  | none => simp

/-! ## Lines of a report -/

/-- The remarks that a report shows, in order; a quiet one leaves its warnings out. -/
def shownRemarks (r : Report) (quiet : Bool) : List Diagnostic :=
  (r.errors.filter fun d => d.code ≠ Diagnostic.sourceUnavailable) ++
    if quiet then [] else r.warnings

/-- The line in which a remark is shown. -/
def shownLine (r : Report) (d : Diagnostic) : List Char :=
  "  ".toList ++ (r.sourceName.toList ++ (lineMark d.line ++ [' '] ++
    (d.code.toList ++ (':' :: ' ' :: d.message.toList))))

/-- What a report says about a remark, character by character. -/
def literalLine (r : Report) (d : Diagnostic) : String :=
  s!"  {r.sourceName}:{d.line}: {d.code}: {d.message}\n"

/-- A report about a source whose name holds no markup. -/
structure NamesPlainly (r : Report) : Prop where
  untagged : Untagged r.sourceName.toList
  lasting : Lasting r.sourceName.toList

/-- The line of a remark as texts around and between tags. -/
theorem markupLine_toList (r : Report) (colour : String) (d : Diagnostic) :
    (r.markupLine colour d).toList =
      "  ".toList ++ '[' :: ("bold".toList ++ ']' :: (r.sourceName.toList ++
        '[' :: ('/' :: "bold".toList ++ ']' :: (':' :: (numeral d.line ++ [':', ' ']) ++
          '[' :: (colour.toList ++ ']' :: (d.code.toList ++
            '[' :: ('/' :: colour.toList ++ ']' ::
              (':' :: ' ' :: (escape d.message).toList)))))))) := by
  have hparts : r.markupLine colour d =
      "  [bold]" ++ r.sourceName ++ "[/bold]:" ++ toString d.line ++ ": [" ++ colour ++ "]" ++
        d.code ++ "[/" ++ colour ++ "]: " ++ escape d.message := rfl
  rw [hparts, numeral]
  generalize escape d.message = message
  generalize toString d.line = number
  simp

/-- How a remark is shown, in a colour that can be opened and closed. -/
theorem markupLine_renders {r : Report} {d : Diagnostic} {colour : String} {tag : OpenTag}
    (hcolour : Opens colour.toList tag) (hname : r.NamesPlainly) (hd : d.Inert) :
    Renders (r.markupLine colour d).toList (r.shownLine d) := by
  have hmessage : Renders (':' :: ' ' :: (escape d.message).toList)
      (':' :: ' ' :: d.message.toList) := by
    have hbehind := hd.message.behind_colon
    have hescape : ':' :: ' ' :: (escape d.message).toList =
        escapeTags (d.message.length + 3) (':' :: ' ' :: d.message.toList) := by
      rw [escape_toList hd.message.getLast?_ne]
      have hblank := escapeTags_char (d.message.length + 1) 0 (show ' ' ≠ '\\' by decide)
        (by decide) d.message.toList
      have hcolon := escapeTags_char (d.message.length + 2) 0 (show ':' ≠ '\\' by decide)
        (by decide) (' ' :: d.message.toList)
      exact (hcolon.trans (congrArg (':' :: ·) hblank)).symm
    have hlength : (':' :: ' ' :: d.message.toList).length < d.message.length + 3 :=
      Nat.lt_succ_self _
    rw [hescape]
    exact .of_shownAs (.escaped hlength hbehind.verbatim hbehind.getLast?_ne)
  have hcode : ShownAs d.code.toList d.code.toList :=
    .untagged (untagged_of_isAlphanumeric hd.code) (Lasting.of_isAlphanumeric hd.code).verbatim
      (Lasting.of_isAlphanumeric hd.code).getLast?_ne
  have hnumber : ShownAs (':' :: (numeral d.line ++ [':', ' '])) (lineMark d.line ++ [' ']) := by
    rw [← showPlain_number]
    refine .inert fun c hc => ?_
    simp only [List.mem_cons, List.mem_append, List.not_mem_nil, or_false] at hc
    rcases hc with rfl | hc | rfl | rfl
    · decide
    · exact ⟨(ne_of_mem_numeral hc).2.1, (ne_of_mem_numeral hc).2.2.1⟩
    · decide
    · decide
  have hsource : ShownAs r.sourceName.toList r.sourceName.toList :=
    .untagged hname.untagged hname.lasting.verbatim hname.lasting.getLast?_ne
  have hmargin : ShownAs "  ".toList "  ".toList := by
    have hblanks : Verbatim "  ".toList := ⟨by decide, noEmoji_of_notMem (by simp)⟩
    exact .untagged (untagged_of_notMem (by simp)) hblanks (by simp)
  have hline := Renders.styled Opens.bold hmargin hsource
    (.styled hcolour hnumber hcode hmessage)
  rw [markupLine_toList]
  exact hline

/-- The line of a remark, ended by a line feed. -/
def printedLine (r : Report) (d : Diagnostic) : String :=
  String.ofList (r.shownLine d ++ ['\n'])

/-- A remark whose line is no name of an emoji is shown literally. -/
theorem printedLine_eq_literalLine (r : Report) {d : Diagnostic}
    (h : Console.Emoji.text? (numeral d.line) = none) : r.printedLine d = r.literalLine d := by
  have hmark : lineMark d.line = ':' :: (numeral d.line ++ [':']) := by
    rw [lineMark, h]
  have hliteral : r.literalLine d = "  " ++ r.sourceName ++ ":" ++ toString d.line ++ ": " ++
      d.code ++ ": " ++ d.message ++ "\n" := rfl
  apply String.toList_inj.mp
  rw [printedLine, String.toList_ofList, hliteral, shownLine, hmark, numeral]
  generalize toString d.line = number
  simp

/-- A remark is printed on a line of its own. -/
theorem printFolded_markupLine {r : Report} {d : Diagnostic} {colour : String} {tag : OpenTag}
    (hcolour : Opens colour.toList tag) (hname : r.NamesPlainly) (hd : d.Inert)
    (hfits : FitsLine (r.shownLine d)) :
    Console.printFolded (r.markupLine colour d) = .ok (r.printedLine d) := by
  have hbracket : '[' ∈ (r.markupLine colour d).toList := by
    rw [markupLine_toList]
    exact List.mem_append_right _ List.mem_cons_self
  exact Console.printFolded_of_renders (markupLine_renders hcolour hname hd) hbracket hfits

/-- All remarks: the errors and then the warnings. -/
theorem shownRemarks_false (r : Report) :
    r.shownRemarks false = r.shownRemarks true ++ r.warnings := by
  simp [shownRemarks]

/-- Remarks of one colour are printed line by line. -/
theorem map_printFolded {r : Report} {colour : String} {tag : OpenTag}
    (hcolour : Opens colour.toList tag) (hname : r.NamesPlainly) {ds : List Diagnostic}
    (hds : ∀ d ∈ ds, d.Inert ∧ FitsLine (r.shownLine d)) :
    (ds.map (r.markupLine colour)).map Console.printFolded =
      ds.map fun d => .ok (r.printedLine d) := by
  simp only [List.map_map]
  refine List.map_congr_left fun d hd => ?_
  obtain ⟨hinert, hfits⟩ := hds d hd
  rw [Function.comp_apply, printFolded_markupLine hcolour hname hinert hfits]

/-- What a report prints: its errors in red and then, unless it is quiet, its warnings in yellow. -/
theorem display_eq_printedLine {r : Report} (hname : r.NamesPlainly)
    (hremarks : ∀ d ∈ r.shownRemarks false, d.Inert ∧ FitsLine (r.shownLine d)) (quiet : Bool) :
    r.display quiet = (r.shownRemarks quiet).map fun d => .ok (r.printedLine d) := by
  rw [shownRemarks_false] at hremarks
  obtain ⟨herrors, hwarnings⟩ := List.forall_mem_append.mp hremarks
  have hred := map_printFolded Opens.red hname herrors
  have hyellow := map_printFolded Opens.yellow hname hwarnings
  have hmarkup : r.markupLines false =
      (r.shownRemarks true).map (r.markupLine "red") ++ r.warnings.map (r.markupLine "yellow") := by
    simp [markupLines, shownRemarks]
  cases quiet with
  | true =>
    have hquiet : r.markupLines true = (r.shownRemarks true).map (r.markupLine "red") := by
      simp [markupLines, shownRemarks]
    rw [display, hquiet, hred]
  | false =>
    rw [display, hmarkup, List.map_append, hred, hyellow, shownRemarks_false, List.map_append]

/--
What a report prints, about a source and with remarks whose texts hold no markup.  Every remark
stands on a line of its own, errors first; the line is literal unless its number is the name of an
emoji.  A quiet report prints the part about the errors.
-/
theorem display_shown {r : Report} (hname : r.NamesPlainly)
    (hremarks : ∀ d ∈ r.shownRemarks false, d.Inert ∧ FitsLine (r.shownLine d)) (quiet : Bool) :
    r.display quiet = (r.shownRemarks quiet).map (fun d => .ok (r.printedLine d)) ∧
      ((∀ d ∈ r.shownRemarks quiet, Console.Emoji.text? (numeral d.line) = none) →
        r.display quiet = (r.shownRemarks quiet).map fun d => .ok (r.literalLine d)) ∧
      r.display false = r.display true ++ r.warnings.map fun d => .ok (r.printedLine d) := by
  have hdisplay := display_eq_printedLine hname hremarks
  refine ⟨hdisplay quiet, fun hnumbers => ?_, ?_⟩
  · rw [hdisplay quiet]
    refine List.map_congr_left fun d hd => ?_
    rw [printedLine_eq_literalLine r (hnumbers d hd)]
  · rw [hdisplay false, hdisplay true, ← List.map_append]
    simp [shownRemarks]

/-- A warning about a line whose number is the name of an emoji. -/
def emojiReport : Report :=
  { file := some (Path.ofString "src/a.h"), warnings := [⟨100, "W001", "m"⟩] }

/-- The mark of line 100 is an emoji. -/
theorem lineMark_hundred : lineMark 100 = ['💯'] := by
  have hglyph : Console.Emoji.text? (numeral 100) = some ['💯'] := by decide +kernel
  rw [lineMark, hglyph]

theorem emojiReport_sourceName : emojiReport.sourceName = "a.h" := by
  decide

theorem emojiReport_namesPlainly : emojiReport.NamesPlainly := by
  refine ⟨untagged_of_notMem ?_, .of_notMem ?_ ?_⟩ <;> simp [emojiReport_sourceName]

theorem emojiReport_shownLine (d : Diagnostic) (h : d ∈ emojiReport.shownRemarks false) :
    d = ⟨100, "W001", "m"⟩ ∧ emojiReport.shownLine d = "  a.h💯 W001: m".toList := by
  obtain rfl : d = ⟨100, "W001", "m"⟩ := by simpa [emojiReport, shownRemarks] using h
  refine ⟨rfl, ?_⟩
  rw [shownLine, lineMark_hundred, emojiReport_sourceName]
  rfl

theorem emojiReport_inert (d : Diagnostic) (h : d ∈ emojiReport.shownRemarks false) :
    d.Inert ∧ FitsLine (emojiReport.shownLine d) := by
  obtain ⟨rfl, hline⟩ := emojiReport_shownLine d h
  refine ⟨⟨List.all_eq_true.mp (by decide),
    .of_isAlphanumeric (List.all_eq_true.mp (by decide))⟩, ?_⟩
  rw [hline]
  exact ⟨List.all_iff_forall_prop.mp (by decide +kernel), by decide +kernel, by decide +kernel⟩

theorem emojiReport_printedLine : emojiReport.printedLine ⟨100, "W001", "m"⟩ =
    "  a.h💯 W001: m\n" := by
  obtain ⟨-, hline⟩ := emojiReport_shownLine ⟨100, "W001", "m"⟩ (by decide)
  apply String.toList_inj.mp
  rw [printedLine, String.toList_ofList, hline]
  rfl

/-- A report that prints an emoji, and nothing if it is quiet. -/
theorem display_shown_emoji :
    emojiReport.display false = [.ok "  a.h💯 W001: m\n"] ∧ emojiReport.display true = [] := by
  obtain ⟨hall, -, -⟩ := display_shown emojiReport_namesPlainly emojiReport_inert false
  obtain ⟨hquiet, -, -⟩ := display_shown emojiReport_namesPlainly emojiReport_inert true
  have hremarks : emojiReport.shownRemarks false = [⟨100, "W001", "m"⟩] := by
    decide
  have hnone : emojiReport.shownRemarks true = [] := by
    decide
  rw [hremarks] at hall
  rw [hnone] at hquiet
  rw [hall, hquiet, List.map_singleton, emojiReport_printedLine]
  exact ⟨rfl, rfl⟩

/-- The number of the line is not shown. -/
theorem emojiReport_not_literal :
    emojiReport.display false ≠
      (emojiReport.shownRemarks false).map fun d => .ok (emojiReport.literalLine d) := by
  have hremarks : emojiReport.shownRemarks false = [⟨100, "W001", "m"⟩] := by
    decide
  have hliteral : emojiReport.literalLine ⟨100, "W001", "m"⟩ = "  a.h:100: W001: m\n" := by
    decide
  rw [display_eq_printedLine emojiReport_namesPlainly emojiReport_inert, hremarks,
    List.map_singleton, List.map_singleton, emojiReport_printedLine, hliteral]
  intro heq
  injection heq with hhead
  injection hhead with htext
  exact absurd htext (by decide)

end Report

end StructScan
