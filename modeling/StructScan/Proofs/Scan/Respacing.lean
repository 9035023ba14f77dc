import StructScan.Proofs.Grammar.Faces
import StructScan.Proofs.Scan.Segments

/-!
# Blanks and comments between tokens

What stands between the tokens of a text is filler: blanks, complete block comments and
line comments with their line feed.  Whatever filler the tokens of a text are laid out
with, the text that results has the same tokens on other lines, and a scan of it finds
the same layouts.

Main results:

- Theorem `Filler.faces_append`: filler adds no token.
- Theorem `LaidOut.faces_eq`: tokens that are laid out with filler are found again.
- Theorem `Accounts.of_faces`: tokens that look alike are cut up alike.
- Theorem `Scan.rest_laidOut`: laying the tokens of a text out anew changes neither
  their faces nor the layouts that a scan finds.
-/

namespace StructScan

open Token (face faces Lexed)
open TokenStream (tokensOfText)

/-! ## Filler -/

/--
Characters that may stand between tokens: blanks, block comments that close at the end of
what is in them, and line comments with the line feed that ends them.
-/
inductive Filler : List Char → Prop where
  | nil : Filler []
  | blank {c : Char} {cs : List Char} (hblank : Text.isBlank c = true) (hrest : Filler cs) :
      Filler (c :: cs)
  | blockComment {body cs : List Char} (hopen : ¬['*', '/'] <:+: body) (hrest : Filler cs) :
      Filler ('/' :: '*' :: body ++ '*' :: '/' :: cs)
  | lineComment {body cs : List Char} (hfeed : '\n' ∉ body) (hreturn : '\r' ∉ body)
      (hrest : Filler cs) : Filler ('/' :: '/' :: body ++ '\n' :: cs)

/-- A block comment goes on to its closing mark, whatever else its body holds. -/
theorem Token.faces_commentBody {body : List Char} (hopen : ¬['*', '/'] <:+: body)
    (cs : List Char) : faces .comment (body ++ '*' :: '/' :: cs) = faces .code cs := by
  induction body with
  | nil => exact faces_closeComment cs
  | cons c body ih =>
    have hbody : ¬['*', '/'] <:+: body := fun h => hopen (List.infix_cons h)
    rw [List.cons_append, faces_comment, ih hbody]
    -- A star of the body is not followed by a slash: not inside the body, nor at its end.
    rintro rfl
    cases body with
    | nil => simp
    | cons d body =>
      intro hd
      cases hd
      exact hopen ⟨[], body, rfl⟩

/-- Filler adds no token. -/
theorem Filler.faces_append {filler : List Char} (h : Filler filler) (cs : List Char) :
    faces .code (filler ++ cs) = faces .code cs := by
  induction h with
  | nil => rfl
  | blank hblank _ ih => rw [List.cons_append, Token.faces_blank hblank, ih]
  | @blockComment body rest hopen _ ih =>
    have hcomment := Token.faces_commentBody hopen (rest ++ cs)
    rw [← Token.faces_openComment, ih] at hcomment
    simpa using hcomment
  | @lineComment body rest hfeed hreturn _ ih =>
    have hcomment := Token.faces_lineComment hfeed hreturn (rest ++ cs)
    rw [ih] at hcomment
    simpa using hcomment

/-! ## Tokens with filler between them -/

/--
The texts of tokens, each followed by filler that starts with a blank; at the end there may
be none.
-/
inductive LaidOut : List Token → List Char → Prop where
  | nil : LaidOut [] []
  | cons {t : Token} {ts : List Token} {gap cs : List Char} (hgap : Filler gap)
      (hstart : ∀ c, gap.head? = some c → Text.isBlank c = true) (hinner : ts ≠ [] → gap ≠ [])
      (hrest : LaidOut ts cs) : LaidOut (t :: ts) (t.text.toList ++ (gap ++ cs))

/-- A token in front of a blank, or at the end, is found again. -/
theorem Token.Lexed.faces_append {t : Token} (h : Lexed t) {cs : List Char}
    (hcs : ∀ c, cs.head? = some c → Text.isBlank c = true) :
    faces .code (t.text.toList ++ cs) = t.face :: faces .code cs := by
  cases h with
  | word hword =>
    rw [Token.ofWord_text, String.toList_ofList]
    exact Token.faces_word hword fun c hc => Text.isWordChar_of_isBlank (hcs c hc)
  | single hblank hsingle =>
    rw [String.toList_ofList, List.singleton_append]
    refine Token.faces_single hblank hsingle fun _ => ⟨fun hhead => ?_, fun hhead => ?_⟩
    · exact absurd (hcs _ hhead) (by decide)
    · exact absurd (hcs _ hhead) (by decide)

/-- Tokens that are laid out with filler are found again. -/
theorem LaidOut.faces_eq {ts : List Token} {cs : List Char} (h : LaidOut ts cs)
    (hlexed : ∀ t ∈ ts, Lexed t) : faces .code cs = ts.map face := by
  induction h with
  | nil => rfl
  | @cons t ts gap cs hgap hstart hinner hrest ih =>
    have hlater := ih fun u hu => hlexed u (by simp [hu])
    have hcs (c : Char) (hc : (gap ++ cs).head? = some c) : Text.isBlank c = true := by
      cases gap with
      | cons d gap => exact hstart c hc
      | nil =>
        -- Without a gap this is the last token, and nothing follows.
        obtain rfl : ts = [] := Classical.byContradiction fun hne => hinner hne rfl
        cases hrest
        simp at hc
    rw [(hlexed t (by simp)).faces_append hcs, hgap.faces_append, hlater, List.map_cons]

/-! ## Scanning tokens that look alike -/

/-- Tokens that look alike are cut up alike, as far as layouts and the number of skips go. -/
theorem Accounts.of_faces {last last' : Nat} {ts us : List Token}
    {segments segments' : List Segment} (h : Accounts last ts segments)
    (h' : Accounts last' us segments') (hfaces : SameFaces ts us) :
    layoutsOf segments = layoutsOf segments' ∧
      (skipsOf segments).length = (skipsOf segments').length := by
  induction h generalizing us segments' with
  | nil =>
    rw [hfaces.eq_nil] at h'
    cases h'
    exact ⟨rfl, rfl⟩
  | dropped hkind _ ih =>
    obtain ⟨u, rest, rfl, hface, hrest⟩ := hfaces.exists_cons
    rw [SameFaces.kind_eq hface] at hkind
    obtain ⟨later, rfl, hlater⟩ := h'.of_cons_dropped hkind
    obtain ⟨hlayouts, hskips⟩ := ih hlater hrest
    exact ⟨hlayouts, hskips⟩
  | found hkind hspells _ ih =>
    obtain ⟨u, us, rfl, hface, hrest⟩ := hfaces.exists_cons
    rw [SameFaces.kind_eq hface] at hkind
    obtain ⟨body', rest', rfl, hspells', hrest'⟩ := hspells.of_faces hrest
    obtain ⟨later', rfl, hlater⟩ := h'.of_cons_found hkind hspells'
    obtain ⟨hlayouts, hskips⟩ := ih hlater hrest'
    exact ⟨by simp [hlayouts], hskips⟩
  | skipped hkind hgivesUp _ ih =>
    obtain ⟨u, us, rfl, hface, hrest⟩ := hfaces.exists_cons
    rw [SameFaces.kind_eq hface] at hkind
    obtain ⟨matched', left', e', rest', rfl, hgivesUp', hrest'⟩ := hgivesUp.of_faces last' hrest
    obtain ⟨later', rfl, hlater⟩ := h'.of_cons_skipped hkind hgivesUp'
    obtain ⟨hlayouts, hskips⟩ := ih hlater hrest'
    exact ⟨hlayouts, congrArg (· + 1) hskips⟩

/-! ## Whole texts -/

/-- The tokens of a text have the faces that its characters show. -/
theorem TokenStream.map_face_tokensOfText (text : String) :
    (tokensOfText text).map face = faces .code text.toList := by
  rw [tokensOfText_eq_linesTokens]
  rfl

/-- Every token of a text is a word or a single character. -/
theorem TokenStream.lexed_of_mem_tokensOfText {text : String} {t : Token}
    (h : t ∈ tokensOfText text) : Lexed t := by
  rw [tokensOfText_eq_linesTokens] at h
  exact Token.lexed_of_mem_linesTokens h

/--
Laying the tokens of a text out anew, with any filler in front of them and between them,
changes neither their kinds and texts nor the layouts that a scan finds.
-/
theorem Scan.rest_laidOut (text : String) {lead cs : List Char} (hlead : Filler lead)
    (hcs : LaidOut (tokensOfText text) cs) :
    (tokensOfText (String.ofList (lead ++ cs))).map face = (tokensOfText text).map face ∧
      ∃ layouts, ∀ report report',
        (ofText (String.ofList (lead ++ cs)) report).rest.1 = .ok layouts ∧
        (ofText text report').rest.1 = .ok layouts := by
  have hfaces : SameFaces (tokensOfText (String.ofList (lead ++ cs))) (tokensOfText text) := by
    have hlexed (t : Token) (ht : t ∈ tokensOfText text) : Lexed t :=
      TokenStream.lexed_of_mem_tokensOfText ht
    rw [SameFaces, TokenStream.map_face_tokensOfText, String.toList_ofList, hlead.faces_append,
      hcs.faces_eq hlexed]
  refine ⟨hfaces, ?_⟩
  obtain ⟨segments, haccounts, -⟩ := rest_ofText text none
  obtain ⟨segments', haccounts', -⟩ := rest_ofText (String.ofList (lead ++ cs)) none
  have hlayouts : layoutsOf segments' = layoutsOf segments :=
    (haccounts'.of_faces haccounts hfaces).1
  refine ⟨layoutsOf segments, fun report report' => ⟨?_, ?_⟩⟩
  · rw [(rest_of_accounts haccounts' report).1, hlayouts]
  · exact (rest_of_accounts haccounts report').1

/-- A struct laid out anew, with comments that hold marks and code. -/
theorem Scan.rest_laidOut_marks :
    let lead := ['/', '*', '/', '*', '/']
    let cs := "struct".toList ++ (['\r', '/', '/', '\x7d', '\n'] ++ ("S".toList ++ ([' '] ++
      ("\x7b".toList ++ (['\t'] ++ ("\x7d".toList ++ ([' ', '/', '*', '*', '*', '/'] ++
        (";".toList ++ ([] ++ [])))))))))
    Filler lead ∧ LaidOut (tokensOfText "struct S\x7b\x7d;") cs ∧
      (tokensOfText (String.ofList (lead ++ cs))).map face =
        (tokensOfText "struct S\x7b\x7d;").map face ∧
      ∃ layouts, ∀ report report',
        (ofText (String.ofList (lead ++ cs)) report).rest.1 = .ok layouts ∧
        (ofText "struct S\x7b\x7d;" report').rest.1 = .ok layouts := by
  intro lead cs
  have hlead : Filler lead := .blockComment (show ¬['*', '/'] <:+: ['/'] by decide) .nil
  have htokens : tokensOfText "struct S\x7b\x7d;" =
      [⟨.struct, "struct", 1⟩, ⟨.identifier, "S", 1⟩, ⟨.openBrace, "\x7b", 1⟩,
        ⟨.closeBrace, "\x7d", 1⟩, ⟨.semicolon, ";", 1⟩] := by
    decide +kernel
  have hcs : LaidOut (tokensOfText "struct S\x7b\x7d;") cs := by
    rw [htokens]
    have hline : Filler ['\r', '/', '/', '\x7d', '\n'] :=
      .blank (by decide) (.lineComment (show '\n' ∉ ['\x7d'] by decide) (by decide) .nil)
    have hblock : Filler [' ', '/', '*', '*', '*', '/'] :=
      .blank (by decide) (.blockComment (show ¬['*', '/'] <:+: ['*'] by decide) .nil)
    have hblank {c : Char} (hc : Text.isBlank c = true) : Filler [c] := .blank hc .nil
    have hstart {c : Char} {gap : List Char} (hc : Text.isBlank c = true) (d : Char)
        (hd : (c :: gap).head? = some d) : Text.isBlank d = true := by
      cases hd
      exact hc
    refine .cons hline (hstart (by decide)) (by simp) (.cons (hblank (by decide))
      (hstart (by decide)) (by simp) (.cons (hblank (by decide)) (hstart (by decide)) (by simp)
      (.cons hblock (hstart (by decide)) (by simp) (.cons .nil (by simp) (by simp) .nil))))
  exact ⟨hlead, hcs, rest_laidOut _ hlead hcs⟩

end StructScan
