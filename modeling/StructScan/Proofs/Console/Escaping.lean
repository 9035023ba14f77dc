import StructScan.Console.Text

/-!
# Escaped texts hold no tags

A text that is escaped and put between tags is shown without a failure, whatever it holds.  What
would be taken for a tag in it has an odd number of backslashes in front of it and is plain text;
what is no tag does not become one by what was put in front of it or comes after it.

Main results:

- Theorem `Markup.tag?_escapeTags`: an opening bracket without a tag has none after escaping.
- Theorem `Markup.cut_escapeTags`: an escaped text is cut into plain pieces.
- Theorem `Markup.render_yellow`: an escaped text between tags is shown.
-/

namespace StructScan.Console

/-! ## The style of a notice -/

theorem Color.yellow_mem_names : "yellow".toList ∈ Color.names := by
  -- Only the line of the palette that has the name is taken apart.
  refine List.mem_flatMap.mpr
    ⟨"steel_blue3 tan thistle1 thistle3 turquoise2 turquoise4 violet wheat1 wheat4 white yellow",
      ?_, by decide⟩
  simp only [Color.palette, List.mem_cons, true_or, or_true]

theorem Color.read_yellow : Color.read "yellow".toList = .ok "yellow".toList := by
  have hlower : Text.lower "yellow".toList = "yellow".toList := by decide
  have hname : names.contains "yellow".toList = true := List.contains_iff_mem.mpr yellow_mem_names
  simp only [read, hlower, hname, Bool.true_or, if_true]

theorem Style.read_yellow :
    Style.read "yellow".toList = .ok { color := some "yellow".toList } := by
  have hlower : Text.lower "yellow".toList = "yellow".toList := by decide
  have htrim : ¬Text.trim "yellow".toList = "none".toList := by decide
  have hwords : Text.wordsOf "yellow".toList = ["yellow".toList] := by decide
  have hon : ¬"yellow".toList = "on".toList := by decide
  have hnot : ¬"yellow".toList = "not".toList := by decide
  have hlink : ¬"yellow".toList = "link".toList := by decide
  have hnone : Attribute.ofName? (String.ofList "yellow".toList) = none := by decide
  rw [read, if_neg htrim, hwords, readWords]
  simp only [hlower, if_neg hon, if_neg hnot, if_neg hlink, hnone, Color.read_yellow]
  rfl

namespace Markup

theorem styleName_yellow : styleName "yellow".toList = .ok "yellow" := by
  rw [styleName, Style.canonical, Style.read_yellow]
  rfl

/-- The tag that is open in a notice. -/
def yellow : OpenTag := ⟨"yellow", none⟩

/-- Warnings are shown in a colour that there is. -/
theorem check_yellow : yellow.check = .ok () := by
  have hdescription : yellow.description = "yellow".toList := rfl
  rw [OpenTag.check, hdescription, Style.read_yellow]

/-! ## Backslashes -/

/-- A number of backslashes. -/
abbrev slashes (count : Nat) : List Char :=
  List.replicate count '\\'

/-- Every text starts with a number of backslashes and goes on without one. -/
theorem exists_slashes (cs : List Char) :
    ∃ count rest, cs = slashes count ++ rest ∧ rest.head? ≠ some '\\' := by
  induction cs with
  | nil => exact ⟨0, [], rfl, nofun⟩
  | cons c cs ih =>
    obtain ⟨count, rest, rfl, hrest⟩ := ih
    by_cases hc : c = '\\'
    · exact ⟨count + 1, rest, by rw [hc]; rfl, hrest⟩
    · exact ⟨0, c :: (slashes count ++ rest), rfl, by simpa using hc⟩

theorem takeWhile_slashes (count : Nat) {rest : List Char} (h : rest.head? ≠ some '\\') :
    (slashes count ++ rest).takeWhile (· = '\\') = slashes count := by
  have hrest : rest.takeWhile (· = '\\') = [] := by
    cases rest with
    | nil => rfl
    | cons c rest => rw [List.takeWhile_cons_of_neg (by simpa using h)]
  rw [List.takeWhile_append_of_pos (by simp), hrest, List.append_nil]

theorem dropWhile_slashes (count : Nat) {rest : List Char} (h : rest.head? ≠ some '\\') :
    (slashes count ++ rest).dropWhile (· = '\\') = rest := by
  rw [List.dropWhile_append_of_pos (by simp)]
  cases rest with
  | nil => rfl
  | cons c rest => rw [List.dropWhile_cons_of_neg (by simpa using h)]

/-! ## Tags -/

/-- The first square bracket of a text. -/
def bracket? (cs : List Char) : Option Char :=
  (cs.dropWhile isInner).head?

/-- Backslashes do not hide the bracket that comes next. -/
theorem bracket?_slashes_append (count : Nat) (rest : List Char) :
    bracket? (slashes count ++ rest) = bracket? rest := by
  rw [bracket?, List.dropWhile_append_of_pos, bracket?]
  intro c hc
  rw [List.eq_of_mem_replicate hc]
  rfl

/-- A tag starts with a character that opens tags and goes on to its closing bracket. -/
theorem tag?_cons (c : Char) (cs : List Char) :
    tag? (c :: cs) =
      if opensTag c then
        match cs.dropWhile isInner with
        | ']' :: rest => some (c :: cs.takeWhile isInner, rest)
        | _ => none
      else none :=
  rfl

/-- What opens like a tag is none exactly if the next bracket does not end it. -/
theorem tag?_eq_none_iff {c : Char} (hopens : opensTag c = true) (cs : List Char) :
    tag? (c :: cs) = none ↔ bracket? cs ≠ some ']' := by
  rw [tag?_cons, if_pos hopens, bracket?]
  split
  · rename_i rest heq
    simp [heq]
  · rename_i hne
    cases hdrop : cs.dropWhile isInner with
    | nil => simp
    | cons b rest =>
      have hb : b ≠ ']' := by
        rintro rfl
        exact hne rest hdrop
      simpa using hb

/-- What opens like a tag goes up to the next bracket, if that ends it. -/
theorem tag?_append {c : Char} {inner : List Char} (hopens : opensTag c = true)
    (hinner : ∀ x ∈ inner, isInner x = true) (rest : List Char) :
    tag? (c :: inner ++ ']' :: rest) = some (c :: inner, rest) := by
  have hend : isInner ']' = false := rfl
  rw [List.cons_append, tag?_cons, if_pos hopens, List.dropWhile_append_of_pos hinner,
    List.takeWhile_append_of_pos hinner]
  simp [hend]

/-- A tag goes up to the next bracket, which ends it, whatever follows. -/
theorem exists_of_tag? {cs content after : List Char} (h : tag? cs = some (content, after)) :
    cs = content ++ ']' :: after ∧
      ∀ rest, tag? (content ++ ']' :: rest) = some (content, rest) := by
  cases cs with
  | nil => contradiction
  | cons c cs =>
    rw [tag?_cons] at h
    split at h
    · rename_i hopens
      split at h
      · rename_i rest heq
        obtain ⟨rfl, rfl⟩ := Prod.mk.inj (Option.some.inj h)
        refine ⟨?_, tag?_append hopens (List.all_eq_true.mp List.all_takeWhile)⟩
        rw [List.cons_append, ← heq, List.takeWhile_append_dropWhile]
      · contradiction
    · contradiction

/-! ## One step of escaping and of cutting -/

section Steps

variable (n count : Nat)

/-- Escaping takes the backslashes at the front at once and goes on after what follows them. -/
theorem escapeTags_slashes (rest : List Char) : rest.head? ≠ some '\\' →
    escapeTags (n + 1) (slashes count ++ rest) =
      match rest with
      | '[' :: rest =>
        match tag? rest with
        | some (content, after) =>
          slashes count ++ slashes count ++ '\\' :: '[' :: content ++ ']' :: escapeTags n after
        | none => slashes count ++ '[' :: escapeTags n rest
      | c :: rest => slashes count ++ c :: escapeTags n rest
      | [] => slashes count := by
  intro h
  rewrite [escapeTags, takeWhile_slashes count h, dropWhile_slashes count h, List.length_replicate]
  rfl

theorem escapeTags_end : escapeTags (n + 1) (slashes count) = slashes count := by
  have hstep := escapeTags_slashes n count [] nofun
  rwa [List.append_nil] at hstep

/-- A character without a meaning stays as it is. -/
theorem escapeTags_char {c : Char} (hslash : c ≠ '\\') (hbracket : c ≠ '[') (rest : List Char) :
    escapeTags (n + 1) (slashes count ++ c :: rest) =
      slashes count ++ c :: escapeTags n rest := by
  rw [escapeTags_slashes n count _ (by simpa using hslash)]
  split
  · next heq => exact absurd (List.head_eq_of_cons_eq heq) hbracket
  · next heq =>
    cases heq
    rfl
  · contradiction

/-- So does a bracket that opens no tag. -/
theorem escapeTags_bracket {rest : List Char} (h : tag? rest = none) :
    escapeTags (n + 1) (slashes count ++ '[' :: rest) =
      slashes count ++ '[' :: escapeTags n rest := by
  rw [escapeTags_slashes n count _ (by simp)]
  simp only [h]

/-- Before a tag, backslashes are doubled and one is added. -/
theorem escapeTags_tag {rest content after : List Char} (h : tag? rest = some (content, after)) :
    escapeTags (n + 1) (slashes count ++ '[' :: rest) =
      slashes (2 * count + 1) ++ '[' :: (content ++ ']' :: escapeTags n after) := by
  have hdouble (cs : List Char) :
      slashes (2 * count + 1) ++ cs = slashes count ++ (slashes count ++ '\\' :: cs) := by
    have hcount : 2 * count + 1 = count + (count + 1) := by omega
    rw [hcount, slashes, ← List.replicate_append_replicate, ← List.replicate_append_replicate]
    simp
  rw [escapeTags_slashes n count _ (by simp)]
  simp only [h, hdouble, List.append_assoc, List.cons_append]

variable (position : Nat) (collected : List Char)

/-- Cutting takes the backslashes at the front at once and goes on after what follows them. -/
theorem cut_slashes (rest : List Char) : rest.head? ≠ some '\\' →
    cut (n + 1) position collected (slashes count ++ rest) =
      match rest with
      | '[' :: rest =>
        match tag? rest with
        | some (content, after) =>
          flush collected (tagPieces position count content ++
            cut n (position + count + content.length + 2) [] after)
        | none => cut n (position + count + 1) ('[' :: slashes count ++ collected) rest
      | c :: rest => cut n (position + count + 1) (c :: slashes count ++ collected) rest
      | [] => flush (slashes count ++ collected) [] := by
  intro h
  rewrite [cut, takeWhile_slashes count h, dropWhile_slashes count h, List.length_replicate]
  rfl

/-- A character without a meaning is collected, with the backslashes before it. -/
theorem cut_char {c : Char} (hslash : c ≠ '\\') (hbracket : c ≠ '[') (rest : List Char) :
    cut (n + 1) position collected (slashes count ++ c :: rest) =
      cut n (position + count + 1) (c :: slashes count ++ collected) rest := by
  rw [cut_slashes n count position collected _ (by simpa using hslash)]
  split
  · next heq => exact absurd (List.head_eq_of_cons_eq heq) hbracket
  · next heq =>
    cases heq
    rfl
  · contradiction

/-- So is a bracket that opens no tag. -/
theorem cut_bracket {rest : List Char} (h : tag? rest = none) :
    cut (n + 1) position collected (slashes count ++ '[' :: rest) =
      cut n (position + count + 1) ('[' :: slashes count ++ collected) rest := by
  rw [cut_slashes n count position collected _ (by simp)]
  simp only [h]

/-- Where there is a tag, the backslashes before it decide what it becomes. -/
theorem cut_tag {rest content after : List Char} (h : tag? rest = some (content, after)) :
    cut (n + 1) position collected (slashes count ++ '[' :: rest) =
      flush collected (tagPieces position count content ++
        cut n (position + count + content.length + 2) [] after) := by
  rw [cut_slashes n count position collected _ (by simp)]
  simp only [h]

end Steps

/-- What stands at the front of a text and how it is escaped, up to a limit of `n` for the rest. -/
inductive Escapes (n : Nat) : List Char → List Char → Prop where
  | ends (count : Nat) : Escapes n (slashes count) (slashes count)
  | char (count : Nat) {c : Char} (hslash : c ≠ '\\') (hbracket : c ≠ '[') (rest : List Char) :
    Escapes n (slashes count ++ c :: rest) (slashes count ++ c :: escapeTags n rest)
  | bracket (count : Nat) {rest : List Char} (htag : tag? rest = none) :
    Escapes n (slashes count ++ '[' :: rest) (slashes count ++ '[' :: escapeTags n rest)
  | tag (count : Nat) {rest content after : List Char} (htag : tag? rest = some (content, after)) :
    Escapes n (slashes count ++ '[' :: rest)
      (slashes (2 * count + 1) ++ '[' :: (content ++ ']' :: escapeTags n after))

/-- Escaping a text gives one of the four forms. -/
theorem escapes_escapeTags (n : Nat) (cs : List Char) : Escapes n cs (escapeTags (n + 1) cs) := by
  obtain ⟨count, rest, rfl, hrest⟩ := exists_slashes cs
  cases rest with
  | nil =>
    rw [List.append_nil, escapeTags_end]
    exact .ends count
  | cons c rest =>
    by_cases hbracket : c = '['
    · subst hbracket
      cases htag : tag? rest with
      | none =>
        rw [escapeTags_bracket n count htag]
        exact .bracket count htag
      | some found =>
        rw [escapeTags_tag n count htag]
        exact .tag count htag
    · have hslash : c ≠ '\\' := by simpa using hrest
      rw [escapeTags_char n count hslash hbracket]
      exact .char count hslash hbracket rest

/-! ## Escaped texts -/

/-- Text that comes after an escaped one: nothing, or backslashes and then a bracket that opens. -/
def Closing (tail : List Char) : Prop :=
  ∀ c, (tail.dropWhile (· = '\\')).head? = some c → c = '['

namespace Closing

variable {tail : List Char}

theorem bracket?_ne (h : Closing tail) : bracket? tail ≠ some ']' := by
  obtain ⟨count, rest, rfl, hrest⟩ := exists_slashes tail
  rw [Closing, dropWhile_slashes count hrest] at h
  rw [bracket?_slashes_append]
  cases rest with
  | nil => nofun
  | cons c rest =>
    rw [h c rfl]
    nofun

theorem opensTag_eq_false (h : Closing tail) {c : Char} (hc : tail.head? = some c) :
    opensTag c = false := by
  obtain ⟨count, rest, rfl, hrest⟩ := exists_slashes tail
  rw [Closing, dropWhile_slashes count hrest] at h
  cases count with
  | zero =>
    rw [h c hc]
    rfl
  | succ count =>
    cases hc
    rfl

end Closing

theorem bracket?_cons_of_isInner {c : Char} (h : isInner c = true) (cs : List Char) :
    bracket? (c :: cs) = bracket? cs := by
  rw [bracket?, List.dropWhile_cons_of_pos h, bracket?]

/-- The first bracket of an escaped text ends no tag if that of the text does not. -/
theorem bracket?_escapeTags {n : Nat} {cs tail : List Char} (hn : cs.length < n)
    (htail : Closing tail) (h : bracket? cs ≠ some ']') :
    bracket? (escapeTags n cs ++ tail) ≠ some ']' := by
  induction n generalizing cs with
  | zero => omega
  | succ n ih =>
    have hstep := escapes_escapeTags n cs
    generalize escapeTags (n + 1) cs = escaped at hstep ⊢
    cases hstep with
    | ends count =>
      rw [bracket?_slashes_append]
      exact htail.bracket?_ne
    | @char count c hslash hbracket rest =>
      rw [bracket?_slashes_append] at h
      have hinner : isInner c = true := by
        have hend : c ≠ ']' := by
          rintro rfl
          exact h rfl
        simp [isInner, hend, hbracket]
      rw [bracket?_cons_of_isInner hinner] at h
      rw [List.append_assoc, bracket?_slashes_append, List.cons_append,
        bracket?_cons_of_isInner hinner]
      have hshorter : rest.length < n := by
        simp at hn
        omega
      exact ih hshorter h
    | bracket count htag =>
      rw [List.append_assoc, bracket?_slashes_append]
      nofun
    | tag count htag =>
      rw [List.append_assoc, bracket?_slashes_append]
      nofun

/-- Nothing opens like a tag at the front of an escaped text unless it does in the text. -/
theorem head?_escapeTags {n : Nat} {cs tail : List Char} {c : Char} (htail : Closing tail)
    (hc : (escapeTags (n + 1) cs ++ tail).head? = some c) (hopens : opensTag c = true) :
    ∃ rest, cs = c :: rest ∧ escapeTags (n + 1) cs = c :: escapeTags n rest := by
  have hslash : c ≠ '\\' := by
    rintro rfl
    contradiction
  have hbracket : c ≠ '[' := by
    rintro rfl
    contradiction
  have hstep := escapes_escapeTags n cs
  generalize escapeTags (n + 1) cs = escaped at hstep hc ⊢
  cases hstep with
  | ends count =>
    cases count with
    | zero =>
      rw [htail.opensTag_eq_false hc] at hopens
      contradiction
    | succ count => exact absurd (Option.some.inj hc).symm hslash
  | char count _ _ rest =>
    cases count with
    | zero =>
      obtain rfl := Option.some.inj hc
      exact ⟨rest, rfl, rfl⟩
    | succ count => exact absurd (Option.some.inj hc).symm hslash
  | bracket count =>
    cases count with
    | zero => exact absurd (Option.some.inj hc).symm hbracket
    | succ count => exact absurd (Option.some.inj hc).symm hslash
  | tag count => exact absurd (Option.some.inj hc).symm hslash

theorem tag?_eq_none_of_head? {cs : List Char}
    (h : ∀ c, cs.head? = some c → opensTag c = false) : tag? cs = none := by
  cases cs with
  | nil => rfl
  | cons c cs => rw [tag?_cons, h c rfl, if_neg Bool.false_ne_true]

/-- An opening bracket without a tag has none after escaping. -/
theorem tag?_escapeTags {n : Nat} {cs tail : List Char} (hn : cs.length < n) (htail : Closing tail)
    (h : tag? cs = none) : tag? (escapeTags n cs ++ tail) = none := by
  cases n with
  | zero => omega
  | succ n =>
    cases hhead : (escapeTags (n + 1) cs ++ tail).head? with
    | none => exact tag?_eq_none_of_head? (by simp [hhead])
    | some c =>
      cases hopens : opensTag c with
      | false => exact tag?_eq_none_of_head? (by simp [hhead, hopens])
      | true =>
        obtain ⟨rest, rfl, hescaped⟩ := head?_escapeTags htail hhead hopens
        rw [tag?_eq_none_iff hopens] at h
        rw [hescaped, List.cons_append, tag?_eq_none_iff hopens]
        exact bracket?_escapeTags (by simpa using hn) htail h

/-! ## Pieces -/

/-- Whether a piece is plain text. -/
def Piece.isPlain : Piece → Bool
  | plain _ => true
  | tag _ _ => false

/-- Pieces that are plain, with further pieces after them. -/
theorem flush_eq_append (collected : List Char) (pieces : List Piece) :
    ∃ plain : List Piece, (∀ p ∈ plain, p.isPlain = true) ∧
      flush collected pieces = plain ++ pieces := by
  cases collected with
  | nil => exact ⟨[], nofun, rfl⟩
  | cons c collected => exact ⟨[.plain (c :: collected).reverse], by simp [Piece.isPlain], rfl⟩

/-- A tag is plain text behind an odd number of backslashes, and a tag behind an even one. -/
theorem exists_tagPieces (position count : Nat) (content : List Char) :
    ∃ plain closing : List Piece, (∀ p ∈ plain, p.isPlain = true) ∧
      tagPieces position count content = plain ++ closing ∧
      (closing = [] ∨ count % 2 = 0 ∧ ∃ position', closing = [.tag position' content]) := by
  obtain ⟨halves, hhalves, hflush⟩ := flush_eq_append (slashes (count / 2)) []
  by_cases hodd : count % 2 = 1
  · refine ⟨halves ++ [.plain ('[' :: content ++ [']'])], [], ?_, ?_, .inl rfl⟩
    · simp only [List.mem_append, List.mem_singleton]
      rintro p (hp | rfl)
      · exact hhalves p hp
      · rfl
    · rw [tagPieces, if_pos hodd, hflush, List.append_nil, List.append_nil]
  · refine ⟨halves, [.tag (position + 2 * (count / 2)) content], hhalves, ?_,
      .inr ⟨by omega, _, rfl⟩⟩
    rw [tagPieces, if_neg hodd, hflush, List.append_nil]

/-- A tag is cut into plain pieces and, unless it is plain text itself, the tag. -/
theorem cut_append_tag {content rest : List Char}
    (h : tag? (content ++ ']' :: rest) = some (content, rest)) (k position count : Nat)
    (collected : List Char) :
    ∃ plain closing position', (∀ p ∈ plain, p.isPlain = true) ∧
      cut (k + 1) position collected (slashes count ++ '[' :: (content ++ ']' :: rest)) =
        plain ++ closing ++ cut k position' [] rest ∧
      (closing = [] ∨ count % 2 = 0 ∧ ∃ position', closing = [.tag position' content]) := by
  obtain ⟨halves, closing, hhalves, hpieces, hclosing⟩ := exists_tagPieces position count content
  obtain ⟨before, hbefore, hflush⟩ := flush_eq_append collected (halves ++ closing ++
    cut k (position + count + content.length + 2) [] rest)
  refine ⟨before ++ halves, closing, position + count + content.length + 2, ?_, ?_, hclosing⟩
  · exact List.forall_mem_append.mpr ⟨hbefore, hhalves⟩
  · rw [cut_tag _ _ _ _ h, hpieces, hflush]
    simp only [List.append_assoc]

/-- An escaped text is cut into plain pieces, up to backslashes in front of what comes after it. -/
theorem cut_escapeTags {n : Nat} {cs tail : List Char} (hn : cs.length < n) (htail : Closing tail)
    (k position : Nat) (collected : List Char) :
    ∃ plain k' position' collected' count, (∀ p ∈ plain, p.isPlain = true) ∧
      cut k position collected (escapeTags n cs ++ tail) =
        plain ++ cut k' position' collected' (slashes count ++ tail) := by
  induction n generalizing cs k position collected with
  | zero => omega
  | succ n ih =>
    cases k with
    | zero => exact ⟨[], 0, 0, collected, 0, nofun, rfl⟩
    | succ k =>
      have hstep := escapes_escapeTags n cs
      generalize escapeTags (n + 1) cs = escaped at hstep ⊢
      cases hstep with
      | ends count => exact ⟨[], k + 1, position, collected, count, nofun, rfl⟩
      | char count hslash hbracket rest =>
        have hshorter : rest.length < n := by
          simp at hn
          omega
        rw [List.append_assoc, List.cons_append, cut_char _ _ _ _ hslash hbracket]
        exact ih hshorter _ _ _
      | @bracket count rest htag =>
        have hshorter : rest.length < n := by
          simp at hn
          omega
        rw [List.append_assoc, List.cons_append,
          cut_bracket _ _ _ _ (tag?_escapeTags hshorter htail htag)]
        exact ih hshorter _ _ _
      | @tag count rest content after htag =>
        obtain ⟨rfl, hcontent⟩ := exists_of_tag? htag
        have hafter : after.length < n := by
          simp at hn
          omega
        rw [List.append_assoc, List.cons_append, List.append_assoc, List.cons_append]
        obtain ⟨before, closing, position₁, hbefore, hcut, hclosing⟩ := cut_append_tag
          (hcontent (escapeTags n after ++ tail)) k position (2 * count + 1) collected
        obtain rfl : closing = [] := hclosing.resolve_right (by omega)
        obtain ⟨later, k', position', collected', count', hlater, hcut'⟩ :=
          ih hafter k position₁ []
        refine ⟨before ++ later, k', position', collected', count', ?_, ?_⟩
        · exact List.forall_mem_append.mpr ⟨hbefore, hlater⟩
        · rw [hcut, hcut', List.append_nil, List.append_assoc]

/-! ## Texts between tags -/

/-- Plain pieces are shown in front of others, and open no tag. -/
theorem showPieces_plain_append {plain rest : List Piece} {opened tags : List OpenTag}
    {text : List Char} (hplain : ∀ p ∈ plain, p.isPlain = true)
    (h : showPieces opened rest = .ok (text, tags)) :
    ∃ text', showPieces opened (plain ++ rest) = .ok (text', tags) := by
  induction plain with
  | nil => exact ⟨text, h⟩
  | cons p plain ih =>
    obtain ⟨text', hlater⟩ := ih fun q hq => hplain q (List.mem_cons_of_mem _ hq)
    cases p with
    | plain cs =>
      refine ⟨showPlain cs ++ text', ?_⟩
      rw [List.cons_append, showPieces, hlater]
      rfl
    | tag position content => exact absurd (hplain _ List.mem_cons_self) Bool.false_ne_true

theorem cut_nil (k position : Nat) : cut k position [] [] = [] := by
  cases k <;> rfl

/-- An escaped text goes on to the tag after it with some backslashes. -/
theorem exists_closing (s : String) {tag : List Char} (htag : tag.head? = some '[') :
    ∃ count, Closing (slashes count ++ tag) ∧
      (escape s).toList ++ tag = escapeTags (s.length + 1) s.toList ++ (slashes count ++ tag) := by
  have hclosing (count : Nat) : Closing (slashes count ++ tag) := by
    rw [Closing, dropWhile_slashes count (by simp [htag]), htag]
    rintro c ⟨rfl⟩
    rfl
  unfold escape
  simp only [String.toList_ofList]
  split
  · exact ⟨1, hclosing 1, List.append_assoc _ _ _⟩
  · exact ⟨0, hclosing 0, rfl⟩

/-- An escaped text between tags is cut into the first tag, plain pieces, and the other tag. -/
theorem pieces_yellow (s : String) :
    ∃ plain closing : List Piece, (∀ p ∈ plain, p.isPlain = true) ∧
      pieces ("[yellow]" ++ escape s ++ "[/yellow]").toList =
        .tag 0 "yellow".toList :: (plain ++ closing) ∧
      (closing = [] ∨ ∃ position, closing = [.tag position "/yellow".toList]) := by
  obtain ⟨count, hclosing, hescape⟩ := @exists_closing s "[/yellow]".toList rfl
  have hchars : ("[yellow]" ++ escape s ++ "[/yellow]").toList =
      slashes 0 ++ '[' :: ("yellow".toList ++
        ']' :: ((escape s).toList ++ "[/yellow]".toList)) := by simp
  have hopening : tag? ("yellow".toList ++ ']' :: ((escape s).toList ++ "[/yellow]".toList)) =
      some ("yellow".toList, (escape s).toList ++ "[/yellow]".toList) :=
    tag?_append rfl (List.all_eq_true.mp rfl) _
  rw [pieces, hchars]
  generalize List.length _ = fuel
  obtain ⟨plain, k, position, collected, count', hplain, hcut⟩ := cut_escapeTags
    (show s.toList.length < s.length + 1 from Nat.lt_succ_self _) hclosing fuel 8 []
  rw [cut_tag fuel 0 0 [] hopening, hescape]
  change ∃ plain closing : List Piece, _ ∧ .tag 0 "yellow".toList :: cut fuel 8 [] _ = _ ∧ _
  rw [hcut, ← List.append_assoc (slashes count'), List.replicate_append_replicate]
  cases k with
  | zero =>
    obtain ⟨later, hlater, hflush⟩ := flush_eq_append collected []
    refine ⟨plain ++ later, [], ?_, ?_, .inl rfl⟩
    · exact List.forall_mem_append.mpr ⟨hplain, hlater⟩
    · rw [cut, hflush]
      simp
  | succ k =>
    have htag : tag? ("/yellow".toList ++ ']' :: []) = some ("/yellow".toList, []) := rfl
    obtain ⟨later, closing, position', hlater, hcut', hend⟩ :=
      cut_append_tag htag k position (count' + count) collected
    refine ⟨plain ++ later, closing, ?_, ?_, hend.imp_right And.right⟩
    · exact List.forall_mem_append.mpr ⟨hplain, hlater⟩
    · have hchars : "[/yellow]".toList = '[' :: ("/yellow".toList ++ ']' :: []) := rfl
      rw [hchars, hcut', cut_nil]
      simp

/-- A tag that opens a style is open for the pieces after it. -/
theorem showPieces_open {content text : List Char} {tag : OpenTag} {opened tags : List OpenTag}
    {rest : List Piece} (position : Nat) (hname : (namePart content).head? ≠ some '/')
    (htag : OpenTag.ofContent content = .ok tag)
    (h : showPieces (tag :: opened) rest = .ok (text, tags)) :
    showPieces opened (.tag position content :: rest) = .ok (text, tag :: tags) := by
  rw [showPieces.eq_def]
  simp only
  split
  · rename_i hslash
    simp [hslash] at hname
  · rw [htag]
    simp only [bind, Except.bind, h]
    rfl

/-- A tag that closes the innermost style closes it. -/
theorem showPieces_close {content name : List Char} {tag : OpenTag} {opened : List OpenTag}
    {rest : List Piece} (position : Nat) (hname : namePart content = '/' :: name)
    (htag : styleName (Text.trim name) = .ok tag.name) (hclose : tag.close = .ok ()) :
    showPieces (tag :: opened) (.tag position content :: rest) = showPieces opened rest := by
  rw [showPieces, hname]
  by_cases hempty : (Text.trim name).isEmpty = true
  · simp only [hempty, if_true, hclose, bind, Except.bind]
  · simp only [hempty, htag, close?, hclose, bind, Except.bind, if_true, Bool.false_eq_true,
      if_false]

/-- A text whose pieces are shown is shown, if the styles of its tags can be read. -/
theorem render_of_showPieces {markup : String} {text : List Char} {tags : List OpenTag}
    (hbracket : markup.toList.contains '[' = true)
    (hshown : showPieces [] (pieces markup.toList) = .ok (text, tags))
    (hchecked : tags.forM OpenTag.check = .ok ()) : render markup = .ok text := by
  rw [render, if_pos hbracket, hshown]
  simp only [bind, Except.bind, hchecked]
  rfl

/-- An escaped text between tags is shown. -/
theorem render_yellow (s : String) :
    ∃ text, render ("[yellow]" ++ escape s ++ "[/yellow]") = .ok text := by
  have hname : namePart "yellow".toList = "yellow".toList := by decide
  have htag : OpenTag.ofContent "yellow".toList = .ok yellow := by
    rw [OpenTag.ofContent, hname, styleName_yellow]
    rfl
  obtain ⟨plain, closing, hplain, hpieces, hclosing⟩ := pieces_yellow s
  obtain ⟨text, hend⟩ : ∃ text, showPieces [yellow] closing = .ok (text, []) := by
    rcases hclosing with rfl | ⟨position, rfl⟩
    · exact ⟨[], rfl⟩
    · have htrim : Text.trim "yellow".toList = "yellow".toList := by decide
      have hstyle : styleName (Text.trim "yellow".toList) = .ok yellow.name := by
        rw [htrim, styleName_yellow, yellow]
      exact ⟨[], showPieces_close position (by decide) hstyle rfl⟩
  obtain ⟨text', hplainShown⟩ := showPieces_plain_append hplain hend
  have hshown := showPieces_open 0 (by rw [hname]; decide) htag hplainShown
  have hchecked : [yellow].forM OpenTag.check = .ok () := by
    rw [List.forM, check_yellow]
    rfl
  have hbracket : ("[yellow]" ++ escape s ++ "[/yellow]").toList.contains '[' = true := by
    simp
  exact ⟨text', render_of_showPieces hbracket (hpieces ▸ hshown) hchecked⟩

end Markup

end StructScan.Console
