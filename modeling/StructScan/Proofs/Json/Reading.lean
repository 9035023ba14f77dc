import StructScan.Json
import StructScan.Proofs.Encoding.RoundTrip
import StructScan.Text.Hex

/-!
# JSON read back

A reader of JSON documents whose numbers are integers.  It takes the text apart from the left,
lexeme by lexeme, and keeps the arrays and objects that are open on a stack.  Strings are read
with all their escapes; two codes that make a pair of surrogates are one character, and a
surrogate without its partner is refused.  The reader knows nothing of how values are printed.

Main results:

- Theorem `Json.element?_escapeChar`: a character is read back from how it is written.
- Theorem `Json.read_renderAt`: reading a printed value completes the value.
- Theorem `Json.read?_render`: a value is read back from its document.
-/

namespace StructScan

open Encoding.Utf16 (isHigh isLow)

/-! ## Hexadecimal codes -/

namespace Text

/-- A hexadecimal digit is read back. -/
theorem hexDigit?_digitChar {n : Nat} (h : n < 16) : hexDigit? n.digitChar = some n := by
  revert n
  decide

/-- Leading zeros do not change the value of hexadecimal digits. -/
theorem hexValue?_replicate_append (k : Nat) (ds : List Char) :
    hexValue? (List.replicate k '0' ++ ds) = hexValue? ds := by
  induction k with
  | zero => rfl
  | succ k ih =>
    rw [← ih]
    rfl

/-- So is a number in hexadecimal digits. -/
theorem hexValue?_toDigits (n : Nat) : hexValue? (Nat.toDigits 16 n) = some n := by
  induction n using Nat.strongRecOn with
  | ind n ih =>
    rw [Nat.toDigits_eq_if (by decide)]
    by_cases hn : n < 16
    · simp [hn, hexValue?, hexDigit?_digitChar hn]
    · have hdigit := hexDigit?_digitChar (Nat.mod_lt n (by decide : 0 < 16))
      have hfront := ih (n / 16) (by omega)
      simp only [hexValue?] at hfront
      simp only [if_neg hn, hexValue?, List.foldlM_append, hfront]
      simp [hdigit]
      omega

/-- The digits of a number have its value, whatever they are padded to. -/
theorem hexValue?_hex (least n : Nat) : hexValue? (hex least n) = some n := by
  rw [hex, hexValue?_replicate_append, hexValue?_toDigits]

/-- A number that fits is padded to the width. -/
theorem length_hex {n : Nat} (h : n < 0x10000) : (hex 4 n).length = 4 := by
  have hlength := (Nat.length_toDigits_le_iff (by decide) (by decide)).mpr (show n < 16 ^ 4 from h)
  simp only [hex, List.length_append, List.length_replicate]
  omega

end Text

namespace Json

/-! ## Characters of strings -/

/-- The value of four hexadecimal digits, and what follows them. -/
def unit? : List Char → Option (Nat × List Char)
  | a :: b :: c :: d :: cs => (Text.hexValue? [a, b, c, d]).map (·, cs)
  | _ => none

/-- The character of a code, or of two codes that make a pair, and what follows them. -/
def code? (cs : List Char) : Option (Char × List Char) :=
  match unit? cs with
  | none => none
  | some (unit, rest) =>
    if isLow unit then none
    else if isHigh unit then
      match rest with
      | '\\' :: 'u' :: rest =>
        match unit? rest with
        | none => none
        | some (low, rest) =>
          if isLow low then
            some (Char.ofNat (0x10000 + (unit - 0xD800) * 0x400 + (low - 0xDC00)), rest)
          else none
      | _ => none
    else some (Char.ofNat unit, rest)

/-- The character that a letter stands for behind a backslash. -/
def escaped? (c : Char) : Option Char :=
  [('"', '"'), ('\\', '\\'), ('/', '/'), ('n', '\n'), ('r', '\r'), ('t', '\t'), ('f', '\x0c'),
    ('b', '\x08')].lookup c

/-- One character of a string, however it is written, and what follows it. -/
def element? : List Char → Option (Char × List Char)
  | [] => none
  | c :: cs =>
    if c = '\\' then
      match cs with
      | [] => none
      | letter :: rest => if letter = 'u' then code? rest else (escaped? letter).map (·, rest)
    else if c = '"' ∨ c < ' ' then none
    else some (c, cs)

theorem unit?_length {cs rest : List Char} {unit : Nat} (h : unit? cs = some (unit, rest)) :
    rest.length < cs.length := by
  unfold unit? at h
  split at h
  · obtain ⟨_, _, heq⟩ := Option.map_eq_some_iff.mp h
    cases heq
    simp only [List.length_cons]
    omega
  · contradiction

/-- Reading an escaped character leaves a shorter text. -/
theorem code?_length {cs rest : List Char} {c : Char} (h : code? cs = some (c, rest)) :
    rest.length < cs.length := by
  unfold code? at h
  split at h
  · contradiction
  · rename_i unit after hunit
    have hshorter := unit?_length hunit
    split at h
    · contradiction
    · split at h
      · split at h
        · split at h
          · contradiction
          · rename_i later _ _ hlow
            have hshorter' := unit?_length hlow
            split at h
            · obtain ⟨-, rfl⟩ := Prod.mk.inj (Option.some.inj h)
              simp only [List.length_cons] at hshorter
              omega
            · contradiction
        · contradiction
      · cases h
        exact hshorter

theorem element?_length {cs rest : List Char} {c : Char} (h : element? cs = some (c, rest)) :
    rest.length < cs.length := by
  unfold element? at h
  split at h
  · contradiction
  · split at h
    · split at h
      · contradiction
      · split at h
        · have hshorter := code?_length h
          simp only [List.length_cons]
          omega
        · obtain ⟨_, _, heq⟩ := Option.map_eq_some_iff.mp h
          cases heq
          simp only [List.length_cons]
          omega
    · split at h
      · contradiction
      · cases h
        simp

/-- The characters of a string up to the quote that ends it, and what follows the quote. -/
def string? (cs : List Char) : Option (List Char × List Char) :=
  if cs.head? = some '"' then some ([], cs.tail)
  else
    match _h : element? cs with
    | none => none
    | some (c, rest) => (string? rest).map fun r => (c :: r.1, r.2)
termination_by cs.length
decreasing_by exact element?_length _h

/-! ## Lexemes -/

/-- A lexeme: a value without parts, or a mark. -/
inductive Lexeme where
  | scalar (j : Json)
  | openArray
  | closeArray
  | openObject
  | closeObject
  | comma
  | colon

/-- The value of decimal digits without a leading zero, and what follows them. -/
def digits? (cs : List Char) : Option (Nat × List Char) :=
  let ds := cs.takeWhile Char.isDigit
  if ds = [] ∨ ds.head? = some '0' ∧ ds ≠ ['0'] then none
  else some (Nat.ofDigitChars 10 ds 0, cs.dropWhile Char.isDigit)

/-- The value without parts at the front, and what follows it. -/
def scalar? : List Char → Option (Json × List Char)
  | 'n' :: 'u' :: 'l' :: 'l' :: cs => some (.null, cs)
  | 't' :: 'r' :: 'u' :: 'e' :: cs => some (.bool true, cs)
  | 'f' :: 'a' :: 'l' :: 's' :: 'e' :: cs => some (.bool false, cs)
  | '"' :: cs => (string? cs).map fun r => (.string (String.ofList r.1), r.2)
  | '-' :: cs => (digits? cs).map fun r => (.int (-r.1), r.2)
  | cs => (digits? cs).map fun r => (.int r.1, r.2)

/-- The mark that a character is. -/
def mark? (c : Char) : Option Lexeme :=
  match c with
  | '[' => some .openArray
  | ']' => some .closeArray
  | '\x7b' => some .openObject
  | '\x7d' => some .closeObject
  | ',' => some .comma
  | ':' => some .colon
  | _ => none

/-- The lexeme at the front, and what follows it. -/
def lexeme? : List Char → Option (Lexeme × List Char)
  | [] => none
  | c :: cs =>
    match mark? c with
    | some mark => some (mark, cs)
    | none => (scalar? (c :: cs)).map fun r => (.scalar r.1, r.2)

theorem string?_length {cs rest text : List Char} (h : string? cs = some (text, rest)) :
    rest.length < cs.length := by
  fun_induction string? cs generalizing text with
  | case1 cs hhead =>
    obtain ⟨-, rfl⟩ := Prod.mk.inj (Option.some.inj h)
    obtain ⟨cs', rfl⟩ := List.head?_eq_some_iff.mp hhead
    simp
  | case2 cs hhead hnone => contradiction
  | case3 cs hhead c after hsome ih =>
    obtain ⟨r, hr, heq⟩ := Option.map_eq_some_iff.mp h
    obtain ⟨-, rfl⟩ := Prod.mk.inj heq
    have hlater := ih hr
    have hfirst := element?_length hsome
    omega

theorem digits?_length {cs rest : List Char} {n : Nat} (h : digits? cs = some (n, rest)) :
    rest.length < cs.length := by
  unfold digits? at h
  simp only at h
  split at h
  · contradiction
  · rename_i hdigits
    obtain ⟨-, rfl⟩ := Prod.mk.inj (Option.some.inj h)
    have hsplit := congrArg List.length (cs.takeWhile_append_dropWhile (p := Char.isDigit))
    have hpos := List.length_pos_iff.mpr (not_or.mp hdigits).1
    simp only [List.length_append] at hsplit
    omega

theorem scalar?_length {cs rest : List Char} {j : Json} (h : scalar? cs = some (j, rest)) :
    rest.length < cs.length := by
  unfold scalar? at h
  split at h
  · cases h
    simp only [List.length_cons]
    omega
  · cases h
    simp only [List.length_cons]
    omega
  · cases h
    simp only [List.length_cons]
    omega
  · obtain ⟨r, hr, heq⟩ := Option.map_eq_some_iff.mp h
    cases heq
    exact Nat.lt_succ_of_lt (string?_length hr)
  · obtain ⟨r, hr, heq⟩ := Option.map_eq_some_iff.mp h
    cases heq
    exact Nat.lt_succ_of_lt (digits?_length hr)
  · obtain ⟨r, hr, heq⟩ := Option.map_eq_some_iff.mp h
    cases heq
    exact digits?_length hr

theorem lexeme?_length {cs rest : List Char} {l : Lexeme} (h : lexeme? cs = some (l, rest)) :
    rest.length < cs.length := by
  unfold lexeme? at h
  split at h
  · contradiction
  · split at h
    · cases h
      simp
    · obtain ⟨r, hr, heq⟩ := Option.map_eq_some_iff.mp h
      cases heq
      exact scalar?_length hr

/-! ## Values -/

/-- An array or object that is open, or the key of a member whose value is to come. -/
inductive Frame where
  | array (before : List Json)
  | object (before : List (String × Json))
  | member (key : String)

/-- What can come next. -/
inductive Place where
  /-- A value, or the end of an array that has no items. -/
  | value
  /-- A key, or the end of an object that has no members. -/
  | key
  /-- The colon behind a key. -/
  | colon
  /-- What follows a value that is complete. -/
  | after (j : Json)

/-- How far a document was read. -/
structure Cursor where
  place : Place
  stack : List Frame

namespace Cursor

/-- The start of a document. -/
def start : Cursor :=
  ⟨.value, []⟩

/-- Begins a value. -/
def begin (stack : List Frame) : Lexeme → Option Cursor
  | .scalar j => some ⟨.after j, stack⟩
  | .openArray => some ⟨.value, .array [] :: stack⟩
  | .openObject => some ⟨.key, .object [] :: stack⟩
  | _ => none

/-- Goes on by one lexeme, if the lexeme can stand here. -/
def advance : Cursor → Lexeme → Option Cursor
  | ⟨.value, .array [] :: stack⟩, .closeArray => some ⟨.after (.array []), stack⟩
  | ⟨.value, stack⟩, l => begin stack l
  | ⟨.key, .object [] :: stack⟩, .closeObject => some ⟨.after (.object []), stack⟩
  | ⟨.key, stack⟩, .scalar (.string key) => some ⟨.colon, .member key :: stack⟩
  | ⟨.colon, stack⟩, .colon => some ⟨.value, stack⟩
  | ⟨.after j, .array before :: stack⟩, .comma => some ⟨.value, .array (before ++ [j]) :: stack⟩
  | ⟨.after j, .array before :: stack⟩, .closeArray =>
    some ⟨.after (.array (before ++ [j])), stack⟩
  | ⟨.after j, .member key :: .object before :: stack⟩, .comma =>
    some ⟨.key, .object (before ++ [(key, j)]) :: stack⟩
  | ⟨.after j, .member key :: .object before :: stack⟩, .closeObject =>
    some ⟨.after (.object (before ++ [(key, j)])), stack⟩
  | _, _ => none

/-- A value can begin wherever a value can come next. -/
theorem advance_value {stack : List Frame} {l : Lexeme} {s : Cursor} (h : begin stack l = some s) :
    advance ⟨.value, stack⟩ l = some s := by
  unfold advance
  split
  all_goals grind [begin]

/-- After a key comes its colon. -/
theorem advance_key (stack : List Frame) (key : String) :
    advance ⟨.key, stack⟩ (.scalar (.string key)) = some ⟨.colon, .member key :: stack⟩ := by
  simp [advance]

/-- The value of a document that is complete. -/
def result? : Cursor → Option Json
  | ⟨.after j, []⟩ => some j
  | _ => none

end Cursor

/-- A character that may stand between lexemes. -/
def isSpace (c : Char) : Bool :=
  c = ' ' || c = '\n' || c = '\r' || c = '\t'

/-- Reads on to the end of a document. -/
def read (s : Cursor) (cs : List Char) : Option Json :=
  match cs with
  | [] => s.result?
  | c :: cs =>
    if isSpace c then read s cs
    else
      match _h : lexeme? (c :: cs) with
      | none => none
      | some (l, rest) =>
        match s.advance l with
        | none => none
        | some s' => read s' rest
termination_by cs.length
decreasing_by
  · simp
  · exact lexeme?_length _h

/-- The value of a document. -/
def read? (text : String) : Option Json :=
  read .start text.toList

/-! ## Reading lexeme by lexeme -/

theorem read_space {c : Char} (h : isSpace c = true) (s : Cursor) (cs : List Char) :
    read s (c :: cs) = read s cs := by
  rw [read, if_pos h]

/-- Line breaks and indentation are skipped. -/
theorem read_newline (level : Nat) (s : Cursor) (cs : List Char) :
    read s (newline level ++ cs) = read s cs := by
  have hblanks (n : Nat) : read s (List.replicate n ' ' ++ cs) = read s cs := by
    induction n with
    | zero => rfl
    | succ n ih =>
      rw [List.replicate_succ, List.cons_append, read_space rfl, ih]
  rw [newline, List.cons_append, read_space rfl, hblanks]

/-- No lexeme starts with a space. -/
theorem lexeme?_space {c : Char} (h : isSpace c = true) (cs : List Char) :
    lexeme? (c :: cs) = none := by
  simp only [isSpace, Bool.or_eq_true, decide_eq_true_eq, or_assoc] at h
  rcases h with rfl | rfl | rfl | rfl <;> rfl

/-- A lexeme that can stand here is read. -/
theorem read_lexeme {s s' : Cursor} {cs rest : List Char} {l : Lexeme}
    (hlexeme : lexeme? cs = some (l, rest)) (hadvance : s.advance l = some s') :
    read s cs = read s' rest := by
  cases cs with
  | nil => contradiction
  | cons c cs =>
    have hspace : ¬isSpace c = true := by
      intro hspace
      rw [lexeme?_space hspace] at hlexeme
      contradiction
    rw [read, if_neg hspace]
    split
    · rename_i hnone
      rw [hlexeme] at hnone
      contradiction
    · rename_i hsome
      rw [hlexeme] at hsome
      cases hsome
      simp only [hadvance]

/-! ## What is printed is read back -/

/-- A code unit is read back from its four digits. -/
theorem unit?_hex {n : Nat} (h : n < 0x10000) (rest : List Char) :
    unit? (Text.hex 4 n ++ rest) = some (n, rest) := by
  have hvalue := Text.hexValue?_hex 4 n
  have hlength := Text.length_hex h
  match hhex : Text.hex 4 n, hlength with
  | [a, b, c, d], _ =>
    rw [hhex] at hvalue
    simp [unit?, hvalue]

/-- The code of a character in the first plane is read back. -/
theorem code?_single {c : Char} (h : c.toNat < 0x10000) (rest : List Char) :
    code? (Text.hex 4 c.toNat ++ rest) = some (c, rest) := by
  have hvalid := Encoding.toNat_valid c
  have hlow : isLow c.toNat = false := by
    simp [isLow]
    omega
  have hhigh : isHigh c.toNat = false := by
    simp [isHigh]
    omega
  simp only [code?, unit?_hex h, hlow, hhigh, Bool.false_eq_true, if_false, Char.ofNat_toNat]

/-- The codes of a pair of surrogates are read as their character. -/
theorem code?_pair {high low : Nat} (hhigh : high < 0x400) (hlow : low < 0x400)
    (rest : List Char) :
    code? (Text.hex 4 (0xD800 + high) ++ (unitEscape (0xDC00 + low) ++ rest)) =
      some (Char.ofNat (0x10000 + high * 0x400 + low), rest) := by
  have hfirst : isLow (0xD800 + high) = false := by
    simp [isLow]
    omega
  have hfirst' : isHigh (0xD800 + high) = true := by
    simp [isHigh]
    omega
  have hsecond : isLow (0xDC00 + low) = true := by
    simp [isLow]
    omega
  have hunit := unit?_hex (show 0xD800 + high < 0x10000 by omega)
  have hunit' := unit?_hex (show 0xDC00 + low < 0x10000 by omega) rest
  simp only [unitEscape, List.cons_append, code?, hunit, hfirst, hfirst', Bool.false_eq_true,
    if_false, if_true, hunit', hsecond, Nat.add_sub_cancel_left]

/-- An escaped code unit is read as a code unit. -/
theorem element?_unitEscape (n : Nat) (rest : List Char) :
    element? (unitEscape n ++ rest) = code? (Text.hex 4 n ++ rest) :=
  rfl

/-- A character is read back from how it is written. -/
theorem element?_escapeChar (c : Char) (rest : List Char) :
    element? (escapeChar c ++ rest) = some (c, rest) := by
  by_cases hnamed : c ∈ ['"', '\\', '\n', '\r', '\t', '\x0c', '\x08']
  · simp only [List.mem_cons, List.not_mem_nil, or_false] at hnamed
    rcases hnamed with rfl | rfl | rfl | rfl | rfl | rfl | rfl <;> rfl
  · simp only [List.mem_cons, List.not_mem_nil, or_false, not_or] at hnamed
    obtain ⟨hquote, hslash, hfeed, hreturn, htab, hform, hback⟩ := hnamed
    simp only [escapeChar, hquote, hslash, hfeed, hreturn, htab, hform, hback, if_false]
    by_cases hplain : ' ' ≤ c ∧ c ≤ '~'
    · have hspace : ¬c < ' ' := Char.not_lt.mpr hplain.1
      simp [hplain, element?, hquote, hslash, hspace]
    · rw [if_neg hplain]
      by_cases hplane : c.toNat < 0x10000
      · rw [if_pos hplane, element?_unitEscape, code?_single hplane]
      · -- The ten upper bits above the first plane go to the first code, the others to the second.
        have hvalid := Encoding.toNat_valid c
        have hnumber : 0x10000 + (c.toNat - 0x10000) / 0x400 * 0x400 +
            (c.toNat - 0x10000) % 0x400 = c.toNat := by omega
        rw [if_neg hplane, List.append_assoc, element?_unitEscape,
          code?_pair (by omega) (by omega), hnumber, Char.ofNat_toNat]

/-- No character is written with a quote at its front. -/
theorem head?_escapeChar (c : Char) (rest : List Char) :
    (escapeChar c ++ rest).head? ≠ some '"' := by
  intro hquote
  have hread := element?_escapeChar c rest
  obtain ⟨cs, hcs⟩ := List.head?_eq_some_iff.mp hquote
  rw [hcs] at hread
  contradiction

/-- The characters of a string are read back, up to the quote that ends it. -/
theorem string?_flatMap (text rest : List Char) :
    string? (text.flatMap escapeChar ++ '"' :: rest) = some (text, rest) := by
  induction text with
  | nil => simp [string?]
  | cons c text ih =>
    rw [List.flatMap_cons, List.append_assoc, string?, if_neg (head?_escapeChar _ _)]
    split
    · rename_i hnone
      rw [element?_escapeChar] at hnone
      contradiction
    · rename_i hsome
      rw [element?_escapeChar] at hsome
      cases hsome
      rw [ih]
      rfl

/-- A string is read back. -/
theorem lexeme?_renderString (text : String) (rest : List Char) :
    lexeme? (renderString text ++ rest) = some (.scalar (.string text), rest) := by
  have hstring := string?_flatMap text.toList rest
  simp [renderString, lexeme?, mark?, scalar?, hstring]

/-! ## Numbers -/

/-- What follows a number: no further digit. -/
def EndsNumber (rest : List Char) : Prop :=
  ∀ c, rest.head? = some c → c.isDigit = false

theorem eq_zero_of_head?_toDigits {n : Nat} (h : (Nat.toDigits 10 n).head? = some '0') :
    n = 0 := by
  induction n using Nat.strongRecOn with
  | ind n ih =>
    rw [Nat.toDigits_eq_if (by decide)] at h
    by_cases hn : n < 10
    · simpa [hn] using h
    · obtain ⟨d, ds, hds⟩ := List.exists_cons_of_ne_nil (@Nat.toDigits_ne_nil (n / 10) 10)
      rw [if_neg hn, hds, List.cons_append, List.head?_cons] at h
      have hzero := ih (n / 10) (by omega) (by rw [hds, List.head?_cons, h])
      omega

/-- A number is read back from its digits, where no other digit follows. -/
theorem digits?_toDigits (n : Nat) {rest : List Char} (hrest : EndsNumber rest) :
    digits? (Nat.toDigits 10 n ++ rest) = some (n, rest) := by
  have hdigits : ∀ c ∈ Nat.toDigits 10 n, c.isDigit = true := fun c hc =>
    Nat.isDigit_of_mem_toDigits (by decide) (by decide) hc
  have htake : rest.takeWhile Char.isDigit = [] := by
    cases rest with
    | nil => rfl
    | cons c rest => simp [hrest c rfl]
  have hdrop : rest.dropWhile Char.isDigit = rest := by
    cases rest with
    | nil => rfl
    | cons c rest => simp [hrest c rfl]
  have hcanonical : ¬(Nat.toDigits 10 n = [] ∨
      (Nat.toDigits 10 n).head? = some '0' ∧ Nat.toDigits 10 n ≠ ['0']) := by
    rintro (hnil | ⟨hhead, hne⟩)
    · exact Nat.toDigits_ne_nil hnil
    · rw [eq_zero_of_head?_toDigits hhead] at hne
      exact hne rfl
  rw [digits?, List.takeWhile_append_of_pos hdigits, List.dropWhile_append_of_pos hdigits, htake,
    hdrop, List.append_nil]
  simp only [if_neg hcanonical, Nat.ofDigitChars_ten_toDigits]

/-- What starts with a digit is read as a number. -/
theorem lexeme?_of_isDigit {c : Char} (h : c.isDigit = true) (cs : List Char) :
    lexeme? (c :: cs) = (digits? (c :: cs)).map fun r => (.scalar (.int r.1), r.2) := by
  have hmark : mark? c = none := by
    unfold mark?
    split <;> first | rfl | simp at h
  have hscalar : scalar? (c :: cs) = (digits? (c :: cs)).map fun r => (.int r.1, r.2) := by
    unfold scalar?
    split
    all_goals first | rfl | (rename_i heq; cases heq; simp at h)
  rw [lexeme?, hmark, hscalar, Option.map_map]
  rfl

/-- An integer is read back. -/
theorem lexeme?_renderInt (n : Int) {rest : List Char} (hrest : EndsNumber rest) :
    lexeme? (renderInt n ++ rest) = some (.scalar (.int n), rest) := by
  cases n with
  | ofNat m =>
    have hdigits := digits?_toDigits m hrest
    obtain ⟨d, ds, hds⟩ := List.exists_cons_of_ne_nil (@Nat.toDigits_ne_nil m 10)
    have hd : d.isDigit = true :=
      @Nat.isDigit_of_mem_toDigits 10 m d (by decide) (by decide) (hds ▸ List.mem_cons_self)
    rw [hds, List.cons_append] at hdigits
    rw [renderInt, hds, List.cons_append, lexeme?_of_isDigit hd, hdigits]
    rfl
  | negSucc m =>
    have hdigits := digits?_toDigits (m + 1) hrest
    simp only [renderInt, List.cons_append, lexeme?, mark?, scalar?, hdigits, Option.map_some]
    rfl

/-! ## Values -/

theorem EndsNumber.newline (level : Nat) (rest : List Char) :
    EndsNumber (newline level ++ rest) := by
  rintro c ⟨rfl⟩
  rfl

/-- A mark is read by itself. -/
theorem read_mark {s s' : Cursor} {c : Char} {mark : Lexeme} (hmark : mark? c = some mark)
    (hadvance : s.advance mark = some s') (rest : List Char) : read s (c :: rest) = read s' rest :=
  read_lexeme (by rw [lexeme?, hmark]) hadvance

/-- What follows an item of an array ends a number. -/
theorem EndsNumber.renderItems (level outer : Nat) (items : List Json) (rest : List Char) :
    EndsNumber (renderItems level items ++ (Json.newline outer ++ rest)) := by
  cases items with
  | nil => exact .newline outer rest
  | cons item items =>
    rw [Json.renderItems]
    rintro c ⟨rfl⟩
    rfl

/-- What follows a member of an object does so, too. -/
theorem EndsNumber.renderMembers (level outer : Nat) (members : List (String × Json))
    (rest : List Char) :
    EndsNumber (renderMembers level members ++ (Json.newline outer ++ rest)) := by
  cases members with
  | nil => exact .newline outer rest
  | cons member members =>
    rw [Json.renderMembers]
    rintro c ⟨rfl⟩
    rfl

/-- A scalar completes the value that is being read. -/
theorem read_scalar {cs rest : List Char} {j : Json} (h : lexeme? cs = some (.scalar j, rest))
    (stack : List Frame) : read ⟨.value, stack⟩ cs = read ⟨.after j, stack⟩ rest :=
  read_lexeme h (Cursor.advance_value rfl)

/-- A key is read together with the colon behind it. -/
theorem read_key (key : String) (stack : List Frame) (rest : List Char) :
    read ⟨.key, stack⟩ (renderString key ++ ':' :: ' ' :: rest) =
      read ⟨.value, .member key :: stack⟩ rest := by
  rw [read_lexeme (lexeme?_renderString key _) (Cursor.advance_key stack key), read_mark rfl rfl,
    read_space rfl]

mutual

/-- Reading a printed value completes the value. -/
theorem read_renderAt (level : Nat) (j : Json) (stack : List Frame) {rest : List Char}
    (hrest : EndsNumber rest) :
    read ⟨.value, stack⟩ (renderAt level j ++ rest) = read ⟨.after j, stack⟩ rest := by
  cases j with
  | null => exact read_scalar rfl stack
  | bool b => cases b <;> exact read_scalar rfl stack
  | int n => exact read_scalar (lexeme?_renderInt n hrest) stack
  | string text => exact read_scalar (lexeme?_renderString text rest) stack
  | array items =>
    cases items with
    | nil =>
      simp only [renderAt, List.cons_append, List.nil_append]
      rw [read_mark rfl (Cursor.advance_value rfl), read_mark rfl rfl]
    | cons item items =>
      simp only [renderAt, List.cons_append, List.append_assoc, List.nil_append]
      rw [read_mark rfl (Cursor.advance_value rfl), read_newline,
        read_renderAt _ item _ (.renderItems _ _ _ _), read_renderItems]
      rfl
  | object members =>
    cases members with
    | nil =>
      simp only [renderAt, List.cons_append, List.nil_append]
      rw [read_mark rfl (Cursor.advance_value rfl), read_mark rfl rfl]
    | cons member members =>
      obtain ⟨key, value⟩ := member
      simp only [renderAt, List.cons_append, List.append_assoc, List.nil_append]
      rw [read_mark rfl (Cursor.advance_value rfl), read_newline, read_key,
        read_renderAt _ value _ (.renderMembers _ _ _ _), read_renderMembers]
      rfl

/-- Reading the other items completes the array. -/
theorem read_renderItems (level outer : Nat) (items : List Json) (item : Json)
    (before : List Json) (stack : List Frame) (rest : List Char) :
    read ⟨.after item, .array before :: stack⟩
        (renderItems level items ++ (newline outer ++ ']' :: rest)) =
      read ⟨.after (.array (before ++ item :: items)), stack⟩ rest := by
  cases items with
  | nil =>
    rw [renderItems, List.nil_append, read_newline, read_mark rfl rfl]
  | cons next items =>
    simp only [renderItems, List.cons_append, List.append_assoc]
    rw [read_mark rfl rfl, read_newline, read_renderAt _ next _ (.renderItems _ _ _ _),
      read_renderItems, List.append_assoc]
    rfl

/-- Reading the other members completes the object. -/
theorem read_renderMembers (level outer : Nat) (members : List (String × Json)) (key : String)
    (value : Json) (before : List (String × Json)) (stack : List Frame) (rest : List Char) :
    read ⟨.after value, .member key :: .object before :: stack⟩
        (renderMembers level members ++ (newline outer ++ '\x7d' :: rest)) =
      read ⟨.after (.object (before ++ (key, value) :: members)), stack⟩ rest := by
  cases members with
  | nil =>
    rw [renderMembers, List.nil_append, read_newline, read_mark rfl rfl]
  | cons member members =>
    obtain ⟨key', value'⟩ := member
    simp only [renderMembers, List.cons_append, List.append_assoc, List.nil_append]
    rw [read_mark rfl rfl, read_newline, read_key,
      read_renderAt _ value' _ (.renderMembers _ _ _ _), read_renderMembers, List.append_assoc]
    rfl

end

/-- A value is read back from its document with a newline at the end. -/
theorem read?_render (j : Json) : read? (j.render ++ "\n") = some j := by
  have hdocument : (j.render ++ "\n").toList = renderAt 0 j ++ (newline 0 ++ []) := by
    simp [render, newline]
  rw [read?, hdocument, Cursor.start, read_renderAt 0 j [] (.newline 0 []), read_newline, read]
  rfl

end Json

end StructScan
