import StructScan.Encoding

/-!
# Texts encoded and decoded

Decoding never fails on bad bytes; it puts replacement characters for them.  On the bytes
of a text there are none to put: whatever the encoding, and wherever a text can be encoded
in it at all, decoding gives the text back, character for character.

Main results:

- Theorem `Utf8.pieces_utf8EncodeChar`: the bytes of one character are cut off as one piece,
  whatever bytes follow.
- Theorem `Utf16.decodeLenient_units`: so are the units of one character, also if they are a
  pair of surrogates.
- Theorem `SingleByte.char?_of_byte?`: the byte that was chosen for a character stands for it.
- Theorem `decodeLenient_of_encode?`: decoding undoes encoding.
-/

namespace StructScan.Encoding

/-- No character is a surrogate or lies beyond the last plane. -/
theorem toNat_valid (c : Char) : c.toNat < 0xD800 ∨ 0xDFFF < c.toNat ∧ c.toNat < 0x110000 :=
  c.valid

/-! ## UTF-8 -/

namespace Utf8

/-- The length that a first byte asks for, by its number. -/
theorem lengthOf_eq (first : UInt8) :
    lengthOf first =
      if first.toNat < 0x80 then some 1 else if first.toNat < 0xC2 then none
      else if first.toNat < 0xE0 then some 2 else if first.toNat < 0xF0 then some 3
      else if first.toNat < 0xF5 then some 4 else none := by
  simp [lengthOf, UInt8.lt_iff_toNat_lt]

/-- A second byte is in range if it makes no overlong form, no surrogate and nothing too large. -/
theorem mem_secondRange {first second : UInt8} (hlow : 0x80 ≤ second.toNat)
    (hhigh : second.toNat ≤ 0xBF) (hE0 : first.toNat = 0xE0 → 0xA0 ≤ second.toNat)
    (hED : first.toNat = 0xED → second.toNat ≤ 0x9F)
    (hF0 : first.toNat = 0xF0 → 0x90 ≤ second.toNat)
    (hF4 : first.toNat = 0xF4 → second.toNat ≤ 0x8F) :
    (secondRange first).1 ≤ second ∧ second ≤ (secondRange first).2 := by
  simp only [secondRange, UInt8.le_iff_toNat_le]
  split
  · rename_i h
    exact ⟨hE0 (by rw [h]; rfl), hhigh⟩
  · split
    · rename_i h
      exact ⟨hlow, hED (by rw [h]; rfl)⟩
    · split
      · rename_i h
        exact ⟨hF0 (by rw [h]; rfl), hhigh⟩
      · split
        · rename_i h
          exact ⟨hlow, hF4 (by rw [h]; rfl)⟩
        · exact ⟨hlow, hhigh⟩

/-- Six bits after the mark of a continuation go on with a character. -/
theorem isContinuation_byte {n : Nat} (h : n < 64) :
    isContinuation (UInt8.ofNat (n + 128)) = true := by
  have hbyte := UInt8.toNat_ofNat_of_lt' (show n + 128 < 256 by omega)
  simp only [isContinuation, UInt8.le_iff_toNat_le, UInt8.lt_iff_toNat_lt, hbyte]
  simp
  omega

/-- The bytes of a character after its first one are all taken, and nothing after them. -/
theorem continuations_append {first second : UInt8} (more rest : List UInt8)
    (hrange : (secondRange first).1 ≤ second ∧ second ≤ (secondRange first).2)
    (hmore : ∀ b ∈ more, isContinuation b = true) :
    continuations first (more.length + 1) (second :: (more ++ rest)) = second :: more := by
  have hin : ¬(second < (secondRange first).1 ∨ (secondRange first).2 < second) := by
    rintro (h | h)
    · exact absurd h (UInt8.not_lt.mpr hrange.1)
    · exact absurd h (UInt8.not_lt.mpr hrange.2)
  have hall : (more ++ []).takeWhile isContinuation = more ++ [].takeWhile isContinuation :=
    List.takeWhile_append_of_pos hmore
  rw [List.append_nil, List.takeWhile_nil, List.append_nil] at hall
  simp only [continuations, Nat.add_one_sub_one, List.take_left]
  rw [if_neg (by simpa using hin), hall]

/-! ### The bytes of a character -/

/-- A character as a first byte and all the bytes that it asks for. -/
structure Spelled (c : Char) (first : UInt8) (tail : List UInt8) : Prop where
  bytes : String.utf8EncodeChar c = first :: tail
  length : lengthOf first = some (tail.length + 1)
  taken : ∀ rest, continuations first tail.length (tail ++ rest) = tail
  number : codePoint (tail.length + 1) first tail = c.toNat

theorem spelled_one {c : Char} (h : c.toNat ≤ 0x7F) : Spelled c (UInt8.ofNat c.toNat) [] where
  bytes := by
    simp only [String.utf8EncodeChar, Char.toNat_val]
    rw [if_pos h]
  length := by
    rw [lengthOf_eq, UInt8.toNat_ofNat_of_lt' (show c.toNat < 256 by omega), if_pos (by omega)]
    rfl
  taken rest := by cases rest <;> simp [continuations]
  number := by
    simp [codePoint]
    omega

theorem spelled_two {c : Char} (hlow : 0x7F < c.toNat) (hhigh : c.toNat ≤ 0x7FF) :
    Spelled c (UInt8.ofNat (c.toNat / 64 % 32 + 192)) [UInt8.ofNat (c.toNat % 64 + 128)] := by
  have hfirst := UInt8.toNat_ofNat_of_lt' (show c.toNat / 64 % 32 + 192 < 256 by omega)
  have hsecond := UInt8.toNat_ofNat_of_lt' (show c.toNat % 64 + 128 < 256 by omega)
  refine ⟨?_, ?_, fun rest => ?_, ?_⟩
  · simp only [String.utf8EncodeChar, Char.toNat_val]
    rw [if_neg (by omega), if_pos hhigh]
  · rw [lengthOf_eq, hfirst, if_neg (by omega), if_neg (by omega), if_pos (by omega)]
    rfl
  · refine continuations_append [] rest ?_ (by simp)
    apply mem_secondRange <;> omega
  · simp [codePoint]
    omega

theorem spelled_three {c : Char} (hlow : 0x7FF < c.toNat) (hhigh : c.toNat ≤ 0xFFFF) :
    Spelled c (UInt8.ofNat (c.toNat / 4096 % 16 + 224))
      [UInt8.ofNat (c.toNat / 64 % 64 + 128), UInt8.ofNat (c.toNat % 64 + 128)] := by
  have hvalid := toNat_valid c
  have hfirst := UInt8.toNat_ofNat_of_lt' (show c.toNat / 4096 % 16 + 224 < 256 by omega)
  have hsecond := UInt8.toNat_ofNat_of_lt' (show c.toNat / 64 % 64 + 128 < 256 by omega)
  refine ⟨?_, ?_, fun rest => ?_, ?_⟩
  · simp only [String.utf8EncodeChar, Char.toNat_val]
    rw [if_neg (by omega), if_neg (by omega), if_pos hhigh]
  · rw [lengthOf_eq, hfirst, if_neg (by omega), if_neg (by omega), if_neg (by omega),
      if_pos (by omega)]
    rfl
  · refine continuations_append [_] rest ?_ ?_
    · apply mem_secondRange <;> omega
    · simp only [List.mem_singleton, forall_eq]
      exact isContinuation_byte (by omega)
  · simp [codePoint]
    omega

theorem spelled_four {c : Char} (hlow : 0xFFFF < c.toNat) :
    Spelled c (UInt8.ofNat (c.toNat / 262144 % 8 + 240))
      [UInt8.ofNat (c.toNat / 4096 % 64 + 128), UInt8.ofNat (c.toNat / 64 % 64 + 128),
        UInt8.ofNat (c.toNat % 64 + 128)] := by
  have hvalid := toNat_valid c
  have hfirst := UInt8.toNat_ofNat_of_lt' (show c.toNat / 262144 % 8 + 240 < 256 by omega)
  have hsecond := UInt8.toNat_ofNat_of_lt' (show c.toNat / 4096 % 64 + 128 < 256 by omega)
  refine ⟨?_, ?_, fun rest => ?_, ?_⟩
  · simp only [String.utf8EncodeChar, Char.toNat_val]
    rw [if_neg (by omega), if_neg (by omega), if_neg (by omega)]
  · rw [lengthOf_eq, hfirst, if_neg (by omega), if_neg (by omega), if_neg (by omega),
      if_neg (by omega), if_pos (by omega)]
    rfl
  · refine continuations_append [_, _] rest ?_ ?_
    · apply mem_secondRange <;> omega
    · simp only [List.mem_cons, List.not_mem_nil, or_false, forall_eq_or_imp, forall_eq]
      exact ⟨isContinuation_byte (by omega), isContinuation_byte (by omega)⟩
  · simp [codePoint]
    omega

theorem exists_spelled (c : Char) : ∃ first tail, Spelled c first tail := by
  by_cases hone : c.toNat ≤ 0x7F
  · exact ⟨_, _, spelled_one hone⟩
  · by_cases htwo : c.toNat ≤ 0x7FF
    · exact ⟨_, _, spelled_two (by omega) htwo⟩
    · by_cases hthree : c.toNat ≤ 0xFFFF
      · exact ⟨_, _, spelled_three (by omega) hthree⟩
      · exact ⟨_, _, spelled_four (by omega)⟩

/-! ### Decoding -/

/-- A first byte in front of all the bytes that it asks for gives their character. -/
theorem front_append {first : UInt8} {tail rest : List UInt8}
    (hlength : lengthOf first = some (tail.length + 1))
    (htail : continuations first tail.length (tail ++ rest) = tail) :
    front first (tail ++ rest) =
      (.ok (Char.ofNat (codePoint (tail.length + 1) first tail)), 1 + tail.length) := by
  simp only [front, hlength, Nat.add_one_sub_one, htail, if_true]

/-- The bytes of one character are cut off as one piece, whatever bytes follow. -/
theorem pieces_utf8EncodeChar (c : Char) (rest : List UInt8) :
    pieces (String.utf8EncodeChar c ++ rest) =
      ⟨.ok c, String.utf8EncodeChar c⟩ :: pieces rest := by
  obtain ⟨first, tail, h⟩ := exists_spelled c
  have hfront := front_append h.length (h.taken rest)
  rw [h.number, Char.ofNat_toNat] at hfront
  rw [h.bytes, List.cons_append, pieces, hfront]
  simp [Nat.add_comm 1]

/-- Decoding UTF-8 undoes encoding. -/
theorem decodeLenient_encode (cs : List Char) : decodeLenient (encode cs) = cs := by
  induction cs with
  | nil => simp [encode, decodeLenient, pieces]
  | cons c cs ih =>
    rw [encode, List.flatMap_cons, decodeLenient, pieces_utf8EncodeChar, List.map_cons]
    exact congrArg (c :: ·) ih

end Utf8

/-! ## UTF-16 -/

namespace Utf16

/-- The two bytes of a unit give the unit again. -/
theorem exists_bytes (o : Order) {unit : Nat} (h : unit < 0x10000) :
    ∃ a b, o.bytes unit = [a, b] ∧ o.unit a b = unit := by
  have hlow := UInt8.toNat_ofNat_of_lt' (show unit % 256 < 256 by omega)
  have hhigh := UInt8.toNat_ofNat_of_lt' (show unit / 256 % 256 < 256 by omega)
  cases o with
  | little =>
    refine ⟨_, _, rfl, ?_⟩
    rw [Order.unit, hlow, hhigh]
    omega
  | big =>
    refine ⟨_, _, rfl, ?_⟩
    rw [Order.unit, hlow, hhigh]
    omega

/-- A unit that is no surrogate is read as its character. -/
theorem decodeLenient_single {o : Order} {a b : UInt8} {c : Char} (h : o.unit a b = c.toNat)
    (rest : List UInt8) : decodeLenient o (a :: b :: rest) = c :: decodeLenient o rest := by
  have hvalid := toNat_valid c
  have hlow : ¬isLow c.toNat = true := by
    simp [isLow]
    omega
  have hhigh : ¬isHigh c.toNat = true := by
    simp [isHigh]
    omega
  rw [decodeLenient.eq_def]
  simp only [h, hlow, hhigh, if_false, Bool.false_eq_true, Char.ofNat_toNat]

/-- A high surrogate in front of a low one is read as their character. -/
theorem decodeLenient_pair {o : Order} {a b c d : UInt8} {high low : Nat}
    (hab : o.unit a b = 0xD800 + high) (hcd : o.unit c d = 0xDC00 + low) (hhigh : high < 0x400)
    (hlow : low < 0x400) (rest : List UInt8) :
    decodeLenient o (a :: b :: c :: d :: rest) =
      Char.ofNat (0x10000 + high * 0x400 + low) :: decodeLenient o rest := by
  have hfirst : ¬isLow (0xD800 + high) = true := by
    simp [isLow]
    omega
  have hfirst' : isHigh (0xD800 + high) = true := by
    simp [isHigh]
    omega
  have hsecond : isLow (0xDC00 + low) = true := by
    simp [isLow]
    omega
  rw [decodeLenient]
  simp only [hab, hcd, hfirst, hfirst', hsecond, if_false, if_true, Nat.add_sub_cancel_left,
    Bool.false_eq_true]

/-- The units of one character are read as the character, whatever bytes follow. -/
theorem decodeLenient_units (o : Order) (c : Char) (rest : List UInt8) :
    decodeLenient o ((units c).flatMap o.bytes ++ rest) = c :: decodeLenient o rest := by
  have hvalid := toNat_valid c
  rw [units]
  split
  · rename_i hplane
    obtain ⟨a, b, hbytes, hunit⟩ := exists_bytes o hplane
    simp only [List.flatMap_cons, List.flatMap_nil, hbytes, List.append_nil, List.cons_append,
      List.nil_append]
    exact decodeLenient_single hunit rest
  · -- The ten upper bits above the first plane go to the first unit, the others to the second.
    obtain ⟨a, b, hbytes, hunit⟩ :=
      exists_bytes o (show 0xD800 + (c.toNat - 0x10000) / 0x400 < 0x10000 by omega)
    obtain ⟨a', b', hbytes', hunit'⟩ :=
      exists_bytes o (show 0xDC00 + (c.toNat - 0x10000) % 0x400 < 0x10000 by omega)
    simp only [List.flatMap_cons, List.flatMap_nil, hbytes, hbytes', List.append_nil,
      List.cons_append, List.nil_append]
    have hnumber : 0x10000 + (c.toNat - 0x10000) / 0x400 * 0x400 + (c.toNat - 0x10000) % 0x400 =
        c.toNat := by omega
    rw [decodeLenient_pair hunit hunit' (by omega) (by omega), hnumber, Char.ofNat_toNat]

/-- Decoding UTF-16 undoes encoding. -/
theorem decodeLenient_encode (o : Order) (cs : List Char) : decodeLenient o (encode o cs) = cs := by
  induction cs with
  | nil => rfl
  | cons c cs ih =>
    rw [encode, List.flatMap_cons, decodeLenient_units]
    exact congrArg (c :: ·) ih

end Utf16

/-! ## One byte per character -/

namespace SingleByte

/-- The byte that was chosen for a character stands for it. -/
theorem char?_of_byte? {e : SingleByte} {c : Char} {b : UInt8} (h : e.byte? c = some b) :
    e.char? b = some c := by
  unfold byte? at h
  split at h
  · rename_i hascii
    cases h
    have hbyte := UInt8.toNat_ofNat_of_lt' (show c.toNat < 256 by omega)
    have hlt : UInt8.ofNat c.toNat < 0x80 := by
      rw [UInt8.lt_iff_toNat_lt, hbyte]
      exact hascii
    rw [char?_ascii e hlt, hbyte, Char.ofNat_toNat]
  · simpa using List.find?_some h

/-- Decoding single bytes undoes encoding. -/
theorem decodeLenient_of_encode? {e : SingleByte} {cs : List Char} {bytes : List UInt8}
    (h : e.encode? cs = some bytes) : e.decodeLenient bytes = cs := by
  induction cs generalizing bytes with
  | nil =>
    cases h
    rfl
  | cons c cs ih =>
    rw [encode?, List.mapM_cons] at h
    obtain ⟨b, hb, h⟩ := Option.bind_eq_some_iff.mp h
    obtain ⟨rest, hrest, h⟩ := Option.bind_eq_some_iff.mp h
    cases h
    have hlater := ih hrest
    rw [decodeLenient, List.map_cons, char?_of_byte? hb, Option.getD_some]
    exact congrArg (c :: ·) hlater

end SingleByte

/-! ## All encodings -/

/-- Decoding undoes encoding; a mark in front of the text is dropped, and only that one. -/
theorem decodeLenient_of_encode? {e : Encoding} {cs : List Char} {bytes : List UInt8}
    (h : e.encode? cs = some bytes) : e.decodeLenient bytes = some cs := by
  cases e with
  | utf8 =>
    cases h
    rw [decodeLenient, Utf8.decodeLenient_encode]
  | utf8Marked =>
    cases h
    have hmark : Utf8.mark.isPrefixOf (Utf8.mark ++ Utf8.encode cs) = true := by simp
    have hdrop : (Utf8.mark ++ Utf8.encode cs).drop 3 = Utf8.encode cs := rfl
    rw [decodeLenient, if_pos hmark, hdrop, Utf8.decodeLenient_encode]
  | single s => rw [decodeLenient, SingleByte.decodeLenient_of_encode? h]
  | utf16Marked =>
    cases h
    obtain ⟨a, b, hbytes, -⟩ := Utf16.exists_bytes .little (show 0xFEFF < 0x10000 by omega)
    have hmark : Utf16.mark .little = [a, b] := hbytes
    simp only [hmark, List.cons_append, List.nil_append, decodeLenient, if_true,
      Utf16.decodeLenient_encode]
  | utf16 order =>
    cases h
    rw [decodeLenient, Utf16.decodeLenient_encode]

end StructScan.Encoding
