import StructScan.Text.Alphanumeric
import StructScan.Text.Blank

/-!
# Blanks, words and comment marks keep apart

A lexer that reads words greedily and drops blanks and comments relies on a few
facts about its character classes: no blank belongs to a word, and neither does
the slash that every comment starts with.

Main results:

- Theorem `CharSet.mem_range_of_holds`: a member of a set lies in one of its
  ranges.
- Theorem `isWordChar_of_isBlank`: no blank belongs to a word.
- Theorem `ne_slash_of_isWordChar`: no comment starts inside a word.
-/

namespace StructScan.Text

/-! ## Membership in ranges -/

/-- A member of a set lies in one of its ranges. -/
theorem CharSet.mem_range_of_holds {n : Nat} {ranges : List (Nat × Nat)}
    (h : CharSet.holds n ranges = true) : ∃ r ∈ ranges, r.1 ≤ n ∧ n ≤ r.2 := by
  induction ranges with
  | nil => simp at h
  | cons r rest ih =>
    rw [holds_cons] at h
    by_cases hlow : n < r.1
    · simp [hlow] at h
    · by_cases hhigh : n ≤ r.2
      · exact ⟨r, by simp, by omega, hhigh⟩
      · simp only [hlow, hhigh, if_false] at h
        obtain ⟨r', hr', hn⟩ := ih h
        exact ⟨r', by simp [hr'], hn⟩

/-- Whether no code point of the ranges on the left is found on the right. -/
def CharSet.apart (left right : List (Nat × Nat)) : Bool :=
  left.all fun r => (List.range' r.1 (r.2 + 1 - r.1)).all fun n => !CharSet.holds n right

/-- Sets that keep apart share no character. -/
theorem CharSet.contains_eq_false_of_apart {left right : CharSet} {c : Char}
    (happart : CharSet.apart left.ranges right.ranges = true) (hc : left.contains c = true) :
    right.contains c = false := by
  obtain ⟨r, hr, hlow, hhigh⟩ := CharSet.mem_range_of_holds hc
  have hrow := List.all_eq_true.mp happart r hr
  have hcell := List.all_eq_true.mp hrow c.toNat (by
    rw [List.mem_range'_1]
    omega)
  simpa [CharSet.contains] using hcell

/-! ## The classes of the lexer -/

/-- No blank has a letter or a numeric value. -/
theorem blanks_apart_alphanumeric : CharSet.apart blanks.ranges alphanumeric.ranges = true := by
  decide +kernel

/-- No blank belongs to a word. -/
theorem isWordChar_of_isBlank {c : Char} (h : isBlank c = true) : isWordChar c = false := by
  have halnum : isAlphanumeric c = false :=
    CharSet.contains_eq_false_of_apart blanks_apart_alphanumeric h
  have hunderscore : c ≠ '_' := by
    rintro rfl
    exact absurd h (by decide)
  simp [isWordChar, halnum, hunderscore]

/-- A character of a word is not blank. -/
theorem isBlank_of_isWordChar {c : Char} (h : isWordChar c = true) : isBlank c = false := by
  cases hb : isBlank c with
  | false => rfl
  | true => rw [isWordChar_of_isBlank hb] at h; contradiction

@[simp]
theorem isWordChar_slash : isWordChar '/' = false := by
  decide

@[simp]
theorem isWordChar_star : isWordChar '*' = false := by
  decide

/-- A word holds no slash. -/
theorem ne_slash_of_isWordChar {c : Char} (h : isWordChar c = true) : c ≠ '/' := by
  rintro rfl
  simp at h

end StructScan.Text
