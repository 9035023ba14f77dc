import StructScan.Proofs.Json.Reading

/-!
# The characters of JSON documents

However a value is printed, only ASCII characters are used: a character of a string is written as
itself only if it can be printed in ASCII, and in hexadecimal digits otherwise.

Main results:

- Theorem `Json.ascii_escapeChar`: every character is written in ASCII characters.
- Theorem `Json.ascii_render`: so is every document.
- Theorem `Json.read?_document`: a value is read back from its document.
-/

namespace StructScan

/-- Whether all characters of a text are ASCII characters. -/
def Text.IsAscii (cs : List Char) : Prop :=
  ∀ c ∈ cs, c.toNat < 128

instance (cs : List Char) : Decidable (Text.IsAscii cs) :=
  List.decidableBAll (fun c : Char => c.toNat < 128) cs

namespace Text.IsAscii

theorem nil : IsAscii [] :=
  List.forall_mem_nil _

theorem cons {c : Char} {cs : List Char} (hc : c.toNat < 128) (hcs : IsAscii cs) :
    IsAscii (c :: cs) :=
  List.forall_mem_cons.mpr ⟨hc, hcs⟩

/-- Two texts in ASCII make one in ASCII. -/
theorem append {cs ds : List Char} (hcs : IsAscii cs) (hds : IsAscii ds) : IsAscii (cs ++ ds) :=
  List.forall_mem_append.mpr ⟨hcs, hds⟩

theorem replicate {c : Char} (n : Nat) (hc : c.toNat < 128) : IsAscii (List.replicate n c) := by
  intro d hd
  rw [List.eq_of_mem_replicate hd]
  exact hc

end Text.IsAscii

namespace Json

open Text (IsAscii)

theorem ascii_digitChar {n : Nat} (h : n < 16) : n.digitChar.toNat < 128 := by
  revert n
  decide

/-- Decimal and hexadecimal digits are ASCII characters. -/
theorem ascii_toDigits {base : Nat} (hbase : 1 < base) (hlimit : base ≤ 16) (n : Nat) :
    IsAscii (Nat.toDigits base n) := by
  induction n using Nat.strongRecOn with
  | ind n ih =>
    rw [Nat.toDigits_eq_if hbase]
    split
    · exact .cons (ascii_digitChar (by omega)) .nil
    · have hdigit : n % base < base := Nat.mod_lt n (by omega)
      refine (ih (n / base) ?_).append (.cons (ascii_digitChar (by omega)) .nil)
      exact Nat.div_lt_self (by omega) hbase

/-- A code unit in hexadecimal digits is written in ASCII characters. -/
theorem ascii_unitEscape (n : Nat) : IsAscii (unitEscape n) := by
  refine .cons (by decide) (.cons (by decide) ?_)
  exact (IsAscii.replicate _ (by decide)).append (ascii_toDigits (by decide) (by decide) n)

/-- Every character is written in ASCII characters. -/
theorem ascii_escapeChar (c : Char) : IsAscii (escapeChar c) := by
  by_cases hnamed : c ∈ ['"', '\\', '\n', '\r', '\t', '\x0c', '\x08']
  · simp only [List.mem_cons, List.not_mem_nil, or_false] at hnamed
    rcases hnamed with rfl | rfl | rfl | rfl | rfl | rfl | rfl <;> decide
  · simp only [List.mem_cons, List.not_mem_nil, or_false, not_or] at hnamed
    obtain ⟨hquote, hslash, hfeed, hreturn, htab, hform, hback⟩ := hnamed
    simp only [escapeChar, hquote, hslash, hfeed, hreturn, htab, hform, hback, if_false]
    by_cases hplain : ' ' ≤ c ∧ c ≤ '~'
    · have hlast : c.toNat ≤ '~'.toNat := hplain.2
      rw [if_pos hplain]
      exact .cons (Nat.lt_of_le_of_lt hlast (by decide)) .nil
    · rw [if_neg hplain]
      by_cases hplane : c.toNat < 0x10000
      · rw [if_pos hplane]
        exact ascii_unitEscape _
      · rw [if_neg hplane]
        exact (ascii_unitEscape _).append (ascii_unitEscape _)

/-- A string is, in its quotes and however many of its characters are escaped. -/
theorem ascii_renderString (s : String) : IsAscii (renderString s) := by
  have htext : IsAscii (s.toList.flatMap escapeChar) := by
    intro c hc
    obtain ⟨d, -, hd⟩ := List.mem_flatMap.mp hc
    exact ascii_escapeChar d c hd
  exact .append (.cons (by decide) htext) (.cons (by decide) .nil)

/-- Line breaks and the blanks that indent a line are ASCII characters. -/
theorem ascii_newline (level : Nat) : IsAscii (newline level) :=
  .cons (by decide) (.replicate _ (by decide))

/-- A number is written in ASCII characters, with its sign. -/
theorem ascii_renderInt (n : Int) : IsAscii (renderInt n) := by
  cases n with
  | ofNat m => exact ascii_toDigits (by decide) (by decide) m
  | negSucc m => exact .cons (by decide) (ascii_toDigits (by decide) (by decide) (m + 1))

/-- A member of an object is, if its value is. -/
theorem ascii_member (level : Nat) (key : String) {value : List Char} (h : IsAscii value) :
    IsAscii (newline level ++ renderString key ++ [':', ' '] ++ value) :=
  (((ascii_newline level).append (ascii_renderString key)).append (by decide)).append h

mutual

/-- At every depth, a value is written in ASCII characters. -/
theorem ascii_renderAt (level : Nat) (j : Json) : IsAscii (renderAt level j) := by
  cases j with
  | null => exact (by decide : IsAscii "null".toList)
  | bool b =>
    cases b with
    | true => exact (by decide : IsAscii "true".toList)
    | false => exact (by decide : IsAscii "false".toList)
  | int n => exact ascii_renderInt n
  | string s => exact ascii_renderString s
  | array items =>
    cases items with
    | nil => exact (by decide : IsAscii ['[', ']'])
    | cons item items =>
      have hitem := (ascii_newline (level + 1)).append (ascii_renderAt (level + 1) item)
      have hitems := hitem.append (ascii_renderItems (level + 1) items)
      rw [renderAt]
      exact .append (.append (.cons (by decide) hitems) (ascii_newline level)) (by decide)
  | object members =>
    cases members with
    | nil => exact (by decide : IsAscii ['\x7b', '\x7d'])
    | cons member members =>
      obtain ⟨key, value⟩ := member
      have hmember := ascii_member (level + 1) key (ascii_renderAt (level + 1) value)
      have hmembers := hmember.append (ascii_renderMembers (level + 1) members)
      rw [renderAt]
      exact .append (.append (.cons (by decide) hmembers) (ascii_newline level)) (by decide)

/-- So are the items of an array after the first one. -/
theorem ascii_renderItems (level : Nat) (items : List Json) :
    IsAscii (renderItems level items) := by
  cases items with
  | nil => exact .nil
  | cons item items =>
    have hitem := (ascii_newline level).append (ascii_renderAt level item)
    rw [renderItems]
    exact .cons (by decide) (hitem.append (ascii_renderItems level items))

/-- So are the members of an object after the first one. -/
theorem ascii_renderMembers (level : Nat) (members : List (String × Json)) :
    IsAscii (renderMembers level members) := by
  cases members with
  | nil => exact .nil
  | cons member members =>
    obtain ⟨key, value⟩ := member
    have hmember := ascii_member level key (ascii_renderAt level value)
    rw [renderMembers]
    exact .cons (by decide) (hmember.append (ascii_renderMembers level members))

end

/-- Every document consists of ASCII characters. -/
theorem ascii_render (j : Json) : IsAscii j.render.toList := by
  rw [render, String.toList_ofList]
  exact ascii_renderAt 0 j

/-- A value is read back from its document. -/
theorem read?_document (j : Json) : read? j.render = some j := by
  have hend : EndsNumber [] := fun c hc => by simp at hc
  have hread := read_renderAt 0 j [] hend
  rw [List.append_nil] at hread
  rw [read?, render, String.toList_ofList, Cursor.start, hread, read]
  rfl

end Json

end StructScan
