import StructScan.Text.Newline

/-!
# Lines of two texts

A text that ends in a line feed can be cut off: what stands before the cut and
what stands after it have their lines each on its own.  A cut anywhere else parts
the last line, and nothing before it.

Main results:

- Theorem `lines_append`: the lines of a text that ends in a line feed come before
  the lines of what follows.
- Theorem `firstLine_append`: characters without a line feed stand at the head of
  the first line.
- Theorem `cutLines_append_cases`: text that is added stands on lines of its own, or
  the last line goes on with it.
-/

namespace StructScan.Text

/-! ## Cuts at a line feed -/

/-- Newlines are folded on their own in front of other text, unless the cut parts a pair. -/
theorem foldNewlines_append {cs : List Char} (h : cs.getLast? ≠ some '\r') (later : List Char) :
    foldNewlines (cs ++ later) = foldNewlines cs ++ foldNewlines later := by
  fun_induction foldNewlines cs with
  | case1 => rfl
  | case2 cs ih =>
    rw [List.cons_append, List.cons_append, foldNewlines, ih, List.cons_append]
    intro hlast
    simp [List.getLast?_cons, hlast] at h
  | case3 cs hpair ih =>
    cases cs with
    | nil => simp at h
    | cons c cs =>
      rw [List.cons_append, foldNewlines, ih, List.cons_append]
      · rwa [List.getLast?_cons_cons] at h
      · rintro rest hrest
        obtain ⟨rfl, -⟩ := List.cons.inj hrest
        exact hpair cs rfl
  | case4 c cs hpair hreturn ih =>
    rw [List.cons_append, foldNewlines, ih, List.cons_append]
    · intro hlast
      simp [List.getLast?_cons, hlast] at h
    · rintro rest rfl _
      exact hreturn rfl
    · exact hreturn

/-- Folding keeps a line feed at the end. -/
theorem getLast?_foldNewlines {cs : List Char} (h : cs.getLast? = some '\n') :
    (foldNewlines cs).getLast? = some '\n' := by
  fun_induction foldNewlines cs with
  | case1 => simp at h
  | case2 cs ih =>
    cases cs with
    | nil => rfl
    | cons c cs => simp [List.getLast?_cons, ih (by simpa [List.getLast?_cons] using h)]
  | case3 cs _ ih =>
    cases cs with
    | nil => simp at h
    | cons c cs => simp [List.getLast?_cons, ih (by simpa [List.getLast?_cons] using h)]
  | case4 c cs _ _ ih =>
    cases cs with
    | nil => exact h
    | cons d cs => simp [List.getLast?_cons, ih (by simpa [List.getLast?_cons] using h)]

/-- Lines are cut on their own in front of other text, if the cut is at the end of a line. -/
theorem cutLines_append {cs : List Char} (h : ∀ c, cs.getLast? = some c → c = '\n')
    (later : List Char) : cutLines (cs ++ later) = cutLines cs ++ cutLines later := by
  induction cs with
  | nil => rfl
  | cons c cs ih =>
    have hcs (d : Char) (hd : cs.getLast? = some d) : d = '\n' :=
      h d (by simp [List.getLast?_cons, hd])
    rw [List.cons_append, cutLines, cutLines, ih hcs]
    split
    · rfl
    · rename_i hc
      -- The text goes on behind `c`, so there is a line to which `c` belongs.
      cases hlines : cutLines cs with
      | nil =>
        have hnil : cs = [] := by simpa [hlines] using (flatten_cutLines cs).symm
        exact absurd (h c (by simp [hnil])) hc
      | cons line lines => rfl

/-- The lines of a text that ends in a line feed come before the lines of what follows. -/
theorem lines_append {text : String} (h : text.toList.getLast? = some '\n') (later : String) :
    lines (text ++ later) = lines text ++ lines later := by
  have hfold : text.toList.getLast? ≠ some '\r' := by simp [h]
  unfold lines
  rw [String.toList_append, foldNewlines_append hfold, cutLines_append]
  intro c hc
  rw [getLast?_foldNewlines h] at hc
  exact (Option.some.inj hc).symm

/-! ## The first line -/

/-- The first line of a text and the lines after it; an empty text has an empty first line. -/
def firstLine (cs : List Char) : List Char × List (List Char) :=
  match cutLines cs with
  | [] => ([], [])
  | line :: lines => (line, lines)

/-- A character that ends no line stands at the head of the first line. -/
theorem cutLines_cons {c : Char} (hc : c ≠ '\n') (cs : List Char) :
    cutLines (c :: cs) = (c :: (firstLine cs).1) :: (firstLine cs).2 := by
  rw [cutLines, if_neg hc, firstLine]
  cases cutLines cs with
  | nil => rfl
  | cons line lines => rfl

/-- Characters without a line feed stand at the head of the first line. -/
theorem firstLine_append {cs : List Char} (h : '\n' ∉ cs) (later : List Char) :
    firstLine (cs ++ later) = (cs ++ (firstLine later).1, (firstLine later).2) := by
  induction cs with
  | nil => rfl
  | cons c cs ih =>
    rw [List.mem_cons, not_or] at h
    rw [List.cons_append, firstLine, cutLines_cons (Ne.symm h.1), ih h.2]
    rfl

/-- A line feed ends the first line. -/
@[simp]
theorem firstLine_newline (cs : List Char) : firstLine ('\n' :: cs) = (['\n'], cutLines cs) := by
  simp [firstLine, cutLines]

/-- The first line starts as the text does. -/
theorem head?_firstLine (cs : List Char) : (firstLine cs).1.head? = cs.head? := by
  cases cs with
  | nil => rfl
  | cons c cs =>
    by_cases hc : c = '\n'
    · simp [hc]
    · simp [firstLine, cutLines_cons hc]

/-- Characters without a carriage return are left as they are. -/
theorem foldNewlines_append_of_notMem {cs : List Char} (h : '\r' ∉ cs) (later : List Char) :
    foldNewlines (cs ++ later) = cs ++ foldNewlines later := by
  induction cs with
  | nil => rfl
  | cons c cs ih =>
    rw [List.mem_cons, not_or] at h
    rw [List.cons_append, foldNewlines, ih h.2, List.cons_append]
    · exact fun _ hc _ => h.1 hc.symm
    · exact fun hc => h.1 hc.symm

@[simp]
theorem foldNewlines_newline (cs : List Char) :
    foldNewlines ('\n' :: cs) = '\n' :: foldNewlines cs :=
  foldNewlines_append_of_notMem (show '\r' ∉ ['\n'] by decide) cs

/-- A folded text starts as it did before, or with a line feed. -/
theorem head?_foldNewlines {cs : List Char} {c : Char} (h : (foldNewlines cs).head? = some c) :
    c = '\n' ∨ cs.head? = some c := by
  fun_cases foldNewlines cs with
  | case1 => simp [foldNewlines] at h
  | case2 => exact .inl (by simpa [foldNewlines] using h.symm)
  | case3 => exact .inl (by simpa [foldNewlines, *] using h.symm)
  | case4 => exact .inr (by simpa [foldNewlines, *] using h)

/-! ## Text that goes on -/

/-- Text that is added leaves the folded text in front of it as it is. -/
theorem exists_foldNewlines_append (cs later : List Char) :
    ∃ more, foldNewlines (cs ++ later) = foldNewlines cs ++ more := by
  fun_induction foldNewlines cs with
  | case1 => exact ⟨_, rfl⟩
  | case2 cs ih =>
    obtain ⟨more, hmore⟩ := ih
    exact ⟨more, by simp [foldNewlines, hmore]⟩
  | case3 cs hpair ih =>
    obtain ⟨more, hmore⟩ := ih
    cases cs with
    | nil =>
      -- A carriage return at the end takes a line feed that is added into its newline.
      cases later with
      | nil => exact ⟨[], rfl⟩
      | cons c later =>
        by_cases hc : c = '\n'
        · exact ⟨foldNewlines later, by simp [hc, foldNewlines]⟩
        · have hpair' (rest : List Char) : c :: later ≠ '\n' :: rest := by simp [hc]
          exact ⟨foldNewlines (c :: later), foldNewlines.eq_3 _ hpair'⟩
    | cons c cs =>
      refine ⟨more, ?_⟩
      rw [List.cons_append, foldNewlines, hmore, List.cons_append]
      rintro rest hrest
      obtain ⟨rfl, -⟩ := List.cons.inj hrest
      exact hpair cs rfl
  | case4 c cs hpair hreturn ih =>
    obtain ⟨more, hmore⟩ := ih
    refine ⟨more, ?_⟩
    rw [List.cons_append, foldNewlines, hmore, List.cons_append]
    · exact fun _ hc _ => hreturn hc
    · exact hreturn

/-- Text that is added stands on lines of its own, or the last line goes on with it. -/
theorem cutLines_append_cases (cs later : List Char) :
    (∃ more, cutLines (cs ++ later) = cutLines cs ++ more) ∨
      ∃ lines line extra more, cutLines cs = lines ++ [line] ∧
        cutLines (cs ++ later) = lines ++ (line ++ extra) :: more := by
  induction cs with
  | nil => exact .inl ⟨cutLines later, rfl⟩
  | cons c cs ih =>
    by_cases hc : c = '\n'
    · rw [List.cons_append, cutLines, cutLines, if_pos hc, if_pos hc]
      rcases ih with ⟨more, hmore⟩ | ⟨lines, line, extra, more, hlines, hmore⟩
      · exact .inl ⟨more, by rw [hmore]; rfl⟩
      · exact .inr ⟨[c] :: lines, line, extra, more, by rw [hlines]; rfl, by rw [hmore]; rfl⟩
    · rw [List.cons_append, cutLines_cons hc, cutLines_cons hc]
      rcases ih with ⟨more, hmore⟩ | ⟨lines, line, extra, more, hlines, hmore⟩
      · cases hlines : cutLines cs with
        | nil => exact .inr ⟨[], [c], (firstLine (cs ++ later)).1, (firstLine (cs ++ later)).2,
            by simp [firstLine, hlines], by simp⟩
        | cons line lines => exact .inl ⟨more, by simp [firstLine, hmore, hlines]⟩
      · right
        cases lines with
        | nil => exact ⟨[], c :: line, extra, more, by simp [firstLine, hlines],
            by simp [firstLine, hmore]⟩
        | cons first lines => exact ⟨(c :: first) :: lines, line, extra, more,
            by simp [firstLine, hlines], by simp [firstLine, hmore]⟩

end StructScan.Text
