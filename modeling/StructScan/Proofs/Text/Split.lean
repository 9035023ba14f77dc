import StructScan.Text.Split

/-!
# Texts that are cut at a character

Cutting a text at a character gives parts that do not hold it, and parts that do not hold it are
found again when their text is cut.

Main results:

- Theorem `Text.eq_of_append_mark_eq`: the first part of a text and the rest are determined.
- Theorem `Text.notMem_of_mem_split`: no part holds the character.
- Theorem `Text.split_intercalate`: parts that were put together are found again.
-/

namespace StructScan.Text

/-- A text without the mark is one part. -/
theorem split_of_notMem {mark : Char} {cs : List Char} (h : mark ∉ cs) :
    split mark cs = [cs] := by
  induction cs with
  | nil => rfl
  | cons c cs ih =>
    have hc : c ≠ mark := fun heq => h (heq ▸ List.mem_cons_self)
    rw [split, if_neg hc, ih fun hmem => h (List.mem_cons_of_mem _ hmem)]

/-- A text is cut behind its first part. -/
theorem split_append {mark : Char} {cs : List Char} (h : mark ∉ cs) (rest : List Char) :
    split mark (cs ++ mark :: rest) = cs :: split mark rest := by
  induction cs with
  | nil => simp [split]
  | cons c cs ih =>
    have hc : c ≠ mark := fun heq => h (heq ▸ List.mem_cons_self)
    rw [List.cons_append, split, if_neg hc, ih fun hmem => h (List.mem_cons_of_mem _ hmem)]

/-- A text has one first part and one rest behind the mark. -/
theorem eq_of_append_mark_eq {mark : Char} {cs ds rest rest' : List Char} (hc : mark ∉ cs)
    (hd : mark ∉ ds) (h : cs ++ mark :: rest = ds ++ mark :: rest') : cs = ds ∧ rest = rest' := by
  have hparts : cs :: split mark rest = ds :: split mark rest' := by
    rw [← split_append hc, ← split_append hd, h]
  obtain rfl := (List.cons.inj hparts).1
  have hrest := List.append_cancel_left h
  exact ⟨rfl, (List.cons.inj hrest).2⟩

/-- No part of a text holds the mark that it was cut at. -/
theorem notMem_of_mem_split {mark : Char} {cs part : List Char} (h : part ∈ split mark cs) :
    mark ∉ part := by
  induction cs generalizing part with
  | nil =>
    rw [split, List.mem_singleton] at h
    simp [h]
  | cons c cs ih =>
    unfold split at h
    split at h
    · rcases List.mem_cons.mp h with rfl | h
      · exact List.not_mem_nil
      · exact ih h
    · rename_i hc
      -- The character is not the mark, so it goes in front of the first part.
      split at h
      · rw [List.mem_singleton.mp h, List.mem_singleton]
        exact fun heq => hc heq.symm
      · rename_i first parts hparts
        rcases List.mem_cons.mp h with rfl | h
        · have hfirst : mark ∉ first := ih (by rw [hparts]; exact List.mem_cons_self)
          rw [List.mem_cons]
          exact fun hmem => hmem.elim (fun heq => hc heq.symm) hfirst
        · exact ih (by rw [hparts]; exact List.mem_cons_of_mem _ h)

/-- Parts that were put together with the mark between them are found again. -/
theorem split_intercalate {mark : Char} {parts : List (List Char)} (hne : parts ≠ [])
    (h : ∀ part ∈ parts, mark ∉ part) : split mark ([mark].intercalate parts) = parts := by
  induction parts with
  | nil => contradiction
  | cons part parts ih =>
    have hpart := h part List.mem_cons_self
    cases parts with
    | nil => rw [List.intercalate_singleton, split_of_notMem hpart]
    | cons next parts =>
      have hparts := ih (List.cons_ne_nil _ _) fun p hp => h p (List.mem_cons_of_mem _ hp)
      rw [List.intercalate_cons_cons, List.append_assoc, List.singleton_append,
        split_append hpart, hparts]

end StructScan.Text
