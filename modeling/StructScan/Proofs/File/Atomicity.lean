import StructScan.Proofs.File.Regular

/-!
# States of a tree under a write

A write takes the tree from one state to the next, and another process may look at any of them.
Directories come first, then the temporary file, which is filled and renamed, or removed if
something went wrong.  The temporary file never stands at the place of the target, so up to
the renaming the target is as it was, and from then on it holds the whole text.  What the
temporary file holds is not told: it may as well be written piece by piece.

Main results:

- Theorem `Disk.lexical_of_resolve`: a path leads to one place only, whatever the tree is.
- Theorem `Disk.temporaryPlace_ne_lexical`: the temporary file never stands at the target.
- Theorem `Disk.Harmless.halfWritten`: a state stays harmless however far the temporary file is.
- Theorem `Disk.writeAtomically_atomic`: every state under a write is harmless; a write that fails
  leaves all regular files, and one that succeeds puts the text in the place of the target.
-/

namespace StructScan

/-! ## Texts and their bytes -/

/--
The bytes of a text in the encoding of a name.  They are the bytes of its characters as they
are, and decoding gives back these characters, newlines included.
-/
def Encodes (text encoding : String) (bytes : Bytes) : Prop :=
  ∃ e, Encoding.ofName encoding = .ok e ∧ e.encode? text.toList = some bytes ∧
    e.decodeLenient bytes = some text.toList

namespace Disk

open FileTree (SameFiles SameFilesBut)

theorem encodes_of_encodeText {text encoding : String} {bytes : Bytes}
    (h : encodeText text encoding = .ok bytes) : Encodes text encoding bytes := by
  obtain ⟨-, e, hname, hbytes⟩ := exists_of_encodeText h
  exact ⟨e, hname, hbytes, Encoding.decodeLenient_of_encode? hbytes⟩

/-! ## Places -/

/-- Going down takes back a double dot as the text of the path does. -/
theorem foldl_of_walk {t : FileTree} {loc target : Location} {parts : List String}
    (h : walk t loc parts = .ok target) :
    parts.foldl (fun loc part => if part = ".." then loc.dropLast else loc ++ [part]) loc =
      target := by
  fun_induction walk t loc parts with
  | case1 loc =>
    cases h
    rfl
  | case2 => contradiction
  | case3 => contradiction
  | case4 loc parts hnode ih =>
    rw [List.foldl_cons, if_pos rfl]
    exact ih h
  | case5 => contradiction
  | case6 loc part parts hnode hup hlong ih =>
    rw [List.foldl_cons, if_neg hup]
    exact ih h

/-- If a path leads anywhere, it leads to the place that its text names. -/
theorem lexical_of_resolve {d : Disk} {p : Path} {loc : Location} (h : d.resolve p = .ok loc) :
    d.lexical p = loc := by
  unfold resolve at h
  unfold lexical
  split at h
  · contradiction
  · split at h
    · exact foldl_of_walk h
    · exact foldl_of_walk h

/-- The place that a path names depends on the working directory only. -/
theorem lexical_congr {d d' : Disk} (h : d'.cwd = d.cwd) (p : Path) :
    d'.lexical p = d.lexical p := by
  unfold lexical
  rw [h]

/-- So does the place of a temporary file. -/
theorem temporaryPlace_congr {d d' : Disk} (h : d'.cwd = d.cwd) (p : Path) (salt : String) :
    d'.temporaryPlace p salt = d.temporaryPlace p salt := by
  unfold temporaryPlace
  rw [lexical_congr h]

/-- A path names the place of its last component, seen from the place above. -/
theorem lexical_concat (d : Disk) (anchor : Path.Anchor) (parts : List String) (name : String) :
    d.lexical ⟨anchor, parts ++ [name]⟩ =
      if name = ".." then (d.lexical ⟨anchor, parts⟩).dropLast
      else d.lexical ⟨anchor, parts⟩ ++ [name] := by
  unfold lexical
  rw [List.foldl_append, List.foldl_cons, List.foldl_nil]

/-- The name of a temporary file is longer than the name of its target. -/
theorem temporaryName_ne (p : Path) (salt : String) : temporaryName p salt ≠ p.name := by
  have hname : temporaryName p salt = "." ++ p.name ++ "." ++ salt ++ ".tmp" := rfl
  intro h
  have hlength := congrArg String.length h
  rw [hname] at hlength
  simp only [String.length_append] at hlength
  have hdot : ".".length = 1 := rfl
  omega

/-- The temporary file never stands at the place of its target. -/
theorem temporaryPlace_ne_lexical (d : Disk) (p : Path) (salt : String) :
    d.temporaryPlace p salt ≠ d.lexical p := by
  have hname := temporaryName_ne p salt
  unfold temporaryPlace
  obtain ⟨anchor, parts⟩ := p
  intro h
  rcases List.eq_nil_or_concat parts with rfl | ⟨above, name, rfl⟩
  · have hlength := congrArg List.length h
    simp [Path.parent] at hlength
  · rw [List.concat_eq_append] at h hname
    rw [lexical_concat] at h
    simp only [Path.parent, List.dropLast_concat] at h
    by_cases hup : name = ".."
    · -- A double dot leads further up than the directory of the temporary file.
      rw [if_pos hup] at h
      have hlength := congrArg List.length h
      simp at hlength
      omega
    · rw [if_neg hup] at h
      obtain ⟨-, hlast⟩ := List.append_inj' h rfl
      apply hname
      simpa [Path.name] using hlast

/-! ## States that are gone through -/

/--
The way of a disk from one moment to a later one: the working directory stays, and every state
that the tree goes through in between, the last one included, has a property.
-/
structure PassesOnly (P : FileTree → Prop) (d d' : Disk) : Prop where
  cwd : d'.cwd = d.cwd
  states : ∃ states, d'.tree :: d'.past = states ++ d.tree :: d.past ∧ ∀ t ∈ states, P t

namespace PassesOnly

variable {P Q : FileTree → Prop} {d d' d'' : Disk}

theorem refl (P : FileTree → Prop) (d : Disk) : PassesOnly P d d :=
  ⟨rfl, [], rfl, by simp⟩

theorem trans (h : PassesOnly P d d') (h' : PassesOnly P d' d'') : PassesOnly P d d'' := by
  obtain ⟨hcwd, states, heq, hstates⟩ := h
  obtain ⟨hcwd', states', heq', hstates'⟩ := h'
  refine ⟨hcwd'.trans hcwd, states' ++ states, ?_, ?_⟩
  · rw [heq', heq, List.append_assoc]
  · exact List.forall_mem_append.mpr ⟨hstates', hstates⟩

/-- One more state with the property. -/
theorem commit {t : FileTree} (h : PassesOnly P d d') (ht : P t) :
    PassesOnly P d (d'.commit t) := by
  obtain ⟨hcwd, states, heq, hstates⟩ := h
  refine ⟨hcwd, t :: states, ?_, List.forall_mem_cons.mpr ⟨ht, hstates⟩⟩
  rw [List.cons_append, ← heq]
  rfl

theorem mono (h : PassesOnly P d d') (hpq : ∀ t, P t → Q t) : PassesOnly Q d d' := by
  obtain ⟨hcwd, states, heq, hstates⟩ := h
  exact ⟨hcwd, states, heq, fun t ht => hpq t (hstates t ht)⟩

/-- The last state has the property, if the first one does. -/
theorem last (h : PassesOnly P d d') (hfirst : P d.tree) : P d'.tree := by
  obtain ⟨-, states, heq, hstates⟩ := h
  cases states with
  | nil =>
    obtain ⟨htree, -⟩ := List.cons.inj heq
    rwa [htree]
  | cons t states =>
    obtain ⟨htree, -⟩ := List.cons.inj heq
    rw [htree]
    exact hstates t List.mem_cons_self

end PassesOnly

/-- While directories are made, all regular files stay as they are. -/
theorem makeDirectories_passes (n : Nat) (p : Path) (d : Disk) :
    Ends (makeDirectories n p) d (fun _ d' => PassesOnly (SameFiles d.tree) d d')
      fun e d' => e.AtDisk ∧ PassesOnly (SameFiles d.tree) d d' := by
  apply makeDirectories_keeps (R := fun d d' => PassesOnly (SameFiles d.tree) d d')
  · exact fun d => .refl _ d
  · intro d d' d'' h h'
    exact h.trans (h'.mono fun t ht => (h.last (.refl _)).trans ht)
  · intro d d' p hmake
    unfold makeIfMissing at hmake
    split at hmake
    · rename_i hmade
      cases hmake
      obtain ⟨place, hnone, rfl⟩ := exists_of_makeDirectory hmade
      exact (PassesOnly.refl _ d).commit (FileTree.sameFiles_put_directory hnone)
    · contradiction
    · split at hmake
      · cases hmake
        exact .refl _ d
      · contradiction

/-! ## States under a write -/

/--
A state of the tree while a text is written over the one given.  The regular file at the target,
if there is one, holds its old bytes or all bytes of the text.  Every other regular file is as it
was, but for a temporary file where none was before.
-/
structure Harmless (salts : List String) (p : Path) (text encoding : String) (d : Disk)
    (t : FileTree) : Prop where
  target : t.file? (d.lexical p) = d.tree.file? (d.lexical p) ∨
    ∃ bytes, Encodes text encoding bytes ∧ t.file? (d.lexical p) = some bytes
  others : ∀ loc, loc ≠ d.lexical p → t.file? loc = d.tree.file? loc ∨
    (∃ salt ∈ salts, loc = d.temporaryPlace p salt) ∧ d.tree.file? loc = none

/-- A disk after a write: the path leads to the text, and no other regular file differs. -/
structure Replaced (p : Path) (text encoding : String) (d d' : Disk) : Prop where
  resolve : d'.resolve p = .ok (d.lexical p)
  content : ∃ bytes, Encodes text encoding bytes ∧ d'.tree.file? (d.lexical p) = some bytes
  others : SameFilesBut (d.lexical p) d.tree d'.tree

namespace Harmless

variable {salts : List String} {p : Path} {text encoding : String} {d : Disk} {t : FileTree}

theorem of_sameFiles (h : SameFiles d.tree t) : Harmless salts p text encoding d t where
  target := .inl (h _)
  others loc _ := .inl (h loc)

theorem of_temporary {salt : String} (hsalt : salt ∈ salts)
    (hnone : d.tree.file? (d.temporaryPlace p salt) = none)
    (h : SameFilesBut (d.temporaryPlace p salt) d.tree t) :
    Harmless salts p text encoding d t where
  target := .inl (h _ (temporaryPlace_ne_lexical d p salt).symm)
  others loc _ := by
    by_cases hplace : loc = d.temporaryPlace p salt
    · exact .inr ⟨⟨salt, hsalt, hplace⟩, hplace ▸ hnone⟩
    · exact .inl (h loc hplace)

theorem of_replaced {bytes : Bytes} (hbytes : Encodes text encoding bytes)
    (htarget : t.file? (d.lexical p) = some bytes) (h : SameFilesBut (d.lexical p) d.tree t) :
    Harmless salts p text encoding d t where
  target := .inr ⟨bytes, hbytes, htarget⟩
  others loc hloc := .inl (h loc hloc)

/-- However far the temporary file has been written, a state stays harmless. -/
theorem halfWritten (h : Harmless salts p text encoding d t) {salt : String}
    (hnew : t.file? (d.temporaryPlace p salt) ≠ d.tree.file? (d.temporaryPlace p salt))
    (half : Bytes) :
    Harmless salts p text encoding d (t.put (d.temporaryPlace p salt) (.file half)) := by
  have hapart := temporaryPlace_ne_lexical d p salt
  have hput := FileTree.sameFilesBut_put t (d.temporaryPlace p salt) (.file half)
  constructor
  · rw [hput _ hapart.symm]
    exact h.target
  · intro loc hloc
    by_cases hplace : loc = d.temporaryPlace p salt
    · -- The state already had a file at this place, and the tree before the write had none.
      subst hplace
      exact .inr ((h.others _ hloc).resolve_left hnew)
    · rw [hput loc hplace]
      exact h.others loc hloc

end Harmless

/-! ## Filling and renaming -/

/--
Filling the temporary file and renaming it are two steps.  If that fails, the first step may have
been done.
-/
theorem fill_steps (place : Location) (p : Path) (text encoding : String) (d : Disk) :
    Ends (fill place p text encoding) d
      (fun _ d' => ∃ bytes t, d' = (d.commit (d.tree.put place (.file bytes))).commit t)
      fun _ d' => d' = d ∨ ∃ bytes, d' = d.commit (d.tree.put place (.file bytes)) := by
  constructor
  · intro _ d' hend
    unfold fill at hend
    split at hend
    · contradiction
    · obtain ⟨target, node, -, -, -, rfl⟩ := exists_of_rename hend
      exact ⟨_, _, rfl⟩
  · intro e d' hend
    unfold fill at hend
    split at hend
    · cases hend
      exact .inl rfl
    · obtain ⟨-, rfl⟩ := rename_error hend
      exact .inr ⟨_, rfl⟩

/-- A file that is read stands at the place that its path names. -/
theorem file?_of_read {d : Disk} {p : Path} {bytes : Bytes} (h : d.read p = .ok bytes) :
    d.resolve p = .ok (d.lexical p) ∧ d.tree.file? (d.lexical p) = some bytes := by
  unfold read find at h
  cases hresolve : d.resolve p with
  | error e =>
    rw [hresolve] at h
    contradiction
  | ok loc =>
    rw [lexical_of_resolve hresolve]
    refine ⟨rfl, ?_⟩
    simp only [hresolve, bind, Except.bind] at h
    unfold FileTree.file?
    cases hnode : d.tree.node? loc with
    | none =>
      rw [hnode] at h
      contradiction
    | some node =>
      rw [hnode] at h
      cases node with
      | directory => contradiction
      | file content =>
        cases h
        rfl

/-! ## Whole writes -/

section

variable (salts : List String) (p : Path) (text encoding : String) (d : Disk)

/--
Once there is a temporary file, the states are harmless while it is filled.  Renaming it is the
last step, and so is removing it.
-/
theorem fillOrUnlink_passes {salt : String} {d₁ : Disk}
    (hnew : d₁.tree.file? (d.temporaryPlace p salt) ≠ d.tree.file? (d.temporaryPlace p salt))
    (hpasses : PassesOnly (Harmless salts p text encoding d) d d₁) :
    Ends (fillOrUnlink (d.temporaryPlace p salt) p text encoding) d₁
      (fun _ d' => ∃ before t, PassesOnly (Harmless salts p text encoding d) d before ∧
        d' = before.commit t)
      fun _ d' => ∃ before t, PassesOnly (Harmless salts p text encoding d) d before ∧
        d' = before.commit t := by
  have hharmless : Harmless salts p text encoding d d₁.tree :=
    hpasses.last (.of_sameFiles (.refl _))
  have hfilled (bytes : Bytes) : PassesOnly (Harmless salts p text encoding d) d
      (d₁.commit (d₁.tree.put (d.temporaryPlace p salt) (.file bytes))) :=
    hpasses.commit (hharmless.halfWritten hnew bytes)
  refine fillOrUnlink_ends ((fill_steps _ p text encoding d₁).mono ?_ ?_)
  · rintro _ d' ⟨bytes, t, rfl⟩
    exact ⟨_, t, hfilled bytes, rfl⟩
  · rintro e d' (rfl | ⟨bytes, rfl⟩)
    · exact ⟨_, _, hpasses, rfl⟩
    · exact ⟨_, _, hfilled bytes, rfl⟩

/-- Every state that a write goes through is harmless, but for the last one maybe. -/
theorem writeAtomically_passes :
    Ends (writeAtomically salts p text encoding) d
      (fun _ d' => ∃ before t, PassesOnly (Harmless salts p text encoding d) d before ∧
        d' = before.commit t)
      fun _ d' => PassesOnly (Harmless salts p text encoding d) d d' ∨
        ∃ before t, PassesOnly (Harmless salts p text encoding d) d before ∧
          d' = before.commit t := by
  apply writeAtomically_stages salts p text encoding d (.refl _ d) (makeDirectories_passes _ _ d)
  · intro e d' _ hdirectories
    exact .inl (hdirectories.mono fun _ => Harmless.of_sameFiles)
  · intro d₁ salt hdirectories hsalt hnone
    have hsame := hdirectories.last (.refl _)
    rw [temporaryPlace_congr hdirectories.cwd] at hnone ⊢
    have hnofile : d.tree.file? (d.temporaryPlace p salt) = none := by
      rw [← hsame]
      exact FileTree.file?_of_node?_none hnone
    have hmade : SameFilesBut (d.temporaryPlace p salt) d.tree
        (d₁.tree.put (d.temporaryPlace p salt) (.file [])) :=
      FileTree.SameFilesBut.trans (fun loc _ => hsame loc) (FileTree.sameFilesBut_put _ _ _)
    have hnew : (d₁.tree.put (d.temporaryPlace p salt) (.file [])).file?
        (d.temporaryPlace p salt) ≠ d.tree.file? (d.temporaryPlace p salt) := by
      rw [FileTree.file?_put_self _ (FileTree.ne_nil_of_node?_none hnone), hnofile]
      exact Option.some_ne_none _
    have hpasses : PassesOnly (Harmless salts p text encoding d) d d₁ :=
      hdirectories.mono fun _ => Harmless.of_sameFiles
    refine (fillOrUnlink_passes salts p text encoding d hnew
      (hpasses.commit (.of_temporary hsalt hnofile hmade))).mono (fun _ _ h => h) ?_
    exact fun _ _ h => .inr h

/-- After a write that succeeds, the path leads to the text, and no other file differs. -/
theorem replaced_of_writeAtomically {d' : Disk} (hcwd : d'.cwd = d.cwd)
    (h : writeAtomically salts p text encoding d = .ok () d') : Replaced p text encoding d d' := by
  obtain ⟨-, bytes, hbytes, hread⟩ := read_of_writeAtomically h
  obtain ⟨target, htarget, hothers⟩ := (writeAtomically_files salts p text encoding d).ok h
  obtain ⟨hresolve, hcontent⟩ := file?_of_read hread
  have hplace : target = d.lexical p := by
    rw [← lexical_of_resolve htarget]
    exact lexical_congr hcwd p
  rw [lexical_congr hcwd] at hresolve hcontent
  exact ⟨hresolve, ⟨bytes, encodes_of_encodeText hbytes, hcontent⟩, hplace ▸ hothers⟩

/--
A write is atomic.  Whatever the tree, its path leads to one place at most, and every state that
the tree goes through has at that place the old file or all of the text.  If the write fails,
wherever it does, then all regular files are as before and no temporary file is left.  If it
succeeds, the path leads to the text, and no other regular file differs.
-/
theorem writeAtomically_atomic :
    (∀ t loc, ({ d with tree := t } : Disk).resolve p = .ok loc → loc = d.lexical p) ∧
      Ends (writeAtomically salts p text encoding) d
        (fun _ d' => PassesOnly (Harmless salts p text encoding d) d d' ∧
          Replaced p text encoding d d')
        fun _ d' => PassesOnly (Harmless salts p text encoding d) d d' ∧
          SameFiles d.tree d'.tree := by
  have hpasses := writeAtomically_passes salts p text encoding d
  constructor
  · intro t loc hresolve
    exact (lexical_of_resolve hresolve).symm
  · constructor
    · intro _ d' hend
      obtain ⟨before, t, hbefore, rfl⟩ := hpasses.ok hend
      have hcwd : (before.commit t).cwd = d.cwd := hbefore.cwd
      have hreplaced := replaced_of_writeAtomically salts p text encoding d hcwd hend
      obtain ⟨bytes, hbytes, hcontent⟩ := hreplaced.content
      exact ⟨hbefore.commit (.of_replaced hbytes hcontent hreplaced.others), hreplaced⟩
    · intro e d' hend
      have hsame := ((writeAtomically_files salts p text encoding d).error hend).2
      rcases hpasses.error hend with hall | ⟨before, t, hbefore, rfl⟩
      · exact ⟨hall, hsame⟩
      · exact ⟨hbefore.commit (.of_sameFiles hsame), hsame⟩

end

/-- A file that is written over, and one that stays, since its text has no bytes in ASCII. -/
theorem writeAtomically_atomic_overwrites :
    let d : Disk := ⟨["home"], ⟨[(["home"], .directory), (["home", "a.c"], .file [111])]⟩, []⟩
    let p : Path := ⟨.relative, ["gen", "..", "a.c"]⟩
    (∃ d', writeAtomically ["salt"] p "é\r\n" "latin-1" d = .ok () d' ∧
      PassesOnly (Harmless ["salt"] p "é\r\n" "latin-1" d) d d' ∧
      Replaced p "é\r\n" "latin-1" d d') ∧
    ∃ e d', writeAtomically ["salt"] p "é\r\n" "ascii" d = .error e d' ∧
      PassesOnly (Harmless ["salt"] p "é\r\n" "ascii" d) d d' ∧ SameFiles d.tree d'.tree := by
  intro d p
  have hends : (match writeAtomically ["salt"] p "é\r\n" "latin-1" d,
        writeAtomically ["salt"] p "é\r\n" "ascii" d with
      | .ok _ _, .error _ _ => true
      | _, _ => false) = true := by
    decide +kernel
  constructor
  · cases hend : writeAtomically ["salt"] p "é\r\n" "latin-1" d with
    | error e d' => simp [hend] at hends
    | ok u d' =>
      exact ⟨d', rfl, (writeAtomically_atomic ["salt"] p "é\r\n" "latin-1" d).2.ok hend⟩
  · cases hend : writeAtomically ["salt"] p "é\r\n" "ascii" d with
    | ok u d' => simp [hend] at hends
    | error e d' =>
      exact ⟨e, d', rfl, (writeAtomically_atomic ["salt"] p "é\r\n" "ascii" d).2.error hend⟩

end Disk

end StructScan
