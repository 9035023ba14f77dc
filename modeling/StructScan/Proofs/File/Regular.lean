import StructScan.Proofs.File.Written

/-!
# Regular files under a write

A write makes the missing directories, then a temporary file, and at last renames that file.
Directories are made only where nothing stands, and so is the temporary file, which does not
outlive a failure.  Hence a write that fails leaves all regular files as they were, and a write
that succeeds leaves all of them but its target.

Main results:

- Theorem `Ends.bind`: what is known of the ways to end of two computations holds of one after
  the other.
- Theorem `Disk.makeDirectories_keeps`: what making one directory keeps up, making several does.
- Theorem `Disk.makeDirectories_sameFiles`: making directories touches no regular file.
- Theorem `Disk.fill_files`: filling the temporary file touches no other file than it and, in the
  end, the target.
- Theorem `Disk.writeAtomically_stages`: a write has three stages, and the last one decides.
- Theorem `Disk.writeAtomically_files`: what a write leaves as it was.
-/

namespace StructScan

/-! ## Ways to end -/

/-- However a computation ends, what is claimed of that way to end is true. -/
structure Ends (m : EStateM ε σ α) (x : σ) (Q : α → σ → Prop) (E : ε → σ → Prop) : Prop where
  ok : ∀ {a y}, m x = .ok a y → Q a y
  error : ∀ {e y}, m x = .error e y → E e y

namespace Ends

variable {m : EStateM ε σ α} {x y : σ} {P Q : α → σ → Prop} {E F : ε → σ → Prop}

/-- A way to end is told by the result. -/
theorem intro (h : match m x with
      | .ok a y => Q a y
      | .error e y => E e y) : Ends m x Q E := by
  constructor
  · intro a y hend
    rwa [hend] at h
  · intro e y hend
    rwa [hend] at h

theorem result (h : Ends m x Q E) : match m x with
    | .ok a y => Q a y
    | .error e y => E e y := by
  cases hend : m x with
  | ok a y => exact h.ok hend
  | error e y => exact h.error hend

theorem of_ok {a : α} (h : m x = .ok a y) (hq : Q a y) : Ends m x Q E := by
  apply intro
  rw [h]
  exact hq

theorem of_error {e : ε} (h : m x = .error e y) (he : E e y) : Ends m x Q E := by
  apply intro
  rw [h]
  exact he

/-- One computation after another ends as the second one does, or stops early. -/
theorem bind {k : α → EStateM ε σ β} {R : β → σ → Prop} (hm : Ends m x Q E)
    (hk : ∀ a y, Q a y → Ends (k a) y R E) : Ends (m >>= k) x R E := by
  cases hfirst : m x with
  | ok a y =>
    have hboth : (m >>= k) x = k a y := by simp only [Bind.bind, EStateM.bind, hfirst]
    have hsecond := hk a y (hm.ok hfirst)
    constructor
    · intro b z hz
      exact hsecond.ok (hboth.symm.trans hz)
    · intro e z hz
      exact hsecond.error (hboth.symm.trans hz)
  | error e y =>
    have hboth : (m >>= k) x = .error e y := by simp only [Bind.bind, EStateM.bind, hfirst]
    exact of_error hboth (hm.error hfirst)

theorem mono (h : Ends m x P E) (hok : ∀ a y, P a y → Q a y) (herror : ∀ e y, E e y → F e y) :
    Ends m x Q F where
  ok hend := hok _ _ (h.ok hend)
  error hend := herror _ _ (h.error hend)

/-- The same, if stopping early is not told in the same words. -/
theorem chain {k : α → EStateM ε σ β} {R : β → σ → Prop} (hm : Ends m x Q E)
    (herror : ∀ e y, E e y → F e y) (hk : ∀ a y, Q a y → Ends (k a) y R F) :
    Ends (m >>= k) x R F :=
  (hm.mono (fun _ _ h => h) herror).bind hk

/-- What is true of both ways to end is true of the end. -/
theorem result_iff {D : EStateM.Result ε σ α → Prop} :
    Ends m x (fun a y => D (.ok a y)) (fun e y => D (.error e y)) ↔ D (m x) := by
  constructor
  · intro h
    cases hend : m x with
    | ok a y => exact h.ok hend
    | error e y => exact h.error hend
  · intro h
    apply intro
    cases hend : m x with
    | ok a y => rwa [hend] at h
    | error e y => rwa [hend] at h

end Ends

/-! ## Trees with the same regular files -/

namespace FileTree

/-- Trees with the same regular files, each with the same content. -/
def SameFiles (t t' : FileTree) : Prop :=
  ∀ loc, t'.file? loc = t.file? loc

/-- Trees with the same regular files, but for one place. -/
def SameFilesBut (place : Location) (t t' : FileTree) : Prop :=
  ∀ loc, loc ≠ place → t'.file? loc = t.file? loc

theorem SameFiles.refl (t : FileTree) : SameFiles t t :=
  fun _ => rfl

theorem SameFiles.trans {t t' t'' : FileTree} (h : SameFiles t t') (h' : SameFiles t' t'') :
    SameFiles t t'' :=
  fun loc => (h' loc).trans (h loc)

theorem SameFilesBut.trans {place : Location} {t t' t'' : FileTree} (h : SameFilesBut place t t')
    (h' : SameFilesBut place t' t'') : SameFilesBut place t t'' :=
  fun loc hloc => (h' loc hloc).trans (h loc hloc)

/-- The root is a directory. -/
theorem ne_nil_of_node?_none {t : FileTree} {loc : Location} (h : t.node? loc = none) :
    loc ≠ [] := by
  rintro rfl
  simp [node?] at h

/-- Where nothing stands there is no file. -/
theorem file?_of_node?_none {t : FileTree} {loc : Location} (h : t.node? loc = none) :
    t.file? loc = none := by
  simp only [file?, h]

/-- Putting something at a place changes no regular file elsewhere. -/
theorem sameFilesBut_put (t : FileTree) (place : Location) (node : Node) :
    SameFilesBut place t (t.put place node) := by
  intro loc h
  by_cases hroot : loc = []
  · simp only [file?, node?, hroot, if_true]
  · simp only [file?, node?_put _ _ _ _ hroot, if_neg h]

/-- A file that is put at a place is found there. -/
theorem file?_put_self (t : FileTree) {place : Location} (hroot : place ≠ []) (bytes : Bytes) :
    (t.put place (.file bytes)).file? place = some bytes := by
  simp only [file?, node?_put _ _ _ _ hroot, if_true]

/-- Removing what stands at a place changes no regular file elsewhere. -/
theorem sameFilesBut_remove (t : FileTree) (place : Location) :
    SameFilesBut place t (t.remove place) := by
  intro loc h
  by_cases hroot : loc = []
  · simp only [file?, node?, hroot, if_true]
  · simp only [file?, node?_remove _ _ _ hroot, if_neg h]

theorem file?_remove_self (t : FileTree) (place : Location) :
    (t.remove place).file? place = none := by
  by_cases hroot : place = []
  · simp only [file?, node?, hroot, if_true]
  · simp only [file?, node?_remove _ _ _ hroot, if_true]

/-- A directory that is put where nothing stands changes no regular file. -/
theorem sameFiles_put_directory {t : FileTree} {place : Location} (h : t.node? place = none) :
    SameFiles t (t.put place .directory) := by
  intro loc
  by_cases hloc : loc = place
  · subst hloc
    simp only [file?, node?_put _ _ _ _ (ne_nil_of_node?_none h), if_true, h]
  · exact sameFilesBut_put t place .directory loc hloc

/-- Taking away what stands at a place where no file was gives back all regular files. -/
theorem sameFiles_remove {t t' : FileTree} {place : Location} (hnone : t.file? place = none)
    (h : SameFilesBut place t t') : SameFiles t (t'.remove place) := by
  intro loc
  by_cases hloc : loc = place
  · rw [hloc, file?_remove_self, hnone]
  · rw [sameFilesBut_remove t' place loc hloc, h loc hloc]

end FileTree

/-- An error of the disk or the path, which no encoding is to blame for. -/
inductive WriteError.AtDisk : WriteError → Prop where
  | os (e : OsError) : AtDisk (.os e)
  | pathHoldsNul : AtDisk .pathHoldsNul
  | noTemporaryName : AtDisk .noTemporaryName
  | tooDeep : AtDisk .tooDeep

namespace Disk

open FileTree (SameFiles SameFilesBut)

/-- Disks with the same regular files, but for the one that a path leads to. -/
def SameFilesButAt (p : Path) (d d' : Disk) : Prop :=
  ∃ target, d'.resolve p = .ok target ∧ SameFilesBut target d.tree d'.tree

/-! ## Directories -/

/-- A directory is made where nothing stands. -/
theorem exists_of_makeDirectory {d d' : Disk} {p : Path} (h : d.makeDirectory p = .ok d') :
    ∃ place, d.tree.node? place = none ∧ d' = d.commit (d.tree.put place .directory) := by
  simp only [makeDirectory] at h
  cases hname : p.parts.getLast? with
  | none =>
    rw [hname] at h
    contradiction
  | some name =>
    simp only [hname] at h
    by_cases hlong : pathLimit ≤ p.toString.utf8ByteSize
    · rw [if_pos hlong] at h
      contradiction
    · rw [if_neg hlong] at h
      cases habove : d.resolve p.parent with
      | error e =>
        rw [habove] at h
        contradiction
      | ok above =>
        simp only [habove, bind, Except.bind] at h
        split at h
        · contradiction
        · contradiction
        · split at h
          · contradiction
          · split at h
            · contradiction
            · split at h
              · contradiction
              · rename_i hfree
                cases h
                exact ⟨above ++ [name], by simpa using hfree, rfl⟩

theorem sameFiles_of_makeIfMissing {d d' : Disk} {p : Path} (h : d.makeIfMissing p = .ok d') :
    SameFiles d.tree d'.tree := by
  unfold makeIfMissing at h
  split at h
  · rename_i hmade
    cases h
    obtain ⟨place, hnone, rfl⟩ := exists_of_makeDirectory hmade
    exact FileTree.sameFiles_put_directory hnone
  · contradiction
  · split at h
    · cases h
      exact .refl _
    · contradiction

/--
What making one directory keeps up, over any number of steps, making directories keeps up, even if
it fails half way.
-/
theorem makeDirectories_keeps {R : Disk → Disk → Prop} (hrefl : ∀ d, R d d)
    (htrans : ∀ d d' d'', R d d' → R d' d'' → R d d'')
    (hmake : ∀ d d' p, makeIfMissing d p = .ok d' → R d d') (n : Nat) (p : Path) (d : Disk) :
    Ends (makeDirectories n p) d (fun _ d' => R d d') fun e d' => e.AtDisk ∧ R d d' := by
  induction n generalizing p d with
  | zero => exact .of_error rfl ⟨.tooDeep, hrefl d⟩
  | succ n ih =>
    have habove := ih p.parent d
    apply Ends.intro
    simp only [makeDirectories]
    cases hmade : d.makeIfMissing p with
    | ok d' => exact hmake d d' p hmade
    | error e =>
      -- Only a missing directory sends the search up; any other error ends it at once.
      cases e with
      | notFound =>
        simp only
        cases hmore : makeDirectories n p.parent d with
        | error e d' => exact habove.error hmore
        | ok u d' =>
          simp only
          cases hlast : d'.makeIfMissing p with
          | ok d'' => exact htrans d d' d'' (habove.ok hmore) (hmake d' d'' p hlast)
          | error e => exact ⟨.os _, habove.ok hmore⟩
      | _ => exact ⟨.os _, hrefl d⟩

/-- Making directories touches no regular file, even if it fails half way. -/
theorem makeDirectories_sameFiles (n : Nat) (p : Path) (d : Disk) :
    Ends (makeDirectories n p) d (fun _ d' => SameFiles d.tree d'.tree)
      fun e d' => e.AtDisk ∧ SameFiles d.tree d'.tree :=
  makeDirectories_keeps (R := fun d d' => SameFiles d.tree d'.tree) (fun _ => .refl _)
    (fun _ _ _ h h' => h.trans h') (fun _ _ _ => sameFiles_of_makeIfMissing) n p d

/-! ## The temporary file -/

/-- The temporary file is made at one of its places where nothing stands, or not at all. -/
theorem createTemporary_ends (p : Path) (salts : List String) (d : Disk) :
    Ends (createTemporary p salts) d
      (fun place d' => (∃ salt ∈ salts, place = d.temporaryPlace p salt) ∧
        d.tree.node? place = none ∧ d' = d.commit (d.tree.put place (.file [])))
      fun e d' => e.AtDisk ∧ d' = d := by
  induction salts with
  | nil => exact .of_error rfl ⟨.noTemporaryName, rfl⟩
  | cons salt salts ih =>
    constructor
    · intro place d' hend
      simp only [createTemporary] at hend
      split at hend
      · contradiction
      · split at hend
        · obtain ⟨⟨salt', hsalt, hplace⟩, hmade⟩ := ih.ok hend
          exact ⟨⟨salt', List.mem_cons_of_mem _ hsalt, hplace⟩, hmade⟩
        · rename_i hfree
          cases hend
          exact ⟨⟨salt, List.mem_cons_self, rfl⟩, by simpa using hfree, rfl⟩
    · intro e d' hend
      simp only [createTemporary] at hend
      split at hend
      · cases hend
        exact ⟨.os _, rfl⟩
      · split at hend
        · exact ih.error hend
        · contradiction

/-! ## Renaming and writing -/

/-- A renaming that fails does nothing. -/
theorem rename_error {place : Location} {p : Path} {d d' : Disk} {e : WriteError}
    (h : rename place p d = .error e d') : e.AtDisk ∧ d' = d := by
  unfold rename at h
  simp only at h
  split at h
  · cases h
    exact ⟨.os _, rfl⟩
  · cases h
    exact ⟨.os _, rfl⟩
  · split at h
    · cases h
      exact ⟨.os _, rfl⟩
    · split at h
      · cases h
        exact ⟨.os _, rfl⟩
      · contradiction
      · cases h
        exact ⟨.os _, rfl⟩

/-- A path leads where its file was renamed to. -/
theorem resolve_of_rename {place : Location} {p : Path} {d d' : Disk} {bytes : Bytes}
    (hplace : d.tree.node? place = some (.file bytes)) (h : rename place p d = .ok () d') :
    ∃ target, d'.resolve p = .ok target ∧
      d'.tree = (d.tree.remove place).put target (.file bytes) := by
  obtain ⟨target, node, hresolve, htarget, hnode, rfl⟩ := exists_of_rename h
  rw [hplace] at hnode
  cases hnode
  have hkept (loc : Location) (hloc : d.tree.node? loc = some .directory) :
      ((d.tree.remove place).put target (.file bytes)).node? loc = some .directory :=
    node?_directory_of_moved hplace htarget hloc
  refine ⟨target, resolve_of_directories ?_ hkept hresolve, rfl⟩
  rfl

/--
Filling the temporary file and renaming it touches only its place and the target's.  As long as
the renaming has not happened, the target is as it was.
-/
theorem fill_files {place : Location} (hroot : place ≠ []) (p : Path) (text encoding : String)
    (d : Disk) :
    Ends (fill place p text encoding) d
      (fun _ d' => ∃ target, d'.resolve p = .ok target ∧
        SameFilesBut target (d.tree.remove place) d'.tree)
      fun e d' => (e.AtDisk ∨ encodeText text encoding = .error e) ∧
        SameFilesBut place d.tree d'.tree := by
  apply Ends.intro
  simp only [fill]
  cases encodeText text encoding with
  | error e => exact ⟨.inr rfl, fun _ _ => rfl⟩
  | ok bytes =>
    have hfilled : (d.tree.put place (.file bytes)).node? place = some (.file bytes) := by
      rw [FileTree.node?_put _ _ _ _ hroot, if_pos rfl]
    simp only
    cases hrename : rename place p (d.commit (d.tree.put place (.file bytes))) with
    | error e d' =>
      obtain ⟨hat, rfl⟩ := rename_error hrename
      exact ⟨.inl hat, FileTree.sameFilesBut_put d.tree place _⟩
    | ok u d' =>
      obtain ⟨target, hresolve, htree⟩ := resolve_of_rename hfilled hrename
      refine ⟨target, hresolve, fun loc hloc => ?_⟩
      rw [htree, FileTree.sameFilesBut_put _ target _ loc hloc]
      by_cases hplace : loc = place
      · rw [hplace, FileTree.file?_remove_self, FileTree.file?_remove_self]
      · rw [FileTree.sameFilesBut_remove _ place loc hplace,
          FileTree.sameFilesBut_remove _ place loc hplace]
        exact FileTree.sameFilesBut_put d.tree place _ loc hplace

/-- The last stage ends as the filling does; after a failure the temporary file is removed. -/
theorem fillOrUnlink_ends {place : Location} {p : Path} {text encoding : String} {d : Disk}
    {Q : Unit → Disk → Prop} {E : WriteError → Disk → Prop}
    (h : Ends (fill place p text encoding) d Q fun e d' => E e (d'.unlink place)) :
    Ends (fillOrUnlink place p text encoding) d Q E := by
  apply Ends.intro
  unfold fillOrUnlink
  cases hend : fill place p text encoding d with
  | ok u d' => exact h.ok hend
  | error e d' => exact h.error hend

/--
The temporary file stands where no file was.  So once it is renamed, all files but the target are
as they were, and if it cannot be, all files are as they were once it is removed.
-/
theorem fillOrUnlink_files {place : Location} {d : Disk} (hnone : d.tree.node? place = none)
    (p : Path) (text encoding : String) :
    Ends (fillOrUnlink place p text encoding) (d.commit (d.tree.put place (.file [])))
      (fun _ d' => SameFilesButAt p d d')
      fun e d' => (e.AtDisk ∨ encodeText text encoding = .error e) ∧
        SameFiles d.tree d'.tree := by
  have hnofile := FileTree.file?_of_node?_none hnone
  have hmade : SameFilesBut place d.tree (d.tree.put place (.file [])) :=
    FileTree.sameFilesBut_put _ _ _
  have hfill := fill_files (FileTree.ne_nil_of_node?_none hnone) p text encoding
    (d.commit (d.tree.put place (.file [])))
  refine fillOrUnlink_ends (hfill.mono ?_ ?_)
  · rintro _ d' ⟨target, hresolve, hbut⟩
    refine ⟨target, hresolve, fun loc hloc => ?_⟩
    calc
      d'.tree.file? loc = ((d.tree.put place (.file [])).remove place).file? loc :=
        hbut loc hloc
      _ = d.tree.file? loc := FileTree.sameFiles_remove hnofile hmade loc
  · rintro e d' ⟨hwhy, hbut⟩
    exact ⟨hwhy, FileTree.sameFiles_remove hnofile (hmade.trans hbut)⟩

/-! ## Whole writes -/

section

variable (salts : List String) (p : Path) (text encoding : String) (d : Disk)

/--
The stages of a write.  What making directories keeps up is all that is known if the write fails
before there is a temporary file.  From then on the last stage decides.
-/
theorem writeAtomically_stages {D : Disk → Prop} {Q : Unit → Disk → Prop}
    {E : WriteError → Disk → Prop} (hfirst : D d)
    (hdirectories : Ends (makeDirectories depthLimit p.parent) d (fun _ d' => D d')
      fun e d' => e.AtDisk ∧ D d')
    (hearly : ∀ e d', e.AtDisk → D d' → E e d')
    (hlast : ∀ d' salt, D d' → salt ∈ salts → d'.tree.node? (d'.temporaryPlace p salt) = none →
      Ends (fillOrUnlink (d'.temporaryPlace p salt) p text encoding)
        (d'.commit (d'.tree.put (d'.temporaryPlace p salt) (.file []))) Q E) :
    Ends (writeAtomically salts p text encoding) d Q E := by
  unfold writeAtomically
  dsimp only
  split
  · exact .of_error rfl (hearly _ d .pathHoldsNul hfirst)
  · refine hdirectories.chain (fun e d' h => hearly e d' h.1 h.2) ?_
    intro _ d' hkept
    split
    · exact .of_error rfl (hearly _ d' .pathHoldsNul hkept)
    · refine (createTemporary_ends p salts d').chain ?_ ?_
      · rintro e _ ⟨hat, rfl⟩
        exact hearly e _ hat hkept
      · rintro _ _ ⟨⟨salt, hsalt, rfl⟩, hnone, rfl⟩
        exact hlast d' salt hkept hsalt hnone

/--
A write that succeeds leaves all regular files but the one that its path leads to, and a write
that fails leaves all of them.  It fails on the disk, or because its text has no bytes.
-/
theorem writeAtomically_files :
    Ends (writeAtomically salts p text encoding) d
      (fun _ d' => SameFilesButAt p d d')
      fun e d' => (e.AtDisk ∨ encodeText text encoding = .error e) ∧
        SameFiles d.tree d'.tree := by
  apply writeAtomically_stages salts p text encoding d (.refl _) (makeDirectories_sameFiles _ _ d)
  · intro e d' hat hsame
    exact ⟨.inl hat, hsame⟩
  · intro d₁ salt hdirectories _ hnone
    refine (fillOrUnlink_files hnone p text encoding).mono ?_ ?_
    · rintro _ d' ⟨target, hresolve, hbut⟩
      exact ⟨target, hresolve, fun loc hloc => (hbut loc hloc).trans (hdirectories loc)⟩
    · rintro e d' ⟨hwhy, hsame⟩
      exact ⟨hwhy, hdirectories.trans hsame⟩

end

end Disk

end StructScan
