import StructScan.File.Open
import StructScan.File.Write
import StructScan.Proofs.Encoding.RoundTrip
import StructScan.Proofs.Scan.Segments

/-!
# Texts written and scanned again

A text that was written to a file is found there again under the same path: the renaming that
puts it in place leaves every directory on the way as it was.  Read back in the encoding in
which it was written, the file is the text, newlines and marks included, so a scan of the file
is a scan of the text in memory.

Main results:

- Theorem `Disk.resolve_of_directories`: a path leads where it led before as long as no
  directory is lost.
- Theorem `Disk.read_of_rename`: a file that was renamed is found under its new path.
- Theorem `Disk.read_of_writeAtomically`: a text that was written is found as its bytes.
- Theorem `Scan.rest_of_written`: a scan of the file gives what a scan of the text gives.
-/

namespace StructScan

/-- A computation after another succeeds only if both do. -/
theorem exists_of_bind {m : EStateM ε σ α} {k : α → EStateM ε σ β} {x y : σ} {b : β}
    (h : (m >>= k) x = .ok b y) : ∃ a z, m x = .ok a z ∧ k a z = .ok b y := by
  simp only [bind, EStateM.bind] at h
  cases hm : m x with
  | error e z =>
    rw [hm] at h
    contradiction
  | ok a z =>
    rw [hm] at h
    exact ⟨a, z, rfl, h⟩

namespace Disk

/-! ## Paths in a changed tree -/

/-- Going down leads to the same place in a tree that has all the directories. -/
theorem walk_of_directories {t t' : FileTree}
    (hkept : ∀ loc, t.node? loc = some .directory → t'.node? loc = some .directory)
    {loc target : Location} {parts : List String} (h : walk t loc parts = .ok target) :
    walk t' loc parts = .ok target := by
  -- Every step of the walk passes a directory, which the other tree has too.
  fun_induction walk t loc parts with
  | case1 loc => exact h
  | case2 => contradiction
  | case3 => contradiction
  | case4 loc parts hnode ih =>
    rw [walk, hkept loc hnode]
    simp only [if_true]
    exact ih h
  | case5 => contradiction
  | case6 loc part parts hnode hup hlong ih =>
    rw [walk, hkept loc hnode]
    simp only [hup, hlong, if_false]
    exact ih h

/-- A path leads where it led before, if no directory is lost. -/
theorem resolve_of_directories {d d' : Disk} (hcwd : d'.cwd = d.cwd)
    (hkept : ∀ loc, d.tree.node? loc = some .directory → d'.tree.node? loc = some .directory)
    {p : Path} {target : Location} (h : d.resolve p = .ok target) : d'.resolve p = .ok target := by
  unfold resolve at h ⊢
  split at h
  · contradiction
  · rename_i hlong
    rw [if_neg hlong, hcwd]
    split at h
    · exact walk_of_directories hkept h
    · exact walk_of_directories hkept h

/-- The file at the end of a path is read. -/
theorem read_of_resolve {d : Disk} {p : Path} {target : Location} {bytes : Bytes}
    (hresolve : d.resolve p = .ok target) (hnode : d.tree.node? target = some (.file bytes)) :
    d.read p = .ok bytes := by
  simp only [read, find, hresolve, hnode, bind, Except.bind]
  rfl

/-! ## Renaming -/

/-- What a renaming that succeeds finds and does. -/
theorem exists_of_rename {place : Location} {p : Path} {d d' : Disk}
    (h : rename place p d = .ok () d') :
    ∃ target node, d.resolve p = .ok target ∧ d.tree.node? target ≠ some .directory ∧
      d.tree.node? place = some node ∧ d' = d.commit ((d.tree.remove place).put target node) := by
  unfold rename at h
  simp only at h
  split at h
  · contradiction
  · contradiction
  · split at h
    · contradiction
    · rename_i target htarget
      split at h
      · contradiction
      · rename_i node hnode hdirectory
        cases h
        exact ⟨target, _, htarget, hdirectory, hnode, rfl⟩
      · contradiction

/-- Neither taking away a file nor putting one where no directory is loses a directory. -/
theorem node?_directory_of_moved {t : FileTree} {place target : Location} {bytes : Bytes}
    {node : Node} (hplace : t.node? place = some (.file bytes))
    (htarget : t.node? target ≠ some .directory) {loc : Location}
    (h : t.node? loc = some .directory) :
    ((t.remove place).put target node).node? loc = some .directory := by
  by_cases hroot : loc = []
  · simp [FileTree.node?, hroot]
  · have hne : loc ≠ target := by
      rintro rfl
      exact htarget h
    have hne' : loc ≠ place := by
      rintro rfl
      simp [hplace] at h
    rw [FileTree.node?_put _ _ _ _ hroot, if_neg hne, FileTree.node?_remove _ _ _ hroot,
      if_neg hne', h]

/-- A file that was renamed is found under its new path. -/
theorem read_of_rename {place : Location} {p : Path} {d d' : Disk} {bytes : Bytes}
    (hplace : d.tree.node? place = some (.file bytes)) (h : rename place p d = .ok () d') :
    d'.read p = .ok bytes := by
  obtain ⟨target, node, hresolve, htarget, hnode, rfl⟩ := exists_of_rename h
  rw [hplace] at hnode
  cases hnode
  have hroot : target ≠ [] := by
    rintro rfl
    exact htarget rfl
  have hkept (loc : Location) (hloc : d.tree.node? loc = some .directory) :
      ((d.tree.remove place).put target (.file bytes)).node? loc = some .directory :=
    node?_directory_of_moved hplace htarget hloc
  refine read_of_resolve (resolve_of_directories ?_ hkept hresolve) ?_
  · rfl
  · exact (FileTree.node?_put _ _ _ _ hroot).trans (if_pos rfl)

/-! ## Writing -/

/-- The temporary file is not the root. -/
theorem ne_nil_of_createTemporary {p : Path} {salts : List String} {d d' : Disk}
    {place : Location} (h : createTemporary p salts d = .ok place d') : place ≠ [] := by
  induction salts with
  | nil => contradiction
  | cons salt salts ih =>
    simp only [createTemporary] at h
    split at h
    · contradiction
    · split at h
      · exact ih h
      · cases h
        simp [temporaryPlace]

/-- A file that was filled and put in place is found under its path, with the bytes of the text. -/
theorem read_of_fill {place : Location} {p : Path} {text encoding : String} {d d' : Disk}
    (hplace : place ≠ []) (h : fill place p text encoding d = .ok () d') :
    ∃ bytes, encodeText text encoding = .ok bytes ∧ d'.read p = .ok bytes := by
  unfold fill at h
  split at h
  · contradiction
  · rename_i bytes hbytes
    refine ⟨bytes, hbytes, read_of_rename ?_ h⟩
    simp [commit, FileTree.node?_put _ _ _ _ hplace]

/-- The last stage succeeds exactly if filling does; nothing is taken back then. -/
theorem fillOrUnlink_eq_ok_iff {place : Location} {p : Path} {text encoding : String}
    {d d' : Disk} : fillOrUnlink place p text encoding d = .ok () d' ↔
      fill place p text encoding d = .ok () d' := by
  rw [fillOrUnlink]
  cases fill place p text encoding d with
  | ok u d₁ => exact Iff.rfl
  | error e d₁ => simp

/-- A text that was written is found under its path, as its bytes. -/
theorem read_of_writeAtomically {salts : List String} {p : Path} {text encoding : String}
    {d d' : Disk} (h : writeAtomically salts p text encoding d = .ok () d') :
    p.hasNul = false ∧ ∃ bytes, encodeText text encoding = .ok bytes ∧ d'.read p = .ok bytes := by
  unfold writeAtomically at h
  dsimp only at h
  split at h
  · contradiction
  · obtain ⟨-, d₁, -, h⟩ := exists_of_bind h
    split at h
    · contradiction
    · rename_i hnul
      obtain ⟨place, d₂, hplace, h⟩ := exists_of_bind h
      have hfilled := fillOrUnlink_eq_ok_iff.mp h
      exact ⟨by simpa using hnul, read_of_fill (ne_nil_of_createTemporary hplace) hfilled⟩

end Disk

/-! ## Scanning what was written -/

/-- The bytes of a text are a source of the lines of the text. -/
theorem Source.ofBytes_of_encode? {e : Encoding} {text : String} {bytes : Bytes}
    (h : e.encode? text.toList = some bytes) : Source.ofBytes e bytes = Source.ofText text := by
  rw [ofBytes, Encoding.decodeLenient_of_encode? h]
  rfl

/-- What a text needs to be encoded: a known encoding that has all its characters. -/
theorem Disk.exists_of_encodeText {text encoding : String} {bytes : Bytes}
    (h : encodeText text encoding = .ok bytes) :
    Encoding.isName encoding = true ∧
      ∃ e, Encoding.ofName encoding = .ok e ∧ e.encode? text.toList = some bytes := by
  unfold encodeText at h
  split at h
  · contradiction
  · rename_i hname
    split at h
    · contradiction
    · rename_i e he
      split at h
      · contradiction
      · rename_i bytes' hbytes
        cases h
        exact ⟨by simpa using hname, e, he, hbytes⟩

/-- A file that was written as a text is opened as the text. -/
theorem openScan_of_writeAtomically {salts : List String} {p : Path} {text encoding : String}
    {d d' : Disk} (h : Disk.writeAtomically salts p text encoding d = .ok () d')
    (report : Option Report) :
    openScan d' p encoding report =
      .ok ⟨Scan.ofText text (report.map fun r => r.about p), none⟩ := by
  obtain ⟨hnul, bytes, hbytes, hread⟩ := Disk.read_of_writeAtomically h
  obtain ⟨hname, e, he, hencode⟩ := Disk.exists_of_encodeText hbytes
  simp only [openScan, hname, hnul, hread, he, Source.ofBytes_of_encode? hencode, Bool.not_true,
    Bool.false_eq_true, if_false]
  rfl

/--
A text that was written to a file, under any path and in any encoding that has its characters,
is scanned from the file as it is scanned in memory: the file is opened without a remark, the
same layouts are found, and the same warnings are added to a report.  No error is added.
-/
theorem Scan.rest_of_written {salts : List String} {p : Path} {text encoding : String}
    {d d' : Disk} (h : Disk.writeAtomically salts p text encoding d = .ok () d')
    (report : Option Report) :
    ∃ opened layouts warnings,
      openScan d' p encoding report = .ok opened ∧ opened.notice = none ∧
      opened.scan.rest.1 = .ok layouts ∧ (ofText text report).rest.1 = .ok layouts ∧
      (opened.scan.rest.2.report = report.map fun r =>
        { r with file := some (r.file.getD p), warnings := r.warnings ++ warnings }) ∧
      ((ofText text report).rest.2.report = report.map fun r =>
        { r with warnings := r.warnings ++ warnings }) := by
  obtain ⟨segments, haccounts, hlayouts, hreport⟩ := rest_ofText text report
  obtain ⟨hlayouts', hreport'⟩ := rest_of_accounts haccounts (report.map fun r => r.about p)
  refine ⟨_, layoutsOf segments, (skipsOf segments).map Skip.diagnostic,
    openScan_of_writeAtomically h report, rfl, hlayouts', hlayouts, ?_, hreport⟩
  rw [hreport']
  cases report with
  | none => rfl
  | some r => rfl

/-- A text that itself starts with a mark, with all three newlines and a pair of surrogates. -/
theorem Scan.rest_of_written_mark :
    let disk : Disk := ⟨["home"], ⟨[(["home"], .directory)]⟩, []⟩
    let path : Path := ⟨.relative, ["include", "a.h"]⟩
    let text := "\uFEFFstruct 𐍈 \x7b\r\n int x\u2028; \x7d;\r struct\n"
    ∃ d', Disk.writeAtomically ["salt"] path text "utf-16" disk = .ok () d' ∧
      ∃ opened layouts warnings,
        openScan d' path "utf-16" (some {}) = .ok opened ∧ opened.notice = none ∧
        opened.scan.rest.1 = .ok layouts ∧ (ofText text (some {})).rest.1 = .ok layouts ∧
        (opened.scan.rest.2.report = (some ({} : Report)).map fun r =>
          { r with file := some (r.file.getD path), warnings := r.warnings ++ warnings }) ∧
        ((ofText text (some {})).rest.2.report = (some ({} : Report)).map fun r =>
          { r with warnings := r.warnings ++ warnings }) := by
  intro disk path text
  have hwritten : (match Disk.writeAtomically ["salt"] path text "utf-16" disk with
      | .ok _ _ => true
      | .error _ _ => false) = true := by
    decide +kernel
  cases hwrite : Disk.writeAtomically ["salt"] path text "utf-16" disk with
  | error e d' => simp [hwrite] at hwritten
  | ok u d' => exact ⟨d', rfl, rest_of_written hwrite (some {})⟩

end StructScan
