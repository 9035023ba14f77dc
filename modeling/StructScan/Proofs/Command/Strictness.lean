import StructScan.Proofs.Command.Endings

/-!
# Exit statuses in JSON mode

With settings that can be loaded and an encoding for texts, nothing but its verdict can make a
command fail in JSON mode.  A strict command fails exactly if one of its files cannot be read or is
not clean; a command that is not strict succeeds.

Main results:

- Theorem `Command.any_failed_iff`: which listings tell of a file that is not clean.
- Theorem `Command.list_exits`, theorem `Command.dump_exits`: the exit status of each command.
- Theorem `Command.Program.run_strict_exits`: the statuses of programs, which agree.
-/

namespace StructScan.Command

/-- A program ends with an exit status, and no error escapes. -/
def Outcome.Exits (o : Outcome) (status : Nat) : Prop :=
  o.escaped = none ∧ o.status = status

/-- A program exits with one if something is wrong, and with zero otherwise. -/
structure Outcome.Judges (o : Outcome) (wrong : Prop) : Prop where
  fails : wrong → o.Exits 1
  succeeds : ¬wrong → o.Exits 0

/-- A command that stops at its verdict gives it. -/
theorem Outcome.judges_ite {b : Bool} {wrong : Prop} (h : b = true ↔ wrong) (y z : Session) :
    (ofResult (if b then .error (.exit 1) y else .ok () z)).Judges wrong := by
  constructor
  · intro hwrong
    rw [if_pos (h.mpr hwrong)]
    exact ⟨rfl, rfl⟩
  · intro hright
    rw [if_neg fun hb => hright (h.mp hb)]
    exact ⟨rfl, rfl⟩

/-- Some report does not pass exactly if some file is not clean. -/
theorem any_failed_iff {d : Disk} {encoding : String} {e : Encoding} {paths : List Path}
    {listings : List Listing} (hencoding : Encoding.ofName encoding = .ok e)
    (h : List.Forall₂ (Lists d encoding) paths listings) :
    (listings.any fun l => !l.report.passed) = true ↔ ∃ p ∈ paths, ¬CleanFile d e p := by
  induction h with
  | nil => simp
  | @cons p l paths listings hl _ ih =>
    obtain ⟨-, hscanned⟩ := hl
    have hpassed : (!l.report.passed) = true ↔ ¬CleanFile d e p := by
      rw [← hscanned.passed_iff hencoding, Bool.not_eq_true', Bool.not_eq_true]
    rw [List.any_cons, Bool.or_eq_true, hpassed, ih]
    simp only [List.mem_cons, exists_eq_or_imp]

section

variable {x y : Session} {settings : Settings} {e : Encoding}

/-- Every file without a NUL character in its path can be scanned. -/
theorem openScan_ne_error {json : Bool} {config : Option String} {p : Path}
    (hsettings : getSettings json config x = .ok settings y)
    (hencoding : Encoding.ofName settings.encoding = .ok e) (hnul : p.hasNul = false)
    (err : OpenError) : openScan x.disk p settings.encoding (some {}) ≠ .error err := by
  obtain ⟨-, hload⟩ := (getSettings_ends json config x).ok hsettings
  obtain ⟨o, hopen⟩ := exists_openScan hnul (Settings.isKnown_of_load hload).isName hencoding
    x.disk (some {})
  rw [hopen]
  simp

/-- The structs command fails if it is strict and some file is not clean, and only then. -/
theorem list_exits {r : ListRequest} (hjson : r.json = true)
    (hsettings : getSettings r.json r.config x = .ok settings y)
    (hencoding : Encoding.ofName settings.encoding = .ok e)
    (hnul : ∀ file ∈ r.files, (Path.ofString file).hasNul = false) :
    (Outcome.ofResult (list r x)).Judges
      (r.strict = true ∧ ∃ file ∈ r.files, ¬CleanFile x.disk e (Path.ofString file)) := by
  have hending := list_ending r x
  generalize list r x = result at hending ⊢
  cases hending with
  | nul hfile hnul' =>
    rw [hnul _ hfile] at hnul'
    contradiction
  | unsettled hsettings' =>
    rw [hsettings] at hsettings'
    contradiction
  | unopened hnul' hsettings' hfile hopen =>
    rw [hsettings] at hsettings'
    cases hsettings'
    exact absurd hopen (openScan_ne_error hsettings hencoding (hnul' _ hfile) _)
  | concluded hsettings' hlistings =>
    rw [hsettings] at hsettings'
    cases hsettings'
    rw [conclude_json hjson]
    apply Outcome.judges_ite
    rw [Bool.and_eq_true, any_failed_iff hencoding hlistings]
    simp only [List.mem_map, exists_exists_and_eq_and]

/-- The dump command fails if it is strict and its source is not clean, and only then. -/
theorem dump_exits {r : DumpRequest} {source : String} (hsource : r.source = some source)
    (houtput : r.output = none) (hjson : r.json = true)
    (hsettings : getSettings r.json r.config x = .ok settings y)
    (hencoding : Encoding.ofName settings.encoding = .ok e)
    (hnul : (Path.ofString source).hasNul = false) :
    (Outcome.ofResult (dump r x)).Judges
      (r.strict = true ∧ ¬CleanFile x.disk e (Path.ofString source)) := by
  have hending := dump_ending r x
  generalize dump r x = result at hending ⊢
  cases hending with
  | noSource hsource' hend =>
    rw [hsource] at hsource'
    contradiction
  | conflict hmode hend => simp [houtput] at hmode
  | unsettled hsettings' =>
    rw [hsettings] at hsettings'
    contradiction
  | unopened hstarts hopen =>
    obtain ⟨rfl, rfl⟩ := hstarts.unique hsource hsettings
    exact absurd hopen (openScan_ne_error hsettings hencoding hnul _)
  | strict hstarts hscanned hstrict hpassed hend =>
    obtain ⟨rfl, rfl⟩ := hstarts.unique hsource hsettings
    obtain ⟨rfl, -⟩ := hend.answered hjson
    constructor
    · intro _
      exact ⟨rfl, rfl⟩
    · intro hright
      rw [← hscanned.passed_iff hencoding, hpassed] at hright
      exact absurd ⟨hstrict, Bool.false_ne_true⟩ hright
  | @delivered _ err _ layouts report hstarts hscanned hstrict =>
    obtain ⟨rfl, rfl⟩ := hstarts.unique hsource hsettings
    rw [deliver_json hjson]
    constructor
    · rintro ⟨hstrict', hdirty⟩
      exact absurd ((hscanned.passed_iff hencoding).mp (hstrict hstrict')) hdirty
    · intro _
      exact ⟨rfl, rfl⟩

end

/--
With settings that can be loaded, an encoding for texts and paths without NUL characters, a strict
run of the structs command in JSON mode fails exactly if some file cannot be read or has tokens
that are not clean.  A strict run of the dump command on one of the files ends with the same status
as one of the structs command on that file.  Neither fails if it is not strict.
-/
theorem Program.run_strict_exits {x y : Session} {config : Option String} {settings : Settings}
    {e : Encoding} {files : List String} (hsettings : getSettings true config x = .ok settings y)
    (hencoding : Encoding.ofName settings.encoding = .ok e)
    (hnul : ∀ file ∈ files, (Path.ofString file).hasNul = false) (p : Program)
    (line : List String) :
    (∀ quiet,
      p.read line = some (.list { files, strict := true, quiet, json := true, config }) →
      ((∃ file ∈ files, ¬CleanFile x.disk e (Path.ofString file)) → (p.run line x).Exits 1) ∧
      ((∀ file ∈ files, CleanFile x.disk e (Path.ofString file)) → (p.run line x).Exits 0)) ∧
    (∀ file ∈ files, ∀ includeStdio, p.read line = some (.dump
        { source := some file, includeStdio, strict := true, json := true, config }) →
      ∀ p' : Program, ∀ line' quiet, p'.read line' = some (.list
        { files := [file], strict := true, quiet, json := true, config }) →
      ∃ status, (p.run line x).Exits status ∧ (p'.run line' x).Exits status) ∧
    (∀ quiet,
      p.read line = some (.list { files, strict := false, quiet, json := true, config }) →
      (p.run line x).Exits 0) ∧
    (∀ file ∈ files, ∀ includeStdio, p.read line = some (.dump
        { source := some file, includeStdio, strict := false, json := true, config }) →
      (p.run line x).Exits 0) := by
  have hlist (files' : List String) (hfiles : ∀ file ∈ files', file ∈ files)
      (strict quiet : Bool) :=
    @list_exits x y settings e { files := files', strict, quiet, json := true, config } rfl
      hsettings hencoding fun file hfile => hnul file (hfiles file hfile)
  have hdump (file : String) (hfile : file ∈ files) (strict includeStdio : Bool) :=
    @dump_exits x y settings e
      { source := some file, includeStdio, strict, json := true, config } file rfl rfl rfl
      hsettings hencoding (hnul file hfile)
  refine ⟨?_, ?_, ?_, ?_⟩
  · intro quiet hread
    have hjudges := hlist files (fun _ h => h) true quiet
    rw [run_of_read hread]
    constructor
    · intro hdirty
      exact hjudges.fails ⟨rfl, hdirty⟩
    · intro hclean
      refine hjudges.succeeds ?_
      rintro ⟨-, file, hfile, hdirty⟩
      exact hdirty (hclean file hfile)
  · intro file hfile includeStdio hread p' line' quiet hread'
    have hone := hlist [file] (by simpa using hfile) true quiet
    have hdumped := hdump file hfile true includeStdio
    simp only [List.mem_singleton, exists_eq_left] at hone
    rw [run_of_read hread, run_of_read hread']
    by_cases hdirty : ¬CleanFile x.disk e (Path.ofString file)
    · exact ⟨1, hdumped.fails ⟨rfl, hdirty⟩, hone.fails ⟨trivial, hdirty⟩⟩
    · exact ⟨0, hdumped.succeeds fun h => hdirty h.2, hone.succeeds fun h => hdirty h.2⟩
  · intro quiet hread
    rw [run_of_read hread]
    exact (hlist files (fun _ h => h) false quiet).succeeds (by simp)
  · intro file hfile includeStdio hread
    rw [run_of_read hread]
    exact (hdump file hfile false includeStdio).succeeds (by simp)

/-- One file holds a complete structure, and the other one is missing. -/
theorem Program.run_strict_exits_missing :
    let config := "[parser]\nencoding = 'latin-1'\n"
    let text := "struct point \x7b long x; \x7d;\n"
    let disk : Disk :=
      ⟨["home"],
        ⟨[(["home"], .directory),
          (["home", Settings.fileName], .file config.toUTF8.data.toList),
          (["home", "a.c"], .file text.toUTF8.data.toList)]⟩, []⟩
    let x : Session := { disk, salts := [] }
    ∃ settings y,
      getSettings true none x = .ok settings y ∧
      Encoding.ofName settings.encoding = .ok (.single .latin1) ∧
      (∀ file ∈ ["a.c", "b.c"], (Path.ofString file).hasNul = false) ∧
      (full.run ["structs", "--json", "--strict", "a.c", "b.c"] x).Exits 1 ∧
      (full.run ["structs", "--json", "a.c", "b.c"] x).Exits 0 ∧
      (full.run ["dump", "b.c", "--json"] x).Exits 0 := by
  intro config text disk x
  have hchosen : (match getSettings true none x with
      | .ok settings _ => settings.encoding == "latin-1"
      | .error _ _ => false) = true := by
    decide +kernel
  have hnul : ∀ file ∈ ["a.c", "b.c"], (Path.ofString file).hasNul = false := by decide +kernel
  have hmissing : disk.read (Path.ofString "b.c") = .error .notFound := by decide +kernel
  cases hsettings : getSettings true none x with
  | error stop y => simp [hsettings] at hchosen
  | ok settings y =>
    simp only [hsettings, beq_iff_eq] at hchosen
    have hencoding : Encoding.ofName settings.encoding = .ok (.single .latin1) := by
      rw [hchosen]
      exact Encoding.ofName_name (.single .latin1)
    have hexits := run_strict_exits hsettings hencoding hnul full
    have hdirty : ¬CleanFile x.disk (.single .latin1) (Path.ofString "b.c") := by
      rintro ⟨bytes, layouts, hread, -⟩
      rw [hmissing] at hread
      contradiction
    refine ⟨settings, y, rfl, hencoding, hnul, ?_, ?_, ?_⟩
    · exact ((hexits _).1 false (by decide +kernel)).1 ⟨"b.c", by simp, hdirty⟩
    · exact (hexits _).2.2.1 false (by decide +kernel)
    · exact (hexits _).2.2.2 "b.c" (by simp) false (by decide +kernel)

end StructScan.Command
