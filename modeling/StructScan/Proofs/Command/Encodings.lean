import StructScan.Proofs.Command.Endings

/-!
# Encodings that cannot be used

Settings are refused if no codec goes by the name of their encoding.  A codec need not be one for
texts, though, and a file cannot be opened with any other.  So settings that were loaded may hold
an encoding that makes every scan of a readable file fail, and then an error escapes that no
command handles.  This is the only way for an encoding to stop a command.

Main results:

- Theorem `openScan_eq_error_iff`: which files cannot be scanned in a known encoding.
- Theorem `Command.Invocation.escapes_iff`: when an error about an encoding escapes.
- Theorem `Command.loaded_encoding_usable_iff`: which loaded settings can be used.
-/

namespace StructScan

/-- In a known encoding, a file can be scanned unless it is readable and its codec is for bytes. -/
theorem openScan_eq_error_iff {d : Disk} {p : Path} {encoding : String} {report : Option Report}
    {e : OpenError} (hknown : Encoding.IsKnown encoding) (hnul : p.hasNul = false) :
    openScan d p encoding report = .error e ↔
      (∃ bytes, d.read p = .ok bytes) ∧ Encoding.lookup encoding = .ok .binary ∧
        e = .encoding (.notText encoding) := by
  simp only [openScan, hknown.isName, hnul, Bool.not_true, Bool.false_eq_true, if_false]
  cases d.read p with
  | error errno => simp
  | ok bytes =>
    rcases hknown.ofName_cases with ⟨e', hcodec, hname⟩ | ⟨hcodec, hname⟩
    · simp [hcodec, hname]
    · simp [hcodec, hname, eq_comm]

/-- A path with a NUL character is refused first, whatever the encoding. -/
theorem hasNul_of_openScan_encoding {d : Disk} {p : Path} {encoding : String}
    {report : Option Report} {e : Encoding.LookupError}
    (h : openScan d p encoding report = .error (.encoding e)) : p.hasNul = false := by
  unfold openScan at h
  dsimp only at h
  split at h
  · cases h
  · split at h
    · cases h
    · rename_i hnul
      simpa using hnul

namespace Command

/-! ## Sources that cannot be opened -/

/-- A program scans a source with some settings, unless it stops at one before. -/
def Invocation.Scans (x : Session) (settings : Settings) (source : String) : Invocation → Prop
  | .dump r => Starts r x source settings
  | .list r => (∀ file ∈ r.files, (Path.ofString file).hasNul = false) ∧
      getSettings r.json r.config x = .ok settings x ∧ source ∈ r.files
  | .help => False

/-- The settings that a source is scanned with were loaded. -/
theorem Invocation.Scans.isKnown {i : Invocation} {x : Session} {settings : Settings}
    {source : String} (h : i.Scans x settings source) : Encoding.IsKnown settings.encoding := by
  cases i with
  | dump r => exact Settings.isKnown_of_load ((getSettings_ends _ _ x).ok h.settings).2
  | list r => exact Settings.isKnown_of_load ((getSettings_ends _ _ x).ok h.2.1).2
  | help => exact h.elim

/-- A program scans some source that cannot be opened. -/
def Invocation.Unopened (i : Invocation) (x : Session) (e : OpenError) : Prop :=
  ∃ settings source, i.Scans x settings source ∧
    openScan x.disk (Path.ofString source) settings.encoding (some {}) = .error e

/-- All such sources have the same error. -/
theorem Invocation.Unopened.unique {i : Invocation} {x : Session} {e e' : OpenError}
    (h : i.Unopened x e) (h' : i.Unopened x e') : e = e' := by
  obtain ⟨settings, source, hscans, hopen⟩ := h
  obtain ⟨settings', source', hscans', hopen'⟩ := h'
  have hknown := hscans.isKnown
  cases i with
  | dump r =>
    obtain ⟨rfl, rfl⟩ := hscans.unique hscans'.source hscans'.settings
    rw [hopen] at hopen'
    cases hopen'
    rfl
  | list r =>
    obtain ⟨hnul, hsettings, hfile⟩ := hscans
    obtain ⟨-, hsettings', hfile'⟩ := hscans'
    rw [hsettings] at hsettings'
    cases hsettings'
    obtain ⟨-, -, he⟩ := (openScan_eq_error_iff hknown (hnul _ hfile)).mp hopen
    obtain ⟨-, -, he'⟩ := (openScan_eq_error_iff hknown (hnul _ hfile')).mp hopen'
    rw [he, he']
  | help => exact hscans.elim

/-! ## How commands stop -/

/-- How a command stops, as far as its sources are concerned. -/
def Invocation.Stops (i : Invocation) (x : Session) (stop : Stop) : Prop :=
  (stop.Plain ∧ ∀ e, ¬i.Unopened x e) ∨ ∃ e, i.Unopened x e ∧ stop = .escaped (.ofOpenError e)

/-- A file that was scanned can be opened. -/
theorem not_error_of_scanned {d : Disk} {p : Path} {encoding : String} {layouts : List Layout}
    {report : Report} {e : OpenError} (h : Scanned d encoding p layouts report) :
    openScan d p encoding (some {}) ≠ .error e := by
  obtain ⟨o, hopen, -⟩ := h
  rw [hopen]
  simp

theorem not_unopened_of_scanned {r : DumpRequest} {x : Session} {source : String}
    {settings : Settings} {layouts : List Layout} {report : Report}
    (hstarts : Starts r x source settings)
    (hscanned : Scanned x.disk settings.encoding (Path.ofString source) layouts report)
    (e : OpenError) : ¬Invocation.Unopened (.dump r) x e := by
  rintro ⟨settings', source', hstarts', hopen⟩
  obtain ⟨rfl, rfl⟩ := hstarts'.unique hstarts.source hstarts.settings
  exact not_error_of_scanned hscanned hopen

theorem dump_stops (r : DumpRequest) (x : Session) :
    Ends (dump r) x (fun _ _ => ∀ e, ¬Invocation.Unopened (.dump r) x e)
      fun stop _ => Invocation.Stops (.dump r) x stop := by
  have hending := dump_ending r x
  apply Ends.intro
  generalize dump r x = result at hending ⊢
  cases hending with
  | noSource hsource hend =>
    refine .inl ⟨hend.plain, ?_⟩
    rintro e ⟨settings, source, hstarts, -⟩
    cases hsource.symm.trans hstarts.source
  | conflict hmode hend =>
    refine .inl ⟨hend.plain, ?_⟩
    rintro e ⟨settings, source, hstarts, -⟩
    cases hmode.symm.trans hstarts.mode
  | unsettled hsettings =>
    refine .inl ⟨((getSettings_ends _ _ x).error hsettings).plain.1, ?_⟩
    rintro e ⟨settings, source, hstarts, -⟩
    cases hsettings.symm.trans hstarts.settings
  | unopened hstarts hopen => exact .inr ⟨_, ⟨_, _, hstarts, hopen⟩, rfl⟩
  | strict hstarts hscanned hstrict hpassed hend =>
    exact .inl ⟨hend.plain, not_unopened_of_scanned hstarts hscanned⟩
  | @delivered source err settings layouts report hstarts hscanned hstrict =>
    have hopened := not_unopened_of_scanned hstarts hscanned
    refine ((deliver_ends hstarts.mode source _ layouts report { x with err }).mono ?_ ?_).result
    · intro _ _ _
      exact hopened
    · rintro stop y ⟨hstop, -⟩
      exact .inl ⟨hstop, hopened⟩

theorem list_stops (r : ListRequest) (x : Session) :
    Ends (list r) x (fun _ _ => ∀ e, ¬Invocation.Unopened (.list r) x e)
      fun stop _ => Invocation.Stops (.list r) x stop := by
  have hending := list_ending r x
  apply Ends.intro
  generalize list r x = result at hending ⊢
  cases hending with
  | nul hfile hnul =>
    refine .inl ⟨.escaped (by simp), ?_⟩
    rintro e ⟨settings, source, ⟨hnul', -, -⟩, -⟩
    cases hnul.symm.trans (hnul' _ hfile)
  | unsettled hsettings =>
    refine .inl ⟨((getSettings_ends _ _ x).error hsettings).plain.1, ?_⟩
    rintro e ⟨settings, source, ⟨-, hsettings', -⟩, -⟩
    cases hsettings.symm.trans hsettings'
  | unopened hnul hsettings hfile hopen =>
    exact .inr ⟨_, ⟨_, _, ⟨hnul, hsettings, hfile⟩, hopen⟩, rfl⟩
  | @concluded settings err listings hsettings hlistings =>
    have hall : ∀ p ∈ r.files.map Path.ofString, ∀ e,
        openScan x.disk p settings.encoding (some {}) ≠ .error e :=
      ((List.forall₂_and_left _ _).mp
        (hlistings.imp fun p l hl => ⟨fun e => not_error_of_scanned hl.2, hl⟩)).1
    have hopened : ∀ e, ¬Invocation.Unopened (.list r) x e := by
      rintro e ⟨settings', source, ⟨-, hsettings', hfile⟩, hopen⟩
      cases hsettings.symm.trans hsettings'
      exact hall _ (List.mem_map_of_mem hfile) e hopen
    refine ((Prints.conclude r listings { x with err }).mono ?_ ?_).result
    · intro _ _ _
      exact hopened
    · rintro stop y ⟨hstop, -⟩
      exact .inl ⟨hstop, hopened⟩

theorem Invocation.run_stops (i : Invocation) (x : Session) :
    Ends i.run x (fun _ _ => ∀ e, ¬i.Unopened x e) fun stop _ => i.Stops x stop := by
  cases i with
  | dump r => exact dump_stops r x
  | list r => exact list_stops r x
  | help =>
    refine .of_ok rfl ?_
    rintro e ⟨settings, source, hscans, -⟩
    exact hscans

/-- An error about an encoding escapes exactly if a source cannot be opened because of it. -/
theorem Invocation.escapes_iff (i : Invocation) (x : Session) (e : Encoding.LookupError) :
    (Outcome.ofResult (i.run x)).escaped = some (.encoding e) ↔ i.Unopened x (.encoding e) := by
  have hstops := i.run_stops x
  cases hend : i.run x with
  | ok u y => exact iff_of_false (by simp [Outcome.ofResult]) (hstops.ok hend _)
  | error stop y =>
    rcases hstops.error hend with ⟨hplain, hnone⟩ | ⟨e', hunopened, rfl⟩
    · refine iff_of_false ?_ (hnone _)
      cases hplain with
      | exit => simp [Outcome.ofResult]
      | escaped h => exact fun hsome => h e (Option.some.inj hsome)
    · constructor
      · intro hescaped
        obtain rfl : e' = .encoding e := by
          cases e' with
          | pathHoldsNul => cases hescaped
          | encodingHoldsNul => cases hescaped
          | encoding e' => cases hescaped; rfl
        exact hunopened
      · intro hunopened'
        rw [hunopened.unique hunopened']
        rfl

/-- The encoding keeps a source from being opened if it is readable and the codec is for bytes. -/
theorem Invocation.unopened_encoding_iff {i : Invocation} {x : Session}
    {e : Encoding.LookupError} :
    i.Unopened x (.encoding e) ↔ ∃ settings source bytes, i.Scans x settings source ∧
      (Path.ofString source).hasNul = false ∧ x.disk.read (Path.ofString source) = .ok bytes ∧
      Encoding.lookup settings.encoding = .ok .binary ∧ e = .notText settings.encoding := by
  constructor
  · rintro ⟨settings, source, hscans, hopen⟩
    have hnul := hasNul_of_openScan_encoding hopen
    obtain ⟨⟨bytes, hread⟩, hcodec, he⟩ := (openScan_eq_error_iff hscans.isKnown hnul).mp hopen
    cases he
    exact ⟨settings, source, bytes, hscans, hnul, hread, hcodec, rfl⟩
  · rintro ⟨settings, source, bytes, hscans, hnul, hread, hcodec, rfl⟩
    exact ⟨settings, source, hscans,
      (openScan_eq_error_iff hscans.isKnown hnul).mpr ⟨⟨bytes, hread⟩, hcodec, rfl⟩⟩

/-! ## The encoding of loaded settings -/

/--
Loaded settings let a file be scanned to its end, unless it is readable and their codec is for
bytes.
-/
theorem scans_with_loaded_iff {d d' : Disk} {root : Option Path} {settings : Settings} {p : Path}
    (hload : Settings.load d root = .ok settings) (hnul : p.hasNul = false)
    (report : Option Report) :
    (∃ o layouts, openScan d' p settings.encoding report = .ok o ∧ o.scan.rest.1 = .ok layouts) ↔
      (∃ e, Encoding.lookup settings.encoding = .ok (.text e)) ∨
        ∃ errno, d'.read p = .error errno := by
  have hknown := Settings.isKnown_of_load hload
  constructor
  · rintro ⟨o, layouts, hopen, -⟩
    rcases openScan_cases hopen with ⟨errno, hread, -⟩ | ⟨bytes, e, -, hname, -⟩
    · exact .inr ⟨errno, hread⟩
    · rcases hknown.ofName_cases with ⟨e', hcodec, -⟩ | ⟨-, hname'⟩
      · exact .inl ⟨e', hcodec⟩
      · cases hname.symm.trans hname'
  · intro husable
    cases hopen : openScan d' p settings.encoding report with
    | ok o =>
      obtain ⟨layouts, hrest⟩ := exists_rest_of_openScan hopen
      exact ⟨o, layouts, rfl, hrest⟩
    | error e =>
      obtain ⟨⟨bytes, hread⟩, hcodec, -⟩ := (openScan_eq_error_iff hknown hnul).mp hopen
      rcases husable with ⟨e', hcodec'⟩ | ⟨errno, hread'⟩
      · cases hcodec.symm.trans hcodec'
      · cases hread.symm.trans hread'

/--
The encoding of loaded settings can be used for every file if it is one for texts.  If it is not,
it can be used only for files that cannot be read, and an error escapes from every run of a program
that scans a file that can.
-/
theorem loaded_encoding_usable_iff (d d' : Disk) (root : Option Path) (path : Path)
    (report : Option Report) (p : Program) (line : List String) (x : Session) :
    (∀ settings, Settings.load d root = .ok settings → path.hasNul = false →
      ((∃ o layouts, openScan d' path settings.encoding report = .ok o ∧
          o.scan.rest.1 = .ok layouts) ↔
        (∃ e, Encoding.lookup settings.encoding = .ok (.text e)) ∨
          ∃ errno, d'.read path = .error errno)) ∧
    (∀ e, (p.run line x).escaped = some (.encoding e) ↔
      ∃ i settings source bytes, p.read line = some i ∧ i.Scans x settings source ∧
        (Path.ofString source).hasNul = false ∧
        x.disk.read (Path.ofString source) = .ok bytes ∧
        Encoding.lookup settings.encoding = .ok .binary ∧ e = .notText settings.encoding) := by
  refine ⟨fun settings hload hnul => scans_with_loaded_iff hload hnul report, ?_⟩
  intro e
  cases hread : p.read line with
  | none => simp [Program.run_of_misuse hread]
  | some i =>
    rw [Program.run_of_read hread, Invocation.escapes_iff, Invocation.unopened_encoding_iff]
    simp only [Option.some.injEq, ↓existsAndEq, true_and]

/-- A codec for bytes is accepted as an encoding, and the error about it escapes. -/
theorem hex_encoding_escapes :
    let config := "[parser]\nencoding = \"hex\"\n"
    let text := "struct A \x7b int x; \x7d;\n"
    let disk : Disk :=
      ⟨["home"],
        ⟨[(["home"], .directory),
          (["home", Settings.fileName], .file config.toUTF8.data.toList),
          (["home", "a.h"], .file text.toUTF8.data.toList)]⟩, []⟩
    (∃ settings, Settings.load disk none = .ok settings ∧ (Path.ofString "a.h").hasNul = false ∧
      openScan disk (Path.ofString "a.h") settings.encoding = .error (.encoding (.notText "hex"))) ∧
    (Program.full.run ["dump", "a.h"] { disk, salts := [] }).escaped =
      some (.encoding (.notText "hex")) := by
  intro config text disk
  have hloaded : (match Settings.load disk none with
      | .ok settings => settings.encoding == "hex"
      | .error _ => false) = true := by
    decide +kernel
  have hnul : (Path.ofString "a.h").hasNul = false := by decide +kernel
  have hopen : openScan disk (Path.ofString "a.h") "hex" =
      .error (.encoding (.notText "hex")) := by
    decide +kernel
  refine ⟨?_, by decide +kernel⟩
  cases hload : Settings.load disk none with
  | error e => simp [hload] at hloaded
  | ok settings =>
    simp only [hload, beq_iff_eq] at hloaded
    refine ⟨settings, rfl, hnul, ?_⟩
    rw [hloaded]
    exact hopen

end Command

end StructScan
