import StructScan.Proofs.Command.Endings

/-!
# What commands leave as it was

Only the dump command writes, only if it has an output file, and only after all its checks.  So a
program that fails leaves every regular file as it was, whatever made it fail, and a program that
succeeds leaves every regular file but its output file.

Main results:

- Theorem `Command.dump_files`: what the dump command leaves as it was.
- Theorem `Command.list_disk`: the structs command leaves everything as it was.
- Theorem `Command.dump_strict`: a strict dump of a file with remarks always fails.
- Theorem `Command.Program.run_spares_files`: what programs leave as it was.
-/

namespace StructScan.Command

open FileTree (SameFiles)

/-- Only the output file of the command is touched, and no file at all if the command fails. -/
theorem dump_files (r : DumpRequest) (x : Session) :
    Ends (dump r) x
      (fun _ y => (r.output = none → y.disk = x.disk) ∧
        ∀ output, r.output = some output →
          Disk.SameFilesButAt (Path.ofString output) x.disk y.disk)
      fun stop y => stop.status = 1 ∧ SameFiles x.disk.tree y.disk.tree ∧
        (r.output = none → y.disk = x.disk) := by
  have hkept {stop : Stop} {y : Session} (hstop : stop.status = 1) (hdisk : y.disk = x.disk) :
      stop.status = 1 ∧ SameFiles x.disk.tree y.disk.tree ∧
        (r.output = none → y.disk = x.disk) := by
    rw [hdisk]
    exact ⟨hstop, .refl _, fun _ => rfl⟩
  have hending := dump_ending r x
  apply Ends.intro
  generalize dump r x = result at hending ⊢
  cases hending with
  | noSource hsource hend => exact hkept hend.plain.status_eq hend.disk
  | conflict hmode hend => exact hkept hend.plain.status_eq hend.disk
  | unsettled hsettings =>
    obtain ⟨hstop, hdisk⟩ := ((getSettings_ends r.json r.config x).error hsettings).plain
    exact hkept hstop.status_eq hdisk
  | unopened hstarts hopen => exact hkept rfl rfl
  | strict hstarts hscanned hstrict hpassed hend => exact hkept hend.plain.status_eq hend.disk
  | @delivered source err settings layouts report hstarts hscanned hstrict =>
    refine ((deliver_ends hstarts.mode source _ layouts report { x with err }).mono
      (fun _ _ h => h) ?_).result
    rintro stop y ⟨hstop, houtput, hsame⟩
    refine ⟨hstop.status_eq, hsame, fun hnone => ?_⟩
    rw [hnone] at houtput
    contradiction

/-- The structs command touches nothing. -/
theorem list_disk (r : ListRequest) (x : Session) :
    Ends (list r) x (fun _ y => y.disk = x.disk)
      fun stop y => stop.status = 1 ∧ y.disk = x.disk := by
  have hending := list_ending r x
  apply Ends.intro
  generalize list r x = result at hending ⊢
  cases hending with
  | nul hfile hnul => exact ⟨rfl, rfl⟩
  | unsettled hsettings =>
    obtain ⟨hstop, hdisk⟩ := ((getSettings_ends r.json r.config x).error hsettings).plain
    exact ⟨hstop.status_eq, hdisk⟩
  | unopened hnul hsettings hfile hopen => exact ⟨rfl, rfl⟩
  | @concluded settings err listings hsettings hlistings =>
    refine ((Prints.conclude r listings { x with err }).mono (fun _ _ h => h) ?_).result
    rintro stop y ⟨hstop, hdisk⟩
    exact ⟨hstop.status_eq, hdisk⟩

/-- A strict dump of a file with remarks fails and touches nothing. -/
theorem dump_strict {r : DumpRequest} {x y : Session} {source : String} {settings : Settings}
    {layouts : List Layout} {report : Report} (hstrict : r.strict = true)
    (hsource : r.source = some source) (hsettings : getSettings r.json r.config x = .ok settings y)
    (hscanned : Scanned x.disk settings.encoding (Path.ofString source) layouts report)
    (hremarks : report.errors ≠ [] ∨ report.warnings ≠ []) :
    Ends (dump r) x (fun _ _ => False) fun stop y => stop.status = 1 ∧ y.disk = x.disk := by
  have hending := dump_ending r x
  apply Ends.intro
  generalize dump r x = result at hending ⊢
  cases hending with
  | noSource hsource' hend => exact ⟨hend.plain.status_eq, hend.disk⟩
  | conflict hmode hend => exact ⟨hend.plain.status_eq, hend.disk⟩
  | unsettled hsettings' =>
    obtain ⟨hstop, hdisk⟩ := ((getSettings_ends r.json r.config x).error hsettings').plain
    exact ⟨hstop.status_eq, hdisk⟩
  | unopened hstarts hopen => exact ⟨rfl, rfl⟩
  | strict hstarts hscanned' hstrict' hpassed' hend => exact ⟨hend.plain.status_eq, hend.disk⟩
  | delivered hstarts hscanned' hstrict' =>
    -- The settings and the report are the same ones, so the command cannot have come this far.
    obtain ⟨rfl, rfl⟩ := hstarts.unique hsource hsettings
    obtain ⟨-, rfl⟩ := hscanned.unique hscanned'
    obtain ⟨herrors, hwarnings⟩ := report.passed_iff.mp (hstrict' hstrict)
    exact hremarks.elim (absurd herrors) (absurd hwarnings)

/-- The output file that a program is asked to write. -/
def Invocation.output : Invocation → Option String
  | .dump r => r.output
  | .list _ => none
  | .help => none

theorem Invocation.run_files (i : Invocation) (x : Session) :
    Ends i.run x
      (fun _ y => (i.output = none → y.disk = x.disk) ∧
        ∀ output, i.output = some output →
          Disk.SameFilesButAt (Path.ofString output) x.disk y.disk)
      fun stop y => stop.status = 1 ∧ SameFiles x.disk.tree y.disk.tree ∧
        (i.output = none → y.disk = x.disk) := by
  cases i with
  | dump r => exact dump_files r x
  | list r =>
    refine (list_disk r x).mono ?_ ?_
    · intro _ y hdisk
      exact ⟨fun _ => hdisk, by simp [output]⟩
    · intro stop y ⟨hstop, hdisk⟩
      rw [hdisk]
      exact ⟨hstop, .refl _, fun _ => rfl⟩
  | help => exact .of_ok rfl ⟨fun _ => rfl, by simp [output]⟩

/--
A program that fails leaves all regular files as they were, and so does one that has no output
file.  A program that succeeds leaves all regular files but the one that the path of its output
file leads to.  A strict dump fails if there is any remark about its source.
-/
theorem Program.run_spares_files (p : Program) (line : List String) (x : Session) :
    let outcome := p.run line x
    (outcome.status ≠ 0 → SameFiles x.disk.tree outcome.session.disk.tree) ∧
    (∀ i, p.read line = some i → i.output = none → outcome.session.disk = x.disk) ∧
    (∀ i output, p.read line = some i → i.output = some output → outcome.status = 0 →
      Disk.SameFilesButAt (Path.ofString output) x.disk outcome.session.disk) ∧
    (∀ r source settings y layouts report, p.read line = some (.dump r) → r.strict = true →
      r.source = some source → getSettings r.json r.config x = .ok settings y →
      Scanned x.disk settings.encoding (Path.ofString source) layouts report →
      report.errors ≠ [] ∨ report.warnings ≠ [] →
      outcome.status = 1 ∧ outcome.session.disk = x.disk) := by
  intro outcome
  cases hread : p.read line with
  | none =>
    have hrun : outcome = { status := misuse, session := x } := run_of_misuse hread x
    rw [hrun]
    exact ⟨fun _ => .refl _, by simp, by simp, by simp⟩
  | some i =>
    have hrun : outcome = .ofResult (i.run x) := run_of_read hread x
    cases hend : i.run x with
    | ok u y =>
      obtain ⟨hnothing, htarget⟩ := (i.run_files x).ok hend
      have houtcome : outcome = { status := 0, session := y } := by rw [hrun, hend]; rfl
      rw [houtcome]
      refine ⟨fun hstatus => absurd rfl hstatus, ?_, ?_, ?_⟩
      · rintro _ ⟨rfl⟩
        exact hnothing
      · rintro _ output ⟨rfl⟩ houtput -
        exact htarget output houtput
      · rintro r source settings z layouts report ⟨rfl⟩ hstrict hsource hsettings hscanned hremarks
        exact ((dump_strict hstrict hsource hsettings hscanned hremarks).ok hend).elim
    | error stop y =>
      obtain ⟨hstop, hsame, hnothing⟩ := (i.run_files x).error hend
      have hstatus : outcome.status = 1 := by
        rw [hrun, hend, Outcome.status_ofResult_error, hstop]
      have hsession : outcome.session = y := by rw [hrun, hend, Outcome.session_ofResult_error]
      rw [hstatus, hsession]
      refine ⟨fun _ => hsame, ?_, ?_, ?_⟩
      · rintro _ ⟨rfl⟩
        exact hnothing
      · rintro _ output ⟨rfl⟩ houtput hzero
        contradiction
      · rintro r source settings z layouts report ⟨rfl⟩ hstrict hsource hsettings hscanned hremarks
        have hfails := dump_strict hstrict hsource hsettings hscanned hremarks
        exact ⟨rfl, (hfails.error hend).2⟩

end StructScan.Command
