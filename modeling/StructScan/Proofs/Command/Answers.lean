import StructScan.Proofs.Command.Endings
import StructScan.Proofs.File.Names
import StructScan.Proofs.Json.Document

/-!
# Answers in JSON mode

In JSON mode a command answers with one document: an error message, the code for one file, or a
listing of files.  An answer is found again in the JSON value that stands for it, and the value is
found again in the document, whatever characters it holds.  Unless an error escapes, nothing but
the document and a newline is printed.

Main results:

- Theorem `Report.ofJson?_toJson`: a report is found again in its JSON value.
- Theorem `Command.Answers.ofJson?_toJson`: so is the answer of a command.
- Theorem `Command.dump_answers`, theorem `Command.list_answers`: each command prints its answer.
- Theorem `Command.Program.run_answers`: what programs print in JSON mode.
-/

namespace StructScan

/-! ## Reports in JSON values -/

namespace Json

/-- The number of a value. -/
def int? : Json → Option Int
  | int n => some n
  | _ => none

/-- The path that a text names, or no path. -/
def path? : Json → Option (Option Path)
  | null => some none
  | string s => some (some (Path.ofString s))
  | _ => none

end Json

/-- The remark that a JSON value describes. -/
def Diagnostic.ofJson? (j : Json) : Option Diagnostic := do
  let line ← (← j.member? "line").int?
  let code ← (← j.member? "code").text?
  let message ← (← j.member? "message").text?
  return ⟨line, code, message⟩

theorem Diagnostic.ofJson?_toJson (d : Diagnostic) : Diagnostic.ofJson? d.toJson = some d :=
  rfl

/-- The report that a JSON value describes. -/
def Report.ofJson? (j : Json) : Option Report := do
  let file ← (← j.member? "file").path?
  let errors ← (← j.member? "errors").items? Diagnostic.ofJson?
  let warnings ← (← j.member? "warnings").items? Diagnostic.ofJson?
  return { file, errors, warnings }

/-- A path is found again in its text. -/
theorem Json.path?_string {p : Path} (h : p.IsCanonical) :
    path? (.string p.toString) = some (some p) := by
  rw [path?, Path.ofString_toString h]

/-- A report is found again in its JSON value. -/
theorem Report.ofJson?_toJson {r : Report} (h : ∀ p, r.file = some p → p.IsCanonical) :
    Report.ofJson? r.toJson = some r := by
  obtain ⟨file, errors, warnings⟩ := r
  have hitems (ds : List Diagnostic) :
      Json.items? Diagnostic.ofJson? (.array (ds.map Diagnostic.toJson)) = some ds :=
    Json.items?_map fun d _ => Diagnostic.ofJson?_toJson d
  have herrors : (toJson ⟨file, errors, warnings⟩).member? "errors" =
      some (.array (errors.map Diagnostic.toJson)) := rfl
  have hwarnings : (toJson ⟨file, errors, warnings⟩).member? "warnings" =
      some (.array (warnings.map Diagnostic.toJson)) := rfl
  cases file with
  | none =>
    have hfile : (toJson ⟨none, errors, warnings⟩).member? "file" = some .null := rfl
    simp [ofJson?, hfile, herrors, hwarnings, hitems, Json.path?]
  | some p =>
    have hfile : (toJson ⟨some p, errors, warnings⟩).member? "file" = some (.string p.toString) :=
      rfl
    simp [ofJson?, hfile, herrors, hwarnings, hitems, Json.path?_string (h p rfl)]

namespace Command

/-- The listing that a JSON value describes. -/
def Listing.ofJson? (j : Json) : Option Listing := do
  let file ← (← j.member? "file").text?
  let layouts ← (← j.member? "structs").items? Layout.ofJson?
  let report ← Report.ofJson? (← j.member? "diagnostics")
  return ⟨Path.ofString file, layouts, report⟩

/-- A listing is found again in its JSON value. -/
theorem Listing.ofJson?_toJson {l : Listing} (hpath : l.path.IsCanonical)
    (hreport : ∀ p, l.report.file = some p → p.IsCanonical) :
    Listing.ofJson? l.toJson = some l := by
  have hfile : l.toJson.member? "file" = some (.string l.path.toString) := rfl
  have hstructs : l.toJson.member? "structs" = some (.array (l.layouts.map Layout.toJson)) := rfl
  have hdiagnostics : l.toJson.member? "diagnostics" = some l.report.toJson := rfl
  simp [ofJson?, hfile, hstructs, hdiagnostics, Json.text?, Layout.items?_toJson,
    Report.ofJson?_toJson hreport, Path.ofString_toString hpath]

/-! ## Answers -/

/-- What a command answers in JSON mode. -/
inductive Answer where
  | refused (message : String)
  | dumped (source code : String) (layouts : List Layout) (report : Report)
  | listed (listings : List Listing)

/-- An answer as a JSON value. -/
def Answer.toJson : Answer → Json
  | refused message => refusal message
  | dumped source code layouts report => Command.dumped source code layouts report
  | listed listings => Command.listed listings

/-- The answer that a JSON value describes. -/
def Answer.ofJson? (j : Json) : Option Answer :=
  match j with
  | .array _ => (j.items? Listing.ofJson?).map listed
  | _ =>
    match j.member? "error" with
    | some message => message.text?.map refused
    | none => do
      let source ← (← j.member? "file").text?
      let layouts ← (← j.member? "structs").items? Layout.ofJson?
      let code ← (← j.member? "code").text?
      let report ← Report.ofJson? (← j.member? "diagnostics")
      return dumped source code layouts report

/-- A dump is found again in its JSON value, if its report is. -/
theorem Answer.ofJson?_dumped {report : Report}
    (hreport : Report.ofJson? report.toJson = some report) (source code : String)
    (layouts : List Layout) :
    ofJson? (Command.dumped source code layouts report) =
      some (.dumped source code layouts report) := by
  change (do
    let layouts ← Json.items? Layout.ofJson? (.array (layouts.map Layout.toJson))
    let report ← Report.ofJson? report.toJson
    return Answer.dumped source code layouts report) = _
  rw [Layout.items?_toJson, hreport]
  rfl

/-- The directory on the command line that settings are taken from. -/
def Invocation.config : Invocation → Option String
  | .dump r => r.config
  | .list r => r.config
  | .help => none

/-- Whether a command is run in JSON mode. -/
def Invocation.json : Invocation → Bool
  | .dump r => r.json
  | .list r => r.json
  | .help => false

/-- The right answers, each with the exit status that goes with it. -/
inductive Answers (x : Session) : Invocation → Answer → Nat → Prop where
  | noSource {r : DumpRequest} (hsource : r.source = none) :
      Answers x (.dump r) (.refused "Source file argument is required") 1
  | conflict {r : DumpRequest} (hmode : (r.json && r.output.isSome) = true) :
      Answers x (.dump r) (.refused "--json and --output cannot be combined") 1
  | unsettled {i : Invocation} {message : String} (h : Unsettled x.disk i.config message) :
      Answers x i (.refused message) 1
  | strict {r : DumpRequest} {source : String} {settings : Settings} {layouts : List Layout}
      {report : Report} (hstarts : Starts r x source settings)
      (hscanned : Scanned x.disk settings.encoding (Path.ofString source) layouts report)
      (hstrict : r.strict = true) (hpassed : report.passed = false) :
      Answers x (.dump r) (.refused (diagnosed report source)) 1
  | dumped {r : DumpRequest} {source : String} {settings : Settings} {layouts : List Layout}
      {report : Report} (hstarts : Starts r x source settings)
      (hscanned : Scanned x.disk settings.encoding (Path.ofString source) layouts report)
      (hstrict : r.strict = true → report.passed = true) :
      Answers x (.dump r) (.dumped source
        (dumpCode (some settings) (r.includeStdio || settings.includeStdio) layouts) layouts
        report) 0
  | listed {r : ListRequest} {settings : Settings} {listings : List Listing}
      (hsettings : getSettings r.json r.config x = .ok settings x)
      (hlistings : List.Forall₂ (Lists x.disk settings.encoding) (r.files.map Path.ofString)
        listings) :
      Answers x (.list r) (.listed listings)
        (if r.strict && listings.any fun l => !l.report.passed then 1 else 0)

/-- The path of a scanned source is canonical, and so is the one in the report. -/
theorem isCanonical_of_scanned {d : Disk} {encoding source : String} {layouts : List Layout}
    {report : Report} (h : Scanned d encoding (Path.ofString source) layouts report) (p : Path)
    (hp : report.file = some p) : p.IsCanonical := by
  rw [h.file_eq] at hp
  cases hp
  exact Path.isCanonical_ofString source

/-- The listings of sources are found again in their JSON values. -/
theorem items?_listed {d : Disk} {encoding : String} {files : List String}
    {listings : List Listing}
    (h : List.Forall₂ (Lists d encoding) (files.map Path.ofString) listings) :
    Json.items? Listing.ofJson? (listed listings) = some listings := by
  rw [List.forall₂_map_left_iff] at h
  apply Json.items?_map
  induction h with
  | nil => simp
  | @cons file l files listings hl _ ih =>
    obtain ⟨hpath, hscanned⟩ := hl
    intro l' hl'
    rcases List.mem_cons.mp hl' with rfl | hl'
    · refine Listing.ofJson?_toJson ?_ (isCanonical_of_scanned hscanned)
      rw [hpath]
      exact Path.isCanonical_ofString file
    · exact ih l' hl'

/-- An answer is found again in its JSON value. -/
theorem Answers.ofJson?_toJson {x : Session} {i : Invocation} {a : Answer} {status : Nat}
    (h : Answers x i a status) : Answer.ofJson? a.toJson = some a := by
  cases h with
  | noSource hsource => rfl
  | conflict hmode => rfl
  | unsettled hreason => rfl
  | strict hstarts hscanned hstrict hpassed => rfl
  | @dumped r source settings layouts report hstarts hscanned hstrict =>
    exact Answer.ofJson?_dumped (Report.ofJson?_toJson (isCanonical_of_scanned hscanned)) _ _ _
  | listed hsettings hlistings =>
    exact congrArg (Option.map Answer.listed) (items?_listed hlistings)

/-! ## What commands print -/

/-- A program has printed an answer and nothing else. -/
def Outcome.Gives (o : Outcome) (x : Session) (a : Answer) : Prop :=
  o.session.out = x.out ++ (a.toJson.render ++ "\n")

/-- Settings that cannot be loaded are answered with the reason. -/
theorem unsettled_answers {i : Invocation} {x y : Session} {stop : Stop} (hjson : i.json = true)
    (h : getSettings i.json i.config x = .error stop y)
    (hescaped : (Outcome.ofResult (.error stop y)).escaped = none) :
    ∃ a, Answers x i a (Outcome.ofResult (.error stop y)).status ∧
      (Outcome.ofResult (.error stop y)).Gives x a := by
  cases (getSettings_ends i.json i.config x).error h with
  | reported hreason hreported =>
    obtain ⟨rfl, rfl⟩ := hreported.answered hjson
    exact ⟨_, .unsettled hreason, rfl⟩
  | unreadable e => cases hescaped
  | tooDeep => cases hescaped

theorem dump_answers {r : DumpRequest} {x : Session} (hjson : r.json = true)
    (hescaped : (Outcome.ofResult (dump r x)).escaped = none) :
    ∃ a, Answers x (.dump r) a (Outcome.ofResult (dump r x)).status ∧
      (Outcome.ofResult (dump r x)).Gives x a := by
  have hending := dump_ending r x
  generalize dump r x = result at hending hescaped ⊢
  cases hending with
  | noSource hsource hend =>
    obtain ⟨rfl, rfl⟩ := hend.answered hjson
    exact ⟨_, .noSource hsource, rfl⟩
  | conflict hmode hend =>
    obtain ⟨rfl, rfl⟩ := hend.answered rfl
    exact ⟨_, .conflict hmode, rfl⟩
  | unsettled hsettings => exact unsettled_answers (i := .dump r) hjson hsettings hescaped
  | unopened hstarts hopen => cases hescaped
  | strict hstarts hscanned hstrict hpassed hend =>
    obtain ⟨rfl, rfl⟩ := hend.answered hjson
    exact ⟨_, .strict hstarts hscanned hstrict hpassed, rfl⟩
  | delivered hstarts hscanned hstrict =>
    rw [deliver_json hjson]
    exact ⟨_, .dumped hstarts hscanned hstrict, rfl⟩

theorem list_answers {r : ListRequest} {x : Session} (hjson : r.json = true)
    (hescaped : (Outcome.ofResult (list r x)).escaped = none) :
    ∃ a, Answers x (.list r) a (Outcome.ofResult (list r x)).status ∧
      (Outcome.ofResult (list r x)).Gives x a := by
  have hending := list_ending r x
  generalize list r x = result at hending hescaped ⊢
  cases hending with
  | nul hfile hnul => cases hescaped
  | unsettled hsettings => exact unsettled_answers (i := .list r) hjson hsettings hescaped
  | unopened hnul hsettings hfile hopen => cases hescaped
  | concluded hsettings hlistings =>
    have hanswers := Answers.listed hsettings hlistings
    rw [conclude_json hjson]
    dsimp only
    split
    · rename_i hfailed
      rw [if_pos hfailed] at hanswers
      exact ⟨_, hanswers, rfl⟩
    · rename_i hfailed
      rw [if_neg hfailed] at hanswers
      exact ⟨_, hanswers, rfl⟩

/--
A program that is run in JSON mode and lets no error escape prints one document and a newline.  The
document consists of ASCII characters, and reading it gives back the JSON value of the right answer,
in which all parts of the answer are found again.
-/
theorem Program.run_answers {p : Program} {line : List String} {i : Invocation} {x : Session}
    (hread : p.read line = some i) (hjson : i.json = true)
    (hescaped : (p.run line x).escaped = none) :
    ∃ (a : Answer) (document : String),
      Answers x i a (p.run line x).status ∧
      (p.run line x).session.out = x.out ++ document ++ "\n" ∧
      Text.IsAscii document.toList ∧
      Json.read? document = some a.toJson ∧
      Answer.ofJson? a.toJson = some a := by
  rw [run_of_read hread] at hescaped ⊢
  have hanswers : ∃ a, Answers x i a (Outcome.ofResult (i.run x)).status ∧
      (Outcome.ofResult (i.run x)).Gives x a := by
    cases i with
    | dump r => exact dump_answers hjson hescaped
    | list r => exact list_answers hjson hescaped
    | help => cases hjson
  obtain ⟨a, hright, hgives⟩ := hanswers
  refine ⟨a, a.toJson.render, hright, ?_, Json.ascii_render _, Json.read?_document _,
    hright.ofJson?_toJson⟩
  rw [hgives, String.append_assoc]

/-- Names beyond ASCII and beyond the first plane, and a remark. -/
theorem Program.run_answers_beyond_ascii :
    let config := "[dump]\nprefix = 'é\"𐍈_'\n"
    let text := "struct 𐍈 \x7b long é; \x7d;\nstruct\n"
    let disk : Disk :=
      ⟨["home"],
        ⟨[(["home"], .directory),
          (["home", Settings.fileName], .file config.toUTF8.data.toList),
          (["home", "𐍈.c"], .file text.toUTF8.data.toList)]⟩, []⟩
    let x : Session := { disk, salts := [] }
    let line := ["dump", "--json", "./𐍈.c"]
    let i : Invocation := .dump { source := some "./𐍈.c", json := true }
    full.read line = some i ∧ i.json = true ∧ (full.run line x).escaped = none ∧
    ∃ (a : Answer) (document : String),
      Answers x i a (full.run line x).status ∧
      (full.run line x).session.out = x.out ++ document ++ "\n" ∧
      Text.IsAscii document.toList ∧
      Json.read? document = some a.toJson ∧
      Answer.ofJson? a.toJson = some a := by
  intro config text disk x line i
  have hread : full.read line = some i := by decide +kernel
  have hescaped : (full.run line x).escaped = none := by decide +kernel
  exact ⟨hread, rfl, hescaped, run_answers hread rfl hescaped⟩

end Command

end StructScan
