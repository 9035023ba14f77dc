import Mathlib.Data.List.Forall2
import StructScan.Proofs.Command.Delivery
import StructScan.Proofs.File.Regular

/-!
# How commands end

A command makes its checks in a fixed order and stops at the first one that fails.  So each of the
two commands has a few ways to end, and each way tells which checks were passed, what was scanned
and what is done last.  In JSON mode, what is printed is one document; out of it, what is printed
never touches the disk.

Main results:

- Theorem `Command.fail_ends`: what it means that an error is reported.
- Theorem `Command.getSettings_ends`: settings are loaded without effect, or their error is told.
- Theorem `Command.dump_ending`: the ways for the dump command to end.
- Theorem `Command.deliver_ends`: which files the last step of that command leaves alone.
- Theorem `Command.list_ending`: the ways for the structs command to end.
- Theorem `Command.conclude_json`: its last step in JSON mode.
-/

namespace StructScan

namespace Ends

variable {I : σ → Prop} {E : ε → σ → Prop} {x : σ}

/-- Rounds that each give a related result give related lists. -/
theorem mapM {f : α → EStateM ε σ β} {R : α → β → Prop} {as : List α}
    (hf : ∀ a ∈ as, ∀ x, I x → Ends (f a) x (fun b y => I y ∧ R a b) E) (hx : I x) :
    Ends (as.mapM f) x (fun bs y => I y ∧ List.Forall₂ R as bs) E := by
  induction as generalizing x with
  | nil => exact .of_ok rfl ⟨hx, .nil⟩
  | cons a as ih =>
    rw [List.mapM_cons]
    refine (hf a List.mem_cons_self x hx).bind fun b y ⟨hy, hb⟩ => ?_
    refine (ih (fun a' ha' => hf a' (List.mem_cons_of_mem _ ha')) hy).bind fun bs z ⟨hz, hbs⟩ => ?_
    exact .of_ok rfl ⟨hz, .cons hb hbs⟩

end Ends

namespace Command

open FileTree (SameFiles)

/-! ## Reported errors -/

/-- A stop that no encoding is to blame for. -/
inductive Stop.Plain : Stop → Prop where
  | exit : Plain (.exit 1)
  | escaped {e : Escape} (h : ∀ e', e ≠ .encoding e') : Plain (.escaped e)

/-- The status of a program whose command stops. -/
def Stop.status : Stop → Nat
  | exit status => status
  | escaped _ => 1

/-- A plain stop has the status of a failure. -/
theorem Stop.Plain.status_eq {stop : Stop} (h : stop.Plain) : stop.status = 1 := by
  cases h with
  | exit => rfl
  | escaped h => rfl

/-- An error was reported: on the standard output in JSON mode. -/
structure Reported (json : Bool) (message : String) (x : Session) (stop : Stop) (y : Session) :
    Prop where
  disk : y.disk = x.disk
  plain : stop.Plain
  answered : json = true →
    stop = .exit 1 ∧ y = { x with out := x.out ++ ((refusal message).render ++ "\n") }

theorem get_ends (x : Session) (E : Stop → Session → Prop) :
    Ends (get : Run Session) x (fun a y => x = a ∧ x = y) E :=
  .of_ok rfl ⟨rfl, rfl⟩

/-- Printing a text changes the error output only, and nothing where it stops. -/
theorem putPrinted_ends (text : Except Console.Markup.Error String) (x : Session) :
    Ends (putPrinted text) x (fun _ y => ∃ err, y = { x with err })
      fun stop y => stop.Plain ∧ y = x := by
  cases text with
  | ok s => exact .of_ok rfl ⟨_, rfl⟩
  | error e => exact .of_error rfl ⟨.escaped (by simp), rfl⟩

/-- Reporting an error always stops the command. -/
theorem fail_ends (json : Bool) (message : String) (x : Session) :
    Ends (fail json message : Run α) x (fun _ _ => False) (Reported json message x) := by
  cases json with
  | true => exact .of_error rfl ⟨rfl, .exit, fun _ => ⟨rfl, rfl⟩⟩
  | false =>
    simp only [fail, Bool.false_eq_true, if_false]
    generalize Console.printUnfolded _ = text
    refine (putPrinted_ends text x).chain ?_ ?_
    · rintro stop y ⟨hstop, rfl⟩
      exact ⟨rfl, hstop, by simp⟩
    · rintro u y ⟨err, rfl⟩
      exact .of_error rfl ⟨rfl, .exit, by simp⟩

/-- So nothing comes after it. -/
theorem fail_bind_ends {json : Bool} {message : String} {x : Session} {E : Stop → Session → Prop}
    (h : ∀ stop y, Reported json message x stop y → E stop y) (k : α → Run β)
    (Q : β → Session → Prop) : Ends (fail json message >>= k) x Q E :=
  (fail_ends json message x).chain h fun _ _ h => h.elim

/-! ## Computations that only print -/

/-- A computation that only prints: it leaves the disk alone, and no encoding stops it. -/
def Prints (m : Run α) : Prop :=
  ∀ x, Ends m x (fun _ y => y.disk = x.disk) fun stop y => stop.Plain ∧ y.disk = x.disk

namespace Prints

/-- Two computations that print only do so together. -/
theorem bind {m : Run α} {k : α → Run β} (hm : Prints m) (hk : ∀ a, Prints (k a)) :
    Prints (m >>= k) := by
  intro x
  refine (hm x).bind fun a y hy => (hk a y).mono (fun _ _ h => h.trans hy) ?_
  rintro stop z ⟨hstop, hz⟩
  exact ⟨hstop, hz.trans hy⟩

theorem forM {f : α → Run PUnit} (hf : ∀ a, Prints (f a)) (as : List α) :
    Prints (as.forM f) := by
  induction as with
  | nil => exact fun x => .of_ok rfl rfl
  | cons a as ih => exact (hf a).bind fun _ => ih

theorem putOut (s : String) : Prints (Command.putOut s) :=
  fun _ => .of_ok rfl rfl

theorem putErr (s : String) : Prints (Command.putErr s) :=
  fun _ => .of_ok rfl rfl

theorem putPrinted (text : Except Console.Markup.Error String) :
    Prints (Command.putPrinted text) := by
  intro x
  refine (putPrinted_ends text x).mono ?_ ?_
  · rintro _ _ ⟨err, rfl⟩
    rfl
  · rintro stop _ ⟨hstop, rfl⟩
    exact ⟨hstop, rfl⟩

/-- Reporting an error prints, and does nothing else. -/
theorem fail (json : Bool) (message : String) : Prints (Command.fail json message : Run α) := by
  intro x
  exact (fail_ends json message x).mono (fun _ _ h => h.elim) fun _ _ h => ⟨h.plain, h.disk⟩

/-- So does showing the remarks of a scan. -/
theorem showReport (r : Report) (quiet : Bool) : Prints (Command.showReport r quiet) :=
  .forM .putPrinted _

theorem showListing (quiet : Bool) (l : Listing) : Prints (Command.showListing quiet l) := by
  unfold Command.showListing
  split
  · exact (Prints.putErr _).bind fun _ => .showReport _ _
  · cases l.table with
    | ok s => exact (Prints.putOut s).bind fun _ => .showReport _ _
    | error e => exact fun x => .of_error rfl ⟨.escaped (by simp), rfl⟩

end Prints

/-! ## Settings -/

/-- Why there are no settings, in words. -/
inductive Unsettled (d : Disk) (config : Option String) : String → Prop where
  | noDirectory {p : Path} {node : Option Node} (hroot : configRoot config = some p)
      (hprobe : d.probe p = .ok node) (hnode : node ≠ some .directory) :
      Unsettled d config s!"Config directory not found: {p.toString}"
  | rejected {e : Settings.Error}
      (hload : Settings.load d (configRoot config) = .error (.settings e)) :
      Unsettled d config e.message

/-- How a command stops that gets no settings. -/
inductive Unsettles (json : Bool) (config : Option String) (x : Session) :
    Stop → Session → Prop where
  | reported {message : String} {stop : Stop} {y : Session}
      (hreason : Unsettled x.disk config message) (hreported : Reported json message x stop y) :
      Unsettles json config x stop y
  | unreadable (e : OsError) : Unsettles json config x (.escaped (.os e)) x
  | tooDeep (o : Toml.Overflow) : Unsettles json config x (.escaped (.settingsTooDeep o)) x

/-- A command that gets no settings has no effect on the disk, and no encoding is to blame. -/
theorem Unsettles.plain {json : Bool} {config : Option String} {x y : Session} {stop : Stop}
    (h : Unsettles json config x stop y) : stop.Plain ∧ y.disk = x.disk := by
  cases h with
  | reported hreason hreported => exact ⟨hreported.plain, hreported.disk⟩
  | unreadable e => exact ⟨.escaped (by simp), rfl⟩
  | tooDeep => exact ⟨.escaped (by simp), rfl⟩

/-- Settings that were loaded are handed on, and otherwise it is told why there are none. -/
theorem settingsOf_ends (json : Bool) (config : Option String) (x : Session) :
    Ends (settingsOf json (Settings.load x.disk (configRoot config))) x
      (fun settings y => y = x ∧ Settings.load x.disk (configRoot config) = .ok settings)
      (Unsettles json config x) := by
  cases hload : Settings.load x.disk (configRoot config) with
  | ok settings => exact .of_ok rfl ⟨rfl, rfl⟩
  | error e =>
    cases e with
    | settings e =>
      exact (fail_ends json e.message x).mono (fun _ _ h => h.elim) fun _ _ h =>
        .reported (.rejected hload) h
    | tooDeep o => exact .of_error rfl (.tooDeep o)
    | os e => exact .of_error rfl (.unreadable e)

/-- Settings are loaded without any effect, or the command stops. -/
theorem getSettings_ends (json : Bool) (config : Option String) (x : Session) :
    Ends (getSettings json config) x
      (fun settings y => y = x ∧ Settings.load x.disk (configRoot config) = .ok settings)
      (Unsettles json config x) := by
  have hloaded := settingsOf_ends json config x
  unfold getSettings
  refine (get_ends x _).bind ?_
  rintro _ _ ⟨rfl, rfl⟩
  lift_lets
  intro d root
  have hroot : configRoot config = root := rfl
  clear_value root
  rw [hroot] at hloaded
  cases root with
  | none =>
    rw [hroot]
    exact hloaded
  | some p =>
    rw [hroot]
    dsimp only
    cases hprobe : d.probe p with
    | error e => exact .of_error rfl (.unreadable _)
    | ok node =>
      -- Only a directory lets the settings be loaded.
      have hmissing (hnode : node ≠ some .directory) (k : Unit → Run Settings) :
          Ends (fail json s!"Config directory not found: {p.toString}" >>= k) x
            (fun settings y => y = x ∧ Settings.load x.disk (some p) = .ok settings)
            (Unsettles json config x) := by
        refine fail_bind_ends (fun stop y h => ?_) k _
        exact .reported (.noDirectory hroot hprobe hnode) h
      cases node with
      | none => exact hmissing (by simp) _
      | some node =>
        cases node with
        | directory => exact hloaded
        | file bytes => exact hmissing (by simp) _

/-- Settings that were loaded leave the session as it was. -/
theorem getSettings_loads (json : Bool) (config : Option String) (x : Session) :
    Ends (getSettings json config) x
      (fun settings y => x = y ∧ getSettings json config x = .ok settings x)
      fun stop y => getSettings json config x = .error stop y := by
  constructor
  · intro settings y hend
    obtain ⟨rfl, -⟩ := (getSettings_ends json config x).ok hend
    exact ⟨rfl, hend⟩
  · exact id

/-! ## Scans -/

/-- A file is scanned to its end with no more than a remark printed, or it cannot be opened. -/
theorem scanFile_ends (settings : Settings) (p : Path) (x : Session) :
    Ends (scanFile settings p) x
      (fun found y => Scanned x.disk settings.encoding p found.1 found.2 ∧
        ∃ err, y = { x with err })
      fun stop y => ∃ e, openScan x.disk p settings.encoding (some {}) = .error e ∧
        stop = .escaped (.ofOpenError e) ∧ y = x := by
  unfold scanFile
  refine (get_ends x _).bind ?_
  rintro _ _ ⟨rfl, rfl⟩
  cases hopen : openScan x.disk p settings.encoding (some {}) with
  | error e => exact .of_error rfl ⟨e, rfl, rfl, rfl⟩
  | ok o =>
    obtain ⟨layouts, hlayouts⟩ := exists_rest_of_openScan hopen
    obtain ⟨report, hreport, -⟩ := report_of_openScan hopen
    have hscanned : Scanned x.disk settings.encoding p layouts report :=
      ⟨o, hopen, hlayouts, hreport⟩
    dsimp only
    rw [hlayouts, hreport]
    cases hnotice : o.notice with
    | none => exact .of_ok rfl ⟨hscanned, x.err, rfl⟩
    | some message =>
      obtain ⟨text, htext⟩ := exists_noticeText message
      dsimp only
      rw [htext]
      exact .of_ok rfl ⟨hscanned, x.err ++ text, rfl⟩

/-! ## The dump command -/

/-- A dump of a source gets as far as its settings. -/
structure Starts (r : DumpRequest) (x : Session) (source : String) (settings : Settings) :
    Prop where
  source : r.source = some source
  mode : (r.json && r.output.isSome) = false
  settings : getSettings r.json r.config x = .ok settings x

/-- A command starts from one source, with one result of loading settings. -/
theorem Starts.unique {r : DumpRequest} {x y : Session} {source source' : String}
    {settings settings' : Settings} (h : Starts r x source settings)
    (hsource : r.source = some source')
    (hsettings : getSettings r.json r.config x = .ok settings' y) :
    source = source' ∧ settings = settings' := by
  have hsource' := h.source
  have hsettings' := h.settings
  rw [hsource] at hsource'
  rw [hsettings] at hsettings'
  cases hsource'
  cases hsettings'
  exact ⟨rfl, rfl⟩

/-- The ways for the dump command to end. -/
inductive DumpEnding (r : DumpRequest) (x : Session) :
    EStateM.Result Stop Session Unit → Prop where
  | noSource {stop : Stop} {y : Session} (hsource : r.source = none)
      (hend : Reported r.json "Source file argument is required" x stop y) :
      DumpEnding r x (.error stop y)
  | conflict {stop : Stop} {y : Session} (hmode : (r.json && r.output.isSome) = true)
      (hend : Reported true "--json and --output cannot be combined" x stop y) :
      DumpEnding r x (.error stop y)
  | unsettled {stop : Stop} {y : Session}
      (hsettings : getSettings r.json r.config x = .error stop y) : DumpEnding r x (.error stop y)
  | unopened {source : String} {settings : Settings} {e : OpenError}
      (hstarts : Starts r x source settings)
      (hopen : openScan x.disk (Path.ofString source) settings.encoding (some {}) = .error e) :
      DumpEnding r x (.error (.escaped (.ofOpenError e)) x)
  | strict {source err : String} {settings : Settings} {layouts : List Layout} {report : Report}
      {stop : Stop} {y : Session} (hstarts : Starts r x source settings)
      (hscanned : Scanned x.disk settings.encoding (Path.ofString source) layouts report)
      (hstrict : r.strict = true) (hpassed : report.passed = false)
      (hend : Reported r.json (diagnosed report source) { x with err } stop y) :
      DumpEnding r x (.error stop y)
  | delivered {source err : String} {settings : Settings} {layouts : List Layout}
      {report : Report} (hstarts : Starts r x source settings)
      (hscanned : Scanned x.disk settings.encoding (Path.ofString source) layouts report)
      (hstrict : r.strict = true → report.passed = true) :
      DumpEnding r x (deliver r source
        (dumpCode (some settings) (r.includeStdio || settings.includeStdio) layouts) layouts report
        { x with err })

/-- Remarks are shown, unless in JSON mode, and then the command stops. -/
theorem refuse_ends (json : Bool) (report : Report) (message : String) (k : α → Run β)
    (x : Session) :
    Ends
      (if (!json) = true then showReport report false >>= fun _ => fail json message >>= k
        else fail json message >>= k)
      x (fun _ _ => False) (Reported json message x) := by
  cases json with
  | true => exact fail_bind_ends (fun stop y h => h) k _
  | false =>
    refine (Prints.showReport report false x).chain ?_ ?_
    · intro stop y ⟨hstop, hdisk⟩
      exact ⟨hdisk, hstop, by simp⟩
    · intro _ y hdisk
      refine fail_bind_ends (fun stop z h => ?_) k _
      exact ⟨h.disk.trans hdisk, h.plain, by simp⟩

/-- The dump command ends in one of these ways. -/
theorem dump_ending (r : DumpRequest) (x : Session) : DumpEnding r x (dump r x) := by
  apply Ends.result_iff.mp
  unfold dump
  cases hsource : r.source with
  | none =>
    exact (fail_ends _ _ x).mono (fun _ _ h => h.elim) fun stop y h => .noSource hsource h
  | some source =>
    dsimp only
    cases hmode : r.json && r.output.isSome with
    | true =>
      rw [if_pos rfl]
      exact fail_bind_ends (fun stop y h => .conflict hmode h) _ _
    | false =>
      rw [if_neg (by simp)]
      refine (getSettings_loads r.json r.config x).chain (fun _ _ h => .unsettled h) ?_
      rintro settings _ ⟨rfl, hsettings⟩
      have hstarts : Starts r x source settings := ⟨hsource, hmode, hsettings⟩
      refine (scanFile_ends settings (Path.ofString source) x).chain ?_ ?_
      · rintro stop z ⟨e, hopen, rfl, rfl⟩
        exact .unopened hstarts hopen
      · rintro ⟨layouts, report⟩ z ⟨hscanned, err, rfl⟩
        dsimp only at hscanned ⊢
        cases hstrict : r.strict && !report.passed with
        | true =>
          rw [if_pos rfl]
          simp only [Bool.and_eq_true, Bool.not_eq_true'] at hstrict
          refine (refuse_ends r.json report _ _ { x with err }).mono (fun _ _ h => h.elim) ?_
          intro stop z h
          exact .strict hstarts hscanned hstrict.1 hstrict.2 h
        | false =>
          rw [if_neg (by simp)]
          refine Ends.result_iff.mpr (.delivered hstarts hscanned ?_)
          intro h
          simpa [h] using hstrict

/-! ## Delivery -/

/-- Writing code touches one file at most, and none if it fails. -/
theorem writeCode_ends (p : Path) (code : String) (x : Session) :
    Ends (writeCode p code) x
      (fun _ y => Disk.SameFilesButAt p x.disk y.disk)
      fun stop y => stop.Plain ∧ SameFiles x.disk.tree y.disk.tree := by
  have hfiles := Disk.writeAtomically_files x.salts p code "utf-8" x.disk
  unfold writeCode
  refine (get_ends x _).bind ?_
  rintro _ _ ⟨rfl, rfl⟩
  cases hwrite : Disk.writeAtomically x.salts p code "utf-8" x.disk with
  | ok u disk => exact .of_ok rfl (hfiles.ok hwrite)
  | error e disk =>
    obtain ⟨hwhy, hsame⟩ := hfiles.error hwrite
    have hat : e.AtDisk := by simpa [Disk.encodeText_utf8] using hwhy
    have hreported (message : String) : Ends (fail false message : Run Unit) { x with disk }
        (fun _ y => Disk.SameFilesButAt p x.disk y.disk)
        fun stop y => stop.Plain ∧ SameFiles x.disk.tree y.disk.tree := by
      refine (fail_ends false message _).mono (fun _ _ h => h.elim) fun stop y h => ?_
      exact ⟨h.plain, by rw [h.disk]; exact hsame⟩
    refine Ends.bind (Q := fun _ y => y = { x with disk }) (.of_ok rfl rfl) ?_
    rintro _ _ rfl
    cases hat with
    | os e => exact hreported _
    | noTemporaryName => exact hreported _
    | pathHoldsNul => exact .of_error rfl ⟨.escaped (by simp), hsame⟩
    | tooDeep => exact .of_error rfl ⟨.escaped (by simp), hsame⟩

/-- In JSON mode, one document is all that is printed. -/
theorem deliver_json {r : DumpRequest} (hjson : r.json = true) (source code : String)
    (layouts : List Layout) (report : Report) (x : Session) :
    deliver r source code layouts report x =
      .ok () { x with out := x.out ++ ((dumped source code layouts report).render ++ "\n") } := by
  simp only [deliver, hjson, if_true]
  rfl

/-- Code that goes to a file touches no other file, and code that goes elsewhere touches none. -/
theorem deliver_ends {r : DumpRequest} (hmode : (r.json && r.output.isSome) = false)
    (source code : String) (layouts : List Layout) (report : Report) (x : Session) :
    Ends (deliver r source code layouts report) x
      (fun _ y => (r.output = none → y.disk = x.disk) ∧
        ∀ output, r.output = some output →
          Disk.SameFilesButAt (Path.ofString output) x.disk y.disk)
      fun stop y => stop.Plain ∧ r.output.isSome ∧ SameFiles x.disk.tree y.disk.tree := by
  unfold deliver
  cases houtput : r.output with
  | none =>
    split
    · exact .of_ok rfl ⟨fun _ => rfl, by simp⟩
    · exact .of_ok rfl ⟨fun _ => rfl, by simp⟩
  | some output =>
    have hjson : r.json = false := by simpa [houtput] using hmode
    rw [if_neg (by simp [hjson])]
    refine (writeCode_ends (Path.ofString output) code x).chain ?_ ?_
    · rintro stop y ⟨hstop, hsame⟩
      exact ⟨hstop, rfl, hsame⟩
    · rintro _ y hwritten
      refine .of_ok rfl ⟨by simp, ?_⟩
      rintro _ ⟨rfl⟩
      exact hwritten

/-! ## The structs command -/

/-- What a listing says about a file. -/
def Lists (d : Disk) (encoding : String) (p : Path) (l : Listing) : Prop :=
  l.path = p ∧ Scanned d encoding p l.layouts l.report

/-- The ways for the structs command to end. -/
inductive ListEnding (r : ListRequest) (x : Session) :
    EStateM.Result Stop Session Unit → Prop where
  | nul {file : String} (hfile : file ∈ r.files) (hnul : (Path.ofString file).hasNul = true) :
      ListEnding r x (.error (.escaped .pathHoldsNul) x)
  | unsettled {stop : Stop} {y : Session}
      (hsettings : getSettings r.json r.config x = .error stop y) : ListEnding r x (.error stop y)
  | unopened {settings : Settings} {file err : String} {e : OpenError}
      (hnul : ∀ file ∈ r.files, (Path.ofString file).hasNul = false)
      (hsettings : getSettings r.json r.config x = .ok settings x) (hfile : file ∈ r.files)
      (hopen : openScan x.disk (Path.ofString file) settings.encoding (some {}) = .error e) :
      ListEnding r x (.error (.escaped (.ofOpenError e)) { x with err })
  | concluded {settings : Settings} {err : String} {listings : List Listing}
      (hsettings : getSettings r.json r.config x = .ok settings x)
      (hlistings : List.Forall₂ (Lists x.disk settings.encoding) (r.files.map Path.ofString)
        listings) :
      ListEnding r x (conclude r listings { x with err })

/-- A file is listed as it is scanned. -/
theorem listFile_ends (settings : Settings) (p : Path) (x : Session) :
    Ends (listFile settings p) x
      (fun l y => Lists x.disk settings.encoding p l ∧ ∃ err, y = { x with err })
      fun stop y => ∃ e, openScan x.disk p settings.encoding (some {}) = .error e ∧
        stop = .escaped (.ofOpenError e) ∧ y = x := by
  refine (scanFile_ends settings p x).bind ?_
  rintro ⟨layouts, report⟩ y ⟨hscanned, herr⟩
  exact .of_ok rfl ⟨⟨rfl, hscanned⟩, herr⟩

/-- All files are listed, unless one of them cannot be opened. -/
theorem listFiles_ends (settings : Settings) (paths : List Path) (x : Session) :
    Ends (paths.mapM (listFile settings)) x
      (fun listings y => (∃ err, y = { x with err }) ∧
        List.Forall₂ (Lists x.disk settings.encoding) paths listings)
      fun stop y => ∃ p ∈ paths, ∃ e err,
        openScan x.disk p settings.encoding (some {}) = .error e ∧
        stop = .escaped (.ofOpenError e) ∧ y = { x with err } := by
  refine Ends.mapM ?_ ⟨x.err, rfl⟩
  rintro p hp _ ⟨err, rfl⟩
  refine (listFile_ends settings p _).mono ?_ ?_
  · rintro l _ ⟨hl, err', rfl⟩
    exact ⟨⟨err', rfl⟩, hl⟩
  · rintro stop _ ⟨e, hopen, rfl, rfl⟩
    exact ⟨p, hp, e, err, hopen, rfl, rfl⟩

/-- The structs command ends in one of these ways. -/
theorem list_ending (r : ListRequest) (x : Session) : ListEnding r x (list r x) := by
  apply Ends.result_iff.mp
  unfold list
  dsimp only
  cases hnul : (r.files.map Path.ofString).any Path.hasNul with
  | true =>
    simp only [List.any_map, List.any_eq_true, Function.comp_apply] at hnul
    obtain ⟨file, hfile, hnul⟩ := hnul
    exact .of_error rfl (.nul hfile hnul)
  | false =>
    simp only [List.any_map, List.any_eq_false, Function.comp_apply, Bool.not_eq_true] at hnul
    rw [if_neg (by simp)]
    refine (getSettings_loads r.json r.config x).chain (fun _ _ h => .unsettled h) ?_
    rintro settings _ ⟨rfl, hsettings⟩
    refine (listFiles_ends settings _ x).chain ?_ ?_
    · rintro stop y ⟨p, hp, e, err, hopen, rfl, rfl⟩
      obtain ⟨file, hfile, rfl⟩ := List.mem_map.mp hp
      exact .unopened hnul hsettings hfile hopen
    · rintro listings _ ⟨⟨err, rfl⟩, hlistings⟩
      exact Ends.result_iff.mpr (.concluded hsettings hlistings)

/-- In JSON mode, one document is all that is printed; a strict command then tells of remarks. -/
theorem conclude_json {r : ListRequest} (hjson : r.json = true) (listings : List Listing)
    (x : Session) :
    conclude r listings x =
      let y := { x with out := x.out ++ ((listed listings).render ++ "\n") }
      if r.strict && listings.any fun l => !l.report.passed then .error (.exit 1) y
      else .ok () y := by
  have hfailed : (!(listings.filter fun l => !l.report.passed).isEmpty) =
      listings.any fun l => !l.report.passed := by
    rw [Bool.eq_iff_iff]
    simp
  unfold conclude
  simp only [hjson, if_true, hfailed, putJson]
  rw [bind_of_ok (putOut_eq _ x)]
  split
  · rfl
  · rfl

/-- The end of the structs command only prints. -/
theorem Prints.conclude (r : ListRequest) (listings : List Listing) :
    Prints (Command.conclude r listings) := by
  have hverdict (stops : Run Unit) (hstops : Prints stops) (b : Bool) :
      Prints (if b then stops else pure ()) := by
    cases b with
    | true => exact hstops
    | false => exact fun x => .of_ok rfl rfl
  unfold Command.conclude
  cases r.json with
  | true =>
    refine (Prints.putOut _).bind fun _ => hverdict _ ?_ _
    exact fun x => .of_error rfl ⟨.exit, rfl⟩
  | false =>
    simp only [Bool.false_eq_true, if_false]
    refine (Prints.forM (.showListing r.quiet) listings).bind fun _ => ?_
    exact hverdict _ (.fail _ _) _

/-! ## Programs -/

/-- A program carries out what it is asked to do. -/
theorem Program.run_of_read {p : Program} {line : List String} {i : Invocation}
    (hread : p.read line = some i) (x : Session) : p.run line x = .ofResult (i.run x) := by
  rw [run, hread]

/-- A program whose command line is misused does nothing. -/
theorem Program.run_of_misuse {p : Program} {line : List String} (hread : p.read line = none)
    (x : Session) : p.run line x = { status := misuse, session := x } := by
  rw [run, hread]

theorem Outcome.status_ofResult_error (stop : Stop) (y : Session) :
    (ofResult (.error stop y)).status = stop.status := by
  cases stop with
  | exit status => rfl
  | escaped e => rfl

theorem Outcome.session_ofResult_error (stop : Stop) (y : Session) :
    (ofResult (.error stop y)).session = y := by
  cases stop with
  | exit status => rfl
  | escaped e => rfl

end Command

end StructScan
