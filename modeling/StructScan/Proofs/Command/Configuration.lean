import StructScan.Proofs.Command.Endings
import StructScan.Proofs.Console.Styled
import StructScan.Proofs.Settings.Overlay

/-!
# Problems with the settings

A command takes its settings from the directory that it is told, or else from the nearest one that
has a settings file.  What is wrong with that directory, with the bytes of the file, with the
document or with a setting is told once, and the command stops.  The rest escapes: a path that is
too long, a directory in the place of the file, and values that stand too deep in one another to be
read or to be shown.

Main results:

- Theorem `Command.fail_told`: an error is told once, and nothing else happens.
- Theorem `Settings.loadFrom_eq`: how loading depends on what stands in the place of the file.
- Theorem `Command.getSettings_reports`: settings are loaded, or one error is told, or one escapes,
  and which errors escape.
-/

namespace StructScan

open Settings (rootOf HoldsDocument fileName)

/-! ## What can go wrong with a path -/

namespace Disk

theorem walk_error {t : FileTree} {loc : Location} {parts : List String} {e : Errno}
    (h : walk t loc parts = .error e) : e ∈ [.notFound, .notDirectory, .nameTooLong] := by
  induction parts generalizing loc with
  | nil => contradiction
  | cons part parts ih =>
    rw [walk] at h
    split at h
    · cases h
      simp
    · cases h
      simp
    · split at h
      · exact ih h
      · split at h
        · cases h
          simp
        · exact ih h

theorem find_error {d : Disk} {p : Path} {e : Errno} (h : d.find p = .error e) :
    e ∈ [.notFound, .notDirectory, .nameTooLong] := by
  unfold find at h
  cases hresolve : d.resolve p with
  | error e' =>
    rw [hresolve] at h
    cases h
    unfold resolve at hresolve
    split at hresolve
    · cases hresolve
      simp
    · split at hresolve
      · exact walk_error hresolve
      · exact walk_error hresolve
  | ok loc =>
    rw [hresolve] at h
    dsimp only [bind, Except.bind] at h
    split at h
    · contradiction
    · cases h
      simp

/-- Only a path that is too long cannot be looked at. -/
theorem probe_error {d : Disk} {p : Path} {e : Errno} (h : d.probe p = .error e) :
    e = .nameTooLong := by
  unfold probe at h
  split at h
  · contradiction
  · split at h
    · contradiction
    · contradiction
    · contradiction
    · rename_i e' hfound hdirectory hfind
      cases h
      have hmem := find_error hfind
      simp only [List.mem_cons, List.not_mem_nil, or_false] at hmem
      rcases hmem with rfl | rfl | rfl
      · exact absurd rfl hfound
      · exact absurd rfl hdirectory
      · rfl

end Disk

/-! ## Loading from a directory -/

namespace Settings

/-- How loading depends on what stands in the place of the settings file. -/
theorem loadFrom_eq (d : Disk) (root : Path) :
    loadFrom d root =
      match d.probe (root.join fileName) with
      | .error _ => .error (.os ⟨.nameTooLong, (root.join fileName).toString, none⟩)
      | .ok none => .ok { root }
      | .ok (some .directory) => .error (.os ⟨.isDirectory, (root.join fileName).toString, none⟩)
      | .ok (some (.file bytes)) =>
        (ofBytes root (root.join fileName) bytes).mapError .ofError := by
  unfold loadFrom
  dsimp only
  cases hprobe : d.probe (root.join fileName) with
  | error e =>
    obtain rfl := Disk.probe_error hprobe
    rfl
  | ok node =>
    cases node with
    | none => rfl
    | some node =>
      cases node with
      | directory => simp only [Disk.read_of_probe hprobe]
      | file bytes => simp only [Disk.read_of_probe hprobe]

/-- What the bytes of a settings file are too deep for. -/
theorem ofBytes_eq_tooDeep_iff {root file : Path} {bytes : Bytes} {o : Toml.Overflow} :
    ofBytes root file bytes = .error (.tooDeep o) ↔
      ∃ text, Encoding.Utf8.decode bytes = .ok text ∧
        (Toml.parse text = .error .tooDeep ∧ o = .reading ∨
          ∃ document, Toml.parse text = .ok document ∧
            ofDocument root document = .error (.tooDeep o)) := by
  unfold ofBytes
  cases Encoding.Utf8.decode bytes with
  | error e => simp
  | ok text =>
    cases hparse : Toml.parse text with
    | error e => cases e <;> simp [hparse, Error.ofToml, eq_comm]
    | ok document => simp [hparse]

end Settings

namespace Command

/-! ## Telling an error -/

/-- An error was told: as a document in JSON mode, and as text on the error stream otherwise. -/
inductive Told (message : String) (x : Session) : Bool → Session → Prop where
  | document : Told message x true { x with out := x.out ++ ((refusal message).render ++ "\n") }
  | text {text : String} (hprinted : Console.printUnfolded
      ("[red bold]error:[/red bold] " ++ Console.Markup.escape message) = .ok text) :
      Told message x false { x with err := x.err ++ text }

/-- An error is told once, and nothing else happens. -/
theorem fail_told (json : Bool) (message : String) (x : Session) :
    ∃ y, Told message x json y ∧ (fail json message : Run α) x = .error (.exit 1) y := by
  cases json with
  | true => exact ⟨_, .document, rfl⟩
  | false =>
    obtain ⟨shown, hshown⟩ := Console.Markup.render_error message
    have hprinted : Console.printUnfolded
        ("[red bold]error:[/red bold] " ++ Console.Markup.escape message) =
          .ok (Console.unlines ((Console.shownLines shown).map
            (Console.trimExcess Console.columns))) := by
      rw [Console.printUnfolded, hshown]
      rfl
    refine ⟨_, .text hprinted, ?_⟩
    simp only [fail, Bool.false_eq_true, if_false, hprinted]
    rfl

/-- Nothing comes after an error that is told. -/
theorem fail_bind (json : Bool) (message : String) (k : α → Run β) :
    (fail json message >>= k) = fail json message := by
  funext x
  cases json with
  | true => rfl
  | false =>
    simp only [fail, Bool.false_eq_true, if_false]
    cases Console.printUnfolded
      ("[red bold]error:[/red bold] " ++ Console.Markup.escape message) with
    | ok text => rfl
    | error e => rfl

/-! ## Settings -/

/-- The directory from which a command takes its settings; one that it is told has to be there. -/
structure TakesFrom (d : Disk) (config : Option String) (root : Path) : Prop where
  given : ∀ p, configRoot config = some p → d.probe p = .ok (some .directory)
  root : rootOf d (configRoot config) = some root

/-- What about the settings is not told: an error that escapes. -/
inductive Unreported (d : Disk) (config : Option String) : Escape → Prop where
  /-- The path of the directory is too long. -/
  | longDirectory {p : Path} (hroot : configRoot config = some p)
      (hprobe : d.probe p = .error .nameTooLong) :
      Unreported d config (.os ⟨.nameTooLong, p.toString, none⟩)
  /-- The path of the file is too long. -/
  | longFile {root : Path} (htakes : TakesFrom d config root)
      (hprobe : d.probe (root.join fileName) = .error .nameTooLong) :
      Unreported d config (.os ⟨.nameTooLong, (root.join fileName).toString, none⟩)
  /-- A directory stands in the place of the file. -/
  | directory {root : Path} (htakes : TakesFrom d config root)
      (hprobe : d.probe (root.join fileName) = .ok (some .directory)) :
      Unreported d config (.os ⟨.isDirectory, (root.join fileName).toString, none⟩)
  /-- Values stand too deep in one another to be read. -/
  | deepDocument {root : Path} {bytes : Bytes} {text : List Char}
      (htakes : TakesFrom d config root)
      (hprobe : d.probe (root.join fileName) = .ok (some (.file bytes)))
      (hdecode : Encoding.Utf8.decode bytes = .ok text)
      (hparse : Toml.parse text = .error .tooDeep) :
      Unreported d config (.settingsTooDeep .reading)
  /-- A value that is wrong stands too deep to be shown. -/
  | deepValue {root : Path} {document : Toml.Table} (htakes : TakesFrom d config root)
      (hdocument : HoldsDocument d root document)
      (hvalue : Settings.ofDocument root document = .error (.tooDeep .showing)) :
      Unreported d config (.settingsTooDeep .showing)

/-- Settings are taken from the directory that is told if it is there. -/
theorem getSettings_eq (json : Bool) (config : Option String) (x : Session) :
    getSettings json config x =
      match configRoot config with
      | none => settingsOf json (Settings.load x.disk none) x
      | some p =>
        match x.disk.probe p with
        | .error e => .error (.escaped (.os ⟨e, p.toString, none⟩)) x
        | .ok (some .directory) => settingsOf json (Settings.load x.disk (some p)) x
        | .ok _ => fail json s!"Config directory not found: {p.toString}" x := by
  rw [getSettings, bind_of_ok (get_eq x)]
  dsimp only
  cases configRoot config with
  | none => rfl
  | some p =>
    dsimp only
    cases x.disk.probe p with
    | error e => rfl
    | ok node =>
      cases node with
      | none => exact congrFun (fail_bind json _ _) x
      | some node =>
        cases node with
        | directory => rfl
        | file bytes => exact congrFun (fail_bind json _ _) x

namespace TakesFrom

variable {x : Session} {config : Option String} {root : Path}

theorem load_eq {d : Disk} (h : TakesFrom d config root) :
    Settings.load d (configRoot config) = Settings.loadFrom d root :=
  Settings.load_of_rootOf h.root

theorem getSettings_eq (h : TakesFrom x.disk config root) (json : Bool) :
    getSettings json config x = settingsOf json (Settings.loadFrom x.disk root) x := by
  rw [Command.getSettings_eq, ← h.load_eq]
  cases hroot : configRoot config with
  | none => rfl
  | some p => simp only [h.given p hroot]

/-- An error of loading is one of those that are told, or it escapes. -/
theorem unreported {d : Disk} (h : TakesFrom d config root) {e : Settings.LoadError}
    (hload : Settings.loadFrom d root = .error e) :
    (∃ e', e = .settings e') ∨
      ∃ e', Unreported d config e' ∧
        ∀ json x, settingsOf json (.error e) x = .error (.escaped e') x := by
  rw [Settings.loadFrom_eq] at hload
  cases hprobe : d.probe (root.join fileName) with
  | error errno =>
    obtain rfl := Disk.probe_error hprobe
    rw [hprobe] at hload
    cases hload
    exact .inr ⟨_, .longFile h hprobe, fun _ _ => rfl⟩
  | ok node =>
    rw [hprobe] at hload
    cases node with
    | none => contradiction
    | some node =>
      cases node with
      | directory =>
        cases hload
        exact .inr ⟨_, .directory h hprobe, fun _ _ => rfl⟩
      | file bytes =>
        dsimp only at hload
        cases hbytes : Settings.ofBytes root (root.join fileName) bytes with
        | ok settings => simp [hbytes, Except.mapError] at hload
        | error e' =>
          rw [hbytes] at hload
          cases hload
          cases e' with
          | tooDeep o =>
            refine .inr ⟨.settingsTooDeep o, ?_, fun _ _ => rfl⟩
            obtain ⟨text, hdecode, ⟨hparse, rfl⟩ | ⟨document, hparse, hvalue⟩⟩ :=
              Settings.ofBytes_eq_tooDeep_iff.mp hbytes
            · exact .deepDocument h hprobe hdecode hparse
            · obtain hreport | ⟨hshowing, -⟩ := Settings.ofDocument_raises root document _ hvalue
              · exact absurd rfl (hreport o)
              · cases hshowing
                exact .deepValue h ⟨bytes, text, hprobe, hdecode, hparse⟩ hvalue
          | _ => exact .inl ⟨_, rfl⟩

end TakesFrom

/-- How the search for settings ends. -/
inductive Settles (json : Bool) (config : Option String) (x : Session) :
    EStateM.Result Stop Session Settings → Prop where
  | loaded {settings : Settings}
      (hload : Settings.load x.disk (configRoot config) = .ok settings) :
      Settles json config x (.ok settings x)
  | told {message : String} {y : Session} (hreason : Unsettled x.disk config message)
      (htold : Told message x json y) : Settles json config x (.error (.exit 1) y)
  | escapes {e : Escape} (hreason : Unreported x.disk config e) :
      Settles json config x (.error (.escaped e) x)

/-- A directory to take the settings from: its file decides. -/
theorem TakesFrom.settles {x : Session} {config : Option String} {root : Path}
    (h : TakesFrom x.disk config root) (json : Bool) :
    Settles json config x (getSettings json config x) := by
  rw [h.getSettings_eq]
  cases hload : Settings.loadFrom x.disk root with
  | ok settings => exact .loaded (h.load_eq.trans hload)
  | error e =>
    obtain ⟨e, rfl⟩ | ⟨e', hreason, hescape⟩ := h.unreported hload
    · obtain ⟨y, htold, hfail⟩ := @fail_told Settings json e.message x
      rw [settingsOf, hfail]
      exact .told (.rejected (h.load_eq.trans hload)) htold
    · rw [hescape]
      exact .escapes hreason

/-- No directory where one was named. -/
theorem settles_missing {x : Session} {config : Option String} {p : Path} {node : Option Node}
    (hroot : configRoot config = some p) (hprobe : x.disk.probe p = .ok node)
    (hnode : node ≠ some .directory) (json : Bool) :
    Settles json config x (fail json s!"Config directory not found: {p.toString}" x) := by
  obtain ⟨y, htold, hfail⟩ :=
    @fail_told Settings json s!"Config directory not found: {p.toString}" x
  rw [hfail]
  exact .told (.noDirectory hroot hprobe hnode) htold

theorem getSettings_settles (json : Bool) (config : Option String) (x : Session) :
    Settles json config x (getSettings json config x) := by
  cases hroot : configRoot config with
  | none =>
    cases hfound : rootOf x.disk none with
    | some root => exact TakesFrom.settles ⟨by simp [hroot], by rw [hroot, hfound]⟩ json
    | none =>
      have hload := Settings.load_of_rootOf_none hfound
      simp only [getSettings_eq, hroot, hload]
      exact .loaded (hroot ▸ hload)
  | some p =>
    cases hprobe : x.disk.probe p with
    | error e =>
      obtain rfl := Disk.probe_error hprobe
      simp only [getSettings_eq, hroot, hprobe]
      exact .escapes (.longDirectory hroot hprobe)
    | ok node =>
      cases node with
      | none =>
        simp only [getSettings_eq, hroot, hprobe]
        exact settles_missing hroot hprobe (by simp) json
      | some node =>
        cases node with
        | directory =>
          refine @TakesFrom.settles x config p ⟨?_, by rw [hroot]; rfl⟩ json
          rintro _ hp
          rw [hroot] at hp
          cases hp
          exact hprobe
        | file bytes =>
          simp only [getSettings_eq, hroot, hprobe]
          exact settles_missing hroot hprobe (by simp) json

/-- What is not told escapes, and leaves everything as it was. -/
theorem Unreported.getSettings_eq {x : Session} {config : Option String} {e : Escape}
    (h : Unreported x.disk config e) (json : Bool) :
    getSettings json config x = .error (.escaped e) x := by
  cases h with
  | longDirectory hroot hprobe => simp only [Command.getSettings_eq, hroot, hprobe]
  | longFile htakes hprobe =>
    simp only [htakes.getSettings_eq, Settings.loadFrom_eq, hprobe]
    rfl
  | directory htakes hprobe =>
    simp only [htakes.getSettings_eq, Settings.loadFrom_eq, hprobe]
    rfl
  | @deepDocument root bytes text htakes hprobe hdecode hparse =>
    have hbytes : Settings.ofBytes root (root.join fileName) bytes =
        .error (.tooDeep .reading) :=
      Settings.ofBytes_eq_tooDeep_iff.mpr ⟨text, hdecode, .inl ⟨hparse, rfl⟩⟩
    simp only [htakes.getSettings_eq, Settings.loadFrom_eq, hprobe, hbytes]
    rfl
  | deepValue htakes hdocument hvalue =>
    rw [htakes.getSettings_eq, Settings.loadFrom_of_holdsDocument hdocument, hvalue]
    rfl

/--
Settings are loaded without any effect, or one error is told and the command exits with status 1,
or an error escapes.  The last happens if and only if a path is too long, a directory stands in
the place of the settings file, or values stand too deep in one another.
-/
theorem getSettings_reports (json : Bool) (config : Option String) (x : Session) :
    Settles json config x (getSettings json config x) ∧
      ∀ e, Unreported x.disk config e ↔ getSettings json config x = .error (.escaped e) x := by
  have hsettles := getSettings_settles json config x
  refine ⟨hsettles, fun e => ⟨fun h => h.getSettings_eq json, fun h => ?_⟩⟩
  rw [h] at hsettles
  cases hsettles with
  | escapes hreason => exact hreason

/-- A directory in the place of the settings file is not told. -/
theorem directory_in_place_escapes :
    let file := (Disk.absolute ["home"]).join fileName
    let disk : Disk :=
      ⟨["home"], ⟨[(["home"], .directory), (["home", fileName], .directory)]⟩, []⟩
    let e : Escape := .os ⟨.isDirectory, file.toString, none⟩
    (Program.full.run ["dump", "m.h"] { disk, salts := [] }).escaped = some e ∧
      (Program.full.run ["dump", "--json", "m.h"] { disk, salts := [] }).escaped = some e := by
  decide +kernel

end Command

end StructScan
