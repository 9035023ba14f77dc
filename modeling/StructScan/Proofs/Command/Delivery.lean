import StructScan.Command.Run
import StructScan.Proofs.Console.Escaping
import StructScan.Proofs.File.Scanned
import StructScan.Proofs.File.Written
import StructScan.Proofs.Json.Reading
import StructScan.Proofs.Settings.Loaded

/-!
# How generated code is delivered

The dump command prints its code, writes it to a file or puts it into a JSON document.  The code
is the same in all three ways: it is made of the layouts that a scan of the file finds, and the
console, the file and the document each hold it whole.  A file that cannot be opened has no
layouts, and the remark about it can always be printed.

Main results:

- Theorem `Layout.ofJson?_toJson`: a layout is found again in its JSON value.
- Theorem `Command.scanFile_of_openScan`: the command finds the layouts of the file.
- Theorem `Command.dump_eq_deliver`: so the three ways differ in the delivery of one code.
- Theorem `Command.dump_delivers`: what each way gives.
-/

namespace StructScan

/-! ## Texts on the console -/

namespace Console

/-- A text without an escape character has no control sequences to drop. -/
theorem dropSequences_of_notMem {n : Nat} {cs : List Char} (h : '\x1b' ∉ cs) :
    dropSequences n cs = cs := by
  fun_induction dropSequences n cs with
  | case1 => rfl
  | case2 => rfl
  | case3 => simp at h
  | case4 => simp at h
  | case5 => simp at h
  | case6 n c cs _ ih =>
    rw [ih]
    exact fun hmem => h (List.mem_cons_of_mem _ hmem)

/-- Such a text is written as it is. -/
theorem echo_of_notMem {s : String} (h : '\x1b' ∉ s.toList) : echo s = s := by
  rw [echo, dropSequences_of_notMem h, String.ofList_toList]

end Console

/-! ## Layouts in JSON values -/

namespace Json

/-- The value of a member of an object. -/
def member? (key : String) : Json → Option Json
  | object members => members.lookup key
  | _ => none

/-- The text of a string. -/
def text? : Json → Option String
  | string s => some s
  | _ => none

/-- The items of an array, each read in the same way. -/
def items? (read : Json → Option α) : Json → Option (List α)
  | array items => items.mapM read
  | _ => none

/-- Items are found again, if each of them is. -/
theorem items?_map {read : Json → Option α} {toJson : α → Json} {as : List α}
    (h : ∀ a ∈ as, read (toJson a) = some a) : items? read (array (as.map toJson)) = some as := by
  induction as with
  | nil => rfl
  | cons a as ih =>
    have hlater := ih fun b hb => h b (List.mem_cons_of_mem _ hb)
    simp only [items?] at hlater
    simp [items?, h a List.mem_cons_self, hlater]

end Json

/-- The field that a JSON value describes. -/
def Field.ofJson? (j : Json) : Option Field := do
  let typename ← (← j.member? "typename").text?
  let name ← (← j.member? "name").text?
  return ⟨typename, name⟩

/-- The layout that a JSON value describes. -/
def Layout.ofJson? (j : Json) : Option Layout := do
  let name ← (← j.member? "name").text?
  let fields ← (← j.member? "fields").items? Field.ofJson?
  return ⟨name, fields⟩

theorem Field.ofJson?_toJson (f : Field) : Field.ofJson? f.toJson = some f :=
  rfl

/-- A layout is found again in its JSON value. -/
theorem Layout.ofJson?_toJson (l : Layout) : Layout.ofJson? l.toJson = some l := by
  have hname : l.toJson.member? "name" = some (.string l.name) := rfl
  have hfields : l.toJson.member? "fields" = some (.array (l.fields.map Field.toJson)) := rfl
  simp [ofJson?, hname, hfields, Json.text?, Json.items?_map fun f _ => Field.ofJson?_toJson f]

/-- So is each layout of a list. -/
theorem Layout.items?_toJson (ls : List Layout) :
    Json.items? Layout.ofJson? (.array (ls.map Layout.toJson)) = some ls :=
  Json.items?_map fun l _ => Layout.ofJson?_toJson l

/-! ## Bytes of a text -/

/-- In UTF-8 every text can be written, and its bytes are those that the string consists of. -/
theorem Disk.encodeText_utf8 (text : String) :
    encodeText text "utf-8" = .ok text.toUTF8.data.toList := by
  have hencoding : Encoding.ofName "utf-8" = .ok .utf8 := Encoding.ofName_name .utf8
  have hbytes : Encoding.Utf8.encode text.toList = text.toUTF8.data.toList := by
    rw [String.toUTF8, ← String.utf8Encode_toList, List.utf8Encode, List.data_toByteArray]
    rfl
  simp only [encodeText, Encoding.isName_utf8, hencoding, Bool.not_true, Bool.false_eq_true,
    if_false, Encoding.encode?, hbytes]

namespace Command

/-! ## Running one computation after another -/

/-- What comes after a computation that succeeded is run on its results. -/
theorem bind_of_ok {m : Run α} {k : α → Run β} {x y : Session} {a : α} (h : m x = .ok a y) :
    (m >>= k) x = k a y := by
  simp only [bind, EStateM.bind, h]

theorem get_eq (x : Session) : (get : Run Session) x = .ok x x :=
  rfl

theorem set_eq (x y : Session) : (set y : Run Unit) x = .ok () y :=
  rfl

theorem putOut_eq (s : String) (x : Session) :
    putOut s x = .ok () { x with out := x.out ++ s } :=
  rfl

theorem putErr_eq (s : String) (x : Session) :
    putErr s x = .ok () { x with err := x.err ++ s } :=
  rfl

/-- An error that is not handled is no success. -/
theorem escape_ne_ok (e : Escape) (x y : Session) (a : α) : escape e x ≠ .ok a y := by
  intro h
  contradiction

/-- An error that is reported is no success either. -/
theorem fail_ne_ok (json : Bool) (message : String) (x y : Session) (a : α) :
    fail json message x ≠ .ok a y := by
  intro h
  -- Whatever is printed first, the last thing to happen is a stop.
  have hstop (z : Session) : (throw (.exit 1) : Run α) z ≠ .ok a y := by
    intro h
    contradiction
  cases json
  all_goals
    obtain ⟨u, z, -, h⟩ := exists_of_bind h
    exact hstop z h

/-! ## Settings -/

/--
A computation that, if it succeeds, has no effect and gives the same result in JSON mode and out
of it.  The result has a given property.
-/
def Steady (m : Bool → Run α) (P : α → Prop) : Prop :=
  ∀ json x a y, m json x = .ok a y → P a ∧ ∀ json', m json' x = .ok a x

namespace Steady

variable {P : α → Prop} {Q : β → Prop}

/-- A result is the same in either mode. -/
theorem ret {a : α} (h : P a) : Steady (fun _ => pure a) P := by
  intro json x b y hb
  cases hb
  exact ⟨h, fun _ => rfl⟩

theorem get : Steady (fun _ => MonadState.get) fun _ => True := by
  intro json x b y hb
  cases hb
  exact ⟨trivial, fun _ => rfl⟩

theorem fail (message : String) : Steady (fun json => Command.fail json message) P := by
  intro json x a y h
  exact absurd h (fail_ne_ok json message x y a)

theorem escape (e : Escape) : Steady (fun _ => Command.escape e) P := by
  intro json x a y h
  exact absurd h (escape_ne_ok e x y a)

/-- One after the other, two computations that do not depend on the mode do not either. -/
theorem bind {m : Bool → Run α} {k : α → Bool → Run β} (hm : Steady m P)
    (hk : ∀ a, P a → Steady (k a) Q) : Steady (fun json => m json >>= fun a => k a json) Q := by
  intro json x b y h
  obtain ⟨a, z, hfirst, h⟩ := exists_of_bind h
  obtain ⟨ha, hsame⟩ := hm json x a z hfirst
  -- The first computation left the session as it was.
  obtain rfl : x = z := by
    have hz := hsame json
    rw [hfirst] at hz
    cases hz
    rfl
  obtain ⟨hb, hsame'⟩ := hk a ha json x b y h
  refine ⟨hb, fun json' => ?_⟩
  dsimp only
  rw [bind_of_ok (hsame json')]
  exact hsame' json'

end Steady

/-- What is loaded does not depend on the mode. -/
theorem settingsOf_steady (d : Disk) (root : Option Path) :
    Steady (fun json => settingsOf json (Settings.load d root)) fun settings =>
      Encoding.isName settings.encoding = true := by
  cases hload : Settings.load d root with
  | ok settings => exact .ret (Settings.isKnown_of_load hload).isName
  | error e =>
    cases e with
    | settings e => exact .fail e.message
    | tooDeep o => exact .escape (.settingsTooDeep o)
    | os e => exact .escape (.os e)

/-- Settings are loaded without any effect, and alike in JSON mode and out of it. -/
theorem getSettings_steady (config : Option String) :
    Steady (fun json => getSettings json config) fun settings =>
      Encoding.isName settings.encoding = true := by
  unfold getSettings
  refine Steady.bind Steady.get fun s _ => ?_
  lift_lets
  intro d root
  clear_value root
  have hloaded := settingsOf_steady d root
  cases root with
  | none => exact hloaded
  | some p =>
    dsimp only
    cases d.probe p with
    | error e => exact .bind (P := fun _ => True) (.escape _) fun _ _ => hloaded
    | ok node =>
      -- Only a directory lets the settings be loaded.
      cases node with
      | none => exact .bind (P := fun _ => True) (.fail _) fun _ _ => hloaded
      | some node =>
        cases node with
        | directory => exact hloaded
        | file bytes => exact .bind (P := fun _ => True) (.fail _) fun _ _ => hloaded

/-! ## The scan of the command -/

/-- The remark about a file that cannot be opened can always be printed. -/
theorem exists_noticeText (message : String) : ∃ text, noticeText message = .ok text := by
  obtain ⟨shown, hshown⟩ := Console.Markup.render_yellow message
  rw [noticeText, Console.printUnfolded, hshown]
  exact ⟨_, rfl⟩

/-- The command finds the layouts of a file, and prints no more than a remark on the way. -/
theorem scanFile_of_openScan {settings : Settings} {p : Path} {x : Session} {o : OpenedScan}
    {layouts : List Layout} (hopen : openScan x.disk p settings.encoding = .ok o)
    (hrest : o.scan.rest.1 = .ok layouts) :
    ∃ report err, scanFile settings p x = .ok (layouts, report) { x with err } := by
  rw [openScan_unreported _ _ _ (some {})] at hopen
  cases hreported : openScan x.disk p settings.encoding (some {}) with
  | error e =>
    rw [hreported] at hopen
    contradiction
  | ok o' =>
    rw [hreported] at hopen
    cases hopen
    change o'.scan.unreported.rest.1 = .ok layouts at hrest
    rw [Scan.rest_unreported] at hrest
    dsimp only at hrest
    rw [scanFile, bind_of_ok (get_eq x)]
    dsimp only
    rw [hreported]
    cases hnotice : o'.notice with
    | none =>
      refine ⟨o'.scan.rest.2.report.getD {}, x.err, ?_⟩
      simp [hnotice, hrest, pure, EStateM.pure, Except.toOption]
    | some message =>
      obtain ⟨text, htext⟩ := exists_noticeText message
      refine ⟨o'.scan.rest.2.report.getD {}, x.err ++ text, ?_⟩
      simp [hnotice, hrest, htext, bind, EStateM.bind, pure, EStateM.pure, Except.toOption,
        putPrinted, putErr_eq]

/-! ## Delivery -/

/-- Unless it is strict, the command delivers the code for the layouts that it finds. -/
theorem dump_eq_deliver {r : DumpRequest} {source : String} {x y : Session} {settings : Settings}
    {layouts : List Layout} {report : Report} (hsource : r.source = some source)
    (hstrict : r.strict = false) (hmode : (r.json && r.output.isSome) = false)
    (hsettings : getSettings r.json r.config x = .ok settings x)
    (hscan : scanFile settings (Path.ofString source) x = .ok (layouts, report) y) :
    dump r x = deliver r source
      (dumpCode (some settings) (r.includeStdio || settings.includeStdio) layouts)
      layouts report y := by
  simp only [dump, hsource, hmode, hstrict, Bool.false_eq_true, if_false, Bool.false_and]
  rw [bind_of_ok hsettings, bind_of_ok hscan]

/-- Code is written exactly if its text can be, and nothing is printed about it. -/
theorem writeCode_eq_ok_iff {p : Path} {code : String} {x y : Session} :
    writeCode p code x = .ok () y ↔
      ∃ disk', Disk.writeAtomically x.salts p code "utf-8" x.disk = .ok () disk' ∧
        y = { x with disk := disk' } := by
  rw [writeCode, bind_of_ok (get_eq x)]
  cases Disk.writeAtomically x.salts p code "utf-8" x.disk with
  | ok u disk' =>
    simp only [set_eq, EStateM.Result.ok.injEq, true_and, exists_eq_left']
    exact eq_comm
  | error e disk' =>
    simp only [reduceCtorEq, false_and, exists_false, iff_false]
    intro h
    rw [bind_of_ok (set_eq x _)] at h
    cases e with
    | os e => exact fail_ne_ok _ _ _ _ _ h
    | noTemporaryName => exact fail_ne_ok _ _ _ _ _ h
    | pathHoldsNul => exact escape_ne_ok _ _ _ _ h
    | encodingHoldsNul => exact escape_ne_ok _ _ _ _ h
    | encoding e => exact escape_ne_ok _ _ _ _ h
    | unencodable => exact escape_ne_ok _ _ _ _ h
    | tooDeep => exact escape_ne_ok _ _ _ _ h

section Deliver

variable {r : DumpRequest} {source code output : String} {layouts : List Layout} {report : Report}
  {x y : Session}

/-- Code without escape characters is printed as it is. -/
theorem deliver_printed (hjson : r.json = false) (houtput : r.output = none)
    (h : '\x1b' ∉ code.toList) :
    deliver r source code layouts report x = .ok () { x with out := x.out ++ code } := by
  simp only [deliver, hjson, houtput, Bool.false_eq_true, if_false]
  rw [Console.echo_of_notMem h, putOut_eq]

/-- Code is delivered to a file exactly if it can be written there. -/
theorem deliver_written_iff (hjson : r.json = false) (houtput : r.output = some output) :
    deliver r source code layouts report x = .ok () y ↔
      ∃ disk',
        Disk.writeAtomically x.salts (Path.ofString output) code "utf-8" x.disk = .ok () disk' ∧
        y = { x with disk := disk', err := x.err ++ writtenText layouts.length output } := by
  simp only [deliver, hjson, houtput, Bool.false_eq_true, if_false]
  constructor
  · intro h
    obtain ⟨u, z, hwritten, h⟩ := exists_of_bind h
    obtain ⟨disk', hdisk, rfl⟩ := writeCode_eq_ok_iff.mp hwritten
    cases h
    exact ⟨disk', hdisk, rfl⟩
  · rintro ⟨disk', hdisk, rfl⟩
    rw [bind_of_ok (writeCode_eq_ok_iff.mpr ⟨disk', hdisk, rfl⟩), putErr_eq]

/-- A document is printed that holds the code and the layouts. -/
theorem deliver_answered (hjson : r.json = true) (source code : String) (layouts : List Layout)
    (report : Report) (x : Session) :
    ∃ printed document,
      deliver r source code layouts report x = .ok () { x with out := x.out ++ printed } ∧
      Json.read? printed = some document ∧
      (document.member? "code").bind Json.text? = some code ∧
      (document.member? "structs").bind (Json.items? Layout.ofJson?) = some layouts := by
  simp only [deliver, hjson, if_true]
  refine ⟨_, _, rfl, Json.read?_render _, rfl, ?_⟩
  exact Layout.items?_toJson layouts

end Deliver

/--
How a request that asks for neither an output file nor JSON mode is met, and how it is met if it
asks for one of them.
-/
structure Delivers (x : Session) (r : DumpRequest) (layouts : List Layout) (code : String) :
    Prop where
  /-- Exactly the code goes to the standard output, unless it has an escape character. -/
  prints : '\x1b' ∉ code.toList →
    ∃ err, dump r x = .ok () { x with out := x.out ++ code, err }
  /-- Code that can be written is found in the file as its bytes; the standard output stays. -/
  writes : ∀ output disk',
    Disk.writeAtomically x.salts (Path.ofString output) code "utf-8" x.disk = .ok () disk' →
    disk'.read (Path.ofString output) = .ok code.toUTF8.data.toList ∧
      ∃ err, dump { r with output := some output } x = .ok () { x with disk := disk', err }
  /-- A command that succeeds has written the code. -/
  written : ∀ output y,
    dump { r with output := some output } x = .ok () y →
    ∃ disk',
      Disk.writeAtomically x.salts (Path.ofString output) code "utf-8" x.disk = .ok () disk'
  /-- A document goes to the standard output that holds the code and the layouts. -/
  answers : ∃ printed document err,
    dump { r with json := true } x = .ok () { x with out := x.out ++ printed, err } ∧
    Json.read? printed = some document ∧
    (document.member? "code").bind Json.text? = some code ∧
    (document.member? "structs").bind (Json.items? Layout.ofJson?) = some layouts

/--
The three ways of delivery agree.  Whatever is on the disk, if the settings can be loaded and
their encoding is one for texts, a source without a NUL character is scanned to its end, and the
code for its layouts is what is printed, what is written and what stands in the document.
-/
theorem dump_delivers {json : Bool} {config : Option String} {x y : Session}
    {settings : Settings} {e : Encoding} {source : String}
    (hsettings : getSettings json config x = .ok settings y)
    (hencoding : Encoding.ofName settings.encoding = .ok e)
    (hnul : (Path.ofString source).hasNul = false) (includeStdio : Bool) :
    ∃ opened layouts,
      openScan x.disk (Path.ofString source) settings.encoding = .ok opened ∧
      opened.scan.rest.1 = .ok layouts ∧
      Delivers x { source := some source, includeStdio, config } layouts
        (dumpCode (some settings) (includeStdio || settings.includeStdio) layouts) := by
  obtain ⟨hname, hsettings⟩ := getSettings_steady config json x settings y hsettings
  obtain ⟨opened, hopen⟩ := exists_openScan hnul hname hencoding x.disk none
  obtain ⟨layouts, hrest⟩ := exists_rest_of_openScan hopen
  obtain ⟨report, err, hscan⟩ := scanFile_of_openScan hopen hrest
  refine ⟨opened, layouts, hopen, hrest, ?_⟩
  -- The requests that differ in mode only all deliver the same code from the same session.
  have hdump (output : Option String) (json : Bool) (hmode : (json && output.isSome) = false) :=
    @dump_eq_deliver { source := some source, output, includeStdio, json, config } source x _
      settings layouts report rfl rfl hmode (hsettings json) hscan
  constructor
  · intro hcode
    refine ⟨err, ?_⟩
    rw [hdump none false rfl]
    exact deliver_printed rfl rfl hcode
  · intro output disk' hwritten
    obtain ⟨-, bytes, hbytes, hread⟩ := Disk.read_of_writeAtomically hwritten
    rw [Disk.encodeText_utf8] at hbytes
    cases hbytes
    refine ⟨hread, err ++ writtenText layouts.length output, ?_⟩
    rw [hdump (some output) false rfl]
    exact (deliver_written_iff rfl rfl).mpr ⟨disk', hwritten, rfl⟩
  · intro output y h
    rw [hdump (some output) false rfl] at h
    obtain ⟨disk', hwritten, -⟩ := (deliver_written_iff rfl rfl).mp h
    exact ⟨disk', hwritten⟩
  · obtain ⟨printed, document, hprinted, hread⟩ :=
      @deliver_answered { source := some source, includeStdio, json := true, config } rfl source
        (dumpCode (some settings) (includeStdio || settings.includeStdio) layouts) layouts report
        { x with err }
    exact ⟨printed, document, err, (hdump none true rfl).trans hprinted, hread⟩

/-- Code with a quote and with characters beyond ASCII and beyond the first plane. -/
theorem dump_delivers_beyond_ascii :
    let config := "[dump]\nprefix = 'é\"𐍈_'\ninclude_stdio = true\n"
    let text := "struct point \x7b long x; \x7d;\nstruct\n"
    let disk : Disk :=
      ⟨["home"],
        ⟨[(["home"], .directory),
          (["home", Settings.fileName], .file config.toUTF8.data.toList),
          (["home", "a.c"], .file text.toUTF8.data.toList)]⟩, []⟩
    let x : Session := { disk, salts := ["salt"] }
    ∃ settings y,
      getSettings false none x = .ok settings y ∧ settings.functionPrefix = "é\"𐍈_" ∧
      Encoding.ofName settings.encoding = .ok .utf8 ∧
      (Path.ofString "./a.c").hasNul = false ∧
      ∃ opened layouts,
        openScan x.disk (Path.ofString "./a.c") settings.encoding = .ok opened ∧
        opened.scan.rest.1 = .ok layouts ∧
        Delivers x { source := some "./a.c", includeStdio := false, config := none } layouts
          (dumpCode (some settings) (false || settings.includeStdio) layouts) := by
  intro config text disk x
  have hchosen : (match getSettings false none x with
      | .ok settings _ => settings.functionPrefix == "é\"𐍈_" && settings.encoding == "utf-8"
      | .error _ _ => false) = true := by
    decide +kernel
  have hnul : (Path.ofString "./a.c").hasNul = false := by decide +kernel
  cases hsettings : getSettings false none x with
  | error stop y => simp [hsettings] at hchosen
  | ok settings y =>
    simp only [hsettings, Bool.and_eq_true, beq_iff_eq] at hchosen
    obtain ⟨hstart, hname⟩ := hchosen
    have hencoding : Encoding.ofName settings.encoding = .ok .utf8 := by
      rw [hname]
      exact Encoding.ofName_name .utf8
    exact ⟨settings, y, rfl, hstart, hencoding, hnul,
      dump_delivers hsettings hencoding hnul false⟩

end Command

end StructScan
