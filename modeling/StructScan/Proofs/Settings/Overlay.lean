import StructScan.Proofs.Settings.Loaded
import StructScan.Proofs.Toml.Tables

/-!
# What a document makes of the settings

A document is accepted if everything it says about a setting has the right type.  Each setting is
then the value of the document or the default one, and nothing else in the document matters.  A
document that is not accepted is reported with the value that is wrong, unless that value stands too
deep to be shown.

Main results:

- Theorem `ofDocument_eq_ok_iff`: the documents that are accepted, and the settings they give.
- Theorem `ofDocument_raises`: how the others are refused.
- Theorem `ofDocument_congr`: what a document says besides has no effect.
- Theorem `load_document`: the same of the settings that are loaded from a disk.
-/

namespace StructScan

open Toml

/-! ## Kinds of values -/

/-- A value that is a string. -/
def Toml.Value.IsText (v : Value) : Prop :=
  ∃ s, v = .string s

/-- A value that is a truth value. -/
def Toml.Value.IsFlag (v : Value) : Prop :=
  ∃ b, v = .boolean b

/-- A value that is a table. -/
def Toml.Value.IsTable (v : Value) : Prop :=
  ∃ entries, v = .table entries

namespace Settings

/-- The string that is there, or the default. -/
def textOr (default : String) : Option Value → String
  | some (.string s) => s
  | _ => default

/-- The truth value that is there, or the default. -/
def flagOr (default : Bool) : Option Value → Bool
  | some (.boolean b) => b
  | _ => default

/-- The table that is there, or the empty one. -/
def tableOf : Option Value → Table
  | some (.table entries) => entries
  | _ => []

/-- What a document says about a key of a section. -/
def setting? (document : Table) (name key : String) : Option Value :=
  (tableOf (document.lookup name)).lookup key

/-- The printf conversion that a table gives to a type. -/
def conversionIn (entries : Table) (typename : String) : Option String :=
  match entries.lookup typename with
  | some (.string spec) => some spec
  | _ => none

/-- The printf conversion that a document gives to a type. -/
def conversion? (document : Table) (typename : String) : Option String :=
  conversionIn (tableOf (setting? document "dump" "formats")) typename

/-- A document that says nothing wrong about a setting. -/
structure WellTyped (document : Table) : Prop where
  parser : ∀ v ∈ document.lookup "parser", v.IsTable
  dump : ∀ v ∈ document.lookup "dump", v.IsTable
  encoding : ∀ v ∈ setting? document "parser" "encoding", ∃ name, v = .string name ∧
    Encoding.IsKnown name
  formats : ∀ v ∈ setting? document "dump" "formats", ∃ entries, v = .table entries ∧
    ∀ e ∈ entries, e.2.IsText
  functionPrefix : ∀ v ∈ setting? document "dump" "prefix", v.IsText
  fallback : ∀ v ∈ setting? document "dump" "fallback", v.IsText
  includeStdio : ∀ v ∈ setting? document "dump" "include_stdio", v.IsFlag

/-- Settings that are those of a document, or the default ones. -/
structure Overlays (root : Path) (document : Table) (s : Settings) : Prop where
  root : s.root = root
  encoding : s.encoding = textOr "utf-8" (setting? document "parser" "encoding")
  functionPrefix : s.functionPrefix = textOr "var_dump_" (setting? document "dump" "prefix")
  fallback : s.fallback = textOr "%x" (setting? document "dump" "fallback")
  includeStdio : s.includeStdio = flagOr false (setting? document "dump" "include_stdio")
  formatSpecifier (typename : String) : Settings.formatSpecifier (some s) typename =
    (conversion? document typename).getD
      (if typename = "int" then "%d" else if typename = "long" then "%ld" else s.fallback)

/-- A value of a document by which a setting is determined. -/
inductive Determines (document : Table) : Value → Prop where
  | encoding {v : Value} (h : setting? document "parser" "encoding" = some v) :
      Determines document v
  | dump {v : Value} (key : String) (hkey : key ∈ ["prefix", "fallback", "include_stdio"])
      (h : setting? document "dump" key = some v) : Determines document v
  | conversion {v : Value} (typename : String)
      (h : (typename, v) ∈ tableOf (setting? document "dump" "formats")) : Determines document v

/-- Sections, if there are any, that agree on some keys. -/
structure SameSection (keys : List String) (found found' : Option Value) : Prop where
  isTable : (∀ v ∈ found, v.IsTable) ↔ ∀ v ∈ found', v.IsTable
  lookup : ∀ key ∈ keys, (tableOf found).lookup key = (tableOf found').lookup key

/-- Documents that say the same about all settings. -/
structure Agree (document document' : Table) : Prop where
  parser : SameSection ["encoding"] (document.lookup "parser") (document'.lookup "parser")
  dump : SameSection ["formats", "prefix", "fallback", "include_stdio"]
    (document.lookup "dump") (document'.lookup "dump")

/-! ## Single settings -/

section Lookup

variable {t : Table} {name key : String}

/-- A section is a table, or empty where there is none. -/
theorem sectionOf_eq_ok_iff {entries : Table} :
    sectionOf t key name = .ok entries ↔
      (∀ v ∈ t.lookup key, v.IsTable) ∧ entries = tableOf (t.lookup key) := by
  unfold sectionOf
  cases t.lookup key with
  | none => simp [tableOf, eq_comm]
  | some v => cases v <;> simp [tableOf, Value.IsTable, eq_comm]

/-- A section that is no table is refused. -/
theorem sectionOf_eq_error (h : ¬ ∀ v ∈ t.lookup key, v.IsTable) :
    sectionOf t key name = .error (.notTable name) := by
  unfold sectionOf
  cases hfound : t.lookup key with
  | none => simp [hfound] at h
  | some v => cases v <;> simp_all [Value.IsTable]

/-- A text setting is a text, or its default where there is none. -/
theorem textSetting_eq_ok_iff {default s : String} :
    textSetting t name key default = .ok s ↔
      (∀ v ∈ t.lookup key, v.IsText) ∧ s = textOr default (t.lookup key) := by
  unfold textSetting
  cases t.lookup key with
  | none => simp [textOr, eq_comm]
  | some v => cases v <;> simp [textOr, Value.IsText, eq_comm]

/-- So is a flag. -/
theorem flagSetting_eq_ok_iff {default b : Bool} :
    flagSetting t name key default = .ok b ↔
      (∀ v ∈ t.lookup key, v.IsFlag) ∧ b = flagOr default (t.lookup key) := by
  unfold flagSetting
  cases t.lookup key with
  | none => simp [flagOr, eq_comm]
  | some v => cases v <;> simp [flagOr, Value.IsFlag, eq_comm]

/-- An encoding is taken if it is known. -/
theorem knownEncoding_eq_ok_iff {encoding known : String} :
    knownEncoding encoding = .ok known ↔ Encoding.IsKnown encoding ∧ known = encoding := by
  constructor
  · intro h
    unfold knownEncoding at h
    split at h
    · contradiction
    · rename_i hname
      split at h
      · rename_i codec hcodec
        cases h
        exact ⟨⟨by simpa using hname, codec, hcodec⟩, rfl⟩
      · contradiction
  · rintro ⟨⟨hname, codec, hcodec⟩, rfl⟩
    simp [knownEncoding, hname, hcodec]

end Lookup

/-! ## Conversions -/

/-- What is no string among the conversions is refused. -/
theorem exists_overlayFormats_iff {formats : List (String × String)} {entries : Table} :
    (∃ formats', overlayFormats formats entries = .ok formats') ↔ ∀ e ∈ entries, e.2.IsText := by
  induction entries generalizing formats with
  | nil => simp [overlayFormats]
  | cons e entries ih =>
    obtain ⟨typename, v⟩ := e
    cases v <;> simp [overlayFormats, ih, Value.IsText]

/-- A conversion of the document comes before those that are overlaid. -/
theorem lookup_overlayFormats {formats formats' : List (String × String)} {entries : Table}
    (hkeys : (entries.map Prod.fst).Nodup)
    (h : overlayFormats formats entries = .ok formats') (typename : String) :
    formats'.lookup typename = (conversionIn entries typename).or (formats.lookup typename) := by
  induction entries generalizing formats with
  | nil =>
    cases h
    rfl
  | cons e entries ih =>
    obtain ⟨typename', v⟩ := e
    rw [List.map_cons, List.nodup_cons] at hkeys
    obtain ⟨hnew, hkeys⟩ := hkeys
    cases v with
    | string spec =>
      rw [overlayFormats] at h
      rw [ih hkeys h, lookup_putFormat, conversionIn, conversionIn, List.lookup_cons]
      by_cases hsame : typename = typename'
      · subst hsame
        have hnone : entries.lookup typename = none := by
          rw [List.lookup_eq_none_iff]
          intro e he
          have hne : typename ≠ e.1 := fun heq =>
            hnew (List.mem_map.mpr ⟨e, he, heq.symm⟩)
          simpa using hne
        simp [hnone]
      · simp [beq_false_of_ne hsame, hsame]
    | _ => contradiction

/-! ## Documents -/

/-- The name of an encoding, which is the default one or a known one. -/
theorem encoding_iff {found : Option Value} :
    (∀ v ∈ found, v.IsText) ∧ Encoding.IsKnown (textOr "utf-8" found) ↔
      ∀ v ∈ found, ∃ name, v = .string name ∧ Encoding.IsKnown name := by
  cases found with
  | none => simp [textOr, Encoding.isKnown_utf8]
  | some v => cases v <;> simp [textOr, Value.IsText]

/-- A table of conversions, which are strings. -/
theorem conversions_iff {found : Option Value} :
    (∀ v ∈ found, v.IsTable) ∧ (∀ e ∈ tableOf found, e.2.IsText) ↔
      ∀ v ∈ found, ∃ entries, v = .table entries ∧ ∀ e ∈ entries, e.2.IsText := by
  cases found with
  | none => simp [tableOf]
  | some v => cases v <;> simp [tableOf, Value.IsTable]

/-- The documents that are accepted, and the settings that they give. -/
theorem ofDocument_eq_ok_iff {root : Path} {document : Table} {s : Settings} :
    ofDocument root document = .ok s ↔
      WellTyped document ∧
        ∃ formats, overlayFormats ({} : Settings).formats
            (tableOf (setting? document "dump" "formats")) = .ok formats ∧
          s = { root, formats
                encoding := textOr "utf-8" (setting? document "parser" "encoding")
                functionPrefix := textOr "var_dump_" (setting? document "dump" "prefix")
                fallback := textOr "%x" (setting? document "dump" "fallback")
                includeStdio := flagOr false (setting? document "dump" "include_stdio") } := by
  simp only [ofDocument, bind_eq_ok_iff, sectionOf_eq_ok_iff, textSetting_eq_ok_iff,
    flagSetting_eq_ok_iff, knownEncoding_eq_ok_iff]
  constructor
  · rintro ⟨_, ⟨hparser, rfl⟩, _, ⟨hdump, rfl⟩, _, ⟨htext, rfl⟩, _, ⟨hknown, rfl⟩, _,
      ⟨htable, rfl⟩, formats, hformats, _, ⟨hstart, rfl⟩, _, ⟨hfallback, rfl⟩, _, ⟨hflag, rfl⟩, h⟩
    cases h
    have hconversions := exists_overlayFormats_iff.mp ⟨formats, hformats⟩
    exact ⟨⟨hparser, hdump, encoding_iff.mp ⟨htext, hknown⟩,
      conversions_iff.mp ⟨htable, hconversions⟩, hstart, hfallback, hflag⟩, formats, hformats, rfl⟩
  · rintro ⟨hwell, formats, hformats, rfl⟩
    obtain ⟨htext, hknown⟩ := encoding_iff.mpr hwell.encoding
    exact ⟨_, ⟨hwell.parser, rfl⟩, _, ⟨hwell.dump, rfl⟩, _, ⟨htext, rfl⟩, _, ⟨hknown, rfl⟩, _,
      ⟨(conversions_iff.mpr hwell.formats).1, rfl⟩, formats, hformats, _,
      ⟨hwell.functionPrefix, rfl⟩, _, ⟨hwell.fallback, rfl⟩, _, ⟨hwell.includeStdio, rfl⟩, rfl⟩

/-- A document is accepted if it is well typed. -/
theorem exists_ofDocument_iff {root : Path} {document : Table} :
    (∃ s, ofDocument root document = .ok s) ↔ WellTyped document := by
  simp only [ofDocument_eq_ok_iff]
  constructor
  · rintro ⟨_, hwell, _⟩
    exact hwell
  · intro hwell
    obtain ⟨formats, hformats⟩ :=
      exists_overlayFormats_iff.mpr (conversions_iff.mpr hwell.formats).2
    exact ⟨_, hwell, formats, hformats, rfl⟩

theorem wellKeyed_tableOf {t : Table} (h : WellKeyed t) (key : String) :
    WellKeyed (tableOf (t.lookup key)) := by
  cases hfound : t.lookup key with
  | none => exact wellKeyed_nil
  | some v =>
    cases v with
    | table entries => exact h.of_lookup hfound
    | _ => exact wellKeyed_nil

/-- The conversions that need no document. -/
theorem getD_lookup_formats (typename fallback : String) :
    (({} : Settings).formats.lookup typename).getD fallback =
      if typename = "int" then "%d" else if typename = "long" then "%ld" else fallback := by
  by_cases hint : typename = "int"
  · simp [hint]
  · by_cases hlong : typename = "long"
    · simp [List.lookup_cons, hlong]
    · simp [List.lookup_cons, beq_false_of_ne hint, beq_false_of_ne hlong, hint, hlong]

/-- What was accepted is overlaid on the default settings. -/
theorem overlays_of_ofDocument {root : Path} {document : Table} {s : Settings}
    (hkeyed : WellKeyed document) (h : ofDocument root document = .ok s) :
    Overlays root document s := by
  obtain ⟨-, formats, hformats, rfl⟩ := ofDocument_eq_ok_iff.mp h
  have hkeys : ((tableOf (setting? document "dump" "formats")).map Prod.fst).Nodup :=
    ((wellKeyed_iff _).mp (wellKeyed_tableOf (wellKeyed_tableOf hkeyed "dump") "formats")).1
  refine ⟨rfl, rfl, rfl, rfl, rfl, fun typename => ?_⟩
  dsimp only [Settings.formatSpecifier, formatFor]
  rw [← getD_lookup_formats, lookup_overlayFormats hkeys hformats, conversion?]
  cases conversionIn _ typename with
  | none => rfl
  | some spec => rfl

/-- A document without conversions and without a fallback changes no conversion. -/
theorem Overlays.formatSpecifier_none {root : Path} {document : Table} {s : Settings}
    (h : Overlays root document s) (hformats : setting? document "dump" "formats" = none)
    (hfallback : setting? document "dump" "fallback" = none) (typename : String) :
    Settings.formatSpecifier (some s) typename = Settings.formatSpecifier none typename := by
  have hnone : conversion? document typename = none := by
    simp [conversion?, conversionIn, hformats, tableOf]
  have hdefault : s.fallback = "%x" := by
    simp [h.fallback, hfallback, textOr]
  rw [h.formatSpecifier, hnone, hdefault]
  rfl

/-! ## Refusals -/

/-- An error that reports what is wrong, or that comes of a value too deep to be shown. -/
def Reports (P : Value → Prop) (e : Error) : Prop :=
  (∀ o, e ≠ .tooDeep o) ∨ e = .tooDeep .showing ∧ ∃ v, P v ∧ v.text = .error .tooDeep

/-- A computation whose error, if it has one, has a property. -/
def Raises (Q : Error → Prop) (m : Except Error α) : Prop :=
  ∀ e, m = .error e → Q e

theorem Raises.bind {Q : Error → Prop} {m : Except Error α} {k : α → Except Error β}
    (hm : Raises Q m) (hk : ∀ a, m = .ok a → Raises Q (k a)) : Raises Q (m >>= k) := by
  cases m with
  | error e =>
    rintro _ ⟨⟩
    exact hm e rfl
  | ok a => exact hk a rfl

/-- An error about a value that the errors may be about is among them. -/
theorem reports_about {P : Value → Prop} {v : Value} (hv : P v) {e : Error}
    (he : ∀ o, e ≠ .tooDeep o) : Reports P (.about v e) := by
  unfold Error.about
  split
  · rename_i hdeep
    exact .inr ⟨rfl, v, hv, hdeep⟩
  · exact .inl he

section Refusals

variable {P : Value → Prop} {t : Table} {name key : String}

theorem sectionOf_raises : Raises (Reports P) (sectionOf t key name) := by
  unfold sectionOf
  split
  · exact nofun
  · exact nofun
  · rintro _ ⟨⟩
    exact .inl nofun

theorem textSetting_raises {default : String} (hP : ∀ v, t.lookup key = some v → P v) :
    Raises (Reports P) (textSetting t name key default) := by
  unfold textSetting
  split
  · exact nofun
  · exact nofun
  · rename_i v _ hfound
    rintro _ ⟨⟩
    exact reports_about (hP v hfound) nofun

theorem flagSetting_raises {default : Bool} (hP : ∀ v, t.lookup key = some v → P v) :
    Raises (Reports P) (flagSetting t name key default) := by
  unfold flagSetting
  split
  · exact nofun
  · exact nofun
  · rename_i v _ hfound
    rintro _ ⟨⟩
    exact reports_about (hP v hfound) nofun

theorem knownEncoding_raises {encoding : String} :
    Raises (Reports P) (knownEncoding encoding) := by
  unfold knownEncoding
  split
  · rintro _ ⟨⟩
    exact .inl nofun
  · split
    · exact nofun
    · rintro _ ⟨⟩
      exact .inl nofun

theorem overlayFormats_raises {formats : List (String × String)} {entries : Table}
    (hP : ∀ e ∈ entries, P e.2) : Raises (Reports P) (overlayFormats formats entries) := by
  induction entries generalizing formats with
  | nil => exact nofun
  | cons e entries ih =>
    obtain ⟨typename, v⟩ := e
    rw [List.forall_mem_cons] at hP
    unfold overlayFormats
    split
    · exact nofun
    · rename_i heq
      cases heq
      exact ih hP.2
    · rename_i heq
      cases heq
      rintro _ ⟨⟩
      exact reports_about hP.1 nofun

end Refusals

/-- What is not accepted is reported, unless the value that is wrong is too deep to be shown. -/
theorem ofDocument_raises (root : Path) (document : Table) :
    Raises (Reports (Determines document)) (ofDocument root document) := by
  unfold ofDocument
  refine sectionOf_raises.bind fun parser hparser => sectionOf_raises.bind fun dump hdump => ?_
  obtain rfl := (sectionOf_eq_ok_iff.mp hparser).2
  obtain rfl := (sectionOf_eq_ok_iff.mp hdump).2
  refine (textSetting_raises fun v hv => .encoding hv).bind fun _ _ => knownEncoding_raises.bind
    fun _ _ => sectionOf_raises.bind fun formats hformats => ?_
  obtain rfl := (sectionOf_eq_ok_iff.mp hformats).2
  refine (overlayFormats_raises fun e he => .conversion e.1 he).bind fun _ _ => ?_
  refine (textSetting_raises fun v hv => .dump "prefix" (by simp) hv).bind fun _ _ => ?_
  refine (textSetting_raises fun v hv => .dump "fallback" (by simp) hv).bind fun _ _ => ?_
  exact (flagSetting_raises fun v hv => .dump "include_stdio" (by simp) hv).bind
    fun _ _ => nofun

/-! ## What has no effect -/

/-- Sections that agree fail alike or are the same as far as they are read. -/
theorem sectionOf_congr {t t' : Table} {keys : List String} {key : String} (name : String)
    (h : SameSection keys (t.lookup key) (t'.lookup key)) :
    (∃ e, sectionOf t key name = .error e ∧ sectionOf t' key name = .error e) ∨
      (sectionOf t key name = .ok (tableOf (t.lookup key)) ∧
        sectionOf t' key name = .ok (tableOf (t'.lookup key))) := by
  have hiff := h.isTable
  by_cases htable : ∀ v ∈ t.lookup key, v.IsTable
  · exact .inr ⟨sectionOf_eq_ok_iff.mpr ⟨htable, rfl⟩,
      sectionOf_eq_ok_iff.mpr ⟨hiff.mp htable, rfl⟩⟩
  · exact .inl ⟨.notTable name, sectionOf_eq_error htable,
      sectionOf_eq_error fun htable' => htable (hiff.mpr htable')⟩

/-- What a document says besides has no effect. -/
theorem ofDocument_congr (root : Path) {document document' : Table}
    (h : Agree document document') : ofDocument root document = ofDocument root document' := by
  have hencoding := h.parser.lookup "encoding" (by simp)
  have hformats := h.dump.lookup "formats" (by simp)
  have hstart := h.dump.lookup "prefix" (by simp)
  have hfallback := h.dump.lookup "fallback" (by simp)
  have hflag := h.dump.lookup "include_stdio" (by simp)
  unfold ofDocument
  rcases sectionOf_congr "parser" h.parser with ⟨e, hparser, hparser'⟩ | ⟨hparser, hparser'⟩
  · rw [hparser, hparser']
    rfl
  rcases sectionOf_congr "dump" h.dump with ⟨e, hdump, hdump'⟩ | ⟨hdump, hdump'⟩
  · rw [hparser, hparser', hdump, hdump']
    rfl
  rw [hparser, hparser', hdump, hdump']
  dsimp only [bind, Except.bind]
  simp only [textSetting, flagSetting, sectionOf, hencoding, hformats, hstart, hfallback, hflag]

/-! ## Settings on a disk -/

/-- A directory whose settings file holds a document. -/
def HoldsDocument (d : Disk) (root : Path) (document : Table) : Prop :=
  ∃ bytes text, d.probe (root.join fileName) = .ok (some (.file bytes)) ∧
    Encoding.Utf8.decode bytes = .ok text ∧ Toml.parse text = .ok document

/-- Settings are loaded from the directory that is given or found. -/
theorem load_of_rootOf {d : Disk} {given : Option Path} {root : Path}
    (h : rootOf d given = some root) : load d given = loadFrom d root := by
  rw [load, h]

/-- Without such a directory they are the default ones. -/
theorem load_of_rootOf_none {d : Disk} {given : Option Path} (h : rootOf d given = none) :
    load d given = .ok { root := Disk.absolute d.cwd } := by
  rw [load, h]

/-- The settings of a directory are those of the document that it holds. -/
theorem loadFrom_of_holdsDocument {d : Disk} {root : Path} {document : Table}
    (h : HoldsDocument d root document) :
    loadFrom d root = (ofDocument root document).mapError .ofError := by
  obtain ⟨bytes, text, hprobe, hdecode, hparse⟩ := h
  simp only [loadFrom, hprobe, Disk.read_of_probe hprobe, ofBytes, hdecode, hparse]

/-- The document that a directory holds is a table of tables. -/
theorem HoldsDocument.wellKeyed {d : Disk} {root : Path} {document : Table}
    (h : HoldsDocument d root document) : WellKeyed document := by
  obtain ⟨_, _, -, -, hparse⟩ := h
  exact wellKeyed_of_parse hparse

/--
The settings that a document gives to the project in a directory.  They are loaded if and only if
the document is well typed, and are then overlaid on the default ones; a document that is not well
typed is reported, unless what it says about a setting is too deep to be shown.
-/
theorem load_document {d : Disk} {given : Option Path} {root : Path} {document : Table}
    (hroot : rootOf d given = some root) (hdocument : HoldsDocument d root document) :
    ((∃ s, load d given = .ok s) ↔ WellTyped document) ∧
    (¬ WellTyped document →
      (∃ e, load d given = .error (.settings e)) ∨
        load d given = .error (.tooDeep .showing) ∧
          ∃ v, Determines document v ∧ v.text = .error .tooDeep) ∧
    (∀ s, load d given = .ok s →
      Overlays root document s ∧
        (setting? document "dump" "formats" = none → setting? document "dump" "fallback" = none →
          ∀ typename, formatSpecifier (some s) typename = formatSpecifier none typename)) ∧
    ∀ d' given' document', rootOf d' given' = some root → HoldsDocument d' root document' →
      Agree document document' → load d' given' = load d given := by
  have hload : load d given = (ofDocument root document).mapError .ofError := by
    rw [load_of_rootOf hroot, loadFrom_of_holdsDocument hdocument]
  have hok (s : Settings) : load d given = .ok s ↔ ofDocument root document = .ok s := by
    rw [hload]
    cases ofDocument root document <;> simp [Except.mapError]
  refine ⟨?_, ?_, ?_, ?_⟩
  · simp only [hok]
    exact exists_ofDocument_iff
  · intro hill
    cases hresult : ofDocument root document with
    | ok s => exact absurd (exists_ofDocument_iff.mp ⟨s, hresult⟩) hill
    | error e =>
      rw [hload, hresult]
      rcases ofDocument_raises root document e hresult with hreport | ⟨rfl, hdeep⟩
      · exact .inl ⟨e, by cases e <;> first | rfl | exact absurd rfl (hreport _)⟩
      · exact .inr ⟨rfl, hdeep⟩
  · intro s hs
    have hoverlays := overlays_of_ofDocument hdocument.wellKeyed ((hok s).mp hs)
    exact ⟨hoverlays, hoverlays.formatSpecifier_none⟩
  · intro d' given' document' hroot' hdocument' hagree
    rw [hload, load_of_rootOf hroot', loadFrom_of_holdsDocument hdocument',
      ofDocument_congr root hagree]

/-- A directory of a project with a settings file. -/
def sampleDisk (text : String) : Disk :=
  ⟨["home"],
    ⟨[(["home"], .directory), (["home", fileName], .file text.toUTF8.data.toList)]⟩, []⟩

/-- Settings for both sections, besides a key that nothing knows. -/
theorem load_document_sections :
    let text := "[parser]\nencoding = \"ascii\"\n[dump]\nformats = \x7b size_t = \"%zu\" \x7d\nextra = 1\n"
    let d := sampleDisk text
    ∃ document s, rootOf d none = some (Disk.absolute d.cwd) ∧
      HoldsDocument d (Disk.absolute d.cwd) document ∧ WellTyped document ∧
      load d none = .ok s ∧ Overlays (Disk.absolute d.cwd) document s := by
  intro text d
  have hroot : rootOf d none = some (Disk.absolute d.cwd) := by decide +kernel
  have hprobe : d.probe ((Disk.absolute d.cwd).join fileName) =
      .ok (some (.file text.toUTF8.data.toList)) := by decide +kernel
  have hends : ((Encoding.Utf8.decode text.toUTF8.data.toList).toOption.any fun chars =>
        (Toml.parse chars).toOption.isSome) = true ∧ (load d none).toOption.isSome = true := by
    decide +kernel
  obtain ⟨hdocument, hloaded⟩ := hends
  cases hdecode : Encoding.Utf8.decode text.toUTF8.data.toList with
  | error e =>
    rw [hdecode] at hdocument
    exact absurd hdocument Bool.false_ne_true
  | ok chars =>
    rw [hdecode] at hdocument
    change (Toml.parse chars).toOption.isSome = true at hdocument
    cases hparse : Toml.parse chars with
    | error e =>
      rw [hparse] at hdocument
      exact absurd hdocument Bool.false_ne_true
    | ok document =>
      cases hload : load d none with
      | error e =>
        rw [hload] at hloaded
        exact absurd hloaded Bool.false_ne_true
      | ok s =>
        have hdocument : HoldsDocument d (Disk.absolute d.cwd) document :=
          ⟨_, chars, hprobe, hdecode, hparse⟩
        obtain ⟨hiff, -, hoverlays, -⟩ := load_document hroot hdocument
        exact ⟨document, s, hroot, hdocument, hiff.mp ⟨s, hload⟩, rfl, (hoverlays s hload).1⟩

/-- Tables that stand too deep in one another to be shown escape the report. -/
theorem deep_conversion_escapes :
    let header := "[dump.formats" ++ String.join (List.replicate 1000 ".a") ++ "]"
    (match load (sampleDisk header) none with
      | .error (.tooDeep .showing) => true
      | _ => false) = true := by
  decide +kernel

end Settings

end StructScan
