import StructScan.Settings.Load

/-!
# The encoding of loaded settings

Settings that are loaded name an encoding that was looked up: the default one, or one from the
settings file, which is refused if no codec goes by its name.  Not every codec is one for texts,
though.

Main results:

- Theorem `Settings.isKnown_of_load`: the encoding of loaded settings is known.
- Theorem `Encoding.IsKnown.ofName_cases`: it is one for texts, or a transformation of bytes.
-/

namespace StructScan

/-- A name that can be looked up and that some codec goes by. -/
structure Encoding.IsKnown (name : String) : Prop where
  isName : isName name = true
  exists_codec : ∃ codec, lookup name = .ok codec

theorem Encoding.isName_utf8 : isName "utf-8" = true :=
  rfl

/-- The default encoding is known. -/
theorem Encoding.isKnown_utf8 : IsKnown "utf-8" :=
  ⟨isName_utf8, _, rfl⟩

/-- A known name stands for a text encoding, or there is none since its codec is for bytes. -/
theorem Encoding.IsKnown.ofName_cases {name : String} (h : IsKnown name) :
    (∃ e, lookup name = .ok (.text e) ∧ ofName name = .ok e) ∨
      (lookup name = .ok .binary ∧ ofName name = .error (.notText name)) := by
  obtain ⟨codec, hcodec⟩ := h.exists_codec
  cases codec with
  | text e => exact .inl ⟨e, hcodec, by simp only [ofName, hcodec]⟩
  | binary => exact .inr ⟨hcodec, by simp only [ofName, hcodec]⟩

namespace Settings

/-- A computation that may fail gives a result after another one if both succeed. -/
theorem bind_eq_ok_iff {m : Except ε α} {k : α → Except ε β} {b : β} :
    m >>= k = .ok b ↔ ∃ a, m = .ok a ∧ k a = .ok b := by
  cases m with
  | error e => simp [bind, Except.bind]
  | ok a => simp [bind, Except.bind]

/-- What an error is turned into has no part in a success. -/
theorem mapError_eq_ok_iff {m : Except ε α} {f : ε → ε'} {a : α} :
    m.mapError f = .ok a ↔ m = .ok a := by
  constructor
  · intro h
    cases m with
    | error e => cases h
    | ok b =>
      cases h
      rfl
  · rintro rfl
    rfl

/-- An encoding that passes the check of its name is known. -/
theorem isKnown_of_knownEncoding {encoding name : String}
    (h : knownEncoding encoding = .ok name) : Encoding.IsKnown name := by
  unfold knownEncoding at h
  split at h
  · contradiction
  · rename_i hname
    split at h
    · rename_i codec hcodec
      cases h
      exact ⟨by simpa using hname, codec, hcodec⟩
    · contradiction

/-- The encoding that a document gives was looked up. -/
theorem isKnown_of_ofDocument {root : Path} {document : Toml.Table} {settings : Settings}
    (h : ofDocument root document = .ok settings) : Encoding.IsKnown settings.encoding := by
  unfold ofDocument at h
  simp only [bind_eq_ok_iff] at h
  obtain ⟨_, -, _, -, _, -, encoding, hencoding, _, -, _, -, _, -, _, -, _, -, h⟩ := h
  cases h
  exact isKnown_of_knownEncoding hencoding

/-- Settings of a document have a known encoding. -/
theorem isKnown_of_ofBytes {root file : Path} {bytes : Bytes} {settings : Settings}
    (h : ofBytes root file bytes = .ok settings) : Encoding.IsKnown settings.encoding := by
  unfold ofBytes at h
  split at h
  · contradiction
  · split at h
    · contradiction
    · exact isKnown_of_ofDocument h

theorem isKnown_of_loadFrom {d : Disk} {root : Path} {settings : Settings}
    (h : loadFrom d root = .ok settings) : Encoding.IsKnown settings.encoding := by
  unfold loadFrom at h
  dsimp only at h
  split at h
  · contradiction
  · cases h
    exact Encoding.isKnown_utf8
  · split at h
    · contradiction
    · exact isKnown_of_ofBytes (mapError_eq_ok_iff.mp h)

/-- The encoding of all settings that are loaded is known. -/
theorem isKnown_of_load {d : Disk} {root : Option Path} {settings : Settings}
    (h : load d root = .ok settings) : Encoding.IsKnown settings.encoding := by
  unfold load at h
  split at h
  · exact isKnown_of_loadFrom h
  · cases h
    exact Encoding.isKnown_utf8

end Settings

end StructScan
