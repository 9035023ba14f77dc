import Mathlib.Data.List.Infix
import StructScan.Proofs.Command.Configuration

/-!
# The nearest settings

Unless a directory is given, the settings come from the deepest directory, among the working
directory and those above it, that has an entry named as a settings file.  Nothing else in the file
tree has a say.  The search goes up one directory at a time, and looks at each of them once.

Where the working directory lies so deep that the path of a settings file in it is too long, the
search fails at its first look, whatever there is further up.

Main results:

- Theorem `Disk.probe_below`: what is found under a name in a directory on the way up.
- Theorem `Settings.nearest?_eq_find?`: the search takes the directories on the way up in order,
  and stops at the first one that ends it.
- Theorem `Settings.load_nearest`: from where settings are loaded, and what has no effect on them.
-/

namespace StructScan

/-! ## Directories that are there -/

/-- A name that an entry of a directory can have. -/
structure Path.IsEntryName (name : String) : Prop where
  ne_up : name ≠ ".."
  short : name.utf8ByteSize ≤ nameLimit
  noNul : '\x00' ∉ name.toList

namespace Disk

open StructScan.Path (IsEntryName)

/-- A disk whose working directory is there, with all directories above it. -/
structure Stands (d : Disk) : Prop where
  directory : ∀ loc, loc <+: d.cwd → d.tree.node? loc = some .directory
  isEntryName : ∀ name ∈ d.cwd, IsEntryName name

/-- Going down through directories leads to where their names lead. -/
theorem walk_down {t : FileTree} {loc : Location} {parts : List String}
    (hdirectory : ∀ above, above <+: parts → above ≠ parts →
      t.node? (loc ++ above) = some .directory)
    (hname : ∀ name ∈ parts, IsEntryName name) : walk t loc parts = .ok (loc ++ parts) := by
  induction parts generalizing loc with
  | nil => simp [walk]
  | cons part parts ih =>
    have hhere : t.node? loc = some .directory := by
      simpa using hdirectory [] List.nil_prefix (by simp)
    have hpart := hname part List.mem_cons_self
    have hlater : walk t (loc ++ [part]) parts = .ok (loc ++ [part] ++ parts) := by
      refine ih (fun above habove hne => ?_) fun name hmem => hname name (.tail _ hmem)
      rw [List.append_assoc]
      exact hdirectory (part :: above) ((List.prefix_cons_inj part).mpr habove)
        (fun heq => hne (List.tail_eq_of_cons_eq heq))
    rw [walk, hhere]
    simp only [hpart.ne_up, Nat.not_lt.mpr hpart.short, if_false]
    rw [hlater, List.append_assoc, List.singleton_append]

/-- The entry of a given name in the directory at a place. -/
def entry (loc : Location) (name : String) : Path :=
  (absolute loc).join name

theorem hasNul_entry {loc : Location} {name : String} (hloc : ∀ part ∈ loc, IsEntryName part)
    (hname : IsEntryName name) : (entry loc name).hasNul = false := by
  have hparts : ∀ part ∈ loc ++ [name], IsEntryName part :=
    List.forall_mem_append.mpr ⟨hloc, List.forall_mem_singleton.mpr hname⟩
  rw [Path.hasNul, List.any_eq_false]
  intro part hpart
  simpa using (hparts part hpart).noNul

/-- What is found under a name in a directory on the way up from the working directory. -/
theorem probe_below {d : Disk} (hd : d.Stands) {loc : Location} (hloc : loc <+: d.cwd)
    {name : String} (hname : IsEntryName name) :
    d.probe (entry loc name) =
      if pathLimit ≤ (entry loc name).toString.utf8ByteSize then .error .nameTooLong
      else .ok (d.tree.node? (loc ++ [name])) := by
  have hnames : ∀ part ∈ loc, IsEntryName part := fun part hpart =>
    hd.isEntryName part (hloc.subset hpart)
  have hwalk : walk d.tree [] (loc ++ [name]) = .ok (loc ++ [name]) := by
    refine walk_down (fun above habove hne => hd.directory above ?_)
      (List.forall_mem_append.mpr ⟨hnames, List.forall_mem_singleton.mpr hname⟩)
    -- A proper part of the way to the entry is a part of the way to its directory.
    rcases List.prefix_concat_iff.mp habove with heq | habove
    · exact absurd heq hne
    · exact habove.trans hloc
  have hresolve : d.resolve (entry loc name) =
      if pathLimit ≤ (entry loc name).toString.utf8ByteSize then .error .nameTooLong
      else .ok (loc ++ [name]) := by
    rw [← hwalk]
    rfl
  rw [probe, hasNul_entry hnames hname, find, hresolve]
  by_cases hlong : pathLimit ≤ (entry loc name).toString.utf8ByteSize
  · simp only [if_pos hlong]
    rfl
  · simp only [if_neg hlong]
    cases hnode : d.tree.node? (loc ++ [name]) with
    | none =>
      simp only [bind, Except.bind, hnode]
      rfl
    | some node =>
      simp only [bind, Except.bind, hnode]
      rfl

/-! ## The lengths of paths -/

/-- The size of the names on the way to a place, each with a slash in front. -/
def waySize : Location → Nat
  | [] => 0
  | part :: loc => part.utf8ByteSize + 1 + waySize loc

/-- The size of a way is that of its parts together. -/
theorem waySize_append (loc loc' : Location) :
    waySize (loc ++ loc') = waySize loc + waySize loc' := by
  induction loc with
  | nil => simp [waySize]
  | cons part loc ih => simp only [List.cons_append, waySize, ih, Nat.add_assoc]

theorem waySize_replicate (n : Nat) (part : String) :
    waySize (List.replicate n part) = n * (part.utf8ByteSize + 1) := by
  induction n with
  | zero => simp [waySize]
  | succ n ih => rw [List.replicate_succ, waySize, ih, Nat.succ_mul, Nat.add_comm]

theorem toString_absolute_cons (part : String) (loc : Location) :
    (absolute (part :: loc)).toString = "/" ++ "/".intercalate (part :: loc) :=
  rfl

/-- The path of a directory below the root is as long as the names on its way. -/
theorem size_toString_absolute {loc : Location} (h : loc ≠ []) :
    (absolute loc).toString.utf8ByteSize = waySize loc := by
  have hslash : "/".utf8ByteSize = 1 := rfl
  cases loc with
  | nil => exact absurd rfl h
  | cons part loc =>
    rw [toString_absolute_cons, String.utf8ByteSize_append, hslash]
    induction loc generalizing part with
    | nil =>
      rw [String.intercalate_singleton, waySize, waySize]
      omega
    | cons next loc ih =>
      have hlater := ih next (List.cons_ne_nil _ _)
      simp only [waySize] at hlater ⊢
      rw [String.intercalate_cons_cons, String.utf8ByteSize_append, String.utf8ByteSize_append,
        hslash]
      omega

/-- The path of an entry is no longer than that of an entry of the same name further down. -/
theorem size_entry_le {loc loc' : Location} (h : loc <+: loc') (name : String) :
    (entry loc name).toString.utf8ByteSize ≤ (entry loc' name).toString.utf8ByteSize := by
  have hsize (loc : Location) : (entry loc name).toString.utf8ByteSize = waySize (loc ++ [name]) :=
    size_toString_absolute (by simp)
  obtain ⟨later, rfl⟩ := h
  rw [hsize, hsize, List.append_assoc, waySize_append, waySize_append, waySize_append]
  omega

end Disk

namespace Settings

open Disk (absolute entry)

/-! ## The search -/

theorem isEntryName_fileName : Path.IsEntryName fileName where
  ne_up := by decide
  short := by decide
  noNul := by decide

/-- A directory in which the path of a settings file is not too long. -/
def Fits (loc : Location) : Prop :=
  (entry loc fileName).toString.utf8ByteSize < pathLimit

/-- Where the path fits, it fits further up. -/
theorem Fits.above {start loc : Location} (h : Fits start) (hloc : loc <+: start) : Fits loc :=
  Nat.lt_of_le_of_lt (Disk.size_entry_le hloc fileName) h

/-- A directory that has an entry named as a settings file. -/
def HasEntry (t : FileTree) (loc : Location) : Prop :=
  (t.node? (loc ++ [fileName])).isSome = true

/-- The deepest directory on the way up that has an entry named as a settings file. -/
structure Nearest (t : FileTree) (start loc : Location) : Prop where
  above : loc <+: start
  hasEntry : HasEntry t loc
  deepest : ∀ loc', loc' <+: start → HasEntry t loc' → loc' <+: loc

/-- A place on the way up is the start or above it. -/
theorem eq_or_prefix_dropLast {loc start : Location} (h : loc <+: start) :
    loc = start ∨ loc <+: start.dropLast := by
  rcases start.eq_nil_or_concat with rfl | ⟨init, last, rfl⟩
  · exact .inl (List.prefix_nil.mp h)
  · rw [List.concat_eq_append] at h ⊢
    rw [List.dropLast_concat]
    exact List.prefix_concat_iff.mp h

namespace Nearest

theorem here {t : FileTree} {start : Location} (h : HasEntry t start) : Nearest t start start :=
  ⟨List.prefix_refl start, h, fun _ hloc _ => hloc⟩

/-- The nearest directory above one without an entry is the nearest one to it. -/
theorem of_dropLast {t : FileTree} {start loc : Location} (h : Nearest t start.dropLast loc)
    (hnone : ¬ HasEntry t start) : Nearest t start loc := by
  refine ⟨h.above.trans start.dropLast_prefix, h.hasEntry, fun loc' hloc' hentry => ?_⟩
  rcases eq_or_prefix_dropLast hloc' with rfl | hloc'
  · exact absurd hentry hnone
  · exact h.deepest loc' hloc' hentry

/-- There is one nearest directory at most. -/
theorem unique {t : FileTree} {start loc loc' : Location} (h : Nearest t start loc)
    (h' : Nearest t start loc') : loc = loc' := by
  have hle := h'.deepest loc h.above h.hasEntry
  have hge := h.deepest loc' h'.above h'.hasEntry
  exact hle.eq_of_length_le hge.length_le

end Nearest

/-- The directories that the search looks at, in order. -/
def looks (d : Disk) : Nat → Location → List Location
  | 0, loc => [loc]
  | n + 1, loc => loc :: if endsSearch d loc then [] else looks d n loc.dropLast

/-- The search looks at each directory on the way up once at most. -/
theorem length_looks (d : Disk) (n : Nat) (loc : Location) : (looks d n loc).length ≤ n + 1 := by
  induction n generalizing loc with
  | zero => simp [looks]
  | succ n ih =>
    have hlater := ih loc.dropLast
    rw [looks, List.length_cons]
    split
    · simp
    · omega

/-- The search finds the first of the directories it looks at that ends it. -/
theorem nearest?_eq_find? (d : Disk) (n : Nat) (loc : Location) :
    nearest? d n loc = (looks d n loc).find? (endsSearch d) := by
  induction n generalizing loc with
  | zero => by_cases hends : endsSearch d loc = true <;> simp [nearest?, looks, hends]
  | succ n ih => by_cases hends : endsSearch d loc = true <;> simp [nearest?, looks, hends, ih]

section Search

variable {d : Disk} (hd : d.Stands)
include hd

/-- What is found in the place of the settings file of a directory on the way up. -/
theorem probe_of_fits {loc : Location} (hloc : loc <+: d.cwd) (hfits : Fits loc) :
    d.probe ((absolute loc).join fileName) = .ok (d.tree.node? (loc ++ [fileName])) := by
  have hprobe := Disk.probe_below hd hloc isEntryName_fileName
  rwa [if_neg (Nat.not_le.mpr hfits)] at hprobe

/-- A path that is too long cannot be looked at. -/
theorem probe_of_not_fits {loc : Location} (hloc : loc <+: d.cwd) (hfits : ¬ Fits loc) :
    d.probe ((absolute loc).join fileName) = .error .nameTooLong := by
  have hprobe := Disk.probe_below hd hloc isEntryName_fileName
  rwa [if_pos (Nat.not_lt.mp hfits)] at hprobe

/-- Where the path is not too long, the search ends if there is an entry. -/
theorem endsSearch_iff {loc : Location} (hloc : loc <+: d.cwd) (hfits : Fits loc) :
    endsSearch d loc = true ↔ HasEntry d.tree loc := by
  rw [endsSearch, probe_of_fits hd hloc hfits, HasEntry]
  cases d.tree.node? (loc ++ [fileName]) with
  | none => simp
  | some node => simp

/-- The search finds the deepest directory on the way up that has an entry, if one has. -/
theorem nearest?_spec (hfits : Fits d.cwd) {start : Location} (hstart : start <+: d.cwd) :
    match nearest? d start.length start with
    | some loc => Nearest d.tree start loc
    | none => ∀ loc, loc <+: start → ¬ HasEntry d.tree loc := by
  generalize hlength : start.length = n
  -- The search goes up; the start is the deepest place of all, so it is asked first.
  induction n generalizing start with
  | zero =>
    obtain rfl := List.length_eq_zero_iff.mp hlength
    have hends := endsSearch_iff hd hstart (hfits.above hstart)
    by_cases hhere : endsSearch d [] = true
    · simp only [nearest?, hhere, if_true]
      exact .here (hends.mp hhere)
    · simp only [nearest?, hhere]
      intro loc hloc hentry
      rw [List.prefix_nil.mp hloc] at hentry
      exact hhere (hends.mpr hentry)
  | succ n ih =>
    have hends := endsSearch_iff hd hstart (hfits.above hstart)
    by_cases hhere : endsSearch d start = true
    · simp only [nearest?, hhere, if_true]
      exact .here (hends.mp hhere)
    · have hnone : ¬ HasEntry d.tree start := fun hentry => hhere (hends.mpr hentry)
      have hlater := ih (start.dropLast_prefix.trans hstart) (by rw [List.length_dropLast]; omega)
      simp only [nearest?, hhere]
      cases hfound : nearest? d n start.dropLast with
      | some loc =>
        rw [hfound] at hlater
        exact hlater.of_dropLast hnone
      | none =>
        rw [hfound] at hlater
        intro loc hloc hentry
        rcases eq_or_prefix_dropLast hloc with rfl | hloc
        · exact hnone hentry
        · exact hlater loc hloc hentry

end Search

/-! ## Loading -/

/-- What loading from a directory gives, by what stands in the place of its settings file. -/
def loaded (root : Path) : Node → Except LoadError Settings
  | .directory => .error (.os ⟨.isDirectory, (root.join fileName).toString, none⟩)
  | .file bytes => (ofBytes root (root.join fileName) bytes).mapError .ofError

/-- Settings that an entry gives have the directory of the entry as their root. -/
theorem root_of_loaded {root : Path} {node : Node} {s : Settings} (h : loaded root node = .ok s) :
    s.root = root := by
  cases node with
  | directory => contradiction
  | file bytes =>
    rw [loaded, ofBytes] at h
    split at h
    · contradiction
    · split at h
      · contradiction
      · rename_i document _
        cases hdocument : ofDocument root document with
        | error e => simp [hdocument, Except.mapError] at h
        | ok s' =>
          rw [hdocument] at h
          cases h
          obtain ⟨-, formats, -, rfl⟩ := ofDocument_eq_ok_iff.mp hdocument
          rfl

/-- Without a directory that is given, what the search finds is where settings come from. -/
theorem rootOf_none {d : Disk} :
    rootOf d none = (nearest? d d.cwd.length d.cwd).map absolute :=
  rfl

section Load

variable {d : Disk} (hd : d.Stands)
include hd

/-- The settings of a directory on the way up, by what stands in the place of its file. -/
theorem loadFrom_above (hfits : Fits d.cwd) {loc : Location} (hloc : loc <+: d.cwd) :
    loadFrom d (absolute loc) =
      match d.tree.node? (loc ++ [fileName]) with
      | none => .ok { root := absolute loc }
      | some node => loaded (absolute loc) node := by
  rw [loadFrom_eq, probe_of_fits hd hloc (hfits.above hloc)]
  cases d.tree.node? (loc ++ [fileName]) with
  | none => rfl
  | some node => cases node <;> rfl

theorem load_of_nearest (hfits : Fits d.cwd) {loc : Location} {node : Node}
    (hnearest : Nearest d.tree d.cwd loc) (hnode : d.tree.node? (loc ++ [fileName]) = some node) :
    load d none = loaded (absolute loc) node := by
  have hspec := nearest?_spec hd hfits (List.prefix_refl d.cwd)
  cases hfound : nearest? d d.cwd.length d.cwd with
  | none =>
    rw [hfound] at hspec
    exact absurd hnearest.hasEntry (hspec loc hnearest.above)
  | some loc' =>
    rw [hfound] at hspec
    obtain rfl := hspec.unique hnearest
    rw [load_of_rootOf (by rw [rootOf_none, hfound, Option.map_some])]
    rw [loadFrom_above hd hfits hnearest.above, hnode]

/-- Where no directory on the way up has an entry, the settings are the default ones. -/
theorem load_of_none (hfits : Fits d.cwd)
    (hnone : ∀ loc, loc <+: d.cwd → ¬ HasEntry d.tree loc) :
    load d none = .ok { root := absolute d.cwd } := by
  have hspec := nearest?_spec hd hfits (List.prefix_refl d.cwd)
  cases hfound : nearest? d d.cwd.length d.cwd with
  | none => exact load_of_rootOf_none (by rw [rootOf_none, hfound, Option.map_none])
  | some loc =>
    rw [hfound] at hspec
    exact absurd hspec.hasEntry (hnone loc hspec.above)

/-- Where the path of the first settings file is too long, nothing is loaded. -/
theorem load_of_not_fits (hfits : ¬ Fits d.cwd) :
    load d none = .error (.os ⟨.nameTooLong, (entry d.cwd fileName).toString, none⟩) := by
  have hprobe := probe_of_not_fits hd (List.prefix_refl d.cwd) hfits
  have hends : endsSearch d d.cwd = true := by rw [endsSearch, hprobe]
  have hfound : nearest? d d.cwd.length d.cwd = some d.cwd := by
    cases d.cwd.length with
    | zero => simp only [nearest?, hends, if_true]
    | succ n => simp only [nearest?, hends, if_true]
  rw [load_of_rootOf (by rw [rootOf_none, hfound, Option.map_some]), loadFrom_eq, hprobe]
  rfl

end Load

/--
A disk on which the settings are those of the directory at a place, with the given entry: they are
what the entry makes them, the directory is their root, and they stay the same whatever else
changes, as long as the working directory stands and the entries of this name are the same from it
up to the place.
-/
structure LoadsFrom (d : Disk) (loc : Location) (node : Node) : Prop where
  settings : load d none = loaded (absolute loc) node
  root : ∀ s, load d none = .ok s → s.root = absolute loc
  determined : ∀ d' : Disk, d'.Stands → d'.cwd = d.cwd →
    (∀ below, loc <+: below → below <+: d.cwd →
      d'.tree.node? (below ++ [fileName]) = d.tree.node? (below ++ [fileName])) →
    load d' none = load d none

theorem loadsFrom_of_nearest {d : Disk} (hd : d.Stands) (hfits : Fits d.cwd) {loc : Location}
    {node : Node} (hnearest : Nearest d.tree d.cwd loc)
    (hnode : d.tree.node? (loc ++ [fileName]) = some node) : LoadsFrom d loc node := by
  have hload := load_of_nearest hd hfits hnearest hnode
  refine ⟨hload, fun s hs => root_of_loaded (hload ▸ hs), ?_⟩
  intro d' hd' hcwd hsame
  have hnode' : d'.tree.node? (loc ++ [fileName]) = some node :=
    (hsame loc (List.prefix_refl loc) hnearest.above).trans hnode
  have hnearest' : Nearest d'.tree d'.cwd loc := by
    rw [hcwd]
    refine ⟨hnearest.above, by rw [HasEntry, hnode']; rfl, fun loc' hloc' hentry => ?_⟩
    -- A place on the way up lies above the one found, or is one where the trees agree.
    rcases List.prefix_or_prefix_of_prefix hloc' hnearest.above with habove | hbelow
    · exact habove
    · rw [HasEntry, hsame loc' hbelow hloc'] at hentry
      exact hnearest.deepest loc' hloc' hentry
  rw [hload, load_of_nearest hd' (hcwd ▸ hfits) hnearest' hnode']

/--
Without a directory that is given, the settings are those of the deepest directory, from the
working directory up, that has an entry named as a settings file; without any such directory they
are the default ones.  The search looks at each directory on the way up once at most.  All of this
holds unless the path of a settings file in the working directory is too long; then the search
fails, whatever is there.
-/
theorem load_nearest {d : Disk} (hd : d.Stands) :
    (Fits d.cwd →
      (∀ loc node, Nearest d.tree d.cwd loc → d.tree.node? (loc ++ [fileName]) = some node →
        LoadsFrom d loc node) ∧
      ((∀ loc, loc <+: d.cwd → ¬ HasEntry d.tree loc) →
        load d none = .ok { root := absolute d.cwd }) ∧
      ((∃ loc, Nearest d.tree d.cwd loc) ∨ ∀ loc, loc <+: d.cwd → ¬ HasEntry d.tree loc)) ∧
    (¬ Fits d.cwd →
      load d none = .error (.os ⟨.nameTooLong, (entry d.cwd fileName).toString, none⟩)) ∧
    nearest? d d.cwd.length d.cwd = (looks d d.cwd.length d.cwd).find? (endsSearch d) ∧
    (looks d d.cwd.length d.cwd).length ≤ d.cwd.length + 1 := by
  refine ⟨fun hfits => ⟨fun loc node => loadsFrom_of_nearest hd hfits, load_of_none hd hfits, ?_⟩,
    load_of_not_fits hd, nearest?_eq_find? d _ _, length_looks d _ _⟩
  have hspec := nearest?_spec hd hfits (List.prefix_refl d.cwd)
  cases hfound : nearest? d d.cwd.length d.cwd with
  | some loc =>
    rw [hfound] at hspec
    exact .inl ⟨loc, hspec⟩
  | none =>
    rw [hfound] at hspec
    exact .inr hspec

/-- A disk with a working directory and all directories above it, and some other entries. -/
def standing (cwd : Location) (others : List (Location × Node)) : Disk :=
  ⟨cwd, ⟨(cwd.inits.map fun loc => (loc, .directory)) ++ others⟩, []⟩

theorem stands_standing {cwd : Location} (h : ∀ name ∈ cwd, Path.IsEntryName name)
    (others : List (Location × Node)) : (standing cwd others).Stands := by
  refine ⟨fun loc hloc => ?_, h⟩
  have hlookup (locs : List Location) (hmem : loc ∈ locs) :
      ((locs.map fun loc => (loc, Node.directory)) ++ others).lookup loc = some .directory := by
    induction locs with
    | nil => contradiction
    | cons first locs ih =>
      rw [List.map_cons, List.cons_append, List.lookup_cons]
      by_cases heq : loc = first
      · simp [heq]
      · rw [beq_false_of_ne heq]
        exact ih ((List.mem_cons.mp hmem).resolve_left heq)
  rw [FileTree.node?]
  split
  · rfl
  · exact hlookup cwd.inits ((List.mem_inits loc cwd).mpr hloc)

/-- An entry of a standing disk that no directory on the way up is named like. -/
theorem node?_standing {cwd loc : Location} {name : String} (h : name ∉ cwd)
    (others : List (Location × Node)) :
    (standing cwd others).tree.node? (loc ++ [name]) = others.lookup (loc ++ [name]) := by
  have hnone : (cwd.inits.map fun loc => (loc, Node.directory)).lookup (loc ++ [name]) = none := by
    rw [List.lookup_eq_none_iff]
    intro e he
    obtain ⟨above, habove, rfl⟩ := List.mem_map.mp he
    rw [bne_iff_ne]
    rintro rfl
    exact h (((List.mem_inits _ cwd).mp habove).subset (by simp))
  rw [FileTree.node?, if_neg (by simp), standing, List.lookup_append, hnone, Option.none_or]

/-- A settings file above the working directory, with another one above it. -/
theorem load_nearest_above :
    let text := "[dump]\nprefix = \"show_\"\n".toUTF8.data.toList
    let d := standing ["home", "src"] [(["home", fileName], .file text), ([fileName], .directory)]
    d.Stands ∧ LoadsFrom d ["home"] (.file text) ∧
      (load d none).toOption.map Settings.functionPrefix = some "show_" := by
  intro text d
  have hname : ∀ name ∈ ["home", "src"], Path.IsEntryName name := by
    simp only [List.forall_mem_cons]
    exact ⟨⟨by decide, by decide, by decide⟩, ⟨by decide, by decide, by decide⟩, by simp⟩
  have hd : d.Stands := stands_standing hname _
  have hfits : Fits d.cwd := by
    rw [Fits]
    decide +kernel
  have hnode : d.tree.node? (["home"] ++ [fileName]) = some (.file text) := by
    rw [node?_standing (by decide)]
    decide +kernel
  have hentry : HasEntry d.tree ["home"] := by
    rw [HasEntry, hnode]
    rfl
  have hnone : ¬ HasEntry d.tree ["home", "src"] := by
    rw [HasEntry, node?_standing (by decide)]
    decide +kernel
  have hnearest : Nearest d.tree d.cwd ["home"] := Nearest.of_dropLast (.here hentry) hnone
  exact ⟨hd, ((load_nearest hd).1 hfits).1 _ _ hnearest hnode, by decide +kernel⟩

/-- A name of a given length. -/
def longName (n : Nat) : String :=
  String.ofList (List.replicate n 'd')

theorem size_longName (n : Nat) : (longName n).utf8ByteSize = n := by
  induction n with
  | zero => rfl
  | succ n ih =>
    have hone : (String.singleton 'd').utf8ByteSize = 1 := rfl
    rw [longName] at ih ⊢
    rw [List.replicate_succ, String.ofList_cons, String.utf8ByteSize_append, ih, hone]
    omega

theorem mem_longName {n : Nat} {c : Char} (h : c ∈ (longName n).toList) : c = 'd' := by
  rw [longName, String.toList_ofList] at h
  exact List.eq_of_mem_replicate h

/-- A long name may name a directory, up to the limit. -/
theorem isEntryName_longName {n : Nat} (h : n ≤ nameLimit) : Path.IsEntryName (longName n) where
  ne_up heq := by
    have hdot : '.' ∈ (longName n).toList := heq ▸ (by decide : '.' ∈ "..".toList)
    exact absurd (mem_longName hdot) (by decide)
  short := (size_longName n).trans_le h
  noNul hmem := absurd (mem_longName hmem) (by decide)

/-- A working directory so deep that the settings above it are not reached. -/
theorem deep_directory_escapes :
    let d := standing (List.replicate 15 (longName 255) ++ [longName 239]) [([fileName], .file [])]
    d.Stands ∧ Nearest d.tree d.cwd [] ∧ (loaded (absolute []) (.file [])).toOption.isSome = true ∧
      load d none = .error (.os ⟨.nameTooLong, (entry d.cwd fileName).toString, none⟩) := by
  intro d
  have hcases {part : String} (h : part ∈ List.replicate 15 (longName 255) ++ [longName 239]) :
      part = longName 255 ∨ part = longName 239 := by simpa using h
  have hname : ∀ part ∈ List.replicate 15 (longName 255) ++ [longName 239],
      Path.IsEntryName part := by
    intro part hpart
    rcases hcases hpart with rfl | rfl
    · exact isEntryName_longName (by decide)
    · exact isEntryName_longName (by decide)
  have hd : d.Stands := stands_standing hname _
  have hfits : ¬ Fits d.cwd := by
    have hsettings : fileName.utf8ByteSize = 16 := rfl
    have hpath : (entry d.cwd fileName).toString.utf8ByteSize =
        Disk.waySize (d.cwd ++ [fileName]) := Disk.size_toString_absolute (by simp)
    have hsize : Disk.waySize (d.cwd ++ [fileName]) = 4097 := by
      simp only [d, standing, Disk.waySize_append, Disk.waySize_replicate, Disk.waySize,
        size_longName, hsettings]
    rw [Fits, hpath, hsize]
    decide
  have hfree : fileName ∉ List.replicate 15 (longName 255) ++ [longName 239] := by
    intro hmem
    have hfirst : 'c' ∈ fileName.toList := by decide
    rcases hcases hmem with heq | heq
    · exact absurd (mem_longName (heq ▸ hfirst)) (by decide)
    · exact absurd (mem_longName (heq ▸ hfirst)) (by decide)
  have hnearest : Nearest d.tree d.cwd [] := by
    refine ⟨List.nil_prefix, by rw [HasEntry, node?_standing hfree]; rfl, fun loc _ hentry => ?_⟩
    rw [HasEntry, node?_standing hfree] at hentry
    have hloc : loc ++ [fileName] = [fileName] := by
      by_contra hne
      simp [List.lookup_cons, beq_false_of_ne hne] at hentry
    rw [List.append_left_eq_self.mp hloc]
  exact ⟨hd, hnearest, by decide +kernel, load_of_not_fits hd hfits⟩

end Settings

end StructScan
