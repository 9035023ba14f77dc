import Mathlib.Data.List.Nodup
import StructScan.Toml.Document

/-!
# The tables of a document

A table is a list of entries, in the order in which they were made.  What makes it a table is that
no key has two entries.  Every step of reading a document keeps this up, in the table of the
document itself and in all tables below it.

Main results:

- Theorem `Yields.bind`: what a computation gives if it succeeds, step by step.
- Theorem `updateAt_yields`: changing a table far down keeps the tables on the way.
- Theorem `ReadsTables.all`: the tables in a value that was read.
- Theorem `wellKeyed_of_parse`: the tables of a document that was read.
-/

namespace StructScan.Toml

/-! ## Results of computations -/

/-- A computation whose result, if it has one, has a property. -/
def Yields (P : α → Prop) (m : Except ε α) : Prop :=
  ∀ a, m = .ok a → P a

namespace Yields

variable {P : α → Prop} {Q : β → Prop} {ε : Type}

theorem ok {a : α} (h : P a) : Yields P (.ok a : Except ε α) := by
  rintro _ ⟨⟩
  exact h

theorem error (e : ε) : Yields P (.error e) :=
  nofun

/-- What a first computation gives, a second one starts from. -/
theorem bind {m : Except ε α} {k : α → Except ε β} (hm : Yields P m)
    (hk : ∀ a, P a → Yields Q (k a)) : Yields Q (m >>= k) := by
  cases m with
  | error e => exact error e
  | ok a => exact hk a (hm a rfl)

/-- A result that is changed has what the change gives it. -/
theorem map {m : Except ε α} {f : α → β} (hm : Yields (fun a => Q (f a)) m) :
    Yields Q (m.map f) := by
  cases m with
  | error e => exact error e
  | ok a => exact ok (hm a rfl)

theorem trivial (m : Except ε α) : Yields (fun _ => True) m :=
  fun _ _ => True.intro

/-- A weaker property holds of what a stronger one holds of. -/
theorem mono {P' : α → Prop} {m : Except ε α} (hm : Yields P m) (h : ∀ a, P a → P' a) :
    Yields P' m :=
  fun a ha => h a (hm a ha)

end Yields

/-! ## Tables with distinct keys -/

/-- A value in which every table has one entry for a key at most. -/
inductive Value.WellKeyed : Value → Prop where
  | single {v : Value} (h : v.isContainer = false) : WellKeyed v
  | array {items : List Value} (h : ∀ v ∈ items, v.WellKeyed) : WellKeyed (.array items)
  | table {entries : Table} (hkeys : (entries.map Prod.fst).Nodup)
      (h : ∀ e ∈ entries, e.2.WellKeyed) : WellKeyed (.table entries)

/-- A table with one entry for a key at most, as are all tables below it. -/
def WellKeyed (t : Table) : Prop :=
  (Value.table t).WellKeyed

/-- The keys of a table are distinct, and the same holds in each of its values. -/
theorem wellKeyed_iff (t : Table) :
    WellKeyed t ↔ (t.map Prod.fst).Nodup ∧ ∀ e ∈ t, e.2.WellKeyed := by
  constructor
  · intro h
    cases h with
    | single h => contradiction
    | table hkeys h => exact ⟨hkeys, h⟩
  · rintro ⟨hkeys, h⟩
    exact .table hkeys h

theorem wellKeyed_nil : WellKeyed [] :=
  .table .nil (by simp)

/-- Each item of an array has tables with distinct keys only. -/
theorem Value.WellKeyed.items {items : List Value} (h : (Value.array items).WellKeyed) :
    ∀ v ∈ items, v.WellKeyed := by
  cases h with
  | single h => contradiction
  | array h => exact h

/-- An entry that is looked up is one of the table. -/
theorem mem_of_lookup {t : Table} {k : String} {v : Value} (h : t.lookup k = some v) :
    (k, v) ∈ t := by
  induction t with
  | nil => contradiction
  | cons e t ih =>
    obtain ⟨k', v'⟩ := e
    rw [List.lookup_cons] at h
    split at h
    · rename_i hk
      cases h
      rw [beq_iff_eq.mp hk]
      exact List.mem_cons_self
    · exact List.mem_cons_of_mem _ (ih h)

/-- A key that is not found is none of the table. -/
theorem notMem_keys_of_lookup {t : Table} {k : String} (h : t.lookup k = none) :
    k ∉ t.map Prod.fst := by
  rw [List.lookup_eq_none_iff] at h
  rintro hk
  obtain ⟨e, he, rfl⟩ := List.mem_map.mp hk
  simpa using h e he

/-- A value that is found in a table is one of its values. -/
theorem WellKeyed.of_lookup {t : Table} {k : String} {v : Value} (h : WellKeyed t)
    (hk : t.lookup k = some v) : v.WellKeyed :=
  ((wellKeyed_iff t).mp h).2 (k, v) (mem_of_lookup hk)

/-- A new entry for a key that has none. -/
theorem WellKeyed.concat {t : Table} {k : String} {v : Value} (h : WellKeyed t)
    (hk : t.lookup k = none) (hv : v.WellKeyed) : WellKeyed (t ++ [(k, v)]) := by
  rw [wellKeyed_iff] at h ⊢
  obtain ⟨hkeys, hentries⟩ := h
  have hnew := notMem_keys_of_lookup hk
  refine ⟨?_, ?_⟩
  · rw [List.map_append, List.nodup_append]
    refine ⟨hkeys, List.nodup_singleton k, ?_⟩
    rintro k' hk' _ hsame rfl
    simp only [List.map_cons, List.map_nil, List.mem_singleton] at hsame
    exact hnew (hsame ▸ hk')
  · simp only [List.mem_append, List.mem_singleton]
    rintro e (he | rfl)
    · exact hentries e he
    · exact hv

/-- Another value for a key. -/
theorem WellKeyed.replaceEntry {t : Table} (h : WellKeyed t) (k : String) {v : Value}
    (hv : v.WellKeyed) : WellKeyed (replaceEntry t k v) := by
  rw [wellKeyed_iff] at h ⊢
  obtain ⟨hkeys, hentries⟩ := h
  refine ⟨?_, ?_⟩
  · have hsame : (Toml.replaceEntry t k v).map Prod.fst = t.map Prod.fst := by
      rw [Toml.replaceEntry, List.map_map]
      refine List.map_congr_left fun e _ => ?_
      by_cases he : e.1 = k
      · simp [he]
      · simp [he]
    rwa [hsame]
  · intro e he
    obtain ⟨e', he', rfl⟩ := List.mem_map.mp he
    split
    · exact hv
    · exact hentries e' he'

/-! ## Changing tables -/

/-- A key that is set for the first time gets the one entry it may have. -/
theorem addEntry_yields (k : String) {v : Value} (hv : v.WellKeyed) {t : Table}
    (h : WellKeyed t) : Yields WellKeyed (addEntry k v t) := by
  unfold addEntry
  split
  · exact .error _
  · rename_i hk
    exact .ok (h.concat (Option.not_isSome_iff_eq_none.mp hk) hv)

/-- A new table of an array starts empty, after those that are there. -/
theorem addItem_yields (k : String) {t : Table} (h : WellKeyed t) :
    Yields WellKeyed (Draft.addItem k t) := by
  have hitem : (Value.table []).WellKeyed := wellKeyed_nil
  unfold Draft.addItem
  split
  · rename_i hk
    exact .ok (h.concat hk (.array (by simpa using hitem)))
  · rename_i items hk
    refine .ok (h.replaceEntry k (.array ?_))
    simp only [List.mem_append, List.mem_singleton]
    rintro v (hv | rfl)
    · exact (h.of_lookup hk).items v hv
    · exact hitem
  · exact .error _

/-- Changing a table far down keeps the tables on the way. -/
theorem updateAt_yields (enterArrays : Bool) {f : Table → Except Error Table}
    (hf : ∀ t, WellKeyed t → Yields WellKeyed (f t)) (k : Key) {t : Table} (h : WellKeyed t) :
    Yields WellKeyed (updateAt enterArrays k f t) := by
  induction k generalizing t with
  | nil => exact hf t h
  | cons k ks ih =>
    rw [updateAt]
    split
    · rename_i hk
      exact (ih wellKeyed_nil).bind fun sub hsub => .ok (h.concat hk hsub)
    · rename_i sub hk
      exact (ih (h.of_lookup hk)).bind fun sub hsub => .ok (h.replaceEntry k hsub)
    · rename_i items hk
      have hitems := (h.of_lookup hk).items
      split
      · rename_i sub hlast
        refine (ih (hitems _ (List.mem_of_getLast? hlast))).bind fun sub hsub =>
          .ok (h.replaceEntry k (.array ?_))
        simp only [List.mem_append, List.mem_singleton]
        rintro v (hv | rfl)
        · exact hitems v (List.dropLast_subset items hv)
        · exact hsub
      · exact .error _
    · exact .error _

/-! ## Values -/

/-- A number in decimal digits holds no other values. -/
theorem decimalInteger_yields (negative : Bool) (ds : List Char) :
    Yields (fun v : Value => v.isContainer = false) (decimalInteger negative ds) := by
  unfold decimalInteger
  split
  · exact .ok rfl
  · exact .error _

/-- A single value that was read, with the text that is left. -/
def ReadsSingle (m : Except Error (Value × Input)) : Prop :=
  Yields (fun r => r.1.isContainer = false) m

/-- Nor does one in hexadecimal, octal or binary digits. -/
theorem basedInteger?_single {cs : Input} {r : Value × Input} (h : basedInteger? cs = some r) :
    r.1.isContainer = false := by
  unfold basedInteger? at h
  split at h
  · rename_i mark cs
    have hread (base : Nat) (h : ((digits? (isDigitOf base) cs).bind fun x =>
        some (Value.integer (digitsValue base x.1), x.2)) = some r) : r.1.isContainer = false := by
      obtain ⟨_, -, ⟨⟩⟩ := Option.bind_eq_some_iff.mp h
      rfl
    split at h
    · exact hread 16 h
    · exact hread 8 h
    · exact hread 2 h
    · contradiction
  · contradiction

theorem specialFloat?_single {cs : Input} {r : Value × Input} (h : specialFloat? cs = some r) :
    r.1.isContainer = false := by
  unfold specialFloat? at h
  dsimp only at h
  split at h
  · cases h; rfl
  · cases h; rfl
  · contradiction

theorem decimal?_single {cs : Input} {m : Except Error (Value × Input)}
    (h : decimal? cs = some m) : ReadsSingle m := by
  unfold decimal? at h
  simp only [Option.bind_eq_bind, Option.bind_eq_some_iff, Option.pure_def] at h
  obtain ⟨⟨whole, rest⟩, -, h⟩ := h
  split at h
  · cases h
    exact .map (decimalInteger_yields _ _)
  · cases h
    exact .ok rfl

theorem dateTime?_single {cs : Input} {m : Except Error (Value × Input)}
    (h : dateTime? cs = some m) : ReadsSingle m := by
  unfold dateTime? at h
  simp only [Option.bind_eq_bind, Option.bind_eq_some_iff, Option.pure_def] at h
  obtain ⟨⟨d, rest⟩, -, h⟩ := h
  split at h
  · cases h
    refine .ok ?_
    split
    · rfl
    · split <;> rfl
  · cases h
    exact .error _

/-- A date, a time or a number holds no other values. -/
theorem scalar_single (cs : Input) : ReadsSingle (scalar cs) := by
  unfold scalar
  split
  · exact .ok rfl
  · exact .ok rfl
  · split
    · rename_i hdate
      exact dateTime?_single hdate
    · split
      · exact .ok rfl
      · split
        · rename_i hbased
          exact .ok (basedInteger?_single hbased)
        · rename_i hdecimal
          exact decimal?_single hdecimal
        · rename_i hspecial
          exact .ok (specialFloat?_single hspecial)
        · exact .error _

/-- What reading a value, the items of an array and the entries of a table gives. -/
structure ReadsTables (n : Nat) : Prop where
  value (room : Nat) (cs : Input) :
    Yields (fun r : Value × Input => r.1.WellKeyed) (value n room cs)
  arrayItems (room : Nat) (cs : Input) :
    Yields (fun r : List Value × Input => ∀ v ∈ r.1, v.WellKeyed) (arrayItems n room cs)
  inlineEntries (room : Nat) {t : Table} (ht : WellKeyed t) (frozen : List Key) (cs : Input) :
    Yields (fun r : Table × Input => WellKeyed r.1) (inlineEntries n room t frozen cs)

namespace ReadsTables

theorem zero : ReadsTables 0 where
  value _ _ := by rw [Toml.value]; exact .error _
  arrayItems _ _ := by rw [Toml.arrayItems]; exact .error _
  inlineEntries _ _ _ _ _ := by rw [Toml.inlineEntries]; exact .error _

variable {n : Nat}

/-- A value, where what is inside it was read well. -/
theorem value_succ (ih : ReadsTables n) (room : Nat) (cs : Input) :
    Yields (fun r : Value × Input => r.1.WellKeyed) (Toml.value (n + 1) room cs) := by
  unfold Toml.value
  split
  · exact .map ((Yields.trivial _).mono fun _ _ => .single rfl)
  · split
    · refine (Yields.trivial _).bind fun room _ => (Yields.trivial _).bind fun rest _ => ?_
      split
      · exact .ok (.array (by simp))
      · exact (ih.arrayItems room _).bind fun r hitems => .ok (.array hitems)
    · refine (Yields.trivial _).bind fun room _ => ?_
      split
      · exact .ok wellKeyed_nil
      · exact (ih.inlineEntries room wellKeyed_nil [] _).bind fun r hentries => .ok hentries
    · exact (scalar_single _).mono fun _ hsingle => .single hsingle

/-- The items of an array, where those after the first were read well. -/
theorem arrayItems_succ (ih : ReadsTables n) (room : Nat) (cs : Input) :
    Yields (fun r : List Value × Input => ∀ v ∈ r.1, v.WellKeyed)
      (Toml.arrayItems (n + 1) room cs) := by
  rw [Toml.arrayItems]
  refine (ih.value room cs).bind fun r hitem => (Yields.trivial _).bind fun rest _ => ?_
  have hlast : ∀ v ∈ [r.1], v.WellKeyed := by simpa using hitem
  split
  · exact .ok hlast
  · refine (Yields.trivial _).bind fun rest _ => ?_
    split
    · exact .ok hlast
    · exact (ih.arrayItems room _).bind fun rs hitems =>
        .ok (List.forall_mem_cons.mpr ⟨hitem, hitems⟩)
  · exact .error _

/-- The entries of an inline table, each set in the table of those before it. -/
theorem inlineEntries_succ (ih : ReadsTables n) (room : Nat) {t : Table} (ht : WellKeyed t)
    (frozen : List Key) (cs : Input) :
    Yields (fun r : Table × Input => WellKeyed r.1)
      (Toml.inlineEntries (n + 1) room t frozen cs) := by
  rw [Toml.inlineEntries]
  refine (Yields.trivial _).bind fun ⟨k, rest⟩ _ => ?_
  dsimp only
  split
  · refine (ih.value room _).bind fun ⟨v, rest⟩ hv => ?_
    dsimp only
    split
    · exact .error _
    · refine (updateAt_yields false (fun t ht => addEntry_yields _ hv ht) _ ht).bind fun t ht => ?_
      split
      · exact .ok ht
      · exact ih.inlineEntries room ht _ _
      · exact .error _
  · exact .error _

/-- However long a text is, what is read from it is made of tables with distinct keys. -/
theorem all (n : Nat) : ReadsTables n := by
  induction n with
  | zero => exact zero
  | succ n ih => exact ⟨ih.value_succ, ih.arrayItems_succ, ih.inlineEntries_succ⟩

end ReadsTables

/-! ## Statements -/

namespace Draft

variable {d : Draft} {k : Key}

/-- A header of a table makes the tables on its way, or enters those that are there. -/
theorem openTable_yields (k : Key) (h : WellKeyed d.table) :
    Yields (fun d : Draft => WellKeyed d.table) (d.openTable k) := by
  unfold openTable
  split
  · exact .error _
  · exact (updateAt_yields true (fun t ht => .ok ht) k h).bind fun t ht => .ok ht

/-- A header of an array of tables adds one table to it. -/
theorem openItem_yields (k : Key) (h : WellKeyed d.table) :
    Yields (fun d : Draft => WellKeyed d.table) (d.openItem k) := by
  unfold openItem
  split
  · exact .error _
  · exact (updateAt_yields true (fun t ht => addItem_yields _ ht) _ h).bind fun t ht => .ok ht

/-- A pair sets one key of the table that is open. -/
theorem addPair_yields (k : Key) {v : Value} (hv : v.WellKeyed) (h : WellKeyed d.table) :
    Yields (fun d : Draft => WellKeyed d.table) (d.addPair k v) := by
  unfold addPair
  dsimp only
  split
  · exact .error _
  · split
    · exact .error _
    · exact (updateAt_yields true (fun t ht => addEntry_yields _ hv ht) _ h).bind
        fun t ht => .ok ht

end Draft

/-- Whatever statement is read, the tables keep distinct keys. -/
theorem statement_yields (fuel : Nat) {d : Draft} (h : WellKeyed d.table) (cs : Input) :
    Yields (fun r : Draft × Input => WellKeyed r.1.table) (statement fuel d cs) := by
  unfold statement
  split
  · exact .ok h
  · exact .ok h
  · refine (Yields.trivial _).bind fun ⟨k, rest⟩ _ => ?_
    refine (d.settle.openItem_yields k h).bind fun d hd => ?_
    split
    · exact .ok hd
    · exact .error _
  · refine (Yields.trivial _).bind fun ⟨k, rest⟩ _ => ?_
    refine (d.settle.openTable_yields k h).bind fun d hd => ?_
    split
    · exact .ok hd
    · exact .error _
  · split
    · refine (Yields.trivial _).bind fun ⟨k, rest⟩ _ => ?_
      dsimp only
      split
      · exact ((ReadsTables.all _).value _ _).bind fun r hv =>
          (d.addPair_yields k hv h).bind fun d hd => .ok hd
      · exact .error _
    · exact .error _

/-- So they do over any number of statements. -/
theorem statements_yields (fuel n : Nat) {d : Draft} (h : WellKeyed d.table) (cs : Input) :
    Yields (fun d : Draft => WellKeyed d.table) (statements fuel n d cs) := by
  induction n generalizing d cs with
  | zero => exact .ok h
  | succ n ih =>
    unfold statements
    split
    · exact .ok h
    · exact ih h _
    · exact (statement_yields fuel h _).bind fun r hr =>
        (Yields.trivial _).bind fun rest _ => ih hr _

/-- The tables of a document have one entry for a key at most. -/
theorem wellKeyed_of_parse {text : List Char} {document : Table}
    (h : parse text = .ok document) : WellKeyed document := by
  have hall : Yields WellKeyed (parse text) :=
    (statements_yields _ _ wellKeyed_nil _).bind fun d hd => .ok hd
  exact hall document h

end StructScan.Toml
