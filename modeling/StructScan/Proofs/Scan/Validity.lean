import Mathlib.Data.List.Forall2
import StructScan.Proofs.Scan.Laziness
import StructScan.Proofs.Scan.RoundTrip

/-!
# Layouts that are found are valid

Every layout that a scan finds is spelled by tokens of its source, and the tokens of a source
are words and single characters.  So its names are identifiers, its types are `int`, `long` or
identifiers with at most one star, and a field is a pointer exactly if a star stands between
its type and its name.

Main results:

- Theorem `Token.Lexed.isIdentifier`: the text of an identifier token is an identifier.
- Theorem `Spells.valid`: a layout that is spelled by lexed tokens is valid, and the tokens of
  its fields stand one after the other among them.
- Theorem `Scan.run_valid`: every layout that any steps of a scan give is valid.
-/

namespace StructScan

open Token (Lexed linesTokens)
open TokenStream

/-! ## Words -/

/-- The words that are keywords. -/
theorem Token.Kind.word_of_keyword? {word : String} {kind : Token.Kind}
    (h : keyword? word = some kind) :
    (word, kind) ∈ [("struct", struct), ("typedef", typedef), ("class", classKeyword),
      ("int", int), ("long", long)] := by
  unfold keyword? at h
  split at h <;> simp_all

/-- The kind of a word that is no keyword tells whether it starts with a digit. -/
theorem Token.kind_ofWord (first : Char) (rest : List Char) (line : Int) :
    Kind.keyword? (String.ofList (first :: rest)) = some (ofWord first rest line).kind ∨
      Kind.keyword? (String.ofList (first :: rest)) = none ∧
        (ofWord first rest line).kind = if Text.isDigit first then .number else .identifier := by
  cases hkeyword : Kind.keyword? (String.ofList (first :: rest)) with
  | some kind => simp only [ofWord, hkeyword, Option.getD_some, true_or]
  | none => simp only [ofWord, hkeyword, Option.getD_none, true_and, or_true]

/-- A character that belongs to no word is neither a name nor a type. -/
theorem Token.Kind.isType_ofPunctuation (c : Char) : (ofPunctuation c).isType = false := by
  unfold ofPunctuation
  split <;> rfl

/-- The text of an identifier token is an identifier. -/
theorem Token.Lexed.isIdentifier {t : Token} (h : Lexed t) (hkind : t.kind = .identifier) :
    IsIdentifier t.text := by
  cases h with
  | @word first rest line hword =>
    rcases Token.kind_ofWord first rest line with hkeyword | ⟨hnone, hfirst⟩
    · have hlisted := Token.Kind.word_of_keyword? hkeyword
      simp [hkind] at hlisted
    · have hdigit : Text.isDigit first = false := by
        rw [hkind] at hfirst
        cases hdigit : Text.isDigit first with
        | false => rfl
        | true => simp [hdigit] at hfirst
      refine ⟨by simp, by simpa using hword, by simpa using hdigit, ?_⟩
      intro hlisted
      simp only [Token.ofWord_text, List.mem_cons, List.not_mem_nil, or_false] at hlisted
      rcases hlisted with hword | hword | hword | hword | hword <;>
        simp [hword, Token.Kind.keyword?] at hnone
  | @single c line hblank hsingle =>
    have hpunctuation := Token.Kind.isType_ofPunctuation c
    rw [show Token.Kind.ofPunctuation c = .identifier from hkind] at hpunctuation
    contradiction

/-- The text of a token that can stand for a type is a type. -/
theorem Token.Lexed.isBaseType {t : Token} (h : Lexed t) (hkind : t.kind.isType = true) :
    IsBaseType t.text := by
  by_cases hidentifier : t.kind = .identifier
  · exact .inr (.inr (h.isIdentifier hidentifier))
  · cases h with
    | @word first rest line hword =>
      rcases Token.kind_ofWord first rest line with hkeyword | ⟨-, hfirst⟩
      · have hlisted := Token.Kind.word_of_keyword? hkeyword
        simp only [List.mem_cons, Prod.mk.injEq, List.not_mem_nil, or_false] at hlisted
        rcases hlisted with ⟨-, heq⟩ | ⟨-, heq⟩ | ⟨-, heq⟩ | ⟨htext, -⟩ | ⟨htext, -⟩
        · simp [heq, Token.Kind.isType] at hkind
        · simp [heq, Token.Kind.isType] at hkind
        · simp [heq, Token.Kind.isType] at hkind
        · exact .inl htext
        · exact .inr (.inl htext)
      · rw [hfirst] at hkind hidentifier
        split at hkind <;> simp_all [Token.Kind.isType]
    | @single c line hblank hsingle =>
      rw [Token.Kind.isType_ofPunctuation c] at hkind
      contradiction

/-! ## Pointers -/

/-- A type without a star is no pointer. -/
theorem IsBaseType.isPointer_eq_false {base : String} (h : IsBaseType base) (name : String) :
    (⟨base, name⟩ : Field).isPointer = false := by
  rw [Bool.eq_false_iff, Ne, Field.isPointer_iff]
  rintro ⟨before, hsuffix⟩
  have hstar := h.word '*' (by rw [← hsuffix]; simp)
  exact absurd hstar (by decide)

/-- A type with a star is a pointer. -/
theorem Field.isPointer_star (base name : String) :
    (⟨base ++ "*", name⟩ : Field).isPointer = true := by
  rw [Field.isPointer_iff, String.toList_append]
  exact List.suffix_append _ _

/-- The tokens of a field, which is a pointer exactly if a star stands between type and name. -/
def Field.DeclaredBy (f : Field) (ts : List Token) : Prop :=
  Declares f ts ∧ ∃ type between name semicolon, ts = type :: (between ++ [name, semicolon]) ∧
    (f.isPointer = true ↔ ∃ star ∈ between, star.kind = .star)

/-! ## Fields and layouts -/

/-- A field that is declared by lexed tokens is valid, and its star is among them. -/
theorem Declares.valid {f : Field} {ts : List Token} (h : Declares f ts)
    (hlexed : ∀ t ∈ ts, Lexed t) : f.Valid ∧ f.DeclaredBy ts := by
  refine ⟨?_, h, ?_⟩
  · cases h with
    | @value type name semicolon htype hname hsemicolon =>
      have hbase := (hlexed type (by simp)).isBaseType htype
      exact ⟨(hlexed name (by simp)).isIdentifier hname, type.text, hbase, .inl rfl⟩
    | @pointer type star name semicolon htype hstar hname hsemicolon =>
      have hbase := (hlexed type (by simp)).isBaseType htype
      exact ⟨(hlexed name (by simp)).isIdentifier hname, type.text, hbase, .inr rfl⟩
  · cases h with
    | @value type name semicolon htype hname hsemicolon =>
      have hbase := (hlexed type (by simp)).isBaseType htype
      refine ⟨type, [], name, semicolon, rfl, ?_⟩
      simp [hbase.isPointer_eq_false]
    | @pointer type star name semicolon htype hstar hname hsemicolon =>
      refine ⟨type, [star], name, semicolon, rfl, ?_⟩
      simp [Field.isPointer_star, hstar]

/-- Fields that are declared by lexed tokens are valid, each declared by tokens of its own. -/
theorem DeclaresAll.valid {fs : List Field} {ts : List Token} (h : DeclaresAll fs ts)
    (hlexed : ∀ t ∈ ts, Lexed t) :
    (∀ f ∈ fs, f.Valid) ∧
      ∃ declarations, ts = declarations.flatten ∧
        List.Forall₂ Field.DeclaredBy fs declarations := by
  induction h with
  | nil => exact ⟨by simp, [], rfl, .nil⟩
  | @cons field fields ts us hfield _ ih =>
    obtain ⟨hfirst, hlater⟩ := List.forall_mem_append.mp hlexed
    obtain ⟨hvalid, hdeclared⟩ := hfield.valid hfirst
    obtain ⟨hvalids, declarations, rfl, hall⟩ := ih hlater
    exact ⟨List.forall_mem_cons.mpr ⟨hvalid, hvalids⟩, ts :: declarations, rfl,
      .cons hdeclared hall⟩

/-- Fields between braces that are lexed tokens are valid. -/
theorem Body.valid {fs : List Field} {ts : List Token} (h : Body fs ts)
    (hlexed : ∀ t ∈ ts, Lexed t) :
    (∀ f ∈ fs, f.Valid) ∧
      ∃ opening declarations closing, ts = opening :: (declarations.flatten ++ [closing]) ∧
        List.Forall₂ Field.DeclaredBy fs declarations := by
  obtain @⟨_, closing, @⟨opening, ts, hopening, hfields⟩, hclosing⟩ := h
  obtain ⟨hvalid, declarations, rfl, hall⟩ := hfields.valid fun t ht => hlexed t (by simp [ht])
  exact ⟨hvalid, opening, declarations, closing, rfl, hall⟩

/--
A layout that is spelled by lexed tokens is valid, and its fields are declared one after the
other among them.
-/
theorem Spells.valid {construct : Construct} {layout : Layout} {ts : List Token}
    (h : Spells construct layout ts) (hlexed : ∀ t ∈ ts, Lexed t) :
    layout.Valid ∧
      ∃ opening declarations closing, ts = opening ++ declarations.flatten ++ closing ∧
        List.Forall₂ Field.DeclaredBy layout.fields declarations := by
  cases h with
  | @struct name semicolon fields body hname hbody hsemicolon =>
    obtain ⟨hvalid, opening, declarations, closing, rfl, hall⟩ :=
      hbody.valid fun t ht => hlexed t (by simp [ht])
    have hidentifier := (hlexed name (by simp)).isIdentifier hname
    exact ⟨⟨hidentifier, hvalid⟩, [name, opening], declarations, [closing, semicolon],
      by simp, hall⟩
  | @typedef struct name semicolon tag body fields hstruct htag hbody hname hsemicolon =>
    obtain ⟨hvalid, opening, declarations, closing, rfl, hall⟩ :=
      hbody.valid fun t ht => hlexed t (by simp [ht])
    have hidentifier := (hlexed name (by simp)).isIdentifier hname
    exact ⟨⟨hidentifier, hvalid⟩, struct :: tag ++ [opening], declarations,
      [closing, name, semicolon], by simp, hall⟩

/-! ## Scans -/

namespace Scan

/--
Every layout that any steps of a scan give is valid.  It is spelled by tokens of the source
that stand together after a keyword, among which its fields are declared in order; and a field
is a pointer exactly if a star stands between its type and its name there.
-/
theorem run_valid {source : Source} (hcalm : source.fault? = none) (hfresh : source.pulled = 0)
    (report : Option Report) (steps : List Step) :
    ∀ reply ∈ (Step.run steps (ofSource source report)).1, ∀ layout ∈ reply.layouts,
      layout.Valid ∧
        ∃ before keyword opening declarations closing after construct,
          (linesTokens 1 .code source.pending).1 =
              before ++ keyword :: (opening ++ declarations.flatten ++ closing) ++ after ∧
            Construct.ofKind? keyword.kind = some construct ∧
            Spells construct layout (opening ++ declarations.flatten ++ closing) ∧
            List.Forall₂ Field.DeclaredBy layout.fields declarations := by
  intro reply hreply layout hlayout
  have hstart := Underway.ofSource hcalm hfresh
  have hfound := ((invariant_underway _).run steps (ofSource source report) hstart).2
  obtain ⟨semicolon, left, hcompletes⟩ := hfound reply hreply layout hlayout
  have hlexed := fun t => @Token.lexed_of_mem_linesTokens 1 .code source.pending t
  generalize (linesTokens 1 .code source.pending).1 = tokens at hcompletes hlexed
  obtain @⟨construct, _, before, begun, _, keyword, _, hkind, hspells, -⟩ := hcompletes
  have hspelled (t : Token) (ht : t ∈ begun ++ [semicolon]) : Lexed t :=
    hlexed t (List.mem_append_right _ (List.mem_cons_of_mem _ (List.mem_append_left _ ht)))
  obtain ⟨hvalid, opening, declarations, closing, htokens, hall⟩ :=
    hspells.valid hspelled
  refine ⟨hvalid, before, keyword, opening, declarations, closing, left, construct, ?_, hkind,
    htokens ▸ hspells, hall⟩
  rw [← htokens]
  simp

/-- A word that starts with a digit names no struct; a type may have an accent, or a star. -/
theorem run_valid_pointer :
    let source := Source.ofText
      "struct ² \x7b int a; \x7d; typedef struct T \x7b long * p; é q; \x7d struct_;"
    let layout : Layout := ⟨"struct_", [⟨"long*", "p"⟩, ⟨"é", "q"⟩]⟩
    let reply := (Step.list.perform (ofSource source)).1
    source.fault? = none ∧ source.pulled = 0 ∧ reply.layouts = [layout] ∧ layout.Valid := by
  intro source layout reply
  have hlayouts : reply.layouts = [layout] := by decide +kernel
  have hreply : reply ∈ (Step.run [.list] (ofSource source)).1 := List.mem_singleton_self _
  have hlayout : layout ∈ reply.layouts := by rw [hlayouts]; exact List.mem_singleton_self _
  have hvalid := @run_valid source rfl rfl none [.list] reply hreply layout hlayout
  exact ⟨rfl, rfl, hlayouts, hvalid.1⟩

end Scan

end StructScan
