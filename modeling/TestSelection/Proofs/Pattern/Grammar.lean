/-
# The grammar of declarations

A value declares a pattern if it is a glob, or a mapping with one tag and a glob under it
(`Declares`). Every way to read declarations agrees with this grammar: one value
(`isDeclaration_iff`), some values, which fail with the first one that declares nothing
(`reports_ofValues`), and a field that names at least one pattern, which fails as a whole
(`reports_ofField`). No value is both a declaration and a list of some. Reading loses nothing: what
was read is written as the values it was read from (`reading_is_exact`).
-/

import TestSelection.Pattern.Parallel
import TestSelection.Proofs.Pattern.Declarations

namespace TestSelection
namespace Pattern

open Outcome (Reports reports_error reports_ok)

/-- The values that declare a pattern. -/
inductive Declares : Value → Prop
  | glob (glob : Text) : Declares (.str glob)
  | tagged {key : Text} (tag : key = "include" ∨ key = "exclude") (glob : Text) :
      Declares (.map [(.str key, .str glob)])

variable {context field : Text} {raw : Value} {raws : List Value} {e : PatternError}

/-- Declarations are the values that patterns are written as. -/
theorem isDeclaration_iff_exists : isDeclaration raw = true ↔ ∃ p : Pattern, raw = p.toValue := by
  simp only [isDeclaration, Option.isSome_iff_exists, ofValue?_eq_some_iff]

/-- **A value is taken for a declaration if and only if the grammar has it.** -/
theorem isDeclaration_iff : isDeclaration raw = true ↔ Declares raw := by
  rw [isDeclaration_iff_exists]
  constructor
  · rintro ⟨⟨tag, glob⟩, rfl⟩
    cases tag with
    | bare => exact .glob glob
    | included => exact .tagged (.inl rfl) glob
    | excluded => exact .tagged (.inr rfl) glob
  · rintro (glob | ⟨rfl | rfl, glob⟩)
    · exact ⟨⟨.bare, glob⟩, rfl⟩
    · exact ⟨⟨.included, glob⟩, rfl⟩
    · exact ⟨⟨.excluded, glob⟩, rfl⟩

/-- Values that all declare a pattern are what some patterns are written as. -/
theorem forall_isDeclaration_iff :
    (∀ raw ∈ raws, isDeclaration raw = true) ↔ ∃ ps : List Pattern, raws = ps.map toValue := by
  constructor
  · intro h
    induction raws with
    | nil => exact ⟨[], rfl⟩
    | cons raw rest ih =>
      obtain ⟨hraw, hrest⟩ := List.forall_mem_cons.1 h
      obtain ⟨p, rfl⟩ := isDeclaration_iff_exists.1 hraw
      obtain ⟨ps, rfl⟩ := ih hrest
      exact ⟨p :: ps, rfl⟩
  · rintro ⟨ps, rfl⟩ raw hraw
    obtain ⟨p, -, rfl⟩ := List.mem_map.1 hraw
    exact isDeclaration_iff_exists.2 ⟨p, rfl⟩

/-! ### Some declarations -/

/-- The values that declare no pattern. -/
def undeclared (raws : List Value) : List Value := raws.filter (!isDeclaration ·)

/-- Declarations fail with the first one that cannot be read. -/
theorem reports_ofValues : Reports (Misshapen.lift (ofValues context raws))
    ((undeclared raws).map fun raw => Misshapen.report ⟨context, .pattern raw⟩) := by
  have hread : Reports (ofValues context raws)
      ((undeclared raws).map fun raw => ⟨context, .pattern raw⟩) := by
    induction raws with
    | nil => exact reports_ok _
    | cons raw rest ih =>
      rw [ofValues, ofValue, undeclared]
      -- A declaration is no fault; the first value that is none ends the reading.
      cases hraw : ofValue? raw with
      | some p =>
        rw [List.filter_cons_of_neg (by simp [isDeclaration, hraw])]
        exact ih.map
      | none =>
        rw [List.filter_cons_of_pos (by simp [isDeclaration, hraw])]
        exact reports_error _ _
  have hlift : Reports (Misshapen.lift (ofValues context raws)) _ := hread.mapError
  rwa [List.map_map] at hlift

/-- Values are read as patterns when each of them is a declaration. -/
theorem exists_ofValues_iff :
    (∃ ps, ofValues context raws = .ok ps) ↔ ∀ raw ∈ raws, isDeclaration raw = true := by
  simp only [ofValues_eq_ok_iff, forall_isDeclaration_iff]

/-- A value that declares nothing, after values that all declare a pattern. -/
structure FirstUndeclared (raws : List Value) (raw : Value) : Prop where
  split : ∃ before after, raws = before ++ raw :: after ∧ ∀ r ∈ before, isDeclaration r = true
  undeclared : isDeclaration raw = false

/-- The first value that is no declaration, found by going through the values. -/
theorem firstUndeclared_iff : FirstUndeclared raws raw ↔ (undeclared raws).head? = some raw := by
  rw [Pattern.undeclared, List.head?_filter, List.find?_eq_some_iff_append]
  simp only [Bool.not_eq_true', Bool.not_not]
  constructor
  · rintro ⟨⟨before, after, hsplit, hbefore⟩, hraw⟩
    exact ⟨hraw, before, after, hsplit, hbefore⟩
  · rintro ⟨hraw, before, after, hsplit, hbefore⟩
    exact ⟨⟨before, after, hsplit, hbefore⟩, hraw⟩

/-- **Declarations fail for the first one that is none.**  It is reported, unless it cannot be
shown. -/
theorem lift_ofValues_eq_error_iff :
    Misshapen.lift (ofValues context raws) = .error e ↔
      ∃ raw, FirstUndeclared raws raw ∧
        e = if raw.hasLongInteger then .longInteger else .misshapen ⟨context, .pattern raw⟩ := by
  rw [reports_ofValues e, List.head?_map, Option.map_eq_some_iff]
  simp only [firstUndeclared_iff, eq_comm (a := e), Misshapen.report]

/-! ### A field -/

/-- Whether a value names patterns can be told. -/
instance : Decidable (∃ own, Names raw own) :=
  decidable_of_iff ((ofField [] [] raw).toOption.isSome = true) <| by
    simp only [← @ofField_eq_ok_iff [] [] raw]
    cases ofField [] [] raw <;> simp [Except.toOption]

/-- A field that names no patterns is at fault as a whole. -/
theorem reports_ofField : Reports (ofField context field raw)
    (if ∃ own, Names raw own then [] else [⟨context, .field field⟩]) := by
  have herror : ∀ m, ofField context field raw = .error m → m = ⟨context, .field field⟩ := by
    intro m h
    unfold ofField at h
    split at h
    · cases h
    · split at h
      · split at h
        · cases h
        · exact (Except.error.inj h).symm
      · exact (Except.error.inj h).symm
  cases hf : ofField context field raw with
  | ok own =>
    rw [if_pos ⟨own, ofField_eq_ok_iff.1 hf⟩]
    exact reports_ok _
  | error m =>
    have hnone : ¬∃ own, Names raw own := by
      rintro ⟨own, hn⟩
      exact absurd (hf.symm.trans (ofField_eq_ok_iff.2 hn)) nofun
    rw [if_neg hnone, herror m hf]
    exact reports_error _ _

/-- What a field may hold besides a declaration: a list of some, and of nothing else. -/
def IsDeclarationList (raw : Value) (items : List Value) : Prop :=
  raw = .list items ∧ items ≠ [] ∧ ∀ item ∈ items, isDeclaration item = true

/-- A list declares no pattern. -/
theorem isDeclaration_list (items : List Value) : isDeclaration (.list items) = false := rfl

/-- A declaration alone is read as a list of one. -/
theorem ofField_of_isDeclaration (h : isDeclaration raw = true) :
    ofField context field raw = ofValues context [raw] := by
  obtain ⟨p, rfl⟩ := isDeclaration_iff_exists.1 h
  have hfield : ofField context field p.toValue = .ok [p] :=
    ofField_eq_ok_iff.2 (.inl ⟨p, rfl, rfl⟩)
  have hvalues : ofValues context [p.toValue] = .ok [p] := ofValues_eq_ok_iff.2 rfl
  rw [hfield, hvalues]

/-- A list is read as the values in it. -/
theorem ofField_of_isDeclarationList {items : List Value} (h : IsDeclarationList raw items) :
    ofField context field raw = ofValues context items := by
  obtain ⟨rfl, hne, hall⟩ := h
  obtain ⟨ps, rfl⟩ := forall_isDeclaration_iff.1 hall
  have hps : ps ≠ [] := by
    rintro rfl
    exact hne rfl
  have hfield : ofField context field (.list (ps.map toValue)) = .ok ps :=
    ofField_eq_ok_iff.2 (.inr ⟨hps, rfl⟩)
  have hvalues : ofValues context (ps.map toValue) = .ok ps := ofValues_eq_ok_iff.2 rfl
  rw [hfield, hvalues]

/-- A field is read if it holds one declaration or a list of some. -/
theorem exists_ofField_iff :
    (∃ ps, ofField context field raw = .ok ps) ↔
      isDeclaration raw = true ∨ ∃ items, IsDeclarationList raw items := by
  constructor
  · rintro ⟨ps, h⟩
    rcases ofField_eq_ok_iff.1 h with ⟨p, -, rfl⟩ | ⟨hne, rfl⟩
    · exact .inl (isDeclaration_iff_exists.2 ⟨p, rfl⟩)
    · exact .inr ⟨_, rfl, by simpa using hne, forall_isDeclaration_iff.2 ⟨ps, rfl⟩⟩
  · rintro (h | ⟨items, h⟩)
    · rw [ofField_of_isDeclaration h, exists_ofValues_iff]
      exact List.forall_mem_singleton.2 h
    · rw [ofField_of_isDeclarationList h, exists_ofValues_iff]
      exact h.2.2

/-- **A field that cannot be read is reported by its name and the context.** -/
theorem lift_ofField_of_error (h : Misshapen.lift (ofField context field raw) = .error e) :
    e = .misshapen ⟨context, .field field⟩ := by
  have hreports : Reports (Misshapen.lift (ofField context field raw)) _ := reports_ofField.mapError
  rw [hreports e] at h
  split at h
  · cases h
  · exact (Option.some.inj h).symm

/-- **Declarations are read exactly, and nothing is lost.**

Patterns are read from what they are written as. Values are read if and only if each of them
declares a pattern, and what is read is written as these values again; otherwise the first one that
declares nothing is at fault, and is shown unless a number in it has too many digits. A field is
read if and only if it holds a declaration or a list of some, and never both; it is read like this
declaration alone, or like the items of the list; otherwise the field is reported, by its name and
the context. What declares a pattern is told by the grammar. -/
theorem reading_is_exact (context field : Text) :
    (∀ ps : List Pattern, ofValues context (ps.map toValue) = .ok ps) ∧
    (∀ raws,
      ((∃ ps, ofValues context raws = .ok ps) ↔ ∀ raw ∈ raws, isDeclaration raw = true) ∧
      (∀ ps, ofValues context raws = .ok ps → ps.map toValue = raws) ∧
      ∀ e, Misshapen.lift (ofValues context raws) = .error e ↔
        ∃ raw, FirstUndeclared raws raw ∧
          e = if raw.hasLongInteger then .longInteger else .misshapen ⟨context, .pattern raw⟩) ∧
    ∀ raw,
      (isDeclaration raw = true ↔ Declares raw) ∧
      ((∃ ps, ofField context field raw = .ok ps) ↔
        isDeclaration raw = true ∨ ∃ items, IsDeclarationList raw items) ∧
      (isDeclaration raw = true → ofField context field raw = ofValues context [raw]) ∧
      (∀ items, IsDeclarationList raw items →
        ofField context field raw = ofValues context items) ∧
      ¬(isDeclaration raw = true ∧ ∃ items, IsDeclarationList raw items) ∧
      ∀ e, Misshapen.lift (ofField context field raw) = .error e →
        e = .misshapen ⟨context, .field field⟩ ∧
          e.message = context ++ " has invalid " ++ ("'" ++ field ++ "'") := by
  refine ⟨fun ps => ofValues_eq_ok_iff.2 rfl, fun raws => ⟨exists_ofValues_iff, fun ps h =>
    (ofValues_eq_ok_iff.1 h).symm, fun e => lift_ofValues_eq_error_iff⟩, fun raw =>
    ⟨isDeclaration_iff, exists_ofField_iff, ofField_of_isDeclaration, fun items =>
      ofField_of_isDeclarationList, ?_, fun e he => ?_⟩⟩
  · rintro ⟨hone, items, rfl, -⟩
    rw [isDeclaration_list] at hone
    cases hone
  · obtain rfl := lift_ofField_of_error he
    exact ⟨rfl, rfl⟩

end Pattern
end TestSelection
