/-
# Reading declarations

A value declares a pattern exactly when it is what the pattern is written as, so what has been read
is known from what it was read from: one declaration (`ofValue?_eq_some_iff`), some of them
(`ofValues_eq_ok_iff`), and a field that names at least one pattern (`ofField_eq_ok_iff`).
-/

import TestSelection.Pattern.Basic
import TestSelection.Proofs.Outcome

namespace TestSelection

/-- The two keys of a declaration and what they stand for. -/
theorem Tag.ofKey?_eq_some_iff {key : Text} {tag : Tag} :
    Tag.ofKey? key = some tag ↔
      key = "include" ∧ tag = .included ∨ key = "exclude" ∧ tag = .excluded := by
  rw [Tag.ofKey?]
  split
  case isTrue h =>
    subst h
    simp [eq_comm]
  case isFalse h =>
    split
    case isTrue he => simp [he, eq_comm]
    case isFalse he => simp [h, he]

namespace Pattern

variable {context field : Text} {raw : Value} {raws : List Value} {p : Pattern} {ps : List Pattern}

/-- The pattern is the value's, and the value the pattern's. -/
theorem ofValue?_eq_some_iff : ofValue? raw = some p ↔ raw = p.toValue := by
  constructor
  · intro h
    unfold ofValue? at h
    split at h
    case h_1 glob =>
      obtain rfl := Option.some.inj h
      rfl
    case h_2 key glob =>
      obtain ⟨tag, hk, rfl⟩ := Option.map_eq_some_iff.1 h
      rcases Tag.ofKey?_eq_some_iff.1 hk with ⟨rfl, rfl⟩ | ⟨rfl, rfl⟩ <;> rfl
    case h_3 => cases h
  · rintro rfl
    exact ofValue?_toValue p

/-- What is read as a pattern is the declaration that the pattern is written as. The two are inverse
to each other, so nothing but the pattern is in a declaration. -/
theorem ofValue_eq_ok_iff : ofValue context raw = .ok p ↔ raw = p.toValue := by
  rw [← ofValue?_eq_some_iff, ofValue]
  cases ofValue? raw <;> simp

/-- Some declarations are those of patterns if and only if the first and the others are. -/
theorem cons_eq_map_toValue_iff :
    (∃ p, raw = p.toValue ∧ ∃ others, raws = others.map toValue ∧ p :: others = ps) ↔
      raw :: raws = ps.map toValue := by
  constructor
  · rintro ⟨p, rfl, others, rfl, rfl⟩
    rfl
  · intro h
    obtain ⟨p, others, rfl, rfl, rfl⟩ := List.map_eq_cons_iff.1 h.symm
    exact ⟨p, rfl, others, rfl, rfl⟩

/-- Patterns are read from the values they are written as, and from no others. -/
theorem ofValues_eq_ok_iff : ofValues context raws = .ok ps ↔ raws = ps.map toValue := by
  induction raws generalizing ps with
  | nil => rw [ofValues, Except.ok.injEq, eq_comm, eq_comm (a := []), List.map_eq_nil_iff]
  | cons raw rest ih =>
    simp only [ofValues, Outcome.bind_eq_ok_iff, ofValue_eq_ok_iff, ih, pure, Except.pure,
      Except.ok.injEq]
    exact cons_eq_map_toValue_iff

/-- A list of values is read as patterns when all of them are declarations. -/
theorem mapM_ofValue?_eq_some_iff : raws.mapM ofValue? = some ps ↔ raws = ps.map toValue := by
  induction raws generalizing ps with
  | nil => rw [List.mapM_nil, eq_comm (a := []), List.map_eq_nil_iff, Option.pure_def,
      Option.some.injEq, eq_comm]
  | cons raw rest ih =>
    simp only [List.mapM_cons, Option.bind_eq_bind, Option.bind_eq_some_iff, ofValue?_eq_some_iff,
      ih, Option.pure_def, Option.some.injEq]
    exact cons_eq_map_toValue_iff

/-- What a field that names patterns may hold: one of them, or a list that is not empty. -/
def Names (raw : Value) (ps : List Pattern) : Prop :=
  (∃ p, ps = [p] ∧ raw = p.toValue) ∨ ps ≠ [] ∧ raw = .list (ps.map toValue)

/-- The declaration of a pattern is no list. -/
theorem toValue_ne_list (p : Pattern) (items : List Value) : p.toValue ≠ .list items := by
  obtain ⟨tag, glob⟩ := p
  cases tag <;> nofun

/-- A list names patterns when it is one of declarations, and is not empty. -/
theorem names_list_iff {items : List Value} :
    Names (.list items) ps ↔ ps ≠ [] ∧ items = ps.map toValue := by
  rw [Names, Value.list.injEq, or_iff_right]
  rintro ⟨p, -, h⟩
  exact toValue_ne_list p items h.symm

/-- A field is read as the patterns that it names, in each of the forms that it may have. -/
theorem ofField_eq_ok_iff : ofField context field raw = .ok ps ↔ Names raw ps := by
  -- The cases of the reader: one declaration, a list of some, a list with something else in it, and
  -- anything else.
  unfold ofField
  split
  case h_1 p hp =>
    obtain rfl := ofValue?_eq_some_iff.1 hp
    rw [Except.ok.injEq, Names]
    constructor
    · rintro rfl
      exact .inl ⟨p, rfl, rfl⟩
    · rintro (⟨q, rfl, hq⟩ | ⟨-, hl⟩)
      · rw [← ofValue?_eq_some_iff, ofValue?_toValue, Option.some.injEq] at hq
        rw [hq]
      · exact absurd hl (toValue_ne_list p _)
  case h_2 hn =>
    split
    case h_1 item rest =>
      rw [names_list_iff, ← mapM_ofValue?_eq_some_iff]
      split
      case h_1 qs hq =>
        rw [hq, Option.some.injEq, Except.ok.injEq, iff_and_self]
        rintro rfl rfl
        exact List.cons_ne_nil item rest (mapM_ofValue?_eq_some_iff.1 hq)
      case h_2 hq => simp [hq]
    case h_2 hl =>
      simp only [reduceCtorEq, false_iff]
      rintro (⟨p, rfl, rfl⟩ | ⟨hne, rfl⟩)
      · rw [ofValue?_toValue] at hn
        cases hn
      · obtain ⟨p, qs, rfl⟩ := List.exists_cons_of_ne_nil hne
        exact hl _ _ rfl

end Pattern
end TestSelection
