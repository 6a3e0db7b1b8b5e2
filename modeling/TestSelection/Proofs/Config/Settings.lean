/-
# The settings of a profile

What a configuration asks for under the name of a profile: a setting at its top, followed by that of
the profile, both as lists (`Joined`). `Outline.joined` gives this list (`joined_iff`), and there is
no other (`Joined.unique`).
-/

import TestSelection.Plan.Basic
import TestSelection.Proofs.Outcome

namespace TestSelection

/-- The list that the value of a setting stands for. -/
inductive Value.Lists : Option Value → List Value → Prop
  | absent : Lists none []
  | null : Lists (some .null) []
  | text {s : Text} : Lists (some (.str s)) [.str s]
  | list {items : List Value} : Lists (some (.list items)) items

namespace Config

/-- The entries of the profile of a name. -/
def IsProfile (config : Entries) (name : Text) (own : Entries) : Prop :=
  ∃ profiles : Entries, config.field? "profiles" = some (.map profiles) ∧
    profiles.field? name = some (.map own)

/-- A setting at the top of a configuration, followed by that of the profile of a name. -/
def Joined (config : Entries) (name field : Text) (items : List Value) : Prop :=
  ∃ own top rest, IsProfile config name own ∧ Value.Lists (config.field? field) top ∧
    Value.Lists (own.field? field) rest ∧ items = top ++ rest

variable {config entries own : Entries} {name field owner : Text} {items : List Value}

/-- A setting is a list, is missing, or is null; nothing else is accepted. -/
theorem setting_eq_ok_iff :
    setting entries field owner = .ok items ↔ Value.Lists (entries.field? field) items := by
  rw [setting]
  constructor
  · intro h
    cases hv : entries.field? field with
    | none =>
      rw [hv] at h
      obtain rfl := Except.ok.inj h
      exact .absent
    | some v =>
      rw [hv, Option.getD_some] at h
      cases v with
      | null =>
        obtain rfl := Except.ok.inj h
        exact .null
      | str s =>
        obtain rfl := Except.ok.inj h
        exact .text
      | list items =>
        obtain rfl := Except.ok.inj h
        exact .list
      | _ => cases h
  · intro h
    generalize entries.field? field = v at h
    cases h <;> rfl

/-- A mapping is not missing. -/
theorem bind_present?_eq_some_map_iff {value : Option Value} :
    value.bind Value.present? = some (.map entries) ↔ value = some (.map entries) := by
  rcases value with _ | (_ | _) <;> simp [Value.present?]

/-- A profile is found under its name, and is a mapping. -/
theorem profile_eq_ok_iff : profile config name = .ok own ↔ IsProfile config name own := by
  unfold profile
  constructor
  · intro h
    split at h
    case h_1 => cases h
    case h_2 profiles hp =>
      split at h
      case h_2 entries ho =>
        obtain rfl := Except.ok.inj h
        exact ⟨profiles, bind_present?_eq_some_map_iff.1 hp, bind_present?_eq_some_map_iff.1 ho⟩
      all_goals cases h
    case h_3 => cases h
  · rintro ⟨profiles, hp, ho⟩
    simp [hp, ho, Value.present?]

/-- The profile and its joined setting, however messages call its owner. -/
theorem joined_iff :
    Joined config name field items ↔
      ∃ own, profile config name = .ok own ∧ Outline.joined config own name field = .ok items := by
  simp only [Joined, profile_eq_ok_iff, Outline.joined, Outcome.bind_eq_ok_iff, setting_eq_ok_iff,
    pure, Except.pure, Except.ok.injEq, exists_and_left, eq_comm (b := items)]

/-- A configuration asks for one list under the name of a profile. -/
theorem Joined.unique {others : List Value} (h : Joined config name field items)
    (ho : Joined config name field others) : items = others := by
  obtain ⟨own, hp, hi⟩ := joined_iff.1 h
  obtain ⟨own', hp', ho⟩ := joined_iff.1 ho
  obtain rfl := Except.ok.inj (hp.symm.trans hp')
  exact Except.ok.inj (hi.symm.trans ho)

end Config
end TestSelection
