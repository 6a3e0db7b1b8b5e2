/-
# Fields under text keys

No key but the text itself is the same key as a text, so a field that is set takes the place of the
one field of that name, or stands at the end if there was none (`Updated`). Fields of other names
are found as before (`Updated.field?_eq`).
-/

import TestSelection.Value.Basic

namespace TestSelection

/-- Only a text is the same key as a text, and an equal one. -/
theorem Value.sameKey_str_iff {key : Value} {name : Text} :
    key.sameKey (.str name) = true ↔ key = .str name := by
  cases key <;> simp [sameKey, size?]

/-- Of two things put under one key only the second one counts. -/
theorem Keyed.put_put {β : Type} {key : Value} (hkey : key.sameKey key = true) (x y : β)
    (kept : Keyed β) : (kept.put key x).put key y = kept.put key y := by
  induction kept with
  | nil => simp [put, hkey]
  | cons entry rest ih =>
    obtain ⟨k, old⟩ := entry
    by_cases h : k.sameKey key = true
    · simp [put, h]
    · simp [put, h, ih]

namespace Entries

variable {name other : Text} {new : Value} {entries before after : Entries}

/-- The entries before and after a value is set under a text. -/
inductive Updated (name : Text) (new : Value) : Entries → Entries → Prop
  | replaced (front : Entries) {back : Entries} {old : Value} :
      (∀ entry ∈ front, entry.1 ≠ .str name) →
        Updated name new (front ++ (.str name, old) :: back) (front ++ (.str name, new) :: back)
  | added {entries : Entries} :
      (∀ entry ∈ entries, entry.1 ≠ .str name) →
        Updated name new entries (entries ++ [(.str name, new)])

/-- An entry in front under another key changes nothing. -/
theorem Updated.cons {key old : Value} (hk : key ≠ .str name) (h : Updated name new before after) :
    Updated name new ((key, old) :: before) ((key, old) :: after) := by
  cases h with
  | replaced front hf => exact .replaced ((key, old) :: front) (List.forall_mem_cons.2 ⟨hk, hf⟩)
  | added hf => exact .added (List.forall_mem_cons.2 ⟨hk, hf⟩)

/-- **A value put under a text sets that field.** -/
theorem updated_put (name : Text) (new : Value) (entries : Entries) :
    Updated name new entries (entries.put (.str name) new) := by
  induction entries with
  | nil => exact .added nofun
  | cons entry rest ih =>
    obtain ⟨key, old⟩ := entry
    rw [Keyed.put]
    split
    case isTrue h =>
      obtain rfl := Value.sameKey_str_iff.1 h
      exact .replaced [] nofun
    case isFalse h => exact ih.cons fun hk => h (Value.sameKey_str_iff.2 hk)

/-- An entry under another key is passed over. -/
theorem field?_cons_of_ne {key value : Value} (h : key ≠ .str name) :
    field? ((key, value) :: entries) name = field? entries name := by
  cases key with
  | str k => exact if_neg fun hk => h (congrArg Value.str hk)
  | _ => rfl

/-- A field is looked up in the first entries, and then in the others. -/
theorem field?_append :
    field? (before ++ after) name = (before.field? name).or (after.field? name) := by
  induction before with
  | nil => rfl
  | cons entry rest ih =>
    obtain ⟨key, value⟩ := entry
    by_cases h : key = .str name
    · subst h
      simp [field?]
    · rw [List.cons_append, field?_cons_of_ne h, field?_cons_of_ne h, ih]

/-- A field is missing if no entry has its name. -/
theorem field?_eq_none (h : ∀ entry ∈ entries, entry.1 ≠ .str name) :
    entries.field? name = none := by
  induction entries with
  | nil => rfl
  | cons entry rest ih =>
    rw [List.forall_mem_cons] at h
    rw [field?_cons_of_ne h.1, ih h.2]

/-- A field that is set is found. -/
theorem Updated.field?_self (h : Updated name new before after) :
    after.field? name = some new := by
  have hfirst : ∀ rest : Entries, field? ((.str name, new) :: rest) name = some new :=
    fun _ => if_pos rfl
  cases h with
  | replaced _ hf => rw [field?_append, field?_eq_none hf, hfirst, Option.none_or]
  | added hf => rw [field?_append, field?_eq_none hf, hfirst, Option.none_or]

/-- Setting one field leaves those of other names alone. -/
theorem Updated.field?_eq (h : Updated name new before after) (hn : name ≠ other) :
    after.field? other = before.field? other := by
  have hk : Value.str name ≠ .str other := fun he => hn (Value.str.inj he)
  cases h with
  | replaced _ _ => rw [field?_append, field?_append, field?_cons_of_ne hk, field?_cons_of_ne hk]
  | added _ => rw [field?_append, field?_cons_of_ne hk, field?, Option.or_none]

/-- A text that is set is the last key, or keeps its place if it is a key already. -/
theorem Updated.map_fst_eq {names : List Text} (h : Updated name new before after)
    (hkeys : before.map Prod.fst = names.map .str) :
    after.map Prod.fst = (if name ∈ names then names else names ++ [name]).map .str := by
  have hmem : name ∈ names ↔ .str name ∈ before.map Prod.fst := by
    rw [hkeys, List.mem_map]
    exact ⟨fun hn => ⟨name, hn, rfl⟩, fun ⟨_, hn, he⟩ => Value.str.inj he ▸ hn⟩
  cases h with
  | replaced front hf =>
    rw [if_pos (hmem.2 (by simp)), ← hkeys]
    simp
  | added hf =>
    have hnot : .str name ∉ before.map Prod.fst := by
      rw [List.mem_map]
      exact fun ⟨entry, hentry, he⟩ => hf entry hentry he
    rw [if_neg fun hn => hnot (hmem.1 hn), List.map_append, hkeys, List.map_append]
    rfl

/-- What a field is set to is the only value that is new. -/
theorem Updated.mem (h : Updated name new before after) {entry : Value × Value}
    (hm : entry ∈ after) : entry ∈ before ∨ entry.2 = new := by
  cases h with
  | replaced front hf =>
    simp only [List.mem_append, List.mem_cons] at hm ⊢
    rcases hm with hm | rfl | hm
    · exact .inl (.inl hm)
    · exact .inr rfl
    · exact .inl (.inr (.inr hm))
  | added hf =>
    rcases List.mem_append.1 hm with hm | hm
    · exact .inl hm
    · rw [List.mem_singleton.1 hm]
      exact .inr rfl

end Entries
end TestSelection
