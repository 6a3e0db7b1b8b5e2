/-
# Conversion to text keys

A value is converted to one in which all keys are texts (`Value.Converts`): what has no parts stays,
lists and tuples become lists, item by item, and a mapping gets the texts of its keys, each where it
occurs first, with the converted value of the last entry that has it (`Value.LastUnder`). In the
result every mapping at every depth has texts as keys and none twice (`Value.HasTextKeys`), and such
a value is converted to itself.

There is no conversion only if a key is, or holds, a whole number of too many digits
(`Value.textKeyed?`). A configuration is what the mapping of its document is converted to, so all of
its keys are texts (`Value.exists_conversion`).
-/

import Mathlib.Data.List.Forall2
import Mathlib.Data.List.Induction
import TestSelection.Config.Load
import TestSelection.Proofs.FirstOccurrence
import TestSelection.Proofs.Text.Digits
import TestSelection.Proofs.Value.Fields

namespace TestSelection
namespace Value

/-! ### What a conversion is -/

/-- Whether a value is neither a mapping nor a list or a tuple, which may hold mappings. -/
def isLeaf : Value → Bool
  | .list _ => false
  | .tuple _ => false
  | .map _ => false
  | _ => true

/-- What holds of a value if it holds of its parts, holds of every value. -/
theorem induction {P : Value → Prop} (leaf : ∀ v, v.isLeaf = true → P v)
    (list : ∀ items, (∀ item ∈ items, P item) → P (.list items))
    (tuple : ∀ items, (∀ item ∈ items, P item) → P (.tuple items))
    (map : ∀ entries, (∀ entry ∈ entries, P entry.2) → P (.map entries)) : ∀ v, P v
  | .list items => list items fun item _ => induction leaf list tuple map item
  | .tuple items => tuple items fun item _ => induction leaf list tuple map item
  | .map entries => map entries fun entry _ => induction leaf list tuple map entry.2
  | .null => leaf _ rfl
  | .bool _ => leaf _ rfl
  | .int _ => leaf _ rfl
  | .float _ => leaf _ rfl
  | .str _ => leaf _ rfl
  | .bytes _ => leaf _ rfl
  | .date _ => leaf _ rfl
  | .dateTime _ => leaf _ rfl
  | .set _ => leaf _ rfl
  termination_by v => sizeOf v
  decreasing_by
    · have hsize := List.sizeOf_lt_of_mem ‹item ∈ items›
      rw [Value.list.sizeOf_spec]
      omega
    · have hsize := List.sizeOf_lt_of_mem ‹item ∈ items›
      rw [Value.tuple.sizeOf_spec]
      omega
    · have hsize := List.sizeOf_lt_of_mem ‹entry ∈ entries›
      obtain ⟨key, value⟩ := entry
      rw [Prod.mk.sizeOf_spec] at hsize
      rw [Value.map.sizeOf_spec]
      show sizeOf value < _
      omega

/-- Every mapping in a value, at every depth, has texts as keys, and none of them twice; tuples are
not left. -/
inductive HasTextKeys : Value → Prop
  | leaf {v : Value} : v.isLeaf = true → HasTextKeys v
  | list {items : List Value} : (∀ item ∈ items, HasTextKeys item) → HasTextKeys (.list items)
  | map {entries : Entries} {names : List Text} :
      entries.map Prod.fst = names.map .str → names.Nodup →
        (∀ entry ∈ entries, HasTextKeys entry.2) → HasTextKeys (.map entries)

/-- Of the entries whose key has a text, the last one has this value. -/
def LastUnder (entries : List (Value × Value)) (name : Text) (value : Value) : Prop :=
  ∃ front key back, entries = front ++ (key, value) :: back ∧ key.keyText = name ∧
    ∀ entry ∈ back, entry.1.keyText ≠ name

/-- What a value is converted to. -/
inductive Converts : Value → Value → Prop
  | leaf {v : Value} : v.isLeaf = true → Converts v v
  | list {items results : List Value} :
      List.Forall₂ Converts items results → Converts (.list items) (.list results)
  | tuple {items results : List Value} :
      List.Forall₂ Converts items results → Converts (.tuple items) (.list results)
  | map {entries results : Entries} :
      results.map Prod.fst = (entries.map (·.1.keyText)).eraseDups.map .str →
      (∀ name old new, LastUnder entries name old → results.field? name = some new →
        Converts old new) →
      Converts (.map entries) (.map results)

/-! ### Entries set one after another -/

variable {v : Value} {name : Text} {value : Value}

/-- Entries are converted one after another. -/
theorem entriesWithTextKeys_append (done : Entries) (front back : List (Value × Value)) :
    entriesWithTextKeys done (front ++ back) =
      entriesWithTextKeys (entriesWithTextKeys done front) back := by
  induction front generalizing done with
  | nil => rfl
  | cons entry rest ih =>
    obtain ⟨key, value⟩ := entry
    rw [List.cons_append, entriesWithTextKeys, entriesWithTextKeys, ih]

/-- The last entry is set above all others. -/
theorem updated_entriesWithTextKeys (done : Entries) (front : List (Value × Value))
    (key value : Value) :
    (entriesWithTextKeys done front).Updated key.keyText value.withTextKeys
      (entriesWithTextKeys done (front ++ [(key, value)])) := by
  rw [entriesWithTextKeys_append, entriesWithTextKeys, entriesWithTextKeys]
  exact Entries.updated_put ..

/-- **The keys are the texts of the keys, each where it occurs first.** -/
theorem map_fst_entriesWithTextKeys (entries : List (Value × Value)) :
    (entriesWithTextKeys [] entries).map Prod.fst =
      (entries.map (·.1.keyText)).eraseDups.map .str := by
  -- The induction takes the last entry, which is set above all others.
  induction entries using List.reverseRecOn with
  | nil => rfl
  | append_singleton front entry ih =>
    obtain ⟨key, value⟩ := entry
    rw [(updated_entriesWithTextKeys [] front key value).map_fst_eq ih, List.map_append,
      List.map_singleton, eraseDups_concat]
    simp only [List.mem_eraseDups]

/-- Entries with other texts for their keys do not change what is under a text. -/
theorem field?_entriesWithTextKeys_of_ne {back : List (Value × Value)}
    (h : ∀ entry ∈ back, entry.1.keyText ≠ name) (done : Entries) :
    (entriesWithTextKeys done back).field? name = done.field? name := by
  induction back generalizing done with
  | nil => rfl
  | cons entry rest ih =>
    obtain ⟨key, value⟩ := entry
    rw [List.forall_mem_cons] at h
    rw [entriesWithTextKeys, ih h.2]
    exact (Entries.updated_put ..).field?_eq h.1

/-- **The value under a text is that of the last entry whose key has it, converted.** -/
theorem field?_entriesWithTextKeys {entries : List (Value × Value)}
    (h : LastUnder entries name value) :
    (entriesWithTextKeys [] entries).field? name = some value.withTextKeys := by
  obtain ⟨front, key, back, rfl, rfl, hback⟩ := h
  rw [List.append_cons, entriesWithTextKeys_append, field?_entriesWithTextKeys_of_ne hback]
  exact (updated_entriesWithTextKeys [] front key value).field?_self

/-- The values are those of the entries, converted. -/
theorem exists_of_mem_entriesWithTextKeys {entries : List (Value × Value)} {result : Value × Value}
    (h : result ∈ entriesWithTextKeys [] entries) :
    ∃ entry ∈ entries, result.2 = entry.2.withTextKeys := by
  induction entries using List.reverseRecOn with
  | nil => cases h
  | append_singleton front entry ih =>
    obtain ⟨key, value⟩ := entry
    rcases (updated_entriesWithTextKeys [] front key value).mem h with hm | hm
    · obtain ⟨old, hold, he⟩ := ih hm
      exact ⟨old, List.mem_append_left _ hold, he⟩
    · exact ⟨(key, value), by simp, hm⟩

/-- Items are converted one by one. -/
theorem itemsWithTextKeys_eq_map (items : List Value) :
    itemsWithTextKeys items = items.map withTextKeys := by
  induction items with
  | nil => rfl
  | cons item rest ih => rw [itemsWithTextKeys, ih, List.map_cons]

/-! ### The conversion -/

/-- What has no parts is left as it is. -/
theorem withTextKeys_of_isLeaf (h : v.isLeaf = true) : v.withTextKeys = v := by
  cases v with
  | list | tuple | map => cases h
  | _ => rfl

/-- The last value under a name is the value of an entry. -/
theorem LastUnder.mem {entries : List (Value × Value)} (h : LastUnder entries name value) :
    ∃ entry ∈ entries, entry.2 = value := by
  obtain ⟨front, key, back, rfl, -, -⟩ := h
  exact ⟨(key, value), by simp, rfl⟩

/-- **A value is converted to the one with text keys.** -/
theorem converts_withTextKeys (v : Value) : Converts v v.withTextKeys := by
  have hitems : ∀ items : List Value, (∀ item ∈ items, Converts item item.withTextKeys) →
      List.Forall₂ Converts items (itemsWithTextKeys items) := by
    intro items h
    rw [itemsWithTextKeys_eq_map, List.forall₂_map_right_iff]
    exact List.forall₂_same.2 h
  induction v using induction with
  | leaf v h => rw [withTextKeys_of_isLeaf h]; exact .leaf h
  | list items ih => exact .list (hitems items ih)
  | tuple items ih => exact .tuple (hitems items ih)
  | map entries ih =>
    refine .map (map_fst_entriesWithTextKeys entries) fun name old new hlast hnew => ?_
    rw [field?_entriesWithTextKeys hlast] at hnew
    obtain rfl := Option.some.inj hnew
    obtain ⟨entry, hentry, rfl⟩ := hlast.mem
    exact ih entry hentry

/-- **The result has texts as keys at every depth.** -/
theorem hasTextKeys_withTextKeys (v : Value) : HasTextKeys v.withTextKeys := by
  have hitems : ∀ items : List Value, (∀ item ∈ items, HasTextKeys item.withTextKeys) →
      HasTextKeys (.list (itemsWithTextKeys items)) := by
    intro items h
    rw [itemsWithTextKeys_eq_map]
    exact .list (List.forall_mem_map.2 h)
  induction v using induction with
  | leaf v h => rw [withTextKeys_of_isLeaf h]; exact .leaf h
  | list items ih => exact hitems items ih
  | tuple items ih => exact hitems items ih
  | map entries ih =>
    refine .map (map_fst_entriesWithTextKeys entries) (nodup_eraseDups _) fun result hresult => ?_
    obtain ⟨entry, hentry, he⟩ := exists_of_mem_entriesWithTextKeys hresult
    rw [he]
    exact ih entry hentry

/-- Entries with different texts as keys are set as they are. -/
theorem entriesWithTextKeys_of_nodup {entries : Entries} {names : List Text}
    (hkeys : entries.map Prod.fst = names.map .str) (hnodup : names.Nodup)
    (hvalues : ∀ entry ∈ entries, entry.2.withTextKeys = entry.2) :
    entriesWithTextKeys [] entries = entries := by
  induction entries using List.reverseRecOn generalizing names with
  | nil => rfl
  | append_singleton front entry ih =>
    obtain ⟨key, value⟩ := entry
    rw [List.map_append] at hkeys
    obtain ⟨others, last, rfl, hfront, hlast⟩ := List.map_eq_append_iff.1 hkeys.symm
    obtain ⟨name, rfl, rfl⟩ := List.map_eq_singleton_iff.1 hlast
    -- The key of the last entry is a new one, so that the entry is put behind the others.
    have hne : ∀ entry ∈ front, entry.1.sameKey (.str name) = false := by
      intro entry hentry
      rw [Bool.eq_false_iff, ne_eq, sameKey_str_iff]
      intro hkey
      have hmem : entry.1 ∈ front.map Prod.fst := List.mem_map_of_mem hentry
      rw [← hfront, hkey, List.mem_map] at hmem
      obtain ⟨other, hother, he⟩ := hmem
      cases he
      exact (List.nodup_append.1 hnodup).2.2 _ hother _ (List.mem_singleton_self _) rfl
    have hrest := ih hfront.symm (List.nodup_append.1 hnodup).1 fun entry hentry =>
      hvalues entry (List.mem_append_left _ hentry)
    have hvalue : value.withTextKeys = value := hvalues (.str name, value) (by simp)
    rw [entriesWithTextKeys_append, hrest, entriesWithTextKeys, entriesWithTextKeys, hvalue]
    exact Keyed.put_of_forall_ne hne

/-- **A value with texts as keys is converted to itself.** -/
theorem HasTextKeys.withTextKeys_eq (h : HasTextKeys v) : v.withTextKeys = v := by
  induction h with
  | leaf h => exact withTextKeys_of_isLeaf h
  | list _ ih =>
    rw [withTextKeys, itemsWithTextKeys_eq_map]
    exact congrArg Value.list ((List.map_congr_left ih).trans (List.map_id _))
  | map hkeys hnodup _ ih =>
    rw [withTextKeys, entriesWithTextKeys_of_nodup hkeys hnodup ih]

/-- No item has a long key when each of them has none. -/
theorem anyHasLongKey_eq_false_iff {items : List Value} :
    anyHasLongKey items = false ↔ ∀ item ∈ items, item.hasLongKey = false := by
  induction items with
  | nil => exact iff_of_true rfl (List.forall_mem_nil _)
  | cons item rest ih => rw [anyHasLongKey, Bool.or_eq_false_iff, ih, List.forall_mem_cons]

/-- No entry has a long key when no key is a number of too many digits and no value has a long key
in it. -/
theorem anyLongKey_eq_false_iff {entries : List (Value × Value)} :
    anyLongKey entries = false ↔
      ∀ entry ∈ entries, entry.1.hasLongInteger = false ∧ entry.2.hasLongKey = false := by
  induction entries with
  | nil => exact iff_of_true rfl (List.forall_mem_nil _)
  | cons entry rest ih =>
    rw [anyLongKey, Bool.or_eq_false_iff, Bool.or_eq_false_iff, ih, List.forall_mem_cons]

/-- Every key that is a text has a text. -/
theorem HasTextKeys.hasLongKey_eq (h : HasTextKeys v) : v.hasLongKey = false := by
  induction h with
  | @leaf v h =>
    cases v with
    | list | tuple | map => cases h
    | _ => rfl
  | list _ ih => exact anyHasLongKey_eq_false_iff.2 ih
  | @map entries names hkeys _ _ ih =>
    refine anyLongKey_eq_false_iff.2 fun entry hentry => ⟨?_, ih entry hentry⟩
    have hkey : entry.1 ∈ names.map Value.str := hkeys ▸ List.mem_map_of_mem hentry
    obtain ⟨name, -, hname⟩ := List.mem_map.1 hkey
    rw [← hname]
    rfl

/-- **How a value is converted.**  A value in which every key has a text is converted: every mapping
at every depth gets the texts of its keys, in order of first occurrence, and under each the
converted value of the last entry whose key has it, lists and tuples become lists item by item, and
all else stays. Afterwards every key at every depth is a text, no two keys of a mapping are the
same, and converting once more changes nothing. What is loaded from a document is its mapping,
converted. -/
theorem exists_conversion (h : v.hasLongKey = false) :
    ∃ w, v.textKeyed? = some w ∧ Converts v w ∧ HasTextKeys w ∧ w.textKeyed? = some w ∧
      ∀ (tree : Tree) (path : Path) (s : String) (entries : Entries), v = .map entries →
        Config.readText tree path = .ok s → Yaml.Content.ofText s = .ok (.mapping entries) →
          ∃ config, Config.load tree path = .ok config ∧ w = .map config := by
  have hkeys := hasTextKeys_withTextKeys v
  refine ⟨v.withTextKeys, if_neg (Bool.eq_false_iff.1 h), converts_withTextKeys v, hkeys, ?_, ?_⟩
  · rw [textKeyed?, hkeys.hasLongKey_eq, hkeys.withTextKeys_eq]
    rfl
  -- What is loaded is read from the text, and then converted as any other value.
  · rintro tree path s entries rfl hread hcontent
    have hkeyed : (map entries).textKeyed? = some (.map (entriesWithTextKeys [] entries)) :=
      if_neg (Bool.eq_false_iff.1 h)
    refine ⟨entriesWithTextKeys [] entries, ?_, rfl⟩
    rw [Config.load, hread]
    simp only [bind, Except.bind, hcontent, hkeyed]
    rfl

/-- Keys of several kinds, some with one text: a mapping in a tuple in a mapping. -/
def mixedValue : Value :=
  .map [(.int 1, .null),
    (.tuple [.int 1, .str "a"], .tuple [.map [(.null, .int 1), (.str "", .int 2)]]),
    (.bool true, .null), (.str "1", .str "x")]

/-- The number and the text `1` are one key, and so are nothing and the empty text. -/
theorem exists_conversion_mixed :
    mixedValue.hasLongKey = false ∧
      ∃ w, w = .map [(.str "1", .str "x"), (.str "(1, 'a')", .list [.map [(.str "", .int 2)]]),
          (.str "true", .null)] ∧
        mixedValue.textKeyed? = some w ∧ Converts mixedValue w ∧ HasTextKeys w ∧
        w.textKeyed? = some w ∧
        ∀ (tree : Tree) (path : Path) (s : String) (entries : Entries), mixedValue = .map entries →
          Config.readText tree path = .ok s → Yaml.Content.ofText s = .ok (.mapping entries) →
            ∃ config, Config.load tree path = .ok config ∧ w = .map config := by
  have hkeys : mixedValue.hasLongKey = false := by decide
  obtain ⟨w, hw, hrest⟩ := exists_conversion hkeys
  refine ⟨hkeys, w, Option.some.inj (hw.symm.trans ?_), hw, hrest⟩
  rfl

/-- A mapping with one key that is too long to be written. -/
def longKeyEntries : Entries := [(.int (10 ^ Text.mostDigits), .null)]

/-- **A key may be too long for a text.**  Such a value is not converted, and such a document is not
loaded. -/
theorem no_conversion_of_longKey :
    (Value.map longKeyEntries).textKeyed? = none ∧
      ∀ (tree : Tree) (path : Path) (s : String), Config.readText tree path = .ok s →
        Yaml.Content.ofText s = .ok (.mapping longKeyEntries) →
          Config.load tree path = .error .longKey := by
  have hkeys : anyLongKey longKeyEntries = true := by
    simp only [longKeyEntries, anyLongKey, hasLongInteger, Text.isTooLong_pow, Bool.true_or]
  have hkeyed : (Value.map longKeyEntries).textKeyed? = none := if_pos hkeys
  refine ⟨hkeyed, fun tree path s hread hcontent => ?_⟩
  rw [Config.load, hread]
  simp only [bind, Except.bind, hcontent]
  rw [hkeyed]
  rfl

end Value
end TestSelection
