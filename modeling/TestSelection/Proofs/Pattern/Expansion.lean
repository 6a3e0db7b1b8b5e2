/-
# Expanded commands

What becomes of a parallel command over some files: `files_expanded` is set to the files that its
own patterns select under its prefix, and everything else stays (`Expanded`). A command is still
parallel afterwards, so keeping the parallel ones after all were expanded keeps the expansions of
exactly the parallel ones (`parallelOnly_of_expandAll`).
-/

import Mathlib.Data.List.Forall2
import TestSelection.Pattern.Parallel
import TestSelection.Proofs.Pattern.Declarations
import TestSelection.Proofs.Pattern.LastMatch
import TestSelection.Proofs.Value.Fields

namespace TestSelection
namespace Parallel

/-- A command is a mapping with `mode: parallel`. -/
def IsParallel (command : Value) : Prop :=
  ∃ entries : Entries, command = .map entries ∧ entries.field? "mode" = some (.str "parallel")

/-- The directory that scopes a command is its prefix; none scopes it if that is missing. -/
def ScopedBy (entries : Entries) (scope : Option Text) : Prop :=
  entries.field? "prefix" = scope.map .str ∨ entries.field? "prefix" = some .null ∧ scope = none

/-- A command and what it is over some files. -/
inductive Expanded (files : List String) : Value → Value → Prop
  | intro {before after : Entries} {raw : Value} {own : List Pattern} {scope : Option Text} :
      before.field? "mode" = some (.str "parallel") →
      before.field? "files" = some raw → Pattern.Names raw own → ScopedBy before scope →
      before.Updated "files_expanded"
        (.ofStrings (files.filter (Pattern.Selected (own.map (·.under scope)) ·))) after →
        Expanded files (.map before) (.map after)

variable {entries after : Entries} {command expanded : Value} {files : List String}

/-- A mapping is a parallel command by its mode only. -/
theorem isParallel_map_iff :
    isParallel (.map entries) = true ↔ entries.field? "mode" = some (.str "parallel") := by
  dsimp only [isParallel]
  split
  case h_1 mode hm => rw [hm, beq_iff_eq, Option.some.injEq, Value.str.injEq]
  case h_2 hn => exact iff_of_false Bool.false_ne_true (hn _)

/-- The test for parallel commands says what `IsParallel` says, also of values that are no
mappings. -/
theorem isParallel_iff : isParallel command = true ↔ IsParallel command := by
  constructor
  · intro h
    cases command with
    | map entries => exact ⟨entries, rfl, isParallel_map_iff.1 h⟩
    | _ => cases h
  · rintro ⟨entries, rfl, hm⟩
    exact isParallel_map_iff.2 hm

instance : DecidablePred IsParallel := fun _ => decidable_of_iff _ isParallel_iff

/-- The parallel commands are kept, in their order. -/
theorem parallelOnly_eq (commands : List Value) :
    parallelOnly commands = commands.filter (IsParallel ·) := by
  refine List.filter_congr fun command _ => ?_
  rw [Bool.eq_iff_iff, isParallel_iff, decide_eq_true_iff]

/-- A scope is read from a text, or there is none; any other value is refused. -/
theorem directory_eq_ok_iff {scope : Option Text} :
    directory entries = .ok scope ↔ ScopedBy entries scope := by
  unfold directory ScopedBy
  split
  case h_1 h => cases scope <;> simp [h]
  case h_2 h => cases scope <;> simp [h]
  case h_3 d h => cases scope <;> simp [h, eq_comm]
  case h_4 v hnull hstr h =>
    refine iff_of_false nofun ?_
    rw [h]
    rintro (he | ⟨he, -⟩)
    · cases scope with
      | none => cases he
      | some d => exact hstr d (Option.some.inj he)
    · exact hnull (Option.some.inj he)

/-- A field that is missing names no patterns. -/
theorem names_getD_null_iff {value : Option Value} {own : List Pattern} :
    Pattern.Names (value.getD .null) own ↔ ∃ raw, value = some raw ∧ Pattern.Names raw own := by
  cases value with
  | none =>
    simp only [Option.getD_none, reduceCtorEq, false_and, exists_false, iff_false]
    rintro (⟨⟨tag, glob⟩, -, h⟩ | ⟨-, h⟩)
    · cases tag <;> cases h
    · cases h
  | some raw => simp

/-- A command that can be shown is compiled from its patterns and its prefix. -/
theorem sequence_eq_ok_iff {s : Sequence} :
    sequence entries = .ok s ↔
      (Value.map entries).hasLongInteger = false ∧
        ∃ raw own scope, entries.field? "files" = some raw ∧ Pattern.Names raw own ∧
          ScopedBy entries scope ∧ Sequence.compile own scope = .ok s := by
  rw [sequence]
  split
  case isTrue hl => exact iff_of_false nofun fun h => absurd (hl.symm.trans h.1) nofun
  case isFalse hl =>
    rw [and_iff_right (Bool.eq_false_iff.2 hl)]
    simp only [Outcome.bind_eq_ok_iff, Misshapen.lift, Glob.Rejection.lift,
      Outcome.mapError_eq_ok_iff, Pattern.ofField_eq_ok_iff, directory_eq_ok_iff,
      names_getD_null_iff]
    constructor
    · rintro ⟨own, ⟨raw, hf, hn⟩, scope, hd, hc⟩
      exact ⟨raw, own, scope, hf, hn, hd, hc⟩
    · rintro ⟨raw, own, scope, hf, hn, hd, hc⟩
      exact ⟨own, ⟨raw, hf, hn⟩, scope, hd, hc⟩

/-- **An expanded command has the files that its patterns select, and is otherwise as before.** -/
theorem expanded_of_expandEntries (hm : isParallel (.map entries) = true)
    (h : expandEntries files entries = .ok after) : Expanded files (.map entries) (.map after) := by
  obtain ⟨s, hs, ha⟩ := Outcome.bind_eq_ok_iff.1 h
  obtain rfl := Except.ok.inj ha
  obtain ⟨-, raw, own, scope, hf, hn, hd, hc⟩ := sequence_eq_ok_iff.1 hs
  refine .intro (isParallel_map_iff.1 hm) hf hn hd ?_
  rw [← Sequence.select_eq hc]
  exact Entries.updated_put ..

/-- A command that was expanded is still parallel. -/
theorem Expanded.isParallel (h : Expanded files command expanded) :
    isParallel expanded = true := by
  obtain ⟨hm, -, -, -, hu⟩ := h
  rw [isParallel_map_iff, hu.field?_eq (by decide), hm]

/-- A command is expanded by its entries if it is parallel, and else to itself. -/
theorem expand_eq_ok_iff :
    expand files command = .ok expanded ↔
      isParallel command = false ∧ expanded = command ∨
        ∃ entries after, command = .map entries ∧ isParallel command = true ∧
          expandEntries files entries = .ok after ∧ expanded = .map after := by
  constructor
  · intro h
    unfold expand at h
    split at h
    case h_1 entries =>
      split at h
      case isTrue hm =>
        obtain ⟨after, ha, rfl⟩ := Outcome.map_eq_ok_iff.1 h
        exact .inr ⟨entries, after, rfl, hm, ha, rfl⟩
      case isFalse hm => exact .inl ⟨Bool.eq_false_iff.2 hm, (Except.ok.inj h).symm⟩
    case h_2 hm =>
      refine .inl ⟨?_, (Except.ok.inj h).symm⟩
      cases command with
      | map entries => exact absurd rfl (hm entries)
      | _ => rfl
  · rintro (⟨hm, rfl⟩ | ⟨entries, after, rfl, hm, ha, rfl⟩)
    · cases expanded with
      | map entries => exact if_neg (Bool.eq_false_iff.1 hm)
      | _ => rfl
    · rw [expand, if_pos hm, ha]
      rfl

/-- Expanding a command expands it if it is parallel, and leaves it alone otherwise. -/
theorem expand_cases (h : expand files command = .ok expanded) :
    isParallel command = true ∧ Expanded files command expanded ∨
      isParallel command = false ∧ expanded = command := by
  rcases expand_eq_ok_iff.1 h with hself | ⟨entries, after, rfl, hm, ha, rfl⟩
  · exact .inr hself
  · exact .inl ⟨hm, expanded_of_expandEntries hm ha⟩

/-- Commands are expanded one by one. -/
theorem expandAll_eq_ok_iff {commands results : List Value} :
    expandAll files commands = .ok results ↔
      List.Forall₂ (fun c r => expand files c = .ok r) commands results := by
  induction commands generalizing results with
  | nil => rw [expandAll, Except.ok.injEq, List.forall₂_nil_left_iff, eq_comm]
  | cons command rest ih =>
    simp only [expandAll, Outcome.bind_eq_ok_iff, ih, pure, Except.pure, Except.ok.injEq,
      List.forall₂_cons_left_iff]
    constructor
    · rintro ⟨r, hc, others, hr, rfl⟩
      exact ⟨r, others, hc, hr, rfl⟩
    · rintro ⟨r, others, hc, hr, rfl⟩
      exact ⟨r, hc, others, hr, rfl⟩

/-- **The parallel commands of the expansion are the expansions of the parallel commands.** -/
theorem parallelOnly_of_expandAll {commands results : List Value}
    (h : expandAll files commands = .ok results) :
    List.Forall₂ (Expanded files) (commands.filter (IsParallel ·)) (parallelOnly results) := by
  rw [expandAll_eq_ok_iff] at h
  rw [← parallelOnly_eq, parallelOnly, parallelOnly]
  induction h with
  | nil => exact .nil
  | cons hc _ ih =>
    rcases expand_cases hc with ⟨hm, he⟩ | ⟨hm, rfl⟩
    · rw [List.filter_cons_of_pos hm, List.filter_cons_of_pos he.isParallel]
      exact .cons he ih
    · rw [List.filter_cons_of_neg (Bool.eq_false_iff.1 hm),
        List.filter_cons_of_neg (Bool.eq_false_iff.1 hm)]
      exact ih

end Parallel
end TestSelection
