/-
# Recipes

The test patterns and the parallel commands of a profile come to a recipe before any file is known
(`Plan.recipe`): the sequence of the test patterns, and the parallel commands, each with its own
sequence. The plan over some files is what the recipe makes of them (`Plan.build_eq_recipe`), and
where there is no recipe, there is no plan over any files, and for the same reason.
-/

import TestSelection.Proofs.Pattern.Expansion
import TestSelection.Plan.Basic

namespace TestSelection

namespace Parallel

/-- A parallel command with its patterns compiled. -/
structure Prepared where
  entries : Entries
  sequence : Sequence

/-- The command, expanded over some files. -/
def Prepared.expand (command : Prepared) (files : List String) : Value :=
  .map (command.entries.put (.str "files_expanded") (.ofStrings (command.sequence.select files)))

/-- The parallel ones among some commands, with their patterns compiled in order. -/
def prepare : List Value → Except PatternError (List Prepared)
  | [] => .ok []
  | .map entries :: rest =>
    if isParallel (.map entries) then do
      let s ← sequence entries
      let others ← prepare rest
      return ⟨entries, s⟩ :: others
    else prepare rest
  | _ :: rest => prepare rest

/-- A prepared command is still parallel when it has its files. -/
theorem Prepared.isParallel_expand {entries : Entries} {s : Sequence} {files : List String}
    (h : isParallel (.map entries) = true) :
    isParallel (Prepared.expand ⟨entries, s⟩ files) = true := by
  rw [isParallel_map_iff] at h
  rw [Prepared.expand, isParallel_map_iff, (Entries.updated_put ..).field?_eq (by decide), h]

/-- **Commands are expanded by what they are prepared to.** -/
theorem parallelOnly_expandAll_eq (files : List String) (commands : List Value) :
    (expandAll files commands).map parallelOnly =
      (prepare commands).map (List.map (·.expand files)) := by
  induction commands with
  | nil => rfl
  | cons command rest ih =>
    -- A command that is not parallel stays as it is and is then left out.
    have hother : isParallel command = false → expand files command = .ok command →
        (expandAll files (command :: rest)).map parallelOnly =
          (expandAll files rest).map parallelOnly := by
      intro hm he
      rw [expandAll, he]
      cases expandAll files rest with
      | error e => rfl
      | ok others => exact congrArg Except.ok (List.filter_cons_of_neg (Bool.eq_false_iff.1 hm))
    cases command with
    | map entries =>
      rw [prepare]
      split
      case isFalse hm =>
        rw [hother (Bool.eq_false_iff.2 hm) (if_neg hm), ih]
      case isTrue hm =>
        rw [expandAll, expand, if_pos hm, expandEntries]
        cases sequence entries with
        | error e => rfl
        | ok s =>
          have hexpand : isParallel (Prepared.expand ⟨entries, s⟩ files) = true :=
            Prepared.isParallel_expand hm
          -- By the induction hypothesis both of them fail, with one error, or neither does.
          cases he : expandAll files rest <;> cases hp : prepare rest <;> rw [he, hp] at ih
          · exact congrArg Except.error (Except.error.inj ih)
          · cases ih
          · cases ih
          · refine congrArg Except.ok ?_
            rw [List.map_cons, ← Except.ok.inj ih]
            exact List.filter_cons_of_pos hexpand
    | _ =>
      rw [hother rfl rfl, ih]
      rfl

/-- Only parallel commands are prepared, with their own sequences. -/
theorem of_mem_prepare {commands : List Value} {prepared : List Prepared} {command : Prepared}
    (h : prepare commands = .ok prepared) (hm : command ∈ prepared) :
    .map command.entries ∈ commands ∧ isParallel (.map command.entries) = true ∧
      sequence command.entries = .ok command.sequence := by
  induction commands generalizing prepared with
  | nil =>
    obtain rfl := Except.ok.inj h
    cases hm
  | cons first rest ih =>
    have hrest : ∀ others, prepare rest = .ok others → command ∈ others →
        .map command.entries ∈ first :: rest ∧ isParallel (.map command.entries) = true ∧
          sequence command.entries = .ok command.sequence := by
      intro others ho hm
      obtain ⟨hasked, hown⟩ := ih ho hm
      exact ⟨List.mem_cons_of_mem _ hasked, hown⟩
    cases first with
    | map entries =>
      rw [prepare] at h
      split at h
      case isFalse => exact hrest _ h hm
      case isTrue hp =>
        obtain ⟨s, hs, h⟩ := Outcome.bind_eq_ok_iff.1 h
        obtain ⟨others, ho, h⟩ := Outcome.bind_eq_ok_iff.1 h
        obtain rfl := Except.ok.inj h
        rcases List.mem_cons.1 hm with rfl | hm
        · exact ⟨List.mem_cons_self, hp, hs⟩
        · exact hrest _ ho hm
    | _ => exact hrest _ h hm

end Parallel

namespace Plan

variable {ε : Type} {config : Entries} {name : Text} {files : List String}

/-- What a profile asks for, with all patterns compiled. -/
structure Recipe where
  selection : Sequence
  commands : List Parallel.Prepared

/-- The plan that a recipe makes of some files. -/
def Recipe.fill (recipe : Recipe) (files : List String) : Plan where
  tests := (recipe.selection.select files).eraseDups
  commands := recipe.commands.map (·.expand files)

/-- The recipe for an outline. -/
def Recipe.ofOutline (outline : Outline) : Except PatternError Recipe :=
  (Parallel.prepare outline.commands).map (Recipe.mk outline.selection)

/-- Filling an outline is compiling its patterns, which may fail, and then a function of the files,
which may not. -/
theorem fill_eq_recipe (outline : Outline) (files : List String) :
    outline.fill files = (Recipe.ofOutline outline).map (·.fill files) := by
  have hfill : outline.fill files =
      ((Parallel.expandAll files outline.commands).map Parallel.parallelOnly).map
        (Plan.mk (outline.selection.select files).eraseDups) := by
    rw [Outline.fill]
    cases Parallel.expandAll files outline.commands <;> rfl
  rw [hfill, Parallel.parallelOnly_expandAll_eq, Recipe.ofOutline]
  cases Parallel.prepare outline.commands <;> rfl

/-- The recipe of a profile. -/
def recipe (config : Entries) (name : Text) : Except (PlanError ε) Recipe := do
  let outline ← (Outline.ofConfig config name).mapError .ofOutline
  (Recipe.ofOutline outline).mapError .pattern

/-- **A plan is what the recipe makes of the files**, and fails as the recipe does. -/
theorem build_eq_recipe :
    build config name (.ok files : Except ε (List String)) =
      (recipe config name).map (·.fill files) := by
  rw [build_eq, recipe]
  cases Outline.ofConfig config name with
  | error e => rfl
  | ok outline =>
    show (outline.fill files).mapError PlanError.pattern =
      ((Recipe.ofOutline outline).mapError PlanError.pattern).map _
    rw [fill_eq_recipe]
    cases Recipe.ofOutline outline <;> rfl

end Plan
end TestSelection
