/-
# Plans over two listings

No file counts for whether there is a plan, or for what is wrong if there is none, since a plan is
what a recipe makes of the files, and a recipe looks at each file by itself. So the plan over one
listing followed by another is put together from the plans over the two (`Plan.Combined`), and files
in another order give the same plan in another order (`Plan.Reordered`).
-/

import TestSelection.Proofs.Plan.Contents
import TestSelection.Proofs.Plan.Recipe

namespace TestSelection

namespace Entries

/-- Two mappings have the same keys in the same order, and under each the same value, except perhaps
under one text. -/
def AgreeBut (name : Text) (x y : Entries) : Prop :=
  List.Forall₂ (fun a b => a.1 = b.1 ∧ (a.1 ≠ .str name → a.2 = b.2)) x y

/-- Every mapping agrees with itself. -/
theorem AgreeBut.refl (name : Text) (entries : Entries) : entries.AgreeBut name entries :=
  List.forall₂_same.2 fun _ _ => ⟨rfl, fun _ => rfl⟩

/-- A mapping agrees with itself, whatever is put under a text, but there. -/
theorem agreeBut_put (name : Text) (x y : Value) (entries : Entries) :
    AgreeBut name (entries.put (.str name) x) (entries.put (.str name) y) := by
  induction entries with
  | nil => exact .cons ⟨rfl, fun h => absurd rfl h⟩ .nil
  | cons entry rest ih =>
    obtain ⟨key, old⟩ := entry
    rw [Keyed.put, Keyed.put]
    split
    case isTrue h =>
      exact .cons ⟨rfl, fun hne => absurd (Value.sameKey_str_iff.1 h) hne⟩ (AgreeBut.refl name rest)
    case isFalse => exact .cons ⟨rfl, fun _ => rfl⟩ ih

end Entries

/-! ### Commands -/

namespace Parallel

/-- A command over two listings, and over the one followed by the other: then its files are those of
the one followed by those of the other, and nothing else of it differs. -/
inductive Combined : Value → Value → Value → Prop
  | intro {x y z : Entries} {files others : List String} :
      x.AgreeBut "files_expanded" y → x.AgreeBut "files_expanded" z →
      x.field? "files_expanded" = some (.ofStrings files) →
      y.field? "files_expanded" = some (.ofStrings others) →
      z.field? "files_expanded" = some (.ofStrings (files ++ others)) →
        Combined (.map x) (.map y) (.map z)

/-- A command twice, with its files in two orders; nothing else of it differs. -/
inductive Reordered : Value → Value → Prop
  | intro {x y : Entries} {files others : List String} :
      x.AgreeBut "files_expanded" y →
      x.field? "files_expanded" = some (.ofStrings files) →
      y.field? "files_expanded" = some (.ofStrings others) →
      files.Perm others → Reordered (.map x) (.map y)

namespace Prepared

variable (command : Prepared) {files others : List String}

/-- One command over a listing, another, and the one followed by the other. Filtering is done file
by file, and nothing but the files of the command is put into it. -/
theorem combined (files others : List String) :
    Combined (command.expand files) (command.expand others) (command.expand (files ++ others)) := by
  have happend : command.sequence.select (files ++ others) =
      command.sequence.select files ++ command.sequence.select others :=
    List.filter_append ..
  refine .intro (Entries.agreeBut_put ..) (Entries.agreeBut_put ..)
    (Entries.updated_put ..).field?_self (Entries.updated_put ..).field?_self ?_
  rw [(Entries.updated_put ..).field?_self, happend]

/-- One command over two orders of the same files. -/
theorem reordered (h : files.Perm others) :
    Reordered (command.expand files) (command.expand others) :=
  .intro (Entries.agreeBut_put ..) (Entries.updated_put ..).field?_self
    (Entries.updated_put ..).field?_self (h.filter _)

end Prepared
end Parallel

/-! ### Plans -/

namespace Plan

variable {ε : Type} {config : Entries} {name : Text} {files others : List String}

/-- A plan over a listing, one over another, and one over the first followed by the second. -/
structure Combined (plan other both : Plan) : Prop where
  tests : both.tests = plan.tests ++ other.tests.filter (· ∉ plan.tests)
  length_other : other.commands.length = plan.commands.length
  length_both : both.commands.length = plan.commands.length
  commands : ∀ (i : Nat) (x y z : Value), plan.commands[i]? = some x → other.commands[i]? = some y →
    both.commands[i]? = some z → Parallel.Combined x y z

/-- Two plans with the same tests in two orders, and the same commands with their files in two
orders. -/
structure Reordered (plan other : Plan) : Prop where
  tests : plan.tests.Perm other.tests
  commands : List.Forall₂ Parallel.Reordered plan.commands other.commands

namespace Recipe

variable (recipe : Recipe)

/-- A filled recipe over a listing, another, and the one followed by the other. The tests are told
apart because of repetitions: of the second listing only what is new is added. -/
theorem combined (files others : List String) :
    Combined (recipe.fill files) (recipe.fill others) (recipe.fill (files ++ others)) := by
  refine ⟨?_, ?_, ?_, ?_⟩
  · have happend : recipe.selection.select (files ++ others) =
        recipe.selection.select files ++ recipe.selection.select others :=
      List.filter_append ..
    have hnew : ∀ path, (!(recipe.selection.select files).elem path) =
        decide (path ∉ (recipe.fill files).tests) := by
      intro path
      rw [Bool.eq_iff_iff, decide_eq_true_iff, fill, List.mem_eraseDups]
      simp
    show (recipe.selection.select (files ++ others)).eraseDups = _
    rw [happend, List.eraseDups_append, List.removeAll, eraseDups_filter]
    exact congrArg _ (List.filter_congr fun path _ => hnew path)
  · rw [fill, fill, List.length_map, List.length_map]
  · rw [fill, fill, List.length_map, List.length_map]
  · intro i x y z hx hy hz
    simp only [fill, List.getElem?_map, Option.map_eq_some_iff] at hx hy hz
    obtain ⟨command, hc, rfl⟩ := hx
    obtain ⟨_, hc', rfl⟩ := hy
    obtain rfl := Option.some.inj (hc.symm.trans hc')
    obtain ⟨_, hc', rfl⟩ := hz
    obtain rfl := Option.some.inj (hc.symm.trans hc')
    exact command.combined files others

/-- A filled recipe over two orders of the same files. The tests are lists without repetitions and
with the same members. -/
theorem reordered (h : files.Perm others) : Reordered (recipe.fill files) (recipe.fill others) := by
  constructor
  · refine (List.perm_ext_iff_of_nodup (nodup_eraseDups _) (nodup_eraseDups _)).2 fun path => ?_
    rw [List.mem_eraseDups, List.mem_eraseDups]
    exact (h.filter _).mem_iff
  · rw [fill, fill, List.forall₂_map_left_iff, List.forall₂_map_right_iff]
    exact List.forall₂_same.2 fun command _ => command.reordered h

end Recipe

/-- **Plans are local in the files.**  Over two listings, and over the one followed by the other, a
plan fails with the same error, or there are three plans. Then the last one has the tests of the
first followed by those of the second that are new, and command by command the files of the first
followed by those of the second. If the two listings are the same files in two orders, their plans
are the same plan in two orders. -/
theorem build_append (config : Entries) (name : Text) (files others : List String) :
    (∃ e : PlanError ε, build config name (.ok files) = .error e ∧
      build config name (.ok others) = .error e ∧
      build config name (.ok (files ++ others)) = .error e) ∨
    ∃ plan other both, build (ε := ε) config name (.ok files) = .ok plan ∧
      build (ε := ε) config name (.ok others) = .ok other ∧
      build (ε := ε) config name (.ok (files ++ others)) = .ok both ∧
      Combined plan other both ∧
      (others.Perm files → Reordered other plan) := by
  rw [build_eq_recipe, build_eq_recipe, build_eq_recipe]
  cases (recipe config name : Except (PlanError ε) Recipe) with
  | error e => exact .inl ⟨e, rfl, rfl, rfl⟩
  | ok recipe =>
    exact .inr ⟨recipe.fill files, recipe.fill others, recipe.fill (files ++ others), rfl, rfl, rfl,
      recipe.combined files others, recipe.reordered⟩

/-- Two files in two orders: both are tests, and one of them is a file of the one command. -/
theorem build_append_sample :
    ["t/a", "x"].Perm ["x", "t/a"] ∧
      ∃ plan other both, build (ε := Unit) sampleConfig "ci" (.ok ["x", "t/a"]) = .ok plan ∧
        build (ε := Unit) sampleConfig "ci" (.ok ["t/a", "x"]) = .ok other ∧
        build (ε := Unit) sampleConfig "ci" (.ok ["x", "t/a", "t/a", "x"]) = .ok both ∧
        plan.Combined other both ∧ other.Reordered plan := by
  have hperm : ["t/a", "x"].Perm ["x", "t/a"] := .swap ..
  refine ⟨hperm, ?_⟩
  rcases build_append (ε := Unit) sampleConfig "ci" ["x", "t/a"] ["t/a", "x"] with
    ⟨e, he, -⟩ | ⟨plan, other, both, hplan, hother, hboth, hcombined, hreordered⟩
  · have hok : (build (ε := Unit) sampleConfig "ci" (.ok ["x", "t/a"])).isOk = true := rfl
    rw [he] at hok
    cases hok
  · exact ⟨plan, other, both, hplan, hother, hboth, hcombined, hreordered hperm⟩

end Plan
end TestSelection
