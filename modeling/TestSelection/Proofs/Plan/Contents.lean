/-
# What a plan contains

The tests of a plan are the listed files that the joined test patterns select, each once and in the
order in which the listing has them first; its commands are the parallel ones among the joined
commands, expanded over all listed files (`answers_of_build`). Nothing else of the configuration
counts, nor how the patterns and the commands are shared out between its top and the profile.
-/

import TestSelection.Proofs.Config.Settings
import TestSelection.Proofs.FirstOccurrence
import TestSelection.Proofs.Pattern.Expansion

namespace TestSelection

namespace Outline

variable {config : Entries} {name : Text}

/-- An outline has the joined commands and the joined patterns, compiled. -/
theorem ofConfig_eq_ok_iff {outline : Outline} :
    ofConfig config name = .ok outline ↔
      ∃ patterns, Config.Joined config name "test_pattern" (patterns.map Pattern.toValue) ∧
        Config.Joined config name "tests" outline.commands ∧
        Sequence.compile patterns none = .ok outline.selection ∧ outline.profile = name := by
  simp only [ofConfig, Outcome.bind_eq_ok_iff, Misshapen.lift, Glob.Rejection.lift,
    Outcome.mapError_eq_ok_iff, Pattern.ofValues_eq_ok_iff, pure, Except.pure, Except.ok.injEq]
  constructor
  · rintro ⟨own, hp, declared, hd, commands, hc, patterns, rfl, selection, hs, rfl⟩
    exact ⟨patterns, Config.joined_iff.2 ⟨own, hp, hd⟩, Config.joined_iff.2 ⟨own, hp, hc⟩, hs, rfl⟩
  · rintro ⟨patterns, hd, hc, hs, rfl⟩
    obtain ⟨own, hp, hd⟩ := Config.joined_iff.1 hd
    obtain ⟨own', hp', hc⟩ := Config.joined_iff.1 hc
    obtain rfl := Except.ok.inj (hp.symm.trans hp')
    exact ⟨own, hp, _, hd, _, hc, patterns, rfl, _, hs, rfl⟩

end Outline

namespace Plan

variable {ε : Type} {config : Entries} {name : Text} {listing : Except ε (List String)}
  {plan : Plan}

/-- A plan is built from the joined patterns, the joined commands and the listed files. -/
theorem build_eq_ok_iff :
    build config name listing = .ok plan ↔
      ∃ files patterns commands selection results, listing = .ok files ∧
        Config.Joined config name "test_pattern" (patterns.map Pattern.toValue) ∧
        Config.Joined config name "tests" commands ∧
        Sequence.compile patterns none = .ok selection ∧
        Parallel.expandAll files commands = .ok results ∧
        plan = ⟨(selection.select files).eraseDups, Parallel.parallelOnly results⟩ := by
  simp only [build_eq, Outcome.bind_eq_ok_iff, Outcome.mapError_eq_ok_iff,
    Outline.ofConfig_eq_ok_iff, Outline.fill, pure, Except.pure, Except.ok.injEq]
  constructor
  · rintro ⟨outline, ⟨patterns, hp, hc, hs, -⟩, files, hf, results, he, rfl⟩
    exact ⟨files, patterns, outline.commands, outline.selection, results, hf, hp, hc, hs, he, rfl⟩
  · rintro ⟨files, patterns, commands, selection, results, hf, hp, hc, hs, he, rfl⟩
    exact ⟨⟨name, selection, commands⟩, ⟨patterns, hp, hc, hs, rfl⟩, files, hf, results, he, rfl⟩

/-- What a plan over some files contains, by the test patterns and the commands it is asked for. -/
structure Answers (plan : Plan) (files : List String) (patterns : List Pattern)
    (commands : List Value) : Prop where
  nodup : plan.tests.Nodup
  mem_tests : ∀ path, path ∈ plan.tests ↔ path ∈ files ∧ Pattern.Selected patterns path
  /-- The tests stand in the order in which the files have them first. -/
  order : plan.tests.Pairwise fun p q => files.idxOf p < files.idxOf q
  expanded : List.Forall₂ (Parallel.Expanded files) (commands.filter (Parallel.IsParallel ·))
    plan.commands

/-- Selecting among the files and expanding the commands gives such a plan. -/
theorem answers_of_compile {files : List String} {patterns : List Pattern} {selection : Sequence}
    {commands results : List Value} (hs : Sequence.compile patterns none = .ok selection)
    (he : Parallel.expandAll files commands = .ok results) :
    Answers ⟨(selection.select files).eraseDups, Parallel.parallelOnly results⟩ files patterns
      commands := by
  have hsel : selection.select files = files.filter (Pattern.Selected patterns ·) := by
    simpa using Sequence.select_eq hs files
  have horder : (selection.select files).eraseDups.Pairwise fun p q =>
      files.idxOf p < files.idxOf q := by
    rw [hsel]
    -- What is kept of a list stands in the order in which the list has it first, also after a
    -- filter.
    refine (pairwise_eraseDups _).imp_of_mem fun {p q} hp hq h => ?_
    have hp := (List.mem_filter.1 (List.mem_eraseDups.1 hp)).2
    have hq := (List.mem_filter.1 (List.mem_eraseDups.1 hq)).2
    exact idxOf_lt_of_filter hp hq h
  refine ⟨nodup_eraseDups _, fun path => ?_, horder, Parallel.parallelOnly_of_expandAll he⟩
  rw [List.mem_eraseDups, hsel, List.mem_filter, decide_eq_true_iff]

/-- **What a plan contains.**  There is one list of test patterns and one of commands that the
configuration asks for under the name, joined from its top and the profile. The tests are the listed
files that the patterns select, and the commands those that are parallel, expanded over all listed
files. Another configuration with the same two joined lists gives the same plan. -/
theorem answers_of_build (h : build config name listing = .ok plan) :
    ∃ files patterns commands, listing = .ok files ∧
      (∀ items, Config.Joined config name "test_pattern" items ↔
        items = patterns.map Pattern.toValue) ∧
      (∀ items, Config.Joined config name "tests" items ↔ items = commands) ∧
      plan.Answers files patterns commands ∧
      ∀ config' name', Config.Joined config' name' "test_pattern" (patterns.map Pattern.toValue) →
        Config.Joined config' name' "tests" commands →
          build config' name' listing = .ok plan := by
  obtain ⟨files, patterns, commands, selection, results, hf, hp, hc, hs, he, rfl⟩ :=
    build_eq_ok_iff.1 h
  refine ⟨files, patterns, commands, hf, fun items => ⟨(·.unique hp), fun hi => hi ▸ hp⟩,
    fun items => ⟨(·.unique hc), fun hi => hi ▸ hc⟩, answers_of_compile hs he,
    fun config' name' hp' hc' => build_eq_ok_iff.2 ?_⟩
  exact ⟨files, patterns, commands, selection, results, hf, hp', hc', hs, he, rfl⟩

/-- A configuration whose profile takes back some of what its top selects, with one command that is
parallel and has been expanded before. -/
def sampleConfig : Entries :=
  [(.str "test_pattern", .str "t/*"),
    (.str "tests", .list [.str "make", .map [(.str "mode", .str "parallel"),
      (.str "files_expanded", .null), (.str "files", .str "?"), (.str "prefix", .str "t/")]]),
    (.str "profiles", .map [(.str "ci", .map [(.str "test_pattern",
      .list [.map [(.str "exclude", .str "t/b")], .str "x"])])])]

/-- What it comes to over a listing that repeats a path: the tests do not repeat it, the files of
the command do. -/
def samplePlan : Plan where
  tests := ["x", "t/a"]
  commands := [.map [(.str "mode", .str "parallel"),
    (.str "files_expanded", .ofStrings ["t/b", "t/a", "t/a"]), (.str "files", .str "?"),
    (.str "prefix", .str "t/")]]

/-- A profile that takes back some of what its top selects, over a listing that has two paths twice,
and the plan that comes of it. -/
theorem answers_of_build_sample :
    build (ε := Unit) sampleConfig "ci" (.ok ["x", "t/b", "t/a", "x", "t/a"]) = .ok samplePlan ∧
      ∃ files patterns commands, files = ["x", "t/b", "t/a", "x", "t/a"] ∧
        Config.Joined sampleConfig "ci" "test_pattern" (patterns.map Pattern.toValue) ∧
        Config.Joined sampleConfig "ci" "tests" commands ∧
        samplePlan.Answers files patterns commands := by
  have hb : build (ε := Unit) sampleConfig "ci" (.ok ["x", "t/b", "t/a", "x", "t/a"]) =
      .ok samplePlan := rfl
  obtain ⟨files, patterns, commands, hf, hp, hc, ha, -⟩ := answers_of_build hb
  have hfiles : files = ["x", "t/b", "t/a", "x", "t/a"] := (Except.ok.inj hf).symm
  exact ⟨hb, files, patterns, commands, hfiles, (hp _).2 rfl, (hc _).2 rfl, ha⟩

end Plan
end TestSelection
