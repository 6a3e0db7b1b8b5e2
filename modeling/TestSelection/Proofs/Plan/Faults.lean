/-
# What is wrong with a plan

Everything that can be wrong with a plan, in the order in which it counts (`Plan.faults`): first
what is wrong with the configuration and the test patterns, which is known before any file is listed
(`Outline.faults`), then the listing, then command by command what is wrong with its patterns
(`Parallel.faultsOf`). Test patterns that cannot be read count in the order in which they are
declared, and bad globs from the last one on. A plan fails with the first of all these faults, and
is made if there is none (`Plan.reports_build`); files are listed at most once, and only if nothing
was wrong before (`Plan.buildWith`).
-/

import TestSelection.Proofs.Pattern.Grammar
import TestSelection.Proofs.Plan.Contents
import TestSelection.Proofs.Text.Digits

namespace TestSelection

open Outcome (Reports faultOf reports_error reports_faultOf reports_ok)

/-! ### Patterns -/

namespace Sequence

variable {directory : Option Text} {patterns : List Pattern}

/-- The bad globs among some patterns under a directory, from the last declared one on. -/
def globFaults (directory : Option Text) (patterns : List Pattern) : List Glob.Rejection :=
  patterns.reverse.flatMap fun p => faultOf (Glob.ofText (p.under directory).glob)

/-- Compiling reports the rejected globs, in the order in which it takes them. -/
theorem reports_compileReversed : Reports (compileReversed directory patterns)
    (patterns.flatMap fun p => faultOf (Glob.ofText (p.under directory).glob)) := by
  induction patterns with
  | nil => exact reports_ok _
  | cons p rest ih =>
    rw [compileReversed, List.flatMap_cons]
    exact (reports_faultOf _).bind fun glob _ => ih.map

/-- A sequence fails with its last bad glob. -/
theorem reports_compile : Reports (compile patterns directory) (globFaults directory patterns) :=
  reports_compileReversed.map

end Sequence

/-! ### Commands -/

namespace Parallel

variable {entries : Entries} {command : Value} {files : List String}

/-- The patterns that a command names; none if its `files` are not right. -/
def named (entries : Entries) : List Pattern :=
  (Pattern.ofField (context entries) "files" ((entries.field? "files").getD .null)).toOption.getD []

/-- The directory that scopes a command; none if its `prefix` is not right. -/
def scope (entries : Entries) : Option Text := (directory entries).toOption.join

/-- Whether a command has a right prefix can be told. -/
instance : Decidable (∃ scope, ScopedBy entries scope) :=
  decidable_of_iff ((directory entries).toOption.isSome = true) <| by
    simp only [← directory_eq_ok_iff]
    cases directory entries <;> simp [Except.toOption]

/-- What is wrong with the patterns of a command: its `files` are no patterns, its `prefix` is no
text, and bad globs. -/
def patternFaults (entries : Entries) : List PatternError :=
  (if ∃ own, Pattern.Names ((entries.field? "files").getD .null) own then []
    else [.misshapen ⟨context entries, .field "files"⟩]) ++
  (if ∃ scope, ScopedBy entries scope then []
    else [.misshapen ⟨context entries, .field "prefix"⟩]) ++
  (Sequence.globFaults (scope entries) (named entries)).map .rejected

/-- What is wrong with a command. Before anything else, messages must be able to show it. -/
def faultsOf (command : Value) : List PatternError :=
  match command with
  | .map entries =>
    if isParallel (.map entries) then
      (if (Value.map entries).hasLongInteger then [.longInteger] else []) ++ patternFaults entries
    else []
  | _ => []

/-- A scope that is no text is the one fault of a directory. -/
theorem reports_directory : Reports (directory entries)
    (if ∃ scope, ScopedBy entries scope then [] else [⟨context entries, .field "prefix"⟩]) := by
  cases hd : directory entries with
  | ok scope =>
    rw [if_pos ⟨scope, directory_eq_ok_iff.1 hd⟩]
    exact reports_ok _
  | error m =>
    have hnone : ¬∃ scope, ScopedBy entries scope := by
      rintro ⟨scope, hs⟩
      exact absurd (hd.symm.trans (directory_eq_ok_iff.2 hs)) nofun
    have hm : m = ⟨context entries, .field "prefix"⟩ := by
      unfold directory at hd
      split at hd
      case h_4 => exact (Except.error.inj hd).symm
      all_goals cases hd
    rw [if_neg hnone, hm]
    exact reports_error _ _

/-- Compiling the patterns of a command fails with the first thing that is wrong with it. -/
theorem reports_sequence : Reports (sequence entries)
    ((if (Value.map entries).hasLongInteger then [.longInteger] else []) ++
      patternFaults entries) := by
  have hreport : ∀ (c : Prop) [Decidable c] (field : Text),
      (if c then [] else [Misshapen.mk (context entries) (.field field)]).map Misshapen.report =
        if c then [] else [.misshapen ⟨context entries, .field field⟩] := by
    intro c _ field
    split <;> rfl
  rw [sequence]
  split
  · exact reports_error _ _
  · rw [patternFaults, List.nil_append, List.append_assoc, ← hreport, ← hreport]
    -- Once the two fields are read, what `named` and `scope` say of them is what was read.
    refine Reports.bind (Reports.mapError Pattern.reports_ofField) fun own hown => ?_
    refine Reports.bind (Reports.mapError reports_directory) fun scope' hscope => ?_
    rw [Misshapen.lift, Outcome.mapError_eq_ok_iff] at hown hscope
    have hnamed : named entries = own := by
      rw [named, hown]
      rfl
    have hscoped : scope entries = scope' := by
      rw [scope, hscope]
      rfl
    rw [hnamed, hscoped]
    exact Sequence.reports_compile.mapError

/-- Expanding a command reports what is wrong with its fields, one after another. -/
theorem reports_expand : Reports (expand files command) (faultsOf command) := by
  cases command with
  | map entries =>
    rw [expand, faultsOf]
    split
    · exact reports_sequence.map.map
    · exact reports_ok _
  | _ => exact reports_ok _

/-- Commands fail with the first thing that is wrong with the first one of them that is wrong. -/
theorem reports_expandAll {commands : List Value} :
    Reports (expandAll files commands) (commands.flatMap faultsOf) := by
  induction commands with
  | nil => exact reports_ok _
  | cons command rest ih =>
    rw [expandAll, List.flatMap_cons]
    exact reports_expand.bind fun _ _ => ih.map

end Parallel

/-! ### Profiles -/

namespace Config

variable {config : Entries} {name field : Text}

/-- The settings of a profile; none if there is no such profile. -/
def own (config : Entries) (name : Text) : Entries := (profile config name).toOption.getD []

/-- The items of a setting, at the top and in the profile; those of a wrong one do not count. -/
def items (config : Entries) (name field : Text) : List Value :=
  (setting config field "top-level config").toOption.getD [] ++
    (setting (own config name) field (Outline.owner name)).toOption.getD []

/-- What is wrong with a setting, at the top and in the profile. -/
def settingFaults (config : Entries) (name field : Text) : List ConfigError :=
  faultOf (setting config field "top-level config") ++
    faultOf (setting (own config name) field (Outline.owner name))

/-- What is wrong with a configuration: the profile, and what should be lists. -/
def faults (config : Entries) (name : Text) : List ConfigError :=
  faultOf (profile config name) ++ settingFaults config name "test_pattern" ++
    settingFaults config name "tests"

/-- The entries of a profile that is there are its own. -/
theorem own_eq {entries : Entries} (h : profile config name = .ok entries) :
    own config name = entries := by
  rw [own, h]
  rfl

/-- A setting is read at the top and then in the profile, and fails with the first fault of them. -/
theorem reports_joined :
    Reports (Outline.joined config (own config name) name field)
      (settingFaults config name field) :=
  (reports_faultOf _).bind fun _ _ => (reports_faultOf _).map

/-- The items of a setting that can be read are the joined ones. -/
theorem items_eq {values : List Value} (h : Joined config name field values) :
    items config name field = values := by
  obtain ⟨entries, hprofile, hjoined⟩ := joined_iff.1 h
  obtain ⟨top, htop, hjoined⟩ := Outcome.bind_eq_ok_iff.1 hjoined
  obtain ⟨rest, hrest, hvalues⟩ := Outcome.bind_eq_ok_iff.1 hjoined
  rw [items, own_eq hprofile, htop, hrest]
  exact Except.ok.inj hvalues

end Config

namespace Outline

variable {config : Entries} {name : Text}

/-- What is wrong with the test patterns: what is none, and bad globs. -/
def patternFaults (config : Entries) (name : Text) : List PatternError :=
  (Pattern.undeclared (Config.items config name "test_pattern")).map (fun raw =>
    Misshapen.report ⟨"'test_pattern' in " ++ owner name, .pattern raw⟩) ++
  (Sequence.globFaults none
    ((Config.items config name "test_pattern").filterMap Pattern.ofValue?)).map .rejected

/-- What is wrong before any file is listed. -/
def faults (config : Entries) (name : Text) : List (ConfigError ⊕ PatternError) :=
  (Config.faults config name).map .inl ++ (patternFaults config name).map .inr

/-- An outline reports its faults: the profile, the settings, and then the test patterns. -/
theorem reports_ofConfig : Reports (ofConfig config name) (faults config name) := by
  rw [faults, Config.faults, patternFaults, ofConfig]
  simp only [List.map_append, List.append_assoc]
  refine Reports.bind (reports_faultOf _).mapError fun entries hprofile => ?_
  rw [Outcome.mapError_eq_ok_iff] at hprofile
  obtain rfl := Config.own_eq hprofile
  refine Reports.bind Config.reports_joined.mapError fun values hvalues => ?_
  refine Reports.bind Config.reports_joined.mapError fun commands _ => ?_
  rw [Outcome.mapError_eq_ok_iff] at hvalues
  rw [Config.items_eq (Config.joined_iff.2 ⟨_, hprofile, hvalues⟩)]
  refine Reports.bind Pattern.reports_ofValues.mapError fun declared hdeclared => ?_
  rw [Misshapen.lift, Outcome.mapError_eq_ok_iff, Outcome.mapError_eq_ok_iff,
    Pattern.ofValues_eq_ok_iff] at hdeclared
  have hpatterns : values.filterMap Pattern.ofValue? = declared := by
    rw [hdeclared, List.filterMap_map]
    simp
  rw [hpatterns]
  exact (Sequence.reports_compile.mapError.mapError).map

end Outline

namespace Plan

variable {ε : Type} {config : Entries} {name : Text} {listing : Except ε (List String)}

/-- Everything that is wrong with a plan over the files of a listing. -/
def faults (config : Entries) (name : Text) (listing : Except ε (List String)) :
    List (PlanError ε) :=
  (Outline.faults config name).map .ofOutline ++ (faultOf listing).map .listing ++
    ((Config.items config name "tests").flatMap Parallel.faultsOf).map .pattern

/-- A plan reports its faults: those of its outline, then that of the listing, and last those of the
commands. -/
theorem reports_build : Reports (build config name listing) (faults config name listing) := by
  rw [faults, List.append_assoc, build_eq]
  refine Reports.bind Outline.reports_ofConfig.mapError fun outline houtline => ?_
  rw [Outcome.mapError_eq_ok_iff] at houtline
  obtain ⟨-, -, hcommands, -⟩ := Outline.ofConfig_eq_ok_iff.1 houtline
  rw [Config.items_eq hcommands]
  refine Reports.bind (reports_faultOf _).mapError fun files _ => ?_
  exact Parallel.reports_expandAll.map.mapError

/-- **What a plan fails with.**  A plan fails with the first of its faults, and is made if it has
none. If something is wrong before files are listed, nothing is listed; otherwise files are listed
once, and the plan is the one over this listing. -/
theorem build_fails_with_first :
    (∀ e, build config name listing = .error e ↔ (faults config name listing).head? = some e) ∧
    ((∃ plan, build config name listing = .ok plan) ↔ faults config name listing = []) ∧
    ∀ (m : Type → Type) [Monad m] (lister : m (Except ε (List String))),
      buildWith config name lister =
        match (Outline.faults config name).head? with
        | some e => pure (.error (.ofOutline e))
        | none => lister >>= fun listing => pure (build config name listing) := by
  refine ⟨reports_build, reports_build.eq_nil_iff.symm, fun m _ lister => ?_⟩
  -- Whether files are listed is decided by the outline, which has failed or not before that.
  cases ho : Outline.ofConfig config name with
  | error e =>
    rw [(Outline.reports_ofConfig e).1 ho, buildWith, ho]
  | ok outline =>
    have hbuild : ∀ listing : Except ε (List String), build config name listing = (do
        let files ← listing.mapError .listing
        (outline.fill files).mapError .pattern) := by
      intro listing
      rw [build_eq, ho]
      rfl
    rw [Outline.reports_ofConfig.eq_nil_iff.2 ⟨outline, ho⟩, buildWith, ho]
    simp only [List.head?_nil, hbuild]

/-- A command that messages cannot show, because of a number in a field of no meaning. -/
def longCommand : Entries :=
  [(.str "mode", .str "parallel"), (.str "files", .str "x"),
    (.str "n", .int (10 ^ Text.mostDigits))]

/-- A command that names no patterns. -/
def wrongCommand : Entries := [(.str "mode", .str "parallel"), (.str "files", .int 3)]

/-- A configuration with both of them. -/
def longConfig : Entries :=
  [(.str "profiles", .map [(.str "d", .map [(.str "tests",
    .list [.map longCommand, .map wrongCommand])])])]

/-- The command of the example holds a number of too many digits. -/
theorem hasLongInteger_longCommand : (Value.map longCommand).hasLongInteger = true := by
  simp only [longCommand, Value.hasLongInteger, Value.anyLongEntry, Text.isTooLong_pow,
    Bool.or_true, Bool.true_or]

/-- **Fields of no meaning count.**  Of two commands the first one has right patterns, and the
second one is what is wrong; but the plan fails because the first one cannot be shown. -/
theorem build_fails_of_longInteger :
    Outline.faults longConfig "d" = [] ∧
      Config.items longConfig "d" "tests" = [.map longCommand, .map wrongCommand] ∧
      Parallel.patternFaults longCommand = [] ∧
      Parallel.patternFaults wrongCommand =
        [.misshapen ⟨Parallel.context wrongCommand, .field "files"⟩] ∧
      build (ε := Unit) longConfig "d" (.ok []) = .error (.pattern .longInteger) := by
  have hearly : Outline.faults longConfig "d" = [] := rfl
  have hitems : Config.items longConfig "d" "tests" = [.map longCommand, .map wrongCommand] := rfl
  refine ⟨hearly, hitems, rfl, rfl, (reports_build _).2 ?_⟩
  have hfaults : Parallel.faultsOf (.map longCommand) =
      .longInteger :: Parallel.patternFaults longCommand := by
    rw [Parallel.faultsOf, hasLongInteger_longCommand]
    rfl
  rw [faults, hearly, hitems, List.flatMap_cons, hfaults]
  rfl

end Plan
end TestSelection
