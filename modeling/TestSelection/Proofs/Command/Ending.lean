/-
# How a run ends

Of a run whose arguments are no mistake and do not ask for help: which code it ends with, and what
is printed then (`run_ending`).

| what happens | code | printed |
| --- | --- | --- |
| the version, the plan or the output file is written | 0 | the version, the plan or a notice |
| a value is wrong, or the command that lists files fails | 1 | what is wrong, as an error |
| the system refuses a file, or a document cannot be handled | 2 | what is wrong, as an error |
| the plan has no JSON text, or a path is not one | none | |

The last line holds only after the plan is made; a path that is none counts as a wrong value before.
Two examples follow: a configuration whose plan is printed (`run_ending_configured`), and one whose
plan has no JSON text (`run_escapes_of_date`).
-/

import TestSelection.Proofs.Command.Effect
import TestSelection.Proofs.Config.FilesRead
import TestSelection.Proofs.Listing.Limits

namespace TestSelection
namespace Command

/-- A failure that the configuration or the listing is to blame for. -/
def FailureKind.IsRejection (k : FailureKind) : Prop := k = .wrongValue ∨ k = .failedCommand

/-- **Code 1.**  A run without a plan ends with the code 1 exactly if a value is wrong, or the
command that lists files has failed. -/
theorem RunError.code_eq_one_iff (e : RunError) : e.code = 1 ↔ e.kind.IsRejection := by
  rw [code]
  cases e.kind with
  | wrongValue => exact iff_of_true rfl (.inl rfl)
  | failedCommand => exact iff_of_true rfl (.inr rfl)
  | refusedFile | unforeseen => simp [FailureKind.code, FailureKind.IsRejection]

/-- **Code 2.**  It ends with the code 2 for every other failure. -/
theorem RunError.code_eq_two_iff (e : RunError) : e.code = 2 ↔ ¬ e.kind.IsRejection := by
  rw [← e.code_eq_one_iff]
  have := e.code_cases
  omega

/-! ### What can happen -/

namespace Options

variable (o : Options) (tree : Tree)

/-- A run fails with a code and a message. -/
inductive Fails : Nat → Text → Prop where
  | rejected {e : RunError} (noPlan : o.plan? tree = some (.error e)) (kind : e.kind.IsRejection) :
      Fails 1 e.message
  | noPlan {e : RunError} (noPlan : o.plan? tree = some (.error e)) (kind : ¬ e.kind.IsRejection) :
      Fails 2 e.message
  | notWritten {plan : Plan} {path : Path} {e : WriteError}
      (made : o.plan? tree = some (.ok plan)) (target : o.target? = some path)
      (failed : (plan.write tree path).2 = .error e) (reported : e.isReported = true) :
      Fails 2 e.message

/-- A run has done what was asked for. -/
inductive Succeeds (installed : Bool) : Outcome → Prop where
  | version {done : Outcome} (asked : o.version = true)
      (shown : done.output = versionText installed) :
      Succeeds installed done
  | printed {done : Outcome} {plan : Plan} {text : String}
      (made : o.plan? tree = some (.ok plan)) (asked : o.print = true)
      (json : plan.json = .ok text) (shown : done.output = text) : Succeeds installed done
  | written {done : Outcome} {plan : Plan} {path : Path} {text : String}
      (made : o.plan? tree = some (.ok plan)) (target : o.target? = some path)
      (json : plan.json = .ok text) (written : Tree.Written path text tree done.tree) :
      Succeeds installed done

/-- A run ends without a code. -/
inductive Escapes : Prop where
  /-- No directory is given. -/
  | noRoot (version : o.version = false) (root : o.root = none)
  /-- The plan is to be printed, and has no JSON text. -/
  | noText {plan : Plan} {e : Json.Unwritable} (made : o.plan? tree = some (.ok plan))
      (asked : o.print = true) (json : plan.json = .error e)
  /-- The plan is to be written, and no file is given. -/
  | noOutput {plan : Plan} (made : o.plan? tree = some (.ok plan)) (asked : o.print = false)
      (output : o.output = none)
  /-- The plan is to be written, and has no JSON text, or the path is none. -/
  | notReported {plan : Plan} {path : Path} {e : WriteError}
      (made : o.plan? tree = some (.ok plan)) (target : o.target? = some path)
      (failed : (plan.write tree path).2 = .error e) (unreported : e.isReported = false)

/-- What a run comes to. -/
inductive Ends (installed : Bool) (done : Outcome) : Prop where
  | escapes {e : Escape} (ending : done.ending = .escaped e) (why : o.Escapes tree)
  | succeeds (ending : done.ending = .code 0) (how : o.Succeeds tree installed done)
  | fails {n : Nat} {message : Text} (ending : done.ending = .code n) (why : o.Fails tree n message)

end Options

section

variable {installed : Bool} {arguments : List String} {o : Options} {tree : Tree} {plan : Plan}
  {path : Path}

/-- A run that is to write its plan escapes, succeeds or fails. -/
theorem ends_of_target (installed : Bool) (h : Request.ofArguments arguments = .ok (.run o))
    (hp : o.plan? tree = some (.ok plan)) (ht : o.target? = some path) :
    o.Ends tree installed (run installed arguments tree) := by
  obtain ⟨directory, output, log, rfl, hrun⟩ := run_of_target installed h hp ht
  rw [hrun]
  obtain ⟨text, hjson, hok, hw⟩ | ⟨e, he, -⟩ :=
    plan.write_cases tree ((Path.ofText directory).under output)
  · rw [Run.writePlan_of_ok log hok]
    exact .succeeds rfl (.written hp ht hjson hw)
  · have hend := Run.writePlan_of_error log he
    split at hend
    · next hr =>
      rw [hend]
      exact .fails rfl (.notWritten hp ht he hr)
    · next hr =>
      obtain ⟨escape, hend⟩ := hend
      rw [hend]
      exact .escapes rfl (.notReported hp ht he (Bool.eq_false_iff.2 hr))

/-- A run with a plan escapes, succeeds or fails. -/
theorem ends_of_plan (installed : Bool) (h : Request.ofArguments arguments = .ok (.run o))
    (hp : o.plan? tree = some (.ok plan)) :
    o.Ends tree installed (run installed arguments tree) := by
  obtain ⟨directory, log, hroot, hrun⟩ := run_of_plan installed h hp
  cases hprint : o.print with
  | true =>
    rw [hrun, Run.finish, if_pos hprint, Run.printPlan]
    cases hj : plan.json with
    | error e => exact .escapes rfl (.noText hp hprint hj)
    | ok text => exact .succeeds rfl (.printed hp hprint hj rfl)
  | false =>
    cases houtput : o.output with
    | none =>
      rw [hrun, Run.finish, hprint, houtput]
      exact .escapes rfl (.noOutput hp hprint houtput)
    | some output =>
      have hv := (Options.plan?_eq_some_iff.1 hp).1
      exact ends_of_target installed h hp
        (Options.target?_eq_some_iff.2 ⟨hv, hprint, directory, output, hroot, houtput, rfl⟩)

/-- **Every run comes to something:** it escapes, it succeeds, or it fails. -/
theorem ends_run (installed : Bool) (tree : Tree)
    (h : Request.ofArguments arguments = .ok (.run o)) :
    o.Ends tree installed (run installed arguments tree) := by
  cases hv : o.version with
  | true =>
    rw [run_of_version installed tree h hv]
    exact .succeeds rfl (.version hv rfl)
  | false =>
    cases hroot : o.root with
    | none =>
      rw [run_of_noRoot installed tree h hv hroot]
      exact .escapes rfl (.noRoot hv hroot)
    | some directory =>
      have hp := Options.plan?_of_root tree hv hroot
      cases hmade : Run.planFor o tree (.ofText directory) with
      | error e =>
        rw [hmade] at hp
        obtain ⟨log, hrun⟩ := run_of_noPlan installed h hp
        rw [hrun]
        -- The kind of the failure is what the code is told from.
        by_cases hk : e.kind.IsRejection
        · exact .fails (congrArg _ (e.code_eq_one_iff.2 hk)) (.rejected hp hk)
        · exact .fails (congrArg _ (e.code_eq_two_iff.2 hk)) (.noPlan hp hk)
      | ok plan => exact ends_of_plan installed h (hmade ▸ hp)

/-- What escapes ends without a code. -/
theorem escaped_of_escapes (h : Request.ofArguments arguments = .ok (.run o))
    (hesc : o.Escapes tree) : ∃ e, (run installed arguments tree).ending = .escaped e := by
  cases hesc with
  | noRoot hv hroot =>
    rw [run_of_noRoot installed tree h hv hroot]
    exact ⟨_, rfl⟩
  | noText hp hprint hj =>
    obtain ⟨directory, log, -, hrun⟩ := run_of_plan installed h hp
    rw [hrun, Run.finish, if_pos hprint, Run.printPlan, hj]
    exact ⟨_, rfl⟩
  | noOutput hp hprint houtput =>
    obtain ⟨directory, log, -, hrun⟩ := run_of_plan installed h hp
    rw [hrun, Run.finish, hprint, houtput]
    exact ⟨_, rfl⟩
  | notReported hp ht he hr =>
    obtain ⟨directory, output, log, rfl, hrun⟩ := run_of_target installed h hp ht
    have hend := Run.writePlan_of_error log he
    rw [hr] at hend
    obtain ⟨escape, hend⟩ := hend
    rw [hrun, hend]
    exact ⟨escape, rfl⟩

/-- What fails ends with its code and reports its message. -/
theorem ending_of_fails (h : Request.ofArguments arguments = .ok (.run o)) {n : Nat}
    {message : Text} (hf : o.Fails tree n message) :
    (run installed arguments tree).ending = .code n ∧
      (run installed arguments tree).output = "" ∧
      ∃ log, (run installed arguments tree).errors = log ++ Run.complain message := by
  cases hf with
  | @rejected e hp hk =>
    obtain ⟨log, hrun⟩ := run_of_noPlan installed h hp
    rw [hrun]
    exact ⟨congrArg _ (e.code_eq_one_iff.2 hk), rfl, log, rfl⟩
  | @noPlan e hp hk =>
    obtain ⟨log, hrun⟩ := run_of_noPlan installed h hp
    rw [hrun]
    exact ⟨congrArg _ (e.code_eq_two_iff.2 hk), rfl, log, rfl⟩
  | notWritten hp ht he hr =>
    obtain ⟨directory, output, log, rfl, hrun⟩ := run_of_target installed h hp ht
    have hend := Run.writePlan_of_error log he
    rw [hr] at hend
    rw [hrun, hend]
    exact ⟨rfl, rfl, log, rfl⟩

end

/-- **How a run ends.**  A run whose arguments are no mistake, and do not ask for help, ends without
a code exactly if it escapes in one of four ways. It ends with the code 0 only if what was asked for
has been shown or written, and with another code only if it has failed with this code. A run that
fails ends with its code, prints nothing, and reports its message as an error. -/
theorem run_ending (installed : Bool) {arguments : List String} {o : Options} (tree : Tree)
    (h : Request.ofArguments arguments = .ok (.run o)) :
    ((∃ e, (run installed arguments tree).ending = .escaped e) ↔ o.Escapes tree) ∧
    (∀ n, (run installed arguments tree).ending = .code n →
      (n = 0 ∧ o.Succeeds tree installed (run installed arguments tree)) ∨
        ∃ message, o.Fails tree n message) ∧
    (∀ n message, o.Fails tree n message →
      (run installed arguments tree).ending = .code n ∧
      (run installed arguments tree).output = "" ∧
      ∃ log, (run installed arguments tree).errors = log ++ Run.complain message) := by
  -- Each run comes to one of three things, so an ending tells which of them it was.
  have hends := ends_run installed tree h
  refine ⟨⟨?_, escaped_of_escapes h⟩, ?_, fun n message hf => ending_of_fails h hf⟩
  · rintro ⟨e, he⟩
    cases hends with
    | escapes _ why => exact why
    | succeeds hcode | fails hcode => exact absurd (he.symm.trans hcode) nofun
  · intro n hn
    cases hends with
    | escapes hcode => exact absurd (hn.symm.trans hcode) nofun
    | succeeds hcode how => exact .inl ⟨Ending.code.inj (hn.symm.trans hcode), how⟩
    | @fails m message hcode why =>
      obtain rfl := Ending.code.inj (hn.symm.trans hcode)
      exact .inr ⟨message, why⟩

/-! ### Runs with a configuration -/

/-- A directory with a configuration, and with nothing else. -/
def configuredTree (text : String) : Tree := ⟨.dir [("solano.yml", .file text.toUTF8)], []⟩

/-- What is asked for when the plan of a profile is to be printed. -/
def printOptions (profile : String) : Options :=
  { Options.initial with profile := some profile, print := true }

/-- Arguments that are read are read as what they ask for. -/
theorem ofArguments_of_toOption {arguments : List String} {request : Request}
    (h : (Request.ofArguments arguments).toOption = some request) :
    Request.ofArguments arguments = .ok request := by
  cases hr : Request.ofArguments arguments with
  | error mistake =>
    rw [hr] at h
    cases h
  | ok other =>
    rw [hr] at h
    exact congrArg _ (Option.some.inj h)

section

variable {text profile : String} {name : Text} {config : Entries}
  {test : Except (PlanError RunError) Plan → Bool}

/-- A walk in the directory lists the configuration. -/
theorem walk_configuredTree (text : String) :
    Listing.walk (configuredTree text) (.ofText ".") false = .ok ["solano.yml"] := by
  have hroot : Path.ofText "." = ⟨0, []⟩ := by decide
  have hopen : Listing.opens ⟨0, []⟩ [] = true := by decide
  have hfits : Tree.textFault? (Path.below ⟨0, []⟩ ["solano.yml"]).text = none := by decide
  have hvisit : Listing.visit (Listing.view (configuredTree text) ⟨0, []⟩ false) [] []
      (configuredTree text).top = .ok [["solano.yml"]] := by
    refine Listing.visit_dir_eq_ok_iff.2 ⟨⟨Nat.zero_le _, fun _ => ⟨none, rfl⟩, ?_⟩, ?_⟩
    -- The one entry has a short path.
    · refine fun _ => List.forall_mem_singleton.2 fun _ _ => ?_
      dsimp only [Listing.view]
      exact hfits
    · rw [if_pos (Listing.view_opens ▸ hopen)]
      rfl
  rw [hroot, Listing.walk_of_visit (Tree.resolve_here ..) hvisit]
  exact congrArg _ (List.mergeSort_singleton _)

/-- **The plan of a run in the directory** is built from its configuration and this one file. -/
theorem planFor_configuredTree (hconfig : Config.ofText? text = some config)
    (hends : '\r' ∉ text.toList) (hname : Config.profileName (configuredTree text) (.ofText ".")
      (some (Text.ofString profile)) none = .ok name) :
    Run.planFor (printOptions profile) (configuredTree text) (.ofText ".") =
      (Plan.build config name (.ok ["solano.yml"])).mapError RunError.ofPlan := by
  have hlinks : (configuredTree text).top.IsLinkless :=
    Node.isLinkless_dir (List.forall_mem_singleton.2 (Node.isLinkless_file _))
  have hroot : (configuredTree text).Leads true (.ofText ".") [] := ⟨by decide, .done⟩
  have hload := Config.loadBelow_of_ofText? hlinks hroot rfl (by decide) rfl hends hconfig
  have hlisting : Run.listing (printOptions profile) (configuredTree text) (.ofText ".") =
      .ok ["solano.yml"] := by
    show (Listing.walk (configuredTree text) (.ofText ".") false).mapError _ = _
    rw [walk_configuredTree]
    rfl
  rw [Run.planFor]
  show (Config.profileName (configuredTree text) (.ofText ".") (some (Text.ofString profile))
    none).mapError _ >>= _ = _
  rw [hname, hload, hlisting]
  rfl

/-- Whether a text holds a configuration, and what comes of its plan passes a test. -/
def buildsFrom (text : String) (name : Text) (test : Except (PlanError RunError) Plan → Bool) :
    Bool :=
  (Config.ofText? text).any fun config => test (Plan.build config name (.ok ["solano.yml"]))

/-- What comes of the plan in the directory passes the test too. -/
theorem exists_planFor (profile : String) (h : buildsFrom text name test = true)
    (hends : '\r' ∉ text.toList) (hname : Config.profileName (configuredTree text) (.ofText ".")
      (some (Text.ofString profile)) none = .ok name) :
    ∃ made, test made = true ∧ Run.planFor (printOptions profile) (configuredTree text)
      (.ofText ".") = made.mapError RunError.ofPlan := by
  obtain ⟨config, hconfig, htest⟩ := Option.any_eq_true _ _ |>.1 h
  exact ⟨_, htest, planFor_configuredTree hconfig hends hname⟩

end

/-- A configuration that selects the files of one kind. -/
def smallText : String := "profiles:\n  d:\n    test_pattern: '*.yml'\n"

/-- A plan for its profile has a JSON text. -/
theorem planFor_small : ∃ plan text,
    Run.planFor (printOptions "d") (configuredTree smallText) (.ofText ".") = .ok plan ∧
      plan.json = .ok text := by
  have hbuilds : buildsFrom smallText "d" (fun made => made.toOption.any fun plan =>
      plan.json.isOk) = true := by decide +kernel
  obtain ⟨made, htest, hplan⟩ := exists_planFor "d" hbuilds (by decide) rfl
  cases made with
  | error e => cases htest
  | ok plan =>
    cases hjson : plan.json with
    | error e =>
      rw [Except.toOption, Option.any_some, hjson] at htest
      cases htest
    | ok text => exact ⟨plan, text, hplan, hjson⟩

/-- There is no plan for a profile that it does not name. -/
theorem planFor_small_of_other :
    Run.planFor (printOptions "e") (configuredTree smallText) (.ofText ".") =
      .error (.config (.noSuchProfile "e")) := by
  have hbuilds : buildsFrom smallText "e" (fun made =>
      match made with
      | .error (.config e) => e = .noSuchProfile "e"
      | _ => false) = true := by decide +kernel
  obtain ⟨made, htest, hplan⟩ := exists_planFor "e" hbuilds (by decide) rfl
  rw [hplan]
  split at htest
  · rw [of_decide_eq_true htest]
    rfl
  · cases htest

/-- **Runs with this configuration.**  The plan for its profile is printed. There is none for
another profile: this is an error, with the code 1. -/
theorem run_ending_configured :
    Request.ofArguments ["-p", "d", "--print"] = .ok (.run (printOptions "d")) ∧
      (run true ["-p", "d", "--print"] (configuredTree smallText)).ending = .code 0 ∧
      (printOptions "d").Succeeds (configuredTree smallText) true
        (run true ["-p", "d", "--print"] (configuredTree smallText)) ∧
    Request.ofArguments ["-p", "e", "--print"] = .ok (.run (printOptions "e")) ∧
      (printOptions "e").Fails (configuredTree smallText) 1 "No such profile 'e'" ∧
      (run true ["-p", "e", "--print"] (configuredTree smallText)).ending = .code 1 ∧
      ∃ log, (run true ["-p", "e", "--print"] (configuredTree smallText)).errors =
        log ++ Run.complain "No such profile 'e'" := by
  have hargs : Request.ofArguments ["-p", "d", "--print"] = .ok (.run (printOptions "d")) :=
    ofArguments_of_toOption (by decide +kernel)
  have hother : Request.ofArguments ["-p", "e", "--print"] = .ok (.run (printOptions "e")) :=
    ofArguments_of_toOption (by decide +kernel)
  have hcode : (run true ["-p", "d", "--print"] (configuredTree smallText)).ending = .code 0 := by
    obtain ⟨plan, text, hplan, hjson⟩ := planFor_small
    obtain ⟨directory, log, -, hrun⟩ := run_of_plan true hargs
      (show (printOptions "d").plan? (configuredTree smallText) = _ from congrArg some hplan)
    have hprint : (printOptions "d").print = true := rfl
    rw [hrun, Run.finish, if_pos hprint, Run.printPlan, hjson]
  have hnoPlan : (printOptions "e").plan? (configuredTree smallText) =
      some (.error (.config (.noSuchProfile "e"))) := congrArg some planFor_small_of_other
  have hfails : (printOptions "e").Fails (configuredTree smallText) 1 "No such profile 'e'" :=
    .rejected hnoPlan (.inl rfl)
  -- What the theorem says of these two runs: the second one has failed, and the first one, which
  -- ends with the code 0, has not.
  obtain ⟨hfailed, -, herrors⟩ :=
    (run_ending true (configuredTree smallText) hother).2.2 1 _ hfails
  refine ⟨hargs, hcode, ?_, hother, hfails, hfailed, herrors⟩
  obtain ⟨-, hsucceeds⟩ | ⟨message, hf⟩ :=
    (run_ending true (configuredTree smallText) hargs).2.1 0 hcode
  · exact hsucceeds
  · cases hf

/-- A configuration with a day in a parallel command. -/
def datedText : String :=
  "profiles:\n  d:\n    tests:\n    - mode: parallel\n      files: x\n      when: 2020-01-31\n"

/-- A directory with this configuration. -/
def datedTree : Tree := configuredTree datedText

/-- What is asked for when its plan is to be printed. -/
def datedOptions : Options := printOptions "d"

/-- The plan for its profile has no JSON text. -/
theorem planFor_dated : ∃ plan,
    Run.planFor datedOptions datedTree (.ofText ".") = .ok plan ∧ plan.json = .error .noForm := by
  have hbuilds : buildsFrom datedText "d" (fun made => made.toOption.any fun plan =>
      plan.json matches .error .noForm) = true := by decide +kernel
  obtain ⟨made, htest, hplan⟩ := exists_planFor "d" hbuilds (by decide) rfl
  cases made with
  | error e => cases htest
  | ok plan =>
    refine ⟨plan, hplan, ?_⟩
    rw [Except.toOption, Option.any_some] at htest
    split at htest
    · assumption
    · cases htest

/-- **An escape.**  The plan is not printed, and no code says so. -/
theorem run_escapes_of_date :
    Request.ofArguments ["-p", "d", "--print"] = .ok (.run datedOptions) ∧
      (run true ["-p", "d", "--print"] datedTree).ending = .escaped .unwritable := by
  have hargs : Request.ofArguments ["-p", "d", "--print"] = .ok (.run datedOptions) :=
    ofArguments_of_toOption (by decide +kernel)
  obtain ⟨plan, hplan, hjson⟩ := planFor_dated
  have hp : datedOptions.plan? datedTree = some (.ok plan) := congrArg some hplan
  obtain ⟨directory, log, -, hrun⟩ := run_of_plan true hargs hp
  have hprint : datedOptions.print = true := rfl
  refine ⟨hargs, ?_⟩
  rw [hrun, Run.finish, if_pos hprint, Run.printPlan, hjson]

end Command
end TestSelection
