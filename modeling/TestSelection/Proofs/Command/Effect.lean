/-
# What a run changes

A run that does not end with the code 0 changes no file, and at most makes directories on the way to
the output file. A run that ends with it has either nothing to write or puts the JSON text of its
plan, which is made of the tree before the run, into the output file; with `--print` it would have
printed the same text (`run_effect`).
-/

import TestSelection.Proofs.Command.Planning
import TestSelection.Proofs.Command.Printing
import TestSelection.Proofs.Plan.Writing

namespace TestSelection
namespace Command

/-- The path of the output file, if one is to be written: not for the version, nor for a plan that
is printed. -/
def Options.target? (o : Options) : Option Path :=
  if o.version || o.print then none
  else o.root.bind fun root => o.output.map (Path.ofText root).under

/-- There is an output file to write if the plan is not printed and both parts of its path are
given. -/
theorem Options.target?_eq_some_iff {o : Options} {path : Path} :
    o.target? = some path ↔ o.version = false ∧ o.print = false ∧
      ∃ root output, o.root = some root ∧ o.output = some output ∧
        (Path.ofText root).under output = path := by
  rw [target?]
  cases o.version <;> cases o.print <;> simp [Option.bind_eq_some_iff]

/-- The path of the file that some arguments ask to be written. -/
def target? (arguments : List String) : Option Path :=
  match Request.ofArguments arguments with
  | .ok (.run o) => o.target?
  | _ => none

variable {arguments : List String} {o : Options} {tree : Tree} {plan : Plan} {path : Path}

/-- A run whose plan is to be written. -/
theorem run_of_target (installed : Bool) (h : Request.ofArguments arguments = .ok (.run o))
    (hp : o.plan? tree = some (.ok plan)) (ht : o.target? = some path) :
    ∃ directory output log, (Path.ofText directory).under output = path ∧
      run installed arguments tree = Run.writePlan plan tree (.ofText directory) output log := by
  obtain ⟨directory, log, hroot, hrun⟩ := run_of_plan installed h hp
  obtain ⟨-, hprint, directory', output, hroot', houtput, hpath⟩ := Options.target?_eq_some_iff.1 ht
  obtain rfl := Option.some.inj (hroot.symm.trans hroot')
  refine ⟨directory, output, log, hpath, hrun.trans ?_⟩
  rw [Run.finish, hprint, houtput]
  rfl

/-- With `--print` in front, what is printed is the JSON text of the plan. -/
theorem run_print (installed : Bool) (h : Request.ofArguments arguments = .ok (.run o))
    (hp : o.plan? tree = some (.ok plan)) {text : String} (hjson : plan.json = .ok text) :
    ∃ log, run installed ("--print" :: arguments) tree = ⟨.code 0, text, log, tree⟩ := by
  have hargs : Request.ofArguments ("--print" :: arguments) = .ok (.run o.printing) := by
    rw [Request.ofArguments_print, h]
    rfl
  have hp' : o.printing.plan? tree = some (.ok plan) := hp
  have hprint : o.printing.print = true := rfl
  obtain ⟨directory, log, -, hrun⟩ := run_of_plan installed hargs hp'
  refine ⟨log, ?_⟩
  rw [hrun, Run.finish, if_pos hprint, Run.printPlan, hjson]

/-- A run without an output file to write leaves the tree as it is. -/
theorem tree_of_target?_eq_none (installed : Bool) (tree : Tree)
    (h : Request.ofArguments arguments = .ok (.run o)) (ht : o.target? = none) :
    (run installed arguments tree).tree = tree := by
  -- Without an output file, each of the ways in which a run goes hands the tree on.
  cases hv : o.version with
  | true => rw [run_of_version installed tree h hv]
  | false =>
    cases hroot : o.root with
    | none => rw [run_of_noRoot installed tree h hv hroot]
    | some directory =>
      have hp := Options.plan?_of_root tree hv hroot
      cases hmade : Run.planFor o tree (.ofText directory) with
      | error e =>
        obtain ⟨log, hrun⟩ := run_of_noPlan installed h (hmade ▸ hp)
        rw [hrun]
      | ok plan =>
        obtain ⟨_, log, -, hrun⟩ := run_of_plan installed h (hmade ▸ hp)
        rw [hrun, Run.finish]
        cases hprint : o.print with
        | true =>
          rw [if_pos rfl, Run.printPlan]
          cases plan.json <;> rfl
        | false =>
          cases houtput : o.output with
          | none => rfl
          | some output =>
            have hs := Options.target?_eq_some_iff.2
              ⟨hv, hprint, directory, output, hroot, houtput, rfl⟩
            exact absurd (ht.symm.trans hs) nofun

/-- A run that is to write its plan writes it, or leaves all files as they were. -/
theorem written_or_prepared (installed : Bool) (h : Request.ofArguments arguments = .ok (.run o))
    (hp : o.plan? tree = some (.ok plan)) (ht : o.target? = some path) :
    ((run installed arguments tree).ending = .code 0 ∧
      ∃ text, plan.json = .ok text ∧
        Tree.Written path text tree (run installed arguments tree).tree) ∨
    ((run installed arguments tree).ending ≠ .code 0 ∧
      Tree.Prepared path tree (run installed arguments tree).tree) := by
  obtain ⟨directory, output, log, rfl, hrun⟩ := run_of_target installed h hp ht
  rw [hrun]
  obtain ⟨text, hjson, hok, hw⟩ | ⟨e, he, hprep⟩ :=
    plan.write_cases tree ((Path.ofText directory).under output)
  · rw [Run.writePlan_of_ok log hok]
    exact .inl ⟨rfl, text, hjson, hw⟩
  · have hend := Run.writePlan_of_error log he
    split at hend
    · rw [hend]
      exact .inr ⟨nofun, hprep⟩
    · obtain ⟨escape, hend⟩ := hend
      rw [hend]
      exact .inr ⟨nofun, hprep⟩

/-- **What a run changes.**  A run with nothing to write leaves the tree as it is. A run that has a
file to write either ends with the code 0 and has written it, with the text that it would have
printed otherwise, or ends in another way and has changed nothing that was there. -/
theorem run_effect (installed : Bool) (arguments : List String) (tree : Tree) :
    match target? arguments with
    | none => (run installed arguments tree).tree = tree
    | some path =>
      ((run installed arguments tree).ending = .code 0 ∧
        ∃ o plan text, Request.ofArguments arguments = .ok (.run o) ∧
          o.plan? tree = some (.ok plan) ∧ plan.json = .ok text ∧
          Tree.Written path text tree (run installed arguments tree).tree ∧
          (run installed ("--print" :: arguments) tree).ending = .code 0 ∧
          (run installed ("--print" :: arguments) tree).output = text) ∨
      ((run installed arguments tree).ending ≠ .code 0 ∧
        Tree.Prepared path tree (run installed arguments tree).tree) := by
  cases hr : Request.ofArguments arguments with
  | error mistake => simp only [target?, run, hr]
  | ok request =>
    cases request with
    | help => simp only [target?, run, hr]
    | run o =>
      have htarget : target? arguments = o.target? := by rw [target?, hr]
      rw [htarget]
      cases ht : o.target? with
      | none => exact tree_of_target?_eq_none installed tree hr ht
      | some path =>
        obtain ⟨hv, -, directory, -, hroot, -, -⟩ := Options.target?_eq_some_iff.1 ht
        have hp := Options.plan?_of_root tree hv hroot
        cases hmade : Run.planFor o tree (.ofText directory) with
        | error e =>
          obtain ⟨log, hrun⟩ := run_of_noPlan installed hr (hmade ▸ hp)
          rw [hrun]
          have hcode : e.code ≠ 0 := by
            have := e.code_cases
            omega
          exact .inr ⟨fun h => hcode (Ending.code.inj h), .refl path tree⟩
        | ok plan =>
          rw [hmade] at hp
          obtain ⟨hcode, text, hjson, hw⟩ | h := written_or_prepared installed hr hp ht
          · obtain ⟨log, hrun⟩ := run_print installed hr hp hjson
            refine .inl ⟨hcode, o, plan, text, rfl, hp, hjson, hw, ?_, ?_⟩
            · rw [hrun]
            · rw [hrun]
          · exact .inr h

end Command
end TestSelection
