/-
# The plan of a run

A run makes its plan while it logs what it does. What is logged decides nothing
(`Run.gives_makePlan`): the plan, or the reason why there is none, is that of the profile that is
resolved, the configuration that is loaded and the files that are listed (`Run.planFor`).

So a run is for the version (`run_of_version`), has no directory to look at (`run_of_noRoot`), ends
with the reason why there is no plan (`run_of_noPlan`), or goes on with its plan (`run_of_plan`).
-/

import TestSelection.Command.Run
import TestSelection.Proofs.Outcome
import Mathlib.Tactic.SplitIfs

namespace TestSelection

/-- Whether the end of a run reports that a file could not be written: what the system says is
reported, but not that the plan has no text, nor that the path is none. -/
def WriteError.isReported : WriteError → Bool
  | .file f => f ≠ .nul
  | .isDirectory _ => true
  | .unwritable => false
  | .noName => false

namespace Command

/-- A reason for no plan as a reason for the run to end. -/
def RunError.ofPlan : PlanError RunError → RunError
  | .config e => .config e
  | .pattern e => .pattern e
  | .listing e => e

/-- A run without a plan ends with the code 1 or 2. -/
theorem RunError.code_cases (e : RunError) : e.code = 1 ∨ e.code = 2 := by
  rw [code]
  cases e.kind with
  | wrongValue | failedCommand => exact .inl rfl
  | refusedFile | unforeseen => exact .inr rfl

/-! ### Logged computations -/

section Gives

variable {α β ε : Type} {x : Logged α} {r : Except RunError α} {f : α → Logged β}
  {g : α → Except RunError β}

/-- A logged computation gives a result, whatever has been logged before. -/
def Gives (x : Logged α) (r : Except RunError α) : Prop :=
  ∀ lines, (x.run.run lines).1 = r

/-- A result gives itself. -/
theorem gives_pure (a : α) : Gives (pure a) (.ok a) := fun _ => rfl

/-- A result that is settled within a run gives itself, its failure being a reason for the run to
end. -/
theorem gives_settle (cause : ε → RunError) (result : Except ε α) :
    Gives (settle cause result) (result.mapError cause) := by
  intro lines
  cases result <;> rfl

/-- What a computation gives decides how it goes on; the lines that it has logged are only handed
over. -/
theorem Gives.bind (hx : Gives x r) (hf : ∀ a, Gives (f a) (g a)) : Gives (x >>= f) (r >>= g) := by
  intro lines
  obtain rfl := hx lines
  -- The bind of the two monads, opened as far as the result of `x`.
  change ((ExceptT.bindCont f (x.run.run lines).1).run (x.run.run lines).2).1 = _
  cases (x.run.run lines).1 with
  | error e => rfl
  | ok a => exact hf a _

/-- What is logged before a computation does not change what it gives. -/
theorem Gives.after_log (level part : String) (text : Text) (hx : Gives x r) :
    Gives (log level part text >>= fun _ => x) r := fun _ => hx _

/-- Nor does what is logged of its result. -/
theorem Gives.before_log (level part : String) (text : α → Text) (hx : Gives x r) :
    Gives (do let a ← x; log level part (text a); return a) r := by
  have h := hx.bind fun a => (gives_pure a).after_log level part (text a)
  rwa [show (r >>= fun a => .ok a) = r from bind_pure r] at h

end Gives

namespace Run

/-- The files that a run lists, or why it cannot. -/
def listing (o : Options) (tree : Tree) (root : Path) : Except RunError (List String) :=
  match o.lister with
  | .walk => (Listing.walk tree root o.respectIgnore).mapError .ignore
  | .find => (Listing.find tree root).mapError .listing

/-- The plan for the profile, the configuration and the files of a tree, below a directory. -/
def planFor (o : Options) (tree : Tree) (root : Path) : Except RunError Plan := do
  let name ← (Config.profileName tree root (o.profile.map Text.ofString)
    (o.defaultProfile.map Text.ofString)).mapError .load
  let (_, config) ← (Config.loadBelow tree root).mapError .load
  (Plan.build config name (listing o tree root)).mapError .ofPlan

variable {o : Options} {tree : Tree} {root : Path}

/-- The files are listed as if nothing were logged, whichever lister is chosen. -/
theorem gives_listFiles : Gives (listFiles o tree root) (listing o tree root) := by
  rw [listFiles, listing]
  cases o.lister with
  | find => exact (gives_settle _ _).after_log _ _ _
  | walk => exact (gives_settle _ _).before_log _ _ _

/-- The steps in which a plan is built. -/
theorem mapError_build (config : Entries) (name : Text) (files : Except RunError (List String)) :
    (Plan.build config name files).mapError .ofPlan = (do
      let outline ← (Outline.ofConfig config name).mapError ofOutline
      let files ← files
      (outline.fill files).mapError .pattern) := by
  rw [Plan.build_eq]
  cases Outline.ofConfig config name with
  | error e => cases e <;> rfl
  | ok outline =>
    cases files with
    | error e => rfl
    | ok files =>
      show ((outline.fill files).mapError _).mapError _ = (outline.fill files).mapError _
      cases outline.fill files <;> rfl

/-- **The plan of a run.**  Whatever is logged, a run makes the plan for its profile, configuration
and files, or fails as these do. -/
theorem gives_makePlan : Gives (makePlan o tree root) (planFor o tree root) := by
  rw [makePlan, planFor]
  -- One line for each step of a run, in its order.
  refine (gives_settle _ _).bind fun name => .after_log _ _ _ ?_
  refine (gives_settle _ _).bind fun (path, config) => .after_log _ _ _ ?_
  dsimp only
  rw [mapError_build]
  refine (gives_settle _ _).bind fun outline => .after_log _ _ _ ?_
  refine gives_listFiles.bind fun files => .after_log _ _ _ ?_
  exact (gives_settle _ _).before_log _ _ _

/-- What a run logs while it makes its plan, as it is printed. -/
def logged (o : Options) (tree : Tree) (root : Path) : Text :=
  if o.verbose then printedLog ((makePlan o tree root).run.run []).2 else []

/-- What becomes of a plan. -/
def finish (o : Options) (tree : Tree) (root : Path) (plan : Plan) (logged : Text) : Outcome :=
  if o.print then printPlan plan tree logged
  else
    match o.output with
    | none => ⟨.escaped .notGiven, "", logged, tree⟩
    | some output => writePlan plan tree root output logged

/-- **The two parts of a run.**  A run ends with the reason why there is no plan, or goes on with
the plan. -/
theorem select_eq {directory : String} (h : o.root = some directory) :
    select o tree =
      match planFor o tree (.ofText directory) with
      | .error e =>
        ⟨.code e.code, "", logged o tree (.ofText directory) ++ complain e.message, tree⟩
      | .ok plan => finish o tree (.ofText directory) plan (logged o tree (.ofText directory)) := by
  have hplan : ((makePlan o tree (.ofText directory)).run.run []).1 =
      planFor o tree (.ofText directory) := gives_makePlan []
  rw [← hplan, select, h]
  rfl

variable {plan : Plan} {output : String}

/-- A plan that is written. -/
theorem writePlan_of_ok (log : Text) (h : (plan.write tree (root.under output)).2 = .ok ()) :
    writePlan plan tree root output log =
      ⟨.code 0, "Generated " ++ output ++ "\n", log, (plan.write tree (root.under output)).1⟩ := by
  rw [writePlan]
  generalize plan.write tree (root.under output) = written at h ⊢
  obtain ⟨after, result⟩ := written
  obtain rfl := h
  rfl

/-- A plan that is not written. -/
theorem writePlan_of_error {e : WriteError} (log : Text)
    (h : (plan.write tree (root.under output)).2 = .error e) :
    if e.isReported then
      writePlan plan tree root output log =
        ⟨.code 2, "", log ++ complain e.message, (plan.write tree (root.under output)).1⟩
    else
      ∃ escape, writePlan plan tree root output log =
        ⟨.escaped escape, "", log, (plan.write tree (root.under output)).1⟩ := by
  rw [writePlan]
  generalize plan.write tree (root.under output) = written at h ⊢
  obtain ⟨after, result⟩ := written
  obtain rfl := h
  cases e with
  | unwritable | noName => exact ⟨_, rfl⟩
  | isDirectory => rfl
  | file f =>
    cases f with
    | nul => exact ⟨_, rfl⟩
    | _ => rfl

end Run

/-! ### Runs with and without a plan -/

/-- What comes of the plan that is asked for; nothing if the version is asked for, or no directory
is given. -/
def Options.plan? (o : Options) (tree : Tree) : Option (Except RunError Plan) :=
  if o.version then none else o.root.map fun directory => Run.planFor o tree (.ofText directory)

/-- A plan is asked for when a directory is given and the version is not asked for. -/
theorem Options.plan?_eq_some_iff {o : Options} {tree : Tree} {r : Except RunError Plan} :
    o.plan? tree = some r ↔ o.version = false ∧ ∃ directory, o.root = some directory ∧
      Run.planFor o tree (.ofText directory) = r := by
  rw [plan?]
  cases o.version with
  | true => exact ⟨nofun, nofun⟩
  | false =>
    refine Iff.trans Option.map_eq_some_iff ?_
    exact ⟨fun h => ⟨rfl, h⟩, And.right⟩

/-- The options of a run with a directory ask for its plan. -/
theorem Options.plan?_of_root {o : Options} (tree : Tree) {directory : String}
    (hv : o.version = false) (hroot : o.root = some directory) :
    o.plan? tree = some (Run.planFor o tree (.ofText directory)) :=
  plan?_eq_some_iff.2 ⟨hv, directory, hroot, rfl⟩

variable {arguments : List String} {o : Options} {tree : Tree}

/-- A run for the version. -/
theorem run_of_version (installed : Bool) (tree : Tree)
    (h : Request.ofArguments arguments = .ok (.run o)) (hv : o.version = true) :
    run installed arguments tree = ⟨.code 0, versionText installed, [], tree⟩ := by
  rw [run, h]
  exact if_pos hv

/-- A run for anything but the version is left to `Run.select`. -/
theorem run_eq_select (installed : Bool) (tree : Tree)
    (h : Request.ofArguments arguments = .ok (.run o)) (hv : o.version = false) :
    run installed arguments tree = Run.select o tree := by
  rw [run, h]
  exact if_neg (hv ▸ Bool.false_ne_true)

/-- A run without a directory. -/
theorem run_of_noRoot (installed : Bool) (tree : Tree)
    (h : Request.ofArguments arguments = .ok (.run o)) (hv : o.version = false)
    (hroot : o.root = none) :
    run installed arguments tree = ⟨.escaped .notGiven, "", [], tree⟩ := by
  rw [run_eq_select installed tree h hv, Run.select, hroot]

/-- A run without a plan. -/
theorem run_of_noPlan (installed : Bool) (h : Request.ofArguments arguments = .ok (.run o))
    {e : RunError} (hp : o.plan? tree = some (.error e)) :
    ∃ log, run installed arguments tree =
      ⟨.code e.code, "", log ++ Run.complain e.message, tree⟩ := by
  obtain ⟨hv, directory, hroot, hplan⟩ := Options.plan?_eq_some_iff.1 hp
  refine ⟨Run.logged o tree (.ofText directory), ?_⟩
  rw [run_eq_select installed tree h hv, Run.select_eq hroot, hplan]

/-- A run with a plan. -/
theorem run_of_plan (installed : Bool) (h : Request.ofArguments arguments = .ok (.run o))
    {plan : Plan} (hp : o.plan? tree = some (.ok plan)) :
    ∃ directory log, o.root = some directory ∧
      run installed arguments tree = Run.finish o tree (.ofText directory) plan log := by
  obtain ⟨hv, directory, hroot, hplan⟩ := Options.plan?_eq_some_iff.1 hp
  refine ⟨directory, Run.logged o tree (.ofText directory), hroot, ?_⟩
  rw [run_eq_select installed tree h hv, Run.select_eq hroot, hplan]

end Command
end TestSelection
