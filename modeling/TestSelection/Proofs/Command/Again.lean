/-
# Running again

A run writes its plan into the very tree that it looks at, so the next run with the same arguments
looks at another tree. It still makes the same plan, if the output file is none that a run reads and
no pattern of the configuration picks it (`Run.planFor_of_remade`). So the second run writes the
same text to the same place (`run_twice`).

There are exceptions, for the second run walks through what the first one made. The new directories
may be nested too deeply. And if the directory that is looked at is given by a path that is almost
too long, and the output file by a short one from the top, then the path by which the second run
comes to the output file, or to the ignore file of a new directory, may be too long. The second run
fails there (`run_fails_again`).
-/

import TestSelection.Proofs.Command.Ending
import TestSelection.Proofs.Command.Replanning
import TestSelection.Proofs.Plan.Rewriting
import TestSelection.Proofs.Tree.Detours

namespace TestSelection
namespace Command

open TestSelection.Listing (Comes Fits deepestWalk opens)
open TestSelection.Tree (IsEntryName Remade leads_longDirectory longDirectory names_longDirectory
  textFault?_longDirectory)

variable {o : Options} {tree : Tree} {p r : Place} {plan : Plan} {arguments : List String}
  {directory output : String}

/-- A run that is to write its plan, once there is a plan. -/
theorem run_eq_writePlan (installed : Bool) (hargs : Request.ofArguments arguments = .ok (.run o))
    (hversion : o.version = false) (hprint : o.print = false) (hroot : o.root = some directory)
    (houtput : o.output = some output)
    (hplan : Run.planFor o tree (.ofText directory) = .ok plan) :
    ∃ log, run installed arguments tree =
      Run.writePlan plan tree (.ofText directory) output log := by
  have hp : o.plan? tree = some (.ok plan) :=
    Options.plan?_eq_some_iff.2 ⟨hversion, directory, hroot, hplan⟩
  obtain ⟨other, log, hother, hrun⟩ := run_of_plan installed hargs hp
  obtain rfl := Option.some.inj (hroot.symm.trans hother)
  refine ⟨log, ?_⟩
  rw [hrun, Run.finish, hprint, houtput]
  rfl

/-- A run that ends with the code 0 has made a plan and written it. -/
theorem exists_plan_of_code (installed : Bool)
    (hargs : Request.ofArguments arguments = .ok (.run o)) (hversion : o.version = false)
    (hprint : o.print = false) (hroot : o.root = some directory) (houtput : o.output = some output)
    (hcode : (run installed arguments tree).ending = .code 0) :
    ∃ plan, Run.planFor o tree (.ofText directory) = .ok plan ∧
      plan.write tree ((Path.ofText directory).under output) =
        ((run installed arguments tree).tree, .ok ()) ∧
      (run installed arguments tree).output = "Generated " ++ output ++ "\n" := by
  -- Without a plan the code is 1 or 2, and with one that is not written it is 2, or there is none.
  cases hplan : Run.planFor o tree (.ofText directory) with
  | error e =>
    have hp : o.plan? tree = some (.error e) :=
      Options.plan?_eq_some_iff.2 ⟨hversion, directory, hroot, hplan⟩
    obtain ⟨log, hrun⟩ := run_of_noPlan installed hargs hp
    rw [hrun] at hcode
    have hzero : e.code = 0 := Ending.code.inj hcode
    have hcases := e.code_cases
    omega
  | ok plan =>
    obtain ⟨log, hrun⟩ :=
      run_eq_writePlan installed hargs hversion hprint hroot houtput hplan
    rw [hrun] at hcode ⊢
    refine ⟨plan, rfl, ?_⟩
    cases hw : (plan.write tree ((Path.ofText directory).under output)).2 with
    | ok =>
      rw [Run.writePlan_of_ok log hw]
      exact ⟨Prod.ext rfl hw, rfl⟩
    | error e =>
      have hend := Run.writePlan_of_error log hw
      split at hend
      · rw [hend] at hcode
        cases hcode
      · obtain ⟨escape, hend⟩ := hend
        rw [hend] at hcode
        cases hcode

/-- The output file is below the directory that is looked at, or below the top. -/
theorem exists_base {path : Path} (hpath : (Path.ofText directory).under output = path)
    (htext : Tree.textFault? path.text = none) (hroot : tree.Leads true (.ofText directory) r)
    (hdir : tree.item? r = some .directory) :
    ∃ base b, path = base.below (Path.ofText output).names ∧ tree.Leads true base b ∧
      tree.item? b = some .directory ∧ (∀ name ∈ base.names, '/' ∉ name.toList) ∧
      ((Path.ofText output).slashes = 0 → base = .ofText directory ∧ b = r) := by
  by_cases hrelative : (Path.ofText output).slashes = 0
  · refine ⟨.ofText directory, r, ?_, hroot, hdir, fun name hm => (Path.of_mem_ofText hm).1,
      fun _ => ⟨rfl, rfl⟩⟩
    rw [← hpath, Path.under_eq_below hrelative]
  · have hshape :
        path = Path.below ⟨(Path.ofText output).slashes, []⟩ (Path.ofText output).names := by
      rw [← hpath, Path.under, Path.join, if_neg hrelative]
      rfl
    have htop : tree.item? [] = some .directory := by
      by_cases hr : r = []
      · rwa [hr] at hdir
      · exact Node.item?_eq_directory_of_append hr hdir
    rw [hshape] at htext
    refine ⟨_, [], hshape, ⟨Tree.textFault?_of_below htext, ?_⟩, htop, nofun,
      fun h => absurd h hrelative⟩
    rw [if_neg hrelative]
    exact .done

/-- A plan that was written to a path below a directory left room for the ignore files of the
directories on the way. -/
theorem textFault?_ignoreFile_of_write {after : Tree} {root : Path} {names rest : List String}
    (hw : plan.write tree (root.below (names ++ rest)) = (after, .ok ())) (hne : rest ≠ []) :
    Tree.textFault? ((root.below names).under Ignore.fileName).text = none := by
  have hbesides := Plan.textFault?_besides_of_write hw
  rw [← Path.below_below] at hbesides
  rw [Ignore.under_fileName]
  exact Tree.textFault?_of_besides hne hbesides

/-- **A second run changes nothing.**  In a tree without links, let a run that lists by a walk end
with the code 0, after it has written its plan to a path without `..`. If the output file is none
that the run reads, and no pattern picks it where it is below the directory that is looked at, then
the next run with the same arguments prints the same, ends with the code 0, and leaves the tree as
it is.

The next run walks through the directories that this one made, so these must not be nested too
deeply (`shallow`). An output file that is given from the top may be below the directory though its
path does not tell so. Then the paths by which the next run comes to the file, and to the ignore
files of the new directories, are none that this run tried, and they must not be too long (`room`).
-/
theorem run_twice (installed : Bool) (hplain : tree.IsPlain)
    (hargs : Request.ofArguments arguments = .ok (.run o)) (hwalk : o.lister = .walk)
    (hversion : o.version = false) (hprint : o.print = false) (hroot : o.root = some directory)
    (houtput : o.output = some output) (hup : ".." ∉ (Path.ofText output).names)
    (hcode : (run installed arguments tree).ending = .code 0)
    (hplace : (run installed arguments tree).tree.Leads false
      ((Path.ofText directory).under output) p)
    (unread : ∀ path, Run.Reads o (.ofText directory) path →
      ¬(run installed arguments tree).tree.Leads true path p)
    (unpicked : ∀ outline place names, Run.outlineFor o tree (.ofText directory) = .ok outline →
      tree.Leads true (.ofText directory) place → p = place ++ names →
        ¬outline.Picks (Listing.joined names))
    (shallow : ∀ place names rest, tree.Leads true (.ofText directory) place → rest ≠ [] →
      p = place ++ names ++ rest → tree.item? (place ++ names) = none →
        Comes (.ofText directory) names → names.length ≤ deepestWalk)
    (room : (Path.ofText output).slashes ≠ 0 → ∀ place names,
      tree.Leads true (.ofText directory) place → Comes (.ofText directory) names →
        (p = place ++ names → Fits (.ofText directory) names) ∧
        (o.respectIgnore = true → opens (.ofText directory) names = true → ∀ rest, rest ≠ [] →
          p = place ++ names ++ rest → tree.item? (place ++ names) = none →
            Fits (.ofText directory) (names ++ [Ignore.fileName]))) :
    (run installed arguments (run installed arguments tree).tree).ending = .code 0 ∧
      (run installed arguments (run installed arguments tree).tree).output =
        (run installed arguments tree).output ∧
      (run installed arguments (run installed arguments tree).tree).tree =
        (run installed arguments tree).tree := by
  obtain ⟨plan, hplan, hwrite, hprinted⟩ :=
    exists_plan_of_code installed hargs hversion hprint hroot houtput hcode
  rw [hprinted]
  generalize (run installed arguments tree).tree = after at hwrite hplace unread ⊢
  -- The file is at a place below a directory `base` that leads the same way in both trees: the one
  -- that is looked at, or the top.
  obtain ⟨r, hr, hdir⟩ := Run.exists_root_of_planFor hplan
  obtain ⟨base, b, hpath, hbase, hdirb, hslash, hrelative⟩ :=
    exists_base rfl hplace.isText hr hdir
  have hnames : ∀ name ∈ ((Path.ofText directory).under output).names, '/' ∉ name.toList := by
    rw [hpath]
    intro name hm
    rcases List.mem_append.1 hm with hm | hm
    · exact hslash name hm
    · exact (Path.of_mem_ofText hm).1
  -- Where the plan stands already, writing it once more leaves the tree as it is. What remains is
  -- that the second run makes the same plan.
  have hagain := plan.write_again hplain hnames hwrite
  have hwrite' := hwrite
  rw [hpath] at hwrite' hplace hnames
  obtain ⟨hremade, hleads⟩ := plan.remade_of_write hplain hbase hdirb hnames
    (fun hm => (Path.of_mem_ofText hm).2 rfl) hup hwrite'
  obtain rfl := hplace.unique hleads
  -- A path that this run has tried is short enough for the next one too. For an output file from
  -- the top, `room` says so.
  have hfile : ∀ names, b ++ (Path.ofText output).names = r ++ names →
      Comes (.ofText directory) names → Fits (.ofText directory) names := by
    intro names hp hcomes
    by_cases hfront : (Path.ofText output).slashes = 0
    · obtain ⟨rfl, rfl⟩ := hrelative hfront
      rw [← List.append_cancel_left hp]
      exact hplace.isText
    · exact (room hfront r names hr hcomes).1 hp
  have hignore : ∀ names rest, rest ≠ [] → b ++ (Path.ofText output).names = r ++ names ++ rest →
      tree.item? (r ++ names) = none → Comes (.ofText directory) names → o.respectIgnore = true →
        opens (.ofText directory) names = true →
          Fits (.ofText directory) (names ++ [Ignore.fileName]) := by
    intro names rest hne hp hnone hcomes hrespect hopen
    by_cases hfront : (Path.ofText output).slashes = 0
    · obtain ⟨rfl, rfl⟩ := hrelative hfront
      rw [List.append_assoc] at hp
      rw [List.append_cancel_left hp] at hwrite'
      exact Listing.fits_fileName_iff.2 (textFault?_ignoreFile_of_write hwrite' hne)
    · exact (room hfront r names hr hcomes).2 hrespect hopen rest hne hp hnone
  have hplan' : Run.planFor o after (.ofText directory) = .ok plan :=
    Run.planFor_of_remade hremade hr hdir unread hwalk hfile
      (fun names rest hne hp hnone hcomes => ⟨shallow r names rest hr hne hp hnone hcomes,
        hignore names rest hne hp hnone hcomes⟩)
      (fun outline names ho hj => unpicked outline r names ho hr hj) hplan
  obtain ⟨log, hrun⟩ :=
    run_eq_writePlan installed hargs hversion hprint hroot houtput hplan'
  have hok : (plan.write after ((Path.ofText directory).under output)).2 = .ok () := by
    rw [hagain]
  rw [hrun, Run.writePlan_of_ok log hok, hagain]
  exact ⟨rfl, rfl, rfl⟩

/-! ### Two runs in a small tree -/

/-- A directory with a configuration and with a hidden directory. -/
def smallTree : Tree := ⟨.dir [(".d", .dir []), ("solano.yml", .file smallText.toUTF8)], []⟩

/-- The same directory with a new one in it. -/
def smallTreeWith (reports : List (String × Node)) : Tree :=
  ⟨.dir [(".d", .dir []), ("reports", .dir reports), ("solano.yml", .file smallText.toUTF8)], []⟩

/-- The same directory after a plan with a text was written into the new one. -/
def writtenTree (text : String) : Tree := smallTreeWith [("plan.json", .file text.toUTF8)]

/-- The arguments that ask for the plan of the one profile, with or without regard to ignore
files. -/
def smallArguments (respectIgnore : Bool) (directory output : String) : List String :=
  ["-p", "d"] ++ (if respectIgnore then ["--respect-gitignore"] else []) ++
    ["-r", directory, "-o", output]

/-- What they ask for. -/
def smallOptions (respectIgnore : Bool) (directory output : String) : Options :=
  { Options.initial with
    profile := some "d", respectIgnore, root := some directory, output := some output }

/-- Arguments are looked at one by one. -/
theorem words_cons {word : String} {first : Word} {rest : List String} {others : List Word}
    (h : word ≠ "--") (hword : Word.ofArgument word = .ok first) (hrest : words rest = .ok others) :
    words (word :: rest) = .ok (first :: others) := by
  rw [words, hword, hrest]
  · rfl
  · exact h

/-- The arguments are read whatever the directory and the output file are called, as long as they do
not look like options. -/
theorem ofArguments_small (respectIgnore : Bool) (hd : directory.toList.head? ≠ some '-')
    (ho : output.toList.head? ≠ some '-') :
    Request.ofArguments (smallArguments respectIgnore directory output) =
      .ok (.run (smallOptions respectIgnore directory output)) := by
  have hne : ∀ text : String, text.toList.head? ≠ some '-' → text ≠ "--" := by
    rintro _ h rfl
    exact h rfl
  have hplain : ∀ text : String, text.toList.head? ≠ some '-' →
      Word.ofArgument text = .ok (.plain text) := fun text h => by
    rw [Word.ofArgument, if_pos h]
  have hoption : ∀ (name : String) (flag : Flag), Flag.ofName? name = some flag →
      name.toList.head? = some '-' →
        Word.ofArgument name = .ok (.option flag (isShort name) none) := by
    intro name flag hf hn
    rw [Word.ofArgument, if_neg fun h => h hn, hf]
  have hlast : words ["-r", directory, "-o", output] =
      .ok [.option .root true none, .plain directory, .option .output true none, .plain output] :=
    words_cons (by decide) (hoption _ _ rfl rfl) <|
    words_cons (hne _ hd) (hplain _ hd) <|
    words_cons (by decide) (hoption _ _ rfl rfl) <|
    words_cons (hne _ ho) (hplain _ ho) rfl
  have hwords : words (smallArguments respectIgnore directory output) =
      .ok ([.option .profile true none, .plain "d"] ++
        (if respectIgnore then [.option .respectIgnore false none] else []) ++
          [.option .root true none, .plain directory, .option .output true none,
            .plain output]) := by
    refine words_cons (by decide) (hoption _ _ rfl rfl) ?_
    refine words_cons (by decide) (hplain _ (by decide)) ?_
    cases respectIgnore with
    | false => exact hlast
    | true => exact words_cons (by decide) (hoption _ _ rfl rfl) hlast
  have hdirectory : directory ≠ "--" := hne _ hd
  have houtput : output ≠ "--" := hne _ ho
  rw [Request.ofArguments, hwords]
  cases respectIgnore <;>
  · simp only [Bool.false_eq_true, if_true, if_false, List.cons_append, List.nil_append, bind,
      Except.bind, Options.ofWords, cluster, Flag.takesValue, Options.give, Options.turnAllOn,
      Options.setValue, hdirectory, houtput, Option.map, List.foldlM]
    rfl

/-- There are no links in the tree, and its names are such as a directory has. -/
theorem isPlain_smallTree : smallTree.IsPlain := by
  refine ⟨by decide, Node.isLinkless_dir ?_⟩
  rw [List.forall_mem_cons, List.forall_mem_singleton]
  exact ⟨Node.isLinkless_dir nofun, Node.isLinkless_file _⟩

/-- Whether a configuration asks for a plan with a JSON text, and does not pick the file in the new
directory. -/
def leavesPlan (config : Entries) : Bool :=
  match Outline.ofConfig config "d" with
  | .ok outline =>
    outline.commands.isEmpty && !outline.selection.evaluate "reports/plan.json" &&
      (outline.fill ["solano.yml"]).toOption.any fun plan => plan.json.isOk
  | .error _ => false

/-- What the configuration asks for does not pick the file in the new directory. -/
theorem exists_smallOutline : ∃ config outline plan text,
    Config.ofText? smallText = some config ∧ Outline.ofConfig config "d" = .ok outline ∧
      ¬outline.Picks "reports/plan.json" ∧ outline.fill ["solano.yml"] = .ok plan ∧
        plan.json = .ok text := by
  have hcheck : (Config.ofText? smallText).any leavesPlan = true := by decide +kernel
  obtain ⟨config, hconfig, hleaves⟩ := (Option.any_eq_true _ _).1 hcheck
  rw [leavesPlan] at hleaves
  split at hleaves
  · next outline ho =>
    rw [Bool.and_eq_true, Bool.and_eq_true, Bool.not_eq_true'] at hleaves
    obtain ⟨⟨hcommands, hselection⟩, hfills⟩ := hleaves
    obtain ⟨plan, hp, hjson⟩ := (Option.any_eq_true _ _).1 hfills
    have hunpicked : ¬outline.Picks "reports/plan.json" := by
      rintro ⟨s, hs, hpicks⟩
      cases hs with
      | tests => cases hselection.symm.trans hpicks
      | command asked =>
        rw [List.isEmpty_iff.1 hcommands] at asked
        cases asked
    cases hf : outline.fill ["solano.yml"] with
    | error e =>
      rw [hf] at hp
      cases hp
    | ok other =>
      rw [hf] at hp
      obtain rfl := Option.some.inj hp
      cases hj : other.json with
      | error e =>
        rw [hj] at hjson
        cases hjson
      | ok text => exact ⟨config, outline, other, text, hconfig, ho, hunpicked, hf, hj⟩
  · cases hleaves

section

variable {root : Path} {slashes : Nat} {text : String} {respectIgnore : Bool}

/-- There are no rules in the directory itself. -/
theorem loader_nil {tree : Tree} (respectIgnore : Bool) (h : tree.IsPlain)
    (hroot : tree.Leads true root []) (hdir : tree.item? [] = some .directory)
    (hnone : tree.item? [Ignore.fileName] = none) (hroom : Fits root [Ignore.fileName]) :
    Listing.loader tree root respectIgnore [] = .ok none := by
  cases respectIgnore with
  | false => rfl
  | true =>
    show Ignore.load tree (root.below []) = _
    refine Ignore.load_of_missing h.linkless hroot hdir nofun ?_ hnone
    exact Listing.fits_fileName_iff.1 hroom

/-- The directory that a walk starts from is opened by the path that leads to it. -/
theorem opens_nil (hroot : Tree.textFault? root.text = none) : opens root [] = true := by
  have htext : Listing.openedText root [] = root.text := by
    rw [Listing.openedText, if_neg fun h => h.2.2 rfl, Path.below_nil]
  rw [opens, htext, hroot]
  rfl

/-- A walk in the directory lists the configuration. -/
theorem walk_smallTree (respectIgnore : Bool) (hroot : smallTree.Leads true root [])
    (hroom : ∀ name ∈ ["solano.yml", Ignore.fileName], Fits root [name]) :
    Listing.walk smallTree root respectIgnore = .ok ["solano.yml"] := by
  have hload : (Listing.view smallTree root respectIgnore).load [] = .ok none :=
    loader_nil respectIgnore isPlain_smallTree hroot rfl rfl (hroom _ (by decide))
  have hvisit : Listing.visit (Listing.view smallTree root respectIgnore) [] []
      smallTree.top = .ok [["solano.yml"]] := by
    refine Listing.visit_dir_eq_ok_iff.2 ⟨⟨Nat.zero_le _, fun _ => ⟨none, hload⟩, fun _ => ?_⟩, ?_⟩
    · rw [List.forall_mem_cons, List.forall_mem_singleton]
      exact ⟨nofun, fun _ _ => hroom _ (by decide)⟩
    · rw [Listing.view_opens, if_pos (opens_nil hroot.isText), Listing.ownRules_of_eq_ok hload]
      rfl
  rw [Listing.walk_of_visit hroot.resolve_eq hvisit]
  exact congrArg _ (List.mergeSort_singleton _)

/-- A plan is written into a new directory. -/
theorem write_smallTree (hslashes : slashes ≤ 1) (hjson : plan.json = .ok text) :
    plan.write smallTree ⟨slashes, ["reports", "plan.json"]⟩ = (writtenTree text, .ok ()) := by
  have htext : ∀ names ∈ [["reports"], ["reports", "plan.json"],
      ["reports", "plan.json.partial.0123456789abc"]],
        Tree.textFault? (Path.text ⟨slashes, names⟩) = none := by
    obtain rfl | rfl : slashes = 0 ∨ slashes = 1 := by omega
    · decide
    · decide
  have hmade : smallTree.makeDirectories ⟨slashes, ["reports"]⟩ = (smallTreeWith [], none) := by
    have hadd : smallTree.add ⟨slashes, ["reports"]⟩ (.dir []) = .ok (smallTreeWith []) := by
      refine Tree.add_eq_ok_iff.2 ⟨["reports"], ⟨htext _ (by decide), ?_⟩, rfl, rfl⟩
      have hhere : (if slashes = 0 then smallTree.here else []) = [] := ite_self _
      rw [hhere]
      exact .missing ⟨by decide, by decide, by decide⟩ rfl rfl
    have hensure : smallTree.ensureDirectory ⟨slashes, ["reports"].reverse⟩ =
        (smallTreeWith [], none) := by
      rw [List.reverse_singleton, Tree.ensureDirectory, Tree.makeDirectory, hadd]
    show smallTree.makeAll slashes ["reports"] = _
    rw [Tree.makeAll, hensure]
  have hleads : ∀ last, ∀ name, IsEntryName name →
      Tree.textFault? (Path.text ⟨slashes, ["reports", name]⟩) = none →
        (smallTreeWith []).Leads last ⟨slashes, ["reports", name]⟩ ["reports", name] := by
    intro last name hname ht
    have hhere : (if slashes = 0 then (smallTreeWith []).here else []) = [] := ite_self _
    refine ⟨ht, ?_⟩
    rw [hhere]
    exact .down ⟨by decide, by decide, by decide⟩ rfl rfl (by rintro _ ⟨⟩)
      (.missing hname rfl rfl)
  have hplace := fun last =>
    hleads last "plan.json" ⟨by decide, by decide, by decide⟩ (htext _ (by decide))
  have hbesides := hleads false "plan.json.partial.0123456789abc"
    ⟨by decide, by decide, by decide⟩ (htext _ (by decide))
  have hnew : (smallTreeWith []).item? ["reports", "plan.json"] ≠ some .directory := by
    rintro ⟨⟩
  refine Plan.write_eq_ok_iff.2 ⟨List.cons_ne_nil _ _, _, text, hmade, hjson,
    ⟨_, hbesides.resolve_eq⟩, ?_, Tree.replace_eq_ok_iff.2 ⟨_, hplace false, hnew, rfl⟩⟩
  rw [Tree.isDir, Tree.node?, (hplace true).resolve_eq]
  rfl

/-- What is left after the plan was written is the tree with another file. -/
theorem remade_smallTree (hslashes : slashes ≤ 1) (hjson : plan.json = .ok text) :
    Remade ["reports", "plan.json"] smallTree (writtenTree text) ∧
      (writtenTree text).Leads false ⟨slashes, ["reports", "plan.json"]⟩
        ["reports", "plan.json"] := by
  have hbase : smallTree.Leads true ⟨slashes, []⟩ [] := by
    have hhere : (if slashes = 0 then smallTree.here else []) = [] := ite_self _
    refine ⟨?_, by rw [hhere]; exact .done⟩
    obtain rfl | rfl : slashes = 0 ∨ slashes = 1 := by omega
    · decide
    · decide
  exact plan.remade_of_write isPlain_smallTree hbase rfl
    (by decide : ∀ name ∈ ["reports", "plan.json"], _) (by decide) (by decide)
    (write_smallTree hslashes hjson)

/-- The file in the new directory is none that a run reads. -/
theorem not_leads_of_reads {after : Tree} (h : after.IsPlain) (hroot : after.Leads true root [])
    (hdir : after.item? [] = some .directory) :
    ∀ path, Run.Reads (smallOptions respectIgnore directory output) root path →
      ¬after.Leads true path ["reports", "plan.json"] := by
  have hlinks := h.linkless
  intro path hreads hl
  cases hreads with
  | @config s search =>
    obtain ⟨hbelow, -, hnames⟩ := @Run.under_eq_below root s (List.mem_cons_of_mem _ search)
    rw [hbelow] at hl
    have hother : ∀ s ∈ Config.searchPaths, ["reports", "plan.json"] ≠ (Path.ofText s).names := by
      decide
    exact hother s search (hroot.eq_append_of_below hlinks hdir hnames hl)
  | planVariables blank =>
    have hasked : ¬(Text.strip "d").isEmpty = true := by decide
    exact hasked blank
  | ignore names =>
    rw [Ignore.under_fileName] at hl
    obtain ⟨q, hq, hd⟩ := hl.exists_root (List.cons_ne_nil _ _)
    have hname : ∀ name ∈ [Ignore.fileName], IsEntryName name :=
      List.forall_mem_singleton.2 ⟨by decide, by decide, by decide⟩
    have hlast := congrArg List.getLast? (hq.eq_append_of_below hlinks hd hname hl)
    rw [List.getLast?_concat] at hlast
    exact absurd hlast (by decide)

end

/-- What the first run in the small tree does, for all ways to write the directory and the output
file that leave room. -/
theorem run_smallTree (respectIgnore : Bool) {slashes : Nat}
    (hd : directory.toList.head? ≠ some '-') (ho : output.toList.head? ≠ some '-')
    (hroot : smallTree.Leads true (.ofText directory) [])
    (hroom : ∀ name ∈ ["solano.yml", Ignore.fileName], Fits (.ofText directory) [name])
    (hslashes : slashes ≤ 1)
    (hpath : (Path.ofText directory).under output = ⟨slashes, ["reports", "plan.json"]⟩) :
    ∃ outline text,
      Run.outlineFor (smallOptions respectIgnore directory output) smallTree (.ofText directory) =
        .ok outline ∧ ¬outline.Picks "reports/plan.json" ∧
      (run true (smallArguments respectIgnore directory output) smallTree).ending = .code 0 ∧
      (run true (smallArguments respectIgnore directory output) smallTree).tree =
        writtenTree text ∧
      Remade ["reports", "plan.json"] smallTree (writtenTree text) ∧
      (writtenTree text).Leads false ((Path.ofText directory).under output)
        ["reports", "plan.json"] := by
  obtain ⟨config, outline, plan, text, hconfig, houtline, hpicks, hfill, hjson⟩ :=
    exists_smallOutline
  -- The configuration is read by a short path, whatever the directory is called, and so the outline
  -- and the plan are those of `smallText`.
  have hload := Config.loadBelow_of_ofText? isPlain_smallTree.linkless hroot rfl
    (hroom _ (by decide)) rfl (by decide) hconfig
  have hask : Run.outlineFor (smallOptions respectIgnore directory output) smallTree
      (.ofText directory) = .ok outline := by
    have hname : Config.profileName smallTree (.ofText directory) (some "d") none = .ok "d" := rfl
    rw [Run.outlineFor]
    show ((Config.profileName smallTree (.ofText directory) (some "d") none).mapError _ >>= _) = _
    rw [hname, hload]
    show (Outline.ofConfig config "d").mapError _ = _
    rw [houtline]
    rfl
  have hplan : Run.planFor (smallOptions respectIgnore directory output) smallTree
      (.ofText directory) = .ok plan := by
    have hlisting : Run.listing (smallOptions respectIgnore directory output) smallTree
        (.ofText directory) = .ok ["solano.yml"] := by
      show (Listing.walk smallTree (.ofText directory) respectIgnore).mapError _ = _
      rw [walk_smallTree respectIgnore hroot hroom]
      rfl
    rw [Run.planFor_eq, hask, hlisting]
    show (outline.fill ["solano.yml"]).mapError _ = _
    rw [hfill]
    rfl
  obtain ⟨log, hrun⟩ :=
    run_eq_writePlan true (ofArguments_small respectIgnore hd ho) rfl rfl rfl rfl hplan
  have hwrite := write_smallTree hslashes hjson
  obtain ⟨hremade, hleads⟩ := remade_smallTree hslashes hjson
  rw [← hpath] at hwrite hleads
  have hok : (plan.write smallTree ((Path.ofText directory).under output)).2 = .ok () := by
    rw [hwrite]
  rw [hrun, Run.writePlan_of_ok log hok, hwrite]
  exact ⟨outline, text, hask, hpicks, rfl, rfl, hremade, hleads⟩

/-- The new file is not picked, wherever it is looked for from. -/
theorem not_picks_smallTree {root : Path} {outline : Outline}
    (houtline : Run.outlineFor o smallTree root = .ok outline)
    (hroot : smallTree.Leads true root []) (hpicks : ¬outline.Picks "reports/plan.json") :
    ∀ other place names, Run.outlineFor o smallTree root = .ok other →
      smallTree.Leads true root place → ["reports", "plan.json"] = place ++ names →
        ¬other.Picks (Listing.joined names) := by
  intro other place names hother hplace hnames
  obtain rfl := Except.ok.inj (houtline.symm.trans hother)
  obtain rfl := hroot.unique hplace
  obtain rfl : ["reports", "plan.json"] = names := hnames
  exact hpicks

/-- The plan is written into a new directory, twice. -/
theorem run_twice_small :
    smallTree.IsPlain ∧
    (run true (smallArguments true "." "reports/plan.json") smallTree).ending = .code 0 ∧
    (run true (smallArguments true "." "reports/plan.json")
      (run true (smallArguments true "." "reports/plan.json") smallTree).tree).tree =
        (run true (smallArguments true "." "reports/plan.json") smallTree).tree := by
  have hpath : Path.ofText "." = ⟨0, []⟩ := by decide
  have hroot : smallTree.Leads true (.ofText ".") [] := by
    rw [hpath]
    exact ⟨by decide, .done⟩
  obtain ⟨outline, text, houtline, hpicks, hcode, htree, hremade, hleads⟩ :=
    run_smallTree true (by decide) (by decide) hroot (by rw [hpath]; decide) (Nat.zero_le 1)
      (by rw [hpath]; decide : (Path.ofText ".").under "reports/plan.json" = _)
  refine ⟨isPlain_smallTree, hcode, ?_⟩
  refine (run_twice true isPlain_smallTree (ofArguments_small true (by decide) (by decide)) rfl rfl
    rfl rfl rfl (by decide) hcode (p := ["reports", "plan.json"]) ?_ ?_ ?_ ?_ ?_).2.2
  · rw [htree]
    exact hleads
  · rw [htree]
    exact not_leads_of_reads hremade.plain_after (hremade.leads hroot) rfl
  · exact not_picks_smallTree houtline hroot hpicks
  · -- the path of the file has two names, so no directory on the way is nested deeply
    intro place names rest hplace _ hnames _ _
    have hlength := congrArg List.length hnames
    rw [List.length_append, List.length_append] at hlength
    exact Nat.le_trans (by simp at hlength; omega) (by decide : 2 ≤ deepestWalk)
  · have hrelative : (Path.ofText "reports/plan.json").slashes = 0 := by decide
    exact fun h => absurd hrelative h

/-- The arguments that ask for a plan in a new directory below it, which is given from the top. -/
def longArguments (respectIgnore : Bool) : List String :=
  smallArguments respectIgnore longDirectory "/reports/plan.json"

/-- What they ask for. -/
def longOptions (respectIgnore : Bool) : Options :=
  smallOptions respectIgnore longDirectory "/reports/plan.json"

/-- A walk through the new directory fails where the path of the file in it is too long, if it gets
so far. -/
theorem visit_writtenTree {v : Listing.View} {text : String} (hopen : v.opens [] = true)
    (hinner : v.opens ["reports"] = true) (hload : v.load [] = .ok none)
    (hloads : v.load ["reports"] = .ok none ∨
      v.load ["reports"] = .error (.file .nameTooLong))
    (hfits : v.fault? ["solano.yml"] = none)
    (hfull : v.fault? ["reports", "plan.json"] = some .nameTooLong) :
    Listing.visit v [] [] (writtenTree text).top = .error (.file .nameTooLong) := by
  have hcheck : v.check ["reports"] [("plan.json", .file text.toUTF8)] =
      .error (.file .nameTooLong) := by
    have hshown : Listing.isHidden "plan.json" = false := by decide
    have hfault : v.entryFault? ["reports"] ("plan.json", .file text.toUTF8) =
        some .nameTooLong := by
      rw [Listing.View.entryFault?, hshown]
      exact hfull
    rw [Listing.View.check, List.findSome?_cons, hfault]
  -- The walk fails in the new directory: at the rules there, if they are asked for, or at the file.
  have hreports : Listing.visit v [] ["reports"] (.dir [("plan.json", .file text.toUTF8)]) =
      .error (.file .nameTooLong) := by
    rw [Listing.visit, if_neg (by decide), if_pos hinner]
    rcases hloads with h | h
    · rw [h]
      show (v.check ["reports"] [("plan.json", .file text.toUTF8)] >>= fun _ => _) = _
      rw [hcheck]
      rfl
    · rw [h]
      rfl
  have hentries : ∀ entries, Listing.visitEntries v [] []
      (("reports", .dir [("plan.json", .file text.toUTF8)]) :: entries) =
        .error (.file .nameTooLong) := by
    intro entries
    show (Listing.visit v [] ["reports"] (.dir [("plan.json", .file text.toUTF8)]) >>= _) = _
    rw [hreports]
    rfl
  have htop : v.check [] [(".d", .dir []), ("reports", .dir [("plan.json", .file text.toUTF8)]),
      ("solano.yml", .file smallText.toUTF8)] = .ok () := by
    rw [Listing.check_eq_ok_iff, List.forall_mem_cons, List.forall_mem_cons,
      List.forall_mem_singleton]
    exact ⟨fun hvisible => absurd hvisible.symm Bool.false_ne_true,
      fun _ hother => absurd hother.symm Bool.false_ne_true, fun _ _ => hfits⟩
  show Listing.visit v [] [] (.dir _) = _
  rw [Listing.visit, if_neg (by decide), if_pos hopen, hload]
  show (v.check [] _ >>= fun _ => _) = _
  rw [htop]
  show (Listing.visitEntries v [] [] (("reports", _) :: _) >>= _) = _
  rw [hentries]
  rfl

/-- So a walk fails where there is room for the new directory, and none for what is in it. -/
theorem walk_writtenTree {root : Path} {text : String} (respectIgnore : Bool)
    (h : (writtenTree text).IsPlain) (hroot : (writtenTree text).Leads true root [])
    (hnames : root.names ≠ [])
    (hroom : ∀ name ∈ ["solano.yml", Ignore.fileName, "reports"], Fits root [name])
    (hfull : ∀ name ∈ ["plan.json", Ignore.fileName],
      Tree.textFault? (root.below ["reports", name]).text = some .nameTooLong) :
    Listing.walk (writtenTree text) root respectIgnore = .error (.file .nameTooLong) := by
  have hloads : Listing.loader (writtenTree text) root respectIgnore ["reports"] = .ok none ∨
      Listing.loader (writtenTree text) root respectIgnore ["reports"] =
        .error (.file .nameTooLong) := by
    cases respectIgnore with
    | false => exact .inl rfl
    | true =>
      have hpath : (root.below ["reports"]).under Ignore.fileName =
          root.below ["reports", Ignore.fileName] := by
        rw [Ignore.under_fileName, Path.below_below]
        rfl
      have hfile : (writtenTree text).isFile ((root.below ["reports"]).under Ignore.fileName) =
          .error .nameTooLong := by
        rw [hpath, Tree.isFile, Tree.resolve, hfull _ (by decide)]
        rfl
      refine .inr ?_
      show Ignore.load (writtenTree text) (root.below ["reports"]) = _
      rw [Ignore.load, hfile]
      rfl
  have hvisit : Listing.visit (Listing.view (writtenTree text) root respectIgnore) [] []
      (writtenTree text).top = .error (.file .nameTooLong) :=
    visit_writtenTree (opens_nil hroot.isText)
      ((Listing.opens_iff_fits hnames).2 (hroom _ (by decide)))
      (loader_nil respectIgnore h hroot rfl rfl (hroom _ (by decide))) hloads
      (hroom _ (by decide)) (hfull _ (by decide))
  rw [Listing.walk, hroot.resolve_eq]
  show (Listing.visit _ [] [] (writtenTree text).top >>= _) = _
  rw [hvisit]
  rfl

/-- So the second run fails. -/
theorem run_writtenTree {text : String} {outline : Outline} (respectIgnore : Bool)
    (hd : directory.toList.head? ≠ some '-') (ho : output.toList.head? ≠ some '-')
    (hremade : Remade ["reports", "plan.json"] smallTree (writtenTree text))
    (houtline : Run.outlineFor (smallOptions respectIgnore directory output) smallTree
      (.ofText directory) = .ok outline)
    (hroot : smallTree.Leads true (.ofText directory) [])
    (hwalk : Listing.walk (writtenTree text) (.ofText directory) respectIgnore =
      .error (.file .nameTooLong)) :
    (run true (smallArguments respectIgnore directory output) (writtenTree text)).ending =
      .code 2 := by
  have hlisting : Run.listing (smallOptions respectIgnore directory output) (writtenTree text)
      (.ofText directory) = .error (.ignore (.file .nameTooLong)) := by
    show (Listing.walk (writtenTree text) (.ofText directory) respectIgnore).mapError _ = _
    rw [hwalk]
    rfl
  have hagain := Run.outlineFor_eq hremade hroot rfl
    (not_leads_of_reads hremade.plain_after (hremade.leads hroot) rfl : ∀ path,
      Run.Reads (smallOptions respectIgnore directory output) (.ofText directory) path → _)
  have hplan : Run.planFor (smallOptions respectIgnore directory output) (writtenTree text)
      (.ofText directory) = .error (.ignore (.file .nameTooLong)) := by
    rw [Run.planFor_eq, hagain, houtline, hlisting]
    rfl
  have hp : (smallOptions respectIgnore directory output).plan? (writtenTree text) =
      some (.error (.ignore (.file .nameTooLong))) :=
    Options.plan?_eq_some_iff.2 ⟨rfl, directory, rfl, hplan⟩
  obtain ⟨log, hrun⟩ := run_of_noPlan true (ofArguments_small respectIgnore hd ho) hp
  rw [hrun]
  rfl

/-- One more name fits behind the long path. -/
theorem fits_longDirectory : ∀ name ∈ ["solano.yml", Ignore.fileName, "reports"],
    Fits (.ofText longDirectory) [name] := by
  have hshort : ∀ name ∈ ["solano.yml", Ignore.fileName, "reports"],
      '\x00' ∉ ("/".intercalate [name]).toList ∧ ¬15 < ("/".intercalate [name]).utf8ByteSize := by
    decide
  intro name hm
  rw [Fits, textFault?_longDirectory (List.cons_ne_nil _ _) (hshort name hm).1]
  exact if_neg (hshort name hm).2

/-- Two more names do not fit behind it. -/
theorem not_fits_longDirectory : ∀ name ∈ ["plan.json", Ignore.fileName],
    Tree.textFault? ((Path.ofText longDirectory).below ["reports", name]).text =
      some .nameTooLong := by
  have hlong : ∀ name ∈ ["plan.json", Ignore.fileName],
      '\x00' ∉ ("/".intercalate ["reports", name]).toList ∧
        15 < ("/".intercalate ["reports", name]).utf8ByteSize := by
    decide
  intro name hm
  rw [textFault?_longDirectory (List.cons_ne_nil _ _) (hlong name hm).1]
  exact if_pos (hlong name hm).2

/-- **The exception.**  In a plain tree, a run that lists by a walk writes its plan to a path
without `..` and ends with the code 0. The file is none that it reads, and no pattern picks it. The
next run with the same arguments fails with the code 2. This happens with regard to ignore files and
without. -/
theorem run_fails_again : smallTree.IsPlain ∧ ∀ respectIgnore : Bool,
    Request.ofArguments (longArguments respectIgnore) = .ok (.run (longOptions respectIgnore)) ∧
    (longOptions respectIgnore).lister = .walk ∧ (longOptions respectIgnore).version = false ∧
    (longOptions respectIgnore).print = false ∧
    (longOptions respectIgnore).root = some longDirectory ∧
    (longOptions respectIgnore).output = some "/reports/plan.json" ∧
    ".." ∉ (Path.ofText "/reports/plan.json").names ∧
    (run true (longArguments respectIgnore) smallTree).ending = .code 0 ∧
    (run true (longArguments respectIgnore) smallTree).tree.Leads false
      ((Path.ofText longDirectory).under "/reports/plan.json") ["reports", "plan.json"] ∧
    (∀ path, Run.Reads (longOptions respectIgnore) (.ofText longDirectory) path →
      ¬(run true (longArguments respectIgnore) smallTree).tree.Leads true path
        ["reports", "plan.json"]) ∧
    (∀ outline place names,
      Run.outlineFor (longOptions respectIgnore) smallTree (.ofText longDirectory) = .ok outline →
        smallTree.Leads true (.ofText longDirectory) place →
          ["reports", "plan.json"] = place ++ names → ¬outline.Picks (Listing.joined names)) ∧
    (run true (longArguments respectIgnore)
      (run true (longArguments respectIgnore) smallTree).tree).ending = .code 2 := by
  have hroot : smallTree.Leads true (.ofText longDirectory) [] := leads_longDirectory rfl rfl rfl
  have hd : longDirectory.toList.head? ≠ some '-' := by
    rw [longDirectory, Tree.toList_detours_succ, List.head?_cons]
    decide
  have ho : "/reports/plan.json".toList.head? ≠ some '-' := by decide
  have hfront : Path.ofText "/reports/plan.json" = ⟨1, ["reports", "plan.json"]⟩ := by
    decide
  have hpath : (Path.ofText longDirectory).under "/reports/plan.json" =
      ⟨1, ["reports", "plan.json"]⟩ := by
    rw [Path.under, hfront]
    rfl
  refine ⟨isPlain_smallTree, fun respectIgnore => ?_⟩
  obtain ⟨outline, text, houtline, hpicks, hcode, htree, hremade, hleads⟩ :=
    run_smallTree respectIgnore hd ho hroot
      (fun name hm => fits_longDirectory name (List.subset_append_left _ ["reports"] hm))
      (Nat.le_refl 1) hpath
  have hsecond := run_writtenTree respectIgnore hd ho hremade houtline hroot
    (walk_writtenTree respectIgnore hremade.plain_after (hremade.leads hroot) names_longDirectory
      fits_longDirectory not_fits_longDirectory)
  refine ⟨ofArguments_small respectIgnore hd ho, rfl, rfl, rfl, rfl, rfl,
    by rw [hfront]; decide, hcode, ?_, ?_, ?_, ?_⟩
  · rw [longArguments, htree]
    exact hleads
  · rw [longArguments, htree]
    exact not_leads_of_reads hremade.plain_after (hremade.leads hroot) rfl
  · exact not_picks_smallTree houtline hroot hpicks
  · rw [longArguments, htree]
    exact hsecond

end Command
end TestSelection
