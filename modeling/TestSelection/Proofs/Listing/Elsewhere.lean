/-
# Ignore files elsewhere

Whether a walk that respects ignore files lists a file depends on the ignore files of the
directories on the way to it (`OnWay`): a file that the plain walk lists is listed if it is kept,
and that is said of the rules of these directories alone. So it makes no difference what is in other
ignore files, and whether they are there (`walk_respecting`).

An ignore file may be a link, and then the file that it leads to counts for its directory, wherever
this file is (`walk_respecting_fails`). It may also be a link that nobody can follow, and then the
walk fails, as it does where the path of a file is too long.
-/

import TestSelection.Proofs.Config.FilesRead
import TestSelection.Proofs.Listing.Filtered
import TestSelection.Proofs.Tree.Edited

namespace TestSelection
namespace Listing

open TestSelection.Tree (IsEntryName SameButFiles)

variable {load load' : Loader} {directory : Bool} {names : Place} {tree after : Tree} {root : Path}
  {path : String} {edited : Place → Prop}

/-- What a plain walk comes to stays as it is when some hidden files are changed. -/
theorem item?_eq_of_comes (h : SameButFiles edited tree after)
    (hidden : ∀ q, edited q → ∃ name, q.getLast? = some name ∧ isHidden name = true)
    {place : Place} (hcomes : Comes root names) (hne : names ≠ []) :
    after.item? (place ++ names) = tree.item? (place ++ names) := by
  refine h.same _ fun he => ?_
  obtain ⟨name, hlast, hname⟩ := hidden _ he
  rw [List.getLast?_append_of_ne_nil _ hne] at hlast
  exact absurd (hcomes.visible name (List.mem_of_getLast? hlast)) (by simp [hname])

/-- So nothing stops the walk then. -/
theorem Unhindered.of_sameButFiles (hfree : Unhindered tree root)
    (h : SameButFiles edited tree after)
    (hidden : ∀ q, edited q → ∃ name, q.getLast? = some name ∧ isHidden name = true) :
    Unhindered after root := by
  -- What the walk comes to is the same in both trees, unless it is the directory that it starts
  -- from, whose path is in order anyway.
  refine ⟨fun place names i hl hcomes hi hne => ?_, fun place names hl hcomes hd => ?_⟩
  · by_cases hnil : names = []
    · rw [hnil, Fits, Path.below_nil]
      exact hl.isText
    · rw [item?_eq_of_comes h hidden hcomes hnil] at hi
      exact hfree.fits place names i (h.symm.leads hl) hcomes hi hne
  · by_cases hnil : names = []
    · rw [hnil]
      exact Nat.zero_le _
    · rw [item?_eq_of_comes h hidden hcomes hnil] at hd
      exact hfree.shallow place names (h.symm.leads hl) hcomes hd

/-- What a plain walk lists is still listed when some hidden files were changed. -/
theorem Lists.of_sameButFiles (hproper : tree.top.IsProper) (hafter : after.top.IsProper)
    (h : SameButFiles edited tree after)
    (hidden : ∀ q, edited q → ∃ name, q.getLast? = some name ∧ isHidden name = true)
    (hlists : Lists tree root false path) : Lists after root false path := by
  have hfree := hlists.unhindered hproper
  obtain ⟨place, hl, hp⟩ := hlists.exists_leads
  obtain ⟨names, content, hi, hcomes, rfl⟩ := (lists_iff_of_leads hproper hfree hl hp).1 hlists
  have hne : names ≠ [] := by
    rintro rfl
    rw [List.append_nil, hp] at hi
    cases hi
  exact (lists_iff_of_leads hafter (hfree.of_sameButFiles h hidden) (h.leads hl)
    (h.item?_eq hp nofun)).2
      ⟨names, content, (item?_eq_of_comes h hidden hcomes hne).trans hi, hcomes, rfl⟩

/-- **Walks that respect ignore files.**  Where nothing stops the plain walk, such a walk lists the
files of the plain walk that no ignore file on the way ignores. So in two trees that both have a
file, it is listed in both or in none if the ignore files on the way to it have the same rules; and
that is so whatever other ignore files hold, and whether they are there. -/
theorem walk_respecting (h : Walkable tree root) (hfree : Unhindered tree root) :
    walk tree root true = (walk tree root false).map
        (List.filter fun path => Kept (loader tree root true) false (namesOf path)) ∧
      ('\x00' ∉ root.text.toList → ∃ listed, walk tree root true = .ok listed) ∧
      ∀ after : Tree, Walkable after root → ∀ path,
        (Unhindered after root → (Lists after root false path ↔ Lists tree root false path) →
          (∀ base, OnWay (namesOf path) base →
            Ignore.load after (root.below base) = Ignore.load tree (root.below base)) →
          (Lists after root true path ↔ Lists tree root true path)) ∧
        ∀ edited : Place → Prop, SameButFiles edited tree after →
          (∀ q, edited q → q.getLast? = some Ignore.fileName) →
          (∀ base, OnWay (namesOf path) base →
            ∀ q, tree.Leads true ((root.below base).under Ignore.fileName) q → ¬edited q) →
          (Lists after root true path ↔ Lists tree root true path) := by
  have hsame : ∀ after : Tree, Walkable after root → ∀ path, Unhindered after root →
      (Lists after root false path ↔ Lists tree root false path) →
        (∀ base, OnWay (namesOf path) base →
          Ignore.load after (root.below base) = Ignore.load tree (root.below base)) →
        (Lists after root true path ↔ Lists tree root true path) := by
    intro after hafter path hfree' hplain hload
    rw [hafter.lists_iff hfree', h.lists_iff hfree, hplain]
    exact and_congr_right fun _ => kept_congr hload
  have hwalk := walk_eq_filter_kept h hfree
  refine ⟨hwalk, fun hnul => ?_, fun after hafter path => ⟨hsame after hafter path, ?_⟩⟩
  · obtain ⟨plain, hplain⟩ := (exists_walk_iff h.proper hnul).2 hfree
    exact ⟨_, hwalk.trans (congrArg _ hplain)⟩
  -- Ignore files are hidden, so changing some of them leaves the plain walk as it is.
  · intro edited hedit hnames helse
    have hidden : ∀ q, edited q → ∃ name, q.getLast? = some name ∧ isHidden name = true :=
      fun q hq => ⟨_, hnames q hq, by decide⟩
    have hfree' := hfree.of_sameButFiles hedit hidden
    refine hsame after hafter path hfree' ⟨?_, ?_⟩ fun base hbase => ?_
    · exact Lists.of_sameButFiles hafter.proper h.proper hedit.symm hidden
    · exact Lists.of_sameButFiles h.proper hafter.proper hedit hidden
    · exact Ignore.load_eq (hedit.sameFile (helse base hbase))

/-! ### Two directories -/

/-- An ignore file with a text. -/
def ignoreFile (text : String) : String × Node := (Ignore.fileName, .file text.toUTF8)

/-- A directory with two other ones, and perhaps an ignore file. -/
def pair (text : Option String) (inA inB : List (String × Node)) : Tree :=
  ⟨.dir (text.toList.map ignoreFile ++ [("a", .dir inA), ("b", .dir inB)]), []⟩

/-- The directories that a walk enters there. -/
def inPair : List Place := [[], ["a"], ["b"]]

/-- An ignore file that ignores what is called `x`. -/
def ignoresX : String × Node := ignoreFile "x\n"

/-- Its rule. -/
def ruleX : Ignore.Rule := ⟨true, .pieces [.leading, .char 'x', .nameEnd]⟩

/-- A file that it ignores. -/
def fileX : String × Node := ("x", .file .empty)

/-- The text of that ignore file is read as its rule. -/
theorem ofText_ignoresX : Ignore.Spec.ofText "x\n" = .ok (some ⟨[ruleX]⟩) := by decide +kernel

section

variable {text : Option String} {inA inB : List (String × Node)}

/-- The current directory is the one with the two in it. -/
theorem leads_pair : (pair text inA inB).Leads true (.ofText ".") [] := ⟨by decide, .done⟩

/-- There are no other directories than these, whatever the files in them are. -/
theorem mem_inPair (h : ∀ entry ∈ inA ++ inB, entry.2.item ≠ .directory)
    (hd : (pair text inA inB).item? names = some .directory) : names ∈ inPair := by
  obtain ⟨rfl, -⟩ | ⟨name, child, rest, hm, rfl, hi⟩ := Node.item?_dir_cases hd
  · decide
  -- The first name is `a` or `b`, and below these there are files and links only.
  · have hfile : ∀ s : String, (ignoreFile s).2.item? rest ≠ some .directory := by
      intro s
      cases rest <;> rintro ⟨⟩
    have hchild : name ∈ ["a", "b"] ∧ ∃ entries ⊆ inA ++ inB, child = .dir entries := by
      simp only [List.mem_append, List.mem_map, List.mem_cons, Prod.mk.injEq, List.not_mem_nil,
        or_false] at hm
      obtain ⟨s, -, hs⟩ | ⟨rfl, rfl⟩ | ⟨rfl, rfl⟩ := hm
      · obtain rfl := congrArg Prod.snd hs
        exact absurd hi (hfile s)
      · exact ⟨by decide, inA, List.subset_append_left .., rfl⟩
      · exact ⟨by decide, inB, List.subset_append_right .., rfl⟩
    obtain ⟨hname, entries, hsub, rfl⟩ := hchild
    obtain ⟨rfl, -⟩ | ⟨inner, node, rest, hm, rfl, hi⟩ := Node.item?_dir_cases hi
    · revert hname
      simp [inPair]
    · have hnot := h _ (hsub hm)
      cases node with
      | dir => exact absurd rfl hnot
      | file | link => cases rest <;> cases hi

/-- A walk can respect the ignore files of two directories if their rules can be loaded. -/
theorem walkable_pair (hproper : (pair text inA inB).top.IsProper)
    (h : ∀ entry ∈ inA ++ inB, entry.2.item ≠ .directory)
    (hload : ∀ names ∈ inPair, ∃ own,
      Ignore.load (pair text inA inB) ((Path.ofText ".").below names) = .ok own) :
    Walkable (pair text inA inB) (.ofText ".") where
  proper := hproper
  usable names he := by
    obtain ⟨place, hl, hd⟩ := he.directory
    obtain rfl := hl.unique leads_pair
    exact Ignore.exists_load_iff.1 (hload names (mem_inPair h hd))

/-- Nothing stops a plain walk there if it finds files. -/
theorem unhindered_pair {found : List Place} (hproper : (pair text inA inB).top.IsProper)
    (h : visit (view (pair text inA inB) (.ofText ".") false) [] [] (pair text inA inB).top =
      .ok found) : Unhindered (pair text inA inB) (.ofText ".") :=
  (exists_walk_iff hproper (by decide)).1 ⟨_, walk_of_visit leads_pair.resolve_eq h⟩

/-- The path of an ignore file that is no link leads to it. -/
theorem leads_pair_fileName (hnames : names ∈ inPair)
    (hlink : ∀ target,
      (pair text inA inB).item? (names ++ [Ignore.fileName]) ≠ some (.link target)) :
    (pair text inA inB).Leads true (((Path.ofText ".").below names).under Ignore.fileName)
      (names ++ [Ignore.fileName]) := by
  have htext : ∀ names ∈ inPair, Tree.textFault?
      (((Path.ofText ".").below names).under Ignore.fileName).text = none := by
    decide
  have hname : IsEntryName Ignore.fileName := ⟨by decide, by decide, by decide⟩
  have hend : ∀ {place}, (pair text inA inB).item? place = some .directory →
      (∀ target, (pair text inA inB).item? (place ++ [Ignore.fileName]) ≠ some (.link target)) →
      Tree.Follows (pair text inA inB).top true Tree.mostLinks place [Ignore.fileName]
        (place ++ [Ignore.fileName]) := by
    intro place hdir hlink
    cases hi : (pair text inA inB).item? (place ++ [Ignore.fileName]) with
    | none => exact .missing hname hdir hi
    | some i => exact .down hname hdir hi (fun target he => hlink target (he ▸ hi)) .done
  have hA : (pair text inA inB).item? ["a"] = some .directory := by cases text <;> rfl
  have hB : (pair text inA inB).item? ["b"] = some .directory := by cases text <;> rfl
  refine ⟨htext names hnames, ?_⟩
  rw [Ignore.under_fileName]
  simp only [inPair, List.mem_cons, List.not_mem_nil, or_false] at hnames
  obtain rfl | rfl | rfl := hnames
  · exact hend rfl hlink
  · exact .down ⟨by decide, by decide, by decide⟩ rfl hA (by rintro _ ⟨⟩) (hend hA hlink)
  · exact .down ⟨by decide, by decide, by decide⟩ rfl hB (by rintro _ ⟨⟩) (hend hB hlink)

/-- Without an ignore file a directory has no rules. -/
theorem load_pair_of_missing (hnames : names ∈ inPair)
    (hnone : (pair text inA inB).item? (names ++ [Ignore.fileName]) = none) :
    Ignore.load (pair text inA inB) ((Path.ofText ".").below names) = .ok none :=
  Ignore.load_of_leads_missing (leads_pair_fileName hnames (by simp [hnone])) hnone

/-- With one, a directory has the rules of its text. -/
theorem load_pair_of_file {s : String} (hnames : names ∈ inPair)
    (hfile : (pair text inA inB).item? (names ++ [Ignore.fileName]) = some (.file s.toUTF8)) :
    Ignore.load (pair text inA inB) ((Path.ofText ".").below names) = Ignore.Spec.ofText s :=
  Ignore.load_of_leads (leads_pair_fileName hnames (by simp [hfile])) hfile

/-- On the way to a file of one directory are this directory and the one above. -/
theorem base_of_onWay {d : String} (hd : d ∈ ["a", "b"]) {base : Place}
    (h : OnWay (namesOf (joined [d, "x"])) base) : base = [] ∨ base = [d] := by
  have hnames : ∀ d ∈ ["a", "b"], namesOf (joined [d, "x"]) = [d, "x"] := by decide
  have hbases : ∀ d ∈ ["a", "b"], ∀ base ∈ [d, "x"].inits, base ≠ [d, "x"] →
      base = [] ∨ base = [d] := by
    decide
  obtain ⟨hbase, hne⟩ := h
  rw [hnames d hd] at hbase hne
  exact hbases d hd base (List.mem_inits _ _ |>.2 hbase) hne

/-- A plain walk lists the file of one of the directories. -/
theorem lists_pair_plain {d : String} (hd : d ∈ ["a", "b"])
    (hproper : (pair text inA inB).top.IsProper)
    (hfree : Unhindered (pair text inA inB) (.ofText "."))
    (hfile : (pair text inA inB).item? [d, "x"] = some (.file .empty)) :
    Lists (pair text inA inB) (.ofText ".") false (joined [d, "x"]) := by
  have hcomes : ∀ d ∈ ["a", "b"], Comes (.ofText ".") [d, "x"] := by decide
  exact (lists_iff_of_leads hproper hfree leads_pair rfl).2 ⟨[d, "x"], _, hfile, hcomes d hd, rfl⟩

/-- A file is listed if there are no rules on the way to it. -/
theorem lists_pair {d : String} (hd : d ∈ ["a", "b"])
    (h : Walkable (pair text inA inB) (.ofText "."))
    (hfree : Unhindered (pair text inA inB) (.ofText "."))
    (hfile : (pair text inA inB).item? [d, "x"] = some (.file .empty))
    (hload : ∀ base ∈ [[], [d]],
      Ignore.load (pair text inA inB) ((Path.ofText ".").below base) = .ok none) :
    Lists (pair text inA inB) (.ofText ".") true (joined [d, "x"]) := by
  have hplain := lists_pair_plain hd h.proper hfree hfile
  have hnone : ∀ base, OnWay (namesOf (joined [d, "x"])) base →
      loader (pair text inA inB) (.ofText ".") true base = .ok none := fun base hbase =>
    hload base (by simpa using base_of_onWay hd hbase)
  exact (h.lists_iff hfree).2 ⟨hplain, kept_of_noRules hnone⟩

/-- A file that the ignore file of the first directory ignores is not listed. -/
theorem not_lists_pair (h : Walkable (pair text inA inB) (.ofText "."))
    (hfree : Unhindered (pair text inA inB) (.ofText "."))
    (hload : Ignore.load (pair text inA inB) ((Path.ofText ".").below ["a"]) =
      .ok (some ⟨[ruleX]⟩)) :
    ¬Lists (pair text inA inB) (.ofText ".") true "a/x" := by
  intro hlists
  have hnames : namesOf "a/x" = ["a"] ++ ["x"] ++ [] := by decide
  have hkept := ((h.lists_iff hfree).1 hlists).2 ["a"] ["x"] [] hnames nofun _ hload
  exact absurd hkept (by decide)

end

/-- Two directories with a file of one name, of which the first one has an ignore file. -/
def siblings : Tree := pair none [ignoresX, fileX] [fileX]

/-- The same directories without the ignore file. -/
def bareSiblings : Tree := pair none [fileX] [fileX]

/-- The ignore file of `siblings` can be used. -/
theorem walkable_siblings : Walkable siblings (.ofText ".") := by
  refine walkable_pair (by decide) (by simp [ignoresX, fileX, ignoreFile, Node.item]) ?_
  rw [inPair, List.forall_mem_cons, List.forall_mem_cons, List.forall_mem_singleton]
  exact ⟨⟨_, load_pair_of_missing (by decide) rfl⟩,
    ⟨_, (load_pair_of_file (by decide) rfl).trans ofText_ignoresX⟩,
    ⟨_, load_pair_of_missing (by decide) rfl⟩⟩

/-- Where there is no ignore file, there is none that cannot be used. -/
theorem walkable_bareSiblings : Walkable bareSiblings (.ofText ".") := by
  refine walkable_pair (by decide) (by simp [fileX, Node.item]) ?_
  rw [inPair, List.forall_mem_cons, List.forall_mem_cons, List.forall_mem_singleton]
  exact ⟨⟨_, load_pair_of_missing (by decide) rfl⟩, ⟨_, load_pair_of_missing (by decide) rfl⟩,
    ⟨_, load_pair_of_missing (by decide) rfl⟩⟩

/-- Nothing stops a plain walk of `siblings`: it finds files. -/
theorem unhindered_siblings : Unhindered siblings (.ofText ".") :=
  unhindered_pair walkable_siblings.proper rfl

/-- The ignore file counts in its own directory and not in the other one. -/
theorem walk_respecting_siblings :
    Walkable siblings (.ofText ".") ∧ Unhindered siblings (.ofText ".") ∧
      Walkable bareSiblings (.ofText ".") ∧
      ¬Lists siblings (.ofText ".") true "a/x" ∧ Lists siblings (.ofText ".") true "b/x" ∧
        Lists bareSiblings (.ofText ".") true "b/x" := by
  have hlists : Lists siblings (.ofText ".") true "b/x" := by
    refine lists_pair (by decide : "b" ∈ ["a", "b"]) walkable_siblings unhindered_siblings rfl ?_
    rw [List.forall_mem_cons, List.forall_mem_singleton]
    exact ⟨load_pair_of_missing (by decide) rfl, load_pair_of_missing (by decide) rfl⟩
  have hnot : ¬Lists siblings (.ofText ".") true "a/x" :=
    not_lists_pair walkable_siblings unhindered_siblings
      ((load_pair_of_file (by decide) rfl).trans ofText_ignoresX)
  have hedit : SameButFiles (· = ["a", Ignore.fileName]) bareSiblings siblings :=
    .withFile rfl trivial
  obtain ⟨-, -, hafter⟩ := walk_respecting walkable_siblings unhindered_siblings
  have hsame := (hafter _ walkable_bareSiblings "b/x").2 _ hedit.symm
  refine ⟨walkable_siblings, unhindered_siblings, walkable_bareSiblings, hnot, hlists,
    (hsame ?_ ?_).2 hlists⟩
  · rintro q rfl
    rfl
  · intro base hbase q hq
    obtain rfl | rfl := base_of_onWay (by decide : "b" ∈ ["a", "b"]) hbase
    · rw [hq.unique (leads_pair_fileName (by decide) nofun)]
      decide
    · rw [hq.unique (leads_pair_fileName (by decide) nofun)]
      decide

/-- A name that no file can have. -/
def longName : String := String.ofList (List.replicate 256 'n')

/-- A directory with an ignore file that is a link to this name. -/
def overlong : Tree :=
  ⟨.dir [(Ignore.fileName, .link longName), ("a", .file "".toUTF8)], []⟩

/-- Two directories of which the first one has the ignore file of the other one. -/
def linked (text : String) : Tree :=
  pair none [(Ignore.fileName, .link "../b/.gitignore"), fileX] [ignoreFile text]

/-- The rules of `overlong` cannot be read. The link leads to a name that is too long, which is an
error of the system and not a missing file. -/
theorem load_overlong :
    Ignore.load overlong ((Path.ofText ".").below []) = .error (.file .nameTooLong) := by
  have hname : IsEntryName Ignore.fileName := ⟨by decide, by decide, by decide⟩
  have hbase : Tree.linkBase longName [] = [] := by decide +kernel
  have hslash : ∀ n, '/' ∉ (String.ofList (List.replicate n 'n')).toList := by
    intro n h
    rw [String.toList_ofList] at h
    exact absurd (List.eq_of_mem_replicate h) (by decide)
  have htarget : Tree.targetNames longName = [longName] :=
    Tree.targetNames_of_name (by decide +kernel) (hslash 256)
  have hresolve : overlong.resolve true ((Path.ofText ".").below [Ignore.fileName]) =
      .error .nameTooLong := by
    have htext : Tree.textFault? ((Path.ofText ".").below [Ignore.fileName]).text = none := by
      decide
    rw [Tree.resolve, htext]
    show Tree.follow overlong.top true 40 [] [Ignore.fileName] = _
    rw [Tree.follow_cons hname rfl]
    show Tree.follow overlong.top true 39 (Tree.linkBase longName []) (_ ++ []) = _
    rw [hbase, htarget]
    exact Tree.follow_of_long (by decide +kernel) (by decide +kernel) (by decide +kernel) rfl
  rw [Ignore.load, Ignore.under_fileName, Path.below_nil, Tree.isFile, hresolve]
  rfl

/-- The text of its one file is accepted as that of an ignore file, for it is empty. -/
theorem accepted_overlong : ∀ place content s, overlong.item? place = some (.file content) →
    String.fromUTF8? content = some s → Ignore.Accepted s := by
  intro place content s hi hs
  obtain ⟨-, hd⟩ | ⟨name, child, rest, hm, rfl, hi⟩ := Node.item?_dir_cases hi
  · cases hd
  · simp only [List.mem_cons, Prod.mk.injEq, List.not_mem_nil, or_false] at hm
    obtain ⟨rfl, rfl⟩ | ⟨rfl, rfl⟩ := hm
    · cases rest <;> cases hi
    · cases rest with
      | cons => cases hi
      | nil =>
        obtain rfl := Item.file.inj (Option.some.inj hi)
        obtain rfl := Option.some.inj ((Text.fromUTF8?_toUTF8 "").symm.trans hs)
        exact Ignore.exists_ofText_iff.1 ⟨none, rfl⟩

/-- A walk that does not ask for ignore files lists what is there, and one that asks for them
fails. -/
theorem walk_overlong : walk overlong (.ofText ".") false = .ok ["a"] ∧
    ∀ listed, walk overlong (.ofText ".") true ≠ .ok listed := by
  have hleads : overlong.Leads true (.ofText ".") [] := ⟨by decide, .done⟩
  constructor
  · have hwalk := walk_of_visit hleads.resolve_eq
      (rfl : visit (view overlong (.ofText ".") false) [] [] overlong.top = .ok [["a"]])
    exact hwalk.trans (congrArg _ (List.mergeSort_singleton _))
  · intro listed hw
    have hclear := (walk_spec (by decide +kernel) hleads rfl).1.1 ⟨listed, hw⟩ [] rfl comes_nil
      (kept_of_noRules fun base hb => absurd (List.prefix_nil.1 hb.1) hb.2)
    obtain ⟨own, ho⟩ := hclear.loads (by decide)
    cases ho.symm.trans load_overlong

/-- The rules of the first directory of `linked` are those of the text in the second. -/
theorem load_linked (text : String) :
    Ignore.load (linked text) ((Path.ofText ".").below ["a"]) = Ignore.Spec.ofText text := by
  have htarget : Tree.targetNames "../b/.gitignore" ++ [] = ["..", "b", ".gitignore"] := by
    decide
  have hname : IsEntryName Ignore.fileName := ⟨by decide, by decide, by decide⟩
  have hbase : Tree.linkBase "../b/.gitignore" ["a"] = ["a"] := by decide +kernel
  have hfollows : Tree.Follows (linked text).top true Tree.mostLinks [] ["a", Ignore.fileName]
      ["b", Ignore.fileName] := by
    refine .down ⟨by decide, by decide, by decide⟩ rfl rfl (by rintro _ ⟨⟩) ?_
    refine @Tree.Follows.link _ _ 39 ["a"] _ _ _ _ hname rfl rfl (fun _ => rfl) ?_
    rw [htarget, hbase]
    exact .above rfl (.down ⟨by decide, by decide, by decide⟩ rfl rfl (by rintro _ ⟨⟩)
      (.down hname rfl rfl (by rintro _ ⟨⟩) .done))
  have hleads : (linked text).Leads true (((Path.ofText ".").below ["a"]).under Ignore.fileName)
      ["b", Ignore.fileName] := by
    rw [Ignore.under_fileName]
    exact ⟨by decide, hfollows⟩
  exact Ignore.load_of_leads hleads rfl

/-- Both trees with the link are ones that a walk can respect. -/
theorem walkable_linked :
    ∀ text ∈ ["", "x\n"], Walkable (linked text) (.ofText ".") := by
  have hproper : ∀ text ∈ ["", "x\n"], (linked text).top.IsProper := by decide
  have hok : ∀ text ∈ ["", "x\n"], ∃ own, Ignore.Spec.ofText text = .ok own :=
    List.forall_mem_cons.2 ⟨⟨none, rfl⟩, List.forall_mem_singleton.2 ⟨_, ofText_ignoresX⟩⟩
  intro text ht
  obtain ⟨own, ho⟩ := hok text ht
  refine walkable_pair (hproper text ht) (by simp [fileX, ignoreFile, Node.item]) ?_
  rw [inPair, List.forall_mem_cons, List.forall_mem_cons, List.forall_mem_singleton]
  exact ⟨⟨_, load_pair_of_missing (by decide) rfl⟩, ⟨own, (load_linked text).trans ho⟩,
    ⟨own, (load_pair_of_file (by decide) rfl).trans ho⟩⟩

/-- Nothing stops a walk in them. -/
theorem unhindered_linked : ∀ text ∈ ["", "x\n"], Unhindered (linked text) (.ofText ".") :=
  List.forall_mem_cons.2 ⟨unhindered_pair (walkable_linked _ (by decide)).proper rfl,
    List.forall_mem_singleton.2 (unhindered_pair (walkable_linked _ (by decide)).proper rfl)⟩

/-- **Without the conditions this is not so.**  An ignore file that nobody can follow makes the walk
fail, and a file whose path is too long makes both walks fail. And of two trees with different
ignore files in the second directory, only one lists a file of the first directory, whose ignore
file is the same link in both. -/
theorem walk_respecting_fails :
    ((∀ place content s, overlong.item? place = some (.file content) →
        String.fromUTF8? content = some s → Ignore.Accepted s) ∧
      walk overlong (.ofText ".") false = .ok ["a"] ∧
        ∀ listed, walk overlong (.ofText ".") true ≠ .ok listed) ∧
    (∀ respectIgnore listed,
      walk (besideHidden (.file .empty)) (.ofText Tree.longDirectory) respectIgnore ≠ .ok listed) ∧
    (∀ text ∈ ["", "x\n"], Walkable (linked text) (.ofText ".") ∧
      Unhindered (linked text) (.ofText ".")) ∧
      SameButFiles (· = ["b", Ignore.fileName]) (linked "") (linked "x\n") ∧
        Lists (linked "") (.ofText ".") true "a/x" ∧
          ¬Lists (linked "x\n") (.ofText ".") true "a/x" := by
  refine ⟨⟨accepted_overlong, walk_overlong⟩, walk_of_longFile,
    fun text ht => ⟨walkable_linked text ht, unhindered_linked text ht⟩,
    SameButFiles.withFile rfl trivial, ?_, ?_⟩
  -- The two trees differ in the file behind the link.
  · refine lists_pair (by decide : "a" ∈ ["a", "b"]) (walkable_linked _ (by decide))
      (unhindered_linked _ (by decide)) rfl ?_
    rw [List.forall_mem_cons, List.forall_mem_singleton]
    exact ⟨load_pair_of_missing (by decide) rfl, load_linked ""⟩
  · exact not_lists_pair (walkable_linked _ (by decide)) (unhindered_linked _ (by decide))
      ((load_linked _).trans ofText_ignoresX)

end Listing
end TestSelection
