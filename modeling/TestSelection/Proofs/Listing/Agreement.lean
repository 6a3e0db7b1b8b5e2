/-
# When the two listings agree

The `find` command prints a line for each visible file, and the listing reads the first field of
each line back. A path without blanks, quotes and backslashes is read back as it is
(`parseFind_findLine_of_plain`); of any other path some character is lost, however it is cut up
(`size_parseFind_findLine_lt`). So the two ways to list the files below a directory agree, up to
order, if and only if the path of every visible file is free of these characters, as far as paths
are short enough for a walk to come to all of these files (`find_sorted_eq_walk_iff`). The command
goes on from directory to directory and knows no such limit.
-/

import TestSelection.Listing.Find
import TestSelection.Proofs.Listing.Printed
import TestSelection.Proofs.Listing.Walked
import TestSelection.Proofs.Tree.Follow
import Mathlib.Algebra.BigOperators.Group.List.Basic

namespace TestSelection
namespace Listing

/-- How many characters some paths have. -/
def size (paths : List String) : Nat := (paths.map String.length).sum

/-- Sizes of lists put together add up. -/
theorem size_append (paths others : List String) :
    size (paths ++ others) = size paths + size others := by
  rw [size, List.map_append, List.sum_append]
  rfl

/-- The order of the paths does not count. -/
theorem size_eq_of_perm {paths others : List String} (h : paths.Perm others) :
    size paths = size others := (h.map String.length).sum_eq

/-! ### One printed line -/

/-- Taking `./` from a line makes it no longer. -/
theorem length_dropDotSlash_le (line : List Char) : (dropDotSlash line).length ≤ line.length := by
  unfold dropDotSlash
  split
  · rw [List.length_cons, List.length_cons]
    omega
  · exact Nat.le_refl _

/-- Of a line its first field is kept, and nothing if there is none. -/
theorem size_pathOfLine (line : List Char) :
    size (pathOfLine line).toList = (firstField (dropDotSlash line)).length := by
  rw [pathOfLine, firstField]
  cases (splitFields (dropDotSlash line)).head? with
  | none => rfl
  | some f => simp [size]

/-- The size of what is read, line by line. -/
theorem size_filterMap_cons (line : List Char) (ls : List (List Char)) :
    size ((line :: ls).filterMap pathOfLine) =
      (firstField (dropDotSlash line)).length + size (ls.filterMap pathOfLine) := by
  rw [← size_pathOfLine, ← size_append, List.filterMap_cons]
  cases pathOfLine line <;> rfl

/-- What is read of some lines has no more characters than the lines. -/
theorem size_filterMap_le (ls : List (List Char)) :
    size (ls.filterMap pathOfLine) ≤ (ls.map List.length).sum := by
  induction ls with
  | nil => exact Nat.le_refl _
  | cons line ls ih =>
    have hfirst := length_firstField_le (dropDotSlash line)
    have hdrop := length_dropDotSlash_le line
    rw [size_filterMap_cons, List.map_cons, List.sum_cons]
    omega

variable {names : Place}

/-- A printed line as characters: `./`, the path, and the end of the line. -/
theorem toList_findLine (names : Place) :
    (findLine names).toList = '.' :: '/' :: ((joined names).toList ++ ['\n']) := by
  simp [findLine]

/-- The lines of a printed path: those of the path, the first of them after `./`. -/
theorem parseFind_findLine {line : List Char} {ls : List (List Char)}
    (h : Text.lines ((joined names).toList ++ ['\n']) = line :: ls) :
    parseFind (findLine names) = (('.' :: '/' :: line) :: ls).filterMap pathOfLine := by
  have hdot : '.' ≠ '\r' := by decide
  have hslash : '/' ≠ '\r' := by decide
  rw [parseFind, toList_findLine, Text.lines_cons (.inl hdot), Text.lines_cons (.inl hslash), h]
  rfl

/-- **A plain path is read back as it is.** -/
theorem parseFind_findLine_of_plain (hne : joined names ≠ "") (h : IsPlain (joined names)) :
    parseFind (findLine names) = [joined names] := by
  rw [findLine, parseFind_concat_newline]
  exact parseFind_of_isPlain hne h

/-- What is read back of a printed path has no more characters than the path without its line
ends. -/
theorem size_parseFind_findLine_add_le (names : Place) :
    size (parseFind (findLine names)) + (joined names).toList.countP Text.isLineEnd ≤
      (joined names).length := by
  -- The lines and the line ends between them make up the path with the end of its own line.
  have hsum := Text.sum_length_lines ((joined names).toList ++ ['\n'])
  have hcount : ((joined names).toList ++ ['\n']).countP Text.isLineEnd =
      (joined names).toList.countP Text.isLineEnd + 1 := by
    rw [List.countP_append]
    rfl
  rw [hcount, List.length_append, List.length_singleton, String.length_toList] at hsum
  cases hl : Text.lines ((joined names).toList ++ ['\n']) with
  | nil => exact absurd hl (Text.lines_ne_nil (by simp))
  | cons line ls =>
    have hfirst := length_firstField_le line
    have hrest := size_filterMap_le ls
    rw [hl, List.map_cons, List.sum_cons] at hsum
    rw [parseFind_findLine hl, size_filterMap_cons, dropDotSlash_cons]
    omega

/-- In particular it has no more characters than the path. -/
theorem size_parseFind_findLine_le (names : Place) :
    size (parseFind (findLine names)) ≤ (joined names).length :=
  Nat.le_of_add_right_le (size_parseFind_findLine_add_le names)

/-- **Of a path that is not plain a character is lost.** -/
theorem size_parseFind_findLine_lt (h : ¬ IsPlain (joined names)) :
    size (parseFind (findLine names)) < (joined names).length := by
  have hle := size_parseFind_findLine_add_le names
  by_cases hends : ∀ c ∈ (joined names).toList, Text.isLineEnd c = false
  · -- the path is on one line, and the first field of the line leaves something out
    have hspecial : ∃ c ∈ (joined names).toList, isSpecial c = true := by
      rw [IsPlain] at h
      push Not at h
      simpa using h
    have hfirst := length_firstField_lt hspecial
    have hnil : size (List.filterMap pathOfLine []) = 0 := rfl
    rw [parseFind_findLine (Text.lines_newline_of_forall hends), size_filterMap_cons,
      dropDotSlash_cons, hnil]
    rw [String.length_toList] at hfirst
    omega
  · -- a line end is in none of the lines
    push Not at hends
    obtain ⟨c, hc, hend⟩ := hends
    have hpos : 0 < (joined names).toList.countP Text.isLineEnd :=
      List.countP_pos_iff.2 ⟨c, hc, by simpa using hend⟩
    omega

/-! ### All printed lines -/

/-- What the command prints for some files, in the order given. -/
def printed (files : List Place) : String := String.join (files.map findLine)

/-- The lines of different files do not touch each other. -/
theorem parseFind_printed (files : List Place) :
    parseFind (printed files) = files.flatMap fun names => parseFind (findLine names) := by
  induction files with
  | nil => rfl
  | cons names files ih =>
    have hcut : printed (names :: files) = "./" ++ joined names ++ "\n" ++ printed files := by
      rw [printed, List.map_cons, String.join_cons]
      rfl
    rw [hcut, parseFind_append_newline, ih, List.flatMap_cons]
    rfl

/-- What is read of all printed paths has no more characters than the paths. As every path has its
share in this bound, one that loses a character is not made up for by another. -/
theorem size_parseFind_printed_le (files : List Place) :
    size (parseFind (printed files)) ≤ size (files.map joined) := by
  rw [parseFind_printed]
  induction files with
  | nil => exact Nat.le_refl _
  | cons names files ih =>
    have hle := size_parseFind_findLine_le names
    rw [List.flatMap_cons, size_append, List.map_cons]
    show _ ≤ (joined names).length + size (files.map joined)
    omega

/-- Nothing is lost only where every path is plain. -/
theorem isPlain_of_size_eq {files : List Place}
    (h : size (parseFind (printed files)) = size (files.map joined)) :
    ∀ names ∈ files, IsPlain (joined names) := by
  induction files with
  | nil => nofun
  | cons names files ih =>
    have hle := size_parseFind_findLine_le names
    have hrest := size_parseFind_printed_le files
    have hcons : size ((names :: files).map joined) =
        (joined names).length + size (files.map joined) := rfl
    rw [parseFind_printed] at hrest
    rw [parseFind_printed, List.flatMap_cons, size_append, hcons] at h
    -- Both parts lose nothing, as neither can gain what the other one loses.
    have hnames : IsPlain (joined names) := by
      by_contra hn
      have hlt := size_parseFind_findLine_lt hn
      omega
    have hfiles := ih (by rw [parseFind_printed]; omega)
    intro other ho
    rcases List.mem_cons.1 ho with rfl | ho
    · exact hnames
    · exact hfiles other ho

/-- **The printed paths are read back, in some order, if and only if all of them are plain.** -/
theorem parseFind_printed_perm_iff {files : List Place} (hne : ∀ names ∈ files, joined names ≠ "") :
    (parseFind (printed files)).Perm (files.map joined) ↔
      ∀ names ∈ files, IsPlain (joined names) := by
  constructor
  · exact fun h => isPlain_of_size_eq (size_eq_of_perm h)
  · intro h
    have hone : ∀ names ∈ files, parseFind (findLine names) = [joined names] := fun names hn =>
      parseFind_findLine_of_plain (hne names hn) (h names hn)
    rw [parseFind_printed, List.flatMap_congr hone, ← List.map_eq_flatMap]

/-! ### The two listings -/

variable {tree : Tree} {root : Path} {place : Place} {entries : List (String × Node)}

/-- A walk comes to every visible file of a directory, and nothing stops it. -/
structure Roomy (tree : Tree) (root : Path) (directory : Node) : Prop where
  comes : ∀ names ∈ visibleFiles directory, Comes root names
  unhindered : Unhindered tree root

/-- **The two ways to list files.**  The command prints the visible files in some order. Whatever
the order is, where a walk comes to all of them the two listings agree, up to order, if and only if
the path of every visible file is plain. And where all these paths are plain, they agree if and only
if a walk comes to all of the files. -/
theorem find_sorted_eq_walk_iff (hproper : tree.top.IsProper)
    (h : tree.resolve true root = .ok (place, some (.dir entries)))
    (hn : ∀ names ∈ (Node.dir entries).files, "" ∉ names) :
    (∃ files errors, files.Perm (visibleFiles (.dir entries)) ∧
      find tree root = ofFind 0 (printed files) errors) ∧
    ∀ files errors, files.Perm (visibleFiles (.dir entries)) →
      ∃ found, ofFind 0 (printed files) errors = .ok found ∧
        (Roomy tree root (.dir entries) →
          (walk tree root false = .ok (sorted found) ↔
            ∀ names ∈ visibleFiles (.dir entries), IsPlain (joined names))) ∧
        ((∀ names ∈ visibleFiles (.dir entries), IsPlain (joined names)) →
          (walk tree root false = .ok (sorted found) ↔ Roomy tree root (.dir entries))) := by
  have hne : ∀ names ∈ visibleFiles (.dir entries), joined names ≠ "" := fun names hv =>
    have hf := (List.mem_filter.1 hv).1
    joined_ne_empty (ne_nil_of_mem_entryFiles hf) (hn names hf)
  refine ⟨⟨_, "", List.reverse_perm _, by rw [find, h]; rfl⟩, fun files errors hp => ?_⟩
  have hmap := hp.map joined
  -- The order in which the command prints does not count, for what is read nor for being plain.
  have hplain : (parseFind (printed files)).Perm ((visibleFiles (.dir entries)).map joined) ↔
      ∀ names ∈ visibleFiles (.dir entries), IsPlain (joined names) := by
    have hsame : (∀ names ∈ files, IsPlain (joined names)) ↔
        ∀ names ∈ visibleFiles (.dir entries), IsPlain (joined names) :=
      forall_congr' fun names => by rw [hp.mem_iff]
    rw [← hsame, ← parseFind_printed_perm_iff fun names hm => hne names (hp.mem_iff.1 hm)]
    exact ⟨fun hl => hl.trans hmap.symm, fun hl => hl.trans hmap⟩
  have hwalk : walk tree root false = .ok (sorted (parseFind (printed files))) ↔
      Unhindered tree root ∧ (parseFind (printed files)).Perm
        (((visibleFiles (.dir entries)).filter fun names => Comes root names).map joined) := by
    rw [walk_plain_eq_ok_iff hproper h, sorted_eq_sorted_iff]
  have hfilter : Roomy tree root (.dir entries) →
      (visibleFiles (.dir entries)).filter (fun names => Comes root names) =
        visibleFiles (.dir entries) := fun hroomy =>
    List.filter_eq_self.2 fun names hm => decide_eq_true (hroomy.comes names hm)
  refine ⟨_, rfl, fun hroomy => ?_, fun hall => ?_⟩
  · rw [hwalk, hfilter hroomy, hplain, and_iff_right hroomy.unhindered]
  · have hfound := hplain.2 hall
    rw [hwalk]
    constructor
    · rintro ⟨hfree, hperm⟩
      refine ⟨fun names hm => ?_, hfree⟩
      -- as many files are left as there were, so none was passed over
      have hlength := (hfound.symm.trans hperm).length_eq
      rw [List.length_map, List.length_map] at hlength
      exact of_decide_eq_true (List.length_filter_eq_length_iff.1 hlength.symm names hm)
    · intro hroomy
      rw [hfilter hroomy]
      exact ⟨hroomy.unhindered, hfound⟩

/-- A directory with hidden entries, a link to a file and a file below another directory. -/
def plainEntries : List (String × Node) :=
  [(".git", .dir [("a b", .file .empty)]), ("a.rb", .file .empty), ("link", .link "a.rb"),
    ("sub", .dir [(".a", .file .empty), ("b.rb", .file .empty)])]

/-- The blank in a hidden directory does not count, so the two listings of it agree. -/
theorem find_sorted_eq_walk_iff_plain :
    (Node.dir plainEntries).IsProper ∧
      Tree.resolve ⟨.dir plainEntries, []⟩ true ⟨0, []⟩ = .ok ([], some (.dir plainEntries)) ∧
      (∀ names ∈ (Node.dir plainEntries).files, "" ∉ names) ∧
      Roomy ⟨.dir plainEntries, []⟩ ⟨0, []⟩ (.dir plainEntries) ∧
      ∃ found, find ⟨.dir plainEntries, []⟩ ⟨0, []⟩ = .ok found ∧
        walk ⟨.dir plainEntries, []⟩ ⟨0, []⟩ false = .ok (sorted found) ∧
        (sorted found).Perm ["a.rb", "sub/b.rb"] := by
  have hproper : (Node.dir plainEntries).IsProper := by decide
  have hr : Tree.resolve ⟨.dir plainEntries, []⟩ true ⟨0, []⟩ =
      .ok ([], some (.dir plainEntries)) := Tree.resolve_here ..
  have hn : ∀ names ∈ (Node.dir plainEntries).files, "" ∉ names := by decide
  have hplain : ∀ names ∈ visibleFiles (.dir plainEntries), IsPlain (joined names) := by
    have hall : (visibleFiles (.dir plainEntries)).all fun names =>
        (joined names).toList.all fun c => !isSpecial c := by decide
    intro names hm c hc
    exact Bool.not_eq_true' _ ▸ List.all_eq_true.1 (List.all_eq_true.1 hall names hm) c hc
  have hvisit : visit (view ⟨.dir plainEntries, []⟩ ⟨0, []⟩ false) [] [] (.dir plainEntries) =
      .ok [["a.rb"], ["sub", "b.rb"]] := rfl
  have hroomy : Roomy ⟨.dir plainEntries, []⟩ ⟨0, []⟩ (.dir plainEntries) :=
    ⟨by decide, ((walk_plain_eq_ok_iff hproper hr).1 (walk_of_visit hr hvisit)).1⟩
  obtain ⟨⟨files, errors, hp, hfind⟩, hall⟩ := find_sorted_eq_walk_iff hproper hr hn
  obtain ⟨found, hfound, hiff, -⟩ := hall files errors hp
  have hread : found = ["sub/b.rb", "a.rb"] := by
    have hf := hfind.trans hfound
    rw [find, hr] at hf
    obtain rfl := Except.ok.inj hf
    decide
  refine ⟨hproper, hr, hn, hroomy, found, hfind.trans hfound, (hiff hroomy).2 hplain, ?_⟩
  rw [hread]
  exact (sorted_perm _).trans (.swap ..)

/-- A file with a blank in its name is listed under its name by a walk, and under the part before
the blank, which is the name of no file, by the `find` command. -/
theorem find_ne_walk_of_blank :
    Tree.resolve ⟨.dir [("a b", .file .empty)], []⟩ true ⟨0, []⟩ =
        .ok ([], some (.dir [("a b", .file .empty)])) ∧
      find ⟨.dir [("a b", .file .empty)], []⟩ ⟨0, []⟩ = .ok ["a"] ∧
      walk ⟨.dir [("a b", .file .empty)], []⟩ ⟨0, []⟩ false = .ok ["a b"] := by
  have hr : Tree.resolve ⟨.dir [("a b", .file .empty)], []⟩ true ⟨0, []⟩ =
      .ok ([], some (.dir [("a b", .file .empty)])) := Tree.resolve_here ..
  have hvisit : visit (view ⟨.dir [("a b", .file .empty)], []⟩ ⟨0, []⟩ false) [] []
      (.dir [("a b", .file .empty)]) = .ok [["a b"]] := rfl
  refine ⟨hr, ?_, ?_⟩
  · rw [find, hr]
    decide
  · exact (walk_of_visit hr hvisit).trans (congrArg _ (List.mergeSort_singleton _))

end Listing
end TestSelection
