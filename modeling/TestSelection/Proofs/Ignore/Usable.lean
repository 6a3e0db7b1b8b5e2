/-
# Ignore files that can be used

The rules of an ignore file are loaded if it can be told whether it is there, and if all of its
lines are good ones (`exists_load_iff`). Which rules that are depends on nothing but what is read at
its path (`load_of_leads`).
-/

import TestSelection.Ignore.File
import TestSelection.Proofs.Outcome
import TestSelection.Proofs.Text.Lines
import TestSelection.Proofs.Tree.Linkless

namespace TestSelection

namespace Ignore

/-- Every line of a text that may hold a rule is a good one. -/
def Accepted (s : String) : Prop :=
  ∀ line ∈ (Text.lines (Text.unifyLineEnds s.toList)).filter isUseful,
    ∃ rule, ruleOfLine line = .ok rule

/-- The ignore file of a directory can be used: whether it is there can be told, and if it has a
text, its lines are accepted. -/
structure Usable (tree : Tree) (directory : Path) : Prop where
  told : ∃ there, tree.isFile (directory.under fileName) = .ok there
  accepted : ∀ content s, tree.read (directory.under fileName) = .ok content →
    String.fromUTF8? content = some s → Accepted s

variable {tree : Tree} {directory : Path} {lines : List (List Char)} {s : String}

/-- The rules of a file can be used when each line of it is one: the first bad line is the only way
to fail. -/
theorem exists_rulesOfLines_iff :
    (∃ rules, rulesOfLines lines = .ok rules) ↔
      ∀ line ∈ lines, ∃ rule, ruleOfLine line = .ok rule := by
  induction lines with
  | nil => exact ⟨fun _ => nofun, fun _ => ⟨[], rfl⟩⟩
  | cons line rest ih =>
    rw [List.forall_mem_cons, ← ih, rulesOfLines]
    simp only [Outcome.bind_eq_ok_iff]
    constructor
    · rintro ⟨_, rule, hrule, rules, hrules, -⟩
      exact ⟨⟨rule, hrule⟩, rules, hrules⟩
    · rintro ⟨⟨rule, hrule⟩, rules, hrules⟩
      exact ⟨_, rule, hrule, rules, hrules, rfl⟩

/-- The rules of a text can be read if its lines are accepted. -/
theorem exists_ofText_iff : (∃ own, Spec.ofText s = .ok own) ↔ Accepted s := by
  rw [Accepted, ← exists_rulesOfLines_iff, Spec.ofText]
  split
  · next hl =>
    rw [hl]
    exact ⟨fun _ => ⟨[], rfl⟩, fun _ => ⟨none, rfl⟩⟩
  · simp only [Outcome.map_eq_ok_iff]
    constructor
    · rintro ⟨_, rules, hrules, -⟩
      exact ⟨rules, hrules⟩
    · rintro ⟨rules, hrules⟩
      exact ⟨_, rules, hrules, rfl⟩

/-- **The rules of a directory are loaded** if its ignore file can be used. -/
theorem exists_load_iff : (∃ own, load tree directory = .ok own) ↔ Usable tree directory := by
  cases ht : tree.isFile (directory.under fileName) with
  | error fault =>
    have hload : load tree directory = .error (.file fault) := by
      rw [load, ht]
      rfl
    refine iff_of_false ?_ ?_
    · rintro ⟨own, h⟩
      cases hload.symm.trans h
    · rintro ⟨⟨there, h⟩, -⟩
      cases ht.symm.trans h
  | ok there =>
    cases htext : (tree.read (directory.under fileName)).toOption.bind String.fromUTF8? with
    | none =>
      have hload : load tree directory = .ok none := by
        rw [load, ht, htext]
        cases there <;> rfl
      refine iff_of_true ⟨none, hload⟩ ⟨⟨there, ht⟩, fun content s hc hs => ?_⟩
      rw [hc] at htext
      cases hs.symm.trans htext
    | some s =>
      obtain ⟨content, hc, hs⟩ := Option.bind_eq_some_iff.1 htext
      replace hc : tree.read (directory.under fileName) = .ok content := by
        cases hr : tree.read (directory.under fileName) with
        | error fault => rw [hr] at hc; cases hc
        | ok found => rw [hr] at hc; exact congrArg _ (Option.some.inj hc)
      obtain rfl : there = true := Except.ok.inj (ht.symm.trans (Tree.isFile_iff_read.2 ⟨_, hc⟩))
      have hload : load tree directory = Spec.ofText s := by
        rw [load, ht, htext]
        rfl
      rw [hload, exists_ofText_iff]
      refine ⟨fun h => ⟨⟨true, ht⟩, fun content' s' hc' hs' => ?_⟩, fun h => h.accepted _ _ hc hs⟩
      obtain rfl := Except.ok.inj (hc.symm.trans hc')
      rwa [← Option.some.inj (hs.symm.trans hs')]

/-! ### Paths of ignore files -/

open TestSelection.Tree (IsEntryName)

variable {root : Path} {p r names : Place}

/-- The file of a directory's rules is its entry of that name. -/
theorem under_fileName (directory : Path) :
    directory.under fileName = directory.below [fileName] := by
  have hname : Path.ofText fileName = ⟨0, [fileName]⟩ := by decide
  rw [Path.under_eq_below (by rw [hname]), hname]

/-- The way to that file is made of entry names, if the way to the directory is. -/
theorem isEntryName_concat (h : ∀ name ∈ names, IsEntryName name) :
    ∀ name ∈ names ++ [fileName], IsEntryName name := by
  intro name hm
  rcases List.mem_append.1 hm with hm | hm
  · exact h name hm
  · rw [List.mem_singleton.1 hm]
    exact ⟨by decide, by decide, by decide⟩

/-- The rules of an ignore file are those of the text that its path leads to. -/
theorem load_of_leads (h : tree.Leads true (directory.under fileName) p)
    (hfile : tree.item? p = some (.file s.toUTF8)) : load tree directory = Spec.ofText s := by
  obtain ⟨node, hn, hi⟩ := Node.item?_eq_some.1 hfile
  cases node with
  | link | dir => cases hi
  | file content =>
    obtain rfl := Item.file.inj hi
    have hread : tree.read (directory.under fileName) = .ok s.toUTF8 := by
      rw [Tree.read, h.resolve_eq, hn]
      rfl
    rw [load, Tree.isFile_iff_read.2 ⟨_, hread⟩, hread]
    simp only [Except.mapError, bind, Except.bind, if_true, Except.toOption, Option.bind_some,
      Text.fromUTF8?_toUTF8]

/-- There are no rules where nothing stands. -/
theorem load_of_leads_missing (h : tree.Leads true (directory.under fileName) p)
    (hnone : tree.item? p = none) : load tree directory = .ok none := by
  rw [load, Tree.isFile, h.resolve_eq, Node.item?_eq_none.1 hnone]
  rfl

/-- There are no rules where there is no ignore file. -/
theorem load_of_missing (hlinks : tree.top.IsLinkless) (hroot : tree.Leads true root r)
    (hdir : tree.item? r = some .directory) (hnames : ∀ name ∈ names, IsEntryName name)
    (hroom : Tree.textFault? ((root.below names).under fileName).text = none)
    (hnone : tree.item? (r ++ (names ++ [fileName])) = none) :
    load tree (root.below names) = .ok none := by
  rw [under_fileName, Path.below_below] at hroom
  obtain ⟨b, hb, hiff⟩ := Tree.isFile_below hlinks hroot hdir (isEntryName_concat hnames) hroom
  have hfalse : b = false := Bool.eq_false_iff.2 fun ht => by
    obtain ⟨content, hc⟩ := hiff.1 ht
    exact absurd (hnone.symm.trans hc) nofun
  rw [load, under_fileName, Path.below_below, hb, hfalse]
  rfl

end Ignore
end TestSelection
