/-
# Which of several ignore files decides

The rules of all ignore files on the way to a file can be read as one list, from the first line of
the outermost file to the last line of the innermost one. The last rule in it that matches could
decide about the file (`lastRule?`), so that an inner file takes back what an outer one ignores. A
walk does otherwise: what one ignore file ignores is ignored, whatever the others say. So it leaves
out the files that the last rule ignores, and besides those that an ignore file ignores but a later
rule takes back, or a directory on the way to which this happens (`Overruled`,
`skips_iff_lastRule`).
-/

import TestSelection.Proofs.Listing.Elsewhere

namespace TestSelection
namespace Listing

/-- A rule and the directory that it is relative to. -/
abbrev PlacedRule := Place × Ignore.Rule

/-- The rules of some ignore files, in the order of the files and of the lines in each. -/
def linesOf (held : Rules) : List PlacedRule :=
  held.flatMap fun own => own.2.rules.map (own.1, ·)

/-- Whether a rule matches what the names lead to. -/
def PlacedRule.isMatch (names : Place) (directory : Bool) (rule : PlacedRule) : Bool :=
  rule.2.shape.isMatch (Ignore.relative
    (joined (names.drop rule.1.length) ++ if directory then "/" else "").toList)

/-- The last of some rules that matches. -/
def lastMatch? (rules : List PlacedRule) (names : Place) (directory : Bool) : Option Ignore.Rule :=
  (rules.reverse.find? (PlacedRule.isMatch names directory)).map Prod.snd

/-- The ignore files of the directories on the way, from the outermost one. -/
def rulesAbove (load : Loader) (names : Place) : Rules :=
  (names.inits.filter (· ≠ names)).flatMap (ownRules load)

/-- The last rule of all ignore files on the way that matches. -/
def lastRule? (load : Loader) (names : Place) (directory : Bool) : Option Ignore.Rule :=
  lastMatch? (linesOf (rulesAbove load names)) names directory

/-- The last rule on the way that matches says that the names are ignored. -/
def Ignored (load : Loader) (names : Place) (directory : Bool) : Prop :=
  ∃ rule, lastRule? load names directory = some rule ∧ rule.ignores = true

/-- One of the ignore files on the way ignores the names, and a later one takes that back. -/
def Overruled (load : Loader) (names : Place) (directory : Bool) : Prop :=
  isIgnored (rulesAbove load names) names directory = true ∧
    ∃ rule, lastRule? load names directory = some rule ∧ rule.ignores = false

variable {load load' : Loader} {held : Rules} {own : Place × Ignore.Spec} {directory : Bool}
  {names : Place} {rules others : List PlacedRule} {rule : Ignore.Rule}

/-! ### The last rule of several files -/

/-- The last match among more rules is among the new ones, if one of them matches. -/
theorem lastMatch?_append : lastMatch? (rules ++ others) names directory =
    (lastMatch? others names directory).or (lastMatch? rules names directory) := by
  rw [lastMatch?, List.reverse_append, List.find?_append, Option.map_or]
  rfl

/-- One ignore file ignores what the last of its rules that matches ignores. -/
theorem isIgnored_singleton : isIgnored [own] names directory =
    (lastMatch? (own.2.rules.map (own.1, ·)) names directory).any (·.ignores) := by
  have hlast : lastMatch? (own.2.rules.map (own.1, ·)) names directory =
      own.2.rules.reverse.find? fun rule => rule.shape.isMatch (Ignore.relative
        (joined (names.drop own.1.length) ++ if directory then "/" else "").toList) := by
    rw [lastMatch?, ← List.map_reverse, List.find?_map, Option.map_map]
    exact Option.map_id'
  have hself : isIgnored [own] names directory =
      own.2.ignores (joined (names.drop own.1.length) ++ if directory then "/" else "") :=
    Bool.or_false _
  -- The file looks for its last rule that matches, and so does `lastMatch?` among the placed ones.
  rw [hlast, hself, Ignore.Spec.ignores, Ignore.decides]
  cases own.2.rules.reverse.find? _ <;> rfl

/-- The rules of several ignore files: the first file, and the others after it. -/
theorem lastMatch?_linesOf_cons : lastMatch? (linesOf (own :: held)) names directory =
    (lastMatch? (linesOf held) names directory).or
      (lastMatch? (own.2.rules.map (own.1, ·)) names directory) := by
  rw [linesOf, List.flatMap_cons, lastMatch?_append]
  rfl

/-- The rules of the outermost directory decide if they ignore, and the rest otherwise. This is the
order that lets a deeper `!` line go unheard. -/
theorem isIgnored_cons : isIgnored (own :: held) names directory =
    ((lastMatch? (own.2.rules.map (own.1, ·)) names directory).any (·.ignores) ||
      isIgnored held names directory) := by
  rw [← isIgnored_singleton]
  exact (isIgnored_append : isIgnored ([own] ++ held) names directory = _)

/-- What the last rule of several files says is said by the last rule of one of them. -/
theorem isIgnored_of_lastMatch? (h : lastMatch? (linesOf held) names directory = some rule)
    (hrule : rule.ignores = true) : isIgnored held names directory = true := by
  induction held with
  | nil => cases h
  | cons own held ih =>
    rw [isIgnored_cons, Bool.or_eq_true]
    rw [lastMatch?_linesOf_cons, Option.or_eq_some_iff] at h
    obtain h | ⟨-, h⟩ := h
    · exact .inr (ih h)
    · exact .inl (by rw [h, Option.any_some, hrule])

/-- Where some file ignores something, one of the rules matches. -/
theorem exists_lastMatch? (h : isIgnored held names directory = true) :
    ∃ rule, lastMatch? (linesOf held) names directory = some rule := by
  induction held with
  | nil => cases h
  | cons own held ih =>
    rw [isIgnored_cons, Bool.or_eq_true] at h
    rw [lastMatch?_linesOf_cons]
    -- A rule of a later file counts first; if none of them matches, these files ignore nothing.
    cases hlater : lastMatch? (linesOf held) names directory with
    | some rule => exact ⟨rule, rfl⟩
    | none =>
      obtain h | h := h
      · obtain ⟨rule, hr, -⟩ := (Option.any_eq_true ..).1 h
        exact ⟨rule, hr⟩
      · obtain ⟨rule, hr⟩ := ih h
        exact absurd (hlater.symm.trans hr) nofun

/-- What some file on the way ignores is ignored by the last rule, or was overruled. -/
theorem isIgnored_rulesAbove_iff : isIgnored (rulesAbove load names) names directory = true ↔
    Ignored load names directory ∨ Overruled load names directory := by
  constructor
  · intro h
    obtain ⟨rule, hlast⟩ := exists_lastMatch? h
    cases hrule : rule.ignores with
    | true => exact .inl ⟨rule, hlast, hrule⟩
    | false => exact .inr ⟨h, rule, hlast, hrule⟩
  · rintro (⟨rule, hlast, hrule⟩ | ⟨h, -⟩)
    · exact isIgnored_of_lastMatch? hlast hrule
    · exact h

/-- A file is kept if no file on the way ignores it, or a directory that it is in. -/
theorem kept_iff_rulesAbove : Kept load directory names ↔ ∀ front ∈ names.inits,
    isIgnored (rulesAbove load front) front (directory || decide (front ≠ names)) = false := by
  have habove : ∀ front flag, isIgnored (rulesAbove load front) front flag = false ↔
      ∀ base ∈ front.inits, base ≠ front → isIgnored (ownRules load base) front flag = false := by
    intro front flag
    simp [isIgnored, rulesAbove, List.any_flatMap]
  simp only [kept_iff_inits, habove]

/-! ### Files that a walk leaves out -/

variable {tree : Tree} {root : Path} {path : String}

/-- **Which files a walk leaves out.**  Where the last rule on the way to a directory of the file
never ignores this directory, the file is left out if the last rule ignores it, or if it or one of
these directories is overruled. So the last rule decides exactly if nothing is overruled that it
does not ignore itself. -/
theorem skips_iff_lastRule (h : Walkable tree root) (hlists : Lists tree root false path)
    (hparents : ∀ front, OnWay (namesOf path) front → ¬Ignored (loader tree root true) front true) :
    (¬Lists tree root true path ↔ Ignored (loader tree root true) (namesOf path) false ∨
      ∃ front ∈ (namesOf path).inits,
        Overruled (loader tree root true) front (decide (front ≠ namesOf path))) ∧
    ((¬Lists tree root true path ↔ Ignored (loader tree root true) (namesOf path) false) ↔
      ((∃ front ∈ (namesOf path).inits,
        Overruled (loader tree root true) front (decide (front ≠ namesOf path))) →
          Ignored (loader tree root true) (namesOf path) false)) := by
  have hskips : ¬Lists tree root true path ↔ ∃ front ∈ (namesOf path).inits,
      Ignored (loader tree root true) front (decide (front ≠ namesOf path)) ∨
        Overruled (loader tree root true) front (decide (front ≠ namesOf path)) := by
    rw [h.lists_iff (hlists.unhindered h.proper), and_iff_right hlists, kept_iff_rulesAbove]
    simp only [not_forall, Bool.not_eq_false, Bool.false_or, isIgnored_rulesAbove_iff, exists_prop]
  have hself : namesOf path ∈ (namesOf path).inits := (List.mem_inits ..).2 List.prefix_rfl
  -- By `hparents` only the file itself can be ignored by a last rule, and none of the directories.
  have hignored : ∀ front ∈ (namesOf path).inits,
      Ignored (loader tree root true) front (decide (front ≠ namesOf path)) →
        Ignored (loader tree root true) (namesOf path) false := by
    intro front hfront hi
    by_cases he : front = namesOf path
    · subst he
      simpa using hi
    · rw [decide_eq_true he] at hi
      exact absurd hi (hparents front ⟨(List.mem_inits ..).1 hfront, he⟩)
  have hall : ¬Lists tree root true path ↔
      Ignored (loader tree root true) (namesOf path) false ∨ ∃ front ∈ (namesOf path).inits,
        Overruled (loader tree root true) front (decide (front ≠ namesOf path)) := by
    rw [hskips]
    constructor
    · rintro ⟨front, hfront, hi | ho⟩
      · exact .inl (hignored front hfront hi)
      · exact .inr ⟨front, hfront, ho⟩
    · rintro (hi | ⟨front, hfront, ho⟩)
      · exact ⟨_, hself, .inl (by simpa using hi)⟩
      · exact ⟨front, hfront, .inr ho⟩
  refine ⟨hall, ?_⟩
  rw [hall]
  exact or_iff_left_iff_imp

/-! ### Two ignore files -/

/-- The rules of two directories of which one is in the other one. -/
def nestedRules (outer inner : Option Ignore.Spec) : Loader := fun names =>
  if names = [] then .ok outer else if names = ["a"] then .ok inner else .ok none

/-- The last rule depends on the rules of the directories on the way. -/
theorem lastRule?_congr (h : ∀ base, OnWay names base → load' base = load base) :
    lastRule? load' names directory = lastRule? load names directory := by
  have hrules : rulesAbove load' names = rulesAbove load names := by
    refine List.flatMap_congr fun base hb => ?_
    obtain ⟨hm, hne⟩ := List.mem_filter.1 hb
    rw [ownRules, ownRules, h base ⟨(List.mem_inits ..).1 hm, of_decide_eq_true hne⟩]
  rw [lastRule?, lastRule?, hrules]

section

variable {text : Option String} {inA inB : List (String × Node)} {outer inner : Option Ignore.Spec}

/-- In two nested directories the last rule is found among their rules. -/
theorem lastRule?_pair
    (hload : ∀ base ∈ [[], ["a"]], Ignore.load (pair text inA inB) ((Path.ofText ".").below base) =
      nestedRules outer inner base) :
    ∀ front ∈ [[], ["a"], ["a", "x"]],
      lastRule? (loader (pair text inA inB) (.ofText ".") true) front directory =
        lastRule? (nestedRules outer inner) front directory := by
  have hbases : ∀ front ∈ [[], ["a"], ["a", "x"]], ∀ base ∈ front.inits, base ≠ front →
      base ∈ [[], ["a"]] := by
    decide
  intro front hfront
  exact lastRule?_congr fun base hb =>
    hload base (hbases front hfront base ((List.mem_inits ..).2 hb.1) hb.2)

/-- Where no rule matches the inner directory, it is not ignored. -/
theorem not_ignored_pair
    (hload : ∀ base ∈ [[], ["a"]], Ignore.load (pair text inA inB) ((Path.ofText ".").below base) =
      nestedRules outer inner base)
    (hnone : ∀ front ∈ [[], ["a"]], lastRule? (nestedRules outer inner) front true = none) :
    ∀ front, OnWay (namesOf "a/x") front →
      ¬Ignored (loader (pair text inA inB) (.ofText ".") true) front true := by
  have hsub : ∀ front ∈ [[], ["a"]], front ∈ [[], ["a"], ["a", "x"]] := by decide
  rintro front hfront ⟨rule, hlast, -⟩
  have hm : front ∈ [[], ["a"]] := by
    simpa using base_of_onWay (by decide : "a" ∈ ["a", "b"]) hfront
  rw [lastRule?_pair hload front (hsub front hm), hnone front hm] at hlast
  cases hlast

end

/-- The file that the one ignore file on the way ignores is left out. -/
theorem skips_iff_lastRule_siblings :
    Walkable siblings (.ofText ".") ∧ Lists siblings (.ofText ".") false "a/x" ∧
      (∀ front, OnWay (namesOf "a/x") front →
        ¬Ignored (loader siblings (.ofText ".") true) front true) ∧
      ¬Lists siblings (.ofText ".") true "a/x" := by
  have hnames : namesOf "a/x" = ["a", "x"] := by decide +kernel
  have hload : ∀ base ∈ [[], ["a"]], Ignore.load siblings ((Path.ofText ".").below base) =
      nestedRules none (some ⟨[ruleX]⟩) base := by
    rw [List.forall_mem_cons, List.forall_mem_singleton]
    exact ⟨load_pair_of_missing (by decide) rfl,
      (load_pair_of_file (by decide) rfl).trans ofText_ignoresX⟩
  have hparents := not_ignored_pair hload (by decide +kernel)
  have hlists : Lists siblings (.ofText ".") false "a/x" :=
    lists_pair_plain (by decide : "a" ∈ ["a", "b"]) walkable_siblings.proper unhindered_siblings rfl
  have hlast : lastRule? (nestedRules none (some ⟨[ruleX]⟩)) ["a", "x"] false = some ruleX := by
    decide +kernel
  have hignored : Ignored (loader siblings (.ofText ".") true) (namesOf "a/x") false := by
    rw [hnames]
    exact ⟨ruleX, (lastRule?_pair hload _ (by decide)).trans hlast, rfl⟩
  refine ⟨walkable_siblings, hlists, hparents, ?_⟩
  exact (skips_iff_lastRule walkable_siblings hlists hparents).1.2 (.inl hignored)

/-- A directory whose ignore file ignores what is called `x`, and in it another one whose ignore
file takes that back. -/
def reincluding : Tree := pair (some "x\n") [ignoreFile "!x\n", fileX] [fileX]

/-- **A later rule takes nothing back.**  The last rule on the way that matches the file says that
it is not ignored, nothing ignores the directory that it is in, and it is left out. -/
theorem skips_reincluded :
    Walkable reincluding (.ofText ".") ∧ Lists reincluding (.ofText ".") false "a/x" ∧
      (∀ front, OnWay (namesOf "a/x") front →
        ¬Ignored (loader reincluding (.ofText ".") true) front true) ∧
      ¬Ignored (loader reincluding (.ofText ".") true) (namesOf "a/x") false ∧
      ¬Lists reincluding (.ofText ".") true "a/x" := by
  have hnames : namesOf "a/x" = ["a", "x"] := by decide +kernel
  have hback : Ignore.Spec.ofText "!x\n" = .ok (some ⟨[⟨false, ruleX.shape⟩]⟩) := by decide +kernel
  have hload : ∀ base ∈ [[], ["a"]], Ignore.load reincluding ((Path.ofText ".").below base) =
      nestedRules (some ⟨[ruleX]⟩) (some ⟨[⟨false, ruleX.shape⟩]⟩) base := by
    rw [List.forall_mem_cons, List.forall_mem_singleton]
    exact ⟨(load_pair_of_file (by decide) rfl).trans ofText_ignoresX,
      (load_pair_of_file (by decide) rfl).trans hback⟩
  have hwalkable : Walkable reincluding (.ofText ".") := by
    refine walkable_pair (by decide +kernel) (by simp [fileX, ignoreFile, Node.item]) ?_
    rw [inPair, List.forall_mem_cons, List.forall_mem_cons, List.forall_mem_singleton]
    exact ⟨⟨_, hload [] (by decide)⟩, ⟨_, hload ["a"] (by decide)⟩,
      ⟨_, load_pair_of_missing (by decide) rfl⟩⟩
  have hfree : Unhindered reincluding (.ofText ".") := unhindered_pair hwalkable.proper rfl
  have hlists : Lists reincluding (.ofText ".") false "a/x" :=
    lists_pair_plain (by decide : "a" ∈ ["a", "b"]) hwalkable.proper hfree rfl
  refine ⟨hwalkable, hlists, not_ignored_pair hload (by decide +kernel), ?_, ?_⟩
  · rintro ⟨rule, hlast, hrule⟩
    rw [hnames] at hlast
    have hall := (lastRule?_pair hload ["a", "x"] (by decide)).symm.trans hlast
    have hback : lastRule? (nestedRules (some ⟨[ruleX]⟩) (some ⟨[⟨false, ruleX.shape⟩]⟩)) ["a", "x"]
        false = some ⟨false, ruleX.shape⟩ := by
      decide +kernel
    obtain rfl := Option.some.inj (hback.symm.trans hall)
    cases hrule
  · intro hl
    have hkept := ((hwalkable.lists_iff hfree).1 hl).2 [] ["a", "x"] [] hnames
      (List.cons_ne_nil _ _) _ (hload [] (by decide))
    exact absurd hkept (by decide +kernel)

end Listing
end TestSelection
