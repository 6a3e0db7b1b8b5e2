/-
# What a walk finds

A walk looks at the names on the way to a file one by one, each time with the rules that hold in the
directory above. Seen from the file, that is one condition on its names (`spares`): the directories
on the way can be opened, no name is hidden, and the rules of these directories ignore neither the
file nor a directory on the way to it.

A walk fails in a directory that is nested too deeply, and in one that it opens if the rules there
cannot be read or the path of an entry is too long (`Passable`). It finds the files that are spared,
in the order in which the tree has them, if it passes every directory that it comes to
(`visit_eq_ok_iff`), and fails otherwise.
-/

import TestSelection.Proofs.Listing.Paths
import TestSelection.Proofs.Outcome

namespace TestSelection
namespace Listing

/-- The rules of the ignore file in a directory, as far as they can be read. -/
def ownRules (load : Loader) (names : Place) : Rules :=
  match load names with
  | .ok own => own.toList.map (names, ·)
  | .error _ => []

/-- Whether a walk from a directory comes to what the names below it lead to, with the rules that
hold in the directory: it can be opened, the first name is not hidden, no rule ignores what it leads
to, and so on from there. All of that are directories, and so is the end if `directory`. -/
def spares (view : View) (directory : Bool) (held : Rules) (names : Place) : Place → Bool
  | [] => true
  | name :: rest =>
    let inner := names ++ [name]
    view.opens names && !isHidden name && !isIgnored held inner (directory || !rest.isEmpty) &&
      spares view directory (held ++ ownRules view.load inner) inner rest

/-- A walk passes a directory: it is not nested too deeply, and if it can be opened, its rules can
be read and the paths of the entries that are looked at are in order. -/
structure Passable (view : View) (names : Place) (entries : List (String × Node)) : Prop where
  shallow : names.length ≤ deepestWalk
  loads : view.opens names = true → ∃ own, view.load names = .ok own
  fits : view.opens names = true → ∀ entry ∈ entries, isHidden entry.1 = false →
    isDirectory entry.2 = false → view.fault? (names ++ [entry.1]) = none

/-- A walk passes every directory that it comes to. -/
def Passes (view : View) (rules : Rules) (names : Place) (node : Node) : Prop :=
  ∀ rest entries, node.at? rest = some (.dir entries) →
    spares view true (rules ++ ownRules view.load names) names rest = true →
      Passable view (names ++ rest) entries

variable {view : View} {rules held : Rules} {names rest : Place} {name : String}
  {node : Node} {entries : List (String × Node)} {found : List Place} {directory : Bool}

/-- Rules that can be read are the own ones. -/
theorem ownRules_of_eq_ok {load : Loader} {own : Option Ignore.Spec} (h : load names = .ok own) :
    ownRules load names = own.toList.map (names, ·) := by
  rw [ownRules, h]

/-! ### One directory -/

/-- Looking at the entries of a directory succeeds if the path of each of them is in order. -/
theorem check_eq_ok_iff : view.check names entries = .ok () ↔
    ∀ entry ∈ entries, isHidden entry.1 = false → isDirectory entry.2 = false →
      view.fault? (names ++ [entry.1]) = none := by
  have hentry : ∀ entry, view.entryFault? names entry = none ↔
      (isHidden entry.1 = false → isDirectory entry.2 = false →
        view.fault? (names ++ [entry.1]) = none) := by
    intro entry
    rw [View.entryFault?]
    cases isHidden entry.1 <;> cases isDirectory entry.2 <;> simp
  rw [View.check]
  cases hfault : entries.findSome? (view.entryFault? names) with
  | none =>
    rw [List.findSome?_eq_none_iff] at hfault
    exact iff_of_true rfl fun entry hm => (hentry entry).1 (hfault entry hm)
  | some fault =>
    obtain ⟨entry, hm, he⟩ := List.exists_of_findSome?_eq_some hfault
    refine iff_of_false nofun fun h => ?_
    rw [(hentry entry).2 (h entry hm)] at he
    cases he

/-- Whether a walk enters or takes an entry of a directory. -/
def admits (held : Rules) (names : Place) (name : String) (node : Node) : Bool :=
  !isHidden name && !isIgnored held (names ++ [name]) (isDirectory node)

/-- What a walk comes to below an entry: the entry is admitted, and the walk goes on from there. -/
theorem spares_cons (hopen : view.opens names = true)
    (h : directory = true ∧ isDirectory node = true ∨ directory = false ∧ rest ∈ node.files) :
    spares view directory held names (name :: rest) = (admits held names name node &&
      spares view directory (held ++ ownRules view.load (names ++ [name])) (names ++ [name])
        rest) := by
  have hkind : (directory || !rest.isEmpty) = isDirectory node := by
    rcases h with ⟨rfl, hd⟩ | ⟨rfl, hf⟩
    · exact hd.symm
    · cases node with
      | file =>
        obtain rfl := List.mem_singleton.1 hf
        rfl
      | link => exact absurd hf nofun
      | dir entries =>
        have hne : rest ≠ [] := ne_nil_of_mem_entryFiles hf
        rw [List.isEmpty_eq_false_iff.2 hne]
        rfl
  rw [spares, hkind, admits, hopen, Bool.true_and]

/-- A walk comes to nothing in a directory that cannot be opened. -/
theorem spares_eq_false_of_closed (hopen : view.opens names = false) (hne : rest ≠ []) :
    spares view directory held names rest = false := by
  obtain ⟨name, rest, rfl⟩ := List.exists_cons_of_ne_nil hne
  rw [spares, hopen]
  rfl

/-- The files below an admitted entry are those that are spared below it. -/
theorem filter_spares_map_cons (hopen : view.opens names = true) :
    (node.files.map (name :: ·)).filter (spares view false held names) =
      if admits held names name node then
        (node.files.filter (spares view false (held ++ ownRules view.load (names ++ [name]))
          (names ++ [name]))).map (name :: ·)
      else [] := by
  have hfilter : node.files.filter (spares view false held names ∘ (name :: ·)) =
      node.files.filter fun rest => admits held names name node &&
        spares view false (held ++ ownRules view.load (names ++ [name])) (names ++ [name]) rest :=
    List.filter_congr fun rest hm => spares_cons hopen (.inr ⟨rfl, hm⟩)
  rw [List.filter_map, hfilter]
  cases admits held names name node with
  | true => rfl
  | false => simp

/-- What has a directory in it is one. -/
theorem isDirectory_of_at? {inside : List (String × Node)}
    (h : node.at? rest = some (.dir inside)) : isDirectory node = true := by
  cases node with
  | dir => rfl
  | file | link => cases rest <;> cases h

/-- A walk passes all directories below a directory if it passes this one and, where it can be
opened, those below the entries that are admitted. -/
theorem passes_dir_iff (h : (Node.dir entries).IsProper) :
    Passes view rules names (.dir entries) ↔ Passable view names entries ∧
      (view.opens names = true → ∀ entry ∈ entries,
        admits (rules ++ ownRules view.load names) names entry.1 entry.2 = true →
          Passes view (rules ++ ownRules view.load names) (names ++ [entry.1]) entry.2) := by
  have hassoc : ∀ name rest, names ++ [name] ++ rest = names ++ name :: rest := by simp
  constructor
  · intro hp
    refine ⟨?_, fun hopen entry hm hadmit rest inside hd hs => ?_⟩
    · have hself := hp [] entries rfl rfl
      rwa [List.append_nil] at hself
    -- A directory below an entry is one below this directory, by one name more.
    · obtain ⟨name, node⟩ := entry
      have hat : (Node.dir entries).at? (name :: rest) = some (.dir inside) := by
        rw [Node.at?, (Node.lookup_eq_some_iff h.nodup).2 hm]
        exact hd
      have hspared : spares view true (rules ++ ownRules view.load names) names (name :: rest) =
          true := by
        rw [spares_cons hopen (.inl ⟨rfl, isDirectory_of_at? hd⟩), hadmit, hs]
        rfl
      rw [hassoc]
      exact hp (name :: rest) inside hat hspared
  · rintro ⟨hself, hp⟩ rest inside hd hs
    cases rest with
    | nil =>
      obtain rfl := Node.dir.inj (Option.some.inj hd)
      rwa [List.append_nil]
    | cons name rest =>
      rw [Node.at?] at hd
      -- A directory further down is below the entry that its first name leads to, which is
      -- admitted.
      obtain ⟨node, hlookup, hd⟩ := Option.bind_eq_some_iff.1 hd
      have hopen : view.opens names = true := by
        by_contra hclosed
        rw [spares_eq_false_of_closed (Bool.eq_false_iff.2 hclosed) (List.cons_ne_nil _ _)] at hs
        cases hs
      rw [spares_cons hopen (.inl ⟨rfl, isDirectory_of_at? hd⟩), Bool.and_eq_true] at hs
      rw [← hassoc]
      exact hp hopen _ (Node.mem_of_lookup hlookup) hs.1 rest inside hd hs.2

/-! ### One step of a walk -/

/-- A walk goes into a directory that it passes, if it can be opened, and finds nothing there
otherwise. -/
theorem visit_dir_eq_ok_iff : visit view rules names (.dir entries) = .ok found ↔
    Passable view names entries ∧
      if view.opens names = true then
        visitEntries view (rules ++ ownRules view.load names) names entries = .ok found
      else found = [] := by
  rw [visit]
  by_cases hdeep : deepestWalk < names.length
  · rw [if_pos hdeep]
    exact iff_of_false nofun fun h => absurd h.1.shallow (Nat.not_le.2 hdeep)
  · rw [if_neg hdeep]
    by_cases hopen : view.opens names = true
    · rw [if_pos hopen, if_pos hopen]
      simp only [Outcome.bind_eq_ok_iff]
      constructor
      · rintro ⟨own, ho, _, hc, hv⟩
        rw [ownRules_of_eq_ok ho]
        exact ⟨⟨Nat.not_lt.1 hdeep, fun _ => ⟨own, ho⟩, fun _ => check_eq_ok_iff.1 hc⟩, hv⟩
      · rintro ⟨hself, hv⟩
        obtain ⟨own, ho⟩ := hself.loads hopen
        rw [ownRules_of_eq_ok ho] at hv
        exact ⟨own, ho, (), check_eq_ok_iff.2 (hself.fits hopen), hv⟩
    · have hself : Passable view names entries :=
        ⟨Nat.not_lt.1 hdeep, fun h => absurd h hopen, fun h => absurd h hopen⟩
      rw [if_neg hopen, if_neg hopen, Except.ok.injEq, and_iff_right hself]
      exact eq_comm

/-- One step over the entries of a directory: an entry that is not admitted is left out. -/
theorem visitEntries_cons_of_admits :
    visitEntries view held names ((name, node) :: entries) =
      (if admits held names name node then visit view held (names ++ [name]) node else .ok []) >>=
        fun inside => (visitEntries view held names entries).map (inside ++ ·) := by
  have hstep : ∀ (hidden ignored : Bool) (inside others : Except Ignore.Fault (List Place)),
      (do
        let found ← if hidden || ignored then .ok [] else inside
        let others ← others
        return found ++ others) =
      (if !hidden && !ignored then inside else .ok []) >>= fun found =>
        others.map (found ++ ·) := by
    intro hidden ignored inside others
    cases hidden <;> cases ignored <;> cases inside <;> cases others <;> rfl
  rw [visitEntries, hstep, admits]

/-- The same step as what it takes to succeed: nothing goes wrong inside the entry, nor with the
entries after it. -/
theorem visitEntries_cons_eq_ok_iff :
    visitEntries view held names ((name, node) :: entries) = .ok found ↔
      ∃ inside others, (if admits held names name node then visit view held (names ++ [name]) node
        else .ok []) = .ok inside ∧ visitEntries view held names entries = .ok others ∧
          found = inside ++ others := by
  simp only [visitEntries_cons_of_admits, Outcome.bind_eq_ok_iff, Outcome.map_eq_ok_iff]
  constructor
  · rintro ⟨inside, hi, others, ho, rfl⟩
    exact ⟨inside, others, hi, ho, rfl⟩
  · rintro ⟨inside, others, hi, ho, rfl⟩
    exact ⟨inside, hi, others, ho, rfl⟩

/-! ### A whole walk -/

mutual

/-- **What a walk finds.**  It finds the files that are spared if it passes every directory that it
comes to, and fails otherwise. -/
theorem visit_eq_ok_iff : ∀ {node : Node} {rules : Rules} {names : Place} {found : List Place},
    node.IsProper → (visit view rules names node = .ok found ↔ Passes view rules names node ∧
      found = (node.files.filter
        (spares view false (rules ++ ownRules view.load names) names)).map (names ++ ·))
  | .file content, rules, names, found, _ => by
    have hpasses : Passes view rules names (.file content) := fun rest inside hd =>
      absurd (isDirectory_of_at? hd) nofun
    have hself : names ++ [] = names := List.append_nil names
    rw [visit, Except.ok.injEq, and_iff_right hpasses, eq_comm]
    show found = [names] ↔ found = [names ++ []]
    rw [hself]
  | .link target, rules, names, found, _ => by
    have hpasses : Passes view rules names (.link target) := fun rest inside hd =>
      absurd (isDirectory_of_at? hd) nofun
    rw [visit, Except.ok.injEq, and_iff_right hpasses, eq_comm]
    rfl
  | .dir entries, rules, names, found, h => by
    rw [passes_dir_iff h, visit_dir_eq_ok_iff, and_assoc]
    refine and_congr_right fun _ => ?_
    by_cases hopen : view.opens names = true
    · rw [if_pos hopen, visitEntries_eq_ok_iff hopen fun _ hm => h.child hm,
        forall_prop_of_true hopen]
      rfl
    -- Nothing is found in a directory that cannot be opened, and nothing in it is spared.
    · have hnone : (Node.dir entries).files.filter
          (spares view false (rules ++ ownRules view.load names) names) = [] :=
        List.filter_eq_nil_iff.2 fun rest hm => Bool.eq_false_iff.1 <|
          spares_eq_false_of_closed (Bool.eq_false_iff.2 hopen) (ne_nil_of_mem_entryFiles hm)
      rw [if_neg hopen, hnone, and_iff_right fun h => absurd h hopen]
      rfl

/-- What a walk finds among the entries of a directory that it has opened, with the rules that hold
there. -/
theorem visitEntries_eq_ok_iff : ∀ {entries : List (String × Node)} {held : Rules} {names : Place}
    {found : List Place}, view.opens names = true → (∀ entry ∈ entries, entry.2.IsProper) →
    (visitEntries view held names entries = .ok found ↔
      (∀ entry ∈ entries, admits held names entry.1 entry.2 = true →
        Passes view held (names ++ [entry.1]) entry.2) ∧
      found = ((Node.entryFiles entries).filter (spares view false held names)).map (names ++ ·))
  | [], held, names, found, _, _ => by
    rw [visitEntries, Except.ok.injEq, and_iff_right nofun, eq_comm]
    rfl
  | (name, node) :: entries, held, names, found, hopen, h => by
    rw [List.forall_mem_cons] at h
    have hmap : ∀ rests : List Place,
        (rests.map (name :: ·)).map (names ++ ·) = rests.map (names ++ [name] ++ ·) := by
      simp
    rw [visitEntries_cons_eq_ok_iff, List.forall_mem_cons, Node.entryFiles, List.filter_append,
      filter_spares_map_cons hopen, List.map_append]
    simp only [visitEntries_eq_ok_iff hopen h.2]
    cases admits held names name node with
    | true =>
      simp only [if_true, visit_eq_ok_iff h.1, hmap, forall_const]
      constructor
      · rintro ⟨_, _, ⟨hp, rfl⟩, ⟨hothers, rfl⟩, rfl⟩
        exact ⟨⟨hp, hothers⟩, rfl⟩
      · rintro ⟨⟨hp, hothers⟩, rfl⟩
        exact ⟨_, _, ⟨hp, rfl⟩, ⟨hothers, rfl⟩, rfl⟩
    | false =>
      simp only [Bool.false_eq_true, if_false, Except.ok.injEq, false_imp_iff, true_and,
        List.map_nil, List.nil_append]
      constructor
      · rintro ⟨_, _, rfl, ⟨hothers, rfl⟩, rfl⟩
        exact ⟨hothers, rfl⟩
      · rintro ⟨hothers, rfl⟩
        exact ⟨_, _, rfl, ⟨hothers, rfl⟩, rfl⟩

end

/-- A walk from a directory sorts the paths of the files that it finds. -/
theorem walk_eq_ok_iff {tree : Tree} {root : Path} {place : Place} {respectIgnore : Bool}
    {listed : List String} (hproper : (Node.dir entries).IsProper)
    (h : tree.resolve true root = .ok (place, some (.dir entries))) :
    walk tree root respectIgnore = .ok listed ↔
      Passes (Listing.view tree root respectIgnore) [] [] (.dir entries) ∧
        listed = sorted (((Node.dir entries).files.filter
          (spares (Listing.view tree root respectIgnore) false
            (ownRules (loader tree root respectIgnore) []) [])).map joined) := by
  rw [walk, h]
  dsimp only
  simp only [Outcome.bind_eq_ok_iff, visit_eq_ok_iff hproper, pure, Except.pure, Except.ok.injEq,
    List.nil_append, List.map_id']
  constructor
  · rintro ⟨_, ⟨hp, rfl⟩, rfl⟩
    exact ⟨hp, rfl⟩
  · rintro ⟨hp, rfl⟩
    exact ⟨_, ⟨hp, rfl⟩, rfl⟩

end Listing
end TestSelection
