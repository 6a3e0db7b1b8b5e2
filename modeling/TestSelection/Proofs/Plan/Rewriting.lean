/-
# Writing a plan again

Writing a plan comes to a file with its text, and directories above it that were missing
(`Plan.write_eq_ok_iff`). In a tree without links that is all that is new (`Plan.remade_of_write`),
so the second time there is nothing to make, the file takes the place of itself, and the tree stays
as it is (`Plan.write_again`).

The file is first written under a longer name, so there is room for a short one in each of the
directories above it (`Tree.textFault?_of_besides`).
-/

import TestSelection.Ignore.File
import TestSelection.Proofs.Plan.Writing
import TestSelection.Proofs.Tree.Remade

namespace TestSelection

variable {plan : Plan} {tree made after : Tree} {path base root : Path} {b p : Place}
  {ns : List String}

/-- A plan is written if each of the steps succeeds. -/
theorem Plan.write_eq_ok_iff : plan.write tree path = (after, .ok ()) ↔
    path.names ≠ [] ∧ ∃ made text, tree.makeDirectories path.parent = (made, none) ∧
      plan.json = .ok text ∧ (∃ found, made.resolve false path.besides = .ok found) ∧
      made.isDir path = false ∧ made.replace path text.toUTF8 = .ok after := by
  rw [write]
  by_cases hn : path.names.isEmpty = true
  · rw [if_pos hn]
    exact iff_of_false (by rintro ⟨⟩) fun h => h.1 (List.isEmpty_iff.1 hn)
  · rw [if_neg hn, and_iff_right fun h => hn (List.isEmpty_iff.2 h)]
    -- One case for each step of the writer; every one but the last is a failure.
    generalize tree.makeDirectories path.parent = makes
    obtain ⟨made, fault⟩ := makes
    constructor
    · intro h
      cases fault with
      | some fault => cases h
      | none =>
        dsimp only at h
        split at h
        · cases h
        · next text hj =>
          split at h
          · cases h
          · next found hb =>
            split at h
            · cases h
            · next hd =>
              split at h
              · cases h
              · next written hr =>
                obtain ⟨rfl, -⟩ := Prod.mk.inj h
                exact ⟨made, text, rfl, hj, ⟨found, hb⟩, Bool.eq_false_iff.2 hd, hr⟩
    · rintro ⟨_, text, hm, hj, ⟨found, hb⟩, hd, hr⟩
      obtain ⟨rfl, rfl⟩ := Prod.mk.inj hm
      dsimp only
      rw [hj]
      dsimp only
      rw [hb]
      dsimp only
      rw [hd, hr]
      rfl

namespace Tree

/-- Putting a file somewhere changes nothing else. -/
theorem remade_of_replace {content : ByteArray} (h : made.IsPlain) (hnames : path.names ≠ [])
    (hslash : ∀ name ∈ path.names, '/' ∉ name.toList) (hr : made.replace path content = .ok after) :
    ∃ p, made.Leads false path p ∧ made.item? p ≠ some .directory ∧
      after = made.withNode p (.file content) ∧ Remade p made after := by
  obtain ⟨p, hp, hold, rfl⟩ := replace_eq_ok_iff.1 hr
  have hitem : (made.withNode p (.file content)).item? =
      Function.update made.item? p (some (.file content)) :=
    hp.item?_withNode hnames hold (Node.isBare_file content)
  have hother : ∀ q, q ≠ p → (made.withNode p (.file content)).item? q = made.item? q := by
    intro q hq
    rw [hitem, Function.update_of_ne hq]
  refine ⟨p, hp, hold, rfl, rfl, h, ?_, ⟨content, ?_⟩, fun q hq => ?_, fun q other hq => ?_,
    fun q hq => .inl ?_⟩
  · exact h.withNode hp hnames hslash hold (Node.isBare_file content) (Node.isProper_file content)
      nofun
  · rw [hitem, Function.update_self]
  · rw [hother q fun he => hold (he ▸ hq), hq]
  · rw [hother q hq]
  · have hne : q ≠ p := by
      rintro rfl
      rw [hitem, Function.update_self] at hq
      cases hq
    rwa [hother q hne] at hq

/-- What was made for a path below a directory is above the end of the path. -/
theorem Grown.exists_append (hgrown : Grown (base.below ns).parent tree made) (h : tree.IsPlain)
    (hmade : made.IsPlain) (hbase : tree.Leads true base b) (hdir : tree.item? b = some .directory)
    (hhere : "." ∉ ns) (hup : ".." ∉ ns) (hne : ns ≠ []) {q : Place} (hnone : tree.item? q = none)
    (hq : made.item? q = some .directory) : ∃ rest, rest ≠ [] ∧ b ++ ns = q ++ rest := by
  obtain ⟨-, above, habove, hleads⟩ := hgrown.added q _ hnone hq
  have htransfer : ∀ {path p}, tree.Leads true path p → made.Leads true path p := by
    intro path p hl
    refine ⟨hl.isText, ?_⟩
    rw [hgrown.here_eq]
    exact hl.follows.of_directories h.linkless hmade.linkless fun q hq => hgrown.kept q _ hq
  have hdropLast : (base.below ns).parent.names = base.names ++ ns.dropLast :=
    List.dropLast_append_of_ne_nil hne
  have hprefixes := habove.names_prefix
  rw [hdropLast] at hprefixes
  -- The path of the new directory and that of `base` are two starts of one path, so one of them
  -- goes on from the other.
  rcases List.prefix_or_prefix_of_prefix hprefixes (List.prefix_append base.names ns.dropLast) with
    ⟨more, hmore⟩ | ⟨inner, hinner⟩
  · -- the path of the directory is part of the one to `b`, so the directory was there
    exfalso
    have hshape : above.below more = base := by
      rw [Path.below, hmore, habove.slashes_eq]
      rfl
    obtain ⟨r, hr, hd⟩ : ∃ r, tree.Leads true above r ∧ tree.item? r = some .directory := by
      rw [← hshape] at hbase
      by_cases hm : more = []
      · rw [hm, Path.below_nil] at hbase
        exact ⟨b, hbase, hdir⟩
      · exact hbase.exists_root hm
    obtain rfl := hleads.unique (htransfer hr)
    cases hnone.symm.trans hd
  · have hshape : above = base.below inner := by
      obtain ⟨slashes, names⟩ := above
      have hslashes : slashes = base.slashes := habove.slashes_eq
      rw [hslashes, Path.below, hinner]
    obtain ⟨between, hbetween⟩ : inner <+: ns.dropLast := by
      rw [← hinner] at hprefixes
      exact (List.prefix_append_right_inj _).1 hprefixes
    have hsubset : ∀ name ∈ inner, name ∈ ns := fun name hm =>
      List.dropLast_subset ns (hbetween ▸ List.mem_append_left _ hm)
    rw [hshape] at hleads
    have hfollows :=
      Leads.follows_below hmade.linkless (htransfer hbase) (hgrown.kept b _ hdir) hleads
    obtain ⟨rfl, -⟩ := hfollows.eq_append hmade.linkless (fun hm => hhere (hsubset _ hm))
      fun hm => hup (hsubset _ hm)
    refine ⟨between ++ [ns.getLast hne], by simp, ?_⟩
    rw [List.append_assoc, ← List.append_assoc inner, hbetween, List.dropLast_concat_getLast]

end Tree

open TestSelection.Tree (Remade)

/-- The directories for a path are made, and then the file is put there. -/
theorem Plan.exists_made_of_write (h : tree.IsPlain)
    (hslash : ∀ name ∈ path.names, '/' ∉ name.toList)
    (hw : plan.write tree path = (after, .ok ())) :
    ∃ made text p, Tree.Grown path.parent tree made ∧ made.IsPlain ∧ made.Leads false path p ∧
      made.item? p ≠ some .directory ∧ plan.json = .ok text ∧
      (∃ found, made.resolve false path.besides = .ok found) ∧
      after = made.withNode p (.file text.toUTF8) ∧ Remade p made after := by
  obtain ⟨hne, made, text, hmade, hjson, hroom, -, hr⟩ := write_eq_ok_iff.1 hw
  have hgrown : Tree.Grown path.parent tree (tree.makeDirectories path.parent).1 :=
    Tree.grown_makeDirectories
  have hplain : (tree.makeDirectories path.parent).1.IsPlain :=
    h.makeDirectories fun name hm => hslash name (List.dropLast_subset _ hm)
  rw [hmade] at hgrown hplain
  obtain ⟨p, hp, hold, hafter, hremade⟩ := Tree.remade_of_replace hplain hne hslash hr
  exact ⟨made, text, p, hgrown, hplain, hp, hold, hjson, hroom, hafter, hremade⟩

/-- The file is first written under a longer name beside it, so there was room for that name. -/
theorem Plan.textFault?_besides_of_write (hw : plan.write tree path = (after, .ok ())) :
    Tree.textFault? path.besides.text = none := by
  obtain ⟨-, made, -, -, -, ⟨found, hroom⟩, -, -⟩ := write_eq_ok_iff.1 hw
  exact (Tree.resolve_eq_ok_iff.1 hroom).1.isText

/-- **What is new after a plan was written** in a tree without links: the file at the end of the
path, and directories above it. -/
theorem Plan.remade_of_write (h : tree.IsPlain) (hbase : tree.Leads true base b)
    (hdir : tree.item? b = some .directory)
    (hslash : ∀ name ∈ (base.below ns).names, '/' ∉ name.toList) (hhere : "." ∉ ns)
    (hup : ".." ∉ ns) (hw : plan.write tree (base.below ns) = (after, .ok ())) :
    Remade (b ++ ns) tree after ∧ after.Leads false (base.below ns) (b ++ ns) := by
  obtain ⟨made, text, p, hgrown, hplain, hp, hold, -, -, -, hremade⟩ :=
    exists_made_of_write h hslash hw
  have hkept : ∀ q, tree.item? q = some .directory → made.item? q = some .directory :=
    fun q hq => hgrown.kept q _ hq
  have hbase' : made.Leads false base b := by
    refine ⟨hbase.isText, ?_⟩
    rw [hgrown.here_eq]
    exact hbase.follows.of_directories h.linkless hplain.linkless hkept
  obtain ⟨rfl, -⟩ := (Tree.Leads.follows_below hplain.linkless hbase' (hkept b hdir) hp).eq_append
    hplain.linkless hhere hup
  have hne : ns ≠ [] := by
    rintro rfl
    rw [List.append_nil] at hold
    exact hold (hkept b hdir)
  refine ⟨⟨hremade.here_eq.trans hgrown.here_eq, h, hremade.plain_after, hremade.written,
    fun q hq => hremade.directory q (hkept q hq), fun q content hq => ?_, fun q hq => ?_⟩,
    hremade.leads hp⟩
  · rw [hremade.file_iff q content hq]
    refine ⟨fun hm => ?_, hgrown.kept q _⟩
    cases ht : tree.item? q with
    | none => exact absurd (hgrown.added q _ ht hm).1 nofun
    | some i => rw [← hgrown.kept q i ht, hm]
  · obtain hm | ⟨hm, hrest⟩ := hremade.added q hq
    · cases ht : tree.item? q with
      | none => exact .inr ⟨rfl, hgrown.exists_append h hplain hbase hdir hhere hup hne ht hm⟩
      | some i => exact .inl (by rw [← hgrown.kept q i ht, hm])
    · cases ht : tree.item? q with
      | none => exact .inr ⟨rfl, hrest⟩
      | some i => exact absurd ((hgrown.kept q i ht).symm.trans hm) nofun

/-- **A plan that is written twice** leaves the tree as it was after the first time. -/
theorem Plan.write_again (h : tree.IsPlain) (hslash : ∀ name ∈ path.names, '/' ∉ name.toList)
    (hw : plan.write tree path = (after, .ok ())) : plan.write after path = (after, .ok ()) := by
  obtain ⟨hne, -⟩ := write_eq_ok_iff.1 hw
  obtain ⟨made, text, p, -, -, hp, -, hjson, ⟨found, hbesides⟩, hafter, hremade⟩ :=
    exists_made_of_write h hslash hw
  have hleads : after.Leads false path p := hremade.leads hp
  have hfile : after.item? p ≠ some .directory := by
    obtain ⟨content, hc⟩ := hremade.written
    rw [hc]
    exact nofun
  have hmakes : after.makeDirectories path.parent = (after, none) :=
    Tree.makeDirectories_of_isDir (hleads.isDir_parent hne)
  have hroom : ∃ found, after.resolve false path.besides = .ok found :=
    ⟨_, (hremade.leads (Tree.resolve_eq_ok_iff.1 hbesides).1).resolve_eq⟩
  have hnot : after.isDir path = false := Bool.eq_false_iff.2 fun hd => by
    obtain ⟨q, hq, hd⟩ := Tree.isDir_iff.1 hd
    obtain rfl := hq.unique (hremade.leads hp)
    exact hfile hd
  -- The text that is written is the one that stands there already.
  have hsame : after = after.withNode p (.file text.toUTF8) := by
    rw [hafter, Tree.withNode, Tree.withNode, Node.put_put]
  exact write_eq_ok_iff.2 ⟨hne, after, text, hmakes, hjson, hroom, hnot,
    Tree.replace_eq_ok_iff.2 ⟨p, hleads, hfile, hsame⟩⟩

/-! ### Room for ignore files -/

/-- The text of names below a path ends with the text of the names. -/
theorem Path.exists_text_below (root : Path) :
    ∃ front : String, ∀ ns ≠ [], (root.below ns).text = front ++ "/".intercalate ns := by
  obtain ⟨front, hfront⟩ : ∃ front : String, ∀ ns ≠ [],
      "/".intercalate (root.names ++ ns) = front ++ "/".intercalate ns := by
    by_cases hnil : root.names = []
    · exact ⟨"", fun ns _ => by rw [hnil, List.nil_append, String.empty_append]⟩
    · refine ⟨"/".intercalate root.names ++ "/", fun ns hne => ?_⟩
      rw [String.intercalate_append_of_ne_nil hnil hne]
  have hsome : ∀ ns : List String, ns ≠ [] → (root.names ++ ns).isEmpty = false := by
    intro ns hne
    simp [hne]
  -- The slashes in front of the path belong to what stands before the names.
  cases hs : root.slashes with
  | zero =>
    refine ⟨front, fun ns hne => ?_⟩
    simp only [below, text, hs, hsome ns hne, hfront ns hne]
    rfl
  | succ n =>
    refine ⟨String.ofList (List.replicate (n + 1) '/') ++ front, fun ns hne => ?_⟩
    simp only [below, text, hs, hfront ns hne, String.append_assoc]

/-- Where there is room for the file that is written first there is room for an ignore file in every
directory above it. -/
theorem Tree.textFault?_of_besides {rest : List String} (hne : rest ≠ [])
    (h : textFault? (root.below rest).besides.text = none) :
    textFault? (root.below [Ignore.fileName]).text = none := by
  obtain ⟨front, hfront⟩ := root.exists_text_below
  obtain ⟨init, name, rfl⟩ : ∃ init name, rest = init ++ [name] :=
    ⟨_, _, (List.dropLast_concat_getLast hne).symm⟩
  have hbesides : (root.below (init ++ [name])).besides =
      root.below (init ++ [name ++ ".partial.0123456789abc"]) := by
    have hshape : (root.below (init ++ [name])).names = root.names ++ init ++ [name] :=
      (List.append_assoc ..).symm
    rw [Path.besides, hshape, List.dropLast_concat, List.getLastD_concat, List.append_assoc]
    rfl
  obtain ⟨before, hbefore⟩ : ∃ before : String, "/".intercalate
      (init ++ [name ++ ".partial.0123456789abc"]) = before ++ ".partial.0123456789abc" := by
    by_cases hinit : init = []
    · exact ⟨name, by rw [hinit]; rfl⟩
    · refine ⟨"/".intercalate init ++ "/" ++ name, ?_⟩
      rw [String.intercalate_append_of_ne_nil hinit (List.cons_ne_nil _ _)]
      show "/".intercalate init ++ "/" ++ (name ++ ".partial.0123456789abc") = _
      rw [← String.append_assoc]
  have hone : "/".intercalate [Ignore.fileName] = Ignore.fileName := rfl
  rw [hbesides, hfront _ (by simp), hbefore, textFault?_eq_none_iff] at h
  rw [hfront _ (List.cons_ne_nil _ _), hone, textFault?_eq_none_iff]
  -- The suffix of the file that is written first is longer than the name of an ignore file.
  have hsuffix : ".partial.0123456789abc".utf8ByteSize = 22 := by decide
  have hname : Ignore.fileName.utf8ByteSize = 10 := by decide
  obtain ⟨hnul, hsize⟩ := h
  rw [String.toList_append, List.mem_append, not_or] at hnul
  rw [String.utf8ByteSize_append, String.utf8ByteSize_append, hsuffix] at hsize
  rw [String.toList_append, List.mem_append, not_or, String.utf8ByteSize_append, hname]
  exact ⟨⟨hnul.1, by decide⟩, by omega⟩

end TestSelection
