/-
# Trees without links

Where no link stands, names lead down from directory to directory, and `..` up, so all that counts
is where the directories are: names lead to the same place in every tree that has these directories
(`Follows.of_directories`). A path below a directory leads to what stands there; if nothing does, it
is missing and nothing else is wrong with it (`resolve_below`). So whether a file can be read at
such a path, and what it holds, depends on what stands at this one place (`isFile_below`,
`read_below`).

What is added to such a tree at the end of a path stands under names, so the tree stays proper
(`IsPlain.withNode`).
-/

import TestSelection.Proofs.Tree.Growth
import TestSelection.Proofs.Tree.Proper

namespace TestSelection

/-- Below a path by no names is the path. -/
theorem Path.below_nil (root : Path) : root.below [] = root := by
  rw [below, List.append_nil]

/-- Names below names. -/
theorem Path.below_below (root : Path) (names rest : List String) :
    (root.below names).below rest = root.below (names ++ rest) :=
  congrArg (mk _) (List.append_assoc ..)

/-- A path from nowhere is read below another path. -/
theorem Path.under_eq_below {root : Path} {s : String} (h : (ofText s).slashes = 0) :
    root.under s = root.below (ofText s).names := if_pos h

namespace Node

variable {top old new : Node} {place : Place} {name : String} {entries : List (String × Node)}

/-- No link stands anywhere in a tree. -/
def IsLinkless (top : Node) : Prop := ∀ place target, top.item? place ≠ some (.link target)

/-- A file has no link in it. -/
theorem isLinkless_file (content : ByteArray) : IsLinkless (.file content) := by
  intro place target h
  cases place <;> cases h

/-- No link stands in a directory if none stands in its entries. -/
theorem isLinkless_dir (h : ∀ entry ∈ entries, entry.2.IsLinkless) : IsLinkless (.dir entries) := by
  intro place target hp
  cases place with
  | nil => cases hp
  | cons name place =>
    rw [item?_dir_cons] at hp
    obtain ⟨node, hl, hp⟩ := Option.bind_eq_some_iff.1 hp
    exact h _ (mem_of_lookup hl) place target hp

/-- What is put under a name last stays. -/
theorem insert_insert : insert name new (insert name old entries) = insert name new entries := by
  induction entries with
  | nil => simp [insert]
  | cons entry rest ih =>
    obtain ⟨n, node⟩ := entry
    rw [insert, insert]
    split
    · simp [insert]
    · next hn =>
      split
      · simp [insert]
      · next hlt => rw [insert, if_neg hn, if_neg hlt, ih]

/-- Of two nodes that are put at one place the second one stays. -/
theorem put_put : put new place (put old place top) = put new place top := by
  induction place generalizing top with
  | nil => rfl
  | cons name place ih =>
    cases top with
    | file | link => cases place <;> rfl
    | dir entries =>
      cases place with
      | nil => exact congrArg dir insert_insert
      | cons next place =>
        cases hl : lookup name entries with
        | none => rw [put_of_lookup_eq_none hl]
        | some child =>
          rw [put_of_lookup hl, put_of_lookup hl, put_of_lookup (lookup_insert_self ..), ih,
            insert_insert]

end Node

namespace Tree

variable {top top' : Node} {last last' : Bool} {links : Nat} {place p q r : Place}
  {names rest ns : List String} {name : String} {i : Item}

/-! ### Following names -/

/-- A name is only looked up in a directory. -/
theorem Follows.directory_of_cons (h : Follows top last links place (name :: rest) p) :
    top.item? place = some .directory := by
  cases h <;> assumption

namespace Follows

/-- One name in a directory leads to its place, whether or not something is there. -/
theorem entry (hlinks : top.IsLinkless) (isName : IsEntryName name)
    (dir : top.item? place = some .directory) :
    Follows top last links place [name] (place ++ [name]) := by
  cases hc : top.item? (place ++ [name]) with
  | none => exact .missing isName dir hc
  | some i => exact .down isName dir hc (fun target ht => hlinks _ target (ht ▸ hc)) .done

/-- **Only the directories count.**  Names lead to the same place in every tree without links that
has the directories of another one. -/
theorem of_directories (hlinks : top.IsLinkless) (hlinks' : top'.IsLinkless)
    (hdir : ∀ q, top.item? q = some .directory → top'.item? q = some .directory)
    (h : Follows top last links place names p) : Follows top' last' links place names p := by
  induction h with
  | done => exact .done
  | here dir _ ih => exact .here (hdir _ dir) ih
  | above dir _ ih => exact .above (hdir _ dir) ih
  | missing isName dir _ => exact .entry hlinks' isName (hdir _ dir)
  | stop _ _ link => exact absurd link (hlinks _ _)
  | link _ _ link => exact absurd link (hlinks _ _)
  -- The last name need not lead to a directory: it leads to its place in both trees.
  | @down links place p name rest i isName dir child noLink next ih =>
    cases rest with
    | nil =>
      cases next
      exact .entry hlinks' isName (hdir _ dir)
    | cons other rest => exact .down isName (hdir _ dir) (hdir _ next.directory_of_cons) nofun ih

/-- Names without `.` and `..` are those of the entries that they lead through. -/
theorem eq_append (hlinks : top.IsLinkless) (hhere : "." ∉ names) (hup : ".." ∉ names)
    (h : Follows top last links place names p) :
    p = place ++ names ∧ ∀ name ∈ names, IsEntryName name := by
  induction h with
  | done => exact ⟨(List.append_nil _).symm, nofun⟩
  | here => exact absurd List.mem_cons_self hhere
  | above => exact absurd List.mem_cons_self hup
  | missing isName => exact ⟨rfl, List.forall_mem_singleton.2 isName⟩
  | stop _ _ link => exact absurd link (hlinks _ _)
  | link _ _ link => exact absurd link (hlinks _ _)
  | @down links place p name rest i isName _ _ _ _ ih =>
    obtain ⟨rfl, hnames⟩ := ih (fun hm => hhere (List.mem_cons_of_mem _ hm))
      fun hm => hup (List.mem_cons_of_mem _ hm)
    exact ⟨by simp, List.forall_mem_cons.2 ⟨isName, hnames⟩⟩

/-- What is missing at the end of names has the last of them, in a directory that is there. -/
theorem exists_name (hlinks : top.IsLinkless) (h : Follows top last links place names p)
    (hnone : top.item? p = none) :
    names = [] ∨ ∃ q, ∃ name ∈ names, p = q ++ [name] ∧ IsEntryName name ∧
      top.item? q = some .directory := by
  induction h with
  | done => exact .inl rfl
  -- These two steps end at a directory, unless a name is left that is missing.
  | here dir next ih =>
    obtain rfl | ⟨q, name, hm, he⟩ := ih hnone
    · cases next
      exact absurd (hnone.symm.trans dir) nofun
    · exact .inr ⟨q, name, List.mem_cons_of_mem _ hm, he⟩
  | above dir next ih =>
    obtain rfl | ⟨q, name, hm, he⟩ := ih hnone
    · cases next
      exact absurd (hnone.symm.trans (Node.item?_dropLast dir)) nofun
    · exact .inr ⟨q, name, List.mem_cons_of_mem _ hm, he⟩
  | @missing links place name isName dir _ =>
    exact .inr ⟨place, name, List.mem_cons_self, rfl, isName, dir⟩
  | stop _ _ link => exact absurd link (hlinks _ _)
  | link _ _ link => exact absurd link (hlinks _ _)
  | down _ _ child _ next ih =>
    obtain rfl | ⟨q, name, hm, he⟩ := ih hnone
    · cases next
      exact absurd (hnone.symm.trans child) nofun
    · exact .inr ⟨q, name, List.mem_cons_of_mem _ hm, he⟩

end Follows

/-- Names after those that lead to a directory are followed from there. -/
theorem follow_append (hlinks : top.IsLinkless) (h : Follows top last links place names q)
    (hq : top.item? q = some .directory) (rest : List String) :
    follow top last links place (names ++ rest) = follow top last links q rest := by
  induction h with
  | done => rfl
  | here dir _ ih | above dir _ ih =>
    obtain ⟨entries, hp⟩ := Node.item?_eq_directory.1 dir
    rw [List.cons_append, follow, hp]
    exact ih hq
  | missing _ _ absent => cases absent.symm.trans hq
  | stop _ _ link => exact absurd link (hlinks _ _)
  | link _ _ link => exact absurd link (hlinks _ _)
  | down isName dir child noLink _ ih =>
    obtain ⟨node, hn, rfl⟩ := Node.item?_eq_some.1 child
    rw [List.cons_append, follow_cons isName dir, hn]
    cases node with
    | link target => exact absurd rfl (noLink target)
    | file | dir => exact ih hq

/-- Names below a directory lead to what stands there, unless nothing does. -/
theorem follow_entries (hlinks : top.IsLinkless) (hns : ∀ name ∈ ns, IsEntryName name)
    (hdir : top.item? place = some .directory) :
    follow top last links place ns = .ok (place ++ ns, top.at? (place ++ ns)) ∨
      top.item? (place ++ ns) = none ∧
        ∃ fault, follow top last links place ns = .error fault ∧ fault.isAbsence = true := by
  induction ns generalizing place with
  | nil => exact .inl (by rw [follow, List.append_nil])
  | cons name ns ih =>
    rw [List.forall_mem_cons] at hns
    have hshape : place ++ name :: ns = place ++ [name] ++ ns := by simp
    rw [follow_cons hns.1 hdir, hshape]
    cases hn : top.at? (place ++ [name]) with
    -- A name that is missing is the end if it is the last one, and makes the others lead nowhere if
    -- it is not.
    | none =>
      cases ns with
      | nil => exact .inl (by rw [List.append_nil, hn]; rfl)
      | cons next ns =>
        have hnone : top.item? (place ++ [name]) ≠ some .directory := by
          rw [Node.item?_eq_none.2 hn]
          exact (Option.some_ne_none _).symm
        exact .inr ⟨Node.item?_append_eq_none hnone (List.cons_ne_nil _ _), _, rfl, rfl⟩
    | some node =>
      cases node with
      | link target => exact absurd (Node.item?_eq_some.2 ⟨_, hn, rfl⟩) (hlinks _ target)
      | dir entries => exact ih hns.2 (Node.item?_eq_directory.2 ⟨entries, hn⟩)
      | file content =>
        cases ns with
        | nil =>
          refine .inl ?_
          dsimp only
          rw [follow, List.append_nil]
        | cons next ns =>
          have hnot : top.item? (place ++ [name]) ≠ some .directory := by
            rw [Node.item?_eq_some.2 ⟨_, hn, rfl⟩]
            rintro ⟨⟩
          refine .inr ⟨Node.item?_append_eq_none hnot (List.cons_ne_nil _ _), .notDirectory, ?_,
            rfl⟩
          dsimp only
          rw [follow, hn]

/-! ### Files below a directory -/

variable {tree after : Tree} {root path : Path} {content : ByteArray}

/-- A text that is a path is one without its last names, too. -/
theorem textFault?_of_below (h : textFault? (root.below ns).text = none) :
    textFault? root.text = none := by
  induction hn : ns.length generalizing ns with
  | zero =>
    obtain rfl := List.length_eq_zero_iff.1 hn
    rwa [Path.below_nil] at h
  | succ n ih =>
    have hne : ns ≠ [] := List.ne_nil_of_length_eq_add_one hn
    -- The last name is taken away, one at a time.
    refine ih ?_ (by rw [List.length_dropLast, hn]; rfl)
    have hparent : (root.below ns).parent = root.below ns.dropLast := by
      rw [Path.parent, Path.below, List.dropLast_append_of_ne_nil hne]
      rfl
    rw [← hparent]
    exact textFault?_parent h

/-- Where a path below another one leads, the other one leads to a directory. -/
theorem Leads.exists_root (h : tree.Leads last (root.below ns) p) (hne : ns ≠ []) :
    ∃ r, tree.Leads true root r ∧ tree.item? r = some .directory := by
  obtain ⟨r, hr, hd⟩ := h.follows.exists_directory hne
  exact ⟨r, ⟨textFault?_of_below h.isText, hr⟩, hd⟩

/-- A path leads to one place. -/
theorem Leads.unique (h : tree.Leads last path p) (h' : tree.Leads last path q) : p = q :=
  congrArg Prod.fst (Except.ok.inj (h.resolve_eq.symm.trans h'.resolve_eq))

/-- What is a file is somewhere. -/
theorem exists_leads_of_isFile (h : tree.isFile path = .ok true) :
    ∃ p, tree.Leads true path p := by
  rw [isFile] at h
  split at h
  · next p found hr => exact ⟨p, (resolve_eq_ok_iff.1 hr).1⟩
  · split at h <;> cases h

/-- Names below a path are followed from where the path leads. -/
theorem Leads.follows_below (hlinks : tree.top.IsLinkless) (hroot : tree.Leads last root r)
    (hdir : tree.item? r = some .directory) (h : tree.Leads last (root.below ns) p) :
    Follows tree.top last mostLinks r ns p := by
  have hfollow : follow tree.top last mostLinks r ns = .ok (p, tree.top.at? p) :=
    (follow_append hlinks hroot.follows hdir ns).symm.trans h.follows.follow_eq
  exact (follows_of_follow hfollow).1

/-- Below a directory a path without dots leads under its own names. -/
theorem Leads.eq_append_of_below (hlinks : tree.top.IsLinkless) (hroot : tree.Leads last root r)
    (hdir : tree.item? r = some .directory) (hns : ∀ name ∈ ns, IsEntryName name)
    (h : tree.Leads last (root.below ns) p) : p = r ++ ns :=
  ((hroot.follows_below hlinks hdir h).eq_append hlinks (fun hm => (hns _ hm).ne_here rfl)
    fun hm => (hns _ hm).ne_above rfl).1

/-- **Below a directory** a path leads to what stands there, unless nothing does. -/
theorem resolve_below (hlinks : tree.top.IsLinkless) (hroot : tree.Leads true root r)
    (hdir : tree.item? r = some .directory) (hns : ∀ name ∈ ns, IsEntryName name)
    (htext : textFault? (root.below ns).text = none) :
    tree.resolve true (root.below ns) = .ok (r ++ ns, tree.top.at? (r ++ ns)) ∨
      tree.item? (r ++ ns) = none ∧
        ∃ fault, tree.resolve true (root.below ns) = .error fault ∧ fault.isAbsence = true := by
  have hresolve : tree.resolve true (root.below ns) = follow tree.top true mostLinks r ns := by
    rw [resolve, htext]
    exact follow_append hlinks hroot.follows hdir ns
  rw [hresolve]
  exact follow_entries hlinks hns hdir

/-- Whether a path below a directory leads to a file depends on what stands there. -/
theorem isFile_below (hlinks : tree.top.IsLinkless) (hroot : tree.Leads true root r)
    (hdir : tree.item? r = some .directory) (hns : ∀ name ∈ ns, IsEntryName name)
    (htext : textFault? (root.below ns).text = none) :
    ∃ b, tree.isFile (root.below ns) = .ok b ∧
      (b = true ↔ ∃ content, tree.item? (r ++ ns) = some (.file content)) := by
  rw [isFile]
  obtain h | ⟨hnone, fault, h, habsent⟩ := resolve_below hlinks hroot hdir hns htext
  · rw [h, item?, Node.item?]
    cases tree.top.at? (r ++ ns) with
    | none => exact ⟨false, rfl, by simp⟩
    | some node => cases node <;> exact ⟨_, rfl, by simp [Node.item]⟩
  · rw [h, hnone]
    exact ⟨false, if_pos habsent, by simp⟩

/-- A file below a directory is read as it is. -/
theorem read_below (hlinks : tree.top.IsLinkless) (hroot : tree.Leads true root r)
    (hdir : tree.item? r = some .directory) (hns : ∀ name ∈ ns, IsEntryName name)
    (htext : textFault? (root.below ns).text = none)
    (hfile : tree.item? (r ++ ns) = some (.file content)) :
    tree.read (root.below ns) = .ok content := by
  obtain h | ⟨hnone, -⟩ := resolve_below hlinks hroot hdir hns htext
  · obtain ⟨node, hn, hi⟩ := Node.item?_eq_some.1 hfile
    rw [hn] at h
    cases node with
    | link | dir => exact absurd hi nofun
    | file other =>
      obtain rfl := Item.file.inj hi
      rw [read, h]
      rfl
  · cases hnone.symm.trans hfile

/-! ### Adding to a tree -/

/-- A tree as a system without links has it. -/
structure IsPlain (tree : Tree) : Prop where
  proper : tree.top.IsProper
  linkless : tree.top.IsLinkless

/-- Where a path leads there are names only. -/
theorem IsPlain.isFileName (h : tree.IsPlain) (hl : tree.Leads last path p)
    (hnames : path.names ≠ []) (hslash : ∀ name ∈ path.names, '/' ∉ name.toList) :
    ∀ name ∈ p, IsFileName name := by
  cases hi : tree.item? p with
  | some i => exact h.proper.isFileName_of_item? hi
  -- What is missing has the names of a directory that is there, and one more that the path has.
  | none =>
    obtain hnil | ⟨q, name, hm, rfl, hname, hq⟩ := hl.follows.exists_name h.linkless hi
    · exact absurd hnil hnames
    · have hlast : IsFileName name := ⟨hname, hslash name hm⟩
      intro other hother
      rcases List.mem_append.1 hother with hother | hother
      · exact h.proper.isFileName_of_item? hq other hother
      · rw [List.mem_singleton.1 hother]
        exact hlast

/-- A file or an empty directory, put where a path leads in place of what is no directory. -/
theorem IsPlain.withNode {node : Node} (h : tree.IsPlain) (hl : tree.Leads last path p)
    (hnames : path.names ≠ []) (hslash : ∀ name ∈ path.names, '/' ∉ name.toList)
    (hold : tree.item? p ≠ some .directory) (hbare : node.IsBare) (hnode : node.IsProper)
    (hlink : ∀ target, node.item ≠ .link target) : (tree.withNode p node).IsPlain := by
  refine ⟨h.proper.put hnode (h.isFileName hl hnames hslash), fun q target hq => ?_⟩
  have hitem : (tree.withNode p node).item? = Function.update tree.item? p (some node.item) :=
    hl.item?_withNode hnames hold hbare
  have hq : (tree.withNode p node).item? q = some (.link target) := hq
  rw [hitem, Function.update_apply] at hq
  split at hq
  · exact hlink target (Option.some.inj hq)
  · exact h.linkless q target hq

/-- Making directories puts no link into a tree, and no slash into a name. -/
theorem IsPlain.makeDirectories (h : tree.IsPlain)
    (hslash : ∀ name ∈ path.names, '/' ∉ name.toList) :
    (tree.makeDirectories path).1.IsPlain := by
  refine makeDirectories_preserves (fun hq hnames hl hnone h => ?_) h
  have hdir : Node.IsProper (.dir []) := by decide
  refine h.withNode hl hnames (fun name hm => hslash name <| hq.names_prefix.subset hm) ?_
    Node.isBare_dir_nil hdir nofun
  rw [hnone]
  exact nofun

end Tree

/-! ### Names of a path -/

namespace Path

/-- The names that a text writes are parts between slashes, and not the sign for the directory. -/
theorem of_mem_ofText {s name : String} (h : name ∈ (ofText s).names) :
    '/' ∉ name.toList ∧ name ≠ "." := by
  obtain ⟨hm, hp⟩ := List.mem_filter.1 h
  obtain ⟨part, hpart, rfl⟩ := List.mem_map.1 hm
  refine ⟨?_, (of_decide_eq_true hp).2⟩
  rw [String.toList_ofList]
  exact Text.not_mem_of_mem_split hpart

end Path
end TestSelection
