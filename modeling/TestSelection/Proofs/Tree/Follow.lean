/-
# Where a path leads

A path is followed in steps, each of which looks at what stands at one place of the tree
(`Tree.Follows`, with one constructor for each step). Following a path succeeds exactly if there are
such steps, and finds what stands where they end (`Tree.follow_eq_ok_iff`).

A tree that has everything another one has leads the same way wherever the other one leads, as long
as no link is found at the end (`Tree.Follows.mono`).
-/

import TestSelection.Proofs.Tree.Items

namespace TestSelection
namespace Tree

/-- A name that is looked up in a directory. -/
structure IsEntryName (name : String) : Prop where
  ne_here : name ≠ "."
  ne_above : name ≠ ".."
  size_le : name.utf8ByteSize ≤ longestName

/-- Where the target of a link that stands in a directory is read from. -/
def linkBase (target : String) (place : Place) : Place :=
  if target.startsWith "/" then [] else place

/-- A name is the target that leads to it. -/
theorem targetNames_of_name {name : String} (hne : name ≠ "") (hslash : '/' ∉ name.toList) :
    targetNames name = [name] := by
  rw [targetNames, Path.split, Text.split_of_not_mem hslash]
  simp [hne]

/-- A link that is followed leaves a name to go on with, be it an empty one. -/
theorem targetNames_append_ne_nil (target : String) (rest : List String) :
    targetNames target ++ rest ≠ [] := by
  simp [targetNames]

/-- Names lead from a place to another one, with a number of links that may be followed. -/
inductive Follows (top : Node) (last : Bool) : Nat → Place → List String → Place → Prop where
  | done {links : Nat} {place : Place} : Follows top last links place [] place
  | here {links : Nat} {place p : Place} {rest : List String}
      (dir : top.item? place = some .directory) (next : Follows top last links place rest p) :
      Follows top last links place ("." :: rest) p
  | above {links : Nat} {place p : Place} {rest : List String}
      (dir : top.item? place = some .directory)
      (next : Follows top last links place.dropLast rest p) :
      Follows top last links place (".." :: rest) p
  /-- The last name may be missing. -/
  | missing {links : Nat} {place : Place} {name : String} (isName : IsEntryName name)
      (dir : top.item? place = some .directory) (absent : top.item? (place ++ [name]) = none) :
      Follows top last links place [name] (place ++ [name])
  /-- A link under the last name is the end of the path unless it is to be followed. -/
  | stop {links : Nat} {place : Place} {name target : String} (isName : IsEntryName name)
      (dir : top.item? place = some .directory)
      (link : top.item? (place ++ [name]) = some (.link target)) (keep : last = false) :
      Follows top last links place [name] (place ++ [name])
  | link {links : Nat} {place p : Place} {name target : String} {rest : List String}
      (isName : IsEntryName name) (dir : top.item? place = some .directory)
      (link : top.item? (place ++ [name]) = some (.link target)) (go : rest = [] → last = true)
      (next : Follows top last links (linkBase target place) (targetNames target ++ rest) p) :
      Follows top last (links + 1) place (name :: rest) p
  | down {links : Nat} {place p : Place} {name : String} {rest : List String} {i : Item}
      (isName : IsEntryName name) (dir : top.item? place = some .directory)
      (child : top.item? (place ++ [name]) = some i) (noLink : ∀ target, i ≠ .link target)
      (next : Follows top last links (place ++ [name]) rest p) :
      Follows top last links place (name :: rest) p

variable {top top' : Node} {last last' : Bool} {links : Nat} {place p : Place} {names : List String}
  {found : Option Node}

/-- Following names gives the end of their steps. -/
theorem follows_of_follow (h : follow top last links place names = .ok (p, found)) :
    Follows top last links place names p ∧ found = top.at? p := by
  have hdir : ∀ {place entries}, top.at? place = some (.dir entries) →
      top.item? place = some .directory := fun h => by rw [Node.item?, h]; rfl
  have hitem : ∀ {place entries name}, top.at? place = some (.dir entries) →
      top.item? (place ++ [name]) = (Node.lookup name entries).map Node.item := fun h => by
    rw [Node.item?, Node.at?_concat h]
  -- One step for each equation of `follow` that succeeds or goes on; the last four fail.
  fun_induction follow top last links place names with
  | case1 => cases h; exact ⟨.done, rfl⟩
  | case2 links place rest entries hp ih => exact (ih h).imp_left (.here (hdir hp))
  | case3 links place rest entries hp _ ih => exact (ih h).imp_left (.above (hdir hp))
  | case5 links place name rest entries hp h₁ h₂ h₃ hl hrest =>
    cases h
    obtain rfl := List.isEmpty_iff.1 hrest
    refine ⟨.missing ⟨h₁, h₂, Nat.not_lt.1 h₃⟩ (hdir hp) (by rw [hitem hp, hl]; rfl), ?_⟩
    rw [Node.at?_concat hp, hl]
  | case7 links place name rest entries hp h₁ h₂ h₃ target hl hend =>
    cases h
    obtain ⟨hrest, hlast⟩ := Bool.and_eq_true_iff.1 hend
    obtain rfl := List.isEmpty_iff.1 hrest
    refine ⟨.stop ⟨h₁, h₂, Nat.not_lt.1 h₃⟩ (hdir hp) (by rw [hitem hp, hl]; rfl)
      (by simpa using hlast), ?_⟩
    rw [Node.at?_concat hp, hl]
  | case9 place name rest entries hp h₁ h₂ h₃ target hl hend fewer base ih =>
    refine (ih h).imp_left
      (.link ⟨h₁, h₂, Nat.not_lt.1 h₃⟩ (hdir hp) (by rw [hitem hp, hl]; rfl) ?_)
    rintro rfl
    cases last with
    | true => rfl
    | false => exact absurd rfl hend
  | case10 links place name rest entries hp h₁ h₂ h₃ child hlink hl ih =>
    refine (ih h).imp_left
      (.down ⟨h₁, h₂, Nat.not_lt.1 h₃⟩ (hdir hp) (by rw [hitem hp, hl]; rfl) fun target ht => ?_)
    cases child with
    | link => exact hlink _ rfl
    | file | dir => cases ht
  | case4 | case6 | case8 | case11 => cases h

/-- Where a name that is too long is looked for, nobody can tell what is there. -/
theorem follow_of_long {name : String} {rest : List String} (hhere : name ≠ ".") (hup : name ≠ "..")
    (hlong : longestName < name.utf8ByteSize) (dir : top.item? place = some .directory) :
    follow top last links place (name :: rest) = .error .nameTooLong := by
  obtain ⟨entries, hp⟩ := Node.item?_eq_directory.1 dir
  rw [follow, hp]
  dsimp only
  rw [if_neg hhere, if_neg hup, if_pos hlong]

/-- The step into an entry of a directory. -/
theorem follow_cons {name : String} {rest : List String} (isName : IsEntryName name)
    (dir : top.item? place = some .directory) :
    follow top last links place (name :: rest) =
      match top.at? (place ++ [name]) with
      | none => if rest.isEmpty then .ok (place ++ [name], none) else .error .missing
      | some (.link target) =>
        if rest.isEmpty && !last then .ok (place ++ [name], some (.link target))
        else
          match links with
          | 0 => .error .tooManyLinks
          | fewer + 1 =>
            follow top last fewer (linkBase target place) (targetNames target ++ rest)
      | some _ => follow top last links (place ++ [name]) rest := by
  obtain ⟨entries, hp⟩ := Node.item?_eq_directory.1 dir
  rw [Node.at?_concat hp, follow, hp]
  simp only [isName.ne_here, isName.ne_above, Nat.not_lt.2 isName.size_le, if_false]
  cases links <;> rfl

/-- The steps are taken when the names are followed. -/
theorem Follows.follow_eq (h : Follows top last links place names p) :
    follow top last links place names = .ok (p, top.at? p) := by
  induction h with
  | done => rw [follow]
  | here dir _ ih | above dir _ ih =>
    obtain ⟨entries, hp⟩ := Node.item?_eq_directory.1 dir
    rw [follow, hp]
    exact ih
  | missing isName dir absent =>
    rw [follow_cons isName dir, Node.item?_eq_none.1 absent]
    rfl
  | stop isName dir link keep =>
    obtain ⟨node, hn, hi⟩ := Node.item?_eq_some.1 link
    obtain rfl := Node.item_eq_link.1 hi
    rw [follow_cons isName dir, hn, keep]
    rfl
  | @link links place p name target rest isName dir link go _ ih =>
    obtain ⟨node, hn, hi⟩ := Node.item?_eq_some.1 link
    obtain rfl := Node.item_eq_link.1 hi
    have hgo : (rest.isEmpty && !last) = false := by
      cases rest with
      | nil => rw [go rfl]; rfl
      | cons => rfl
    rw [follow_cons isName dir, hn]
    simp only [hgo, Bool.false_eq_true, if_false]
    exact ih
  | down isName dir child noLink _ ih =>
    obtain ⟨node, hn, rfl⟩ := Node.item?_eq_some.1 child
    rw [follow_cons isName dir, hn]
    cases node with
    | link target => exact absurd rfl (noLink target)
    | file | dir => exact ih

/-- **Where following succeeds.**  Names are followed to a place exactly if there are steps to it,
and what is found is what stands there. -/
theorem follow_eq_ok_iff : follow top last links place names = .ok (p, found) ↔
    Follows top last links place names p ∧ found = top.at? p :=
  ⟨follows_of_follow, fun ⟨h, hf⟩ => hf ▸ h.follow_eq⟩

namespace Follows

/-- Steps end at a directory, or in one. -/
theorem directory (h : Follows top last links place names p) :
    (names = [] ∧ p = place) ∨ top.item? p = some .directory ∨
      top.item? p.dropLast = some .directory := by
  induction h with
  | done => exact .inl ⟨rfl, rfl⟩
  | here dir _ ih =>
    obtain ⟨-, rfl⟩ | ih := ih
    · exact .inr (.inl dir)
    · exact .inr ih
  | above dir _ ih =>
    obtain ⟨-, rfl⟩ | ih := ih
    · exact .inr (.inl (Node.item?_dropLast dir))
    · exact .inr ih
  | missing _ dir => exact .inr (.inr (List.dropLast_concat ▸ dir))
  | stop _ dir => exact .inr (.inr (List.dropLast_concat ▸ dir))
  | link _ _ _ _ _ ih =>
    obtain ⟨hn, -⟩ | ih := ih
    · exact absurd hn (targetNames_append_ne_nil _ _)
    · exact .inr ih
  | down _ dir _ _ _ ih =>
    obtain ⟨-, rfl⟩ | ih := ih
    · exact .inr (.inr (List.dropLast_concat ▸ dir))
    · exact .inr ih

/-- **A tree that has more leads the same way.**  Where names lead in one tree they lead in any tree
that has the same at every place where the one has something, unless the end is a link there, and
has to be followed. -/
theorem mono (hk : ∀ q i, top.item? q = some i → top'.item? q = some i)
    (hlast : last = true → last' = true)
    (h : Follows top last links place names p)
    (hend : last' = true → ∀ target, top'.item? p ≠ some (.link target)) :
    Follows top' last' links place names p := by
  induction h with
  | done => exact .done
  | here dir _ ih => exact .here (hk _ _ dir) (ih hend)
  | above dir _ ih => exact .above (hk _ _ dir) (ih hend)
  -- A name that was missing may be there now, and is the end all the same: a link is stopped at,
  -- and anything else is gone to.
  | @missing links place name isName dir _ =>
    cases hc : top'.item? (place ++ [name]) with
    | none => exact .missing isName (hk _ _ dir) hc
    | some i =>
      cases last' with
      | true =>
        exact .down isName (hk _ _ dir) hc (fun t ht => hend rfl t (ht ▸ hc)) .done
      | false =>
        cases i with
        | link target => exact .stop isName (hk _ _ dir) hc rfl
        | file | directory => exact .down isName (hk _ _ dir) hc nofun .done
  | @stop links place name target isName dir link _ =>
    cases last' with
    | true => exact absurd (hk _ _ link) (hend rfl target)
    | false => exact .stop isName (hk _ _ dir) (hk _ _ link) rfl
  | link isName dir link go _ ih =>
    exact .link isName (hk _ _ dir) (hk _ _ link) (fun hr => hlast (go hr)) (ih hend)
  | down isName dir child noLink _ ih =>
    exact .down isName (hk _ _ dir) (hk _ _ child) noLink (ih hend)

/-- The names before the last ones lead to a directory. -/
theorem exists_directory {before after : List String} (hafter : after ≠ [])
    (h : Follows top last links place (before ++ after) p) :
    ∃ q, Follows top true links place before q ∧ top.item? q = some .directory := by
  generalize hn : before ++ after = names at h
  induction h generalizing before with
  | done => exact absurd (List.append_eq_nil_iff.1 hn).2 hafter
  | here dir _ ih =>
    cases before with
    | nil => exact ⟨_, .done, dir⟩
    | cons name before =>
      obtain ⟨rfl, he⟩ := List.cons.inj hn
      obtain ⟨q, hq, hd⟩ := ih he
      exact ⟨q, .here dir hq, hd⟩
  | above dir _ ih =>
    cases before with
    | nil => exact ⟨_, .done, dir⟩
    | cons name before =>
      obtain ⟨rfl, he⟩ := List.cons.inj hn
      obtain ⟨q, hq, hd⟩ := ih he
      exact ⟨q, .above dir hq, hd⟩
  -- These steps end the way, so no name can be left after `before`.
  | missing _ dir | stop _ dir =>
    cases before with
    | nil => exact ⟨_, .done, dir⟩
    | cons name before =>
      exact absurd (List.append_eq_nil_iff.1 (List.cons.inj hn).2).2 hafter
  | link isName dir link go _ ih =>
    cases before with
    | nil => exact ⟨_, .done, dir⟩
    | cons name before =>
      obtain ⟨rfl, rfl⟩ := List.cons.inj hn
      obtain ⟨q, hq, hd⟩ := ih (List.append_assoc ..)
      exact ⟨q, .link isName dir link (fun _ => rfl) hq, hd⟩
  | down isName dir child noLink _ ih =>
    cases before with
    | nil => exact ⟨_, .done, dir⟩
    | cons name before =>
      obtain ⟨rfl, he⟩ := List.cons.inj hn
      obtain ⟨q, hq, hd⟩ := ih he
      exact ⟨q, .down isName dir child noLink hq, hd⟩

/-- Where names lead to something through a link at their end, something stands at their end. -/
theorem exists_item {i : Item} (h : Follows top true links place names p)
    (hi : top.item? p = some i) :
    ∃ q j, Follows top false links place names q ∧ top.item? q = some j := by
  induction h with
  | done => exact ⟨_, _, .done, hi⟩
  | here dir _ ih =>
    obtain ⟨q, j, hq, hj⟩ := ih hi
    exact ⟨q, j, .here dir hq, hj⟩
  | above dir _ ih =>
    obtain ⟨q, j, hq, hj⟩ := ih hi
    exact ⟨q, j, .above dir hq, hj⟩
  | missing _ _ absent => exact absurd (absent.symm.trans hi) nofun
  | stop _ _ _ keep => exact absurd keep nofun
  | @link links place p name target rest isName dir link _ _ ih =>
    by_cases hr : rest = []
    · rw [hr]
      exact ⟨_, _, .stop isName dir link rfl, link⟩
    · obtain ⟨q, j, hq, hj⟩ := ih hi
      exact ⟨q, j, .link isName dir link (fun h => absurd h hr) hq, hj⟩
  | down isName dir child noLink _ ih =>
    obtain ⟨q, j, hq, hj⟩ := ih hi
    exact ⟨q, j, .down isName dir child noLink hq, hj⟩

end Follows

/-! ### Paths -/

variable {tree : Tree} {path : Path}

/-- A path leads to a place of a tree; a link at its end is followed if `last`. -/
structure Leads (tree : Tree) (last : Bool) (path : Path) (p : Place) : Prop where
  isText : textFault? path.text = none
  follows : Follows tree.top last mostLinks (if path.slashes = 0 then tree.here else [])
    path.names p

/-- A path is resolved to the place it leads to, with what stands there. -/
theorem resolve_eq_ok_iff :
    tree.resolve last path = .ok (p, found) ↔ tree.Leads last path p ∧ found = tree.top.at? p := by
  cases ht : textFault? path.text with
  | some fault =>
    have hr : tree.resolve last path = .error fault := by rw [resolve, ht]
    rw [hr]
    exact ⟨nofun, fun h => absurd (ht.symm.trans h.1.isText) nofun⟩
  | none =>
    have hr : tree.resolve last path = follow tree.top last mostLinks
        (if path.slashes = 0 then tree.here else []) path.names := by
      rw [resolve, ht]
    rw [hr, follow_eq_ok_iff]
    exact and_congr_left fun _ => ⟨fun h => ⟨ht, h⟩, Leads.follows⟩

/-- A path that leads to a place is resolved to what stands there. -/
theorem Leads.resolve_eq (h : tree.Leads last path p) :
    tree.resolve last path = .ok (p, tree.top.at? p) :=
  resolve_eq_ok_iff.2 ⟨h, rfl⟩

/-- The path without names leads to the current directory. -/
theorem resolve_here (tree : Tree) (last : Bool) :
    tree.resolve last ⟨0, []⟩ = .ok (tree.here, tree.top.at? tree.here) :=
  Leads.resolve_eq ⟨by decide, .done⟩

/-- What can be read is a file, and a file can be read. -/
theorem isFile_iff_read :
    tree.isFile path = .ok true ↔ ∃ content, tree.read path = .ok content := by
  rw [isFile, read]
  cases tree.resolve true path with
  | error fault =>
    refine iff_of_false (fun h => ?_) nofun
    dsimp only at h
    split at h <;> cases h
  | ok r =>
    obtain ⟨place, found⟩ := r
    cases found with
    | none => exact iff_of_false nofun nofun
    | some node =>
      cases node with
      | dir | link => exact iff_of_false nofun nofun
      | file content => exact iff_of_true rfl ⟨content, rfl⟩

/-- A path is a directory if it leads to one, over a link at its end too. -/
theorem isDir_iff :
    tree.isDir path = true ↔ ∃ p, tree.Leads true path p ∧ tree.item? p = some .directory := by
  constructor
  · intro h
    rw [isDir, node?] at h
    cases hr : tree.resolve true path with
    | error fault => rw [hr] at h; exact absurd h nofun
    | ok r =>
      obtain ⟨p, found⟩ := r
      obtain ⟨hp, rfl⟩ := resolve_eq_ok_iff.1 hr
      rw [hr] at h
      refine ⟨p, hp, Node.item?_eq_directory.2 ?_⟩
      cases hf : tree.top.at? p with
      | none => rw [hf] at h; exact absurd h nofun
      | some node =>
        rw [hf] at h
        cases node with
        | file | link => exact absurd h nofun
        | dir entries => exact ⟨entries, rfl⟩
  · rintro ⟨p, hp, hd⟩
    obtain ⟨entries, he⟩ := Node.item?_eq_directory.1 hd
    rw [isDir, node?, hp.resolve_eq, he]

/-- The text of a path is in order if it has no NUL and is short enough. -/
theorem textFault?_eq_none_iff {text : String} :
    textFault? text = none ↔ '\x00' ∉ text.toList ∧ text.utf8ByteSize ≤ longestPath := by
  by_cases hnul : text.toList.contains '\x00' = true
  · have hmem : '\x00' ∈ text.toList := List.contains_iff_mem.1 hnul
    rw [textFault?, if_pos hnul]
    exact ⟨nofun, fun h => absurd hmem h.1⟩
  · have hmem : '\x00' ∉ text.toList := fun h => hnul (List.contains_iff_mem.2 h)
    rw [textFault?, if_neg hnul]
    by_cases hsize : longestPath < text.utf8ByteSize
    · rw [if_pos hsize]
      exact ⟨nofun, fun h => absurd h.2 (Nat.not_le.2 hsize)⟩
    · rw [if_neg hsize]
      exact ⟨fun _ => ⟨hmem, Nat.not_lt.1 hsize⟩, fun _ => rfl⟩

/-- The text of a path without its last name is a start of its text, or a dot. -/
theorem exists_text_eq_parent_append (path : Path) :
    path.parent.text = "." ∨ ∃ rest, path.text = path.parent.text ++ rest := by
  obtain ⟨slashes, names⟩ := path
  obtain rfl | ⟨init, name, rfl⟩ := names.eq_nil_or_concat
  · exact .inr ⟨"", String.append_empty.symm⟩
  · rw [List.concat_eq_append]
    have hparent : Path.parent ⟨slashes, init ++ [name]⟩ = ⟨slashes, init⟩ := by
      rw [Path.parent, List.dropLast_concat]
    have hne : (init ++ [name]).isEmpty = false := by simp
    rw [hparent]
    obtain ⟨rest, hrest⟩ : ∃ rest,
        "/".intercalate (init ++ [name]) = "/".intercalate init ++ rest := by
      by_cases hi : init = []
      · exact ⟨name, by rw [hi]; rfl⟩
      · refine ⟨"/" ++ "/".intercalate [name], ?_⟩
        rw [String.intercalate_append_of_ne_nil hi (List.cons_ne_nil _ _), String.append_assoc]
    -- Without slashes in front, the text of no names at all is a dot.
    cases slashes with
    | zero =>
      cases hi : init.isEmpty with
      | true => exact .inl (by simp [Path.text, hi])
      | false => exact .inr ⟨rest, by simp only [Path.text, hne, hi, hrest]; rfl⟩
    | succ n => exact .inr ⟨rest, by simp only [Path.text, hrest, String.append_assoc]⟩

/-- A text that is a path is one without its last name, too. -/
theorem textFault?_parent (h : textFault? path.text = none) :
    textFault? path.parent.text = none := by
  obtain hdot | ⟨rest, hrest⟩ := exists_text_eq_parent_append path
  · rw [hdot]
    rfl
  · rw [hrest] at h
    obtain ⟨hnul, hsize⟩ := textFault?_eq_none_iff.1 h
    rw [String.toList_append, List.mem_append, not_or] at hnul
    rw [String.utf8ByteSize_append] at hsize
    exact textFault?_eq_none_iff.2 ⟨hnul.1, by omega⟩

/-- Where a path leads, the path without its last name leads to a directory. -/
theorem Leads.isDir_parent (h : tree.Leads last path p) (hnames : path.names ≠ []) :
    tree.isDir path.parent = true := by
  have hf := h.follows
  rw [← List.dropLast_concat_getLast hnames] at hf
  obtain ⟨q, hq, hd⟩ := hf.exists_directory (List.cons_ne_nil _ _)
  exact isDir_iff.2 ⟨q, ⟨textFault?_parent h.isText, hq⟩, hd⟩

end Tree
end TestSelection
