/-
# Trees that differ in some files

Two trees may have the same directories and links, and the same at all places but some, where each
of them has a file or nothing (`Tree.SameButFiles`). Such a place is never on the way to another
one, so a path leads to the same place in both, or nowhere in either (`SameButFiles.ledAlike`), and
unless it leads to one of these places it is read alike (`SameButFiles.sameFile`).
-/

import TestSelection.Proofs.Tree.Remade

namespace TestSelection

/-- A file stands somewhere, or nothing does. -/
def FileOrNothing : Option Item → Prop
  | none => True
  | some (.file _) => True
  | some _ => False

namespace Tree

/-- Two trees hold the same, except that at some places each has a file or nothing. -/
structure SameButFiles (edited : Place → Prop) (before after : Tree) : Prop where
  here_eq : after.here = before.here
  same : ∀ q, ¬edited q → after.item? q = before.item? q
  files : ∀ q, edited q → FileOrNothing (before.item? q) ∧ FileOrNothing (after.item? q)

/-- Where a path leads in two trees: to one place, or nowhere for the same reason, or nowhere
because something is missing on the way in either of them. -/
inductive LedAlike (before after : Node) :
    Except Fault (Place × Option Node) → Except Fault (Place × Option Node) → Prop
  | place (p : Place) : LedAlike before after (.ok (p, before.at? p)) (.ok (p, after.at? p))
  | fault (f : Fault) : LedAlike before after (.error f) (.error f)
  | absent {f f' : Fault} : f.isAbsence = true → f'.isAbsence = true →
      LedAlike before after (.error f) (.error f')

variable {edited : Place → Prop} {before after : Tree} {last : Bool} {links : Nat} {place p : Place}
  {names : List String} {path : Path} {i : Item}

namespace SameButFiles

/-- Which of the trees is the edited one makes no difference. -/
theorem symm (h : SameButFiles edited before after) : SameButFiles edited after before where
  here_eq := h.here_eq.symm
  same q hq := (h.same q hq).symm
  files q hq := (h.files q hq).symm

/-- A file was put where a file or nothing was. -/
theorem withFile {content : ByteArray} (habove : before.item? place.dropLast = some .directory)
    (hold : FileOrNothing (before.item? place)) :
    SameButFiles (· = place) before (before.withNode place (.file content)) := by
  have hnot : before.top.item? place ≠ some .directory := by
    intro hd
    rw [item?, hd] at hold
    exact hold
  have hput : (before.withNode place (.file content)).item? =
      Function.update before.item? place (some (.file content)) :=
    Node.item?_put habove hnot (Node.isBare_file content)
  refine ⟨rfl, fun q hq => ?_, fun q hq => ?_⟩
  · rw [hput, Function.update_of_ne hq]
  · rw [hput, hq, Function.update_self]
    exact ⟨hold, trivial⟩

/-- What is no file stands in both trees. -/
theorem item?_eq (h : SameButFiles edited before after) (hi : before.item? place = some i)
    (hfile : ∀ content, i ≠ .file content) : after.item? place = some i := by
  rw [h.same place fun he => ?_, hi]
  have hf := (h.files place he).1
  rw [hi] at hf
  cases i with
  | file content => exact hfile content rfl
  | link | directory => exact hf

/-- Where one tree has a file or nothing, so has the other one. -/
theorem fileOrNothing (h : SameButFiles edited before after)
    (hi : FileOrNothing (before.item? place)) : FileOrNothing (after.item? place) := by
  by_cases he : edited place
  · exact (h.files place he).2
  · rwa [h.same place he]

/-- Directories are at the same places in both trees. -/
theorem directory_iff (h : SameButFiles edited before after) :
    after.item? place = some .directory ↔ before.item? place = some .directory :=
  ⟨fun hd => h.symm.item?_eq hd (by rintro _ ⟨⟩), fun hd => h.item?_eq hd (by rintro _ ⟨⟩)⟩

/-- A link stands in both trees, with the same target. -/
theorem link (h : SameButFiles edited before after) {target : String}
    (hl : before.top.at? place = some (.link target)) :
    after.top.at? place = some (.link target) := by
  have hi : before.item? place = some (.link target) := by
    rw [item?, Node.item?, hl]
    rfl
  obtain ⟨node, hn, hi⟩ := Node.item?_eq_some.1 (h.item?_eq hi (by rintro _ ⟨⟩))
  rw [hn, Node.item_eq_link.1 hi]

/-- Where one tree has nothing, the other one has a file or nothing. -/
theorem fileOrNothing_of_none (h : SameButFiles edited before after)
    (hn : before.top.at? place = none) : FileOrNothing (after.item? place) := by
  refine h.fileOrNothing ?_
  rw [item?, Node.item?, hn]
  trivial

end SameButFiles

/-- A path ends at an entry that is a file or missing, or else leads nowhere. -/
theorem ledAlike_entry {name : String} (last : Bool) (links : Nat) (isName : IsEntryName name)
    (dir : after.item? place = some .directory)
    (hf : FileOrNothing (after.item? (place ++ [name]))) :
    LedAlike before.top after.top (.ok (place ++ [name], before.top.at? (place ++ [name])))
        (follow after.top last links place [name]) ∧
      ∀ f : Fault, f.isAbsence = true → ∀ rest ≠ [], LedAlike before.top after.top (.error f)
        (follow after.top last links place (name :: rest)) := by
  have hstep := fun rest => @follow_cons after.top last links place name rest isName dir
  have hplace : LedAlike before.top after.top _ _ := .place (place ++ [name])
  rw [item?, Node.item?] at hf
  cases hn : after.top.at? (place ++ [name]) with
  | none =>
    rw [hn] at hstep hplace
    refine ⟨?_, fun f hf rest hrest => ?_⟩
    · rw [hstep]
      exact hplace
    · rw [hstep]
      dsimp only
      rw [List.isEmpty_eq_false_iff.2 hrest]
      exact .absent hf rfl
  | some node =>
    rw [hn] at hf hstep
    cases node with
    | link | dir => exact hf.elim
    | file content =>
      refine ⟨?_, fun f hf rest hrest => ?_⟩
      · rw [hstep]
        dsimp only
        rw [follow]
        exact .place _
      · obtain ⟨next, rest, rfl⟩ := List.exists_cons_of_ne_nil hrest
        rw [hstep]
        dsimp only
        rw [follow, hn]
        exact .absent hf rfl

/-- A path to or through a file in one tree ends in the other one at the same entry, or leads
nowhere in both. -/
theorem SameButFiles.ledAlike_file (h : SameButFiles edited before after) {name : String}
    {content : ByteArray} (last : Bool) (links : Nat) (isName : IsEntryName name)
    (dir : after.item? place = some .directory)
    (hn : before.top.at? (place ++ [name]) = some (.file content)) (rest : List String) :
    LedAlike before.top after.top (follow before.top last links (place ++ [name]) rest)
      (follow after.top last links place (name :: rest)) := by
  have hf : FileOrNothing (before.item? (place ++ [name])) := by
    rw [item?, Node.item?, hn]
    trivial
  obtain ⟨hend, hmore⟩ : LedAlike before.top after.top _ _ ∧ _ :=
    ledAlike_entry last links isName dir (h.fileOrNothing hf)
  rw [follow.eq_def]
  cases rest with
  | nil => exact hend
  | cons next rest =>
    rw [hn]
    exact hmore .notDirectory rfl _ (List.cons_ne_nil _ _)

/-- **Paths lead alike** in trees that differ in files: the steps are the same up to an entry that
is a file or missing in both, and there the path ends or leads nowhere. -/
theorem SameButFiles.ledAlike_follow (h : SameButFiles edited before after) :
    LedAlike before.top after.top (follow before.top last links place names)
      (follow after.top last links place names) := by
  have hdir : ∀ {q entries}, before.top.at? q = some (.dir entries) →
      after.item? q = some .directory := fun hq =>
    h.directory_iff.2 (Node.item?_eq_directory.2 ⟨_, hq⟩)
  -- Directories and links are the same in both trees, so each step of the one is the same step of
  -- the other, until `ledAlike_entry` says how it ends.
  fun_induction follow before.top last links place names with
  | case1 links place =>
    rw [follow]
    exact .place place
  | case2 links place rest entries hp ih | case3 links place rest entries hp _ ih =>
    obtain ⟨entries', hp'⟩ := Node.item?_eq_directory.1 (hdir hp)
    rw [follow, hp']
    exact ih
  | case4 links place name rest entries hp h₁ h₂ h₃ =>
    obtain ⟨entries', hp'⟩ := Node.item?_eq_directory.1 (hdir hp)
    rw [follow, hp']
    simp only [h₁, h₂, h₃, if_true, if_false]
    exact .fault _
  | case5 links place name rest entries hp h₁ h₂ h₃ hl hrest =>
    obtain rfl := List.isEmpty_iff.1 hrest
    have hn : before.top.at? (place ++ [name]) = none := (Node.at?_concat hp).trans hl
    rw [← hn]
    exact (ledAlike_entry last links ⟨h₁, h₂, Nat.not_lt.1 h₃⟩ (hdir hp)
      (h.fileOrNothing_of_none hn)).1
  | case6 links place name rest entries hp h₁ h₂ h₃ hl hrest =>
    have hn : before.top.at? (place ++ [name]) = none := (Node.at?_concat hp).trans hl
    exact (ledAlike_entry last links ⟨h₁, h₂, Nat.not_lt.1 h₃⟩ (hdir hp)
      (h.fileOrNothing_of_none hn)).2 _ rfl rest fun he => hrest (List.isEmpty_iff.2 he)
  | case7 links place name rest entries hp h₁ h₂ h₃ target hl hend =>
    have hn : before.top.at? (place ++ [name]) = some (.link target) :=
      (Node.at?_concat hp).trans hl
    have hplace : LedAlike before.top after.top _ _ := .place (place ++ [name])
    rw [h.link hn, hn] at hplace
    rw [follow_cons ⟨h₁, h₂, Nat.not_lt.1 h₃⟩ (hdir hp), h.link hn]
    dsimp only
    rw [if_pos hend]
    exact hplace
  | case8 place name rest entries hp h₁ h₂ h₃ target hl hend =>
    rw [follow_cons ⟨h₁, h₂, Nat.not_lt.1 h₃⟩ (hdir hp), h.link ((Node.at?_concat hp).trans hl)]
    dsimp only
    rw [if_neg hend]
    exact .fault _
  | case9 place name rest entries hp h₁ h₂ h₃ target hl hend fewer base ih =>
    rw [follow_cons ⟨h₁, h₂, Nat.not_lt.1 h₃⟩ (hdir hp), h.link ((Node.at?_concat hp).trans hl)]
    dsimp only
    rw [if_neg hend]
    exact ih
  | case10 links place name rest entries hp h₁ h₂ h₃ child hnoLink hl ih =>
    have hname : IsEntryName name := ⟨h₁, h₂, Nat.not_lt.1 h₃⟩
    have hn : before.top.at? (place ++ [name]) = some child := (Node.at?_concat hp).trans hl
    cases child with
    | link target => exact absurd rfl (hnoLink target)
    | dir below =>
      obtain ⟨below', hn'⟩ := Node.item?_eq_directory.1 (hdir hn)
      rw [follow_cons hname (hdir hp), hn']
      exact ih
    | file content => exact h.ledAlike_file last links hname (hdir hp) hn rest
  | case11 links place name rest hp =>
    rw [follow]
    split
    · next entries' hp' =>
      obtain ⟨entries, hp''⟩ := Node.item?_eq_directory.1
        (h.directory_iff.1 (Node.item?_eq_directory.2 ⟨entries', hp'⟩))
      exact absurd hp'' (hp entries)
    · exact .fault _

namespace SameButFiles

/-- A path leads to the same place in both trees, and to nodes that differ only where something was
edited. -/
theorem ledAlike_resolve (h : SameButFiles edited before after) (last : Bool) (path : Path) :
    LedAlike before.top after.top (before.resolve last path) (after.resolve last path) := by
  rw [resolve, resolve, h.here_eq]
  cases textFault? path.text with
  | some fault => exact .fault fault
  | none => exact h.ledAlike_follow

/-- Where a path leads in one tree it leads in the other one. -/
theorem leads (h : SameButFiles edited before after) (hl : before.Leads last path p) :
    after.Leads last path p := by
  have hled := h.ledAlike_resolve last path
  rw [hl.resolve_eq] at hled
  generalize hr : after.resolve last path = r at hled
  cases hled with
  | place p => exact (resolve_eq_ok_iff.1 hr).1

/-- **A path is read alike** unless it leads to one of the places that differ. -/
theorem sameFile (h : SameButFiles edited before after)
    (hnot : ∀ q, before.Leads true path q → ¬edited q) : SameFile before after path := by
  have hled := h.ledAlike_resolve true path
  generalize hb : before.resolve true path = b at hled
  generalize ha : after.resolve true path = a at hled
  cases hled with
  | fault f =>
    have hfile : after.isFile path = before.isFile path := by rw [isFile, isFile, ha, hb]
    refine ⟨hfile, fun hf => ?_⟩
    rw [isFile, hb] at hf
    dsimp only at hf
    split at hf <;> cases hf
  | absent hf hf' =>
    have hfalse : before.isFile path = .ok false := by
      rw [isFile, hb]
      exact if_pos hf
    refine ⟨?_, fun h => absurd (Except.ok.inj (hfalse.symm.trans h)) Bool.false_ne_true⟩
    rw [hfalse, isFile, ha]
    exact if_pos hf'
  -- The place is the same and so is the node there, as far as reading it goes.
  | place p =>
    have hsame : after.item? p = before.item? p := h.same p (hnot p (resolve_eq_ok_iff.1 hb).1)
    rw [item?, item?, Node.item?, Node.item?] at hsame
    suffices hread : after.isFile path = before.isFile path ∧
        after.read path = before.read path from
      ⟨hread.1, fun _ => hread.2⟩
    rw [isFile, isFile, read, read, ha, hb]
    cases hn : before.top.at? p with
    | none =>
      rw [hn] at hsame
      rw [Option.map_eq_none_iff.1 hsame]
      exact ⟨rfl, rfl⟩
    | some node =>
      rw [hn] at hsame
      obtain ⟨node', hn', hi⟩ := Option.map_eq_some_iff.1 hsame
      rw [hn']
      cases node <;> cases node' <;> cases hi <;> exact ⟨rfl, rfl⟩

end SameButFiles
end Tree
end TestSelection
