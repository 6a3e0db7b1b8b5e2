/-
# Paths with detours

The system limits how long a path is, not how far it leads. A path that goes into a directory and
out of it again, as often as one likes (`detours`), leads to where it starts from, so other names
after it lead on as if it were not there (`follows_detours`). But its text may be as long as one
likes (`text_below_detours`), so there is room for short names after it and not for longer ones
(`textFault?_below_detours`). One such path leaves room for a slash and 15 more characters
(`longDirectory`).
-/

import TestSelection.Proofs.Tree.Linkless

namespace TestSelection
namespace Tree

variable {top : Node} {last : Bool} {links n : Nat} {names rest : List String} {p : Place}

/-- The way into a hidden directory and out of it, a number of times. -/
def detours : Nat → String
  | 0 => ""
  | n + 1 => ".d/../" ++ detours n

/-- The names on this way. -/
def detourNames : Nat → List String
  | 0 => []
  | n + 1 => ".d" :: ".." :: detourNames n

/-- One more step into the directory and back, as characters. -/
theorem toList_detours_succ (n : Nat) : (detours (n + 1)).toList =
    '.' :: 'd' :: '/' :: '.' :: '.' :: '/' :: (detours n).toList := by
  rw [detours, String.toList_append]
  rfl

/-- A step has six bytes. -/
theorem utf8ByteSize_detours (n : Nat) : (detours n).utf8ByteSize = 6 * n := by
  induction n with
  | zero => rfl
  | succ n ih =>
    have hone : ".d/../".utf8ByteSize = 6 := by decide
    rw [detours, String.utf8ByteSize_append, ih, hone]
    omega

/-- There is no NUL in it. -/
theorem nul_notMem_detours (n : Nat) : '\x00' ∉ (detours n).toList := by
  induction n with
  | zero => exact nofun
  | succ n ih =>
    rw [detours, String.toList_append, List.mem_append, not_or]
    exact ⟨by decide, ih⟩

/-- The path that the text writes has these names. -/
theorem ofText_detours (n : Nat) : Path.ofText (detours n) = ⟨0, detourNames n⟩ := by
  have hnames : (Path.ofText (detours n)).names = detourNames n := by
    induction n with
    | zero => decide
    | succ n ih =>
      have hsplit : ∀ cs, Path.split ('.' :: 'd' :: '/' :: '.' :: '.' :: '/' :: cs) =
          ['.', 'd'] :: ['.', '.'] :: Path.split cs := by
        intro cs
        simp [Path.split, Text.split]
      rw [Path.ofText, toList_detours_succ, hsplit, detourNames, ← ih]
      rfl
  have hslashes : (Path.ofText (detours n)).slashes = 0 := by
    cases n with
    | zero => rfl
    | succ n =>
      rw [Path.ofText, toList_detours_succ]
      rfl
  rw [← hnames, ← hslashes]

/-- **The text of a path after detours** has their text before that of its names. -/
theorem text_below_detours (n : Nat) (h : rest ≠ []) :
    ((Path.ofText (detours n)).below rest).text = detours n ++ "/".intercalate rest := by
  have hjoined : "/".intercalate (detourNames n ++ rest) = detours n ++ "/".intercalate rest := by
    induction n with
    | zero =>
      rw [detours, String.empty_append]
      rfl
    | succ n ih =>
      have hne : detourNames n ++ rest ≠ [] := by simp [h]
      rw [detours, String.append_assoc, ← ih]
      exact String.intercalate_append_of_ne_nil (List.cons_ne_nil ".d" [".."]) hne
  have hsome : (detourNames n ++ rest).isEmpty = false := by simp [h]
  rw [ofText_detours, Path.below, Path.text]
  simp only [hsome, hjoined]
  rfl

/-- Names after detours are too long for a path if there is no room for them. -/
theorem textFault?_below_detours (h : rest ≠ [])
    (hnul : '\x00' ∉ ("/".intercalate rest).toList) :
    textFault? ((Path.ofText (detours n)).below rest).text =
      if longestPath < 6 * n + ("/".intercalate rest).utf8ByteSize then some .nameTooLong
      else none := by
  have hnone : '\x00' ∉ (detours n ++ "/".intercalate rest).toList := by
    rw [String.toList_append, List.mem_append, not_or]
    exact ⟨nul_notMem_detours n, hnul⟩
  rw [text_below_detours n h, textFault?, if_neg fun hm => hnone (List.contains_iff_mem.1 hm),
    String.utf8ByteSize_append, utf8ByteSize_detours]

/-- Detours lead nowhere. -/
theorem follows_detours (htop : top.item? [] = some .directory)
    (hdir : top.item? [".d"] = some .directory) (h : Follows top last links [] names p) :
    Follows top last links [] (detourNames n ++ names) p := by
  induction n with
  | zero => exact h
  | succ n ih => exact .down ⟨by decide, by decide, by decide⟩ htop hdir nofun (.above hdir ih)

/-- The current directory, by a path of 4079 bytes. -/
def longDirectory : String := detours 680

/-- There is room for 15 more bytes after it. -/
theorem textFault?_longDirectory (h : rest ≠ [])
    (hnul : '\x00' ∉ ("/".intercalate rest).toList) :
    textFault? ((Path.ofText longDirectory).below rest).text =
      if 15 < ("/".intercalate rest).utf8ByteSize then some .nameTooLong else none := by
  have hroom : longestPath = 6 * 680 + 15 := rfl
  rw [longDirectory, textFault?_below_detours h hnul, hroom]
  simp only [Nat.add_lt_add_iff_left]

/-- The long way has a last name. -/
theorem names_longDirectory : (Path.ofText longDirectory).names ≠ [] := by
  rw [longDirectory, ofText_detours]
  exact List.cons_ne_nil _ _

/-- The long way leads back to where it begins; its text is just short enough for a path. -/
theorem leads_longDirectory {tree : Tree} (htree : tree.here = [])
    (htop : tree.item? [] = some .directory) (hdir : tree.item? [".d"] = some .directory) :
    tree.Leads true (.ofText longDirectory) [] := by
  have hroom : textFault? ((Path.ofText longDirectory).below ["a"]).text = none := by
    rw [textFault?_longDirectory (List.cons_ne_nil _ _) (by decide)]
    exact if_neg (by decide)
  refine ⟨textFault?_of_below hroom, ?_⟩
  rw [longDirectory, ofText_detours, ← List.append_nil (detourNames 680)]
  show Follows _ _ _ tree.here _ _
  rw [htree]
  exact follows_detours htop hdir .done

end Tree
end TestSelection
