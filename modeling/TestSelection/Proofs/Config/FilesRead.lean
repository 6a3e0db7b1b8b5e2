/-
# The files that a configuration is read from

The configuration, the name of the profile and the rules of an ignore file are read from files at a
few paths. In two trees in which these paths are read alike (`Tree.SameFile`) they are the same,
whatever else the trees hold.

What is loaded depends on the text of the file only: a text with a mapping at its top gives the
entries of this mapping with texts for keys (`Config.ofText?`), wherever the file is found
(`Config.loadBelow_of_ofText?`).
-/

import TestSelection.Config.ProfileName
import TestSelection.Ignore.File
import TestSelection.Proofs.Outcome
import TestSelection.Proofs.Text.Lines
import TestSelection.Proofs.Tree.Remade

namespace TestSelection

open TestSelection.Tree (IsEntryName SameFile)

variable {before after : Tree} {path root directory : Path} {asked default : Option Text}

namespace Config

/-- The text of a file is all that counts for reading it. -/
theorem readText_eq (h : after.read path = before.read path) :
    readText after path = readText before path := by
  rw [readText, readText, h]

/-- The same one of some paths is the first that leads to a file. -/
theorem firstFile?_eq {paths : List Path} (h : ∀ path ∈ paths, SameFile before after path) :
    firstFile? after paths = firstFile? before paths := by
  induction paths with
  | nil => rfl
  | cons path rest ih =>
    rw [List.forall_mem_cons] at h
    rw [firstFile?, firstFile?, h.1.isFile_eq, ih h.2]

/-- The path that is found is one of the paths, and leads to a file. -/
theorem isFile_of_firstFile? {paths : List Path} (h : firstFile? before paths = .ok (some path)) :
    path ∈ paths ∧ before.isFile path = .ok true := by
  induction paths with
  | nil => cases h
  | cons other rest ih =>
    rw [firstFile?, Outcome.bind_eq_ok_iff] at h
    obtain ⟨b, hb, h⟩ := h
    cases b with
    | true =>
      obtain rfl := Option.some.inj (Except.ok.inj h)
      exact ⟨List.mem_cons_self, hb⟩
    | false => exact (ih h).imp_left (List.mem_cons_of_mem _)

/-- A configuration that is loaded depends on no other file of the tree. -/
theorem load_eq (h : after.read path = before.read path) : load after path = load before path := by
  rw [load, load, readText_eq h]

/-! ### What a text holds -/

/-- The configuration in a text with a mapping at its top. -/
def ofText? (s : String) : Option Entries :=
  match Yaml.Content.ofText s with
  | .ok (.mapping entries) =>
    if Value.anyLongKey entries then none else some (Value.entriesWithTextKeys [] entries)
  | _ => none

/-- A file that holds a text is read as this text, with every line end written as `\n`. -/
theorem readText_of_some {content : ByteArray} {s : String} (h : before.read path = .ok content)
    (htext : String.fromUTF8? content = some s) :
    readText before path = .ok (String.ofList (Text.unifyLineEnds s.toList)) := by
  simp only [readText, h, Except.mapError, bind, Except.bind, htext]
  rfl

/-- A file with such a text is loaded as what the text holds. -/
theorem load_of_ofText? {s : String} {config : Entries} (h : readText before path = .ok s)
    (hs : ofText? s = some config) : load before path = .ok config := by
  rw [ofText?] at hs
  split at hs
  · next entries hentries =>
    split at hs
    · cases hs
    · next hkeys =>
      obtain rfl := Option.some.inj hs
      have hkeyed : (Value.map entries).textKeyed? =
          some (.map (Value.entriesWithTextKeys [] entries)) := if_neg hkeys
      simp only [load, h, bind, Except.bind, hentries, hkeyed]
      rfl
  · cases hs

/-- **What is loaded** from a file at the first place of the search path is what its text holds, by
whatever path the directory is given. -/
theorem loadBelow_of_ofText? {r : Place} {s : String} {config : Entries}
    (hlinks : before.top.IsLinkless) (hroot : before.Leads true root r)
    (hdir : before.item? r = some .directory)
    (hroom : Tree.textFault? (root.below ["solano.yml"]).text = none)
    (hfile : before.item? (r ++ ["solano.yml"]) = some (.file s.toUTF8)) (hends : '\r' ∉ s.toList)
    (hs : ofText? s = some config) :
    loadBelow before root = .ok (root.under "solano.yml", config) := by
  have hname : ∀ name ∈ ["solano.yml"], IsEntryName name :=
    List.forall_mem_singleton.2 ⟨by decide, by decide, by decide⟩
  have hpath : root.under "solano.yml" = root.below ["solano.yml"] := by
    have hwritten : Path.ofText "solano.yml" = ⟨0, ["solano.yml"]⟩ := by decide
    rw [Path.under_eq_below (by rw [hwritten]), hwritten]
  have hthere : before.isFile (root.under "solano.yml") = .ok true := by
    obtain ⟨b, hb, hiff⟩ := Tree.isFile_below hlinks hroot hdir hname hroom
    rw [hpath, hb, hiff.2 ⟨_, hfile⟩]
  have hread : before.read (root.under "solano.yml") = .ok s.toUTF8 := by
    rw [hpath]
    exact Tree.read_below hlinks hroot hdir hname hroom hfile
  have htext : readText before (root.under "solano.yml") = .ok s := by
    rw [readText_of_some hread (Text.fromUTF8?_toUTF8 _), Text.unifyLineEnds_of_not_mem hends,
      String.ofList_toList]
  have hfind : find? before root = .ok (some (root.under "solano.yml")) := by
    rw [find?, searchPaths, List.map_cons, firstFile?, hthere]
    rfl
  rw [loadBelow, hfind]
  simp only [Except.mapError, bind, Except.bind, load_of_ofText? htext hs]
  rfl

/-! ### What the files say -/

/-- A configuration is loaded from a file on the search path. -/
theorem exists_of_loadBelow {config : Entries} (h : loadBelow before root = .ok (path, config)) :
    ∃ s ∈ searchPaths, path = root.under s ∧ before.isFile path = .ok true := by
  rw [loadBelow, Outcome.bind_eq_ok_iff] at h
  obtain ⟨found, hf, h⟩ := h
  cases found with
  | none => cases h
  | some first =>
    rw [Outcome.bind_eq_ok_iff] at h
    obtain ⟨_, -, h⟩ := h
    obtain ⟨rfl, -⟩ := Prod.mk.inj (Except.ok.inj h)
    obtain ⟨hm, hfile⟩ := isFile_of_firstFile? (Outcome.mapError_eq_ok_iff.1 hf)
    obtain ⟨s, hs, rfl⟩ := List.mem_map.1 hm
    exact ⟨s, hs, rfl, hfile⟩

/-- **The configuration** depends on the files of the search path only. -/
theorem loadBelow_eq (h : ∀ s ∈ searchPaths, SameFile before after (root.under s)) :
    loadBelow after root = loadBelow before root := by
  have hsame : ∀ path ∈ searchPaths.map root.under, SameFile before after path := by
    simpa using h
  have hfind : find? after root = find? before root := firstFile?_eq hsame
  rw [loadBelow, loadBelow, hfind]
  cases hf : find? before root with
  | error fault => rfl
  | ok found =>
    cases found with
    | none => rfl
    | some path =>
      obtain ⟨hm, hfile⟩ := isFile_of_firstFile? hf
      show (load after path >>= _) = (load before path >>= _)
      rw [load_eq ((hsame path hm).read_eq hfile)]

/-- What the plan variables say depends on their file only. -/
theorem variablesProfile_eq (h : SameFile before after (root.under variablesFile)) :
    variablesProfile after root = variablesProfile before root := by
  rw [variablesProfile, variablesProfile]
  rw [h.isFile_eq]
  cases hb : before.isFile (root.under variablesFile) with
  | error fault => rfl
  | ok b =>
    cases b with
    | false => rfl
    | true =>
      show (readText after _ >>= _) = (readText before _ >>= _)
      rw [readText_eq (h.read_eq hb)]

/-- **The name of the profile** depends on the plan variables only, and not even on these if a
profile is asked for. -/
theorem profileName_eq (h : (Text.strip (asked.getD [])).isEmpty = true →
      SameFile before after (root.under variablesFile)) :
    profileName after root asked default = profileName before root asked default := by
  rw [profileName, profileName]
  dsimp only
  split
  · next hblank => rw [variablesProfile_eq (h hblank)]
  · rfl

end Config

/-- **The rules in a directory** depend on its ignore file only. -/
theorem Ignore.load_eq (h : SameFile before after (directory.under fileName)) :
    load after directory = load before directory := by
  rw [load, load]
  rw [h.isFile_eq]
  cases hb : before.isFile (directory.under fileName) with
  | error fault => rfl
  | ok b =>
    cases b with
    | false => rfl
    | true =>
      simp only [h.read_eq hb]

end TestSelection
