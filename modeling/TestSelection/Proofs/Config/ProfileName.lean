/-
# Which profile is used

The name of the profile comes from the first of three sources that gives one (`Resolved`):

| source | gives |
| --- | --- |
| the name that is asked for | this name |
| the plan variables | what stands under `next_profile`, as a text |
| the default | this name |

A name is given without the blanks around it, and blanks alone give none. The plan variables are
looked at only if no profile is asked for; then their file has to be JSON that can be read, if it is
there at all (`Variables`). `profileName_eq_iff_resolved` says that this is what happens, and that
nothing else does.

What can be read is not all of JSON: a number of too many digits keeps the default from being used,
where any smaller number in its place would not (`profileName_fails_of_longNumber`).
-/

import TestSelection.Proofs.Config.FilesRead
import TestSelection.Proofs.Json.Values
import TestSelection.Proofs.Text.Strip

namespace TestSelection
namespace Config

/-- A text of blanks only; so is one that is missing. -/
def IsBlank (t : Option Text) : Prop := ∀ c ∈ t.getD [], c.passes Text.isBlank = true

/-- The name in a text: what stands between the blanks at its ends, if that is anything. -/
def Gives (t name : Text) : Prop := Text.Trims (Code.passes Text.isBlank) t name ∧ name ≠ []

/-- The name in plan variables: that in the text of their `next_profile`, if this is not void. -/
def GivesNext (said : Value) (name : Text) : Prop :=
  ∃ entries next, said = .map entries ∧ Entries.field? entries "next_profile" = some next ∧
    next.isVoid = false ∧ Gives next.text name

/-- What the file of the plan variables holds: nothing if it is not there, a value if it is JSON,
and otherwise what is wrong with it. -/
inductive Variables (tree : Tree) (path : Path) : Except LoadError (Option Value) → Prop
  | absent : tree.isFile path = .ok false → Variables tree path (.ok none)
  | present {content : ByteArray} {s : String} {value : Value} :
      tree.read path = .ok content → String.fromUTF8? content = some s →
      Json.read (String.ofList (Text.unifyLineEnds s.toList)) = .ok value →
        Variables tree path (.ok (some value))
  | notText {content : ByteArray} :
      tree.read path = .ok content → String.fromUTF8? content = none →
        Variables tree path (.error .notText)
  | notJson {content : ByteArray} {s : String} :
      tree.read path = .ok content → String.fromUTF8? content = some s →
      Json.read (String.ofList (Text.unifyLineEnds s.toList)) = .error .malformed →
        Variables tree path (.error (.config (.unreadable path.text)))
  | tooLarge {content : ByteArray} {s : String} {fault : Json.Fault} :
      tree.read path = .ok content → String.fromUTF8? content = some s →
      Json.read (String.ofList (Text.unifyLineEnds s.toList)) = .error fault →
      fault ≠ .malformed → Variables tree path (.error (.json fault))
  /-- It cannot be told whether the file is there. -/
  | hidden {fault : Fault} : tree.isFile path = .error fault →
      Variables tree path (.error (.file fault))

/-- The name that is used, or why there is none. -/
inductive Resolved (tree : Tree) (root : Path) (asked default : Option Text) :
    Except LoadError Text → Prop
  | asked {name : Text} : Gives (asked.getD []) name → Resolved tree root asked default (.ok name)
  | unusable {e : LoadError} : IsBlank asked →
      Variables tree (root.under variablesFile) (.error e) →
        Resolved tree root asked default (.error e)
  | next {said : Value} {name : Text} : IsBlank asked →
      Variables tree (root.under variablesFile) (.ok (some said)) → GivesNext said name →
        Resolved tree root asked default (.ok name)
  | default {found : Option Value} {name : Text} : IsBlank asked →
      Variables tree (root.under variablesFile) (.ok found) →
      (∀ said ∈ found, ∀ name, ¬GivesNext said name) →
      Gives (default.getD []) name → Resolved tree root asked default (.ok name)
  | missing {found : Option Value} : IsBlank asked →
      Variables tree (root.under variablesFile) (.ok found) →
      (∀ said ∈ found, ∀ name, ¬GivesNext said name) → IsBlank default →
        Resolved tree root asked default (.error (.config .noProfileName))

variable {tree : Tree} {root path : Path} {asked default : Option Text} {t name : Text}
  {said : Value} {found : Option Value} {state : Except LoadError (Option Value)}
  {out : Except LoadError Text}

/-! ### Names -/

/-- The name in a text is the text stripped of its blanks. -/
theorem gives_iff : Gives t name ↔ Text.strip t = name ∧ name ≠ [] := by
  rw [Gives, Text.strip, Text.trim_eq_iff]

/-- A text is blank when nothing is left of it. -/
theorem isBlank_iff : IsBlank asked ↔ Text.strip (asked.getD []) = [] :=
  Text.trim_eq_nil_iff.symm

/-- A text gives a name or is blank. -/
theorem gives_or_isBlank (t : Option Text) : (∃ name, Gives (t.getD []) name) ∨ IsBlank t := by
  simp only [gives_iff, isBlank_iff]
  by_cases h : Text.strip (t.getD []) = []
  · exact .inr h
  · exact .inl ⟨_, rfl, h⟩

/-- A name that was given has no blanks at its ends. -/
theorem Gives.strip_eq (h : Gives t name) : Text.strip name = name := by
  obtain ⟨rfl, -⟩ := gives_iff.1 h
  exact Text.trim_trim ..

/-- What is read of the plan variables is the name in them. -/
theorem givesNext_iff : GivesNext said name ↔ nextProfile said = name ∧ name ≠ [] := by
  constructor
  · rintro ⟨entries, next, rfl, hnext, hvoid, hname⟩
    obtain ⟨rfl, hne⟩ := gives_iff.1 hname
    refine ⟨?_, hne⟩
    dsimp only [nextProfile]
    rw [hnext]
    dsimp only
    rw [hvoid]
    rfl
  · rintro ⟨hname, hne⟩
    -- The three ways in which variables give no name leave it empty: no mapping, no such key, a
    -- void value.
    unfold nextProfile at hname
    split at hname
    case h_2 => exact absurd hname.symm hne
    case h_1 entries =>
      split at hname
      case h_2 => exact absurd hname.symm hne
      case h_1 next hnext =>
        split at hname
        case isTrue => exact absurd hname.symm hne
        case isFalse hvoid =>
          exact ⟨entries, next, rfl, hnext, Bool.eq_false_iff.2 hvoid, gives_iff.2 ⟨hname, hne⟩⟩

/-- The name in plan variables that may be missing; empty if they give none. -/
def nextOf (found : Option Value) : Text := found.elim [] nextProfile

/-- Plan variables give a name or leave it empty. -/
theorem nextOf_cases (found : Option Value) :
    (∃ said ∈ found, GivesNext said (nextOf found)) ∨
      (nextOf found = [] ∧ ∀ said ∈ found, ∀ name, ¬GivesNext said name) := by
  cases found with
  | none => exact .inr ⟨rfl, nofun⟩
  | some said =>
    -- The variables are there; their name may still be empty.
    by_cases h : nextProfile said = []
    · refine .inr ⟨h, fun other ho name hname => ?_⟩
      obtain rfl := Option.some.inj ho
      obtain ⟨rfl, hne⟩ := givesNext_iff.1 hname
      exact hne h
    · exact .inl ⟨said, rfl, givesNext_iff.2 ⟨rfl, h⟩⟩

/-- Plan variables that give no name leave it empty. -/
theorem nextOf_eq_nil (h : ∀ said ∈ found, ∀ name, ¬GivesNext said name) :
    nextOf found = [] := by
  rcases nextOf_cases found with ⟨said, hv, hname⟩ | ⟨hnil, -⟩
  · exact absurd hname (h said hv _)
  · exact hnil

/-! ### The plan variables -/

/-- The states of `Variables` leave nothing out: the file is there or not, is text or not, and its
text is JSON or not. -/
theorem exists_variables (tree : Tree) (path : Path) : ∃ state, Variables tree path state := by
  cases hfile : tree.isFile path with
  | error fault => exact ⟨_, .hidden hfile⟩
  | ok there =>
    cases there with
    | false => exact ⟨_, .absent hfile⟩
    | true =>
      obtain ⟨content, hread⟩ := Tree.isFile_iff_read.1 hfile
      cases htext : String.fromUTF8? content with
      | none => exact ⟨_, .notText hread htext⟩
      | some s =>
        cases hjson : Json.read (String.ofList (Text.unifyLineEnds s.toList)) with
        | ok value => exact ⟨_, .present hread htext hjson⟩
        | error fault =>
          by_cases hf : fault = .malformed
          · exact ⟨_, .notJson hread htext (hf ▸ hjson)⟩
          · exact ⟨_, .tooLarge hread htext hjson hf⟩

/-- Bytes that are not UTF-8 have no text. -/
theorem readText_of_none {content : ByteArray} (h : tree.read path = .ok content)
    (htext : String.fromUTF8? content = none) : readText tree path = .error .notText := by
  simp only [readText, h, Except.mapError, bind, Except.bind, htext]
  rfl

/-- Where there is a file, its text is read as JSON. -/
theorem variablesProfile_of_read {content : ByteArray}
    (h : tree.read (root.under variablesFile) = .ok content) :
    variablesProfile tree root = (readText tree (root.under variablesFile) >>= fun s =>
      match Json.read s with
      | .error .malformed => throw (.config (.unreadable (root.under variablesFile).text))
      | .error fault => throw (.json fault)
      | .ok found => return nextProfile found) := by
  rw [variablesProfile, Tree.isFile_iff_read.2 ⟨content, h⟩]
  rfl

/-- The name that the plan variables give is told by what their file holds. -/
theorem Variables.profile_eq (h : Variables tree (root.under variablesFile) state) :
    variablesProfile tree root = state.map nextOf := by
  cases h with
  | absent hfile =>
    rw [variablesProfile, hfile]
    rfl
  | hidden hfile =>
    rw [variablesProfile, hfile]
    rfl
  | notText hread hnone =>
    rw [variablesProfile_of_read hread, readText_of_none hread hnone]
    rfl
  | present hread hsome hjson | notJson hread hsome hjson =>
    rw [variablesProfile_of_read hread, readText_of_some hread hsome]
    dsimp only [bind, Except.bind]
    rw [hjson]
    rfl
  -- A fault that is not the writer's is passed on as it is.
  | @tooLarge _ _ fault hread hsome hjson hf =>
    rw [variablesProfile_of_read hread, readText_of_some hread hsome]
    dsimp only [bind, Except.bind]
    rw [hjson]
    cases fault with
    | malformed => exact absurd rfl hf
    | longInteger | tooDeep => rfl

/-! ### The name -/

/-- A profile that is asked for is used, whatever the tree holds. -/
theorem profileName_of_gives (h : Gives (asked.getD []) name) :
    profileName tree root asked default = .ok name := by
  obtain ⟨hname, hne⟩ := gives_iff.1 h
  have hempty : name.isEmpty = false := by simpa using hne
  simp [profileName, hname, orElse, hempty, bind, Except.bind, pure, Except.pure]

/-- Plan variables that cannot be used leave no name, if none is asked for. -/
theorem profileName_of_unusable {e : LoadError} (h : IsBlank asked)
    (hstate : Variables tree (root.under variablesFile) (.error e)) :
    profileName tree root asked default = .error e := by
  rw [profileName, isBlank_iff.1 h, hstate.profile_eq]
  rfl

/-- A name in the plan variables is used, if none is asked for. -/
theorem profileName_of_next (h : IsBlank asked)
    (hstate : Variables tree (root.under variablesFile) (.ok found)) (hnext : nextOf found = name)
    (hne : name ≠ []) : profileName tree root asked default = .ok name := by
  have hempty : name.isEmpty = false := by simpa using hne
  rw [profileName, isBlank_iff.1 h, hstate.profile_eq]
  simp [Except.map, hnext, orElse, hempty, bind, Except.bind, pure, Except.pure]

/-- Otherwise the default decides. -/
theorem profileName_of_none (h : IsBlank asked)
    (hstate : Variables tree (root.under variablesFile) (.ok found)) (hnext : nextOf found = [])
    (hname : Text.strip (default.getD []) = name) :
    profileName tree root asked default =
      if name = [] then .error (.config .noProfileName) else .ok name := by
  rw [profileName, isBlank_iff.1 h, hstate.profile_eq]
  by_cases hne : name = []
  · simp [Except.map, hnext, hname, orElse, hne, bind, Except.bind, throw, throwThe,
      MonadExceptOf.throw]
  · simp [Except.map, hnext, hname, orElse, hne, bind, Except.bind, pure, Except.pure]

/-- What the sources say is what is used. -/
theorem Resolved.profileName_eq (h : Resolved tree root asked default out) :
    profileName tree root asked default = out := by
  cases h with
  | asked hname => exact profileName_of_gives hname
  | unusable hblank hstate => exact profileName_of_unusable hblank hstate
  | next hblank hstate hnext =>
    obtain ⟨hname, hne⟩ := givesNext_iff.1 hnext
    exact profileName_of_next hblank hstate hname hne
  | default hblank hstate hnone hname =>
    obtain ⟨hname, hne⟩ := gives_iff.1 hname
    rw [profileName_of_none hblank hstate (nextOf_eq_nil hnone) hname, if_neg hne]
  | missing hblank hstate hnone hdefault =>
    rw [profileName_of_none hblank hstate (nextOf_eq_nil hnone) (isBlank_iff.1 hdefault),
      if_pos rfl]

/-- The cases of `Resolved` leave nothing out. -/
theorem exists_resolved (tree : Tree) (root : Path) (asked default : Option Text) :
    ∃ out, Resolved tree root asked default out := by
  rcases gives_or_isBlank asked with ⟨name, hname⟩ | hblank
  · exact ⟨_, .asked hname⟩
  · obtain ⟨state, hstate⟩ := exists_variables tree (root.under variablesFile)
    cases state with
    | error e => exact ⟨_, .unusable hblank hstate⟩
    | ok found =>
      rcases nextOf_cases found with ⟨said, rfl, hnext⟩ | ⟨-, hnone⟩
      · exact ⟨_, .next hblank hstate hnext⟩
      · rcases gives_or_isBlank default with ⟨name, hname⟩ | hdefault
        · exact ⟨_, .default hblank hstate hnone hname⟩
        · exact ⟨_, .missing hblank hstate hnone hdefault⟩

/-- A name that is used is one that some text gives. -/
theorem Resolved.exists_gives (h : Resolved tree root asked default (.ok name)) :
    ∃ t, Gives t name := by
  cases h with
  | asked hname => exact ⟨_, hname⟩
  | next _ _ hnext =>
    obtain ⟨-, next, -, -, -, hname⟩ := hnext
    exact ⟨_, hname⟩
  | default _ _ _ hname => exact ⟨_, hname⟩

/-- **Which profile is used.**  The first source that gives a name decides, and the plan variables
have to be usable if they are looked at. A name that is used is not empty and has no blanks at its
ends. -/
theorem profileName_eq_iff_resolved (tree : Tree) (root : Path) (asked default : Option Text) :
    (∀ out, profileName tree root asked default = out ↔ Resolved tree root asked default out) ∧
      ∀ name, profileName tree root asked default = .ok name →
        name ≠ [] ∧ Text.strip name = name := by
  have hresolved : ∀ out,
      profileName tree root asked default = out ↔ Resolved tree root asked default out := by
    refine fun out => ⟨?_, Resolved.profileName_eq⟩
    rintro rfl
    obtain ⟨out, hout⟩ := exists_resolved tree root asked default
    rwa [hout.profileName_eq]
  refine ⟨hresolved, fun name hname => ?_⟩
  obtain ⟨t, ht⟩ := ((hresolved _).1 hname).exists_gives
  exact ⟨ht.2, ht.strip_eq⟩

/-! ### Plan variables with a large number -/

/-- Plan variables that hold a number and no name. -/
def numbered (k : Nat) : String := "\x7b\"n\": " ++ String.ofList (Nat.toDigits 10 k) ++ "\n\x7d"

/-- The variables with one number in them, as characters. -/
theorem toList_numbered (k : Nat) :
    (numbered k).toList =
      '\x7b' :: (Json.string "n" ++ ':' :: ' ' :: Nat.toDigits 10 k ++ ['\n', '\x7d']) := by
  simp [numbered, Json.string, Text.ofString, Text.ofChars, Json.escapeCode, Json.escapeChar]

/-- The entry of these variables is read, as long as its number has no more digits than can be
read. -/
theorem readEntries_numbered {k steps : Nat} (hsteps : (Nat.toDigits 10 k).length ≤ steps) :
    Json.readEntries 1 (steps + 1)
        (Json.string "n" ++ ':' :: ' ' :: Nat.toDigits 10 k ++ ['\n', '\x7d']) =
      if 10 ^ Text.mostDigits ≤ k then .error (.longInteger (Nat.toDigits 10 k).length)
      else .ok ([(.str "n", .int k)], []) := by
  have hstops : Json.Stops ['\n', '\x7d'] := Json.stops_newLine 0 ['\x7d']
  split
  case isTrue hlong =>
    have hdigits : 0 < (Nat.toDigits 10 k).length := List.length_pos_iff.2 Nat.toDigits_ne_nil
    obtain ⟨fewer, rfl⟩ : ∃ fewer, steps = fewer + 1 := ⟨steps - 1, by omega⟩
    have hread : Json.readValue 1 (fewer + 1) (Nat.toDigits 10 k ++ ['\n', '\x7d']) =
        .error (.longInteger (Nat.toDigits 10 k).length) := by
      rw [Json.readValue_toDigits, Json.readNumber_toDigits_eq false k hstops, if_pos hlong]
    exact Json.readEntries_of_fault "n" (Json.opens_toDigits k).skipSpace_eq hread
  case isFalse hfew =>
    have hwrites : Json.Writes 0 (.int k) (Nat.toDigits 10 k) :=
      Json.writes_toDigits (Nat.not_le.1 hfew)
    exact (Json.readEntries_line "n" hwrites (by decide) hsteps hstops).1 [] rfl

/-- The number is read unless it has too many digits. -/
theorem read_numbered (k : Nat) :
    Json.read (numbered k) =
      if 10 ^ Text.mostDigits ≤ k then .error (.longInteger (Nat.toDigits 10 k).length)
      else .ok (.map [(.str "n", .int k)]) := by
  let entry := Json.string "n" ++ ':' :: ' ' :: Nat.toDigits 10 k ++ ['\n', '\x7d']
  have hskip : Json.skipSpace entry = entry := Json.skipSpace_cons_of_not (by decide)
  have hlength : (Nat.toDigits 10 k).length ≤ entry.length := by
    simp only [entry, List.length_append, List.length_cons]
    omega
  rw [Json.read, toList_numbered, Json.skipSpace_cons_of_not (by decide), List.length_cons,
    Json.readValue, if_neg (by decide), hskip]
  show (Except.map _ (Json.readEntries 1 (entry.length + 1) entry) >>= _) = _
  rw [readEntries_numbered hlength]
  split <;> rfl

/-- These variables are one line, so unifying line ends leaves them alone. -/
theorem not_mem_numbered (k : Nat) : '\r' ∉ (numbered k).toList := by
  intro h
  simp only [numbered, String.toList_append, String.toList_ofList, List.mem_append] at h
  rcases h with (h | h) | h
  · exact absurd h (by decide)
  · have hdigit : Text.isDigitIn 10 '\r' = true :=
      Text.isDigitIn_of_mem_toDigits (by decide) (by decide) h
    exact absurd hdigit (by decide)
  · exact absurd h (by decide)

/-- A tree with nothing but plan variables. -/
def variablesTree (s : String) : Tree := ⟨.dir [(variablesFile, .file s.toUTF8)], []⟩

/-- What the tree with these variables holds under their name. -/
theorem read_variablesTree (s : String) :
    (variablesTree s).read (Path.under ⟨0, []⟩ variablesFile) = .ok s.toUTF8 := by
  have hleads : (variablesTree s).Leads true ⟨0, [variablesFile]⟩ [variablesFile] :=
    ⟨by decide, .down ⟨by decide, by decide, by decide⟩ rfl rfl nofun .done⟩
  have hpath : Path.under ⟨0, []⟩ variablesFile = ⟨0, [variablesFile]⟩ := by decide
  rw [hpath, Tree.read, hleads.resolve_eq]
  rfl

/-- Plan variables without a name leave the choice to the default, unless a number in them has too
many digits: then no name is found. -/
theorem profileName_fails_of_longNumber :
    (∀ k < 10 ^ Text.mostDigits,
      profileName (variablesTree (numbered k)) ⟨0, []⟩ none (some "d") = .ok "d") ∧
    profileName (variablesTree (numbered (10 ^ Text.mostDigits))) ⟨0, []⟩ none (some "d") =
      .error (.json (.longInteger (Text.mostDigits + 1))) := by
  have hasked : IsBlank none := nofun
  have hends : ∀ k, Json.read (String.ofList (Text.unifyLineEnds (numbered k).toList)) =
      Json.read (numbered k) := fun k => by
    rw [Text.unifyLineEnds_of_not_mem (not_mem_numbered k), String.ofList_toList]
  constructor
  · intro k hk
    have hread : Json.read (numbered k) = .ok (.map [(.str "n", .int k)]) := by
      rw [read_numbered, if_neg (Nat.not_le.2 hk)]
    have hstate : Variables (variablesTree (numbered k)) (Path.under ⟨0, []⟩ variablesFile)
        (.ok (some (.map [(.str "n", .int k)]))) :=
      .present (read_variablesTree _) (Text.fromUTF8?_toUTF8 _) ((hends k).trans hread)
    rw [profileName_of_none hasked hstate rfl rfl]
    rfl
  · have hread : Json.read (numbered (10 ^ Text.mostDigits)) =
        .error (.longInteger (Text.mostDigits + 1)) := by
      rw [read_numbered, if_pos (Nat.le_refl _), Text.length_toDigits_pow]
    exact profileName_of_unusable hasked
      (.tooLarge (read_variablesTree _) (Text.fromUTF8?_toUTF8 _) ((hends _).trans hread) nofun)

end Config
end TestSelection
