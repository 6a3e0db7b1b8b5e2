/-
# Expanding commands again

A parallel command is expanded by its fields `mode`, `files` and `prefix`, and only
`files_expanded` is set. So a command that was expanded has the same sequence as before
(`Prepared.Of.again`), and expanding it over other files gives what they give for the command
itself: the files of the first expansion are replaced, at their place (`Prepared.expand_again`).

Over a list of commands this means that files expanded before, by whomever, never count
(`expandAll_again`).
-/

import TestSelection.Proofs.Plan.Recipe

namespace TestSelection

/-! ### Numbers that cannot be shown -/

namespace Value

/-- A mapping can be shown after something that can be shown is put into it. -/
theorem anyLongEntry_put {key new : Value} (hk : key.hasLongInteger = false)
    (hn : new.hasLongInteger = false) {entries : Entries} (h : anyLongEntry entries = false) :
    anyLongEntry (entries.put key new) = false := by
  induction entries with
  | nil => simp [Keyed.put, anyLongEntry, hk, hn]
  | cons entry rest ih =>
    obtain ⟨k, old⟩ := entry
    simp only [anyLongEntry, Bool.or_eq_false_iff] at h
    rw [Keyed.put]
    split
    · simp only [anyLongEntry, h.1.1, hn, h.2, Bool.or_self]
    · simp only [anyLongEntry, h.1.1, h.1.2, ih h.2, Bool.or_self]

/-- Strings hold no numbers. -/
theorem hasLongInteger_ofStrings (strings : List String) :
    (ofStrings strings).hasLongInteger = false := by
  rw [ofStrings, hasLongInteger]
  induction strings with
  | nil => rfl
  | cons s rest ih => rw [List.map_cons, anyLongInteger, ih]; rfl

end Value

namespace Parallel

variable {command expanded : Value} {commands results : List Value} {files : List String}
  {prepared : Prepared}

/-! ### One command -/

/-- A parallel command, prepared with its own sequence. -/
structure Prepared.Of (prepared : Prepared) (command : Value) : Prop where
  command_eq : command = .map prepared.entries
  isParallel : Parallel.isParallel command = true
  sequence_eq : Parallel.sequence prepared.entries = .ok prepared.sequence

/-- A command is expanded to itself or to what it is prepared to. -/
theorem expand_eq_ok_iff_prepared :
    expand files command = .ok expanded ↔
      isParallel command = false ∧ expanded = command ∨
        ∃ prepared : Prepared, prepared.Of command ∧ expanded = prepared.expand files := by
  rw [expand_eq_ok_iff]
  refine or_congr_right ⟨?_, ?_⟩
  · rintro ⟨entries, after, rfl, hm, ha, rfl⟩
    obtain ⟨s, hs, ha⟩ := Outcome.bind_eq_ok_iff.1 ha
    obtain rfl := Except.ok.inj ha
    exact ⟨⟨entries, s⟩, ⟨rfl, hm, hs⟩, rfl⟩
  · rintro ⟨⟨entries, s⟩, ⟨rfl, hm, hs⟩, rfl⟩
    refine ⟨entries, _, rfl, hm, ?_, rfl⟩
    rw [expandEntries, hs]
    rfl

/-- The fields by which a command is expanded are not the one that is set. -/
theorem sequence_put {entries : Entries} {s : Sequence} {new : Value}
    (hn : new.hasLongInteger = false) (h : sequence entries = .ok s) :
    sequence (entries.put (.str "files_expanded") new) = .ok s := by
  have hset := Entries.updated_put "files_expanded" new entries
  obtain ⟨hl, raw, own, scope, hf, hnames, hscope, hc⟩ := sequence_eq_ok_iff.1 h
  refine sequence_eq_ok_iff.2 ⟨?_, raw, own, scope, ?_, hnames, ?_, hc⟩
  · rw [Value.hasLongInteger] at hl ⊢
    exact Value.anyLongEntry_put rfl hn hl
  · rw [hset.field?_eq (by decide), hf]
  · rw [ScopedBy, hset.field?_eq (by decide)]
    exact hscope

/-- What a command is expanded to, prepared in its turn. -/
def Prepared.again (prepared : Prepared) (files : List String) : Prepared where
  entries :=
    prepared.entries.put (.str "files_expanded") (.ofStrings (prepared.sequence.select files))
  sequence := prepared.sequence

/-- **A command that was expanded keeps its sequence.** -/
theorem Prepared.Of.again (h : prepared.Of command) (files : List String) :
    (prepared.again files).Of (prepared.expand files) := by
  obtain ⟨rfl, hm, hs⟩ := h
  exact ⟨rfl, Prepared.isParallel_expand hm, sequence_put (Value.hasLongInteger_ofStrings _) hs⟩

/-- The files of the first expansion are replaced by those of the second. -/
theorem Prepared.expand_again (prepared : Prepared) (files others : List String) :
    (prepared.again files).expand others = prepared.expand others :=
  congrArg Value.map (Keyed.put_put (by simp) _ _ prepared.entries)

/-- Expanding a command again, over any files, gives what these files give for the command. -/
theorem expand_again (h : expand files command = .ok expanded) (others : List String) :
    ∃ again, expand others expanded = .ok again ∧ expand others command = .ok again := by
  rcases expand_eq_ok_iff_prepared.1 h with ⟨hm, rfl⟩ | ⟨prepared, hp, rfl⟩
  · have hself : expand others expanded = .ok expanded :=
      expand_eq_ok_iff_prepared.2 (.inl ⟨hm, rfl⟩)
    exact ⟨expanded, hself, hself⟩
  · refine ⟨prepared.expand others, ?_, expand_eq_ok_iff_prepared.2 (.inr ⟨prepared, hp, rfl⟩)⟩
    refine expand_eq_ok_iff_prepared.2 (.inr ⟨prepared.again files, hp.again files, ?_⟩)
    rw [Prepared.expand_again]

/-- Expansion leaves the mode of a command as it is. -/
theorem isParallel_expand (h : expand files command = .ok expanded) :
    isParallel expanded = isParallel command := by
  rcases expand_eq_ok_iff_prepared.1 h with ⟨-, rfl⟩ | ⟨prepared, hp, rfl⟩
  · rfl
  · rw [(hp.again files).isParallel, hp.isParallel]

/-- A command that is not parallel is handed on unchanged. -/
theorem expand_of_not_isParallel (h : expand files command = .ok expanded)
    (hm : isParallel command = false) : expanded = command := by
  rcases expand_eq_ok_iff_prepared.1 h with ⟨-, rfl⟩ | ⟨prepared, hp, -⟩
  · rfl
  · cases hm.symm.trans hp.isParallel

/-! ### All commands -/

/-- Expanding commands again, over any files, gives what these files give for the commands. -/
theorem exists_expandAll_again (h : expandAll files commands = .ok results)
    (others : List String) :
    ∃ again, expandAll others results = .ok again ∧ expandAll others commands = .ok again := by
  simp only [expandAll_eq_ok_iff] at h ⊢
  induction h with
  | nil => exact ⟨[], .nil, .nil⟩
  | cons hc _ ih =>
    obtain ⟨first, hfirst, hfirst'⟩ := expand_again hc others
    obtain ⟨rest, hrest, hrest'⟩ := ih
    exact ⟨first :: rest, .cons hfirst hrest, .cons hfirst' hrest'⟩

/-- The parallel commands may be picked out before they are expanded. -/
theorem expandAll_parallelOnly (h : expandAll files commands = .ok results) :
    expandAll files (parallelOnly commands) = .ok (parallelOnly results) := by
  rw [expandAll_eq_ok_iff] at h ⊢
  induction h with
  | nil => exact .nil
  | @cons c r _ _ hc _ ih =>
    rw [parallelOnly, parallelOnly, List.filter_cons, List.filter_cons, isParallel_expand hc]
    split
    · exact .cons hc ih
    · exact ih

/-- **Files that were expanded before do not count.**  Commands that were expanded over some files
can be expanded again over any others, and come to what these give for the commands as they were at
first; over the same files, nothing changes. There are as many commands after an expansion as
before; each is parallel if it was before, and else it is the same; and the parallel ones among
them are the expansions of the parallel ones. -/
theorem expandAll_again (h : expandAll files commands = .ok results) :
    (∀ others, ∃ again, expandAll others results = .ok again ∧
      expandAll others commands = .ok again) ∧
    expandAll files results = .ok results ∧
    results.length = commands.length ∧
    List.Forall₂ (fun command result => isParallel result = isParallel command ∧
      (isParallel command = false → result = command)) commands results ∧
    expandAll files (parallelOnly commands) = .ok (parallelOnly results) := by
  have hall := expandAll_eq_ok_iff.1 h
  refine ⟨exists_expandAll_again h, ?_, hall.length_eq.symm, ?_, expandAll_parallelOnly h⟩
  · obtain ⟨again, hresults, hcommands⟩ := exists_expandAll_again h files
    rw [hresults, ← hcommands, h]
  · exact hall.imp fun _ _ hc => ⟨isParallel_expand hc, expand_of_not_isParallel hc⟩

/-- A parallel command with files from somewhere, between other fields. -/
def staleCommand (files : Value) : Value :=
  .map [(.str "mode", .str "parallel"), (.str "files_expanded", files), (.str "files", .str "*.rb")]

/-- Two files in the place of one number, and then none. -/
theorem expandAll_again_stale :
    ∃ commands results, commands = [.str "make", staleCommand (.int 3)] ∧
      results = [.str "make", staleCommand (.list [.str "a.rb", .str "b.rb"])] ∧
      expandAll ["a.rb", "c", "b.rb"] commands = .ok results ∧
      (∀ others, ∃ again, expandAll others results = .ok again ∧
        expandAll others commands = .ok again) ∧
      expandAll ["a.rb", "c", "b.rb"] results = .ok results ∧
      results.length = commands.length ∧
      List.Forall₂ (fun command result => isParallel result = isParallel command ∧
        (isParallel command = false → result = command)) commands results ∧
      expandAll ["a.rb", "c", "b.rb"] (parallelOnly commands) = .ok (parallelOnly results) :=
  ⟨_, _, rfl, rfl, rfl, expandAll_again rfl⟩

end Parallel
end TestSelection
