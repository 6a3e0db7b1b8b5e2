/-
# Lines made of fields

A line falls into the fields of its parts wherever it is cut at a blank that counts, one outside of
quotes and not after a backslash (`splitFields_append_blank`): what is read after such a blank does
not depend on what stands before it, because the finished fields are only ever added to
(`Splitter.foldl_step_behind`).

Any field that is not empty can be put on a line, in two spellings:

| spelling | written | after a backslash |
| --- | --- | --- |
| `escaped` | as it stands | blanks, quotes and backslashes |
| `quoted` | between two quotes | quotes and backslashes |

Both are read alike: one character adds itself to the open field, with a backslash before it or
without (`Splitter.foldl_step_guarded`). So fields with blanks between them are read back, whatever
their spellings and the blanks (`splitFields_placed`).
-/

import TestSelection.Proofs.Listing.Printed

namespace TestSelection
namespace Listing

variable {c : Char} {gap u line f : List Char}

namespace Splitter

variable {s : Splitter}

/-- Outside of quotes and not after a backslash. -/
structure IsFree (s : Splitter) : Prop where
  unquoted : s.quoted = false
  unescaped : s.escaped = false

/-- At the start of a line blanks count. -/
theorem isFree_start : start.IsFree := ⟨rfl, rfl⟩

/-- No step finishes a field that is empty. -/
theorem foldl_step_fields_ne_nil (h : ∀ f ∈ s.fields, f ≠ []) (cs : List Char) :
    ∀ f ∈ (cs.foldl step s).fields, f ≠ [] := by
  induction cs generalizing s with
  | nil => exact h
  | cons c cs ih => exact ih (step_fields_ne_nil h c)

/-! ### Reading behind other fields -/

/-- The same reading, behind some fields that were finished before it began. -/
def behind (fs : List (List Char)) (s : Splitter) : Splitter := { s with fields := fs ++ s.fields }

/-- The fields that came before stand in front of those of the reading. -/
theorem finish_behind (fs : List (List Char)) (s : Splitter) :
    (s.behind fs).finish = fs ++ s.finish := by
  unfold finish behind
  cases s.word.isEmpty with
  | true => rfl
  | false => exact List.append_assoc ..

/-- A step does not look at the fields that are finished. -/
theorem step_behind (fs : List (List Char)) (s : Splitter) (c : Char) :
    (s.behind fs).step c = (s.step c).behind fs := by
  -- a step puts the open field behind the finished ones, or leaves these as they are
  rw [step, step]
  simp only [apply_ite (behind fs)]
  rw [finish_behind]
  rfl

/-- So a reading goes on in the same way behind any fields. -/
theorem foldl_step_behind (fs : List (List Char)) (s : Splitter) (cs : List Char) :
    cs.foldl step (s.behind fs) = (cs.foldl step s).behind fs := by
  induction cs generalizing s with
  | nil => rfl
  | cons c cs ih => rw [List.foldl_cons, List.foldl_cons, step_behind, ih]

/-- After a blank that counts the reading starts anew, behind the fields so far. -/
theorem step_blank (h : s.IsFree) (hc : Text.isBlank c = true) :
    s.step c = start.behind s.finish := by
  have hslash : c ≠ '\\' := by
    rintro rfl
    exact absurd hc (by decide)
  have hquote : c ≠ '"' := by
    rintro rfl
    exact absurd hc (by decide)
  obtain ⟨fields, word, quoted, escaped⟩ := s
  obtain ⟨rfl, rfl⟩ := h
  simp [step, behind, start, hslash, hquote, hc]

end Splitter

/-- A field is never empty. -/
theorem ne_nil_of_mem_splitFields (h : f ∈ splitFields line) : f ≠ [] :=
  Splitter.finish_ne_nil (Splitter.foldl_step_fields_ne_nil (List.forall_mem_nil _) line) f h

/-- **A line is cut at its blanks.**  The two sides of a blank that counts are read apart. -/
theorem splitFields_append_blank (hu : (u.foldl Splitter.step Splitter.start).IsFree)
    (hc : Text.isBlank c = true) (v : List Char) :
    splitFields (u ++ c :: v) = splitFields u ++ splitFields v := by
  rw [splitFields, List.foldl_append, List.foldl_cons, Splitter.step_blank hu hc,
    Splitter.foldl_step_behind, Splitter.finish_behind]
  rfl

/-- A blank in quotes does not count. -/
example : fields "\"a b\"" = ["a b"] ∧ fields "\"a" ++ fields "b\"" = ["a", "b"] := by decide

/-- Blanks in front of a line change nothing. -/
theorem splitFields_blanks_append (h : ∀ c ∈ gap, Text.isBlank c = true) (v : List Char) :
    splitFields (gap ++ v) = splitFields v := by
  induction gap with
  | nil => rfl
  | cons c gap ih =>
    have hcut : splitFields (c :: (gap ++ v)) = splitFields [] ++ splitFields (gap ++ v) :=
      splitFields_append_blank (u := []) Splitter.isFree_start (h c (List.mem_cons_self ..)) _
    rw [List.cons_append, hcut, ih fun d hd => h d (List.mem_cons_of_mem _ hd)]
    rfl

/-! ### Spellings -/

/-- How a field is written on a line. -/
inductive Spelling where
  | escaped
  | quoted
  deriving DecidableEq

/-- Some characters, with a backslash before each one that passes a test. -/
def guarded (p : Char → Bool) (cs : List Char) : List Char :=
  cs.flatMap fun c => if p c then ['\\', c] else [c]

namespace Spelling

/-- Whether the field stands between quotes. -/
def isQuoted : Spelling → Bool
  | .escaped => false
  | .quoted => true

/-- What is written after a backslash. -/
def guards : Spelling → Char → Bool
  | .escaped, c => isSpecial c
  | .quoted, c => c == '\\' || c == '"'

/-- A field as it is written. -/
def spell : Spelling → List Char → List Char
  | .escaped, field => guarded escaped.guards field
  | .quoted, field => '"' :: guarded quoted.guards field ++ ['"']

/-- Only special characters need a backslash. -/
theorem isSpecial_of_guards {sp : Spelling} (h : sp.guards c = true) : isSpecial c = true := by
  cases sp with
  | escaped => exact h
  | quoted =>
    rw [isSpecial, Bool.or_eq_true]
    exact .inl h

end Spelling

namespace Splitter

variable {s : Splitter}

/-- What needs no backslash is taken as it is, in quotes or outside of them. -/
theorem step_of_not_guards (sp : Spelling) (he : s.escaped = false)
    (hq : s.quoted = sp.isQuoted) (hc : sp.guards c = false) :
    s.step c = { s with word := s.word ++ [c] } := by
  cases sp with
  | escaped => exact step_plain he hc
  | quoted =>
    obtain ⟨hslash, hquote⟩ : c ≠ '\\' ∧ c ≠ '"' := by simpa [Spelling.guards] using hc
    simp [step, he, hq, Spelling.isQuoted, hslash, hquote]

/-- A field is read from its spelling without the quotes. -/
theorem foldl_step_guarded (sp : Spelling) (he : s.escaped = false)
    (hq : s.quoted = sp.isQuoted) (cs : List Char) :
    (guarded sp.guards cs).foldl step s = { s with word := s.word ++ cs } := by
  refine foldl_step_flatMap he fun c _ t ht htq => ?_
  cases hc : sp.guards c with
  | true =>
    show (t.step '\\').step c = _
    rw [step_step_backslash ht, unescape_of_isSpecial (Spelling.isSpecial_of_guards hc)]
  | false => exact step_of_not_guards sp ht (htq.trans hq) hc

/-- A quote that is not escaped begins or ends a quotation. -/
theorem step_quote (he : s.escaped = false) : s.step '"' = { s with quoted := !s.quoted } := by
  simp [step, he]

/-- The open field takes a field from either spelling. -/
theorem foldl_step_spell (h : s.IsFree) (sp : Spelling) (cs : List Char) :
    (sp.spell cs).foldl step s = { s with word := s.word ++ cs } := by
  cases sp with
  | escaped => exact foldl_step_guarded .escaped h.unescaped h.unquoted cs
  | quoted =>
    obtain ⟨fields, word, quoted, escaped⟩ := s
    obtain ⟨rfl, rfl⟩ := h
    have hopen : step ⟨fields, word, false, false⟩ '"' = ⟨fields, word, true, false⟩ :=
      step_quote rfl
    have hin : (guarded Spelling.quoted.guards cs).foldl step ⟨fields, word, true, false⟩ =
        ⟨fields, word ++ cs, true, false⟩ := foldl_step_guarded .quoted rfl rfl cs
    calc (Spelling.quoted.spell cs).foldl step ⟨fields, word, false, false⟩
        = step ((guarded Spelling.quoted.guards cs).foldl step
            (step ⟨fields, word, false, false⟩ '"')) '"' := List.foldl_append ..
      _ = step ⟨fields, word ++ cs, true, false⟩ '"' := by rw [hopen, hin]
      _ = ⟨fields, word ++ cs, false, false⟩ := step_quote rfl

end Splitter

/-- **A field is read from its spelling.** -/
theorem splitFields_spell (hne : f ≠ []) (sp : Spelling) : splitFields (sp.spell f) = [f] :=
  splitFields_of_foldl hne (Splitter.foldl_step_spell Splitter.isFree_start sp f)

/-- Whatever its spelling, a field ends where blanks count. -/
theorem isFree_spell (sp : Spelling) (f : List Char) :
    ((sp.spell f).foldl Splitter.step Splitter.start).IsFree := by
  rw [Splitter.foldl_step_spell Splitter.isFree_start]
  exact ⟨rfl, rfl⟩

/-! ### Fields on a line -/

/-- A field on a line, with the blanks after it. -/
structure Placed where
  field : String
  spelling : Spelling
  gap : String

/-- What stands on the line. -/
def Placed.chars (p : Placed) : List Char := p.spelling.spell p.field.toList ++ p.gap.toList

/-- A line of fields, after some blanks. -/
def layOut (before : String) (ps : List Placed) : String :=
  String.ofList (before.toList ++ ps.flatMap Placed.chars)

/-- Nothing but blanks. -/
def isGap (s : String) : Bool := s.toList.all Text.isBlank

/-- A gap has blanks only. -/
theorem isGap_iff {s : String} : isGap s = true ↔ ∀ c ∈ s.toList, Text.isBlank c = true :=
  List.all_eq_true

/-- Fields that are not empty, with blanks between them; after the last one there may be none. -/
structure AreApart (ps : List Placed) : Prop where
  field_ne_empty : ∀ p ∈ ps, p.field ≠ ""
  isGap_gap : ∀ p ∈ ps, isGap p.gap = true
  gap_ne_empty : ∀ p ∈ ps.dropLast, p.gap ≠ ""

variable {p : Placed} {ps : List Placed}

/-- The fields after the first one are apart as well. -/
theorem AreApart.of_cons (h : AreApart (p :: ps)) : AreApart ps where
  field_ne_empty q hq := h.field_ne_empty q (List.mem_cons_of_mem _ hq)
  isGap_gap q hq := h.isGap_gap q (List.mem_cons_of_mem _ hq)
  gap_ne_empty q hq := by
    cases ps with
    | nil => cases hq
    | cons => exact h.gap_ne_empty q (List.mem_cons_of_mem _ hq)

/-- A field without a blank after it is the last one. -/
theorem AreApart.eq_nil_of_gap (h : AreApart (p :: ps)) (hgap : p.gap = "") : ps = [] := by
  cases ps with
  | nil => rfl
  | cons => exact absurd hgap (h.gap_ne_empty p (List.mem_cons_self ..))

/-- **Fields are read back from their places.** -/
theorem splitFields_placed (h : AreApart ps) :
    splitFields (ps.flatMap Placed.chars) = ps.map (·.field.toList) := by
  induction ps with
  | nil => rfl
  | cons p ps ih =>
    have hne : p.field.toList ≠ [] := by simpa using h.field_ne_empty p (List.mem_cons_self ..)
    have hgap := isGap_iff.1 (h.isGap_gap p (List.mem_cons_self ..))
    rw [List.flatMap_cons, Placed.chars, List.map_cons]
    -- The first blank after the field cuts the line; the other blanks are in front of what follows.
    cases hp : p.gap.toList with
    | nil =>
      -- only the last field may have no blank after it
      obtain rfl := h.eq_nil_of_gap (by simpa using hp)
      rw [List.append_nil, List.flatMap_nil, List.append_nil, splitFields_spell hne]
      rfl
    | cons c gap =>
      rw [hp] at hgap
      obtain ⟨hc, hgap⟩ := List.forall_mem_cons.1 hgap
      rw [List.append_assoc, List.cons_append, splitFields_append_blank (isFree_spell ..) hc,
        splitFields_spell hne, splitFields_blanks_append hgap, ih h.of_cons]
      rfl

/-- **How a line falls into fields.**  No field is empty; the two sides of a blank that is outside
of quotes and not after a backslash are read apart; and fields that are laid out on a line, each in
either spelling, are read back. -/
theorem fields_of_line :
    (∀ line, ∀ f ∈ fields line, f ≠ "") ∧
      (∀ (u v : String) (c : Char), (u.toList.foldl Splitter.step Splitter.start).IsFree →
        Text.isBlank c = true → fields (u ++ String.singleton c ++ v) = fields u ++ fields v) ∧
      ∀ (before : String) (ps : List Placed), isGap before = true → AreApart ps →
        fields (layOut before ps) = ps.map Placed.field := by
  refine ⟨fun line f hf => ?_, fun u v c hu hc => ?_, fun before ps hbefore hps => ?_⟩
  · obtain ⟨cs, hcs, rfl⟩ := List.mem_map.1 hf
    simpa using ne_nil_of_mem_splitFields hcs
  · have hchars : (u ++ String.singleton c ++ v).toList = u.toList ++ c :: v.toList := by simp
    rw [fields, hchars, splitFields_append_blank hu hc, List.map_append]
    rfl
  · rw [fields, layOut, String.toList_ofList, splitFields_blanks_append (isGap_iff.1 hbefore),
      splitFields_placed hps, List.map_map]
    exact List.map_congr_left fun p _ => String.ofList_toList

/-- Fields with a blank, a backslash, a quote and a line end in them. -/
def oddFields : List Placed :=
  [⟨"a b", .quoted, " \t"⟩, ⟨"\\t", .escaped, "\n"⟩, ⟨"say \"t\"", .quoted, " "⟩,
    ⟨"\n", .escaped, "  "⟩]

/-- Each of the three statements at a line with blanks, quotes and backslashes in its fields. -/
theorem fields_of_line_odd :
    ("a" ∈ fields "a b" ∧ "a" ≠ "") ∧
      (("\"a b\"\\ ".toList.foldl Splitter.step Splitter.start).IsFree ∧
        Text.isBlank '\t' = true ∧ fields ("\"a b\"\\ " ++ String.singleton '\t' ++ "c") =
          fields "\"a b\"\\ " ++ fields "c") ∧
      isGap " " = true ∧ AreApart oddFields ∧
      layOut " " oddFields = " \"a b\" \t\\\\t\n\"say \\\"t\\\"\" \\\n  " ∧
      fields (layOut " " oddFields) = ["a b", "\\t", "say \"t\"", "\n"] := by
  have hmem : "a" ∈ fields "a b" := by decide
  have hfree : ("\"a b\"\\ ".toList.foldl Splitter.step Splitter.start).IsFree :=
    ⟨by decide, by decide⟩
  have hblank : Text.isBlank '\t' = true := by decide
  have hgap : isGap " " = true := by decide
  have hodd : AreApart oddFields := ⟨by decide, by decide, by decide⟩
  exact ⟨⟨hmem, fields_of_line.1 _ _ hmem⟩,
    ⟨hfree, hblank, fields_of_line.2.1 _ "c" _ hfree hblank⟩,
    hgap, hodd, by decide, fields_of_line.2.2 " " oddFields hgap hodd⟩

end Listing
end TestSelection
