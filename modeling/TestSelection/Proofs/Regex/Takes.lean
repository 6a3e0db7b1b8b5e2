/-
# What an expression takes

What an expression means, told from its parts. A text is cut into what stands before, a span, and
what stands after, and an expression takes the span or does not (`Takes`). The surroundings matter
to the two ends of the text only. An expression is found at the front of a text if it takes some
span there (`Matches`); nothing asks for the rest to be empty but `last`.

An expression without the two ends takes the same spans in all surroundings, and these are its
language (`Denotes`). Concatenation, alternatives and repetition are then those of languages.
-/

import TestSelection.Regex.Basic
import Mathlib.Computability.Language

namespace TestSelection
namespace Regex

open scoped Computability

/-- Spans one after another, each taken where it stands. -/
inductive Repeats (takes : Text → Text → Text → Prop) : Text → Text → Text → Prop
  | nil {before after : Text} : Repeats takes before [] after
  | cons {before span rest after : Text} :
      takes before span (rest ++ after) → Repeats takes (before ++ span) rest after →
        Repeats takes before (span ++ rest) after

/-- The code points of a set: its members, or all others. -/
def InSet (negated : Bool) (members : List Char) (c : Code) : Prop :=
  (∃ m ∈ members, c = .char m) ↔ negated = false

/-- Whether an expression takes the span between what stands before and what stands after. -/
def Takes : Regex → Text → Text → Text → Prop
  | .empty, _, span, _ => span = []
  | .first, before, span, _ => span = [] ∧ before = []
  | .last, _, span, after => span = [] ∧ after = []
  | .char c, _, span, _ => span = [c]
  | .set negated members, _, span, _ => ∃ c, span = [c] ∧ InSet negated members c
  | .cat l r, before, span, after =>
    ∃ s t, span = s ++ t ∧ Takes l before s (t ++ after) ∧ Takes r (before ++ s) t after
  | .alt l r, before, span, after => Takes l before span after ∨ Takes r before span after
  | .group r, before, span, after => Takes r before span after
  | .star r, before, span, after => Repeats (Takes r) before span after
  | .plus r, before, span, after =>
    ∃ s t, span = s ++ t ∧ Takes r before s (t ++ after) ∧ Repeats (Takes r) (before ++ s) t after

/-- Whether an expression is found at the front of a text. -/
def Matches (r : Regex) (text : Text) : Prop :=
  ∃ span rest, text = span ++ rest ∧ r.Takes [] span rest

/-- An expression that takes the members of a language, whatever stands around them. -/
def Denotes (r : Regex) (L : Language Code) : Prop :=
  ∀ before span after, r.Takes before span after ↔ span ∈ L

/-! ### Expressions one after another -/

/-- A row of expressions takes a span of which the first one takes the front, where it stands, and
the others the rest. For a row of one the rest is empty. -/
theorem takes_seq_cons {r : Regex} {rs : List Regex} {before span after : Text} :
    (seq (r :: rs)).Takes before span after ↔
      ∃ s t, span = s ++ t ∧ r.Takes before s (t ++ after) ∧
        (seq rs).Takes (before ++ s) t after := by
  cases rs with
  | nil =>
    constructor
    · exact fun h => ⟨span, [], by simp, h, rfl⟩
    · rintro ⟨s, _, rfl, h, rfl⟩
      simpa [seq] using h
  | cons q qs => rfl

/-- Two rows one after the other take a span that can be cut between them. The induction is on the
first row; at every step the cut of the whole is put together from that of the rest. -/
theorem takes_seq_append {rs qs : List Regex} {before span after : Text} :
    (seq (rs ++ qs)).Takes before span after ↔
      ∃ s t, span = s ++ t ∧ (seq rs).Takes before s (t ++ after) ∧
        (seq qs).Takes (before ++ s) t after := by
  induction rs generalizing before span with
  | nil =>
    constructor
    · exact fun h => ⟨[], span, rfl, rfl, by simpa using h⟩
    · rintro ⟨_, t, rfl, rfl, h⟩
      simpa using h
  | cons r rs ih =>
    rw [List.cons_append, takes_seq_cons]
    constructor
    · rintro ⟨s, u, rfl, hr, hu⟩
      obtain ⟨v, t, rfl, hv, ht⟩ := ih.1 hu
      refine ⟨s ++ v, t, by simp, takes_seq_cons.2 ⟨s, v, rfl, by simpa using hr, hv⟩, ?_⟩
      simpa using ht
    · rintro ⟨u, t, rfl, hu, ht⟩
      obtain ⟨s, v, rfl, hr, hv⟩ := takes_seq_cons.1 hu
      refine ⟨s, v ++ t, by simp, by simpa using hr, ih.2 ⟨v, t, rfl, hv, ?_⟩⟩
      simpa using ht

/-! ### Expressions without the two ends -/

section Denotes

variable {r q : Regex} {L M : Language Code}

/-- The language may be described in other words. -/
theorem Denotes.congr (h : r.Denotes L) (hM : ∀ s, s ∈ M ↔ s ∈ L) : r.Denotes M :=
  fun before span after => (h before span after).trans (hM span).symm

/-- The empty expression takes the empty span only. -/
theorem denotes_empty : empty.Denotes 1 := fun _ _ _ => Iff.rfl

/-- A group is there for the reader of the text; it takes what stands in it. -/
theorem Denotes.group (h : r.Denotes L) : (group r).Denotes L := h

/-- Alternatives take the union of their languages. -/
theorem Denotes.alt (hr : r.Denotes L) (hq : q.Denotes M) : (alt r q).Denotes (L + M) :=
  fun before span after => or_congr (hr before span after) (hq before span after)

/-- A span is cut in two where one part is in each of two languages. -/
theorem exists_cut_iff {P Q : Text → Text → Prop} {span : Text} (hP : ∀ s t, P s t ↔ s ∈ L)
    (hQ : ∀ s t, Q s t ↔ t ∈ M) : (∃ s t, span = s ++ t ∧ P s t ∧ Q s t) ↔ span ∈ L * M := by
  rw [Language.mem_mul]
  constructor
  · rintro ⟨s, t, rfl, hs, ht⟩
    exact ⟨s, (hP s t).1 hs, t, (hQ s t).1 ht, rfl⟩
  · rintro ⟨s, hs, t, ht, rfl⟩
    exact ⟨s, t, rfl, (hP s t).2 hs, (hQ s t).2 ht⟩

/-- One expression after another takes the product of their languages. Each of the two stands in
other surroundings than the whole, which is why both have to take the same spans everywhere. -/
theorem Denotes.cat (hr : r.Denotes L) (hq : q.Denotes M) : (cat r q).Denotes (L * M) :=
  fun before _ after => exists_cut_iff (fun s t => hr before s (t ++ after))
    (fun s t => hq (before ++ s) t after)

/-- Spans that are taken one after another are those of the star of the language. From left to right
the induction is on the spans that are taken, from right to left on the list of members. -/
theorem Denotes.repeats (h : r.Denotes L) {before span after : Text} :
    Repeats r.Takes before span after ↔ span ∈ L∗ := by
  constructor
  · intro hs
    induction hs with
    | nil => exact Language.nil_mem_kstar L
    | cons hs _ ih =>
      obtain ⟨spans, rfl, hspans⟩ := ih
      exact ⟨_ :: spans, rfl, List.forall_mem_cons.2 ⟨(h ..).1 hs, hspans⟩⟩
  · rintro ⟨spans, rfl, hspans⟩
    induction spans generalizing before with
    | nil => exact .nil
    | cons s spans ih =>
      obtain ⟨hs, hspans⟩ := List.forall_mem_cons.1 hspans
      exact .cons ((h ..).2 hs) (ih hspans)

/-- A repetition takes the star of the language. -/
theorem Denotes.star (h : r.Denotes L) : (star r).Denotes L∗ := fun _ _ _ => h.repeats

/-- A repetition that takes one span at least takes a member of the language and then the star of
it. -/
theorem Denotes.plus (h : r.Denotes L) : (plus r).Denotes (L * L∗) :=
  fun before _ after => exists_cut_iff (fun s t => h before s (t ++ after)) fun _ _ => h.repeats

/-- Two rows one after the other take the product of their languages. -/
theorem Denotes.seq_append {rs qs : List Regex} (hr : (seq rs).Denotes L)
    (hq : (seq qs).Denotes M) : (seq (rs ++ qs)).Denotes (L * M) := by
  intro before span after
  rw [takes_seq_append]
  exact exists_cut_iff (fun s t => hr before s (t ++ after)) (fun s t => hq (before ++ s) t after)

/-- So does an expression in front of a row. -/
theorem Denotes.seq_cons {qs : List Regex} (hr : r.Denotes L) (hq : (seq qs).Denotes M) :
    (seq (r :: qs)).Denotes (L * M) := by
  have hrow : (seq [r]).Denotes L := hr
  exact hrow.seq_append hq

end Denotes

/-- **Between the two ends of a text, an expression takes the text as a whole.** Found at the front,
with both ends asked for, it leaves nothing in front of the span that it takes and nothing after
it. -/
theorem matches_between_ends_iff {rs : List Regex} {L : Language Code} (h : (seq rs).Denotes L)
    (text : Text) : (seq (first :: rs ++ [last])).Matches text ↔ text ∈ L := by
  rw [Matches]
  constructor
  · rintro ⟨span, after, rfl, hs⟩
    obtain ⟨_, u, rfl, ⟨rfl, -⟩, hu⟩ := takes_seq_cons.1 hs
    obtain ⟨s, _, rfl, hs, ⟨rfl, rfl⟩⟩ := takes_seq_append.1 hu
    simpa using (h ..).1 hs
  · intro hs
    refine ⟨text, [], by simp, takes_seq_cons.2 ⟨[], text, rfl, ⟨rfl, rfl⟩, ?_⟩⟩
    exact takes_seq_append.2 ⟨text, [], by simp, (h ..).2 hs, ⟨rfl, rfl⟩⟩

end Regex
end TestSelection
