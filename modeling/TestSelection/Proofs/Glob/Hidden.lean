/-
# Hidden components under wildcards

A wildcard takes no dot where a path component begins. Where that is, is told from the tokens alone:
at the front of the path and after a token `/`. A component may also begin after a span that ends in
a slash, and of the wildcards `**` and `**?` have such spans. No wildcard directly follows `**`, but
one may follow `**?`, and it then takes the dot of a hidden component.

So a glob without a dot matches no path with a hidden component if and only if no wildcard directly
follows a `**?` in it (`matches_visible_iff`): on the one side the flag of `Spanned` is right
wherever a wildcard begins (`Spanned.visible`), on the other there is a path (`spanned_hidden`).
-/

import TestSelection.Proofs.Glob.Spans

namespace TestSelection
namespace Glob

/-- The wildcards after which a path component may begin though the tokens do not say so. -/
def Token.mayHide (t : Token) : Prop := t = .run ∨ t = .deep ∨ t = .someDeep

/-! ### What one span leaves -/

section Span

variable {t : Token} {start real : Bool} {span : Text}

/-- A span is visible if a wildcard knows where a component begins. -/
theorem Token.Spans.visible (h : t.Spans start span) (hdot : t ≠ .char (.char '.'))
    (hreal : real = true → start = true ∨ t.isWildcard = false) : Visible real span := by
  have hhead : t.isWildcard = true → real = true → span.head? ≠ some (.char '.') := by
    intro hw hr
    rcases hreal hr with hs | hn
    · exact h.2 hs hw
    · exact absurd hw (by simp [hn])
  cases t with
  | char c =>
    obtain rfl : span = [c] := h.1
    rw [visible_cons]
    exact ⟨fun _ hc => hdot (by rw [hc]), visible_nil _⟩
  | one =>
    obtain ⟨c, rfl, hc⟩ := h.1
    exact ⟨hhead rfl, not_infix_of_not_mem (by simpa using Ne.symm hc)⟩
  | run => exact ⟨hhead rfl, not_infix_of_not_mem h.1⟩
  | someRun => exact ⟨hhead rfl, not_infix_of_not_mem h.1.2⟩
  | deep => exact ⟨hhead rfl, h.1⟩
  | someDeep => exact ⟨hhead rfl, h.1.2⟩

/-- After a span a component begins only where the tokens say so, or after a wildcard that may
hide it. -/
theorem Token.Spans.startAfter (h : t.Spans start span) (ha : startAfter real span = true) :
    t.endsComponent = true ∨ t.mayHide := by
  cases t with
  | char c =>
    obtain rfl : span = [c] := h.1
    left
    simpa [Glob.startAfter, Token.endsComponent] using ha
  | one =>
    obtain ⟨c, rfl, hc⟩ := h.1
    simp [Glob.startAfter, hc] at ha
  | someRun =>
    rw [startAfter_eq_false h.1.1 h.1.2] at ha
    cases ha
  | run => exact .inr (.inl rfl)
  | deep => exact .inr (.inr (.inl rfl))
  | someDeep => exact .inr (.inr (.inr rfl))

end Span

/-! ### Globs that match no hidden component -/

/-- The tokens find no hidden component if no wildcard follows one that may hide it. The induction
carries that where a component really begins, the tokens say so or begin with no wildcard. -/
theorem Spanned.visible {start real : Bool} {ts : List Token} {text : Text}
    (h : Spanned start ts text) (hdot : .char (.char '.') ∉ ts)
    (hts : ts.IsChain fun u w => w.isWildcard = true → ¬ u.mayHide)
    (hreal : real = true → start = true ∨ ∀ w ∈ ts.head?, w.isWildcard = false) :
    Visible real text := by
  induction h generalizing real with
  | nil => exact visible_nil real
  | @cons start t ts span rest hs _ ih =>
    simp only [List.mem_cons, not_or] at hdot
    obtain ⟨hnext, hts⟩ := List.isChain_cons.1 hts
    have hspan : Visible real span :=
      hs.visible (Ne.symm hdot.1) fun hr => (hreal hr).imp_right fun hw => hw t rfl
    refine visible_append.2 ⟨hspan, ih hdot.2 hts fun ha => ?_⟩
    refine (hs.startAfter ha).imp_right fun hm w hw => ?_
    by_contra hwild
    exact hnext w hw (by simpa using hwild) hm

/-! ### A path with a hidden component -/

/-- A span of the token that holds no dot of its own. -/
def Token.sample : Token → Text
  | .char c => [c]
  | .run => []
  | .deep => []
  | .one => [.char 'a']
  | .someRun => [.char 'a']
  | .someDeep => [.char 'a']

/-- The sample of a token is one of its spans, also where a component begins. -/
theorem Token.spans_sample (start : Bool) (t : Token) : t.Spans start t.sample := by
  have hin : ¬ [Code.char '/', .char '.'] <:+: [.char 'a'] := not_infix_of_not_mem (by simp)
  cases t <;> simp [Token.Spans, Token.Covers, Token.sample, Token.isWildcard, hin]

/-- A wildcard takes a dot wherever the tokens do not say that a component begins. -/
theorem Token.spans_dot {w : Token} (hw : w.isWildcard = true) : w.Spans false [.char '.'] := by
  have hin : ¬ [Code.char '/', .char '.'] <:+: [.char '.'] := not_infix_of_not_mem (by simp)
  cases w with
  | char => cases hw
  | one | run | someRun | deep | someDeep => simp [Token.Spans, Token.Covers, hin]

/-- Every row of tokens has a path: one sample after another. -/
theorem spanned_samples (start : Bool) (ts : List Token) :
    Spanned start ts (ts.flatMap Token.sample) := by
  induction ts generalizing start with
  | nil => exact .nil
  | cons t ts ih => exact .cons (t.spans_sample start) (ih t.endsComponent)

/-- After a `**?` that ends in a slash, a wildcard takes the dot of a hidden component. -/
theorem spanned_hidden {w : Token} (hw : w.isWildcard = true) (start : Bool)
    (front back : List Token) :
    Spanned start (front ++ .someDeep :: w :: back)
      (front.flatMap Token.sample ++
        ([.char 'a', .char '/'] ++ ([.char '.'] ++ back.flatMap Token.sample))) := by
  induction front generalizing start with
  | nil =>
    have hdeep : Token.someDeep.Spans start [.char 'a', .char '/'] := by
      rw [Token.spans_someDeep_iff, visible_cons, visible_cons]
      simp
    rw [List.flatMap_nil, List.nil_append, List.nil_append]
    exact .cons hdeep (.cons (Token.spans_dot hw) (spanned_samples _ back))
  | cons t front ih =>
    rw [List.flatMap_cons, List.append_assoc]
    exact .cons (t.spans_sample start) (ih t.endsComponent)

/-- A text that holds no halves is that of a string. -/
theorem exists_ofString {text : Text} (h : ∀ n, Code.half n ∉ text) :
    ∃ s : String, Text.ofString s = text := by
  have hc : ∃ cs, Text.ofChars cs = text := by
    induction text with
    | nil => exact ⟨[], rfl⟩
    | cons c text ih =>
      obtain ⟨cs, rfl⟩ := ih fun n hn => h n (List.mem_cons_of_mem _ hn)
      cases c with
      | char d => exact ⟨d :: cs, rfl⟩
      | half n => exact absurd (List.mem_cons_self ..) (h n)
  obtain ⟨cs, rfl⟩ := hc
  exact ⟨String.ofList cs, by rw [Text.ofString, String.toList_ofList]⟩

/-- A sample holds half of a surrogate pair only if the token itself is that half. -/
theorem half_mem_sample {n : Fin 0x800} {t : Token} (h : Code.half n ∈ t.sample) :
    t = .char (.half n) := by
  cases t <;> simp_all [Token.sample]

/-- A wildcard that follows a `**?` matches a hidden component of some path. -/
theorem exists_hidden_path {w : Token} (hw : w.isWildcard = true) {front back : List Token}
    (hno : ∀ n, Token.char (.half n) ∉ front ++ .someDeep :: w :: back) :
    ∃ path : String, accepts true (front ++ .someDeep :: w :: back) path.toList = true ∧
      ¬ Visible true (Text.ofString path) := by
  have hs := spanned_hidden hw true front back
  have hin : [Code.char '/', .char '.'] <:+: front.flatMap Token.sample ++
      ([.char 'a', .char '/'] ++ ([.char '.'] ++ back.flatMap Token.sample)) :=
    ⟨front.flatMap Token.sample ++ [.char 'a'], back.flatMap Token.sample, by simp⟩
  -- The samples bring no half with them, so the text is that of a string, as a path must be.
  have hchars : ∀ n, Code.half n ∉ front.flatMap Token.sample ++
      ([.char 'a', .char '/'] ++ ([.char '.'] ++ back.flatMap Token.sample)) := by
    intro n hn
    simp only [List.mem_append, List.mem_cons, List.mem_flatMap, reduceCtorEq, List.not_mem_nil,
      or_false, false_or] at hn
    refine hno n ?_
    rcases hn with ⟨t, ht, hn⟩ | ⟨t, ht, hn⟩
    · exact List.mem_append_left _ (half_mem_sample hn ▸ ht)
    · refine List.mem_append_right _ (List.mem_cons_of_mem _ (List.mem_cons_of_mem _ ?_))
      exact half_mem_sample hn ▸ ht
  obtain ⟨path, hp⟩ := exists_ofString hchars
  rw [← hp] at hs hin
  exact ⟨path, accepts_iff_spanned.2 hs, fun hv => hv.2 hin⟩

/-! ### When a glob matches no hidden component -/

/-- What stands in a character token stands in every text that the tokens span. -/
theorem Spanned.mem {start : Bool} {ts : List Token} {text : Text} (h : Spanned start ts text)
    {c : Code} (hc : .char c ∈ ts) : c ∈ text := by
  induction h with
  | nil => cases hc
  | cons hs _ ih =>
    rcases List.mem_cons.1 hc with rfl | hc
    · exact List.mem_append_left _ (hs.1 ▸ List.mem_singleton_self c)
    · exact List.mem_append_right _ (ih hc)

/-- **When a glob without a dot matches no hidden component.** It does so exactly when no wildcard
directly follows a `**?` in it, or when it holds half of a surrogate pair. The second case comes
from the paths that are looked at here: they are strings, in which no half stands alone, so that
such a glob matches none of them. A file name that is not valid UTF-8 is a path with halves, and the
glob may match it. -/
theorem matches_visible_iff {text : Text} {glob : Glob} (h : Glob.ofText text = .ok glob)
    (hdot : Code.char '.' ∉ text) :
    (∀ path : String, glob.isMatch path = true → Visible true (Text.ofString path)) ↔
      (∃ n, Code.half n ∈ text) ∨
        ∀ front w back, glob.tokens = front ++ .someDeep :: w :: back → w.isWildcard = false := by
  obtain ⟨-, hr⟩ := ofText_eq_ok_iff.1 h
  have hhalf : ∀ n, Token.char (.half n) ∈ glob.tokens ↔ Code.half n ∈ text := fun n =>
    hr.mem_iff rfl
  constructor
  -- If a wildcard follows a `**?` and no half is in the way, there is a path with a hidden
  -- component.
  · intro hv
    by_contra! hn
    obtain ⟨hno, front, w, back, ht, hw⟩ := hn
    have hchars : ∀ n, Token.char (.half n) ∉ front ++ .someDeep :: w :: back := fun n hm =>
      hno n ((hhalf n).1 (ht ▸ hm))
    obtain ⟨path, hm, hnv⟩ := exists_hidden_path (by simpa using hw) hchars
    exact hnv (hv path (by rw [Glob.isMatch, ht, hm]))
  · rintro (⟨n, hn⟩ | hts) path hm
    -- A path of a glob that holds a half would hold it too.
    · have hs := accepts_iff_spanned.1 hm
      simpa [Text.ofChars] using hs.mem ((hhalf n).2 hn)
    · have hs := accepts_iff_spanned.1 hm
      refine hs.visible (fun hd => hdot (hr.mem_text hd)) ?_ fun _ => .inl rfl
      refine List.isChain_iff_forall_rel_of_append_cons_cons.2 fun u w front back ht hw => ?_
      have hnot := List.isChain_iff_forall_rel_of_append_cons_cons.1 hr.not_wild_after ht hw
      rintro (rfl | rfl | rfl)
      · exact hnot.1 rfl
      · exact hnot.2 rfl
      · exact absurd hw (by simp [hts front w back ht])

/-- The glob `**?*` holds no dot, and its `*` takes the dot of a hidden file all the same. -/
theorem matches_hidden_after_someDeep :
    ∃ glob, Glob.ofText (Text.ofString "**?*") = .ok glob ∧
      Code.char '.' ∉ Text.ofString "**?*" ∧ glob.isMatch "a/.b" = true ∧
      ¬ Visible true (Text.ofString "a/.b") :=
  ⟨_, rfl, by decide, by decide, fun h => h.2 ⟨[.char 'a'], [.char 'b'], rfl⟩⟩

/-- A `**?` that a slash follows does not hide a component from the `*` after it. -/
theorem matches_visible_iff_of_slash :
    ∃ glob, Glob.ofText (Text.ofString "**?/*") = .ok glob ∧
      Code.char '.' ∉ Text.ofString "**?/*" ∧
      ((∀ path : String, glob.isMatch path = true → Visible true (Text.ofString path)) ↔
        (∃ n, Code.half n ∈ Text.ofString "**?/*") ∨
          ∀ front w back, glob.tokens = front ++ .someDeep :: w :: back → w.isWildcard = false) :=
  ⟨_, rfl, by decide, matches_visible_iff rfl (by decide)⟩

end Glob
end TestSelection
