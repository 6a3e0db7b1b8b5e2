/-
# The languages of the tokens

The expression of a token takes exactly the spans of the token, whatever stands around them
(`denotes_pieces`). All the work is in the wildcards that cross slashes. A text without `/.` is a
row of blocks, each of which goes on over some slashes to the first character of the next component,
and then a rest with slashes at its end only. That is an equation for the language of those texts
(`visible_eq_block_mul_add`), and it has only one solution, the expression `deepTail`.

The other forms look at the leftmost character that is neither a slash nor, where dots are allowed
in front, a dot: what stands after it is again a text without `/.`.
-/

import TestSelection.Glob.Regex
import TestSelection.Proofs.Glob.Spans
import TestSelection.Proofs.Regex.Takes
import Mathlib.Data.List.TakeWhile

namespace TestSelection
namespace Glob

open Regex
open scoped Computability

/-! ### Rows of one kind of character -/

section Rows

variable {p : Code → Prop}

/-- The texts of one code point of a kind. -/
def single (p : Code → Prop) : Language Code := {s | ∃ c, s = [c] ∧ p c}

/-- The texts of code points of a kind only. -/
def every (p : Code → Prop) : Language Code := {s | ∀ c ∈ s, p c}

/-- Membership in `single`, as the definition says it. -/
theorem mem_single {s : Text} : s ∈ single p ↔ ∃ c, s = [c] ∧ p c := Iff.rfl

/-- Membership in `every`, as the definition says it. -/
theorem mem_every {s : Text} : s ∈ every p ↔ ∀ c ∈ s, p c := Iff.rfl

/-- Any number of characters of a kind, one after another, are the texts of that kind. -/
theorem kstar_single : (single p)∗ = every p := by
  ext s
  constructor
  · rintro ⟨spans, rfl, h⟩ c hc
    obtain ⟨span, hs, hc⟩ := List.mem_flatten.1 hc
    obtain ⟨d, rfl, hd⟩ := h span hs
    rwa [List.mem_singleton.1 hc]
  · intro h
    refine ⟨s.map fun c => [c], by rw [← List.flatMap_def, List.flatMap_singleton'], fun t ht => ?_⟩
    obtain ⟨c, hc, rfl⟩ := List.mem_map.1 ht
    exact ⟨c, rfl, h c hc⟩

/-- One or more characters of a kind are the texts of that kind that are not empty. -/
theorem mem_single_mul_every {s : Text} :
    s ∈ single p * every p ↔ s ≠ [] ∧ ∀ c ∈ s, p c := by
  rw [Language.mem_mul]
  constructor
  · rintro ⟨_, ⟨c, rfl, hc⟩, t, ht, rfl⟩
    exact ⟨by simp, List.forall_mem_cons.2 ⟨hc, ht⟩⟩
  · rintro ⟨hne, h⟩
    obtain ⟨c, t, rfl⟩ := List.exists_cons_of_ne_nil hne
    obtain ⟨hc, ht⟩ := List.forall_mem_cons.1 h
    exact ⟨[c], ⟨c, rfl, hc⟩, t, ht, rfl⟩

/-- A text begins with a longest row of one kind. -/
theorem exists_row [DecidablePred p] (s : Text) :
    ∃ row ∈ every p, ∃ rest, s = row ++ rest ∧ ∀ c ∈ rest.head?, ¬ p c := by
  refine ⟨s.takeWhile (decide <| p ·), fun c hc => ?_, s.dropWhile (decide <| p ·),
    (List.takeWhile_append_dropWhile).symm, fun c hc => ?_⟩
  · simpa using List.mem_takeWhile_imp hc
  · have h := List.head?_dropWhile_not (decide <| p ·) s
    rw [Option.mem_def.1 hc] at h
    simpa using h

end Rows

/-- The set that `?` is written as takes one character that is no slash. -/
theorem denotes_notSlash : notSlash.Denotes (single (· ≠ .char '/')) := by
  intro _ s _
  simp [notSlash, Takes, InSet, mem_single]

/-- The set of a wildcard at the start of a component takes no dot either. -/
theorem denotes_notSlashOrDot :
    notSlashOrDot.Denotes (single fun c => c ≠ .char '/' ∧ c ≠ .char '.') := by
  intro _ s _
  simp [notSlashOrDot, Takes, InSet, mem_single]

/-- A set of one dot takes that dot. -/
theorem denotes_dot : (set false ['.']).Denotes (single (· = .char '.')) := by
  intro _ s _
  simp [Takes, InSet, mem_single]

/-- An escaped character takes itself only. -/
theorem denotes_char (c : Code) : (char c).Denotes (single (· = c)) := by
  intro _ s _
  simp [Takes, mem_single]

/-- A row of slashes, which may be empty. -/
theorem denotes_slashes : slashes.Denotes (every (· = .char '/')) :=
  kstar_single ▸ (denotes_char _).star

/-- A row of slashes that has at least one. -/
theorem denotes_someSlashes :
    someSlashes.Denotes (single (· = .char '/') * every (· = .char '/')) :=
  kstar_single ▸ (denotes_char _).plus

/-- The repeated set of `*` takes the texts without slashes. -/
theorem denotes_star_notSlash : (Regex.star notSlash).Denotes (every (· ≠ .char '/')) :=
  kstar_single ▸ denotes_notSlash.star

/-! ### Texts without `/.` -/

section Visible

variable {s t : Text} {start : Bool}

/-- The texts in which no component but perhaps the one at the front begins with a dot. -/
def visible (start : Bool) : Language Code := {s | Visible start s}

/-- Membership in the language of visible texts is `Visible`. -/
theorem mem_visible : s ∈ visible start ↔ Visible start s := Iff.rfl

/-- A row without slashes stands inside one component. -/
theorem visible_row_append (h : s ∈ every (· ≠ .char '/')) :
    Visible false (s ++ t) ↔ Visible false t := by
  have hs : Code.char '/' ∉ s := fun hm => h _ hm rfl
  have ha : startAfter false s = false := by
    cases s with
    | nil => rfl
    | cons c s => exact startAfter_eq_false (by simp) hs false
  rw [visible_append, ha]
  exact and_iff_right ⟨by simp, not_infix_of_not_mem hs⟩

/-- After a row of slashes a component begins. -/
theorem visible_slashes_append (h : s ∈ every (· = .char '/')) :
    Visible start (s ++ t) ↔ Visible (start || s != []) t := by
  induction s generalizing start with
  | nil => simp
  | cons c s ih =>
    obtain ⟨rfl, hs⟩ := List.forall_mem_cons.1 h
    have hstart : (start || (Code.char '/' :: s) != []) = true := by cases start <;> rfl
    rw [List.cons_append, visible_cons, beq_self_eq_true, ih hs, hstart, Bool.true_or]
    simp

/-- From a character that is no slash on, a text is visible if its rest is. -/
theorem visible_cons_of_ne {c : Code} (hc : c ≠ .char '/') :
    Visible start (c :: s) ↔ (start = true → c ≠ .char '.') ∧ Visible false s := by
  rw [visible_cons, beq_eq_false_iff_ne.2 hc]

end Visible

/-- Up to some slashes, and over them to the first character of the next component. -/
def block : Language Code :=
  every (· ≠ .char '/') *
    (single (· = .char '/') * every (· = .char '/') *
      single fun c => c ≠ .char '/' ∧ c ≠ .char '.')

/-- A block, taken apart: a row without slashes, some slashes, and the first character of the next
component, which is neither a slash nor a dot. -/
theorem mem_block {s : Text} :
    s ∈ block ↔ ∃ row ∈ every (· ≠ Code.char '/'), ∃ sep ∈ every (· = Code.char '/'),
      ∃ c, sep ≠ [] ∧ c ≠ .char '/' ∧ c ≠ .char '.' ∧ s = row ++ (sep ++ [c]) := by
  rw [block, Language.mem_mul]
  constructor
  · rintro ⟨row, hrow, _, hs, rfl⟩
    obtain ⟨sep, hsep, _, ⟨c, rfl, hc, hd⟩, rfl⟩ := Language.mem_mul.1 hs
    obtain ⟨hne, hsep⟩ := mem_single_mul_every.1 hsep
    exact ⟨row, hrow, sep, hsep, c, hne, hc, hd, rfl⟩
  · rintro ⟨row, hrow, sep, hsep, c, hne, hc, hd, rfl⟩
    exact ⟨row, hrow, _, Language.append_mem_mul (mem_single_mul_every.2 ⟨hne, hsep⟩)
      ⟨c, rfl, hc, hd⟩, rfl⟩

/-- **A text without `/.` is a block before one, or holds slashes at its end only.** -/
theorem visible_eq_block_mul_add :
    visible false = block * visible false + every (· ≠ .char '/') * every (· = .char '/') := by
  ext s
  rw [Language.mem_add, mem_visible]
  constructor
  · intro h
    -- The text is cut behind its first component and behind the slashes after that.
    obtain ⟨row, hrow, s, rfl, hs⟩ := exists_row (p := (· ≠ .char '/')) s
    obtain ⟨sep, hsep, s, rfl, hs'⟩ := exists_row (p := (· = .char '/')) s
    cases s with
    | nil => exact .inr ⟨row, hrow, sep, hsep, by simp⟩
    | cons c s =>
      have hc : c ≠ .char '/' := hs' c rfl
      have hne : sep ≠ [] := by
        rintro rfl
        exact hs c rfl hc
      rw [visible_row_append hrow, visible_slashes_append hsep, visible_cons_of_ne hc] at h
      refine .inl (Language.mem_mul.2 ⟨row ++ (sep ++ [c]), ?_, s, h.2, by simp⟩)
      exact mem_block.2 ⟨row, hrow, sep, hsep, c, hne, hc, h.1 (by simpa using hne), rfl⟩
  · rintro (h | h)
    · obtain ⟨_, hb, s, hs, rfl⟩ := Language.mem_mul.1 h
      obtain ⟨row, hrow, sep, hsep, c, -, hc, hd, rfl⟩ := mem_block.1 hb
      rw [List.append_assoc, List.append_assoc, visible_row_append hrow,
        visible_slashes_append hsep]
      exact (visible_cons_of_ne hc).2 ⟨fun _ => hd, hs⟩
    · obtain ⟨row, hrow, sep, hsep, rfl⟩ := Language.mem_mul.1 h
      rw [visible_row_append hrow, ← List.append_nil sep, visible_slashes_append hsep]
      exact visible_nil _

/-- The visible texts are some blocks with a rest after them. By Arden's lemma this is the only
solution of `visible_eq_block_mul_add`, as no block is empty. -/
theorem visible_eq_kstar_mul :
    visible false = block∗ * (every (· ≠ .char '/') * every (· = .char '/')) := by
  refine (Language.self_eq_mul_add_iff fun h => ?_).1 visible_eq_block_mul_add
  obtain ⟨row, -, sep, -, c, -, -, -, he⟩ := mem_block.1 h
  simp at he

/-- The expression `deepTail` takes the visible texts: it is that solution, written out. -/
theorem denotes_deepTail : (seq deepTail).Denotes (visible false) := by
  have hblock : (seq [Regex.star notSlash, someSlashes, notSlashOrDot]).Denotes block :=
    denotes_star_notSlash.cat (denotes_someSlashes.cat denotes_notSlashOrDot)
  rw [visible_eq_kstar_mul]
  exact hblock.group.star.cat (denotes_star_notSlash.cat denotes_slashes)

/-! ### Texts without `/.`, from the leftmost other character on -/

/-- Some slashes, and from the first character that is neither a slash nor a dot a text without
`/.`. -/
def opened : Language Code :=
  every (· = .char '/') *
    ((single fun c => c ≠ .char '/' ∧ c ≠ .char '.') * visible false)

/-- A text of `opened`, taken apart at its first character that is no slash: that is no dot, and
what stands behind it is visible. -/
theorem mem_opened {s : Text} :
    s ∈ opened ↔ ∃ sep ∈ every (· = Code.char '/'), ∃ c t, c ≠ .char '/' ∧ c ≠ .char '.' ∧
      Visible false t ∧ s = sep ++ c :: t := by
  rw [opened, Language.mem_mul]
  constructor
  · rintro ⟨sep, hsep, _, hs, rfl⟩
    obtain ⟨_, ⟨c, rfl, hc, hd⟩, t, ht, rfl⟩ := Language.mem_mul.1 hs
    exact ⟨sep, hsep, c, t, hc, hd, ht, rfl⟩
  · rintro ⟨sep, hsep, c, t, hc, hd, ht, rfl⟩
    exact ⟨sep, hsep, _, Language.append_mem_mul ⟨c, rfl, hc, hd⟩ ht, rfl⟩

/-- The expression that both forms of `**` at a component start share takes `opened`. -/
theorem denotes_opened : (seq (slashes :: notSlashOrDot :: deepTail)).Denotes opened :=
  denotes_slashes.seq_cons (denotes_notSlashOrDot.seq_cons denotes_deepTail)

/-- A text of `opened` is visible, whether or not a component begins at its front. -/
theorem visible_of_mem_opened {s : Text} (h : s ∈ opened) (start : Bool) : Visible start s := by
  obtain ⟨sep, hsep, c, t, hc, hd, ht, rfl⟩ := mem_opened.1 h
  rw [visible_slashes_append hsep, visible_cons_of_ne hc]
  exact ⟨fun _ => hd, ht⟩

/-- Slashes alone are visible. -/
theorem visible_of_slashes {s : Text} (h : s ∈ every (· = .char '/')) (start : Bool) :
    Visible start s := by
  rw [← List.append_nil s, visible_slashes_append h]
  exact visible_nil _

/-- Where no dot is allowed in front, the leftmost other character is no dot. -/
theorem visible_true_iff {s : Text} :
    Visible true s ↔ s ∈ opened ∨ s ∈ every (· = .char '/') := by
  constructor
  · intro h
    obtain ⟨sep, hsep, s, rfl, hs⟩ := exists_row (p := (· = .char '/')) s
    cases s with
    | nil => exact .inr (by simpa using hsep)
    | cons c t =>
      have hc : c ≠ .char '/' := hs c rfl
      rw [visible_slashes_append hsep, visible_cons_of_ne hc] at h
      exact .inl (mem_opened.2 ⟨sep, hsep, c, t, hc, h.1 rfl, h.2, rfl⟩)
  · rintro (h | h)
    · exact visible_of_mem_opened h true
    · exact visible_of_slashes h true

/-- A text of `opened` has a character that is no slash. -/
theorem ne_nil_of_mem_opened {s : Text} (h : s ∈ opened) : s ≠ [] := by
  obtain ⟨sep, -, c, t, -, -, -, rfl⟩ := mem_opened.1 h
  simp

/-- Where dots are allowed in front, some dots stand before the slashes. -/
theorem visible_false_iff {s : Text} :
    s ≠ [] ∧ Visible false s ↔
      s ∈ every (· = .char '.') * opened ∨
        s ∈ every (· = .char '.') * (single (· = .char '/') * every (· = .char '/')) ∨
          s ∈ single (· = .char '.') * every (· = .char '.') := by
  have hdots : ∀ {dots : Text}, dots ∈ every (· = .char '.') → dots ∈ every (· ≠ .char '/') :=
    fun h c hc hs => by simp [h c hc] at hs
  constructor
  · rintro ⟨hne, h⟩
    -- The dots in front are cut off first, then the slashes: what stands behind them is empty or
    -- begins with a character that is neither.
    obtain ⟨dots, hd, s, rfl, hs⟩ := exists_row (p := (· = .char '.')) s
    obtain ⟨sep, hsep, s, rfl, hs'⟩ := exists_row (p := (· = .char '/')) s
    rw [visible_row_append (hdots hd), visible_slashes_append hsep] at h
    cases s with
    | cons c t =>
      have hc : c ≠ .char '/' := hs' c rfl
      obtain ⟨hv, ht⟩ := (visible_cons_of_ne hc).1 h
      refine .inl ⟨dots, hd, _, mem_opened.2 ⟨sep, hsep, c, t, hc, ?_, ht, rfl⟩, rfl⟩
      cases sep with
      | nil => exact hs c rfl
      | cons => exact hv rfl
    | nil =>
      by_cases hn : sep = []
      · subst hn
        rw [List.append_nil, List.append_nil] at hne ⊢
        exact .inr (.inr (mem_single_mul_every.2 ⟨hne, hd⟩))
      · exact .inr (.inl ⟨dots, hd, sep, mem_single_mul_every.2 ⟨hn, hsep⟩, by simp⟩)
  · rintro (⟨dots, hd, t, ht, rfl⟩ | ⟨dots, hd, t, ht, rfl⟩ | h)
    · refine ⟨by simp [ne_nil_of_mem_opened ht], ?_⟩
      exact (visible_row_append (hdots hd)).2 (visible_of_mem_opened ht false)
    · obtain ⟨hne, ht⟩ := mem_single_mul_every.1 ht
      refine ⟨by simp [hne], ?_⟩
      exact (visible_row_append (hdots hd)).2 (visible_of_slashes ht false)
    · obtain ⟨hne, hd⟩ := mem_single_mul_every.1 h
      refine ⟨hne, ?_⟩
      rw [← List.append_nil s]
      exact (visible_row_append (hdots hd)).2 (visible_nil false)

/-! ### The expressions of the tokens -/

/-- The spans of a token. -/
def Token.language (start : Bool) (t : Token) : Language Code := {s | t.Spans start s}

/-- Membership in the language of a token is `Token.Spans`. -/
theorem Token.mem_language {start : Bool} {t : Token} {s : Text} :
    s ∈ t.language start ↔ t.Spans start s := Iff.rfl

/-- `**` where a component begins: the text has a character that is no slash, or slashes only. -/
theorem denotes_deepAtStart : deepAtStart.Denotes (Token.deep.language true) := by
  refine (denotes_opened.alt denotes_slashes).group.congr fun s => ?_
  rw [Token.mem_language, Token.spans_deep_iff, visible_true_iff, Language.mem_add]

/-- `**?` where a component begins. The alternatives differ from those of `**` in that the row of
slashes is not empty. -/
theorem denotes_someDeepAtStart : someDeepAtStart.Denotes (Token.someDeep.language true) := by
  refine (denotes_opened.alt denotes_someSlashes).group.congr fun s => ?_
  rw [Token.mem_language, Token.spans_someDeep_iff, Language.mem_add, mem_single_mul_every]
  constructor
  · rintro ⟨hne, hv⟩
    exact (visible_true_iff.1 hv).imp_right fun hs => ⟨hne, hs⟩
  · rintro (hs | ⟨hne, hs⟩)
    · exact ⟨ne_nil_of_mem_opened hs, visible_of_mem_opened hs true⟩
    · exact ⟨hne, visible_of_slashes hs true⟩

/-- `**?` inside a component: dots may stand in front as well, so the split is at the first
character that is neither a slash nor a dot, and there may be none. -/
theorem denotes_someDeepInside : someDeepInside.Denotes (Token.someDeep.language false) := by
  have hdots : (Regex.star (set false ['.'])).Denotes (every (· = .char '.')) :=
    kstar_single ▸ denotes_dot.star
  refine ((hdots.seq_cons denotes_opened).alt ((hdots.cat denotes_someSlashes).alt
    (kstar_single ▸ denotes_dot.plus))).group.congr fun s => ?_
  rw [Token.mem_language, Token.spans_someDeep_iff, visible_false_iff, Language.mem_add,
    Language.mem_add]

/-- Inside a component a dot is like any other character for `*`. -/
theorem Token.spans_run_inside {s : Text} :
    Token.run.Spans false s ↔ s ∈ every (· ≠ .char '/') := by
  rw [Token.spans_wild rfl, Token.Covers, mem_every]
  constructor
  · rintro ⟨h, -⟩ c hc rfl
    exact h hc
  · exact fun h => ⟨fun hm => h _ hm rfl, by simp⟩

/-- `*?` where a component begins: the first character is the one that may be no dot. -/
theorem Token.spans_someRun_start {s : Text} :
    Token.someRun.Spans true s ↔
      s ∈ (single fun c => c ≠ .char '/' ∧ c ≠ .char '.') * every (· ≠ .char '/') := by
  rw [Token.spans_someRun_iff, Language.mem_mul]
  constructor
  · rintro ⟨hne, h⟩
    obtain ⟨c, t, rfl⟩ := List.exists_cons_of_ne_nil hne
    obtain ⟨hc, hd, ht⟩ := Token.spans_run_cons.1 h
    exact ⟨[c], ⟨c, rfl, hc, hd rfl⟩, t, Token.spans_run_inside.1 ht, rfl⟩
  · rintro ⟨_, ⟨c, rfl, hc, hd⟩, t, ht, rfl⟩
    exact ⟨by simp, Token.spans_run_cons.2 ⟨hc, fun _ => hd, Token.spans_run_inside.2 ht⟩⟩

/-- **The expression of a token takes exactly the spans of the token.** -/
theorem denotes_token (start : Bool) (t : Token) :
    (seq (t.pieces start)).Denotes (t.language start) := by
  cases t with
  | char c =>
    refine (denotes_char c).congr fun s => ?_
    simp [Token.mem_language, Token.Spans, Token.Covers, Token.isWildcard, mem_single]
  | one =>
    cases start with
    | true =>
      refine denotes_notSlashOrDot.congr fun s => ?_
      simp [Token.mem_language, Token.spans_one_iff, mem_single]
    | false =>
      refine denotes_notSlash.congr fun s => ?_
      simp [Token.mem_language, Token.spans_one_iff, mem_single]
  | run =>
    cases start with
    | true =>
      have hstar := denotes_notSlashOrDot.cat denotes_star_notSlash
      -- At a component start a `*` is written as a `*?` that may be left out.
      refine (hstar.alt denotes_empty).group.congr fun s => ?_
      rw [Language.mem_add, ← Token.spans_someRun_start, Language.mem_one, Token.mem_language,
        Token.spans_someRun_iff]
      by_cases hs : s = [] <;> simp [hs, Token.spans_run_nil]
    | false => exact denotes_star_notSlash.congr fun _ => Token.spans_run_inside
  | someRun =>
    cases start with
    | true =>
      exact (denotes_notSlashOrDot.cat denotes_star_notSlash).congr fun _ =>
        Token.spans_someRun_start
    | false =>
      refine (kstar_single ▸ denotes_notSlash.plus).congr fun s => ?_
      rw [mem_single_mul_every, Token.mem_language, Token.spans_someRun_iff,
        Token.spans_run_inside, mem_every]
  | deep =>
    cases start with
    | true => exact denotes_deepAtStart
    | false => exact denotes_deepTail.congr fun _ => Token.spans_deep_iff
  | someDeep =>
    cases start with
    | true => exact denotes_someDeepAtStart
    | false => exact denotes_someDeepInside

/-- The paths that some tokens span. -/
def spannedLanguage (start : Bool) (ts : List Token) : Language Code := {s | Spanned start ts s}

/-- **The pieces of some tokens take exactly the texts that the tokens span.** -/
theorem denotes_pieces (start : Bool) (ts : List Token) :
    (seq (pieces start ts)).Denotes (spannedLanguage start ts) := by
  induction ts generalizing start with
  | nil => exact denotes_empty.congr fun _ => spanned_nil_iff
  | cons t ts ih =>
    -- The flag that the token leaves is the one that the pieces behind it are written with.
    refine ((denotes_token start t).seq_append (ih t.endsComponent)).congr fun s => ?_
    rw [Language.mem_mul]
    constructor
    · intro h
      obtain ⟨span, rest, rfl, hs, hr⟩ := spanned_cons_iff.1 h
      exact ⟨span, hs, rest, hr, rfl⟩
    · rintro ⟨span, hs, rest, hr, rfl⟩
      exact .cons hs hr

/-- A glob's expression is found at the front of exactly the paths that the glob matches. -/
theorem matches_regex_iff (glob : Glob) (path : String) :
    glob.regex.Matches (Text.ofString path) ↔ glob.isMatch path = true := by
  rw [Glob.regex, matches_between_ends_iff (denotes_pieces true glob.tokens), Glob.isMatch,
    accepts_iff_spanned]
  rfl

end Glob
end TestSelection
