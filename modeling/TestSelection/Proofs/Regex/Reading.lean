/-
# Reading the text of an expression

What a text means as an expression, told without the expression that it was written from. The text
falls into symbols (`symbols?`):

| written | symbol |
| --- | --- |
| `\A`, `\Z` | the two ends of the text |
| `\` and a character other than an ASCII letter or digit | that character |
| `[^/]`, `[^/.]`, `[.]` | a set |
| `(?:`, `\|`, `)` | a group and its alternatives |
| `*`, `+` | repetition of the item before it |
| a character other than `\ [ ( ) \| * + ? . ^ $` and an opening brace | itself |

and is refused if it holds anything else. The symbols are then taken one at a time (`step`). A
repetition may follow a character, a set or a group only, and every group must be closed. The open
groups are kept as a stack, with the innermost one on top.

Reading gives back every expression in which alternatives stand in groups and repetition is applied
to single items (`read?_source`).
-/

import TestSelection.Regex.Basic
import Mathlib.Data.List.Basic

namespace TestSelection
namespace Regex

/-- One symbol of the text of an expression. -/
inductive Symbol where
  | literal (c : Code)
  | set (negated : Bool) (members : List Char)
  | first
  | last
  | star
  | plus
  | opening
  | bar
  | closing
  deriving DecidableEq

namespace Symbol

/-- The text of a symbol. -/
def text : Symbol → Text
  | .literal c => escapedCode c
  | .set negated members => Text.ofChars (setSource negated members)
  | .first => "\\A"
  | .last => "\\Z"
  | .star => "*"
  | .plus => "+"
  | .opening => "(?:"
  | .bar => "|"
  | .closing => ")"

/-- The symbol that is written as a code point alone. -/
def ofPlain? (c : Code) : Option Symbol :=
  if c = .char '*' then some .star
  else if c = .char '+' then some .plus
  else if c = .char '|' then some .bar
  else if c = .char ')' then some .closing
  else if c.passes "\\[(?.^$\x7b".toList.contains then none
  else some (.literal c)

/-- The symbol that is written as a code point after a backslash. -/
def ofEscaped? (c : Code) : Option Symbol :=
  if c = .char 'A' then some .first
  else if c = .char 'Z' then some .last
  else if c.passes Char.isAlphanum then none
  else some (.literal c)

end Symbol

/-- The sets that are read. -/
def readableSets : List (Bool × List Char) :=
  [(true, ['/']), (true, ['/', '.']), (false, ['.'])]

/-- The symbols of a text. -/
def symbols? : Text → Option (List Symbol)
  | [] => some []
  | .char '\\' :: c :: rest => do return (← Symbol.ofEscaped? c) :: (← symbols? rest)
  | .char '[' :: .char '.' :: .char ']' :: rest => do
    return .set false ['.'] :: (← symbols? rest)
  | .char '[' :: .char '^' :: .char '/' :: .char ']' :: rest => do
    return .set true ['/'] :: (← symbols? rest)
  | .char '[' :: .char '^' :: .char '/' :: .char '.' :: .char ']' :: rest => do
    return .set true ['/', '.'] :: (← symbols? rest)
  | .char '(' :: .char '?' :: .char ':' :: rest => do return .opening :: (← symbols? rest)
  | c :: rest => do return (← Symbol.ofPlain? c) :: (← symbols? rest)

/-- Some expressions as alternatives. -/
def alts : List Regex → Regex
  | [] => .empty
  | [r] => r
  | r :: rest => .alt r (alts rest)

/-- Whether a repetition may follow an expression. -/
def isRepeatable : Regex → Bool
  | .char _ => true
  | .set _ _ => true
  | .group _ => true
  | _ => false

/-- An open group: its alternatives up to the last bar, and the items after it, the last of both
first. -/
structure Frame where
  branches : List Regex
  items : List Regex

namespace Frame

/-- A group that has just been opened. -/
def empty : Frame := ⟨[], []⟩

/-- One more item. -/
def push (f : Frame) (r : Regex) : Frame := { f with items := r :: f.items }

/-- The end of an alternative. -/
def bar (f : Frame) : Frame := ⟨seq f.items.reverse :: f.branches, []⟩

/-- What stands in the group, if it ends here. -/
def close (f : Frame) : Regex := alts f.bar.branches.reverse

/-- The last item repeated. -/
def repeated? (f : Frame) (how : Regex → Regex) : Option Frame :=
  match f.items with
  | [] => none
  | r :: rest => if r.isRepeatable then some { f with items := how r :: rest } else none

end Frame

/-- The open groups, the innermost first, with the whole text as the outermost. -/
structure Reader where
  inner : Frame
  outer : List Frame

/-- Takes one symbol. -/
def step (s : Reader) : Symbol → Option Reader
  | .literal c => some { s with inner := s.inner.push (.char c) }
  | .set negated members => some { s with inner := s.inner.push (.set negated members) }
  | .first => some { s with inner := s.inner.push .first }
  | .last => some { s with inner := s.inner.push .last }
  | .star => (s.inner.repeated? .star).map ({ s with inner := · })
  | .plus => (s.inner.repeated? .plus).map ({ s with inner := · })
  | .opening => some ⟨.empty, s.inner :: s.outer⟩
  | .bar => some { s with inner := s.inner.bar }
  | .closing =>
    match s.outer with
    | [] => none
    | f :: rest => some ⟨f.push (.group s.inner.close), rest⟩

/-- The expression that a text is. -/
def read? (text : Text) : Option Regex := do
  let s ← (← symbols? text).foldlM step ⟨.empty, []⟩
  if s.outer.isEmpty then some s.inner.close else none

/-! ### The symbols of a text -/

/-- The symbols of an expression. -/
def symbols : Regex → List Symbol
  | .empty => []
  | .first => [.first]
  | .last => [.last]
  | .char c => [.literal c]
  | .set negated members => [.set negated members]
  | .cat l r => symbols l ++ symbols r
  | .alt l r => symbols l ++ .bar :: symbols r
  | .group r => .opening :: symbols r ++ [.closing]
  | .star r => symbols r ++ [.star]
  | .plus r => symbols r ++ [.plus]

/-- The text of an expression is that of its symbols, one after another. -/
theorem source_eq_flatMap (r : Regex) : r.source = r.symbols.flatMap Symbol.text := by
  induction r with
  | empty | first | last | char | set => simp [source, symbols, Symbol.text]
  | cat l r ihl ihr => simp [source, symbols, ihl, ihr]
  | alt l r ihl ihr => simp [source, symbols, ihl, ihr, Symbol.text]
  | group r ih => simp [source, symbols, ih, Symbol.text]
  | star r ih => simp [source, symbols, ih, Symbol.text]
  | plus r ih => simp [source, symbols, ih, Symbol.text]

/-- Whether a symbol can be read back; only a set may not. -/
def Symbol.isReadable : Symbol → Bool
  | .set negated members => readableSets.contains (negated, members)
  | _ => true

/-- A code point that begins no longer symbol is read by itself. The other equations of `symbols?`
all begin with one of three characters. -/
theorem symbols?_plain {c : Code} (hb : c ≠ .char '\\') (hs : c ≠ .char '[') (hg : c ≠ .char '(')
    (rest : Text) :
    symbols? (c :: rest) = (do return (← Symbol.ofPlain? c) :: (← symbols? rest)) := by
  rw [symbols?.eq_def]
  split <;> simp_all

/-- No character that gets a backslash is an ASCII letter or digit. There are finitely many of these
characters, so they are looked through. -/
theorem not_isAlphanum_of_isSpecial {c : Char} (h : isSpecial c = true) :
    c.isAlphanum = false := by
  have hm := List.contains_iff_mem.1 h
  have hn : (!c.isAlphanum) = true := by
    refine (List.all_eq_true (p := fun c => !c.isAlphanum)).1 ?_ c hm
    decide
  simpa using hn

/-- So after its backslash it is read as itself: neither as an end of the text nor as the name of a
set. -/
theorem ofEscaped?_of_isSpecial {c : Char} (h : isSpecial c = true) :
    Symbol.ofEscaped? (.char c) = some (.literal (.char c)) := by
  have hn := not_isAlphanum_of_isSpecial h
  have hA : c ≠ 'A' := by
    rintro rfl
    cases hn
  have hZ : c ≠ 'Z' := by
    rintro rfl
    cases hn
  simp [Symbol.ofEscaped?, Code.passes, hA, hZ, hn]

/-- A character that needs no backslash is none of those that do. -/
theorem ne_of_isSpecial {c d : Char} (h : isSpecial c = false) (hd : isSpecial d = true) :
    c ≠ d := by
  rintro rfl
  exact absurd (hd.symm.trans h) (by simp)

/-- A character that needs no backslash is no symbol but itself. All characters that are one need
it. -/
theorem ofPlain?_of_not_isSpecial {c : Char} (h : isSpecial c = false) :
    Symbol.ofPlain? (.char c) = some (.literal (.char c)) := by
  have hne : ∀ d, isSpecial d = true → c ≠ d := fun d => ne_of_isSpecial h
  simp [Symbol.ofPlain?, Code.passes, hne '*' rfl, hne '+' rfl, hne '|' rfl, hne ')' rfl,
    hne '\\' rfl, hne '[' rfl, hne '(' rfl, hne '?' rfl, hne '.' rfl, hne '^' rfl, hne '$' rfl,
    hne '\x7b' rfl]

/-- **No character acts as anything but itself** once it is written as `escaped` writes it. -/
theorem symbols?_escapedCode (c : Code) (rest : Text) :
    symbols? (escapedCode c ++ rest) = (do return .literal c :: (← symbols? rest)) := by
  cases c with
  | half n => exact symbols?_plain (by simp) (by simp) (by simp) rest
  | char c =>
    cases h : isSpecial c with
    | true =>
      have he : escapedCode (.char c) = [.char '\\', .char c] := by
        simp [escapedCode, escaped, h, Text.ofChars]
      rw [he]
      simp [symbols?, ofEscaped?_of_isSpecial h]
    | false =>
      have he : escapedCode (.char c) = [.char c] := by
        simp [escapedCode, escaped, h, Text.ofChars]
      have hne : ∀ d, isSpecial d = true → Code.char c ≠ .char d := fun d hd he =>
        ne_of_isSpecial h hd (Code.char.inj he)
      rw [he, List.singleton_append, symbols?_plain (hne _ rfl) (hne _ rfl) (hne _ rfl),
        ofPlain?_of_not_isSpecial h]
      rfl

/-- The text of a symbol at the front is read as this symbol, whatever comes after it. No symbol is
the beginning of another one, so the rest does not matter. -/
theorem symbols?_text_append {s : Symbol} (h : s.isReadable = true) (rest : Text) :
    symbols? (s.text ++ rest) = (do return s :: (← symbols? rest)) := by
  cases s with
  | literal c => exact symbols?_escapedCode c rest
  | set negated members =>
    simp only [Symbol.isReadable, readableSets, List.contains_iff_mem, List.mem_cons,
      Prod.mk.injEq, List.not_mem_nil, or_false] at h
    rcases h with ⟨rfl, rfl⟩ | ⟨rfl, rfl⟩ | ⟨rfl, rfl⟩ <;> rfl
  | first => rfl
  | last => rfl
  | star => rfl
  | plus => rfl
  | opening => rfl
  | bar => rfl
  | closing => rfl

/-- **The symbols are found again** in the text that they write one after another. -/
theorem symbols?_flatMap_text {ss : List Symbol} (h : ∀ s ∈ ss, s.isReadable = true) :
    symbols? (ss.flatMap Symbol.text) = some ss := by
  induction ss with
  | nil => rfl
  | cons s ss ih =>
    obtain ⟨hs, hss⟩ := List.forall_mem_cons.1 h
    rw [List.flatMap_cons, symbols?_text_append hs, ih hss]
    rfl

/-! ### Expressions that can be read back -/

/-- Where an expression stands: as one item, as some items in a row, or as all that stands in a
group. -/
inductive Place where
  | item
  | row
  | group

/-- Whether the text of an expression is read as that expression where it stands. Alternatives stand
in groups only, and repetition follows what it may follow. -/
def fits : Place → Regex → Bool
  | .item, .empty => false
  | _, .empty => true
  | _, .first => true
  | _, .last => true
  | _, .char _ => true
  | _, .set negated members => readableSets.contains (negated, members)
  | .item, .cat _ _ => false
  | _, .cat l r => l.fits .item && r != .empty && r.fits .row
  | .group, .alt l r => l.fits .row && r.fits .group
  | _, .alt _ _ => false
  | _, .group r => r.fits .group
  | _, .star r => r.isRepeatable && r.fits .item
  | _, .plus r => r.isRepeatable && r.fits .item

section Fits

variable {p : Place} {l r : Regex}

/-- A set fits where it can be read, wherever it stands. -/
theorem fits_set {negated : Bool} {members : List Char} :
    (set negated members).fits p = readableSets.contains (negated, members) := by
  cases p <;> rfl

/-- So does a group if what stands in it fits there. -/
theorem fits_group : (group r).fits p = r.fits .group := by
  cases p <;> rfl

/-- A repetition fits everywhere if it follows what it may follow. -/
theorem fits_star : (star r).fits p = (r.isRepeatable && r.fits .item) := by
  cases p <;> rfl

/-- The same holds of a repetition that takes one span at least. -/
theorem fits_plus : (plus r).fits p = (r.isRepeatable && r.fits .item) := by
  cases p <;> rfl

/-- Of two expressions in a row the first is an item, and the second is a row of one item or
more. -/
theorem fits_cat (h : (cat l r).fits p = true) :
    l.fits .item = true ∧ r ≠ .empty ∧ r.fits .row = true := by
  cases p with
  | item => cases h
  | row | group => simpa [fits, and_assoc] using h

/-- Alternatives stand in a group: the first is a row, and the others are what may stand in a group
again. -/
theorem fits_alt (h : (alt l r).fits p = true) : l.fits .row = true ∧ r.fits .group = true := by
  cases p with
  | item | row => cases h
  | group => simpa [fits] using h

/-- An item is a row of one. -/
theorem fits_row_of_item (h : r.fits .item = true) : r.fits .row = true := by
  cases r <;> first | exact h | cases h

/-- A row may stand in a group. -/
theorem fits_group_of_row (h : r.fits .row = true) : r.fits .group = true := by
  cases r <;> first | exact h | cases h

/-- What may stand in a group is a row, unless it has several alternatives. -/
theorem fits_row_of_group (h : r.fits .group = true) (hr : ∀ l q, r ≠ .alt l q) :
    r.fits .row = true := by
  cases r with
  | alt l q => exact absurd rfl (hr l q)
  | _ => exact h

end Fits

/-- Items one after another are a row. None of them is empty, so the row does not end early. -/
theorem fits_seq {rs : List Regex} (h : ∀ r ∈ rs, r.fits .item = true) :
    (seq rs).fits .row = true := by
  induction rs with
  | nil => rfl
  | cons r rs ih =>
    obtain ⟨hr, hrs⟩ := List.forall_mem_cons.1 h
    cases rs with
    | nil => exact fits_row_of_item hr
    | cons q qs =>
      -- What follows is not empty: a row of two or more is a `cat`, and an item alone is not
      -- `empty`.
      have hne : seq (q :: qs) ≠ .empty := by
        cases qs with
        | nil =>
          rintro rfl
          cases hrs .empty (List.mem_singleton_self _)
        | cons => simp [seq]
      simp [seq, fits, hr, hne, ih hrs]

/-- An expression that fits somewhere has no sets but those that can be read. -/
theorem isReadable_of_fits {p : Place} {r : Regex} (h : r.fits p = true) :
    ∀ s ∈ r.symbols, s.isReadable = true := by
  induction r generalizing p with
  | empty => simp [symbols]
  | first | last | char => simp [symbols, Symbol.isReadable]
  | set => simpa [symbols, Symbol.isReadable, fits_set] using h
  | cat l r ihl ihr =>
    obtain ⟨hl, -, hr⟩ := fits_cat h
    exact List.forall_mem_append.2 ⟨ihl hl, ihr hr⟩
  | alt l r ihl ihr =>
    obtain ⟨hl, hr⟩ := fits_alt h
    exact List.forall_mem_append.2 ⟨ihl hl, List.forall_mem_cons.2 ⟨rfl, ihr hr⟩⟩
  | group r ih =>
    rw [fits_group] at h
    exact List.forall_mem_cons.2 ⟨rfl, List.forall_mem_append.2 ⟨ih h, by simp [Symbol.isReadable]⟩⟩
  | star r ih =>
    rw [fits_star, Bool.and_eq_true] at h
    exact List.forall_mem_append.2 ⟨ih h.2, by simp [Symbol.isReadable]⟩
  | plus r ih =>
    rw [fits_plus, Bool.and_eq_true] at h
    exact List.forall_mem_append.2 ⟨ih h.2, by simp [Symbol.isReadable]⟩

/-! ### Taking the symbols of an expression -/

/-- The items that an expression is a row of. -/
def items : Regex → List Regex
  | .empty => []
  | .cat l r => l :: items r
  | r => [r]

/-- The alternatives that an expression is made of. -/
def alternatives : Regex → List Regex
  | .alt l r => l :: alternatives r
  | r => [r]

/-- A row is put together from its items again. -/
theorem seq_items {r : Regex} (h : r.fits .row = true) : seq r.items = r := by
  induction r with
  | cat l r _ ih =>
    obtain ⟨-, hne, hr⟩ := fits_cat h
    have hi : r.items ≠ [] := by
      cases r <;> simp_all [items]
    obtain ⟨q, qs, hq⟩ := List.exists_cons_of_ne_nil hi
    rw [items, hq, seq, ← hq, ih hr]
    simp
  | _ => rfl

/-- An expression is put together from its alternatives again. -/
theorem alts_alternatives (r : Regex) : alts r.alternatives = r := by
  induction r with
  | alt l r _ ih =>
    have hi : r.alternatives ≠ [] := by
      cases r <;> simp [alternatives]
    obtain ⟨q, qs, hq⟩ := List.exists_cons_of_ne_nil hi
    rw [alternatives, hq, alts, ← hq, ih]
    simp
  | _ => rfl

/-- Takes some symbols. -/
def run (s : Reader) (ss : List Symbol) : Option Reader := ss.foldlM step s

/-- Symbols one after another are taken one after another. -/
theorem run_append (s : Reader) (ss us : List Symbol) :
    run s (ss ++ us) = (run s ss).bind (run · us) := List.foldlM_append ..

/-- One more item in the innermost group. -/
def Reader.push (s : Reader) (r : Regex) : Reader := { s with inner := s.inner.push r }

/-- Items that are added one by one stand before those that were there, the last of them first. -/
theorem foldl_push (rs : List Regex) (s : Reader) :
    rs.foldl Reader.push s =
      ⟨⟨s.inner.branches, rs.reverse ++ s.inner.items⟩, s.outer⟩ := by
  induction rs generalizing s with
  | nil => rfl
  | cons r rs ih => simp [ih, Reader.push, Frame.push]

/-- The symbols of an item add the item. -/
def ReadsItem (r : Regex) : Prop := ∀ s, run s r.symbols = some (s.push r)

/-- The symbols of a row add its items. -/
def ReadsRow (r : Regex) : Prop := ∀ s, run s r.symbols = some (r.items.foldl Reader.push s)

/-- The symbols of all that stands in a group complete the alternatives of a group that has no item
after its last bar. -/
def ReadsGroup (r : Regex) : Prop :=
  ∀ branches outer, ∃ f, run ⟨⟨branches, []⟩, outer⟩ r.symbols = some ⟨f, outer⟩ ∧
    f.close = alts (branches.reverse ++ r.alternatives)

/-- Wherever an expression fits, its symbols add it there. -/
structure ReadBack (r : Regex) : Prop where
  item : r.fits .item = true → ReadsItem r
  row : r.fits .row = true → ReadsRow r
  group : r.fits .group = true → ReadsGroup r

section Reads

variable {l r : Regex}

/-- What is a row of itself alone is read as a row if it is read as an item. -/
theorem ReadsItem.row (h : ReadsItem r) (hi : r.items = [r]) : ReadsRow r := by
  intro s
  rw [h s, hi]
  rfl

/-- What has one alternative is read as all that stands in a group if it is read as a row: its items
are those after the last bar. -/
theorem ReadsRow.group (h : ReadsRow r) (hf : r.fits .row = true) (ha : r.alternatives = [r]) :
    ReadsGroup r := by
  intro branches outer
  refine ⟨_, h _ |>.trans (congrArg some (foldl_push ..)), ?_⟩
  rw [ha, Frame.close, Frame.bar, List.append_nil, List.reverse_reverse, seq_items hf,
    List.reverse_cons]

/-- **A group is read as an item.** It is opened, what stands in it completes the group, and closing
it leaves this as the last item of the group around it. -/
theorem ReadsGroup.item (h : ReadsGroup r) : ReadsItem (group r) := by
  intro s
  obtain ⟨f, hf, hc⟩ := h [] (s.inner :: s.outer)
  have hgroup : f.close = r := by
    rw [hc, List.reverse_nil, List.nil_append, alts_alternatives]
  calc run s (group r).symbols
      = run ⟨.empty, s.inner :: s.outer⟩ (r.symbols ++ [.closing]) := rfl
    _ = run ⟨f, s.inner :: s.outer⟩ [.closing] := by
        rw [run_append]
        exact congrArg (Option.bind · (run · [.closing])) hf
    _ = some (s.push (group r)) := by simp [run, step, hgroup, Reader.push]

/-- A repetition changes the item that was read last, which is the one that it stands after. -/
theorem ReadsItem.star (h : ReadsItem r) (hr : r.isRepeatable = true) : ReadsItem (star r) := by
  intro s
  rw [symbols, run_append, h s]
  simp [run, step, Reader.push, Frame.push, Frame.repeated?, hr]

/-- So does one that takes one span at least. -/
theorem ReadsItem.plus (h : ReadsItem r) (hr : r.isRepeatable = true) : ReadsItem (plus r) := by
  intro s
  rw [symbols, run_append, h s]
  simp [run, step, Reader.push, Frame.push, Frame.repeated?, hr]

/-- An item in front of a row is the first of its items. -/
theorem ReadsRow.cat (hl : ReadsItem l) (hr : ReadsRow r) : ReadsRow (cat l r) := by
  intro s
  rw [symbols, run_append, hl s]
  exact hr (s.push l)

/-- An alternative in front of others is ended by a bar, which leaves the group without an item
after it. -/
theorem ReadsGroup.alt (hl : ReadsRow l) (hf : l.fits .row = true) (hr : ReadsGroup r) :
    ReadsGroup (alt l r) := by
  intro branches outer
  obtain ⟨f, hrun, hc⟩ := hr (l :: branches) outer
  refine ⟨f, ?_, by rw [hc, List.reverse_cons, List.append_assoc]; rfl⟩
  -- The items of the alternative are put together when the bar is taken.
  have hbar : step ⟨⟨branches, l.items.reverse⟩, outer⟩ .bar =
      some ⟨⟨l :: branches, []⟩, outer⟩ := by
    simp [step, Frame.bar, seq_items hf]
  rw [symbols, run_append, hl _, foldl_push, List.append_nil]
  show (step _ .bar).bind (run · r.symbols) = _
  rw [hbar]
  exact hrun

/-- What is an item everywhere is read back everywhere once it is read as an item. -/
theorem ReadBack.ofItem (hf : ∀ p, r.fits p = r.fits .item) (hi : r.items = [r])
    (ha : r.alternatives = [r]) (h : r.fits .item = true → ReadsItem r) : ReadBack r := by
  refine ⟨h, fun hr => ?_, fun hg => ?_⟩
  · rw [hf] at hr
    exact (h hr).row hi
  · rw [hf] at hg
    exact ((h hg).row hi).group (fits_row_of_item hg) ha

/-- **The symbols of an expression add the expression where it stands.** The induction is on the
expression, for the three places at once: a group needs its inside as what stands in a group, and a
row needs its parts as items and as rows. -/
theorem readBack (r : Regex) : ReadBack r := by
  induction r with
  | empty =>
    -- Nothing at all is no item, but it is a row, and may be all that stands in a group.
    have hrow : ReadsRow empty := fun _ => rfl
    exact ⟨fun h => (by cases h), fun _ => hrow, fun _ => hrow.group rfl rfl⟩
  | first | last | char =>
    exact .ofItem (fun p => by cases p <;> rfl) rfl rfl fun _ _ => rfl
  | set => exact .ofItem (fun p => by rw [fits_set, fits_set]) rfl rfl fun _ _ => rfl
  | cat l r ihl ihr =>
    have hrow : (cat l r).fits .row = true → ReadsRow (cat l r) := fun h => by
      obtain ⟨hl, -, hr⟩ := fits_cat h
      exact ReadsRow.cat (ihl.item hl) (ihr.row hr)
    refine ⟨fun h => (by cases h), hrow, fun h => ?_⟩
    have h := fits_row_of_group h fun _ _ => by simp
    exact ReadsRow.group (hrow h) h rfl
  | alt l r ihl ihr =>
    refine ⟨fun h => (by cases h), fun h => (by cases h), fun h => ?_⟩
    obtain ⟨hl, hr⟩ := fits_alt h
    exact ReadsGroup.alt (ihl.row hl) hl (ihr.group hr)
  | group r ih =>
    refine .ofItem (fun p => by rw [fits_group, fits_group]) rfl rfl fun h => ?_
    rw [fits_group] at h
    exact ReadsGroup.item (ih.group h)
  | star r ih =>
    refine .ofItem (fun p => by rw [fits_star, fits_star]) rfl rfl fun h => ?_
    rw [fits_star, Bool.and_eq_true] at h
    exact ReadsItem.star (ih.item h.2) h.1
  | plus r ih =>
    refine .ofItem (fun p => by rw [fits_plus, fits_plus]) rfl rfl fun h => ?_
    rw [fits_plus, Bool.and_eq_true] at h
    exact ReadsItem.plus (ih.item h.2) h.1

end Reads

/-- **Reading gives back the expression that was written**, if alternatives stand in groups and
repetition follows what it may follow. -/
theorem read?_source {r : Regex} (h : r.fits .group = true) : read? r.source = some r := by
  obtain ⟨f, hrun, hc⟩ := (readBack r).group h [] []
  have hclose : f.close = r := by
    rw [hc, List.reverse_nil, List.nil_append, alts_alternatives]
  have hsymbols : symbols? r.source = some r.symbols := by
    rw [source_eq_flatMap, symbols?_flatMap_text (isReadable_of_fits h)]
  have hfold : r.symbols.foldlM step ⟨.empty, []⟩ = some ⟨f, []⟩ := hrun
  simp [read?, hsymbols, hfold, hclose]

/-- A bar outside of all groups leaves each end of the text to one alternative. -/
example : read? (Text.ofString "\\Aa|b\\Z") =
    some (.alt (.cat .first (.char (.char 'a'))) (.cat (.char (.char 'b')) .last)) := rfl

end Regex
end TestSelection
