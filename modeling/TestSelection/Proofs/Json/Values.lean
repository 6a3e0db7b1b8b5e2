/-
# Reading JSON values back

A value that JSON has a form of its own for (`Value.IsJson`) is written, and what is written is read
as the value again (`exists_writes`). What a text of a value has to be is said once, for the value
anywhere in a text (`Writes`): it begins with no space and with no closing sign, so that space in
front of it can be skipped and a list or mapping with it is not taken for an empty one; and it is
read back in front of all that may follow it. The induction is on the value; lists and mappings add
one level and one character at least, which pays for the steps of the reader.
-/

import TestSelection.Proofs.Json.Leaves
import TestSelection.Proofs.Value.Fields

namespace TestSelection

/-- Values that JSON has a form of its own for, with lists and mappings at most so many levels
inside each other: the texts are those of strings, the keys of a mapping are distinct ones, and the
whole numbers have at most `Text.mostDigits` digits. -/
inductive Value.IsJson : Nat → Value → Prop
  | null {levels : Nat} : IsJson levels .null
  | bool {levels : Nat} (b : Bool) : IsJson levels (.bool b)
  | int {levels : Nat} {i : Int} (digits : i.natAbs < 10 ^ Text.mostDigits) : IsJson levels (.int i)
  | str {levels : Nat} (s : String) : IsJson levels (.str s)
  | list {levels : Nat} {items : List Value} (inner : ∀ item ∈ items, IsJson levels item) :
      IsJson (levels + 1) (.list items)
  | map {levels : Nat} {entries : List (Value × Value)}
      (names : ∀ entry ∈ entries, ∃ s : String, entry.1 = .str s)
      (distinct : (entries.map Prod.fst).Nodup)
      (inner : ∀ entry ∈ entries, IsJson levels entry.2) : IsJson (levels + 1) (.map entries)

namespace Json

variable {levels level depth steps : Nat} {v item : Value} {items : List Value}
  {entries : List (Value × Value)} {text name line rest cs : List Char} {c : Char}

/-! ## Space -/

/-- Where no space stands, none is skipped. -/
theorem skipSpace_cons_of_not (h : isSpace c = false) : skipSpace (c :: cs) = c :: cs :=
  List.dropWhile_cons_of_neg (by simp [h])

/-- A new line with its indentation is space. -/
theorem skipSpace_newLine (level : Nat) (cs : List Char) :
    skipSpace (newLine level ++ cs) = skipSpace cs := by
  refine List.dropWhile_append_of_pos fun c hc => ?_
  rcases List.mem_cons.1 hc with rfl | hc
  · rfl
  · rw [(List.mem_replicate.1 hc).2]
    rfl

/-- A value may be followed by a new line. -/
theorem stops_newLine (level : Nat) (cs : List Char) : Stops (newLine level ++ cs) := by
  intro c hc
  exact .inr (Option.some.inj hc).symm

/-- A value may be followed by a comma. -/
theorem stops_comma (cs : List Char) : Stops (',' :: cs) := by
  intro c hc
  exact .inl (Option.some.inj hc).symm

/-- A character of the text of a value. -/
def IsWritten (c : Char) : Prop := IsPrinted c ∨ c = '\n'

/-- A new line is a line feed and spaces. -/
theorem isWritten_of_mem_newLine (h : c ∈ newLine level) : IsWritten c := by
  rcases List.mem_cons.1 h with rfl | h
  · exact .inr rfl
  · rw [(List.mem_replicate.1 h).2]
    exact .inl (by decide)

/-! ## Texts of values -/

/-- A text begins with neither space nor a closing sign. -/
def Opens (text : List Char) : Prop :=
  ∃ c cs, text = c :: cs ∧ isSpace c = false ∧ c ≠ ']' ∧ c ≠ '\x7d'

/-- In front of a value there is no space to skip. -/
theorem Opens.skipSpace_eq (h : Opens text) : skipSpace (text ++ rest) = text ++ rest := by
  obtain ⟨c, cs, rfl, hspace, -, -⟩ := h
  exact skipSpace_cons_of_not hspace

/-- A text is that of a value of so many levels, wherever it stands. -/
structure Writes (levels : Nat) (v : Value) (text : List Char) : Prop where
  written : ∀ c ∈ text, IsWritten c
  opens : Opens text
  reads : ∀ {depth steps rest}, depth + levels ≤ deepest → text.length ≤ steps → Stops rest →
    readValue depth steps (text ++ rest) = .ok (v, rest)

/-- A text of nothing but printable characters whose reading is not inside of anything. -/
theorem Writes.of_reads (hprinted : ∀ c ∈ text, IsPrinted c) (hopens : Opens text)
    (hreads : ∀ {depth steps rest}, Stops rest →
      readValue depth (steps + 1) (text ++ rest) = .ok (v, rest)) : Writes levels v text where
  written c hc := .inl (hprinted c hc)
  opens := hopens
  reads {depth steps rest} _ hsteps hrest := by
    -- A text is not empty, so there is a step for its reader.
    obtain ⟨c, cs, rfl, -⟩ := hopens
    obtain ⟨more, rfl⟩ := Nat.exists_eq_add_of_le hsteps
    rw [List.length_cons, Nat.add_right_comm]
    exact hreads hrest

/-- `null` is written and read back. -/
theorem writes_null : Writes levels .null "null".toList :=
  .of_reads (forall_isPrinted rfl) ⟨'n', _, rfl, by decide⟩ fun _ => rfl

/-- `true` and `false` are written and read back. -/
theorem writes_bool (b : Bool) :
    Writes levels (.bool b) (if b then "true".toList else "false".toList) := by
  cases b with
  | true => exact .of_reads (forall_isPrinted rfl) ⟨'t', _, rfl, by decide⟩ fun _ => rfl
  | false => exact .of_reads (forall_isPrinted rfl) ⟨'f', _, rfl, by decide⟩ fun _ => rfl

/-- A string is written and read back: the work is in `readString_escaped`. -/
theorem writes_str (s : String) : Writes levels (.str s) (string s) := by
  refine .of_reads (fun c => isPrinted_of_mem_string) ⟨'"', _, rfl, by decide⟩ fun _ => ?_
  rw [string, List.append_assoc, List.cons_append, readValue]
  show (readString ((Text.ofString s).flatMap escapeCode ++ '"' :: _)).map _ = _
  rw [readString_escaped]
  rfl

/-- A number is read where a digit stands. -/
theorem readValue_of_isDigitIn (h : Text.isDigitIn 10 c = true) :
    readValue depth (steps + 1) (c :: cs) = readNumber false (c :: cs) := by
  rw [readValue]
  all_goals
    rintro _ he
    obtain rfl := (List.cons.inj he).1
    exact absurd h (by decide)

/-- A number is read where a minus stands before a digit. -/
theorem readValue_minus (h : Text.isDigitIn 10 c = true) :
    readValue depth (steps + 1) ('-' :: c :: cs) = readNumber true (c :: cs) := by
  rw [readValue]
  · rintro _ he
    obtain rfl := (List.cons.inj he).1
    exact absurd h (by decide)

/-- Where the digits of a number stand, a number is read. -/
theorem readValue_toDigits (k : Nat) :
    readValue depth (steps + 1) (Nat.toDigits 10 k ++ rest) =
      readNumber false (Nat.toDigits 10 k ++ rest) := by
  obtain ⟨d, ds, hds⟩ := List.exists_cons_of_ne_nil (Nat.toDigits_ne_nil (b := 10) (n := k))
  have hd : Text.isDigitIn 10 d = true :=
    Text.isDigitIn_of_mem_toDigits (by decide) (by decide) (hds ▸ List.mem_cons_self)
  rw [hds, List.cons_append, readValue_of_isDigitIn hd]

/-- A number begins with a digit, which is neither space nor a closing sign. -/
theorem opens_toDigits (k : Nat) : Opens (Nat.toDigits 10 k) := by
  obtain ⟨d, ds, hds⟩ := List.exists_cons_of_ne_nil (Nat.toDigits_ne_nil (b := 10) (n := k))
  have hd : Text.isDigitIn 10 d = true :=
    Text.isDigitIn_of_mem_toDigits (by decide) (by decide) (hds ▸ List.mem_cons_self)
  refine ⟨d, ds, hds, ?_, ?_, ?_⟩
  · cases hs : isSpace d with
    | false => rfl
    | true =>
      simp only [isSpace, Bool.or_eq_true, beq_iff_eq] at hs
      obtain ((rfl | rfl) | rfl) | rfl := hs <;> exact absurd hd (by decide)
  · rintro rfl
    exact absurd hd (by decide)
  · rintro rfl
    exact absurd hd (by decide)

/-- A whole number that is not negative is written and read back. -/
theorem writes_toDigits {k : Nat} (hk : k < 10 ^ Text.mostDigits) :
    Writes levels (.int k) (Nat.toDigits 10 k) := by
  refine .of_reads (fun c hc => ?_) (opens_toDigits k) fun hrest => ?_
  · exact isPrinted_of_isDigitIn (Text.isDigitIn_of_mem_toDigits (by decide) (by decide) hc)
  · rw [readValue_toDigits, readNumber_toDigits false hk hrest, if_neg nofun]

/-- A whole number is written and read back, also a negative one. -/
theorem writes_int {i : Int} (hi : i.natAbs < 10 ^ Text.mostDigits) :
    Writes levels (.int i) (toString i).toList := by
  have hdigit : ∀ c ∈ Nat.toDigits 10 i.natAbs, Text.isDigitIn 10 c = true := fun _ hc =>
    Text.isDigitIn_of_mem_toDigits (by decide) (by decide) hc
  rw [toList_toString_int]
  split
  -- A negative number is a minus and the digits of what it is the negative of.
  case isTrue hneg =>
    have hvalue : -(i.natAbs : Int) = i := by omega
    refine .of_reads (fun c hc => ?_) ⟨'-', _, rfl, by decide⟩ fun hrest => ?_
    · rcases List.mem_cons.1 hc with rfl | hc
      · decide
      · exact isPrinted_of_isDigitIn (hdigit c hc)
    · have hread := readNumber_toDigits true hi hrest
      obtain ⟨d, ds, hds, -⟩ := opens_toDigits i.natAbs
      rw [if_pos rfl, hvalue] at hread
      rw [← hread, hds, List.cons_append, List.cons_append,
        readValue_minus (hdigit d (hds ▸ List.mem_cons_self))]
  case isFalse hneg =>
    have hvalue : (i.natAbs : Int) = i := by omega
    have hwrites : Writes levels (.int i.natAbs) (Nat.toDigits 10 i.natAbs) := writes_toDigits hi
    rwa [hvalue] at hwrites

/-! ## Lines

Items and entries stand on lines of their own. The functions that read them do the same with a line,
so what lines are read as is proved once, for what reads a line as it should (`Line`). -/

section Lines

variable {α : Type} {read : Nat → Nat → List Char → Except Fault (List α × List Char)}
  {closing : Char} {part : α} {parts : List α} {lines : List Char}

/-- A text is that of one part of a list or mapping: it is read as this part in front of the closing
sign, and as the first one of more in front of a comma. -/
structure Line (read : Nat → Nat → List Char → Except Fault (List α × List Char)) (closing : Char)
    (levels : Nat) (part : α) (text : List Char) : Prop where
  written : ∀ c ∈ text, IsWritten c
  opens : Opens text
  last : ∀ {depth steps level rest}, depth + levels ≤ deepest → text.length ≤ steps →
    read depth (steps + 1) (text ++ (newLine level ++ closing :: rest)) = .ok ([part], rest)
  more : ∀ {depth steps rest}, depth + levels ≤ deepest → text.length ≤ steps →
    read depth (steps + 1) (text ++ ',' :: rest) =
      (read depth steps (skipSpace rest)).map fun (parts, left) => (part :: parts, left)

/-- A text is that of all parts of a list or mapping, one a line. -/
structure Lines (read : Nat → Nat → List Char → Except Fault (List α × List Char)) (closing : Char)
    (levels : Nat) (parts : List α) (lines : List Char) : Prop where
  written : ∀ c ∈ lines, IsWritten c
  opens : ∃ level text, lines = newLine level ++ text ∧ Opens text
  reads : ∀ {depth steps level rest}, depth + levels ≤ deepest → lines.length ≤ steps →
    read depth steps (skipSpace (lines ++ (newLine level ++ closing :: rest))) = .ok (parts, rest)

/-- The characters of a line are those of its indentation and of the part on it. -/
theorem isWritten_of_mem_line (h : ∀ c ∈ text, IsWritten c) (hc : c ∈ newLine level ++ text) :
    IsWritten c :=
  (List.mem_append.1 hc).elim isWritten_of_mem_newLine (h c)

/-- The reader skips to the part on the line. -/
theorem skipSpace_line (h : Opens text) :
    skipSpace (newLine level ++ text ++ rest) = text ++ rest := by
  rw [List.append_assoc, skipSpace_newLine, h.skipSpace_eq]

/-- A line is longer than the part on it, which pays for the step of the reader. -/
theorem length_line : text.length + 1 ≤ (newLine level ++ text).length := by
  rw [List.length_append, newLine, List.length_cons]
  omega

/-- The only part. -/
theorem Line.only (h : Line read closing levels part text) :
    Lines read closing levels [part] (newLine level ++ text) where
  written c := isWritten_of_mem_line h.written
  opens := ⟨level, text, rfl, h.opens⟩
  reads {depth steps outer rest} hdepth hsteps := by
    -- The new line is one character more than the part, and pays for the step of the reader.
    have hlength : text.length + 1 ≤ (newLine level ++ text).length := length_line
    obtain ⟨fewer, rfl⟩ : ∃ fewer, steps = fewer + 1 := ⟨steps - 1, by omega⟩
    rw [skipSpace_line h.opens]
    exact h.last hdepth (by omega)

/-- One more part in front. -/
theorem Line.cons (h : Line read closing levels part text)
    (hlines : Lines read closing levels parts lines) :
    Lines read closing levels (part :: parts) (newLine level ++ text ++ ',' :: lines) where
  written c hc := by
    rcases List.mem_append.1 hc with hc | hc
    · exact isWritten_of_mem_line h.written hc
    · rcases List.mem_cons.1 hc with rfl | hc
      · exact .inl (by decide)
      · exact hlines.written c hc
  opens := by
    obtain ⟨c, cs, rfl, hc⟩ := h.opens
    exact ⟨level, _, List.append_assoc .., c, _, rfl, hc⟩
  reads {depth steps outer rest} hdepth hsteps := by
    have hlength : text.length + 1 ≤ (newLine level ++ text).length := length_line
    rw [List.length_append, List.length_cons] at hsteps
    obtain ⟨fewer, rfl⟩ : ∃ fewer, steps = fewer + 1 := ⟨steps - 1, by omega⟩
    have hothers : read depth fewer (skipSpace (lines ++ (newLine outer ++ closing :: rest))) =
        .ok (parts, rest) := hlines.reads hdepth (by omega)
    rw [List.append_assoc, skipSpace_line h.opens, List.cons_append,
      h.more hdepth (by omega), hothers]
    rfl

/-- Lines are not taken for the end of an empty list or mapping. -/
theorem Lines.skipSpace_ne (h : Lines read closing levels parts lines) (rest : List Char) :
    ∃ c cs, skipSpace (lines ++ rest) = c :: cs ∧ c ≠ ']' ∧ c ≠ '\x7d' := by
  obtain ⟨level, text, rfl, hopens⟩ := h.opens
  rw [skipSpace_line hopens]
  obtain ⟨c, cs, rfl, -, hends⟩ := hopens
  exact ⟨c, cs ++ rest, rfl, hends⟩

/-- The characters of a list or mapping are those of its lines and of its brackets. -/
theorem Lines.isWritten_of_mem (h : Lines read closing levels parts lines) {opening : Char}
    (ho : IsPrinted opening) (hcl : IsPrinted closing)
    (hc : c ∈ opening :: lines ++ newLine level ++ [closing]) : IsWritten c := by
  rcases List.mem_append.1 hc with hc | hc
  · rcases List.mem_append.1 hc with hc | hc
    · rcases List.mem_cons.1 hc with rfl | hc
      · exact .inl ho
      · exact h.written c hc
    · exact isWritten_of_mem_newLine hc
  · rw [List.mem_singleton.1 hc]
    exact .inl hcl

end Lines

/-! ## Lists and mappings -/

/-- Only a new line stands before the closing sign. -/
theorem skipSpace_closing {closing : Char} (hc : isSpace closing = false) :
    skipSpace (newLine level ++ closing :: rest) = closing :: rest := by
  rw [skipSpace_newLine, skipSpace_cons_of_not hc]

/-- A value is an item of a list. -/
theorem Writes.asItem (h : Writes levels v text) : Line readItems ']' levels v text where
  written := h.written
  opens := h.opens
  last {depth steps level rest} hdepth hsteps := by
    rw [readItems, h.reads hdepth hsteps (stops_newLine level _)]
    simp only [bind, Except.bind, skipSpace_closing (show isSpace ']' = false by decide)]
    rfl
  more {depth steps rest} hdepth hsteps := by
    rw [readItems, h.reads hdepth hsteps (stops_comma rest)]
    simp only [bind, Except.bind, skipSpace_cons_of_not (show isSpace ',' = false by decide)]
    cases readItems depth steps (skipSpace rest) <;> rfl

/-- A name and a value are read, and what follows them decides how to go on. -/
theorem readEntries_line (s : String) (h : Writes levels v text) {after : List Char}
    (hdepth : depth + levels ≤ deepest) (hsteps : text.length ≤ steps) (hafter : Stops after) :
    (∀ rest, skipSpace after = '\x7d' :: rest →
      readEntries depth (steps + 1) (string s ++ ':' :: ' ' :: text ++ after) =
        .ok ([(.str s, v)], rest)) ∧
    ∀ rest, skipSpace after = ',' :: rest →
      readEntries depth (steps + 1) (string s ++ ':' :: ' ' :: text ++ after) =
        (readEntries depth steps (skipSpace rest)).map fun (others, left) =>
          ((.str s, v) :: others, left) := by
  have hshape : string s ++ ':' :: ' ' :: text ++ after =
      '"' :: ((Text.ofString s).flatMap escapeCode ++ '"' :: ':' :: ' ' :: (text ++ after)) := by
    simp [string]
  have hspace : skipSpace (' ' :: (text ++ after)) = text ++ after := h.opens.skipSpace_eq
  rw [hshape, readEntries]
  simp only [bind, Except.bind, readString_escaped,
    skipSpace_cons_of_not (show isSpace ':' = false by decide), hspace,
    h.reads hdepth hsteps hafter]
  constructor
  · intro rest hclosing
    rw [hclosing]
    rfl
  · intro rest hcomma
    rw [hcomma]
    show (readEntries depth steps (skipSpace rest) >>= fun r => .ok (_ :: r.1, r.2)) = _
    cases readEntries depth steps (skipSpace rest) <;> rfl

/-- What is wrong with the value of an entry is wrong with the entries. -/
theorem readEntries_of_fault {fault : Fault} (s : String)
    (hopens : skipSpace (text ++ rest) = text ++ rest)
    (h : readValue depth steps (text ++ rest) = .error fault) :
    readEntries depth (steps + 1) (string s ++ ':' :: ' ' :: text ++ rest) = .error fault := by
  have hshape : string s ++ ':' :: ' ' :: text ++ rest =
      '"' :: ((Text.ofString s).flatMap escapeCode ++ '"' :: ':' :: ' ' :: (text ++ rest)) := by
    simp [string]
  have hspace : skipSpace (' ' :: (text ++ rest)) = text ++ rest := hopens
  rw [hshape, readEntries]
  simp only [bind, Except.bind, readString_escaped,
    skipSpace_cons_of_not (show isSpace ':' = false by decide), hspace, h]

/-- A value under a string is an entry of a mapping. -/
theorem Writes.asEntry (s : String) (h : Writes levels v text) :
    Line readEntries '\x7d' levels (.str s, v) (string s ++ ':' :: ' ' :: text) where
  written c hc := by
    rcases List.mem_append.1 hc with hc | hc
    · exact .inl (isPrinted_of_mem_string hc)
    · rcases List.mem_cons.1 hc with rfl | hc
      · exact .inl (by decide)
      · rcases List.mem_cons.1 hc with rfl | hc
        · exact .inl (by decide)
        · exact h.written c hc
  opens := ⟨'"', _, rfl, by decide⟩
  last {depth steps level rest} hdepth hsteps := by
    rw [List.length_append, List.length_cons, List.length_cons] at hsteps
    exact (readEntries_line s h hdepth (by omega) (stops_newLine level _)).1 _
      (skipSpace_closing (by decide))
  more {depth steps rest} hdepth hsteps := by
    rw [List.length_append, List.length_cons, List.length_cons] at hsteps
    exact (readEntries_line s h hdepth (by omega) (stops_comma rest)).2 _
      (skipSpace_cons_of_not (by decide))

/-- The text of a list with items. -/
theorem Lines.list {lines : List Char} (h : Lines readItems ']' levels items lines) :
    Writes (levels + 1) (.list items) ('[' :: lines ++ newLine level ++ [']']) where
  written c := h.isWritten_of_mem (by decide) (by decide)
  opens := ⟨'[', _, rfl, by decide⟩
  reads {depth steps rest} hdepth hsteps _ := by
    simp only [List.length_append, List.length_cons, List.length_nil] at hsteps
    obtain ⟨fewer, rfl⟩ : ∃ fewer, steps = fewer + 1 := ⟨steps - 1, by omega⟩
    have hread : readItems (depth + 1) fewer (skipSpace (lines ++ (newLine level ++ ']' :: rest))) =
        .ok (items, rest) := h.reads (by omega) (by omega)
    obtain ⟨c, cs, hskip, hends, -⟩ := h.skipSpace_ne (newLine level ++ ']' :: rest)
    have hshape : '[' :: lines ++ newLine level ++ [']'] ++ rest =
        '[' :: (lines ++ (newLine level ++ ']' :: rest)) := by simp
    rw [hskip] at hread
    rw [hshape, readValue, if_neg (by omega), hskip]
    split
    · next heq => exact absurd (List.cons.inj heq).1 hends
    · rw [hread]
      rfl

/-- A mapping whose keys are distinct strings is set key by key as it stands. -/
theorem ofList_of_nodup (hnames : ∀ entry ∈ entries, ∃ s : String, entry.1 = .str s)
    (hdistinct : (entries.map Prod.fst).Nodup) : Entries.ofList entries = entries := by
  -- The entries that have been put are always a front of all of them, so that the next key is new.
  have hfold : ∀ done rest : List (Value × Value), entries = done ++ rest →
      rest.foldl (fun kept (entry : Value × Value) => Keyed.put kept entry.1 entry.2) done =
        entries := by
    intro done rest
    induction rest generalizing done with
    | nil => intro h; rw [h, List.append_nil]; rfl
    | cons entry rest ih =>
      intro h
      have hnew : ∀ other ∈ done, other.1.sameKey entry.1 = false := by
        intro other hother
        have hmem : ∀ e ∈ [other, entry], e ∈ entries := by
          rw [h]
          intro e he
          rcases List.mem_cons.1 he with rfl | he
          · exact List.mem_append_left _ hother
          · rw [List.mem_singleton.1 he]
            exact List.mem_append_right _ List.mem_cons_self
        obtain ⟨s, hs⟩ := hnames entry (hmem entry (by simp))
        rw [hs]
        cases hsame : other.1.sameKey (.str s) with
        | false => rfl
        | true =>
          have hne : other.1 ≠ entry.1 := by
            rw [h, List.map_append, List.nodup_append] at hdistinct
            exact hdistinct.2.2 _ (List.mem_map_of_mem hother) _
              (List.mem_map_of_mem List.mem_cons_self)
          exact absurd (hs ▸ Value.sameKey_str_iff.1 hsame) hne
      rw [List.foldl_cons, Keyed.put_of_forall_ne hnew]
      exact ih _ (by rw [h, List.append_assoc]; rfl)
  exact hfold [] entries rfl

/-- The text of a mapping with entries. -/
theorem Lines.map {lines : List Char} (h : Lines readEntries '\x7d' levels entries lines)
    (hnames : ∀ entry ∈ entries, ∃ s : String, entry.1 = .str s)
    (hdistinct : (entries.map Prod.fst).Nodup) :
    Writes (levels + 1) (.map entries) ('\x7b' :: lines ++ newLine level ++ ['\x7d']) where
  written c := h.isWritten_of_mem (by decide) (by decide)
  opens := ⟨'\x7b', _, rfl, by decide⟩
  reads {depth steps rest} hdepth hsteps _ := by
    simp only [List.length_append, List.length_cons, List.length_nil] at hsteps
    obtain ⟨fewer, rfl⟩ : ∃ fewer, steps = fewer + 1 := ⟨steps - 1, by omega⟩
    have hread : readEntries (depth + 1) fewer
        (skipSpace (lines ++ (newLine level ++ '\x7d' :: rest))) = .ok (entries, rest) :=
      h.reads (by omega) (by omega)
    obtain ⟨c, cs, hskip, -, hends⟩ := h.skipSpace_ne (newLine level ++ '\x7d' :: rest)
    have hshape : '\x7b' :: lines ++ newLine level ++ ['\x7d'] ++ rest =
        '\x7b' :: (lines ++ (newLine level ++ '\x7d' :: rest)) := by simp
    rw [hskip] at hread
    rw [hshape, readValue, if_neg (by omega), hskip]
    split
    · next heq => exact absurd (List.cons.inj heq).1 hends
    · rw [hread]
      exact congrArg (fun es => Except.ok (Value.map es, rest)) (ofList_of_nodup hnames hdistinct)

/-! ## Values -/

/-- The items of a list are written one a line, and read back. The induction is on the items; the
last of them has no comma after it, and so is a case of its own. -/
theorem exists_lines_items (hne : items ≠ [])
    (h : ∀ item ∈ items, ∀ level, ∃ text, render level item = .ok text ∧ Writes levels item text)
    (level : Nat) :
    ∃ lines, renderItems level items = .ok lines ∧ Lines readItems ']' levels items lines := by
  induction items with
  | nil => exact absurd rfl hne
  | cons item rest ih =>
    obtain ⟨text, htext, hwrites⟩ := h item List.mem_cons_self level
    cases rest with
    | nil =>
      refine ⟨newLine level ++ text, ?_, hwrites.asItem.only⟩
      rw [renderItems, htext]
      rfl
    | cons next rest =>
      obtain ⟨lines, hlines, hothers⟩ := ih nofun fun other hother =>
        h other (List.mem_cons_of_mem _ hother)
      refine ⟨newLine level ++ text ++ ',' :: lines, ?_, hwrites.asItem.cons hothers⟩
      rw [renderItems, htext, hlines]
      · rfl
      · exact nofun

/-- The same for the entries of a mapping, whose names are written in front of their values. -/
theorem exists_lines_entries (hne : entries ≠ [])
    (hnames : ∀ entry ∈ entries, ∃ s : String, entry.1 = .str s)
    (h : ∀ entry ∈ entries, ∀ level, ∃ text,
      render level entry.2 = .ok text ∧ Writes levels entry.2 text) (level : Nat) :
    ∃ lines, renderEntries level entries = .ok lines ∧
      Lines readEntries '\x7d' levels entries lines := by
  induction entries with
  | nil => exact absurd rfl hne
  | cons entry rest ih =>
    obtain ⟨k, v⟩ := entry
    obtain ⟨text, htext, hwrites⟩ := h (k, v) List.mem_cons_self level
    obtain ⟨s, rfl⟩ : ∃ s : String, k = .str s := hnames (k, v) List.mem_cons_self
    have hkey : key (.str s) = .ok (string s) := rfl
    cases rest with
    | nil =>
      refine ⟨newLine level ++ (string s ++ ':' :: ' ' :: text), ?_, (hwrites.asEntry s).only⟩
      rw [renderEntries, hkey, htext]
      exact congrArg Except.ok (List.append_assoc ..)
    | cons next rest =>
      obtain ⟨lines, hlines, hothers⟩ := ih nofun
        (fun other hother => hnames other (List.mem_cons_of_mem _ hother))
        fun other hother => h other (List.mem_cons_of_mem _ hother)
      refine ⟨newLine level ++ (string s ++ ':' :: ' ' :: text) ++ ',' :: lines, ?_,
        (hwrites.asEntry s).cons hothers⟩
      rw [renderEntries, hkey, htext, hlines]
      · exact congrArg Except.ok (by simp)
      · exact nofun

/-- **A value that JSON has a form of its own for is written, and read from what is written.** -/
theorem exists_writes (h : v.IsJson levels) (level : Nat) :
    ∃ text, render level v = .ok text ∧ Writes levels v text := by
  induction h generalizing level with
  | null => exact ⟨_, by rw [render], writes_null⟩
  | bool b => exact ⟨_, by rw [render], writes_bool b⟩
  | str s => exact ⟨_, by rw [render], writes_str s⟩
  | int hdigits =>
    refine ⟨_, ?_, writes_int hdigits⟩
    have hfew := mt Text.lt_length_toDigits_iff.1 (Nat.not_le.2 hdigits)
    rw [render, integer, if_neg hfew]
    rfl
  -- Brackets with nothing between them are written without a line, and so are a case of their own.
  | @list levels items _ ih =>
    cases items with
    | nil =>
      refine ⟨['[', ']'], by rw [render], ?_, ⟨'[', _, rfl, by decide⟩, ?_⟩
      · exact fun c hc => .inl (forall_isPrinted rfl c hc)
      · intro depth steps rest hdepth hsteps _
        have htwo : 2 ≤ steps := hsteps
        obtain ⟨fewer, rfl⟩ : ∃ fewer, steps = fewer + 1 := ⟨steps - 1, by omega⟩
        rw [List.cons_append, readValue, if_neg (by omega)]
        rfl
    | cons item rest =>
      obtain ⟨lines, hlines, hwrites⟩ :=
        exists_lines_items (List.cons_ne_nil item rest) ih (level + 1)
      refine ⟨'[' :: lines ++ newLine level ++ [']'], ?_, hwrites.list⟩
      rw [render, hlines]
      rfl
  | @map levels entries hnames hdistinct _ ih =>
    cases entries with
    | nil =>
      refine ⟨['\x7b', '\x7d'], by rw [render], ?_, ⟨'\x7b', _, rfl, by decide⟩, ?_⟩
      · exact fun c hc => .inl (forall_isPrinted rfl c hc)
      · intro depth steps rest hdepth hsteps _
        have htwo : 2 ≤ steps := hsteps
        obtain ⟨fewer, rfl⟩ : ∃ fewer, steps = fewer + 1 := ⟨steps - 1, by omega⟩
        rw [List.cons_append, readValue, if_neg (by omega)]
        rfl
    | cons entry rest =>
      obtain ⟨lines, hlines, hwrites⟩ :=
        exists_lines_entries (List.cons_ne_nil entry rest) hnames ih (level + 1)
      refine ⟨'\x7b' :: lines ++ newLine level ++ ['\x7d'], ?_, hwrites.map hnames hdistinct⟩
      rw [render, hlines]
      rfl

end Json
end TestSelection
