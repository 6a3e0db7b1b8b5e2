/-
# Reading the texts and whole numbers of JSON back

A text is written with an escape for each character that is not plain, and each escape is read as
the units of UTF-16 of its character (`codes_escapeChar`). The units of a text are joined to the
text again (`joinHalves_units`): an escape of one unit is never half of a surrogate pair. A whole
number that is written is read as long as what follows it does not go on with it (`Stops`).
-/

import Mathlib.Tactic.SplitIfs
import TestSelection.Json.Printer
import TestSelection.Json.Reader
import TestSelection.Proofs.Text.Digits

namespace TestSelection
namespace Json

variable {c : Char} {s : String} {rest : List Char} {n depth steps : Nat}

/-- A printable character of ASCII. -/
def IsPrinted (c : Char) : Prop := 0x20 ≤ c.toNat ∧ c.toNat < 0x7f

instance (c : Char) : Decidable (IsPrinted c) := inferInstanceAs (Decidable (_ ∧ _))

/-- That every character is printable, by evaluation; for the fixed words of JSON. -/
theorem forall_isPrinted (h : rest.all (fun c => decide (IsPrinted c)) = true) :
    ∀ c ∈ rest, IsPrinted c :=
  fun c hc => of_decide_eq_true (List.all_eq_true.1 h c hc)

/-- A digit is printable, whatever base it belongs to. -/
theorem isPrinted_of_isDigitIn {base : Nat} (h : Text.isDigitIn base c = true) : IsPrinted c := by
  have hvalue : Text.digitValue c < 16 := Nat.lt_of_not_le fun hge => by
    have hnone : Text.digit? base c = none := if_neg (by omega)
    rw [Text.isDigitIn, hnone] at h
    cases h
  rw [Text.digitValue] at hvalue
  rw [IsPrinted]
  split_ifs at hvalue <;> omega

/-! ## Texts -/

/-- The units of a character in UTF-16. -/
def units (c : Char) : List Nat :=
  if c.toNat < 0x10000 then [c.toNat]
  else [0xd800 + (c.toNat - 0x10000) / 0x400, 0xdc00 + (c.toNat - 0x10000) % 0x400]

/-- The number of a character is not that of half of a surrogate pair. -/
theorem toNat_valid (c : Char) : c.toNat < 0xd800 ∨ 0xdfff < c.toNat ∧ c.toNat < 0x110000 :=
  c.valid

/-- One unit that is written by its number is read. -/
theorem codes_unit (hn : n < 0x10000) :
    codes (unit n ++ rest) = (codes rest).map fun (ns, left) => (n :: ns, left) := by
  have hlength : (Text.hex 4 n).length = 4 := Text.length_hex (by decide) hn
  obtain ⟨a, b, c, d, hds⟩ : ∃ a b c d, Text.hex 4 n = [a, b, c, d] := by
    match hex : Text.hex 4 n, hlength with
    | [a, b, c, d], _ => exact ⟨a, b, c, d, rfl⟩
  have hdigits : [a, b, c, d].all (Text.isDigitIn 16) = true := by
    rw [← hds]
    exact List.all_eq_true.2 fun _ h => Text.isDigitIn_of_mem_hex h
  have hunit : unit? a b c d = some n := by
    rw [unit?, if_pos hdigits, ← hds, Text.ofDigits_hex]
  rw [unit, hds]
  simp only [List.cons_append, List.nil_append, codes, hunit]

/-- **A character is read from its escape.** -/
theorem codes_escapeChar (c : Char) (rest : List Char) :
    codes (escapeChar c ++ rest) =
      (codes rest).map fun (ns, left) => (units c ++ ns, left) := by
  have hsmall : ∀ {d : Char}, d.toNat < 0x10000 → units d = [d.toNat] := fun h => if_pos h
  -- A character below 0x10000 is one unit, which its escape spells; the two lines at the end are
  -- for those that are written as units themselves.
  rw [escapeChar]
  split_ifs with hquote hslash hline hreturn htab hfeed hback hplain hbmp
  · subst hquote
    simp [codes, unescape?, hsmall]
  · subst hslash
    simp [codes, unescape?, hsmall]
  · subst hline
    simp [codes, unescape?, hsmall]
  · subst hreturn
    simp [codes, unescape?, hsmall]
  · subst htab
    simp [codes, unescape?, hsmall]
  · obtain rfl : c = '\x0c' := Char.toNat_inj.1 hfeed
    simp [codes, unescape?, hsmall]
  · obtain rfl : c = '\x08' := Char.toNat_inj.1 hback
    simp [codes, unescape?, hsmall]
  · have hlow : ¬c.toNat < 0x20 := by omega
    rw [hsmall (by omega)]
    simp [codes, hslash, hlow]
  · rw [codes_unit hbmp, hsmall hbmp]
    rfl
  · have hvalid := toNat_valid c
    rw [List.append_assoc, codes_unit (by omega), codes_unit (by omega), units, if_neg hbmp]
    cases codes rest <;> rfl

/-- The number of a character is that of no half. -/
theorem ofNumber?_toNat (c : Char) : Code.ofNumber? c.toNat = some (.char c) := by
  have hvalid : c.toNat.isValidChar := c.valid
  rw [Code.ofNumber?, if_pos hvalid, Char.ofNat_toNat]

/-- The units of a character in front are joined to this character. -/
theorem joinHalves_units (c : Char) (ns : List Nat) :
    joinHalves (units c ++ ns) = .char c :: joinHalves ns := by
  by_cases hbmp : c.toNat < 0x10000
  · rw [units, if_pos hbmp]
    cases ns with
    | nil => simp [joinHalves, ofNumber?_toNat]
    | cons b rest =>
      -- A character is no half itself, so it is not joined with what follows it.
      have hno : ¬(0xd800 ≤ c.toNat ∧ c.toNat < 0xdc00 ∧ 0xdc00 ≤ b ∧ b < 0xe000) := by
        have hvalid := toNat_valid c
        omega
      simp [joinHalves, hno, ofNumber?_toNat]
  · have hvalid := toNat_valid c
    rw [units, if_neg hbmp]
    simp only [List.cons_append, List.nil_append, joinHalves]
    rw [if_pos (by omega)]
    -- The two halves of a character above put together are its number again.
    have hjoined : 0x10000 + (0xd800 + (c.toNat - 0x10000) / 0x400 - 0xd800) * 0x400 +
        (0xdc00 + (c.toNat - 0x10000) % 0x400 - 0xdc00) = c.toNat := by omega
    rw [hjoined, ofNumber?_toNat]
    rfl

/-- **A text is read from what is written for it.** -/
theorem readString_escaped (s : String) (rest : List Char) :
    readString ((Text.ofString s).flatMap escapeCode ++ '"' :: rest) =
      .ok (Text.ofString s, rest) := by
  -- First the units are read up to the quote, and then halves are joined to characters.
  have hcodes : ∀ cs : List Char, codes ((Text.ofChars cs).flatMap escapeCode ++ '"' :: rest) =
      .ok (cs.flatMap units, rest) := by
    intro cs
    induction cs with
    | nil => rfl
    | cons c cs ih =>
      rw [Text.ofChars, List.map_cons, List.flatMap_cons, List.append_assoc, escapeCode,
        codes_escapeChar, ← Text.ofChars, ih]
      rfl
  have hjoined : ∀ cs : List Char, joinHalves (cs.flatMap units) = Text.ofChars cs := by
    intro cs
    induction cs with
    | nil => rfl
    | cons c cs ih => rw [List.flatMap_cons, joinHalves_units, ih]; rfl
  rw [readString, Text.ofString, hcodes]
  exact congrArg (fun t => Except.ok (t, rest)) (hjoined s.toList)

/-- An escape has printable characters only, whatever the character is. The cases are those of
`escapeChar`: seven short escapes, the character itself, one unit, or two. -/
theorem isPrinted_of_mem_escapeChar {d : Char} (h : d ∈ escapeChar c) : IsPrinted d := by
  have hunit : ∀ {n}, d ∈ unit n → IsPrinted d := by
    intro n hd
    rcases List.mem_cons.1 hd with rfl | hd
    · decide
    · rcases List.mem_cons.1 hd with rfl | hd
      · decide
      · exact isPrinted_of_isDigitIn (Text.isDigitIn_of_mem_hex hd)
  have hpair : ∀ {a b : Char}, IsPrinted a → IsPrinted b → d ∈ [a, b] → IsPrinted d := by
    intro a b ha hb hd
    rcases List.mem_cons.1 hd with rfl | hd
    · exact ha
    · rw [List.mem_singleton.1 hd]
      exact hb
  rw [escapeChar] at h
  split_ifs at h with hquote hslash hline hreturn htab hfeed hback hplain hbmp
  iterate 7 · exact hpair (by decide) (by decide) h
  · rw [List.mem_singleton.1 h]
    exact hplain
  · exact hunit h
  · exact (List.mem_append.1 h).elim hunit hunit

/-- So has the text of a string, with its quotes. -/
theorem isPrinted_of_mem_string (h : c ∈ string (Text.ofString s)) : IsPrinted c := by
  rcases List.mem_append.1 h with h | h
  · rcases List.mem_cons.1 h with rfl | h
    · decide
    · obtain ⟨code, hcode, hc⟩ := List.mem_flatMap.1 h
      obtain ⟨d, -, rfl⟩ := List.mem_map.1 hcode
      exact isPrinted_of_mem_escapeChar hc
  · rw [List.mem_singleton.1 h]
    decide

/-! ## Whole numbers -/

/-- What may follow a value in a text: nothing that a number could go on with. -/
def Stops (rest : List Char) : Prop := ∀ c ∈ rest.head?, c = ',' ∨ c = '\n'

/-- Digits end where a text stops. -/
theorem digits_append {ds : List Char} (hds : ∀ c ∈ ds, Text.isDigitIn 10 c = true)
    (h : Stops rest) : digits (ds ++ rest) = (ds, rest) := by
  have hends : ∀ c ∈ rest.head?, Text.isDigitIn 10 c = false := fun c hc => by
    rcases h c hc with rfl | rfl <;> decide
  have htake : rest.takeWhile (Text.isDigitIn 10) = [] := by
    cases rest with
    | nil => rfl
    | cons c rest => exact List.takeWhile_cons_of_neg (by simp [hends c rfl])
  have hdrop : rest.dropWhile (Text.isDigitIn 10) = rest := by
    cases rest with
    | nil => rfl
    | cons c rest => exact List.dropWhile_cons_of_neg (by simp [hends c rfl])
  rw [digits, List.takeWhile_append_of_pos hds, List.dropWhile_append_of_pos hds, htake, hdrop,
    List.append_nil]

/-- The digits of a number are read as a whole part. Zero is a case of its own, since a whole part
that begins with `0` has no other digit. -/
theorem wholePart_toDigits (k : Nat) (h : Stops rest) :
    wholePart (Nat.toDigits 10 k ++ rest) = .ok (Nat.toDigits 10 k, rest) := by
  have hds : ∀ c ∈ Nat.toDigits 10 k, Text.isDigitIn 10 c = true := fun _ hc =>
    Text.isDigitIn_of_mem_toDigits (by decide) (by decide) hc
  by_cases hk : k = 0
  · subst hk
    rfl
  · have hhead : (Nat.toDigits 10 k).head? ≠ some '0' :=
      Text.head?_toDigits_ne_zero (by decide) (by decide) hk
    have hfound := digits_append hds h
    cases hd : Nat.toDigits 10 k with
    | nil => exact absurd hd Nat.toDigits_ne_nil
    | cons d ds =>
      rw [hd] at hhead hfound
      have hzero : d ≠ '0' := fun hd => hhead (congrArg some hd)
      rw [List.cons_append, wholePart, ← List.cons_append, hfound]
      · exact fun _ he => hzero (List.cons.inj he).1

/-- A whole number is read from its digits, unless there are too many of them. -/
theorem readNumber_toDigits_eq (minus : Bool) (k : Nat) (h : Stops rest) :
    readNumber minus (Nat.toDigits 10 k ++ rest) =
      if 10 ^ Text.mostDigits ≤ k then .error (.longInteger (Nat.toDigits 10 k).length)
      else .ok (.int (if minus then -(k : Int) else k), rest) := by
  -- What follows the digits begins neither a fraction nor a power.
  have hfraction : fraction rest = ([], rest) := by
    cases rest with
    | nil => rfl
    | cons c rest => rcases h c rfl with rfl | rfl <;> rfl
  have hpower : power rest = (none, rest) := by
    cases rest with
    | nil => rfl
    | cons c rest => rcases h c rfl with rfl | rfl <;> rfl
  rw [readNumber, wholePart_toDigits k h]
  simp only [bind, Except.bind, hfraction, hpower]
  rw [if_pos (by rfl), Text.ofDigits_toDigits (by decide) (by decide)]
  simp only [Text.lt_length_toDigits_iff]
  split <;> rfl

/-- **A whole number is read from its digits.** -/
theorem readNumber_toDigits (minus : Bool) {k : Nat} (hk : k < 10 ^ Text.mostDigits)
    (h : Stops rest) :
    readNumber minus (Nat.toDigits 10 k ++ rest) =
      .ok (.int (if minus then -(k : Int) else k), rest) := by
  rw [readNumber_toDigits_eq minus k h, if_neg (Nat.not_le.2 hk)]

/-- The text of a whole number is its digits, with a minus in front if it is negative. -/
theorem toList_toString_int (i : Int) :
    (toString i).toList =
      if i < 0 then '-' :: Nat.toDigits 10 i.natAbs else Nat.toDigits 10 i.natAbs := by
  cases i with
  | ofNat k => simp [Int.toString_eq_repr, Int.repr, Nat.repr]
  | negSucc k => simp [Int.toString_eq_repr, Int.repr, Nat.repr, Int.negSucc_lt_zero]

end Json
end TestSelection
