/-
# Digits that are written and read

The digits of a number to a base up to sixteen are digits in this base, and are read as the number
(`ofDigits_toDigits`). They begin with a zero only for the number zero (`head?_toDigits_ne_zero`);
zeros in front of them, as in `hex`, change nothing (`ofDigits_hex`).
-/

import Mathlib.Algebra.Group.Int.Defs
import Mathlib.Algebra.Group.Nat.Defs
import TestSelection.Text.Digits
import TestSelection.Text.Quoted

namespace TestSelection
namespace Text

variable {base d n width : Nat} {c : Char} {ds es : List Char}

/-- A digit is read as its value. -/
theorem digit?_digitChar (h : d < base) (hb : base ≤ 16) : digit? base d.digitChar = some d := by
  have hvalue : ∀ d < 16, digitValue d.digitChar = d := by decide
  have hd : digitValue d.digitChar = d := hvalue d (by omega)
  have hlt : d < base ∧ d < 16 := by omega
  rw [digit?, hd, if_pos hlt]

/-- One digit more at the end of a number. -/
theorem ofDigits_append (base : Nat) (ds : List Char) (c : Char) :
    ofDigits base (ds ++ [c]) = base * ofDigits base ds + (digit? base c).getD 0 := by
  rw [ofDigits, List.foldl_append]
  rfl

/-- **Digits are read as the number that they were made of.** -/
theorem ofDigits_toDigits (hb : 1 < base) (hb' : base ≤ 16) (n : Nat) :
    ofDigits base (Nat.toDigits base n) = n := by
  induction n using Nat.strongRecOn with
  | ind n ih =>
    rw [Nat.toDigits_eq_if hb]
    split
    · next hn =>
      have hone : ofDigits base [n.digitChar] = base * 0 + (digit? base n.digitChar).getD 0 := rfl
      rw [hone, digit?_digitChar hn hb', Option.getD_some]
      omega
    · next hn =>
      have hpos : 0 < n := by omega
      have hmod : n % base < base := Nat.mod_lt _ (by omega)
      rw [ofDigits_append, ih (n / base) (Nat.div_lt_self hpos hb), digit?_digitChar hmod hb',
        Option.getD_some]
      exact Nat.div_add_mod n base

/-- The digits of a number are digits of its base. -/
theorem isDigitIn_of_mem_toDigits (hb : 1 < base) (hb' : base ≤ 16) (h : c ∈ Nat.toDigits base n) :
    isDigitIn base c = true := by
  induction n using Nat.strongRecOn with
  | ind n ih =>
    have hdigit : ∀ {d}, d < base → isDigitIn base d.digitChar = true := fun hd => by
      rw [isDigitIn, digit?_digitChar hd hb']
      rfl
    rw [Nat.toDigits_eq_if hb] at h
    split at h
    · next hn =>
      rw [List.mem_singleton.1 h]
      exact hdigit hn
    · next hn =>
      have hpos : 0 < n := by omega
      rcases List.mem_append.1 h with h | h
      · exact ih (n / base) (Nat.div_lt_self hpos hb) h
      · rw [List.mem_singleton.1 h]
        exact hdigit (Nat.mod_lt _ (by omega))

/-- Only the digits of zero begin with a zero. -/
theorem head?_toDigits_ne_zero (hb : 1 < base) (hb' : base ≤ 16) (hn : n ≠ 0) :
    (Nat.toDigits base n).head? ≠ some '0' := by
  induction n using Nat.strongRecOn with
  | ind n ih =>
    rw [Nat.toDigits_eq_if hb]
    split
    · next hlt =>
      intro h
      have hzero : n.digitChar = '0' := Option.some.inj h
      have hd := digit?_digitChar hlt hb'
      rw [hzero, show '0' = Nat.digitChar 0 from rfl, digit?_digitChar (by omega) hb'] at hd
      exact hn (Option.some.inj hd).symm
    · next hge =>
      have hpos : 0 < n / base := Nat.div_pos (by omega) (by omega)
      have hlt : n / base < n := Nat.div_lt_self (by omega) hb
      rw [List.head?_append, Option.or_of_isSome (List.isSome_head?.2 Nat.toDigits_ne_nil)]
      exact ih (n / base) hlt (by omega)

/-- Zeros in front do not count. -/
theorem ofDigits_replicate_zero (base k : Nat) (ds : List Char) :
    ofDigits base (List.replicate k '0' ++ ds) = ofDigits base ds := by
  have hzero : ∀ base, (digit? base '0').getD 0 = 0 := by
    intro base
    have hv : digitValue '0' = 0 := by decide
    rw [digit?, hv]
    split <;> rfl
  induction k with
  | zero => rfl
  | succ k ih =>
    rw [← ih, List.replicate_succ, List.cons_append, ofDigits, List.foldl_cons, hzero]
    rfl

/-- Hexadecimal digits are read as the number, with or without the zeros in front of them. -/
theorem ofDigits_hex (width n : Nat) : ofDigits 16 (hex width n) = n := by
  rw [hex, ofDigits_replicate_zero, ofDigits_toDigits (by decide) (by decide)]

/-- The digits of an escape are those of base 16, zeros in front included. -/
theorem isDigitIn_of_mem_hex (h : c ∈ hex width n) : isDigitIn 16 c = true := by
  rcases List.mem_append.1 h with h | h
  · rw [(List.mem_replicate.1 h).2]
    decide
  · exact isDigitIn_of_mem_toDigits (by decide) (by decide) h

/-- A number has as many hexadecimal digits as are asked for, if it fits. -/
theorem length_hex (hwidth : 0 < width) (hn : n < 16 ^ width) : (hex width n).length = width := by
  have hle := (Nat.length_toDigits_le_iff (b := 16) (by decide) hwidth).2 hn
  rw [hex, List.length_append, List.length_replicate]
  omega

/-- A power of ten has one digit more than zeros. -/
theorem length_toDigits_pow (n : Nat) : (Nat.toDigits 10 (10 ^ n)).length = n + 1 := by
  refine Nat.le_antisymm ?_ (Nat.lt_of_not_le fun hle => ?_)
  · rw [Nat.length_toDigits_le_iff (by decide) (Nat.succ_pos n)]
    exact Nat.pow_lt_pow_succ (by decide)
  · cases n with
    | zero => exact absurd hle (by decide)
    | succ n =>
      rw [Nat.length_toDigits_le_iff (by decide) (Nat.succ_pos n)] at hle
      exact Nat.lt_irrefl _ hle

/-- A number is too long to be written from a certain size on. -/
theorem lt_length_toDigits_iff {n : Nat} :
    mostDigits < (Nat.toDigits 10 n).length ↔ 10 ^ mostDigits ≤ n := by
  rw [← Nat.not_le, Nat.length_toDigits_le_iff (by decide) (by decide), Nat.not_lt]

/-- The smallest number that is too long to be written. -/
theorem isTooLong_pow : isTooLong (10 ^ mostDigits) = true := by
  have hten : (10 : Int).natAbs = 10 := rfl
  rw [isTooLong, Int.natAbs_pow, hten]
  exact decide_eq_true (lt_length_toDigits_iff.2 (Nat.le_refl _))

end Text
end TestSelection
