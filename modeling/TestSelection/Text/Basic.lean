/-
# Texts

A text is a list of code points. Nearly all of them are characters; the others are the halves of
surrogate pairs, which a document may write by their numbers. A half is never a character, not even
next to the other half: a text of two halves is not the text of the character that they stand for.

A string holds characters only, and `Text.ofString` makes a text of it wherever a text is wanted.
Whether a text is that of a string is told by `Text.chars?`, which gives the characters of the
string back (`chars?_ofChars`).
-/

namespace TestSelection

/-- A code point. -/
inductive Code where
  | char (c : Char)
  /-- Half of a surrogate pair, counted from the first one. -/
  | half (n : Fin 0x800)
  deriving DecidableEq

/-- A text. -/
abbrev Text := List Code

namespace Code

/-- The number of the first half of a surrogate pair. -/
def firstHalf : Nat := 0xd800

/-- The number of a code point. -/
def number : Code → Nat
  | .char c => c.toNat
  | .half n => firstHalf + n

/-- The code point of a number, if it is not too large. -/
def ofNumber? (n : Nat) : Option Code :=
  if n.isValidChar then some (.char (Char.ofNat n))
  else if h : firstHalf ≤ n ∧ n < firstHalf + 0x800 then
    some (.half ⟨n - firstHalf, by omega⟩)
  else none

/-- The character that a code point is. -/
def char? : Code → Option Char
  | .char c => some c
  | .half _ => none

/-- Whether a code point is a character that passes a test. -/
def passes (p : Char → Bool) : Code → Bool
  | .char c => p c
  | .half _ => false

end Code

namespace Text

/-- The text of some characters. -/
def ofChars (cs : List Char) : Text := cs.map .char

/-- The text of a string. -/
def ofString (s : String) : Text := ofChars s.toList

instance : Coe String Text := ⟨ofString⟩

/-- The characters of a text, if it holds nothing else. -/
def chars? : Text → Option (List Char)
  | [] => some []
  | c :: rest => do return (← c.char?) :: (← chars? rest)

/-- Characters are found again among code points. -/
theorem chars?_ofChars (cs : List Char) : chars? (ofChars cs) = some cs := by
  induction cs with
  | nil => rfl
  | cons c rest ih => simp_all [ofChars, chars?, Code.char?]

/-- Strings with the same code points are the same string. -/
@[simp] theorem ofString_inj {s t : String} : ofString s = ofString t ↔ s = t := by
  constructor
  · intro h
    have : chars? (ofString s) = chars? (ofString t) := by rw [h]
    simpa [ofString, chars?_ofChars, String.toList_inj] using this
  · rintro rfl
    rfl

/-- The code points of one string come after those of the other. -/
@[simp] theorem ofString_append (s t : String) : ofString (s ++ t) = ofString s ++ ofString t := by
  simp [ofString, ofChars]

/-- Texts with another one between each two of them. -/
def joined (between : Text) (parts : List Text) : Text := List.intercalate between parts

end Text
end TestSelection
