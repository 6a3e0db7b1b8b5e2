/-
# Quoted text

How a message quotes a text or a string of bytes, so that its ends and its invisible characters
can be seen. The quote is `'`, unless the text holds a `'` and no `"`; the quote in use and the
backslash are written after a backslash, line ends and tabs by a letter, and everything else that
cannot be printed by its number.
-/

import TestSelection.Text.Basic
import TestSelection.Text.Printable

namespace TestSelection
namespace Text

/-- The digits of a number to base sixteen, in lower case, at least `width` of them. -/
def hex (width n : Nat) : List Char :=
  let ds := Nat.toDigits 16 n
  List.replicate (width - ds.length) '0' ++ ds

/-- The quote around a text: `"` only where that saves writing a backslash. -/
def quoteFor (cs : List Char) : Char :=
  if cs.contains '\'' && !cs.contains '"' then '"' else '\''

/-- A code point by its number, with as many digits as its size needs. -/
def numbered (n : Nat) : List Char :=
  if n < 0x100 then '\\' :: 'x' :: hex 2 n
  else if n < 0x10000 then '\\' :: 'u' :: hex 4 n
  else '\\' :: 'U' :: hex 8 n

/-- One character between the given quotes. -/
def quotedChar (quote c : Char) : List Char :=
  if c = quote || c = '\\' then ['\\', c]
  else if c = '\n' then ['\\', 'n']
  else if c = '\r' then ['\\', 'r']
  else if c = '\t' then ['\\', 't']
  else if isPrintable c then [c]
  else numbered c.toNat

/-- One code point of a text between the given quotes. -/
def quotedCode (quote : Char) : Code → List Char
  | .char c => quotedChar quote c
  | .half n => numbered (Code.half n).number

/-- A text between quotes. -/
def quoted (t : Text) : String :=
  let q := quoteFor (t.filterMap Code.char?)
  String.ofList (q :: t.flatMap (quotedCode q) ++ [q])

/-- One byte between the given quotes: as the character of its number if that is in ASCII and
printable. -/
def quotedByte (quote : Char) (b : UInt8) : List Char :=
  let c := Char.ofNat b.toNat
  if b.toNat < 0x80 then quotedChar quote c else numbered b.toNat

/-- A string of bytes between quotes, marked by a `b` in front. -/
def quotedBytes (bytes : List UInt8) : String :=
  let q := quoteFor (bytes.map fun b => Char.ofNat b.toNat)
  String.ofList ('b' :: q :: bytes.flatMap (quotedByte q) ++ [q])

end Text
end TestSelection
