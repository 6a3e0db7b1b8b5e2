/-
# The text of a glob's expression

The text of the regular expression of a glob is read back as the expression (`read?_regexSource`):
it is well-formed, and no character of the glob means anything in it but itself. Together with the
languages of the pieces this says what the text stands for, namely the paths that the glob matches
(`regexSource_denotes`).
-/

import TestSelection.Proofs.Glob.Language
import TestSelection.Proofs.Regex.Reading

namespace TestSelection
namespace Glob

open Regex

/-- No piece of a token needs brackets around it: each is an item of a row. -/
theorem fits_token_pieces (start : Bool) (t : Token) :
    ∀ r ∈ t.pieces start, r.fits .item = true := by
  cases t with
  | char c => exact List.forall_mem_singleton.2 rfl
  | one | run | someRun | deep | someDeep => cases start <;> decide

/-- The same for the pieces of a whole glob, so their texts can be joined as they are. -/
theorem fits_pieces (start : Bool) (ts : List Token) :
    ∀ r ∈ pieces start ts, r.fits .item = true := by
  induction ts generalizing start with
  | nil => exact List.forall_mem_nil _
  | cons t ts ih => exact List.forall_mem_append.2 ⟨fits_token_pieces start t, ih t.endsComponent⟩

/-- **The text of a glob's expression is read as that expression.** -/
theorem read?_regexSource (glob : Glob) : read? glob.regexSource = some glob.regex := by
  have hitems : ∀ r ∈ first :: pieces true glob.tokens ++ [last], r.fits .item = true :=
    List.forall_mem_append.2
      ⟨List.forall_mem_cons.2 ⟨rfl, fits_pieces true glob.tokens⟩, List.forall_mem_singleton.2 rfl⟩
  exact read?_source (fits_group_of_row (fits_seq hitems))

/-- What a token contributes to an expression: a character contributes itself, and a wildcard one
of two fixed rows of pieces. -/
def Token.Contributes : Token → List Regex → Prop
  | .char c, part => part = [.char c]
  | t, part => part = t.pieces true ∨ part = t.pieces false

/-- The pieces of a token mean the token, at a component start or elsewhere. -/
theorem Token.contributes_pieces (start : Bool) (t : Token) : t.Contributes (t.pieces start) := by
  cases t with
  | char c => rfl
  | one | run | someRun | deep | someDeep =>
    cases start with
    | true => exact .inl rfl
    | false => exact .inr rfl

/-- The pieces of a glob fall into one part for each token. The start flag of a part is the one that
the token before it leaves. -/
theorem exists_parts (start : Bool) (ts : List Token) :
    ∃ parts, List.Forall₂ Token.Contributes ts parts ∧ pieces start ts = parts.flatten := by
  induction ts generalizing start with
  | nil => exact ⟨[], .nil, rfl⟩
  | cons t ts ih =>
    obtain ⟨parts, hparts, he⟩ := ih t.endsComponent
    exact ⟨t.pieces start :: parts, .cons (t.contributes_pieces start) hparts, by
      rw [pieces, he, List.flatten_cons]⟩

/-- **The text of a glob's expression means what the glob means.**  It is well-formed; what is read
from it begins at the start of the path, ends at its end, and between them has one part for each
token that the glob is read as, so each character stands for itself only; and it is found in exactly
the paths that the glob matches. -/
theorem regexSource_denotes {text : Text} {glob : Glob} (h : Glob.ofText text = .ok glob) :
    Reads text glob.tokens ∧
      ∃ parts r, List.Forall₂ Token.Contributes glob.tokens parts ∧
        r = seq (first :: parts.flatten ++ [last]) ∧ read? glob.regexSource = some r ∧
          ∀ path : String, r.Matches (Text.ofString path) ↔ glob.isMatch path = true := by
  obtain ⟨parts, hparts, he⟩ := exists_parts true glob.tokens
  refine ⟨(ofText_eq_ok_iff.1 h).2, parts, glob.regex, hparts, ?_, read?_regexSource glob,
    matches_regex_iff glob⟩
  rw [Glob.regex, he]

/-- Bars, brackets and braces of a glob are read as themselves. -/
theorem regexSource_denotes_bar :
    ∃ glob, Glob.ofText (Text.ofString "(a|b)**?\x7b]#\n") = .ok glob ∧
      glob.isMatch "(a|b)c/d\x7b]#\n" = true ∧ glob.isMatch "(ac\x7b]#\n" = false ∧
      Reads (Text.ofString "(a|b)**?\x7b]#\n") glob.tokens ∧
        ∃ parts r, List.Forall₂ Token.Contributes glob.tokens parts ∧
          r = seq (first :: parts.flatten ++ [last]) ∧ read? glob.regexSource = some r ∧
            ∀ path : String, r.Matches (Text.ofString path) ↔ glob.isMatch path = true :=
  ⟨_, rfl, by decide, by decide, regexSource_denotes rfl⟩

end Glob
end TestSelection
