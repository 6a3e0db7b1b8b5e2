/-
# The text of the wildcards that cross slashes

`**` and `**?` are written in four ways, by whether a component begins where they stand:

| wildcard | stands | written | takes a text without `/.` that |
| --- | --- | --- | --- |
| `**` | inside | `(?:[^/]*/+[^/.])*[^/]*/*` | |
| `**` | at a start | `(?:/*[^/.]…\|/*)` | does not begin with a dot |
| `**?` | inside | `(?:[.]*/*[^/.]…\|[.]*/+\|[.]+)` | is not empty |
| `**?` | at a start | `(?:/*[^/.]…\|/+)` | is not empty and does not begin with a dot |

where `…` is the first of the four texts. Each text is read as the expression that it was written
from, and what the expression takes does not depend on what stands around it
(`deep_sources_standFor`).
-/

import TestSelection.Proofs.Glob.Source

namespace TestSelection

/-- A text is that of an expression, is read as the expression, and so stands for exactly the spans
with a property, wherever they are. In particular it takes a whole text if and only if the text has
the property. -/
structure Regex.StandsFor (r : Regex) (text : String) (P : Text → Prop) : Prop where
  source : r.source = Text.ofString text
  read : read? (Text.ofString text) = some r
  takes : ∀ before span after, r.Takes before span after ↔ P span

namespace Glob

open Regex

/-- What the expression of a token stands for: the spans of the token. -/
theorem Token.standsFor {t : Token} {start : Bool} {text : String} {P : Text → Prop}
    (hsource : (seq (t.pieces start)).source = Text.ofString text)
    (hspans : ∀ s, t.Spans start s ↔ P s) : (seq (t.pieces start)).StandsFor text P where
  source := hsource
  read := hsource ▸ read?_source (fits_group_of_row (fits_seq (fits_token_pieces start t)))
  takes before span after := (denotes_token start t before span after).trans (hspans span)

/-- Where a component begins, a visible text must not begin with a dot. -/
theorem visible_start_iff {s : Text} :
    Visible true s ↔ ¬[Code.char '/', .char '.'] <:+: s ∧ s.head? ≠ some (.char '.') := by
  simp [Visible, and_comm]

/-- Elsewhere it may. -/
theorem visible_inside_iff {s : Text} : Visible false s ↔ ¬[Code.char '/', .char '.'] <:+: s := by
  simp [Visible]

/-- **What the wildcards that cross slashes are written as, and what it takes.**  Inside a component
`**` takes the texts without `/.`, at the start of one those of them that do not begin with a dot;
`**?` takes the same texts but the empty one. Each of the four is read from the text that is written
for it. -/
theorem deep_sources_standFor :
    (seq (Token.deep.pieces false)).StandsFor "(?:[^/]*/+[^/.])*[^/]*/*"
      (fun s => ¬[Code.char '/', .char '.'] <:+: s) ∧
    (seq (Token.deep.pieces true)).StandsFor "(?:/*[^/.](?:[^/]*/+[^/.])*[^/]*/*|/*)"
      (fun s => ¬[Code.char '/', .char '.'] <:+: s ∧ s.head? ≠ some (.char '.')) ∧
    (seq (Token.someDeep.pieces false)).StandsFor
      "(?:[.]*/*[^/.](?:[^/]*/+[^/.])*[^/]*/*|[.]*/+|[.]+)"
      (fun s => s ≠ [] ∧ ¬[Code.char '/', .char '.'] <:+: s) ∧
    (seq (Token.someDeep.pieces true)).StandsFor "(?:/*[^/.](?:[^/]*/+[^/.])*[^/]*/*|/+)"
      (fun s => s ≠ [] ∧ ¬[Code.char '/', .char '.'] <:+: s ∧ s.head? ≠ some (.char '.')) := by
  refine ⟨Token.standsFor rfl fun s => ?_, Token.standsFor rfl fun s => ?_,
    Token.standsFor rfl fun s => ?_, Token.standsFor rfl fun s => ?_⟩
  · rw [Token.spans_deep_iff, visible_inside_iff]
  · rw [Token.spans_deep_iff, visible_start_iff]
  · rw [Token.spans_someDeep_iff, visible_inside_iff]
  · rw [Token.spans_someDeep_iff, visible_start_iff]

end Glob
end TestSelection
