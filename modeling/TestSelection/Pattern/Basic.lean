/-
# Declared patterns

A configuration declares a pattern as a text, which is a glob, or as a mapping with the one key
`include` or `exclude` and a glob as its value. A path that the pattern matches is selected unless
the pattern is an `exclude` (`Pattern.selects`).

`Pattern.ofValue?` reads one declaration and `Pattern.toValue` writes it; what cannot be read is
reported with the setting it stands in (`Misshapen`).
-/

import TestSelection.Value.Literal

namespace TestSelection

/-- How a pattern is declared. -/
inductive Tag where
  | bare
  | included
  | excluded
  deriving DecidableEq

/-- A declared pattern. -/
structure Pattern where
  tag : Tag
  glob : Text
  deriving DecidableEq

/-- Where a declaration that cannot be read stands: it is one of some patterns, or the whole of a
named field. -/
inductive Subject where
  | pattern (raw : Value)
  | field (name : Text)

/-- A declaration that cannot be read, and the configuration it comes from. -/
structure Misshapen where
  context : Text
  subject : Subject

/-- What is invalid, in words. -/
def Misshapen.message (m : Misshapen) : Text :=
  m.context ++ " has invalid " ++
    match m.subject with
    | .pattern raw => "pattern " ++ raw.literal
    | .field name => "'" ++ name ++ "'"

/-- The tag that a key stands for. -/
def Tag.ofKey? (key : Text) : Option Tag :=
  if key = Text.ofString "include" then some .included
  else if key = Text.ofString "exclude" then some .excluded
  else none

namespace Pattern

/-- Whether a path that the pattern matches is selected. -/
def selects (p : Pattern) : Bool := p.tag != .excluded

/-- The pattern that a value declares. -/
def ofValue? : Value → Option Pattern
  | .str glob => some ⟨.bare, glob⟩
  | .map [(.str key, .str glob)] => (Tag.ofKey? key).map (⟨·, glob⟩)
  | _ => none

/-- The declaration of a pattern. -/
def toValue (p : Pattern) : Value :=
  match p.tag with
  | .bare => .str p.glob
  | .included => .map [(.str "include", .str p.glob)]
  | .excluded => .map [(.str "exclude", .str p.glob)]

/-- Reading a declaration gives back the pattern that was written. -/
@[simp] theorem ofValue?_toValue (p : Pattern) : ofValue? p.toValue = some p := by
  obtain ⟨tag, glob⟩ := p
  cases tag <;> rfl

/-- Whether a value declares a pattern. -/
def isDeclaration (raw : Value) : Bool := (ofValue? raw).isSome

/-- Reads one declaration. -/
def ofValue (context : Text) (raw : Value) : Except Misshapen Pattern :=
  match ofValue? raw with
  | some p => .ok p
  | none => .error ⟨context, .pattern raw⟩

/-- Reads declarations in order, up to the first that cannot be read. -/
def ofValues (context : Text) : List Value → Except Misshapen (List Pattern)
  | [] => .ok []
  | raw :: rest => do
    let p ← ofValue context raw
    let ps ← ofValues context rest
    return p :: ps

/-- Reads a field that names at least one pattern: one declaration, or a list of some. The field
as a whole is at fault when anything in it is. -/
def ofField (context field : Text) (raw : Value) : Except Misshapen (List Pattern) :=
  match ofValue? raw with
  | some p => .ok [p]
  | none =>
    match raw with
    | .list (item :: rest) =>
      match (item :: rest).mapM ofValue? with
      | some ps => .ok ps
      | none => .error ⟨context, .field field⟩
    | _ => .error ⟨context, .field field⟩

end Pattern
end TestSelection
