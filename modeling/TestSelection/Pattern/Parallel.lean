/-
# Parallel commands

A command that is a mapping with `mode: parallel` names its own files: `files` holds its patterns
and `prefix` perhaps a directory that scopes them. Expanding the command (`expand`) adds, under
`files_expanded`, the paths that the patterns select. All other commands are left alone.

Messages show the whole command, so one that cannot be shown is at fault before anything else about
it is (`PatternError.longInteger`).
-/

import TestSelection.Pattern.Sequence

namespace TestSelection

/-- Why patterns cannot be used. -/
inductive PatternError where
  | misshapen (m : Misshapen)
  | rejected (r : Glob.Rejection)
  /-- A message would have to show a whole number of too many digits. -/
  | longInteger

/-- What is wrong with the patterns. -/
def PatternError.message : PatternError → Text
  | .misshapen m => m.message
  | .rejected r => r.message
  | .longInteger => Text.tooLong

/-- The error for a declaration that cannot be read. A pattern is shown in its message, if that is
possible. -/
def Misshapen.report (m : Misshapen) : PatternError :=
  match m.subject with
  | .pattern raw => if raw.hasLongInteger then .longInteger else .misshapen m
  | .field _ => .misshapen m

/-- Reports a declaration that cannot be read as an error of patterns. -/
def Misshapen.lift {α : Type} (result : Except Misshapen α) : Except PatternError α :=
  result.mapError Misshapen.report

/-- Reports a rejected glob as an error of patterns. -/
def Glob.Rejection.lift {α : Type} (result : Except Glob.Rejection α) : Except PatternError α :=
  result.mapError .rejected

namespace Parallel

/-- Whether a command names files of its own. -/
def isParallel : Value → Bool
  | .map entries =>
    match Entries.field? entries "mode" with
    | some (.str mode) => mode == Text.ofString "parallel"
    | _ => false
  | _ => false

/-- What messages call a command. -/
def context (entries : Entries) : Text :=
  "parallel test config " ++ (Value.map entries).literal

/-- The directory that scopes the files of a command. -/
def directory (entries : Entries) : Except Misshapen (Option Text) :=
  match entries.field? "prefix" with
  | none => .ok none
  | some .null => .ok none
  | some (.str d) => .ok (some d)
  | some _ => .error ⟨context entries, .field "prefix"⟩

/-- The patterns of a command that messages can show, compiled. -/
def sequence (entries : Entries) : Except PatternError Sequence :=
  if (Value.map entries).hasLongInteger then .error .longInteger
  else do
    let raw := (entries.field? "files").getD .null
    let patterns ← Misshapen.lift (Pattern.ofField (context entries) "files" raw)
    let scope ← Misshapen.lift (directory entries)
    Glob.Rejection.lift (Sequence.compile patterns scope)

/-- A command with the paths that its patterns select. -/
def expandEntries (paths : List String) (entries : Entries) : Except PatternError Entries := do
  let s ← sequence entries
  return entries.put (.str "files_expanded") (.ofStrings (s.select paths))

/-- A command, expanded if it is parallel. -/
def expand (paths : List String) (command : Value) : Except PatternError Value :=
  match command with
  | .map entries =>
    if isParallel (.map entries) then (expandEntries paths entries).map .map else .ok command
  | _ => .ok command

/-- Expands commands in order, up to the first whose patterns cannot be used. -/
def expandAll (paths : List String) : List Value → Except PatternError (List Value)
  | [] => .ok []
  | command :: rest => do
    let expanded ← expand paths command
    let others ← expandAll paths rest
    return expanded :: others

/-- The parallel ones among some commands. -/
def parallelOnly (commands : List Value) : List Value := commands.filter isParallel

end Parallel
end TestSelection
