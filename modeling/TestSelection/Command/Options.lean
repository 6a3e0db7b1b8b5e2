/-
# Reading the arguments

Every argument is first looked at by itself (`Word.ofArgument`). It is an option by its full name,
by the start of one long name only, or as a dash with the letters of short options; the value of an
option follows after `=`, directly after its letter, or as the next argument. A word that begins
with a dash and is no option is a plain argument if it is a negative number or holds a space. After
`--` every argument is plain.

The options are then carried out in order (`Options.ofWords`), so that `--help` counts only before
the first mistake. There are no plain arguments to give: those that are left over are a mistake.
-/

import TestSelection.Text.DecimalDigit
import TestSelection.Text.Quoted

namespace TestSelection
namespace Command

/-- An option. -/
inductive Flag where
  | help
  | profile
  | defaultProfile
  | root
  | output
  | lister
  | respectIgnore
  | print
  | verbose
  | version
  deriving DecidableEq

namespace Flag

/-- The names of the options, in the order in which messages list them. -/
def names : List (String × Flag) := [
  ("-h", .help), ("--help", .help), ("-p", .profile), ("--profile", .profile),
  ("--default-profile", .defaultProfile), ("-r", .root), ("--root", .root), ("-o", .output),
  ("--output", .output), ("--lister", .lister), ("--respect-gitignore", .respectIgnore),
  ("--print", .print), ("-v", .verbose), ("--verbose", .verbose), ("--version", .version)]

/-- The option with a name. -/
def ofName? (name : String) : Option Flag := names.lookup name

/-- What messages call an option: all its names. -/
def label (flag : Flag) : String :=
  "/".intercalate ((names.filter (·.2 == flag)).map (·.1))

/-- Whether an option has a value. -/
def takesValue : Flag → Bool
  | .profile => true
  | .defaultProfile => true
  | .root => true
  | .output => true
  | .lister => true
  | _ => false

end Flag

/-- A mistake in the arguments. -/
inductive Mistake where
  | ambiguous (word : String) (names : List String)
  | missingValue (flag : Flag)
  | needlessValue (flag : Flag) (value : String)
  | badChoice (flag : Flag) (value : String) (choices : List String)
  | unrecognized (words : List String)
  deriving DecidableEq

/-- A mistake about one option. -/
def about (flag : Flag) (text : String) : String := "argument " ++ flag.label ++ ": " ++ text

/-- What is wrong with the arguments. -/
def Mistake.message : Mistake → String
  | .ambiguous word names =>
    "ambiguous option: " ++ word ++ " could match " ++ ", ".intercalate names
  | .missingValue flag => about flag "expected one argument"
  | .needlessValue flag value => about flag ("ignored explicit argument " ++ Text.quoted value)
  | .badChoice flag value choices =>
    about flag ("invalid choice: " ++ Text.quoted value ++ " (choose from " ++
      ", ".intercalate (choices.map fun (choice : String) => Text.quoted choice) ++ ")")
  | .unrecognized words => "unrecognized arguments: " ++ " ".intercalate words

/-! ## Words -/

/-- An argument by itself. -/
inductive Word where
  | plain (text : String)
  /-- An option, by a short name or a long one, perhaps with what follows its name. -/
  | option (flag : Flag) (short : Bool) (rest : Option String)
  | unknown (text : String)
  deriving DecidableEq

/-- The text of a word before the first `=`, and after it if there is one. -/
def cutAtEquals (word : String) : String × Option String :=
  let cs := word.toList
  match cs.dropWhile (· != '=') with
  | [] => (word, none)
  | _ :: rest => (String.ofList (cs.takeWhile (· != '=')), some (String.ofList rest))

/-- Whether some characters are decimal digits, and at least one. -/
def areDigits (cs : List Char) : Bool := !cs.isEmpty && cs.all Text.isDecimal

/-- Whether a word that begins with a dash is a negative number. A line end after it does not
count. -/
def isNegativeNumber (word : String) : Bool :=
  match word.toList with
  | '-' :: rest =>
    let size := if rest.getLast? = some '\n' then rest.dropLast else rest
    areDigits size ||
      match size.dropWhile Text.isDecimal with
      | '.' :: fraction => areDigits fraction
      | _ => false
  | _ => false

/-- Whether a name is that of a short option. -/
def isShort (name : String) : Bool := name.toList[1]? != some '-'

/-- The options that a word may mean by an incomplete long name or by a letter. -/
def candidates (word : String) : List (String × Word) :=
  if isShort word then
    let letter := String.ofList (word.toList.take 2)
    match Flag.ofName? letter with
    | some flag => [(letter, .option flag true (some (String.ofList (word.toList.drop 2))))]
    | none => []
  else
    let (start, rest) := cutAtEquals word
    (Flag.names.filter fun (name, _) => start.toList.isPrefixOf name.toList).map
      fun (name, flag) => (name, .option flag (isShort name) rest)

/-- What a word that begins with a dash means if it is no option. -/
def Word.ofOther (word : String) : Word :=
  if isNegativeNumber word || word.toList.contains ' ' then .plain word else .unknown word

/-- What an argument means by itself. -/
def Word.ofArgument (word : String) : Except Mistake Word :=
  if word.toList.head? ≠ some '-' then .ok (.plain word)
  else
    match Flag.ofName? word with
    | some flag => .ok (.option flag (isShort word) none)
    | none =>
      if word = "-" then .ok (.plain word)
      else
        let (name, rest) := cutAtEquals word
        match rest.bind fun _ => Flag.ofName? name with
        | some flag => .ok (.option flag (isShort name) rest)
        | none =>
          match candidates word with
          | [] => .ok (Word.ofOther word)
          | [(_, found)] => .ok found
          | found => .error (.ambiguous word (found.map (·.1)))

/-- What the arguments mean, each by itself. -/
def words : List String → Except Mistake (List Word)
  | [] => .ok []
  | "--" :: rest => .ok (.unknown "--" :: rest.map .plain)
  | word :: rest => do
    let first ← Word.ofArgument word
    let others ← words rest
    return first :: others

/-! ## Options -/

/-- How files are listed. -/
inductive Lister where
  | walk
  | find
  deriving DecidableEq

/-- What is asked for. A value that is given as `--` after `=` is none. -/
structure Options where
  profile : Option String
  defaultProfile : Option String
  root : Option String
  output : Option String
  lister : Lister
  respectIgnore : Bool
  print : Bool
  verbose : Bool
  version : Bool
  deriving DecidableEq

/-- What is asked for without any argument. -/
def Options.initial : Options :=
  ⟨none, none, some ".", some "test_list.json", .walk, false, false, false, false⟩

/-- What the arguments ask for. -/
inductive Request where
  | help
  | run (options : Options)
  deriving DecidableEq

/-- Several short options in one word: those without a value, and the last one with what follows
it. -/
def cluster (flag : Flag) (short : Bool) :
    Option (List Char) → Except Mistake (List Flag × Flag × Option String)
  | none => .ok ([], flag, none)
  | some rest =>
    if flag.takesValue then .ok ([], flag, some (String.ofList rest))
    else if !short then .error (.needlessValue flag (String.ofList rest))
    else
      match rest with
      | [] => .error (.needlessValue flag "")
      | letter :: more =>
        match Flag.ofName? (String.ofList ['-', letter]) with
        | none => .error (.needlessValue flag (String.ofList rest))
        | some next =>
          (cluster next true (if more.isEmpty then none else some more)).map
            fun (before, last) => (flag :: before, last)
termination_by rest => rest.elim 0 (·.length + 1)
decreasing_by
  split <;> simp

/-- Turns an option without a value on; asking for help ends the reading. -/
def Options.turnOn (o : Options) : Flag → Option Options
  | .help => none
  | .respectIgnore => some { o with respectIgnore := true }
  | .print => some { o with print := true }
  | .verbose => some { o with verbose := true }
  | .version => some { o with version := true }
  | _ => some o

/-- Turns some options without a value on, in order. -/
def Options.turnAllOn (o : Options) (flags : List Flag) : Option Options :=
  flags.foldlM Options.turnOn o

/-- Sets the value of an option; a text that is `--` is none. -/
def Options.setValue (o : Options) (flag : Flag) (text : String) : Except Mistake Options :=
  let value := if text = "--" then none else some text
  match flag with
  | .profile => .ok { o with profile := value }
  | .defaultProfile => .ok { o with defaultProfile := value }
  | .root => .ok { o with root := value }
  | .output => .ok { o with output := value }
  | .lister =>
    if value = none ∨ text = "walk" then .ok { o with lister := .walk }
    else if text = "find" then .ok { o with lister := .find }
    else .error (.badChoice .lister text ["walk", "find"])
  | _ => .ok o

/-- Turns some options on and then sets the value of one; nothing is left if they ask for help. -/
def Options.give (o : Options) (before : List Flag) (flag : Flag) (text : String) :
    Except Mistake (Option Options) :=
  match o.turnAllOn before with
  | none => .ok none
  | some o => (o.setValue flag text).map some

/-- Carries the options out in order; `extra` are the arguments so far that are no options. -/
def Options.ofWords (o : Options) (extra : List String) : List Word → Except Mistake Request
  | [] => if extra.isEmpty then .ok (.run o) else .error (.unrecognized extra)
  | .plain text :: rest => o.ofWords (extra ++ [text]) rest
  | .unknown text :: rest => o.ofWords (extra ++ [text]) rest
  | .option flag short value :: rest => do
    let (before, last, value) ← cluster flag short (value.map (·.toList))
    if !last.takesValue then
      match o.turnAllOn (before ++ [last]) with
      | none => return .help
      | some o => o.ofWords extra rest
    else
      match value with
      | some text =>
        match ← o.give before last text with
        | none => return .help
        | some o => o.ofWords extra rest
      | none =>
        match rest with
        | .plain text :: rest =>
          match ← o.give before last text with
          | none => return .help
          | some o => o.ofWords extra rest
        | _ => throw (.missingValue last)

/-- What the arguments ask for. -/
def Request.ofArguments (arguments : List String) : Except Mistake Request := do
  Options.initial.ofWords [] (← words arguments)

end Command
end TestSelection
