/-
# Asking for the plan on the terminal

With `--print` in front, the arguments ask for the same as without it, except that the plan is
printed (`Request.ofArguments_print`): the option has no value, takes none away from another one,
and changes nothing that another one sets.
-/

import TestSelection.Command.Options
import Mathlib.Tactic.SplitIfs

namespace TestSelection
namespace Command

namespace Options

/-- The same with the plan printed. -/
def printing (o : Options) : Options := { o with print := true }

variable (o : Options) (flag : Flag) (flags : List Flag) (text : String)

/-- A flag does the same to options that already print. The lemmas of this section say so of each
way in which an argument changes the options. -/
theorem turnOn_printing : o.printing.turnOn flag = (o.turnOn flag).map printing := by
  cases flag <;> rfl

/-- The flags of one argument, one after another. -/
theorem turnAllOn_printing : o.printing.turnAllOn flags = (o.turnAllOn flags).map printing := by
  induction flags generalizing o with
  | nil => rfl
  | cons flag flags ih =>
    rw [turnAllOn, turnAllOn, List.foldlM_cons, List.foldlM_cons, turnOn_printing]
    cases o.turnOn flag with
    | none => rfl
    | some next => exact ih next

/-- A value is set, or refused, whether or not the options print. -/
theorem setValue_printing :
    o.printing.setValue flag text = (o.setValue flag text).map printing := by
  cases flag with
  | lister =>
    rw [setValue, setValue]
    split_ifs <;> rfl
  | _ => rfl

/-- An argument that is a flag, flags in one word, or a flag with its value. -/
theorem give_printing : o.printing.give flags flag text =
    (o.give flags flag text).map (Option.map printing) := by
  rw [give, give, turnAllOn_printing]
  cases o.turnAllOn flags with
  | none => rfl
  | some next =>
    show (next.printing.setValue flag text).map some = _
    rw [setValue_printing]
    cases h : next.setValue flag text with
    | error mistake => simp [Except.map, h]
    | ok set => simp [Except.map, h]

end Options

/-- What is asked for, with the plan printed. -/
def Request.printing : Request → Request
  | .help => .help
  | .run o => .run o.printing

/-- The options are carried out in the same way. -/
theorem Options.ofWords_printing (extra : List String) : ∀ (o : Options) (words : List Word),
    o.printing.ofWords extra words = (o.ofWords extra words).map Request.printing
  | o, [] => by
    rw [ofWords, ofWords]
    split_ifs <;> rfl
  | o, .plain text :: rest => by
    rw [ofWords, ofWords]
    exact ofWords_printing _ o rest
  | o, .unknown text :: rest => by
    rw [ofWords, ofWords]
    exact ofWords_printing _ o rest
  | o, .option flag short value :: rest => by
    rw [ofWords, ofWords]
    cases cluster flag short (value.map (·.toList)) with
    | error mistake => rfl
    | ok found =>
      obtain ⟨before, last, value⟩ := found
      simp only [bind, Except.bind, give_printing, turnAllOn_printing]
      split_ifs with hv
      · cases o.turnAllOn (before ++ [last]) with
        | none => rfl
        | some next => exact ofWords_printing extra next rest
      · cases value with
        | some text =>
          simp only
          cases o.give before last text with
          | error mistake => rfl
          | ok given =>
            cases given with
            | none => rfl
            | some next => exact ofWords_printing extra next rest
        | none =>
          -- The value is the next argument, if that is no option.
          match rest with
          | .plain text :: rest =>
            simp only
            cases o.give before last text with
            | error mistake => rfl
            | ok given =>
              cases given with
              | none => rfl
              | some next => exact ofWords_printing extra next rest
          | [] | .unknown _ :: _ | .option _ _ _ :: _ => rfl
  termination_by _ words => words.length

/-- The words of a list of arguments with `--print` in front. -/
theorem words_print (arguments : List String) :
    words ("--print" :: arguments) = (words arguments).map (.option .print false none :: ·) := by
  have hword : Word.ofArgument "--print" = .ok (.option .print false none) := by rfl
  rw [words, hword]
  · cases words arguments <;> rfl
  · decide

/-- **Asking for the plan.**  With `--print` in front, the same is asked for, and the plan is to be
printed. -/
theorem Request.ofArguments_print (arguments : List String) :
    ofArguments ("--print" :: arguments) = (ofArguments arguments).map printing := by
  rw [ofArguments, ofArguments, words_print]
  cases words arguments with
  | error mistake => rfl
  | ok found =>
    have hfirst : Options.initial.ofWords [] (.option .print false none :: found) =
        Options.initial.printing.ofWords [] found := by
      rw [Options.ofWords, Option.map_none, cluster]
      rfl
    exact hfirst.trans (Options.ofWords_printing [] .initial found)

end Command
end TestSelection
