/-
# Reading a plan back

The JSON text of a plan is read as the plan again (`Plan.read_json`), so plans with one text are one
plan. This holds for commands of JSON's own kinds of values as far as whole numbers have at most
`Text.mostDigits` digits, and lists and mappings are at most `Json.deepest` levels inside each
other, two of which are the plan's own. Both bounds are needed (`Plan.json_not_read_of_large`).
-/

import TestSelection.Plan.Basic
import TestSelection.Proofs.Json.Values

namespace TestSelection

namespace Json

variable {levels level depth steps n : Nat} {v : Value} {text rest : List Char}

/-- A document with a line end at its end is read as the value that it is a text of. -/
theorem read_of_writes (h : Writes levels v text) (hlevels : levels ≤ deepest) :
    read (String.ofList text ++ "\n") = .ok v := by
  have hchars : (String.ofList text ++ "\n").toList = text ++ ['\n'] := by simp
  have hlength : text.length ≤ (text ++ ['\n']).length + 1 := by
    rw [List.length_append]
    omega
  have hread : readValue 0 ((text ++ ['\n']).length + 1) (text ++ ['\n']) = .ok (v, ['\n']) :=
    h.reads (by omega) hlength fun c hc => .inr (Option.some.inj hc).symm
  rw [read, hchars, h.opens.skipSpace_eq]
  simp only [bind, Except.bind, hread]
  rfl

/-! ## Values that are too large -/

/-- A number of too many digits is not written. -/
theorem integer_of_le {i : Int} (h : 10 ^ Text.mostDigits ≤ i.natAbs) :
    integer i = .error .longInteger := if_pos (Text.lt_length_toDigits_iff.2 h)

/-- Lists inside each other, one below the other; the innermost is empty. -/
def nested : Nat → Value
  | 0 => .list []
  | n + 1 => .list [nested n]

/-- Lists inside each other are JSON of as many levels. -/
theorem isJson_nested (n : Nat) : (nested n).IsJson (n + 1) := by
  induction n with
  | zero => exact .list nofun
  | succ n ih => exact .list (List.forall_mem_singleton.2 ih)

/-- A list that has too much inside of it is not read, however much of it is there to read. -/
theorem readValue_nested (hdeep : deepest ≤ depth + n) (htext : render level (nested n) = .ok text)
    (hsteps : text.length ≤ steps) :
    readValue depth steps (text ++ rest) = .error (.tooDeep false) := by
  induction n generalizing depth level text steps rest with
  | zero =>
    rw [nested, render] at htext
    obtain rfl := Except.ok.inj htext
    have htwo : 2 ≤ steps := hsteps
    obtain ⟨fewer, rfl⟩ : ∃ fewer, steps = fewer + 1 := ⟨steps - 1, by omega⟩
    rw [List.cons_append, readValue, if_pos (by omega)]
  | succ n ih =>
    obtain ⟨inner, hinner, hwrites⟩ := exists_writes (isJson_nested n) (level + 1)
    rw [nested, render, renderItems, hinner] at htext
    obtain rfl : '[' :: (newLine (level + 1) ++ inner) ++ newLine level ++ [']'] = text :=
      Except.ok.inj htext
    have hlength : inner.length + 1 ≤ (newLine (level + 1) ++ inner).length := length_line
    simp only [List.length_append, List.length_cons, List.length_nil] at hsteps hlength
    obtain ⟨fewer, rfl⟩ : ∃ fewer, steps = fewer + 1 + 1 := ⟨steps - 2, by omega⟩
    have hshape : '[' :: (newLine (level + 1) ++ inner) ++ newLine level ++ [']'] ++ rest =
        '[' :: (newLine (level + 1) ++ inner ++ (newLine level ++ ']' :: rest)) := by simp
    rw [hshape, readValue]
    -- The list itself may be too deep, and otherwise the one in it is read with one level less
    -- left.
    by_cases hdepth : deepest ≤ depth
    · rw [if_pos hdepth]
    · have hread : readValue (depth + 1) fewer (inner ++ (newLine level ++ ']' :: rest)) =
          .error (.tooDeep false) := ih (by omega) hinner (by omega)
      rw [if_neg hdepth, skipSpace_line hwrites.opens]
      obtain ⟨c, cs, rfl, -, hclosing, -⟩ := hwrites.opens
      rw [List.cons_append] at hread ⊢
      split
      · next heq => exact absurd (List.cons.inj heq).1 hclosing
      · rw [readItems, hread]
        rfl

end Json

namespace Plan

open Json

variable {plan other : Plan} {levels : Nat}

/-- A plan is JSON of two levels more than its commands: the mapping of the plan, and its lists. -/
theorem isJson_toValue (h : ∀ command ∈ plan.commands, command.IsJson levels) :
    plan.toValue.IsJson (levels + 2) := by
  refine .map ?_ ?_ ?_
  · intro entry hentry
    rcases List.mem_cons.1 hentry with rfl | hentry
    · exact ⟨"tests", rfl⟩
    · rw [List.mem_singleton.1 hentry]
      exact ⟨"commands", rfl⟩
  · have hne : Value.str "tests" ≠ Value.str "commands" := fun he =>
      absurd (Text.ofString_inj.1 (Value.str.inj he)) (by decide)
    exact List.nodup_cons.2
      ⟨fun hmem => hne (List.mem_singleton.1 hmem), List.nodup_cons.2 ⟨nofun, List.nodup_nil⟩⟩
  · intro entry hentry
    rcases List.mem_cons.1 hentry with rfl | hentry
    · refine .list fun item hitem => ?_
      obtain ⟨s, -, rfl⟩ := List.mem_map.1 hitem
      exact .str s
    · rw [List.mem_singleton.1 hentry]
      exact .list h

/-- A plan is told by its value. The fields have fixed places, and a list of tests is told by the
texts in it. -/
theorem toValue_inj (h : plan.toValue = other.toValue) : plan = other := by
  obtain ⟨tests, commands⟩ := plan
  obtain ⟨tests', commands'⟩ := other
  have hentries := Value.map.inj h
  simp only [List.cons.injEq, Prod.mk.injEq, true_and, and_true] at hentries
  have htests : tests = tests' :=
    (List.map_inj_right fun _ _ hs => Text.ofString_inj.1 (Value.str.inj hs)).1
      (Value.list.inj hentries.1)
  rw [htests, Value.list.inj hentries.2]

/-- **The JSON text of a plan, read, gives the plan.** Plans whose commands are of JSON's own kinds,
with whole numbers of few enough digits and no deeper than can be read, have a text. It holds
printable ASCII and line ends only, with a line end at its end, and is that of no other such
plan. -/
theorem read_json (h : ∀ command ∈ plan.commands, command.IsJson (deepest - 2)) :
    ∃ text, plan.json = .ok text ∧
      (∀ c ∈ text.toList, IsPrinted c ∨ c = '\n') ∧ text.toList.getLast? = some '\n' ∧
      Json.read text = .ok plan.toValue ∧
      ∀ other : Plan, (∀ command ∈ other.commands, command.IsJson (deepest - 2)) →
        other.json = .ok text → other = plan := by
  have hjson : ∀ {p : Plan}, (∀ command ∈ p.commands, command.IsJson (deepest - 2)) →
      ∃ chars, p.json = .ok (String.ofList chars ++ "\n") ∧ Writes deepest p.toValue chars := by
    intro p hp
    obtain ⟨chars, hchars, hwrites⟩ := exists_writes (isJson_toValue hp) 0
    refine ⟨chars, ?_, hwrites⟩
    rw [Plan.json, Json.text, hchars]
    rfl
  obtain ⟨chars, htext, hwrites⟩ := hjson h
  have hread := read_of_writes hwrites (Nat.le_refl _)
  have hends : (String.ofList chars ++ "\n").toList = chars ++ ['\n'] := by simp
  refine ⟨_, htext, ?_, ?_, hread, ?_⟩
  · intro c hc
    rw [hends] at hc
    rcases List.mem_append.1 hc with hc | hc
    · exact hwrites.written c hc
    · exact .inr (List.mem_singleton.1 hc)
  · rw [hends, List.getLast?_append]
    rfl
  · intro other hother hsame
    obtain ⟨chars', htext', hwrites'⟩ := hjson hother
    have hread' := read_of_writes hwrites' (Nat.le_refl _)
    -- Two plans with one text are both what this text is read as.
    have hone : String.ofList chars' ++ "\n" = String.ofList chars ++ "\n" :=
      Except.ok.inj (htext'.symm.trans hsame)
    rw [hone, hread] at hread'
    exact toValue_inj (Except.ok.inj hread').symm

/-- A plan with a command that has a letter beyond ASCII, a number and an empty list. -/
def sample : Plan :=
  ⟨["a/é.py"],
    [.map [(.str "mode", .str "parallel"), (.str "n", .int (-12)), (.str "x", .list [])]]⟩

/-- A plan with a file name that is not ASCII is written and read back. -/
theorem read_json_sample :
    ∃ text, sample.json = .ok text ∧ Json.read text = .ok sample.toValue := by
  have htwelve : (-12 : Int).natAbs < 10 ^ Text.mostDigits :=
    Nat.lt_of_lt_of_le (by decide : 12 < 10 ^ 2) (Nat.pow_le_pow_right (by decide) (by decide))
  have hcommands : ∀ command ∈ sample.commands, command.IsJson (deepest - 2) := by
    refine List.forall_mem_singleton.2 (.map ?_ ?_ ?_)
    · exact List.forall_mem_cons.2 ⟨⟨"mode", rfl⟩, List.forall_mem_cons.2 ⟨⟨"n", rfl⟩,
        List.forall_mem_singleton.2 ⟨"x", rfl⟩⟩⟩
    · simp
    · exact List.forall_mem_cons.2 ⟨.str "parallel", List.forall_mem_cons.2
        ⟨.int htwelve, List.forall_mem_singleton.2 (.list nofun)⟩⟩
  obtain ⟨text, htext, -, -, hread, -⟩ := read_json hcommands
  exact ⟨text, htext, hread⟩

/-! ## Plans that are too large -/

/-- A whole number that has no text leaves the plan without one. -/
theorem json_of_integer {i : Int} (h : integer i = .error .longInteger) :
    Plan.json ⟨[], [.map [(.str "n", .int i)]]⟩ = .error .longInteger := by
  rw [Plan.json, Json.text, toValue, Value.ofStrings, List.map_nil]
  simp only [render, renderEntries, renderItems, key, h, bind, Except.bind, Except.map]

/-- What follows the comma after the tests in the text of a plan whose list of commands has the text
`inner`. -/
def afterComma (inner : List Char) : List Char :=
  newLine 1 ++ (string "commands" ++ ':' :: ' ' :: inner ++ (newLine 0 ++ ['\x7d', '\n']))

/-- What follows the opening brace, if the plan has no tests. -/
def afterBrace (inner : List Char) : List Char :=
  newLine 1 ++ (string "tests" ++ ':' :: ' ' :: ['[', ']'] ++ ',' :: afterComma inner)

/-- The text of a plan that has no tests and one command, lists inside each other. -/
theorem json_of_nested {n : Nat} {inner : List Char} (h : render 1 (nested (n + 1)) = .ok inner) :
    Plan.json ⟨[], [nested n]⟩ = .ok (String.ofList ('\x7b' :: afterBrace inner)) := by
  have htests : render 1 (Value.list []) = .ok ['[', ']'] := by rw [render]
  rw [nested] at h
  rw [Plan.json, Json.text, toValue, Value.ofStrings, List.map_nil, render, renderEntries,
    renderEntries, htests, h]
  · simp only [key, bind, Except.bind, pure, Except.pure, Except.map, afterBrace, afterComma]
    refine congrArg Except.ok (String.toList_inj.1 ?_)
    simp
  · exact List.cons_ne_nil _ _

/-- No tests are written as two brackets. -/
theorem writes_nil : Writes 1 (.list []) ['[', ']'] := by
  have hjson : Value.IsJson 1 (.list []) := .list (List.forall_mem_nil _)
  obtain ⟨text, htext, hwrites⟩ := exists_writes hjson 0
  rw [render] at htext
  exact Except.ok.inj htext ▸ hwrites

/-- A fault in the list of commands is the fault of the whole text. The tests are read before it,
and the commands stand one level deep in the plan. -/
theorem read_of_fault {inner : List Char} {fault : Json.Fault} (hopens : Opens inner)
    (h : ∀ steps, inner.length ≤ steps → ∀ rest,
      readValue 1 steps (inner ++ rest) = .error fault) :
    Json.read (String.ofList ('\x7b' :: afterBrace inner)) = .error fault := by
  obtain ⟨steps, hsteps⟩ : ∃ steps, (afterBrace inner).length = steps + 1 := ⟨_, rfl⟩
  have hlength : inner.length + 1 ≤ steps := by
    simp only [afterBrace, afterComma, List.length_append, List.length_cons] at hsteps
    omega
  have hinside : 1 ≤ inner.length := by
    obtain ⟨c, cs, rfl, -⟩ := hopens
    exact Nat.le_add_left 1 cs.length
  have htwo : ['[', ']'].length ≤ steps + 1 := show 2 ≤ steps + 1 by omega
  have hcommands : readEntries 1 (steps + 1) (skipSpace (afterComma inner)) = .error fault := by
    rw [afterComma, skipSpace_newLine]
    exact readEntries_of_fault "commands" hopens.skipSpace_eq (h steps (by omega) _)
  have htests : readEntries 1 ((afterBrace inner).length + 1)
      (string "tests" ++ ':' :: ' ' :: ['[', ']'] ++ ',' :: afterComma inner) = .error fault := by
    rw [hsteps, (readEntries_line "tests" writes_nil (by decide) htwo (stops_comma _)).2 _
      (skipSpace_cons_of_not (by decide)), hcommands]
    rfl
  have hskip : skipSpace (afterBrace inner) =
      string "tests" ++ ':' :: ' ' :: ['[', ']'] ++ ',' :: afterComma inner := by
    rw [afterBrace, skipSpace_newLine]
    rfl
  rw [Json.read, String.toList_ofList, skipSpace_cons_of_not (by decide), List.length_cons,
    readValue, if_neg (by decide), hskip]
  show (Except.map _ (readEntries 1 ((afterBrace inner).length + 1) (string "tests" ++ _ ++ _)) >>=
    _) = _
  rw [htests]
  rfl

/-- A list that has too much inside of it leaves the plan unread. -/
theorem read_of_nested {n : Nat} (h : deepest ≤ n + 2) :
    ∃ text, Plan.json ⟨[], [nested n]⟩ = .ok text ∧ Json.read text = .error (.tooDeep false) := by
  obtain ⟨inner, hinner, hwrites⟩ := exists_writes (isJson_nested (n + 1)) 1
  refine ⟨_, json_of_nested hinner, read_of_fault hwrites.opens fun steps hsteps rest => ?_⟩
  exact readValue_nested (by omega) hinner hsteps

/-- A plan with a whole number of one digit too many has no text, and one with lists too deep inside
each other has a text that is not read. -/
theorem json_not_read_of_large :
    Plan.json ⟨[], [.map [(.str "n", .int (10 ^ Text.mostDigits))]]⟩ = .error .longInteger ∧
      ∃ text, Plan.json ⟨[], [nested (deepest - 2)]⟩ = .ok text ∧
        Json.read text = .error (.tooDeep false) := by
  have hten : (10 : Int).natAbs = 10 := rfl
  have hpow : ((10 : Int) ^ Text.mostDigits).natAbs = 10 ^ Text.mostDigits := by
    rw [Int.natAbs_pow, hten]
  exact ⟨json_of_integer (integer_of_le (Nat.le_of_eq hpow.symm)), read_of_nested (by decide)⟩

end Plan
end TestSelection
