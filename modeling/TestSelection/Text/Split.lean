/-
# Cutting at a character

`split` cuts a list at every occurrence of a member, such as a text at a character: there is one
part more than there are occurrences, and no part holds the member (`not_mem_of_mem_split`).
-/

namespace TestSelection
namespace Text

variable {α : Type} [DecidableEq α]

/-- The parts of a list between the occurrences of a member. -/
def split (sep : α) : List α → List (List α)
  | [] => [[]]
  | c :: rest =>
    if c = sep then [] :: split sep rest
    else
      match split sep rest with
      | [] => [[c]]
      | part :: parts => (c :: part) :: parts

/-- Splitting leaves at least one part, also of nothing. -/
theorem split_ne_nil (sep : α) (cs : List α) : split sep cs ≠ [] := by
  fun_induction split sep cs <;> simp

/-- Where there is nothing to cut at, the list is the one part. -/
theorem split_of_not_mem {sep : α} {cs : List α} (h : sep ∉ cs) : split sep cs = [cs] := by
  induction cs with
  | nil => rfl
  | cons c rest ih =>
    rw [List.mem_cons, not_or] at h
    rw [split, if_neg (Ne.symm h.1), ih h.2]

/-- No part holds the member that the list is cut at. -/
theorem not_mem_of_mem_split {sep : α} {cs part : List α} (h : part ∈ split sep cs) :
    sep ∉ part := by
  fun_induction split sep cs generalizing part with
  | case1 =>
    rw [List.mem_singleton.1 h]
    exact List.not_mem_nil
  | case2 rest ih =>
    rcases List.mem_cons.1 h with rfl | h
    · exact List.not_mem_nil
    · exact ih h
  | case3 c rest _ hnil => exact absurd hnil (split_ne_nil sep rest)
  | case4 c rest hc first parts hs ih =>
    rw [hs] at ih
    rcases List.mem_cons.1 h with rfl | h
    · rw [List.mem_cons, not_or]
      exact ⟨Ne.symm hc, ih List.mem_cons_self⟩
    · exact ih (List.mem_cons_of_mem _ h)

end Text
end TestSelection
