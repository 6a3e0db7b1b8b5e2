/-
# Cutting off the ends

What is left of a list without the members at one end, or at both, that pass a test.
-/

namespace TestSelection
namespace Text

/-- A list without the members at its back that pass a test. -/
def trimBack {α : Type} (p : α → Bool) (xs : List α) : List α := (xs.reverse.dropWhile p).reverse

/-- A list without the members at both ends that pass a test. -/
def trim {α : Type} (p : α → Bool) (xs : List α) : List α := trimBack p (xs.dropWhile p)

/-- Nothing is left of nothing. -/
@[simp] theorem trimBack_nil {α : Type} (p : α → Bool) : trimBack p [] = [] := rfl

end Text
end TestSelection
