/-!
Stable sorting by insertion: rows that compare equal keep the order they came in.
-/

namespace Storefront

/-- Puts `x` before the first element that it may precede. -/
def insertBy {α : Type} (le : α → α → Bool) (x : α) : List α → List α
  | [] => [x]
  | y :: rest => if le x y then x :: y :: rest else y :: insertBy le x rest

def sortBy {α : Type} (le : α → α → Bool) (xs : List α) : List α :=
  xs.foldr (insertBy le) []

example : sortBy (fun a b => a.1 ≤ b.1) [(2, 'a'), (1, 'b'), (2, 'c'), (1, 'd')] =
    [(1, 'b'), (1, 'd'), (2, 'a'), (2, 'c')] := by decide

end Storefront
