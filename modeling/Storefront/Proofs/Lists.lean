import Mathlib.Algebra.BigOperators.Group.List.Basic
import Mathlib.Algebra.Order.BigOperators.Group.List
import Mathlib.Algebra.Order.Group.Int
import Mathlib.Algebra.Ring.Int.Defs
import Mathlib.Data.List.Range
import Mathlib.Data.List.Sort
import Storefront.Sorting

/-!
Lists, beside what the library knows of them. Sorting by insertion is the library's, so that a
sorted list is a permutation of the one it comes from and ascends by every total preorder.
-/

namespace Storefront

variable {α : Type}

section Sorting

variable {le : α → α → Bool} {x : α} {xs : List α}

theorem insertBy_eq_orderedInsert :
    insertBy le x xs = xs.orderedInsert (fun a b => le a b) x := by
  induction xs with
  | nil => rfl
  | cons y rest ih => rw [insertBy, List.orderedInsert_cons, ih]

theorem sortBy_eq_insertionSort : sortBy le xs = xs.insertionSort fun a b => le a b :=
  congrArg (List.foldr · [] xs) (funext fun _ => funext fun _ => insertBy_eq_orderedInsert)

theorem sortBy_perm (le : α → α → Bool) (xs : List α) : (sortBy le xs).Perm xs :=
  sortBy_eq_insertionSort ▸ List.perm_insertionSort _ xs

@[simp] theorem mem_sortBy : x ∈ sortBy le xs ↔ x ∈ xs :=
  (sortBy_perm le xs).mem_iff

theorem sortBy_eq_nil : sortBy le xs = [] ↔ xs = [] := by
  rw [← List.length_eq_zero_iff, (sortBy_perm le xs).length_eq, List.length_eq_zero_iff]

theorem pairwise_sortBy (trans : ∀ a b c, le a b → le b c → le a c)
    (total : ∀ a b, le a b ∨ le b a) (xs : List α) : (sortBy le xs).Pairwise fun a b => le a b := by
  have : IsTrans α fun a b => le a b := ⟨trans⟩
  have : Std.Total fun a b : α => (le a b : Prop) := ⟨total⟩
  exact sortBy_eq_insertionSort ▸ List.pairwise_insertionSort _ xs

end Sorting

/-- Pieces of one length, one after the other, are the list up to where they end. -/
theorem flatMap_pieces (xs : List α) (size count : Nat) :
    (List.range count).flatMap (fun i => (xs.drop (i * size)).take size) =
      xs.take (count * size) := by
  induction count with
  | zero => simp
  | succ count ih =>
    rw [List.range_succ, List.flatMap_append, ih, List.flatMap_singleton, Nat.succ_mul,
      List.take_add]

/-- Adding up one element after the other is the sum. -/
theorem foldr_add_eq_sum (f : α → Int) (xs : List α) :
    xs.foldr (fun x rest => f x + rest) 0 = (xs.map f).sum :=
  List.foldr_map.symm

/-- A sum over chosen elements is one over all, to which the others add nothing. -/
theorem sum_map_filter (f : α → Int) (q : α → Bool) (xs : List α) :
    ((xs.filter q).map f).sum = (xs.map fun x => if q x then f x else 0).sum := by
  rw [List.sum_map_ite]
  simp

end Storefront
