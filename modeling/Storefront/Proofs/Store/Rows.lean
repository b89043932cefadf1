import Mathlib.Data.List.Nodup
import Mathlib.Data.List.Perm.Subperm
import Mathlib.Tactic.Common
import Storefront.Proofs.Lists
import Storefront.Store.Tables

/-!
Rows of a table with a key. Rows keep their keys when they are changed, so that the row of a key is
found as before, and a change of one row changes a sum over the rows by what that row gains.
-/

namespace Storefront

variable {α κ : Type} {p q : α → Bool} {f : α → α} {rows : List α}

section Update

theorem mem_updateWhere {x : α} :
    x ∈ updateWhere p f rows ↔ ∃ row ∈ rows, x = if p row then f row else row := by
  rw [updateWhere, List.mem_map]
  simp only [eq_comm]

@[simp] theorem updateWhere_nil : updateWhere p f [] = [] := rfl

@[simp] theorem updateWhere_cons (row : α) (rest : List α) :
    updateWhere p f (row :: rest) = (if p row then f row else row) :: updateWhere p f rest := rfl

/-- Changes that do the same to the same rows. -/
theorem updateWhere_congr {q : α → Bool} {g : α → α}
    (hp : ∀ row ∈ rows, p row = q row) (h : ∀ row ∈ rows, p row → f row = g row) :
    updateWhere p f rows = updateWhere q g rows := by
  refine List.map_congr_left fun row hrow => ?_
  rw [← hp row hrow]
  by_cases hsame : p row
  · rw [if_pos hsame, if_pos hsame, h row hrow hsame]
  · rw [if_neg hsame, if_neg hsame]

theorem updateWhere_append (front back : List α) :
    updateWhere p f (front ++ back) = updateWhere p f front ++ updateWhere p f back :=
  List.map_append

theorem updateWhere_eq_self (h : ∀ row ∈ rows, p row = false) : updateWhere p f rows = rows := by
  induction rows with
  | nil => rfl
  | cons row rest ih =>
    rw [updateWhere_cons, ih fun other hother => h other (List.mem_cons_of_mem row hother)]
    simp [h row List.mem_cons_self]

/-- Changes that keep a key keep the list of the keys. -/
theorem map_updateWhere {key : α → κ} (h : ∀ row, key (f row) = key row) :
    (updateWhere p f rows).map key = rows.map key := by
  induction rows with
  | nil => rfl
  | cons row rest ih =>
    rw [updateWhere_cons, List.map_cons, ih, List.map_cons]
    split <;> simp [h]

/-- A change that a search does not see changes the row that is found. -/
theorem find?_updateWhere (h : ∀ row, q (f row) = q row) :
    (updateWhere p f rows).find? q =
      (rows.find? q).map fun row => if p row then f row else row := by
  induction rows with
  | nil => rfl
  | cons row rest ih =>
    have hq : q (if p row then f row else row) = q row := by split <;> simp [h]
    rw [updateWhere_cons, List.find?_cons, List.find?_cons, hq, ih]
    split <;> rfl

theorem filter_updateWhere (h : ∀ row, q (f row) = q row) :
    (updateWhere p f rows).filter q = updateWhere p f (rows.filter q) := by
  induction rows with
  | nil => rfl
  | cons row rest ih =>
    have hq : q (if p row then f row else row) = q row := by split <;> simp [h]
    rw [updateWhere_cons, List.filter_cons, List.filter_cons, hq, ih]
    split <;> rfl

/-- A change leaves the rows that a search is for as they are if it concerns none of them. -/
theorem filter_updateWhere_eq (h : ∀ row, q (f row) = q row)
    (hnone : ∀ row ∈ rows, q row → p row = false) :
    (updateWhere p f rows).filter q = rows.filter q := by
  rw [filter_updateWhere h]
  apply updateWhere_eq_self
  intro row hrow
  obtain ⟨hmem, hq⟩ := List.mem_filter.mp hrow
  exact hnone row hmem hq

/-- Two changes by one idempotent function are one change of all the rows concerned. -/
theorem updateWhere_updateWhere (hp : ∀ row, p (f row) = p row) (hf : ∀ row, f (f row) = f row) :
    updateWhere p f (updateWhere q f rows) = updateWhere (fun row => q row || p row) f rows := by
  induction rows with
  | nil => rfl
  | cons row rest ih =>
    simp only [updateWhere_cons, ih]
    by_cases hq : q row
    · simp [hq, hp, hf]
    · simp [hq]

end Update

section Keys

variable {key : α → κ}

/-- Rows of one key are one row where keys are unique. -/
theorem eq_of_key_eq (unique : (rows.map key).Nodup) {row other : α} (hrow : row ∈ rows)
    (hother : other ∈ rows) (h : key row = key other) : row = other :=
  List.inj_on_of_nodup_map unique hrow hother h

theorem mem_of_find?_key [DecidableEq κ] {k : κ} {row : α}
    (h : rows.find? (fun row => decide (key row = k)) = some row) : row ∈ rows ∧ key row = k :=
  ⟨List.mem_of_find?_eq_some h, by simpa using List.find?_some h⟩

/-- Where keys are unique a row is what is found by its key. -/
theorem find?_key_iff [DecidableEq κ] (unique : (rows.map key).Nodup) {k : κ} {row : α} :
    rows.find? (fun row => decide (key row = k)) = some row ↔ row ∈ rows ∧ key row = k := by
  refine ⟨mem_of_find?_key, fun ⟨hrow, hkey⟩ => ?_⟩
  obtain ⟨other, hother⟩ : ∃ other, rows.find? (fun row => decide (key row = k)) = some other := by
    rw [← Option.isSome_iff_exists, List.find?_isSome]
    exact ⟨row, hrow, by simpa using hkey⟩
  obtain ⟨hmem, hkey'⟩ := mem_of_find?_key hother
  rw [hother, eq_of_key_eq unique hmem hrow (hkey'.trans hkey.symm)]

theorem find?_key_eq_none [DecidableEq κ] {k : κ} :
    rows.find? (fun row => decide (key row = k)) = none ↔ ∀ row ∈ rows, key row ≠ k := by
  simp

/-- Where keys are unique, the rows of a key are what is found by it. -/
theorem filter_key_eq_toList [DecidableEq κ] (unique : (rows.map key).Nodup) (k : κ) :
    rows.filter (fun row => decide (key row = k)) =
      (rows.find? fun row => decide (key row = k)).toList := by
  induction rows with
  | nil => rfl
  | cons row rest ih =>
    rw [List.map_cons, List.nodup_cons] at unique
    obtain ⟨hrow, hrest⟩ := unique
    by_cases hkey : key row = k
    · have hnone : rest.filter (fun row => decide (key row = k)) = [] := by
        refine List.filter_eq_nil_iff.mpr fun other hother hsame => hrow ?_
        rw [hkey, ← of_decide_eq_true hsame]
        exact List.mem_map_of_mem hother
      simp [hkey, hnone]
    · simp [hkey, ih hrest]

/-- Rows with keys of their own may be added. -/
theorem nodup_keys_append {new : List α} (unique : (rows.map key).Nodup)
    (hnew : (new.map key).Nodup) (h : ∀ row ∈ new, ∀ other ∈ rows, key other ≠ key row) :
    ((rows ++ new).map key).Nodup := by
  rw [List.map_append]
  refine List.nodup_append.mpr ⟨unique, hnew, ?_⟩
  intro k hk k' hk' heq
  obtain ⟨other, hother, rfl⟩ := List.mem_map.mp hk
  obtain ⟨row, hrow, rfl⟩ := List.mem_map.mp hk'
  exact h row hrow other hother heq

end Keys

/-- A change of the one row of a key changes a sum by what that row gains. -/
theorem sum_map_updateWhere_key {g : α → Int} {key : α → κ} [DecidableEq κ]
    (unique : (rows.map key).Nodup) {row : α} (hrow : row ∈ rows) :
    ((updateWhere (fun other => decide (key other = key row)) f rows).map g).sum =
      (rows.map g).sum + (g (f row) - g row) := by
  induction rows with
  | nil => cases hrow
  | cons first rest ih =>
    rw [List.map_cons, List.nodup_cons] at unique
    obtain ⟨hfirst, hrest⟩ := unique
    simp only [updateWhere_cons, List.map_cons, List.sum_cons]
    rcases List.mem_cons.mp hrow with rfl | hrow
    · rw [updateWhere_eq_self, if_pos (decide_eq_true rfl)]
      · omega
      · intro other hother
        exact decide_eq_false fun hsame => hfirst (hsame ▸ List.mem_map_of_mem hother)
    · have hne : key first ≠ key row := fun hsame => hfirst (hsame ▸ List.mem_map_of_mem hrow)
      have hskip : (if decide (key first = key row) then f first else first) = first :=
        if_neg fun hsame => hne (of_decide_eq_true hsame)
      rw [ih hrest hrow, hskip]
      omega

end Storefront
