/-
  AutoRecycle.Data.Dict

  Maps with string keys that keep the order of insertion: Python dictionaries
  and the fields of a JSON object.
-/
import Mathlib.Data.List.Basic
import Mathlib.Tactic.Common

namespace AutoRecycle.Data

/-- The entries, oldest key first.  Where a key occurs twice the first entry counts. -/
abbrev Dict (α : Type) : Type := List (String × α)

namespace Dict

variable {α : Type}

/-- The value of the first entry called `key`. -/
def get? (key : String) : Dict α → Option α
  | [] => none
  | (k, v) :: rest => if k = key then some v else get? key rest

/-- Overwrite the entry `key` where it stands, or add it at the end. -/
def set (key : String) (v : α) : Dict α → Dict α
  | [] => [(key, v)]
  | (k, w) :: rest => if k = key then (k, v) :: rest else (k, w) :: set key v rest

/-- The values, in the order of their keys. -/
def values (d : Dict α) : List α := d.map Prod.snd

@[simp] theorem get?_nil (key : String) : get? key ([] : Dict α) = none := rfl

theorem get?_cons (key k : String) (v : α) (rest : Dict α) :
    get? key ((k, v) :: rest) = if k = key then some v else get? key rest := rfl

@[simp] theorem get?_cons_self (key : String) (v : α) (rest : Dict α) :
    get? key ((key, v) :: rest) = some v := if_pos rfl

theorem get?_append (key : String) (d e : Dict α) :
    get? key (d ++ e) = (get? key d).or (get? key e) := by
  induction d with
  | nil => rfl
  | cons x d ih =>
    obtain ⟨k, v⟩ := x
    simp only [List.cons_append, get?_cons, ih]
    split <;> rfl

theorem mem_of_get? {key : String} {v : α} {d : Dict α} (h : get? key d = some v) :
    (key, v) ∈ d := by
  induction d with
  | nil => cases h
  | cons x d ih =>
    obtain ⟨k, w⟩ := x
    rw [get?_cons] at h
    split at h
    · rename_i hk
      cases h
      rw [hk]
      exact List.mem_cons_self
    · exact List.mem_cons_of_mem _ (ih h)

theorem get?_eq_none {key : String} {d : Dict α} (h : key ∉ d.map Prod.fst) :
    get? key d = none := by
  induction d with
  | nil => rfl
  | cons x d ih =>
    obtain ⟨k, v⟩ := x
    simp only [List.map_cons, List.mem_cons, not_or] at h
    rw [get?_cons, if_neg (Ne.symm h.1), ih h.2]

@[simp] theorem get?_set_self (key : String) (v : α) (d : Dict α) :
    get? key (set key v d) = some v := by
  induction d with
  | nil => exact get?_cons_self key v []
  | cons x d ih =>
    obtain ⟨k, w⟩ := x
    by_cases hk : k = key
    · simp [set, hk]
    · simp [set, get?_cons, hk, ih]

theorem get?_set_ne {key other : String} (h : other ≠ key) (v : α) (d : Dict α) :
    get? other (set key v d) = get? other d := by
  induction d with
  | nil => simp [set, get?_cons, Ne.symm h]
  | cons x d ih =>
    obtain ⟨k, w⟩ := x
    by_cases hk : k = key
    · subst hk
      simp [set, get?_cons, Ne.symm h]
    · simp [set, get?_cons, hk, ih]

theorem mem_set {key : String} {v : α} {d : Dict α} {x : String × α} (h : x ∈ set key v d) :
    x = (key, v) ∨ x ∈ d := by
  induction d with
  | nil => exact .inl (List.mem_singleton.mp h)
  | cons y d ih =>
    obtain ⟨k, w⟩ := y
    rw [set] at h
    split at h
    · rename_i hk
      obtain rfl | h := List.mem_cons.mp h
      · exact .inl (by rw [hk])
      · exact .inr (List.mem_cons_of_mem _ h)
    · obtain rfl | h := List.mem_cons.mp h
      · exact .inr List.mem_cons_self
      · exact (ih h).imp_right (List.mem_cons_of_mem _)

end Dict

end AutoRecycle.Data
