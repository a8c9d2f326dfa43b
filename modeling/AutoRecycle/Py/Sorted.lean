/-
  AutoRecycle.Py.Sorted

  Python's `sorted` with a boolean key: a stable partition.
-/
import Mathlib.Data.List.Basic
import Mathlib.Data.List.Perm.Basic

namespace AutoRecycle.Py

variable {α : Type}

/-- `sorted(xs, key=key)`, where `False < True`. -/
def sorted (key : α → Bool) (xs : List α) : List α := xs.mergeSort fun a b => !key a || key b

/-- A list in the order of its key is its two parts, one after the other. -/
theorem filter_append_filter_of_pairwise {key : α → Bool} {xs : List α}
    (h : xs.Pairwise fun a b => (!key a || key b) = true) :
    xs.filter (fun a => !key a) ++ xs.filter key = xs := by
  induction xs with
  | nil => rfl
  | cons x xs ih =>
      rw [List.pairwise_cons] at h
      cases hx : key x with
      | false =>
          simp only [List.filter_cons, hx, Bool.not_false, if_true, Bool.false_eq_true, if_false]
          rw [List.cons_append, ih h.2]
      | true =>
          have htrue : ∀ y ∈ xs, key y = true := by
            intro y hy
            simpa [hx] using h.1 y hy
          have hnone : xs.filter (fun a => !key a) = [] := by
            rw [List.filter_eq_nil_iff]
            intro y hy
            simp [htrue y hy]
          have hall : xs.filter key = xs := List.filter_eq_self.mpr htrue
          simp only [List.filter_cons, hx, Bool.not_true, Bool.false_eq_true, if_false, if_true]
          rw [hnone, hall, List.nil_append]

/-- The elements with the key `False` come first, each part in its old order. -/
theorem sorted_eq (key : α → Bool) (xs : List α) :
    sorted key xs = xs.filter (fun a => !key a) ++ xs.filter key := by
  have htrans : ∀ a b c : α, (!key a || key b) = true → (!key b || key c) = true →
      (!key a || key c) = true := by
    intro a b c
    cases key a <;> cases key b <;> cases key c <;> decide
  have htotal : ∀ a b : α, ((!key a || key b) || (!key b || key a)) = true := by
    intro a b
    cases key a <;> cases key b <;> rfl
  have hperm : (sorted key xs).Perm xs := List.mergeSort_perm xs _
  have hpart : ∀ p : α → Bool, (xs.filter p).Pairwise (fun a b => (!key a || key b) = true) →
      (sorted key xs).filter p = xs.filter p := by
    intro p hp
    have hsub : (xs.filter p).Sublist (sorted key xs) :=
      List.sublist_mergeSort htrans htotal hp List.filter_sublist
    have hsub' : (xs.filter p).Sublist ((sorted key xs).filter p) := by
      have hfilter := hsub.filter p
      rwa [List.filter_filter, show (fun a => p a && p a) = p from funext fun a => Bool.and_self _]
        at hfilter
    exact (hsub'.eq_of_length (hperm.filter p).length_eq.symm).symm
  have hfalse : (xs.filter fun a => !key a).Pairwise fun a b => (!key a || key b) = true := by
    apply List.pairwise_of_forall_mem_list
    intro a ha b _
    rw [(List.mem_filter.mp ha).2, Bool.true_or]
  have htrue : (xs.filter key).Pairwise fun a b => (!key a || key b) = true := by
    apply List.pairwise_of_forall_mem_list
    intro a _ b hb
    rw [(List.mem_filter.mp hb).2, Bool.or_true]
  rw [← hpart _ hfalse, ← hpart _ htrue]
  exact (filter_append_filter_of_pairwise (List.pairwise_mergeSort htrans htotal xs)).symm

end AutoRecycle.Py
