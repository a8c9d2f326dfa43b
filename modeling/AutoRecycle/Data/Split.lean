/-
  AutoRecycle.Data.Split

  Elements of a list and what comes before them, for records that grow at their
  end and for records of records.
-/
import Mathlib.Data.List.Basic

namespace AutoRecycle.Data

variable {α β : Type}

/-- What holds at each element holds when one more is added. -/
theorem forall_split_append {P : List α → α → Prop} {xs : List α} {x : α}
    (h : ∀ pre y post, xs = pre ++ y :: post → P pre y) (hx : P xs x) (pre : List α) (y : α)
    (post : List α) (hsplit : xs ++ [x] = pre ++ y :: post) : P pre y := by
  rcases List.eq_nil_or_concat post with rfl | ⟨post', last, rfl⟩
  · obtain ⟨rfl, hlast⟩ := List.append_inj' hsplit rfl
    cases hlast
    exact hx
  · rw [List.concat_eq_append, ← List.cons_append, ← List.append_assoc] at hsplit
    obtain ⟨rfl, -⟩ := List.append_inj' hsplit rfl
    exact h pre y post' rfl

/-- An element of two lists that are appended is one of the first or of the second. -/
theorem split_of_append {xs ys pre post : List α} {x : α} (h : xs ++ ys = pre ++ x :: post) :
    (∃ mid, xs = pre ++ x :: mid ∧ post = mid ++ ys) ∨
      ∃ mid, pre = xs ++ mid ∧ ys = mid ++ x :: post := by
  rcases List.append_eq_append_iff.mp h with ⟨mid, hpre, hys⟩ | ⟨mid, hxs, hrest⟩
  · exact .inr ⟨mid, hpre, hys⟩
  · cases mid with
    | nil =>
        rw [List.append_nil] at hxs
        exact .inr ⟨[], by rw [hxs, List.append_nil], hrest.symm⟩
    | cons y mid =>
        rw [List.cons_append, List.cons.injEq] at hrest
        obtain ⟨rfl, rfl⟩ := hrest
        exact .inl ⟨mid, hxs, rfl⟩

/-- An element of one of the lists that are appended. -/
theorem exists_split_of_flatMap {f : α → List β} {xs : List α} {l₁ l₂ : List β} {y : β}
    (h : xs.flatMap f = l₁ ++ y :: l₂) :
    ∃ pre x post a b, xs = pre ++ x :: post ∧ f x = a ++ y :: b ∧ l₁ = pre.flatMap f ++ a := by
  induction xs generalizing l₁ with
  | nil =>
      rw [List.flatMap_nil] at h
      exact absurd h.symm (by simp)
  | cons x xs ih =>
      rw [List.flatMap_cons] at h
      rcases split_of_append h with ⟨mid, hx, -⟩ | ⟨mid, hl₁, hrest⟩
      · exact ⟨[], x, xs, l₁, mid, rfl, hx, rfl⟩
      · obtain ⟨pre, x', post, a, b, rfl, hx', rfl⟩ := ih hrest
        exact ⟨x :: pre, x', post, a, b, rfl, hx', by rw [hl₁, List.flatMap_cons, List.append_assoc]⟩

end AutoRecycle.Data
