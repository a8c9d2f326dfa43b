/-
  AutoRecycle.Effect.Prog

  Programs over an interface of outside calls.

  A `Prog S α` is the tree of a program that issues calls of the signature `S`
  and goes on with whatever reply comes back: it ends with a value (`ret`), ends
  with an uncaught exception (`throw`), or waits for the reply of a call.  No
  reply is fixed in the tree, so one and the same program can be run against a
  script of replies (`Prog.run`) or against a world that answers as it likes
  (`Exec`, in `AutoRecycle.Effect.Setting`).

  This library names nothing of the modelled repository.
-/
import Mathlib.Data.List.Basic
import Mathlib.Tactic.Common

namespace AutoRecycle.Effect

/-- The interface of a family of programs: the calls, the type of the reply of
    each call, and the exceptions a program can end with. -/
structure Signature where
  Op : Type
  Reply : Op → Type
  Exc : Type

/-- One answered call. -/
abbrev Event (S : Signature) : Type := (op : S.Op) × S.Reply op

/-- The answered calls of a run, oldest first. -/
abbrev Trace (S : Signature) : Type := List (Event S)

inductive Prog (S : Signature) (α : Type) : Type where
  | ret (a : α)
  | throw (e : S.Exc)
  | call (op : S.Op) (next : S.Reply op → Prog S α)

namespace Prog

variable {S : Signature} {α β γ : Type}

/-- Sequential composition; an exception skips the rest. -/
protected def bind : Prog S α → (α → Prog S β) → Prog S β
  | ret a, f => f a
  | throw e, _ => throw e
  | call op next, f => call op fun r => (next r).bind f

instance : Monad (Prog S) where
  pure := ret
  bind := Prog.bind

@[simp] theorem pure_eq (a : α) : (pure a : Prog S α) = ret a := rfl

@[simp] theorem ret_bind (a : α) (f : α → Prog S β) : (ret a >>= f) = f a := rfl

@[simp] theorem throw_bind (e : S.Exc) (f : α → Prog S β) : (throw e >>= f) = throw e := rfl

@[simp] theorem call_bind (op : S.Op) (next : S.Reply op → Prog S α) (f : α → Prog S β) :
    (call op next >>= f) = call op fun r => next r >>= f := rfl

theorem bind_ret (p : Prog S α) : p >>= ret = p := by
  induction p with
  | ret a => rfl
  | throw e => rfl
  | call op next ih =>
      rw [call_bind]
      exact congrArg (call op) (funext ih)

theorem bind_assoc (p : Prog S α) (f : α → Prog S β) (g : β → Prog S γ) :
    p >>= f >>= g = p >>= fun a => f a >>= g := by
  induction p with
  | ret a => rfl
  | throw e => rfl
  | call op next ih =>
      simp only [call_bind]
      exact congrArg (call op) (funext ih)

instance : LawfulMonad (Prog S) :=
  LawfulMonad.mk' (Prog S) bind_ret (fun _ _ => rfl) bind_assoc

/-- Issue one call and return its reply. -/
def perform (op : S.Op) : Prog S (S.Reply op) := call op ret

@[simp] theorem perform_bind (op : S.Op) (f : S.Reply op → Prog S β) :
    (perform op >>= f) = call op f := rfl

/-- A computation without calls: a value or an exception. -/
def ofExcept : Except S.Exc α → Prog S α
  | .ok a => ret a
  | .error e => throw e

@[simp] theorem ofExcept_ok (a : α) : (ofExcept (.ok a) : Prog S α) = ret a := rfl

@[simp] theorem ofExcept_error (e : S.Exc) : (ofExcept (.error e) : Prog S α) = throw e := rfl

/-- Run `p` and turn its exception, if it ends with one, into a value. -/
def attempt : Prog S α → Prog S (Except S.Exc α)
  | ret a => ret (.ok a)
  | throw e => ret (.error e)
  | call op next => call op fun r => (next r).attempt

/-- `try p except e: h e`. -/
protected def tryCatch (p : Prog S α) (h : S.Exc → Prog S α) : Prog S α := do
  match ← p.attempt with
  | .ok a => ret a
  | .error e => h e

/-- `[f x for x in xs]`: the calls of `f` are made in the order of the list, and
    the first exception ends the loop. -/
def forEach : List α → (α → Prog S β) → Prog S (List β)
  | [], _ => ret []
  | x :: xs, f => do
      let y ← f x
      let ys ← forEach xs f
      return y :: ys

theorem forEach_map (g : γ → α) (f : α → Prog S β) (xs : List γ) :
    forEach (xs.map g) f = forEach xs fun x => f (g x) := by
  induction xs with
  | nil => rfl
  | cons x xs ih => rw [List.map_cons, forEach, forEach, ih]

-- ============================================================================
-- Running against a script
-- ============================================================================

variable {W : Type}

/-- Run against a deterministic responder with state `W`. -/
def run (answer : W → (op : S.Op) → S.Reply op × W) : Prog S α → W → Except S.Exc α × W
  | ret a, w => (.ok a, w)
  | throw e, w => (.error e, w)
  | call op next, w => (next (answer w op).1).run answer (answer w op).2

variable {answer : W → (op : S.Op) → S.Reply op × W}

@[simp] theorem run_ret (a : α) (w : W) : (ret a : Prog S α).run answer w = (.ok a, w) := rfl

@[simp] theorem run_throw (e : S.Exc) (w : W) :
    (throw e : Prog S α).run answer w = (.error e, w) := rfl

@[simp] theorem run_call (op : S.Op) (next : S.Reply op → Prog S α) (w : W) :
    (call op next).run answer w = (next (answer w op).1).run answer (answer w op).2 := rfl

theorem run_bind (p : Prog S α) (f : α → Prog S β) (w : W) :
    (p >>= f).run answer w =
      match p.run answer w with
      | (.ok a, w') => (f a).run answer w'
      | (.error e, w') => (.error e, w') := by
  induction p generalizing w with
  | ret a => rfl
  | throw e => rfl
  | call op next ih => exact ih _ _

theorem run_attempt (p : Prog S α) (w : W) :
    p.attempt.run answer w = (.ok (p.run answer w).1, (p.run answer w).2) := by
  induction p generalizing w with
  | ret a => rfl
  | throw e => rfl
  | call op next ih => exact ih _ _

theorem run_attempt_bind (p : Prog S α) (f : Except S.Exc α → Prog S β) (w : W) :
    (p.attempt >>= f).run answer w = (f (p.run answer w).1).run answer (p.run answer w).2 := by
  rw [run_bind, run_attempt]

theorem run_tryCatch (p : Prog S α) (h : S.Exc → Prog S α) (w : W) :
    (p.tryCatch h).run answer w =
      match p.run answer w with
      | (.ok a, w') => (.ok a, w')
      | (.error e, w') => (h e).run answer w' := by
  rw [Prog.tryCatch, run_attempt_bind]
  obtain ⟨r, w'⟩ := p.run answer w
  cases r <;> rfl

theorem run_ofExcept (x : Except S.Exc α) (w : W) :
    (ofExcept x : Prog S α).run answer w = (x, w) := by
  cases x <;> rfl

/-- The calls of the run, oldest first. -/
def calls (answer : W → (op : S.Op) → S.Reply op × W) : Prog S α → W → Trace S
  | ret _, _ => []
  | throw _, _ => []
  | call op next, w =>
      ⟨op, (answer w op).1⟩ :: (next (answer w op).1).calls answer (answer w op).2

@[simp] theorem calls_ret (a : α) (w : W) : (ret a : Prog S α).calls answer w = [] := rfl

@[simp] theorem calls_throw (e : S.Exc) (w : W) : (throw e : Prog S α).calls answer w = [] := rfl

@[simp] theorem calls_call (op : S.Op) (next : S.Reply op → Prog S α) (w : W) :
    (call op next).calls answer w =
      ⟨op, (answer w op).1⟩ :: (next (answer w op).1).calls answer (answer w op).2 := rfl

theorem calls_bind (p : Prog S α) (f : α → Prog S β) (w : W) :
    (p >>= f).calls answer w = p.calls answer w ++
      match p.run answer w with
      | (.ok a, w') => (f a).calls answer w'
      | (.error _, _) => [] := by
  induction p generalizing w with
  | ret a => rfl
  | throw e => rfl
  | call op next ih => exact congrArg (List.cons _) (ih _ _)

theorem calls_attempt (p : Prog S α) (w : W) : p.attempt.calls answer w = p.calls answer w := by
  induction p generalizing w with
  | ret a => rfl
  | throw e => rfl
  | call op next ih => exact congrArg (List.cons _) (ih _ _)

theorem calls_attempt_bind (p : Prog S α) (f : Except S.Exc α → Prog S β) (w : W) :
    (p.attempt >>= f).calls answer w =
      p.calls answer w ++ (f (p.run answer w).1).calls answer (p.run answer w).2 := by
  rw [calls_bind, calls_attempt, run_attempt]

theorem calls_ofExcept (x : Except S.Exc α) (w : W) :
    (ofExcept x : Prog S α).calls answer w = [] := by
  cases x <;> rfl

/-- A loop whose body only reads. -/
theorem run_forEach_ok {f : α → Prog S β} {g : α → β} {w : W} {xs : List α}
    (h : ∀ x ∈ xs, (f x).run answer w = (.ok (g x), w)) :
    (forEach xs f).run answer w = (.ok (xs.map g), w) := by
  induction xs with
  | nil => rfl
  | cons x xs ih =>
    rw [forEach, run_bind, h x List.mem_cons_self]
    simp only [run_bind, ih fun y hy => h y (List.mem_cons_of_mem _ hy)]
    rfl

end Prog

end AutoRecycle.Effect
