/-
  AutoRecycle.Asl.Machine

  The part of the Amazon States Language the modelled machines are written in:
  Task, Choice, Wait, Pass, Succeed and Fail states with their input and result
  paths, retriers and catchers.

  A machine is a function from state names to state definitions.  `StateDef.start`
  is what entering a state does by itself; a Task hands its input over, and
  `Task.finish` takes the answer in.  `Step` is one transition of an execution
  whose tasks are answered as a whole, by a relation on some outside world.

  Every `OutputPath` of the modelled machines is `$`, which is the identity, so
  states carry none.
-/
import AutoRecycle.Asl.Json
import Mathlib.Logic.Relation

namespace AutoRecycle.Asl

-- ============================================================================
-- Choice rules
-- ============================================================================

/-- The comparisons of a Choice rule. -/
inductive Cond where
  | stringEquals (path : Path) (s : String)
  | booleanEquals (path : Path) (b : Bool)
  | numericLessThanEquals (path : Path) (n : Int)
  | numericGreaterThan (path : Path) (n : Int)
  | isPresent (path : Path) (b : Bool)
  | and (c d : Cond)

/-- The value of a comparison; `none` when it reads a path that is not there.  A
    comparison with a value of another type is false. -/
def Cond.eval : Cond → Json → Option Bool
  | stringEquals path s, data =>
      (data.get? path).map fun | .str t => decide (t = s) | _ => false
  | booleanEquals path b, data =>
      (data.get? path).map fun | .bool c => decide (c = b) | _ => false
  | numericLessThanEquals path n, data =>
      (data.get? path).map fun | .num m => decide (m ≤ n) | _ => false
  | numericGreaterThan path n, data =>
      (data.get? path).map fun | .num m => decide (m > n) | _ => false
  | isPresent path b, data => some ((data.get? path).isSome == b)
  | and c d, data => do
      if ← c.eval data then d.eval data else return false

-- ============================================================================
-- States
-- ============================================================================

/-- The name and the cause of a failed task. -/
structure TaskError where
  error : String
  cause : String

/-- What a catcher writes at its result path. -/
def TaskError.output (e : TaskError) : Json :=
  .obj [("Error", .str e.error), ("Cause", .str e.cause)]

/-- `ErrorEquals` matching: a listed name, or the wildcard. -/
def errorEquals (names : List String) (e : TaskError) : Bool :=
  names.contains "States.ALL" || names.contains e.error

structure Retrier where
  errors : List String
  maxAttempts : Nat

structure Catcher (σ : Type) where
  errors : List String
  resultPath : Path := []
  next : σ

structure Task (σ τ : Type) where
  resource : τ
  inputPath : Path := []
  resultPath : Path := []
  retry : List Retrier := []
  catchers : List (Catcher σ) := []
  next : σ

/-- `pass` carries its `Parameters` or `Result` as the function from the state
    data to the result; `none` is a `Parameters` path that is not there. -/
inductive StateDef (σ τ : Type) where
  | task (t : Task σ τ)
  | choice (rules : List (Cond × σ)) (default : Option σ)
  | wait (seconds : Nat) (next : σ)
  | pass (result : Json → Option Json) (resultPath : Path) (next : σ)
  | succeed
  | fail (error cause : String)

abbrev Machine (σ τ : Type) : Type := σ → StateDef σ τ

/-- An execution: about to do state `s` for the `attempt`-th time, or ended. -/
inductive Cfg (σ : Type) where
  | at (s : σ) (data : Json) (attempt : Nat)
  | succeeded (output : Json)
  | failed (error cause : String)

namespace Cfg

variable {σ : Type}

def Ended : Cfg σ → Prop
  | .at .. => False
  | .succeeded _ => True
  | .failed .. => True

def Succeeded : Cfg σ → Prop
  | .succeeded _ => True
  | _ => False

def Failed : Cfg σ → Prop
  | .failed .. => True
  | _ => False

end Cfg

/-- What entering a state leads to: another configuration, or a task to run. -/
inductive Move (σ τ : Type) where
  | goto (c : Cfg σ)
  | invoke (t : Task σ τ) (input : Json)

variable {σ τ : Type}

/-- The target of the first rule that holds. -/
def choose (default : Option σ) (data : Json) : List (Cond × σ) → Cfg σ
  | [] =>
      match default with
      | some s => .at s data 0
      | none => .failed "States.NoChoiceMatched" ""
  | (c, s) :: rest =>
      match c.eval data with
      | some true => .at s data 0
      | some false => choose default data rest
      | none => .failed "States.Runtime" "invalid path"

/-- A Choice goes on to one of its states, with its data. -/
theorem choose_cases (default : Option σ) (data : Json) (rules : List (Cond × σ)) :
    (∃ s, (default = some s ∨ s ∈ rules.map Prod.snd) ∧ choose default data rules = .at s data 0) ∨
      ∃ error cause, choose default data rules = .failed error cause := by
  induction rules with
  | nil =>
      cases default with
      | some s => exact .inl ⟨s, .inl rfl, rfl⟩
      | none => exact .inr ⟨_, _, rfl⟩
  | cons rule rules ih =>
      obtain ⟨cond, target⟩ := rule
      rw [choose]
      split
      · exact .inl ⟨target, .inr (by simp), rfl⟩
      · obtain ⟨s, hs, heq⟩ | hfailed := ih
        · exact .inl ⟨s, hs.imp_right (List.mem_cons_of_mem _), heq⟩
        · exact .inr hfailed
      · exact .inr ⟨_, _, rfl⟩

/-- Go to `next` with `v` written at `path`. -/
def putAndGo (path : Path) (v data : Json) (next : σ) : Cfg σ :=
  match Json.put? path v data with
  | some data' => .at next data' 0
  | none => .failed "States.ResultPathMatchFailure" ""

theorem putAndGo_cases (path : Path) (v data : Json) (next : σ) :
    (∃ data', putAndGo path v data next = .at next data' 0) ∨
      ∃ error cause, putAndGo path v data next = .failed error cause := by
  rw [putAndGo]
  split
  · exact .inl ⟨_, rfl⟩
  · exact .inr ⟨_, _, rfl⟩

namespace StateDef

def start : StateDef σ τ → Json → Move σ τ
  | task t, data =>
      match data.get? t.inputPath with
      | some input => .invoke t input
      | none => .goto (.failed "States.Runtime" "invalid path")
  | choice rules default, data => .goto (choose default data rules)
  | wait _ next, data => .goto (.at next data 0)
  | pass result resultPath next, data =>
      match result data with
      | some v => .goto (putAndGo resultPath v data next)
      | none => .goto (.failed "States.ParameterPathFailure" "invalid path")
  | succeed, data => .goto (.succeeded data)
  | fail error cause, _ => .goto (.failed error cause)

end StateDef

namespace Task

/-- Some retrier of the task still allows another attempt at `e`. -/
def retries (t : Task σ τ) (attempt : Nat) (e : TaskError) : Bool :=
  t.retry.any fun r => errorEquals r.errors e && decide (attempt < r.maxAttempts)

/-- Where the answer of the task leads.  The catcher's result path, like the
    retry, works on the data the state was entered with. -/
def finish (t : Task σ τ) (s : σ) (data : Json) (attempt : Nat) :
    Except TaskError Json → Cfg σ
  | .ok out => putAndGo t.resultPath out data t.next
  | .error e =>
      if t.retries attempt e then .at s data (attempt + 1)
      else match t.catchers.find? fun c => errorEquals c.errors e with
        | some c => putAndGo c.resultPath e.output data c.next
        | none => .failed e.error e.cause

@[simp] theorem finish_ok (t : Task σ τ) (s : σ) (data out : Json) (attempt : Nat) :
    t.finish s data attempt (.ok out) = putAndGo t.resultPath out data t.next := rfl

end Task

-- ============================================================================
-- Executions whose tasks are answered as a whole
-- ============================================================================

variable {W : Type}

/-- How the resources answer in a world of states `W`. -/
abbrev Tasks (τ W : Type) : Type := τ → Json → W → Except TaskError Json → W → Prop

inductive Step (m : Machine σ τ) (T : Tasks τ W) : Cfg σ × W → Cfg σ × W → Prop where
  | goto {s data n c w} (h : (m s).start data = .goto c) : Step m T (.at s data n, w) (c, w)
  | task {s data n t input w r w'} (h : (m s).start data = .invoke t input)
      (hT : T t.resource input w r w') :
      Step m T (.at s data n, w) (t.finish s data n r, w')

/-- Any number of steps. -/
abbrev Reaches (m : Machine σ τ) (T : Tasks τ W) : Cfg σ × W → Cfg σ × W → Prop :=
  Relation.ReflTransGen (Step m T)

/-- The execution comes to its end in `e`. -/
def Ends (m : Machine σ τ) (T : Tasks τ W) (c e : Cfg σ × W) : Prop :=
  Reaches m T c e ∧ e.1.Ended

/-- Tasks with at most one answer. -/
def Deterministic (T : Tasks τ W) : Prop :=
  ∀ r input w a a' w₁ w₂, T r input w a w₁ → T r input w a' w₂ → a = a' ∧ w₁ = w₂

section
variable {m : Machine σ τ} {T : Tasks τ W} {c c₁ c₂ e e₁ e₂ : Cfg σ × W}

theorem Step.not_ended (h : Step m T c c₁) : ¬ c.1.Ended := by
  cases h <;> exact id

/-- A state that goes on by itself has one step. -/
theorem Step.of_goto {s : σ} {data : Json} {n : Nat} {d : Cfg σ} {w : W} {y : Cfg σ × W}
    (hs : (m s).start data = .goto d) (h : Step m T (.at s data n, w) y) : y = (d, w) := by
  cases h with
  | goto h =>
      cases hs.symm.trans h
      rfl
  | task h _ => cases hs.symm.trans h

/-- The steps of a Task are its answers. -/
theorem Step.of_invoke {s : σ} {data input : Json} {n : Nat} {t : Task σ τ} {w : W} {y : Cfg σ × W}
    (hs : (m s).start data = .invoke t input) (h : Step m T (.at s data n, w) y) :
    ∃ r w', T t.resource input w r w' ∧ y = (t.finish s data n r, w') := by
  cases h with
  | goto h => cases hs.symm.trans h
  | task h hT =>
      cases hs.symm.trans h
      exact ⟨_, _, hT, rfl⟩

theorem Step.deterministic (hT : Deterministic T) (h₁ : Step m T c c₁) (h₂ : Step m T c c₂) :
    c₁ = c₂ := by
  cases h₁ with
  | goto h =>
      cases h₂ with
      | goto h' => cases h.symm.trans h'; rfl
      | task h' _ => cases h.symm.trans h'
  | task h hw =>
      cases h₂ with
      | goto h' => cases h.symm.trans h'
      | task h' hw' =>
          cases h.symm.trans h'
          obtain ⟨rfl, rfl⟩ := hT _ _ _ _ _ _ _ hw hw'
          rfl

theorem Ends.of_reaches (h : Reaches m T c c₁) (he : Ends m T c₁ e) : Ends m T c e :=
  ⟨h.trans he.1, he.2⟩

/-- With deterministic tasks an execution has one end. -/
theorem Ends.unique (hT : Deterministic T) (h₁ : Ends m T c e₁) (h₂ : Ends m T c e₂) :
    e₁ = e₂ := by
  obtain ⟨h₁, hend₁⟩ := h₁
  obtain ⟨h₂, hend₂⟩ := h₂
  induction h₁ using Relation.ReflTransGen.head_induction_on with
  | refl =>
      cases h₂.cases_head with
      | inl h => exact h
      | inr h =>
          obtain ⟨d, hd, -⟩ := h
          exact absurd hend₁ hd.not_ended
  | head hstep _ ih =>
      cases h₂.cases_head with
      | inl h => exact absurd (h ▸ hend₂) hstep.not_ended
      | inr h =>
          obtain ⟨d, hd, hde⟩ := h
          obtain rfl := hstep.deterministic hT hd
          exact ih hde

/-- An invariant with a rank that every step makes smaller: the runs come to an
    end. -/
theorem acc_of_rank {I : Nat → Cfg σ × W → Prop}
    (hstep : ∀ {k x y}, I k x → Step m T x y → ∃ k' < k, I k' y) {k : Nat} {x : Cfg σ × W}
    (h : I k x) : Acc (fun y x => Step m T x y) x := by
  induction k using Nat.strongRecOn generalizing x with
  | ind k ih =>
      constructor
      intro y hs
      obtain ⟨k', hlt, hy⟩ := hstep h hs
      exact ih k' hlt hy

theorem rank_reaches {I : Nat → Cfg σ × W → Prop}
    (hstep : ∀ {k x y}, I k x → Step m T x y → ∃ k' < k, I k' y) {k : Nat} {x y : Cfg σ × W}
    (h : I k x) (hr : Reaches m T x y) : ∃ k', I k' y := by
  induction hr with
  | refl => exact ⟨k, h⟩
  | tail _ hs ih =>
      obtain ⟨k₁, hk₁⟩ := ih
      obtain ⟨k₂, -, hk₂⟩ := hstep hk₁ hs
      exact ⟨k₂, hk₂⟩

end

end AutoRecycle.Asl
