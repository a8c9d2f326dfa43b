/-
  AutoRecycle.Asl.Nested

  Machines with Parallel and Map states.

  The states of a branch and of an iterator are states of the machine like the
  others; what surrounds the state that is being done is a stack of frames.
  Leaving a state without a `Next` leaves the innermost frame (`leave`), and an
  error that is not retried unwinds the stack to a catcher (`raise`).  Every
  Parallel state has one branch, and every Map state works on one item at a time;
  the `ResultPath` of both is `$`.

  A task is answered as a whole; `Step` and `Run` record the tasks that have been
  run, with the calls that each of them has made.
-/
import AutoRecycle.Asl.Live

namespace AutoRecycle.Asl.Nested

open AutoRecycle.Effect

-- ============================================================================
-- States
-- ============================================================================

/-- What `$$` reads: the input of the execution, and the item of the Map state. -/
structure Context where
  executionInput : Json
  item : Option Json

/-- A Task state; `next` is `none` for `"End": true`. -/
structure TaskState (σ τ : Type) where
  resource : τ
  parameters : Context → Json → Option Json
  resultPath : Path := []
  retry : List Retrier := []
  next : Option σ

/-- A Parallel state with one branch. -/
structure ParallelState (σ : Type) where
  branch : σ
  catchers : List (Catcher σ) := []
  next : Option σ

/-- A Map state with `"MaxConcurrency": 1`. -/
structure MapState (σ : Type) where
  itemsPath : Path
  parameters : Context → Json → Option Json
  iterator : σ
  next : Option σ

inductive StateDef (σ τ : Type) where
  | task (t : TaskState σ τ)
  | wait (seconds : Nat) (next : σ)
  | parallel (p : ParallelState σ)
  | map (m : MapState σ)
  | fail (error cause : String)

abbrev Machine (σ τ : Type) : Type := σ → StateDef σ τ

/-- A Parallel or Map state that is being done, with the data it was entered
    with.  `rest` are the items to come, `outputs` those of the items before. -/
inductive Frame (σ : Type) where
  | parallel (p : ParallelState σ) (entered : Json)
  | map (m : MapState σ) (entered item : Json) (rest outputs : List Json)

/-- An execution: about to do state `s` for the `attempt`-th time, or ended. -/
inductive Cfg (σ : Type) where
  | at (s : σ) (data : Json) (attempt : Nat) (stack : List (Frame σ))
  | succeeded (output : Json)
  | failed (error cause : String)

variable {σ τ : Type}

def Cfg.Succeeded : Cfg σ → Prop
  | .succeeded _ => True
  | _ => False

/-- The item of the innermost Map state. -/
def currentItem : List (Frame σ) → Option Json
  | [] => none
  | .map _ _ item _ _ :: _ => some item
  | .parallel .. :: stack => currentItem stack

-- ============================================================================
-- Leaving a state
-- ============================================================================

def parameterPathFailure : TaskError := ⟨"States.ParameterPathFailure", "invalid path"⟩

def resultPathMatchFailure : TaskError := ⟨"States.ResultPathMatchFailure", ""⟩

/-- An error that no retrier takes goes to the innermost Parallel state that
    catches it. -/
def raise (e : TaskError) : List (Frame σ) → Cfg σ
  | [] => .failed e.error e.cause
  | .map .. :: stack => raise e stack
  | .parallel p entered :: stack =>
      match p.catchers.find? fun c => errorEquals c.errors e with
      | some c =>
          match Json.put? c.resultPath e.output entered with
          | some data => .at c.next data 0 stack
          | none => raise resultPathMatchFailure stack
      | none => raise e stack

/-- Begin the iteration on `item`. -/
def iterate (input : Json) (m : MapState σ) (entered item : Json) (rest outputs : List Json)
    (stack : List (Frame σ)) : Cfg σ :=
  match m.parameters ⟨input, some item⟩ entered with
  | some data => .at m.iterator data 0 (.map m entered item rest outputs :: stack)
  | none => raise parameterPathFailure stack

/-- Go to `next` with `data`; without a `Next`, go where `last` says. -/
def continueWith (last : Json → Cfg σ) (next : Option σ) (data : Json) (stack : List (Frame σ)) :
    Cfg σ :=
  match next with
  | some s => .at s data 0 stack
  | none => last data

/-- The innermost frame is done with `out`. -/
def leave (input : Json) : List (Frame σ) → Json → Cfg σ
  | [], out => .succeeded out
  | .parallel p _ :: stack, out => continueWith (leave input stack) p.next (.arr [out]) stack
  | .map m entered _ (item :: rest) outputs :: stack, out =>
      iterate input m entered item rest (outputs ++ [out]) stack
  | .map m _ _ [] outputs :: stack, out =>
      continueWith (leave input stack) m.next (.arr (outputs ++ [out])) stack

def proceed (input : Json) (next : Option σ) (data : Json) (stack : List (Frame σ)) : Cfg σ :=
  continueWith (leave input stack) next data stack

-- ============================================================================
-- Doing a state
-- ============================================================================

/-- What entering a state leads to: another configuration, or a task to run. -/
inductive Move (σ τ : Type) where
  | goto (c : Cfg σ)
  | invoke (t : TaskState σ τ) (input : Json)

def StateDef.start (input : Json) (stack : List (Frame σ)) : StateDef σ τ → Json → Move σ τ
  | task t, data =>
      match t.parameters ⟨input, currentItem stack⟩ data with
      | some taskInput => .invoke t taskInput
      | none => .goto (raise parameterPathFailure stack)
  | wait _ next, data => .goto (.at next data 0 stack)
  | parallel p, data => .goto (.at p.branch data 0 (.parallel p data :: stack))
  | map m, data =>
      match data.get? m.itemsPath with
      | some (.arr (item :: rest)) => .goto (iterate input m data item rest [] stack)
      | some (.arr []) => .goto (proceed input m.next (.arr []) stack)
      | _ => .goto (.failed "States.Runtime" "invalid path")
  | fail error cause, _ => .goto (raise ⟨error, cause⟩ stack)

namespace TaskState

/-- Some retrier of the task still allows another attempt at `e`. -/
def retries (t : TaskState σ τ) (attempt : Nat) (e : TaskError) : Bool :=
  t.retry.any fun r => errorEquals r.errors e && decide (attempt < r.maxAttempts)

def finish (t : TaskState σ τ) (input : Json) (s : σ) (data : Json) (attempt : Nat)
    (stack : List (Frame σ)) : Except TaskError Json → Cfg σ
  | .ok out =>
      match Json.put? t.resultPath out data with
      | some data' => proceed input t.next data' stack
      | none => raise resultPathMatchFailure stack
  | .error e => if t.retries attempt e then .at s data (attempt + 1) stack else raise e stack

end TaskState

section
variable {t t' : TaskState σ τ} {input data taskInput : Json} {stack : List (Frame σ)} {c : Cfg σ}

/-- A task that is run has got its parameters. -/
theorem start_task_invoke (h : (StateDef.task t).start input stack data = .invoke t' taskInput) :
    t' = t ∧ t.parameters ⟨input, currentItem stack⟩ data = some taskInput := by
  simp only [StateDef.start] at h
  split at h
  · rename_i hparams
    cases h
    exact ⟨rfl, hparams⟩
  · cases h

/-- A failed task is done again, or its error leaves the state. -/
theorem TaskState.finish_error (t : TaskState σ τ) (s : σ) (n : Nat) (e : TaskError) :
    (t.retries n e = true ∧
        t.finish input s data n stack (.error e) = .at s data (n + 1) stack) ∨
      t.finish input s data n stack (.error e) = raise e stack := by
  rw [TaskState.finish]
  split
  · rename_i hretry
    exact .inl ⟨hretry, rfl⟩
  · exact .inr rfl

/-- A Map state runs no task of its own. -/
theorem start_map_ne_invoke {m : MapState σ} :
    (StateDef.map m : StateDef σ τ).start input stack data ≠ .invoke t taskInput := by
  intro h
  simp only [StateDef.start] at h
  split at h
  · cases h
  · cases h
  · cases h

/-- A Map state begins with its first item, if there is one. -/
theorem start_map_goto {m : MapState σ} {items : List Json}
    (h : (StateDef.map m : StateDef σ τ).start input stack data = .goto c)
    (hitems : data.get? m.itemsPath = some (.arr items)) :
    c = match items with
      | [] => proceed input m.next (.arr []) stack
      | item :: rest => iterate input m data item rest [] stack := by
  simp only [StateDef.start, hitems] at h
  cases items with
  | nil =>
      cases h
      rfl
  | cons item rest =>
      cases h
      rfl

/-- Without its parameters a task fails before it is run. -/
theorem start_task_goto (h : (StateDef.task t).start input stack data = .goto c) :
    c = raise parameterPathFailure stack := by
  simp only [StateDef.start] at h
  split at h
  · cases h
  · cases h
    rfl

end

-- ============================================================================
-- Runs
-- ============================================================================

variable {S : Signature} {W : Type}

/-- A task that has been run. -/
structure Ran (S : Signature) (σ : Type) where
  state : σ
  attempt : Nat
  input : Json
  calls : Trace S
  answer : Except TaskError Json

/-- How the resources answer: the program returns, ends with an exception, or is
    cut off by a failure of the service. -/
inductive Answers (H : Host S τ) (K : Setting S W) :
    τ → Json → W → Trace S → Except TaskError Json → W → Prop where
  | ret {r input w calls out w'} (h : Exec K (H.impl r input) w calls (.ret out) w') :
      Answers H K r input w calls (.ok out) w'
  | throw {r input w calls e w'} (h : Exec K (H.impl r input) w calls (.throw e) w') :
      Answers H K r input w calls (.error (H.describe e)) w'
  | fault {r input w calls p e w'} (h : Exec K (H.impl r input) w calls p w')
      (he : H.faults e) : Answers H K r input w calls (.error e) w'

/-- One step of the execution that was started with `input`, or of the world. -/
inductive Step (m : Machine σ τ) (H : Host S τ) (K : Setting S W) (input : Json) :
    Cfg σ × W → List (Ran S σ) → Cfg σ × W → Prop where
  | goto {s data n stack c w} (h : (m s).start input stack data = .goto c) :
      Step m H K input (.at s data n stack, w) [] (c, w)
  | task {s data n stack t taskInput w calls r w'}
      (h : (m s).start input stack data = .invoke t taskInput)
      (ha : Answers H K t.resource taskInput w calls r w') :
      Step m H K input (.at s data n stack, w) [⟨s, n, taskInput, calls, r⟩]
        (t.finish input s data n stack r, w')
  | drift {c w w'} (h : K.rely w w') : Step m H K input (c, w) [] (c, w')

/-- Any number of steps, with the tasks that have been run, oldest first. -/
inductive Run (m : Machine σ τ) (H : Host S τ) (K : Setting S W) (input : Json) :
    Cfg σ × W → List (Ran S σ) → Cfg σ × W → Prop where
  | refl {x} : Run m H K input x [] x
  | tail {x y z evs evs'} (h : Run m H K input x evs y) (hs : Step m H K input y evs' z) :
      Run m H K input x (evs ++ evs') z

/-- The rule for runs: `I` relates the tasks that have been run to where the
    execution is. -/
theorem Run.invariant {m : Machine σ τ} {H : Host S τ} {K : Setting S W} {input : Json}
    {I : List (Ran S σ) → Cfg σ → Prop} {x y : Cfg σ × W} {evs : List (Ran S σ)}
    (hinit : I [] x.1)
    (hgoto : ∀ {evs s data n stack c}, I evs (.at s data n stack) →
      (m s).start input stack data = .goto c → I evs c)
    (htask : ∀ {evs s data n stack t taskInput w calls r w'}, I evs (.at s data n stack) →
      (m s).start input stack data = .invoke t taskInput →
      Answers H K t.resource taskInput w calls r w' →
      I (evs ++ [⟨s, n, taskInput, calls, r⟩]) (t.finish input s data n stack r))
    (h : Run m H K input x evs y) : I evs y.1 := by
  induction h with
  | refl => exact hinit
  | tail _ hs ih =>
      cases hs with
      | goto h =>
          rw [List.append_nil]
          exact hgoto ih h
      | task h ha => exact htask ih h ha
      | drift _ =>
          rw [List.append_nil]
          exact ih

end AutoRecycle.Asl.Nested
