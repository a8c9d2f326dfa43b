/-
  AutoRecycle.Consul.Flow

  How an execution of recycle_consul_agents gets from one place to the next.

  `Stage` says what has been done where an execution is.  `Goes` says where it
  can go from there: on to the next state, back to the same one for another
  attempt, to the next item, or out of the main flow.  The data are left out but
  for what a Map state takes from them.  `Runs.flow` is the rule for facts about
  whole runs that follow from the places alone.
-/
import AutoRecycle.Asl.Ranked
import AutoRecycle.Consul.OneAtATime

namespace AutoRecycle.Consul

open AutoRecycle.Asl AutoRecycle.Asl.Nested AutoRecycle.Data AutoRecycle.Effect

-- ============================================================================
-- Places
-- ============================================================================

/-- The state after a task that has succeeded, in the same frames. -/
def following : State → Option State
  | .startNotification => some .checkClusterHealthInitial
  | .checkClusterHealthInitial => some .getConsulNodes
  | .getConsulNodes => some .forEachInstance
  | .gracefulLeave => some .waitBeforeHealthCheck
  | .checkClusterHealthPostLeave => some .terminateNode
  | .terminateNode => some .waitBeforeFinalHealthCheck
  | .failureNotification => some .failState
  | _ => none

/-- How often the task of a state may be tried again. -/
def extraAttempts : State → Nat
  | .checkClusterHealthInitial => 4
  | .checkClusterHealthPostLeave => 4
  | .checkClusterHealthFinal => 6
  | _ => 0

section
variable {tf : TfVars} {s : State} {t : TaskState State Resource}

theorem next_eq (h : recycleConsulAgents tf s = .task t) : t.next = following s := by
  cases s <;> cases h <;> rfl

theorem attempts_eq (h : recycleConsulAgents tf s = .task t) : t.attempts = extraAttempts s := by
  cases s <;> cases h <;> rfl

end

/-- One transition, with the answer of the task if it runs one. -/
inductive Goes : Nested.Cfg State → Option (Except TaskError Json) → Nested.Cfg State → Prop where
  | begin {data n} : Goes (.at .mainFlow data n []) none (.at .startNotification data 0 (mainStack data))
  | waitLeave {data n stack} : Goes (.at .waitBeforeHealthCheck data n stack) none
      (.at .checkClusterHealthPostLeave data 0 stack)
  | waitFinal {data n stack} : Goes (.at .waitBeforeFinalHealthCheck data n stack) none
      (.at .checkClusterHealthFinal data 0 stack)
  | empty {data data' n entered} : Goes (.at .forEachInstance data n (mainStack entered)) none
      (.at .endNotification data' 0 (mainStack entered))
  | first {data data' n entered node rest}
      (hitems : data.get? ["nodes", "instanceList"] = some (.arr ((node :: rest).map Node.json))) :
      Goes (.at .forEachInstance data n (mainStack entered)) none
        (.at .gracefulLeave data' 0 (itemStack entered data node rest []))
  | next {s next data data' n stack out} (h : following s = some next) :
      Goes (.at s data n stack) (some (.ok out)) (.at next data' 0 stack)
  | again {s data n stack e} (h : n < extraAttempts s) :
      Goes (.at s data n stack) (some (.error e)) (.at s data (n + 1) stack)
  | item {data data' n entered before node node' rest outputs outputs' out} :
      Goes (.at .checkClusterHealthFinal data n (itemStack entered before node (node' :: rest) outputs))
        (some (.ok out)) (.at .gracefulLeave data' 0 (itemStack entered before node' rest outputs'))
  | last {data data' n entered before node outputs out} :
      Goes (.at .checkClusterHealthFinal data n (itemStack entered before node [] outputs))
        (some (.ok out)) (.at .endNotification data' 0 (mainStack entered))
  | succeed {data n entered out result} :
      Goes (.at .endNotification data n (mainStack entered)) (some (.ok out)) (.succeeded result)
  | abort {s data data' n stack r} (h : stack ≠ [])
      (hend : s = .endNotification → ∀ out, r ≠ some (.ok out)) :
      Goes (.at s data n stack) r (.at .failureNotification data' 0 [])
  | unannounced {data n} : Goes (.at .failureNotification data n []) none
      (.failed parameterPathFailure.error parameterPathFailure.cause)
  | undelivered {data n e} : Goes (.at .failureNotification data n []) (some (.error e))
      (.failed e.error e.cause)
  | fail {data n} : Goes (.at .failState data n []) none
      (.failed "AutoRecyclingFailed" "Error encountered during Consul Recycle")

-- ============================================================================
-- The transitions of the machine
-- ============================================================================

section
variable {tf : TfVars} {evs : List ConsulRan} {s : State} {data input taskInput : Json} {n : Nat}
  {stack : List (Frame State)} {t : TaskState State Resource} {c : Nested.Cfg State}

/-- Every error inside the main flow is caught by the Parallel state. -/
def Caught (stack : List (Frame State)) : Prop :=
  stack ≠ [] ∧ ∀ e, ∃ data, Nested.raise e stack = .at .failureNotification data 0 []

theorem caught_mainStack (entered : Json) : Caught (mainStack entered) :=
  ⟨nofun, fun _ => ⟨_, rfl⟩⟩

theorem caught_itemStack (entered before : Json) (node : Node) (rest : List Node)
    (outputs : List Json) : Caught (itemStack entered before node rest outputs) :=
  ⟨nofun, fun _ => ⟨_, rfl⟩⟩

theorem Caught.goes_raise {r : Option (Except TaskError Json)} (h : Caught stack) (e : TaskError)
    (hend : s = .endNotification → ∀ out, r ≠ some (.ok out)) :
    Goes (.at s data n stack) r (Nested.raise e stack) := by
  obtain ⟨data', heq⟩ := h.2 e
  rw [heq]
  exact .abort h.1 hend

/-- Parameters that cannot be made. -/
theorem Caught.goes_unstarted (h : Caught stack) (e : TaskError) :
    Goes (.at s data n stack) none (Nested.raise e stack) := by
  refine h.goes_raise e fun _ out hnone => ?_
  cases hnone

/-- A failed task is done again, or leaves the main flow. -/
theorem Caught.goes_error (h : Caught stack) (tf : TfVars) (ht : recycleConsulAgents tf s = .task t)
    (e : TaskError) :
    Goes (.at s data n stack) (some (.error e)) (t.finish input s data n stack (.error e)) := by
  rcases TaskState.finish_error t s n e with ⟨hretry, heq⟩ | heq
  · rw [heq]
    exact .again (attempts_eq ht ▸ TaskState.lt_attempts hretry)
  · rw [heq]
    refine h.goes_raise e fun _ out herror => ?_
    cases herror

/-- The answer of a task that is followed by a state in the same frames. -/
theorem Caught.goes_finish (h : Caught stack) (tf : TfVars)
    (ht : recycleConsulAgents tf s = .task t) {next : State} (hnext : following s = some next)
    (r : Except TaskError Json) :
    Goes (.at s data n stack) (some r) (t.finish input s data n stack r) := by
  cases r with
  | error e => exact h.goes_error tf ht e
  | ok out =>
      rw [TaskState.finish]
      split
      · rw [proceed, next_eq ht, hnext]
        exact .next hnext
      · refine h.goes_raise _ ?_
        -- nothing follows EndNotification
        rintro rfl
        cases hnext

/-- A state that goes on by itself. -/
theorem Stage.goes (h : Stage tf evs (.at s data n stack))
    (hs : (recycleConsulAgents tf s).start input stack data = .goto c) :
    Goes (.at s data n stack) none c := by
  cases h with
  | mainFlow =>
      cases hs
      exact .begin
  | starting =>
      rw [start_task_goto hs]
      exact (caught_mainStack _).goes_unstarted _
  | initial =>
      rw [start_task_goto hs]
      exact (caught_mainStack _).goes_unstarted _
  | listing =>
      rw [start_task_goto hs]
      exact (caught_mainStack _).goes_unstarted _
  | @forEach _ _ _ _ nodes hclean hlisted hids hfive hdata =>
      rw [start_map_goto hs hdata]
      cases nodes with
      | nil => exact .empty
      | cons node rest => exact .first hdata
  | leaving hstate =>
      rcases hstate with rfl | rfl | rfl
      · rw [start_task_goto hs]
        exact (caught_itemStack _ _ _ _ _).goes_unstarted _
      · cases hs
        exact .waitLeave
      · rw [start_task_goto hs]
        exact (caught_itemStack _ _ _ _ _).goes_unstarted _
  | gated =>
      rw [start_task_goto hs]
      exact (caught_itemStack _ _ _ _ _).goes_unstarted _
  | replacing hstate =>
      rcases hstate with rfl | rfl
      · cases hs
        exact .waitFinal
      · rw [start_task_goto hs]
        exact (caught_itemStack _ _ _ _ _).goes_unstarted _
  | ending =>
      rw [start_task_goto hs]
      exact (caught_mainStack _).goes_unstarted _
  | aborted haborted =>
      cases haborted with
      | notification =>
          rw [start_task_goto hs]
          exact .unannounced
      | failState =>
          cases hs
          exact .fail

/-- A task that has been answered. -/
theorem Stage.goes_task (h : Stage tf evs (.at s data n stack))
    (hs : (recycleConsulAgents tf s).start input stack data = .invoke t taskInput)
    (r : Except TaskError Json) :
    Goes (.at s data n stack) (some r) (t.finish input s data n stack r) := by
  cases h with
  | mainFlow => cases hs
  | starting =>
      obtain ⟨rfl, -⟩ := start_task_invoke hs
      exact (caught_mainStack _).goes_finish tf rfl rfl r
  | initial =>
      obtain ⟨rfl, -⟩ := start_task_invoke hs
      exact (caught_mainStack _).goes_finish tf rfl rfl r
  | listing =>
      obtain ⟨rfl, -⟩ := start_task_invoke hs
      exact (caught_mainStack _).goes_finish tf rfl rfl r
  | forEach => exact absurd hs start_map_ne_invoke
  | leaving hstate =>
      rcases hstate with rfl | rfl | rfl
      · obtain ⟨rfl, -⟩ := start_task_invoke hs
        exact (caught_itemStack _ _ _ _ _).goes_finish tf rfl rfl r
      · cases hs
      · obtain ⟨rfl, -⟩ := start_task_invoke hs
        exact (caught_itemStack _ _ _ _ _).goes_finish tf rfl rfl r
  | gated =>
      obtain ⟨rfl, -⟩ := start_task_invoke hs
      exact (caught_itemStack _ _ _ _ _).goes_finish tf rfl rfl r
  | @replacing _ _ _ entered before _ node rest outputs _ hstate =>
      rcases hstate with rfl | rfl
      · cases hs
      · obtain ⟨rfl, -⟩ := start_task_invoke hs
        cases r with
        | error e => exact (caught_itemStack _ _ _ _ _).goes_error tf rfl e
        | ok out =>
            rw [TaskState.finish]
            split
            · cases rest with
              | nil => exact .last
              | cons node' rest => exact .item
            · exact (caught_itemStack _ _ _ _ _).goes_raise _ (by simp)
  | ending =>
      obtain ⟨rfl, -⟩ := start_task_invoke hs
      cases r with
      | error e => exact (caught_mainStack _).goes_error tf rfl e
      | ok out => exact .succeed
  | aborted haborted =>
      cases haborted with
      | notification =>
          obtain ⟨rfl, -⟩ := start_task_invoke hs
          cases r with
          | error e => exact .undelivered
          | ok out => exact .next rfl
      | failState => cases hs

end

-- ============================================================================
-- The rule for runs
-- ============================================================================

/-- What follows from the places holds along every run. -/
theorem Runs.flow {W : Type} {K : Setting Calls W} {tf : TfVars} {faults : TaskError → Prop}
    {input : Json} {I : List ConsulRan → Nested.Cfg State → Prop} (hinit : I [] (beginning input))
    (hgoto : ∀ {evs s data n stack c}, Stage tf evs (.at s data n stack) →
      I evs (.at s data n stack) → (recycleConsulAgents tf s).start input stack data = .goto c →
      Goes (.at s data n stack) none c → I evs c)
    (htask : ∀ {evs s data n stack t taskInput w calls r w' c}, Stage tf evs (.at s data n stack) →
      I evs (.at s data n stack) →
      (recycleConsulAgents tf s).start input stack data = .invoke t taskInput →
      Answers (tasks faults) K t.resource taskInput w calls r w' →
      Goes (.at s data n stack) (some r) c → I (evs ++ [⟨s, n, taskInput, calls, r⟩]) c)
    {evs : List ConsulRan} {c : Nested.Cfg State} (h : Runs tf faults K input evs c) : I evs c := by
  obtain ⟨w, w', h⟩ := h
  have hboth : Stage tf evs c ∧ I evs c := by
    refine Nested.Run.invariant (I := fun evs c => Stage tf evs c ∧ I evs c) ⟨.mainFlow, hinit⟩ ?_ ?_ h
    · rintro evs s data n stack c ⟨hstage, hI⟩ hs
      exact ⟨hstage.goto hs, hgoto hstage hI hs (hstage.goes hs)⟩
    · rintro evs s data n stack t taskInput w calls r w' ⟨hstage, hI⟩ hs ha
      exact ⟨hstage.task hs ha, htask hstage hI hs ha (hstage.goes_task hs r)⟩
  exact hboth.2

end AutoRecycle.Consul
