/-
  AutoRecycle.Messages

  The messages of an execution, whatever its tasks answer.

  The machine has loops, but no way back out of them: `phase` only grows.  So the
  message at the beginning of a branch comes once and before the recycling, and
  the message at the end comes once and is the last thing that is done.  An
  execution that has ended without it has either found that there is nothing to
  report, in the branch of the instance refresh, or has stumbled over its own
  data.
-/
import AutoRecycle.Asl.Trail
import AutoRecycle.InstanceRefresh

namespace AutoRecycle.Messages

open AutoRecycle.Asl AutoRecycle.Data AutoRecycle.StateMachine

-- ============================================================================
-- Phases
-- ============================================================================

/-- How far an execution has come; the states of a loop share their phase. -/
def phase : State → Nat
  | .chooseRecycleStrategy => 0
  | .standardRecycle => 1
  | .recycleSingleInstanceAsg => 1
  | .isFirstRun => 1
  | .slackMessageSingleInstanceAsg => 1
  | .waitForSingleInstanceAsgAutorecycle => 1
  | .isAutorecyclingSingleInstanceAsgDone => 1
  | .mongoRecycle => 1
  | .monitorInstanceRefreshStatus => 1
  | .instanceRefreshStatus => 1
  | .instanceRefreshCancel => 1
  | .waitForInstanceRefreshStatus => 1
  | .recordInstanceRefreshStatusState => 1
  | .slackMessageStart => 2
  | .slackMessageMongo => 2
  | .instanceRefresh => 2
  | .waitForCommencement => 3
  | .slackMessageInstanceRefresh => 3
  | .monitorAutorecycling => 4
  | .isAutorecyclingDone => 4
  | .waitForAutorecycle => 4
  | .recycleMongoCluster => 4
  | .mongoAutorecycleDecision => 4
  | .waitForMongoAutorecycle => 4
  | .instanceRefreshStart => 4
  | .wasARefreshStarted => 5
  | .monitorInstanceRefreshProgress => 6
  | .isInstanceRefreshComplete => 6
  | .waitForInstanceRefresh => 6
  | .lambdaError => 7
  | .successfulInstanceRefresh => 7
  | .failedInstanceRefresh => 7
  | .slackMessageEnd => 8
  | .status => 9
  | .fail => 10
  | .success => 10

/-- No way leads back. -/
theorem ordered_autoRecycle (tf : TfVars) : Ordered (autoRecycle tf) phase := by
  intro s
  cases s <;> simp [autoRecycle, StateDef.targets, StateDef.onward, Task.targets, lambdaTask,
    slackMessage, phase]

/-- The messages that are not part of a loop. -/
def singleMessages : List State :=
  [.slackMessageStart, .slackMessageMongo, .slackMessageInstanceRefresh, .slackMessageEnd]

theorem task_of_singleMessage {tf : TfVars} {s : State} (hs : s ∈ singleMessages) :
    (∃ next, autoRecycle tf s = .task (slackMessage next)) ∧ Ascends (autoRecycle tf) phase s := by
  simp only [singleMessages, List.mem_cons, List.not_mem_nil, or_false] at hs
  rcases hs with rfl | rfl | rfl | rfl
  all_goals exact ⟨⟨_, rfl⟩, by simp [Ascends, autoRecycle, StateDef.targets, Task.targets,
    slackMessage, phase]⟩

-- ============================================================================
-- The end
-- ============================================================================

/-- The last task was the message at the end. -/
def Sent (evs : List (TaskRun State)) : Prop :=
  ∃ pre ev, evs = pre ++ [ev] ∧ ev.state = .slackMessageEnd

/-- The last task has answered with `out`. -/
def Answered (s : State) (evs : List (TaskRun State)) (out : Json) : Prop :=
  ∃ pre ev, evs = pre ++ [ev] ∧ ev.state = s ∧ ev.answer = .ok out

/-- Nothing to report: no refresh was started, or the one that was is cancelled. -/
def NoRefresh (evs : List (TaskRun State)) : Prop :=
  (∃ out, Answered .instanceRefreshStart evs out ∧ out.get? ["instance_refresh_id"] = none) ∨
    ∃ out, Answered .monitorInstanceRefreshProgress evs out ∧
      out.get? ["Status"] = some (.str "Cancelled")

/-- The states that are reached by the tasks before only. -/
def guardedStates : List State :=
  [.status, .fail, .success, .wasARefreshStarted, .isInstanceRefreshComplete]

/-- What is known where the execution is. -/
def Where (tf : TfVars) (evs : List (TaskRun State)) : Cfg State → Prop
  | .at .status _ _ => Sent evs
  | .at .fail _ _ => Sent evs
  | .at .success _ _ => Sent evs ∨ NoRefresh evs
  | .at .wasARefreshStarted data _ => ∃ out, Answered .instanceRefreshStart evs out ∧
      data.get? [startOutput tf, "instance_refresh_id"] = out.get? ["instance_refresh_id"]
  | .at .isInstanceRefreshComplete data _ => ∃ out, Answered .monitorInstanceRefreshProgress evs out ∧
      data.get? [statusOutput tf, "Status"] = out.get? ["Status"]
  | .at _ _ _ => True
  | .succeeded _ => Sent evs ∨ NoRefresh evs
  | .failed error _ => Sent evs ∨ error ∈ serviceErrors

section
variable {tf : TfVars} {evs : List (TaskRun State)} {s : State} {data input : Json} {n : Nat}
  {c : Cfg State} {t : Task State Resource}

theorem where_of_not_guarded (hs : s ∉ guardedStates) : Where tf evs (.at s data n) := by
  cases s <;> trivial

/-- The Choices and Pass states that do not come after the last message. -/
theorem onward_not_guarded (hs : s ∉ [.status, .wasARefreshStarted, .isInstanceRefreshComplete]) :
    ∀ s' ∈ (autoRecycle tf s).onward, s' ∉ guardedStates := by
  cases s <;> first
    | exact absurd hs (by decide)
    | simp [autoRecycle, StateDef.onward, guardedStates]

theorem catchesAll_of_task (h : autoRecycle tf s = .task t) : t.CatchesAll := by
  intro e
  have hall : errorEquals ["States.ALL"] e = true := by
    simp [errorEquals]
  cases s <;> cases h <;> exact ⟨_, List.find?_cons_of_pos hall⟩

/-- Where the Choice after the start leads. -/
theorem where_wasARefreshStarted
    (h : ∃ out, Answered .instanceRefreshStart evs out ∧
      data.get? [startOutput tf, "instance_refresh_id"] = out.get? ["instance_refresh_id"])
    (hs : (autoRecycle tf .wasARefreshStarted).start data = .goto c) : Where tf evs c := by
  obtain ⟨out, hanswered, hread⟩ := h
  simp only [autoRecycle, StateDef.start, choose, Cond.eval, Move.goto.injEq, hread] at hs
  subst hs
  cases hid : out.get? ["instance_refresh_id"] with
  | none => exact .inr (.inl ⟨out, hanswered, hid⟩)
  | some id => exact trivial

/-- Where the Choice after a poll leads. -/
theorem where_isInstanceRefreshComplete
    (h : ∃ out, Answered .monitorInstanceRefreshProgress evs out ∧
      data.get? [statusOutput tf, "Status"] = out.get? ["Status"])
    (hs : (autoRecycle tf .isInstanceRefreshComplete).start data = .goto c) : Where tf evs c := by
  obtain ⟨out, hanswered, hread⟩ := h
  obtain ⟨-, rfl⟩ | ⟨-, rfl⟩ | ⟨hstatus, rfl⟩ | ⟨-, rfl | rfl⟩ := InstanceRefresh.isComplete_cases hs
  · trivial
  · trivial
  · exact .inr (.inr ⟨out, hanswered, hread ▸ hstatus⟩)
  · trivial
  · exact .inr (by simp [serviceErrors])

/-- A state that goes on by itself. -/
theorem Where.goto (h : Where tf evs (.at s data n))
    (hs : (autoRecycle tf s).start data = .goto c) : Where tf evs c := by
  by_cases hwas : s = .wasARefreshStarted
  · subst hwas
    exact where_wasARefreshStarted h hs
  by_cases hcomplete : s = .isInstanceRefreshComplete
  · subst hcomplete
    exact where_isInstanceRefreshComplete h hs
  cases c with
  | «at» s' data' n' =>
      rcases StateDef.goto_leadsTo hs with ⟨_, hmem, _, hc⟩ | hended
      · cases hc
        by_cases hstatus : s = .status
        · subst hstatus
          simp only [autoRecycle, StateDef.onward, Option.toList_some, List.map_cons, List.map_nil,
            List.singleton_append, List.mem_cons, List.not_mem_nil, or_false] at hmem
          rcases hmem with rfl | rfl
          · exact .inl h
          · exact h
        · exact where_of_not_guarded (onward_not_guarded (by simp [*]) s' hmem)
      · exact hended.elim
  | succeeded out =>
      have hsucceed := StateDef.succeed_of_goto hs
      cases s <;> first | exact h | cases hsucceed
  | failed error cause =>
      rcases StateDef.failed_of_goto hs with hfail | herror
      · cases s <;> first | exact .inl h | cases hfail
      · exact .inr herror

/-- The tasks that lead to a guarded state. -/
theorem guarded_of_task {s' : State} (h : autoRecycle tf s = .task t) (hs' : s' ∈ t.targets)
    (hguarded : s' ∈ guardedStates) : (s = .slackMessageEnd ∧ s' = .status) ∨
      (s = .instanceRefreshStart ∧ s' = .wasARefreshStarted) ∨
      (s = .monitorInstanceRefreshProgress ∧ s' = .isInstanceRefreshComplete) := by
  simp only [guardedStates, List.mem_cons, List.not_mem_nil, or_false] at hguarded
  cases s <;> cases h <;>
    simp only [Task.targets, lambdaTask, slackMessage, List.map_cons, List.map_nil, List.mem_cons,
      List.not_mem_nil, or_false] at hs' <;>
    rcases hs' with rfl | rfl <;> simp at hguarded ⊢

/-- A task that has been answered. -/
theorem Where.task (hs : (autoRecycle tf s).start data = .invoke t input) (r : Except TaskError Json) :
    Where tf (evs ++ [⟨s, n, input, r⟩]) (t.finish s data n r) := by
  have ht := StateDef.eq_task_of_invoke hs
  cases hc : t.finish s data n r with
  | succeeded out => exact absurd hc (t.finish_ne_succeeded r)
  | failed error cause => exact .inr ((catchesAll_of_task ht).failed t hc)
  | «at» s' data' n' =>
      by_cases hguarded : s' ∈ guardedStates
      · rcases t.finish_leadsTo s data n r with ⟨e, -, heq, -⟩ | ⟨_, hmem, _, heq⟩ | hended
        · cases heq.symm.trans hc
          cases s <;> first | exact absurd hguarded (by decide) | cases ht
        · cases heq.symm.trans hc
          rcases guarded_of_task ht hmem hguarded with ⟨rfl, rfl⟩ | ⟨rfl, rfl⟩ | ⟨rfl, rfl⟩
          · exact ⟨evs, _, rfl, rfl⟩
          · cases ht
            obtain ⟨out, rfl, hput⟩ := Task.ok_of_finish hc (by decide) (by simp [lambdaTask])
            exact ⟨out, ⟨evs, _, rfl, rfl, rfl⟩, Json.get?_of_put? hput⟩
          · cases ht
            obtain ⟨out, rfl, hput⟩ := Task.ok_of_finish hc (by decide) (by simp)
            exact ⟨out, ⟨evs, _, rfl, rfl, rfl⟩, Json.get?_of_put? hput⟩
        · rw [hc] at hended
          exact hended.elim
      · exact where_of_not_guarded hguarded

end

-- ============================================================================
-- The messages of a run
-- ============================================================================

/-- The tasks `evs` of an execution that is now at `c`. -/
structure Framed (evs : List (TaskRun State)) (c : Cfg State) : Prop where
  /-- No task comes after one of a later phase. -/
  ordered : evs.Pairwise fun ev ev' => phase ev.state ≤ phase ev'.state
  /-- These messages are not sent twice. -/
  once : ∀ s ∈ singleMessages, timesRun s evs ≤ 1
  /-- The end of the execution. -/
  ended : c.Ended → Sent evs ∨ (c.Succeeded ∧ NoRefresh evs) ∨
    ∃ error cause, c = .failed error cause ∧ error ∈ serviceErrors

/-- An execution at any point of its run. -/
theorem framed_of_trail {W : Type} {tf : TfVars} {T : Tasks Resource W} {payload : Json} {w : W}
    {evs : List (TaskRun State)} {y : Cfg State × W}
    (h : Trail (autoRecycle tf) T (.at startAt payload 0, w) evs y) : Framed evs y.1 where
  ordered := h.pairwise (ordered_autoRecycle tf)
  once := by
    intro s hs
    obtain ⟨⟨next, ht⟩, hascends⟩ := @task_of_singleMessage tf s hs
    exact h.timesRun_le (ordered_autoRecycle tf) hascends ht
  ended := by
    intro hended
    have hwhere : Where tf evs y.1 :=
      h.invariant (I := Where tf) trivial (fun hI hs => hI.goto hs) fun _ hs => Where.task hs _
    cases hy : y.1 with
    | «at» s data n =>
        rw [hy] at hended
        exact hended.elim
    | succeeded out =>
        rw [hy] at hwhere
        exact hwhere.imp_right fun hnone => .inl ⟨trivial, hnone⟩
    | failed error cause =>
        rw [hy] at hwhere
        exact hwhere.imp_right fun herror => .inr ⟨error, cause, rfl, herror⟩

/-- Every execution sends the message at the end once, after everything else,
    unless it has no refresh to report or its data do not have what a state reads;
    and from no place does it come back to one of an earlier phase. -/
theorem messages_framed {W : Type} (tf : TfVars) (T : Tasks Resource W) (payload : Json) (w : W)
    (evs : List (TaskRun State)) (y : Cfg State × W)
    (h : Trail (autoRecycle tf) T (.at startAt payload 0, w) evs y) :
    Framed evs y.1 ∧ ∀ s data n, y.1 = .at s data n →
      ∀ s' data' n' w', Reaches (autoRecycle tf) T y (.at s' data' n', w') → phase s ≤ phase s' := by
  refine ⟨framed_of_trail h, ?_⟩
  obtain ⟨c, w₁⟩ := y
  rintro s data n rfl s' data' n' w' hreaches
  exact hreaches.rank_le (ordered_autoRecycle tf) rfl

/-- The execution whose refresh is successful, at its end and right after the poll. -/
theorem messages_framed_successful :
    (∃ evs y, Trail (autoRecycle InstanceRefresh.refreshVars) InstanceRefresh.RefreshTasks
      (.at startAt InstanceRefresh.refreshPayload 0, {}) evs y ∧ y.1.Ended ∧ Framed evs y.1) ∧
    ∃ evs data w data' w', Trail (autoRecycle InstanceRefresh.refreshVars) InstanceRefresh.RefreshTasks
        (.at startAt InstanceRefresh.refreshPayload 0, {}) evs (.at .isInstanceRefreshComplete data 0, w) ∧
      Reaches (autoRecycle InstanceRefresh.refreshVars) InstanceRefresh.RefreshTasks
        (.at .isInstanceRefreshComplete data 0, w) (.at .slackMessageEnd data' 0, w') ∧
      phase .isInstanceRefreshComplete ≤ phase .slackMessageEnd := by
  constructor
  · obtain ⟨evs, h⟩ := reaches_iff_trail.mp InstanceRefresh.ends_polled_successful.1
    exact ⟨evs, _, h, trivial, (messages_framed _ _ _ _ _ _ h).1⟩
  · obtain ⟨evs, h⟩ := reaches_iff_trail.mp (InstanceRefresh.reaches_polled "Successful")
    have hlater : Reaches (autoRecycle InstanceRefresh.refreshVars) InstanceRefresh.RefreshTasks
        (.at .isInstanceRefreshComplete (InstanceRefresh.polledData "Successful") 0,
          { started := true, polled := [.obj [("Status", .str "Successful")]] }) _ :=
      .head (.goto rfl) (.head (.goto rfl) .refl)
    exact ⟨evs, _, _, _, _, h, hlater, (messages_framed _ _ _ _ _ _ h).2 _ _ _ rfl _ _ _ _ hlater⟩

end AutoRecycle.Messages
