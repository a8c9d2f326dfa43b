/-
  AutoRecycle.Pacing

  The machine "autorecycle" does not spin: up to the end of a pause an execution
  makes 37 moves at most, the retries included, and it makes no pause of less than
  a minute.

  All the loops of the machine but one go through a Wait state.  The default of
  "Mongo Autorecycle Decision" goes straight back to "Recycle Mongo Cluster", and
  only the recycler's code rules it out: every invocation that returns has
  written one of the three actions that the rules name.
-/
import AutoRecycle.Asl.Pace
import AutoRecycle.Mongo.BeforeTerminate
import AutoRecycle.Mongo.Configuration

namespace AutoRecycle.Pacing

open AutoRecycle.Asl AutoRecycle.Data AutoRecycle.Effect AutoRecycle.Py AutoRecycle.StateMachine

/-- The moves from a state to the end of the next pause or of the execution; a
    lambda has nine attempts. -/
def credit : State → Nat
  | .waitForSingleInstanceAsgAutorecycle => 1
  | .waitForAutorecycle => 1
  | .waitForCommencement => 1
  | .waitForInstanceRefresh => 1
  | .waitForMongoAutorecycle => 1
  | .waitForInstanceRefreshStatus => 1
  | .fail => 1
  | .success => 1
  | .status => 2
  | .slackMessageEnd => 3
  | .lambdaError => 4
  | .successfulInstanceRefresh => 4
  | .failedInstanceRefresh => 4
  | .slackMessageStart => 2
  | .standardRecycle => 13
  | .isAutorecyclingDone => 4
  | .monitorAutorecycling => 13
  | .slackMessageSingleInstanceAsg => 2
  | .isFirstRun => 3
  | .recycleSingleInstanceAsg => 13
  | .isAutorecyclingSingleInstanceAsgDone => 14
  | .mongoAutorecycleDecision => 4
  | .recycleMongoCluster => 13
  | .slackMessageMongo => 14
  | .mongoRecycle => 15
  | .isInstanceRefreshComplete => 5
  | .monitorInstanceRefreshProgress => 14
  | .wasARefreshStarted => 15
  | .instanceRefreshStart => 24
  | .slackMessageInstanceRefresh => 25
  | .instanceRefresh => 26
  | .instanceRefreshCancel => 13
  | .instanceRefreshStatus => 27
  | .monitorInstanceRefreshStatus => 36
  | .recordInstanceRefreshStatusState => 37
  | .chooseRecycleStrategy => 37

/-- The decision is taken on the output of an invocation. -/
def Known : State → Json → Prop
  | .mongoAutorecycleDecision, data =>
      ∃ d : Decision, data.get? ["decision", "action"] = some (.str d.action.text)
  | _, _ => True

section
variable {tf : TfVars} {s s' : State}

/-- Everywhere else the edges of the machine are enough. -/
theorem credit_of_targets (hw : ¬ (autoRecycle tf s).Waits) (hs : s ≠ .mongoAutorecycleDecision)
    (h : s' ∈ (autoRecycle tf s).targets) :
    credit s' + (autoRecycle tf s).attempts + 1 ≤ credit s := by
  revert s'
  cases s <;> simp [autoRecycle, StateDef.targets, StateDef.onward, Task.targets, lambdaTask,
    slackMessage, credit, StateDef.attempts, Task.attempts, retryLimit, StateDef.Waits] at hw hs ⊢

theorem attempts_lt_credit (tf : TfVars) (s : State) : (autoRecycle tf s).attempts < credit s := by
  cases s <;> simp [autoRecycle, lambdaTask, slackMessage, credit, StateDef.attempts, Task.attempts,
    retryLimit]

theorem decision_of_target (h : State.mongoAutorecycleDecision ∈ (autoRecycle tf s).targets) :
    s = .recycleMongoCluster := by
  cases s <;> simp [autoRecycle, StateDef.targets, StateDef.onward, Task.targets, lambdaTask,
    slackMessage] at h ⊢

theorem least_pause {pause : Nat} (h : autoRecycle tf s = .wait pause s') : 60 ≤ pause := by
  cases s <;> simp [autoRecycle] at h <;> omega

end

section
variable {tf : TfVars} {faults : TaskError → Prop} {W : Type} {K : Setting Calls W} {w w' : W}
  {data input out : Json} {n : Nat}

/-- An invocation of the recycler that returns has written the action it took. -/
theorem action_of_answer (h : (lambdas faults).tasks K .autorecycleMongo input w (.ok out) w') :
    ∃ d : Decision, out.get? ["decision", "action"] = some (.str d.action.text) := by
  cases h with
  | ret hx =>
      have hruns : Runs (fun _ _ => True) (Mongo.lambdaHandler input) _ (.ret out) :=
        hx.runs fun _ _ _ _ _ => trivial
      obtain ⟨d, -, haction⟩ := Mongo.outcomes_lambdaHandler hruns
      exact ⟨d, haction⟩

/-- "Mongo Autorecycle Decision" is come to with the output of the recycler. -/
theorem known_next {c d : Cfg State} {data' : Json} {n' : Nat}
    (h : Step (autoRecycle tf) ((lambdas faults).tasks K) (c, w) (d, w'))
    (hd : d = .at .mongoAutorecycleDecision data' n') (hc : ∀ s data n, c = .at s data n → Known s data) :
    Known .mongoAutorecycleDecision data' := by
  cases h with
  | @goto s data n _ _ hs =>
      subst hd
      rcases StateDef.goto_leadsTo hs with ⟨s', hmem, data'', heq⟩ | hended
      · cases heq
        obtain rfl := decision_of_target (StateDef.onward_subset _ hmem)
        cases hs
      · exact hended.elim
  | @task s data n t taskInput _ r _ hs hT =>
      have ht := StateDef.eq_task_of_invoke hs
      rcases t.finish_leadsTo s data n r with ⟨e, -, heq, -⟩ | ⟨s', hmem, data'', heq⟩ | hended
      · cases heq.symm.trans hd
        exact hc _ _ _ rfl
      · cases heq.symm.trans hd
        have htarget : State.mongoAutorecycleDecision ∈ (autoRecycle tf s).targets := by
          rw [ht]
          exact hmem
        obtain rfl := decision_of_target htarget
        cases ht
        obtain ⟨out, rfl, hput⟩ := Task.ok_of_finish heq (by decide) (by simp [lambdaTask])
        cases hput
        exact action_of_answer hT
      · rw [hd] at hended
        exact hended.elim

/-- The budget of the machine with the lambdas of the source. -/
theorem budget (tf : TfVars) (faults : TaskError → Prop) (K : Setting Calls W) :
    Budget (autoRecycle tf) ((lambdas faults).tasks K) Known credit 60 37 where
  known_next := by
    intro s data n w s' data' n' w' hknown h
    by_cases hs : s' = .mongoAutorecycleDecision
    · subst hs
      refine known_next h rfl ?_
      intro s₁ data₁ n₁ heq
      cases heq
      exact hknown
    · cases s' <;> trivial
  spends := by
    intro s data n w s' data' w' hw hknown h
    by_cases hs : s = .mongoAutorecycleDecision
    · subst hs
      obtain ⟨d, haction⟩ := hknown
      have hstart := @Mongo.start_mongoAutorecycleDecision tf data d haction
      cases h.of_goto hstart
      by_cases hdone : d.action = .done
      · rw [if_pos hdone]
        exact Nat.le_refl 4
      · rw [if_neg hdone]
        exact Nat.le_add_left 2 2
    · rcases h.leadsTo with ⟨hagain, -⟩ | ⟨s₁, hmem, data₁, heq⟩ | hended
      · cases hagain
      · cases heq
        exact credit_of_targets hw hs hmem
      · exact hended.elim
  attempts_lt := attempts_lt_credit tf
  le_full s := by cases s <;> decide
  pauses hs := least_pause hs

/-- An execution makes 37 moves at most up to the end of its first pause, and 37 for
    every minute that it waits.  "Mongo Autorecycle Decision" never takes its default,
    the way round without a pause. -/
theorem moves_bounded {moves seconds : Nat} {y : Cfg State × W}
    (h : Timed (autoRecycle tf) ((lambdas faults).tasks K) (.at startAt data 0, w) moves seconds y) :
    60 * moves ≤ 37 * (seconds + 60) ∧
      ∀ data' n, y.1 = .at .mongoAutorecycleDecision data' n →
        ∃ d : Decision, data'.get? ["decision", "action"] = some (.str d.action.text) ∧
          (autoRecycle tf .mongoAutorecycleDecision).start data' =
            .goto (.at (if d.action = .done then .slackMessageEnd else .waitForMongoAutorecycle) data' 0) := by
  have hbudget := budget tf faults K
  have hknown : Known startAt data := trivial
  refine ⟨hbudget.moves_le hknown h, fun data' n hy => ?_⟩
  obtain ⟨hkept, -⟩ := hbudget.moves_and_left hknown h
  rw [hy] at hkept
  obtain ⟨⟨d, haction⟩, -⟩ := hkept
  exact ⟨d, haction, Mongo.start_mongoAutorecycleDecision haction⟩

end

-- ============================================================================
-- A recycling that is done when it is first looked at
-- ============================================================================

namespace Quick

def legal : (op : Op) → op.Reply → Prop
  | .invoke _ input, r => r = .ok input
  | _, _ => True

def event : Json :=
  .obj [("component", .str "consul"), ("strategy", .str "standard"), ("status", .str "success"),
    ("recycle_success", .bool true), ("counter", .num 1)]

/-- A lambda that answers with the event that it is given. -/
theorem step_event {tf : TfVars} {s next : State} {t : Task State Resource} {function : String}
    (hs : (autoRecycle tf s).start event = .invoke t event) (h : lambda t.resource = invoke function)
    (hfinish : t.finish s event 0 (.ok event) = .at next event 0) :
    Step (autoRecycle tf) ((lambdas fun _ => False).tasks (Setting.stateless legal))
      (.at s event 0, ()) (.at next event 0, ()) := by
  have hinvoke : Runs legal (invoke function event) [⟨.invoke function event, .ok event⟩] (.ret event) :=
    .call rfl rfl (.refl _ _)
  rw [← h] at hinvoke
  rw [← hfinish]
  exact .task hs (.ret hinvoke)

/-- Nine moves, one of them the end of the pause "Wait For Commencement". -/
theorem timed (tf : TfVars) :
    Timed (autoRecycle tf) ((lambdas fun _ => False).tasks (Setting.stateless legal))
      (.at startAt event 0, ()) 9 120 (.succeeded event, ()) := by
  have hbegin : Timed (autoRecycle tf) ((lambdas fun _ => False).tasks (Setting.stateless legal))
      (.at startAt event 0, ()) 0 0 (.at startAt event 0, ()) := .refl
  have hrecycling := hbegin.move (.goto rfl)
  have hmessage := hrecycling.move (step_event rfl rfl rfl)
  have hstarted := hmessage.move (step_event rfl rfl rfl)
  have hcommenced := hstarted.move (.goto rfl)
  have hmonitored := hcommenced.move (step_event rfl rfl rfl)
  have hdone := hmonitored.move (.goto rfl)
  have hsent := hdone.move (step_event rfl rfl rfl)
  have hstatus := hsent.move (.goto rfl)
  exact hstatus.move (.goto rfl)

end Quick

/-- The quick run, and one of the Mongo branch that comes to its decision twice. -/
theorem moves_bounded_quick :
    (Timed (autoRecycle Mongo.noVars) ((lambdas fun _ => False).tasks (Setting.stateless Quick.legal))
        (.at startAt Quick.event 0, ()) 9 120 (.succeeded Quick.event, ()) ∧
      60 * 9 ≤ 37 * (120 + 60)) ∧
    ∃ moves seconds out w,
      Timed (autoRecycle Mongo.noVars) ((lambdas fun _ => False).tasks (.recording Mongo.configServer))
        (.at startAt Mongo.mongoPayload 0, (Mongo.firstConfig, [])) moves seconds
        (.at .mongoAutorecycleDecision out 0, w) ∧
      60 * moves ≤ 37 * (seconds + 60) ∧
      ∃ d : Decision, out.get? ["decision", "action"] = some (.str d.action.text) ∧
        (autoRecycle Mongo.noVars .mongoAutorecycleDecision).start out =
          .goto (.at (if d.action = .done then .slackMessageEnd else .waitForMongoAutorecycle) out 0) := by
  have hquick := Quick.timed Mongo.noVars
  obtain ⟨out, config, calls, hreaches, -⟩ := Mongo.renewedSet_reaches
  obtain ⟨moves, seconds, htimed⟩ := reaches_iff_timed.mp hreaches
  obtain ⟨hmoves, hdecision⟩ := moves_bounded htimed
  exact ⟨⟨hquick, (moves_bounded hquick).1⟩, moves, seconds, out, _, htimed, hmoves, hdecision out 0 rfl⟩

end AutoRecycle.Pacing
