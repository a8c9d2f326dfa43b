/-
  AutoRecycle.Mongo.WholeRun

  A whole run of the Mongo branch on a replica set.

  `FleetTasks` are the lambdas in a fleet where no call fails; what an invocation
  has terminated is replaced before it returns.  Then no invocation fails
  either, and each comes to its return.  Each recycle takes one stale member away
  and none is ever added, so that the number of stale members is the measure of
  the loop: with `n` of them at the start there are `n` recycles and then one
  `DONE` (`recycles_each_stale_once`).
-/
import AutoRecycle.Mongo.Returns

namespace AutoRecycle.Mongo

open AutoRecycle.Asl AutoRecycle.Effect AutoRecycle.Py AutoRecycle.StateMachine

/-- The lambdas in a fleet where no call fails, with a record of their calls. -/
inductive FleetTasks (targetAmi setName : String) : Tasks Resource (Fleet × Trace Calls) where
  | ret {r input fleet past calls out fleet'}
      (hx : Exec (healthyWorld targetAmi setName) (lambda r input) (fleet, []) calls (.ret out)
        (fleet', calls)) (hwhole : fleet'.missing = []) :
      FleetTasks targetAmi setName r input (fleet, past) (.ok out) (fleet', past ++ calls)
  | throw {r input fleet past calls e fleet'}
      (hx : Exec (healthyWorld targetAmi setName) (lambda r input) (fleet, []) calls (.throw e)
        (fleet', calls)) :
      FleetTasks targetAmi setName r input (fleet, past) (.error (reportError e)) (fleet', past ++ calls)

/-- The text of the last message, after `n` recycles. -/
def finalText (n : Nat) : String :=
  if n = 0 then "No instances were recycled, because there was nothing to do"
  else "Autorecycling has successfully completed. Recycled " ++ toString (n : Int) ++
    " mongo instances."

theorem InLoop.doneText_eq {component : String} {n : Nat} {event : Json}
    (h : InLoop component n event) : doneText event = finalText n := by
  rw [doneText, h.counter_eq, finalText]
  by_cases hn : n = 0
  · rw [if_pos hn, if_pos hn]
  · rw [if_neg hn, if_neg hn]
    rfl

-- ============================================================================
-- The progress of a run
-- ============================================================================

/-- What holds after `k` recycles, with none in progress. -/
structure Recycled (targetAmi : String) (start : Fleet) (k : Nat) (x : Fleet × Trace Calls) : Prop where
  whole : x.1.missing = []
  size_eq : x.1.size = start.size
  recycles : (outcomes x.2).length = k
  not_done : ∀ d ∈ outcomes x.2, d ≠ .done
  terminated : (terminatedIds x.2).length = k
  stale : List.Perm (terminatedIds x.2 ++ x.1.staleIds targetAmi) (start.staleIds targetAmi)
  renewed : start.Renewed targetAmi x.1
  justified : StepDownsJustified targetAmi x.2

/-- What holds once `DONE` is decided: each stale member was recycled, and the
    record has a recycle for each of them and then `DONE`. -/
structure AllRecycled (targetAmi : String) (start : Fleet) (x : Fleet × Trace Calls) : Prop where
  whole : x.1.missing = []
  decisions : ∃ recycles, outcomes x.2 = recycles ++ [.done] ∧
    recycles.length = (start.staleIds targetAmi).length ∧ ∀ d ∈ recycles, d ≠ .done
  none_left : x.1.staleIds targetAmi = []
  terminated : List.Perm (terminatedIds x.2) (start.staleIds targetAmi)
  renewed : start.Renewed targetAmi x.1
  justified : StepDownsJustified targetAmi x.2

namespace Recycled

variable {targetAmi setName component : String} {start fleet' : Fleet} {k : Nat}
  {x : Fleet × Trace Calls} {calls : Trace Calls} {d : Decision}

theorem refl (hwhole : start.missing = []) : Recycled targetAmi start 0 (start, []) where
  whole := hwhole
  size_eq := rfl
  recycles := rfl
  not_done := by simp [outcomes]
  terminated := rfl
  stale := .refl _
  renewed := .refl
  justified := stepDownsJustified_of_none (by simp)

/-- The recycles done and the stale members left make up the stale members of
    the start. -/
theorem length_eq (h : Recycled targetAmi start k x) :
    k + (x.1.staleIds targetAmi).length = (start.staleIds targetAmi).length := by
  rw [← h.stale.length_eq, List.length_append, h.terminated]

/-- One more recycle. -/
theorem recycle (h : Recycled targetAmi start k x) (hd : d ≠ .done)
    (hi : Invocation targetAmi x.1 fleet' d calls) (hwhole : fleet'.missing = []) :
    Recycled targetAmi start (k + 1) (fleet', x.2 ++ calls) ∧
      (fleet'.staleIds targetAmi).length + 1 = (x.1.staleIds targetAmi).length := by
  obtain ⟨node, hnode⟩ : ∃ node, d.node? = some node := by
    cases d with
    | done => exact absurd rfl hd
    | recycleSecondary node => exact ⟨node, rfl⟩
    | stepDownAndRecyclePrimary node => exact ⟨node, rfl⟩
  have hterminated : terminatedIds calls = [node.instanceId] := by
    rw [hi.terminated_eq, hnode]
    rfl
  have hmem : node.instanceId ∈ x.1.staleIds targetAmi := by
    have hstale := hi.stale
    rw [hnode] at hstale
    exact hstale
  have hleft : fleet'.staleIds targetAmi = (x.1.staleIds targetAmi).erase node.instanceId := by
    rw [hi.staleIds_eq, hterminated, List.diff_cons, List.diff_nil]
  have hperm : List.Perm (x.1.staleIds targetAmi) (node.instanceId :: fleet'.staleIds targetAmi) := by
    rw [hleft]
    exact List.perm_cons_erase hmem
  constructor
  · exact
      { whole := hwhole
        size_eq := hi.size_eq.trans h.size_eq
        recycles := by rw [outcomes_append, hi.outcomes_eq, List.length_append, h.recycles]; rfl
        not_done := by
          intro d' hd'
          rw [outcomes_append, hi.outcomes_eq, List.mem_append, List.mem_singleton] at hd'
          rcases hd' with hd' | rfl
          · exact h.not_done d' hd'
          · exact hd
        terminated := by
          rw [terminatedIds_append, hterminated, List.length_append, h.terminated]
          rfl
        stale := by
          rw [terminatedIds_append, hterminated, List.append_assoc]
          exact (hperm.symm.append_left _).trans h.stale
        renewed := h.renewed.trans hi.renewed
        justified := h.justified.append hi.justified }
  · rw [hperm.length_eq, List.length_cons]

/-- The last invocation. -/
theorem done (h : Recycled targetAmi start k x) (hi : Invocation targetAmi x.1 fleet' .done calls)
    (hwhole : fleet'.missing = []) :
    AllRecycled targetAmi start (fleet', x.2 ++ calls) ∧ k = (start.staleIds targetAmi).length := by
  have hnone : x.1.staleIds targetAmi = [] := hi.stale
  have hterminated : terminatedIds calls = [] := hi.terminated_eq
  have hk : k = (start.staleIds targetAmi).length := by
    have hlen := h.length_eq
    rw [hnone] at hlen
    simpa using hlen
  refine ⟨⟨hwhole, ⟨outcomes x.2, ?_, ?_, h.not_done⟩, ?_, ?_, h.renewed.trans hi.renewed,
    h.justified.append hi.justified⟩, hk⟩
  · rw [outcomes_append, hi.outcomes_eq]
  · rw [h.recycles, hk]
  · rw [hi.staleIds_eq, hnone, hterminated]
    rfl
  · have hstale := h.stale
    rw [hnone, List.append_nil] at hstale
    rw [terminatedIds_append, hterminated, List.append_nil]
    exact hstale

/-- A Slack message adds nothing to the progress. -/
theorem slack {input : Json} (h : Recycled targetAmi start k x) : Recycled targetAmi start k
    (x.1, x.2 ++ [⟨.invoke "slack_notifications" input, .ok input⟩]) where
  whole := h.whole
  size_eq := h.size_eq
  recycles := by rw [outcomes_append, List.length_append, h.recycles]; rfl
  not_done d hd := by
    rw [outcomes_append] at hd
    exact h.not_done d (by simpa [outcomes, outcome?] using hd)
  terminated := by rw [terminatedIds_append, List.length_append, h.terminated]; rfl
  stale := by
    rw [terminatedIds_append]
    show List.Perm (terminatedIds x.2 ++ [] ++ x.1.staleIds targetAmi) _
    rw [List.append_nil]
    exact h.stale
  renewed := h.renewed
  justified := h.justified.append (stepDownsJustified_of_none (by simp))

end Recycled

-- ============================================================================
-- The states of the run
-- ============================================================================

/-- The output of the last invocation, and what holds since. -/
structure Completed (targetAmi : String) (start : Fleet) (out : Json) (x : Fleet × Trace Calls) :
    Prop extends AllRecycled targetAmi start x where
  status_eq : out.get? ["status"] = some (.str "success")
  text_eq : out.get? ["message_content", "text"] =
    some (.str (finalText (start.staleIds targetAmi).length))

/-- Where a run can be, and how many steps it has left at most. -/
inductive Stage (tf : TfVars) (targetAmi component : String) (data : Json) (start : Fleet) :
    Nat → Cfg State × (Fleet × Trace Calls) → Prop where
  | chooseRecycleStrategy :
      Stage tf targetAmi component data start (3 * (start.staleIds targetAmi).length + 8)
        (.at startAt data 0, (start, []))
  | mongoRecycle :
      Stage tf targetAmi component data start (3 * (start.staleIds targetAmi).length + 7)
        (.at .mongoRecycle data 0, (start, []))
  | slackMessageMongo :
      Stage tf targetAmi component data start (3 * (start.staleIds targetAmi).length + 6)
        (.at .slackMessageMongo (mongoMessage tf (.str component)) 0, (start, []))
  | decided {d : Decision} {k out x} (hd : d ≠ .done)
      (haction : out.get? ["decision", "action"] = some (.str d.action.text))
      (hevent : InLoop component k out) (h : Recycled targetAmi start k x) :
      Stage tf targetAmi component data start (3 * (x.1.staleIds targetAmi).length + 7)
        (.at .mongoAutorecycleDecision out 0, x)
  | wait {k out x} (hevent : InLoop component k out) (h : Recycled targetAmi start k x) :
      Stage tf targetAmi component data start (3 * (x.1.staleIds targetAmi).length + 6)
        (.at .waitForMongoAutorecycle out 0, x)
  | recycle {k event x} (hevent : InLoop component k event) (h : Recycled targetAmi start k x) :
      Stage tf targetAmi component data start (3 * (x.1.staleIds targetAmi).length + 5)
        (.at .recycleMongoCluster event 0, x)
  | done {out x} (haction : out.get? ["decision", "action"] = some (.str (Decision.action .done).text))
      (h : Completed targetAmi start out x) :
      Stage tf targetAmi component data start 4 (.at .mongoAutorecycleDecision out 0, x)
  | slackMessageEnd {out x} (h : Completed targetAmi start out x) :
      Stage tf targetAmi component data start 3 (.at .slackMessageEnd out 0, x)
  | status {out x} (h : Completed targetAmi start out x) :
      Stage tf targetAmi component data start 2 (.at .status out 0, x)
  | success {out x} (h : Completed targetAmi start out x) :
      Stage tf targetAmi component data start 1 (.at .success out 0, x)
  | succeeded {out x} (h : Completed targetAmi start out x) :
      Stage tf targetAmi component data start 0 (.succeeded out, x)

section
variable {tf : TfVars} {targetAmi setName component : String} {data : Json} {start : Fleet}

/-- A Slack message returns its input and leaves the fleet as it is. -/
theorem slackNotifications_exec {input out : Json} {fleet fleet' : Fleet} {calls : Trace Calls}
    (hwhole : fleet.missing = [])
    (h : Exec (fleetWorld targetAmi setName) (lambda .slackNotifications input) fleet calls (.ret out)
      fleet') :
    out = input ∧ fleet' = fleet ∧ calls = [⟨.invoke "slack_notifications" input, .ok input⟩] := by
  have hsame := (whole_exec h hwhole ⟨rfl, fun reply => issues_raise reply⟩).1
  obtain ⟨r, calls', w₁, w₂, rfl, -, ha, h₁⟩ := Exec.call_ret_inv h
  obtain rfl : r = .ok input := ha.1 rfl
  obtain ⟨rfl, hout⟩ := raise_ret_inv h₁
  cases hout
  exact ⟨rfl, hsame, rfl⟩

theorem slackNotifications_returns (input : Json) {fleet : Fleet} (hwhole : fleet.missing = [])
    (past : Trace Calls) : FleetTasks targetAmi setName .slackNotifications input (fleet, past) (.ok input)
      (fleet, past ++ [⟨.invoke "slack_notifications" input, .ok input⟩]) := by
  have hans : (healthyWorld targetAmi setName).answers (fleet, [])
      (.invoke "slack_notifications" input) (.ok input)
      (fleet, [⟨.invoke "slack_notifications" input, .ok input⟩]) :=
    ⟨⟨⟨fun _ => rfl, rfl⟩, rfl⟩, trivial⟩
  exact .ret (.call ((healthyWorld targetAmi setName).rely_refl _) hans (.refl _ _)) hwhole

/-- An answer of the Slack lambda, in a run that has come so far. -/
theorem FleetTasks.slack_inv {input : Json} {x x' : Fleet × Trace Calls} {r : Except TaskError Json}
    (h : FleetTasks targetAmi setName .slackNotifications input x r x') (hwhole : x.1.missing = []) :
    r = .ok input ∧ x' = (x.1, x.2 ++ [⟨.invoke "slack_notifications" input, .ok input⟩]) := by
  cases h with
  | ret hx hwhole' =>
      obtain ⟨rfl, rfl, rfl⟩ := slackNotifications_exec hwhole (exec_of_healthy hx).1
      exact ⟨rfl, rfl⟩
  | throw hx => exact (hx.throw_post (succeeds_slackNotifications _ _)).elim

theorem Completed.slack {input out : Json} {x : Fleet × Trace Calls}
    (h : Completed targetAmi start out x) : Completed targetAmi start out
      (x.1, x.2 ++ [⟨.invoke "slack_notifications" input, .ok input⟩]) where
  whole := h.whole
  decisions := by
    obtain ⟨recycles, houtcomes, hrest⟩ := h.decisions
    refine ⟨recycles, ?_, hrest⟩
    rw [outcomes_append, houtcomes]
    exact List.append_nil _
  none_left := h.none_left
  terminated := by
    rw [terminatedIds_append]
    show List.Perm (terminatedIds x.2 ++ []) _
    rw [List.append_nil]
    exact h.terminated
  renewed := h.renewed
  justified := h.justified.append (stepDownsJustified_of_none (by simp))
  status_eq := h.status_eq
  text_eq := h.text_eq

/-- An answer of the recycler. -/
theorem Recycled.invocation {k : Nat} {event : Json} {x x' : Fleet × Trace Calls}
    {r : Except TaskError Json} (h : Recycled targetAmi start k x) (hmembers : x.1.members ≠ [])
    (hevent : InLoop component k event)
    (hT : FleetTasks targetAmi setName .autorecycleMongo event x r x') :
    ∃ out, r = .ok out ∧ ((∃ d : Decision, d ≠ .done ∧
        out.get? ["decision", "action"] = some (.str d.action.text) ∧ InLoop component (k + 1) out ∧
        Recycled targetAmi start (k + 1) x' ∧
        (x'.1.staleIds targetAmi).length + 1 = (x.1.staleIds targetAmi).length) ∨
      (out.get? ["decision", "action"] = some (.str (Decision.action .done).text) ∧
        Completed targetAmi start out x')) := by
  cases hT with
  | @ret _ _ _ _ _ out _ hx hwhole =>
      obtain ⟨d, hfinish, hi⟩ := lambdaHandler_exec h.whole (exec_of_healthy hx).1
      obtain ⟨out', hout', hloop, haction, htext⟩ := hevent.finishEvent_ok d
      cases hfinish.symm.trans hout'
      refine ⟨_, rfl, ?_⟩
      by_cases hd : d = .done
      · subst hd
        obtain ⟨hall, hk⟩ := h.done hi hwhole
        have htext' := htext rfl
        rw [hevent.doneText_eq, hk] at htext'
        have hstatus : out.get? ["status"] = some (.str "success") := by
          rw [Json.get?_cons, hloop.status_eq]
          rfl
        exact .inr ⟨haction, { hall with status_eq := hstatus, text_eq := htext' }⟩
      · obtain ⟨hrecycled, hlen⟩ := h.recycle hd hi hwhole
        exact .inl ⟨d, hd, haction, hloop, hrecycled, hlen⟩
  | throw hx => exact absurd rfl ((lambdaHandler_returns hevent h.whole hmembers hx).1 _)

theorem Recycled.members_ne_nil {k : Nat} {x : Fleet × Trace Calls} (h : Recycled targetAmi start k x)
    (hwhole : start.missing = []) (hmembers : start.members ≠ []) : x.1.members ≠ [] := by
  intro hnil
  have hsize := h.size_eq
  rw [Fleet.size, Fleet.size, h.whole, hwhole, hnil] at hsize
  have hlen : start.members.length = 0 := by simpa using hsize.symm
  exact hmembers (List.length_eq_zero_iff.mp hlen)

/-- One step of a run. -/
theorem Stage.step (hstrategy : data.get? ["strategy"] = some (.str "mongo"))
    (hcomponent : data.get? ["component"] = some (.str component)) (hwhole : start.missing = [])
    (hmembers : start.members ≠ []) {k : Nat} {x y : Cfg State × (Fleet × Trace Calls)}
    (h : Stage tf targetAmi component data start k x)
    (hs : Step (autoRecycle tf) (FleetTasks targetAmi setName) x y) :
    ∃ k' < k, Stage tf targetAmi component data start k' y := by
  cases h with
  | chooseRecycleStrategy =>
      obtain rfl := Step.of_goto (start_chooseRecycleStrategy hstrategy) hs
      exact ⟨_, by omega, .mongoRecycle⟩
  | mongoRecycle =>
      obtain rfl := Step.of_goto (start_mongoRecycle hcomponent) hs
      exact ⟨_, by omega, .slackMessageMongo⟩
  | slackMessageMongo =>
      obtain ⟨r, x', hT, rfl⟩ := Step.of_invoke rfl hs
      obtain ⟨rfl, rfl⟩ := FleetTasks.slack_inv hT hwhole
      have hrecycled := @Recycled.slack targetAmi start 0 (start, []) (mongoMessage tf (.str component))
        (Recycled.refl hwhole)
      exact ⟨3 * (start.staleIds targetAmi).length + 5, by omega,
        .recycle (inLoop_mongoMessage tf component) hrecycled⟩
  | decided hd haction hevent h =>
      have hstart := @start_mongoAutorecycleDecision tf _ _ haction
      have hnot : ¬ _ = Action.done :=
        fun hdone => hd ((@done_iff_of_text _ .done (congrArg Action.text hdone)).mpr rfl)
      rw [if_neg hnot] at hstart
      obtain rfl := Step.of_goto hstart hs
      exact ⟨_, by omega, .wait hevent h⟩
  | wait hevent h =>
      obtain rfl := Step.of_goto rfl hs
      exact ⟨_, by omega, .recycle hevent h⟩
  | recycle hevent h =>
      obtain ⟨r, x', hT, rfl⟩ := Step.of_invoke rfl hs
      obtain ⟨out, rfl, hnext⟩ := h.invocation (h.members_ne_nil hwhole hmembers) hevent hT
      rcases hnext with ⟨d, hd, haction, hloop, hrecycled, hlen⟩ | ⟨haction, hcompleted⟩
      · exact ⟨_, by omega, .decided hd haction hloop hrecycled⟩
      · exact ⟨4, by omega, .done haction hcompleted⟩
  | done haction h =>
      have hstart := @start_mongoAutorecycleDecision tf _ .done haction
      obtain rfl := Step.of_goto hstart hs
      exact ⟨3, by omega, .slackMessageEnd h⟩
  | slackMessageEnd h =>
      obtain ⟨r, x', hT, rfl⟩ := Step.of_invoke rfl hs
      obtain ⟨rfl, rfl⟩ := FleetTasks.slack_inv hT h.whole
      exact ⟨2, by omega, .status h.slack⟩
  | status h =>
      obtain rfl := Step.of_goto (start_status h.status_eq) hs
      exact ⟨1, by omega, .success h⟩
  | success h =>
      obtain rfl := Step.of_goto rfl hs
      exact ⟨0, by omega, .succeeded h⟩
  | succeeded h => exact absurd trivial hs.not_ended

/-- A run that has not ended can go on. -/
theorem Stage.goes_on (hstrategy : data.get? ["strategy"] = some (.str "mongo"))
    (hcomponent : data.get? ["component"] = some (.str component)) (hwhole : start.missing = [])
    (hmembers : start.members ≠ []) {k : Nat} {x : Cfg State × (Fleet × Trace Calls)}
    (h : Stage tf targetAmi component data start k x) (hx : ¬ x.1.Ended) :
    ∃ y, Step (autoRecycle tf) (FleetTasks targetAmi setName) x y := by
  cases h with
  | chooseRecycleStrategy => exact ⟨_, .goto (start_chooseRecycleStrategy hstrategy)⟩
  | mongoRecycle => exact ⟨_, .goto (start_mongoRecycle hcomponent)⟩
  | slackMessageMongo => exact ⟨_, .task rfl (slackNotifications_returns _ hwhole [])⟩
  | decided hd haction hevent h => exact ⟨_, .goto (start_mongoAutorecycleDecision haction)⟩
  | wait hevent h => exact ⟨_, .goto rfl⟩
  | @recycle k event x hevent h =>
      obtain ⟨fleet, past⟩ := x
      obtain ⟨-, calls, out, ⟨fleet', record⟩, hx, hwhole'⟩ := @lambdaHandler_returns targetAmi setName
        component event k hevent fleet h.whole (h.members_ne_nil hwhole hmembers) [] _ _ (.refl _ _)
      obtain rfl : record = calls := (exec_of_healthy hx).2
      exact ⟨_, .task rfl (.ret hx hwhole')⟩
  | done haction h => exact ⟨_, .goto (start_mongoAutorecycleDecision haction)⟩
  | @slackMessageEnd out x h =>
      obtain ⟨fleet, past⟩ := x
      exact ⟨_, .task rfl (slackNotifications_returns out h.whole past)⟩
  | status h => exact ⟨_, .goto (start_status h.status_eq)⟩
  | success h => exact ⟨_, .goto rfl⟩
  | succeeded h => exact absurd trivial hx

/-- Whatever its calls are answered, a task does not raise, and can go on to a
    return with nothing missing. -/
theorem Stage.returns (hstrategy : data.get? ["strategy"] = some (.str "mongo"))
    (hcomponent : data.get? ["component"] = some (.str component)) (hwhole : start.missing = [])
    (hmembers : start.members ≠ []) {k n : Nat} {s : State} {data' input : Json} {fleet : Fleet}
    {past calls : Trace Calls} {t : Task State Resource} {q : Py Json} {y : Fleet × Trace Calls}
    (h : Stage tf targetAmi component data start k (.at s data' n, (fleet, past)))
    (hs : (autoRecycle tf s).start data' = .invoke t input)
    (hx : Exec (healthyWorld targetAmi setName) (lambda t.resource input) (fleet, []) calls q y) :
    (∀ e, q ≠ .throw e) ∧ ∃ calls' out y', Exec (healthyWorld targetAmi setName) q y calls' (.ret out) y' ∧
      y'.1.missing = [] := by
  have hslack : ∀ {input : Json},
      Exec (healthyWorld targetAmi setName) (lambda .slackNotifications input) (fleet, []) calls q y →
      (∀ e, q ≠ .throw e) ∧ ∃ calls' out y',
        Exec (healthyWorld targetAmi setName) q y calls' (.ret out) y' ∧ y'.1.missing = [] := by
    intro input hx
    obtain ⟨hnot, calls', out, y', hret, -⟩ :=
      hx.exists_ret healthyWorld_receptive (succeeds_slackNotifications input _)
    exact ⟨hnot, exists_ret_whole ⟨calls', out, y', hret⟩⟩
  cases h with
  | chooseRecycleStrategy => cases (start_chooseRecycleStrategy hstrategy).symm.trans hs
  | mongoRecycle => cases (start_mongoRecycle hcomponent).symm.trans hs
  | slackMessageMongo =>
      cases hs
      exact hslack hx
  | decided _ haction => cases (start_mongoAutorecycleDecision haction).symm.trans hs
  | wait => cases hs
  | recycle hevent h =>
      cases hs
      exact lambdaHandler_returns hevent h.whole (h.members_ne_nil hwhole hmembers) hx
  | done haction => cases (@start_mongoAutorecycleDecision tf _ .done haction).symm.trans hs
  | slackMessageEnd =>
      cases hs
      exact hslack hx
  | status h => cases (start_status h.status_eq).symm.trans hs
  | success => cases hs

/-- At any time only stale members of the start were terminated, and what runs
    is a member of the start or a fresh instance on the target AMI. -/
theorem Stage.safe (hwhole : start.missing = []) {k : Nat} {x : Cfg State × (Fleet × Trace Calls)}
    (h : Stage tf targetAmi component data start k x) :
    (∃ rest, List.Perm (terminatedIds x.2.2 ++ rest) (start.staleIds targetAmi)) ∧
      start.Renewed targetAmi x.2.1 ∧ StepDownsJustified targetAmi x.2.2 := by
  have hloop : ∀ {k : Nat} {y : Fleet × Trace Calls}, Recycled targetAmi start k y →
      (∃ rest, List.Perm (terminatedIds y.2 ++ rest) (start.staleIds targetAmi)) ∧
        start.Renewed targetAmi y.1 ∧ StepDownsJustified targetAmi y.2 :=
    fun h => ⟨⟨_, h.stale⟩, h.renewed, h.justified⟩
  have hdone : ∀ {out : Json} {y : Fleet × Trace Calls}, Completed targetAmi start out y →
      (∃ rest, List.Perm (terminatedIds y.2 ++ rest) (start.staleIds targetAmi)) ∧
        start.Renewed targetAmi y.1 ∧ StepDownsJustified targetAmi y.2 := by
    intro out y h
    refine ⟨⟨[], ?_⟩, h.renewed, h.justified⟩
    rw [List.append_nil]
    exact h.terminated
  cases h with
  | chooseRecycleStrategy => exact hloop (.refl hwhole)
  | mongoRecycle => exact hloop (.refl hwhole)
  | slackMessageMongo => exact hloop (.refl hwhole)
  | decided _ _ _ h => exact hloop h
  | wait _ h => exact hloop h
  | recycle _ h => exact hloop h
  | done _ h => exact hdone h
  | slackMessageEnd h => exact hdone h
  | status h => exact hdone h
  | success h => exact hdone h
  | succeeded h => exact hdone h

-- ============================================================================
-- The whole run
-- ============================================================================

/-- The runs of the Mongo branch on a replica set come to an end with each stale
    member recycled once, and nothing else. -/
structure RecyclesExactly (tf : TfVars) (targetAmi setName : String) (data : Json) (start : Fleet) :
    Prop where
  /-- An invocation does not raise; and from wherever it has come, whatever its
      calls were answered, it goes on to a return, with nothing missing. -/
  returns : ∀ s data' n fleet past t input calls q y, Reaches (autoRecycle tf)
    (FleetTasks targetAmi setName) (.at startAt data 0, (start, [])) (.at s data' n, (fleet, past)) →
    (autoRecycle tf s).start data' = .invoke t input →
    Exec (healthyWorld targetAmi setName) (lambda t.resource input) (fleet, []) calls q y →
    (∀ e, q ≠ .throw e) ∧ ∃ calls' out y',
      Exec (healthyWorld targetAmi setName) q y calls' (.ret out) y' ∧ y'.1.missing = []
  /-- A run that has not ended goes on. -/
  goes_on : ∀ x, Reaches (autoRecycle tf) (FleetTasks targetAmi setName)
    (.at startAt data 0, (start, [])) x → ¬ x.1.Ended →
    ∃ y, Step (autoRecycle tf) (FleetTasks targetAmi setName) x y
  /-- No run goes on for ever. -/
  ends : Acc (fun y x => Step (autoRecycle tf) (FleetTasks targetAmi setName) x y)
    (.at startAt data 0, (start, []))
  /-- At any time what was terminated are stale members of the start, each once;
      what runs is a member of the start or a fresh instance on the target AMI. -/
  safe : ∀ x, Reaches (autoRecycle tf) (FleetTasks targetAmi setName)
    (.at startAt data 0, (start, [])) x →
    (terminatedIds x.2.2).Nodup ∧ (∀ id ∈ terminatedIds x.2.2, id ∈ start.staleIds targetAmi) ∧
      start.Renewed targetAmi x.2.1 ∧ StepDownsJustified targetAmi x.2.2
  /-- At the end there was one recycle for each stale member, and then `DONE`. -/
  exact : ∀ x, Ends (autoRecycle tf) (FleetTasks targetAmi setName)
    (.at startAt data 0, (start, [])) x →
    ∃ out recycles, x.1 = .succeeded out ∧ outcomes x.2.2 = recycles ++ [.done] ∧
      recycles.length = (start.staleIds targetAmi).length ∧ (∀ d ∈ recycles, d ≠ .done) ∧
      (terminatedIds x.2.2).Nodup ∧
      (∀ id, id ∈ terminatedIds x.2.2 ↔ id ∈ start.staleIds targetAmi) ∧
      x.2.1.staleIds targetAmi = [] ∧ out.get? ["message_content", "text"] =
        some (.str (finalText (start.staleIds targetAmi).length))

theorem recycles_each_stale_once (hstrategy : data.get? ["strategy"] = some (.str "mongo"))
    (hcomponent : data.get? ["component"] = some (.str component)) (hwhole : start.missing = [])
    (hmembers : start.members ≠ []) : RecyclesExactly tf targetAmi setName data start := by
  have hfirst := @Stage.chooseRecycleStrategy tf targetAmi component data start
  have hstep : ∀ {k x y}, Stage tf targetAmi component data start k x →
      Step (autoRecycle tf) (FleetTasks targetAmi setName) x y →
      ∃ k' < k, Stage tf targetAmi component data start k' y :=
    fun h hs => h.step hstrategy hcomponent hwhole hmembers hs
  constructor
  · intro s data' n fleet past t input calls q y hr hs hx
    obtain ⟨k, hk⟩ := rank_reaches hstep hfirst hr
    exact hk.returns hstrategy hcomponent hwhole hmembers hs hx
  · intro x hx hended
    obtain ⟨k, hk⟩ := rank_reaches hstep hfirst hx
    exact hk.goes_on hstrategy hcomponent hwhole hmembers hended
  · exact acc_of_rank hstep hfirst
  · intro x hx
    obtain ⟨k, hk⟩ := rank_reaches hstep hfirst hx
    obtain ⟨⟨rest, hperm⟩, hrenewed, hjustified⟩ := hk.safe hwhole
    have hnodup := hperm.nodup_iff.mpr Fleet.nodup_staleIds
    refine ⟨(List.nodup_append.mp hnodup).1, fun id hid => ?_, hrenewed, hjustified⟩
    exact hperm.mem_iff.mp (List.mem_append_left rest hid)
  · rintro x ⟨hx, hended⟩
    obtain ⟨k, hk⟩ := rank_reaches hstep hfirst hx
    cases hk with
    | succeeded h =>
        obtain ⟨recycles, houtcomes, hlen, hnot⟩ := h.decisions
        exact ⟨_, recycles, rfl, houtcomes, hlen, hnot, h.terminated.nodup_iff.mpr Fleet.nodup_staleIds,
          fun id => h.terminated.mem_iff, h.none_left, h.text_eq⟩
    | _ => exact hended.elim

/-- A replica set of a stale PRIMARY or SECONDARY, a member on the target AMI and
    an arbiter that is off it. -/
def mixedFleet : Fleet where
  members := [⟨"i-a", "ami-1", "10.0.0.1", false⟩, ⟨"i-b", "ami-2", "10.0.0.2", false⟩,
    ⟨"i-c", "ami-1", "10.0.0.3", true⟩]
  missing := []
  used := ["i-a", "i-b", "i-c"]
  ids_used := by simp
  ids_nodup := by simp
  ips_nodup := by simp

theorem recycles_each_stale_once_mixedFleet :
    RecyclesExactly noVars "ami-2" "rs0" mongoPayload mixedFleet :=
  @recycles_each_stale_once noVars "ami-2" "rs0" "web_mongo" mongoPayload mixedFleet
    (by simp [mongoPayload, Data.Dict.get?]) (by simp [mongoPayload, Data.Dict.get?]) rfl
    (by simp [mixedFleet])

end

end AutoRecycle.Mongo
