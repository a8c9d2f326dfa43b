/-
  AutoRecycle.ScaleAsg.InOutRun

  Whole runs of the in-out branch.

  The scale-ASG lambda is invoked with the responses `aws 0`, `aws 1`, ..., and
  the Slack lambda returns its input.  The execution is deterministic; what its
  end says about the recycling is decided by three parties: the counter limits
  of the handler, the Choice that leaves the loop, and the Choice "Status" that
  looks at the `status` of the last output only.
-/
import AutoRecycle.ScaleAsg.Specification
import AutoRecycle.StateMachine

namespace AutoRecycle.ScaleAsg

open AutoRecycle.Asl AutoRecycle.Data AutoRecycle.Effect AutoRecycle.StateMachine

/-- The tasks of the in-out branch.  The world is the list of the outputs of the
    scale-ASG lambda so far. -/
inductive InOutTasks (aws : Nat → Responses) : Tasks Resource (List Event) where
  | scaleAsg {input outputs output fp}
      (h : (handleEvent input).run (aws outputs.length).answer {} = (.ok output, fp)) :
      InOutTasks aws .autorecycleScaleAsg input outputs (.ok output.modelDump) (outputs ++ [output])
  | scaleAsgRaises {input outputs e fp}
      (h : (handleEvent input).run (aws outputs.length).answer {} = (.error e, fp)) :
      InOutTasks aws .autorecycleScaleAsg input outputs
        (.error { error := e.cls.name, cause := e.arg.getD "" }) outputs
  | slack {input outputs} :
      InOutTasks aws .slackNotifications input outputs (.ok input) outputs

theorem InOutTasks.deterministic (aws : Nat → Responses) : Deterministic (InOutTasks aws) := by
  intro r input outputs a a' w₁ w₂ h₁ h₂
  cases h₁ with
  | scaleAsg h =>
    cases h₂ with
    | scaleAsg h' => cases h.symm.trans h'; exact ⟨rfl, rfl⟩
    | scaleAsgRaises h' => cases h.symm.trans h'
  | scaleAsgRaises h =>
    cases h₂ with
    | scaleAsg h' => cases h.symm.trans h'
    | scaleAsgRaises h' => cases h.symm.trans h'; exact ⟨rfl, rfl⟩
  | slack => cases h₂; exact ⟨rfl, rfl⟩

-- ============================================================================
-- What an invocation comes to
-- ============================================================================

namespace Responses

variable (env : Responses) (component : String)

/-- Every ASG has been recycled. -/
def NothingLeft : Prop :=
  ∃ asgs, env.Reads component asgs ∧ env.AllDone asgs ∧ env.AllSuccessful asgs ∧
    firstEmpty asgs = none ∧ env.firstNeeding asgs = none

/-- The policy on the ASG that is next raises. -/
def PolicyRaises (asgs : List AutoScalingGroup) : Prop :=
  (∃ asg e, firstEmpty asgs = some asg ∧
    env.policy asg.autoScalingGroupName "recycle-scale-out" = .error e) ∨
  (firstEmpty asgs = none ∧ ∃ x e, env.firstNeeding asgs = some x ∧
    env.policy x.1.autoScalingGroupName "recycle-scale-in" = .error e)

/-- A call raises, or all last activities are finished and one was not successful. -/
def Broken : Prop :=
  env.ReadsRaise component ∨ ∃ asgs, env.Reads component asgs ∧ env.AllDone asgs ∧
    (¬ env.AllSuccessful asgs ∨ env.PolicyRaises asgs)

variable {env component}

theorem nothingLeft_iff : env.NothingLeft component ↔ env.plan component = .finished :=
  plan_eq_finished_iff.symm

/-- The plan for which the output is a failure. -/
def Plan.Broken (env : Responses) : Plan → Prop
  | raised _ => True
  | notSuccessful => True
  | act next => ∃ e, env.policy next.asgName ("recycle-scale-" ++ next.action.text) = .error e
  | waiting => False
  | finished => False

theorem broken_iff : env.Broken component ↔ (env.plan component).Broken env := by
  by_cases hraise : env.ReadsRaise component
  · obtain ⟨e, hp⟩ := plan_of_readsRaise hraise
    rw [hp]
    exact iff_of_true (.inl hraise) trivial
  obtain ⟨asgs, hr⟩ := not_readsRaise_iff.mp hraise
  have hbroken : env.Broken component ↔
      env.AllDone asgs ∧ (¬ env.AllSuccessful asgs ∨ env.PolicyRaises asgs) := by
    constructor
    · rintro (h | ⟨asgs', hr', h⟩)
      · exact absurd h hraise
      · rwa [hr.eq hr'] at h
    · exact fun h => .inr ⟨asgs, hr, h⟩
  rw [hbroken]
  by_cases hd : env.AllDone asgs
  · by_cases hs : env.AllSuccessful asgs
    · rw [plan_of_allSuccessful hr hd hs, PolicyRaises]
      cases hf : firstEmpty asgs with
      | some asg => simp [hd, hs, Plan.Broken, Direction.text]
      | none =>
        cases hn : env.firstNeeding asgs with
        | some x => simp [hd, hs, Plan.Broken, Direction.text]
        | none => simp [hs, Plan.Broken]
    · rw [plan_of_not_allSuccessful hr hd hs]
      exact iff_of_true ⟨hd, .inl hs⟩ trivial
  · rw [plan_of_not_allDone hr hd]
    exact iff_of_false (fun h => hd h.1) id

variable {event : Event}

/-- The output of an invocation, as far as the end of a run depends on it. -/
theorem outcome_cases :
    (env.NothingLeft event.component ∧ Completes (env.outcome event)) ∨
    (¬ env.NothingLeft event.component ∧ env.Broken event.component ∧ Fails (env.outcome event)) ∨
    (¬ env.NothingLeft event.component ∧ ¬ env.Broken event.component ∧
      GoesOn (env.outcome event)) := by
  rw [nothingLeft_iff, broken_iff]
  cases hp : env.plan event.component with
  | finished => exact .inl ⟨rfl, completes_of_finished hp⟩
  | raised e => exact .inr (.inl ⟨nofun, trivial, fails_of_raised hp⟩)
  | notSuccessful => exact .inr (.inl ⟨nofun, trivial, fails_of_notSuccessful hp⟩)
  | waiting => exact .inr (.inr ⟨nofun, id, goesOn_of_waiting hp⟩)
  | act next =>
    obtain ⟨-, hout⟩ := executes_of_act hp
    split at hout
    · rename_i hok
      refine .inr (.inr ⟨nofun, ?_, hout⟩)
      rintro ⟨e, he⟩
      rw [hok] at he
      cases he
    · rename_i e he
      exact .inr (.inl ⟨nofun, ⟨e, he⟩, hout⟩)

theorem component_outcome : (env.outcome event).component = event.component := by
  rw [outcome]
  cases env.plan event.component with
  | act next =>
    simp only [Plan.result]
    cases env.policy next.asgName ("recycle-scale-" ++ next.action.text) <;> rfl
  | _ => rfl

end Responses

-- ============================================================================
-- One pass through the loop
-- ============================================================================

/-- The event that `scale_asg` gets on the invocation with `data`. -/
def scaledEvent (event : Event) : Event := if firstInvocation event then started event else event

/-- In the loop: the state data validates, and its counter is the number of the
    invocations so far. -/
structure InLoop (component : String) (data : Json) (outputs : List Event) (event : Event) :
    Prop where
  valid : Event.modelValidate data = .ok event
  component_eq : event.component = component
  fresh : outputs = [] → firstInvocation event = true
  counted : outputs ≠ [] → event.counter = .set (some outputs.length)

theorem InLoop.run_handleEvent {component : String} {data : Json} {outputs : List Event}
    {event : Event} (h : InLoop component data outputs event) (hlen : outputs.length ≤ 20)
    (env : Responses) :
    ∃ fp, (handleEvent data).run env.answer {} = (.ok (env.outcome (scaledEvent event)), fp) := by
  rw [handleEvent, h.valid, Py.raise_ok, Prog.ret_bind]
  cases houtputs : outputs with
  | nil =>
    rw [scaledEvent, h.fresh houtputs]
    obtain ⟨ticks, hrun⟩ := env.run_scaleAsg (started event)
    exact ⟨_, hrun⟩
  | cons o os =>
    have hcounter := h.counted (by simp [houtputs])
    have hpos : 0 < outputs.length := by simp [houtputs]
    have hnot : firstInvocation event = false := by
      simp only [firstInvocation, hcounter, Field.get_set, Option.some.injEq, reduceCtorEq,
        decide_false, Bool.false_or, decide_eq_false_iff_not]
      omega
    have hsmall : event.counter.get.getD 0 < 60 := by
      simp only [hcounter, Field.get_set, Option.getD_some]
      omega
    rw [scaledEvent, hnot, if_neg Bool.false_ne_true, if_pos hsmall, if_neg Bool.false_ne_true]
    obtain ⟨ticks, hrun⟩ := env.run_scaleAsg event
    exact ⟨_, hrun⟩

theorem InLoop.nextCounter {component : String} {data : Json} {outputs : List Event}
    {event : Event} (h : InLoop component data outputs event) :
    nextCounter (scaledEvent event) = (outputs.length + 1 : Nat) := by
  cases houtputs : outputs with
  | nil =>
    rw [scaledEvent, h.fresh houtputs]
    rfl
  | cons o os =>
    have hcounter := h.counted (by simp [houtputs])
    rw [nextCounter_eq, scaledEvent]
    split
    · rename_i hfirst
      simp [firstInvocation, hcounter, houtputs] at hfirst
      omega
    · simp [hcounter, houtputs]

theorem scaledEvent_component (event : Event) :
    (scaledEvent event).component = event.component := by
  rw [scaledEvent]
  split <;> rfl

/-- The output of the next invocation. -/
def nextOutput (aws : Nat → Responses) (outputs : List Event) (event : Event) : Event :=
  (aws outputs.length).outcome (scaledEvent event)

section
variable {tf : TfVars} {aws : Nat → Responses} {component : String} {data : Json}
  {outputs : List Event} {event : Event}

theorem InLoop.counter_nextOutput (h : InLoop component data outputs event) :
    (nextOutput aws outputs event).counter = .set (some (outputs.length + 1 : Nat)) := by
  rw [nextOutput, Responses.counter_outcome, h.nextCounter]

/-- The loop goes on with the output of the invocation. -/
theorem InLoop.next (h : InLoop component data outputs event) :
    InLoop component (nextOutput aws outputs event).modelDump
      (outputs ++ [nextOutput aws outputs event]) (nextOutput aws outputs event) where
  valid := Event.modelValidate_modelDump _
  component_eq := by
    rw [nextOutput, Responses.component_outcome, scaledEvent_component, h.component_eq]
  fresh hnil := by simp at hnil
  counted _ := by
    rw [h.counter_nextOutput]
    simp

theorem get?_counter {e : Event} {n : Int} (h : e.counter = .set (some n)) :
    e.modelDump.get? ["counter"] = some (.num n) := by
  rw [Json.get?_cons, e.field?_modelDump.1, h]
  rfl

theorem get?_recycleSuccess {e : Event} {b : Bool} (h : e.recycleSuccess = .set (some b)) :
    e.modelDump.get? ["recycle_success"] = some (.bool b) := by
  rw [Json.get?_cons, e.field?_modelDump.2.1, h]
  rfl

theorem get?_status {e : Event} {st : Status} (h : e.status = .set (some st)) :
    e.modelDump.get? ["status"] = some st.dump := by
  rw [Json.get?_cons, e.field?_modelDump.2.2, h]
  rfl

theorem start_isFirstRun {d : Json} {n : Nat} (h : d.get? ["counter"] = some (.num n)) :
    (autoRecycle tf .isFirstRun).start d =
      .goto (.at (if n ≤ 1 then .slackMessageSingleInstanceAsg
        else .waitForSingleInstanceAsgAutorecycle) d 0) := by
  by_cases hn : n ≤ 1
  · have hle : ((n : Int) ≤ 1) := by omega
    simp only [autoRecycle, StateDef.start, choose, Cond.eval, h, Option.map_some, hle, hn,
      decide_true, if_true]
  · have hgt : ¬ ((n : Int) ≤ 1) := by omega
    simp only [autoRecycle, StateDef.start, choose, Cond.eval, h, Option.map_some, hgt, hn,
      decide_false, if_false]

/-- The Choice that may leave the loop. -/
theorem start_isDone {d : Json} {n : Nat} {b : Bool} (hc : d.get? ["counter"] = some (.num n))
    (hs : d.get? ["recycle_success"] = some (.bool b)) :
    (autoRecycle tf .isAutorecyclingSingleInstanceAsgDone).start d =
      .goto (.at (if b = true ∨ 20 < n then .slackMessageEnd else .recycleSingleInstanceAsg) d 0) :=
  congrArg Move.goto (choose_done _ hc hs)

/-- From the invocation to the Choice that may leave the loop. -/
theorem InLoop.reaches_done (h : InLoop component data outputs event)
    (hlen : outputs.length ≤ 20) :
    Reaches (autoRecycle tf) (InOutTasks aws) (.at .recycleSingleInstanceAsg data 0, outputs)
      (.at .isAutorecyclingSingleInstanceAsgDone (nextOutput aws outputs event).modelDump 0,
        outputs ++ [nextOutput aws outputs event]) := by
  obtain ⟨fp, hrun⟩ := h.run_handleEvent hlen (aws outputs.length)
  have hcounter : (nextOutput aws outputs event).counter = _ := h.counter_nextOutput
  refine .head (.task rfl (.scaleAsg hrun)) ?_
  refine .head (.goto (start_isFirstRun (get?_counter hcounter))) ?_
  split
  · exact .head (.task rfl .slack) (.single (.goto rfl))
  · exact .single (.goto rfl)

/-- The end of an execution that leaves the loop with the output `e`. -/
def endOf (e : Event) : Cfg State :=
  if e.status = .set (some (.text "fail")) then .failed "Fail" "Execution failed"
  else .succeeded e.modelDump

theorem ends_of_status {e : Event} {st : Status} (h : e.status = .set (some st)) :
    Ends (autoRecycle tf) (InOutTasks aws) (.at .slackMessageEnd e.modelDump 0, outputs)
      (endOf e, outputs) := by
  have hget := get?_status h
  refine ⟨.head (.task rfl .slack) ?_, ?_⟩
  · by_cases hfail : st = .text "fail"
    · have hstart : (autoRecycle tf .status).start e.modelDump = .goto (.at .fail e.modelDump 0) := by
        simp only [autoRecycle, StateDef.start, choose, Cond.eval, hget, hfail, Status.dump,
          Option.map_some, decide_true]
      rw [endOf, if_pos (by rw [h, hfail])]
      exact .head (.goto hstart) (.single (.goto rfl))
    · have hstart : (autoRecycle tf .status).start e.modelDump =
          .goto (.at .success e.modelDump 0) := by
        cases st with
        | flag b => simp only [autoRecycle, StateDef.start, choose, Cond.eval, hget, Status.dump,
            Option.map_some]
        | text s =>
          have hs : s ≠ "fail" := fun hs => hfail (by rw [hs])
          simp only [autoRecycle, StateDef.start, choose, Cond.eval, hget, Status.dump,
            Option.map_some, hs, decide_false]
      rw [endOf, if_neg (by rw [h]; simpa using hfail)]
      exact .head (.goto hstart) (.single (.goto rfl))
  · rw [endOf]
    split <;> trivial

end

-- ============================================================================
-- The end of a run
-- ============================================================================

/-- The last output says that the recycling is complete. -/
def LastReportsSuccess (outputs : List Event) : Prop :=
  ∃ output, outputs.getLast? = some output ∧ output.recycleSuccess = .set (some true)

/-- The end agrees with the last output: it is the Succeed state if that reports
    success, and the Fail state otherwise. -/
def EndAgrees (e : Cfg State) (outputs : List Event) : Prop :=
  (e.Succeeded ↔ LastReportsSuccess outputs) ∧
    (¬ LastReportsSuccess outputs → e = .failed "Fail" "Execution failed")

/-- From the `k`-th invocation on: some invocation up to the 21st finds nothing
    left to do, or the 21st is broken. -/
def EndsInTime (aws : Nat → Responses) (component : String) (k : Nat) : Prop :=
  (∃ j, k ≤ j ∧ j ≤ 20 ∧ (aws j).NothingLeft component) ∨ (aws 20).Broken component

theorem endAgrees_iff {output : Event} {outputs : List Event} {b : Bool}
    (h : output.recycleSuccess = .set (some b)) :
    EndAgrees (endOf output) (outputs ++ [output]) ↔
      (b = true ↔ output.status ≠ .set (some (.text "fail"))) := by
  have hlast : LastReportsSuccess (outputs ++ [output]) ↔ b = true := by
    simp [LastReportsSuccess, h]
  rw [EndAgrees, hlast, endOf]
  by_cases hs : output.status = .set (some (.text "fail"))
  · simp [hs, Cfg.Succeeded]
  · cases b <;> simp [hs, Cfg.Succeeded]

theorem endsInTime_succ {aws : Nat → Responses} {component : String} {k : Nat}
    (h : ¬ (aws k).NothingLeft component) :
    EndsInTime aws component (k + 1) ↔ EndsInTime aws component k := by
  have hex : (∃ j, k + 1 ≤ j ∧ j ≤ 20 ∧ (aws j).NothingLeft component) ↔
      ∃ j, k ≤ j ∧ j ≤ 20 ∧ (aws j).NothingLeft component := by
    constructor
    · rintro ⟨j, hk, hj, hn⟩
      exact ⟨j, by omega, hj, hn⟩
    · rintro ⟨j, hk, hj, hn⟩
      have hne : j ≠ k := by
        rintro rfl
        exact h hn
      exact ⟨j, by omega, hj, hn⟩
  rw [EndsInTime, EndsInTime, hex]

section
variable {tf : TfVars} {aws : Nat → Responses} {component : String} {data : Json}
  {outputs : List Event} {event : Event}

/-- What the end of a run depends on in the next output. -/
theorem InLoop.nextOutput_cases (h : InLoop component data outputs event) :
    ∃ b st, (nextOutput aws outputs event).recycleSuccess = .set (some b) ∧
      (nextOutput aws outputs event).status = .set (some st) ∧
      (b = true ↔ (aws outputs.length).NothingLeft component) ∧
      (b = true → st ≠ .text "fail") ∧
      (b = false → (st = .text "fail" ↔ (aws outputs.length).Broken component)) := by
  have hcomponent : (scaledEvent event).component = component := by
    rw [scaledEvent_component, h.component_eq]
  have hcases := @Responses.outcome_cases (aws outputs.length) (scaledEvent event)
  rw [hcomponent] at hcases
  obtain ⟨hn, hst, hb⟩ | ⟨hn, hbroken, hst, hb⟩ | ⟨hn, hbroken, hst, hb⟩ := hcases
  · exact ⟨_, _, hb, hst, iff_of_true rfl hn, fun _ => nofun, nofun⟩
  · exact ⟨_, _, hb, hst, iff_of_false nofun hn, nofun, fun _ => iff_of_true rfl hbroken⟩
  · exact ⟨_, _, hb, hst, iff_of_false nofun hn, nofun, fun _ => iff_of_false nofun hbroken⟩

/-- A run leaves the loop when its output reports success or its counter passes 20. -/
theorem InLoop.ends_here (h : InLoop component data outputs event) (hlen : outputs.length ≤ 20)
    {b : Bool} {st : Status} (hb : (nextOutput aws outputs event).recycleSuccess = .set (some b))
    (hst : (nextOutput aws outputs event).status = .set (some st))
    (hleave : b = true ∨ outputs.length = 20) :
    Ends (autoRecycle tf) (InOutTasks aws) (.at .recycleSingleInstanceAsg data 0, outputs)
      (endOf (nextOutput aws outputs event), outputs ++ [nextOutput aws outputs event]) := by
  have hcounter : (nextOutput aws outputs event).counter = _ := h.counter_nextOutput
  have hstart := @start_isDone tf _ _ _ (get?_counter hcounter) (get?_recycleSuccess hb)
  rw [if_pos (hleave.imp_right fun _ => by omega)] at hstart
  exact Ends.of_reaches ((h.reaches_done hlen).tail (.goto hstart)) (ends_of_status hst)

/-- Otherwise it comes back to the next invocation. -/
theorem InLoop.comes_back (h : InLoop component data outputs event) (hlen : outputs.length < 20)
    (hb : (nextOutput aws outputs event).recycleSuccess = .set (some false)) :
    Reaches (autoRecycle tf) (InOutTasks aws) (.at .recycleSingleInstanceAsg data 0, outputs)
      (.at .recycleSingleInstanceAsg (nextOutput aws outputs event).modelDump 0,
        outputs ++ [nextOutput aws outputs event]) := by
  have hcounter : (nextOutput aws outputs event).counter = _ := h.counter_nextOutput
  have hstart := @start_isDone tf _ _ _ (get?_counter hcounter) (get?_recycleSuccess hb)
  rw [if_neg (by simp only [Bool.false_eq_true, false_or]; omega)] at hstart
  exact (h.reaches_done (by omega)).tail (.goto hstart)

/-- The rest of a run.  The induction is on the number of invocations that the
    limit of 20 still allows. -/
theorem InLoop.ends (h : InLoop component data outputs event) {left : Nat}
    (hleft : outputs.length + left = 20) :
    ∃ e outputs', Ends (autoRecycle tf) (InOutTasks aws)
        (.at .recycleSingleInstanceAsg data 0, outputs) (e, outputs') ∧
      (EndAgrees e outputs' ↔ EndsInTime aws component outputs.length) := by
  induction left generalizing data outputs event with
  | zero =>
    have hlen : outputs.length = 20 := hleft
    obtain ⟨b, st, hb, hst, hnothing, hsuccess, hbroken⟩ := @h.nextOutput_cases aws
    refine ⟨_, _, h.ends_here (by omega) hb hst (.inr hlen), ?_⟩
    rw [endAgrees_iff hb, hst]
    cases b with
    | true =>
      refine iff_of_true ?_ (.inl ⟨outputs.length, Nat.le_refl _, by omega, hnothing.mp rfl⟩)
      simpa using hsuccess rfl
    | false =>
      have hnot : ¬ (aws outputs.length).NothingLeft component := fun hn => nomatch hnothing.mpr hn
      rw [← endsInTime_succ hnot, EndsInTime, ← hlen, ← hbroken rfl]
      constructor
      · intro hagree
        exact .inr (by simpa using hagree)
      · rintro (⟨j, hk, hj, -⟩ | hfail)
        · omega
        · simp [hfail]
  | succ left ih =>
    obtain ⟨b, st, hb, hst, hnothing, hsuccess, -⟩ := @h.nextOutput_cases aws
    cases b with
    | true =>
      refine ⟨_, _, h.ends_here (by omega) hb hst (.inl rfl), ?_⟩
      rw [endAgrees_iff hb, hst]
      refine iff_of_true ?_ (.inl ⟨outputs.length, Nat.le_refl _, by omega, hnothing.mp rfl⟩)
      simpa using hsuccess rfl
    | false =>
      have hnot : ¬ (aws outputs.length).NothingLeft component := fun hn => nomatch hnothing.mpr hn
      obtain ⟨e, outputs', hends, hiff⟩ := ih (@h.next aws) (by simp; omega)
      refine ⟨e, outputs', Ends.of_reaches (h.comes_back (by omega) hb) hends, ?_⟩
      rw [hiff, List.length_append, List.length_singleton, endsInTime_succ hnot]

end

theorem start_chooseRecycleStrategy {tf : TfVars} {data : Json}
    (h : data.get? ["strategy"] = some (.str "in-out")) :
    (autoRecycle tf startAt).start data = .goto (.at .recycleSingleInstanceAsg data 0) := by
  simp only [startAt, autoRecycle, StateDef.start, choose, Cond.eval, h, Option.map_some,
    decide_true]

/-- A fresh payload enters the loop. -/
theorem InLoop.first {data : Json} {event : Event} (hvalid : Event.modelValidate data = .ok event)
    (hfresh : firstInvocation event = true) : InLoop event.component data [] event where
  valid := hvalid
  component_eq := rfl
  fresh _ := hfresh
  counted h := absurd rfl h

/-- A run of the in-out branch from a fresh payload comes to one end.  That end
    agrees with the last output of the scale-ASG lambda exactly when one of the
    first 21 invocations finds nothing left to do, or the 21st is broken: a run
    that is still at work when its counter passes 20 ends in the Succeed state. -/
theorem inOut_end_agrees_iff (tf : TfVars) (aws : Nat → Responses) (data : Json) (event : Event)
    (hstrategy : data.get? ["strategy"] = some (.str "in-out"))
    (hvalid : Event.modelValidate data = .ok event) (hfresh : firstInvocation event = true) :
    ∃ e outputs,
      Ends (autoRecycle tf) (InOutTasks aws) (.at startAt data 0, []) (e, outputs) ∧
      (∀ x, Ends (autoRecycle tf) (InOutTasks aws) (.at startAt data 0, []) x → x = (e, outputs)) ∧
      (EndAgrees e outputs ↔
        (∃ j ≤ 20, (aws j).NothingLeft event.component) ∨ (aws 20).Broken event.component) := by
  obtain ⟨e, outputs, hends, hiff⟩ :=
    @InLoop.ends tf aws _ _ _ _ (InLoop.first hvalid hfresh) 20 rfl
  have hends' : Ends (autoRecycle tf) (InOutTasks aws) (.at startAt data 0, []) (e, outputs) :=
    Ends.of_reaches (.single (.goto (start_chooseRecycleStrategy hstrategy))) hends
  refine ⟨e, outputs, hends', fun x hx => Ends.unique (InOutTasks.deterministic aws) hx hends', ?_⟩
  rw [hiff, EndsInTime]
  simp

/-- A payload as the start lambda writes it. -/
def freshPayload : Json :=
  .obj [("component", .str "web"), ("strategy", .str "in-out"), ("success_channel", .str "team-web")]

theorem modelValidate_freshPayload :
    Event.modelValidate freshPayload = .ok { component := "web", successChannel := "team-web" } := by
  simp [Event.modelValidate, freshPayload, validModel, Dict.get?, optional, required, defaulted,
    validStr]

/-- The one ASG of the listing is that of "web". -/
theorem listing_web {env : Responses} {asg : AutoScalingGroup} (hpages : env.pages = .ok [[asg]])
    (hname : asg.autoScalingGroupName = "web-asg-1") : env.listing "web" = .ok [asg] := by
  have hmatch : (Py.Re.compile "(^web)-asg-[a-z\\d]+$").map (·.matches? "web-asg-1") = some true := by
    decide +kernel
  obtain ⟨matcher, hcompile, hm⟩ := Option.map_eq_some_iff.mp hmatch
  have hsub : ZoneSuffix.subn "web" = ("web", 0) := by decide
  simp [Responses.listing, hpages, addPages, matchAsgs, hsub, hcompile, hname, hm]

/-- The ASG of "web" with instances of these versions of its launch template. -/
def webAsg (versions : List String) : AutoScalingGroup where
  autoScalingGroupName := "web-asg-1"
  instances := versions.map fun version => ⟨"i-" ++ version, some ⟨"lt-1", version⟩⟩
  launchTemplate := some ⟨"lt-1", "2"⟩

/-- The replies while the latest activity of the ASG has come so far. -/
def webResponses (versions : List String) (progress : Int) : Responses where
  pages := .ok [[webAsg versions]]
  activities asgName := .ok [{
    activityId := "1", autoScalingGroupName := asgName, cause := "", progress := some progress
    startTime := .aware 0, endTime := some 0, statusCode := some "Successful" }]
  policy _ _ := .ok ()
  clock _ := 0
  environment := none

/-- The instance is old, then on its way out, gone, and then replaced. -/
def renewing : Nat → Responses
  | 0 => webResponses ["1"] 100
  | 1 => webResponses ["1"] 50
  | 2 => webResponses [] 100
  | _ => webResponses ["2"] 100

theorem plan_renewing :
    (renewing 0).plan "web" = .act { action := .scaleIn, asgName := "web-asg-1" } ∧
      (renewing 1).plan "web" = .waiting ∧
      (renewing 2).plan "web" = .act { action := .scaleOut, asgName := "web-asg-1" } ∧
      (renewing 3).plan "web" = .finished := by
  have hlisting : ∀ versions progress,
      (webResponses versions progress).listing "web" = .ok [webAsg versions] :=
    fun _ _ => listing_web rfl rfl
  refine ⟨?_, ?_, ?_, ?_⟩
  · show (webResponses ["1"] 100).plan "web" = _
    rw [Responses.plan, hlisting]
    rfl
  · show (webResponses ["1"] 50).plan "web" = _
    rw [Responses.plan, hlisting]
    rfl
  · show (webResponses [] 100).plan "web" = _
    rw [Responses.plan, hlisting]
    rfl
  · show (webResponses ["2"] 100).plan "web" = _
    rw [Responses.plan, hlisting]
    rfl

/-- The instance is scaled in and out again, and the fourth invocation finds nothing
    left to do. -/
theorem inOut_end_agrees_iff_renewing :
    ∃ e outputs, Ends (autoRecycle ⟨"", "", "", "", "", "", ""⟩) (InOutTasks renewing)
        (.at startAt freshPayload 0, []) (e, outputs) ∧
      (∀ x, Ends (autoRecycle ⟨"", "", "", "", "", "", ""⟩) (InOutTasks renewing)
        (.at startAt freshPayload 0, []) x → x = (e, outputs)) ∧
      EndAgrees e outputs ∧ (∃ j ≤ 20, (renewing j).NothingLeft "web") := by
  have hdone : ∃ j ≤ 20, (renewing j).NothingLeft "web" :=
    ⟨3, by omega, Responses.nothingLeft_iff.mpr plan_renewing.2.2.2⟩
  obtain ⟨e, outputs, hends, hunique, hagrees⟩ := inOut_end_agrees_iff ⟨"", "", "", "", "", "", ""⟩
    renewing freshPayload { component := "web", successChannel := "team-web" }
    (by simp [freshPayload, Dict.get?]) modelValidate_freshPayload rfl
  exact ⟨e, outputs, hends, hunique, hagrees.mpr (.inl hdone), hdone⟩

/-- The responses while the one ASG of "web" is being scaled. -/
def scaling : Responses where
  pages := .ok [[{ autoScalingGroupName := "web-asg-1", instances := [], launchTemplate := none }]]
  activities asgName := .ok [{
    activityId := "1", autoScalingGroupName := asgName, cause := "", progress := some 50
    startTime := .aware 0, endTime := none, statusCode := some "InProgress" }]
  policy _ _ := .ok ()
  clock _ := 0
  environment := none

/-- All 21 invocations find the ASG being scaled: the run gives up, its last
    output says that the recycling is not complete, and it ends in the Succeed state. -/
theorem inOut_gives_up_in_succeed :
    ∃ e outputs, Ends (autoRecycle ⟨"", "", "", "", "", "", ""⟩) (InOutTasks fun _ => scaling)
        (.at startAt freshPayload 0, []) (e, outputs) ∧
      ¬ EndAgrees e outputs := by
  obtain ⟨e, outputs, hends, hiff⟩ := @InLoop.ends ⟨"", "", "", "", "", "", ""⟩ (fun _ => scaling)
    _ _ _ _ (InLoop.first modelValidate_freshPayload rfl) 20 rfl
  refine ⟨e, outputs, Ends.of_reaches (.single (.goto (start_chooseRecycleStrategy
    (by simp [freshPayload, Dict.get?])))) hends, ?_⟩
  have hreads : scaling.Reads "web"
      [{ autoScalingGroupName := "web-asg-1", instances := [], launchTemplate := none }] :=
    ⟨listing_web rfl rfl, by simp [scaling]⟩
  have hwaiting : scaling.plan "web" = .waiting :=
    Responses.plan_of_not_allDone hreads (by simp [Responses.AllDone, Responses.progress, scaling])
  rw [hiff, EndsInTime]
  rintro (⟨j, -, -, hn⟩ | hbroken)
  · rw [Responses.nothingLeft_iff] at hn
    cases hwaiting.symm.trans hn
  · rw [Responses.broken_iff] at hbroken
    rwa [hwaiting] at hbroken

end AutoRecycle.ScaleAsg
