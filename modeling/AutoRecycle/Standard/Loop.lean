/-
  AutoRecycle.Standard.Loop

  Whole runs of the standard branch.

  The message to the queue is answered by `sqs`, the invocations of the monitor
  by `aws 0`, `aws 1`, ..., and the Slack lambda returns its input.  Two limits
  of 20 end the loop: the one in the monitor and the one in the Choice that
  reads the counter the monitor has returned.  `InLoop` is the invariant of the
  loop; `InLoop.ends` follows a run from any point of it to its end, for any
  status that the run has been started with.
-/
import AutoRecycle.Lambdas
import AutoRecycle.Standard.Autorecycle
import AutoRecycle.Standard.Monitor

namespace AutoRecycle.Standard

open AutoRecycle.Asl AutoRecycle.Data AutoRecycle.Effect AutoRecycle.StateMachine

/-- What a run has used: invocations of the monitor, and checks made in them. -/
structure Usage where
  invocations : Nat := 0
  checks : Nat := 0

/-- The tasks of the standard branch. -/
inductive StandardTasks (sqs : Responses) (aws : Nat → Responses) : Tasks Resource Usage where
  | autorecycle {input w r n} (h : (autorecycleHandler input).run sqs.answer w.checks = (r, n)) :
      StandardTasks sqs aws .autorecycle input w (r.mapError reportError) { w with checks := n }
  | monitor {input w r n}
      (h : (monitorHandler input).run (aws w.invocations).answer w.checks = (r, n)) :
      StandardTasks sqs aws .monitorAutorecycle input w (r.mapError reportError)
        { invocations := w.invocations + 1, checks := n }
  | slack {input w} : StandardTasks sqs aws .slackNotifications input w (.ok input) w

theorem StandardTasks.deterministic (sqs : Responses) (aws : Nat → Responses) :
    Deterministic (StandardTasks sqs aws) := by
  intro r input w a a' w₁ w₂ h₁ h₂
  cases h₁ with
  | autorecycle h =>
      cases h₂ with
      | autorecycle h' =>
          cases h.symm.trans h'
          exact ⟨rfl, rfl⟩
  | monitor h =>
      cases h₂ with
      | monitor h' =>
          cases h.symm.trans h'
          exact ⟨rfl, rfl⟩
  | slack =>
      cases h₂
      exact ⟨rfl, rfl⟩

-- ============================================================================
-- The outcome of a check
-- ============================================================================

namespace Responses

/-- What `_describe_asg` comes to. -/
def asg (env : Responses) (component : Json) : Except PyExc AutoScalingGroup := do
  findAsg component (addPages (← env.pages))

/-- What `check` comes to. -/
def outcome (env : Responses) (component : Json) : Except PyExc Bool := do
  let asg ← env.asg component
  let scalingActivities ← env.activities asg.autoScalingGroupName maxRecords
  return checkReplies asg scalingActivities

theorem run_describeAsg (env : Responses) (component : Json) (n : Nat) :
    (describeAsg component).run env.answer n = (env.asg component, n + 1) := by
  simp only [describeAsg, ask_bind, Prog.run_call, answer, asg]
  cases env.pages with
  | error e => rfl
  | ok pages => rw [raise_ok, Prog.ret_bind, run_raise, ok_bind]

theorem run_describeScalingActivities (env : Responses) (asgName : String) (n : Nat) :
    (describeScalingActivities asgName).run env.answer n =
      (env.activities asgName maxRecords, n) :=
  run_raise _ _

/-- A check lists the groups once. -/
theorem run_check (env : Responses) (component : Json) (n : Nat) :
    (check component).run env.answer n = (env.outcome component, n + 1) := by
  rw [check, Prog.run_bind, run_describeAsg, outcome]
  cases env.asg component with
  | error e => rfl
  | ok asg =>
      simp only [ok_bind, Prog.run_bind, run_describeScalingActivities]
      cases env.activities asg.autoScalingGroupName maxRecords with
      | error e => rfl
      | ok scalingActivities => rfl

end Responses

/-- The check is true, or has found the ASG scaled down. -/
def Completes (outcome : Except PyExc Bool) : Prop :=
  outcome = .ok true ∨ ∃ e, outcome = .error e ∧ isScaledDown e = true

/-- The check has raised anything else. -/
def Breaks (outcome : Except PyExc Bool) : Prop :=
  ∃ e, outcome = .error e ∧ isScaledDown e = false

theorem outcome_cases (outcome : Except PyExc Bool) :
    outcome = .ok false ∨ Completes outcome ∨ Breaks outcome := by
  cases outcome with
  | ok b =>
      cases b with
      | true => exact .inr (.inl (.inl rfl))
      | false => exact .inl rfl
  | error e =>
      cases he : isScaledDown e with
      | true => exact .inr (.inl (.inr ⟨e, rfl, he⟩))
      | false => exact .inr (.inr ⟨e, rfl, he⟩)

theorem Breaks.not_completes {outcome : Except PyExc Bool} (h : Breaks outcome) :
    ¬ Completes outcome := by
  obtain ⟨e, rfl, he⟩ := h
  rintro (h | ⟨e', h, he'⟩)
  · cases h
  · cases h
    exact absurd (he.symm.trans he') Bool.false_ne_true

-- ============================================================================
-- One invocation of the monitor
-- ============================================================================

/-- After `k` invocations of the monitor, none of which has given up. -/
structure InLoop (component : Json) (status : String) (k : Nat) (event : Dict Json) : Prop where
  component_eq : Dict.get? "component" event = some component
  content : ∃ content, Dict.get? "message_content" event = some (.obj content)
  channels : ∃ channels, Dict.get? "channels" event = some channels
  status_eq : Dict.get? "status" event = some (.str status)
  counter : Dict.get? "counter" event = if k = 0 then none else some (.num k)

section
variable {component : Json} {status : String} {k : Nat} {event output : Dict Json}

/-- The invariant says nothing about `recycle_success`. -/
theorem InLoop.setSuccess (h : InLoop component status k event) (b : Bool) :
    InLoop component status k (Dict.set "recycle_success" (.bool b) event) where
  component_eq := (Dict.get?_set_ne (by decide) _ _).trans h.component_eq
  content := by
    rw [Dict.get?_set_ne (by decide)]
    exact h.content
  channels := by
    rw [Dict.get?_set_ne (by decide)]
    exact h.channels
  status_eq := (Dict.get?_set_ne (by decide) _ _).trans h.status_eq
  counter := (Dict.get?_set_ne (by decide) _ _).trans h.counter

theorem InLoop.setContent (h : InLoop component status k event) (key : String) (v : Json) :
    ∃ output, setContent key v event = .ok output ∧ InLoop component status k output := by
  obtain ⟨content, hcontent⟩ := h.content
  refine ⟨Dict.set "message_content" (.obj (Dict.set key v content)) event, ?_, ?_⟩
  · simp only [Standard.setContent, hcontent, getKey, ok_bind]
  · exact {
      component_eq := (Dict.get?_set_ne (by decide) _ _).trans h.component_eq
      content := ⟨_, Dict.get?_set_self _ _ _⟩
      channels := by
        rw [Dict.get?_set_ne (by decide)]
        exact h.channels
      status_eq := (Dict.get?_set_ne (by decide) _ _).trans h.status_eq
      counter := (Dict.get?_set_ne (by decide) _ _).trans h.counter }

/-- The counter that the monitor finds is the number of invocations before it. -/
theorem InLoop.counter_default (h : InLoop component status k event) :
    Dict.get? "counter" (setDefault "counter" (.num 0) event) = some (.num k) := by
  by_cases hk : k = 0
  · have hnone : Dict.get? "counter" event = none := by rw [h.counter, if_pos hk]
    rw [setDefault, hnone, Option.isNone_none, if_pos rfl, Dict.get?_set_self, hk]
    rfl
  · have hsome : Dict.get? "counter" event = some (.num k) := by rw [h.counter, if_neg hk]
    rw [setDefault, hsome, Option.isNone_some, if_neg Bool.false_ne_true, hsome]

theorem InLoop.countInvocation (h : InLoop component status k event) :
    ∃ output, countInvocation event = .ok ((k + 1 : Nat), output) ∧
      InLoop component status (k + 1) output := by
  have hcontent : setDefault "message_content" (.obj []) event = event := by
    obtain ⟨content, hcontent⟩ := h.content
    rw [setDefault, hcontent, Option.isNone_some, if_neg Bool.false_ne_true]
  have hother : ∀ key, key ≠ "counter" →
      Dict.get? key (Dict.set "counter" (.num (k + 1 : Nat))
        (setDefault "counter" (.num 0) event)) = Dict.get? key event := by
    intro key hkey
    rw [Dict.get?_set_ne hkey, setDefault]
    split
    · exact Dict.get?_set_ne hkey _ _
    · rfl
  refine ⟨Dict.set "counter" (.num (k + 1 : Nat)) (setDefault "counter" (.num 0) event), ?_, ?_⟩
  · simp only [Standard.countInvocation, hcontent, h.counter_default, getKey, plusOne, ok_bind,
      pure_eq_ok]
    rfl
  · exact {
      component_eq := (hother _ (by decide)).trans h.component_eq
      content := by
        rw [hother _ (by decide)]
        exact h.content
      channels := by
        rw [hother _ (by decide)]
        exact h.channels
      status_eq := (hother _ (by decide)).trans h.status_eq
      counter := by rw [Dict.get?_set_self, if_neg (by omega)] }

/-- After the limit the event says "fail" and that the recycling is not complete. -/
theorem InLoop.giveUp (h : InLoop component status k event) :
    ∃ output, giveUp event = .ok output ∧ Dict.get? "status" output = some (.str "fail") ∧
      Dict.get? "counter" output = Dict.get? "counter" event ∧
      Dict.get? "recycle_success" output = some (.bool false) := by
  obtain ⟨colored, hcolor, h₁⟩ := h.setContent "color" (.str "danger")
  obtain ⟨texted, htext, h₂⟩ := h₁.setContent "text"
    (.str ("Autorecycling appears to be taking too long :scream: " ++ "please investigate."))
  obtain ⟨channels, hchannels⟩ := h₂.channels
  refine ⟨Dict.set "recycle_success" (.bool false) (Dict.set "status" (.str "fail")
    (Dict.set "channels" channels texted)), ?_, ?_, ?_, Dict.get?_set_self _ _ _⟩
  · simp only [Standard.giveUp, hcolor, htext, hchannels, getKey, ok_bind, pure_eq_ok]
  · rw [Dict.get?_set_ne (by decide), Dict.get?_set_self]
  · rw [Dict.get?_set_ne (by decide), Dict.get?_set_ne (by decide), Dict.get?_set_ne (by decide),
      h₂.counter, h.counter]

/-- A check that completes keeps the status and reports success. -/
theorem InLoop.conclude_completes (h : InLoop component status k event) {r : Except PyExc Bool}
    (hr : Completes r) :
    ∃ output, conclude event r = .ok output ∧ InLoop component status k output ∧
      Dict.get? "recycle_success" output = some (.bool true) := by
  have hfinished : ∀ text, ∃ output, finished text event = .ok output ∧
      InLoop component status k output ∧
      Dict.get? "recycle_success" output = some (.bool true) := by
    intro text
    obtain ⟨texted, htext, h₁⟩ := h.setContent "text" (.str text)
    refine ⟨_, ?_, h₁.setSuccess true, Dict.get?_set_self _ _ _⟩
    rw [finished, htext]
    rfl
  obtain rfl | ⟨e, rfl, he⟩ := hr
  · exact hfinished _
  · rw [conclude, if_pos he]
    exact hfinished _

/-- What the monitor answers on its `k + 1`-st invocation. -/
theorem InLoop.run_monitorHandler (h : InLoop component status k event) (env : Responses)
    (n : Nat) :
    ∃ output, InLoop component status (k + 1) output ∧
      (monitorHandler (.obj event)).run env.answer n =
        if k < 20 then ((conclude output (env.outcome component)).map .obj, n + 1)
        else ((Standard.giveUp output).map .obj, n) := by
  obtain ⟨output, hcount, hout⟩ := h.countInvocation
  refine ⟨output, hout, ?_⟩
  have hin : isIn "component" (.obj event) = .ok true := by rw [isIn, h.component_eq]; rfl
  have hbody : (monitorHandler (.obj event)).run env.answer n =
      (monitorAutorecycle event >>= fun output => Prog.ret (.obj output)).run env.answer n := by
    rw [monitorHandler, hin]
    rfl
  have hmap : ∀ r : Except PyExc (Dict Json), ∀ n',
      (raise r >>= fun output => Prog.ret (Json.obj output)).run env.answer n' =
        (r.map .obj, n') := by
    rintro (e | d) n'
    · rfl
    · rfl
  rw [hbody, monitorAutorecycle, hcount, raise_ok, Prog.ret_bind]
  by_cases hk : k < 20
  · have hle : ¬ ((k + 1 : Nat) : Int) > 20 := by omega
    rw [if_pos hk]
    simp only [hle, if_false]
    rw [h.component_eq, getKey, raise_ok, Prog.ret_bind, Prog.bind_assoc, Prog.run_bind,
      Prog.run_attempt, Responses.run_check]
    exact hmap _ _
  · have hgt : ((k + 1 : Nat) : Int) > 20 := by omega
    rw [if_neg hk]
    simp only [hgt, if_true]
    exact hmap _ _

theorem InLoop.get?_counter (h : InLoop component status k event) (hk : k ≠ 0) :
    (Json.obj event).get? ["counter"] = some (.num k) := by
  rw [Json.get?_cons, Json.field?_obj, h.counter, if_neg hk]
  rfl

theorem get?_field {key : String} {v : Json} (h : Dict.get? key event = some v) :
    (Json.obj event).get? [key] = some v := by
  rw [Json.get?_cons, Json.field?_obj, h]
  rfl

end

-- ============================================================================
-- The rest of a run
-- ============================================================================

/-- A run from `c` that comes to the Succeed state. -/
def Succeeds (tf : TfVars) (sqs : Responses) (aws : Nat → Responses) (c : Cfg State × Usage)
    (w : Usage) : Prop :=
  ∃ payload, Reaches (autoRecycle tf) (StandardTasks sqs aws) c (.succeeded payload, w)

/-- A run from `c` that comes to the Fail state, with the status "fail" in its payload. -/
def Fails (tf : TfVars) (sqs : Responses) (aws : Nat → Responses) (c : Cfg State × Usage)
    (w : Usage) : Prop :=
  ∃ payload, Reaches (autoRecycle tf) (StandardTasks sqs aws) c (.at .fail payload 0, w) ∧
    payload.get? ["status"] = some (.str "fail")

/-- From the `k`-th check on: the first check that is not false, if it is one of
    the first 20, completes. -/
def CompletesFrom (aws : Nat → Responses) (component : Json) (k : Nat) : Prop :=
  ∃ j, k ≤ j ∧ j < 20 ∧ (∀ i, k ≤ i → i < j → (aws i).outcome component = .ok false) ∧
    Completes ((aws j).outcome component)

section
variable {tf : TfVars} {sqs : Responses} {aws : Nat → Responses} {component : Json}
  {status : String} {k : Nat} {event : Dict Json}

theorem completesFrom_of_false (h : (aws k).outcome component = .ok false) :
    CompletesFrom aws component k ↔ CompletesFrom aws component (k + 1) := by
  constructor
  · rintro ⟨j, hkj, hj, hfalse, hcompletes⟩
    have hne : j ≠ k := by
      rintro rfl
      rw [h] at hcompletes
      rcases hcompletes with h' | ⟨e, h', -⟩
      · cases h'
      · cases h'
    exact ⟨j, by omega, hj, fun i hi hij => hfalse i (by omega) hij, hcompletes⟩
  · rintro ⟨j, hkj, hj, hfalse, hcompletes⟩
    refine ⟨j, by omega, hj, fun i hi hij => ?_, hcompletes⟩
    by_cases hik : i = k
    · rw [hik, h]
    · exact hfalse i (by omega) hij

theorem not_completesFrom_of_breaks (h : Breaks ((aws k).outcome component)) :
    ¬ CompletesFrom aws component k := by
  rintro ⟨j, hkj, -, hfalse, hcompletes⟩
  by_cases hjk : j = k
  · rw [hjk] at hcompletes
    exact h.not_completes hcompletes
  · obtain ⟨e, he, -⟩ := h
    have hk := hfalse k (Nat.le_refl k) (by omega)
    rw [hk] at he
    cases he

/-- A check that is false sends the run round the loop. -/
theorem InLoop.comes_back (h : InLoop component status k event) (hk : k < 20)
    (hfalse : (aws k).outcome component = .ok false) :
    ∃ output, InLoop component status (k + 1) output ∧
      Reaches (autoRecycle tf) (StandardTasks sqs aws)
        (.at .monitorAutorecycling (.obj event) 0, ⟨k, k⟩)
        (.at .monitorAutorecycling (.obj output) 0, ⟨k + 1, k + 1⟩) := by
  obtain ⟨output, hout, hrun⟩ := h.run_monitorHandler (aws k) k
  rw [if_pos hk, hfalse] at hrun
  have hout' := hout.setSuccess false
  refine ⟨_, hout', ?_⟩
  refine .head (.task rfl (.monitor hrun)) ?_
  have hdone := choose_done .waitForAutorecycle (hout'.get?_counter (by omega))
    (get?_field (Dict.get?_set_self "recycle_success" (.bool false) output))
  rw [if_neg (by simp only [Bool.false_eq_true, false_or]; omega)] at hdone
  exact .head (.goto (congrArg Move.goto hdone)) (.single (.goto rfl))

/-- A check that completes ends the run with the status it has been started with. -/
theorem InLoop.succeeds (h : InLoop component status k event) (hk : k < 20)
    (hstatus : status ≠ "fail") (hcompletes : Completes ((aws k).outcome component)) :
    Succeeds tf sqs aws (.at .monitorAutorecycling (.obj event) 0, ⟨k, k⟩) ⟨k + 1, k + 1⟩ := by
  obtain ⟨output, hout, hrun⟩ := h.run_monitorHandler (aws k) k
  obtain ⟨concluded, hconclude, hout', hsuccess⟩ := hout.conclude_completes hcompletes
  rw [if_pos hk, hconclude] at hrun
  refine ⟨.obj concluded, .head (.task rfl (.monitor hrun)) ?_⟩
  have hdone := choose_done .waitForAutorecycle (hout'.get?_counter (by omega))
    (get?_field hsuccess)
  rw [if_pos (.inl rfl)] at hdone
  exact .head (.goto (congrArg Move.goto hdone))
    (reaches_succeeded (get?_field hout'.status_eq) hstatus .slack)

/-- Any other exception of a check goes through "Lambda Error" to the Fail state. -/
theorem InLoop.fails_of_breaks (h : InLoop component status k event) (hk : k < 20)
    (hbreaks : Breaks ((aws k).outcome component)) :
    Fails tf sqs aws (.at .monitorAutorecycling (.obj event) 0, ⟨k, k⟩) ⟨k + 1, k + 1⟩ := by
  obtain ⟨e, he, hscaled⟩ := hbreaks
  obtain ⟨output, hout, hrun⟩ := h.run_monitorHandler (aws k) k
  have hconclude : conclude output (.error e) = .error e := by
    rw [conclude, hscaled, if_neg Bool.false_ne_true]
  rw [if_pos hk, he, hconclude] at hrun
  refine ⟨lambdaErrorMessage tf component, .head (.task rfl (.monitor hrun)) ?_, ?_⟩
  · show Reaches _ _ ((lambdaTask .monitorAutorecycle [] [] .isAutorecyclingDone).finish
      .monitorAutorecycling (.obj event) 0 (.error (reportError e)), _) _
    rw [finish_lambdaTask_error]
    apply lambdaError_reaches_fail
    · exact get?_field ((Dict.get?_set_ne (by decide) _ _).trans h.component_eq)
    · exact .slack
  · simp [lambdaErrorMessage, Dict.get?]

/-- After 20 invocations the monitor gives up. -/
theorem InLoop.fails_at_limit (h : InLoop component status 20 event) :
    Fails tf sqs aws (.at .monitorAutorecycling (.obj event) 0, ⟨20, 20⟩) ⟨21, 20⟩ := by
  obtain ⟨output, hout, hrun⟩ := h.run_monitorHandler (aws 20) 20
  obtain ⟨given, hgive, hstatus, hcounter, hsuccess⟩ := hout.giveUp
  rw [if_neg (by omega), hgive] at hrun
  have hcount : (Json.obj given).get? ["counter"] = some (.num 21) := by
    rw [Json.get?_cons, Json.field?_obj, hcounter, hout.counter]
    rfl
  refine ⟨.obj given, .head (.task rfl (.monitor hrun)) ?_, get?_field hstatus⟩
  have hdone := @choose_done (.obj given) .waitForAutorecycle 21 false hcount (get?_field hsuccess)
  rw [if_pos (.inr (by omega))] at hdone
  exact .head (.goto (congrArg Move.goto hdone)) (reaches_fail (get?_field hstatus) .slack)

/-- The rest of a run that has been started with any status but "fail".  The
    induction is on the number of checks that the limit still allows. -/
theorem InLoop.ends (h : InLoop component status k event) (hstatus : status ≠ "fail") {left : Nat}
    (hleft : k + left = 20) :
    ∃ w : Usage, w.checks ≤ 20 ∧ w.invocations ≤ 21 ∧
      ((CompletesFrom aws component k ∧
          Succeeds tf sqs aws (.at .monitorAutorecycling (.obj event) 0, ⟨k, k⟩) w) ∨
        (¬ CompletesFrom aws component k ∧
          Fails tf sqs aws (.at .monitorAutorecycling (.obj event) 0, ⟨k, k⟩) w)) := by
  induction left generalizing k event with
  | zero =>
      obtain rfl : k = 20 := hleft
      refine ⟨⟨21, 20⟩, Nat.le_refl _, Nat.le_refl _, .inr ⟨?_, h.fails_at_limit⟩⟩
      rintro ⟨j, hkj, hj, -⟩
      omega
  | succ left ih =>
      have hk : k < 20 := by omega
      rcases outcome_cases ((aws k).outcome component) with hfalse | hcompletes | hbreaks
      · obtain ⟨output, hout, hreach⟩ := @h.comes_back tf sqs aws _ _ _ _ hk hfalse
        obtain ⟨w, hchecks, hinvocations, hrest⟩ := ih hout (by omega)
        refine ⟨w, hchecks, hinvocations, ?_⟩
        rw [completesFrom_of_false hfalse]
        rcases hrest with ⟨hc, payload, hrest⟩ | ⟨hc, payload, hrest, hfail⟩
        · exact .inl ⟨hc, payload, hreach.trans hrest⟩
        · exact .inr ⟨hc, payload, hreach.trans hrest, hfail⟩
      · refine ⟨⟨k + 1, k + 1⟩, hk, by show k + 1 ≤ 21; omega, .inl ⟨?_, h.succeeds hk hstatus hcompletes⟩⟩
        exact ⟨k, Nat.le_refl k, hk, fun i hi hik => by omega, hcompletes⟩
      · exact ⟨⟨k + 1, k + 1⟩, hk, by show k + 1 ≤ 21; omega,
          .inr ⟨not_completesFrom_of_breaks hbreaks, h.fails_of_breaks hk hbreaks⟩⟩

end

end AutoRecycle.Standard
