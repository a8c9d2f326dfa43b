/-
  AutoRecycle.Standard.Run

  Runs of the standard branch from the start of the execution.

  The autorecycle lambda returns whether SQS has taken the message or not, and
  it writes which of the two it was into the status: "success" or "failure".
  The Choice at the end only knows the status "fail", so a run that starts with
  either of them is decided by the checks alone.
-/
import AutoRecycle.Standard.Loop

namespace AutoRecycle.Standard

open AutoRecycle.Asl AutoRecycle.Data AutoRecycle.Effect AutoRecycle.StateMachine

/-- An input of the state machine, as the start lambda writes it, for a recycle of
    `component` by none of the other strategies. -/
structure StandardPayload (data component : Json) : Prop where
  strategy : ∃ s, data.field? "strategy" = some s ∧ s ≠ .str "in-out" ∧ s ≠ .str "mongo" ∧
    s ≠ .str "instance-refresh"
  component_eq : data.field? "component" = some component
  accountId : ∃ a, data.field? "account_id" = some a
  channel : ∃ c, data.field? "success_channel" = some c

/-- The status that the run is started with. -/
def startStatus (sqs : Responses) : String := if sendSuccess sqs.sent then "success" else "failure"

/-- The first check that is not false, if it is one of the first 20, is true or
    finds the ASG scaled down. -/
def CompletesInTime (aws : Nat → Responses) (component : Json) : Prop :=
  ∃ k < 20, (∀ i < k, (aws i).outcome component = .ok false) ∧
    Completes ((aws k).outcome component)

theorem completesFrom_zero {aws : Nat → Responses} {component : Json} :
    CompletesFrom aws component 0 ↔ CompletesInTime aws component := by
  simp [CompletesFrom, CompletesInTime]

section
variable {tf : TfVars} {sqs : Responses} {aws : Nat → Responses} {data component : Json}

theorem StandardPayload.start_choose (h : StandardPayload data component) :
    (autoRecycle tf startAt).start data = .goto (.at .standardRecycle data 0) := by
  obtain ⟨s, hs, hinOut, hmongo, hrefresh⟩ := h.strategy
  have hget : data.get? ["strategy"] = some s := by
    rw [Json.get?_cons, hs]
    rfl
  cases s with
  | str name =>
      rw [Ne, Json.str.injEq] at hinOut hmongo hrefresh
      simp [startAt, autoRecycle, StateDef.start, choose, Cond.eval, hget, hinOut, hmongo, hrefresh]
  | _ => simp [startAt, autoRecycle, StateDef.start, choose, Cond.eval, hget]

/-- The loop starts on what the autorecycle lambda has returned. -/
theorem inLoop_outputData (component channel : Json) (environment : Option String) :
    InLoop component (startStatus sqs) 0
      (outputData component (sendSuccess sqs.sent) channel environment) where
  component_eq := rfl
  content := ⟨_, rfl⟩
  channels := ⟨_, rfl⟩
  status_eq := by
    rw [startStatus]
    cases sendSuccess sqs.sent <;> rfl
  counter := rfl

theorem startStatus_ne_fail (sqs : Responses) : startStatus sqs ≠ "fail" := by
  rw [startStatus]
  split
  · decide
  · decide

/-- From the start to the first invocation of the monitor. -/
theorem StandardPayload.reaches_monitor (h : StandardPayload data component) :
    ∃ event, InLoop component (startStatus sqs) 0 event ∧
      Reaches (autoRecycle tf) (StandardTasks sqs aws) (.at startAt data 0, {})
        (.at .monitorAutorecycling (.obj event) 0, ⟨0, 0⟩) := by
  obtain ⟨accountId, haccount⟩ := h.accountId
  obtain ⟨channel, hchannel⟩ := h.channel
  refine ⟨_, inLoop_outputData component channel (sqs.environment "environment"), ?_⟩
  have hsend := run_autorecycleHandler h.component_eq haccount hchannel sqs 0
  refine .head (.goto h.start_choose) (.head (.task rfl (.autorecycle hsend)) ?_)
  exact .head (.task rfl .slack) (.single (.goto rfl))

/-- A standard run comes to its end after at most 20 checks and 21 invocations,
    whatever SQS has answered, and its end is decided by the checks. -/
theorem StandardPayload.ends (h : StandardPayload data component) :
    ∃ e w, Ends (autoRecycle tf) (StandardTasks sqs aws) (.at startAt data 0, {}) (e, w) ∧
      w.checks ≤ 20 ∧ w.invocations ≤ 21 ∧
      (e.Succeeded ↔ CompletesInTime aws component) ∧
      (¬ e.Succeeded → e = .failed "Fail" "Execution failed" ∧
        Fails tf sqs aws (.at startAt data 0, {}) w) := by
  obtain ⟨event, hloop, hreach⟩ := @h.reaches_monitor tf sqs aws
  obtain ⟨w, hchecks, hinvocations, hrest⟩ :=
    @InLoop.ends tf sqs aws _ _ _ _ hloop (startStatus_ne_fail sqs) 20 rfl
  rw [completesFrom_zero] at hrest
  rcases hrest with ⟨hcompletes, payload, hrest⟩ | ⟨hcompletes, payload, hrest, hstatus⟩
  · refine ⟨.succeeded payload, w, ⟨hreach.trans hrest, trivial⟩, hchecks, hinvocations, ?_, ?_⟩
    · exact iff_of_true trivial hcompletes
    · exact fun hnot => absurd trivial hnot
  · have hfail : Reaches (autoRecycle tf) (StandardTasks sqs aws) (.at startAt data 0, {})
        (.at .fail payload 0, w) := hreach.trans hrest
    refine ⟨.failed "Fail" "Execution failed", w, ⟨hfail.tail (.goto rfl), trivial⟩, hchecks,
      hinvocations, ?_, ?_⟩
    · exact iff_of_false id hcompletes
    · exact fun _ => ⟨rfl, payload, hfail, hstatus⟩

end

-- ============================================================================
-- The limits of the loop
-- ============================================================================

/-- The two limits of the loop agree.  A run has one end, after at most 20 checks
    and 21 invocations of the monitor: the Succeed state if the first check that
    is not false is among the first 20 and completes, and the Fail state with the
    status "fail" in every other case.  What SQS has answered makes no difference. -/
theorem loop_limits_agree (tf : TfVars) (sqs : Responses) (aws : Nat → Responses)
    (data component : Json) (h : StandardPayload data component) :
    ∃ e w, Ends (autoRecycle tf) (StandardTasks sqs aws) (.at startAt data 0, {}) (e, w) ∧
      (∀ x, Ends (autoRecycle tf) (StandardTasks sqs aws) (.at startAt data 0, {}) x → x = (e, w)) ∧
      w.checks ≤ 20 ∧ w.invocations ≤ 21 ∧
      (e.Succeeded ↔ CompletesInTime aws component) ∧
      (¬ e.Succeeded → e = .failed "Fail" "Execution failed" ∧
        Fails tf sqs aws (.at startAt data 0, {}) w) := by
  obtain ⟨e, w, hends, hrest⟩ := @StandardPayload.ends tf sqs aws data component h
  exact ⟨e, w, hends, fun x hx => Ends.unique (StandardTasks.deterministic sqs aws) hx hends, hrest⟩

/-- A payload as the start lambda writes it. -/
def outInPayload : Json :=
  .obj [("account_id", .str "123456789012"), ("success_channel", .str "team-web"),
        ("component", .str "web"), ("auto_scaling_group_name", .str "web-asg-1"),
        ("emoji", .str ":robot_face:"), ("strategy", .str "out-in")]

theorem standardPayload_outInPayload : StandardPayload outInPayload (.str "web") where
  strategy := ⟨.str "out-in", rfl, by simp, by simp, by simp⟩
  component_eq := rfl
  accountId := ⟨_, rfl⟩
  channel := ⟨_, rfl⟩

/-- SQS takes the message. -/
def accepting : Responses where
  environment _ := none
  sent := .ok { messageId := some "1" }
  pages := .ok []
  activities _ _ := .ok []

/-- The one instance of the ASG is in service from the third check on. -/
def settling (i : Nat) : Responses where
  environment _ := none
  sent := .ok { messageId := some "1" }
  pages := .ok [[{
    autoScalingGroupName := "web-asg-1", maxSize := 1
    instances := [⟨"i-1", "Healthy", if i < 2 then "Pending" else "InService"⟩] }]]
  activities _ _ := .ok [⟨"Launching a new EC2 instance: i-1", 0⟩]

theorem outcome_settling_false {i : Nat} (h : i < 2) : (settling i).outcome (.str "web") = .ok false := by
  have hcases : i = 0 ∨ i = 1 := by omega
  rcases hcases with rfl | rfl <;> rfl

theorem outcome_settling_true : (settling 2).outcome (.str "web") = .ok true := by
  have hreplies : checkReplies {
      autoScalingGroupName := "web-asg-1", maxSize := 1
      instances := [⟨"i-1", "Healthy", "InService"⟩] } [⟨"Launching a new EC2 instance: i-1", 0⟩] =
      true := by
    decide +kernel
  exact congrArg Except.ok hreplies

/-- Two false checks, and then a true one. -/
theorem loop_limits_agree_outIn :
    ∃ e w, Ends (autoRecycle ⟨"", "", "", "", "", "", ""⟩) (StandardTasks accepting settling)
        (.at startAt outInPayload 0, {}) (e, w) ∧
      (∀ x, Ends (autoRecycle ⟨"", "", "", "", "", "", ""⟩) (StandardTasks accepting settling)
        (.at startAt outInPayload 0, {}) x → x = (e, w)) ∧
      w.checks ≤ 20 ∧ w.invocations ≤ 21 ∧ e.Succeeded ∧ CompletesInTime settling (.str "web") := by
  obtain ⟨e, w, hends, hunique, hchecks, hinvocations, hsucceeded, -⟩ :=
    loop_limits_agree ⟨"", "", "", "", "", "", ""⟩ accepting settling outInPayload (.str "web")
      standardPayload_outInPayload
  have hcompletes : CompletesInTime settling (.str "web") :=
    ⟨2, by omega, fun _ hi => outcome_settling_false hi, .inl outcome_settling_true⟩
  exact ⟨e, w, hends, hunique, hchecks, hinvocations, hsucceeded.mpr hcompletes, hcompletes⟩

-- ============================================================================
-- A message that could not be sent
-- ============================================================================

/-- A run whose message could not be sent ends in the Fail state exactly when
    its checks do not complete in time: the status "failure" is not "fail". -/
theorem failed_send_fails_iff (tf : TfVars) (sqs : Responses) (aws : Nat → Responses)
    (data component : Json) (h : StandardPayload data component) (_hsent : ¬ sqs.Sent) :
    (∃ w, Ends (autoRecycle tf) (StandardTasks sqs aws) (.at startAt data 0, {})
      (.failed "Fail" "Execution failed", w)) ↔ ¬ CompletesInTime aws component := by
  obtain ⟨e, w, hends, -, -, hsucceeded, hfailed⟩ := @StandardPayload.ends tf sqs aws data component h
  rw [← hsucceeded]
  constructor
  · rintro ⟨w', hends'⟩ hs
    have hsame := Ends.unique (StandardTasks.deterministic sqs aws) hends' hends
    rw [← (Prod.mk.inj hsame).1] at hs
    exact hs
  · intro hnot
    obtain ⟨rfl, -⟩ := hfailed hnot
    exact ⟨w, hends⟩

/-- SQS refuses the message. -/
def refusing : Responses where
  environment _ := none
  sent := .error { cls := .clientError }
  pages := .ok [[{ autoScalingGroupName := "web-asg-1", maxSize := 0, instances := [] }]]
  activities _ _ := .ok []

theorem not_sent_refusing : ¬ refusing.Sent := by
  rintro ⟨response, messageId, hsent, -⟩
  cases hsent

theorem failed_send_fails_iff_outIn :
    (∃ w, Ends (autoRecycle ⟨"", "", "", "", "", "", ""⟩) (StandardTasks refusing fun _ => accepting)
      (.at startAt outInPayload 0, {}) (.failed "Fail" "Execution failed", w)) ↔
      ¬ CompletesInTime (fun _ => accepting) (.str "web") :=
  failed_send_fails_iff ⟨"", "", "", "", "", "", ""⟩ refusing (fun _ => accepting) outInPayload
    (.str "web") standardPayload_outInPayload not_sent_refusing

/-- The queue refuses the message, the first check finds the ASG in order, and
    the run ends in the Succeed state. -/
theorem failed_send_succeeds :
    ¬ refusing.Sent ∧ ∃ e w, Ends (autoRecycle ⟨"", "", "", "", "", "", ""⟩)
      (StandardTasks refusing fun _ => refusing) (.at startAt outInPayload 0, {}) (e, w) ∧
      e.Succeeded := by
  obtain ⟨e, w, hends, -, -, hsucceeded, -⟩ := @StandardPayload.ends ⟨"", "", "", "", "", "", ""⟩
    refusing (fun _ => refusing) _ _ standardPayload_outInPayload
  refine ⟨not_sent_refusing, e, w, hends, hsucceeded.mpr ⟨0, by omega, nofun, ?_⟩⟩
  exact .inr ⟨{ cls := scaledDownASGException }, rfl, rfl⟩

end AutoRecycle.Standard
