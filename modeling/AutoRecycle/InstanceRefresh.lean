/-
  AutoRecycle.InstanceRefresh

  The instance-refresh branch of the state machine.

  The lambdas that start, cancel and look at a refresh are not part of the
  repository: they may answer anything, as often as they are asked.  A run first
  waits until no refresh is under way, then starts one and polls it.  The branch
  leaves its loop on three of the polled statuses, and the two messages that it
  sends then carry the status "success" or "failed"; the Choice at the end knows
  the status "fail" only.
-/
import AutoRecycle.Lambdas

namespace AutoRecycle.InstanceRefresh

open AutoRecycle.Asl AutoRecycle.Data AutoRecycle.StateMachine

-- ============================================================================
-- The tasks
-- ============================================================================

/-- Whether a run has started a refresh, and what it has seen of that refresh
    since, oldest reply first. -/
structure Polls where
  started : Bool := false
  polled : List Json := []

namespace Polls

/-- A lambda has answered. -/
def after (p : Polls) : Resource → Except TaskError Json → Polls
  | .startInstanceRefresh, .ok _ => { started := true }
  | .getInstanceRefreshStatus, .ok out =>
      if p.started then { p with polled := p.polled ++ [out] } else p
  | _, _ => p

/-- The reply says that the refresh has the status `s`. -/
def Says (s : String) (out : Json) : Prop := out.get? ["Status"] = some (.str s)

/-- The refresh was polled with the status "Failed". -/
def Failed (p : Polls) : Prop := ∃ out ∈ p.polled, Says "Failed" out

/-- The last status polled. -/
def LastSays (p : Polls) (s : String) : Prop := ∃ out, p.polled.getLast? = some out ∧ Says s out

end Polls

/-- The Slack lambda returns its input; the others answer anything. -/
inductive RefreshTasks : Tasks Resource Polls where
  | slack {input p} : RefreshTasks .slackNotifications input p (.ok input) p
  | external {r input p answer} (hr : r ≠ .slackNotifications) :
      RefreshTasks r input p answer (p.after r answer)

-- ============================================================================
-- The invariant
-- ============================================================================

/-- What may be known of the polls where a run succeeds. -/
def MaySucceed (p : Polls) : Prop :=
  p.Failed ∨ p.polled = [] ∨ p.LastSays "Successful" ∨ p.LastSays "Cancelled"

/-- The message at the end, and what has led to it. -/
def EndMessage (data : Json) (p : Polls) : Prop :=
  (data.get? ["status"] = some (.str "fail") ∧ ¬ p.Failed) ∨
    (data.get? ["status"] = some (.str "failed") ∧ p.Failed) ∨
    (data.get? ["status"] = some (.str "success") ∧ ¬ p.Failed ∧ p.LastSays "Successful")

/-- The last reply stands in the data, and none before it has said "Failed". -/
def ShowsLast (tf : TfVars) (data : Json) (p : Polls) : Prop :=
  ∃ before out, p.polled = before ++ [out] ∧ (∀ o ∈ before, ¬ Polls.Says "Failed" o) ∧
    data.get? [statusOutput tf, "Status"] = out.get? ["Status"]

def At (tf : TfVars) : Cfg State → Polls → Prop
  | .at .chooseRecycleStrategy data _, p =>
      data.get? ["strategy"] = some (.str "instance-refresh") ∧ p = {}
  | .at .monitorInstanceRefreshStatus _ _, p => p = {}
  | .at .instanceRefreshStatus _ _, p => p = {}
  | .at .instanceRefreshCancel _ _, p => p = {}
  | .at .waitForInstanceRefreshStatus _ _, p => p = {}
  | .at .recordInstanceRefreshStatusState _ _, p => p = {}
  | .at .instanceRefresh _ _, p => p = {}
  | .at .slackMessageInstanceRefresh _ _, p => p = {}
  | .at .instanceRefreshStart _ _, p => p = {}
  | .at .wasARefreshStarted _ _, p => p = { started := true }
  | .at .monitorInstanceRefreshProgress _ _, p => p.started = true ∧ ¬ p.Failed
  | .at .waitForInstanceRefresh _ _, p => p.started = true ∧ ¬ p.Failed
  | .at .isInstanceRefreshComplete data _, p => p.started = true ∧ ShowsLast tf data p
  | .at .successfulInstanceRefresh _ _, p => ¬ p.Failed ∧ p.LastSays "Successful"
  | .at .failedInstanceRefresh _ _, p => p.Failed
  | .at .lambdaError _ _, p => ¬ p.Failed
  | .at .slackMessageEnd data _, p => EndMessage data p
  | .at .status data _, p => EndMessage data p
  | .at .fail _ _, p => ¬ p.Failed
  | .at .success _ _, p => MaySucceed p
  | .at _ _ _, _ => False
  | .succeeded _, p => MaySucceed p
  | .failed error _, p => p.Failed → error ≠ "Fail"

section
variable {tf : TfVars} {s : State} {data v : Json} {n : Nat} {p : Polls} {c : Cfg State}

theorem not_failed_empty {started : Bool} : ¬ Polls.Failed { started := started } := by
  rintro ⟨out, hmem, -⟩
  cases hmem

/-- Whoever writes its result either goes on with it or fails with an error of
    the service. -/
theorem at_putAndGo {path : Path} {next : State}
    (h : ∀ data', Json.put? path v data = some data' → At tf (.at next data' 0) p) :
    At tf (putAndGo path v data next) p := by
  rw [putAndGo]
  split
  · rename_i data' hput
    exact h data' hput
  · intro _
    decide

/-- A message of the machine: the state goes on to it, or fails for want of a
    component. -/
theorem at_message {parameters : Json → Option Json} {next : State}
    (hs : (StateDef.pass parameters [] next : StateDef State Resource).start data = .goto c)
    (h : ∀ message, parameters data = some message → At tf (.at next message 0) p) : At tf c p := by
  simp only [StateDef.start] at hs
  split at hs
  · rename_i message hmessage
    cases hs
    exact h message hmessage
  · cases hs
    intro _
    decide

/-- The status that a message carries. -/
theorem status_messageParameters {status : String} {channels : List String} {content : Dict Json}
    {message : Json} (h : messageParameters tf status channels content data = some message) :
    message.get? ["status"] = some (.str status) := by
  obtain ⟨component, -, hmessage⟩ := Option.bind_eq_some_iff.mp h
  cases hmessage
  simp [Dict.get?]

theorem status_lambdaErrorParameters {message : Json}
    (h : lambdaErrorParameters tf data = some message) :
    message.get? ["status"] = some (.str "fail") := by
  obtain ⟨component, -, hmessage⟩ := Option.bind_eq_some_iff.mp h
  cases hmessage
  simp [Dict.get?]

/-- Where the Choice after a poll leads, with the status that it reads. -/
theorem isComplete_cases
    (hs : (autoRecycle tf .isInstanceRefreshComplete).start data = .goto c) :
    let status := data.get? [statusOutput tf, "Status"]
    (status = some (.str "Successful") ∧ c = .at .successfulInstanceRefresh data 0) ∨
      (status = some (.str "Failed") ∧ c = .at .failedInstanceRefresh data 0) ∨
      (status = some (.str "Cancelled") ∧ c = .at .success data 0) ∨
      (status ≠ some (.str "Failed") ∧
        (c = .at .waitForInstanceRefresh data 0 ∨ c = .failed "States.Runtime" "invalid path")) := by
  simp only [autoRecycle, StateDef.start, choose, Cond.eval, Move.goto.injEq] at hs
  subst hs
  cases data.get? [statusOutput tf, "Status"] with
  | none => simp
  | some v =>
      cases v with
      | str status =>
          by_cases hsuccessful : status = "Successful"
          · simp [hsuccessful]
          by_cases hfailed : status = "Failed"
          · simp [hfailed]
          by_cases hcancelled : status = "Cancelled"
          · simp [hcancelled]
          simp only [Option.map_some, hsuccessful, hfailed, hcancelled, decide_false]
          -- the other rules all lead to the same Wait state
          cases decide (status = "Pending") <;> cases decide (status = "In Progress") <;>
            cases decide (status = "Cancelling") <;> simp [hsuccessful, hfailed, hcancelled]
      | _ => simp

theorem ShowsLast.lastSays (h : ShowsLast tf data p) {status : String}
    (hread : data.get? [statusOutput tf, "Status"] = some (.str status)) : p.LastSays status := by
  obtain ⟨before, out, hpolled, -, hshows⟩ := h
  exact ⟨out, by rw [hpolled, List.getLast?_concat], hshows.symm.trans hread⟩

theorem ShowsLast.failed_iff (h : ShowsLast tf data p) :
    p.Failed ↔ data.get? [statusOutput tf, "Status"] = some (.str "Failed") := by
  obtain ⟨before, out, hpolled, hbefore, hshows⟩ := h
  rw [hshows, Polls.Failed, hpolled]
  constructor
  · rintro ⟨o, ho, hsays⟩
    rw [List.mem_append, List.mem_singleton] at ho
    rcases ho with ho | rfl
    · exact absurd hsays (hbefore o ho)
    · exact hsays
  · exact fun hsays => ⟨out, by simp, hsays⟩

/-- A state that goes on by itself. -/
theorem at_goto (h : At tf (.at s data n) p) (hs : (autoRecycle tf s).start data = .goto c) :
    At tf c p := by
  cases s with
  | chooseRecycleStrategy =>
      obtain ⟨hstrategy, rfl⟩ := h
      simp only [autoRecycle, StateDef.start, choose, Cond.eval, hstrategy] at hs
      cases hs
      rfl
  | instanceRefreshStatus =>
      obtain rfl : p = {} := h
      simp only [autoRecycle, StateDef.start, Move.goto.injEq] at hs
      subst hs
      -- every target of this Choice comes before the refresh is started
      simp only [choose]
      repeat' split
      all_goals first | rfl | exact fun _ => by decide
  | waitForInstanceRefreshStatus =>
      cases hs
      exact h
  | recordInstanceRefreshStatusState =>
      simp only [autoRecycle, StateDef.start] at hs
      cases hs
      exact at_putAndGo fun _ _ => h
  | instanceRefresh => exact at_message hs fun _ _ => h
  | wasARefreshStarted =>
      obtain rfl : p = { started := true } := h
      simp only [autoRecycle, StateDef.start, choose, Cond.eval, Move.goto.injEq] at hs
      subst hs
      split
      · exact .inr (.inl rfl)
      · exact ⟨rfl, not_failed_empty⟩
      · exact fun _ => by decide
  | waitForInstanceRefresh =>
      cases hs
      exact h
  | isInstanceRefreshComplete =>
      obtain ⟨hstarted, hlast⟩ := h
      obtain ⟨hread, rfl⟩ | ⟨hread, rfl⟩ | ⟨hread, rfl⟩ | ⟨hread, rfl | rfl⟩ := isComplete_cases hs
      · refine ⟨fun hfailed => ?_, hlast.lastSays hread⟩
        have hread' := hlast.failed_iff.mp hfailed
        rw [hread] at hread'
        simp at hread'
      · exact hlast.failed_iff.mpr hread
      · exact .inr (.inr (.inr (hlast.lastSays hread)))
      · exact ⟨hstarted, fun hfailed => hread (hlast.failed_iff.mp hfailed)⟩
      · exact fun _ => by decide
  | successfulInstanceRefresh =>
      exact at_message hs fun _ hmessage => .inr (.inr ⟨status_messageParameters hmessage, h⟩)
  | failedInstanceRefresh =>
      exact at_message hs fun _ hmessage => .inr (.inl ⟨status_messageParameters hmessage, h⟩)
  | lambdaError =>
      exact at_message hs fun _ hmessage => .inl ⟨status_lambdaErrorParameters hmessage, h⟩
  | status =>
      obtain ⟨hstatus, hfailed⟩ | ⟨hstatus, hfailed⟩ | ⟨hstatus, -, hlast⟩ := h
      · have hstart := @start_status_eq tf data "fail" hstatus
        rw [if_pos rfl] at hstart
        cases hstart.symm.trans hs
        exact hfailed
      · have hstart := @start_status_eq tf data "failed" hstatus
        rw [if_neg (by decide)] at hstart
        cases hstart.symm.trans hs
        exact .inl hfailed
      · have hstart := @start_status_eq tf data "success" hstatus
        rw [if_neg (by decide)] at hstart
        cases hstart.symm.trans hs
        exact .inr (.inr (.inl hlast))
  | fail =>
      cases hs
      exact fun hfailed => absurd hfailed h
  | success =>
      cases hs
      exact h
  | monitorInstanceRefreshProgress =>
      simp only [autoRecycle, StateDef.start] at hs
      split at hs
      · cases hs
      · cases hs
        exact fun _ => by decide
  | instanceRefreshCancel =>
      simp only [autoRecycle, StateDef.start] at hs
      split at hs
      · cases hs
      · cases hs
        exact fun _ => by decide
  | monitorInstanceRefreshStatus => cases hs
  | slackMessageInstanceRefresh => cases hs
  | instanceRefreshStart => cases hs
  | slackMessageEnd => cases hs
  | _ => exact h.elim

/-- A failed task is done again, or its error is caught. -/
theorem at_finish_error {t : Task State Resource} {path : Path} (e : TaskError)
    (hcatch : t.catchers = [{ errors := ["States.ALL"], resultPath := path, next := .lambdaError }])
    (hretry : At tf (.at s data (n + 1)) p) (hfailed : ¬ p.Failed) :
    At tf (t.finish s data n (.error e)) p := by
  rw [Task.finish]
  split
  · exact hretry
  · have hfind : (t.catchers.find? fun c => errorEquals c.errors e) =
        some { errors := ["States.ALL"], resultPath := path, next := .lambdaError } := by
      rw [hcatch]
      simp [errorEquals]
    rw [hfind]
    exact at_putAndGo fun _ _ => hfailed

/-- The reply to a poll. -/
theorem at_polled {out : Json} (hstarted : p.started = true) (hfailed : ¬ p.Failed) :
    At tf (putAndGo [statusOutput tf] out data .isInstanceRefreshComplete)
      (p.after .getInstanceRefreshStatus (.ok out)) := by
  refine at_putAndGo fun data' hput => ?_
  rw [Polls.after, if_pos hstarted]
  refine ⟨hstarted, p.polled, out, rfl, fun o ho hsays => hfailed ⟨o, ho, hsays⟩, ?_⟩
  exact Json.get?_of_put? hput

/-- The answer of a task. -/
theorem at_task {t : Task State Resource} {input : Json} {answer : Except TaskError Json} {p' : Polls}
    (h : At tf (.at s data n) p) (hs : (autoRecycle tf s).start data = .invoke t input)
    (hT : RefreshTasks t.resource input p answer p') : At tf (t.finish s data n answer) p' := by
  cases s with
  | monitorInstanceRefreshStatus =>
      cases hs
      obtain rfl : p = {} := h
      cases hT with
      | external =>
          cases answer with
          | ok out => exact at_putAndGo fun _ _ => rfl
          | error e => exact at_finish_error e rfl rfl not_failed_empty
  | instanceRefreshCancel =>
      obtain rfl : p = {} := h
      simp only [autoRecycle, StateDef.start] at hs
      split at hs
      · cases hs
        cases hT with
        | external =>
            cases answer with
            | ok out => exact at_putAndGo fun _ _ => rfl
            | error e => exact at_finish_error e rfl rfl not_failed_empty
      · cases hs
  | slackMessageInstanceRefresh =>
      cases hs
      cases hT with
      | slack => exact h
      | external hr => exact absurd rfl hr
  | instanceRefreshStart =>
      cases hs
      obtain rfl : p = {} := h
      cases hT with
      | external =>
          cases answer with
          | ok out => exact at_putAndGo fun _ _ => rfl
          | error e => exact at_finish_error e rfl rfl not_failed_empty
  | monitorInstanceRefreshProgress =>
      obtain ⟨hstarted, hfailed⟩ := h
      simp only [autoRecycle, StateDef.start] at hs
      split at hs
      · cases hs
        cases hT with
        | external =>
            cases answer with
            | ok out => exact at_polled hstarted hfailed
            | error e => exact at_finish_error e rfl ⟨hstarted, hfailed⟩ hfailed
      · cases hs
  | slackMessageEnd =>
      cases hs
      cases hT with
      | slack => exact h
      | external hr => exact absurd rfl hr
  | instanceRefresh =>
      simp only [autoRecycle, StateDef.start] at hs
      split at hs <;> cases hs
  | successfulInstanceRefresh =>
      simp only [autoRecycle, StateDef.start] at hs
      split at hs <;> cases hs
  | failedInstanceRefresh =>
      simp only [autoRecycle, StateDef.start] at hs
      split at hs <;> cases hs
  | lambdaError =>
      simp only [autoRecycle, StateDef.start] at hs
      split at hs <;> cases hs
  | chooseRecycleStrategy => cases hs
  | instanceRefreshStatus => cases hs
  | waitForInstanceRefreshStatus => cases hs
  | recordInstanceRefreshStatusState => cases hs
  | wasARefreshStarted => cases hs
  | waitForInstanceRefresh => cases hs
  | isInstanceRefreshComplete => cases hs
  | status => cases hs
  | fail => cases hs
  | success => cases hs
  | _ => exact h.elim

/-- The invariant holds along every run. -/
theorem at_reaches {x y : Cfg State × Polls} (h : At tf x.1 x.2)
    (hr : Reaches (autoRecycle tf) RefreshTasks x y) : At tf y.1 y.2 := by
  induction hr with
  | refl => exact h
  | tail _ hs ih =>
      cases hs with
      | goto hs => exact at_goto ih hs
      | task hs hT => exact at_task ih hs hT

end

-- ============================================================================
-- The end of a run
-- ============================================================================

/-- The end of a run reports the refresh: it is the Fail state if the refresh was
    polled as failed, and after polling it is the Succeed state only if the last
    status was "Successful" or "Cancelled". -/
def Reports (e : Cfg State) (p : Polls) : Prop :=
  (p.Failed → e = .failed "Fail" "Execution failed") ∧
    (e.Succeeded → p.polled ≠ [] → p.LastSays "Successful" ∨ p.LastSays "Cancelled")

/-- The end of a run of the branch reports its refresh exactly when no poll has
    said "Failed": the message that follows such a poll carries the status
    "failed", and the Choice at the end asks for "fail". -/
theorem end_reports_iff (tf : TfVars) (payload : Json)
    (hstrategy : payload.get? ["strategy"] = some (.str "instance-refresh")) (e : Cfg State) (p : Polls)
    (h : Ends (autoRecycle tf) RefreshTasks (.at startAt payload 0, {}) (e, p)) :
    Reports e p ↔ ¬ p.Failed := by
  have hstart : At tf (.at startAt payload 0) {} := ⟨hstrategy, rfl⟩
  have hend : At tf e p := at_reaches hstart h.1
  constructor
  · rintro ⟨hreport, -⟩ hfailed
    rw [hreport hfailed] at hend
    exact hend hfailed rfl
  · intro hfailed
    refine ⟨fun hf => absurd hf hfailed, fun hsucceeded hpolled => ?_⟩
    cases e with
    | succeeded output =>
        obtain hf | hnone | hlast := hend
        · exact absurd hf hfailed
        · exact absurd hnone hpolled
        · exact hlast
    | «at» s data n => exact hsucceeded.elim
    | failed error cause => exact hsucceeded.elim

/-- A payload as the start lambda writes it. -/
def refreshPayload : Json :=
  .obj [("component", .str "web"), ("strategy", .str "instance-refresh")]

/-- The Terraform variables of the example runs. -/
def refreshVars : TfVars where
  slackChannel := "team-web"
  slackErrorChannel := "team-alerts"
  environment := "qa"
  autorecycleFailedRunbookUrl := ""
  startInstanceRefreshLambdaName := "start"
  cancelInstanceRefreshLambdaName := "cancel"
  getInstanceRefreshStatusLambdaName := "status"

/-- The data of the example runs once the refresh is started. -/
def startedFields : Dict Json :=
  [("username", .str "AutoRecycling"), ("status", .str "success"), ("text", .str "web"),
    ("component", .str "web"), ("channels", .arr [.str "team-web"]),
    ("message_content", .obj [("text", .str "Instance refresh was successfully initiated"),
      ("fields", messageFields refreshVars (.str "web"))]),
    ("emoji", .str ":robot_face:"), ("start-output", .obj [("instance_refresh_id", .str "1")])]

/-- The same data after the poll. -/
def polledData (status : String) : Json :=
  .obj (startedFields ++ [("status-output", .obj [("Status", .str status)])])

/-- No refresh is under way, one is started, and its first poll says `status`. -/
theorem reaches_polled (status : String) :
    Reaches (autoRecycle refreshVars) RefreshTasks (.at startAt refreshPayload 0, {})
      (.at .isInstanceRefreshComplete (polledData status) 0,
        { started := true, polled := [.obj [("Status", .str status)]] }) := by
  have hlook := @RefreshTasks.external .getInstanceRefreshStatus refreshPayload {} (.ok (.obj []))
    (by decide)
  have hstarts : ∀ input, RefreshTasks .startInstanceRefresh input {}
      (.ok (.obj [("instance_refresh_id", .str "1")])) { started := true } :=
    fun _ => .external (by decide)
  have hpolls := @RefreshTasks.external .getInstanceRefreshStatus
    (.obj [("instance_refresh_id", .str "1")]) { started := true } (.ok (.obj [("Status", .str status)]))
    (by decide)
  have hstarted : Reaches (autoRecycle refreshVars) RefreshTasks (.at startAt refreshPayload 0, {})
      (.at .wasARefreshStarted (.obj startedFields) 0, { started := true }) := by
    refine .head (.goto rfl) (.head (.task rfl hlook) ?_)
    exact .head (.goto rfl) (.head (.goto rfl) (.head (.task rfl .slack) (.head (.task rfl (hstarts _)) .refl)))
  refine hstarted.trans (.head (.goto rfl) ?_)
  exact .head (@Step.task _ _ _ _ _ State.monitorInstanceRefreshProgress (.obj startedFields) 0 _ _ _ _ _
    rfl hpolls) .refl

/-- The message that the end of an example run sends. -/
def endMessage (status text color : String) (channels : List String) : Json :=
  .obj [("username", .str "AutoRecycling"), ("status", .str status), ("text", .str "web"),
    ("component", .str "web"), ("channels", .arr (channels.map .str)),
    ("message_content", .obj [("color", .str color), ("text", .str text),
      ("fields", messageFields refreshVars (.str "web"))]),
    ("emoji", .str ":robot_face:")]

/-- The example run whose refresh is successful. -/
theorem ends_polled_successful :
    Ends (autoRecycle refreshVars) RefreshTasks (.at startAt refreshPayload 0, {})
      (.succeeded (endMessage "success" "Instance refresh was successfully completed" "good" ["team-web"]),
        { started := true, polled := [.obj [("Status", .str "Successful")]] }) := by
  refine ⟨(reaches_polled "Successful").trans (.head (.goto rfl) (.head (.goto rfl) ?_)), trivial⟩
  exact @reaches_succeeded refreshVars _ _ RefreshTasks _ _ "success" rfl (by decide) .slack

/-- The example run whose refresh has failed. -/
theorem ends_polled_failed :
    Ends (autoRecycle refreshVars) RefreshTasks (.at startAt refreshPayload 0, {})
      (.succeeded (endMessage "failed" "Instance refresh FAILED to completed" "danger"
          ["team-web", "team-alerts"]),
        { started := true, polled := [.obj [("Status", .str "Failed")]] }) := by
  refine ⟨(reaches_polled "Failed").trans (.head (.goto rfl) (.head (.goto rfl) ?_)), trivial⟩
  exact @reaches_succeeded refreshVars _ _ RefreshTasks _ _ "failed" rfl (by decide) .slack

theorem end_reports_iff_successful :
    Reports
        (.succeeded (endMessage "success" "Instance refresh was successfully completed" "good"
          ["team-web"]))
        { started := true, polled := [.obj [("Status", .str "Successful")]] } ↔
      ¬ Polls.Failed { started := true, polled := [.obj [("Status", .str "Successful")]] } :=
  end_reports_iff refreshVars refreshPayload rfl _ _ ends_polled_successful

/-- A refresh that has failed, in an execution that succeeds. -/
theorem failed_refresh_succeeds :
    ∃ (e : Cfg State) (p : Polls),
      Ends (autoRecycle refreshVars) RefreshTasks (.at startAt refreshPayload 0, {}) (e, p) ∧
        p.Failed ∧ e.Succeeded ∧ ¬ Reports e p := by
  refine ⟨_, _, ends_polled_failed, ⟨_, List.mem_singleton.mpr rfl, rfl⟩, trivial, ?_⟩
  intro hreports
  cases hreports.1 ⟨_, List.mem_singleton.mpr rfl, rfl⟩

end AutoRecycle.InstanceRefresh
