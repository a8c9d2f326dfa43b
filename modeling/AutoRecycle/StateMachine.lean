/-
  AutoRecycle.StateMachine

  terraform/state_machine.tf: the state machine "autorecycle".
-/
import AutoRecycle.Asl.Machine

namespace AutoRecycle

open AutoRecycle.Asl AutoRecycle.Data

/-- The Terraform variables that the definition interpolates. -/
structure TfVars where
  slackChannel : String
  slackErrorChannel : String
  environment : String
  autorecycleFailedRunbookUrl : String
  startInstanceRefreshLambdaName : String
  cancelInstanceRefreshLambdaName : String
  getInstanceRefreshStatusLambdaName : String

/-- The lambdas behind the Task states. -/
inductive Resource where
  | autorecycle
  | autorecycleScaleAsg
  | autorecycleMongo
  | monitorAutorecycle
  | slackNotifications
  | startInstanceRefresh
  | cancelInstanceRefresh
  | getInstanceRefreshStatus
  deriving DecidableEq

inductive State where
  | standardRecycle
  | recycleSingleInstanceAsg
  | isFirstRun
  | slackMessageSingleInstanceAsg
  | waitForSingleInstanceAsgAutorecycle
  | isAutorecyclingSingleInstanceAsgDone
  | chooseRecycleStrategy
  | slackMessageStart
  | waitForAutorecycle
  | waitForCommencement
  | waitForInstanceRefresh
  | monitorAutorecycling
  | isAutorecyclingDone
  | mongoRecycle
  | slackMessageMongo
  | waitForMongoAutorecycle
  | mongoAutorecycleDecision
  | recycleMongoCluster
  | instanceRefresh
  | slackMessageInstanceRefresh
  | instanceRefreshStart
  | wasARefreshStarted
  | instanceRefreshCancel
  | monitorInstanceRefreshProgress
  | monitorInstanceRefreshStatus
  | instanceRefreshStatus
  | waitForInstanceRefreshStatus
  | recordInstanceRefreshStatusState
  | isInstanceRefreshComplete
  | successfulInstanceRefresh
  | failedInstanceRefresh
  | slackMessageEnd
  | lambdaError
  | status
  | fail
  | success
  deriving DecidableEq

namespace StateMachine

-- ============================================================================
-- Families of states
-- ============================================================================

def lambdaErrors : List String := ["Lambda.ServiceException", "Lambda.SdkClientException"]

/-- A Task that runs one of the recycling lambdas. -/
def lambdaTask (resource : Resource) (inputPath resultPath : Path) (next : State) : Task State Resource where
  resource := resource
  inputPath := inputPath
  resultPath := resultPath
  retry := [{ errors := lambdaErrors, maxAttempts := 8 }]
  catchers := [{ errors := ["States.ALL"], resultPath := ["error-info"], next := .lambdaError }]
  next := next

/-- A Slack message goes on to `next` whether it could be sent or not. -/
def slackMessage (next : State) : Task State Resource where
  resource := .slackNotifications
  catchers := [{ errors := ["States.ALL"], resultPath := ["error-info"], next := next }]
  next := next

def messageFields (tf : TfVars) (component : Json) : Json :=
  .arr [.obj [("short", .bool true), ("value", component), ("title", .str "Component Name")],
        .obj [("title", .str "Environment"), ("value", .str tf.environment), ("short", .bool true)]]

/-- The `Parameters` of the Pass states that set up a Slack message. -/
def messageParameters (tf : TfVars) (status : String) (channels : List String)
    (content : Dict Json) (data : Json) : Option Json := do
  let component ← data.get? ["component"]
  some (.obj [
    ("username", .str "AutoRecycling"),
    ("status", .str status),
    ("text", component),
    ("component", component),
    ("channels", .arr (channels.map .str)),
    ("message_content", .obj (content ++ [("fields", messageFields tf component)])),
    ("emoji", .str ":robot_face:")])

def lambdaErrorParameters (tf : TfVars) (data : Json) : Option Json := do
  let component ← data.get? ["component"]
  some (.obj [
    ("username", .str "AutoRecycling"),
    ("channels", .str "team-infra-alerts"),
    ("component", component),
    ("status", .str "fail"),
    ("message_content", .obj [
      ("text", .str ("Failed to recycle a component: " ++ tf.autorecycleFailedRunbookUrl)),
      ("color", .str "danger"),
      ("fields", messageFields tf component)]),
    ("text", .str ("State execution has failed in " ++ tf.environment ++
      " because of a lambda exception! Please investigate.")),
    ("emoji", .str ":robot_face:")])

-- ============================================================================
-- The machine
-- ============================================================================

def startOutput (tf : TfVars) : String := tf.startInstanceRefreshLambdaName ++ "-output"
def cancelOutput (tf : TfVars) : String := tf.cancelInstanceRefreshLambdaName ++ "-output"
def statusOutput (tf : TfVars) : String := tf.getInstanceRefreshStatusLambdaName ++ "-output"

def checkedPath : Path := ["instance_refresh_status_state", "instance_refresh_checked"]

def autoRecycle (tf : TfVars) : Machine State Resource
  | .standardRecycle => .task (lambdaTask .autorecycle [] [] .slackMessageStart)
  | .recycleSingleInstanceAsg => .task (lambdaTask .autorecycleScaleAsg [] [] .isFirstRun)
  | .isFirstRun => .choice
      [(.numericLessThanEquals ["counter"] 1, .slackMessageSingleInstanceAsg)]
      (some .waitForSingleInstanceAsgAutorecycle)
  | .slackMessageSingleInstanceAsg => .task (slackMessage .waitForSingleInstanceAsgAutorecycle)
  | .waitForSingleInstanceAsgAutorecycle => .wait 60 .isAutorecyclingSingleInstanceAsgDone
  | .isAutorecyclingSingleInstanceAsgDone => .choice
      [(.booleanEquals ["recycle_success"] true, .slackMessageEnd),
       (.numericGreaterThan ["counter"] 20, .slackMessageEnd)]
      (some .recycleSingleInstanceAsg)
  | .chooseRecycleStrategy => .choice
      [(.stringEquals ["strategy"] "in-out", .recycleSingleInstanceAsg),
       (.stringEquals ["strategy"] "mongo", .mongoRecycle),
       (.stringEquals ["strategy"] "instance-refresh", .monitorInstanceRefreshStatus)]
      (some .standardRecycle)
  | .slackMessageStart => .task (slackMessage .waitForCommencement)
  | .waitForAutorecycle => .wait 360 .monitorAutorecycling
  | .waitForCommencement => .wait 120 .monitorAutorecycling
  | .waitForInstanceRefresh => .wait 180 .monitorInstanceRefreshProgress
  | .monitorAutorecycling => .task (lambdaTask .monitorAutorecycle [] [] .isAutorecyclingDone)
  | .isAutorecyclingDone => .choice
      [(.booleanEquals ["recycle_success"] true, .slackMessageEnd),
       (.numericGreaterThan ["counter"] 20, .slackMessageEnd)]
      (some .waitForAutorecycle)
  | .mongoRecycle => .pass
      (messageParameters tf "success" [tf.slackChannel]
        [("text", .str "Auto-recycling was successfully initiated")])
      [] .slackMessageMongo
  | .slackMessageMongo => .task (slackMessage .recycleMongoCluster)
  | .waitForMongoAutorecycle => .wait 60 .recycleMongoCluster
  | .mongoAutorecycleDecision => .choice
      [(.stringEquals ["decision", "action"] "STEP_DOWN_AND_RECYCLE_PRIMARY", .waitForMongoAutorecycle),
       (.stringEquals ["decision", "action"] "RECYCLE_SECONDARY", .waitForMongoAutorecycle),
       (.stringEquals ["decision", "action"] "DONE", .slackMessageEnd)]
      (some .recycleMongoCluster)
  | .recycleMongoCluster => .task (lambdaTask .autorecycleMongo [] [] .mongoAutorecycleDecision)
  | .instanceRefresh => .pass
      (messageParameters tf "success" [tf.slackChannel]
        [("text", .str "Instance refresh was successfully initiated")])
      [] .slackMessageInstanceRefresh
  | .slackMessageInstanceRefresh => .task (slackMessage .instanceRefreshStart)
  | .instanceRefreshStart => .task
      (lambdaTask .startInstanceRefresh [] [startOutput tf] .wasARefreshStarted)
  | .wasARefreshStarted => .choice
      [(.isPresent [startOutput tf, "instance_refresh_id"] false, .success)]
      (some .monitorInstanceRefreshProgress)
  | .instanceRefreshCancel => .task
      (lambdaTask .cancelInstanceRefresh [statusOutput tf] [cancelOutput tf] .waitForInstanceRefreshStatus)
  | .monitorInstanceRefreshProgress => .task
      { lambdaTask .getInstanceRefreshStatus [startOutput tf] [statusOutput tf] .isInstanceRefreshComplete with
        -- this catcher has no `ResultPath`
        catchers := [{ errors := ["States.ALL"], next := .lambdaError }] }
  | .monitorInstanceRefreshStatus => .task
      (lambdaTask .getInstanceRefreshStatus [] [statusOutput tf] .instanceRefreshStatus)
  | .instanceRefreshStatus => .choice
      [(.and (.isPresent [statusOutput tf, "Status"] false) (.isPresent checkedPath false), .instanceRefresh),
       (.and (.isPresent [statusOutput tf, "Status"] false) (.isPresent checkedPath true), .instanceRefreshStart),
       (.stringEquals [statusOutput tf, "Status"] "Pending", .instanceRefreshCancel),
       (.stringEquals [statusOutput tf, "Status"] "InProgress", .instanceRefreshCancel),
       (.stringEquals [statusOutput tf, "Status"] "Cancelling", .waitForInstanceRefreshStatus)]
      (some .instanceRefresh)
  | .waitForInstanceRefreshStatus => .wait 180 .recordInstanceRefreshStatusState
  | .recordInstanceRefreshStatusState => .pass
      (fun _ => some (.obj [("instance_refresh_checked", .bool true)]))
      ["instance_refresh_status_state"] .monitorInstanceRefreshStatus
  | .isInstanceRefreshComplete => .choice
      [(.stringEquals [statusOutput tf, "Status"] "Pending", .waitForInstanceRefresh),
       (.stringEquals [statusOutput tf, "Status"] "In Progress", .waitForInstanceRefresh),
       (.stringEquals [statusOutput tf, "Status"] "Successful", .successfulInstanceRefresh),
       (.stringEquals [statusOutput tf, "Status"] "Failed", .failedInstanceRefresh),
       (.stringEquals [statusOutput tf, "Status"] "Cancelling", .waitForInstanceRefresh),
       (.stringEquals [statusOutput tf, "Status"] "Cancelled", .success)]
      (some .waitForInstanceRefresh)
  | .successfulInstanceRefresh => .pass
      (messageParameters tf "success" [tf.slackChannel]
        [("color", .str "good"), ("text", .str "Instance refresh was successfully completed")])
      [] .slackMessageEnd
  | .failedInstanceRefresh => .pass
      (messageParameters tf "failed" [tf.slackChannel, tf.slackErrorChannel]
        [("color", .str "danger"), ("text", .str "Instance refresh FAILED to completed")])
      [] .slackMessageEnd
  | .slackMessageEnd => .task (slackMessage .status)
  | .lambdaError => .pass (lambdaErrorParameters tf) [] .slackMessageEnd
  | .status => .choice [(.stringEquals ["status"] "fail", .fail)] (some .success)
  | .fail => .fail "Fail" "Execution failed"
  | .success => .succeed

/-- The state that an execution starts in. -/
def startAt : State := .chooseRecycleStrategy

-- ============================================================================
-- The end of an execution
-- ============================================================================

section
variable {tf : TfVars} {data component : Json} {W : Type} {T : Tasks Resource W} {w w' : W}

/-- The message of "Lambda Error". -/
def lambdaErrorMessage (tf : TfVars) (component : Json) : Json :=
  .obj [
    ("username", .str "AutoRecycling"),
    ("channels", .str "team-infra-alerts"),
    ("component", component),
    ("status", .str "fail"),
    ("message_content", .obj [
      ("text", .str ("Failed to recycle a component: " ++ tf.autorecycleFailedRunbookUrl)),
      ("color", .str "danger"),
      ("fields", messageFields tf component)]),
    ("text", .str ("State execution has failed in " ++ tf.environment ++
      " because of a lambda exception! Please investigate.")),
    ("emoji", .str ":robot_face:")]

theorem start_lambdaError (h : data.get? ["component"] = some component) :
    (autoRecycle tf .lambdaError).start data =
      .goto (.at .slackMessageEnd (lambdaErrorMessage tf component) 0) := by
  simp only [autoRecycle, StateDef.start, lambdaErrorParameters, h]
  rfl

theorem start_status_eq {status : String} (h : data.get? ["status"] = some (.str status)) :
    (autoRecycle tf .status).start data =
      .goto (.at (if status = "fail" then .fail else .success) data 0) := by
  by_cases hs : status = "fail"
  · simp [autoRecycle, StateDef.start, choose, Cond.eval, h, hs]
  · simp [autoRecycle, StateDef.start, choose, Cond.eval, h, hs]

/-- The rules of the two Choices that may leave a loop of invocations. -/
theorem choose_done (back : State) {n : Nat} {b : Bool}
    (hc : data.get? ["counter"] = some (.num n))
    (hs : data.get? ["recycle_success"] = some (.bool b)) :
    choose (some back) data
        [(.booleanEquals ["recycle_success"] true, .slackMessageEnd),
         (.numericGreaterThan ["counter"] 20, .slackMessageEnd)] =
      .at (if b = true ∨ 20 < n then .slackMessageEnd else back) data 0 := by
  cases b with
  | true => simp only [choose, Cond.eval, hs, Option.map_some, decide_true, true_or, if_true]
  | false =>
    by_cases hn : 20 < n
    · have hgt : ((n : Int) > 20) := by omega
      simp only [choose, Cond.eval, hs, hc, Option.map_some, hgt, hn, decide_true, or_true, if_true,
        Bool.false_eq_true, decide_false]
    · have hle : ¬ ((n : Int) > 20) := by omega
      simp only [choose, Cond.eval, hs, hc, Option.map_some, hle, hn, Bool.false_eq_true, or_false,
        if_false, decide_false]

/-- From the last Slack message, which returns its input, to the end. -/
theorem reaches_fail (h : data.get? ["status"] = some (.str "fail"))
    (hslack : T .slackNotifications data w (.ok data) w') :
    Reaches (autoRecycle tf) T (.at .slackMessageEnd data 0, w) (.at .fail data 0, w') := by
  refine .head (.task rfl hslack) ?_
  have hstatus := @start_status_eq tf data "fail" h
  rw [if_pos rfl] at hstatus
  exact .single (.goto hstatus)

theorem reaches_succeeded {status : String} (h : data.get? ["status"] = some (.str status))
    (hs : status ≠ "fail") (hslack : T .slackNotifications data w (.ok data) w') :
    Reaches (autoRecycle tf) T (.at .slackMessageEnd data 0, w) (.succeeded data, w') := by
  refine .head (.task rfl hslack) ?_
  have hstatus := @start_status_eq tf data status h
  rw [if_neg hs] at hstatus
  exact .head (.goto hstatus) (.single (.goto rfl))

/-- An execution whose lambda has raised comes to the Fail state. -/
theorem lambdaError_reaches_fail (h : data.get? ["component"] = some component)
    (hslack : T .slackNotifications (lambdaErrorMessage tf component) w
      (.ok (lambdaErrorMessage tf component)) w') :
    Reaches (autoRecycle tf) T (.at .lambdaError data 0, w)
      (.at .fail (lambdaErrorMessage tf component) 0, w') := by
  refine .head (.goto (start_lambdaError h)) (reaches_fail ?_ hslack)
  simp [lambdaErrorMessage, Dict.get?]

end

end StateMachine

end AutoRecycle
