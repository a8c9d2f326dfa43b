/-
  AutoRecycle.Consul.StateMachine

  terraform/consul_recycle_state_machine.tf: the state machine
  "recycle_consul_agents", and the programs behind its tasks.
-/
import AutoRecycle.Asl.Nested
import AutoRecycle.Consul.Lambdas
import AutoRecycle.Lambdas

namespace AutoRecycle.Consul

open AutoRecycle.Asl AutoRecycle.Asl.Nested AutoRecycle.Effect

/-- The Terraform variables that the definition interpolates. -/
structure TfVars where
  slackChannel : String
  slackErrorChannel : String
  consulAclTokenParameterArn : String

inductive Resource where
  | slackNotifications
  | checkClusterHealth
  | getConsulNodes
  | terminateConsul
  /-- `arn:aws:states:::aws-sdk:ssm:sendCommand` -/
  | sendCommand
  deriving DecidableEq

inductive State where
  | mainFlow
  | startNotification
  | checkClusterHealthInitial
  | getConsulNodes
  | forEachInstance
  | gracefulLeave
  | waitBeforeHealthCheck
  | checkClusterHealthPostLeave
  | terminateNode
  | waitBeforeFinalHealthCheck
  | checkClusterHealthFinal
  | endNotification
  | failureNotification
  | failState
  deriving DecidableEq

-- ============================================================================
-- Parameters
-- ============================================================================

/-- `$$.Execution.Input.cluster` -/
def clusterOf (ctx : Context) : Option Json := ctx.executionInput.get? ["cluster"]

/-- What `States.Format` puts in the place of its argument. -/
def formatArgument : Json → Option String
  | .str s => some s
  | .num n => some (toString n)
  | .bool b => some (toString b)
  | .null => some "null"
  | .arr _ => none
  | .obj _ => none

/-- `States.Format('Auto-recycling of the Consul Control Plane ...', $$.Execution.Input.cluster)` -/
def controlPlaneText (outcome : String) (ctx : Context) : Option String := do
  let cluster ← formatArgument (← clusterOf ctx)
  return "Auto-recycling of the Consul Control Plane " ++ cluster ++ outcome

/-- The good news, at the beginning and at the end. -/
def progressParameters (tf : TfVars) (text outcome : String) (ctx : Context) (_ : Json) :
    Option Json := do
  let content ← controlPlaneText outcome ctx
  return .obj [
    ("text", .str text),
    ("channels", .arr [.str tf.slackChannel]),
    ("color", .str "good"),
    ("message_content", .obj [("color", .str "good"), ("text", .str content)]),
    ("username", .str "AutoRecycling")]

def failureParameters (tf : TfVars) (ctx : Context) (_ : Json) : Option Json := do
  let text ← controlPlaneText " failed" ctx
  return .obj [
    ("text", .str text),
    ("channels", .arr [.str tf.slackErrorChannel]),
    ("color", .str "danger"),
    ("message_content", .obj [("color", .str "danger"), ("text", .str
      "Auto-recycling of the Consul Control Plane encountered an error and was aborted")]),
    ("username", .str "AutoRecycling")]

def clusterParameters (ctx : Context) (_ : Json) : Option Json := do
  return .obj [("cluster", ← clusterOf ctx)]

/-- The check after the leave; the other checks leave the number to the lambda. -/
def postLeaveParameters (ctx : Context) (_ : Json) : Option Json := do
  return .obj [("cluster", ← clusterOf ctx), ("expectedPeers", .num 4)]

def itemParameters (ctx : Context) (_ : Json) : Option Json := do
  let item ← ctx.item
  return .obj [("ip", ← item.get? ["ip"]), ("instanceId", ← item.get? ["instanceId"])]

/-- The exit status of the last command is that of `echo` when the leave fails. -/
def leaveCommands (tf : TfVars) : List String :=
  ["echo 'Checking Consul leader status...'",
   "curl --cacert /etc/consul/tls/consul-agent-ca.pem -s https://localhost:8501/v1/status/leader || echo 'Consul not responding, not running or leaderless'",
   "echo 'Attempting graceful leave...'",
   "curl --cacert /etc/consul/tls/consul-agent-ca.pem -X PUT https://localhost:8501/v1/agent/leave --header \"X-Consul-Token: $(aws ssm get-parameter --name '" ++
     tf.consulAclTokenParameterArn ++
     "' --with-decryption --output text --query 'Parameter.Value')\" || echo 'Leave command failed'"]

def leaveParameters (tf : TfVars) (_ : Context) (data : Json) : Option Json := do
  let instanceId ← data.get? ["instanceId"]
  return .obj [
    ("DocumentName", .str "AWS-RunShellScript"),
    ("InstanceIds", .arr [instanceId]),
    ("Parameters", .obj [("commands", .arr ((leaveCommands tf).map .str))])]

def terminateParameters (_ : Context) (data : Json) : Option Json := do
  return .obj [("instanceId", ← data.get? ["instanceId"])]

-- ============================================================================
-- The machine
-- ============================================================================

/-- A health check that is tried `attempts` more times, whatever its error. -/
def healthCheck (parameters : Context → Json → Option Json) (resultPath : String)
    (attempts : Nat) (next : Option State) : TaskState State Resource where
  resource := .checkClusterHealth
  parameters := parameters
  resultPath := [resultPath]
  retry := [{ errors := ["States.ALL"], maxAttempts := attempts }]
  next := next

def mainParallel : ParallelState State where
  branch := .startNotification
  catchers := [{ errors := ["States.ALL"], next := .failureNotification }]
  next := none

def instanceMap : MapState State where
  itemsPath := ["nodes", "instanceList"]
  parameters := itemParameters
  iterator := .gracefulLeave
  next := some .endNotification

def recycleConsulAgents (tf : TfVars) : Nested.Machine State Resource
  | .mainFlow => .parallel mainParallel
  | .startNotification => .task
      { resource := .slackNotifications
        parameters := progressParameters tf "Auto-recycling was successfully initiated"
          " was successfully initiated"
        next := some .checkClusterHealthInitial }
  | .checkClusterHealthInitial => .task
      (healthCheck clusterParameters "initialHealth" 4 (some .getConsulNodes))
  | .getConsulNodes => .task
      { resource := .getConsulNodes
        parameters := clusterParameters
        resultPath := ["nodes"]
        next := some .forEachInstance }
  | .forEachInstance => .map instanceMap
  | .gracefulLeave => .task
      { resource := .sendCommand
        parameters := leaveParameters tf
        resultPath := ["gracefulLeaveResult"]
        next := some .waitBeforeHealthCheck }
  | .waitBeforeHealthCheck => .wait 120 .checkClusterHealthPostLeave
  | .checkClusterHealthPostLeave => .task
      (healthCheck postLeaveParameters "healthCheck" 4 (some .terminateNode))
  | .terminateNode => .task
      { resource := .terminateConsul
        parameters := terminateParameters
        resultPath := ["terminateResult"]
        next := some .waitBeforeFinalHealthCheck }
  | .waitBeforeFinalHealthCheck => .wait 300 .checkClusterHealthFinal
  | .checkClusterHealthFinal => .task
      (healthCheck clusterParameters "postTerminationHealth" 6 none)
  | .endNotification => .task
      { resource := .slackNotifications
        parameters := progressParameters tf "Auto-recycling the consul cluster has completed"
          " was successfully completed"
        next := none }
  | .failureNotification => .task
      { resource := .slackNotifications
        parameters := failureParameters tf
        next := some .failState }
  | .failState => .fail "AutoRecyclingFailed" "Error encountered during Consul Recycle"

-- ============================================================================
-- The tasks
-- ============================================================================

def impl : Resource → Json → Py Json
  | .slackNotifications => fun input => do raise (← ask (.invoke "slack_notifications" input))
  | .checkClusterHealth => checkHandler
  | .getConsulNodes => nodesHandler
  | .terminateConsul => terminateHandler
  | .sendCommand => fun input => do raise (← ask (.sendCommand input))

/-- The host of the tasks; `faults` are the failures of the service itself. -/
def tasks (faults : TaskError → Prop) : Host Calls Resource where
  impl := impl
  describe := reportError
  faults := faults

/-- A task of the run. -/
abbrev ConsulRan : Type := Ran Calls State

/-- The execution that is started with `input`. -/
def beginning (input : Json) : Nested.Cfg State := .at .mainFlow input 0 []

/-- The tasks `evs` have been run by the execution that was started with `input`,
    which is now at `c`. -/
def Runs {W : Type} (tf : TfVars) (faults : TaskError → Prop) (K : Setting Calls W) (input : Json)
    (evs : List ConsulRan) (c : Nested.Cfg State) : Prop :=
  ∃ w w', Nested.Run (recycleConsulAgents tf) (tasks faults) K input (beginning input, w) evs (c, w')

end AutoRecycle.Consul
