/-
  AutoRecycle.Mongo.Process

  process/instances.py, replica_set_health.py, execute.py and step.py: one
  invocation of the Mongo recycler.
-/
import AutoRecycle.Mongo.Connectors
import AutoRecycle.Mongo.Decision

namespace AutoRecycle.Mongo

open AutoRecycle.Asl (Json)
open AutoRecycle.Data AutoRecycle.Effect AutoRecycle.Py

-- ============================================================================
-- instances.py
-- ============================================================================

/-- The record of one instance.  The item is asked for first, then its node. -/
def fetchInstance (item : Except PyExc MongoInstance) : Py Instance := do
  let inst ← raise item
  let nodeDetails ← getNodeDetails inst.ipAddress
  return { instanceId := inst.instanceId, imageId := inst.imageId, ipAddress := inst.ipAddress,
           mongoState := nodeDetails.nodeState, replicaSetName := nodeDetails.replicaSetName }

def fetchReplicaSetStatus (component : String) : Py (List Instance) := do
  Prog.forEach (← getMongoDbInstances component) fetchInstance

-- ============================================================================
-- replica_set_health.py
-- ============================================================================

def healthyStates : List String := ["PRIMARY", "SECONDARY", "ARBITER"]

def assertOnePrimaryNode (replicaSetMembers : List Member) : Except PyExc Unit :=
  let primaryNodes := replicaSetMembers.filter fun member => member.stateStr = "PRIMARY"
  if primaryNodes.length ≠ 1 then
    .error { cls := .primaryError,
             arg := "primary error, " ++ toString primaryNodes.length ++ " primaries found" }
  else .ok ()

def assertAllNodesHealthy : List Member → Except PyExc Unit
  | [] => .ok ()
  | member :: replicaSetMembers =>
      if !healthyStates.contains member.stateStr then
        .error { cls := .nodeNotHealthy,
                 arg := member.name ++ " is in unhealthy state " ++ member.stateStr }
      else if member.stateStr = "SECONDARY" ∧ member.syncSourceHost = some "" then
        .error { cls := .secondaryNotHealthy,
                 arg := member.name ++ " is secondary but has no syncSourceHost" }
      else assertAllNodesHealthy replicaSetMembers

def assertReplicaSetHealthy (replicaSetStatus : ReplSetStatus) : Except PyExc Unit := do
  assertAllNodesHealthy replicaSetStatus.members
  assertOnePrimaryNode replicaSetStatus.members

/-- `",".join(i["IpAddress"] for i in instances)`. -/
def joinIpAddresses (instances : List (Except PyExc MongoInstance)) : Except PyExc String := do
  let found ← instances.mapM id
  return ",".intercalate (found.map MongoInstance.ipAddress)

def assertHealthy (component : String) : Py Unit := do
  let host ← raise (joinIpAddresses (← getMongoDbInstances component))
  raise (assertReplicaSetHealthy (← replicaSetStatus host))

def waitUntilClusterHealthy (component : String) : Py Unit :=
  poll (assertHealthy component) 60 (some 10)

-- ============================================================================
-- execute.py
-- ============================================================================

/-- `execute_action` once chaining is off: the instance is recycled. -/
def recycle (component : String) (node : Instance) : Py Unit := do
  log .recyclingInstance
  recycleInstance node
  log .waitForHealthy
  waitUntilClusterHealthy component

/-- The step-down of `execute_action`. -/
def stepDownAndWait (component : String) (node : Instance) : Py Unit := do
  log .steppingDown
  stepDown node.ipAddress
  log .waitingForStepDown
  waitUntilClusterHealthy component

def executeAction (component : String) (decision : Decision) : Py Unit := do
  let connectionString ← raise (joinIpAddresses (← getMongoDbInstances component))
  match decision.node? with
  -- `DONE` is the action without an instance
  | none => do
      let _ ← setChaining connectionString true
      return ()
  | some node => do
      let _ ← setChaining connectionString false
      if decision.action = .stepDownAndRecyclePrimary then stepDownAndWait component node
      recycle component node

-- ============================================================================
-- step.py
-- ============================================================================

def getAmiAndCheckAllAmisMatch (component : String) : Py String := do
  raise (assertAmisMatchAndGetAmi component (← getLaunchTemplateImageIds component))

/-- `step` up to the decision: what is observed. -/
def observe (component : String) : Py (String × List Instance) := do
  let targetAmi ← getAmiAndCheckAllAmisMatch component
  let replicaSetStatus ← fetchReplicaSetStatus component
  raise (assertAllNodesInSameReplicaSet replicaSetStatus)
  log (.clusterStatus replicaSetStatus targetAmi)
  return (targetAmi, replicaSetStatus)

def step (component : String) : Py Decision := do
  let (targetAmi, replicaSetStatus) ← observe component
  let outcome := decideOnAction replicaSetStatus targetAmi
  log (.outcome outcome)
  executeAction component outcome
  return outcome

def recordRecycleStarting (component : Json) : Py Unit := do
  log .recordingStart
  let now : Int ← ask .time
  let timeInFifteenMins := now + 900
  match ← ask (.putItem component timeInFifteenMins) with
  | .ok () => return ()
  | .error e => do
      log (.putItemFailed e)
      raise (.error e)

-- ============================================================================
-- The event
-- ============================================================================

/-- `event[key]`. -/
def getItem (key : String) : Json → Except PyExc Json
  | .obj fields => getKey key (Dict.get? key fields)
  | _ => .error { cls := .typeError }

/-- `event[key] = v`. -/
def setItem (key : String) (v : Json) : Json → Except PyExc Json
  | .obj fields => .ok (.obj (Dict.set key v fields))
  | _ => .error { cls := .typeError }

/-- Python's `not v`. -/
def isFalsy : Json → Bool
  | .null => true
  | .bool b => !b
  | .num n => n = 0
  | .str s => s.isEmpty
  | .arr items => items.isEmpty
  | .obj fields => fields.isEmpty

/-- `str(v)` of a value that can be a counter.  A list or an object cannot:
    `increment_counter` raises on it, and nobody sees the text. -/
def counterText : Json → String
  | .num n => toString n
  | .bool true => "True"
  | .bool false => "False"
  | .str s => s
  | .null => "None"
  | _ => ""

def incrementCounter (event : Json) : Except PyExc Json :=
  match (event.field? "counter").getD (.num 0) with
  | .num n => setItem "counter" (.num (n + 1)) event
  | .bool b => setItem "counter" (.num ((if b then 1 else 0) + 1)) event
  | _ => .error { cls := .typeError }

def isFirstRun (event : Json) : Bool := isFalsy ((event.field? "counter").getD .null)

def nodeJson (node : Instance) : Json :=
  .obj [("instance_id", .str node.instanceId), ("image_id", .str node.imageId),
        ("ip_address", .str node.ipAddress), ("mongo_state", .str node.mongoState),
        ("replica_set_name", .str node.replicaSetName)]

def decisionJson (decision : Decision) : Json :=
  .obj [("action", .str decision.action.text),
        ("instance", (decision.node?.map nodeJson).getD .null)]

def doneText (event : Json) : String :=
  match event.field? "counter" with
  | some counter =>
      "Autorecycling has successfully completed. Recycled " ++ counterText counter ++
        " mongo instances."
  | none => "No instances were recycled, because there was nothing to do"

/-- `event["message_content"]["text"] = ...` -/
def setText (event : Json) : Except PyExc Json := do
  let content ← setItem "text" (.str (doneText event)) (← getItem "message_content" event)
  setItem "message_content" content event

/-- What `lambda_handler` makes of the event once the step is taken. -/
def finishEvent (event : Json) (stepResult : Decision) : Except PyExc Json := do
  let event ← setItem "decision" (decisionJson stepResult) event
  let event ← if stepResult.action = .done then setText event else pure event
  incrementCounter event

/-- `AWS(component)` and `Mongo(component)`: the latter needs a string. -/
def componentName : Json → Except PyExc String
  | .str s => .ok s
  | _ => .error { cls := .typeError, arg := "expected string or bytes-like object" }

def lambdaHandler (event : Json) : Py Json := do
  let component ← raise (getItem "component" event)
  if isFirstRun event then recordRecycleStarting component
  let stepResult ← step (← raise (componentName component))
  raise (finishEvent event stepResult)

end AutoRecycle.Mongo
