/-
  AutoRecycle.Mongo.Connectors

  utils/poll.py, connectors/aws.py and connectors/mongo.py.
-/
import AutoRecycle.Calls
import AutoRecycle.ZoneSuffix

namespace AutoRecycle.Mongo

open AutoRecycle.Effect AutoRecycle.Py

-- ============================================================================
-- poll.py
-- ============================================================================

/-- `if sleep_for_seconds: time.sleep(sleep_for_seconds)`. -/
def pause (sleepForSeconds : Option Nat) : Py Unit := do
  match sleepForSeconds with
  | none => return ()
  | some secs => if secs ≠ 0 then sleep secs

/-- The loop of `poll` from its `i`-th iteration, with `left` more to come after it. -/
def pollFrom (fn : Py Unit) (maxIters : Int) (sleepForSeconds : Option Nat) : Nat → Nat → Py Unit
  | left, i => do
      match ← fn.attempt with
      | .ok () => log .pollingSucceeded
      | .error error => do
          log (.pollFailed i error)
          match left with
          | 0 => do
              log (.givingUp maxIters)
              raise (.error error)
          | left + 1 => do
              pause sleepForSeconds
              pollFrom fn maxIters sleepForSeconds left (i + 1)

/-- `poll(fn, max_iters, sleep_for_seconds)`.  The count starts at 1, and the
    first iteration is made whatever the limit. -/
def poll (fn : Py Unit) (maxIters : Int) (sleepForSeconds : Option Nat) : Py Unit :=
  pollFrom fn maxIters sleepForSeconds (maxIters.toNat - 1) 1

-- ============================================================================
-- aws.py
-- ============================================================================

def createInstanceNameFilters (component : String) : List String :=
  ["_a", "_b", "_c"].map fun az => ZoneSuffix.sub component ++ az

/-- What `describe_mongodb_instances` yields. -/
structure MongoInstance where
  instanceId : String
  imageId : String
  ipAddress : String

def describeIpAddressFromInstance (inst : Ec2Instance) : Except PyExc String :=
  match inst.networkInterfaces.filter fun interface => !interface.deleteOnTermination with
  | [] => .error { cls := .noENIFound, arg := "No ENI found for instance : " ++ inst.instanceId }
  | interface :: _ => .ok interface.privateIpAddress

def describeMongodbInstance (inst : Ec2Instance) : Except PyExc MongoInstance := do
  let ipAddress ← describeIpAddressFromInstance inst
  return { instanceId := inst.instanceId, imageId := inst.imageId, ipAddress }

/-- The generator: its items in order, an exception where asking for the next
    item raises it. -/
def describeMongodbInstances (reservations : List Reservation) :
    List (Except PyExc MongoInstance) :=
  (reservations.flatMap Reservation.instances).filter (fun inst => inst.stateName = "running")
    |>.map describeMongodbInstance

def instanceState (reservations : List Reservation) : Except PyExc String :=
  match reservations with
  | [] => .error { cls := .noInstancesFound }
  | _ :: _ :: _ => .error { cls := .tooManyReservationsFound }
  | [reservation] =>
      match reservation.instances with
      | [] => .error { cls := .noInstancesFound }
      | _ :: _ :: _ => .error { cls := .tooManyInstancesFound }
      | [inst] => .ok inst.stateName

def assertTerminated (state : String) : Except PyExc Unit :=
  if state = "terminated" then .ok ()
  else .error { cls := .assertionError, arg := "instance is in state " ++ state }

def getLaunchTemplateImageIds (component : String) : Py (List String) := do
  let launchTemplates ← raise (← ask (.describeLaunchTemplates (component ++ "*")))
  let launchTemplatesVersions ← Prog.forEach launchTemplates fun launchTemplate => do
    let versions ← raise (← ask (.describeLaunchTemplateVersions launchTemplate.launchTemplateId
      (toString launchTemplate.latestVersionNumber)))
    raise (getIndex versions 0)
  raise (launchTemplatesVersions.mapM fun version => getKey "ImageId" version.imageId)

def getInstanceState (instanceId : String) : Py String := do
  raise (instanceState (← raise (← ask (.describeInstancesById instanceId))))

def getMongoDbInstances (component : String) : Py (List (Except PyExc MongoInstance)) := do
  return describeMongodbInstances
    (← raise (← ask (.describeInstances (createInstanceNameFilters component))))

def isTerminated (instanceId : String) : Py Unit := do
  raise (assertTerminated (← getInstanceState instanceId))

/-- The result of the query: `ClientError` becomes `NoInstancesFound`. -/
def foundInstances (r : Except PyExc (List String)) : Except PyExc (List String) :=
  match r with
  | .ok ids => .ok ids
  | .error e =>
      match e.cls with
      | .clientError => .error { cls := .noInstancesFound }
      | _ => .error e

/-- `instances[0]`, if it is the only one. -/
def onlyInstance (instances : List String) : Except PyExc String :=
  if instances.length > 1 then .error { cls := .tooManyInstancesFound }
  else getIndex instances 0

def recycleInstance (node : Instance) : Py Unit := do
  let instances ← raise (foundInstances (← ask (.filterInstances node.instanceId)))
  let instanceId ← raise (onlyInstance instances)
  raise (← ask (.terminate instanceId))
  log (.waitingToTerminate instanceId)
  poll (isTerminated instanceId) 50 (some 10)

-- ============================================================================
-- mongo.py
-- ============================================================================

structure NodeDetails where
  nodeState : String
  replicaSetName : String

def states : List String :=
  ["STARTUP", "PRIMARY", "SECONDARY", "RECOVERING", "STARTUP2", "UNKNOWN", "ARBITER", "DOWN",
   "ROLLBACK", "REMOVED"]

def stateStringFromStatus (instanceStatus : ReplSetStatus) : Except PyExc String :=
  match getKey "myState" instanceStatus.myState with
  | .error _ => .error { cls := .instanceStateNotFound }
  | .ok myState => getIndex states myState

def nodeDetails (instanceStatus : ReplSetStatus) : Except PyExc NodeDetails :=
  if instanceStatus.ok ≠ 1 then .error { cls := .mongoRequestFailed }
  else do
    let nodeState ← stateStringFromStatus instanceStatus
    return { nodeState, replicaSetName := instanceStatus.set }

def connect (connectionString : String) : Py Unit := do
  raise (← ask (.connect connectionString))

def replicaSetStatus (connectionString : String) : Py ReplSetStatus := do
  connect connectionString
  raise (← ask (.replicaSetStatus connectionString))

def setChaining (connectionString : String) (newChainingStatus : Bool) : Py ReplSetConfig := do
  connect connectionString
  let config ← raise (← ask (.replSetGetConfig connectionString))
  if config.settings.chainingAllowed = newChainingStatus then do
    log (.chainingAlready newChainingStatus)
    return config
  else do
    log (.updatingChaining newChainingStatus)
    let config := { config with
      settings := { config.settings with chainingAllowed := newChainingStatus }
      version := config.version + 1 }
    raise (← ask (.replSetReconfig connectionString config))
    return config

def getNodeDetails (ipAddress : String) : Py NodeDetails := do
  connect ipAddress
  raise (nodeDetails (← raise (← ask (.nodeStatus ipAddress))))

/-- What `step_down` makes of the reply: `AutoReconnect` is passed over, and so is
    what derives from it, such as `NotPrimaryError`. -/
def steppedDown (r : Except PyExc Unit) : Except PyExc Unit :=
  match r with
  | .ok () => .ok ()
  | .error e => if e.cls.isAutoReconnect then .ok () else .error e

def stepDown (ipAddress : String) : Py Unit := do
  connect ipAddress
  raise (steppedDown (← ask (.replSetStepDown ipAddress 100)))

end AutoRecycle.Mongo
