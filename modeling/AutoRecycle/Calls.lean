/-
  AutoRecycle.Calls

  What the lambdas ask of the outside: the clock, AWS, MongoDB, the other
  lambdas, and the log.  The types keep the keys of the replies that the code
  reads.
-/
import AutoRecycle.Asl.Json
import AutoRecycle.Effect.Prog
import AutoRecycle.Exceptions

namespace AutoRecycle

open AutoRecycle.Asl AutoRecycle.Data AutoRecycle.Effect

-- ============================================================================
-- Auto Scaling
-- ============================================================================

/-- Points in time are microseconds since the epoch. -/
abbrev Micros : Type := Int

def seconds (n : Int) : Micros := n * 1000000
def minutes (n : Int) : Micros := seconds (60 * n)

/-- `auto_scaling_groups += page["AutoScalingGroups"]`, for one page after the other. -/
def addPages {α : Type} (pages : List (List α)) : List α :=
  pages.foldl (fun autoScalingGroups page => autoScalingGroups ++ page) []

theorem addPages_eq {α : Type} (pages : List (List α)) : addPages pages = pages.flatten := by
  have hfrom : ∀ found : List α, pages.foldl (fun groups page => groups ++ page) found =
      found ++ pages.flatten := by
    induction pages with
    | nil => exact fun found => (List.append_nil found).symm
    | cons page pages ih =>
        intro found
        rw [List.foldl_cons, ih, List.flatten_cons, List.append_assoc]
  exact hfrom []

/-- A Python `datetime`: a wall clock reading, or a point in time. -/
inductive DateTime where
  | naive (wall : Micros)
  | aware (instant : Micros)

structure LaunchTemplateSpecification where
  launchTemplateId : String
  version : String
  deriving DecidableEq

structure AsgInstance where
  instanceId : String
  launchTemplate : Option LaunchTemplateSpecification
  deriving DecidableEq

structure AutoScalingGroup where
  autoScalingGroupName : String
  instances : List AsgInstance
  launchTemplate : Option LaunchTemplateSpecification
  deriving DecidableEq

/-- A scaling activity.  `EndTime` is always a point in time. -/
structure Activity where
  activityId : String
  autoScalingGroupName : String
  cause : String
  progress : Option Int
  startTime : DateTime
  endTime : Option Micros
  statusCode : Option String

-- ============================================================================
-- EC2
-- ============================================================================

structure LaunchTemplate where
  launchTemplateId : String
  latestVersionNumber : Nat

structure LaunchTemplateVersion where
  imageId : Option String

structure NetworkInterface where
  privateIpAddress : String
  deleteOnTermination : Bool

structure Ec2Instance where
  instanceId : String
  imageId : String
  stateName : String
  networkInterfaces : List NetworkInterface

structure Reservation where
  instances : List Ec2Instance

-- ============================================================================
-- MongoDB
-- ============================================================================

structure Member where
  name : String
  stateStr : String
  syncSourceHost : Option String
  deriving DecidableEq

/-- The reply of `replSetGetStatus`. -/
structure ReplSetStatus where
  ok : Int
  myState : Option Int
  set : String
  members : List Member
  deriving DecidableEq

structure ReplSetSettings where
  chainingAllowed : Bool
  others : Dict Json

structure ReplSetConfig where
  version : Int
  settings : ReplSetSettings
  others : Dict Json

/-- The recycler's record of a mongo instance. -/
structure Instance where
  instanceId : String
  imageId : String
  ipAddress : String
  mongoState : String
  replicaSetName : String
  deriving DecidableEq

/-- The constants of `models/decision.py`. -/
inductive Action where
  | stepDownAndRecyclePrimary
  | recycleSecondary
  | done
  deriving DecidableEq

def Action.text : Action → String
  | stepDownAndRecyclePrimary => "STEP_DOWN_AND_RECYCLE_PRIMARY"
  | recycleSecondary => "RECYCLE_SECONDARY"
  | done => "DONE"

/-- `Decision(action, instance)`, as its three constructor functions build it:
    `DONE` has no instance, the other actions have one. -/
inductive Decision where
  | done
  | recycleSecondary (node : Instance)
  | stepDownAndRecyclePrimary (node : Instance)
  deriving DecidableEq

namespace Decision

def action : Decision → Action
  | done => .done
  | recycleSecondary _ => .recycleSecondary
  | stepDownAndRecyclePrimary _ => .stepDownAndRecyclePrimary

def node? : Decision → Option Instance
  | done => none
  | recycleSecondary node => some node
  | stepDownAndRecyclePrimary node => some node

end Decision

-- ============================================================================
-- The calls
-- ============================================================================

/-- The log lines of `mongo_recycler`. -/
inductive LogLine where
  /-- "Recording recycle start for: ..." -/
  | recordingStart
  /-- "DynamoDB put_item failed with ..." -/
  | putItemFailed (e : PyExc)
  /-- The report of `report_cluster_status`. -/
  | clusterStatus (nodes : List Instance) (targetAmi : String)
  /-- The report of `report_outcome`. -/
  | outcome (d : Decision)
  /-- "Chaining status is already set to ..." -/
  | chainingAlready (b : Bool)
  /-- "Updating chaining status to ..." -/
  | updatingChaining (b : Bool)
  /-- "STEPPING DOWN MONGO PRIMARY" -/
  | steppingDown
  /-- "WAITING FOR STEP DOWN" -/
  | waitingForStepDown
  /-- "RECYCLING INSTANCE" -/
  | recyclingInstance
  /-- "waiting for instance ... to terminate" -/
  | waitingToTerminate (instanceId : String)
  /-- "WAIT FOR CLUSTER TO BECOME HEALTHY AGAIN" -/
  | waitForHealthy
  /-- "Polling Succeeded" -/
  | pollingSucceeded
  /-- "poll failed ... with: ..." -/
  | pollFailed (i : Nat) (error : PyExc)
  /-- "Giving up polling after ..." -/
  | givingUp (maxIters : Int)

/-- The report of a decision, which only `step` itself logs. -/
def LogLine.isOutcome : LogLine → Bool
  | outcome _ => true
  | _ => false

inductive Op where
  /-- `datetime.now()`: the wall clock of the host. -/
  | now
  /-- `time.time()`, in whole seconds. -/
  | time
  | sleep (secs : Nat)
  | getenv (name : String)
  | log (line : LogLine)
  -- Auto Scaling
  /-- The pages of `describe_auto_scaling_groups`. -/
  | describeAutoScalingGroups
  /-- `describe_scaling_activities` with `MaxRecords=1`. -/
  | describeScalingActivities (asgName : String)
  | executePolicy (asgName policyName : String)
  -- EC2
  /-- `describe_launch_templates` by the filter `launch-template-name`. -/
  | describeLaunchTemplates (value : String)
  | describeLaunchTemplateVersions (launchTemplateId version : String)
  /-- `describe_instances` by the filter `tag:Name`. -/
  | describeInstances (values : List String)
  /-- `describe_instances` by instance id. -/
  | describeInstancesById (instanceId : String)
  /-- `resource.instances.filter(InstanceIds=[...])`: the ids of the result. -/
  | filterInstances (instanceId : String)
  | terminate (instanceId : String)
  -- DynamoDB
  /-- `put_item` on `mongo_recycle_in_progress`. -/
  | putItem (replicasetName : Json) (expiryTime : Int)
  -- MongoDB
  /-- `Mongo._connect`: up to ten attempts, the last one's exception if all fail. -/
  | connect (connectionString : String)
  /-- `replSetGetStatus`, for the state of the node connected to. -/
  | nodeStatus (ipAddress : String)
  /-- `replSetGetStatus`, for the members of the replica set. -/
  | replicaSetStatus (connectionString : String)
  | replSetGetConfig (connectionString : String)
  | replSetReconfig (connectionString : String) (config : ReplSetConfig)
  | replSetStepDown (ipAddress : String) (secs : Nat)
  -- Lambdas that are not part of the repository, or not modelled
  | invoke (function : String) (input : Json)

/-- What comes back: a value, or for a request over the network perhaps an exception. -/
def Op.Reply : Op → Type
  | now => Micros
  | time => Int
  | sleep _ => Unit
  | getenv _ => Option String
  | log _ => Unit
  | describeAutoScalingGroups => Except PyExc (List (List AutoScalingGroup))
  | describeScalingActivities _ => Except PyExc (List Activity)
  | executePolicy .. => Except PyExc Unit
  | describeLaunchTemplates _ => Except PyExc (List LaunchTemplate)
  | describeLaunchTemplateVersions .. => Except PyExc (List LaunchTemplateVersion)
  | describeInstances _ => Except PyExc (List Reservation)
  | describeInstancesById _ => Except PyExc (List Reservation)
  | filterInstances _ => Except PyExc (List String)
  | terminate _ => Except PyExc Unit
  | putItem .. => Except PyExc Unit
  | connect _ => Except PyExc Unit
  | nodeStatus _ => Except PyExc ReplSetStatus
  | replicaSetStatus _ => Except PyExc ReplSetStatus
  | replSetGetConfig _ => Except PyExc ReplSetConfig
  | replSetReconfig .. => Except PyExc Unit
  | replSetStepDown .. => Except PyExc Unit
  | invoke .. => Except PyExc Json

/-- The interface of the lambdas. -/
abbrev Calls : Signature where
  Op := Op
  Reply := Op.Reply
  Exc := PyExc

/-- A computation of a lambda. -/
abbrev Py : Type → Type := Prog Calls

namespace Py

def ask (op : Op) : Py op.Reply := @Prog.perform Calls op

/-- A reply that is an exception is raised. -/
def raise {α : Type} (r : Except PyExc α) : Py α := @Prog.ofExcept Calls α r

def log (line : LogLine) : Py Unit := ask (.log line)

/-- `time.sleep(secs)`. -/
def sleep (secs : Nat) : Py Unit := ask (.sleep secs)

variable {α : Type}

@[simp] theorem ask_bind (op : Op) (f : op.Reply → Py α) : (ask op >>= f) = Prog.call op f := rfl

@[simp] theorem raise_ok (a : α) : raise (.ok a) = Prog.ret a := rfl

@[simp] theorem raise_error (e : PyExc) : (raise (.error e) : Py α) = Prog.throw e := rfl

@[simp] theorem run_raise {W : Type} {answer : W → (op : Op) → op.Reply × W}
    (r : Except PyExc α) (w : W) : (raise r).run answer w = (r, w) :=
  @Prog.run_ofExcept Calls α W answer r w

end Py

end AutoRecycle
