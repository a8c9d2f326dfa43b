/-
  AutoRecycle.Standard.Monitor

  monitor_autorecycle/main.py: the lambda that looks whether a standard recycle
  is complete.  What it logs is left out.
-/
import AutoRecycle.Py.Str
import AutoRecycle.Standard.Calls

namespace AutoRecycle.Standard

open AutoRecycle.Asl AutoRecycle.Data AutoRecycle.Effect
open AutoRecycle.Py (str startsWith contains)

def scaledDownASGException : ExcClass := .other ⟨"ScaledDownASGException", by decide⟩

/-- Whether `except ScaledDownASGException` takes the exception. -/
def isScaledDown (e : PyExc) : Bool := e.cls.name = scaledDownASGException.name

-- ============================================================================
-- The check
-- ============================================================================

/-- What `_describe_asg` makes of the groups: the first one of the component. -/
def findAsg (component : Json) (groups : List AutoScalingGroup) :
    Except PyExc AutoScalingGroup :=
  match groups.filter fun asg => startsWith asg.autoScalingGroupName (str component ++ "-asg") with
  | asg :: _ =>
      if asg.maxSize = 0 then .error { cls := scaledDownASGException }
      else if asg.instances.isEmpty then
        .error { cls := .exception, arg := "No ASG found for " ++ str component }
      else .ok asg
  | [] => .error { cls := .exception, arg := "No ASG found for " ++ str component }

def describeAsg (component : Json) : Py AutoScalingGroup := do
  let pages ← raise (← ask .describeAutoScalingGroups)
  raise (findAsg component (addPages pages))

def maxRecords : Nat := 20

def describeScalingActivities (asgName : String) : Py (List Activity) := do
  raise (← ask (.describeScalingActivities asgName maxRecords))

def getLaunchingActivities (scalingActivities : List Activity) : List Activity :=
  scalingActivities.filter fun activity => contains activity.description "Launching"

/-- `sorted([...])[-1]`, or `None`. -/
def lastInstanceActivityTime (scalingActivities : List Activity) (instanceId : String) :
    Option Micros :=
  let instanceActivities :=
    scalingActivities.filter fun activity => contains activity.description instanceId
  (instanceActivities.map (·.startTime)).mergeSort.getLast?

/-- `itertools.combinations(xs, 2)`. -/
def pairs {α : Type} : List α → List (α × α)
  | [] => []
  | x :: xs => xs.map (x, ·) ++ pairs xs

def compareStartTimes (lastLaunchingActivityTimes : List Micros) (delta : Int) : Bool :=
  (pairs lastLaunchingActivityTimes).all fun (a, b) =>
    !(a - b > minutes delta || b - a > minutes delta)

/-- The loop of `check_instances`; `none` is its `return False`. -/
def lastLaunchingActivityTimes (launchingActivities : List Activity) :
    List AsgInstance → Option (List Micros)
  | [] => some []
  | node :: nodes =>
      if node.healthStatus ≠ "Healthy" ∨ node.lifecycleState ≠ "InService" then none
      else do
        let lastActivityTime ← lastInstanceActivityTime launchingActivities node.instanceId
        let times ← lastLaunchingActivityTimes launchingActivities nodes
        return lastActivityTime :: times

def checkInstances (asg : AutoScalingGroup) (launchingActivities : List Activity) : Bool :=
  match lastLaunchingActivityTimes launchingActivities asg.instances with
  | some times => compareStartTimes times 2
  | none => false

/-- `check` once its two replies are there. -/
def checkReplies (asg : AutoScalingGroup) (scalingActivities : List Activity) : Bool :=
  let launchingActivities := getLaunchingActivities scalingActivities
  if launchingActivities.isEmpty then false else checkInstances asg launchingActivities

def check (component : Json) : Py Bool := do
  let asg ← describeAsg component
  let scalingActivities ← describeScalingActivities asg.autoScalingGroupName
  return checkReplies asg scalingActivities

-- ============================================================================
-- The event
-- ============================================================================

/-- `if key not in output: output[key] = v` -/
def setDefault (key : String) (v : Json) (output : Dict Json) : Dict Json :=
  if (Dict.get? key output).isNone then Dict.set key v output else output

/-- `n + 1`, for a value of JSON. -/
def plusOne : Json → Except PyExc Int
  | .num n => .ok (n + 1)
  | .bool b => .ok ((if b then 1 else 0) + 1)
  | _ => .error { cls := .typeError }

/-- `output["message_content"][key] = v` -/
def setContent (key : String) (v : Json) (output : Dict Json) : Except PyExc (Dict Json) := do
  match ← getKey "message_content" (Dict.get? "message_content" output) with
  | .obj content => .ok (Dict.set "message_content" (.obj (Dict.set key v content)) output)
  | _ => .error { cls := .typeError }

/-- The event with its defaults and the counter of this invocation. -/
def countInvocation (event : Dict Json) : Except PyExc (Int × Dict Json) := do
  let output := setDefault "message_content" (.obj []) event
  let output := setDefault "counter" (.num 0) output
  let counter ← plusOne (← getKey "counter" (Dict.get? "counter" output))
  return (counter, Dict.set "counter" (.num counter) output)

/-- The answer after more than 20 invocations. -/
def giveUp (output : Dict Json) : Except PyExc (Dict Json) := do
  let output ← setContent "color" (.str "danger") output
  let output ← setContent "text" (.str ("Autorecycling appears to be taking too long :scream: " ++
    "please investigate.")) output
  let channels ← getKey "channels" (Dict.get? "channels" output)
  let output := Dict.set "channels" channels output
  let output := Dict.set "status" (.str "fail") output
  return Dict.set "recycle_success" (.bool false) output

def finished (text : String) (output : Dict Json) : Except PyExc (Dict Json) := do
  let output ← setContent "text" (.str text) output
  return Dict.set "recycle_success" (.bool true) output

/-- What the result of `check` makes of the event. -/
def conclude (output : Dict Json) : Except PyExc Bool → Except PyExc (Dict Json)
  | .ok true => finished "Autorecycling has successfully completed" output
  | .ok false => .ok (Dict.set "recycle_success" (.bool false) output)
  | .error e =>
      if isScaledDown e then
        finished "The ASG is scaled down to 0 instances, auto-recycling is not required" output
      else .error e

def monitorAutorecycle (event : Dict Json) : Py (Dict Json) := do
  let (counter, output) ← raise (countInvocation event)
  if counter > 20 then raise (giveUp output)
  else do
    let component ← raise (getKey "component" (Dict.get? "component" event))
    raise (conclude output (← (check component).attempt))

/-- `key in event`. -/
def isIn (key : String) : Json → Except PyExc Bool
  | .obj fields => .ok (Dict.get? key fields).isSome
  | .arr items => .ok (items.any fun | .str s => s = key | _ => false)
  | .str s => .ok (contains s key)
  | _ => .error { cls := .typeError }

def monitorHandler (event : Json) : Py Json := do
  if !(← raise (isIn "component" event)) then
    raise (.error { cls := .exception, arg := "No component in event" })
  match event with
  | .obj fields => return .obj (← monitorAutorecycle fields)
  -- a list or a string cannot be updated by key
  | _ => raise (.error { cls := .typeError })

end AutoRecycle.Standard
