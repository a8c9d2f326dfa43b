/-
  AutoRecycle.ScaleAsg.Handler

  handler.py: one invocation of the scale-ASG lambda.
-/
import AutoRecycle.ScaleAsg.Autorecycle
import AutoRecycle.ScaleAsg.Autoscaling

namespace AutoRecycle.ScaleAsg

open AutoRecycle.Asl (Json)
open AutoRecycle.Data AutoRecycle.Effect AutoRecycle.Py

def messageContentFields (component : String) (environment : Option String) : List (Dict Json) :=
  [[("title", .str "Component"), ("value", .str component), ("short", .bool true)],
   [("title", .str "Environment"), ("value", (environment.map .str).getD .null),
    ("short", .bool true)]]

def messageContent (color : String) (fields : List (Dict Json)) (text : String) :
    Field MessageContent :=
  .set (some { color := .set (some color), fields := .set (some fields), text := .set (some text) })

def notSuccessful : String := "The last scaling event was not Successful. Please investigate"

/-- The first loop of the `try` block. -/
def activityDetails (asgActivityDetails : Dict Activity) :
    List AutoScalingGroup → Py (Dict Activity)
  | [] => return asgActivityDetails
  | asg :: asgs => do
      let activity ← describeScalingActivities asg.autoScalingGroupName
      activityDetails (asgActivityDetails.set asg.autoScalingGroupName activity) asgs

/-- The returns of the `try` block, one for each outcome. -/
def inProgress (output : Event) (fields : List (Dict Json)) : Event :=
  { output with
    messageContent := messageContent "good" fields "Auto-recycling has successfully initiated"
    recycleSuccess := .set (some false) }

def lastNotSuccessful (output : Event) (fields : List (Dict Json)) : Event :=
  { output with
    messageContent := messageContent "danger" fields notSuccessful
    recycleSuccess := .set (some false)
    pagerDutyDescription := .set (some notSuccessful)
    pagerDutyEventType := .set (some "trigger")
    status := .set (some (.text "fail")) }

def initiated (output : Event) (fields : List (Dict Json)) : Event :=
  { output with
    messageContent := messageContent "good" fields
      (if output.counter.get = some 1 then "Auto-recycling has successfully initiated"
       else "Auto-recycling is already in progress")
    recycleSuccess := .set (some false) }

def completed (output : Event) (fields : List (Dict Json)) : Event :=
  { output with
    recycleSuccess := .set (some true)
    messageContent := messageContent "good" fields "Auto-recycling has successfully initiated"
    status := .set (some (.flag true)) }

/-- The return of the `except` block. -/
def caught (output : Event) (fields : List (Dict Json)) (err : PyExc) : Event :=
  { output with
    recycleSuccess := .set (some false)
    messageContent := messageContent "danger" fields notSuccessful
    pagerDutyDescription := .set (some notSuccessful)
    pagerDutyEventType := .set (some "trigger")
    exception := .set (some err.repr)
    status := .set (some (.text "fail")) }

/-- The `try` block of `scale_asg`. -/
def tryScale (component : String) (output : Event) (fields : List (Dict Json)) : Py Event := do
  let asgs ← describeAsg component
  let asgActivityDetails ← activityDetails [] asgs
  if !getOverallProgress asgActivityDetails.values then
    return inProgress output fields
  if !getOverallStatuscode asgActivityDetails.values then
    return lastNotSuccessful output fields
  match ← getNextAsgAction asgs asgActivityDetails with
  | some nextStep => do
      executeScalingPolicy nextStep.asgName ("recycle-scale-" ++ nextStep.action.text)
      return initiated output fields
  | none => return completed output fields

def scaleAsg (event : Event) : Py Event := do
  let output := createOutputParams event
  let fields := messageContentFields event.component (← ask (.getenv "ENVIRONMENT"))
  (tryScale event.component output fields).tryCatch fun err => return caught output fields err

/-- The answer of the sixtieth invocation. -/
def tooLong (event : Event) : Event where
  component := event.component
  channels := .set (some (.one event.monitoringSlackChannel))
  messageContent := .set (some
    { color := .set (some "danger")
      text := .set (some ("Autorecycling of " ++ event.component ++
        " appears to be taking too long :scream: please investigate.")) })
  monitoringSlackChannel? := some event.monitoringSlackChannel
  pagerDutyDescription := .set (some ("Autorecycling of " ++ event.component ++
    " appears to be taking too long. Please investigate."))
  pagerDutyEventType := .set (some "trigger")
  successChannel := event.successChannel
  status := .set (some (.text "fail"))

/-- `not event.counter`. -/
def firstInvocation (event : Event) : Bool :=
  event.counter.get = none || event.counter.get = some 0

/-- What the first invocation makes of its event. -/
def started (event : Event) : Event :=
  { event with counter := .set (some 0), channels := .set (some (.one event.successChannel)) }

def handleEvent (lambdaEvent : Json) : Py Event := do
  let event ← raise (Event.modelValidate lambdaEvent)
  if firstInvocation event then
    scaleAsg (started event)
  else if event.counter.get.getD 0 < 60 then
    scaleAsg event
  else if event.counter.get.getD 0 = 60 then
    return tooLong event
  else
    raise (.error { cls := .exception })

def lambdaHandler (lambdaEvent : Json) : Py Json := do
  let result ← handleEvent lambdaEvent
  return result.modelDump

end AutoRecycle.ScaleAsg
