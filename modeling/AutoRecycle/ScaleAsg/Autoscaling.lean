/-
  AutoRecycle.ScaleAsg.Autoscaling

  autoscaling.py: the calls to the Auto Scaling API.
-/
import AutoRecycle.Calls
import AutoRecycle.Py.Re
import AutoRecycle.ZoneSuffix

namespace AutoRecycle.ScaleAsg

open AutoRecycle.Py

/-- The part of `describe_asg` after the listing. -/
def matchAsgs (componentNameMaybeWithAzSuffix : String)
    (autoScalingGroups : List AutoScalingGroup) : Except PyExc (List AutoScalingGroup) :=
  let (componentName, numberOfSubsMade) := ZoneSuffix.subn componentNameMaybeWithAzSuffix
  let extensionRe := if numberOfSubsMade = 1 then "(?:_[abc])" else ""
  match Re.compile ("(^" ++ componentName ++ ")" ++ extensionRe ++ "-asg-[a-z\\d]+$") with
  | none => .error { cls := .reError }
  | some matcher =>
      let matchingAsgs := autoScalingGroups.filter fun asg => matcher.matches? asg.autoScalingGroupName
      if matchingAsgs.isEmpty then
        .error { cls := .exception,
                 arg := "Could not find ASGs matching: `^" ++ componentName ++
                   "(_[abc])?-asg-[a-z\\d]+$`." }
      else .ok matchingAsgs

def describeAsg (componentNameMaybeWithAzSuffix : String) : Py (List AutoScalingGroup) := do
  let pages ← raise (← ask .describeAutoScalingGroups)
  raise (matchAsgs componentNameMaybeWithAzSuffix (addPages pages))

def executeScalingPolicy (asgName policyName : String) : Py Unit := do
  raise (← ask (.executePolicy asgName policyName))

/-- The record that stands in when there were no activities for six weeks. -/
def noActivity (asgName : String) (now : Micros) : Activity where
  activityId := "."
  autoScalingGroupName := asgName
  cause := "?"
  progress := some 100
  startTime := .naive (now - seconds (6 * 7 * 24 * 60 * 60))
  endTime := none
  statusCode := "Successful"

def describeScalingActivities (asgName : String) : Py Activity := do
  match ← raise (← ask (.describeScalingActivities asgName)) with
  | [] => return noActivity asgName (← ask .now)
  | activity :: _ => return activity

end AutoRecycle.ScaleAsg
