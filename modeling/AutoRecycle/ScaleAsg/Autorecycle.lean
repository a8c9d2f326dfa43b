/-
  AutoRecycle.ScaleAsg.Autorecycle

  autorecycle.py: what to do next with a list of ASGs and their last activities.
-/
import AutoRecycle.Calls
import AutoRecycle.ScaleAsg.Event

namespace AutoRecycle.ScaleAsg

open AutoRecycle.Data AutoRecycle.Py

/-- `Literal["in", "out"]`. -/
inductive Direction where
  | scaleIn
  | scaleOut
  deriving DecidableEq

def Direction.text : Direction → String
  | scaleIn => "in"
  | scaleOut => "out"

structure NextAsgAction where
  asgName : String
  action : Direction
  deriving DecidableEq

def getOverallProgress (activities : List Activity) : Bool :=
  activities.all fun activity => activity.progress = some 100

def getOverallStatuscode (activities : List Activity) : Bool :=
  activities.all fun activity => activity.statusCode = some "Successful"

/-- `utc.localize(datetime.now() - timedelta(minutes=min_age))`: the wall clock
    is taken for UTC. -/
def lcAge (now : Micros) (minAge : Int) : Micros := now - minutes minAge

/-- The comparison of `recently_scaled`, the clock being read. -/
def endedAfter (activity : Activity) (lcAge : Micros) : Bool :=
  match activity.endTime with
  | none => false
  | some endTime => endTime > lcAge

/-- `recently_scaled` with its default `min_age=10`. -/
def recentlyScaled (activity : Activity) : Py Bool := do
  return endedAfter activity (lcAge (← ask .now) 10)

def getLaunchTemplateVersion (launchTemplate : Option LaunchTemplateSpecification) :
    Option String :=
  launchTemplate.map LaunchTemplateSpecification.version

/-- The instance need not be recycled. -/
def upToDate (asg : AutoScalingGroup) (asgRecentlyScaled : Bool) (inst : AsgInstance) : Bool :=
  let asgVersion := getLaunchTemplateVersion asg.launchTemplate
  let instanceVersion := getLaunchTemplateVersion inst.launchTemplate
  asgVersion.isSome && instanceVersion.isSome && asgVersion = instanceVersion && asgRecentlyScaled

/-- The first loop of `get_next_asg_action`. -/
def nextScaleOut : List AutoScalingGroup → Option NextAsgAction
  | [] => none
  | asg :: asgs =>
      if asg.instances.length = 0 then some { action := .scaleOut, asgName := asg.autoScalingGroupName }
      else nextScaleOut asgs

/-- The second loop of `get_next_asg_action`. -/
def nextScaleIn (lastActivities : Dict Activity) :
    List AutoScalingGroup → Py (Option NextAsgAction)
  | [] => return none
  | asg :: asgs => do
      let lastActivity ← raise (getKey asg.autoScalingGroupName
        (lastActivities.get? asg.autoScalingGroupName))
      let asgRecentlyScaled ← recentlyScaled lastActivity
      if asg.instances.all (upToDate asg asgRecentlyScaled) then nextScaleIn lastActivities asgs
      else return some { action := .scaleIn, asgName := asg.autoScalingGroupName }

def getNextAsgAction (asgs : List AutoScalingGroup) (lastActivities : Dict Activity) :
    Py (Option NextAsgAction) :=
  match nextScaleOut asgs with
  | some action => return some action
  | none => nextScaleIn lastActivities asgs

/-- `event.counter + 1 if event.counter else 1`. -/
def nextCounter (event : Event) : Int :=
  match event.counter.get with
  | some counter => if counter ≠ 0 then counter + 1 else 1
  | none => 1

def createOutputParams (event : Event) : Event where
  channels := .set event.channels.get
  component := event.component
  counter := .set (some (nextCounter event))
  emoji := .set (some ":robot_face:")
  monitoringSlackChannel? := some event.monitoringSlackChannel
  notifyPagerDuty := .set event.notifyPagerDuty.get
  status := .set (some (.flag true))
  successChannel := event.successChannel
  team := .set event.team.get
  text := .set (some ("*" ++ event.component ++ "*"))
  username := .set (some "AutoRecycling")

end AutoRecycle.ScaleAsg
