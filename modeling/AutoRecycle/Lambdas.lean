/-
  AutoRecycle.Lambdas

  The programs behind the Task states.  The scale-ASG and the Mongo lambda are
  the modelled ones; the others are one call each, to be answered by the world.
-/
import AutoRecycle.Asl.Live
import AutoRecycle.Mongo.Process
import AutoRecycle.Runs
import AutoRecycle.ScaleAsg.Handler
import AutoRecycle.StateMachine

namespace AutoRecycle

open AutoRecycle.Asl AutoRecycle.Effect AutoRecycle.Py

/-- A lambda that is not modelled. -/
def invoke (function : String) (input : Json) : Py Json := do
  raise (← ask (.invoke function input))

def lambda : Resource → Json → Py Json
  | .autorecycle => invoke "autorecycle"
  | .autorecycleScaleAsg => ScaleAsg.lambdaHandler
  | .autorecycleMongo => Mongo.lambdaHandler
  | .monitorAutorecycle => invoke "monitor_autorecycle"
  | .slackNotifications => invoke "slack_notifications"
  | .startInstanceRefresh => invoke "start_instance_refresh"
  | .cancelInstanceRefresh => invoke "cancel_instance_refresh"
  | .getInstanceRefreshStatus => invoke "get_instance_refresh_status"

/-- How the Lambda service reports an exception of the code. -/
def reportError (e : PyExc) : TaskError where
  error := e.cls.name
  cause := e.arg.getD ""

/-- The host of the lambdas; `faults` are the failures of the service itself. -/
def lambdas (faults : TaskError → Prop) : Host Calls Resource where
  impl := lambda
  describe := reportError
  faults := faults

-- ============================================================================
-- Failed tasks
-- ============================================================================

section
open StateMachine
variable {resource : Resource} {inputPath resultPath : Path} {next s : State} {data : Json}

/-- An exception of the code is none of the errors that are retried: these have
    a dot in their names. -/
theorem errorEquals_lambdaErrors (e : PyExc) : errorEquals lambdaErrors (reportError e) = false := by
  have hdot : ∀ name ∈ lambdaErrors, '.' ∈ name.toList := by decide
  have hname : e.cls.name ∉ lambdaErrors := fun h => e.cls.noDot_name (hdot _ h)
  rw [errorEquals, Bool.or_eq_false_iff]
  refine ⟨by decide, ?_⟩
  simpa [reportError] using hname

/-- What is not retried is caught. -/
theorem finish_lambdaTask_of_not_retried {e : TaskError} (h : errorEquals lambdaErrors e = false) (n : Nat) :
    (lambdaTask resource inputPath resultPath next).finish s data n (.error e) =
      putAndGo ["error-info"] e.output data .lambdaError := by
  have hretry : (lambdaTask resource inputPath resultPath next).retries n e = false := by
    simp [Task.retries, lambdaTask, h]
  rw [Task.finish, hretry, if_neg Bool.false_ne_true]
  simp [lambdaTask, errorEquals]

theorem finish_lambdaTask_error (n : Nat) (e : PyExc) :
    (lambdaTask resource inputPath resultPath next).finish s data n (.error (reportError e)) =
      putAndGo ["error-info"] (reportError e).output data .lambdaError :=
  finish_lambdaTask_of_not_retried (errorEquals_lambdaErrors e) n

/-- A failure of the service is retried, or caught like an exception. -/
theorem finish_lambdaTask_fault (n : Nat) (e : TaskError) :
    (lambdaTask resource inputPath resultPath next).finish s data n (.error e) = .at s data (n + 1) ∨
      (lambdaTask resource inputPath resultPath next).finish s data n (.error e) =
        putAndGo ["error-info"] e.output data .lambdaError := by
  rw [Task.finish]
  split
  · exact .inl rfl
  · have hcatch : (lambdaTask resource inputPath resultPath next).catchers.find?
        (fun c => errorEquals c.errors e) =
        some { errors := ["States.ALL"], resultPath := ["error-info"], next := .lambdaError } := by
      simp [lambdaTask, errorEquals]
    rw [hcatch]
    exact .inr rfl

theorem finish_slackMessage_error (n : Nat) (e : TaskError) :
    (slackMessage next).finish s data n (.error e) =
      putAndGo ["error-info"] e.output data next := by
  simp [Task.finish, Task.retries, slackMessage, errorEquals]

end

-- ============================================================================
-- The calls of the lambdas
-- ============================================================================

namespace ScaleAsg

section
variable {P : Op → Prop} (hnow : P .now) (henv : ∀ name, P (.getenv name))
  (hgroups : P .describeAutoScalingGroups) (hactivities : ∀ a, P (.describeScalingActivities a))
  (hpolicy : ∀ a p, P (.executePolicy a p))
include hnow

theorem issues_nextScaleIn (lastActivities : Data.Dict Activity) (asgs : List AutoScalingGroup) :
    (nextScaleIn lastActivities asgs).Issues P := by
  induction asgs with
  | nil => trivial
  | cons asg asgs ih =>
      refine (issues_raise_bind _ _).mpr fun activity _ => Prog.Issues.bind ⟨hnow, fun _ => trivial⟩ ?_
      intro recent
      split
      · exact ih
      · trivial

theorem issues_getNextAsgAction (asgs : List AutoScalingGroup) (lastActivities : Data.Dict Activity) :
    (getNextAsgAction asgs lastActivities).Issues P := by
  rw [getNextAsgAction]
  split
  · trivial
  · exact issues_nextScaleIn hnow _ _

include hactivities

theorem issues_describeScalingActivities (asgName : String) :
    (describeScalingActivities asgName).Issues P := by
  refine ⟨hactivities _, fun r => (issues_raise_bind _ _).mpr fun activities _ => ?_⟩
  cases activities with
  | nil => exact ⟨hnow, fun _ => trivial⟩
  | cons activity rest => trivial

theorem issues_activityDetails (details : Data.Dict Activity) (asgs : List AutoScalingGroup) :
    (activityDetails details asgs).Issues P := by
  induction asgs generalizing details with
  | nil => trivial
  | cons asg asgs ih =>
      exact (issues_describeScalingActivities hnow hactivities _).bind fun _ => ih _

omit hnow hactivities in
include hgroups in
theorem issues_describeAsg (component : String) : (describeAsg component).Issues P := by
  rw [describeAsg, issues_ask_bind]
  refine ⟨hgroups, fun (r : Except PyExc (List (List AutoScalingGroup))) => ?_⟩
  rw [issues_raise_bind]
  intro pages _
  simp only [issues_raise]

include hgroups hpolicy

theorem issues_tryScale (component : String) (output : Event) (fields : List (Data.Dict Json)) :
    (tryScale component output fields).Issues P := by
  refine (issues_describeAsg hgroups component).bind fun asgs => ?_
  refine (issues_activityDetails hnow hactivities _ _).bind fun details => ?_
  split
  · trivial
  split
  · trivial
  refine (issues_getNextAsgAction hnow _ _).bind fun next => ?_
  cases next with
  | none => trivial
  | some nextStep => exact Prog.Issues.bind ⟨hpolicy _ _, fun r => issues_raise r⟩ fun _ => trivial

include henv

theorem issues_lambdaHandler (input : Json) : (lambdaHandler input).Issues P := by
  have hscale : ∀ event, (scaleAsg event).Issues P := fun event =>
    ⟨henv _, fun _ => (issues_tryScale hnow hgroups hactivities hpolicy _ _ _).tryCatch fun _ => trivial⟩
  refine Prog.Issues.bind ((issues_raise_bind _ _).mpr fun event _ => ?_) fun _ => trivial
  split
  · exact hscale _
  split
  · exact hscale _
  split
  · trivial
  · exact issues_raise _

end

end ScaleAsg

/-- The calls of the other lambdas. -/
theorem issues_lambda {P : Op → Prop} {r : Resource} (h : r ≠ .autorecycleMongo) (hnow : P .now)
    (henv : ∀ name, P (.getenv name)) (hgroups : P .describeAutoScalingGroups)
    (hactivities : ∀ a, P (.describeScalingActivities a)) (hpolicy : ∀ a p, P (.executePolicy a p))
    (hinvoke : ∀ function input, P (.invoke function input)) (input : Json) :
    (lambda r input).Issues P := by
  have hother : ∀ function, (invoke function input).Issues P :=
    fun function => ⟨hinvoke function input, fun reply => issues_raise reply⟩
  cases r with
  | autorecycleMongo => exact absurd rfl h
  | autorecycleScaleAsg =>
      rw [lambda]
      exact ScaleAsg.issues_lambdaHandler hnow henv hgroups hactivities hpolicy input
  | _ =>
      rw [lambda]
      exact hother _

end AutoRecycle
