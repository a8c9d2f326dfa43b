/-
  AutoRecycle.ScaleAsg.Responses

  One invocation of the scale-ASG lambda against fixed responses.

  `Responses` is everything the outside can answer during one invocation.
  `Responses.plan` says which of the returns of `scale_asg` the responses lead
  to, and `run_tryScale` that this is what the code does.
-/
import AutoRecycle.ScaleAsg.Handler

namespace AutoRecycle.ScaleAsg

open AutoRecycle.Data AutoRecycle.Effect AutoRecycle.Py

structure Responses where
  /-- The pages of the listing. -/
  pages : Except PyExc (List (List AutoScalingGroup))
  /-- The activities of an ASG, at most one, the latest. -/
  activities : String → Except PyExc (List Activity)
  /-- The result of a scaling policy on an ASG. -/
  policy : String → String → Except PyExc Unit
  /-- The successive readings of the wall clock. -/
  clock : Nat → Micros
  environment : Option String

/-- What an invocation leaves behind: how often it read the clock, and the
    policies it asked for. -/
structure Footprint where
  ticks : Nat := 0
  policies : List (String × String) := []

namespace Responses

/-- Calls that the scale-ASG lambda does not make. -/
def notCalled : PyExc := { cls := .exception }

def answer (env : Responses) (w : Footprint) : (op : Op) → op.Reply × Footprint
  | .now => (env.clock w.ticks, { w with ticks := w.ticks + 1 })
  | .getenv _ => (env.environment, w)
  | .describeAutoScalingGroups => (env.pages, w)
  | .describeScalingActivities asgName => (env.activities asgName, w)
  | .executePolicy asgName policyName =>
      (env.policy asgName policyName, { w with policies := w.policies ++ [(asgName, policyName)] })
  | .time => ((0 : Int), w)
  | .sleep _ => ((), w)
  | .log _ => ((), w)
  | .describeLaunchTemplates _ => (.error notCalled, w)
  | .describeLaunchTemplateVersions .. => (.error notCalled, w)
  | .describeInstances _ => (.error notCalled, w)
  | .describeInstancesById _ => (.error notCalled, w)
  | .filterInstances _ => (.error notCalled, w)
  | .terminate _ => (.error notCalled, w)
  | .putItem .. => (.error notCalled, w)
  | .connect _ => (.error notCalled, w)
  | .nodeStatus _ => (.error notCalled, w)
  | .replicaSetStatus _ => (.error notCalled, w)
  | .replSetGetConfig _ => (.error notCalled, w)
  | .replSetReconfig .. => (.error notCalled, w)
  | .replSetStepDown .. => (.error notCalled, w)
  | .invoke .. => (.error notCalled, w)

variable (env : Responses)

-- ============================================================================
-- What the responses say
-- ============================================================================

/-- The ASGs that `describe_asg` lists for the component, or its exception. -/
def listing (component : String) : Except PyExc (List AutoScalingGroup) :=
  env.pages >>= fun pages => matchAsgs component (addPages pages)

/-- The latest activity of an ASG.  An ASG without activities counts as having
    finished successfully at no known time. -/
def progress (asgName : String) : Option Int :=
  match env.activities asgName with
  | .ok (activity :: _) => activity.progress
  | _ => some 100

def statusCode (asgName : String) : Option String :=
  match env.activities asgName with
  | .ok (activity :: _) => activity.statusCode
  | _ => some "Successful"

def endTime (asgName : String) : Option Micros :=
  match env.activities asgName with
  | .ok (activity :: _) => activity.endTime
  | _ => none

/-- The first exception among the reads of the activities. -/
def activitiesError : List AutoScalingGroup → Option PyExc
  | [] => none
  | asg :: asgs =>
      match env.activities asg.autoScalingGroupName with
      | .error e => some e
      | .ok _ => activitiesError asgs

/-- How often the clock is read for a record that stands in. -/
def standIns : List AutoScalingGroup → Nat
  | [] => 0
  | asg :: asgs =>
      match env.activities asg.autoScalingGroupName with
      | .ok [] => standIns asgs + 1
      | _ => standIns asgs

def recentlyScaledAt (tick : Nat) (asgName : String) : Bool :=
  match env.endTime asgName with
  | none => false
  | some endTime => endTime > lcAge (env.clock tick) 10

/-- The result of the second loop of `get_next_asg_action`, its first reading of
    the clock being the `tick`-th. -/
def scaleInTarget (tick : Nat) : List AutoScalingGroup → Option NextAsgAction
  | [] => none
  | asg :: asgs =>
      if asg.instances.all (upToDate asg (env.recentlyScaledAt tick asg.autoScalingGroupName)) then
        scaleInTarget (tick + 1) asgs
      else some { action := .scaleIn, asgName := asg.autoScalingGroupName }

/-- The returns of `scale_asg`. -/
inductive Plan where
  | raised (e : PyExc)
  | waiting
  | notSuccessful
  | act (next : NextAsgAction)
  | finished

def plan (component : String) : Plan :=
  match env.listing component with
  | .error e => .raised e
  | .ok asgs =>
      match env.activitiesError asgs with
      | some e => .raised e
      | none =>
          if !asgs.all fun asg => env.progress asg.autoScalingGroupName = some 100 then .waiting
          else if !asgs.all fun asg => env.statusCode asg.autoScalingGroupName = some "Successful"
          then .notSuccessful
          else match (nextScaleOut asgs).or (env.scaleInTarget (env.standIns asgs) asgs) with
            | some next => .act next
            | none => .finished

/-- The policy that a plan asks for. -/
def Plan.policies : Plan → List (String × String)
  | act next => [(next.asgName, "recycle-scale-" ++ next.action.text)]
  | _ => []

/-- What the `try` block ends with. -/
def Plan.result (output : Event) (fields : List (Dict Asl.Json)) : Plan → Except PyExc Event
  | raised e => .error e
  | waiting => .ok (inProgress output fields)
  | notSuccessful => .ok (lastNotSuccessful output fields)
  | act next =>
      (env.policy next.asgName ("recycle-scale-" ++ next.action.text)).map fun _ =>
        initiated output fields
  | finished => .ok (completed output fields)

-- ============================================================================
-- The code follows the plan
-- ============================================================================

variable {env} (w : Footprint)

theorem run_describeAsg (component : String) :
    (describeAsg component).run env.answer w = (env.listing component, w) := by
  simp only [describeAsg, ask_bind, Prog.run_call, answer, listing]
  cases env.pages with
  | error e => rfl
  | ok pages => rw [raise_ok, Prog.ret_bind, run_raise, ok_bind]

/-- The record of an ASG agrees with the responses. -/
structure Agrees (env : Responses) (asgName : String) (activity : Activity) : Prop where
  progress : activity.progress = env.progress asgName
  statusCode : activity.statusCode = env.statusCode asgName
  endTime : activity.endTime = env.endTime asgName

theorem run_describeScalingActivities_error {asgName : String} {e : PyExc}
    (h : env.activities asgName = .error e) :
    (describeScalingActivities asgName).run env.answer w = (.error e, w) := by
  simp [describeScalingActivities, answer, h]

theorem run_describeScalingActivities_ok {asg : AutoScalingGroup} {activities : List Activity}
    (h : env.activities asg.autoScalingGroupName = .ok activities) :
    ∃ activity, Agrees env asg.autoScalingGroupName activity ∧
      (describeScalingActivities asg.autoScalingGroupName).run env.answer w =
        (.ok activity, { w with ticks := w.ticks + env.standIns [asg] }) := by
  cases activities with
  | nil =>
    refine ⟨noActivity asg.autoScalingGroupName (env.clock w.ticks), ⟨?_, ?_, ?_⟩, ?_⟩
    · simp [noActivity, progress, h]
    · simp [noActivity, statusCode, h]
    · simp [noActivity, endTime, h]
    · simp [describeScalingActivities, answer, h, standIns]
  | cons activity _ =>
    refine ⟨activity, ⟨?_, ?_, ?_⟩, ?_⟩
    · simp [progress, h]
    · simp [statusCode, h]
    · simp [endTime, h]
    · simp [describeScalingActivities, answer, h, standIns]

theorem standIns_cons (asg : AutoScalingGroup) (asgs : List AutoScalingGroup) :
    env.standIns (asg :: asgs) = env.standIns [asg] + env.standIns asgs := by
  simp only [standIns]
  split <;> omega

/-- The dictionary of the `try` block once the ASGs called `names` are in it. -/
structure Details (env : Responses) (names : List String) (d : Dict Activity) : Prop where
  agrees : ∀ x ∈ d, Agrees env x.1 x.2
  among : ∀ x ∈ d, x.1 ∈ names
  has : ∀ asgName ∈ names, ∃ activity, d.get? asgName = some activity

namespace Details

variable {names : List String} {d : Dict Activity}

theorem nil : Details env [] [] where
  agrees := by simp
  among := by simp
  has := by simp

theorem set (h : Details env names d) {asgName : String} {activity : Activity}
    (ha : Agrees env asgName activity) :
    Details env (names ++ [asgName]) (d.set asgName activity) where
  agrees x hx := by
    obtain rfl | hx := Dict.mem_set hx
    · exact ha
    · exact h.agrees x hx
  among x hx := by
    obtain rfl | hx := Dict.mem_set hx
    · simp
    · simp [h.among x hx]
  has name hname := by
    by_cases hn : name = asgName
    · rw [hn]
      exact ⟨activity, Dict.get?_set_self _ _ _⟩
    · rw [Dict.get?_set_ne hn]
      refine h.has name ?_
      simpa [hn] using hname

theorem get? (h : Details env names d) {asgName : String} (hn : asgName ∈ names) :
    ∃ activity, Dict.get? asgName d = some activity ∧ Agrees env asgName activity := by
  obtain ⟨activity, ha⟩ := h.has asgName hn
  exact ⟨activity, ha, h.agrees _ (Dict.mem_of_get? ha)⟩

/-- A check of the values is a check of the responses. -/
theorem all_values (h : Details env names d) {check : Activity → Bool} {good : String → Bool}
    (hc : ∀ name activity, Agrees env name activity → check activity = good name) :
    d.values.all check = names.all good := by
  rw [Bool.eq_iff_iff, List.all_eq_true, List.all_eq_true]
  constructor
  · intro hall name hname
    obtain ⟨activity, hget, ha⟩ := h.get? hname
    rw [← hc name activity ha]
    exact hall activity (List.mem_map_of_mem (Dict.mem_of_get? hget))
  · intro hall activity hmem
    obtain ⟨x, hx, rfl⟩ := List.mem_map.mp hmem
    rw [hc x.1 x.2 (h.agrees x hx)]
    exact hall x.1 (h.among x hx)

variable {asgs : List AutoScalingGroup}

theorem overallProgress
    (h : Details env (asgs.map AutoScalingGroup.autoScalingGroupName) d) :
    getOverallProgress d.values =
      asgs.all fun asg => env.progress asg.autoScalingGroupName = some 100 := by
  have hall : getOverallProgress d.values =
      (asgs.map AutoScalingGroup.autoScalingGroupName).all fun n => env.progress n = some 100 :=
    h.all_values fun _ _ ha => by rw [ha.progress]
  rw [hall, List.all_map]
  rfl

theorem overallStatuscode
    (h : Details env (asgs.map AutoScalingGroup.autoScalingGroupName) d) :
    getOverallStatuscode d.values =
      asgs.all fun asg => env.statusCode asg.autoScalingGroupName = some "Successful" := by
  have hall : getOverallStatuscode d.values =
      (asgs.map AutoScalingGroup.autoScalingGroupName).all
        fun n => env.statusCode n = some "Successful" :=
    h.all_values fun _ _ ha => by rw [ha.statusCode]
  rw [hall, List.all_map]
  rfl

end Details

theorem run_activityDetails_error {asgs : List AutoScalingGroup} (d : Dict Activity) {e : PyExc}
    (h : env.activitiesError asgs = some e) :
    ∃ ticks, (activityDetails d asgs).run env.answer w = (.error e, { w with ticks := ticks }) := by
  induction asgs generalizing w d with
  | nil => simp [activitiesError] at h
  | cons asg asgs ih =>
    cases hr : env.activities asg.autoScalingGroupName with
    | error e' =>
      simp only [activitiesError, hr, Option.some.injEq] at h
      refine ⟨w.ticks, ?_⟩
      rw [activityDetails, Prog.run_bind, run_describeScalingActivities_error w hr, h]
    | ok activities =>
      simp only [activitiesError, hr] at h
      obtain ⟨activity, -, hrun⟩ := run_describeScalingActivities_ok w hr
      obtain ⟨ticks, hrest⟩ := ih { w with ticks := w.ticks + env.standIns [asg] }
        (d.set asg.autoScalingGroupName activity) h
      exact ⟨ticks, by rw [activityDetails, Prog.run_bind, hrun]; exact hrest⟩

theorem run_activityDetails_ok {asgs : List AutoScalingGroup} {names : List String}
    {d : Dict Activity} (h : env.activitiesError asgs = none) (hd : Details env names d) :
    ∃ d', (activityDetails d asgs).run env.answer w =
        (.ok d', { w with ticks := w.ticks + env.standIns asgs }) ∧
      Details env (names ++ asgs.map AutoScalingGroup.autoScalingGroupName) d' := by
  induction asgs generalizing w names d with
  | nil => exact ⟨d, by simp [activityDetails, standIns], by simpa using hd⟩
  | cons asg asgs ih =>
    cases hr : env.activities asg.autoScalingGroupName with
    | error e => simp [activitiesError, hr] at h
    | ok activities =>
      simp only [activitiesError, hr] at h
      obtain ⟨activity, hagrees, hrun⟩ := run_describeScalingActivities_ok w hr
      obtain ⟨d', hrest, hd'⟩ := ih { w with ticks := w.ticks + env.standIns [asg] } h
        (hd.set hagrees)
      refine ⟨d', ?_, by simpa using hd'⟩
      rw [activityDetails, Prog.run_bind, hrun]
      rw [standIns_cons asg asgs, ← Nat.add_assoc]
      exact hrest

theorem endedAfter_eq {asgName : String} {activity : Activity} (h : Agrees env asgName activity)
    (tick : Nat) :
    endedAfter activity (lcAge (env.clock tick) 10) = env.recentlyScaledAt tick asgName := by
  cases hend : env.endTime asgName <;> simp [endedAfter, recentlyScaledAt, h.endTime, hend]

theorem run_nextScaleIn {asgs : List AutoScalingGroup} {names : List String} {d : Dict Activity}
    (hd : Details env names d) (hsub : ∀ asg ∈ asgs, asg.autoScalingGroupName ∈ names) :
    ∃ ticks, (nextScaleIn d asgs).run env.answer w =
      (.ok (env.scaleInTarget w.ticks asgs), { w with ticks := ticks }) := by
  induction asgs generalizing w with
  | nil => exact ⟨w.ticks, rfl⟩
  | cons asg asgs ih =>
    obtain ⟨activity, hget, hagrees⟩ := hd.get? (hsub asg List.mem_cons_self)
    obtain ⟨ticks, hrest⟩ := ih { w with ticks := w.ticks + 1 }
      fun a ha => hsub a (List.mem_cons_of_mem _ ha)
    simp only [nextScaleIn, hget, getKey, raise_ok, Prog.ret_bind, recentlyScaled, ask_bind,
      Prog.call_bind, Prog.run_call, answer, Prog.pure_eq, endedAfter_eq hagrees, scaleInTarget]
    split
    · exact ⟨ticks, hrest⟩
    · exact ⟨w.ticks + 1, rfl⟩

theorem run_getNextAsgAction {asgs : List AutoScalingGroup} {names : List String}
    {d : Dict Activity} (hd : Details env names d)
    (hsub : ∀ asg ∈ asgs, asg.autoScalingGroupName ∈ names) :
    ∃ ticks, (getNextAsgAction asgs d).run env.answer w =
      (.ok ((nextScaleOut asgs).or (env.scaleInTarget w.ticks asgs)), { w with ticks := ticks }) := by
  rw [getNextAsgAction]
  cases nextScaleOut asgs with
  | some action => exact ⟨w.ticks, rfl⟩
  | none => exact run_nextScaleIn w hd hsub

/-- The `try` block does what the plan says. -/
theorem run_tryScale (component : String) (output : Event) (fields : List (Dict Asl.Json)) :
    ∃ ticks, (tryScale component output fields).run env.answer {} =
      ((env.plan component).result env output fields, ⟨ticks, (env.plan component).policies⟩) := by
  rw [tryScale, Prog.run_bind, run_describeAsg, plan]
  cases env.listing component with
  | error e => exact ⟨0, rfl⟩
  | ok asgs =>
    simp only [Prog.run_bind]
    cases herr : env.activitiesError asgs with
    | some e =>
      obtain ⟨ticks, hrun⟩ := run_activityDetails_error {} [] herr
      rw [hrun]
      exact ⟨ticks, rfl⟩
    | none =>
      obtain ⟨d, hrun, hd⟩ := run_activityDetails_ok {} herr Details.nil
      rw [hrun]
      obtain ⟨ticks, hnext⟩ := run_getNextAsgAction { ticks := env.standIns asgs } hd
        fun asg hasg => List.mem_map_of_mem hasg
      rw [Nat.zero_add]
      simp only [hd.overallProgress, hd.overallStatuscode]
      split
      · exact ⟨_, rfl⟩
      · split
        · exact ⟨_, rfl⟩
        · rw [Prog.run_bind, hnext]
          cases (nextScaleOut asgs).or (env.scaleInTarget (env.standIns asgs) asgs) with
          | none => exact ⟨_, rfl⟩
          | some next =>
            refine ⟨ticks, ?_⟩
            simp only [executeScalingPolicy, Prog.run_bind, ask_bind, Prog.run_call, answer,
              run_raise, Plan.result, Plan.policies]
            cases env.policy next.asgName ("recycle-scale-" ++ next.action.text) <;> rfl

end Responses

end AutoRecycle.ScaleAsg
