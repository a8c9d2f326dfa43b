/-
  AutoRecycle.ScaleAsg.Specification

  What one invocation of `scale_asg` does, in terms of the responses it gets.

  The code looks for an ASG to scale out and then for one to scale in, in two
  loops with early returns; here the same targets are the first ASGs of the
  listing with a property (`nextScaleOut_eq`, `scaleInTarget_eq`).
-/
import AutoRecycle.ScaleAsg.Responses

namespace AutoRecycle.ScaleAsg

open AutoRecycle.Data AutoRecycle.Effect AutoRecycle.Py

namespace Responses

variable (env : Responses)

-- ============================================================================
-- The cases of the specification
-- ============================================================================

/-- The listing, or the read of some activity, raises. -/
def ReadsRaise (component : String) : Prop :=
  (∃ e, env.listing component = .error e) ∨
    ∃ asgs, env.listing component = .ok asgs ∧
      ∃ asg ∈ asgs, ∃ e, env.activities asg.autoScalingGroupName = .error e

/-- The listing succeeds with `asgs`, and so do the reads of their activities. -/
def Reads (component : String) (asgs : List AutoScalingGroup) : Prop :=
  env.listing component = .ok asgs ∧
    ∀ asg ∈ asgs, ∀ e, env.activities asg.autoScalingGroupName ≠ .error e

def AllDone (asgs : List AutoScalingGroup) : Prop :=
  ∀ asg ∈ asgs, env.progress asg.autoScalingGroupName = some 100

def AllSuccessful (asgs : List AutoScalingGroup) : Prop :=
  ∀ asg ∈ asgs, env.statusCode asg.autoScalingGroupName = some "Successful"

/-- The ASG, its recency being judged by the `tick`-th reading of the clock, was
    not recently scaled, or has an instance whose launch template version is
    missing or differs from the ASG's. -/
def needsRecycling (asg : AutoScalingGroup) (tick : Nat) : Bool :=
  !env.recentlyScaledAt tick asg.autoScalingGroupName || asg.instances.any fun inst =>
    getLaunchTemplateVersion inst.launchTemplate = none ||
      getLaunchTemplateVersion inst.launchTemplate ≠ getLaunchTemplateVersion asg.launchTemplate

/-- The first ASG of the listing without instances. -/
def firstEmpty (asgs : List AutoScalingGroup) : Option AutoScalingGroup :=
  asgs.find? fun asg => asg.instances.isEmpty

/-- The first ASG of the listing that needs recycling.  The clock is read once
    for each record that stands in, and then once for each ASG in turn. -/
def firstNeeding (asgs : List AutoScalingGroup) : Option (AutoScalingGroup × Nat) :=
  (asgs.zipIdx (env.standIns asgs)).find? fun x => env.needsRecycling x.1 x.2

end Responses

/-- The output reports a failure. -/
def Fails (output : Event) : Prop :=
  output.status = .set (some (.text "fail")) ∧ output.recycleSuccess = .set (some false)

/-- The output reports that the recycling goes on. -/
def GoesOn (output : Event) : Prop :=
  output.status = .set (some (.flag true)) ∧ output.recycleSuccess = .set (some false)

/-- The output reports that the recycling is complete. -/
def Completes (output : Event) : Prop :=
  output.status = .set (some (.flag true)) ∧ output.recycleSuccess = .set (some true)

/-- Just the policy `policyName` is asked for, on the ASG called `asgName`. -/
def Executes (env : Responses) (output : Event) (policies : List (String × String))
    (asgName policyName : String) : Prop :=
  policies = [(asgName, policyName)] ∧
    match env.policy asgName policyName with
    | .ok () => GoesOn output
    | .error _ => Fails output

-- ============================================================================
-- The two loops of get_next_asg_action
-- ============================================================================

theorem nextScaleOut_eq (asgs : List AutoScalingGroup) :
    nextScaleOut asgs = (Responses.firstEmpty asgs).map fun asg =>
      { action := .scaleOut, asgName := asg.autoScalingGroupName } := by
  induction asgs with
  | nil => rfl
  | cons asg asgs ih =>
    rw [nextScaleOut, Responses.firstEmpty, List.find?_cons]
    cases hi : asg.instances with
    | nil => rfl
    | cons inst rest => exact ih

theorem upToDate_eq (asg : AutoScalingGroup) (recent : Bool) (inst : AsgInstance) :
    upToDate asg recent inst = !(!recent ||
      (getLaunchTemplateVersion inst.launchTemplate = none ||
        getLaunchTemplateVersion inst.launchTemplate ≠
          getLaunchTemplateVersion asg.launchTemplate)) := by
  rw [upToDate]
  cases getLaunchTemplateVersion inst.launchTemplate <;>
    cases getLaunchTemplateVersion asg.launchTemplate <;> simp [eq_comm, Bool.and_comm]

/-- With instances to look at, the inner loop is the specification's condition. -/
theorem all_upToDate (env : Responses) {asg : AutoScalingGroup} (h : asg.instances ≠ [])
    (tick : Nat) :
    asg.instances.all (upToDate asg (env.recentlyScaledAt tick asg.autoScalingGroupName)) =
      !env.needsRecycling asg tick := by
  rw [Responses.needsRecycling]
  cases env.recentlyScaledAt tick asg.autoScalingGroupName with
  | false =>
    obtain ⟨inst, rest, hi⟩ := List.exists_cons_of_ne_nil h
    simp [hi, upToDate_eq]
  | true =>
    rw [Bool.eq_iff_iff]
    simp [upToDate_eq]

theorem scaleInTarget_eq (env : Responses) {asgs : List AutoScalingGroup}
    (h : ∀ asg ∈ asgs, asg.instances ≠ []) (tick : Nat) :
    env.scaleInTarget tick asgs =
      ((asgs.zipIdx tick).find? fun x => env.needsRecycling x.1 x.2).map fun x =>
        { action := .scaleIn, asgName := x.1.autoScalingGroupName } := by
  induction asgs generalizing tick with
  | nil => rfl
  | cons asg asgs ih =>
    rw [Responses.scaleInTarget, all_upToDate env (h asg List.mem_cons_self), List.zipIdx_cons,
      List.find?_cons]
    cases env.needsRecycling asg tick with
    | true => rfl
    | false => exact ih (fun a ha => h a (List.mem_cons_of_mem _ ha)) (tick + 1)

theorem ne_nil_of_firstEmpty {asgs : List AutoScalingGroup} (h : Responses.firstEmpty asgs = none) :
    ∀ asg ∈ asgs, asg.instances ≠ [] := by
  intro asg hasg
  have hnot := List.find?_eq_none.mp h asg hasg
  simpa using hnot

-- ============================================================================
-- The plan, case by case
-- ============================================================================

namespace Responses

variable {env : Responses} {component : String} {asgs : List AutoScalingGroup}

theorem activitiesError_eq_none :
    env.activitiesError asgs = none ↔
      ∀ asg ∈ asgs, ∀ e, env.activities asg.autoScalingGroupName ≠ .error e := by
  induction asgs with
  | nil => simp [activitiesError]
  | cons asg asgs ih =>
    simp only [activitiesError, List.forall_mem_cons]
    cases env.activities asg.autoScalingGroupName with
    | error e => simp
    | ok activities => simp [ih]

/-- The reads all succeed, or some raises. -/
theorem not_readsRaise_iff : ¬ env.ReadsRaise component ↔ ∃ asgs, env.Reads component asgs := by
  cases hl : env.listing component with
  | error e => simp [ReadsRaise, Reads, hl]
  | ok asgs => simp [ReadsRaise, Reads, hl]

theorem Reads.eq {asgs' : List AutoScalingGroup} (h : env.Reads component asgs)
    (h' : env.Reads component asgs') : asgs' = asgs :=
  Except.ok.inj (h'.1.symm.trans h.1)

theorem plan_of_readsRaise (h : env.ReadsRaise component) :
    ∃ e, env.plan component = .raised e := by
  rw [plan]
  cases hl : env.listing component with
  | error e => exact ⟨e, rfl⟩
  | ok asgs =>
    cases he : env.activitiesError asgs with
    | some e => exact ⟨e, by simp only [he]⟩
    | none =>
      exact absurd h (not_readsRaise_iff.mpr ⟨asgs, hl, activitiesError_eq_none.mp he⟩)

variable (hr : env.Reads component asgs)

include hr

theorem plan_of_not_allDone (h : ¬ env.AllDone asgs) : env.plan component = .waiting := by
  simp only [plan, hr.1, activitiesError_eq_none.mpr hr.2]
  rw [if_pos]
  simpa [AllDone] using h

theorem plan_of_allDone (h : env.AllDone asgs) :
    env.plan component =
      if !asgs.all fun asg => env.statusCode asg.autoScalingGroupName = some "Successful"
      then .notSuccessful
      else match (nextScaleOut asgs).or (env.scaleInTarget (env.standIns asgs) asgs) with
        | some next => .act next
        | none => .finished := by
  have hall : (asgs.all fun asg => env.progress asg.autoScalingGroupName = some 100) = true := by
    simpa [AllDone] using h
  simp only [plan, hr.1, activitiesError_eq_none.mpr hr.2, hall]
  rfl

theorem plan_of_not_allSuccessful (hd : env.AllDone asgs) (h : ¬ env.AllSuccessful asgs) :
    env.plan component = .notSuccessful := by
  rw [plan_of_allDone hr hd, if_pos]
  simpa [AllSuccessful] using h

theorem plan_of_allSuccessful (hd : env.AllDone asgs) (h : env.AllSuccessful asgs) :
    env.plan component =
      match firstEmpty asgs with
      | some asg => .act { action := .scaleOut, asgName := asg.autoScalingGroupName }
      | none =>
          match env.firstNeeding asgs with
          | some x => .act { action := .scaleIn, asgName := x.1.autoScalingGroupName }
          | none => .finished := by
  rw [plan_of_allDone hr hd, if_neg (by simpa [AllSuccessful] using h), nextScaleOut_eq]
  cases hf : firstEmpty asgs with
  | some asg => rfl
  | none =>
    rw [Option.map_none, Option.none_or, scaleInTarget_eq env (ne_nil_of_firstEmpty hf), firstNeeding]
    cases List.find? _ (asgs.zipIdx (env.standIns asgs)) <;> rfl

end Responses

-- ============================================================================
-- The output
-- ============================================================================

namespace Responses

variable (env : Responses)

/-- The output of `scale_asg`. -/
def outcome (event : Event) : Event :=
  let output := createOutputParams event
  let fields := messageContentFields event.component env.environment
  match (env.plan event.component).result env output fields with
  | .ok result => result
  | .error err => caught output fields err

theorem run_scaleAsg (event : Event) :
    ∃ ticks, (scaleAsg event).run env.answer {} =
      (.ok (env.outcome event), ⟨ticks, (env.plan event.component).policies⟩) := by
  obtain ⟨ticks, hrun⟩ := @run_tryScale env event.component (createOutputParams event)
    (messageContentFields event.component env.environment)
  refine ⟨ticks, ?_⟩
  simp only [scaleAsg, ask_bind, Prog.run_call, answer, Prog.run_tryCatch, hrun, outcome]
  cases (env.plan event.component).result env _ _ <;> rfl

variable {env} {event : Event}

theorem counter_outcome (event : Event) :
    (env.outcome event).counter = .set (some (nextCounter event)) := by
  rw [outcome]
  cases env.plan event.component with
  | act next =>
    simp only [Plan.result]
    cases env.policy next.asgName ("recycle-scale-" ++ next.action.text) <;> rfl
  | _ => rfl

theorem fails_of_raised {e : PyExc} (h : env.plan event.component = .raised e) :
    Fails (env.outcome event) := by
  rw [outcome, h]
  exact ⟨rfl, rfl⟩

theorem fails_of_notSuccessful (h : env.plan event.component = .notSuccessful) :
    Fails (env.outcome event) := by
  rw [outcome, h]
  exact ⟨rfl, rfl⟩

theorem goesOn_of_waiting (h : env.plan event.component = .waiting) :
    GoesOn (env.outcome event) := by
  rw [outcome, h]
  exact ⟨rfl, rfl⟩

theorem completes_of_finished (h : env.plan event.component = .finished) :
    Completes (env.outcome event) := by
  rw [outcome, h]
  exact ⟨rfl, rfl⟩

theorem executes_of_act {next : NextAsgAction} (h : env.plan event.component = .act next) :
    Executes env (env.outcome event) (env.plan event.component).policies next.asgName
      ("recycle-scale-" ++ next.action.text) := by
  rw [outcome, h]
  refine ⟨rfl, ?_⟩
  simp only [Plan.result]
  cases env.policy next.asgName ("recycle-scale-" ++ next.action.text) <;> exact ⟨rfl, rfl⟩

theorem not_completes_of_act {next : NextAsgAction} (h : env.plan event.component = .act next) :
    (env.outcome event).recycleSuccess = .set (some false) := by
  obtain ⟨-, hout⟩ := executes_of_act h
  split at hout <;> exact hout.2

end Responses

theorem nextCounter_eq (event : Event) : nextCounter event = event.counter.get.getD 0 + 1 := by
  rw [nextCounter]
  cases event.counter.get with
  | none => rfl
  | some counter =>
    by_cases hc : counter = 0
    · simp [hc]
    · simp [hc]

-- ============================================================================
-- The specification
-- ============================================================================

/-- One invocation with the responses `env`, its output, and the policies it
    asked for. -/
structure InvocationSpec (env : Responses) (event output : Event)
    (policies : List (String × String)) : Prop where
  counter : output.counter = .set (some (event.counter.get.getD 0 + 1))
  atMostOne : policies.length ≤ 1
  raised : env.ReadsRaise event.component → Fails output ∧ policies = []
  inProgress : ∀ asgs, env.Reads event.component asgs → ¬ env.AllDone asgs →
    GoesOn output ∧ policies = []
  notSuccessful : ∀ asgs, env.Reads event.component asgs → env.AllDone asgs →
    ¬ env.AllSuccessful asgs → Fails output ∧ policies = []
  scaleOut : ∀ asgs, env.Reads event.component asgs → env.AllDone asgs → env.AllSuccessful asgs →
    ∀ asg, Responses.firstEmpty asgs = some asg →
      Executes env output policies asg.autoScalingGroupName "recycle-scale-out"
  scaleIn : ∀ asgs, env.Reads event.component asgs → env.AllDone asgs → env.AllSuccessful asgs →
    Responses.firstEmpty asgs = none → ∀ x, env.firstNeeding asgs = some x →
      Executes env output policies x.1.autoScalingGroupName "recycle-scale-in"
  success : output.recycleSuccess = .set (some true) ↔
    ∃ asgs, env.Reads event.component asgs ∧ env.AllDone asgs ∧ env.AllSuccessful asgs ∧
      Responses.firstEmpty asgs = none ∧ env.firstNeeding asgs = none

namespace Responses

variable {env : Responses} {event : Event}

/-- Nothing is left to do exactly when the plan is to finish. -/
theorem plan_eq_finished_iff {component : String} :
    env.plan component = .finished ↔
      ∃ asgs, env.Reads component asgs ∧ env.AllDone asgs ∧ env.AllSuccessful asgs ∧
        firstEmpty asgs = none ∧ env.firstNeeding asgs = none := by
  constructor
  · intro hp
    by_cases hraise : env.ReadsRaise component
    · obtain ⟨e, he⟩ := plan_of_readsRaise hraise
      rw [he] at hp
      cases hp
    obtain ⟨asgs, hr⟩ := not_readsRaise_iff.mp hraise
    by_cases hd : env.AllDone asgs
    · by_cases hs : env.AllSuccessful asgs
      · rw [plan_of_allSuccessful hr hd hs] at hp
        cases hf : firstEmpty asgs with
        | some asg =>
          rw [hf] at hp
          cases hp
        | none =>
          cases hn : env.firstNeeding asgs with
          | some x =>
            rw [hf, hn] at hp
            cases hp
          | none => exact ⟨asgs, hr, hd, hs, hf, hn⟩
      · rw [plan_of_not_allSuccessful hr hd hs] at hp
        cases hp
    · rw [plan_of_not_allDone hr hd] at hp
      cases hp
  · rintro ⟨asgs, hr, hd, hs, hf, hn⟩
    rw [plan_of_allSuccessful hr hd hs, hf, hn]

theorem recycleSuccess_iff :
    (env.outcome event).recycleSuccess = .set (some true) ↔ env.plan event.component = .finished := by
  constructor
  · intro h
    cases hp : env.plan event.component with
    | finished => rfl
    | raised e => rw [(fails_of_raised hp).2] at h; cases h
    | notSuccessful => rw [(fails_of_notSuccessful hp).2] at h; cases h
    | waiting => rw [(goesOn_of_waiting hp).2] at h; cases h
    | act next => rw [not_completes_of_act hp] at h; cases h
  · exact fun h => (completes_of_finished h).2

end Responses

/-- One invocation of `scale_asg` against any responses: it returns, and its
    output and the policies it asked for are those of the specification. -/
theorem scaleAsg_spec (env : Responses) (event : Event) :
    ∃ output ticks policies,
      (scaleAsg event).run env.answer {} = (.ok output, ⟨ticks, policies⟩) ∧
        InvocationSpec env event output policies := by
  obtain ⟨ticks, hrun⟩ := env.run_scaleAsg event
  refine ⟨env.outcome event, ticks, _, hrun, ?_⟩
  constructor
  case counter => rw [Responses.counter_outcome, nextCounter_eq]
  case atMostOne => cases env.plan event.component <;> simp [Responses.Plan.policies]
  case raised =>
    intro h
    obtain ⟨e, hp⟩ := Responses.plan_of_readsRaise h
    exact ⟨Responses.fails_of_raised hp, by rw [hp]; rfl⟩
  case inProgress =>
    intro asgs hr hd
    have hp := Responses.plan_of_not_allDone hr hd
    exact ⟨Responses.goesOn_of_waiting hp, by rw [hp]; rfl⟩
  case notSuccessful =>
    intro asgs hr hd hs
    have hp := Responses.plan_of_not_allSuccessful hr hd hs
    exact ⟨Responses.fails_of_notSuccessful hp, by rw [hp]; rfl⟩
  case scaleOut =>
    intro asgs hr hd hs asg hf
    have hp := Responses.plan_of_allSuccessful hr hd hs
    rw [hf] at hp
    exact Responses.executes_of_act hp
  case scaleIn =>
    intro asgs hr hd hs hf x hn
    have hp := Responses.plan_of_allSuccessful hr hd hs
    rw [hf, hn] at hp
    exact Responses.executes_of_act hp
  case success => rw [Responses.recycleSuccess_iff, Responses.plan_eq_finished_iff]

end AutoRecycle.ScaleAsg
