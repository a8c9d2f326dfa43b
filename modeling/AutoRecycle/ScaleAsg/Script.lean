/-
  AutoRecycle.ScaleAsg.Script

  Executions of the in-out branch whose course is given.

  The course says, for each call, how much time has passed since the call before
  and with which groups AWS has gone on meanwhile.
-/
import AutoRecycle.ScaleAsg.Sound

namespace AutoRecycle.ScaleAsg

open AutoRecycle.Asl AutoRecycle.Effect AutoRecycle.Py AutoRecycle.StateMachine

namespace Group

variable {edits : Prop} {t : Micros}

def started (t : Micros) (g : Group) : Activity where
  activityId := "activity"
  autoScalingGroupName := g.name
  cause := ""
  progress := some 50
  startTime := .aware t
  endTime := none
  statusCode := some "InProgress"

def finished (t : Micros) (g : Group) : Activity where
  activityId := "activity"
  autoScalingGroupName := g.name
  cause := ""
  progress := some 100
  startTime := .aware t
  endTime := some t
  statusCode := some "Successful"

/-- AWS takes the next step with the group, if there is one. -/
def goOn (t : Micros) (g : Group) : Group :=
  match g.phase, g.wanted, g.node with
  | .steady, false, some _ => { g with phase := .terminating, last := some (g.started t) }
  | .steady, true, none => { g with phase := .launching, last := some (g.started t) }
  | .terminating, _, _ => { g with phase := .steady, last := some (g.finished t), node := none }
  | .launching, _, none => { g with node := some { instanceId := "i-new", launchTemplate := g.launchTemplate } }
  | .launching, _, some _ =>
      { g with phase := .steady, last := some (g.finished t), renewed := true }
  | _, _, _ => g

theorem name_goOn (t : Micros) (g : Group) : (g.goOn t).name = g.name := by
  rw [goOn]
  split <;> rfl

theorem done_finished (t : Micros) (g : Group) : Activity.Done (g.finished t) t "Successful" :=
  ⟨rfl, rfl, rfl⟩

theorem evolves_goOn (t : Micros) (g : Group) : Evolves edits t t g (g.goOn t) := by
  have hone : ∀ {g'}, Progress edits t g g' → Evolves edits t t g g' :=
    fun hp => .step (Int.le_refl t) hp (.refl (Int.le_refl t))
  have hstarted : (g.started t).progress ≠ some 100 := by simp [started]
  rw [goOn]
  split
  · rename_i hphase hw hn
    exact hone (.startIn hphase hw (by rw [hn]; rfl) hstarted)
  · rename_i hphase hw hn
    exact hone (.startOut hphase hw hn hstarted)
  · rename_i hphase
    exact hone (.finishIn hphase (done_finished t g))
  · rename_i hphase hn
    exact hone (.appear hphase hn rfl)
  · rename_i hphase hn
    exact hone (.finishOut hphase (by rw [hn]; rfl) (done_finished t g))
  · exact .refl (Int.le_refl t)

end Group

namespace Cluster

/-- Some seconds pass, and AWS goes on with the groups `names`. -/
def pass (c : Cluster) (secs : Nat) (names : List String) : Cluster :=
  c.mapGroups (c.clock + seconds secs)
    (fun g => if g.name ∈ names then g.goOn (c.clock + seconds secs) else g)
    fun g => by
      split
      · exact Group.name_goOn _ g
      · rfl

theorem evolves_pass {edits : Prop} (c : Cluster) (secs : Nat) (names : List String) :
    Evolves edits c (c.pass secs names) := by
  have hclock : c.clock ≤ c.clock + seconds secs := by
    refine Int.le_add_of_nonneg_right (Int.mul_nonneg (Int.natCast_nonneg secs) ?_)
    decide
  refine evolves_mapGroups hclock fun g => ?_
  split
  · exact .of_le hclock (Group.evolves_goOn _ g)
  · exact .refl hclock

/-- The answer of AWS when nothing goes wrong. -/
def reply (c : Cluster) : (op : Op) → Option (op.Reply × Cluster)
  | .now => some (c.clock, c)
  | .getenv _ => some (none, c)
  | .describeAutoScalingGroups => some (.ok [c.groups.map Group.listed], c)
  | .describeScalingActivities name =>
      (c.groups.find? fun g => g.name = name).map fun g => (.ok g.last.toList, c)
  | .executePolicy name policyName =>
      if policyName = "recycle-scale-in" then some (.ok (), c.want name false)
      else if policyName = "recycle-scale-out" then some (.ok (), c.want name true)
      else none
  | .invoke _ input => some (.ok input, c)
  | _ => none

theorem answers_reply {c c' : Cluster} {op : Op} {r : op.Reply} (h : c.reply op = some (r, c')) :
    c.Answers op r c' := by
  cases op with
  | now =>
      cases h
      exact ⟨rfl, rfl⟩
  | getenv name =>
      cases h
      exact rfl
  | describeAutoScalingGroups =>
      cases h
      exact ⟨rfl, fun pages hpages => by cases hpages; exact List.append_nil _⟩
  | describeScalingActivities name =>
      obtain ⟨g, hfind, hpair⟩ := Option.map_eq_some_iff.mp h
      cases hpair
      refine ⟨rfl, fun activities hactivities => ⟨g, List.mem_of_find?_eq_some hfind, ?_, ?_⟩⟩
      · simpa using List.find?_some hfind
      · cases hactivities
        rfl
  | executePolicy name policyName =>
      rw [reply] at h
      split at h
      · rename_i hpolicy
        cases h
        exact .inl (.inl ⟨hpolicy, rfl⟩)
      · split at h
        · rename_i hpolicy
          cases h
          exact .inl (.inr ⟨hpolicy, rfl⟩)
        · cases h
  | invoke function input =>
      cases h
      exact ⟨rfl, fun out hout => by cases hout; rfl⟩
  | _ => cases h

end Cluster

section
variable {P : Watched → (op : Op) → op.Reply → Prop} [∀ x op r, Decidable (P x op r)]

/-- The answers along a course, as long as they satisfy `P`. -/
def script (P : Watched → (op : Op) → op.Reply → Prop) [∀ x op r, Decidable (P x op r)]
    (course : Trace Calls → Op → Option (Nat × List String)) (x : Watched) (op : Op) :
    Option (op.Reply × Watched) :=
  match course x.2 op with
  | none => none
  | some (secs, names) =>
      match (x.1.pass secs names).reply op with
      | none => none
      | some (r, c) =>
          if P (x.1.pass secs names, x.2) op r then some (r, (c, x.2 ++ [⟨op, r⟩])) else none

theorem answers_script {edits : Prop} {course : Trace Calls → Op → Option (Nat × List String)}
    {x y : Watched} {op : Op} {r : op.Reply} (h : script P course x op = some (r, y)) :
    ∃ w, (Setting.recording (aws edits)).rely x w ∧
      (Setting.recording (aws edits)).answers w op r y ∧ P w op r := by
  rw [script] at h
  split at h
  · cases h
  · rename_i secs names hcourse
    split at h
    · cases h
    · rename_i r' c hreply
      split at h
      · rename_i hP
        cases h
        exact ⟨(x.1.pass secs names, x.2), ⟨Cluster.evolves_pass x.1 secs names, rfl⟩,
          ⟨Cluster.answers_reply hreply, rfl⟩, hP⟩
      · cases h

end

-- ============================================================================
-- Two groups
-- ============================================================================

/-- An ASG with an instance in service that has the version of its ASG. -/
def inService (name : String) : Group where
  name := name
  launchTemplate := some ⟨"lt-1", "1"⟩
  wanted := true
  node := some { instanceId := "i-old", launchTemplate := some ⟨"lt-1", "1"⟩ }
  phase := .steady
  last := some
    { activityId := "activity"
      autoScalingGroupName := name
      cause := ""
      progress := some 100
      startTime := .aware 0
      endTime := some 0
      statusCode := some "Successful" }
  renewed := false

/-- Two ASGs, an hour after their last activities. -/
def twoGroups : Cluster where
  clock := minutes 60
  groups := [inService "web-asg-a", inService "web-asg-b"]
  nodup := by decide

/-- The run along these answers, up to the first call without one. -/
def twoGroupsRun (answer : Watched → (op : Op) → Option (op.Reply × Watched)) :
    Live Calls State Resource × Watched :=
  Live.drive (autoRecycle ⟨"", "", "", "", "", "", ""⟩) (lambdas fun _ => False) answer 200
    (.idle (.at startAt freshPayload 0), (twoGroups, []))

section
variable {P : Watched → (op : Op) → op.Reply → Prop} [∀ x op r, Decidable (P x op r)]

theorem reaches_restricted (course : Trace Calls → Op → Option (Nat × List String)) :
    Live.Reaches (autoRecycle ⟨"", "", "", "", "", "", ""⟩) (lambdas fun _ => False)
      ((Setting.recording (aws False)).restrict P)
      (.idle (.at startAt freshPayload 0), (twoGroups, [])) (twoGroupsRun (script P course)) := by
  refine Live.drive_reaches (fun h => ?_) _ _
  obtain ⟨w, hrely, hanswers, hP⟩ := answers_script h
  exact ⟨w, hrely, hanswers, hP⟩

theorem reaches_script (course : Trace Calls → Op → Option (Nat × List String)) :
    Live.Reaches (autoRecycle ⟨"", "", "", "", "", "", ""⟩) (lambdas fun _ => False)
      (Setting.recording (aws False))
      (.idle (.at startAt freshPayload 0), (twoGroups, [])) (twoGroupsRun (script P course)) := by
  refine Live.drive_reaches (fun h => ?_) _ _
  obtain ⟨w, hrely, hanswers, -⟩ := answers_script h
  exact ⟨w, hrely, hanswers⟩

end

end AutoRecycle.ScaleAsg
