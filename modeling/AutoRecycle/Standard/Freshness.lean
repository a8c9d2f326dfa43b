/-
  AutoRecycle.Standard.Freshness

  What a reported success says about the age of the instances.

  The monitor does not know when the recycle was asked for: `check` compares the
  launches of the listed instances with each other only.  A success therefore
  says that they were launched within two minutes of each other, and bounds
  their age by the youngest of them.  That holds as long as no instance id begins
  with another one; the check looks for an id anywhere in a description.
-/
import AutoRecycle.Standard.Run
import AutoRecycle.Standard.Window
import Mathlib.Data.List.Pairwise

namespace AutoRecycle.Standard

open AutoRecycle.Asl AutoRecycle.Data AutoRecycle.Effect AutoRecycle.StateMachine
open AutoRecycle.Py (contains startsWith str)

-- ============================================================================
-- The lambdas and the account they run in
-- ============================================================================

def invoke (function : String) (input : Json) : Py Json := do
  raise (← ask (.invoke function input))

/-- The instance has one of the ids. -/
def AsgInstance.KnownIn (ids : Set Ec2Id) (node : AsgInstance) : Prop :=
  ∃ id ∈ ids, node.instanceId = id.text

/-- An account: its clock, the time at which SQS took the message, its ASGs, and
    all their scaling activities, newest first.  `ids` are the ids of all instances
    that were ever, or will be, launched in it, and `launchedAt` says when. -/
structure Account (ids : Set Ec2Id) (launchedAt : Ec2Id → Micros) where
  clock : Micros
  sentAt : Option Micros
  groups : List AutoScalingGroup
  activities : String → List Activity
  /-- The listed instances have been launched. -/
  known : ∀ asg ∈ groups, ∀ node ∈ asg.instances, ∃ id ∈ ids,
    node.instanceId = id.text ∧ launchedAt id ≤ clock
  /-- The activity of a launch has started when its instance was launched.  A
      launch that has failed names no instance. -/
  truthful : ∀ asgName, ∀ a ∈ activities asgName, contains a.description "Launching" = true →
    (∃ id ∈ ids, a = launchOf id (launchedAt id)) ∨
      ∀ id : Ec2Id, contains a.description id.text = false

variable {ids : Set Ec2Id} {launchedAt : Ec2Id → Micros}

namespace Account

/-- The message is taken. -/
def send (w : Account ids launchedAt) : Account ids launchedAt := { w with sentAt := some w.clock }

/-- The replies: a listing is the truth, and no request fails with an exception
    that the monitor itself defines. -/
def answers (w : Account ids launchedAt) : (op : Op) → op.Reply → Account ids launchedAt → Prop
  | .getenv _, _, w' => w' = w
  | .sendMessage .., r, w' => w' = if sendSuccess r then w.send else w
  | .describeAutoScalingGroups, r, w' => w' = w ∧
      match r with
      | .ok pages => pages.flatten = w.groups
      | .error e => isScaledDown e = false
  | .describeScalingActivities asgName count, r, w' => w' = w ∧
      match r with
      | .ok activities => activities = (w.activities asgName).take count
      | .error e => isScaledDown e = false
  | .invoke .., _, w' => w' = w

/-- Time passes, and anything may be launched, terminated or found unhealthy. -/
def setting (ids : Set Ec2Id) (launchedAt : Ec2Id → Micros) : Setting Calls (Account ids launchedAt) where
  answers := answers
  rely w w' := w.clock ≤ w'.clock ∧ w'.sentAt = w.sentAt
  rely_refl _ := ⟨Int.le_refl _, rfl⟩
  rely_trans h₁ h₂ := ⟨Int.le_trans h₁.1 h₂.1, h₂.2.trans h₁.2⟩

end Account

-- ============================================================================
-- An invocation that reports success
-- ============================================================================

section
variable {component : Json} {w w' : Account ids launchedAt} {calls : Trace Calls}

theorem findAsg_mem {groups : List AutoScalingGroup} {asg : AutoScalingGroup}
    (h : findAsg component groups = .ok asg) : asg ∈ groups := by
  rw [findAsg] at h
  split at h
  · next first rest hfilter =>
      have hfirst : first ∈ groups := by
        refine List.mem_of_mem_filter (p := fun asg =>
          startsWith asg.autoScalingGroupName (str component ++ "-asg")) ?_
        rw [hfilter]
        exact List.mem_cons_self
      split at h
      · cases h
      · split at h
        · cases h
        · cases h
          exact hfirst
  · cases h

/-- The group that a listing shows has instances of the account. -/
theorem describeAsg_ret_inv {asg : AutoScalingGroup}
    (h : Exec (Account.setting ids launchedAt) (describeAsg component) w calls (.ret asg) w') :
    ∃ pages, calls = [⟨.describeAutoScalingGroups, .ok pages⟩] ∧
      findAsg component (addPages pages) = .ok asg ∧ ∀ node ∈ asg.instances, node.KnownIn ids := by
  obtain ⟨r, calls', w₁, w₂, rfl, -, ha, h⟩ := Exec.call_ret_inv h
  obtain ⟨pages, rfl, h⟩ := Exec.ofExcept_bind_ret_inv h
  obtain ⟨rfl, hfind⟩ := Exec.ofExcept_ret_inv h
  refine ⟨pages, rfl, hfind, fun node hnode => ?_⟩
  have hlisted : pages.flatten = w₁.groups := ha.2
  have hmem := findAsg_mem hfind
  rw [addPages_eq, hlisted] at hmem
  obtain ⟨id, hid, htext, -⟩ := w₁.known asg hmem node hnode
  exact ⟨id, hid, htext⟩

theorem describeScalingActivities_ret_inv {asgName : String} {activities : List Activity}
    (h : Exec (Account.setting ids launchedAt) (describeScalingActivities asgName) w calls
      (.ret activities) w') :
    calls = [⟨.describeScalingActivities asgName maxRecords, .ok activities⟩] ∧
      ∃ w₁ : Account ids launchedAt, activities = (w₁.activities asgName).take maxRecords := by
  obtain ⟨r, calls', w₁, w₂, rfl, -, ha, h⟩ := Exec.call_ret_inv h
  obtain ⟨rfl, rfl⟩ := Exec.ofExcept_ret_inv h
  exact ⟨rfl, w₁, ha.2⟩

end

-- ============================================================================
-- The age of the instances
-- ============================================================================

/-- The instance is listed in the ASG. -/
def AutoScalingGroup.Has (asg : AutoScalingGroup) (id : Ec2Id) : Prop :=
  ∃ node ∈ asg.instances, node.instanceId = id.text

instance : Std.Symm (Together 2) := ⟨fun _ _ h => ⟨h.2, h.1⟩⟩

theorem Together.refl (t : Micros) : Together 2 t t := by
  have hzero : t - t ≤ minutes 2 := by
    rw [Int.sub_self]
    decide
  exact ⟨hzero, hzero⟩

/-- A listed instance has an id of the account. -/
theorem AutoScalingGroup.Has.mem {asg : AutoScalingGroup} {id : Ec2Id} (h : asg.Has id)
    (hknown : ∀ node ∈ asg.instances, node.KnownIn ids) : id ∈ ids := by
  obtain ⟨node, hnode, hid⟩ := h
  obtain ⟨other, hother, htext⟩ := hknown node hnode
  obtain rfl := Ec2Id.text_injective (hid.symm.trans htext)
  exact hother

section
variable {component : Json} {w : Account ids launchedAt}

end

/-- The ids of seventeen digits. -/
def longIds : Set Ec2Id := {id | id.digits.length = 17}

theorem sampleId_mem (c i : Fin 16) : sampleId c i ∈ longIds := by
  show (List.replicate 16 (hexDigit c) ++ [hexDigit i]).length = 17
  simp

theorem truthful_history (a : Activity) (ha : a ∈ (sampleRecycle 3 (by decide)).history)
    (hlaunching : contains a.description "Launching" = true) :
    (∃ id ∈ longIds, a = launchOf id 0) ∨ ∀ id : Ec2Id, contains a.description id.text = false := by
  rcases List.mem_append.mp ha with ha | ha
  · rcases List.mem_append.mp ha with ha | ha
    · obtain ⟨x, -, rfl⟩ := List.mem_map.mp ha
      rw [OutInRecycle.termination, not_launching_terminationOf] at hlaunching
      cases hlaunching
    · obtain ⟨x, hx, rfl⟩ := List.mem_map.mp ha
      obtain ⟨i, -, rfl⟩ := List.mem_map.mp hx
      exact .inl ⟨sampleId 1 i, sampleId_mem 1 i, rfl⟩
  · cases ha

theorem known_sampleAsg {clock : Micros} (hclock : 0 ≤ clock) :
    ∀ asg ∈ [sampleAsg 3 (by decide)], ∀ node ∈ asg.instances, ∃ id ∈ longIds,
      node.instanceId = id.text ∧ (0 : Micros) ≤ clock := by
  intro asg hasg node hnode
  rw [List.mem_singleton.mp hasg] at hnode
  obtain ⟨x, hx, rfl⟩ := List.mem_map.mp hnode
  obtain ⟨i, -, rfl⟩ := List.mem_map.mp hx
  exact ⟨sampleId 1 i, sampleId_mem 1 i, rfl, hclock⟩

/-- The account with the instances of the sample, which were launched at 0. -/
def recycled (clock : Micros) (hclock : 0 ≤ clock) (sentAt : Option Micros) :
    Account longIds fun _ => 0 where
  clock := clock
  sentAt := sentAt
  groups := [sampleAsg 3 (by decide)]
  activities _ := (sampleRecycle 3 (by decide)).history
  known := known_sampleAsg hclock
  truthful _ := truthful_history

/-- An account without ASGs. -/
def empty (clock : Micros) : Account longIds fun _ => 0 where
  clock := clock
  sentAt := none
  groups := []
  activities _ := []
  known _ h := nomatch h
  truthful _ _ h := nomatch h

end AutoRecycle.Standard
