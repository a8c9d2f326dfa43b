/-
  AutoRecycle.Standard.Activities

  What the check reads off the scaling activities.

  An activity belongs to an instance when the id of the instance occurs in its
  description.  EC2 has given ids of two lengths, so an id occurs in the
  descriptions of its own launch and of the launch of every instance whose id
  begins with it.  Where no id begins with another (`Ec2Id.Apart`), that is the
  launch of this very instance.
-/
import AutoRecycle.Effect.Runs
import AutoRecycle.Standard.Monitor
import Mathlib.Data.List.Forall2
import Mathlib.Data.List.Sort
import Mathlib.Data.Set.Basic

namespace AutoRecycle.Standard

open AutoRecycle.Effect
open AutoRecycle.Py (contains contains_iff contains_append_left)

-- ============================================================================
-- The check, read declaratively
-- ============================================================================

theorem pairwise_of_pairs {α : Type} {p : α × α → Bool} {xs : List α} :
    (pairs xs).all p = true ↔ xs.Pairwise fun a b => p (a, b) = true := by
  induction xs with
  | nil => simp [pairs]
  | cons x xs ih => simp [pairs, ih, List.pairwise_cons]

/-- The times are within `delta` minutes of each other. -/
def Together (delta : Int) (a b : Micros) : Prop := a - b ≤ minutes delta ∧ b - a ≤ minutes delta

theorem compareStartTimes_iff {times : List Micros} {delta : Int} :
    compareStartTimes times delta = true ↔ times.Pairwise (Together delta) := by
  rw [compareStartTimes, pairwise_of_pairs]
  have hpair : ∀ a b, (!(a - b > minutes delta || b - a > minutes delta)) = true ↔
      Together delta a b := by
    intro a b
    simp [Together]
  simp only [hpair]

theorem mem_of_lastInstanceActivityTime {activities : List Activity} {instanceId : String}
    {t : Micros} (h : lastInstanceActivityTime activities instanceId = some t) :
    ∃ a ∈ activities, contains a.description instanceId = true ∧ a.startTime = t := by
  have hmem := List.mem_of_getLast? h
  rw [List.mem_mergeSort, List.mem_map] at hmem
  obtain ⟨a, ha, rfl⟩ := hmem
  rw [List.mem_filter] at ha
  exact ⟨a, ha.1, ha.2, rfl⟩

/-- The last of the sorted times is the greatest one. -/
theorem lastInstanceActivityTime_le {activities : List Activity} {instanceId : String} {t : Micros}
    (h : lastInstanceActivityTime activities instanceId = some t) {a : Activity} (ha : a ∈ activities)
    (hcontains : contains a.description instanceId = true) : a.startTime ≤ t := by
  rw [lastInstanceActivityTime] at h
  have hmem : a.startTime ∈ ((activities.filter fun a => contains a.description instanceId).map
      (·.startTime)).mergeSort :=
    List.mem_mergeSort.mpr (List.mem_map_of_mem (List.mem_filter.mpr ⟨ha, hcontains⟩))
  have hsorted := List.pairwise_mergeSort' (· ≤ ·) ((activities.filter fun a =>
    contains a.description instanceId).map (·.startTime))
  obtain ⟨times, htimes⟩ := List.getLast?_eq_some_iff.mp h
  rw [htimes] at hmem hsorted
  obtain ⟨-, -, hlast⟩ := List.pairwise_append.mp hsorted
  rcases List.mem_append.mp hmem with hbefore | hsame
  · exact hlast _ hbefore t (List.mem_singleton_self t)
  · exact Int.le_of_eq (List.mem_singleton.mp hsame)

theorem lastInstanceActivityTime_eq_none {activities : List Activity} {instanceId : String} :
    lastInstanceActivityTime activities instanceId = none ↔
      ∀ a ∈ activities, contains a.description instanceId = false := by
  rw [lastInstanceActivityTime, List.getLast?_eq_none_iff, ← List.length_eq_zero_iff,
    List.length_mergeSort, List.length_map, List.length_eq_zero_iff, List.filter_eq_nil_iff]
  simp only [Bool.not_eq_true]

/-- An instance with one activity. -/
theorem lastInstanceActivityTime_of_filter {activities : List Activity} {instanceId : String}
    {a : Activity} (h : activities.filter (fun a => contains a.description instanceId) = [a]) :
    lastInstanceActivityTime activities instanceId = some a.startTime := by
  rw [lastInstanceActivityTime, h, List.map_singleton, List.mergeSort_singleton]
  rfl

/-- The instance is in order. -/
def AsgInstance.Fit (node : AsgInstance) : Prop :=
  node.healthStatus = "Healthy" ∧ node.lifecycleState = "InService"

theorem lastLaunchingActivityTimes_eq_some {activities : List Activity} {nodes : List AsgInstance}
    {times : List Micros} :
    lastLaunchingActivityTimes activities nodes = some times ↔ (∀ node ∈ nodes, node.Fit) ∧
      List.Forall₂ (fun node t => lastInstanceActivityTime activities node.instanceId = some t)
        nodes times := by
  induction nodes generalizing times with
  | nil =>
      rw [lastLaunchingActivityTimes, List.forall₂_nil_left_iff, Option.some.injEq]
      simp [eq_comm]
  | cons node nodes ih =>
      rw [lastLaunchingActivityTimes]
      split
      · rename_i hunfit
        refine iff_of_false nofun ?_
        rintro ⟨hfit, -⟩
        have hnode := hfit node List.mem_cons_self
        rcases hunfit with h | h
        · exact h hnode.1
        · exact h hnode.2
      · rename_i hfit
        rw [not_or, not_not, not_not] at hfit
        rw [List.forall_mem_cons, Option.bind_eq_bind, Option.bind_eq_some_iff]
        constructor
        · rintro ⟨t, ht, h⟩
          rw [Option.bind_eq_bind, Option.bind_eq_some_iff] at h
          obtain ⟨ts, hts, h⟩ := h
          cases h
          obtain ⟨hrest, hforall⟩ := ih.mp hts
          exact ⟨⟨hfit, hrest⟩, .cons ht hforall⟩
        · rintro ⟨⟨-, hrest⟩, hforall⟩
          cases hforall with
          | cons ht hforall =>
              refine ⟨_, ht, ?_⟩
              rw [Option.bind_eq_bind, Option.bind_eq_some_iff]
              exact ⟨_, ih.mpr ⟨hrest, hforall⟩, rfl⟩

/-- The instances are in order, and their launch times lie together. -/
theorem checkInstances_iff_times {asg : AutoScalingGroup} {activities : List Activity} :
    checkInstances asg activities = true ↔ (∀ node ∈ asg.instances, node.Fit) ∧
      ∃ times, times.Pairwise (Together 2) ∧
        List.Forall₂ (fun node t => lastInstanceActivityTime activities node.instanceId = some t)
          asg.instances times := by
  rw [checkInstances]
  constructor
  · intro h
    split at h
    · rename_i times htimes
      obtain ⟨hfit, hforall⟩ := lastLaunchingActivityTimes_eq_some.mp htimes
      exact ⟨hfit, times, compareStartTimes_iff.mp h, hforall⟩
    · cases h
  · rintro ⟨hfit, times, htogether, hforall⟩
    rw [lastLaunchingActivityTimes_eq_some.mpr ⟨hfit, hforall⟩]
    exact compareStartTimes_iff.mpr htogether

/-- What a true check says about its two replies. -/
theorem checkReplies_iff {asg : AutoScalingGroup} {activities : List Activity} :
    checkReplies asg activities = true ↔ getLaunchingActivities activities ≠ [] ∧
      (∀ node ∈ asg.instances, node.Fit) ∧
      ∃ times, times.Pairwise (Together 2) ∧
        List.Forall₂ (fun node t => lastInstanceActivityTime (getLaunchingActivities activities)
          node.instanceId = some t) asg.instances times := by
  rw [checkReplies, ← checkInstances_iff_times]
  cases hlaunching : getLaunchingActivities activities with
  | nil => simp
  | cons a as => simp

-- ============================================================================
-- Instance ids and the descriptions that name them
-- ============================================================================

/-- The id of an EC2 instance: "i-" and hexadecimal digits. -/
structure Ec2Id where
  digits : List Char
  nonempty : digits ≠ []
  hex : ∀ c ∈ digits, c.isDigit ∨ 'a' ≤ c ∧ c ≤ 'f' ∨ 'A' ≤ c ∧ c ≤ 'F'
  deriving DecidableEq

namespace Ec2Id

def text (id : Ec2Id) : String := "i-" ++ String.ofList id.digits

@[simp] theorem toList_text (id : Ec2Id) : id.text.toList = 'i' :: '-' :: id.digits := by
  simp [text]

theorem text_injective {id id' : Ec2Id} (h : id.text = id'.text) : id = id' := by
  have hlist := congrArg String.toList h
  rw [toList_text, toList_text] at hlist
  cases id
  cases id'
  simpa using hlist

theorem notMem_digits {id : Ec2Id} {c : Char}
    (h : ¬ (c.isDigit ∨ 'a' ≤ c ∧ c ≤ 'f' ∨ 'A' ≤ c ∧ c ≤ 'F')) : c ∉ id.digits :=
  fun hc => h (id.hex c hc)

/-- No id of these begins with another one of them.  Ids of one length are such. -/
def Apart (ids : Set Ec2Id) : Prop :=
  ∀ id ∈ ids, ∀ other ∈ ids, id.digits <+: other.digits → id = other

end Ec2Id

/-- After a text without a hyphen one "i-..." is found only where another begins. -/
theorem contains_append_dashed {pre id id' : String} {digits digits' : List Char}
    (hpre : '-' ∉ pre.toList) (hdigits' : '-' ∉ digits') (hid : id.toList = 'i' :: '-' :: digits)
    (hid' : id'.toList = 'i' :: '-' :: digits') :
    contains (pre ++ id') id = true ↔ digits <+: digits' := by
  rw [contains_iff, String.toList_append, hid, hid']
  constructor
  · rintro ⟨before, after, h⟩
    have hsplit : (pre.toList ++ ['i']) ++ '-' :: digits' =
        (before ++ ['i']) ++ '-' :: (digits ++ after) := by
      rw [List.append_assoc, List.append_assoc]
      rw [List.append_assoc] at h
      exact h.symm
    have hdash : '-' ∉ pre.toList ++ ['i'] := by
      rw [List.mem_append, not_or]
      exact ⟨hpre, by decide⟩
    rw [List.append_cons_inj_of_notMem hdash hdigits'] at hsplit
    exact ⟨after, hsplit.2.2.symm⟩
  · rintro ⟨after, rfl⟩
    exact ⟨pre.toList, after, by simp⟩

/-- The descriptions that Auto Scaling writes. -/
def launchingText (id : Ec2Id) : String := "Launching a new EC2 instance: " ++ id.text
def terminatingText (id : Ec2Id) : String := "Terminating EC2 instance: " ++ id.text

/-- The activity with which Auto Scaling records a launch. -/
def launchOf (id : Ec2Id) (startTime : Micros) : Activity where
  description := launchingText id
  startTime := startTime

/-- The activity with which it records a termination. -/
def terminationOf (id : Ec2Id) (startTime : Micros) : Activity where
  description := terminatingText id
  startTime := startTime

/-- An id occurs in the description of a launch if the id of the instance that was
    launched begins with it. -/
theorem contains_launchOf {id id' : Ec2Id} {startTime : Micros} :
    contains (launchOf id' startTime).description id.text = true ↔ id.digits <+: id'.digits :=
  contains_append_dashed (by decide +kernel) (Ec2Id.notMem_digits (by decide)) id.toList_text
    id'.toList_text

/-- Where no id begins with another, only its own launch counts for an instance. -/
theorem Ec2Id.Apart.contains_launchOf {ids : Set Ec2Id} (hids : Apart ids) {id id' : Ec2Id}
    (hid : id ∈ ids) (hid' : id' ∈ ids) {startTime : Micros} :
    contains (launchOf id' startTime).description id.text = true ↔ id = id' := by
  rw [AutoRecycle.Standard.contains_launchOf]
  constructor
  · exact hids id hid id' hid'
  · rintro rfl
    exact List.prefix_rfl

/-- Whatever is launched, its description says so. -/
theorem contains_launching_append (s : String) :
    contains ("Launching a new EC2 instance: " ++ s) "Launching" = true := by
  have hcut : "Launching a new EC2 instance: " = "Launching" ++ " a new EC2 instance: " := by
    decide +kernel
  rw [hcut, String.append_assoc]
  exact contains_append_left _ _

theorem launching_launchOf (id : Ec2Id) (startTime : Micros) :
    contains (launchOf id startTime).description "Launching" = true :=
  contains_launching_append id.text

/-- No termination is a launch: its description has no capital L. -/
theorem not_contains_terminating (id : Ec2Id) :
    contains (terminatingText id) "Launching" = false := by
  rw [Bool.eq_false_iff, Ne, contains_iff]
  intro h
  have hL : 'L' ∈ "Launching".toList := by decide +kernel
  have hmem := h.subset hL
  unfold terminatingText at hmem
  rw [String.toList_append, Ec2Id.toList_text, List.mem_append] at hmem
  rcases hmem with hmem | hmem
  · have hnone : 'L' ∉ "Terminating EC2 instance: ".toList := by decide +kernel
    exact hnone hmem
  · rw [List.mem_cons, List.mem_cons] at hmem
    rcases hmem with hmem | hmem | hmem
    · exact absurd hmem (by decide)
    · exact absurd hmem (by decide)
    · exact Ec2Id.notMem_digits (by decide) hmem

theorem not_launching_terminationOf (id : Ec2Id) (startTime : Micros) :
    contains (terminationOf id startTime).description "Launching" = false :=
  not_contains_terminating id

end AutoRecycle.Standard
