/-
  AutoRecycle.Standard.Spread

  What `check_instances` decides, without its order.

  The code collects one time for each instance, in the order of the instances,
  and compares every pair of them in both directions.  Read declaratively it asks
  for the largest and the smallest of these times, which no order of instances or
  activities can change.
-/
import AutoRecycle.Standard.Activities
import Mathlib.Data.List.Pairwise
import Mathlib.Data.List.Sort
import Mathlib.Data.Set.Finite.Lemmas
import Mathlib.Order.Bounds.Basic

namespace AutoRecycle.Standard

open AutoRecycle.Py (contains)

-- ============================================================================
-- Finite sets of times
-- ============================================================================

/-- The last element of a sorted list is its greatest one. -/
theorem getLast?_mergeSort_iff {xs : List Micros} {t : Micros} :
    xs.mergeSort.getLast? = some t ↔ IsGreatest {x | x ∈ xs} t := by
  have hsorted : xs.mergeSort.Pairwise (· ≤ ·) := List.pairwise_mergeSort' (· ≤ ·) xs
  constructor
  · intro h
    obtain ⟨before, hcut⟩ := List.getLast?_eq_some_iff.mp h
    rw [hcut, List.pairwise_append] at hsorted
    refine ⟨List.mem_mergeSort.mp (List.mem_of_getLast? h), fun x hx => ?_⟩
    have hmem : x ∈ before ++ [t] := hcut ▸ List.mem_mergeSort.mpr hx
    rcases List.mem_append.mp hmem with hbefore | hlast
    · exact hsorted.2.2 x hbefore t (List.mem_singleton.mpr rfl)
    · exact le_of_eq (List.mem_singleton.mp hlast)
  · rintro ⟨hmem, hgreatest⟩
    have hmem' : t ∈ xs.mergeSort := List.mem_mergeSort.mpr hmem
    obtain ⟨before, last, hcut⟩ := (List.eq_nil_or_concat xs.mergeSort).resolve_left
      (List.ne_nil_of_mem hmem')
    rw [List.concat_eq_append] at hcut
    rw [hcut, List.getLast?_concat, Option.some.injEq]
    have hlast : last ∈ xs.mergeSort := by simp [hcut]
    rw [hcut, List.pairwise_append] at hsorted
    apply le_antisymm (hgreatest (List.mem_mergeSort.mp hlast))
    rw [hcut] at hmem'
    rcases List.mem_append.mp hmem' with hbefore | hlast'
    · exact hsorted.2.2 t hbefore last (List.mem_singleton.mpr rfl)
    · exact le_of_eq (List.mem_singleton.mp hlast')

instance (delta : Int) : Std.Symm (Together delta) where
  symm _ _ h := h.symm

/-- Times that are pairwise within `delta` minutes of each other: the largest is
    at most `delta` minutes after the smallest. -/
theorem pairwise_together_iff {times : List Micros} {delta : Int} (hdelta : 0 ≤ minutes delta) :
    times.Pairwise (Together delta) ↔ ∀ largest smallest, IsGreatest {t | t ∈ times} largest →
      IsLeast {t | t ∈ times} smallest → largest - smallest ≤ minutes delta := by
  constructor
  · intro h largest smallest hlargest hsmallest
    have hself : ∀ t ∈ times, Together delta t t := by
      intro t _
      have hzero : t - t ≤ minutes delta := by rw [sub_self]; exact hdelta
      exact ⟨hzero, hzero⟩
    exact (h.forall_of_forall hself hlargest.1 hsmallest.1).1
  · intro h
    apply List.pairwise_of_forall_mem_list
    intro a ha b hb
    have hfinite : {t | t ∈ times}.Finite := List.finite_toSet times
    obtain ⟨largest, hlargest, hmax⟩ := Set.exists_max_image _ id hfinite ⟨a, ha⟩
    obtain ⟨smallest, hsmallest, hmin⟩ := Set.exists_min_image _ id hfinite ⟨a, ha⟩
    have hspread := h largest smallest ⟨hlargest, hmax⟩ ⟨hsmallest, hmin⟩
    constructor
    · exact (Int.sub_le_sub (hmax a ha) (hmin b hb)).trans hspread
    · exact (Int.sub_le_sub (hmax b hb) (hmin a ha)).trans hspread

-- ============================================================================
-- The check
-- ============================================================================

/-- The start times of the activities that name an instance. -/
def startTimes (activities : List Activity) (instanceId : String) : Set Micros :=
  {t | ∃ a ∈ activities, contains a.description instanceId = true ∧ a.startTime = t}

/-- The latest start times of the instances. -/
def latestStartTimes (activities : List Activity) (nodes : List AsgInstance) : Set Micros :=
  {t | ∃ node ∈ nodes, IsGreatest (startTimes activities node.instanceId) t}

theorem lastInstanceActivityTime_eq_some_iff {activities : List Activity} {instanceId : String}
    {t : Micros} :
    lastInstanceActivityTime activities instanceId = some t ↔
      IsGreatest (startTimes activities instanceId) t := by
  rw [lastInstanceActivityTime, getLast?_mergeSort_iff]
  have hset : {x | x ∈ (activities.filter fun a => contains a.description instanceId).map (·.startTime)} =
      startTimes activities instanceId := by
    ext x
    simp [startTimes, List.mem_map, List.mem_filter, and_assoc]
  rw [hset]

/-- An instance has a time when some activity names it. -/
theorem exists_lastInstanceActivityTime_iff {activities : List Activity} {instanceId : String} :
    (∃ t, lastInstanceActivityTime activities instanceId = some t) ↔
      ∃ a ∈ activities, contains a.description instanceId = true := by
  constructor
  · rintro ⟨t, h⟩
    obtain ⟨a, ha, hnamed, -⟩ := mem_of_lastInstanceActivityTime h
    exact ⟨a, ha, hnamed⟩
  · rintro ⟨a, ha, hnamed⟩
    cases h : lastInstanceActivityTime activities instanceId with
    | some t => exact ⟨t, rfl⟩
    | none =>
        rw [lastInstanceActivityTime, List.getLast?_eq_none_iff] at h
        have hmem : a.startTime ∈ ((activities.filter fun a => contains a.description instanceId).map
            (·.startTime)).mergeSort := by
          rw [List.mem_mergeSort]
          exact List.mem_map_of_mem (List.mem_filter.mpr ⟨ha, hnamed⟩)
        rw [h] at hmem
        cases hmem

/-- The times that the loop collects are the latest start times. -/
theorem mem_times_iff {activities : List Activity} {nodes : List AsgInstance} {times : List Micros}
    (h : List.Forall₂ (fun node t => lastInstanceActivityTime activities node.instanceId = some t)
      nodes times) :
    {t | t ∈ times} = latestStartTimes activities nodes := by
  ext t
  induction h with
  | nil => simp [latestStartTimes]
  | @cons node t' nodes times ht _ ih =>
      have hhead : IsGreatest (startTimes activities node.instanceId) t ↔ t = t' := by
        rw [← lastInstanceActivityTime_eq_some_iff, ht, Option.some.injEq, eq_comm]
      simp only [latestStartTimes, Set.mem_ofPred_eq] at ih
      simp only [latestStartTimes, Set.mem_ofPred_eq, List.mem_cons, exists_eq_or_imp, hhead, ih]

/-- The times can be collected when every instance is named. -/
theorem exists_times_iff {activities : List Activity} {nodes : List AsgInstance} :
    (∃ times, List.Forall₂ (fun node t => lastInstanceActivityTime activities node.instanceId = some t)
      nodes times) ↔ ∀ node ∈ nodes, ∃ a ∈ activities, contains a.description node.instanceId = true := by
  induction nodes with
  | nil => exact iff_of_true ⟨[], .nil⟩ nofun
  | cons node nodes ih =>
      rw [List.forall_mem_cons, ← ih, ← exists_lastInstanceActivityTime_iff]
      constructor
      · rintro ⟨times, h⟩
        cases h with
        | cons ht htimes => exact ⟨⟨_, ht⟩, _, htimes⟩
      · rintro ⟨⟨t, ht⟩, times, htimes⟩
        exact ⟨t :: times, .cons ht htimes⟩

/-- What `check_instances` asks for. -/
structure Complete (nodes : List AsgInstance) (activities : List Activity) : Prop where
  fit : ∀ node ∈ nodes, node.Fit
  named : ∀ node ∈ nodes, ∃ a ∈ activities, contains a.description node.instanceId = true
  spread : ∀ largest smallest, IsGreatest (latestStartTimes activities nodes) largest →
    IsLeast (latestStartTimes activities nodes) smallest → largest - smallest ≤ minutes 2

theorem checkInstances_eq_true_iff {asg : AutoScalingGroup} {activities : List Activity} :
    checkInstances asg activities = true ↔ Complete asg.instances activities := by
  have htwo : 0 ≤ minutes 2 := by decide
  rw [checkInstances_iff_times]
  constructor
  · rintro ⟨hfit, times, htogether, hforall⟩
    refine ⟨hfit, exists_times_iff.mp ⟨times, hforall⟩, ?_⟩
    rw [← mem_times_iff hforall]
    exact (pairwise_together_iff htwo).mp htogether
  · intro h
    obtain ⟨times, hforall⟩ := exists_times_iff.mpr h.named
    refine ⟨h.fit, times, (pairwise_together_iff htwo).mpr ?_, hforall⟩
    rw [mem_times_iff hforall]
    exact h.spread

/-- Only which instances and which activities there are matters. -/
theorem Complete.perm {nodes nodes' : List AsgInstance} {activities activities' : List Activity}
    (h : Complete nodes activities) (hnodes : nodes'.Perm nodes)
    (hactivities : activities'.Perm activities) : Complete nodes' activities' := by
  have htimes : latestStartTimes activities' nodes' = latestStartTimes activities nodes := by
    simp only [latestStartTimes, startTimes, hnodes.mem_iff, hactivities.mem_iff]
  refine ⟨fun node hnode => h.fit node (hnodes.mem_iff.mp hnode), fun node hnode => ?_, ?_⟩
  · obtain ⟨a, ha, hnamed⟩ := h.named node (hnodes.mem_iff.mp hnode)
    exact ⟨a, hactivities.mem_iff.mpr ha, hnamed⟩
  · rw [htimes]
    exact h.spread

/-- `check_instances`: every instance is in order and named by some activity,
    and the latest start times are at most two minutes apart; the order of the
    instances and of the activities does not matter. -/
theorem checkInstances_iff (asg : AutoScalingGroup) (activities : List Activity) :
    (checkInstances asg activities = true ↔
      (∀ node ∈ asg.instances, node.healthStatus = "Healthy" ∧ node.lifecycleState = "InService") ∧
      (∀ node ∈ asg.instances, ∃ a ∈ activities, contains a.description node.instanceId = true) ∧
      ∀ largest smallest, IsGreatest (latestStartTimes activities asg.instances) largest →
        IsLeast (latestStartTimes activities asg.instances) smallest →
          largest - smallest ≤ minutes 2) ∧
    ∀ (asg' : AutoScalingGroup) (activities' : List Activity), asg'.instances.Perm asg.instances →
      activities'.Perm activities → checkInstances asg' activities' = checkInstances asg activities := by
  constructor
  · rw [checkInstances_eq_true_iff]
    exact ⟨fun h => ⟨h.fit, h.named, h.spread⟩, fun h => ⟨h.1, h.2.1, h.2.2⟩⟩
  · intro asg' activities' hnodes hactivities
    rw [Bool.eq_iff_iff, checkInstances_eq_true_iff, checkInstances_eq_true_iff]
    exact ⟨fun h => h.perm hnodes.symm hactivities.symm, fun h => h.perm hnodes hactivities⟩

/-- Two instances of one launch, listed either way. -/
theorem checkInstances_iff_swapped :
    checkInstances ⟨"web-asg-1", 2, [⟨"i-2", "Healthy", "InService"⟩, ⟨"i-1", "Healthy", "InService"⟩]⟩
        [⟨"Launching i-1", 0⟩, ⟨"Launching i-2", 0⟩] =
      checkInstances ⟨"web-asg-1", 2, [⟨"i-1", "Healthy", "InService"⟩, ⟨"i-2", "Healthy", "InService"⟩]⟩
        [⟨"Launching i-2", 0⟩, ⟨"Launching i-1", 0⟩] :=
  (checkInstances_iff _ _).2 _ _ (.swap _ _ []) (.swap _ _ [])

end AutoRecycle.Standard
