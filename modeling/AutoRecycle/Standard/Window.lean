/-
  AutoRecycle.Standard.Window

  How large an ASG may be for its recycle to be recognised.

  The check reads the 20 newest scaling activities.  After an out-in recycle of
  `n` instances the newest `n` of them are the terminations of the old
  instances, so the launches that the check looks for are all among the 20
  exactly as long as `2 * n` is at most 20.
-/
import AutoRecycle.Standard.Activities
import AutoRecycle.Standard.Loop
import Mathlib.Data.List.Nodup
import Mathlib.Data.List.Pairwise
import Mathlib.Data.List.Perm.Basic

namespace AutoRecycle.Standard

open AutoRecycle.Asl AutoRecycle.Effect
open AutoRecycle.Py (contains)

/-- A completed out-in recycle of `n` instances, in the scaling activities of its
    ASG.  All lists are newest first. -/
structure OutInRecycle (n : Nat) where
  terminations : List (Ec2Id × Micros)
  launches : List (Ec2Id × Micros)
  older : List Activity
  length_terminations : terminations.length = n
  length_launches : launches.length = n
  /-- The new instances have ids of which none begins with another. -/
  apart : (launches.map Prod.fst).Pairwise fun id other =>
    ¬ id.digits <+: other.digits ∧ ¬ other.digits <+: id.digits
  together : ∀ x ∈ launches, ∀ y ∈ launches, Together 2 x.2 y.2
  /-- What has happened before is about other instances. -/
  older_other : ∀ a ∈ older, ∀ x ∈ launches, contains a.description x.1.text = false

namespace OutInRecycle

def launch (x : Ec2Id × Micros) : Activity := launchOf x.1 x.2

def termination (x : Ec2Id × Micros) : Activity := terminationOf x.1 x.2

variable {n : Nat}

/-- The scaling activities of the ASG. -/
def history (R : OutInRecycle n) : List Activity :=
  R.terminations.map termination ++ R.launches.map launch ++ R.older

/-- The instances of the ASG, all in order. -/
def instances (R : OutInRecycle n) : List AsgInstance :=
  R.launches.map fun x =>
    { instanceId := x.1.text, healthStatus := "Healthy", lifecycleState := "InService" }

/-- Auto Scaling shows the group and its activities, cut to the number asked for. -/
structure ShownIn (R : OutInRecycle n) (env : Responses) (component : Json)
    (asg : AutoScalingGroup) : Prop where
  listed : env.asg component = .ok asg
  instances_perm : asg.instances.Perm R.instances
  activities : ∀ count, env.activities asg.autoScalingGroupName count = .ok (R.history.take count)

-- ============================================================================
-- The window
-- ============================================================================

theorem getLaunchingActivities_terminations (xs : List (Ec2Id × Micros)) :
    getLaunchingActivities (xs.map termination) = [] := by
  rw [getLaunchingActivities, List.filter_eq_nil_iff]
  intro a ha
  obtain ⟨x, -, rfl⟩ := List.mem_map.mp ha
  rw [termination, not_launching_terminationOf]
  exact Bool.false_ne_true

theorem getLaunchingActivities_launches (xs : List (Ec2Id × Micros)) :
    getLaunchingActivities (xs.map launch) = xs.map launch := by
  rw [getLaunchingActivities, List.filter_eq_self]
  intro a ha
  obtain ⟨x, -, rfl⟩ := List.mem_map.mp ha
  exact launching_launchOf x.1 x.2

/-- The launches that are among the newest `count` activities. -/
theorem getLaunchingActivities_history (R : OutInRecycle n) (count : Nat) :
    getLaunchingActivities (R.history.take count) =
      (R.launches.take (count - n)).map launch ++
        getLaunchingActivities (R.older.take (count - 2 * n)) := by
  have hlength : (R.terminations.map termination ++ R.launches.map launch).length = 2 * n := by
    rw [List.length_append, List.length_map, List.length_map, R.length_terminations,
      R.length_launches]
    omega
  rw [history, List.take_append, List.take_append, hlength, List.length_map, R.length_terminations,
    ← List.map_take, ← List.map_take]
  show List.filter _ (_ ++ _ ++ _) = _
  rw [List.filter_append, List.filter_append]
  show getLaunchingActivities _ ++ getLaunchingActivities _ ++ getLaunchingActivities _ = _
  rw [getLaunchingActivities_terminations, getLaunchingActivities_launches, List.nil_append]

theorem nodup_launches (R : OutInRecycle n) : R.launches.Nodup := by
  refine List.Nodup.of_map Prod.fst (R.apart.imp ?_)
  rintro id other ⟨hnot, -⟩ rfl
  exact hnot List.prefix_rfl

/-- The launch of a new instance counts for no other new instance. -/
theorem contains_launch (R : OutInRecycle n) {x y : Ec2Id × Micros} (hx : x ∈ R.launches)
    (hy : y ∈ R.launches) : contains (launch y).description x.1.text = true ↔ y = x := by
  rw [launch, contains_launchOf]
  constructor
  · intro hbegins
    by_contra hne
    have happart : R.launches.Pairwise fun x y => ¬ x.1.digits <+: y.1.digits ∧
        ¬ y.1.digits <+: x.1.digits := List.pairwise_map.mp R.apart
    have hsymm : Std.Symm fun x y : Ec2Id × Micros => ¬ x.1.digits <+: y.1.digits ∧
        ¬ y.1.digits <+: x.1.digits := ⟨fun _ _ h => ⟨h.2, h.1⟩⟩
    exact (happart.forall hy hx hne).2 hbegins
  · rintro rfl
    exact List.prefix_rfl

/-- The activities of a new instance are its launch, if that is in the window. -/
theorem filter_launches (R : OutInRecycle n) {x : Ec2Id × Micros} (hx : x ∈ R.launches) :
    (R.launches.map launch).filter (fun a => contains a.description x.1.text) = [launch x] := by
  have hsame : ∀ y ∈ R.launches, contains (launch y).description x.1.text = (y == x) := by
    intro y hy
    rw [Bool.eq_iff_iff, R.contains_launch hx hy, beq_iff_eq]
  rw [List.filter_map]
  show List.map launch (R.launches.filter fun y => contains (launch y).description x.1.text) = _
  rw [List.filter_congr hsame, List.filter_beq, List.count_eq_one_of_mem R.nodup_launches hx]
  rfl

/-- As long as the window holds all launches, each instance is found with its own. -/
theorem lastInstanceActivityTime_history (R : OutInRecycle n) {count : Nat} (hcount : 2 * n ≤ count)
    {x : Ec2Id × Micros} (hx : x ∈ R.launches) :
    lastInstanceActivityTime (getLaunchingActivities (R.history.take count)) x.1.text =
      some x.2 := by
  have hall : R.launches.take (count - n) = R.launches :=
    List.take_of_length_le (by rw [R.length_launches]; omega)
  have holder : (getLaunchingActivities (R.older.take (count - 2 * n))).filter
      (fun a => contains a.description x.1.text) = [] := by
    rw [List.filter_eq_nil_iff]
    intro a ha
    rw [R.older_other a (List.mem_of_mem_take (List.mem_of_mem_filter ha)) x hx]
    exact Bool.false_ne_true
  have hone : (getLaunchingActivities (R.history.take count)).filter
      (fun a => contains a.description x.1.text) = [launch x] := by
    rw [getLaunchingActivities_history, hall, List.filter_append, R.filter_launches hx, holder,
      List.append_nil]
  exact lastInstanceActivityTime_of_filter hone

/-- A launch that is not in the window is not found. -/
theorem lastInstanceActivityTime_outside (R : OutInRecycle n) {count : Nat} (hcount : count < 2 * n)
    {x : Ec2Id × Micros} (hx : x ∈ R.launches) (hout : x ∉ R.launches.take (count - n))
    {t : Micros} :
    lastInstanceActivityTime (getLaunchingActivities (R.history.take count)) x.1.text ≠ some t := by
  intro h
  obtain ⟨a, ha, hcontains, -⟩ := mem_of_lastInstanceActivityTime h
  have hzero : count - 2 * n = 0 := by omega
  rw [getLaunchingActivities_history, hzero, List.take_zero, List.mem_append] at ha
  rcases ha with ha | ha
  · obtain ⟨y, hy, rfl⟩ := List.mem_map.mp ha
    have hyx := (R.contains_launch hx (List.mem_of_mem_take hy)).mp hcontains
    exact hout (hyx ▸ hy)
  · cases ha

-- ============================================================================
-- The check
-- ============================================================================

theorem checkReplies_of_window (R : OutInRecycle n) (hn : 1 ≤ n) {asg : AutoScalingGroup}
    (hperm : asg.instances.Perm R.instances) {count : Nat} (hcount : 2 * n ≤ count) :
    checkReplies asg (R.history.take count) = true := by
  have hnode : ∀ node ∈ asg.instances, node.Fit ∧ ∃ x ∈ R.launches,
      lastInstanceActivityTime (getLaunchingActivities (R.history.take count)) node.instanceId =
        some x.2 := by
    intro node hnode
    obtain ⟨x, hx, rfl⟩ := List.mem_map.mp (hperm.mem_iff.mp hnode)
    exact ⟨⟨rfl, rfl⟩, x, hx, R.lastInstanceActivityTime_history hcount hx⟩
  have hsome : ∃ x, x ∈ R.launches :=
    List.exists_mem_of_length_pos (by rw [R.length_launches]; omega)
  obtain ⟨x, hx⟩ := hsome
  obtain ⟨a, ha, -⟩ :=
    mem_of_lastInstanceActivityTime (R.lastInstanceActivityTime_history hcount hx)
  rw [checkReplies_iff]
  refine ⟨List.ne_nil_of_mem ha, fun node hmem => (hnode node hmem).1,
    asg.instances.map fun node => (lastInstanceActivityTime
      (getLaunchingActivities (R.history.take count)) node.instanceId).getD 0, ?_, ?_⟩
  · rw [List.pairwise_map]
    apply List.pairwise_of_forall_mem_list
    intro node hmem node' hmem'
    obtain ⟨-, y, hy, ht⟩ := hnode node hmem
    obtain ⟨-, z, hz, ht'⟩ := hnode node' hmem'
    rw [ht, ht', Option.getD_some, Option.getD_some]
    exact R.together y hy z hz
  · rw [List.forall₂_map_right_iff, List.forall₂_same]
    intro node hmem
    obtain ⟨-, y, -, ht⟩ := hnode node hmem
    rw [ht, Option.getD_some]

theorem not_checkReplies_of_window (R : OutInRecycle n) {asg : AutoScalingGroup}
    (hperm : asg.instances.Perm R.instances) {count : Nat} (hcount : count < 2 * n) :
    checkReplies asg (R.history.take count) = false := by
  rw [Bool.eq_false_iff, Ne, checkReplies_iff]
  rintro ⟨-, -, times, -, hforall⟩
  -- the launch just outside the window
  have hlt : count - n < R.launches.length := by
    rw [R.length_launches]
    omega
  have hx : R.launches[count - n] ∈ R.launches := List.getElem_mem hlt
  have hout : R.launches[count - n] ∉ R.launches.take (count - n) := by
    have hsplit : (R.launches.take (count - n) ++ R.launches.drop (count - n)).Nodup := by
      rw [List.take_append_drop]
      exact R.nodup_launches
    intro hmem
    refine (List.disjoint_of_nodup_append hsplit) hmem ?_
    rw [List.drop_eq_getElem_cons hlt]
    exact List.mem_cons_self
  have hnode := hperm.mem_iff.mpr (List.mem_map.mpr ⟨_, hx, rfl⟩)
  obtain ⟨t, -, ht⟩ := exists_of_forall₂ hforall hnode
  exact R.lastInstanceActivityTime_outside hcount hx hout ht

/-- What the check comes to once the recycle is complete. -/
theorem ShownIn.run_check {R : OutInRecycle n} {env : Responses} {component : Json}
    {asg : AutoScalingGroup} (h : R.ShownIn env component asg) (k : Nat) :
    ((check component).run env.answer k).1 =
      .ok (checkReplies asg (R.history.take maxRecords)) := by
  rw [Responses.run_check, Responses.outcome, h.listed, ok_bind, h.activities]
  rfl

end OutInRecycle

/-- The check recognises a completed out-in recycle of `n` instances if and only
    if `n` is at most ten. -/
theorem check_recognises_iff (n : Nat) (hn : 1 ≤ n) (R : OutInRecycle n) (env : Responses)
    (component : Json) (asg : AutoScalingGroup) (h : R.ShownIn env component asg) (k : Nat) :
    ((check component).run env.answer k).1 = .ok true ↔ n ≤ 10 := by
  rw [h.run_check, Except.ok.injEq, maxRecords]
  by_cases hsmall : n ≤ 10
  · exact iff_of_true (R.checkReplies_of_window hn h.instances_perm (by omega)) hsmall
  · refine iff_of_false ?_ hsmall
    rw [R.not_checkReplies_of_window h.instances_perm (by omega)]
    exact Bool.false_ne_true

-- ============================================================================
-- Two recycles
-- ============================================================================

def hexDigit (i : Fin 16) : Char := if i < 10 then Char.ofNat (48 + i) else Char.ofNat (87 + i)

/-- The id "i-cccccccccccccccci", for a hexadecimal digit `i`. -/
def sampleId (c i : Fin 16) : Ec2Id where
  digits := List.replicate 16 (hexDigit c) ++ [hexDigit i]
  nonempty := by simp
  hex d hd := by
    have hhex : ∀ i : Fin 16, (hexDigit i).isDigit ∨ 'a' ≤ hexDigit i ∧ hexDigit i ≤ 'f' ∨
        'A' ≤ hexDigit i ∧ hexDigit i ≤ 'F' := by
      decide
    rw [List.mem_append, List.mem_replicate, List.mem_singleton] at hd
    rcases hd with ⟨-, rfl⟩ | rfl
    · exact hhex c
    · exact hhex i

theorem sampleId_apart {c i j : Fin 16} (h : (sampleId c i).digits <+: (sampleId c j).digits) :
    i = j := by
  have hdigits : (sampleId c i).digits = (sampleId c j).digits := h.eq_of_length (by simp [sampleId])
  rw [sampleId, sampleId, List.append_cancel_left_eq, List.cons.injEq] at hdigits
  have hinj : ∀ i j : Fin 16, hexDigit i = hexDigit j → i = j := by decide
  exact hinj i j hdigits.1

/-- A recycle in which all instances are launched at one moment. -/
def sampleRecycle (n : Nat) (hn : n ≤ 16) : OutInRecycle n where
  terminations := ((List.finRange 16).take n).map fun i => (sampleId 0 i, minutes 5)
  launches := ((List.finRange 16).take n).map fun i => (sampleId 1 i, 0)
  older := []
  length_terminations := by simp [Nat.min_eq_left hn]
  length_launches := by simp [Nat.min_eq_left hn]
  apart := by
    rw [List.map_map, List.pairwise_map]
    refine ((List.nodup_finRange 16).sublist (List.take_sublist n _)).imp fun {i j} hne => ?_
    exact ⟨fun h => hne (sampleId_apart h), fun h => hne (sampleId_apart h).symm⟩
  together x hx y hy := by
    obtain ⟨i, -, rfl⟩ := List.mem_map.mp hx
    obtain ⟨j, -, rfl⟩ := List.mem_map.mp hy
    have hzero : (0 : Micros) - 0 ≤ minutes 2 := by decide
    exact ⟨hzero, hzero⟩
  older_other _ h := nomatch h

def sampleAsg (n : Nat) (hn : n ≤ 16) : AutoScalingGroup :=
  { autoScalingGroupName := "web-asg-1", maxSize := 2 * n, instances := (sampleRecycle n hn).instances }

/-- Auto Scaling after the recycle. -/
def sampleReplies (n : Nat) (hn : n ≤ 16) : Responses where
  environment _ := none
  sent := .ok { messageId := some "1" }
  pages := .ok [[sampleAsg n hn]]
  activities _ count := .ok ((sampleRecycle n hn).history.take count)

theorem findAsg_sampleAsg {n : Nat} (hpos : 1 ≤ n) (hn : n ≤ 16) :
    findAsg (.str "web") [sampleAsg n hn] = .ok (sampleAsg n hn) := by
  have hname : Py.startsWith "web-asg-1" (Py.str (.str "web") ++ "-asg") = true := by
    decide +kernel
  have hsize : (sampleAsg n hn).maxSize ≠ 0 := by
    show 2 * n ≠ 0
    omega
  have hlength : (sampleAsg n hn).instances.length = n := by
    show ((sampleRecycle n hn).launches.map _).length = n
    rw [List.length_map, (sampleRecycle n hn).length_launches]
  have hnonempty : (sampleAsg n hn).instances.isEmpty = false := by
    rw [List.isEmpty_eq_false_iff_exists_mem]
    exact List.exists_mem_of_length_pos (by omega)
  have hfilter : [sampleAsg n hn].filter (fun asg => Py.startsWith asg.autoScalingGroupName
      (Py.str (.str "web") ++ "-asg")) = [sampleAsg n hn] := by
    rw [List.filter_eq_self]
    intro asg hasg
    rw [List.mem_singleton.mp hasg]
    exact hname
  rw [findAsg, hfilter]
  simp only [hsize, hnonempty, if_false, Bool.false_eq_true]

theorem shownIn_sampleReplies {n : Nat} (hpos : 1 ≤ n) (hn : n ≤ 16) :
    (sampleRecycle n hn).ShownIn (sampleReplies n hn) (.str "web") (sampleAsg n hn) where
  listed := findAsg_sampleAsg hpos hn
  instances_perm := .refl _
  activities _ := rfl

theorem check_recognises_iff_three :
    ((check (.str "web")).run (sampleReplies 3 (by decide)).answer 0).1 = .ok true ↔ 3 ≤ 10 :=
  check_recognises_iff 3 (by decide) (sampleRecycle 3 (by decide)) (sampleReplies 3 (by decide))
    (.str "web") (sampleAsg 3 (by decide)) (shownIn_sampleReplies (by decide) (by decide)) 0

/-- The recycle of eleven instances is never recognised: the window holds nine of
    their launches. -/
theorem check_misses_eleven :
    ∃ R : OutInRecycle 11, ∃ env asg, R.ShownIn env (.str "web") asg ∧
      ∀ k, ((check (.str "web")).run env.answer k).1 = .ok false := by
  have hshown := @shownIn_sampleReplies 11 (by decide) (by decide)
  refine ⟨sampleRecycle 11 (by decide), sampleReplies 11 (by decide), sampleAsg 11 (by decide),
    hshown, fun k => ?_⟩
  rw [hshown.run_check]
  exact congrArg Except.ok (OutInRecycle.not_checkReplies_of_window _ hshown.instances_perm
    (by decide))

end AutoRecycle.Standard
