/-
  AutoRecycle.ScaleAsg.TimeZones

  What the time zone of the host does to the decision of `get_next_asg_action`.

  `recently_scaled` takes the wall clock of the host for UTC.  East of
  Greenwich the clock is ahead, and an activity that has just ended looks older
  than ten minutes; west of it one of long ago looks recent.  Two offsets agree
  on a decision unless the walk over the ASGs comes to one whose activity ended
  between the two limits.
-/
import AutoRecycle.ScaleAsg.NothingToDo

namespace AutoRecycle.ScaleAsg

open AutoRecycle.Data AutoRecycle.Effect AutoRecycle.Py

-- ============================================================================
-- The clock of a host
-- ============================================================================

/-- A host whose local time is ahead of UTC by `offset`.  Its clock is read at the
    given instants. -/
def host (instants : Nat → Micros) (offset : Micros) : Responses where
  pages := .error Responses.notCalled
  activities _ := .error Responses.notCalled
  policy _ _ := .error Responses.notCalled
  clock n := instants n + offset
  environment := none

/-- What `get_next_asg_action` decides on the host. -/
def actionOn (instants : Nat → Micros) (offset : Micros) (asgs : List AutoScalingGroup)
    (lastActivities : Dict Activity) : Except PyExc (Option NextAsgAction) :=
  ((getNextAsgAction asgs lastActivities).run (host instants offset).answer {}).1

/-- The time that `recently_scaled` compares with, at the `n`-th reading. -/
def limit (instants : Nat → Micros) (offset : Micros) (n : Nat) : Micros :=
  lcAge (instants n + offset) 10

theorem limit_mono {instants : Nat → Micros} {lo hi : Micros} (h : lo ≤ hi) (n : Nat) :
    limit instants lo n ≤ limit instants hi n :=
  Int.sub_le_sub_right (Int.add_le_add_left h _) _

-- ============================================================================
-- The walk over the ASGs
-- ============================================================================

/-- All instances have the version of the ASG, whose last activity ended after `t`. -/
def PassedAt (lastActivities : Dict Activity) (t : Micros) (asg : AutoScalingGroup) : Prop :=
  (∀ inst ∈ asg.instances, SameVersion asg inst) ∧
    ∃ activity endTime, Dict.get? asg.autoScalingGroupName lastActivities = some activity ∧
      activity.endTime = some endTime ∧ t < endTime

/-- The ASGs are passed over, the first one at the `n`-th reading. -/
def AllPassed (lastActivities : Dict Activity) (t : Nat → Micros) : Nat → List AutoScalingGroup → Prop
  | _, [] => True
  | n, asg :: asgs => PassedAt lastActivities (t n) asg ∧ AllPassed lastActivities t (n + 1) asgs

/-- The first of the ASGs that is not passed over has the name `name`. -/
def StopsAt (lastActivities : Dict Activity) (t : Nat → Micros) (n : Nat) (asgs : List AutoScalingGroup)
    (name : String) : Prop :=
  ∃ before asg after, asgs = before ++ asg :: after ∧ asg.autoScalingGroupName = name ∧
    AllPassed lastActivities t n before ∧ ¬ PassedAt lastActivities (t (n + before.length)) asg

/-- No ASG to which the walk comes ended its last activity between the limits `t`
    and `t'`, unless the walk stops at another one of its name. -/
def NoneBetween (lastActivities : Dict Activity) (t t' : Nat → Micros) (n : Nat)
    (asgs : List AutoScalingGroup) : Prop :=
  ∀ before asg after, asgs = before ++ asg :: after → AllPassed lastActivities t' n before →
    PassedAt lastActivities (t (n + before.length)) asg →
    PassedAt lastActivities (t' (n + before.length)) asg ∨
      StopsAt lastActivities t (n + before.length + 1) after asg.autoScalingGroupName

section
variable {lastActivities : Dict Activity} {t t' : Nat → Micros} {n : Nat} {s s' : Micros}
  {asg : AutoScalingGroup} {asgs : List AutoScalingGroup} {name : String}

theorem PassedAt.mono (h : PassedAt lastActivities s' asg) (hle : s ≤ s') :
    PassedAt lastActivities s asg := by
  obtain ⟨hversions, activity, endTime, hget, hend, hlt⟩ := h
  exact ⟨hversions, activity, endTime, hget, hend, Int.lt_of_le_of_lt hle hlt⟩

theorem stopsAt_cons : StopsAt lastActivities t n (asg :: asgs) name ↔
    ¬ PassedAt lastActivities (t n) asg ∧ asg.autoScalingGroupName = name ∨
      PassedAt lastActivities (t n) asg ∧ StopsAt lastActivities t (n + 1) asgs name := by
  constructor
  · rintro ⟨before, a, after, heq, hname, hpassed, hnot⟩
    cases before with
    | nil =>
        cases heq
        exact .inl ⟨hnot, hname⟩
    | cons b before =>
        cases heq
        refine .inr ⟨hpassed.1, before, a, after, rfl, hname, hpassed.2, ?_⟩
        rwa [List.length_cons, ← Nat.add_assoc, Nat.add_right_comm] at hnot
  · rintro (⟨hnot, hname⟩ | ⟨hpassed, before, a, after, rfl, hname, hbefore, hnot⟩)
    · exact ⟨[], asg, asgs, rfl, hname, trivial, hnot⟩
    · refine ⟨asg :: before, a, after, rfl, hname, ⟨hpassed, hbefore⟩, ?_⟩
      rwa [List.length_cons, ← Nat.add_assoc, Nat.add_right_comm]

theorem noneBetween_cons : NoneBetween lastActivities t t' n (asg :: asgs) ↔
    (PassedAt lastActivities (t n) asg → PassedAt lastActivities (t' n) asg ∨
      StopsAt lastActivities t (n + 1) asgs asg.autoScalingGroupName) ∧
    (PassedAt lastActivities (t' n) asg → NoneBetween lastActivities t t' (n + 1) asgs) := by
  constructor
  · intro h
    refine ⟨fun hpassed => h [] asg asgs rfl trivial hpassed, fun hpassed before a after heq hall ha => ?_⟩
    have hindex : n + (asg :: before).length = n + 1 + before.length := by
      rw [List.length_cons, ← Nat.add_assoc, Nat.add_right_comm]
    have hcons := h (asg :: before) a after (by rw [heq]; rfl) ⟨hpassed, hall⟩
    rw [hindex] at hcons
    exact hcons ha
  · rintro ⟨hhead, htail⟩ before a after heq hall ha
    cases before with
    | nil =>
        cases heq
        exact hhead ha
    | cons b before =>
        cases heq
        have hindex : n + (asg :: before).length = n + 1 + before.length := by
          rw [List.length_cons, ← Nat.add_assoc, Nat.add_right_comm]
        rw [hindex] at ha ⊢
        exact htail hall.1 before a after rfl hall.2 ha

end

-- ============================================================================
-- The second loop on a host
-- ============================================================================

section
variable {lastActivities : Dict Activity} {instants : Nat → Micros} {offset lo hi : Micros} {n : Nat}
  {asg : AutoScalingGroup} {asgs : List AutoScalingGroup} {name : String}

theorem sameVersion_iff {inst : AsgInstance} : upToDate asg true inst = true ↔ SameVersion asg inst := by
  refine ⟨sameVersion_of_upToDate, ?_⟩
  rintro ⟨template, template', hasg, hinst, hversion⟩
  simp [upToDate, getLaunchTemplateVersion, hasg, hinst, hversion]

/-- The second loop of `get_next_asg_action`, from the `n`-th reading of the clock on. -/
def scaleInOn (instants : Nat → Micros) (offset : Micros) (lastActivities : Dict Activity) (n : Nat)
    (asgs : List AutoScalingGroup) : Except PyExc (Option NextAsgAction) :=
  ((nextScaleIn lastActivities asgs).run (host instants offset).answer { ticks := n }).1

theorem scaleInOn_missing (h : Dict.get? asg.autoScalingGroupName lastActivities = none) :
    ∃ e, ∀ offset, scaleInOn instants offset lastActivities n (asg :: asgs) = .error e := by
  obtain ⟨e, he⟩ : ∃ e, getKey asg.autoScalingGroupName (none : Option Activity) = .error e := ⟨_, rfl⟩
  refine ⟨e, fun offset => ?_⟩
  rw [scaleInOn, nextScaleIn, h, he]
  rfl

/-- With instances to look at, an ASG is passed over as `PassedAt` says. -/
theorem scaleInOn_cons (hinstances : asg.instances ≠ [])
    (h : (Dict.get? asg.autoScalingGroupName lastActivities).isSome = true) :
    (PassedAt lastActivities (limit instants offset n) asg →
      scaleInOn instants offset lastActivities n (asg :: asgs) =
        scaleInOn instants offset lastActivities (n + 1) asgs) ∧
    (¬ PassedAt lastActivities (limit instants offset n) asg →
      scaleInOn instants offset lastActivities n (asg :: asgs) =
        .ok (some { action := .scaleIn, asgName := asg.autoScalingGroupName })) := by
  obtain ⟨activity, hget⟩ := Option.isSome_iff_exists.mp h
  have hpassed : asg.instances.all (upToDate asg (endedAfter activity (limit instants offset n))) = true ↔
      PassedAt lastActivities (limit instants offset n) asg := by
    cases hend : activity.endTime with
    | none =>
        obtain ⟨inst, rest, hcons⟩ := List.exists_cons_of_ne_nil hinstances
        refine iff_of_false ?_ ?_
        · simp [endedAfter, hend, hcons, upToDate]
        · rintro ⟨-, activity', endTime, hget', hend', -⟩
          cases hget.symm.trans hget'
          cases hend.symm.trans hend'
    | some endTime =>
        by_cases hlt : limit instants offset n < endTime
        · have hrecent : endedAfter activity (limit instants offset n) = true := by
            simp [endedAfter, hend, hlt]
          rw [hrecent, List.all_eq_true]
          constructor
          · intro hall
            exact ⟨fun inst hinst => sameVersion_iff.mp (hall inst hinst), activity, endTime, hget, hend, hlt⟩
          · exact fun hp inst hinst => sameVersion_iff.mpr (hp.1 inst hinst)
        · obtain ⟨inst, rest, hcons⟩ := List.exists_cons_of_ne_nil hinstances
          refine iff_of_false ?_ ?_
          · simp [endedAfter, hend, hlt, hcons, upToDate]
          · rintro ⟨-, activity', endTime', hget', hend', hlt'⟩
            cases hget.symm.trans hget'
            cases hend.symm.trans hend'
            exact hlt hlt'
  have hrun : scaleInOn instants offset lastActivities n (asg :: asgs) =
      if asg.instances.all (upToDate asg (endedAfter activity (limit instants offset n))) then
        scaleInOn instants offset lastActivities (n + 1) asgs
      else .ok (some { action := .scaleIn, asgName := asg.autoScalingGroupName }) := by
    simp only [scaleInOn, nextScaleIn, hget, getKey, raise_ok, Prog.ret_bind, recentlyScaled, ask_bind,
      Prog.call_bind, Prog.run_call, Responses.answer, Prog.pure_eq]
    change (Prog.run _ (if asg.instances.all (upToDate asg (endedAfter activity (limit instants offset n)))
      then _ else _) _).1 = _
    split <;> rfl
  rw [hrun]
  constructor
  · intro hp
    rw [if_pos (hpassed.mpr hp)]
  · intro hp
    rw [if_neg fun hall => hp (hpassed.mp hall)]

/-- The loop scales an ASG called `name` in when it stops there. -/
theorem scaleInOn_eq_some (hinstances : ∀ asg ∈ asgs, asg.instances ≠ [])
    (h : (Dict.get? name lastActivities).isSome = true) :
    scaleInOn instants offset lastActivities n asgs = .ok (some { action := .scaleIn, asgName := name }) ↔
      StopsAt lastActivities (limit instants offset) n asgs name := by
  induction asgs generalizing n with
  | nil =>
      refine iff_of_false nofun ?_
      rintro ⟨before, asg, after, heq, -⟩
      simp at heq
  | cons asg asgs ih =>
      obtain ⟨hasg, hasgs⟩ := List.forall_mem_cons.mp hinstances
      rw [stopsAt_cons, ← ih hasgs]
      cases hget : Dict.get? asg.autoScalingGroupName lastActivities with
      | none =>
          obtain ⟨e, he⟩ := @scaleInOn_missing lastActivities instants n asg asgs hget
          rw [he offset]
          refine iff_of_false nofun ?_
          rintro (⟨-, rfl⟩ | ⟨⟨-, activity, endTime, hget', -⟩, -⟩)
          · rw [hget] at h
            cases h
          · cases hget.symm.trans hget'
      | some activity =>
          obtain ⟨hpassed, hstopped⟩ := @scaleInOn_cons lastActivities instants offset n asg asgs hasg
            (by rw [hget]; rfl)
          by_cases hp : PassedAt lastActivities (limit instants offset n) asg
          · rw [hpassed hp]
            simp [hp]
          · rw [hstopped hp]
            simp [hp]

theorem scaleInOn_eq_iff (hinstances : ∀ asg ∈ asgs, asg.instances ≠ []) (hle : lo ≤ hi) :
    scaleInOn instants lo lastActivities n asgs = scaleInOn instants hi lastActivities n asgs ↔
      NoneBetween lastActivities (limit instants lo) (limit instants hi) n asgs := by
  induction asgs generalizing n with
  | nil =>
      refine iff_of_true rfl fun before asg after heq => ?_
      simp at heq
  | cons asg asgs ih =>
      obtain ⟨hasg, hasgs⟩ := List.forall_mem_cons.mp hinstances
      rw [noneBetween_cons, ← ih hasgs]
      cases hget : Dict.get? asg.autoScalingGroupName lastActivities with
      | none =>
          obtain ⟨e, he⟩ := @scaleInOn_missing lastActivities instants n asg asgs hget
          have hnot : ∀ s, ¬ PassedAt lastActivities s asg := by
            rintro s ⟨-, activity, endTime, hget', -⟩
            cases hget.symm.trans hget'
          rw [he lo, he hi]
          exact iff_of_true rfl ⟨fun hp => absurd hp (hnot _), fun hp => absurd hp (hnot _)⟩
      | some activity =>
          have hsome : (Dict.get? asg.autoScalingGroupName lastActivities).isSome = true := by
            rw [hget]
            rfl
          obtain ⟨hpassedLo, hstoppedLo⟩ := @scaleInOn_cons lastActivities instants lo n asg asgs hasg hsome
          obtain ⟨hpassedHi, hstoppedHi⟩ := @scaleInOn_cons lastActivities instants hi n asg asgs hasg hsome
          by_cases hpHi : PassedAt lastActivities (limit instants hi n) asg
          · have hpLo := hpHi.mono (limit_mono hle n)
            rw [hpassedLo hpLo, hpassedHi hpHi]
            simp [hpHi]
          · rw [hstoppedHi hpHi]
            by_cases hpLo : PassedAt lastActivities (limit instants lo n) asg
            · rw [hpassedLo hpLo, scaleInOn_eq_some hasgs hsome]
              simp [hpLo, hpHi]
            · rw [hstoppedLo hpLo]
              simp [hpLo, hpHi]

end

-- ============================================================================
-- The decision on two hosts
-- ============================================================================

/-- Two hosts decide alike exactly when an ASG has no instances, or no ASG to which
    the walk comes, with all its instances on its version, ended its last activity
    between ten minutes before the clock of the one and ten minutes before the
    clock of the other. -/
theorem actionOn_eq_iff (instants : Nat → Micros) (offset offset' : Micros) (asgs : List AutoScalingGroup)
    (lastActivities : Dict Activity) :
    actionOn instants offset asgs lastActivities = actionOn instants offset' asgs lastActivities ↔
      (∃ asg ∈ asgs, asg.instances = []) ∨
        NoneBetween lastActivities (limit instants (min offset offset')) (limit instants (max offset offset'))
          0 asgs := by
  cases hout : nextScaleOut asgs with
  | some action =>
      refine iff_of_true ?_ (.inl ?_)
      · simp only [actionOn, getNextAsgAction, hout]
        rfl
      · rw [nextScaleOut_eq, Option.map_eq_some_iff] at hout
        obtain ⟨asg, hfirst, -⟩ := hout
        have hempty := List.find?_some hfirst
        exact ⟨asg, List.mem_of_find?_eq_some hfirst, List.isEmpty_iff.mp hempty⟩
  | none =>
      have hinstances := ne_nil_of_nextScaleOut hout
      have hsecond : ∀ offset, actionOn instants offset asgs lastActivities =
          scaleInOn instants offset lastActivities 0 asgs := by
        intro offset
        simp only [actionOn, getNextAsgAction, hout]
        rfl
      have hnone : ¬ ∃ asg ∈ asgs, asg.instances = [] := by
        rintro ⟨asg, hasg, hempty⟩
        exact hinstances asg hasg hempty
      rw [hsecond, hsecond, or_iff_right hnone]
      rcases Int.le_total offset offset' with hle | hle
      · rw [Int.min_eq_left hle, Int.max_eq_right hle]
        exact scaleInOn_eq_iff hinstances hle
      · rw [Int.min_eq_right hle, Int.max_eq_left hle, eq_comm]
        exact scaleInOn_eq_iff hinstances hle

/-- An ASG whose instance was launched on its version five minutes ago. -/
def freshAsg : AutoScalingGroup where
  autoScalingGroupName := "web-asg-1"
  instances := [{ instanceId := "i-1", launchTemplate := some ⟨"lt-1", "2"⟩ }]
  launchTemplate := some ⟨"lt-1", "2"⟩

/-- At one instant, a host on UTC finds nothing to do, and one in summer time, an
    hour ahead, scales the ASG in again. -/
theorem scaled_in_in_summer :
    actionOn (fun _ => minutes 5) 0 [freshAsg] [("web-asg-1", justScaled)] = .ok none ∧
      actionOn (fun _ => minutes 5) (minutes 60) [freshAsg] [("web-asg-1", justScaled)] =
        .ok (some { action := .scaleIn, asgName := "web-asg-1" }) :=
  ⟨rfl, rfl⟩

end AutoRecycle.ScaleAsg
