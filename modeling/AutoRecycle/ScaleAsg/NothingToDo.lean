/-
  AutoRecycle.ScaleAsg.NothingToDo

  What it means that `get_next_asg_action` finds nothing to do.

  A launch template is known by its id and its version.  The code compares the
  versions only, so an instance of another template with the same version number
  counts as up to date.
-/
import AutoRecycle.Runs
import AutoRecycle.ScaleAsg.Specification

namespace AutoRecycle.ScaleAsg

open AutoRecycle.Data AutoRecycle.Effect AutoRecycle.Py

section
variable {legal : (op : Op) → op.Reply → Prop} {lastActivities : Dict Activity}
  {asgs : List AutoScalingGroup} {tr : Trace Calls}

/-- The instance and its ASG have launch templates of one version. -/
def SameVersion (asg : AutoScalingGroup) (inst : AsgInstance) : Prop :=
  ∃ template template', asg.launchTemplate = some template ∧ inst.launchTemplate = some template' ∧
    template'.version = template.version

theorem sameVersion_of_upToDate {asg : AutoScalingGroup} {inst : AsgInstance} {recent : Bool}
    (h : upToDate asg recent inst = true) : SameVersion asg inst := by
  simp only [upToDate, Bool.and_eq_true, decide_eq_true_eq] at h
  obtain ⟨⟨⟨hasg, -⟩, heq⟩, -⟩ := h
  rw [getLaunchTemplateVersion, getLaunchTemplateVersion] at heq
  rw [getLaunchTemplateVersion] at hasg
  cases hasgTemplate : asg.launchTemplate with
  | none => simp [hasgTemplate] at hasg
  | some template =>
      rw [hasgTemplate, Option.map_some, eq_comm, Option.map_eq_some_iff] at heq
      obtain ⟨template', hinst, hversion⟩ := heq
      exact ⟨template, template', hasgTemplate, hinst, hversion⟩

theorem ne_nil_of_nextScaleOut (h : nextScaleOut asgs = none) : ∀ asg ∈ asgs, asg.instances ≠ [] := by
  rw [nextScaleOut_eq, Option.map_eq_none_iff] at h
  exact ne_nil_of_firstEmpty h

/-- The loop goes past an ASG whose instances are all of its version. -/
theorem sameVersion_of_nextScaleIn
    (h : Runs legal (nextScaleIn lastActivities asgs) tr (.ret none)) :
    ∀ asg ∈ asgs, ∀ inst ∈ asg.instances, SameVersion asg inst := by
  induction asgs generalizing tr with
  | nil => nofun
  | cons asg asgs ih =>
      obtain ⟨activity, -, h⟩ := raise_bind_inv h
      obtain ⟨recent, t₁, t₂, _, -, -, h⟩ := Exec.bind_ret_inv h
      split at h
      · rename_i hall
        rw [List.all_eq_true] at hall
        exact List.forall_mem_cons.mpr
          ⟨fun inst hinst => sameVersion_of_upToDate (hall inst hinst), ih h⟩
      · cases (Exec.ret_inv h).2

/-- Nothing is left to do only if every ASG has instances and all of them have
    the version of its launch template. -/
theorem sameVersion_of_getNextAsgAction (asgs : List AutoScalingGroup) (lastActivities : Dict Activity)
    (tr : Trace Calls)
    (h : Runs (fun _ _ => True) (getNextAsgAction asgs lastActivities) tr (.ret none)) :
    ∀ asg ∈ asgs, asg.instances ≠ [] ∧ ∀ inst ∈ asg.instances, SameVersion asg inst := by
  rw [getNextAsgAction] at h
  split at h
  · cases (Exec.ret_inv h).2
  · rename_i hnone
    exact fun asg hasg => ⟨ne_nil_of_nextScaleOut hnone asg hasg, sameVersion_of_nextScaleIn h asg hasg⟩

end

/-- An ASG whose launch template was replaced by another one of the same version;
    its instance is still of the old one. -/
def replacedTemplate : AutoScalingGroup where
  autoScalingGroupName := "web-asg-1"
  instances := [{ instanceId := "i-1", launchTemplate := some ⟨"lt-old", "1"⟩ }]
  launchTemplate := some ⟨"lt-new", "1"⟩

/-- Its last activity, which has just ended. -/
def justScaled : Activity where
  activityId := "1"
  autoScalingGroupName := "web-asg-1"
  cause := ""
  progress := some 100
  startTime := .aware 0
  endTime := some 0
  statusCode := some "Successful"

theorem runs_replacedTemplate :
    Runs (fun _ _ => True) (getNextAsgAction [replacedTemplate] [("web-asg-1", justScaled)])
      [⟨.now, (0 : Int)⟩] (.ret none) :=
  .call rfl trivial (.rest rfl)

theorem sameVersion_of_getNextAsgAction_replaced :
    SameVersion replacedTemplate ⟨"i-1", some ⟨"lt-old", "1"⟩⟩ :=
  (sameVersion_of_getNextAsgAction _ _ _ runs_replacedTemplate replacedTemplate
    (List.mem_singleton.mpr rfl)).2 _ (List.mem_singleton.mpr rfl)

/-- Nothing to do, with an instance of a template that its ASG no longer has. -/
theorem nothing_to_do_with_another_template :
    Runs (fun _ _ => True) (getNextAsgAction [replacedTemplate] [("web-asg-1", justScaled)])
        [⟨.now, (0 : Int)⟩] (.ret none) ∧
      ¬ ∀ asg ∈ [replacedTemplate], asg.instances ≠ [] ∧
        ∀ inst ∈ asg.instances, inst.launchTemplate = asg.launchTemplate := by
  refine ⟨runs_replacedTemplate, fun h => ?_⟩
  have htemplate := (h _ (List.mem_singleton.mpr rfl)).2 _ (List.mem_singleton.mpr rfl)
  simp [replacedTemplate] at htemplate

end AutoRecycle.ScaleAsg
