/-
  AutoRecycle.ScaleAsg.Reads

  What an invocation of the scale-ASG lambda has read when it executes a policy.

  The groups are listed once, and then the activities are read group by group;
  AWS goes on in between.  `policy_inv` gives the moments of the listing and of
  each of the reads, and the decision that follows from them.
-/
import AutoRecycle.Lambdas
import AutoRecycle.ScaleAsg.Groups
import AutoRecycle.ScaleAsg.NothingToDo

namespace AutoRecycle.ScaleAsg

open AutoRecycle.Asl AutoRecycle.Data AutoRecycle.Effect AutoRecycle.Py

/-- The groups, and the calls that AWS has answered. -/
abbrev Watched : Type := Cluster × Trace Calls

def isPolicy : Op → Bool
  | .executePolicy .. => true
  | _ => false

def isListing : Op → Bool
  | .describeAutoScalingGroups => true
  | _ => false

/-- The groups that a call has listed. -/
def listing? : Effect.Event Calls → Option (List AutoScalingGroup)
  | ⟨.describeAutoScalingGroups, .ok pages⟩ => some pages.flatten
  | _ => none

/-- The activities that a call has read, and whose they are. -/
def reading? : Effect.Event Calls → Option (String × List Activity)
  | ⟨.describeScalingActivities name, .ok activities⟩ => some (name, activities)
  | _ => none

/-- The groups as they were listed last. -/
def lastListing (calls : Trace Calls) : Option (List AutoScalingGroup) :=
  Trace.last? listing? calls

theorem lastListing_append {past calls : Trace Calls} (h : ∀ ev ∈ calls, isListing ev.1 = false) :
    lastListing (past ++ calls) = lastListing past := by
  induction calls using List.reverseRecOn with
  | nil => rw [List.append_nil]
  | append_singleton calls ev ih =>
      have hnone : listing? ev = none := by
        have hev := h ev (by simp)
        obtain ⟨op, r⟩ := ev
        cases op with
        | describeAutoScalingGroups => cases hev
        | _ => rfl
      rw [← List.append_assoc, lastListing, Trace.last?_snoc, hnone, Option.none_or]
      exact ih fun ev' hev' => h ev' (List.mem_append_left _ hev')

-- ============================================================================
-- Calls that leave the groups alone
-- ============================================================================

section
variable {edits : Prop} {P : Watched → (op : Op) → op.Reply → Prop} {K : Setting Calls Watched}
  {α : Type} {p q : Py α} {x y : Watched} {calls : Trace Calls}

theorem Cluster.answers_eq {c c' : Cluster} {op : Op} {r : op.Reply} (h : c.Answers op r c')
    (hop : isPolicy op = false) : c' = c := by
  cases op with
  | executePolicy name policyName => cases hop
  | now => exact h.2
  | describeAutoScalingGroups => exact h.1
  | describeScalingActivities name => exact h.1
  | invoke function input => exact h.1
  | _ => exact h

/-- A program without policies only lets AWS go on. -/
theorem exec_evolves (hK : K.Narrows (.recording (aws edits)) P) (h : Exec K p x calls q y)
    (hp : p.Issues fun op => isPolicy op = false) :
    Cluster.Evolves edits x.1 y.1 ∧ y.2 = x.2 ++ calls := by
  induction h with
  | rest hr =>
      obtain ⟨hevolves, hsame⟩ := hK.rely hr
      exact ⟨hevolves, by rw [hsame, List.append_nil]⟩
  | call hr ha _ ih =>
      obtain ⟨hevolves, hsame⟩ := hK.rely hr
      obtain ⟨hlater, hcalls⟩ := ih (hp.2 _)
      obtain ⟨⟨hanswer, hrecord⟩, -⟩ := hK.answers ha
      rw [Cluster.answers_eq hanswer hp.1] at hlater
      refine ⟨hevolves.trans hlater, ?_⟩
      rw [hcalls, hrecord, hsame, List.append_assoc, List.singleton_append]

end

-- ============================================================================
-- The reads
-- ============================================================================

/-- Between `x` and `y`, in the course of `calls`, the activities of the group
    `name` are read, and `activity` is what is made of them. -/
def Reading (edits : Prop) (P : Watched → (op : Op) → op.Reply → Prop) (name : String)
    (x : Watched) (calls : Trace Calls) (y : Watched) (activity : Activity) : Prop :=
  ∃ z activities, ⟨.describeScalingActivities name, .ok activities⟩ ∈ calls ∧
    Cluster.Evolves edits x.1 z.1 ∧ lastListing z.2 = lastListing x.2 ∧
    P z (.describeScalingActivities name) (.ok activities) ∧
    (∃ g ∈ z.1.groups, g.name = name ∧ activities = g.last.toList) ∧
    (activities = [activity] ∨ activities = [] ∧ ∃ t, activity = noActivity name t) ∧
    Cluster.Evolves edits z.1 y.1

section
variable {edits : Prop} {P : Watched → (op : Op) → op.Reply → Prop} {K : Setting Calls Watched}
  {x x₁ y y₁ : Watched} {calls calls₁ : Trace Calls} {name component : String} {activity : Activity}

namespace Reading

/-- What comes before the first of the two moments, and after the second. -/
theorem before (h : Reading edits P name x₁ calls y activity) (hevolves : Cluster.Evolves edits x.1 x₁.1)
    (hlast : lastListing x₁.2 = lastListing x.2) : Reading edits P name x calls y activity := by
  obtain ⟨z, activities, hmem, hz, hsame, hP, hread, hmade, hy⟩ := h
  exact ⟨z, activities, hmem, hevolves.trans hz, hsame.trans hlast, hP, hread, hmade, hy⟩

theorem after (h : Reading edits P name x calls y activity) (hevolves : Cluster.Evolves edits y.1 y₁.1) :
    Reading edits P name x calls y₁ activity := by
  obtain ⟨z, activities, hmem, hz, hsame, hP, hread, hmade, hy⟩ := h
  exact ⟨z, activities, hmem, hz, hsame, hP, hread, hmade, hy.trans hevolves⟩

theorem mono (h : Reading edits P name x calls y activity) (hcalls : calls ⊆ calls₁) :
    Reading edits P name x calls₁ y activity := by
  obtain ⟨z, activities, hmem, hrest⟩ := h
  exact ⟨z, activities, hcalls hmem, hrest⟩

end Reading

theorem describeScalingActivities_ret_inv (hK : K.Narrows (.recording (aws edits)) P)
    (h : Exec K (describeScalingActivities name) x calls (.ret activity) y) :
    Reading edits P name x calls y activity := by
  obtain ⟨r, calls', x₁, x₂, rfl, hr, ha, h'⟩ := Exec.call_ret_inv h
  obtain ⟨hevolves, hsame⟩ := hK.rely hr
  obtain ⟨⟨hanswer, -⟩, hP⟩ := hK.answers ha
  obtain ⟨hcluster, hread⟩ := hanswer
  obtain ⟨activities, rfl, h''⟩ := raise_bind_inv h'
  obtain ⟨g, hg, hname, hlast⟩ := hread activities rfl
  have hrest : Cluster.Evolves edits x₂.1 y.1 ∧
      (activities = [activity] ∨ activities = [] ∧ ∃ t, activity = noActivity name t) := by
    cases activities with
    | nil =>
        obtain ⟨t, calls'', x₃, x₄, rfl, hr', ha', h₃⟩ := Exec.call_ret_inv h''
        obtain ⟨hevolves', -⟩ := exec_evolves hK h'' ⟨rfl, fun _ => trivial⟩
        obtain ⟨-, hret⟩ := Exec.ret_inv h₃
        cases hret
        exact ⟨hevolves', .inr ⟨rfl, t, rfl⟩⟩
    | cons a rest =>
        obtain ⟨hevolves', -⟩ := exec_evolves hK h'' trivial
        obtain ⟨-, hret⟩ := Exec.ret_inv h''
        cases hret
        cases hg' : g.last with
        | none =>
            rw [hg'] at hlast
            cases hlast
        | some b =>
            rw [hg'] at hlast
            cases hlast
            exact ⟨hevolves', .inl rfl⟩
  rw [hcluster] at hrest
  exact ⟨x₁, activities, List.mem_cons_self, hevolves, by rw [hsame], hP, ⟨g, hg, hname, hlast⟩,
    hrest.2, hrest.1⟩

theorem issues_reads {details : Dict Activity} {asgs : List AutoScalingGroup} :
    (activityDetails details asgs).Issues fun op => isPolicy op = false ∧ isListing op = false :=
  issues_activityDetails ⟨rfl, rfl⟩ (fun _ => ⟨rfl, rfl⟩) _ _

/-- The reads of the first loop: one for each group listed. -/
theorem activityDetails_ret_inv (hK : K.Narrows (.recording (aws edits)) P)
    {details details' : Dict Activity} {asgs : List AutoScalingGroup}
    (h : Exec K (activityDetails details asgs) x calls (.ret details') y) :
    (∀ key, key ∉ asgs.map AutoScalingGroup.autoScalingGroupName →
      details'.get? key = details.get? key) ∧
    ∀ asg ∈ asgs, ∃ activity, details'.get? asg.autoScalingGroupName = some activity ∧
      Reading edits P asg.autoScalingGroupName x calls y activity := by
  induction asgs generalizing details x calls with
  | nil =>
      obtain ⟨-, hret⟩ := Exec.ret_inv h
      cases hret
      exact ⟨fun _ _ => rfl, fun _ hmem => nomatch hmem⟩
  | cons asg asgs ih =>
      obtain ⟨activity, calls₁, calls₂, x₁, rfl, h₁, h₂⟩ := Exec.bind_ret_inv h
      have hissues : (describeScalingActivities asg.autoScalingGroupName).Issues
          fun op => isPolicy op = false ∧ isListing op = false :=
        issues_describeScalingActivities ⟨rfl, rfl⟩ (fun _ => ⟨rfl, rfl⟩) _
      obtain ⟨hone, hrecord⟩ := exec_evolves hK h₁ (hissues.mono fun _ h => h.1)
      have hlisted : lastListing x₁.2 = lastListing x.2 := by
        rw [hrecord]
        exact lastListing_append fun ev hev => ((h₁.issues hissues).1 ev hev).2
      have hrest := (exec_evolves hK h₂ (issues_reads.mono fun _ h => h.1)).1
      obtain ⟨hother, hread⟩ := ih h₂
      refine ⟨fun key hkey => ?_, fun asg' hmem => ?_⟩
      · rw [List.map_cons, List.mem_cons, not_or] at hkey
        rw [hother key hkey.2, Dict.get?_set_ne hkey.1]
      · have hlater : ∀ {a'}, a' ∈ asgs → ∃ activity,
            details'.get? a'.autoScalingGroupName = some activity ∧
            Reading edits P a'.autoScalingGroupName x (calls₁ ++ calls₂) y activity := by
          intro a' ha'
          obtain ⟨activity', hget, hreading⟩ := hread a' ha'
          exact ⟨activity', hget,
            (hreading.before hone hlisted).mono (List.subset_append_right _ _)⟩
        rcases List.mem_cons.mp hmem with rfl | hmem
        · by_cases hagain : asg'.autoScalingGroupName ∈ asgs.map AutoScalingGroup.autoScalingGroupName
          · obtain ⟨a', ha', hname⟩ := List.mem_map.mp hagain
            have hlater' := hlater ha'
            rw [hname] at hlater'
            exact hlater'
          · have hreading := (describeScalingActivities_ret_inv hK h₁).after hrest
            refine ⟨activity, ?_, hreading.mono (List.subset_append_left _ _)⟩
            rw [hother _ hagain, Dict.get?_set_self]
        · exact hlater hmem

theorem describeAsg_ret_inv (hK : K.Narrows (.recording (aws edits)) P) {asgs : List AutoScalingGroup}
    (h : Exec K (describeAsg component) x calls (.ret asgs) y) :
    ∃ z : Cluster, Cluster.Evolves edits x.1 z ∧ Cluster.Evolves edits z y.1 ∧
      lastListing y.2 = some (z.groups.map Group.listed) ∧
      matchAsgs component (z.groups.map Group.listed) = .ok asgs := by
  obtain ⟨r, calls', x₁, x₂, rfl, hr, ha, h'⟩ := Exec.call_ret_inv h
  obtain ⟨hevolves, -⟩ := hK.rely hr
  obtain ⟨⟨⟨hcluster, hlisted⟩, hrecord⟩, -⟩ := hK.answers ha
  obtain ⟨pages, rfl, h''⟩ := raise_bind_inv h'
  obtain ⟨hlater, hcalls⟩ := exec_evolves hK h'' (by simp only [issues_raise])
  obtain ⟨rfl, hmatch⟩ := raise_ret_inv h''
  have hpages : pages.flatten = x₁.1.groups.map Group.listed := hlisted pages rfl
  rw [addPages_eq, hpages] at hmatch
  rw [hcluster] at hlater
  refine ⟨x₁.1, hevolves, hlater, ?_, hmatch⟩
  rw [hcalls, List.append_nil, hrecord, lastListing, Trace.last?_snoc, ← hpages]
  rfl

/-- The second loop asks to scale in an ASG that is not up to date at the moment
    when it is looked at. -/
theorem nextScaleIn_ret_inv (hK : K.Narrows (.recording (aws edits)) P) {details : Dict Activity}
    {asgs : List AutoScalingGroup} {nextStep : NextAsgAction}
    (h : Exec K (nextScaleIn details asgs) x calls (.ret (some nextStep)) y) :
    nextStep.action = .scaleIn ∧ ∃ asg ∈ asgs, asg.autoScalingGroupName = nextStep.asgName ∧
      ∃ activity, details.get? asg.autoScalingGroupName = some activity ∧
        ∃ z : Cluster, Cluster.Evolves edits x.1 z ∧ Cluster.Evolves edits z y.1 ∧
          asg.instances.all (upToDate asg (endedAfter activity (lcAge z.clock 10))) = false := by
  induction asgs generalizing x calls with
  | nil => cases (Exec.ret_inv h).2
  | cons asg asgs ih =>
      obtain ⟨activity, hget, h⟩ := raise_bind_inv h
      obtain ⟨t, calls', x₁, x₂, rfl, hr, ha, h⟩ := Exec.call_ret_inv h
      obtain ⟨hevolves, -⟩ := hK.rely hr
      obtain ⟨⟨⟨rfl, hcluster⟩, -⟩, -⟩ := hK.answers ha
      replace h : Exec K (if asg.instances.all (upToDate asg (endedAfter activity
          (lcAge x₁.1.clock 10))) then nextScaleIn details asgs
          else return some { action := .scaleIn, asgName := asg.autoScalingGroupName })
          x₂ calls' (.ret (some nextStep)) y := h
      split at h
      · obtain ⟨haction, asg', hmem, hname, activity', hget', z, hz, hlater, hold⟩ := ih h
        rw [hcluster] at hz
        exact ⟨haction, asg', List.mem_cons_of_mem _ hmem, hname, activity', hget', z,
          hevolves.trans hz, hlater, hold⟩
      · rename_i hold
        rw [Bool.not_eq_true] at hold
        obtain ⟨hlater, -⟩ := exec_evolves hK h trivial
        obtain ⟨-, hret⟩ := Exec.ret_inv h
        cases hret
        rw [hcluster] at hlater
        exact ⟨rfl, asg, List.mem_cons_self, rfl, activity, getKey_eq_ok.mp hget, x₁.1, hevolves,
          hlater, hold⟩

-- ============================================================================
-- The decision
-- ============================================================================

/-- What an invocation has read when it is about to execute a policy: the groups
    of the component as they stood at `z`, and since then the last activity of
    each, which was finished and successful. -/
structure Seen (edits : Prop) (P : Watched → (op : Op) → op.Reply → Prop) (component : String)
    (z : Cluster) (asgs : List AutoScalingGroup) (details : Dict Activity) (calls : Trace Calls)
    (y : Watched) : Prop where
  listed : matchAsgs component (z.groups.map Group.listed) = .ok asgs
  read : ∀ asg ∈ asgs, ∃ w activity, w.1 = z ∧ lastListing w.2 = some (z.groups.map Group.listed) ∧
    details.get? asg.autoScalingGroupName = some activity ∧ activity.progress = some 100 ∧
    activity.statusCode = some "Successful" ∧ Reading edits P asg.autoScalingGroupName w calls y activity
  later : Cluster.Evolves edits z y.1
  quiet : ∀ ev ∈ calls, isPolicy ev.1 = false

/-- One more call before. -/
theorem Seen.cons {z : Cluster} {asgs : List AutoScalingGroup} {details : Dict Activity}
    {ev : Effect.Event Calls} (h : Seen edits P component z asgs details calls y)
    (hev : isPolicy ev.1 = false) : Seen edits P component z asgs details (ev :: calls) y where
  listed := h.listed
  read := by
    intro asg hasg
    obtain ⟨w, activity, hw, hlast, hget, hdone, hsuccessful, hreading⟩ := h.read asg hasg
    exact ⟨w, activity, hw, hlast, hget, hdone, hsuccessful,
      hreading.mono (List.subset_cons_self _ _)⟩
  later := h.later
  quiet := List.forall_mem_cons.mpr ⟨hev, h.quiet⟩

/-- The policy that the groups and activities call for, with the clock being read
    between `z` and `y`. -/
inductive Decides (edits : Prop) (z y : Cluster) (asgs : List AutoScalingGroup)
    (details : Dict Activity) : String → String → Prop where
  | scaleOut {asg} (hmem : asg ∈ asgs) (hempty : asg.instances = []) :
      Decides edits z y asgs details asg.autoScalingGroupName "recycle-scale-out"
  | scaleIn {asg activity now} (hmem : asg ∈ asgs) (hfull : ∀ asg ∈ asgs, asg.instances ≠ [])
      (hget : details.get? asg.autoScalingGroupName = some activity)
      (hfrom : Cluster.Evolves edits z now) (hto : Cluster.Evolves edits now y)
      (hold : asg.instances.all (upToDate asg (endedAfter activity (lcAge now.clock 10))) = false) :
      Decides edits z y asgs details asg.autoScalingGroupName "recycle-scale-in"

theorem Decides.later {z y y' : Cluster} {asgs : List AutoScalingGroup} {details : Dict Activity}
    {name policyName : String} (h : Decides edits z y asgs details name policyName)
    (hy : Cluster.Evolves edits y y') : Decides edits z y' asgs details name policyName := by
  cases h with
  | scaleOut hmem hempty => exact .scaleOut hmem hempty
  | scaleIn hmem hfull hget hfrom hto hold => exact .scaleIn hmem hfull hget hfrom (hto.trans hy) hold

theorem nextScaleOut_eq_some {asgs : List AutoScalingGroup} {nextStep : NextAsgAction}
    (h : nextScaleOut asgs = some nextStep) : nextStep.action = .scaleOut ∧
      ∃ asg ∈ asgs, asg.instances = [] ∧ asg.autoScalingGroupName = nextStep.asgName := by
  induction asgs with
  | nil => cases h
  | cons asg asgs ih =>
      rw [nextScaleOut] at h
      split at h
      · rename_i hempty
        cases h
        exact ⟨rfl, asg, List.mem_cons_self, List.length_eq_zero_iff.mp hempty, rfl⟩
      · obtain ⟨haction, asg', hmem, hrest⟩ := ih h
        exact ⟨haction, asg', List.mem_cons_of_mem _ hmem, hrest⟩

theorem getNextAsgAction_ret_inv (hK : K.Narrows (.recording (aws edits)) P) {details : Dict Activity}
    {asgs : List AutoScalingGroup} {nextStep : NextAsgAction} {z : Cluster}
    (hz : Cluster.Evolves edits z x.1)
    (h : Exec K (getNextAsgAction asgs details) x calls (.ret (some nextStep)) y) :
    Decides edits z y.1 asgs details nextStep.asgName ("recycle-scale-" ++ nextStep.action.text) := by
  rw [getNextAsgAction] at h
  split at h
  · rename_i action hout
    obtain ⟨-, hret⟩ := Exec.ret_inv h
    cases hret
    obtain ⟨haction, asg, hmem, hempty, hname⟩ := nextScaleOut_eq_some hout
    rw [haction, ← hname]
    exact .scaleOut hmem hempty
  · rename_i hnone
    obtain ⟨haction, asg, hmem, hname, activity, hget, now, hfrom, hto, hold⟩ :=
      nextScaleIn_ret_inv hK h
    rw [haction, ← hname]
    exact .scaleIn hmem (ne_nil_of_nextScaleOut hnone) hget (hz.trans hfrom) hto hold

/-- Every activity that was read has passed the checks. -/
theorem checked {details : Dict Activity} (hget : details.get? name = some activity)
    (hprogress : getOverallProgress details.values = true)
    (hstatus : getOverallStatuscode details.values = true) :
    activity.progress = some 100 ∧ activity.statusCode = some "Successful" := by
  have hmem : activity ∈ details.values := List.mem_map_of_mem (Dict.mem_of_get? hget)
  rw [getOverallProgress, List.all_eq_true] at hprogress
  rw [getOverallStatuscode, List.all_eq_true] at hstatus
  exact ⟨of_decide_eq_true (hprogress _ hmem), of_decide_eq_true (hstatus _ hmem)⟩

/-- What `tryScale` has behind it when it is about to execute a policy. -/
theorem tryScale_policy_inv (hK : K.Narrows (.recording (aws edits)) P) {output : Event}
    {fields : List (Dict Asl.Json)} {op : Op} {next : op.Reply → Py Event} (hop : isPolicy op = true)
    (h : Exec K (tryScale component output fields) x calls (.call op next) y) :
    ∃ z asgs details name policyName, op = .executePolicy name policyName ∧
      Cluster.Evolves edits x.1 z ∧ Seen edits P component z asgs details calls y ∧
      Decides edits z y.1 asgs details name policyName := by
  have hother : ∀ {α : Type} {p : Py α}, (p.Issues fun op => isPolicy op = false) → p.Issues (· ≠ op) := by
    intro α p hp
    refine hp.mono fun op' hop' heq => ?_
    rw [heq, hop] at hop'
    cases hop'
  have hquiet₁ : (describeAsg component).Issues fun op => isPolicy op = false :=
    @issues_describeAsg (fun op => isPolicy op = false) rfl _
  have hquiet₂ : ∀ asgs, (activityDetails [] asgs).Issues fun op => isPolicy op = false :=
    fun asgs => issues_reads.mono fun _ h => h.1
  have hquiet₃ : ∀ asgs details, (getNextAsgAction asgs details).Issues fun op => isPolicy op = false :=
    fun asgs details => @issues_getNextAsgAction (fun op => isPolicy op = false) rfl _ _
  obtain ⟨asgs, calls₁, calls₂, x₁, rfl, hlisting, h⟩ := Exec.bind_call_inv h (hother hquiet₁)
  obtain ⟨z, hz, hx₁, hlast, hmatch⟩ := describeAsg_ret_inv hK hlisting
  obtain ⟨details, calls₃, calls₄, x₂, rfl, hreads, h⟩ :=
    Exec.bind_call_inv h (hother (hquiet₂ asgs))
  obtain ⟨-, hread⟩ := activityDetails_ret_inv hK hreads
  split at h
  · cases (Exec.ret_inv h).2
  split at h
  · cases (Exec.ret_inv h).2
  rename_i hprogress hstatus
  obtain ⟨nextStep, calls₅, calls₆, x₃, rfl, hdecide, h⟩ :=
    Exec.bind_call_inv h (hother (hquiet₃ asgs details))
  have hx₂ := (exec_evolves hK hreads (hquiet₂ asgs)).1
  have hx₃ := (exec_evolves hK hdecide (hquiet₃ asgs details)).1
  cases nextStep with
  | none => cases (Exec.ret_inv h).2
  | some nextStep =>
      cases h with
      | call _ _ h =>
          obtain ⟨_, -, h⟩ := raise_bind_call_inv h
          cases (Exec.ret_inv h).2
      | rest hr =>
          have hy := (hK.rely hr).1
          have hdecides := getNextAsgAction_ret_inv hK (hx₁.trans hx₂) hdecide
          have hthen := hx₃.trans hy
          refine ⟨z, asgs, details, _, _, rfl, hz, ⟨hmatch, ?_, (hx₁.trans hx₂).trans hthen, ?_⟩,
            hdecides.later hy⟩
          · intro asg hasg
            obtain ⟨activity, hget, hreading⟩ := hread asg hasg
            obtain ⟨hdone, hsuccessful⟩ := checked hget (by simpa using hprogress) (by simpa using hstatus)
            have hfrom : Reading edits P asg.autoScalingGroupName (z, x₁.2) calls₃ x₂ activity :=
              hreading.before hx₁ rfl
            refine ⟨(z, x₁.2), activity, rfl, hlast, hget, hdone, hsuccessful, ?_⟩
            refine (hfrom.after hthen).mono fun ev hev => ?_
            exact List.mem_append_right _ (List.mem_append_left _ hev)
          · intro ev hev
            simp only [List.append_nil, List.mem_append] at hev
            rcases hev with hev | hev | hev
            · exact (hlisting.issues hquiet₁).1 ev hev
            · exact (hreads.issues (hquiet₂ asgs)).1 ev hev
            · exact (hdecide.issues (hquiet₃ asgs details)).1 ev hev

/-- What an invocation has behind it when it is about to execute a policy. -/
theorem policy_inv (hK : K.Narrows (.recording (aws edits)) P) {data : Asl.Json} {op : Op}
    {next : op.Reply → Py Asl.Json} (hop : isPolicy op = true)
    (h : Exec K (lambdaHandler data) x calls (.call op next) y) :
    ∃ event z asgs details name policyName, Event.modelValidate data = .ok event ∧
      op = .executePolicy name policyName ∧ Cluster.Evolves edits x.1 z ∧
      Seen edits P event.component z asgs details calls y ∧
      Decides edits z y.1 asgs details name policyName := by
  have hscale : ∀ {event : Event} {next : op.Reply → Py Event},
      Exec K (scaleAsg event) x calls (.call op next) y →
      ∃ z asgs details name policyName, op = .executePolicy name policyName ∧
        Cluster.Evolves edits x.1 z ∧ Seen edits P event.component z asgs details calls y ∧
        Decides edits z y.1 asgs details name policyName := by
    intro event next h
    cases h with
    | rest _ => cases hop
    | @call _ _ _ w₁ _ w₂ _ _ _ hr ha h =>
        obtain ⟨next', h⟩ := h.tryCatch_call_inv fun _ => trivial
        obtain ⟨z, asgs, details, name, policyName, heq, hz, hseen, hdecides⟩ :=
          tryScale_policy_inv hK hop h
        have hsame : w₂.1 = w₁.1 := (hK.answers ha).1.1
        rw [hsame] at hz
        refine ⟨z, asgs, details, name, policyName, heq, (hK.rely hr).1.trans hz, ?_, hdecides⟩
        exact hseen.cons rfl
  obtain ⟨next', h⟩ := h.bind_call_left fun _ => trivial
  obtain ⟨event, hvalid, h⟩ := raise_bind_call_inv h
  split at h
  · obtain ⟨z, asgs, details, name, policyName, hrest⟩ := hscale h
    exact ⟨event, z, asgs, details, name, policyName, hvalid, hrest⟩
  split at h
  · obtain ⟨z, asgs, details, name, policyName, hrest⟩ := hscale h
    exact ⟨event, z, asgs, details, name, policyName, hvalid, hrest⟩
  split at h
  · cases (Exec.ret_inv h).2
  · cases (Exec.throw_inv h).2

end

end AutoRecycle.ScaleAsg
