/-
  AutoRecycle.ScaleAsg.OneEmpty

  How many ASGs of a component the in-out loop empties at a time.

  An invocation lists the ASGs once and then reads their activities one by one.
  As long as an ASG that is listed with its instance, but has been asked to give
  it up, is not yet done with that when its activity is read, the loop waits for
  it, and there is at most one such ASG.  When the scale-in ends between the two
  reads, the instance that is gone passes for an up-to-date one, and the next ASG
  is emptied.
-/
import AutoRecycle.ScaleAsg.Script

namespace AutoRecycle.ScaleAsg

open AutoRecycle.Asl AutoRecycle.Data AutoRecycle.Effect AutoRecycle.Py AutoRecycle.StateMachine

-- ============================================================================
-- The condition
-- ============================================================================

/-- At most one group of the component satisfies `p`. -/
def Cluster.AtMostOne (p : Group → Prop) (component : String) (c : Cluster) : Prop :=
  ∀ g ∈ c.groups, ∀ g' ∈ c.groups, OfComponent component g.name → OfComponent component g'.name →
    p g → p g' → g = g'

/-- The groups listed last have the ASG `name`, with an instance. -/
def ListedFull (calls : Trace Calls) (name : String) : Prop :=
  ∃ groups ∈ lastListing calls, ∃ asg ∈ groups, asg.autoScalingGroupName = name ∧ asg.instances ≠ []

/-- An ASG that has been asked to scale in, and was listed with its instance, is
    not read as finished and successful. -/
def Fresh (x : Watched) (op : Op) (r : op.Reply) : Prop :=
  ∀ read ∈ reading? ⟨op, r⟩, (∃ g ∈ x.1.groups, g.name = read.1 ∧ g.wanted = false) →
    ListedFull x.2 read.1 → ∃ activity ∈ read.2.head?,
      ¬ (activity.progress = some 100 ∧ activity.statusCode = some "Successful")

instance (calls : Trace Calls) (name : String) : Decidable (ListedFull calls name) :=
  inferInstanceAs (Decidable (∃ _ ∈ _, _))

instance (x : Watched) (op : Op) (r : op.Reply) : Decidable (Fresh x op r) :=
  inferInstanceAs (Decidable (∀ _ ∈ _, _))

-- ============================================================================
-- The invariant
-- ============================================================================

section
variable {edits : Prop} {component name policyName : String} {b : Bool} {c c' z : Cluster}
  {p q : Group → Prop} {g g' : Group} {x : Watched} {asgs : List AutoScalingGroup}
  {details : Dict Activity} {calls : Trace Calls} {y : Watched}

theorem Cluster.AtMostOne.mono (h : c.AtMostOne p component) (hpq : ∀ g, q g → p g) :
    c.AtMostOne q component :=
  fun g hg g' hg' hof hof' hq hq' => h g hg g' hg' hof hof' (hpq g hq) (hpq g' hq')

/-- A settled group stays settled. -/
theorem Cluster.AtMostOne.evolves (h : c.AtMostOne (fun g => ¬ g.Settled) component)
    (he : Cluster.Evolves edits c c') : c'.AtMostOne (fun g => ¬ g.Settled) component := by
  intro g hg g' hg' hof hof' hopen hopen'
  obtain ⟨g₁, hg₁, hpath⟩ := he.mem hg
  obtain ⟨g₂, hg₂, hpath'⟩ := he.mem hg'
  have hsame : g₁ = g₂ := by
    apply h g₁ hg₁ g₂ hg₂
    · exact hpath.name_eq ▸ hof
    · exact hpath'.name_eq ▸ hof'
    · exact fun hs => hopen (hs.evolves hpath)
    · exact fun hs => hopen' (hs.evolves hpath')
  apply Cluster.eq_of_name hg hg'
  rw [hpath.name_eq, hpath'.name_eq, hsame]

/-- A policy for the one group that need not be settled. -/
theorem Cluster.atMostOne_want
    (h : ∀ g ∈ c.groups, OfComponent component g.name → g.name ≠ name → g.Settled) :
    (c.want name b).AtMostOne (fun g => ¬ g.Settled) component := by
  have hnamed : ∀ g ∈ (c.want name b).groups, OfComponent component g.name → ¬ g.Settled →
      g.name = name := by
    intro g hg hof hopen
    obtain ⟨g₁, hg₁, ⟨hname, rfl⟩ | ⟨hname, rfl⟩⟩ := Cluster.mem_want hg
    · exact hname
    · exact absurd (h g hg₁ hof hname) hopen
  intro g hg g' hg' hof hof' hopen hopen'
  apply Cluster.eq_of_name hg hg'
  rw [hnamed g hg hof hopen, hnamed g' hg' hof' hopen']

/-- No ASG that is listed with its instance is on its way out. -/
theorem Seen.wanted_of_fresh (h : Seen edits Fresh component z asgs details calls y)
    (hg : g ∈ z.groups) (hlisted : g.listed ∈ asgs) (hfull : g.listed.instances ≠ []) :
    g.wanted = true := by
  obtain ⟨w, activity, rfl, hlast, -, hdone, hsuccessful, z', activities, -, hz, hsame, hfresh, hread,
    hmade, -⟩ := h.read _ hlisted
  obtain ⟨g₁, hg₁, hname₁, -⟩ := hread
  have hpath := hz.of_name hg hg₁ hname₁.symm
  cases hw : g.wanted with
  | true => rfl
  | false =>
      have hlistedFull : ListedFull z'.2 g.name := by
        refine ⟨w.1.groups.map Group.listed, hsame.trans hlast, g.listed, ?_, rfl, hfull⟩
        exact List.mem_map_of_mem hg
      obtain ⟨a, ha, hnot⟩ := hfresh (g.name, activities) rfl
        ⟨g₁, hg₁, hname₁, hpath.wanted_eq.trans hw⟩ hlistedFull
      rcases hmade with rfl | ⟨rfl, -⟩
      · cases ha
        exact absurd ⟨hdone, hsuccessful⟩ hnot
      · cases ha

/-- When a policy is executed, all groups of the component are settled but the one
    that is meant. -/
theorem Seen.others_settled (h : Seen edits Fresh component z asgs details calls y)
    (hsound : z.Sound component) (hz : z.AtMostOne (fun g => ¬ g.Settled) component)
    (hdecides : Decides edits z y.1 asgs details name policyName) :
    ∀ g ∈ y.1.groups, OfComponent component g.name → g.name ≠ name → g.Settled := by
  intro g' hg' hof hne
  obtain ⟨g, hg, hpath⟩ := h.later.mem hg'
  rw [hpath.name_eq] at hof hne
  have hlisted : g.listed ∈ asgs := (mem_matchAsgs h.listed _).mpr ⟨List.mem_map_of_mem hg, hof⟩
  cases hdecides with
  | scaleIn hmem hfull =>
      have hnode := hfull _ hlisted
      have hw := h.wanted_of_fresh hg hlisted hnode
      exact h.settled hsound hg hlisted hw (node_isSome_of_listed hnode) hg' hpath.name_eq.symm
  | @scaleOut asg hmem hempty =>
      -- the empty one is not settled, so every other one was
      obtain ⟨target, htarget, rfl, hof'⟩ := h.exists_group hmem
      have hopen : ¬ target.Settled := by
        intro hsettled
        have hnode := hsettled.2.1
        rw [node_none_of_listed hempty] at hnode
        cases hnode
      by_cases hsettled : g.Settled
      · exact hsettled.evolves hpath
      · exact absurd (congrArg Group.name (hz g hg target htarget hof hof' hsettled hopen)) hne

theorem branch_atMostOne (edits : Prop) (component : String) :
    Branch ((Setting.recording (aws edits)).restrict Fresh) component fun x =>
      x.1.Sound component ∧ x.1.AtMostOne (fun g => ¬ g.Settled) component where
  rely := fun h hr => ⟨h.1.evolves hr.1, h.2.evolves hr.1⟩
  call := by
    intro x op r y hop h ha
    have hsame : y.1 = x.1 := Cluster.answers_eq ha.1.1 hop
    rw [hsame]
    exact h
  policy := by
    intro data x₀ calls op next x r y hop hnames hx₀ hx hworld ha
    obtain ⟨event, z, asgs, details, name, policyName, hvalid, rfl, hz, hseen, hdecides⟩ :=
      policy_inv (Setting.restrict_narrows _ _) hop hx
    obtain rfl := hnames event hvalid
    have hsound := hx₀.1.evolves hz
    rcases ha.1.1 with happlied | ⟨hsame, -⟩
    · refine ⟨hseen.sound_applied hsound hdecides happlied, ?_⟩
      have hothers := hseen.others_settled hsound (hx₀.2.evolves hz) hdecides
      rcases happlied with ⟨-, hy⟩ | ⟨-, hy⟩
      · rw [hy]
        exact Cluster.atMostOne_want hothers
      · rw [hy]
        exact Cluster.atMostOne_want hothers
    · rw [hsame]
      exact hworld

end

-- ============================================================================
-- The runs
-- ============================================================================

/-- In every run of the in-out branch from a payload whose ASGs are all in
    service, as long as no ASG that has been asked to scale in is listed with its
    instance and then read as finished and successful, at most one ASG of the
    component is without an instance in service at any time. -/
theorem atMostOne_without_instance (tf : TfVars) (faults : TaskError → Prop) (edits : Prop)
    (payload : Json) (event : Event) (hstrategy : payload.get? ["strategy"] = some (.str "in-out"))
    (hvalid : Event.modelValidate payload = .ok event) (c : Cluster)
    (hstart : ∀ g ∈ c.groups, OfComponent event.component g.name → g.Settled)
    (l : Live Calls State Resource) (x : Watched)
    (h : Live.Reaches (autoRecycle tf) (lambdas faults) ((Setting.recording (aws edits)).restrict Fresh)
      (.idle (.at startAt payload 0), (c, [])) (l, x)) :
    x.1.AtMostOne (fun g => ¬ g.InService) event.component := by
  have hin : InBranch event.component (.at startAt payload 0) := ⟨hstrategy, names_of_valid hvalid⟩
  have hsound : c.Sound event.component := fun g hg hof => .of_steady (hstart g hg hof).2.2
  have hnone : c.AtMostOne (fun g => ¬ g.Settled) event.component :=
    fun g hg g' _ hof _ hopen _ => absurd (hstart g hg hof) hopen
  have hend := (branch_atMostOne edits event.component).always (Setting.restrict_narrows _ _) hin
    ⟨hsound, hnone⟩ h
  exact hend.2.mono fun g hnot hsettled => hnot hsettled.2

/-- The scale-in of the first ASG starts after the first invocation.  With
    `stale`, it ends between the listing of the second invocation and the read of
    its activities, else before the third listing. -/
def emptying (stale : Bool) (calls : Trace Calls) (op : Op) : Option (Nat × List String) :=
  match op, calls.countP fun ev => isListing ev.1 with
  | .invoke .., 1 => some (1, ["web-asg-a"])
  | .describeAutoScalingGroups, 1 => some (60, [])
  | .describeScalingActivities "web-asg-a", 2 => some (1, if stale then ["web-asg-a"] else [])
  | .describeAutoScalingGroups, 2 => if stale then none else some (60, ["web-asg-a"])
  | .describeAutoScalingGroups, 3 => none
  | _, _ => some (0, [])

/-- While the first ASG is asked for its instance again, the other one is in
    service. -/
theorem atMostOne_without_instance_emptying :
    (∃ g ∈ (twoGroupsRun (script Fresh (emptying false))).2.1.groups, ¬ g.InService) ∧
      (twoGroupsRun (script Fresh (emptying false))).2.1.AtMostOne (fun g => ¬ g.InService) "web" :=
  ⟨by decide +kernel,
    atMostOne_without_instance ⟨"", "", "", "", "", "", ""⟩ (fun _ => False) False freshPayload
      { component := "web", successChannel := "team-web" } (by simp [freshPayload, Dict.get?])
      modelValidate_freshPayload twoGroups (by decide +kernel) _ _
      (@reaches_restricted Fresh _ (emptying false))⟩

/-- Two ASGs in service, and a run in which both come to be without an instance in
    service. -/
theorem two_without_instance :
    (∀ g ∈ twoGroups.groups, OfComponent "web" g.name ∧ g.Settled ∧
      ∀ a ∈ g.last, a.progress = some 100 ∧ a.statusCode = some "Successful") ∧
    ∃ l x, Live.Reaches (autoRecycle ⟨"", "", "", "", "", "", ""⟩) (lambdas fun _ => False)
        (Setting.recording (aws False)) (.idle (.at startAt freshPayload 0), (twoGroups, [])) (l, x) ∧
      ¬ x.1.AtMostOne (fun g => ¬ g.InService) "web" := by
  refine ⟨by decide +kernel, ?_⟩
  have hreaches := @reaches_script (fun _ _ _ => True) _ (emptying true)
  -- the scale-in of the other one starts as well
  generalize hrun : twoGroupsRun (script (fun _ _ _ => True) (emptying true)) = run at hreaches
  refine ⟨run.1, (run.2.1.pass 1 ["web-asg-b"], run.2.2),
    hreaches.tail (.drift ⟨Cluster.evolves_pass _ _ _, rfl⟩), fun hone => ?_⟩
  have hboth : (run.2.1.pass 1 ["web-asg-b"]).groups.map (fun g => (g.name, decide g.InService)) =
      [("web-asg-a", false), ("web-asg-b", false)] := by
    rw [← hrun]
    decide +kernel
  have hempty : ∀ name ∈ ["web-asg-a", "web-asg-b"],
      ∃ g ∈ (run.2.1.pass 1 ["web-asg-b"]).groups, g.name = name ∧ ¬ g.InService := by
    intro name hname
    have hmem : (name, false) ∈
        (run.2.1.pass 1 ["web-asg-b"]).groups.map fun g => (g.name, decide g.InService) := by
      rw [hboth]
      simpa using hname
    obtain ⟨g, hg, heq⟩ := List.mem_map.mp hmem
    rw [Prod.mk.injEq, decide_eq_false_iff_not] at heq
    exact ⟨g, hg, heq.1, heq.2⟩
  obtain ⟨g, hg, hname, hnot⟩ := hempty "web-asg-a" (by simp)
  obtain ⟨g', hg', hname', hnot'⟩ := hempty "web-asg-b" (by simp)
  have hsame := hone g hg g' hg' (hname ▸ by decide +kernel) (hname' ▸ by decide +kernel) hnot hnot'
  rw [hsame, hname'] at hname
  exact absurd hname (by decide)

end AutoRecycle.ScaleAsg
