/-
  AutoRecycle.ScaleAsg.ScaledOnce

  When the in-out loop scales an ASG in again.

  An instance counts as recycled while it has the version of its ASG and the last
  activity of the ASG ended less than ten minutes ago.  A group that the run has
  scaled out keeps such an instance, and the end of its activity with it
  (`Group.Tracked`); so the run leaves it alone for these ten minutes, but not
  longer: the other ASGs may take their time.
-/
import AutoRecycle.ScaleAsg.Script

namespace AutoRecycle.ScaleAsg

open AutoRecycle.Asl AutoRecycle.Data AutoRecycle.Effect AutoRecycle.Py AutoRecycle.StateMachine

-- ============================================================================
-- The policies of a run
-- ============================================================================

/-- The ASG and the policy of a call, and whether it was successful. -/
def policy? : Effect.Event Calls → Option (String × String × Bool)
  | ⟨.executePolicy name policyName, .ok _⟩ => some (name, policyName, true)
  | ⟨.executePolicy name policyName, .error _⟩ => some (name, policyName, false)
  | _ => none

/-- The policies that were executed, in their order. -/
def policies (calls : Trace Calls) : List (String × String × Bool) := calls.filterMap policy?

theorem policies_append (calls calls' : Trace Calls) :
    policies (calls ++ calls') = policies calls ++ policies calls' := List.filterMap_append

theorem policies_eq_nil {calls : Trace Calls} (h : ∀ ev ∈ calls, isPolicy ev.1 = false) :
    policies calls = [] := by
  refine List.filterMap_eq_nil_iff.mpr fun ev hev => ?_
  have hop := h ev hev
  obtain ⟨op, r⟩ := ev
  cases op with
  | executePolicy name policyName => cases hop
  | _ => rfl

-- ============================================================================
-- One group
-- ============================================================================

namespace Group

/-- The latest activity has a time at which it ended, if it has ended. -/
def Timed (g : Group) : Prop := ∃ a, g.last = some a ∧ (a.progress = some 100 → a.endTime.isSome = true)

/-- An instance of the group has its launch template, and a known activity. -/
structure Tracked (g : Group) : Prop where
  template : ∀ i, g.node = some i → i.launchTemplate = g.launchTemplate
  timed : g.phase = .steady ∧ g.node = none ∨ g.Timed

section
variable {t t' : Micros} {g g' : Group}

theorem Timed.of_done {a : Activity} {status : String} (h : g.last = some a) (ha : Activity.Done a t status) :
    g.Timed :=
  ⟨a, h, fun _ => by rw [ha.2.2]; rfl⟩

theorem Timed.of_unfinished (h : g.Unfinished) : g.Timed := by
  obtain ⟨a, hlast, ha⟩ := h
  exact ⟨a, hlast, fun hdone => absurd hdone ha⟩

theorem Timed.progress (h : g.Timed) (hp : Progress False t g g') : g'.Timed := by
  cases hp with
  | startIn hp hw hn ha => exact .of_unfinished ⟨_, rfl, ha⟩
  | finishIn hp ha => exact .of_done rfl ha
  | failIn hp ha hs => exact .of_done rfl ha
  | startOut hp hw hn ha => exact .of_unfinished ⟨_, rfl, ha⟩
  | appear hp hn hi => exact h
  | finishOut hp hn ha => exact .of_done rfl ha
  | failOut hp ha hs => exact .of_done rfl ha
  | report hp ha => exact .of_unfinished ⟨_, rfl, ha⟩
  | edit he => exact he.elim

theorem Tracked.progress (h : g.Tracked) (hp : Progress False t g g') : g'.Tracked := by
  cases hp with
  | startIn hp hw hn ha => exact ⟨h.template, .inr (.of_unfinished ⟨_, rfl, ha⟩)⟩
  | finishIn hp ha => exact ⟨fun i hi => (nomatch hi), .inr (.of_done rfl ha)⟩
  | failIn hp ha hs => exact ⟨h.template, .inr (.of_done rfl ha)⟩
  | startOut hp hw hn ha => exact ⟨h.template, .inr (.of_unfinished ⟨_, rfl, ha⟩)⟩
  | appear hp hn hi =>
      refine ⟨fun i hnode => ?_, .inr (h.timed.resolve_left fun hidle => ?_)⟩
      · cases hnode
        exact hi
      · cases hp.symm.trans hidle.1
  | finishOut hp hn ha => exact ⟨h.template, .inr (.of_done rfl ha)⟩
  | failOut hp ha hs => exact ⟨fun i hi => (nomatch hi), .inr (.of_done rfl ha)⟩
  | report hp ha => exact ⟨h.template, .inr (.of_unfinished ⟨_, rfl, ha⟩)⟩
  | edit he => exact he.elim

/-- A group without an instance is as good as tracked. -/
theorem Sound.tracked (h : g.Sound) (hn : g.node = none) : g.Tracked where
  template := fun i hi => by rw [hn] at hi; cases hi
  timed := by
    cases hphase : g.phase with
    | steady => exact .inl ⟨rfl, hn⟩
    | launching => exact .inr (.of_unfinished (h.coming hphase).2)
    | terminating =>
        have hnode := (h.leaving hphase).2
        rw [hn] at hnode
        cases hnode

theorem Tracked.timed_of_node (h : g.Tracked) (hn : g.node.isSome = true) : g.Timed := by
  rcases h.timed with ⟨-, hnone⟩ | htimed
  · rw [hnone] at hn
    cases hn
  · exact htimed

end

end Group

-- ============================================================================
-- The invariant
-- ============================================================================

/-- The groups of the component are sound and have launch templates, and those
    that the run has scaled out are tracked. -/
structure Tracks (component : String) (x : Watched) : Prop where
  sound : x.1.Sound component
  templates : ∀ g ∈ x.1.groups, OfComponent component g.name → g.launchTemplate.isSome = true
  tracked : ∀ g ∈ x.1.groups, OfComponent component g.name →
    (g.name, "recycle-scale-out", true) ∈ policies x.2 → g.Tracked

section
variable {P : Watched → (op : Op) → op.Reply → Prop} {component name policyName : String} {x y : Watched}
  {z c : Cluster} {asgs : List AutoScalingGroup} {details : Dict Activity} {calls : Trace Calls} {g g' : Group}

theorem Tracks.evolves (h : Tracks component x) (he : Cluster.Evolves False x.1 y.1)
    (hsame : policies y.2 = policies x.2) : Tracks component y where
  sound := h.sound.evolves he
  templates := by
    intro g' hg' hof
    obtain ⟨g, hg, hpath⟩ := he.mem hg'
    rw [hpath.launchTemplate_eq]
    exact h.templates g hg (hpath.name_eq ▸ hof)
  tracked := by
    intro g' hg' hof hout
    obtain ⟨g, hg, hpath⟩ := he.mem hg'
    rw [hsame, hpath.name_eq] at hout
    have htracked := h.tracked g hg (hpath.name_eq ▸ hof) hout
    exact hpath.keeps (fun hg hp => Group.Tracked.progress hg hp) htracked

/-- A call changes at most what is asked of the groups, and scales out only a
    group that is tracked. -/
theorem Tracks.call (h : Tracks component x) (hsound : y.1.Sound component)
    (hgroups : ∀ g' ∈ y.1.groups, ∃ g ∈ x.1.groups, ∃ b, g' = { g with wanted := b })
    (hnew : ∀ g ∈ x.1.groups, OfComponent component g.name →
      (g.name, "recycle-scale-out", true) ∈ policies y.2 →
      (g.name, "recycle-scale-out", true) ∈ policies x.2 ∨ g.Tracked) : Tracks component y where
  sound := hsound
  templates := by
    intro g' hg' hof
    obtain ⟨g, hg, b, rfl⟩ := hgroups g' hg'
    exact h.templates g hg hof
  tracked := by
    intro g' hg' hof hout
    obtain ⟨g, hg, b, rfl⟩ := hgroups g' hg'
    have htracked : g.Tracked := (hnew g hg hof hout).elim (h.tracked g hg hof) id
    exact ⟨htracked.template, htracked.timed⟩

end

-- ============================================================================
-- The runs
-- ============================================================================

/-- An instance of the ASG's own template is out of date only by its age. -/
theorem not_endedAfter {asg : AutoScalingGroup} {recent : Bool}
    (htemplate : asg.launchTemplate.isSome = true)
    (hinstances : ∀ i ∈ asg.instances, i.launchTemplate = asg.launchTemplate)
    (hold : asg.instances.all (upToDate asg recent) = false) : recent = false := by
  rw [List.all_eq_false] at hold
  obtain ⟨i, hi, hnot⟩ := hold
  obtain ⟨template, hsome⟩ := Option.isSome_iff_exists.mp htemplate
  rw [upToDate, hinstances i hi, hsome] at hnot
  simpa [getLaunchTemplateVersion] using hnot

/-- The invocation that scales an ASG in again. -/
theorem Tracks.again {component name : String} {input : Json} {x₀ x : Watched} {calls : Trace Calls}
    {next : Except PyExc Unit → Py Json} (hx₀ : Tracks component x₀) (hnames : Names component input)
    (hx : Exec (Setting.recording (aws False)) (lambdaHandler input) x₀ calls
      (.call (.executePolicy name "recycle-scale-in") next) x)
    (hout : (name, "recycle-scale-out", true) ∈ policies x.2) :
    ∃ activity endTime, ⟨.describeScalingActivities name, .ok [activity]⟩ ∈ calls ∧
      activity.endTime = some endTime ∧ endTime + minutes 10 ≤ x.1.clock := by
  obtain ⟨event, z, asgs, details, name', policyName, hvalid, heq, hz, hseen, hdecides⟩ :=
    policy_inv (Setting.narrows_refl _) rfl hx
  rw [hnames event hvalid] at hseen
  obtain ⟨hname, hpolicy⟩ := Op.executePolicy.inj heq
  rw [(Exec.recording_iff.mp hx).2, policies_append, policies_eq_nil hseen.quiet, List.append_nil] at hout
  have hlisted : Tracks component (z, x₀.2) := hx₀.evolves hz rfl
  cases hdecides with
  | scaleOut => exact absurd hpolicy (by decide)
  | @scaleIn asg activity now hmem hfull hget hfrom hto hold =>
      obtain ⟨g, hg, rfl, hof⟩ := hseen.exists_group hmem
      obtain rfl : name = g.name := hname
      have htracked := hlisted.tracked g hg hof hout
      have htimed := htracked.timed_of_node (node_isSome_of_listed (hfull _ hmem))
      -- the activity that was read is one of a tracked group
      obtain ⟨w, activity', rfl, -, hget', hdone, -, z', activities, hcall, hz', -, -, hread, hmade, -⟩ :=
        hseen.read _ hmem
      cases hget.symm.trans hget'
      obtain ⟨g₁, hg₁, hname₁, hactivities⟩ := hread
      obtain ⟨a, hlast, ha⟩ : g₁.Timed :=
        (hz'.of_name hg hg₁ hname₁.symm).keeps (fun hg hp => Group.Timed.progress hg hp) htimed
      rw [hlast, Option.toList_some] at hactivities
      rcases hmade with hmade | ⟨hmade, -⟩
      · cases hactivities.symm.trans hmade
        obtain ⟨endTime, hend⟩ := Option.isSome_iff_exists.mp (ha hdone)
        refine ⟨activity, endTime, hmade ▸ hcall, hend, ?_⟩
        have hinstances : ∀ i ∈ g.listed.instances, i.launchTemplate = g.launchTemplate :=
          fun i hi => htracked.template i (Option.mem_toList.mp hi)
        have hage := not_endedAfter (hlisted.templates g hg hof) hinstances hold
        rw [endedAfter, hend] at hage
        have hnow := hto.1
        simp only [lcAge, gt_iff_lt, decide_eq_false_iff_not] at hage
        have hago := Int.add_le_of_le_sub_right (Int.not_lt.mp hage)
        exact Int.le_trans hago hnow
      · cases hactivities.symm.trans hmade

end AutoRecycle.ScaleAsg
