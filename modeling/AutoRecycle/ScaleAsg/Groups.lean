/-
  AutoRecycle.ScaleAsg.Groups

  Auto Scaling groups of one instance as the scale-ASG lambda meets them.

  A scaling policy only sets what is wanted of a group.  AWS then starts a
  scaling activity, and finishes it or gives it up, at any time, also between two
  reads of one invocation; the groups progress independently of each other.
  Nothing but the policies of the lambda changes what is wanted.
-/
import AutoRecycle.Runs
import AutoRecycle.ScaleAsg.Autoscaling
import Mathlib.Data.List.Nodup

namespace AutoRecycle.ScaleAsg

open AutoRecycle.Effect AutoRecycle.Py

-- ============================================================================
-- One group
-- ============================================================================

/-- The activity that AWS has under way. -/
inductive Phase where
  | steady
  | terminating
  | launching
  deriving DecidableEq

structure Group where
  name : String
  launchTemplate : Option LaunchTemplateSpecification
  /-- The desired capacity is one. -/
  wanted : Bool
  /-- The instance that the group lists, in whatever state. -/
  node : Option AsgInstance
  phase : Phase
  /-- The record of the latest activity. -/
  last : Option Activity
  /-- A launch has finished successfully since the run began. -/
  renewed : Bool

/-- The record of an activity that has ended at `t`. -/
def Activity.Done (a : Activity) (t : Micros) (statusCode : String) : Prop :=
  a.progress = some 100 ∧ a.statusCode = some statusCode ∧ a.endTime = some t

namespace Group

/-- The group as `describe_auto_scaling_groups` returns it. -/
def listed (g : Group) : AutoScalingGroup where
  autoScalingGroupName := g.name
  instances := g.node.toList
  launchTemplate := g.launchTemplate

def InService (g : Group) : Prop := g.node.isSome = true ∧ g.phase = .steady

/-- In service, and not asked to scale in. -/
def Settled (g : Group) : Prop := g.wanted = true ∧ g.InService

instance (g : Group) : Decidable g.InService := inferInstanceAs (Decidable (_ ∧ _))
instance (g : Group) : Decidable g.Settled := inferInstanceAs (Decidable (_ ∧ _))

/-- What AWS does with a group at the time `t`.  `edits` says whether the launch
    template of the group may be changed meanwhile. -/
inductive Progress (edits : Prop) (t : Micros) : Group → Group → Prop where
  | startIn {g a} (hp : g.phase = .steady) (hw : g.wanted = false) (hn : g.node.isSome = true)
      (ha : a.progress ≠ some 100) :
      Progress edits t g { g with phase := .terminating, last := some a }
  | finishIn {g a} (hp : g.phase = .terminating) (ha : Activity.Done a t "Successful") :
      Progress edits t g { g with phase := .steady, last := some a, node := none }
  | failIn {g a status} (hp : g.phase = .terminating) (ha : Activity.Done a t status)
      (hs : status ≠ "Successful") :
      Progress edits t g { g with phase := .steady, last := some a }
  | startOut {g a} (hp : g.phase = .steady) (hw : g.wanted = true) (hn : g.node = none)
      (ha : a.progress ≠ some 100) :
      Progress edits t g { g with phase := .launching, last := some a }
  /-- The new instance is listed before it is in service. -/
  | appear {g i} (hp : g.phase = .launching) (hn : g.node = none)
      (hi : i.launchTemplate = g.launchTemplate) :
      Progress edits t g { g with node := some i }
  | finishOut {g a} (hp : g.phase = .launching) (hn : g.node.isSome = true)
      (ha : Activity.Done a t "Successful") :
      Progress edits t g { g with phase := .steady, last := some a, renewed := true }
  | failOut {g a status} (hp : g.phase = .launching) (ha : Activity.Done a t status)
      (hs : status ≠ "Successful") :
      Progress edits t g { g with phase := .steady, last := some a, node := none }
  | report {g a} (hp : g.phase ≠ .steady) (ha : a.progress ≠ some 100) :
      Progress edits t g { g with last := some a }
  | edit {g} (he : edits) (launchTemplate : Option LaunchTemplateSpecification) :
      Progress edits t g { g with launchTemplate := launchTemplate }

/-- Any progress between the times `t` and `t'`. -/
inductive Evolves (edits : Prop) : Micros → Micros → Group → Group → Prop where
  | refl {t t' g} (ht : t ≤ t') : Evolves edits t t' g g
  | step {t t₁ t' g g₁ g'} (ht : t ≤ t₁) (hp : Progress edits t₁ g g₁)
      (h : Evolves edits t₁ t' g₁ g') : Evolves edits t t' g g'

variable {edits : Prop} {t t₁ t' : Micros} {g g₁ g' : Group}

namespace Evolves

theorem of_le (ht : t ≤ t₁) (h : Evolves edits t₁ t' g g') : Evolves edits t t' g g' := by
  cases h with
  | refl ht' => exact refl (Int.le_trans ht ht')
  | step ht' hp h => exact step (Int.le_trans ht ht') hp h

theorem trans (h₁ : Evolves edits t t₁ g g₁) (h₂ : Evolves edits t₁ t' g₁ g') :
    Evolves edits t t' g g' := by
  induction h₁ with
  | refl ht => exact of_le ht h₂
  | step ht hp _ ih => exact step ht hp (ih h₂)

/-- What every progress keeps. -/
theorem keeps {P : Group → Prop} (hstep : ∀ {t g g'}, P g → Progress edits t g g' → P g')
    (h : Evolves edits t t' g g') (hg : P g) : P g' := by
  induction h with
  | refl _ => exact hg
  | step _ hp _ ih => exact ih (hstep hg hp)

theorem name_eq (h : Evolves edits t t' g g') : g'.name = g.name := by
  induction h with
  | refl _ => rfl
  | step _ hp _ ih =>
      rw [ih]
      cases hp <;> rfl

theorem wanted_eq (h : Evolves edits t t' g g') : g'.wanted = g.wanted := by
  induction h with
  | refl _ => rfl
  | step _ hp _ ih =>
      rw [ih]
      cases hp <;> rfl

end Evolves

/-- AWS does nothing with a group that is as it is wanted. -/
theorem Settled.progress (h : g.Settled) (hp : Progress edits t g g') :
    edits ∧ ∃ launchTemplate, g' = { g with launchTemplate := launchTemplate } := by
  obtain ⟨hw, hn, hsteady⟩ := h
  cases hp with
  | edit he launchTemplate => exact ⟨he, launchTemplate, rfl⟩
  | startIn _ hw' => rw [hw] at hw'; cases hw'
  | startOut _ _ hn' => rw [hn'] at hn; cases hn
  | finishIn hp => rw [hsteady] at hp; cases hp
  | failIn hp => rw [hsteady] at hp; cases hp
  | appear hp => rw [hsteady] at hp; cases hp
  | finishOut hp => rw [hsteady] at hp; cases hp
  | failOut hp => rw [hsteady] at hp; cases hp
  | report hp => exact absurd hsteady hp

theorem Settled.evolves (h : g.Settled) (he : Evolves edits t t' g g') : g'.Settled := by
  refine he.keeps ?_ h
  intro t g g' hg hp
  obtain ⟨-, lt, rfl⟩ := hg.progress hp
  exact hg

theorem Evolves.launchTemplate_eq (h : Evolves False t t' g g') :
    g'.launchTemplate = g.launchTemplate := by
  induction h with
  | refl _ => rfl
  | step _ hp _ ih =>
      rw [ih]
      cases hp with
      | edit he => exact he.elim
      | _ => rfl

end Group

-- ============================================================================
-- The groups
-- ============================================================================

/-- The groups of the account, whose names are unique, and the clock. -/
structure Cluster where
  clock : Micros
  groups : List Group
  nodup : (groups.map Group.name).Nodup

namespace Cluster

variable {edits : Prop} {c c₁ c' : Cluster} {g g' : Group}

theorem eq_of_name (hg : g ∈ c.groups) (hg' : g' ∈ c.groups) (h : g.name = g'.name) : g = g' :=
  List.inj_on_of_nodup_map c.nodup hg hg' h

/-- Change the groups one by one, under their names. -/
def mapGroups (c : Cluster) (clock : Micros) (f : Group → Group) (hf : ∀ g, (f g).name = g.name) :
    Cluster where
  clock := clock
  groups := c.groups.map f
  nodup := by
    have hnames : (c.groups.map f).map Group.name = c.groups.map Group.name := by
      rw [List.map_map]
      exact List.map_congr_left fun g _ => hf g
    rw [hnames]
    exact c.nodup

/-- The group `name` is asked to have an instance, or to have none. -/
def want (c : Cluster) (name : String) (b : Bool) : Cluster :=
  c.mapGroups c.clock (fun g => if g.name = name then { g with wanted := b } else g)
    fun g => by by_cases h : g.name = name <;> simp [h]

/-- A group after `want` is one from before, with the new wish if it is the group
    that is meant. -/
theorem mem_want {name : String} {b : Bool} (h : g' ∈ (c.want name b).groups) :
    ∃ g ∈ c.groups, (g.name = name ∧ g' = { g with wanted := b }) ∨ (g.name ≠ name ∧ g' = g) := by
  obtain ⟨g, hg, rfl⟩ := List.mem_map.mp h
  refine ⟨g, hg, ?_⟩
  by_cases hname : g.name = name
  · exact .inl ⟨hname, if_pos hname⟩
  · exact .inr ⟨hname, if_neg hname⟩

/-- Time passes, and AWS goes on with the groups. -/
def Evolves (edits : Prop) (c c' : Cluster) : Prop :=
  c.clock ≤ c'.clock ∧
    List.Forall₂ (fun g g' => Group.Evolves edits c.clock c'.clock g g') c.groups c'.groups

namespace Evolves

theorem refl (c : Cluster) : Evolves edits c c :=
  ⟨Int.le_refl _, List.forall₂_same.mpr fun _ _ => .refl (Int.le_refl _)⟩

theorem trans (h₁ : Evolves edits c c₁) (h₂ : Evolves edits c₁ c') : Evolves edits c c' := by
  refine ⟨Int.le_trans h₁.1 h₂.1, ?_⟩
  have hcompose : ∀ {gs gs₁ gs' : List Group},
      List.Forall₂ (fun g g' => Group.Evolves edits c.clock c₁.clock g g') gs gs₁ →
      List.Forall₂ (fun g g' => Group.Evolves edits c₁.clock c'.clock g g') gs₁ gs' →
      List.Forall₂ (fun g g' => Group.Evolves edits c.clock c'.clock g g') gs gs' := by
    intro gs gs₁ gs' hgs hgs'
    induction hgs generalizing gs' with
    | nil =>
        cases hgs'
        exact .nil
    | cons h _ ih =>
        cases hgs' with
        | cons h' hrest => exact .cons (h.trans h') (ih hrest)
  exact hcompose h₁.2 h₂.2

/-- Each group was there before. -/
theorem mem (h : Evolves edits c c') (hg' : g' ∈ c'.groups) :
    ∃ g ∈ c.groups, Group.Evolves edits c.clock c'.clock g g' :=
  exists_of_forall₂ h.2.flip hg'

/-- A group and what has become of it. -/
theorem of_name (h : Evolves edits c c') (hg : g ∈ c.groups) (hg' : g' ∈ c'.groups)
    (hname : g.name = g'.name) : Group.Evolves edits c.clock c'.clock g g' := by
  obtain ⟨g₁, hg₁, hpath⟩ := h.mem hg'
  obtain rfl : g₁ = g := eq_of_name hg₁ hg (hpath.name_eq.symm.trans hname.symm)
  exact hpath

end Evolves

theorem evolves_mapGroups {clock : Micros} {f : Group → Group} {hf : ∀ g, (f g).name = g.name}
    (hclock : c.clock ≤ clock) (h : ∀ g, Group.Evolves edits c.clock clock g (f g)) :
    Evolves edits c (c.mapGroups clock f hf) := by
  refine ⟨hclock, ?_⟩
  show List.Forall₂ _ c.groups (c.groups.map f)
  rw [List.forall₂_map_right_iff]
  exact List.forall₂_same.mpr fun g _ => h g

-- ============================================================================
-- The calls
-- ============================================================================

/-- The policy `recycle-scale-in` or `recycle-scale-out` has been applied. -/
def Applied (c : Cluster) (name policyName : String) (c' : Cluster) : Prop :=
  (policyName = "recycle-scale-in" ∧ c' = c.want name false) ∨
    (policyName = "recycle-scale-out" ∧ c' = c.want name true)

/-- How AWS answers.  Any request can fail, and a policy whose request fails may
    have been applied all the same.  The Slack lambda returns its input. -/
def Answers (c : Cluster) : (op : Op) → op.Reply → Cluster → Prop
  | .now, t, c' => t = c.clock ∧ c' = c
  | .describeAutoScalingGroups, r, c' =>
      c' = c ∧ ∀ pages, r = .ok pages → pages.flatten = c.groups.map Group.listed
  | .describeScalingActivities name, r, c' =>
      c' = c ∧ ∀ activities, r = .ok activities →
        ∃ g ∈ c.groups, g.name = name ∧ activities = g.last.toList
  | .executePolicy name policyName, r, c' =>
      c.Applied name policyName c' ∨ c' = c ∧ r ≠ .ok ()
  | .invoke _ input, r, c' => c' = c ∧ ∀ out, r = .ok out → out = input
  | _, _, c' => c' = c

end Cluster

/-- AWS with its Auto Scaling groups. -/
def aws (edits : Prop) : Setting Calls Cluster where
  answers := Cluster.Answers
  rely := Cluster.Evolves edits
  rely_refl := Cluster.Evolves.refl
  rely_trans := Cluster.Evolves.trans

end AutoRecycle.ScaleAsg
