/-
  AutoRecycle.ScaleAsg.Sound

  The groups of a run whose policies are the only ones.

  A group terminates its instance only when it is asked to have none, and
  launches one only when it is asked to (`Group.Sound`).  So a group that is
  asked to have an instance, was listed with one, and whose activity is then read
  as finished and successful has that instance in service and stays as it is
  (`Seen.settled`).
-/
import AutoRecycle.ScaleAsg.Branch

namespace AutoRecycle.ScaleAsg

open AutoRecycle.Asl AutoRecycle.Data AutoRecycle.Effect AutoRecycle.Py

-- ============================================================================
-- One group
-- ============================================================================

namespace Group

/-- The latest activity has not ended. -/
def Unfinished (g : Group) : Prop := ∃ a, g.last = some a ∧ a.progress ≠ some 100

/-- The latest activity was not successful. -/
def Unsuccessful (g : Group) : Prop := ∃ a, g.last = some a ∧ a.statusCode ≠ some "Successful"

/-- AWS is only at what the group is asked for. -/
structure Sound (g : Group) : Prop where
  leaving : g.phase = .terminating → g.wanted = false ∧ g.node.isSome = true
  coming : g.phase = .launching → g.wanted = true ∧ g.Unfinished

section
variable {edits : Prop} {t t' : Micros} {g g' : Group}

theorem Sound.of_steady (h : g.phase = .steady) : g.Sound where
  leaving := fun h' => by cases h.symm.trans h'
  coming := fun h' => by cases h.symm.trans h'

theorem Sound.progress (h : g.Sound) (hp : Progress edits t g g') : g'.Sound := by
  cases hp with
  | startIn hp hw hn ha => exact ⟨fun _ => ⟨hw, hn⟩, fun h => (nomatch h)⟩
  | finishIn hp ha => exact .of_steady rfl
  | failIn hp ha hs => exact .of_steady rfl
  | startOut hp hw hn ha => exact ⟨fun h => (nomatch h), fun _ => ⟨hw, _, rfl, ha⟩⟩
  | appear hp hn hi => exact ⟨fun h' => (nomatch hp.symm.trans h'), h.coming⟩
  | finishOut hp hn ha => exact .of_steady rfl
  | failOut hp ha hs => exact .of_steady rfl
  | report hp ha => exact ⟨h.leaving, fun h' => ⟨(h.coming h').1, _, rfl, ha⟩⟩
  | edit he launchTemplate => exact ⟨h.leaving, h.coming⟩

theorem Sound.evolves (h : g.Sound) (he : Evolves edits t t' g g') : g'.Sound :=
  he.keeps (fun hg hp => Sound.progress hg hp) h

/-- A group that has no instance does not come to terminate one. -/
theorem Sound.not_terminating (h : g.Sound) (hn : g.node = none) (he : Evolves edits t t' g g') :
    g'.phase ≠ .terminating := by
  cases hw : g.wanted with
  | true =>
      intro hphase
      have hleaving := ((h.evolves he).leaving hphase).1
      rw [he.wanted_eq, hw] at hleaving
      cases hleaving
  | false =>
      have hsteady : g.phase = .steady := by
        cases hphase : g.phase with
        | steady => rfl
        | terminating =>
            have hnode := (h.leaving hphase).2
            rw [hn] at hnode
            cases hnode
        | launching =>
            have hwanted := (h.coming hphase).1
            rw [hw] at hwanted
            cases hwanted
      -- nothing is asked of the group, and it has nothing to lose
      have hidle : g'.wanted = false ∧ g'.phase = .steady ∧ g'.node = none := by
        refine he.keeps (P := fun g => g.wanted = false ∧ g.phase = .steady ∧ g.node = none) ?_
          ⟨hw, hsteady, hn⟩
        rintro t g g' ⟨hw, hsteady, hn⟩ hp
        cases hp with
        | startIn _ _ hn' => rw [hn] at hn'; cases hn'
        | startOut _ hw' => rw [hw] at hw'; cases hw'
        | edit he launchTemplate => exact ⟨hw, hsteady, hn⟩
        | finishIn hp => rw [hsteady] at hp; cases hp
        | failIn hp => rw [hsteady] at hp; cases hp
        | appear hp => rw [hsteady] at hp; cases hp
        | finishOut hp => rw [hsteady] at hp; cases hp
        | failOut hp => rw [hsteady] at hp; cases hp
        | report hp => exact absurd hsteady hp
      rw [hidle.2.1]
      decide

/-- The group has its instance in service, or its latest activity says that it
    has not. -/
def Arriving (g : Group) : Prop :=
  g.Settled ∨ g.wanted = true ∧ (g.phase = .launching ∧ g.Unfinished ∨ g.phase = .steady ∧ g.Unsuccessful)

theorem Sound.arriving (h : g.Sound) (hw : g.wanted = true) (hn : g.node.isSome = true) :
    g.Arriving := by
  cases hphase : g.phase with
  | steady => exact .inl ⟨hw, hn, hphase⟩
  | terminating =>
      have hleaving := (h.leaving hphase).1
      rw [hw] at hleaving
      cases hleaving
  | launching => exact .inr ⟨hw, .inl ⟨hphase, (h.coming hphase).2⟩⟩

theorem Arriving.progress (h : g.Arriving) (hp : Progress edits t g g') : g'.Arriving := by
  rcases h with hsettled | ⟨hw, ⟨hphase, hlast⟩ | ⟨hphase, hlast⟩⟩
  · obtain ⟨-, launchTemplate, rfl⟩ := hsettled.progress hp
    exact .inl hsettled
  · cases hp with
    | startIn hp => rw [hphase] at hp; cases hp
    | finishIn hp => rw [hphase] at hp; cases hp
    | failIn hp => rw [hphase] at hp; cases hp
    | startOut hp => rw [hphase] at hp; cases hp
    | appear hp hn hi => exact .inr ⟨hw, .inl ⟨hphase, hlast⟩⟩
    | finishOut hp hn ha => exact .inl ⟨hw, hn, rfl⟩
    | failOut hp ha hs =>
        refine .inr ⟨hw, .inr ⟨rfl, _, rfl, fun h => hs ?_⟩⟩
        exact Option.some.inj (ha.2.1.symm.trans h)
    | report hp ha => exact .inr ⟨hw, .inl ⟨hphase, _, rfl, ha⟩⟩
    | edit he launchTemplate => exact .inr ⟨hw, .inl ⟨hphase, hlast⟩⟩
  · cases hp with
    | startIn _ hw' => rw [hw] at hw'; cases hw'
    | startOut hp hw' hn ha => exact .inr ⟨hw, .inl ⟨rfl, _, rfl, ha⟩⟩
    | edit he launchTemplate => exact .inr ⟨hw, .inr ⟨hphase, hlast⟩⟩
    | finishIn hp => rw [hphase] at hp; cases hp
    | failIn hp => rw [hphase] at hp; cases hp
    | appear hp => rw [hphase] at hp; cases hp
    | finishOut hp => rw [hphase] at hp; cases hp
    | failOut hp => rw [hphase] at hp; cases hp
    | report hp => exact absurd hphase hp

/-- What the activity says when it is read as finished and successful. -/
theorem Arriving.settled (h : g.Arriving)
    (hread : ∀ a, g.last = some a → a.progress = some 100 ∧ a.statusCode = some "Successful") :
    g.Settled := by
  rcases h with hsettled | ⟨-, ⟨-, a, hlast, ha⟩ | ⟨-, a, hlast, ha⟩⟩
  · exact hsettled
  · exact absurd (hread a hlast).1 ha
  · exact absurd (hread a hlast).2 ha

end

end Group

-- ============================================================================
-- The groups
-- ============================================================================

/-- `describe_asg` selects the ASGs of this name for the component. -/
def OfComponent (component name : String) : Prop :=
  (matchAsgs component [{ autoScalingGroupName := name, instances := [], launchTemplate := none }]).isOk

instance (component name : String) : Decidable (OfComponent component name) :=
  inferInstanceAs (Decidable (_ = true))

/-- An ASG is selected by its name alone. -/
theorem mem_matchAsgs {component : String} {groups asgs : List AutoScalingGroup}
    (h : matchAsgs component groups = .ok asgs) (asg : AutoScalingGroup) :
    asg ∈ asgs ↔ asg ∈ groups ∧ OfComponent component asg.autoScalingGroupName := by
  rw [OfComponent]
  rw [matchAsgs] at h ⊢
  dsimp only at h ⊢
  split at h
  · cases h
  · rename_i matcher hmatcher
    split at h
    · cases h
    · cases h
      rw [List.mem_filter, List.filter_singleton]
      cases matcher.matches? asg.autoScalingGroupName <;> simp [Except.isOk, Except.toBool]

/-- AWS is only at what the groups of the component are asked for. -/
def Cluster.Sound (component : String) (c : Cluster) : Prop :=
  ∀ g ∈ c.groups, OfComponent component g.name → g.Sound

theorem Cluster.Sound.evolves {edits : Prop} {component : String} {c c' : Cluster}
    (h : c.Sound component) (he : Cluster.Evolves edits c c') : c'.Sound component := by
  intro g' hg' hof
  obtain ⟨g, hg, hpath⟩ := he.mem hg'
  rw [hpath.name_eq] at hof
  exact (h g hg hof).evolves hpath

section
variable {edits : Prop} {P : Watched → (op : Op) → op.Reply → Prop} {component : String} {z : Cluster}
  {asgs : List AutoScalingGroup} {details : Dict Activity} {calls : Trace Calls} {y : Watched}
  {g g' : Group}

/-- A group that is asked to have an instance, and was listed with one, has it in
    service by the time a policy is executed. -/
theorem Seen.settled (h : Seen edits P component z asgs details calls y) (hsound : z.Sound component)
    (hg : g ∈ z.groups) (hlisted : g.listed ∈ asgs) (hw : g.wanted = true) (hn : g.node.isSome = true)
    (hg' : g' ∈ y.1.groups) (hname : g.name = g'.name) : g'.Settled := by
  obtain ⟨w, activity, rfl, -, -, hdone, hsuccessful, z', activities, -, hz, -, -, hread, hmade, hy⟩ :=
    h.read _ hlisted
  obtain ⟨g₁, hg₁, hname₁, hactivities⟩ := hread
  have hof : OfComponent component g.name := ((mem_matchAsgs h.listed _).mp hlisted).2
  have harriving : g₁.Arriving := by
    have hpath := hz.of_name hg hg₁ hname₁.symm
    have harrives := (hsound g hg hof).arriving hw hn
    exact hpath.keeps (fun hg hp => Group.Arriving.progress hg hp) harrives
  have hsettled : g₁.Settled := by
    refine harriving.settled fun a hlast => ?_
    rw [hlast, Option.toList_some] at hactivities
    rcases hmade with hmade | ⟨hmade, -⟩
    · cases hactivities.symm.trans hmade
      exact ⟨hdone, hsuccessful⟩
    · cases hactivities.symm.trans hmade
  exact hsettled.evolves (hy.of_name hg₁ hg' (hname₁.trans hname))

/-- The groups behind the ASGs of an invocation. -/
theorem Seen.exists_group (h : Seen edits P component z asgs details calls y) {asg : AutoScalingGroup}
    (hmem : asg ∈ asgs) :
    ∃ g ∈ z.groups, g.listed = asg ∧ OfComponent component g.name := by
  obtain ⟨hlisted, hof⟩ := (mem_matchAsgs h.listed asg).mp hmem
  obtain ⟨g, hg, rfl⟩ := List.mem_map.mp hlisted
  exact ⟨g, hg, rfl, hof⟩

theorem node_isSome_of_listed (h : g.listed.instances ≠ []) : g.node.isSome = true := by
  cases hn : g.node with
  | none => exact absurd (by rw [Group.listed, hn]; rfl) h
  | some i => rfl

theorem node_none_of_listed (h : g.listed.instances = []) : g.node = none := by
  cases hn : g.node with
  | none => rfl
  | some i =>
      rw [Group.listed, hn] at h
      cases h

theorem Cluster.Sound.want {c : Cluster} {name : String} {b : Bool} (h : c.Sound component)
    (hphase : ∀ g ∈ c.groups, g.name = name → g.phase ≠ if b then .terminating else .launching) :
    (c.want name b).Sound component := by
  intro g' hg' hof
  obtain ⟨g, hg, ⟨hname, rfl⟩ | ⟨-, rfl⟩⟩ := Cluster.mem_want hg'
  · have hnot := hphase g hg hname
    cases b with
    | true => exact ⟨fun hp => absurd hp hnot, fun hp => ⟨rfl, ((h g hg hof).coming hp).2⟩⟩
    | false => exact ⟨fun hp => ⟨rfl, ((h g hg hof).leaving hp).2⟩, fun hp => absurd hp hnot⟩
  · exact h g' hg hof

/-- A policy of an invocation is applied to a group that is not at the opposite. -/
theorem Seen.sound_applied {name policyName : String} {c' : Cluster}
    (h : Seen edits P component z asgs details calls y) (hsound : z.Sound component)
    (hdecides : Decides edits z y.1 asgs details name policyName)
    (happlied : y.1.Applied name policyName c') : c'.Sound component := by
  have hy : y.1.Sound component := hsound.evolves h.later
  rcases happlied with ⟨hpolicy, rfl⟩ | ⟨hpolicy, rfl⟩
  · cases hdecides with
    | scaleOut => exact absurd hpolicy (by decide)
    | @scaleIn asg activity now hmem hfull =>
        obtain ⟨g, hg, rfl, hof⟩ := h.exists_group hmem
        refine hy.want fun g' hg' hname hp => ?_
        have hpath := h.later.of_name hg hg' hname.symm
        cases hw : g.wanted with
        | true =>
            have hnode := node_isSome_of_listed (hfull _ hmem)
            have hsettled := h.settled hsound hg hmem hw hnode hg' hname.symm
            cases hp.symm.trans hsettled.2.2
        | false =>
            have hwanted := ((hy g' hg' (hname ▸ hof)).coming hp).1
            rw [hpath.wanted_eq, hw] at hwanted
            cases hwanted
  · cases hdecides with
    | scaleIn => exact absurd hpolicy (by decide)
    | @scaleOut asg hmem hempty =>
        obtain ⟨g, hg, rfl, hof⟩ := h.exists_group hmem
        refine hy.want fun g' hg' hname => ?_
        exact (hsound g hg hof).not_terminating (node_none_of_listed hempty)
          (h.later.of_name hg hg' hname.symm)

end

end AutoRecycle.ScaleAsg
