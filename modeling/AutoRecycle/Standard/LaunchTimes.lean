/-
  AutoRecycle.Standard.LaunchTimes

  Which launches the launch time of an instance is read off.

  EC2 has given ids of two lengths.  An id is looked for as a substring of the
  descriptions, so the launch of an instance counts for every instance whose id
  its own id begins with.  It changes the launch time of such an instance unless
  a launch that counts for that one is at least as late.
-/
import AutoRecycle.Standard.Activities

namespace AutoRecycle.Standard

open AutoRecycle.Py (contains)

/-- The launch time that `check_instances` uses for an instance. -/
def launchTime (id : Ec2Id) (scalingActivities : List Activity) : Option Micros :=
  lastInstanceActivityTime (getLaunchingActivities scalingActivities) id.text

/-- The activity counts for the instance. -/
def CountsFor (id : Ec2Id) (a : Activity) : Prop :=
  contains a.description "Launching" = true ∧ contains a.description id.text = true

section
variable {id other : Ec2Id} {before after activities : List Activity} {a : Activity}
  {t startTime : Micros}

theorem exists_of_launchTime (h : launchTime id activities = some t) :
    ∃ a ∈ activities, CountsFor id a ∧ a.startTime = t := by
  obtain ⟨a, ha, hcontains, htime⟩ := mem_of_lastInstanceActivityTime h
  obtain ⟨hmem, hlaunching⟩ := List.mem_filter.mp ha
  exact ⟨a, hmem, ⟨hlaunching, hcontains⟩, htime⟩

theorem le_launchTime (h : launchTime id activities = some t) (ha : a ∈ activities)
    (hcounts : CountsFor id a) : a.startTime ≤ t :=
  lastInstanceActivityTime_le h (List.mem_filter.mpr ⟨ha, hcounts.1⟩) hcounts.2

theorem exists_launchTime (ha : a ∈ activities) (hcounts : CountsFor id a) :
    ∃ t, launchTime id activities = some t ∧ a.startTime ≤ t := by
  cases h : launchTime id activities with
  | none =>
      have hnone := lastInstanceActivityTime_eq_none.mp h a (List.mem_filter.mpr ⟨ha, hcounts.1⟩)
      rw [hcounts.2] at hnone
      cases hnone
  | some t => exact ⟨t, rfl, le_launchTime h ha hcounts⟩

/-- The launch time is that of the latest activity that counts. -/
theorem launchTime_eq_of (ha : a ∈ activities) (hcounts : CountsFor id a)
    (hlatest : ∀ b ∈ activities, CountsFor id b → b.startTime ≤ a.startTime) :
    launchTime id activities = some a.startTime := by
  obtain ⟨t, ht, hle⟩ := exists_launchTime ha hcounts
  obtain ⟨b, hb, hcountsb, htime⟩ := exists_of_launchTime ht
  have hge : t ≤ a.startTime := htime ▸ hlatest b hb hcountsb
  rw [ht, Int.le_antisymm hge hle]

theorem countsFor_launchOf : CountsFor id (launchOf other startTime) ↔ id.digits <+: other.digits :=
  ⟨fun h => contains_launchOf.mp h.2,
    fun h => ⟨launching_launchOf other startTime, contains_launchOf.mpr h⟩⟩

/-- A launch that does not count is passed over. -/
theorem launchTime_of_other_id (h : ¬ id.digits <+: other.digits) :
    launchTime id (before ++ launchOf other startTime :: after) = launchTime id (before ++ after) := by
  have hnot : contains (launchOf other startTime).description id.text = false :=
    Bool.eq_false_iff.mpr fun hcontains => h (contains_launchOf.mp hcontains)
  unfold launchTime lastInstanceActivityTime getLaunchingActivities
  simp only [List.filter_append, List.filter_cons, launching_launchOf, hnot, if_true, Bool.false_eq_true,
    if_false]

end

/-- Adding, or removing, the launch of another instance leaves the launch time of
    an instance as it is, unless its id begins with the id of the instance, and no
    other activity that counts for the instance is as late. -/
theorem launchTime_unchanged_iff (id other : Ec2Id) (before after : List Activity) (startTime : Micros) :
    launchTime id (before ++ launchOf other startTime :: after) = launchTime id (before ++ after) ↔
      ¬ id.digits <+: other.digits ∨
        ∃ a ∈ before ++ after, CountsFor id a ∧ startTime ≤ a.startTime := by
  by_cases hprefix : id.digits <+: other.digits
  · have hcounts : CountsFor id (launchOf other startTime) := countsFor_launchOf.mpr hprefix
    have hadded : launchOf other startTime ∈ before ++ launchOf other startTime :: after := by simp
    have hsub : ∀ a ∈ before ++ after, a ∈ before ++ launchOf other startTime :: after := by
      intro a ha
      rcases List.mem_append.mp ha with h | h
      · exact List.mem_append_left _ h
      · exact List.mem_append_right _ (List.mem_cons_of_mem _ h)
    obtain ⟨t, ht, hle⟩ := exists_launchTime hadded hcounts
    constructor
    · intro hsame
      obtain ⟨a, ha, hcountsa, htime⟩ := exists_of_launchTime (hsame ▸ ht)
      exact .inr ⟨a, ha, hcountsa, htime ▸ hle⟩
    · rintro (hnot | ⟨a, ha, hcountsa, hlater⟩)
      · exact absurd hprefix hnot
      -- the latest one that counts is not the added one alone
      obtain ⟨u, hu, hau⟩ := exists_launchTime ha hcountsa
      obtain ⟨b, hb, hcountsb, hbu⟩ := exists_of_launchTime hu
      have hlatest : ∀ c ∈ before ++ launchOf other startTime :: after, CountsFor id c →
          c.startTime ≤ b.startTime := by
        intro c hc hcountsc
        rw [hbu]
        rcases List.mem_append.mp hc with h | h
        · exact le_launchTime hu (List.mem_append_left _ h) hcountsc
        · rcases List.mem_cons.mp h with rfl | h
          · exact Int.le_trans hlater hau
          · exact le_launchTime hu (List.mem_append_right _ h) hcountsc
      rw [launchTime_eq_of (hsub b hb) hcountsb hlatest, hbu, hu]
  · exact iff_of_true (launchTime_of_other_id hprefix) (.inl hprefix)

/-- An id of the old length, and one of the new length that begins with it. -/
def shortId : Ec2Id := ⟨"1234abcd".toList, by decide, by simp⟩
def longId : Ec2Id := ⟨"1234abcd012345678".toList, by decide, by simp⟩

/-- Ten minutes later the other instance is launched. -/
theorem longId_launches_shortId :
    shortId ≠ longId ∧ launchTime shortId [launchOf shortId 0] = some 0 ∧
      launchTime shortId [launchOf longId (minutes 10), launchOf shortId 0] = some (minutes 10) := by
  refine ⟨by decide, ?_, ?_⟩
  · refine launchTime_eq_of (List.mem_singleton_self (launchOf shortId 0))
      (countsFor_launchOf.mpr List.prefix_rfl) fun b hb _ => ?_
    rw [List.mem_singleton.mp hb]
  · refine launchTime_eq_of (List.mem_cons_self (a := launchOf longId (minutes 10)))
      (countsFor_launchOf.mpr (by decide)) fun b hb _ => ?_
    rcases List.mem_cons.mp hb with rfl | hb
    · exact Int.le_refl _
    · rw [List.mem_singleton.mp hb]
      decide

end AutoRecycle.Standard
