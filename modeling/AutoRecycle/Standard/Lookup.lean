/-
  AutoRecycle.Standard.Lookup

  Which ASG the monitor watches.

  The scaler looks the ASGs of a component up by an anchored pattern, the monitor
  takes the first one whose name begins with the component's name and "-asg".
  The two agree on a listing unless that first one goes on in another way, as
  the ASG of a component with a longer name does.
-/
import AutoRecycle.ScaleAsg.Selection
import AutoRecycle.Standard.Monitor

namespace AutoRecycle.Standard

open AutoRecycle.Asl
open AutoRecycle.Py (startsWith str)
open AutoRecycle.Py.Re (Plain specials)
open AutoRecycle.ScaleAsg (Extension Zoned isLower_iff matchAsgs matcherOf)

-- ============================================================================
-- One listing for both lambdas
-- ============================================================================

/-- An instance as the API describes it, with the keys that one of the lambdas
    reads. -/
structure DescribedInstance where
  instanceId : String
  healthStatus : String
  lifecycleState : String
  launchTemplate : Option LaunchTemplateSpecification

/-- An ASG as the API describes it. -/
structure DescribedAsg where
  autoScalingGroupName : String
  maxSize : Nat
  instances : List DescribedInstance
  launchTemplate : Option LaunchTemplateSpecification

namespace DescribedAsg

def forMonitor (asg : DescribedAsg) : AutoScalingGroup where
  autoScalingGroupName := asg.autoScalingGroupName
  maxSize := asg.maxSize
  instances := asg.instances.map fun node =>
    { instanceId := node.instanceId, healthStatus := node.healthStatus,
      lifecycleState := node.lifecycleState }

def forScaler (asg : DescribedAsg) : AutoRecycle.AutoScalingGroup where
  autoScalingGroupName := asg.autoScalingGroupName
  instances := asg.instances.map fun node =>
    { instanceId := node.instanceId, launchTemplate := node.launchTemplate }
  launchTemplate := asg.launchTemplate

end DescribedAsg

section
variable (component : String) (listing : List DescribedAsg)

/-- The first ASG whose name begins as the monitor asks for. -/
def firstHit : Option DescribedAsg :=
  listing.find? fun asg => startsWith asg.autoScalingGroupName (component ++ "-asg")

/-- The scaler selects the ASG. -/
def Selects (asg : DescribedAsg) : Prop :=
  ∃ selected, matchAsgs component (listing.map DescribedAsg.forScaler) = .ok selected ∧
    asg.forScaler ∈ selected

/-- What `_describe_asg` makes of the listing. -/
def monitored : Except PyExc AutoScalingGroup :=
  findAsg (.str component) (listing.map DescribedAsg.forMonitor)

/-- The ASG that the monitor returns, or reports to be scaled down, is one that
    the scaler selects. -/
def WatchesOwn : Prop :=
  (∀ watched, monitored component listing = .ok watched →
    ∃ asg ∈ listing, asg.forMonitor = watched ∧ Selects component listing asg) ∧
  (monitored component listing = .error { cls := scaledDownASGException } →
    ∃ asg, firstHit component listing = some asg ∧ Selects component listing asg)

/-- The name goes on behind the component's as those of its own ASGs do (the
    pattern lets a newline pass at the end). -/
def GoesOnAsOwn (name : String) : Prop :=
  ∃ s newline, name.toList = component.toList ++ (['-', 'a', 's', 'g', '-'] ++ s ++ newline) ∧
    Extension s ∧ (newline = [] ∨ newline = ['\n'])

end

/-- The characters of a component's name. -/
def NameChar (c : Char) : Prop := c.isLower = true ∨ c.isDigit = true ∨ c = '-' ∨ c = '_'

section
variable {component : String} {listing : List DescribedAsg}

theorem plain_of_nameChars {cs : List Char} (h : ∀ c ∈ cs, NameChar c) : Plain cs := by
  have hspecial : ∀ c ∈ '{' :: specials, ¬ NameChar c := by
    simp [NameChar, specials, isLower_iff, Char.isDigit]
  induction cs with
  | nil => trivial
  | cons c cs ih =>
      obtain ⟨hc, hcs⟩ := List.forall_mem_cons.mp h
      refine ⟨fun hmem => hspecial c (List.mem_cons_of_mem _ hmem) hc, ?_, ih hcs⟩
      rintro rfl
      exact absurd hc (hspecial _ List.mem_cons_self)

theorem subn_of_nameChars (h : ∀ c ∈ component.toList, NameChar c)
    (hzone : ∀ base, ¬ Zoned component.toList base) : ZoneSuffix.subn component = (component, 0) := by
  have hnewline : '\n' ∉ component.toList := by
    intro hmem
    have hnot : ¬ NameChar '\n' := by
      unfold NameChar
      decide
    exact hnot (h _ hmem)
  obtain ⟨base, hzoned, -⟩ | ⟨-, hsub⟩ := ScaleAsg.subn_cases hnewline
  · exact absurd hzoned (hzone base)
  · exact hsub

/-- A listed ASG is selected when its name goes on as the component's own. -/
theorem selects_iff (h : ∀ c ∈ component.toList, NameChar c)
    (hzone : ∀ base, ¬ Zoned component.toList base) {asg : DescribedAsg} (hasg : asg ∈ listing) :
    Selects component listing asg ↔ GoesOnAsOwn component asg.autoScalingGroupName := by
  have hsubn := subn_of_nameChars h hzone
  have hsub : ZoneSuffix.sub component = component := by rw [ZoneSuffix.sub, hsubn]
  have hplain : Plain (ZoneSuffix.sub component).toList := by
    rw [hsub]
    exact plain_of_nameChars h
  have hmatch : (matcherOf component.toList false).matches? asg.autoScalingGroupName = true ↔
      GoesOnAsOwn component asg.autoScalingGroupName := by
    rw [ScaleAsg.matches?_pattern]
    constructor
    · rintro ⟨zone, s, newline, hchars, rfl, hs, hnewline⟩
      exact ⟨s, newline, hchars, hs, hnewline⟩
    · rintro ⟨s, newline, hchars, hs, hnewline⟩
      exact ⟨[], s, newline, hchars, rfl, hs, hnewline⟩
  rw [← hmatch]
  have hmem : asg.forScaler ∈ listing.map DescribedAsg.forScaler := List.mem_map_of_mem hasg
  have hselected : asg.forScaler ∈ (listing.map DescribedAsg.forScaler).filter (fun asg =>
      (matcherOf component.toList false).matches? asg.autoScalingGroupName) ↔
      (matcherOf component.toList false).matches? asg.autoScalingGroupName = true := by
    rw [List.mem_filter, and_iff_right hmem]
    rfl
  have hcases := @ScaleAsg.matchAsgs_plain component (listing.map DescribedAsg.forScaler) hplain
  rw [hsub, hsubn] at hcases
  rw [← hselected]
  obtain ⟨hnone, e, herror⟩ | ⟨-, hok⟩ := hcases
  · constructor
    · rintro ⟨selected, hselect, -⟩
      rw [herror] at hselect
      cases hselect
    · intro hin
      have hin' := hnone ▸ hin
      cases hin'
  · constructor
    · rintro ⟨selected, hselect, hin⟩
      rw [hok] at hselect
      cases hselect
      exact hin
    · exact fun hin => ⟨_, hok, hin⟩

/-- What the monitor makes of the first hit. -/
theorem monitored_eq :
    monitored component listing = match firstHit component listing with
      | some asg =>
          if asg.maxSize = 0 then .error { cls := scaledDownASGException }
          else if asg.instances.isEmpty then
            .error { cls := .exception, arg := "No ASG found for " ++ component }
          else .ok asg.forMonitor
      | none => .error { cls := .exception, arg := "No ASG found for " ++ component } := by
  have hstr : str (.str component) = component := by rw [str]
  have hview : (fun asg : AutoScalingGroup => startsWith asg.autoScalingGroupName (component ++ "-asg")) ∘
      DescribedAsg.forMonitor = fun asg => startsWith asg.autoScalingGroupName (component ++ "-asg") := rfl
  rw [monitored, findAsg, hstr, List.filter_map, hview, firstHit, ← List.head?_filter]
  cases listing.filter fun asg => startsWith asg.autoScalingGroupName (component ++ "-asg") with
  | nil => rfl
  | cons asg rest =>
      simp only [List.map_cons, List.head?_cons]
      have hempty : asg.forMonitor.instances.isEmpty = asg.instances.isEmpty := by
        simp [DescribedAsg.forMonitor]
      rw [hempty]
      rfl

/-- The monitor watches an ASG of its own component exactly when the first ASG
    whose name begins with "<component>-asg", if it is watched at all, goes on
    with "-" and then lower-case letters and decimal digits. -/
theorem watchesOwn_iff (component : String) (listing : List DescribedAsg)
    (h : ∀ c ∈ component.toList, NameChar c) (hzone : ∀ base, ¬ Zoned component.toList base) :
    WatchesOwn component listing ↔ ∀ asg, firstHit component listing = some asg →
      asg.maxSize = 0 ∨ asg.instances ≠ [] → GoesOnAsOwn component asg.autoScalingGroupName := by
  rw [WatchesOwn, monitored_eq]
  cases hfirst : firstHit component listing with
  | none => simp
  | some asg =>
      have hasg : asg ∈ listing := List.mem_of_find?_eq_some hfirst
      have hselects := selects_iff h hzone hasg
      simp only [Option.some.injEq, forall_eq', exists_eq_left']
      by_cases hsize : asg.maxSize = 0
      · rw [if_pos hsize]
        constructor
        · exact fun hwatches _ => hselects.mp (hwatches.2 rfl)
        · exact fun hown => ⟨nofun, fun _ => hselects.mpr (hown (.inl hsize))⟩
      rw [if_neg hsize]
      by_cases hinstances : asg.instances = []
      · rw [if_pos (List.isEmpty_iff.mpr hinstances)]
        refine iff_of_true ⟨nofun, fun hscaled => ?_⟩ fun hwatched => ?_
        · cases hscaled
        · exact absurd hwatched (by simp [hsize, hinstances])
      rw [if_neg fun hempty => hinstances (List.isEmpty_iff.mp hempty)]
      constructor
      · rintro ⟨hreturned, -⟩ -
        obtain ⟨asg', hasg', hsame, hselect⟩ := hreturned _ rfl
        have hname : asg'.autoScalingGroupName = asg.autoScalingGroupName :=
          congrArg AutoScalingGroup.autoScalingGroupName hsame
        rw [← hname]
        exact (selects_iff h hzone hasg').mp hselect
      · intro hown
        refine ⟨?_, nofun⟩
        rintro _ ⟨rfl⟩
        exact ⟨asg, hasg, rfl, hselects.mpr (hown (.inr hinstances))⟩

end

/-- An ASG with one instance. -/
def oneInstance (name : String) : DescribedAsg where
  autoScalingGroupName := name
  maxSize := 1
  instances := [⟨"i-1", "Healthy", "InService", none⟩]
  launchTemplate := none

theorem nameChars_foo : ∀ c ∈ "foo".toList, NameChar c := by
  simp [NameChar, isLower_iff, Char.isDigit]

theorem not_zoned_foo (base : List Char) : ¬ Zoned "foo".toList base := by
  rintro ⟨z, hz, heq⟩
  have hlast := congrArg List.getLast? heq
  simp at hlast
  rw [← hlast] at hz
  exact absurd hz (by decide)

theorem watchesOwn_iff_foo :
    WatchesOwn "foo" [oneInstance "foo-asg-1"] ↔ ∀ asg, firstHit "foo" [oneInstance "foo-asg-1"] = some asg →
      asg.maxSize = 0 ∨ asg.instances ≠ [] → GoesOnAsOwn "foo" asg.autoScalingGroupName :=
  watchesOwn_iff "foo" [oneInstance "foo-asg-1"] nameChars_foo not_zoned_foo

/-- Asked about "foo" the monitor watches the ASG of "foo-asgard". -/
theorem watches_another :
    monitored "foo" [oneInstance "foo-asgard-asg-1"] = .ok (oneInstance "foo-asgard-asg-1").forMonitor ∧
      ¬ WatchesOwn "foo" [oneInstance "foo-asgard-asg-1"] := by
  have hmonitored : monitored "foo" [oneInstance "foo-asgard-asg-1"] =
      .ok (oneInstance "foo-asgard-asg-1").forMonitor := rfl
  refine ⟨hmonitored, fun hwatches => ?_⟩
  obtain ⟨asg, hasg, -, hselects⟩ := hwatches.1 _ hmonitored
  obtain ⟨s, newline, hchars, -, -⟩ := (selects_iff nameChars_foo not_zoned_foo hasg).mp hselects
  rw [List.mem_singleton.mp hasg] at hchars
  simp [oneInstance] at hchars

end AutoRecycle.Standard
