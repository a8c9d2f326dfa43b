/-
  AutoRecycle.Mongo.LaunchTemplates

  The AMI check before a Mongo recycle, in an account with any launch templates.

  The templates are found by a prefix of the component's raw name, the instances
  to recycle by the name without its zone suffix.  The two agree on a component
  without a suffix, and on no other (`amiCheck_covers_iff`).
-/
import AutoRecycle.Mongo.Process

namespace AutoRecycle.Mongo

open AutoRecycle.Effect AutoRecycle.Py

-- ============================================================================
-- The account
-- ============================================================================

/-- A launch template, with the AMI of its latest version. -/
structure AccountTemplate where
  name : String
  launchTemplateId : String
  latestVersionNumber : Nat
  imageId : String

/-- The launch templates of an account; their ids are distinct. -/
structure Account where
  templates : List AccountTemplate
  nodup : (templates.map AccountTemplate.launchTemplateId).Nodup

/-- A filter value matches itself; one that ends in `*` matches what begins with the rest. -/
def filterMatches (value name : String) : Bool :=
  match value.toList.reverse with
  | '*' :: prefixReversed => prefixReversed.reverse.isPrefixOf name.toList
  | _ => value = name

namespace Account

/-- Calls that the check does not make. -/
def notCalled : PyExc := { cls := .exception }

def listed (account : Account) (value : String) : List AccountTemplate :=
  account.templates.filter fun t => filterMatches value t.name

def versions (account : Account) (launchTemplateId version : String) :
    List LaunchTemplateVersion :=
  (account.templates.filter fun t => t.launchTemplateId = launchTemplateId &&
    toString t.latestVersionNumber = version).map fun t => { imageId := some t.imageId }

/-- How EC2 answers about launch templates. -/
def answer (account : Account) (w : Unit) : (op : Op) → op.Reply × Unit
  | .describeLaunchTemplates value =>
      (.ok ((account.listed value).map fun t =>
        { launchTemplateId := t.launchTemplateId, latestVersionNumber := t.latestVersionNumber }), w)
  | .describeLaunchTemplateVersions launchTemplateId version =>
      (.ok (account.versions launchTemplateId version), w)
  | .now => ((0 : Int), w)
  | .time => ((0 : Int), w)
  | .sleep _ => ((), w)
  | .getenv _ => ((none : Option String), w)
  | .log _ => ((), w)
  | .describeAutoScalingGroups => (.error notCalled, w)
  | .describeScalingActivities _ => (.error notCalled, w)
  | .executePolicy .. => (.error notCalled, w)
  | .describeInstances _ => (.error notCalled, w)
  | .describeInstancesById _ => (.error notCalled, w)
  | .filterInstances _ => (.error notCalled, w)
  | .terminate _ => (.error notCalled, w)
  | .putItem .. => (.error notCalled, w)
  | .connect _ => (.error notCalled, w)
  | .nodeStatus _ => (.error notCalled, w)
  | .replicaSetStatus _ => (.error notCalled, w)
  | .replSetGetConfig _ => (.error notCalled, w)
  | .replSetReconfig .. => (.error notCalled, w)
  | .replSetStepDown .. => (.error notCalled, w)
  | .invoke .. => (.error notCalled, w)

/-- `get_ami_and_check_all_amis_match` returns `ami` for the component. -/
def Returns (account : Account) (component ami : String) : Prop :=
  ((getAmiAndCheckAllAmisMatch component).run account.answer ()).1 = .ok ami

/-- The template of every ASG that the component's instances are selected from,
    `<asg>-lt-<anything>`, has the AMI. -/
def Covers (account : Account) (component ami : String) : Prop :=
  ∀ asgName ∈ createInstanceNameFilters component, ∀ t ∈ account.templates,
    (asgName ++ "-lt-").toList <+: t.name.toList → t.imageId = ami

-- ============================================================================
-- What the check sees
-- ============================================================================

variable {account : Account}

theorem filterMatches_star (p name : String) :
    filterMatches (p ++ "*") name = p.toList.isPrefixOf name.toList := by
  simp [filterMatches]

/-- A key that occurs once selects one element. -/
theorem filter_key {α β : Type} [DecidableEq β] {key : α → β} {check : α → Bool} {xs : List α}
    {x : α} (hnodup : (xs.map key).Nodup) (hx : x ∈ xs) (hc : check x = true) :
    xs.filter (fun y => key y = key x && check y) = [x] := by
  induction xs with
  | nil => cases hx
  | cons y ys ih =>
    rw [List.map_cons, List.nodup_cons] at hnodup
    obtain rfl | hx := List.mem_cons.mp hx
    · have hrest : ys.filter (fun z => key z = key x && check z) = [] := by
        rw [List.filter_eq_nil_iff]
        intro z hz hboth
        have hkey : key z = key x := by simpa using (Bool.and_eq_true_iff.mp hboth).1
        exact hnodup.1 (hkey ▸ List.mem_map_of_mem hz)
      rw [List.filter_cons_of_pos (by simp [hc]), hrest]
    · have hne : key y ≠ key x := fun he => hnodup.1 (he ▸ List.mem_map_of_mem hx)
      rw [List.filter_cons_of_neg (by simp [hne]), ih hnodup.2 hx]

theorem versions_eq {t : AccountTemplate} (ht : t ∈ account.templates) :
    account.versions t.launchTemplateId (toString t.latestVersionNumber) =
      [{ imageId := some t.imageId }] := by
  rw [versions, filter_key account.nodup ht (by simp)]
  rfl

theorem mapM_imageId (ts : List AccountTemplate) :
    (ts.map fun t => LaunchTemplateVersion.mk (some t.imageId)).mapM
      (fun version => getKey "ImageId" version.imageId) = .ok (ts.map AccountTemplate.imageId) := by
  induction ts with
  | nil => rfl
  | cons t ts ih =>
    rw [List.map_cons, List.mapM_cons, ih]
    rfl

/-- The check reads the AMIs of the templates whose name begins with the component's. -/
theorem run_getLaunchTemplateImageIds (component : String) :
    (getLaunchTemplateImageIds component).run account.answer () =
      (.ok ((account.listed (component ++ "*")).map AccountTemplate.imageId), ()) := by
  simp only [getLaunchTemplateImageIds, ask_bind, Prog.run_call, answer, raise_ok, Prog.ret_bind,
    Prog.forEach_map, Prog.run_bind]
  rw [@Prog.run_forEach_ok Calls _ _ _ _ _ (fun t => LaunchTemplateVersion.mk (some t.imageId))]
  · simp only [run_raise, mapM_imageId]
  · intro t ht
    have hmem : t ∈ account.templates := List.mem_of_mem_filter ht
    simp only [Prog.run_call, answer, raise_ok, Prog.ret_bind, versions_eq hmem, run_raise]
    rfl

/-- The check returns the AMI that all of these templates have. -/
theorem returns_iff {component ami : String} :
    account.Returns component ami ↔
      account.listed (component ++ "*") ≠ [] ∧
        ∀ t ∈ account.listed (component ++ "*"), t.imageId = ami := by
  rw [Returns, getAmiAndCheckAllAmisMatch, Prog.run_bind, run_getLaunchTemplateImageIds]
  simp only [run_raise]
  rw [assertAmisMatchAndGetAmi_eq_ok]
  simp

end Account

-- ============================================================================
-- When the check covers the instances
-- ============================================================================

theorem mem_listed {account : Account} {component : String} {t : AccountTemplate} :
    t ∈ account.listed (component ++ "*") ↔
      t ∈ account.templates ∧ component.toList <+: t.name.toList := by
  rw [Account.listed, List.mem_filter, Account.filterMatches_star, List.isPrefixOf_iff_prefix]

/-- Without a suffix the template names of all three zones begin with the
    component's name. -/
theorem covers_of_not_suffixed {component : String} (h : (ZoneSuffix.subn component).2 = 0)
    {account : Account} {ami : String} (hret : account.Returns component ami) :
    account.Covers component ami := by
  obtain ⟨-, hall⟩ := Account.returns_iff.mp hret
  intro asgName hasg t ht hcut
  obtain ⟨az, -, rfl⟩ := List.mem_map.mp hasg
  refine hall t (mem_listed.mpr ⟨ht, ?_⟩)
  rw [ZoneSuffix.sub_eq_self h, String.toList_append, String.toList_append, List.append_assoc]
    at hcut
  exact (List.prefix_append _ _).trans hcut

/-- With a suffix, the template names of another zone do not. -/
theorem exists_not_prefix {component : String} (h : (ZoneSuffix.subn component).2 ≠ 0) :
    ∃ asgName ∈ createInstanceNameFilters component,
      ¬ component.toList <+: (asgName ++ "-lt-").toList := by
  obtain ⟨base, z, rest, -, hrest, hname, hbase⟩ := ZoneSuffix.toList_of_suffixed h
  have hother : ∃ z', z' ≠ z ∧ ZoneSuffix.sub component ++ String.ofList ['_', z'] ∈
      createInstanceNameFilters component := by
    by_cases hz : z = 'a'
    · exact ⟨'b', by rw [hz]; decide, List.mem_map_of_mem (by decide : "_b" ∈ ["_a", "_b", "_c"])⟩
    · exact ⟨'a', Ne.symm hz, List.mem_map_of_mem (by decide : "_a" ∈ ["_a", "_b", "_c"])⟩
  obtain ⟨z', hz', hmem⟩ := hother
  refine ⟨_, hmem, fun hcut => ?_⟩
  rw [String.toList_append, String.toList_append, String.toList_ofList, hbase, hname,
    List.append_assoc, List.append_assoc, List.prefix_append_right_inj] at hcut
  obtain rfl | rfl := hrest
  · simp only [List.nil_append, List.cons_append, List.cons_prefix_cons] at hcut
    exact hz' hcut.2.1.symm
  · simp [List.cons_prefix_cons] at hcut

/-- Two templates, one named like the component and one in another zone. -/
def twoTemplates (component asgName : String) : Account where
  templates := [
    { name := component, launchTemplateId := "lt-1", latestVersionNumber := 1, imageId := "ami-1" },
    { name := asgName ++ "-lt-", launchTemplateId := "lt-2", latestVersionNumber := 1, imageId := "ami-2" }]
  nodup := by simp

theorem twoTemplates_returns {component asgName : String}
    (h : ¬ component.toList <+: (asgName ++ "-lt-").toList) :
    (twoTemplates component asgName).Returns component "ami-1" := by
  rw [Account.returns_iff]
  constructor
  · exact List.ne_nil_of_mem (mem_listed.mpr ⟨List.mem_cons_self, List.prefix_refl _⟩)
  · intro t ht
    obtain ⟨hmem, hcut⟩ := mem_listed.mp ht
    simp only [twoTemplates, List.mem_cons, List.not_mem_nil, or_false] at hmem
    obtain rfl | rfl := hmem
    · rfl
    · exact absurd hcut h

/-- The AMI that the check returns is, in every account, the AMI of every launch
    template whose instances the run recycles, exactly for the component names
    without a zone suffix. -/
theorem amiCheck_covers_iff (component : String) :
    (∀ (account : Account) (ami : String), account.Returns component ami →
      account.Covers component ami) ↔ (ZoneSuffix.subn component).2 = 0 := by
  constructor
  · intro hcovers
    by_contra hsuffix
    obtain ⟨asgName, hasg, hnot⟩ := exists_not_prefix hsuffix
    have hami := hcovers _ _ (twoTemplates_returns hnot) asgName hasg
      { name := asgName ++ "-lt-", launchTemplateId := "lt-2", latestVersionNumber := 1
        imageId := "ami-2" } (by simp [twoTemplates]) (List.prefix_refl _)
    simp at hami
  · intro h account ami hret
    exact covers_of_not_suffixed h hret

/-- "web_mongo_a" passes the check although the template of zone b has another AMI. -/
theorem amiCheck_misses_zone_b :
    ¬ ∀ (account : Account) (ami : String), account.Returns "web_mongo_a" ami →
      account.Covers "web_mongo_a" ami := by
  intro hcovers
  have hnot : ¬ ("web_mongo_a".toList <+: ("web_mongo_b" ++ "-lt-").toList) := by decide
  have hami := hcovers _ _ (twoTemplates_returns hnot) "web_mongo_b" (by decide)
    { name := "web_mongo_b-lt-", launchTemplateId := "lt-2", latestVersionNumber := 1
      imageId := "ami-2" } (by simp [twoTemplates]) (by decide)
  simp at hami

end AutoRecycle.Mongo
