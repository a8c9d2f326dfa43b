/-
  AutoRecycle.Mongo.Done

  What `step` has seen when it returns `DONE`.

  `observe_ret` ties an observation to the replies it was made from: the target
  AMI is the one that the latest version of every launch template names, and the
  nodes are the running instances of the listing, in its order, each with the
  state that its own node reported.  A node in one of the states that
  `find_candidates` passes over does not keep a run from being done, whatever
  its AMI.
-/
import AutoRecycle.Mongo.BeforeTerminate

namespace AutoRecycle.Mongo

open AutoRecycle.Effect AutoRecycle.Py

section
variable {legal : (op : Op) → op.Reply → Prop} {component : String} {t : Trace Calls}

-- ============================================================================
-- The observation
-- ============================================================================

/-- There are launch templates for the component, and the latest version of each
    names the AMI. -/
def NamesAmi (component targetAmi : String) (calls : Trace Calls) : Prop :=
  ∃ launchTemplates, launchTemplates ≠ [] ∧
    ⟨.describeLaunchTemplates (component ++ "*"), .ok launchTemplates⟩ ∈ calls ∧
    ∀ launchTemplate ∈ launchTemplates, ∃ version versions,
      ⟨.describeLaunchTemplateVersions launchTemplate.launchTemplateId
        (toString launchTemplate.latestVersionNumber), .ok (version :: versions)⟩ ∈ calls ∧
      version.imageId = some targetAmi

theorem NamesAmi.mono {targetAmi : String} {calls : Trace Calls}
    (h : NamesAmi component targetAmi calls) (hsub : calls ⊆ t) : NamesAmi component targetAmi t := by
  obtain ⟨launchTemplates, hne, hlist, hversions⟩ := h
  refine ⟨launchTemplates, hne, hsub hlist, fun launchTemplate hmem => ?_⟩
  obtain ⟨version, versions, hev, hami⟩ := hversions launchTemplate hmem
  exact ⟨version, versions, hsub hev, hami⟩

/-- The record of a node is made of what EC2 lists for the instance and of what
    the node says of itself. -/
structure Observed (calls : Trace Calls) (inst : MongoInstance) (node : Instance) : Prop where
  instanceId_eq : node.instanceId = inst.instanceId
  imageId_eq : node.imageId = inst.imageId
  ipAddress_eq : node.ipAddress = inst.ipAddress
  reported : ∃ st, ⟨.nodeStatus inst.ipAddress, .ok st⟩ ∈ calls ∧
    nodeDetails st = .ok { nodeState := node.mongoState, replicaSetName := node.replicaSetName }

theorem getIndex_zero_eq_ok {α : Type} {xs : List α} {x : α} (h : getIndex xs 0 = .ok x) :
    ∃ rest, xs = x :: rest := by
  cases xs with
  | nil => cases h
  | cons y rest =>
      cases h
      exact ⟨rest, rfl⟩

/-- The AMIs that are read are those of the versions that have one. -/
theorem mapM_imageId_ret {versions : List LaunchTemplateVersion} {imageIds : List String}
    (h : versions.mapM (fun version => getKey "ImageId" version.imageId) = .ok imageIds) :
    List.Forall₂ (fun version imageId => version.imageId = some imageId) versions imageIds := by
  induction versions generalizing imageIds with
  | nil =>
      cases h
      exact .nil
  | cons version versions ih =>
      rw [List.mapM_cons] at h
      obtain ⟨imageId, hid, hrest⟩ := bind_eq_ok.mp h
      obtain ⟨others, hothers, hall⟩ := bind_eq_ok.mp hrest
      cases hall
      refine .cons ?_ (ih hothers)
      cases himage : version.imageId with
      | none =>
          rw [himage] at hid
          cases hid
      | some found =>
          rw [himage] at hid
          cases hid
          rfl

/-- An AMI check that passes. -/
theorem getAmiAndCheckAllAmisMatch_ret {targetAmi : String}
    (h : Runs legal (getAmiAndCheckAllAmisMatch component) t (.ret targetAmi)) :
    NamesAmi component targetAmi t := by
  obtain ⟨imageIds, t₁, t₂, ⟨⟩, rfl, h₁, h₂⟩ := Exec.bind_ret_inv h
  obtain ⟨rfl, hmatch⟩ := raise_ret_inv h₂
  obtain ⟨hne, hsame⟩ := assertAmisMatchAndGetAmi_eq_ok.mp hmatch
  obtain ⟨r, t₃, _, _, rfl, -, -, h₃⟩ := Exec.call_ret_inv h₁
  obtain ⟨launchTemplates, rfl, h₄⟩ := raise_bind_inv h₃
  obtain ⟨versions, t₄, t₅, ⟨⟩, rfl, h₅, h₆⟩ := Exec.bind_ret_inv h₄
  obtain ⟨rfl, hids⟩ := raise_ret_inv h₆
  have hfound := mapM_imageId_ret hids
  have hread := Exec.forEach_ret_inv h₅
  refine ⟨launchTemplates, ?_, by simp, fun launchTemplate hmem => ?_⟩
  · rintro rfl
    cases hread
    cases hfound
    exact hne rfl
  · obtain ⟨version, hversion, t₆, w₁, w₂, hsub, h₇⟩ := exists_of_forall₂ hread hmem
    obtain ⟨imageId, himage, hid⟩ := exists_of_forall₂ hfound hversion
    obtain ⟨r, t₇, _, _, rfl, -, -, h₈⟩ := Exec.call_ret_inv h₇
    obtain ⟨found, rfl, h₉⟩ := raise_bind_inv h₈
    obtain ⟨-, hfirst⟩ := raise_ret_inv h₉
    obtain ⟨rest, rfl⟩ := getIndex_zero_eq_ok hfirst
    refine ⟨version, rest, ?_, by rw [hid, hsame imageId himage]⟩
    have hev := hsub.subset List.mem_cons_self
    simp only [List.mem_append, List.mem_cons]
    exact .inl (.inr (.inl hev))

theorem getNodeDetails_ret {ip : String} {details : NodeDetails}
    (h : Runs legal (getNodeDetails ip) t (.ret details)) :
    ∃ st, ⟨.nodeStatus ip, .ok st⟩ ∈ t ∧ nodeDetails st = .ok details := by
  obtain ⟨u, t₁, t₂, ⟨⟩, rfl, h₁, h₂⟩ := Exec.bind_ret_inv h
  obtain rfl := connect_ret h₁
  obtain ⟨r, t₃, _, _, rfl, -, -, h₃⟩ := Exec.call_ret_inv h₂
  obtain ⟨st, hr, h₄⟩ := raise_bind_inv h₃
  obtain ⟨rfl, hst⟩ := raise_ret_inv h₄
  refine ⟨st, ?_, hst⟩
  rw [hr]
  simp

theorem fetchInstance_ret {item : Except PyExc MongoInstance} {node : Instance}
    (h : Runs legal (fetchInstance item) t (.ret node)) :
    ∃ inst, item = .ok inst ∧ Observed t inst node := by
  obtain ⟨inst, hitem, h₁⟩ := raise_bind_inv h
  obtain ⟨details, t₁, t₂, ⟨⟩, rfl, h₂, h₃⟩ := Exec.bind_ret_inv h₁
  obtain ⟨rfl, hnode⟩ := Exec.ret_inv h₃
  obtain ⟨st, hmem, hst⟩ := getNodeDetails_ret h₂
  cases hnode
  exact ⟨inst, hitem, rfl, rfl, rfl, st, by simpa using hmem, hst⟩

theorem Observed.mono {calls : Trace Calls} {inst : MongoInstance} {node : Instance}
    (h : Observed calls inst node) (hsub : calls ⊆ t) : Observed t inst node where
  instanceId_eq := h.instanceId_eq
  imageId_eq := h.imageId_eq
  ipAddress_eq := h.ipAddress_eq
  reported := by
    obtain ⟨st, hmem, hst⟩ := h.reported
    exact ⟨st, hsub hmem, hst⟩

/-- A list of results none of which is an exception. -/
theorem forall₂_ok {R : MongoInstance → Instance → Prop} {items : List (Except PyExc MongoInstance)}
    {nodes : List Instance}
    (h : List.Forall₂ (fun item node => ∃ inst, item = .ok inst ∧ R inst node) items nodes) :
    ∃ insts : List MongoInstance, items = insts.map Except.ok ∧ List.Forall₂ R insts nodes := by
  induction h with
  | nil => exact ⟨[], rfl, .nil⟩
  | cons hx _ ih =>
      obtain ⟨inst, hitem, hR⟩ := hx
      obtain ⟨insts, hitems, hall⟩ := ih
      refine ⟨inst :: insts, ?_, .cons hR hall⟩
      rw [hitem, hitems, List.map_cons]

/-- The nodes are the running instances of the listing, in its order. -/
theorem fetchReplicaSetStatus_ret {nodes : List Instance}
    (h : Runs legal (fetchReplicaSetStatus component) t (.ret nodes)) :
    ∃ reservations insts,
      ⟨.describeInstances (createInstanceNameFilters component), .ok reservations⟩ ∈ t ∧
      describeMongodbInstances reservations = insts.map Except.ok ∧
      List.Forall₂ (Observed t) insts nodes := by
  obtain ⟨items, t₁, t₂, ⟨⟩, rfl, h₁, h₂⟩ := Exec.bind_ret_inv h
  obtain ⟨reservations, rfl, rfl⟩ := getMongoDbInstances_ret h₁
  have hall := Exec.forEach_ret_inv h₂
  obtain ⟨insts, hitems, hnodes⟩ := forall₂_ok (hall.imp fun item node hx => by
    obtain ⟨t₃, w₁, w₂, hsub, hrun⟩ := hx
    obtain ⟨inst, hitem, hobs⟩ := fetchInstance_ret hrun
    exact ⟨inst, hitem, hobs.mono hsub.subset⟩)
  refine ⟨reservations, insts, by simp, hitems, hnodes.imp fun inst node hobs => ?_⟩
  exact hobs.mono (List.subset_append_right _ t₂)

/-- The calls of a finished observation: one AMI in all launch templates, the
    nodes of the listing, and one replica set. -/
structure Observes (component targetAmi : String) (nodes : List Instance) (calls : Trace Calls) :
    Prop where
  ami : NamesAmi component targetAmi calls
  listed : ∃ reservations insts,
    ⟨.describeInstances (createInstanceNameFilters component), .ok reservations⟩ ∈ calls ∧
    describeMongodbInstances reservations = insts.map Except.ok ∧
    List.Forall₂ (Observed calls) insts nodes
  sameSet : assertAllNodesInSameReplicaSet nodes = .ok ()
  report : ∃ before, calls = before ++ [⟨.log (.clusterStatus nodes targetAmi), ()⟩]

theorem observe_ret {targetAmi : String} {nodes : List Instance}
    (h : Runs legal (observe component) t (.ret (targetAmi, nodes))) :
    Observes component targetAmi nodes t := by
  obtain ⟨ami, t₁, t₂, ⟨⟩, rfl, h₁, h₂⟩ := Exec.bind_ret_inv h
  obtain ⟨nodes', t₃, t₄, ⟨⟩, rfl, h₃, h₄⟩ := Exec.bind_ret_inv h₂
  obtain ⟨u, hsame, h₅⟩ := raise_bind_inv h₄
  obtain ⟨t₅, rfl, h₆⟩ := log_bind_ret_inv h₅
  obtain ⟨rfl, heq⟩ := Exec.ret_inv h₆
  cases heq
  obtain ⟨reservations, insts, hlist, hinsts, hnodes⟩ := fetchReplicaSetStatus_ret h₃
  refine ⟨(getAmiAndCheckAllAmisMatch_ret h₁).mono (List.subset_append_left _ _), ?_, hsame,
    t₁ ++ t₃, by simp⟩
  refine ⟨reservations, insts, by simp [hlist], hinsts, hnodes.imp fun inst node hobs => hobs.mono ?_⟩
  intro ev hev
  simp [hev]

/-- A `step` that has returned has observed, has decided on what it observed,
    and has executed the decision. -/
theorem step_ret {d : Decision} (h : Runs legal (step component) t (.ret d)) :
    ∃ targetAmi nodes t₀ t₁, t = t₀ ++ ⟨.log (.outcome d), ()⟩ :: t₁ ∧
      Runs legal (observe component) t₀ (.ret (targetAmi, nodes)) ∧
      d = decideOnAction nodes targetAmi ∧ Runs legal (executeAction component d) t₁ (.ret ()) := by
  obtain ⟨⟨targetAmi, nodes⟩, t₀, t₁, ⟨⟩, rfl, h₀, h₁⟩ := Exec.bind_ret_inv h
  obtain ⟨t₂, rfl, h₂⟩ := log_bind_ret_inv h₁
  obtain ⟨u, t₃, t₄, ⟨⟩, rfl, h₃, h₄⟩ := Exec.bind_ret_inv h₂
  obtain ⟨rfl, hd⟩ := Exec.ret_inv h₄
  cases hd
  exact ⟨targetAmi, nodes, t₀, t₃, by simp, h₀, rfl, h₃⟩

-- ============================================================================
-- Done
-- ============================================================================

/-- When `step` returns `DONE`, every running instance whose node reported
    itself PRIMARY or SECONDARY has the AMI that all launch templates name. -/
theorem step_done (h : Runs legal (step component) t (.ret .done)) :
    ∃ targetAmi nodes t₀ t₁, t = t₀ ++ ⟨.log (.outcome .done), ()⟩ :: t₁ ∧
      Observes component targetAmi nodes t₀ ∧
      ∀ node ∈ nodes, node.mongoState = "PRIMARY" ∨ node.mongoState = "SECONDARY" →
        node.imageId = targetAmi := by
  obtain ⟨targetAmi, nodes, t₀, t₁, rfl, h₀, hd, -⟩ := step_ret h
  have hspec := decideOnAction_spec nodes targetAmi
  rw [← hd] at hspec
  refine ⟨targetAmi, nodes, t₀, t₁, rfl, observe_ret h₀, fun node hmem hstate => ?_⟩
  by_contra hami
  obtain ⟨hsecondary, hprimary⟩ := hspec node hmem hami
  rcases hstate with hstate | hstate
  · exact hprimary hstate
  · exact hsecondary hstate

end

/-- A replica set with one member left to recycle, which is recovering. -/
def recoveringSet : SteadySet where
  targetAmi := "ami-2"
  instances := [SteadySet.running "i-a" "ami-2" "10.0.0.1", SteadySet.running "i-b" "ami-1" "10.0.0.2"]
  myState ip := if ip = "10.0.0.1" then 1 else 3
  members := [SteadySet.member "10.0.0.1" "PRIMARY", SteadySet.member "10.0.0.2" "RECOVERING"]

theorem recoveringSet_run : Runs (fun _ _ => True) (step "web_mongo")
    ((step "web_mongo").walk recoveringSet.fullAnswer ()).1 (.ret .done) := by
  have hx := Prog.walk_exec recoveringSet.world recoveringSet.fullAnswer
    (fun w op r w' hr => by cases hr; rfl) (step "web_mongo") ()
  have hret : ((step "web_mongo").walk recoveringSet.fullAnswer ()).2.1 = .ret .done :=
    Prog.value?_eq_some.mp (by decide +kernel)
  rw [hret] at hx
  exact hx.runs fun _ _ _ _ _ => trivial

theorem step_done_recoveringSet :
    ∃ targetAmi nodes t₀ t₁,
      ((step "web_mongo").walk recoveringSet.fullAnswer ()).1 =
        t₀ ++ ⟨.log (.outcome .done), ()⟩ :: t₁ ∧
      Observes "web_mongo" targetAmi nodes t₀ ∧
      ∀ node ∈ nodes, node.mongoState = "PRIMARY" ∨ node.mongoState = "SECONDARY" →
        node.imageId = targetAmi :=
  step_done recoveringSet_run

/-- The nodes and the target AMI of a report of `report_cluster_status`. -/
def clusterStatus? : Event Calls → Option (List Instance × String)
  | ⟨.log (.clusterStatus nodes targetAmi), _⟩ => some (nodes, targetAmi)
  | _ => none

/-- `step` returns `DONE` while a data member is off the target AMI: it was
    recovering when it was observed. -/
theorem step_done_with_stale_member :
    ∃ t nodes targetAmi, Runs (fun _ _ => True) (step "web_mongo") t (.ret .done) ∧
      t.findSome? clusterStatus? = some (nodes, targetAmi) ∧
      ∃ node ∈ nodes, node.mongoState = "RECOVERING" ∧ node.imageId ≠ targetAmi := by
  refine ⟨_, [
    { instanceId := "i-a", imageId := "ami-2", ipAddress := "10.0.0.1", mongoState := "PRIMARY",
      replicaSetName := "rs0" },
    { instanceId := "i-b", imageId := "ami-1", ipAddress := "10.0.0.2", mongoState := "RECOVERING",
      replicaSetName := "rs0" }], "ami-2", recoveringSet_run, by decide +kernel, ?_⟩
  exact ⟨_, List.mem_cons_of_mem _ List.mem_cons_self, rfl, by decide⟩

end AutoRecycle.Mongo
