/-
  AutoRecycle.Mongo.Decision

  process/decision.py and process/pre_step_checks.py: the checks of what was
  observed, and the choice of the next instance to recycle.
-/
import AutoRecycle.Calls
import Mathlib.Data.List.Dedup

namespace AutoRecycle.Mongo

-- ============================================================================
-- pre_step_checks.py
-- ============================================================================

def assertAmisMatchAndGetAmi (component : String) (launchTemplateImageIds : List String) :
    Except PyExc String :=
  if launchTemplateImageIds.length = 0 then
    .error { cls := .noLaunchTemplatesFound,
             arg := "No launch templates start with `" ++ component ++ "`" }
  else
    match launchTemplateImageIds.dedup with
    | [imageId] => .ok imageId
    | _ => .error { cls := .launchTemplateAmiMismatch,
                    arg := "AMI IDs do not match in " ++ component ++ " launch templates" }

def assertAllNodesInSameReplicaSet (instances : List Instance) : Except PyExc Unit :=
  if (instances.map Instance.replicaSetName).dedup.length ≠ 1 then
    .error { cls := .mongoReplicaSetMismatch }
  else .ok ()

-- ============================================================================
-- decision.py
-- ============================================================================

def candidateStates : List String := ["PRIMARY", "SECONDARY"]

def findCandidates (instances : List Instance) (targetAmi : String) : List Instance :=
  instances.filter fun node => node.imageId ≠ targetAmi && candidateStates.contains node.mongoState

/-- models/instances.py. -/
def findInstances (instances : List Instance) (mongoState : String) : List Instance :=
  instances.filter fun node => node.mongoState = mongoState

def decideOnAction (replicaSetStatus : List Instance) (targetAmi : String) : Decision :=
  let candidates := findCandidates replicaSetStatus targetAmi
  match findInstances candidates "SECONDARY", findInstances candidates "PRIMARY" with
  | node :: _, _ => .recycleSecondary node
  | [], node :: _ => .stepDownAndRecyclePrimary node
  | [], [] => .done

-- ============================================================================
-- What a decision is about
-- ============================================================================

theorem assertAmisMatchAndGetAmi_eq_ok {component ami : String} {ids : List String} :
    assertAmisMatchAndGetAmi component ids = .ok ami ↔ ids ≠ [] ∧ ∀ i ∈ ids, i = ami := by
  cases ids with
  | nil => simp [assertAmisMatchAndGetAmi]
  | cons i is =>
    have hmem : ∀ j, j ∈ (i :: is).dedup ↔ j ∈ i :: is := fun j => List.mem_dedup
    have hnodup := List.nodup_dedup (i :: is)
    rw [assertAmisMatchAndGetAmi, if_neg (by simp)]
    cases hd : (i :: is).dedup with
    | nil =>
      rw [hd] at hmem
      exact absurd ((hmem i).mpr List.mem_cons_self) List.not_mem_nil
    | cons x xs =>
      rw [hd] at hmem hnodup
      cases xs with
      | nil =>
        have hall : ∀ j ∈ i :: is, j = x := fun j hj => List.mem_singleton.mp ((hmem j).mpr hj)
        have hx : x ∈ i :: is := (hmem x).mp List.mem_cons_self
        constructor
        · rintro ⟨rfl⟩
          exact ⟨by simp, hall⟩
        · rintro ⟨-, h⟩
          rw [h x hx]
      | cons y ys =>
        refine iff_of_false (by simp) fun ⟨_, h⟩ => ?_
        have hx := h x ((hmem x).mp List.mem_cons_self)
        have hy := h y ((hmem y).mp (by simp))
        rw [hx, hy] at hnodup
        simp at hnodup

theorem mem_candidates {instances : List Instance} {targetAmi state : String} {node : Instance} :
    node ∈ findInstances (findCandidates instances targetAmi) state ↔
      node ∈ instances ∧ node.imageId ≠ targetAmi ∧ node.mongoState ∈ candidateStates ∧
        node.mongoState = state := by
  simp only [findInstances, findCandidates, List.mem_filter, decide_eq_true_eq, Bool.and_eq_true,
    List.contains_iff_mem]
  tauto

/-- The decided instance was observed off the target AMI in the state that the
    action is for, and a primary is chosen only when no secondary is off it. -/
theorem decideOnAction_spec (instances : List Instance) (targetAmi : String) :
    match decideOnAction instances targetAmi with
    | .recycleSecondary node =>
        node ∈ instances ∧ node.imageId ≠ targetAmi ∧ node.mongoState = "SECONDARY"
    | .stepDownAndRecyclePrimary node =>
        (node ∈ instances ∧ node.imageId ≠ targetAmi ∧ node.mongoState = "PRIMARY") ∧
          ∀ other ∈ instances, other.imageId ≠ targetAmi → other.mongoState ≠ "SECONDARY"
    | .done => ∀ other ∈ instances, other.imageId ≠ targetAmi →
        other.mongoState ≠ "SECONDARY" ∧ other.mongoState ≠ "PRIMARY" := by
  have hnone : ∀ {state}, state ∈ candidateStates →
      findInstances (findCandidates instances targetAmi) state = [] →
      ∀ other ∈ instances, other.imageId ≠ targetAmi → other.mongoState ≠ state := by
    intro state hcand hnil other hmem hami hstate
    have hin : other ∈ findInstances (findCandidates instances targetAmi) state :=
      mem_candidates.mpr ⟨hmem, hami, by rwa [hstate], hstate⟩
    rw [hnil] at hin
    cases hin
  rw [decideOnAction]
  cases hs : findInstances (findCandidates instances targetAmi) "SECONDARY" with
  | cons node rest =>
    have hin := mem_candidates.mp (hs ▸ List.mem_cons_self : node ∈ findInstances _ "SECONDARY")
    exact ⟨hin.1, hin.2.1, hin.2.2.2⟩
  | nil =>
    have hsec := hnone (by simp [candidateStates]) hs
    cases hp : findInstances (findCandidates instances targetAmi) "PRIMARY" with
    | cons node rest =>
      have hin := mem_candidates.mp (hp ▸ List.mem_cons_self : node ∈ findInstances _ "PRIMARY")
      exact ⟨⟨hin.1, hin.2.1, hin.2.2.2⟩, hsec⟩
    | nil =>
      have hprim := hnone (by simp [candidateStates]) hp
      exact fun other hmem hami => ⟨hsec other hmem hami, hprim other hmem hami⟩

end AutoRecycle.Mongo
