/-
  AutoRecycle.Mongo.Invocation

  One invocation of the recycler in a fleet.

  An observation of a whole fleet shows every member (`observe_fleet`), so that
  a decision to recycle is about a stale member, and `DONE` is decided when none
  is left.  `Invocation` is what a finished invocation has done.
-/
import AutoRecycle.Mongo.Configuration
import AutoRecycle.Mongo.Done
import AutoRecycle.Mongo.EffectOrder
import AutoRecycle.Mongo.Fleet

namespace AutoRecycle.Mongo

open AutoRecycle.Data AutoRecycle.Effect AutoRecycle.Py

-- ============================================================================
-- What an observation shows
-- ============================================================================

/-- The record that the recycler makes of a server. -/
structure Shows (server : Server) (node : Instance) : Prop where
  instanceId_eq : node.instanceId = server.instanceId
  imageId_eq : node.imageId = server.imageId
  ipAddress_eq : node.ipAddress = server.ipAddress
  state : server.MayBe node.mongoState

/-- One record for each member. -/
def ShowsFleet (fleet : Fleet) (nodes : List Instance) : Prop :=
  ∃ order, List.Perm order fleet.members ∧ List.Forall₂ Shows order nodes

section
variable {targetAmi ami setName component : String} {fleet : Fleet} {t : Trace Calls}
  {nodes : List Instance} {node : Instance} {d : Decision}

/-- The target AMI that an observation finds is that of the launch templates. -/
theorem observe_targetAmi
    (h : Runs (FleetReply targetAmi setName fleet) (observe component) t (.ret (ami, nodes))) :
    ami = targetAmi := by
  obtain ⟨launchTemplates, hne, -, hversions⟩ := (observe_ret h).ami
  obtain ⟨launchTemplate, hmem⟩ := List.exists_mem_of_ne_nil launchTemplates hne
  obtain ⟨version, versions, hev, hami⟩ := hversions launchTemplate hmem
  obtain ⟨first, rest, hr, hfirst⟩ := h.legal_of_mem _ hev
  cases hr
  rw [hami] at hfirst
  cases hfirst
  rfl

/-- In a whole fleet an observation shows every member. -/
theorem observe_fleet (hwhole : fleet.missing = [])
    (h : Runs (FleetReply targetAmi setName fleet) (observe component) t (.ret (ami, nodes))) :
    ShowsFleet fleet nodes := by
  obtain ⟨reservations, insts, hlist, hinsts, hnodes⟩ := (observe_ret h).listed
  obtain ⟨listed, hr, hlists⟩ := h.legal_of_mem _ hlist
  cases hr
  obtain ⟨order, hperm, horder⟩ := hlists hwhole
  rw [horder] at hinsts
  obtain rfl : insts = order.map Server.listed := by
    have hinj : Function.Injective (Except.ok : MongoInstance → Except PyExc MongoInstance) :=
      fun a b hab => by cases hab; rfl
    apply List.map_injective_iff.mpr hinj
    rw [← hinsts, List.map_map]
    rfl
  rw [List.forall₂_map_left_iff] at hnodes
  refine ⟨order, hperm, ?_⟩
  have hmembers : ∀ server ∈ order, server ∈ fleet.members := fun server => hperm.mem_iff.mp
  refine ((List.forall₂_and_left order nodes).mpr ⟨hmembers, hnodes⟩).imp ?_
  rintro server node ⟨hserver, hobserved⟩
  obtain ⟨st, hst, hdetails⟩ := hobserved.reported
  obtain ⟨st', hr, hreports⟩ := h.legal_of_mem _ hst
  cases hr
  obtain ⟨state, hstate, hmay⟩ := hreports hwhole server hserver rfl
  rw [hstate] at hdetails
  cases hdetails
  exact ⟨hobserved.instanceId_eq, hobserved.imageId_eq, hobserved.ipAddress_eq, hmay⟩

/-- A decision to recycle is about a stale member, and `DONE` is decided when
    there is none. -/
theorem staleIds_of_decision (h : ShowsFleet fleet nodes) :
    match (decideOnAction nodes targetAmi).node? with
    | some node => node.instanceId ∈ fleet.staleIds targetAmi
    | none => fleet.staleIds targetAmi = [] := by
  obtain ⟨order, hperm, hnodes⟩ := h
  have hstale : ∀ node ∈ nodes, node.imageId ≠ targetAmi →
      node.mongoState = "SECONDARY" ∨ node.mongoState = "PRIMARY" →
      node.instanceId ∈ fleet.staleIds targetAmi := by
    intro node hmem hami hstate
    obtain ⟨server, hserver, hshows⟩ := exists_of_forall₂ hnodes.flip hmem
    refine Fleet.mem_staleIds.mpr ⟨server, hperm.mem_iff.mp hserver, ?_, hshows.instanceId_eq.symm⟩
    have hmay := hshows.state
    rw [Server.MayBe] at hmay
    split at hmay
    · rw [hmay] at hstate
      simp at hstate
    · next harbiter =>
      rw [hshows.imageId_eq] at hami
      simp [Server.isStale, harbiter, hami]
  have hspec := decideOnAction_spec nodes targetAmi
  cases hd : decideOnAction nodes targetAmi with
  | recycleSecondary node =>
      rw [hd] at hspec
      exact hstale node hspec.1 hspec.2.1 (.inl hspec.2.2)
  | stepDownAndRecyclePrimary node =>
      rw [hd] at hspec
      exact hstale node hspec.1.1 hspec.1.2.1 (.inr hspec.1.2.2)
  | done =>
      rw [hd] at hspec
      rw [Decision.node?, List.eq_nil_iff_forall_not_mem]
      intro id hid
      obtain ⟨server, hserver, hisStale, -⟩ := Fleet.mem_staleIds.mp hid
      obtain ⟨node, hmem, hshows⟩ := exists_of_forall₂ hnodes (hperm.mem_iff.mpr hserver)
      simp only [Server.isStale, Bool.and_eq_true, Bool.not_eq_true', decide_eq_true_eq] at hisStale
      rw [← hshows.imageId_eq] at hisStale
      obtain ⟨hsecondary, hprimary⟩ := hspec node hmem hisStale.2
      have hmay := hshows.state
      rw [Server.MayBe, hisStale.1, if_neg Bool.false_ne_true] at hmay
      rcases hmay with hstate | hstate
      · exact hprimary hstate
      · exact hsecondary hstate

end

-- ============================================================================
-- One invocation
-- ============================================================================

/-- A primary is stepped down for the decision in force, which is the one on the
    report just before it: that shows the primary off the target AMI, and no
    SECONDARY. -/
def StepDownsJustified (targetAmi : String) (calls : Trace Calls) : Prop :=
  ∀ pre ip secs r post, calls = pre ++ ⟨.replSetStepDown ip secs, r⟩ :: post →
    ∃ nodes node before after, pre = before ++ ⟨.log (.clusterStatus nodes targetAmi), ()⟩ ::
        ⟨.log (.outcome (.stepDownAndRecyclePrimary node)), ()⟩ :: after ∧ outcomes after = [] ∧
      node.ipAddress = ip ∧ node ∈ nodes ∧ node.mongoState = "PRIMARY" ∧ node.imageId ≠ targetAmi ∧
      ∀ other ∈ nodes, other.imageId ≠ targetAmi → other.mongoState ≠ "SECONDARY"

section
variable {targetAmi setName component : String} {t : Trace Calls} {d : Decision}

theorem issues_executeAction_stepDown : (executeAction component d).Issues fun op : Op =>
    ∀ ip secs, op = .replSetStepDown ip secs →
      ∃ node, d = .stepDownAndRecyclePrimary node ∧ node.ipAddress = ip := by
  have hwait : (waitUntilClusterHealthy component).Issues fun op : Op =>
      ∀ ip secs, op = .replSetStepDown ip secs →
        ∃ node, d = .stepDownAndRecyclePrimary node ∧ node.ipAddress = ip :=
    issues_waitUntilClusterHealthy (by simp) (by simp) (by simp) (by simp) (by simp)
  refine (issues_getMongoDbInstances (by simp)).bind fun items => ?_
  refine (issues_raise_bind _ _).mpr fun conn _ => ?_
  cases d with
  | done => exact (issues_setChaining (by simp) (by simp) (by simp) (by simp)).bind fun _ => trivial
  | recycleSecondary node =>
      refine (issues_setChaining (by simp) (by simp) (by simp) (by simp)).bind fun _ => ?_
      exact issues_recycle (by simp) (by simp) (by simp) hwait (by simp) (by simp)
  | stepDownAndRecyclePrimary node =>
      refine (issues_setChaining (by simp) (by simp) (by simp) (by simp)).bind fun _ => ?_
      refine (issues_stepDownAndWait (issues_stepDown (by simp) ?_) hwait (by simp)).bind fun _ => ?_
      · rintro ip secs ⟨⟩
        exact ⟨node, rfl, rfl⟩
      · exact issues_recycle (by simp) (by simp) (by simp) hwait (by simp) (by simp)

/-- A decision to recycle that has been executed has terminated its instance,
    and nothing else. -/
theorem terminatedIds_executeAction (h : Runs filtersById (executeAction component d) t (.ret ())) :
    terminatedIds t = (d.node?.map Instance.instanceId).toList := by
  have hquiet : ∀ {α : Type} {p q : Py α} {t : Trace Calls}, Runs filtersById p t q →
      p.Issues (fun op => isTerminate op = false) → terminatedIds t = [] := by
    intro α p q t hp hissues
    exact terminatedIds_eq_nil (hp.issues hissues).1
  have hwait : (waitUntilClusterHealthy component).Issues fun op => isTerminate op = false :=
    issues_waitUntilClusterHealthy (fun _ => rfl) (fun _ => rfl) (fun _ => rfl) (fun _ _ => rfl)
      fun _ => rfl
  have hset : ∀ conn b, (setChaining conn b).Issues fun op => isTerminate op = false :=
    fun conn b => issues_setChaining rfl rfl (fun _ _ => rfl) fun _ _ => rfl
  obtain ⟨items, t₀, t₁, ⟨⟩, rfl, h₀, h₁⟩ := Exec.bind_ret_inv h
  obtain ⟨conn, -, h₂⟩ := raise_bind_inv h₁
  rw [terminatedIds_append, hquiet h₀ (issues_getMongoDbInstances fun _ => rfl), List.nil_append]
  have hrecycle : ∀ {node : Instance} {t : Trace Calls},
      Runs filtersById (recycle component node) t (.ret ()) → terminatedIds t = [node.instanceId] := by
    intro node t ht
    rw [recycle_eq] at ht
    obtain ⟨id, t₂, t₃, ⟨⟩, rfl, h₃, h₄⟩ := Exec.bind_ret_inv ht
    obtain rfl := findNode_ret h₃
    have hid : id = node.instanceId :=
      Runs.legal_of_mem h₃ ⟨.filterInstances node.instanceId, .ok [id]⟩ (by simp) id (by simp)
    obtain ⟨r, t₄, _, _, rfl, -, -, h₅⟩ := Exec.call_ret_inv h₄
    have hafter := hquiet h₅ (issues_afterTerminate hwait rfl (fun _ _ => rfl) (fun _ => rfl) r)
    have hcalls : terminatedIds ([⟨.log .recyclingInstance, ()⟩,
        ⟨.filterInstances node.instanceId, .ok [id]⟩] ++ ⟨.terminate id, r⟩ :: t₄) =
        id :: terminatedIds t₄ := rfl
    rw [hcalls, hafter, hid]
  cases d with
  | done =>
      obtain ⟨config, t₂, t₃, ⟨⟩, rfl, h₃, h₄⟩ := Exec.bind_ret_inv h₂
      obtain ⟨rfl, -⟩ := Exec.ret_inv h₄
      rw [List.append_nil]
      exact hquiet h₃ (hset conn true)
  | recycleSecondary node =>
      obtain ⟨config, t₂, t₃, ⟨⟩, rfl, h₃, h₄⟩ := Exec.bind_ret_inv h₂
      rw [terminatedIds_append, hquiet h₃ (hset conn false), List.nil_append]
      exact hrecycle h₄
  | stepDownAndRecyclePrimary node =>
      obtain ⟨config, t₂, t₃, ⟨⟩, rfl, h₃, h₄⟩ := Exec.bind_ret_inv h₂
      obtain ⟨u, t₄, t₅, ⟨⟩, rfl, h₅, h₆⟩ := Exec.bind_ret_inv h₄
      have hdown := hquiet h₅ (issues_stepDownAndWait (issues_stepDown rfl rfl) hwait fun _ _ => rfl)
      rw [terminatedIds_append, hquiet h₃ (hset conn false), terminatedIds_append, hdown]
      exact hrecycle h₆

theorem StepDownsJustified.append {calls : Trace Calls} (hcalls : StepDownsJustified targetAmi calls)
    (ht : StepDownsJustified targetAmi t) : StepDownsJustified targetAmi (calls ++ t) := by
  intro pre ip secs r post heq
  rcases split_of_append heq with ⟨mid, hleft, -⟩ | ⟨mid, rfl, hright⟩
  · exact hcalls pre ip secs r mid hleft
  · obtain ⟨nodes, node, before, after, rfl, hrest⟩ := ht mid ip secs r post hright
    exact ⟨nodes, node, calls ++ before, after, by simp, hrest⟩

/-- Where nothing is stepped down there is nothing to justify. -/
theorem stepDownsJustified_of_none (h : ∀ ev ∈ t, ∀ ip secs, ev.1 ≠ .replSetStepDown ip secs) :
    StepDownsJustified targetAmi t := by
  rintro pre ip secs r post rfl
  exact absurd rfl (h ⟨.replSetStepDown ip secs, r⟩ (by simp) ip secs)

/-- What an invocation that has taken the decision `d` has done. -/
structure Invocation (targetAmi : String) (fleet fleet' : Fleet) (d : Decision) (calls : Trace Calls) :
    Prop where
  outcomes_eq : outcomes calls = [d]
  terminated_eq : terminatedIds calls = (d.node?.map Instance.instanceId).toList
  stale : match d.node? with
    | some node => node.instanceId ∈ fleet.staleIds targetAmi
    | none => fleet.staleIds targetAmi = []
  staleIds_eq : fleet'.staleIds targetAmi = (fleet.staleIds targetAmi).diff (terminatedIds calls)
  size_eq : fleet'.size = fleet.size
  renewed : fleet.Renewed targetAmi fleet'
  justified : StepDownsJustified targetAmi calls

variable {fleet fleet' : Fleet}

theorem filtersById_of_answers {op : Op} {r : op.Reply}
    (h : (fleetWorld targetAmi setName).answers fleet op r fleet') : filtersById op r := by
  cases op with
  | filterInstances id =>
      have hr : r = .ok [id] := h.1
      rw [hr]
      exact fun i hi => List.mem_singleton.mp hi
  | _ => trivial

theorem step_exec (hwhole : fleet.missing = [])
    (h : Exec (fleetWorld targetAmi setName) (step component) fleet t (.ret d) fleet') :
    Invocation targetAmi fleet fleet' d t := by
  obtain ⟨hstale, hsize⟩ := staleIds_exec h
  have hruns : Runs (fun _ _ => True) (step component) t (.ret d) := h.runs fun _ _ _ _ _ => trivial
  have houtcomes : outcomes t = [d] := outcomes_step hruns
  obtain ⟨⟨ami, nodes⟩, t₀, t₁, w₁, rfl, h₀, h₁⟩ := Exec.bind_ret_inv h
  have hobserve : ∀ {P : Op → Prop}, (∀ op, isTerminate op = false →
      (∀ ip secs, op ≠ .replSetStepDown ip secs) → P op) → (observe component).Issues P := fun hP =>
    issues_observe (fun _ => hP _ rfl (by simp)) (fun _ _ => hP _ rfl (by simp))
      (fun _ => hP _ rfl (by simp)) (fun _ => hP _ rfl (by simp)) (fun _ => hP _ rfl (by simp))
      fun _ _ => hP _ rfl (by simp)
  obtain ⟨rfl, h₂⟩ := whole_exec h₀ hwhole (hobserve fun _ hop _ => hop)
  obtain rfl := observe_targetAmi h₂
  obtain ⟨r, t₂, w₂, w₃, rfl, hr, ha, h₃⟩ := Exec.call_ret_inv h₁
  obtain rfl : r = () := rfl
  have h₃ : Exec (fleetWorld ami setName) (executeAction component (decideOnAction nodes ami) >>=
      fun _ => .ret (decideOnAction nodes ami)) w₃ t₂ (.ret d) fleet' := h₃
  obtain ⟨u, t₃, t₄, w₄, rfl, h₄, h₅⟩ := Exec.bind_ret_inv h₃
  obtain ⟨rfl, hd⟩ := Exec.ret_inv h₅
  cases hd
  have h₆ : Runs filtersById _ _ _ := h₄.runs fun _ _ _ _ => filtersById_of_answers
  have hquiet : terminatedIds t₀ = [] :=
    terminatedIds_eq_nil (h₂.issues (hobserve fun _ hop _ => hop)).1
  have hnone : outcomes t₃ = [] := outcomes_eq_nil h₄ (issues_executeAction fun _ hop _ _ => hop)
  have hbefore : ∀ ev ∈ t₀, ∀ ip secs, ev.1 ≠ .replSetStepDown ip secs :=
    (h₂.issues (hobserve fun _ _ hop => hop)).1
  rw [List.append_nil]
  refine ⟨by rwa [List.append_nil] at houtcomes, ?_, staleIds_of_decision (observe_fleet hwhole h₂),
    by rwa [List.append_nil] at hstale, hsize, renewed_exec h, ?_⟩
  · have hreport : terminatedIds (⟨.log (.outcome (decideOnAction nodes ami)), ()⟩ :: t₃) =
        terminatedIds t₃ := rfl
    rw [terminatedIds_append, hquiet, List.nil_append, hreport]
    exact terminatedIds_executeAction h₆
  · intro pre ip secs r' post heq
    have hnot : (⟨.replSetStepDown ip secs, r'⟩ : Event Calls) ∉
        t₀ ++ [⟨.log (.outcome (decideOnAction nodes ami)), ()⟩] := by
      intro hmem
      rcases List.mem_append.mp hmem with hmem | hmem
      · exact hbefore _ hmem ip secs rfl
      · cases List.mem_singleton.mp hmem
    rw [List.append_cons] at heq
    obtain ⟨mid, hleft, -⟩ | ⟨mid, rfl, rfl⟩ := split_of_append heq
    · exact absurd (by rw [hleft]; simp) hnot
    obtain ⟨node, hdecided, hip⟩ := (h₆.issues issues_executeAction_stepDown).1
      ⟨.replSetStepDown ip secs, r'⟩ (by simp) ip secs rfl
    have hspec := decideOnAction_spec nodes ami
    rw [hdecided] at hspec ⊢
    obtain ⟨before, rfl⟩ := (observe_ret h₂).report
    rw [outcomes_append, List.append_eq_nil_iff] at hnone
    exact ⟨nodes, node, before, mid, by simp, hnone.1, hip, hspec.1.1, hspec.1.2.2, hspec.1.2.1, hspec.2⟩

/-- A finished invocation has taken one step. -/
theorem lambdaHandler_exec {event out : Asl.Json} (hwhole : fleet.missing = [])
    (h : Exec (fleetWorld targetAmi setName) (lambdaHandler event) fleet t (.ret out) fleet') :
    ∃ d, finishEvent event d = .ok out ∧ Invocation targetAmi fleet fleet' d t := by
  have hrest : ∀ {component : Asl.Json} {t : Trace Calls},
      Exec (fleetWorld targetAmi setName) (takeStep event component) fleet t (.ret out) fleet' →
      ∃ d, finishEvent event d = .ok out ∧ Invocation targetAmi fleet fleet' d t := by
    intro component t ht
    obtain ⟨name, -, ht⟩ := raise_bind_inv ht
    obtain ⟨d, t₁, t₂, w₁, rfl, h₁, h₂⟩ := Exec.bind_ret_inv ht
    obtain ⟨rfl, hout⟩ := raise_ret_inv h₂
    obtain ⟨hstale, hsize⟩ := staleIds_exec ht
    rw [List.append_nil] at hstale ⊢
    exact ⟨d, hout, { step_exec hwhole h₁ with
      staleIds_eq := hstale, size_eq := hsize, renewed := renewed_exec ht }⟩
  rw [lambdaHandler_eq] at h
  obtain ⟨component, -, h₁⟩ := raise_bind_inv h
  by_cases hfirst : isFirstRun event = true
  · rw [if_pos hfirst] at h₁
    obtain ⟨u, t₁, t₂, w₁, rfl, h₂, h₃⟩ := Exec.bind_ret_inv h₁
    have hrecord : ∀ {P : Op → Prop}, (∀ op, isTerminate op = false → isOutcomeCall op = false →
        (∀ ip secs, op ≠ .replSetStepDown ip secs) → P op) →
        (recordRecycleStarting component).Issues P := fun hP =>
      issues_recordRecycleStarting (hP _ rfl rfl (by simp)) (fun _ _ => hP _ rfl rfl (by simp))
        fun _ hl => hP _ rfl hl (by simp)
    obtain ⟨rfl, -⟩ := whole_exec h₂ hwhole (hrecord fun _ hop _ _ => hop)
    obtain ⟨d, hout, hd⟩ := hrest h₃
    have houtcomes : outcomes t₁ = [] := outcomes_eq_nil h₂ (hrecord fun _ _ hop _ => hop)
    have hquiet : terminatedIds t₁ = [] :=
      terminatedIds_eq_nil (h₂.issues (hrecord fun _ hop _ _ => hop)).1
    refine ⟨d, hout, ?_, ?_, hd.stale, ?_, hd.size_eq, hd.renewed,
      .append (stepDownsJustified_of_none ?_) hd.justified⟩
    · rw [outcomes_append, houtcomes, List.nil_append, hd.outcomes_eq]
    · rw [terminatedIds_append, hquiet, List.nil_append, hd.terminated_eq]
    · rw [terminatedIds_append, hquiet, List.nil_append, hd.staleIds_eq]
    · exact (h₂.issues (hrecord fun _ _ _ hop => hop)).1
  · rw [if_neg hfirst] at h₁
    exact hrest h₁

end

end AutoRecycle.Mongo
