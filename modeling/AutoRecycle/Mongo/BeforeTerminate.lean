/-
  AutoRecycle.Mongo.BeforeTerminate

  What the recycler has seen of the replica set when it calls `terminate`.

  A SECONDARY is terminated on the node states that led to the decision; no
  status of the replica set is read in between.  A PRIMARY is terminated on the
  status that ended the health poll after its step-down, the first healthy one.
  `executeAction_view` says so of every run, and the two questions of this
  module are answered from it: whether the instance was last seen as the
  primary, and whether the replica set was last seen whole.
-/
import AutoRecycle.Mongo.Branch
import AutoRecycle.Mongo.Runs

namespace AutoRecycle.Mongo

open AutoRecycle.Asl AutoRecycle.Effect AutoRecycle.Py AutoRecycle.StateMachine

-- ============================================================================
-- Statuses
-- ============================================================================

/-- The replica set status that an event reads. -/
def status? : Event Calls → Option ReplSetStatus
  | ⟨.replicaSetStatus _, .ok st⟩ => some st
  | _ => none

/-- The last replica set status read. -/
def lastStatus (calls : Trace Calls) : Option ReplSetStatus := calls.reverse.findSome? status?

/-- The first status of a healthy replica set. -/
def firstHealthyStatus (calls : Trace Calls) : Option ReplSetStatus := calls.findSome? healthyStatus?

/-- Every member is in a healthy state, and one is the primary. -/
def Healthy (memberStates : List String) : Prop :=
  (∀ s ∈ memberStates, s ∈ healthyStates) ∧ memberStates.count "PRIMARY" = 1

theorem healthy_of_assertReplicaSetHealthy {st : ReplSetStatus}
    (h : assertReplicaSetHealthy st = .ok ()) : Healthy (st.members.map Member.stateStr) := by
  obtain ⟨hnodes, hone⟩ := assertReplicaSetHealthy_eq_ok.mp h
  constructor
  · intro s hs
    obtain ⟨member, hmember, rfl⟩ := List.mem_map.mp hs
    exact (assertAllNodesHealthy_eq_ok.mp hnodes member hmember).1
  · rw [← assertOnePrimaryNode_eq_ok.mp hone, List.count_eq_countP, List.countP_map]
    rfl

section
variable {P : Op → Prop} {legal : (op : Op) → op.Reply → Prop} {component id : String}
  {decision : Decision} {t : Trace Calls}

theorem status?_eq_none {op : Op} (h : ∀ host, op ≠ .replicaSetStatus host) (r : op.Reply) :
    status? ⟨op, r⟩ = none := by
  cases op with
  | replicaSetStatus host => exact absurd rfl (h host)
  | _ => rfl

theorem no_status {α : Type} {p q : Py α} (h : Runs legal p t q)
    (hp : p.Issues fun op : Op => ∀ host, op ≠ .replicaSetStatus host) :
    ∀ ev ∈ t, status? ev = none :=
  fun ev hev => status?_eq_none ((h.issues hp).1 ev hev) ev.2

theorem healthyStatus?_of_status? {ev : Event Calls} (h : status? ev = none) :
    healthyStatus? ev = none := by
  obtain ⟨op, r⟩ := ev
  cases op with
  | replicaSetStatus host =>
      cases r with
      | ok st => cases h
      | error e => rfl
  | _ => rfl

theorem lastStatus_eq_none (h : ∀ ev ∈ t, status? ev = none) : lastStatus t = none := by
  rw [lastStatus, List.findSome?_eq_none_iff]
  intro ev hev
  exact h ev (List.mem_reverse.mp hev)

theorem lastStatus_append {pre post : Trace Calls} {ev : Event Calls} {st : ReplSetStatus}
    (hev : status? ev = some st) (hpost : ∀ ev ∈ post, status? ev = none) :
    lastStatus (pre ++ ev :: post) = some st := by
  rw [lastStatus, List.reverse_append, List.reverse_cons, List.findSome?_append,
    List.findSome?_append]
  have hnone : post.reverse.findSome? status? = none := lastStatus_eq_none hpost
  simp [hnone, hev]

theorem lastStatus_append_left {pre post : Trace Calls} (hpre : ∀ ev ∈ pre, status? ev = none) :
    lastStatus (pre ++ post) = lastStatus post := by
  rw [lastStatus, List.reverse_append, List.findSome?_append]
  have hnone : pre.reverse.findSome? status? = none := lastStatus_eq_none hpre
  rw [hnone, Option.or_none, lastStatus]

theorem firstHealthyStatus_append {pre post : Trace Calls} {ev : Event Calls} {st : ReplSetStatus}
    (hpre : ∀ ev ∈ pre, healthyStatus? ev = none) (hev : healthyStatus? ev = some st) :
    firstHealthyStatus (pre ++ ev :: post) = some st := by
  rw [firstHealthyStatus, List.findSome?_append, List.findSome?_eq_none_iff.mpr hpre]
  simp [hev]

-- ============================================================================
-- The view of execute_action
-- ============================================================================

/-- The last look at the replica set before `terminate`. -/
theorem executeAction_view {next : Except PyExc Unit → Py Unit}
    (h : Runs legal (executeAction component decision) t (.call (.terminate id) next)) :
    ∃ node, decision.node? = some node ∧ ⟨.filterInstances node.instanceId, .ok [id]⟩ ∈ t ∧
      (decision.action ≠ .stepDownAndRecyclePrimary ∧ (∀ ev ∈ t, status? ev = none) ∨
        decision.action = .stepDownAndRecyclePrimary ∧ ∃ t₀ host st t₁,
          t = t₀ ++ ⟨.replicaSetStatus host, .ok st⟩ :: t₁ ∧
          (∀ ev ∈ t₀, healthyStatus? ev = none) ∧ (∀ ev ∈ t₁, status? ev = none) ∧
          assertReplicaSetHealthy st = .ok ()) := by
  obtain ⟨node, items, conn, config, t₀, t₁, t₂, hnode, rfl, h₀, -, h₁, h₂, -⟩ :=
    executeAction_terminate h
  have hlist := no_status h₀ (issues_getMongoDbInstances (by simp))
  have hset := no_status h₁ (issues_setChaining (by simp) (by simp) (by simp) (by simp))
  refine ⟨node, hnode, by simp, ?_⟩
  by_cases hact : decision.action = .stepDownAndRecyclePrimary
  · rw [if_pos hact] at h₂
    obtain ⟨t₃, rfl, h₃⟩ := log_bind_ret_inv h₂
    obtain ⟨u, t₄, t₅, ⟨⟩, rfl, h₄, h₅⟩ := Exec.bind_ret_inv h₃
    obtain ⟨t₆, rfl, h₆⟩ := log_bind_ret_inv h₅
    obtain ⟨t₇, host, st, rfl, hnone, hst⟩ := waitUntilClusterHealthy_ret h₆
    have hstep := no_status h₄ (issues_stepDown (by simp) (by simp))
    refine .inr ⟨hact, t₀ ++ t₁ ++ ⟨.log .steppingDown, ()⟩ :: t₄ ++
      ⟨.log .waitingForStepDown, ()⟩ :: t₇, host, st,
      [⟨.log .pollingSucceeded, ()⟩, ⟨.log .recyclingInstance, ()⟩,
        ⟨.filterInstances node.instanceId, .ok [id]⟩], by simp, ?_, ?_, hst⟩
    · simp only [List.mem_append, List.mem_cons]
      rintro ev (((hev | hev) | rfl | hev) | rfl | hev)
      · exact healthyStatus?_of_status? (hlist ev hev)
      · exact healthyStatus?_of_status? (hset ev hev)
      · rfl
      · exact healthyStatus?_of_status? (hstep ev hev)
      · rfl
      · exact hnone ev hev
    · simp only [List.mem_cons, List.not_mem_nil, or_false]
      rintro ev (rfl | rfl | rfl) <;> rfl
  · rw [if_neg hact] at h₂
    obtain ⟨rfl, -⟩ := Exec.ret_inv h₂
    refine .inl ⟨hact, ?_⟩
    simp only [List.mem_append, List.mem_cons, List.not_mem_nil, or_false]
    rintro ev ((hev | hev) | rfl | rfl)
    · exact hlist ev hev
    · exact hset ev hev
    · rfl
    · rfl

end

-- ============================================================================
-- The way from step
-- ============================================================================

section
variable {P : Op → Prop} {component : String}

theorem issues_fetchInstance {item : Except PyExc MongoInstance} (hconnect : ∀ ip, P (.connect ip))
    (hstatus : ∀ ip, P (.nodeStatus ip)) : (fetchInstance item).Issues P := by
  refine (issues_raise_bind _ _).mpr fun inst _ => Prog.Issues.bind ?_ fun _ => trivial
  refine (issues_connect (hconnect _)).bind fun _ => ⟨hstatus _, fun r => ?_⟩
  exact (issues_raise_bind _ _).mpr fun _ _ => issues_raise _

theorem issues_observe (htemplates : ∀ value, P (.describeLaunchTemplates value))
    (hversions : ∀ i v, P (.describeLaunchTemplateVersions i v))
    (hdescribe : ∀ values, P (.describeInstances values)) (hconnect : ∀ ip, P (.connect ip))
    (hstatus : ∀ ip, P (.nodeStatus ip))
    (hlog : ∀ line : LogLine, line.isOutcome = false → P (.log line)) :
    (observe component).Issues P := by
  refine Prog.Issues.bind ?_ fun ami => Prog.Issues.bind ?_ fun nodes => ?_
  · refine Prog.Issues.bind ⟨htemplates _, fun r => ?_⟩ fun _ => issues_raise _
    refine (issues_raise_bind _ _).mpr fun templates _ => Prog.Issues.bind ?_ fun _ => issues_raise _
    refine Prog.Issues.forEach (fun template => ?_) _
    exact ⟨hversions _ _, fun r => (issues_raise_bind _ _).mpr fun _ _ => issues_raise _⟩
  · exact (issues_getMongoDbInstances hdescribe).bind fun items =>
      Prog.Issues.forEach (fun item => issues_fetchInstance hconnect hstatus) _
  · exact (issues_raise_bind _ _).mpr fun _ _ => (issues_log_bind _ _).mpr ⟨hlog _ rfl, trivial⟩

/-- A `step` that has come to `terminate` has observed the replica set, has
    decided, and is inside `execute_action`. -/
theorem step_terminate {legal : (op : Op) → op.Reply → Prop} {id : String} {t : Trace Calls}
    {next : Except PyExc Unit → Py Decision}
    (h : Runs legal (step component) t (.call (.terminate id) next)) :
    ∃ targetAmi nodes t₀ t₁ next', t = t₀ ++ ⟨.log (.outcome (decideOnAction nodes targetAmi)), ()⟩ :: t₁ ∧
      Runs legal (observe component) t₀ (.ret (targetAmi, nodes)) ∧
      Runs legal (executeAction component (decideOnAction nodes targetAmi)) t₁
        (.call (.terminate id) next') := by
  obtain ⟨⟨targetAmi, nodes⟩, t₀, t₁, ⟨⟩, rfl, h₀, h₁⟩ := Exec.bind_call_inv h
    (issues_observe (by simp) (by simp) (by simp) (by simp) (by simp) (by simp))
  obtain ⟨u, t₂, t₃, ⟨⟩, rfl, h₂, h₃⟩ := Exec.bind_call_inv h₁ ((issues_log _).mpr (by simp))
  obtain rfl := log_ret_inv h₂
  obtain ⟨next', h₄⟩ := Exec.bind_call_left h₃ fun _ => trivial
  exact ⟨targetAmi, nodes, t₀, t₃, next', rfl, h₀, h₄⟩

/-- What `step` has seen when it has come to `terminate`. -/
theorem step_view {legal : (op : Op) → op.Reply → Prop} {id : String} {t : Trace Calls}
    {next : Except PyExc Unit → Py Decision}
    (h : Runs legal (step component) t (.call (.terminate id) next)) :
    ∃ targetAmi nodes node t₀ t₁,
      t = t₀ ++ ⟨.log (.outcome (decideOnAction nodes targetAmi)), ()⟩ :: t₁ ∧
      Runs legal (observe component) t₀ (.ret (targetAmi, nodes)) ∧
      (decideOnAction nodes targetAmi).node? = some node ∧
      ⟨.filterInstances node.instanceId, .ok [id]⟩ ∈ t₁ ∧
      ((decideOnAction nodes targetAmi = .recycleSecondary node ∧ lastStatus t = none) ∨
        decideOnAction nodes targetAmi = .stepDownAndRecyclePrimary node ∧
          ∃ st, lastStatus t = some st ∧ firstHealthyStatus t₁ = some st ∧
            assertReplicaSetHealthy st = .ok ()) := by
  obtain ⟨targetAmi, nodes, t₀, t₁, next', rfl, h₀, h₁⟩ := step_terminate h
  obtain ⟨node, hnode, hfound, hview⟩ := executeAction_view h₁
  have hobserve := no_status h₀
    (issues_observe (by simp) (by simp) (by simp) (by simp) (by simp) (by simp))
  refine ⟨targetAmi, nodes, node, t₀, t₁, rfl, h₀, hnode, hfound, ?_⟩
  obtain ⟨hact, hnone⟩ | ⟨hact, t₂, host, st, t₃, rfl, hpre, hpost, hst⟩ := hview
  · refine .inl ⟨?_, lastStatus_eq_none ?_⟩
    · cases hd : decideOnAction nodes targetAmi with
      | done => rw [hd] at hnode; cases hnode
      | recycleSecondary node' => rw [hd] at hnode; cases hnode; rfl
      | stepDownAndRecyclePrimary node' => rw [hd] at hact; exact absurd rfl hact
    · simp only [List.mem_append, List.mem_cons]
      rintro ev (hev | rfl | hev)
      · exact hobserve ev hev
      · rfl
      · exact hnone ev hev
  · refine .inr ⟨?_, st, ?_, ?_, hst⟩
    · cases hd : decideOnAction nodes targetAmi with
      | done => rw [hd] at hnode; cases hnode
      | recycleSecondary node' => rw [hd] at hact; cases hact
      | stepDownAndRecyclePrimary node' => rw [hd] at hnode; cases hnode; rfl
    · rw [← List.cons_append, ← List.append_assoc]
      exact lastStatus_append rfl hpost
    · exact firstHealthyStatus_append hpre (by simp [healthyStatus?, hst])

end

-- ============================================================================
-- Is it the primary?
-- ============================================================================

/-- The status shows the instance as the primary.  `isMember` says which member
    of the replica set an instance is. -/
def ShowsPrimary (isMember : Member → Instance → Prop) (st : ReplSetStatus) (node : Instance) : Prop :=
  ∃ m ∈ st.members, isMember m node ∧ m.stateStr = "PRIMARY"

/-- The instance was last seen as the primary: in the last status read, or, as
    long as none has been read, in the state of its node. -/
def LastSeenPrimary (isMember : Member → Instance → Prop) (calls : Trace Calls) (node : Instance) :
    Prop :=
  match lastStatus calls with
  | some st => ShowsPrimary isMember st node
  | none => node.mongoState = "PRIMARY"

/-- At the call of `terminate` the decided instance was last seen as something
    else than the primary, if and only if it was not stepped down, or the first
    healthy status after its step-down shows it as something else. -/
theorem step_not_primary_iff (isMember : Member → Instance → Prop)
    {legal : (op : Op) → op.Reply → Prop} {component id : String} {t : Trace Calls}
    {next : Except PyExc Unit → Py Decision}
    (h : Runs legal (step component) t (.call (.terminate id) next)) :
    ∃ targetAmi nodes node t₀ t₁,
      t = t₀ ++ ⟨.log (.outcome (decideOnAction nodes targetAmi)), ()⟩ :: t₁ ∧
      Runs legal (observe component) t₀ (.ret (targetAmi, nodes)) ∧
      (decideOnAction nodes targetAmi).node? = some node ∧
      ⟨.filterInstances node.instanceId, .ok [id]⟩ ∈ t₁ ∧
      (¬ LastSeenPrimary isMember t node ↔
        ((decideOnAction nodes targetAmi).action = .stepDownAndRecyclePrimary →
          ∃ st, firstHealthyStatus t₁ = some st ∧ ¬ ShowsPrimary isMember st node)) := by
  obtain ⟨targetAmi, nodes, node, t₀, t₁, rfl, h₀, hnode, hfound, hview⟩ := step_view h
  refine ⟨targetAmi, nodes, node, t₀, t₁, rfl, h₀, hnode, hfound, ?_⟩
  obtain ⟨hd, hlast⟩ | ⟨hd, st, hlast, hfirst, -⟩ := hview
  · have hspec := decideOnAction_spec nodes targetAmi
    rw [hd] at hspec
    rw [LastSeenPrimary, hlast, hd]
    refine iff_of_true ?_ nofun
    simp only [hspec.2.2]
    decide
  · rw [LastSeenPrimary, hlast, hfirst, hd]
    simp [Decision.action]

/-- A replica set whose primary is elected again after its step-down. -/
def stubbornSet : SteadySet where
  targetAmi := "ami-2"
  instances := [SteadySet.running "i-a" "ami-1" "10.0.0.1", SteadySet.running "i-b" "ami-2" "10.0.0.2"]
  myState ip := if ip = "10.0.0.1" then 1 else 2
  members := [SteadySet.member "10.0.0.1" "PRIMARY", SteadySet.member "10.0.0.2" "SECONDARY"]

/-- The member that is reached at the address of the instance. -/
def memberAt (m : Member) (node : Instance) : Prop := m.name = node.ipAddress ++ ":27017"

def outcome? : Event Calls → Option Decision
  | ⟨.log (.outcome d), _⟩ => some d
  | _ => none

theorem step_not_primary_iff_stubbornSet :
    ∃ t, ∃ next : Except PyExc Unit → Py Decision,
      Runs (fun _ _ => True) (step "web_mongo") t (.call (.terminate "i-a") next) ∧
      ∃ targetAmi nodes node t₀ t₁,
      t = t₀ ++ ⟨.log (.outcome (decideOnAction nodes targetAmi)), ()⟩ :: t₁ ∧
      Runs (fun _ _ => True) (observe "web_mongo") t₀ (.ret (targetAmi, nodes)) ∧
      (decideOnAction nodes targetAmi).node? = some node ∧
      ⟨.filterInstances node.instanceId, .ok ["i-a"]⟩ ∈ t₁ ∧
      (¬ LastSeenPrimary memberAt t node ↔
        ((decideOnAction nodes targetAmi).action = .stepDownAndRecyclePrimary →
          ∃ st, firstHealthyStatus t₁ = some st ∧ ¬ ShowsPrimary memberAt st node)) := by
  obtain ⟨next, hx⟩ := stubbornSet.exec_to_terminate (step "web_mongo") "i-a" (by decide +kernel)
  have h : Runs (fun _ _ => True) _ _ _ := hx.runs fun _ _ _ _ _ => trivial
  exact ⟨_, next, h, step_not_primary_iff memberAt h⟩

/-- The decided primary is terminated while the last status read shows it as the
    primary: the health poll after its step-down counts the primaries, and does
    not ask which member it is. -/
theorem step_terminates_primary :
    ∃ t, ∃ next : Except PyExc Unit → Py Decision,
      Runs (fun _ _ => True) (step "web_mongo") t (.call (.terminate "i-a") next) ∧
      t.findSome? outcome? = some (.stepDownAndRecyclePrimary oldPrimary) ∧
      LastSeenPrimary memberAt t oldPrimary := by
  obtain ⟨next, hx⟩ := stubbornSet.exec_to_terminate (step "web_mongo") "i-a" (by decide +kernel)
  refine ⟨_, next, hx.runs fun _ _ _ _ _ => trivial, by decide +kernel, ?_⟩
  have hlast : lastStatus ((step "web_mongo").walk stubbornSet.answer ()).1 =
      some (stubbornSet.status 2) := by decide +kernel
  rw [LastSeenPrimary, hlast]
  exact ⟨SteadySet.member "10.0.0.1" "PRIMARY", by simp [SteadySet.status, stubbornSet], rfl, rfl⟩

-- ============================================================================
-- Is the replica set whole?
-- ============================================================================

/-- A recycler that has come to `terminate` is inside `step`. -/
theorem lambdaHandler_terminate {legal : (op : Op) → op.Reply → Prop} {event : Json} {id : String}
    {t : Trace Calls} {next : Except PyExc Unit → Py Json}
    (h : Runs legal (lambdaHandler event) t (.call (.terminate id) next)) :
    ∃ component t₀ t₁ next', t = t₀ ++ t₁ ∧ (∀ ev ∈ t₀, status? ev = none) ∧
      Runs legal (step component) t₁ (.call (.terminate id) next') := by
  have hstep : ∀ {component : Json} {t : Trace Calls},
      Runs legal (takeStep event component) t (.call (.terminate id) next) →
      ∃ name next', Runs legal (step name) t (.call (.terminate id) next') := by
    intro component t ht
    obtain ⟨name, -, ht⟩ := raise_bind_call_inv ht
    obtain ⟨next', ht⟩ := Exec.bind_call_left ht fun _ => issues_raise _
    exact ⟨name, next', ht⟩
  rw [lambdaHandler_eq] at h
  obtain ⟨component, -, h₁⟩ := raise_bind_call_inv h
  by_cases hfirst : isFirstRun event = true
  · rw [if_pos hfirst] at h₁
    obtain ⟨u, t₀, t₁, ⟨⟩, rfl, h₂, h₃⟩ := Exec.bind_call_inv h₁
      (issues_recordRecycleStarting (by simp) (by simp) (by simp))
    obtain ⟨name, next', h₄⟩ := hstep h₃
    exact ⟨name, t₀, t₁, next', rfl,
      no_status h₂ (issues_recordRecycleStarting (by simp) (by simp) (by simp)), h₄⟩
  · rw [if_neg hfirst] at h₁
    obtain ⟨name, next', h₂⟩ := hstep h₁
    exact ⟨name, [], t, next', rfl, by simp, h₂⟩

/-- The member states that the recycler has seen last: those of the last status
    it read, or, as long as it has read none, those of the nodes it observed. -/
def lastSeenStates (calls : Trace Calls) (nodes : List Instance) : List String :=
  match lastStatus calls with
  | some st => st.members.map Member.stateStr
  | none => nodes.map Instance.mongoState

/-- In any execution, at any call of `terminate`: the replica set was last seen
    whole, if and only if the nodes were observed whole or no SECONDARY among
    them was off the target AMI. -/
theorem terminate_healthy_iff {tf : TfVars} {faults : TaskError → Prop} {W : Type}
    {K : Setting Calls W} {c : Cfg State} {w₀ w : W} {s : State} {data : Json} {n : Nat}
    {t : Task State Resource} {calls : Trace Calls} {id : String}
    {next : Except PyExc Unit → Py Json}
    (h : Live.Reaches (autoRecycle tf) (lambdas faults) K (.idle c, w₀)
      (.busy s data n t calls (.call (.terminate id) next), w)) :
    ∃ component targetAmi nodes node t₀ t₁ t₂,
      calls = t₀ ++ t₁ ++ ⟨.log (.outcome (decideOnAction nodes targetAmi)), ()⟩ :: t₂ ∧
      Runs (fun _ _ => True) (observe component) t₁ (.ret (targetAmi, nodes)) ∧
      (decideOnAction nodes targetAmi).node? = some node ∧
      ⟨.filterInstances node.instanceId, .ok [id]⟩ ∈ t₂ ∧
      (Healthy (lastSeenStates calls nodes) ↔
        ((∃ other ∈ nodes, other.imageId ≠ targetAmi ∧ other.mongoState = "SECONDARY") →
          Healthy (nodes.map Instance.mongoState))) := by
  obtain ⟨input, w₁, -, hx⟩ := Live.exec_of_reaches h
  have hrun : Runs (fun _ _ => True) _ _ _ := hx.runs fun _ _ _ _ _ => trivial
  by_cases hr : t.resource = .autorecycleMongo
  · have hlambda : (lambdas faults).impl t.resource input = lambdaHandler input := by rw [hr]; rfl
    rw [hlambda] at hrun
    obtain ⟨component, t₀, t₁, next', rfl, hpre, hstep⟩ := lambdaHandler_terminate hrun
    obtain ⟨targetAmi, nodes, node, t₂, t₃, rfl, h₂, hnode, hfound, hview⟩ := step_view hstep
    refine ⟨component, targetAmi, nodes, node, t₀, t₂, t₃, by simp, h₂, hnode, hfound, ?_⟩
    rw [lastSeenStates, lastStatus_append_left hpre]
    have hspec := decideOnAction_spec nodes targetAmi
    obtain ⟨hd, hlast⟩ | ⟨hd, st, hlast, -, hst⟩ := hview
    · rw [hd] at hspec
      rw [hlast]
      exact ⟨fun h _ => h, fun h => h ⟨node, hspec⟩⟩
    · rw [hd] at hspec
      rw [hlast]
      refine iff_of_true (healthy_of_assertReplicaSetHealthy hst) ?_
      rintro ⟨other, hmem, hami, hstate⟩
      exact absurd hstate (hspec.2 other hmem hami)
  · have hother : (lambda t.resource input).Issues (· ≠ Op.terminate id) :=
      issues_lambda hr (by simp) (by simp) (by simp) (by simp) (by simp) (by simp) input
    exact absurd rfl (hrun.issues hother).2.1

/-- A replica set with a member that is recovering. -/
def degradedSet : SteadySet where
  targetAmi := "ami-2"
  instances := [SteadySet.running "i-a" "ami-2" "10.0.0.1", SteadySet.running "i-b" "ami-1" "10.0.0.2",
    SteadySet.running "i-c" "ami-2" "10.0.0.3"]
  myState ip := if ip = "10.0.0.1" then 1 else if ip = "10.0.0.2" then 2 else 3
  members := [SteadySet.member "10.0.0.1" "PRIMARY", SteadySet.member "10.0.0.2" "SECONDARY",
    SteadySet.member "10.0.0.3" "RECOVERING"]

def mongoPayload : Json := .obj [("component", .str "web_mongo"), ("strategy", .str "mongo")]

def noVars : TfVars := ⟨"", "", "", "", "", "", ""⟩

def firstEvent : Json := mongoMessage noVars (.str "web_mongo")

/-- The first invocation of an execution on the degraded set comes to `terminate`. -/
theorem degradedSet_reaches :
    ∃ next : Except PyExc Unit → Py Json,
      Live.Reaches (autoRecycle noVars) (lambdas fun _ => False) degradedSet.world
        (.idle (.at startAt mongoPayload 0), ())
        (.busy .recycleMongoCluster firstEvent 0
          (lambdaTask .autorecycleMongo [] [] .mongoAutorecycleDecision)
          ((lambdaHandler firstEvent).walk degradedSet.answer ()).1
          (.call (.terminate "i-b") next), ()) := by
  obtain ⟨next, hx⟩ := degradedSet.exec_to_terminate (lambdaHandler firstEvent) "i-b"
    (by decide +kernel)
  have hslack : Exec degradedSet.world (invoke "slack_notifications" firstEvent) ()
      [⟨.invoke "slack_notifications" firstEvent, .ok firstEvent⟩] (.ret firstEvent) () :=
    .call rfl rfl (.rest rfl)
  have hstart : Reaches (autoRecycle noVars) ((lambdas fun _ => False).tasks degradedSet.world)
      (.at startAt mongoPayload 0, ()) (.at .recycleMongoCluster firstEvent 0, ()) :=
    reaches_recycler (by simp [mongoPayload, Data.Dict.get?]) (by simp [mongoPayload, Data.Dict.get?])
      hslack
  exact ⟨next, hstart.reaches_live.trans (.head (.move (.invoke rfl)) (Live.reaches_of_exec hx []))⟩

theorem terminate_healthy_iff_degradedSet :
    ∃ component targetAmi nodes node t₀ t₁ t₂,
      ((lambdaHandler firstEvent).walk degradedSet.answer ()).1 =
        t₀ ++ t₁ ++ ⟨.log (.outcome (decideOnAction nodes targetAmi)), ()⟩ :: t₂ ∧
      Runs (fun _ _ => True) (observe component) t₁ (.ret (targetAmi, nodes)) ∧
      (decideOnAction nodes targetAmi).node? = some node ∧
      ⟨.filterInstances node.instanceId, .ok ["i-b"]⟩ ∈ t₂ ∧
      (Healthy (lastSeenStates ((lambdaHandler firstEvent).walk degradedSet.answer ()).1
          nodes) ↔
        ((∃ other ∈ nodes, other.imageId ≠ targetAmi ∧ other.mongoState = "SECONDARY") →
          Healthy (nodes.map Instance.mongoState))) := by
  obtain ⟨next, h⟩ := degradedSet_reaches
  exact terminate_healthy_iff h

/-- The nodes that the recycler observed. -/
def observed? : Event Calls → Option (List Instance)
  | ⟨.log (.clusterStatus nodes _), _⟩ => some nodes
  | _ => none

/-- A SECONDARY is terminated while the nodes observed last show another member
    recovering: only the way over a step-down looks at the health of the set. -/
theorem recycler_terminates_in_degraded_set :
    ∃ calls, ∃ next : Except PyExc Unit → Py Json, ∃ nodes,
      Live.Reaches (autoRecycle noVars) (lambdas fun _ => False) degradedSet.world
        (.idle (.at startAt mongoPayload 0), ())
        (.busy .recycleMongoCluster firstEvent 0
          (lambdaTask .autorecycleMongo [] [] .mongoAutorecycleDecision) calls
          (.call (.terminate "i-b") next), ()) ∧
      calls.findSome? observed? = some nodes ∧ lastStatus calls = none ∧
      nodes.map Instance.mongoState = ["PRIMARY", "SECONDARY", "RECOVERING"] ∧
      ¬ Healthy (lastSeenStates calls nodes) := by
  obtain ⟨next, h⟩ := degradedSet_reaches
  have hlast : lastStatus ((lambdaHandler firstEvent).walk degradedSet.answer ()).1 = none := by
    decide +kernel
  refine ⟨_, next, [
    { instanceId := "i-a", imageId := "ami-2", ipAddress := "10.0.0.1", mongoState := "PRIMARY",
      replicaSetName := "rs0" },
    { instanceId := "i-b", imageId := "ami-1", ipAddress := "10.0.0.2", mongoState := "SECONDARY",
      replicaSetName := "rs0" },
    { instanceId := "i-c", imageId := "ami-2", ipAddress := "10.0.0.3", mongoState := "RECOVERING",
      replicaSetName := "rs0" }], h, by decide +kernel, hlast, rfl, ?_⟩
  rw [lastSeenStates, hlast]
  simp [Healthy, healthyStates]

end AutoRecycle.Mongo
