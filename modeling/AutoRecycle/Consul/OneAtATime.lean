/-
  AutoRecycle.Consul.OneAtATime

  The nodes are recycled one at a time, behind two kinds of health check, and
  the first error that is not retried away ends the recycling.

  `one_at_a_time` holds of every run, in any world and whatever the tasks answer.
  What the gate before TerminateNode does not see is which node has left: it
  counts peers.  `terminated_not_counted` says what follows from the number.
-/
import AutoRecycle.Consul.Stages
import Mathlib.Data.List.Perm.Subperm

namespace AutoRecycle.Consul

open AutoRecycle.Asl AutoRecycle.Asl.Nested AutoRecycle.Data AutoRecycle.Effect
open AutoRecycle.Py (splitHead)

-- ============================================================================
-- The invariant of the runs
-- ============================================================================

section
variable {W : Type} {K : Setting Calls W} {tf : TfVars} {faults : TaskError → Prop}
  {input : Json} {evs : List ConsulRan} {c : Nested.Cfg State}

/-- What holds when a task is started. -/
theorem Stage.allowed {s : State} {data taskInput : Json} {n : Nat} {stack : List (Frame State)}
    {t : TaskState State Resource} {calls : Trace Calls} {r : Except TaskError Json}
    (h : Stage tf evs (.at s data n stack))
    (hs : (recycleConsulAgents tf s).start input stack data = .invoke t taskInput) :
    Allowed tf evs ⟨s, n, taskInput, calls, r⟩ := by
  cases h with
  | mainFlow => exact .of_ne nofun nofun
  | starting => exact .of_ne nofun nofun
  | initial => exact .of_ne nofun nofun
  | listing => exact .of_ne nofun nofun
  | forEach => exact .of_ne nofun nofun
  | leaving hstate h hids hfive =>
      rcases hstate with rfl | rfl | rfl
      · exact ⟨fun _ => h.clean, fun _ => hfive, nofun, nofun⟩
      · exact .of_ne nofun nofun
      · exact .of_ne nofun nofun
  | gated h hids hfive hcounted =>
      obtain ⟨rfl, hparams⟩ := start_task_invoke hs
      obtain rfl := terminateParameters_inv ⟨input, none⟩ h.id hparams
      exact ⟨fun _ => h.clean, fun _ => hfive, fun _ => hcounted,
        fun _ => ⟨_, _, h.listed, List.mem_append_right _ List.mem_cons_self, rfl⟩⟩
  | replacing hstate =>
      rcases hstate with rfl | rfl
      · exact .of_ne nofun nofun
      · exact .of_ne nofun nofun
  | ending => exact .of_ne nofun nofun
  | aborted haborted =>
      cases haborted with
      | notification => exact .of_ne nofun nofun
      | failState => exact .of_ne nofun nofun

theorem Runs.stage (h : Runs tf faults K input evs c) : Stage tf evs c ∧ Sound tf evs := by
  obtain ⟨w, w', h⟩ := h
  have hsound : Sound tf [] := by
    intro pre ev post hsplit
    simp at hsplit
  have hinit : Stage tf [] (beginning input) ∧ Sound tf [] := ⟨.mainFlow, hsound⟩
  refine Nested.Run.invariant (I := fun evs c => Stage tf evs c ∧ Sound tf evs) hinit ?_ ?_ h
  · rintro evs s data n stack c ⟨hstage, hsound⟩ hs
    exact ⟨hstage.goto hs, hsound⟩
  · rintro evs s data n stack t taskInput w calls r w' ⟨hstage, hsound⟩ hs ha
    exact ⟨hstage.task hs ha, hsound.append (hstage.allowed hs)⟩

-- ============================================================================
-- One at a time
-- ============================================================================

/-- A check since `first`, which terminates a node. -/
theorem FiveSince.mem_of_terminate {pre mid : List ConsulRan} {first : ConsulRan}
    (hfirst : first.state = .terminateNode) (h : FiveSince (pre ++ first :: mid)) :
    ∃ check ∈ mid, Saw 5 check := by
  obtain ⟨before, check, after, hsplit, hsaw, hafter⟩ := h
  rcases List.append_eq_append_iff.mp hsplit with ⟨xs, -, hxs⟩ | ⟨xs, -, hxs⟩
  · cases xs with
    | nil =>
        rw [List.nil_append, List.cons.injEq] at hxs
        rw [hxs.1] at hfirst
        exact absurd hfirst (hafter check List.mem_cons_self)
    | cons x xs =>
        rw [List.cons_append, List.cons.injEq] at hxs
        refine ⟨check, ?_, hsaw⟩
        rw [hxs.2]
        exact List.mem_append_right xs List.mem_cons_self
  · have hmem : first ∈ check :: after := by
      rw [hxs]
      exact List.mem_append_right xs List.mem_cons_self
    exact absurd hfirst (hafter first hmem)

/-- The tasks `evs` have been run, one node at a time, and the run is now at `c`. -/
structure OneAtATime (tf : TfVars) (evs : List ConsulRan) (c : Nested.Cfg State) : Prop where
  /-- TerminateNode comes right after a check that saw a leader and four peers. -/
  gate : ∀ pre ev post, evs = pre ++ ev :: post → ev.state = .terminateNode →
    ∃ before check, pre = before ++ [check] ∧ Saw 4 check
  /-- Between two of them there is a check that saw a leader and five peers. -/
  between : ∀ pre first mid second post, evs = pre ++ first :: mid ++ second :: post →
    first.state = .terminateNode → second.state = .terminateNode → ∃ check ∈ mid, Saw 5 check
  /-- So there is before any graceful leave. -/
  beforeLeave : ∀ pre ev post, evs = pre ++ ev :: post → ev.state = .gracefulLeave →
    ∃ check ∈ pre, Saw 5 check
  /-- After an error that is not retried away no node is asked to leave or terminated. -/
  stops : ∀ pre failed post, evs = pre ++ failed :: post → Unretried tf failed →
    (∀ ev ∈ post, ev.state ≠ .gracefulLeave ∧ ev.state ≠ .terminateNode) ∧ ¬ c.Succeeded
  /-- A successful execution has terminated the instances of the list, in its order. -/
  complete : c.Succeeded → ∃ nodes, Listed evs nodes ∧
    ((∀ node ∈ nodes, node.instanceId ≠ "") →
      terminatedIds evs = nodes.map fun node => .str node.instanceId)

theorem terminable_eq_map {nodes : List Node} (h : ∀ node ∈ nodes, node.instanceId ≠ "") :
    terminable nodes = nodes.map fun node => .str node.instanceId := by
  have hall : nodes.filter (fun node => node.instanceId ≠ "") = nodes := by
    rw [List.filter_eq_self]
    intro node hnode
    exact decide_eq_true (h node hnode)
  rw [terminable, hall]

theorem Clean.of_succeeded (h : Stage tf evs c) (hc : c.Succeeded) :
    Clean tf evs ∧ ∃ nodes, Listed evs nodes ∧ terminatedIds evs = terminable nodes := by
  cases h with
  | succeeded hclean hlisted hids => exact ⟨hclean, _, hlisted, hids⟩
  | aborted h => cases h <;> exact absurd hc id
  | _ => exact absurd hc id

/-- Every execution of recycle_consul_agents recycles the nodes one at a time. -/
theorem one_at_a_time (tf : TfVars) (faults : TaskError → Prop) (K : Setting Calls W)
    (input : Json) (evs : List ConsulRan) (c : Nested.Cfg State)
    (h : Runs tf faults K input evs c) : OneAtATime tf evs c where
  gate := by
    intro pre ev post hevs hstate
    obtain ⟨peers, ⟨before, check, rfl, hcounted⟩, hlength⟩ :=
      (h.stage.2 pre ev post hevs).gated hstate
    exact ⟨before, check, rfl, peers, hcounted, hlength⟩
  between := by
    intro pre first mid second post hevs hfirst hsecond
    exact ((h.stage.2 _ second post hevs).five (.inr hsecond)).mem_of_terminate hfirst
  beforeLeave := by
    intro pre ev post hevs hstate
    obtain ⟨before, check, after, rfl, hsaw, -⟩ := (h.stage.2 pre ev post hevs).five (.inl hstate)
    exact ⟨check, List.mem_append_right before List.mem_cons_self, hsaw⟩
  stops := by
    intro pre failed post hevs hfailed
    constructor
    · intro ev hev
      obtain ⟨mid, rest, rfl⟩ := List.append_of_mem hev
      have hallowed := h.stage.2 (pre ++ failed :: mid) ev rest (by rw [hevs]; simp)
      have hdirty : ¬ Clean tf (pre ++ failed :: mid) := fun hclean =>
        hclean failed (List.mem_append_right pre List.mem_cons_self) hfailed
      exact ⟨fun hleave => hdirty (hallowed.clean (.inl hleave)),
        fun hterminate => hdirty (hallowed.clean (.inr hterminate))⟩
    · intro hc
      have hclean := (Clean.of_succeeded h.stage.1 hc).1
      rw [hevs] at hclean
      exact hclean failed (List.mem_append_right pre List.mem_cons_self) hfailed
  complete := by
    intro hc
    obtain ⟨-, nodes, hlisted, hids⟩ := Clean.of_succeeded h.stage.1 hc
    refine ⟨nodes, hlisted, fun hnodes => ?_⟩
    rw [hids, terminable_eq_map hnodes]

end

-- ============================================================================
-- What the number of peers says
-- ============================================================================

/-- The address of a peer, without its port. -/
def peerAddr (peer : String) : String := splitHead peer ':'

/-- Four of five servers are all that four peers can be. -/
theorem not_mem_of_four {addr : String} {others peers : List String} (hnodup : others.Nodup)
    (hothers : others.length = 4) (hpeers : peers.length = 4) (haddr : addr ∉ others)
    (hsub : ∀ other ∈ others, other ∈ peers) : addr ∉ peers := by
  intro hmem
  have hsubset : addr :: others ⊆ peers := List.cons_subset.mpr ⟨hmem, hsub⟩
  have hlength := ((List.nodup_cons.mpr ⟨haddr, hnodup⟩).subperm hsubset).length_le
  rw [List.length_cons, hothers, hpeers] at hlength
  omega

/-- The gate before the task `ev`, which terminates a node of the list: the check
    right before has counted exactly four peers.  If they are four servers other
    than the node, then the node was not among them. -/
def Gate (pre : List ConsulRan) (ev : ConsulRan) : Prop :=
  ∃ before check peers nodes node, pre = before ++ [check] ∧ Counted check peers ∧
    Listed pre nodes ∧ node ∈ nodes ∧ ev.input = .obj [("instanceId", .str node.instanceId)] ∧
    peers.length = 4 ∧
    ∀ others : List String, others.Nodup → others.length = 4 → node.ip ∉ others →
      (∀ addr ∈ others, addr ∈ peers.map peerAddr) → node.ip ∉ peers.map peerAddr

/-- In any run, whatever the servers do by themselves. -/
theorem terminated_not_counted {W : Type} (tf : TfVars) (faults : TaskError → Prop)
    (K : Setting Calls W) (input : Json) (evs : List ConsulRan) (c : Nested.Cfg State)
    (h : Runs tf faults K input evs c) (pre : List ConsulRan) (ev : ConsulRan)
    (post : List ConsulRan) (hevs : evs = pre ++ ev :: post) (hstate : ev.state = .terminateNode) :
    Gate pre ev := by
  have hallowed := h.stage.2 pre ev post hevs
  obtain ⟨peers, ⟨before, check, hpre, hcounted⟩, hlength⟩ := hallowed.gated hstate
  obtain ⟨nodes, node, hlisted, hnode, hinput⟩ := hallowed.listed hstate
  refine ⟨before, check, peers, nodes, node, hpre, hcounted, hlisted, hnode, hinput, hlength, ?_⟩
  intro others hnodup hothers haddr hsub
  exact not_mem_of_four hnodup hothers (by rw [List.length_map, hlength]) haddr hsub

-- ============================================================================
-- A cluster that ignores the leave
-- ============================================================================

theorem exec_call_ret {W α : Type} {K : Setting Calls W} {w w₁ w' : W} {op : Op} {r : op.Reply}
    {next : op.Reply → Py α} {calls : Trace Calls} (ha : K.answers w op r w₁)
    (h : ∃ out, Exec K (next r) w₁ calls (.ret out) w') :
    ∃ out, Exec (S := Calls) K (.call op next) w (⟨op, r⟩ :: calls) (.ret out) w' := by
  obtain ⟨out, hx⟩ := h
  exact ⟨out, .call (K.rely_refl w) ha hx⟩

/-- A check that is answered, with a leader and the expected number of peers, passes. -/
theorem exec_checkCluster {W : Type} {K : Setting Calls W} {w : W} {host text : String}
    {peers : List String} {expectedPeers : Json}
    (hleader : K.answers w (.statusLeader host) (.ok text) w)
    (hpeers : K.answers w (.statusPeers host) (.ok peers) w) (htext : unquote text ≠ "")
    (hcount : equalsNat peers.length expectedPeers = true) :
    ∃ out, Exec K (checkCluster host expectedPeers) w
      [⟨.statusLeader host, .ok text⟩, ⟨.statusPeers host, .ok peers⟩] (.ret out) w := by
  rw [checkCluster]
  -- how the leader is read does not matter any more
  generalize unquote = readLeader at htext ⊢
  apply exec_call_ret hleader
  show ∃ out, Exec K (if readLeader text = "" then _ else _) w _ (.ret out) w
  rw [if_neg htext]
  apply exec_call_ret hpeers
  show ∃ out, Exec K (if equalsNat peers.length _ = true then _ else _) w _ (.ret out) w
  rw [if_pos hcount]
  exact ⟨_, Exec.refl _ _⟩

/-- A check that is answered, with a leader and the expected number of peers, passes. -/
theorem exec_checkHandler {W : Type} {K : Setting Calls W} {w : W} {fields : Dict Json}
    {environment : Option String} {text : String} {peers : List String}
    (henvironment : K.answers w (.getenv "environment") environment w)
    (hssl : K.answers w .sslContext (.ok ()) w)
    (hleader : ∀ host, K.answers w (.statusLeader host) (.ok text) w)
    (hpeers : ∀ host, K.answers w (.statusPeers host) (.ok peers) w) (htext : unquote text ≠ "")
    (hcount : equalsNat peers.length ((Dict.get? "expectedPeers" fields).getD (.num 5)) = true) :
    ∃ calls out, Exec K (checkHandler (.obj fields)) w calls (.ret out) w ∧ Asked calls peers := by
  have hcaught : ∀ host g, ∃ out, Exec K ((checkCluster host
      ((Dict.get? "expectedPeers" fields).getD (.num 5))).tryCatch g) w
      [⟨.statusLeader host, .ok text⟩, ⟨.statusPeers host, .ok peers⟩] (.ret out) w := by
    intro host g
    obtain ⟨out, hx⟩ := exec_checkCluster (hleader host) (hpeers host) htext hcount
    exact ⟨out, hx.attempt_ret.bind_ret (Exec.refl _ _)⟩
  have hhandler : ∃ host out, Exec K (checkHandler (.obj fields)) w
      [⟨.getenv "environment", environment⟩, ⟨.sslContext, .ok ()⟩,
        ⟨.statusLeader host, .ok text⟩, ⟨.statusPeers host, .ok peers⟩] (.ret out) w := by
    rw [checkHandler]
    generalize checkCluster = check at hcaught ⊢
    exact ⟨_, exec_call_ret henvironment (exec_call_ret hssl (hcaught _ _))⟩
  obtain ⟨host, out, hx⟩ := hhandler
  exact ⟨_, out, hx, [⟨.getenv "environment", environment⟩, ⟨.sslContext, .ok ()⟩], host, text, rfl,
    htext⟩

/-- The fifth server has failed, or not. -/
def clusterPeers (down : Bool) : List String :=
  ["10.0.0.1:8300", "10.0.0.2:8300", "10.0.0.3:8300", "10.0.0.4:8300"] ++
    if down then [] else ["10.0.0.5:8300"]

def clusterAnswer (down : Bool) : (op : Op) → op.Reply × Bool
  | .getenv _ => (some "integration", down)
  | .sslContext => (.ok (), down)
  | .statusLeader _ => (.ok "\"10.0.0.4:8300\"", down)
  | .statusPeers _ => (.ok (clusterPeers down), down)
  | .agentMembers _ => (.ok (["10.0.0.1", "10.0.0.2", "10.0.0.3", "10.0.0.4", "10.0.0.5"].map
      fun addr => ⟨some addr⟩), down)
  | .describeInstances _ => (.ok [⟨[instanceAt "10.0.0.1" "i-1", instanceAt "10.0.0.2" "i-2",
      instanceAt "10.0.0.3" "i-3", instanceAt "10.0.0.4" "i-4", instanceAt "10.0.0.5" "i-5"]⟩], down)
  | .terminateInstances _ => (.ok .null, down)
  -- the command is accepted, and its failure is not seen
  | .sendCommand _ => (.ok .null, down)
  | .invoke .. => (.ok (.obj []), down)

/-- No server leaves when it is asked to; the fifth fails and rejoins by itself. -/
def ignoringCluster : Setting Calls Bool where
  answers down op r down' := (r, down') = clusterAnswer down op
  rely _ _ := True
  rely_refl _ := trivial
  rely_trans _ _ := trivial

/-- The five servers, the leader last. -/
def fiveNodes : List Node :=
  [⟨"10.0.0.1", "i-1"⟩, ⟨"10.0.0.2", "i-2"⟩, ⟨"10.0.0.3", "i-3"⟩, ⟨"10.0.0.5", "i-5"⟩,
    ⟨"10.0.0.4", "i-4"⟩]

def clusterInput : Json := .obj [("cluster", .str "integration")]

def clusterVars : TfVars := ⟨"infra", "infra-alerts", "arn:consul-acl-token"⟩

/-- The run so far, without failures of the service. -/
abbrev ClusterRun (evs : List ConsulRan) (c : Nested.Cfg State) (down : Bool) : Prop :=
  Nested.Run (recycleConsulAgents clusterVars) (tasks fun _ => False) ignoringCluster clusterInput
    (beginning clusterInput, false) evs (c, down)

theorem exec_nodesHandler_cluster (cluster : Json) : ∃ calls,
    Exec ignoringCluster (nodesHandler (.obj [("cluster", cluster)])) false calls
      (.ret (instanceListJson fiveNodes)) false := by
  have hleader : leaderAddr "\"10.0.0.4:8300\"" = "10.0.0.4" := by decide +kernel
  have hsorted : Py.sorted (fun a => decide (a = leaderAddr "\"10.0.0.4:8300\""))
      ["10.0.0.1", "10.0.0.2", "10.0.0.3", "10.0.0.4", "10.0.0.5"] =
      ["10.0.0.1", "10.0.0.2", "10.0.0.3", "10.0.0.5", "10.0.0.4"] := by
    rw [hleader, sorted_leader]
    decide
  have hrun := @run_nodesHandler Bool clusterAnswer false [("cluster", cluster)] _ _ _ _ _ _
    rfl rfl (fun _ => rfl) (fun _ => rfl) rfl hsorted (by decide) rfl
  have hanswer : ∀ w op, ignoringCluster.answers w op (clusterAnswer w op).1 (clusterAnswer w op).2 :=
    fun _ _ => rfl
  obtain ⟨calls, hx⟩ := Exec.of_run hanswer (nodesHandler (.obj [("cluster", cluster)])) false
  rw [hrun] at hx
  exact ⟨calls, hx⟩

section
variable {c : Nested.Cfg State} {s : State} {data taskInput out : Json} {n : Nat}
  {stack : List (Frame State)} {down down' : Bool} {t : TaskState State Resource}
  {calls : Trace Calls}

theorem ClusterRun.goto (h : ∃ evs, ClusterRun evs (.at s data n stack) down)
    (hs : (recycleConsulAgents clusterVars s).start clusterInput stack data = .goto c) :
    ∃ evs, ClusterRun evs c down := by
  obtain ⟨evs, h⟩ := h
  exact ⟨_, h.tail (.goto hs)⟩

theorem ClusterRun.task (h : ∃ evs, ClusterRun evs (.at s data n stack) down)
    (hs : (recycleConsulAgents clusterVars s).start clusterInput stack data = .invoke t taskInput)
    (hx : Exec ignoringCluster (impl t.resource taskInput) down calls (.ret out) down)
    (hc : t.finish clusterInput s data n stack (.ok out) = c) : ∃ evs, ClusterRun evs c down := by
  obtain ⟨evs, h⟩ := h
  have hs' := h.tail (.task hs (.ret hx))
  rw [hc] at hs'
  exact ⟨_, hs'⟩

end

/-- Up to the check after the first node was asked to leave; by then the fifth
    server has failed. -/
theorem clusterRun_gate : ∃ entered before evs, ClusterRun evs
    (.at .checkClusterHealthPostLeave
      (.obj [("ip", .str "10.0.0.1"), ("instanceId", .str "i-1"), ("gracefulLeaveResult", .null)]) 0
      (itemStack entered before ⟨"10.0.0.1", "i-1"⟩ fiveNodes.tail [])) true := by
  have hbegin : ∃ evs, ClusterRun evs (beginning clusterInput) false := ⟨[], .refl⟩
  have hstart := ClusterRun.goto hbegin rfl
  have hinitial := ClusterRun.task hstart rfl (.call trivial rfl (Exec.refl _ _)) rfl
  obtain ⟨calls, out, hcheck, -⟩ := @exec_checkHandler Bool ignoringCluster false
    [("cluster", .str "integration")] (some "integration") "\"10.0.0.4:8300\"" (clusterPeers false)
    rfl rfl (fun _ => rfl) (fun _ => rfl) (by decide +kernel) (by decide)
  have hlisting := ClusterRun.task hinitial rfl hcheck rfl
  obtain ⟨calls', hnodes⟩ := exec_nodesHandler_cluster (.str "integration")
  have hforEach := ClusterRun.task hlisting rfl hnodes rfl
  have hleave := ClusterRun.goto hforEach rfl
  have hwait := ClusterRun.task hleave rfl (.call trivial rfl (Exec.refl _ _)) rfl
  obtain ⟨evs, hgate⟩ := ClusterRun.goto hwait rfl
  exact ⟨_, _, _, hgate.tail (.drift trivial)⟩

/-- The node that a check after a leave is about is one of the list. -/
theorem Stage.listed_of_item {tf : TfVars} {evs : List ConsulRan} {data entered before : Json}
    {n : Nat} {stack : List (Frame State)} {node : Node} {rest : List Node} {outputs : List Json}
    (h : Stage tf evs (.at .checkClusterHealthPostLeave data n stack))
    (hstack : stack = itemStack entered before node rest outputs) :
    ∃ nodes, Listed evs nodes ∧ node ∈ nodes := by
  cases h with
  | @leaving _ _ _ _ _ done node' rest' _ _ hstate h hids hfive =>
      simp only [itemStack, List.cons.injEq, Frame.map.injEq] at hstack
      obtain rfl := Node.json_injective hstack.1.2.2.1
      exact ⟨_, h.listed, List.mem_append_right done List.mem_cons_self⟩
  | replacing hstate => rcases hstate with h | h <;> cases h
  | aborted h => cases h

/-- The check counts four peers, and the first node is terminated. -/
theorem clusterRun_terminate : ∃ pre check ev c nodes,
    Runs clusterVars (fun _ => False) ignoringCluster clusterInput (pre ++ check :: [ev]) c ∧
    ev.state = .terminateNode ∧ ev.input = .obj [("instanceId", .str "i-1")] ∧
    Listed pre nodes ∧ ⟨"10.0.0.1", "i-1"⟩ ∈ nodes ∧ Counted check (clusterPeers true) := by
  obtain ⟨entered, before, pre, hgate⟩ := clusterRun_gate
  have hruns : Runs clusterVars (fun _ => False) ignoringCluster clusterInput pre _ := ⟨_, _, hgate⟩
  obtain ⟨nodes, hlisted, hnode⟩ := hruns.stage.1.listed_of_item rfl
  obtain ⟨calls, out, hcheck, hasked⟩ := @exec_checkHandler Bool ignoringCluster true
    [("cluster", .str "integration"), ("expectedPeers", .num 4)] (some "integration")
    "\"10.0.0.4:8300\"" (clusterPeers true) rfl rfl (fun _ => rfl) (fun _ => rfl) (by decide +kernel)
    (by decide)
  have hterminate := hgate.tail (.task rfl (.ret hcheck))
  have hend := hterminate.tail (.task rfl (.ret (.call trivial rfl (Exec.refl _ true))))
  rw [List.append_assoc] at hend
  exact ⟨pre, _, _, _, nodes, ⟨_, _, hend⟩, rfl, rfl, hlisted, hnode, ⟨out, rfl⟩, hasked⟩

/-- The node has not left, and the fifth server has failed: the check right before
    its termination has counted the node as one of the four peers. -/
theorem terminated_while_counted : ∃ pre check ev c peers nodes,
    Runs clusterVars (fun _ => False) ignoringCluster clusterInput (pre ++ check :: [ev]) c ∧
    ev.state = .terminateNode ∧ ev.input = .obj [("instanceId", .str "i-1")] ∧
    Listed pre nodes ∧ ⟨"10.0.0.1", "i-1"⟩ ∈ nodes ∧ Counted check peers ∧
    "10.0.0.1" ∈ peers.map peerAddr := by
  obtain ⟨pre, check, ev, c, nodes, hruns, hstate, hinput, hlisted, hnode, hcounted⟩ :=
    clusterRun_terminate
  exact ⟨pre, check, ev, c, clusterPeers true, nodes, hruns, hstate, hinput, hlisted, hnode, hcounted,
    by decide +kernel⟩

/-- The run in which the first node is terminated. -/
theorem one_at_a_time_cluster : ∃ evs c,
    Runs clusterVars (fun _ => False) ignoringCluster clusterInput evs c ∧
    (∃ ev ∈ evs, ev.state = .terminateNode) ∧ OneAtATime clusterVars evs c := by
  obtain ⟨pre, check, ev, c, nodes, hruns, hstate, -⟩ := clusterRun_terminate
  exact ⟨_, c, hruns, ⟨ev, by simp, hstate⟩, one_at_a_time _ _ _ _ _ _ hruns⟩

theorem terminated_not_counted_cluster : ∃ (pre : List ConsulRan) (ev : ConsulRan),
    ev.state = .terminateNode ∧ Gate pre ev := by
  obtain ⟨pre, check, ev, c, nodes, hruns, hstate, -⟩ := clusterRun_terminate
  have hevs : pre ++ check :: [ev] = (pre ++ [check]) ++ ev :: [] := by simp
  exact ⟨pre ++ [check], ev, hstate,
    terminated_not_counted _ _ _ _ _ _ hruns (pre ++ [check]) ev [] hevs hstate⟩

end AutoRecycle.Consul
