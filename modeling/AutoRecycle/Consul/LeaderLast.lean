/-
  AutoRecycle.Consul.LeaderLast

  The leader is recycled last.

  GetConsulNodes sorts the members by whether they have the address of the
  leader it has read, and the Map state takes the list from the front.  So at any
  point of a run, however it goes on or has ended, the instances terminated are
  those of a first part of the list (`Recycled`), and the leader is not in it
  unless nothing but the leader is left.
-/
import AutoRecycle.Consul.Flow

namespace AutoRecycle.Consul

open AutoRecycle.Asl AutoRecycle.Asl.Nested AutoRecycle.Data AutoRecycle.Effect

-- ============================================================================
-- The order of the list
-- ============================================================================

/-- The nodes are listed by what the task has read: those at the address of the
    leader come last. -/
def LeaderListedLast (ev : ConsulRan) (nodes : List Node) (leader : String) : Prop :=
  (∃ host text, (⟨.statusLeader host, .ok text⟩ : Event Calls) ∈ ev.calls ∧ leaderAddr text = leader) ∧
    ∃ others leaders, nodes = others ++ leaders ∧ (∀ node ∈ others, node.ip ≠ leader) ∧
      ∀ node ∈ leaders, node.ip = leader

theorem answerNodes_order (leader : String) (addrs : List String) (reservations : List Reservation) :
    ∃ others leaders, answerNodes leader addrs reservations = others ++ leaders ∧
      (∀ node ∈ others, node.ip ≠ leader) ∧ ∀ node ∈ leaders, node.ip = leader := by
  have hip : ∀ {ips : List String} {node : Node},
      node ∈ ips.filterMap (fun ip => (lastOwner reservations ip).map fun id => (⟨ip, id⟩ : Node)) →
      node.ip ∈ ips := by
    intro ips node hnode
    obtain ⟨ip, hmem, hsome⟩ := List.mem_filterMap.mp hnode
    obtain ⟨id, -, rfl⟩ := Option.map_eq_some_iff.mp hsome
    exact hmem
  rw [answerNodes_eq, sorted_leader, List.filterMap_append]
  refine ⟨_, _, rfl, fun node hnode => ?_, fun node hnode => ?_⟩
  · have hmem := (List.mem_filter.mp (hip hnode)).2
    exact of_decide_eq_true hmem
  · have hmem := (List.mem_filter.mp (hip hnode)).2
    exact of_decide_eq_true hmem

/-- Once the list has come to the leader there is nothing else left. -/
theorem leader_after {nodes done rest others leaders : List Node} {leader : String}
    (hsplit : nodes = done ++ rest) (horder : nodes = others ++ leaders)
    (hothers : ∀ node ∈ others, node.ip ≠ leader) (hleaders : ∀ node ∈ leaders, node.ip = leader)
    (hdone : ∃ node ∈ done, node.ip = leader) : ∀ node ∈ rest, node.ip = leader := by
  rw [hsplit] at horder
  rcases List.append_eq_append_iff.mp horder with ⟨mid, hmid, -⟩ | ⟨mid, -, hmid⟩
  · -- the list has not come to the leader
    obtain ⟨node, hnode, hip⟩ := hdone
    exact absurd hip (hothers node (by rw [hmid]; exact List.mem_append_left mid hnode))
  · intro node hnode
    exact hleaders node (by rw [hmid]; exact List.mem_append_right mid hnode)

-- ============================================================================
-- What the tasks terminate
-- ============================================================================

section
variable {W : Type} {K : Setting Calls W} {w w' : W} {calls : Trace Calls} {tf : TfVars}
  {faults : TaskError → Prop}

/-- GetConsulNodes answers with the nodes in this order. -/
theorem leaderListedLast_of_answers {taskInput out : Json} (n : Nat)
    (h : Answers (tasks faults) K .getConsulNodes taskInput w calls (.ok out) w') :
    ∃ nodes leader, out = instanceListJson nodes ∧
      LeaderListedLast ⟨.getConsulNodes, n, taskInput, calls, .ok out⟩ nodes leader := by
  cases h with
  | ret hx =>
      have hmem := hx.restrict (P := fun op r => (⟨op, r⟩ : Event Calls) ∈ calls) fun ev hev => hev
      obtain ⟨text, members, reservations, htold, hout⟩ := nodesHandler_ret_inv hmem
      obtain ⟨_, host, _, -, hleader⟩ := htold.toldLeader
      exact ⟨_, leaderAddr text, hout, ⟨host, text, hleader, rfl⟩, answerNodes_order _ _ _⟩

/-- However TerminateNode ends, it makes at most the one call. -/
theorem calls_of_terminateNode {r : Except TaskError Json} {instanceId : String}
    (h : Answers (tasks faults) K .terminateConsul (.obj [("instanceId", .str instanceId)]) w calls r w') :
    calls = [] ∨ instanceId ≠ "" ∧ ∃ response, calls = [⟨.terminateInstances (.str instanceId), response⟩] := by
  have hrun : ∀ {p : Py Json},
      Exec K (terminateHandler (.obj [("instanceId", .str instanceId)])) w calls p w' → calls = [] ∨
        instanceId ≠ "" ∧ ∃ response, calls = [⟨.terminateInstances (.str instanceId), response⟩] := by
    intro p hx
    have hhandler : terminateHandler (.obj [("instanceId", .str instanceId)]) =
        if Mongo.isFalsy (.str instanceId) then Prog.ret missingInstanceId
        else terminate (.str instanceId) := rfl
    rw [hhandler] at hx
    split at hx
    · exact .inl (Exec.ret_inv hx).1
    · rename_i hid
      have hne : instanceId ≠ "" := by
        rintro rfl
        exact hid rfl
      cases hx with
      | rest _ => exact .inl rfl
      | @call _ _ _ _ response _ _ _ _ _ _ hrest =>
          refine .inr ⟨hne, response, ?_⟩
          cases response with
          | ok response => rw [(Exec.ret_inv hrest).1]
          | error e => rw [(Exec.throw_inv hrest).1]
  cases h with
  | ret hx => exact hrun hx
  | throw hx => exact hrun hx
  | fault hx _ => exact hrun hx

/-- So it has terminated its instance or nothing. -/
theorem terminated_of_answers {r : Except TaskError Json} {instanceId : String}
    (h : Answers (tasks faults) K .terminateConsul (.obj [("instanceId", .str instanceId)]) w calls r w') :
    calls.filterMap terminated = [] ∨
      instanceId ≠ "" ∧ calls.filterMap terminated = [.str instanceId] := by
  rcases calls_of_terminateNode h with rfl | ⟨hne, response, rfl⟩
  · exact .inl rfl
  · cases response with
    | ok response => exact .inr ⟨hne, rfl⟩
    | error e => exact .inl rfl

theorem resource_ne {s : State} {t : TaskState State Resource} (h : recycleConsulAgents tf s = .task t)
    (hs : s ≠ .terminateNode) : t.resource ≠ .terminateConsul := by
  cases s <;> cases h <;> first | exact absurd rfl hs | exact nofun

end

-- ============================================================================
-- The first part of the list
-- ============================================================================

/-- The instances terminated are those of a first part of the list. -/
def Recycled (evs : List ConsulRan) : Prop :=
  (∃ done rest, Listed evs (done ++ rest) ∧ terminatedIds evs = terminable done) ∨
    ((∀ nodes, ¬ Listed evs nodes) ∧ terminatedIds evs = [])

section
variable {tf : TfVars} {evs : List ConsulRan} {ev : ConsulRan} {nodes nodes' : List Node}

theorem Listed.unique (h : Listed evs nodes) (h' : Listed evs nodes') : nodes = nodes' := by
  obtain ⟨listing, hfilter, hanswer⟩ := h
  obtain ⟨listing', hfilter', hanswer'⟩ := h'
  rw [hfilter, List.singleton_inj] at hfilter'
  subst hfilter'
  rw [hanswer, Except.ok.injEq] at hanswer'
  exact instanceListJson_injective hanswer'

theorem listed_append_iff (hev : ev.state ≠ .getConsulNodes) :
    Listed (evs ++ [ev]) nodes ↔ Listed evs nodes := by
  have hnot : isListing ev = false := decide_eq_false hev
  rw [Listed, Listed, List.filter_append, List.filter_singleton, hnot]
  simp

/-- Another task than these two. -/
theorem Recycled.append (h : Recycled evs) (hev : ev.state ≠ .getConsulNodes)
    (hnone : ev.calls.filterMap terminated = []) : Recycled (evs ++ [ev]) := by
  rw [Recycled, terminatedIds_append_nil hnone]
  simp only [listed_append_iff hev]
  exact h

/-- The listing. -/
theorem recycled_of_listing (hlisting : evs.filter isListing = []) (hids : terminatedIds evs = [])
    (hnone : ev.calls.filterMap terminated = []) (hstate : ev.state = .getConsulNodes) :
    Recycled (evs ++ [ev]) := by
  rw [Recycled, terminatedIds_append_nil hnone, hids]
  have hyes : isListing ev = true := decide_eq_true hstate
  have hfilter : (evs ++ [ev]).filter isListing = [ev] := by
    rw [List.filter_append, hlisting, List.filter_singleton, hyes]
    rfl
  by_cases hok : ∃ nodes, ev.answer = .ok (instanceListJson nodes)
  · obtain ⟨nodes, hanswer⟩ := hok
    exact .inl ⟨[], nodes, ⟨ev, hfilter, hanswer⟩, rfl⟩
  · refine .inr ⟨fun nodes hlisted => hok ?_, rfl⟩
    obtain ⟨listing, hfilter', hanswer⟩ := hlisted
    rw [hfilter, List.singleton_inj] at hfilter'
    exact ⟨nodes, hfilter' ▸ hanswer⟩

/-- TerminateNode goes on with the list. -/
theorem recycled_of_terminate {done rest : List Node} {node : Node}
    (hlisted : Listed evs (done ++ node :: rest)) (hids : terminatedIds evs = terminable done)
    (hstate : ev.state = .terminateNode) (hcalls : ev.calls.filterMap terminated = [] ∨
      node.instanceId ≠ "" ∧ ev.calls.filterMap terminated = [.str node.instanceId]) :
    Recycled (evs ++ [ev]) := by
  have hlisted' : Listed (evs ++ [ev]) (done ++ node :: rest) := by
    refine hlisted.append ?_
    rw [hstate]
    exact nofun
  rcases hcalls with hnone | ⟨hid, hone⟩
  · exact .inl ⟨done, node :: rest, hlisted', by rw [terminatedIds_append_nil hnone, hids]⟩
  · rw [List.append_cons done] at hlisted'
    refine .inl ⟨done ++ [node], rest, hlisted', ?_⟩
    rw [terminatedIds_append, hids, hone, terminable_append, if_neg hid]

end

section
variable {W : Type} {K : Setting Calls W} {tf : TfVars} {faults : TaskError → Prop}
  {input : Json} {evs : List ConsulRan} {c : Nested.Cfg State}

theorem Runs.recycled (h : Runs tf faults K input evs c) : Recycled evs := by
  refine h.flow (I := fun evs _ => Recycled evs) (.inr ⟨?_, rfl⟩) (fun _ hrecycled _ _ => hrecycled) ?_
  · rintro nodes ⟨listing, hfilter, -⟩
    cases hfilter
  · intro evs s data n stack t taskInput w calls r w' c hstage hrecycled hs ha _
    obtain ⟨ht, hparams⟩ := StateDef.task_of_invoke hs
    by_cases hterminate : s = .terminateNode
    · subst hterminate
      cases hstage with
      | gated h hids hfive hcounted =>
          cases ht
          obtain rfl := terminateParameters_inv ⟨input, none⟩ h.id hparams
          exact recycled_of_terminate h.listed hids rfl (terminated_of_answers ha)
      | leaving hstate => rcases hstate with hstate | hstate | hstate <;> cases hstate
      | replacing hstate => rcases hstate with hstate | hstate <;> cases hstate
      | aborted h => cases h
    have hnone : calls.filterMap terminated = [] :=
      filterMap_terminated_nil ha (resource_ne ht hterminate)
    by_cases hlisting : s = .getConsulNodes
    · subst hlisting
      cases hstage with
      | listing hclean hfilter hids hfive => exact recycled_of_listing hfilter hids hnone rfl
      | leaving hstate => rcases hstate with hstate | hstate | hstate <;> cases hstate
      | replacing hstate => rcases hstate with hstate | hstate <;> cases hstate
      | aborted h => cases h
    · exact hrecycled.append hlisting hnone

/-- Each list has the leader at its end. -/
theorem Runs.leaderListedLast (h : Runs tf faults K input evs c) :
    ∀ ev ∈ evs, ev.state = .getConsulNodes → ∀ nodes, ev.answer = .ok (instanceListJson nodes) →
      ∃ leader, LeaderListedLast ev nodes leader := by
  refine h.flow (I := fun evs _ => ∀ ev ∈ evs, ev.state = .getConsulNodes →
    ∀ nodes, ev.answer = .ok (instanceListJson nodes) → ∃ leader, LeaderListedLast ev nodes leader)
    (fun _ hev => nomatch hev) (fun _ hall _ _ => hall) ?_
  intro evs s data n stack t taskInput w calls r w' c _ hall hs ha _ ev hev hstate nodes hanswer
  rcases List.mem_append.mp hev with hev | hev
  · exact hall ev hev hstate nodes hanswer
  obtain rfl := List.mem_singleton.mp hev
  obtain rfl : s = .getConsulNodes := hstate
  obtain rfl : r = .ok (instanceListJson nodes) := hanswer
  obtain ⟨ht, -⟩ := StateDef.task_of_invoke hs
  cases ht
  obtain ⟨nodes', leader, hout, hlast⟩ := leaderListedLast_of_answers n ha
  rw [instanceListJson_injective hout]
  exact ⟨leader, hlast⟩

/-- GetConsulNodes has answered with `nodes`, the ones at the address of `leader` last. -/
def ListedLeaderLast (evs : List ConsulRan) (nodes : List Node) (leader : String) : Prop :=
  ∃ ev ∈ evs, ev.state = .getConsulNodes ∧ ev.answer = .ok (instanceListJson nodes) ∧
    LeaderListedLast ev nodes leader

/-- At any point of a run the instances terminated are those of a first part of
    the list, and once the leader that GetConsulNodes has read is among them only
    entries with its address are left.  Without a list nothing is terminated. -/
theorem leader_last (tf : TfVars) (faults : TaskError → Prop) (K : Setting Calls W) (input : Json)
    (evs : List ConsulRan) (c : Nested.Cfg State) (h : Runs tf faults K input evs c) :
    (∀ nodes, Listed evs nodes → ∃ done rest leader, nodes = done ++ rest ∧
      terminatedIds evs = terminable done ∧ ListedLeaderLast evs nodes leader ∧
      ((∃ node ∈ done, node.ip = leader) → ∀ node ∈ rest, node.ip = leader)) ∧
    ((∀ nodes, ¬ Listed evs nodes) → terminatedIds evs = []) := by
  constructor
  · intro nodes hlisted
    rcases h.recycled with ⟨done, rest, hlisted', hids⟩ | ⟨hnone, -⟩
    · obtain rfl := hlisted.unique hlisted'
      obtain ⟨listing, hfilter, hanswer⟩ := hlisted
      have hmem : listing ∈ evs.filter isListing := by
        rw [hfilter]
        exact List.mem_singleton_self listing
      obtain ⟨hevs, hlisting⟩ := List.mem_filter.mp hmem
      have hstate : listing.state = .getConsulNodes := of_decide_eq_true hlisting
      obtain ⟨leader, hlast⟩ := h.leaderListedLast listing hevs hstate _ hanswer
      obtain ⟨-, others, leaders, horder, hothers, hleaders⟩ := id hlast
      exact ⟨done, rest, leader, rfl, hids, ⟨listing, hevs, hstate, hanswer, hlast⟩,
        leader_after rfl horder hothers hleaders⟩
    · exact absurd hlisted (hnone nodes)
  · intro hnone
    rcases h.recycled with ⟨done, rest, hlisted, -⟩ | ⟨-, hids⟩
    · exact absurd hlisted (hnone _)
    · exact hids

/-- The run in which the first of five nodes is terminated. -/
theorem leader_last_cluster : ∃ evs c nodes,
    Runs clusterVars (fun _ => False) ignoringCluster clusterInput evs c ∧ Listed evs nodes ∧
    ∃ done rest leader, nodes = done ++ rest ∧ terminatedIds evs = terminable done ∧
      ListedLeaderLast evs nodes leader ∧
      ((∃ node ∈ done, node.ip = leader) → ∀ node ∈ rest, node.ip = leader) := by
  obtain ⟨pre, check, ev, c, _, hruns, hstate, -⟩ := clusterRun_terminate
  have hevs : pre ++ check :: [ev] = (pre ++ [check]) ++ ev :: [] := by simp
  obtain ⟨nodes, node, hlisted, -⟩ := (hruns.stage.2 (pre ++ [check]) ev [] hevs).listed hstate
  have hlisted' : Listed (pre ++ check :: [ev]) nodes := by
    rw [hevs]
    refine hlisted.append ?_
    rw [hstate]
    exact nofun
  exact ⟨_, c, nodes, hruns, hlisted', (leader_last _ _ _ _ _ _ hruns).1 nodes hlisted'⟩

end

end AutoRecycle.Consul
