/-
  AutoRecycle.Consul.Together

  Any number of executions of recycle_consul_agents in one cluster.

  Nothing keeps two executions from running at once.  What keeps them from
  terminating two servers at once is the number that the check before
  TerminateNode insists on: an execution that counts four peers, having made its
  own node leave, knows that all the others are serving.  So a node that has been
  counted out, by whatever execution, is the only one; `OneLocked` says so of
  every joint state.

  The cluster has at most five servers.  A leave command that was accepted works:
  by the time its execution counts the peers the server has left, and it stays
  out until it is replaced.  Servers may fail, come back or leave at any time by
  themselves, and one that is gone is replaced by one whose instance nobody has
  asked to leave.
-/
import AutoRecycle.Consul.LeaderLast
import AutoRecycle.Data.Split
import Mathlib.Data.Fintype.Card
import Mathlib.Tactic.FinCases

namespace AutoRecycle.Consul

open AutoRecycle.Asl AutoRecycle.Asl.Nested AutoRecycle.Data AutoRecycle.Effect

-- ============================================================================
-- The calls of one execution
-- ============================================================================

/-- The call has made SSM ask the instance to leave. -/
def AsksToLeave (instanceId : String) : Event Calls → Prop
  | ⟨.sendCommand input, .ok _⟩ => input.get? ["InstanceIds"] = some (.arr [.str instanceId])
  | _ => False

/-- The call has counted four peers. -/
def CountsFour : Event Calls → Prop
  | ⟨.statusPeers _, .ok peers⟩ => peers.length = 4
  | _ => False

/-- The instance has been asked to leave, and the last call has counted four peers. -/
structure Gated (calls : Trace Calls) (instanceId : String) : Prop where
  asked : ∃ ev ∈ calls, AsksToLeave instanceId ev
  counted : ∃ ev, calls.getLast? = some ev ∧ CountsFour ev

/-- All calls of the tasks. -/
def callsOf (evs : List ConsulRan) : Trace Calls := evs.flatMap (·.calls)

/-- An execution can have made the calls so far, in whatever world. -/
def Made (calls : Trace Calls) : Prop :=
  ∃ (W : Type) (tf : TfVars) (faults : TaskError → Prop) (K : Setting Calls W) (input : Json)
    (evs : List ConsulRan) (c : Nested.Cfg State),
    Runs tf faults K input evs c ∧ calls <+: callsOf evs

-- ============================================================================
-- What a task has done
-- ============================================================================

/-- A task of the run, after the tasks `pre`. -/
structure Careful (pre : List ConsulRan) (ev : ConsulRan) : Prop where
  harmless : ev.state ≠ .terminateNode → ∀ call ∈ ev.calls, Harmless call.1
  asked : ev.state = .terminateNode → ∃ instanceId, (∃ call ∈ callsOf pre, AsksToLeave instanceId call) ∧
    (ev.calls = [] ∨ ∃ response, ev.calls = [⟨.terminateInstances (.str instanceId), response⟩])

/-- The states between the leave and the termination. -/
def leaving : List State := [.waitBeforeHealthCheck, .checkClusterHealthPostLeave, .terminateNode]

/-- In these states the item has been asked to leave. -/
def LeaveAsked (evs : List ConsulRan) (s : State) : List (Frame State) → Prop
  | .map _ _ item _ _ :: _ => s ∈ leaving → ∃ instanceId,
      item.get? ["instanceId"] = some (.str instanceId) ∧
        ∃ call ∈ callsOf evs, AsksToLeave instanceId call
  | _ => True

/-- The execution is there. -/
def LeaveAskedAt (evs : List ConsulRan) : Nested.Cfg State → Prop
  | .at s _ _ stack => LeaveAsked evs s stack
  | _ => True

section
variable {evs : List ConsulRan} {ev : ConsulRan} {s s' : State} {data data' : Json} {n : Nat}
  {stack : List (Frame State)} {r : Option (Except TaskError Json)} {c : Nested.Cfg State}

theorem callsOf_append : callsOf (evs ++ [ev]) = callsOf evs ++ ev.calls := by
  rw [callsOf, List.flatMap_append, List.flatMap_singleton]
  rfl

theorem LeaveAsked.of_not (h : s ∉ leaving) : LeaveAsked evs s stack := by
  unfold LeaveAsked
  split
  · exact fun hs => absurd hs h
  · trivial

theorem LeaveAsked.mono {evs' : List ConsulRan} (h : LeaveAsked evs s stack)
    (hs : s' ∈ leaving → s ∈ leaving) (hevs : callsOf evs ⊆ callsOf evs') : LeaveAsked evs' s' stack := by
  unfold LeaveAsked at h ⊢
  split
  · intro hs'
    obtain ⟨instanceId, hitem, call, hcall, hasks⟩ := h (hs hs')
    exact ⟨instanceId, hitem, call, hevs hcall, hasks⟩
  · trivial

/-- The leave comes before these states. -/
theorem following_leaving (h : following s = some s') (hs' : s' ∈ leaving) :
    s = .gracefulLeave ∨ s ∈ leaving := by
  cases s <;> cases h <;> first | exact absurd hs' (by decide) | simp [leaving]

theorem LeaveAskedAt.goto (h : LeaveAskedAt evs (.at s data n stack))
    (hgoes : Goes (.at s data n stack) none c) : LeaveAskedAt evs c := by
  cases hgoes with
  | waitLeave => exact LeaveAsked.mono h (fun _ => by decide) (List.Subset.refl _)
  | waitFinal => exact LeaveAsked.of_not (s := .checkClusterHealthFinal) (by decide)
  | first => exact fun hleaving => absurd hleaving (by decide)
  | _ => trivial

theorem LeaveAskedAt.task {taskInput : Json} {calls : Trace Calls} {answer : Except TaskError Json}
    (h : LeaveAskedAt evs (.at s data n stack))
    (hleave : s = .gracefulLeave → ∀ out, answer = .ok out → ∀ s',
      LeaveAsked (evs ++ [⟨s, n, taskInput, calls, answer⟩]) s' stack)
    (hgoes : Goes (.at s data n stack) (some answer) c) :
    LeaveAskedAt (evs ++ [⟨s, n, taskInput, calls, answer⟩]) c := by
  have hsub : callsOf evs ⊆ callsOf (evs ++ [⟨s, n, taskInput, calls, answer⟩]) := by
    rw [callsOf_append]
    exact List.subset_append_left _ _
  cases hgoes with
  | @next _ next _ _ _ _ out hnext =>
      by_cases hs' : next ∈ leaving
      · rcases following_leaving hnext hs' with hs | hs
        · exact hleave hs out rfl next
        · exact LeaveAsked.mono h (fun _ => hs) hsub
      · exact LeaveAsked.of_not hs'
  | again => exact LeaveAsked.mono h id hsub
  | item => exact fun hleaving => absurd hleaving (by decide)
  | _ => trivial

end

section
variable {W : Type} {K : Setting Calls W} {w w' : W} {calls : Trace Calls} {tf : TfVars}
  {faults : TaskError → Prop} {evs : List ConsulRan} {ev : ConsulRan} {r : Except TaskError Json}

/-- The command has been accepted. -/
theorem leave_of_answers {taskInput out : Json}
    (h : Answers (tasks faults) K .sendCommand taskInput w calls (.ok out) w') :
    ∃ response, calls = [⟨.sendCommand taskInput, .ok response⟩] := by
  cases h with
  | ret hx =>
      obtain ⟨r, rest, _, _, rfl, -, -, hrest⟩ := Exec.call_ret_inv hx
      cases r with
      | ok response =>
          rw [(Exec.ret_inv hrest).1]
          exact ⟨response, rfl⟩
      | error e => cases (Exec.throw_inv hrest).2

theorem harmless_of_answers {resource : Resource} {taskInput : Json}
    (h : Answers (tasks faults) K resource taskInput w calls r w')
    (hresource : resource ≠ .terminateConsul) : ∀ call ∈ calls, Harmless call.1 := by
  have hharmless := harmless_impl hresource taskInput
  cases h with
  | ret hx => exact (hx.issues hharmless).1
  | throw hx => exact (hx.issues hharmless).1
  | fault hx _ => exact (hx.issues hharmless).1

theorem leaveParameters_inv (ctx : Context) {data taskInput instanceId : Json}
    (hid : data.get? ["instanceId"] = some instanceId)
    (h : leaveParameters tf ctx data = some taskInput) :
    taskInput.get? ["InstanceIds"] = some (.arr [instanceId]) := by
  obtain ⟨id, hid', hret⟩ := Option.bind_eq_some_iff.mp h
  rw [hid] at hid'
  cases hid'
  cases hret
  rfl

theorem Careful.of_ne {pre : List ConsulRan} (hs : ev.state ≠ .terminateNode)
    (h : ∀ call ∈ ev.calls, Harmless call.1) : Careful pre ev :=
  ⟨fun _ => h, fun hterminate => absurd hterminate hs⟩

/-- The leave has been sent to the item. -/
theorem Stage.leaveAsked {s' : State} {data taskInput input out : Json} {n : Nat}
    {stack : List (Frame State)} {t : TaskState State Resource}
    (h : Stage tf evs (.at .gracefulLeave data n stack))
    (hs : (recycleConsulAgents tf .gracefulLeave).start input stack data = .invoke t taskInput)
    (ha : Answers (tasks faults) K t.resource taskInput w calls (.ok out) w') :
    LeaveAsked (evs ++ [⟨.gracefulLeave, n, taskInput, calls, .ok out⟩]) s' stack := by
  obtain ⟨rfl, hparams⟩ := start_task_invoke hs
  obtain ⟨response, rfl⟩ := leave_of_answers ha
  cases h with
  | leaving hstate h =>
      refine fun _ => ⟨_, rfl, ⟨.sendCommand taskInput, .ok response⟩, ?_, ?_⟩
      · rw [callsOf_append]
        exact List.mem_append_right _ (List.mem_singleton_self _)
      · exact leaveParameters_inv ⟨input, none⟩ h.id hparams
  | replacing hstate => rcases hstate with hstate | hstate <;> cases hstate
  | aborted h => cases h

/-- The instance that is terminated was asked to leave. -/
theorem Stage.careful_of_terminate {data taskInput input : Json} {n : Nat}
    {stack : List (Frame State)} {t : TaskState State Resource}
    (h : Stage tf evs (.at .terminateNode data n stack))
    (hasked : LeaveAskedAt evs (.at .terminateNode data n stack))
    (hs : (recycleConsulAgents tf .terminateNode).start input stack data = .invoke t taskInput)
    (ha : Answers (tasks faults) K t.resource taskInput w calls r w') :
    Careful evs ⟨.terminateNode, n, taskInput, calls, r⟩ := by
  obtain ⟨rfl, hparams⟩ := start_task_invoke hs
  cases h with
  | leaving hstate => rcases hstate with hstate | hstate | hstate <;> cases hstate
  | gated h =>
      obtain rfl := terminateParameters_inv ⟨input, none⟩ h.id hparams
      obtain ⟨instanceId, hitem, hcall⟩ := hasked (by decide)
      cases hitem
      refine ⟨fun hne => absurd rfl hne, fun _ => ⟨_, hcall, ?_⟩⟩
      exact (calls_of_terminateNode ha).imp_right And.right
  | replacing hstate => rcases hstate with hstate | hstate <;> cases hstate
  | aborted h => cases h

theorem Runs.careful {input : Json} {c : Nested.Cfg State} (h : Runs tf faults K input evs c) :
    ∀ pre ev post, evs = pre ++ ev :: post → Careful pre ev := by
  have hboth : (∀ pre ev post, evs = pre ++ ev :: post → Careful pre ev) ∧ LeaveAskedAt evs c := by
    refine h.flow (I := fun evs c => (∀ pre ev post, evs = pre ++ ev :: post → Careful pre ev) ∧
      LeaveAskedAt evs c) ⟨?_, trivial⟩ ?_ ?_
    · intro pre ev post hnil
      simp at hnil
    · rintro evs s data n stack c - ⟨hcareful, hasked⟩ - hgoes
      exact ⟨hcareful, hasked.goto hgoes⟩
    · rintro evs s data n stack t taskInput w calls r w' c hstage ⟨hcareful, hasked⟩ hs ha hgoes
      refine ⟨forall_split_append hcareful ?_, hasked.task ?_ hgoes⟩
      · by_cases hterminate : s = .terminateNode
        · subst hterminate
          exact hstage.careful_of_terminate hasked hs ha
        · obtain ⟨ht, -⟩ := StateDef.task_of_invoke hs
          exact .of_ne hterminate (harmless_of_answers ha (resource_ne ht hterminate))
      · rintro rfl out rfl s'
        exact hstage.leaveAsked hs ha
  exact hboth.1

end

-- ============================================================================
-- Before an instance is terminated
-- ============================================================================

/-- The check has counted the peers last. -/
theorem getLast?_of_justCounted {pre : List ConsulRan} {peers : List String}
    (h : JustCounted pre peers) :
    ∃ host, (callsOf pre).getLast? = some ⟨.statusPeers host, .ok peers⟩ := by
  obtain ⟨before, check, rfl, -, calls, host, text, hcalls, -⟩ := h
  refine ⟨host, ?_⟩
  rw [callsOf_append, hcalls, List.getLast?_append, List.getLast?_append]
  rfl

/-- What is terminated was asked to leave, and then four peers were counted. -/
theorem Made.gated {calls : Trace Calls} {instanceId : Json} {response : Except PyExc Json}
    (h : Made (calls ++ [⟨.terminateInstances instanceId, response⟩])) :
    ∃ id, instanceId = .str id ∧ Gated calls id := by
  obtain ⟨W, tf, faults, K, input, evs, c, hruns, later, hcalls⟩ := h
  rw [List.append_assoc, List.singleton_append] at hcalls
  obtain ⟨pre, ev, post, a, b, hevs, hev, rfl⟩ := exists_split_of_flatMap hcalls.symm
  have hcareful := hruns.careful pre ev post hevs
  have hmem : (⟨.terminateInstances instanceId, response⟩ : Event Calls) ∈ ev.calls := by
    rw [hev]
    exact List.mem_append_right a List.mem_cons_self
  have hstate : ev.state = .terminateNode := by
    by_contra hne
    exact hcareful.harmless hne _ hmem
  obtain ⟨id, hasked, hnone | ⟨response', hone⟩⟩ := hcareful.asked hstate
  · rw [hnone] at hmem
    cases hmem
  · rw [hone] at hev hmem
    cases List.mem_singleton.mp hmem
    have ha : a = [] := by
      have hlength := congrArg List.length hev
      rw [List.length_singleton, List.length_append, List.length_cons] at hlength
      exact List.length_eq_zero_iff.mp (by omega)
    rw [ha, List.append_nil]
    obtain ⟨peers, hcounted, hfour⟩ := (hruns.stage.2 pre ev post hevs).gated hstate
    obtain ⟨host, hlast⟩ := getLast?_of_justCounted hcounted
    exact ⟨id, rfl, hasked, _, hlast, hfour⟩

-- ============================================================================
-- The cluster
-- ============================================================================

inductive Standing where
  /-- A peer. -/
  | serving
  /-- Failed, and may come back. -/
  | out
  /-- Left, and does not come back. -/
  | left
  /-- Terminated, and not replaced yet. -/
  | terminated
  deriving DecidableEq

/-- A server of the control plane. -/
structure Server where
  instanceId : String
  standing : Standing

namespace Server

def Gone (s : Server) : Prop := s.standing = .left ∨ s.standing = .terminated

def terminate (instanceId : String) (s : Server) : Server :=
  if s.instanceId = instanceId then { s with standing := .terminated } else s

/-- What happens to a server by itself; `asked` are the instances that have been
    asked to leave. -/
inductive Moves (asked : String → Prop) : Server → Server → Prop where
  | fail {id} : Moves asked ⟨id, .serving⟩ ⟨id, .out⟩
  | rejoin {id} : Moves asked ⟨id, .out⟩ ⟨id, .serving⟩
  | leave {id standing} (h : standing = .serving ∨ standing = .out) :
      Moves asked ⟨id, standing⟩ ⟨id, .left⟩
  | replace {s id standing} (h : s.Gone) (hid : ¬ asked id)
      (hstanding : standing = .serving ∨ standing = .out) : Moves asked s ⟨id, standing⟩

end Server

/-- Whom the calls have asked to leave. -/
def askedToLeave (calls : Trace Calls) (instanceId : String) : Prop :=
  ∃ call ∈ calls, AsksToLeave instanceId call

/-- The servers `κ`. -/
abbrev Cluster (κ : Type) : Type := κ → Server

namespace Cluster

variable {κ : Type} [Fintype κ]

/-- The peers. -/
def serving (c : Cluster κ) : Finset κ := Finset.univ.filter fun k => (c k).standing = .serving

/-- How the cluster answers an execution that has made `calls`, and what it is
    afterwards.  By the time that the peers are counted, the servers that the
    execution has asked to leave have left. -/
def Answers (calls : Trace Calls) (c : Cluster κ) : Event Calls → Cluster κ → Prop
  | ⟨.statusPeers _, .ok peers⟩, c' => c' = c ∧ peers.length = c.serving.card ∧
      ∀ k, askedToLeave calls (c k).instanceId → (c k).Gone
  | ⟨.terminateInstances (.str instanceId), .ok _⟩, c' => c' = fun k => (c k).terminate instanceId
  -- an error does not say whether the instance is still there
  | ⟨.terminateInstances (.str instanceId), .error _⟩, c' =>
      c' = c ∨ c' = fun k => (c k).terminate instanceId
  | _, c' => c' = c

end Cluster

/-- The executions `ι` have made the calls `τ`, in any order between them, and the
    cluster is now `c`. -/
inductive Together {κ ι : Type} [Fintype κ] [DecidableEq κ] [DecidableEq ι] :
    (ι → Trace Calls) → Cluster κ → Prop where
  | start {c} (h : ∀ k, (c k).standing ≠ .terminated) : Together (fun _ => []) c
  | call {τ c ev c'} (i : ι) (h : Together τ c) (hmade : Made (τ i ++ [ev]))
      (ha : c.Answers (τ i) ev c') : Together (Function.update τ i (τ i ++ [ev])) c'
  | move {τ c s} (k : κ) (h : Together τ c)
      (hmoves : (c k).Moves (fun id => ∃ i, askedToLeave (τ i) id) s) :
      Together τ (Function.update c k s)

-- ============================================================================
-- Counting
-- ============================================================================

section
variable {calls : Trace Calls} {ev : Event Calls} {id : String}

theorem CountsFour.inv (h : CountsFour ev) :
    ∃ host peers, ev = ⟨.statusPeers host, .ok peers⟩ ∧ peers.length = 4 := by
  obtain ⟨op, r⟩ := ev
  cases op with
  | statusPeers host =>
      cases r with
      | ok peers => exact ⟨host, peers, rfl, h⟩
      | error e => exact h.elim
  | _ => exact h.elim

/-- Who is counted out was asked before the count. -/
theorem Gated.of_append (h : Gated (calls ++ [ev]) id) : CountsFour ev ∧ askedToLeave calls id := by
  obtain ⟨⟨call, hcall, hasks⟩, last, hlast, hfour⟩ := h
  rw [List.getLast?_concat, Option.some.injEq] at hlast
  subst hlast
  refine ⟨hfour, call, ?_, hasks⟩
  rcases List.mem_append.mp hcall with hcall | hcall
  · exact hcall
  · obtain rfl := List.mem_singleton.mp hcall
    obtain ⟨host, peers, rfl, -⟩ := hfour.inv
    exact hasks.elim

end

section
variable {κ : Type} [Fintype κ] {c c' : Cluster κ} {calls : Trace Calls} {ev : Event Calls}

/-- When four of five servers are peers, at most one is gone. -/
theorem eq_of_gone (hfive : Fintype.card κ ≤ 5) (hfour : c.serving.card = 4) {k k' : κ}
    (hk : (c k).Gone) (hk' : (c k').Gone) : k = k' := by
  classical
  by_contra hne
  have hnot : ∀ {j}, (c j).Gone → j ∉ c.serving := by
    intro j hj hserving
    have hstanding := (Finset.mem_filter.mp hserving).2
    rcases hj with hj | hj <;> rw [hstanding] at hj <;> cases hj
  have hdisjoint : Disjoint c.serving {k, k'} := by
    rw [Finset.disjoint_insert_right, Finset.disjoint_singleton_right]
    exact ⟨hnot hk, hnot hk'⟩
  have hcard := Finset.card_le_univ (c.serving ∪ {k, k'})
  rw [Finset.card_union_of_disjoint hdisjoint, hfour, Finset.card_pair hne] at hcard
  omega

/-- A count leaves the cluster as it is. -/
theorem Cluster.Answers.of_countsFour (h : c.Answers calls ev c') (hev : CountsFour ev) :
    c' = c ∧ c.serving.card = 4 ∧ ∀ k, askedToLeave calls (c k).instanceId → (c k).Gone := by
  obtain ⟨host, peers, rfl, hfour⟩ := hev.inv
  obtain ⟨rfl, hcard, hleft⟩ := h
  exact ⟨rfl, hcard ▸ hfour, hleft⟩

/-- Only a termination changes the cluster. -/
theorem Cluster.Answers.cases (h : c.Answers calls ev c') : c' = c ∨
    ∃ id response, ev = ⟨.terminateInstances (.str id), response⟩ ∧ c' = fun k => (c k).terminate id := by
  unfold Answers at h
  split at h
  · exact .inl h.1
  · exact .inr ⟨_, _, rfl, h⟩
  · exact h.imp_right fun h => ⟨_, _, rfl, h⟩
  · exact .inl h

end

-- ============================================================================
-- The invariant
-- ============================================================================

/-- The server is down by the executions, or about to be. -/
def Locked {ι : Type} (τ : ι → Trace Calls) (s : Server) : Prop :=
  s.standing = .terminated ∨ ∃ i, Gated (τ i) s.instanceId

/-- Such a server is not serving, and it is the only one. -/
structure OneLocked {κ ι : Type} (τ : ι → Trace Calls) (c : Cluster κ) : Prop where
  gone : ∀ k, Locked τ (c k) → (c k).Gone
  one : ∀ k k', Locked τ (c k) → Locked τ (c k') → k = k'

section
variable {κ ι : Type} {τ τ' : ι → Trace Calls} {c c' : Cluster κ} {s s' : Server}

/-- No more servers are locked than before. -/
theorem OneLocked.of_imp (h : OneLocked τ c)
    (himp : ∀ k, Locked τ' (c' k) → Locked τ (c k) ∧ (c' k).Gone) : OneLocked τ' c' :=
  ⟨fun k hk => (himp k hk).2, fun k k' hk hk' => h.one k k' (himp k hk).1 (himp k' hk').1⟩

theorem Server.Gone.terminate (h : s.Gone) (id : String) : (s.terminate id).Gone := by
  rw [Server.terminate]
  split
  · exact .inr rfl
  · exact h

theorem Server.Moves.locked (h : s.Moves (fun id => ∃ i, askedToLeave (τ i) id) s')
    (hgone : Locked τ s → s.Gone) (hs' : Locked τ s') : Locked τ s ∧ s'.Gone := by
  rcases hs' with hs' | ⟨i, hgated⟩
  · cases h with
    | replace _ _ hstanding =>
        cases hs'
        exact absurd hstanding (by decide)
    | _ => cases hs'
  · cases h with
    | fail => exact absurd (hgone (.inr ⟨i, hgated⟩)) (by simp [Server.Gone])
    | rejoin => exact absurd (hgone (.inr ⟨i, hgated⟩)) (by simp [Server.Gone])
    | leave => exact ⟨.inr ⟨i, hgated⟩, .inl rfl⟩
    | replace _ hid => exact absurd ⟨i, hgated.asked⟩ hid

theorem OneLocked.move [DecidableEq κ] {k : κ} (h : OneLocked τ c)
    (hmoves : (c k).Moves (fun id => ∃ i, askedToLeave (τ i) id) s) :
    OneLocked τ (Function.update c k s) := by
  refine h.of_imp fun j hj => ?_
  by_cases hjk : j = k
  · subst hjk
    rw [Function.update_self] at hj ⊢
    exact hmoves.locked (h.gone j) hj
  · rw [Function.update_of_ne hjk] at hj ⊢
    exact ⟨hj, h.gone j hj⟩

/-- To begin with. -/
theorem OneLocked.start (h : ∀ k, (c k).standing ≠ .terminated) :
    OneLocked (fun _ : ι => ([] : Trace Calls)) c := by
  have hnone : ∀ k, ¬ Locked (fun _ : ι => ([] : Trace Calls)) (c k) := by
    rintro k (hk | ⟨i, ⟨call, hcall, -⟩, -⟩)
    · exact h k hk
    · cases hcall
  exact ⟨fun k hk => absurd hk (hnone k), fun k _ hk _ => absurd hk (hnone k)⟩

end

section
variable {κ ι : Type} [DecidableEq ι] {τ : ι → Trace Calls} {c c' : Cluster κ} {ev : Event Calls}
  {s : Server} {i : ι}

theorem Locked.of_update (hev : ¬ CountsFour ev)
    (h : Locked (Function.update τ i (τ i ++ [ev])) s) : Locked τ s := by
  rcases h with h | ⟨j, h⟩
  · exact .inl h
  · by_cases hj : j = i
    · subst hj
      rw [Function.update_self] at h
      exact absurd h.of_append.1 hev
    · rw [Function.update_of_ne hj] at h
      exact .inr ⟨j, h⟩

theorem OneLocked.counts [Fintype κ] (h : OneLocked τ c) (hfive : Fintype.card κ ≤ 5) (hfour : c.serving.card = 4)
    (hleft : ∀ k, askedToLeave (τ i) (c k).instanceId → (c k).Gone) :
    OneLocked (Function.update τ i (τ i ++ [ev])) c := by
  have hgone : ∀ k, Locked (Function.update τ i (τ i ++ [ev])) (c k) → (c k).Gone := by
    rintro k (hk | ⟨j, hk⟩)
    · exact .inr hk
    · by_cases hj : j = i
      · subst hj
        rw [Function.update_self] at hk
        exact hleft k hk.of_append.2
      · rw [Function.update_of_ne hj] at hk
        exact h.gone k (.inr ⟨j, hk⟩)
  exact ⟨hgone, fun k k' hk hk' => eq_of_gone hfive hfour (hgone k hk) (hgone k' hk')⟩

theorem OneLocked.call [Fintype κ] (h : OneLocked τ c) (hfive : Fintype.card κ ≤ 5) (hmade : Made (τ i ++ [ev]))
    (ha : c.Answers (τ i) ev c') : OneLocked (Function.update τ i (τ i ++ [ev])) c' := by
  by_cases hev : CountsFour ev
  · obtain ⟨rfl, hfour, hleft⟩ := ha.of_countsFour hev
    exact h.counts hfive hfour hleft
  · rcases ha.cases with rfl | ⟨id, response, rfl, rfl⟩
    · exact h.of_imp fun k hk => ⟨hk.of_update hev, h.gone k (hk.of_update hev)⟩
    · obtain ⟨id', hid, hgated⟩ := hmade.gated
      cases hid
      refine h.of_imp fun k hk => ?_
      have hlocked : Locked τ (c k) := by
        by_cases hk' : (c k).instanceId = id
        · exact .inr ⟨i, hk' ▸ hgated⟩
        · rw [Server.terminate, if_neg hk'] at hk
          exact hk.of_update hev
      exact ⟨hlocked, (h.gone k hlocked).terminate id⟩

/-- Whatever the executions do, and whatever happens to the servers by themselves. -/
theorem Together.oneLocked [Fintype κ] [DecidableEq κ] (h : Together τ c)
    (hfive : Fintype.card κ ≤ 5) : OneLocked τ c := by
  induction h with
  | start h => exact .start h
  | call i _ hmade ha ih => exact ih.call hfive hmade ha
  | move k _ hmoves ih => exact ih.move hmoves

/-- Of at most five servers, no two are ever down by the executions at the same
    time, however many executions there are. -/
theorem one_terminated {κ ι : Type} [Fintype κ] [DecidableEq κ] [DecidableEq ι]
    (hfive : Fintype.card κ ≤ 5) (τ : ι → Trace Calls) (c : Cluster κ) (h : Together τ c) :
    {k | (c k).standing = .terminated}.Subsingleton := by
  intro k hk k' hk'
  exact (h.oneLocked hfive).one k k' (.inl hk) (.inl hk')

end

-- ============================================================================
-- One execution in the cluster
-- ============================================================================

/-- The calls that the cluster takes no notice of. -/
def Quiet : Op → Prop
  | .statusPeers _ => False
  | .sendCommand _ => False
  | .terminateInstances _ => False
  | _ => True

theorem Made.of_le {calls calls' : Trace Calls} (h : Made calls') (hle : calls <+: calls') :
    Made calls := by
  obtain ⟨W, tf, faults, K, input, evs, c, hruns, hcalls⟩ := h
  exact ⟨W, tf, faults, K, input, evs, c, hruns, hle.trans hcalls⟩

theorem quiet_nodesHandler (event : Json) : (nodesHandler event).Issues Quiet := by
  have hhost : (getConsulHost event).Issues Quiet :=
    ⟨trivial, fun _ => (issues_raise _).bind fun _ => trivial⟩
  apply hhost.bind
  intro host
  refine ⟨trivial, fun _ => (issues_raise _).bind fun _ => Prog.Issues.bind
    (Prog.Issues.tryCatch ?_ fun _ => trivial) fun _ => trivial⟩
  refine ⟨trivial, fun _ => (issues_raise _).bind fun text => ?_⟩
  exact ⟨trivial, fun _ => (issues_raise _).bind fun members => (issues_raise _).bind fun addrs =>
    issues_ite trivial ⟨trivial, fun _ => (issues_raise _).bind fun _ => trivial⟩⟩

/-- The calls of a check before it counts the peers. -/
def checkFront (host : String) : Trace Calls :=
  [⟨.getenv "environment", some "integration"⟩, ⟨.sslContext, .ok ()⟩,
    ⟨.statusLeader host, .ok "\"10.0.0.4:8300\""⟩]

def checkCalls (host : String) (down : Bool) : Trace Calls :=
  checkFront host ++ [⟨.statusPeers host, .ok (clusterPeers down)⟩]

theorem exec_checkHandler_cluster {fields : Dict Json} {down : Bool}
    (hcount : equalsNat (clusterPeers down).length
      ((Dict.get? "expectedPeers" fields).getD (.num 5)) = true) :
    ∃ host out, Exec ignoringCluster (checkHandler (.obj fields)) down (checkCalls host down)
      (.ret out) down := by
  have hcaught : ∀ host g, ∃ out, Exec ignoringCluster ((checkCluster host
      ((Dict.get? "expectedPeers" fields).getD (.num 5))).tryCatch g) down
      [⟨.statusLeader host, .ok "\"10.0.0.4:8300\""⟩, ⟨.statusPeers host, .ok (clusterPeers down)⟩]
      (.ret out) down := by
    intro host g
    obtain ⟨out, hx⟩ := @exec_checkCluster Bool ignoringCluster down host
      "\"10.0.0.4:8300\"" (clusterPeers down) _ rfl rfl (by decide +kernel) hcount
    exact ⟨out, hx.attempt_ret.bind_ret (Exec.refl _ _)⟩
  rw [checkHandler]
  generalize checkCluster = check at hcaught ⊢
  exact ⟨_, exec_call_ret rfl (exec_call_ret rfl (hcaught _ _))⟩

/-- The run so far has made the calls. -/
def Called (calls : Trace Calls) (c : Nested.Cfg State) (down : Bool) : Prop :=
  ∃ evs, ClusterRun evs c down ∧ callsOf evs = calls

section
variable {c : Nested.Cfg State} {s : State} {data taskInput out : Json} {n : Nat}
  {stack : List (Frame State)} {down : Bool} {t : TaskState State Resource} {calls more : Trace Calls}

theorem Called.goto (h : Called calls (.at s data n stack) down)
    (hs : (recycleConsulAgents clusterVars s).start clusterInput stack data = .goto c) :
    Called calls c down := by
  obtain ⟨evs, h, hcalls⟩ := h
  exact ⟨_, h.tail (.goto hs), by rw [List.append_nil, hcalls]⟩

theorem Called.task (h : Called calls (.at s data n stack) down)
    (hs : (recycleConsulAgents clusterVars s).start clusterInput stack data = .invoke t taskInput)
    (hx : Exec ignoringCluster (impl t.resource taskInput) down more (.ret out) down)
    (hc : t.finish clusterInput s data n stack (.ok out) = c) : Called (calls ++ more) c down := by
  obtain ⟨evs, h, hcalls⟩ := h
  have hs' := h.tail (.task hs (.ret hx))
  rw [hc] at hs'
  exact ⟨_, hs', by rw [callsOf_append, hcalls]⟩

end

/-- All calls until the first of five nodes is terminated; the fifth server fails
    before the check. -/
theorem made_cluster : ∃ slackInput host calls leaveInput host',
    Made ([] ++ [⟨.invoke "slack_notifications" slackInput, .ok (.obj [])⟩] ++ checkCalls host false ++
      calls ++ [⟨.sendCommand leaveInput, .ok .null⟩] ++ checkCalls host' true ++
      [⟨.terminateInstances (.str "i-1"), .ok .null⟩]) ∧
    (∀ call ∈ calls, Quiet call.1) ∧
    leaveInput.get? ["InstanceIds"] = some (.arr [.str "i-1"]) := by
  have hbegin : Called [] (beginning clusterInput) false := ⟨[], .refl, rfl⟩
  have hstart := hbegin.goto rfl
  have hinitial := hstart.task rfl (.call trivial rfl (Exec.refl _ _)) rfl
  obtain ⟨host, out, hcheck⟩ := @exec_checkHandler_cluster [("cluster", .str "integration")] false
    (by decide)
  have hlisting := hinitial.task rfl hcheck rfl
  obtain ⟨calls, hnodes⟩ := exec_nodesHandler_cluster (.str "integration")
  have hforEach := hlisting.task rfl hnodes rfl
  have hleave := hforEach.goto rfl
  have hwait := hleave.task rfl (.call trivial rfl (Exec.refl _ _)) rfl
  obtain ⟨evs, hgate, hcalls⟩ := hwait.goto rfl
  have hdown : Called _ _ true := ⟨_, hgate.tail (.drift trivial), by rw [List.append_nil, hcalls]⟩
  obtain ⟨host', out', hcheck'⟩ := @exec_checkHandler_cluster
    [("cluster", .str "integration"), ("expectedPeers", .num 4)] true (by decide)
  have hterminate := hdown.task rfl hcheck' rfl
  obtain ⟨evs', hend, hcalls'⟩ := hterminate.task rfl (.call trivial rfl (Exec.refl _ true)) rfl
  have hmade : Made (callsOf evs') := ⟨_, _, _, _, _, _, _, ⟨_, _, hend⟩, List.prefix_rfl⟩
  rw [hcalls'] at hmade
  exact ⟨_, host, calls, _, host', hmade, (hnodes.issues (quiet_nodesHandler _)).1, rfl⟩

/-- The servers of `clusterPeers`, the first with the given standing. -/
def servers (standing : Standing) : Cluster (Fin 5)
  | 0 => ⟨"i-1", standing⟩
  | 1 => ⟨"i-2", .serving⟩
  | 2 => ⟨"i-3", .serving⟩
  | 3 => ⟨"i-4", .serving⟩
  | 4 => ⟨"i-5", .serving⟩

section
variable {κ : Type} [Fintype κ] {c c' : Cluster κ} {calls more : Trace Calls} {ev : Event Calls}
  {id : String}

theorem answers_of_quiet (h : Quiet ev.1) : c.Answers calls ev c := by
  obtain ⟨op, r⟩ := ev
  cases op with
  | statusPeers _ => exact h.elim
  | sendCommand _ => exact h.elim
  | terminateInstances _ => exact h.elim
  | _ => rfl

theorem not_askedToLeave_of_quiet (h : ∀ call ∈ calls, Quiet call.1) : ¬ askedToLeave calls id := by
  rintro ⟨⟨op, r⟩, hcall, hasks⟩
  cases op with
  | sendCommand _ => exact h _ hcall
  | _ => exact hasks

theorem askedToLeave_append : askedToLeave (calls ++ more) id ↔
    askedToLeave calls id ∨ askedToLeave more id := by
  simp only [askedToLeave, List.mem_append, or_and_right, exists_or]

variable [DecidableEq κ]

/-- One execution, on its own. -/
def Alone (calls : Trace Calls) (c : Cluster κ) : Prop :=
  Together (Function.update (fun _ : Bool => []) true calls) c

theorem Alone.call (h : Alone calls c) (hmade : Made (calls ++ [ev])) (ha : c.Answers calls ev c') :
    Alone (calls ++ [ev]) c' := by
  have hself : Function.update (fun _ : Bool => []) true calls true = calls := Function.update_self ..
  have hcall := Together.call true h (by rwa [hself]) (by rwa [hself] : Cluster.Answers _ c ev c')
  rw [hself, Function.update_idem] at hcall
  exact hcall

theorem Alone.quiet (h : Alone calls c) (hmade : Made (calls ++ more))
    (hmore : ∀ call ∈ more, Quiet call.1) : Alone (calls ++ more) c := by
  induction more generalizing calls with
  | nil => rwa [List.append_nil]
  | cons call more ih =>
      rw [List.append_cons] at hmade ⊢
      rw [List.forall_mem_cons] at hmore
      exact ih (h.call (hmade.of_le (List.prefix_append _ _)) (answers_of_quiet hmore.1)) hmade hmore.2

/-- A check that counts the peers there are. -/
theorem Alone.check {host : String} {down : Bool} (h : Alone calls c)
    (hmade : Made (calls ++ checkCalls host down)) (hpeers : (clusterPeers down).length = c.serving.card)
    (hleft : ∀ k, askedToLeave calls (c k).instanceId → (c k).Gone) :
    Alone (calls ++ checkCalls host down) c := by
  have hfront : ∀ call ∈ checkFront host, Quiet call.1 := by
    simp [checkFront, Quiet]
  rw [checkCalls, ← List.append_assoc] at hmade ⊢
  refine (h.quiet (hmade.of_le (List.prefix_append _ _)) hfront).call hmade ⟨rfl, hpeers, fun k hk => ?_⟩
  rcases askedToLeave_append.mp hk with hk | hk
  · exact hleft k hk
  · exact absurd hk (not_askedToLeave_of_quiet hfront)

end

/-- The first server leaves. -/
theorem Alone.leave {calls : Trace Calls} (h : Alone calls (servers .serving)) :
    Alone calls (servers .left) := by
  have hmove := Together.move (s := ⟨"i-1", .left⟩) 0 h (.leave (.inl rfl))
  have hservers : Function.update (servers .serving) 0 ⟨"i-1", .left⟩ = servers .left := by
    funext k
    fin_cases k <;> rfl
  rwa [hservers] at hmove

theorem gone_of_instanceId {k : Fin 5} (h : (servers .left k).instanceId = "i-1") :
    (servers .left k).Gone := by
  fin_cases k
  · exact .inl rfl
  all_goals exact absurd h (by decide)

/-- Two executions, of which one has terminated the first of five servers. -/
theorem one_terminated_cluster : ∃ (τ : Bool → Trace Calls) (c : Cluster (Fin 5)), Together τ c ∧
    (c 0).standing = .terminated ∧ {k | (c k).standing = .terminated}.Subsingleton := by
  obtain ⟨slackInput, host, calls, leaveInput, host', hmade, hcalls, hleave⟩ := made_cluster
  have hmade₅ := hmade.of_le (List.prefix_append _ _)
  have hmade₄ := hmade₅.of_le (List.prefix_append _ _)
  have hmade₃ := hmade₄.of_le (List.prefix_append _ _)
  have hmade₂ := hmade₃.of_le (List.prefix_append _ _)
  have hmade₁ := hmade₂.of_le (List.prefix_append _ _)
  have hstart : Alone [] (servers .serving) := by
    have htogether : Together (fun _ : Bool => []) (servers .serving) := .start (by decide)
    rwa [Alone, Function.update_eq_self]
  have hquiet : ∀ call ∈ ([] ++ [⟨.invoke "slack_notifications" slackInput, .ok (.obj [])⟩] : Trace Calls),
      Quiet call.1 := by
    simp [Quiet]
  have hslack := hstart.quiet hmade₁ hquiet
  have hcheck := hslack.check hmade₂ (by decide) fun k hk =>
    absurd hk (not_askedToLeave_of_quiet hquiet)
  have hasked : Alone _ (servers .serving) := (hcheck.quiet hmade₃ hcalls).call hmade₄ rfl
  have hcounted := hasked.leave.check hmade₅ (by decide) fun k hk => by
    rw [askedToLeave_append, askedToLeave_append, askedToLeave_append] at hk
    rcases hk with ((hk | hk) | hk) | hk
    · exact absurd hk (not_askedToLeave_of_quiet hquiet)
    · simp [askedToLeave, checkCalls, checkFront, AsksToLeave] at hk
    · exact absurd hk (not_askedToLeave_of_quiet hcalls)
    · obtain ⟨call, hcall, hasks⟩ := hk
      obtain rfl := List.mem_singleton.mp hcall
      have hid : leaveInput.get? ["InstanceIds"] = _ := hasks
      rw [hleave] at hid
      simp only [Option.some.injEq, Json.arr.injEq, List.cons.injEq, Json.str.injEq, and_true] at hid
      exact gone_of_instanceId hid.symm
  have hend := hcounted.call hmade rfl
  exact ⟨_, _, hend, rfl, one_terminated (by simp) _ _ hend⟩

end AutoRecycle.Consul
