/-
  AutoRecycle.Mongo.Terminations

  The terminations of a whole execution, in any world: whatever AWS and MongoDB
  answer, whatever fails, and whoever else works on the replica set.

  One invocation terminates one instance at most, and for a node that it has
  observed itself (`lambdaHandler_terminated`).  An invocation that returns has
  seen the replica set healthy after the termination; one that does not return
  takes the execution out of the loop, from where it never comes back to the
  recycler.  So along the run the record of the calls stays `Healed` for as long
  as there may be another invocation, and every termination finds it so.
-/
import AutoRecycle.Data.Split
import AutoRecycle.Messages
import AutoRecycle.Mongo.Invocation

namespace AutoRecycle.Mongo

open AutoRecycle.Asl AutoRecycle.Data AutoRecycle.Effect AutoRecycle.Messages AutoRecycle.Py
  AutoRecycle.StateMachine

-- ============================================================================
-- What the calls before a termination say
-- ============================================================================

/-- In `calls`, those of one invocation so far, the instance was listed as running,
    off the AMI that all launch templates name, and its node reported itself
    SECONDARY or PRIMARY; and nothing was terminated. -/
structure Due (calls : Trace Calls) (id : String) : Prop where
  observed : ∃ component targetAmi nodes node past observation since,
    calls = past ++ observation ++ since ∧ Observes component targetAmi nodes observation ∧
    node ∈ nodes ∧ node.instanceId = id ∧ node.imageId ≠ targetAmi ∧
    (node.mongoState = "SECONDARY" ∨ node.mongoState = "PRIMARY")
  none_terminated : ∀ ev ∈ calls, isTerminate ev.1 = false

/-- A status of the healthy replica set was read. -/
def SeenHealthy (calls : Trace Calls) : Prop :=
  ∃ host st, ⟨.replicaSetStatus host, .ok st⟩ ∈ calls ∧ Good st.members

/-- After every termination the replica set was seen healthy again. -/
def Healed (calls : Trace Calls) : Prop :=
  ∀ pre id r post, calls = pre ++ ⟨.terminate id, r⟩ :: post → SeenHealthy post

/-- Every termination was due in its invocation, and none came before the last one
    had healed. -/
def Spaced (calls : Trace Calls) : Prop :=
  ∀ pre id r post, calls = pre ++ ⟨.terminate id, r⟩ :: post →
    (∃ past invocation, pre = past ++ invocation ∧ Due invocation id) ∧ Healed pre

section
variable {calls calls' : Trace Calls} {id : String}

theorem SeenHealthy.append (h : SeenHealthy calls) (calls' : Trace Calls) :
    SeenHealthy (calls ++ calls') := by
  obtain ⟨host, st, hev, hst⟩ := h
  exact ⟨host, st, List.mem_append_left _ hev, hst⟩

/-- Where nothing is terminated everything is as it was. -/
theorem Healed.append (h : Healed calls) (hnone : ∀ ev ∈ calls', isTerminate ev.1 = false) :
    Healed (calls ++ calls') := by
  intro pre id r post hsplit
  rcases split_of_append hsplit with ⟨mid, hleft, rfl⟩ | ⟨mid, -, hright⟩
  · exact (h pre id r mid hleft).append calls'
  · have hterm := hnone ⟨.terminate id, r⟩ (by simp [hright])
    cases hterm

end

-- ============================================================================
-- One invocation
-- ============================================================================

section
variable {legal : (op : Op) → op.Reply → Prop} {α β : Type} {t : Trace Calls}

/-- A run that is past a log line. -/
theorem log_bind_cons_inv {line : LogLine} {f : Unit → Py α} {ev : Event Calls} {q : Py α}
    (h : Runs legal (log line >>= f) (ev :: t) q) : ev = ⟨.log line, ()⟩ ∧ Runs legal (f ()) t q := by
  have hcall : Runs legal (Prog.call (Op.log line) f) (ev :: t) q := h
  cases hcall with
  | call _ _ hrest => exact ⟨rfl, hrest⟩

/-- A check of the result makes no calls. -/
theorem runs_of_raise {p : Py α} {g : α → Except PyExc β} {q : Py β}
    (h : Runs legal (p >>= fun a => raise (g a)) t q) :
    ∃ p', Runs legal p t p' ∧ ∀ b, q = .ret b → ∃ a, p' = .ret a := by
  obtain ⟨p', rfl, hp⟩ | ⟨a, t₁, t₂, ⟨⟩, rfl, h₁, h₂⟩ := Exec.bind_inv h
  · refine ⟨p', hp, fun b hb => ?_⟩
    cases p' with
    | ret a => exact ⟨a, rfl⟩
    | throw e => cases hb
    | call op next => cases hb
  · obtain ⟨rfl, -⟩ := raise_inv h₂
    rw [List.append_nil]
    exact ⟨.ret a, h₁, fun _ _ => ⟨a, rfl⟩⟩

end

section
variable {component id : String} {pre post : Trace Calls} {r : Except PyExc Unit}

/-- The parts of an invocation that terminate nothing. -/
theorem not_terminated {α : Type} {p q : Py α} {t : Trace Calls} (h : Runs filtersById p t q)
    (hp : p.Issues fun op => isTerminate op = false) : ∀ ev ∈ t, isTerminate ev.1 = false :=
  (h.issues hp).1

/-- A run that has come to a termination is past a part that terminates nothing. -/
theorem past_of_quiet {α β : Type} {p : Py α} {f : α → Py β} {q : Py β}
    (hquiet : p.Issues fun op => isTerminate op = false)
    (h : Runs filtersById (p >>= f) (pre ++ ⟨.terminate id, r⟩ :: post) q) :
    ∃ a t mid, pre = t ++ mid ∧ (∀ ev ∈ t, isTerminate ev.1 = false) ∧
      Runs filtersById p t (.ret a) ∧ Runs filtersById (f a) (mid ++ ⟨.terminate id, r⟩ :: post) q := by
  obtain ⟨p', -, hp⟩ | ⟨a, t₁, t₂, ⟨⟩, heq, h₁, h₂⟩ := Exec.bind_inv h
  · have hterm := not_terminated hp hquiet ⟨.terminate id, r⟩ (by simp)
    cases hterm
  have hnone := not_terminated h₁ hquiet
  rcases split_of_append heq.symm with ⟨mid, rfl, -⟩ | ⟨mid, rfl, rfl⟩
  · have hterm := hnone ⟨.terminate id, r⟩ (by simp)
    cases hterm
  · exact ⟨a, t₁, mid, rfl, hnone, h₁, h₂⟩

theorem isTerminate_eq_false {op : Op} (h : ∀ other, op ≠ .terminate other) :
    isTerminate op = false := by
  cases op with
  | terminate other => exact absurd rfl (h other)
  | _ => rfl

/-- A node that is decided on was observed off the target AMI, and can be recycled. -/
theorem decided_of_node? {nodes : List Instance} {targetAmi : String} {node : Instance}
    (h : (decideOnAction nodes targetAmi).node? = some node) :
    node ∈ nodes ∧ node.imageId ≠ targetAmi ∧
      (node.mongoState = "SECONDARY" ∨ node.mongoState = "PRIMARY") := by
  have hspec := decideOnAction_spec nodes targetAmi
  cases hd : decideOnAction nodes targetAmi with
  | done =>
      rw [hd] at h
      cases h
  | recycleSecondary other =>
      rw [hd] at h hspec
      cases h
      exact ⟨hspec.1, hspec.2.1, .inl hspec.2.2⟩
  | stepDownAndRecyclePrimary other =>
      rw [hd] at h hspec
      cases h
      exact ⟨hspec.1.1, hspec.1.2.1, .inr hspec.1.2.2⟩

/-- What holds at a termination: of the calls before it, and of those after it. -/
structure Terminated (id : String) (pre post : Trace Calls) (returned : Prop) : Prop where
  due : Due pre id
  once : ∀ ev ∈ post, isTerminate ev.1 = false
  healed : returned → SeenHealthy post

theorem step_terminated {q : Py Decision}
    (h : Runs filtersById (step component) (pre ++ ⟨.terminate id, r⟩ :: post) q) :
    Terminated id pre post (∃ d, q = .ret d) := by
  have hquiet : (observe component).Issues fun op => isTerminate op = false :=
    issues_observe (fun _ => rfl) (fun _ _ => rfl) (fun _ => rfl) (fun _ => rfl) (fun _ => rfl)
      fun _ _ => rfl
  obtain ⟨⟨targetAmi, nodes⟩, t₁, mid, rfl, hobserve, h₁, h₂⟩ := past_of_quiet hquiet h
  cases mid with
  | nil => cases (log_bind_cons_inv h₂).1
  | cons ev mid =>
      obtain ⟨rfl, h₃⟩ := log_bind_cons_inv h₂
      obtain ⟨p', hexecute, hreturned⟩ :=
        runs_of_raise (g := fun _ => .ok (decideOnAction nodes targetAmi)) h₃
      obtain ⟨⟨node, hnode, rfl⟩, hothers⟩ := executeAction_terminate_once hexecute
      have hnone : ∀ ev ∈ mid ++ post, isTerminate ev.1 = false :=
        fun ev hev => isTerminate_eq_false (hothers ev hev)
      obtain ⟨hmid, hpost⟩ := List.forall_mem_append.mp hnone
      obtain ⟨hmem, hami, hstate⟩ := decided_of_node? hnode
      refine ⟨⟨⟨component, targetAmi, nodes, node, [], t₁, _, rfl, observe_ret h₁, hmem, rfl, hami,
        hstate⟩, ?_⟩, hpost, ?_⟩
      · exact List.forall_mem_append.mpr ⟨hobserve, List.forall_mem_cons.mpr ⟨rfl, hmid⟩⟩
      · rintro ⟨d, hd⟩
        obtain ⟨⟨⟩, rfl⟩ := hreturned d hd
        obtain ⟨t₀, inst, t₂, t₃, t₄, rfl, -, reservations, host, st, rfl, -, hgood⟩ :=
          executeAction_terminated hexecute
        exact ⟨host, st, by simp, hgood⟩

/-- The calls of an invocation before `step` terminate nothing. -/
theorem Terminated.past {returned : Prop} (h : Terminated id pre post returned) {before : Trace Calls}
    (hbefore : ∀ ev ∈ before, isTerminate ev.1 = false) :
    Terminated id (before ++ pre) post returned where
  due := by
    obtain ⟨component, targetAmi, nodes, node, past, observation, since, rfl, hrest⟩ := h.due.observed
    refine ⟨⟨component, targetAmi, nodes, node, before ++ past, observation, since, by simp, hrest⟩, ?_⟩
    exact List.forall_mem_append.mpr ⟨hbefore, h.due.none_terminated⟩
  once := h.once
  healed := h.healed

theorem lambdaHandler_terminated {event : Json} {q : Py Json}
    (h : Runs filtersById (lambdaHandler event) (pre ++ ⟨.terminate id, r⟩ :: post) q) :
    Terminated id pre post (∃ out, q = .ret out) := by
  have hstep : ∀ {name : Json} {pre : Trace Calls},
      Runs filtersById (takeStep event name) (pre ++ ⟨.terminate id, r⟩ :: post) q →
      Terminated id pre post (∃ out, q = .ret out) := by
    intro name pre ht
    rw [takeStep] at ht
    cases hname : componentName name with
    | error e =>
        rw [hname] at ht
        exact absurd (Exec.throw_inv ht).1 (by simp)
    | ok component =>
        rw [hname] at ht
        obtain ⟨p', hrun, hreturned⟩ := runs_of_raise (g := finishEvent event) ht
        have hterm := step_terminated hrun
        exact ⟨hterm.due, hterm.once, fun ⟨out, hout⟩ => hterm.healed (hreturned out hout)⟩
  rw [lambdaHandler_eq] at h
  cases hitem : getItem "component" event with
  | error e =>
      rw [hitem] at h
      exact absurd (Exec.throw_inv h).1 (by simp)
  | ok name =>
      rw [hitem, raise_ok, Prog.ret_bind] at h
      by_cases hfirst : isFirstRun event = true
      · rw [if_pos hfirst] at h
        have hquiet : (recordRecycleStarting name).Issues fun op => isTerminate op = false :=
          issues_recordRecycleStarting rfl (fun _ _ => rfl) fun _ _ => rfl
        obtain ⟨u, t₁, mid, rfl, hrecord, -, h₂⟩ := past_of_quiet hquiet h
        exact (hstep h₂).past hrecord
      · rw [if_neg hfirst] at h
        exact hstep h

end

-- ============================================================================
-- The record of an execution
-- ============================================================================

section
variable {calls t : Trace Calls} {input : Json} {q : Py Json}

theorem Spaced.append (h : Spaced calls) (hnone : ∀ ev ∈ t, isTerminate ev.1 = false) :
    Spaced (calls ++ t) := by
  intro pre id r post hsplit
  rcases split_of_append hsplit with ⟨mid, hleft, -⟩ | ⟨mid, -, hright⟩
  · exact h pre id r mid hleft
  · have hterm := hnone ⟨.terminate id, r⟩ (by simp [hright])
    cases hterm

/-- An invocation that finds the record healed. -/
theorem Spaced.invocation (h : Spaced calls) (hhealed : Healed calls)
    (hrun : Runs filtersById (lambdaHandler input) t q) : Spaced (calls ++ t) := by
  intro pre id r post hsplit
  rcases split_of_append hsplit with ⟨mid, hleft, -⟩ | ⟨mid, rfl, rfl⟩
  · exact h pre id r mid hleft
  · have hterm := lambdaHandler_terminated hrun
    exact ⟨⟨calls, mid, rfl, hterm.due⟩, hhealed.append hterm.due.none_terminated⟩

/-- What is about to be terminated is due. -/
theorem due_of_runs {id : String} {next : Except PyExc Unit → Py Json}
    (hrun : Runs filtersById (lambdaHandler input) t (.call (.terminate id) next)) : Due t id := by
  have hcall : Runs filtersById (lambdaHandler input) (t ++ [⟨.terminate id, .ok ()⟩]) (next (.ok ())) :=
    hrun.trans (.call rfl trivial (Exec.refl _ _))
  exact (lambdaHandler_terminated hcall).due

/-- An invocation that returns heals what it has done. -/
theorem Healed.invocation {out : Json} (h : Healed calls)
    (hrun : Runs filtersById (lambdaHandler input) t (.ret out)) : Healed (calls ++ t) := by
  intro pre id r post hsplit
  rcases split_of_append hsplit with ⟨mid, hleft, rfl⟩ | ⟨mid, -, rfl⟩
  · exact (h pre id r mid hleft).append t
  · exact (lambdaHandler_terminated hrun).healed ⟨out, rfl⟩

end

/-- The execution may still come to the recycler. -/
def MayRecycle : Cfg State → Prop
  | .at s _ _ => phase s ≤ phase .recycleMongoCluster
  | _ => False

section
variable {tf : TfVars} {s : State} {data input : Json} {n : Nat} {c : Cfg State}
  {t : Task State Resource}

/-- There is no way back to the recycler. -/
theorem mayRecycle_of_leadsTo (h : MayRecycle c) (hc : LeadsTo (autoRecycle tf s).targets c) :
    MayRecycle (.at s data n) := by
  rcases hc with ⟨s', hmem, data', rfl⟩ | hended
  · exact Nat.le_trans (ordered_autoRecycle tf s s' hmem) h
  · cases c with
    | «at» s' data' n' => exact hended.elim
    | _ => exact h.elim

theorem mayRecycle_of_finish {r : Except TaskError Json} (ht : autoRecycle tf s = .task t)
    (h : MayRecycle (t.finish s data n r)) : MayRecycle (.at s data n) := by
  rcases t.finish_leadsTo s data n r with ⟨e, -, heq, -⟩ | hleads
  · rwa [heq] at h
  · refine @mayRecycle_of_leadsTo tf s data n _ h ?_
    rwa [ht]

theorem recycler_of_resource (ht : autoRecycle tf s = .task t) (hr : t.resource = .autorecycleMongo) :
    s = .recycleMongoCluster := by
  cases s <;> simp [autoRecycle] at ht <;> subst ht <;> simp [lambdaTask, slackMessage] at hr ⊢

/-- An invocation that fails is the last one. -/
theorem not_mayRecycle_of_error {e : TaskError} (ht : autoRecycle tf s = .task t)
    (hr : t.resource = .autorecycleMongo) (he : errorEquals lambdaErrors e = false) :
    ¬ MayRecycle (t.finish s data n (.error e)) := by
  obtain rfl := recycler_of_resource ht hr
  cases ht
  rw [finish_lambdaTask_of_not_retried he]
  rcases putAndGo_cases ["error-info"] e.output data State.lambdaError with ⟨data', heq⟩ | ⟨_, _, heq⟩
  · rw [heq]
    simp [MayRecycle, phase]
  · rw [heq]
    exact id

end

/-- The other lambdas terminate nothing. -/
theorem issues_otherLambda {resource : Resource} (h : resource ≠ .autorecycleMongo) (input : Json) :
    (lambda resource input).Issues fun op => isTerminate op = false := by
  apply issues_lambda h <;> intros <;> rfl

/-- What an execution keeps. -/
def KeepsSpaced {W : Type} (c : Cfg State) (x : W × Trace Calls) : Prop :=
  Spaced x.2 ∧ (MayRecycle c → Healed x.2)

section
variable {W : Type} {K : Setting Calls W} {tf : TfVars} {faults : TaskError → Prop} {s : State}
  {data input : Json} {n : Nat} {t : Task State Resource} {tr : Trace Calls} {x y : W × Trace Calls}
  {p : Py Json}

/-- Inside a task. -/
theorem KeepsSpaced.task (hK : ∀ w op r w', K.answers w op r w' → filtersById op r)
    (h : KeepsSpaced (.at s data n) x) (ht : autoRecycle tf s = .task t)
    (hx : Exec K.recording (lambda t.resource input) x tr p y) : Spaced y.2 := by
  obtain ⟨hexec, hcalls⟩ := Exec.recording_iff.mp hx
  have hrun : Runs filtersById (lambda t.resource input) tr p := hexec.runs hK
  rw [hcalls]
  by_cases hr : t.resource = .autorecycleMongo
  · rw [hr] at hrun
    obtain rfl := recycler_of_resource ht hr
    exact h.1.invocation (h.2 (Nat.le_refl _)) hrun
  · exact h.1.append (not_terminated hrun (issues_otherLambda hr input))

/-- About to terminate. -/
theorem KeepsSpaced.due {id : String} {next : Except PyExc Unit → Py Json}
    (hK : ∀ w op r w', K.answers w op r w' → filtersById op r) (h : KeepsSpaced (.at s data n) x)
    (ht : autoRecycle tf s = .task t)
    (hx : Exec K.recording (lambda t.resource input) x tr (.call (.terminate id) next) y) :
    Due tr id ∧ Healed y.2 := by
  obtain ⟨hexec, hcalls⟩ := Exec.recording_iff.mp hx
  have hrun : Runs filtersById (lambda t.resource input) tr (.call (.terminate id) next) := hexec.runs hK
  by_cases hr : t.resource = .autorecycleMongo
  · rw [hr] at hrun
    obtain rfl := recycler_of_resource ht hr
    have hdue := due_of_runs hrun
    rw [hcalls]
    exact ⟨hdue, (h.2 (Nat.le_refl _)).append hdue.none_terminated⟩
  · have hterm := (hrun.issues (issues_otherLambda hr input)).2.1
    cases hterm

/-- Past a task: an invocation of the recycler that the execution goes on after
    has returned. -/
theorem KeepsSpaced.finish (hK : ∀ w op r w', K.answers w op r w' → filtersById op r)
    (h : KeepsSpaced (.at s data n) x) (ht : autoRecycle tf s = .task t)
    (hx : Exec K.recording (lambda t.resource input) x tr p y) {r : Except TaskError Json}
    (hreturned : t.resource = .autorecycleMongo → MayRecycle (t.finish s data n r) →
      ∃ out, p = .ret out) : KeepsSpaced (t.finish s data n r) y := by
  refine ⟨h.task hK ht hx, fun hmay => ?_⟩
  have hhealed : Healed x.2 := h.2 (mayRecycle_of_finish ht hmay)
  obtain ⟨hexec, hcalls⟩ := Exec.recording_iff.mp hx
  have hrun : Runs filtersById (lambda t.resource input) tr p := hexec.runs hK
  rw [hcalls]
  by_cases hr : t.resource = .autorecycleMongo
  · obtain ⟨out, rfl⟩ := hreturned hr hmay
    rw [hr] at hrun
    exact hhealed.invocation hrun
  · exact hhealed.append (not_terminated hrun (issues_otherLambda hr input))

theorem keepsSpaced_reaches (hK : ∀ w op r w', K.answers w op r w' → filtersById op r)
    (hfaults : ∀ e, faults e → errorEquals lambdaErrors e = false)
    {l l' : Live Calls State Resource}
    (h : Invariant.Holds (autoRecycle tf) (lambdas faults) K.recording KeepsSpaced (l, x))
    (hr : Live.Reaches (autoRecycle tf) (lambdas faults) K.recording (l, x) (l', y)) :
    Invariant.Holds (autoRecycle tf) (lambdas faults) K.recording KeepsSpaced (l', y) := by
  refine Invariant.holds_of_runs ?_ ?_ ?_ ?_ ?_ h hr
  · intro c w w' hI hrely
    rw [KeepsSpaced, hrely.2]
    exact hI
  · intro s data n c w hI hs
    refine ⟨hI.1, fun hmay => hI.2 (@mayRecycle_of_leadsTo tf s data n c hmay ?_)⟩
    exact (StateDef.goto_leadsTo hs).mono (StateDef.onward_subset _)
  · intro s data n t input calls out w₀ w hI hs hx
    exact hI.finish hK (StateDef.eq_task_of_invoke hs) hx fun _ _ => ⟨out, rfl⟩
  · intro s data n t input calls e w₀ w hI hs hx
    have ht := StateDef.eq_task_of_invoke hs
    exact hI.finish hK ht hx fun hr hmay =>
      absurd hmay (not_mayRecycle_of_error ht hr (errorEquals_lambdaErrors e))
  · intro s data n t input calls p e w₀ w hI hs hx he
    have ht := StateDef.eq_task_of_invoke hs
    exact hI.finish hK ht hx fun hr hmay =>
      absurd hmay (not_mayRecycle_of_error ht hr (hfaults e he))

end

-- ============================================================================
-- The terminations of an execution
-- ============================================================================

/-- An instance whose termination was accepted is not listed as running again. -/
def StaysDown (calls : Trace Calls) : Prop :=
  ∀ pre id mid values reservations post,
    calls = pre ++ ⟨.terminate id, .ok ()⟩ :: mid ++ ⟨.describeInstances values, .ok reservations⟩ :: post →
    ∀ inst, .ok inst ∈ describeMongodbInstances reservations → inst.instanceId ≠ id

/-- No instance is terminated again. -/
def Distinct (calls : Trace Calls) : Prop :=
  ∀ pre id mid id' r post,
    calls = pre ++ ⟨.terminate id, .ok ()⟩ :: mid ++ ⟨.terminate id', r⟩ :: post → id' ≠ id

/-- An instance that is due was listed in the invocation. -/
theorem Due.listed {calls : Trace Calls} {id : String} (h : Due calls id) :
    ∃ before values reservations after inst,
      calls = before ++ ⟨.describeInstances values, .ok reservations⟩ :: after ∧
      .ok inst ∈ describeMongodbInstances reservations ∧ inst.instanceId = id := by
  obtain ⟨component, targetAmi, nodes, node, past, observation, since, rfl, hobserves, hmem, rfl, -⟩ :=
    h.observed
  obtain ⟨reservations, insts, hlist, hinsts, hnodes⟩ := hobserves.listed
  obtain ⟨inst, hinst, hobserved⟩ := exists_of_forall₂ hnodes.flip hmem
  obtain ⟨before, after, rfl⟩ := List.append_of_mem hlist
  refine ⟨past ++ before, createInstanceNameFilters component, reservations, after ++ since, inst, by simp, ?_, hobserved.instanceId_eq.symm⟩
  rw [hinsts]
  exact List.mem_map_of_mem hinst

/-- An invocation that has terminated nothing began after the last termination. -/
theorem invocation_after {pre mid past invocation : Trace Calls} {id : String} {r : Except PyExc Unit}
    (heq : pre ++ ⟨.terminate id, r⟩ :: mid = past ++ invocation)
    (hnone : ∀ ev ∈ invocation, isTerminate ev.1 = false) : ∃ before, mid = before ++ invocation := by
  rcases split_of_append heq.symm with ⟨rest, -, hmid⟩ | ⟨rest, -, hright⟩
  · exact ⟨rest, hmid⟩
  · have hterm := hnone ⟨.terminate id, r⟩ (by simp [hright])
    cases hterm

theorem Spaced.distinct {calls : Trace Calls} (h : Spaced calls) (hdown : StaysDown calls) :
    Distinct calls := by
  intro pre id mid id' r post heq
  obtain ⟨⟨past, invocation, hinvocation, hdue⟩, -⟩ := h _ id' r post heq
  obtain ⟨start, rfl⟩ := invocation_after hinvocation hdue.none_terminated
  obtain ⟨before, values, reservations, after, inst, rfl, hmem, rfl⟩ := hdue.listed
  refine hdown pre id (start ++ before) values reservations
    (after ++ ⟨.terminate inst.instanceId, r⟩ :: post) ?_ inst hmem
  rw [heq]
  simp

/-- In every execution, in any world: an invocation that is about to terminate an
    instance has found it due itself, and the replica set was seen healthy since
    the termination before.  So it is for the terminations so far, and none is
    terminated twice. -/
theorem terminations_spaced {W : Type} {K : Setting Calls W} {tf : TfVars} {faults : TaskError → Prop}
    {payload : Json} {w w' : W} {l : Live Calls State Resource} {calls : Trace Calls}
    (hK : ∀ w op r w', K.answers w op r w' → filtersById op r)
    (hfaults : ∀ e, faults e → errorEquals lambdaErrors e = false)
    (h : Live.Reaches (autoRecycle tf) (lambdas faults) K.recording
      (.idle (.at startAt payload 0), (w, [])) (l, (w', calls))) :
    (∀ s data n t invocation id next, l = .busy s data n t invocation (.call (.terminate id) next) →
      Due invocation id ∧ Healed calls) ∧
    Spaced calls ∧ (StaysDown calls → Distinct calls) := by
  have hinit : Invariant.Holds (autoRecycle tf) (lambdas faults) K.recording KeepsSpaced
      (.idle (.at startAt payload 0), (w, [])) :=
    ⟨fun _ _ _ _ hsplit => absurd hsplit (by simp), fun _ _ _ _ _ hsplit => absurd hsplit (by simp)⟩
  have hkept := keepsSpaced_reaches hK hfaults hinit h
  have hspaced : Spaced calls := by
    cases l with
    | idle c => exact hkept.1
    | busy s data n t tr p =>
        obtain ⟨input, x, hs, hI, hx⟩ := hkept
        exact hI.task hK (StateDef.eq_task_of_invoke hs) hx
  refine ⟨?_, hspaced, hspaced.distinct⟩
  rintro s data n t invocation id next rfl
  obtain ⟨input, x, hs, hI, hx⟩ := hkept
  exact hI.due hK (StateDef.eq_task_of_invoke hs) hx

/-- A replica set with two members to recycle, after `n` of them. -/
def rollingSet (n : Nat) : SteadySet where
  targetAmi := "ami-2"
  instances := [SteadySet.running "i-a" "ami-2" "10.0.0.1",
    if n = 0 then SteadySet.running "i-b" "ami-1" "10.0.0.2" else SteadySet.running "i-d" "ami-2" "10.0.0.2",
    if n ≤ 1 then SteadySet.running "i-c" "ami-1" "10.0.0.3" else SteadySet.running "i-e" "ami-2" "10.0.0.3"]
  myState ip := if ip = "10.0.0.1" then 1 else 2
  members := [SteadySet.member "10.0.0.1" "PRIMARY", SteadySet.member "10.0.0.2" "SECONDARY",
    SteadySet.member "10.0.0.3" "SECONDARY"]

def rollingNext (n : Nat) (op : Op) : Nat := if isTerminate op then n + 1 else n

def rollingWorld : Setting Calls Nat :=
  .alone fun n op r n' => r = (rollingSet n).reply op ∧ n' = rollingNext n op

/-- The script, which ends where one more than `limit` members would be terminated. -/
def rollingAnswer (limit : Nat) (x : Nat × Trace Calls) (op : Op) :
    Option (op.Reply × (Nat × Trace Calls)) :=
  if isTerminate op = true ∧ x.1 = limit then none
  else some ((rollingSet x.1).reply op, (rollingNext x.1 op, x.2 ++ [⟨op, (rollingSet x.1).reply op⟩]))

/-- The execution from its start to the end of the script. -/
def rollingRun (limit : Nat) : Live Calls State Resource × (Nat × Trace Calls) :=
  Live.drive (autoRecycle noVars) (lambdas fun _ => False) (rollingAnswer limit) 400
    (.idle (.at startAt mongoPayload 0), (0, []))

theorem rollingRun_reaches (limit : Nat) : Live.Reaches (autoRecycle noVars) (lambdas fun _ => False)
    rollingWorld.recording (.idle (.at startAt mongoPayload 0), (0, [])) (rollingRun limit) := by
  rw [rollingRun]
  refine Live.drive_reaches (fun {x op r y} h => ?_) 400 _
  rw [rollingAnswer] at h
  split at h
  · cases h
  · cases h
    exact ⟨x, ⟨rfl, rfl⟩, ⟨rfl, rfl⟩, rfl⟩

theorem filtersById_of_rollingWorld (n : Nat) (op : Op) (r : op.Reply) (n' : Nat)
    (h : rollingWorld.answers n op r n') : filtersById op r := by
  obtain rfl := h.1
  cases op with
  | filterInstances id => exact fun i hi => List.mem_singleton.mp hi
  | _ => trivial

/-- The instance that the invocation in progress is about to terminate. -/
def nextTerminated? : Live Calls State Resource → Option String
  | .busy _ _ _ _ _ p => terminating? p
  | .idle _ => none

theorem nextTerminated?_eq_some {l : Live Calls State Resource} {id : String}
    (h : nextTerminated? l = some id) :
    ∃ s data n t invocation next, l = .busy s data n t invocation (.call (.terminate id) next) := by
  cases l with
  | idle c => cases h
  | busy s data n t invocation p =>
      obtain ⟨next, rfl⟩ := terminating?_eq_some h
      exact ⟨s, data, n, t, invocation, next, rfl⟩

/-- The two members are recycled one after the other. -/
theorem terminations_spaced_rollingRun :
    (∃ s data n t invocation next,
      (rollingRun 1).1 = .busy s data n t invocation (.call (.terminate "i-c") next) ∧
      Due invocation "i-c" ∧ Healed (rollingRun 1).2.2) ∧
    terminatedIds (rollingRun 2).2.2 = ["i-b", "i-c"] ∧ Spaced (rollingRun 2).2.2 ∧
    (StaysDown (rollingRun 2).2.2 → Distinct (rollingRun 2).2.2) := by
  refine ⟨?_, by decide +kernel, ?_⟩
  · obtain ⟨s, data, n, t, invocation, next, hbusy⟩ :=
      nextTerminated?_eq_some (by decide +kernel : nextTerminated? (rollingRun 1).1 = some "i-c")
    have hreaches := rollingRun_reaches 1
    generalize rollingRun 1 = run at hreaches hbusy ⊢
    obtain ⟨l, m, calls⟩ := run
    have hspaced := terminations_spaced filtersById_of_rollingWorld (fun _ he => he.elim) hreaches
    exact ⟨s, data, n, t, invocation, next, hbusy, hspaced.1 s data n t invocation "i-c" next hbusy⟩
  · have hreaches := rollingRun_reaches 2
    generalize rollingRun 2 = run at hreaches ⊢
    obtain ⟨l, m, calls⟩ := run
    exact (terminations_spaced filtersById_of_rollingWorld (fun _ he => he.elim) hreaches).2

end AutoRecycle.Mongo
