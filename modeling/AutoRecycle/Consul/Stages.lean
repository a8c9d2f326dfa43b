/-
  AutoRecycle.Consul.Stages

  Where an execution of recycle_consul_agents can be, and what its tasks have
  done by then.

  `Stage` goes through the states of the machine in their order.  Up to
  TerminateNode a check that has counted five peers is the last word on the
  cluster (`FiveSince`); TerminateNode itself comes right after one that has
  counted four.  Through the Map loop the instances terminated so far are those
  of the items done so far.  Once an error is not retried the execution has left
  the main flow, and none of this is needed any more.
-/
import AutoRecycle.Consul.Checks
import AutoRecycle.Data.Split

namespace AutoRecycle.Consul

open AutoRecycle.Asl AutoRecycle.Asl.Nested AutoRecycle.Data AutoRecycle.Effect

-- ============================================================================
-- What the tasks have done
-- ============================================================================

/-- The task has failed and no retrier takes its error any more. -/
def Unretried (tf : TfVars) (ev : ConsulRan) : Prop :=
  ∃ t e, recycleConsulAgents tf ev.state = .task t ∧ ev.answer = .error e ∧
    t.retries ev.attempt e = false

def Clean (tf : TfVars) (evs : List ConsulRan) : Prop := ∀ ev ∈ evs, ¬ Unretried tf ev

/-- A check has counted five peers, and no node has been terminated since. -/
def FiveSince (evs : List ConsulRan) : Prop :=
  ∃ before check after, evs = before ++ check :: after ∧ Saw 5 check ∧
    ∀ ev ∈ check :: after, ev.state ≠ .terminateNode

/-- The last task was a check that has counted `peers`. -/
def JustCounted (evs : List ConsulRan) (peers : List String) : Prop :=
  ∃ before check, evs = before ++ [check] ∧ Counted check peers

def isListing (ev : ConsulRan) : Bool := ev.state = .getConsulNodes

/-- GetConsulNodes has been run once and has answered with `nodes`. -/
def Listed (evs : List ConsulRan) (nodes : List Node) : Prop :=
  ∃ ev, evs.filter isListing = [ev] ∧ ev.answer = .ok (instanceListJson nodes)

/-- The instances that have been terminated, in order. -/
def terminatedIds (evs : List ConsulRan) : List Json :=
  evs.flatMap fun ev => ev.calls.filterMap terminated

/-- The instances that TerminateNode terminates; an empty id is answered with a
    status code. -/
def terminable (nodes : List Node) : List Json :=
  (nodes.filter fun node => node.instanceId ≠ "").map fun node => .str node.instanceId

section
variable {tf : TfVars} {evs : List ConsulRan} {ev : ConsulRan} {nodes : List Node}

theorem Clean.append (h : Clean tf evs) (hev : ¬ Unretried tf ev) : Clean tf (evs ++ [ev]) := by
  intro e he
  rcases List.mem_append.mp he with he | he
  · exact h e he
  · rw [List.mem_singleton.mp he]
    exact hev

theorem not_unretried_ok {out : Json} (h : ev.answer = .ok out) : ¬ Unretried tf ev := by
  rintro ⟨t, e, -, hanswer, -⟩
  rw [h] at hanswer
  cases hanswer

theorem not_unretried_retried {t : TaskState State Resource} {e : TaskError}
    (ht : recycleConsulAgents tf ev.state = .task t) (he : ev.answer = .error e)
    (hretry : t.retries ev.attempt e = true) : ¬ Unretried tf ev := by
  rintro ⟨t', e', ht', he', hnot⟩
  rw [ht] at ht'
  cases ht'
  rw [he] at he'
  cases he'
  rw [hretry] at hnot
  cases hnot

theorem FiveSince.append (h : FiveSince evs) (hev : ev.state ≠ .terminateNode) :
    FiveSince (evs ++ [ev]) := by
  obtain ⟨before, check, after, rfl, hsaw, hafter⟩ := h
  refine ⟨before, check, after ++ [ev], by simp, hsaw, ?_⟩
  intro e he
  rw [← List.cons_append] at he
  rcases List.mem_append.mp he with he | he
  · exact hafter e he
  · rw [List.mem_singleton.mp he]
    exact hev

theorem FiveSince.of_check (hev : Saw 5 ev) (hstate : ev.state ≠ .terminateNode) :
    FiveSince (evs ++ [ev]) := by
  refine ⟨evs, ev, [], rfl, hev, ?_⟩
  intro e he
  rw [List.mem_singleton.mp he]
  exact hstate

theorem Listed.append (h : Listed evs nodes) (hev : ev.state ≠ .getConsulNodes) :
    Listed (evs ++ [ev]) nodes := by
  obtain ⟨listing, hfilter, hanswer⟩ := h
  have hnot : isListing ev = false := decide_eq_false hev
  refine ⟨listing, ?_, hanswer⟩
  rw [List.filter_append, hfilter, List.filter_singleton, hnot]
  rfl

theorem filter_isListing_append (h : evs.filter isListing = []) (hev : ev.state ≠ .getConsulNodes) :
    (evs ++ [ev]).filter isListing = [] := by
  have hnot : isListing ev = false := decide_eq_false hev
  rw [List.filter_append, h, List.filter_singleton, hnot]
  rfl

theorem terminatedIds_append : terminatedIds (evs ++ [ev]) =
    terminatedIds evs ++ ev.calls.filterMap terminated := by
  rw [terminatedIds, List.flatMap_append, List.flatMap_singleton]
  rfl

theorem terminatedIds_append_nil (h : ev.calls.filterMap terminated = []) :
    terminatedIds (evs ++ [ev]) = terminatedIds evs := by
  rw [terminatedIds_append, h, List.append_nil]

theorem terminable_append (done : List Node) (node : Node) : terminable (done ++ [node]) =
    terminable done ++ if node.instanceId = "" then [] else [.str node.instanceId] := by
  rw [terminable, List.filter_append, List.map_append, List.filter_singleton]
  congr 1
  by_cases h : node.instanceId = ""
  · simp [h]
  · simp [h]

end

-- ============================================================================
-- What a task may rely on
-- ============================================================================

/-- The state of the cluster, as far as the tasks before have seen it, in which
    a task of the run is started. -/
structure Allowed (tf : TfVars) (pre : List ConsulRan) (ev : ConsulRan) : Prop where
  clean : ev.state = .gracefulLeave ∨ ev.state = .terminateNode → Clean tf pre
  five : ev.state = .gracefulLeave ∨ ev.state = .terminateNode → FiveSince pre
  gated : ev.state = .terminateNode → ∃ peers, JustCounted pre peers ∧ peers.length = 4
  listed : ev.state = .terminateNode → ∃ nodes node, Listed pre nodes ∧ node ∈ nodes ∧
    ev.input = .obj [("instanceId", .str node.instanceId)]

def Sound (tf : TfVars) (evs : List ConsulRan) : Prop :=
  ∀ pre ev post, evs = pre ++ ev :: post → Allowed tf pre ev

theorem Allowed.of_ne {tf : TfVars} {pre : List ConsulRan} {ev : ConsulRan}
    (hleave : ev.state ≠ .gracefulLeave) (hterminate : ev.state ≠ .terminateNode) :
    Allowed tf pre ev where
  clean := fun h => absurd h (by simp [hleave, hterminate])
  five := fun h => absurd h (by simp [hleave, hterminate])
  gated := fun h => absurd h hterminate
  listed := fun h => absurd h hterminate

theorem Sound.append {tf : TfVars} {evs : List ConsulRan} {ev : ConsulRan} (h : Sound tf evs)
    (hev : Allowed tf evs ev) : Sound tf (evs ++ [ev]) :=
  forall_split_append h hev

-- ============================================================================
-- Stages
-- ============================================================================

/-- Working on `node`; `done` are the nodes before it, `rest` those after it. -/
structure Iterating (tf : TfVars) (evs : List ConsulRan) (done : List Node) (node : Node)
    (rest : List Node) (data : Json) : Prop where
  clean : Clean tf evs
  listed : Listed evs (done ++ node :: rest)
  id : data.get? ["instanceId"] = some (.str node.instanceId)

/-- The frames around a state of the main flow. -/
def mainStack (entered : Json) : List (Frame State) := [.parallel mainParallel entered]

/-- The frames around a state of the iterator. -/
def itemStack (entered before : Json) (node : Node) (rest : List Node) (outputs : List Json) :
    List (Frame State) :=
  .map instanceMap before node.json (rest.map Node.json) outputs :: mainStack entered

/-- Out of the main flow, and not succeeded. -/
inductive Aborted : Nested.Cfg State → Prop where
  | notification {data n} : Aborted (.at .failureNotification data n [])
  | failState {data n} : Aborted (.at .failState data n [])
  | failed {error cause} : Aborted (.failed error cause)

inductive Stage (tf : TfVars) : List ConsulRan → Nested.Cfg State → Prop where
  | mainFlow {data n} : Stage tf [] (.at .mainFlow data n [])
  | starting {data n entered} : Stage tf [] (.at .startNotification data n (mainStack entered))
  | initial {evs data n entered} (hclean : Clean tf evs) (hlisting : evs.filter isListing = [])
      (hids : terminatedIds evs = []) :
      Stage tf evs (.at .checkClusterHealthInitial data n (mainStack entered))
  | listing {evs data n entered} (hclean : Clean tf evs) (hlisting : evs.filter isListing = [])
      (hids : terminatedIds evs = []) (hfive : FiveSince evs) :
      Stage tf evs (.at .getConsulNodes data n (mainStack entered))
  | forEach {evs data n entered nodes} (hclean : Clean tf evs) (hlisted : Listed evs nodes)
      (hids : terminatedIds evs = []) (hfive : FiveSince evs)
      (hdata : data.get? ["nodes", "instanceList"] = some (.arr (nodes.map Node.json))) :
      Stage tf evs (.at .forEachInstance data n (mainStack entered))
  | leaving {evs data n entered before done node rest outputs s}
      (hs : s = .gracefulLeave ∨ s = .waitBeforeHealthCheck ∨ s = .checkClusterHealthPostLeave)
      (h : Iterating tf evs done node rest data) (hids : terminatedIds evs = terminable done)
      (hfive : FiveSince evs) :
      Stage tf evs (.at s data n (itemStack entered before node rest outputs))
  | gated {evs data n entered before done node rest outputs}
      (h : Iterating tf evs done node rest data) (hids : terminatedIds evs = terminable done)
      (hfive : FiveSince evs) (hcounted : ∃ peers, JustCounted evs peers ∧ peers.length = 4) :
      Stage tf evs (.at .terminateNode data n (itemStack entered before node rest outputs))
  | replacing {evs data n entered before done node rest outputs s}
      (hs : s = .waitBeforeFinalHealthCheck ∨ s = .checkClusterHealthFinal)
      (h : Iterating tf evs done node rest data)
      (hids : terminatedIds evs = terminable (done ++ [node])) :
      Stage tf evs (.at s data n (itemStack entered before node rest outputs))
  | ending {evs data n entered nodes} (hclean : Clean tf evs) (hlisted : Listed evs nodes)
      (hids : terminatedIds evs = terminable nodes) :
      Stage tf evs (.at .endNotification data n (mainStack entered))
  | succeeded {evs out nodes} (hclean : Clean tf evs) (hlisted : Listed evs nodes)
      (hids : terminatedIds evs = terminable nodes) : Stage tf evs (.succeeded out)
  | aborted {evs c} (h : Aborted c) : Stage tf evs c

section
variable {tf : TfVars} {evs : List ConsulRan} {entered before : Json} {node : Node}
  {rest : List Node} {outputs : List Json}

/-- The catcher of the Parallel state takes every error. -/
theorem aborted_raise_mainStack (e : TaskError) : Aborted (Nested.raise e (mainStack entered)) :=
  .notification

theorem aborted_raise_itemStack (e : TaskError) :
    Aborted (Nested.raise e (itemStack entered before node rest outputs)) := .notification

/-- The Map state goes on with `node`. -/
theorem Stage.iterate (input : Json) {done : List Node} (hclean : Clean tf evs)
    (hlisted : Listed evs (done ++ node :: rest)) (hids : terminatedIds evs = terminable done)
    (hfive : FiveSince evs) :
    Stage tf evs (Nested.iterate input instanceMap before node.json (rest.map Node.json) outputs
      (mainStack entered)) := by
  have hiter : Iterating tf evs done node rest
      (.obj [("ip", .str node.ip), ("instanceId", .str node.instanceId)]) := ⟨hclean, hlisted, rfl⟩
  exact .leaving (.inl rfl) hiter hids hfive

/-- What a state goes to without running a task. -/
theorem Stage.goto {input data : Json} {s : State} {n : Nat} {stack : List (Frame State)}
    {c : Nested.Cfg State} (h : Stage tf evs (.at s data n stack))
    (hs : (recycleConsulAgents tf s).start input stack data = .goto c) : Stage tf evs c := by
  cases h with
  | mainFlow =>
      cases hs
      exact .starting
  | starting =>
      rw [start_task_goto hs]
      exact .aborted (aborted_raise_mainStack _)
  | initial =>
      rw [start_task_goto hs]
      exact .aborted (aborted_raise_mainStack _)
  | listing =>
      rw [start_task_goto hs]
      exact .aborted (aborted_raise_mainStack _)
  | @forEach _ _ _ _ nodes hclean hlisted hids hfive hdata =>
      rw [start_map_goto hs hdata]
      cases nodes with
      | nil => exact .ending hclean hlisted hids
      | cons node rest =>
          have hlisted' : Listed evs ([] ++ node :: rest) := hlisted
          exact Stage.iterate input hclean hlisted' hids hfive
  | leaving hstate h hids hfive =>
      rcases hstate with rfl | rfl | rfl
      · rw [start_task_goto hs]
        exact .aborted (aborted_raise_itemStack _)
      · cases hs
        exact .leaving (.inr (.inr rfl)) h hids hfive
      · rw [start_task_goto hs]
        exact .aborted (aborted_raise_itemStack _)
  | gated =>
      rw [start_task_goto hs]
      exact .aborted (aborted_raise_itemStack _)
  | replacing hstate h hids =>
      rcases hstate with rfl | rfl
      · cases hs
        exact .replacing (.inr rfl) h hids
      · rw [start_task_goto hs]
        exact .aborted (aborted_raise_itemStack _)
  | ending =>
      rw [start_task_goto hs]
      exact .aborted (aborted_raise_mainStack _)
  | aborted haborted =>
      cases haborted with
      | notification =>
          rw [start_task_goto hs]
          exact .aborted .failed
      | failState =>
          cases hs
          exact .aborted .failed

-- ============================================================================
-- After a task
-- ============================================================================

theorem clusterParameters_inv {ctx : Context} {data taskInput : Json}
    (h : clusterParameters ctx data = some taskInput) :
    ∃ cluster, taskInput = .obj [("cluster", cluster)] := by
  obtain ⟨cluster, -, hret⟩ := Option.bind_eq_some_iff.mp h
  cases hret
  exact ⟨cluster, rfl⟩

theorem postLeaveParameters_inv {ctx : Context} {data taskInput : Json}
    (h : postLeaveParameters ctx data = some taskInput) :
    ∃ cluster, taskInput = .obj [("cluster", cluster), ("expectedPeers", .num 4)] := by
  obtain ⟨cluster, -, hret⟩ := Option.bind_eq_some_iff.mp h
  cases hret
  exact ⟨cluster, rfl⟩

theorem terminateParameters_inv (ctx : Context) {data taskInput instanceId : Json}
    (hid : data.get? ["instanceId"] = some instanceId)
    (h : terminateParameters ctx data = some taskInput) :
    taskInput = .obj [("instanceId", instanceId)] := by
  obtain ⟨id, hid', hret⟩ := Option.bind_eq_some_iff.mp h
  rw [hid] at hid'
  cases hid'
  cases hret
  rfl

/-- A check without `expectedPeers` expects five. -/
theorem saw_five {W : Type} {K : Setting Calls W} {w w' : W} {calls : Trace Calls}
    {faults : TaskError → Prop} {ctx : Context} {taskInput out : Json} {s : State} {n : Nat}
    (data : Json) (hparams : clusterParameters ctx data = some taskInput)
    (h : Answers (tasks faults) K .checkClusterHealth taskInput w calls (.ok out) w') :
    Saw 5 ⟨s, n, taskInput, calls, .ok out⟩ := by
  obtain ⟨cluster, rfl⟩ := clusterParameters_inv hparams
  exact saw_of_answers rfl h

theorem saw_four {W : Type} {K : Setting Calls W} {w w' : W} {calls : Trace Calls}
    {faults : TaskError → Prop} {ctx : Context} {taskInput out : Json} {s : State} {n : Nat}
    (data : Json) (hparams : postLeaveParameters ctx data = some taskInput)
    (h : Answers (tasks faults) K .checkClusterHealth taskInput w calls (.ok out) w') :
    Saw 4 ⟨s, n, taskInput, calls, .ok out⟩ := by
  obtain ⟨cluster, rfl⟩ := postLeaveParameters_inv hparams
  exact saw_of_answers rfl h

/-- The next state of a task that writes its result to the field `key`, or out of
    the main flow when there is no object to write to. -/
theorem Stage.finish_ok {t : TaskState State Resource} {input data out : Json} {s next : State}
    {n : Nat} {stack : List (Frame State)} {key : String} (hpath : t.resultPath = [key])
    (hnext : t.next = some next) (hraise : ∀ e, Aborted (Nested.raise e stack))
    (h : ∀ data', Json.put? [key] out data = some data' → Stage tf evs (.at next data' 0 stack)) :
    Stage tf evs (t.finish input s data n stack (.ok out)) := by
  rw [TaskState.finish, hpath]
  cases hput : Json.put? [key] out data with
  | none => exact .aborted (hraise _)
  | some data' =>
      dsimp only
      rw [proceed, hnext]
      exact h data' hput

/-- A failed task is either done again in the same state, or the execution leaves
    the main flow. -/
theorem Stage.finish_error {t : TaskState State Resource} {input data : Json} {s : State} {n : Nat}
    {stack : List (Frame State)} {e : TaskError} (hraise : ∀ e, Aborted (Nested.raise e stack))
    (h : t.retries n e = true → Stage tf evs (.at s data (n + 1) stack)) :
    Stage tf evs (t.finish input s data n stack (.error e)) := by
  have hcases := @TaskState.finish_error State Resource input data stack t s n e
  rcases hcases with ⟨hretry, hfinish⟩ | hfinish
  · rw [hfinish]
    exact h hretry
  · rw [hfinish]
    exact .aborted (hraise e)

/-- The instance id of the item is not touched by the results of the tasks. -/
theorem Iterating.put {done : List Node} {data data' out : Json} {key : String} {ev : ConsulRan}
    (h : Iterating tf evs done node rest data) (hput : Json.put? [key] out data = some data')
    (hkey : "instanceId" ≠ key) (hev : ¬ Unretried tf ev) (hstate : ev.state ≠ .getConsulNodes) :
    Iterating tf (evs ++ [ev]) done node rest data' where
  clean := h.clean.append hev
  listed := h.listed.append hstate
  id := by rw [Json.get?_put?_ne hput hkey, h.id]

end

section
variable {W : Type} {K : Setting Calls W} {w w' : W} {calls : Trace Calls}
  {faults : TaskError → Prop} {tf : TfVars} {evs : List ConsulRan} {entered before : Json}
  {node : Node} {done rest : List Node} {outputs : List Json} {input data taskInput : Json} {n : Nat}
  {t : TaskState State Resource} {r : Except TaskError Json}

theorem Stage.task_starting
    (hs : (recycleConsulAgents tf .startNotification).start input (mainStack entered) data =
      .invoke t taskInput)
    (ha : Answers (tasks faults) K t.resource taskInput w calls r w') :
    Stage tf ([] ++ [⟨.startNotification, n, taskInput, calls, r⟩])
      (t.finish input .startNotification data n (mainStack entered) r) := by
  obtain ⟨rfl, -⟩ := start_task_invoke hs
  have hnone : calls.filterMap terminated = [] := filterMap_terminated_nil ha nofun
  cases r with
  | error e => exact Stage.finish_error aborted_raise_mainStack fun hretry => nomatch hretry
  | ok out =>
      have hclean : Clean tf [] := fun _ h => nomatch h
      have hids : terminatedIds ([] ++ [⟨.startNotification, n, taskInput, calls, .ok out⟩]) = [] := by
        rw [terminatedIds_append_nil hnone]
        rfl
      exact .initial (hclean.append (not_unretried_ok rfl)) rfl hids

theorem Stage.task_initial (hclean : Clean tf evs) (hlisting : evs.filter isListing = [])
    (hids : terminatedIds evs = [])
    (hs : (recycleConsulAgents tf .checkClusterHealthInitial).start input (mainStack entered) data =
      .invoke t taskInput)
    (ha : Answers (tasks faults) K t.resource taskInput w calls r w') :
    Stage tf (evs ++ [⟨.checkClusterHealthInitial, n, taskInput, calls, r⟩])
      (t.finish input .checkClusterHealthInitial data n (mainStack entered) r) := by
  obtain ⟨rfl, hparams⟩ := start_task_invoke hs
  have hnone : calls.filterMap terminated = [] := filterMap_terminated_nil ha nofun
  have hids' : terminatedIds (evs ++ [⟨.checkClusterHealthInitial, n, taskInput, calls, r⟩]) = [] := by
    rw [terminatedIds_append_nil hnone, hids]
  have hlisting' := @filter_isListing_append evs
    ⟨.checkClusterHealthInitial, n, taskInput, calls, r⟩ hlisting nofun
  cases r with
  | error e =>
      apply Stage.finish_error aborted_raise_mainStack
      intro hretry
      exact .initial (hclean.append (not_unretried_retried rfl rfl hretry)) hlisting' hids'
  | ok out =>
      apply Stage.finish_ok rfl rfl aborted_raise_mainStack
      intro data' _
      exact .listing (hclean.append (not_unretried_ok rfl)) hlisting' hids'
        (.of_check (saw_five data hparams ha) nofun)

theorem Stage.task_listing (hclean : Clean tf evs) (hlisting : evs.filter isListing = [])
    (hids : terminatedIds evs = []) (hfive : FiveSince evs)
    (hs : (recycleConsulAgents tf .getConsulNodes).start input (mainStack entered) data =
      .invoke t taskInput)
    (ha : Answers (tasks faults) K t.resource taskInput w calls r w') :
    Stage tf (evs ++ [⟨.getConsulNodes, n, taskInput, calls, r⟩])
      (t.finish input .getConsulNodes data n (mainStack entered) r) := by
  obtain ⟨rfl, -⟩ := start_task_invoke hs
  have hnone : calls.filterMap terminated = [] := filterMap_terminated_nil ha nofun
  have hids' : terminatedIds (evs ++ [⟨.getConsulNodes, n, taskInput, calls, r⟩]) = [] := by
    rw [terminatedIds_append_nil hnone, hids]
  cases r with
  | error e => exact Stage.finish_error aborted_raise_mainStack fun hretry => nomatch hretry
  | ok out =>
      cases ha with
      | ret hx =>
          obtain ⟨text, members, reservations, -, rfl⟩ := nodesHandler_ret_inv hx
          apply Stage.finish_ok rfl rfl aborted_raise_mainStack
          intro data' hput
          have hlisted : Listed (evs ++ [⟨.getConsulNodes, n, taskInput, calls, .ok (instanceListJson
              (answerNodes (leaderAddr text) (addrsOf members) reservations))⟩])
              (answerNodes (leaderAddr text) (addrsOf members) reservations) := by
            refine ⟨⟨.getConsulNodes, n, taskInput, calls, _⟩, ?_, rfl⟩
            rw [List.filter_append, hlisting]
            rfl
          have hdata : data'.get? ["nodes", "instanceList"] = some (.arr
              ((answerNodes (leaderAddr text) (addrsOf members) reservations).map Node.json)) := by
            rw [Json.get?_of_put? hput]
            rfl
          exact .forEach (hclean.append (not_unretried_ok rfl)) hlisted hids' (hfive.append nofun) hdata

theorem Stage.task_gracefulLeave (h : Iterating tf evs done node rest data)
    (hids : terminatedIds evs = terminable done) (hfive : FiveSince evs)
    (hs : (recycleConsulAgents tf .gracefulLeave).start input
      (itemStack entered before node rest outputs) data = .invoke t taskInput)
    (ha : Answers (tasks faults) K t.resource taskInput w calls r w') :
    Stage tf (evs ++ [⟨.gracefulLeave, n, taskInput, calls, r⟩])
      (t.finish input .gracefulLeave data n (itemStack entered before node rest outputs) r) := by
  obtain ⟨rfl, -⟩ := start_task_invoke hs
  have hnone : calls.filterMap terminated = [] := filterMap_terminated_nil ha nofun
  cases r with
  | error e => exact Stage.finish_error aborted_raise_itemStack fun hretry => nomatch hretry
  | ok out =>
      apply Stage.finish_ok rfl rfl aborted_raise_itemStack
      intro data' hput
      have hok : ¬ Unretried tf ⟨.gracefulLeave, n, taskInput, calls, .ok out⟩ := not_unretried_ok rfl
      have h' := h.put hput (by decide) hok nofun
      exact .leaving (.inr (.inl rfl)) h' (by rw [terminatedIds_append_nil hnone, hids])
        (hfive.append nofun)

theorem Stage.task_postLeave (h : Iterating tf evs done node rest data)
    (hids : terminatedIds evs = terminable done) (hfive : FiveSince evs)
    (hs : (recycleConsulAgents tf .checkClusterHealthPostLeave).start input
      (itemStack entered before node rest outputs) data = .invoke t taskInput)
    (ha : Answers (tasks faults) K t.resource taskInput w calls r w') :
    Stage tf (evs ++ [⟨.checkClusterHealthPostLeave, n, taskInput, calls, r⟩])
      (t.finish input .checkClusterHealthPostLeave data n
        (itemStack entered before node rest outputs) r) := by
  obtain ⟨rfl, hparams⟩ := start_task_invoke hs
  have hnone : calls.filterMap terminated = [] := filterMap_terminated_nil ha nofun
  have hids' : terminatedIds (evs ++ [⟨.checkClusterHealthPostLeave, n, taskInput, calls, r⟩]) =
      terminable done := by
    rw [terminatedIds_append_nil hnone, hids]
  cases r with
  | error e =>
      apply Stage.finish_error aborted_raise_itemStack
      intro hretry
      have h' : Iterating tf (evs ++ [⟨.checkClusterHealthPostLeave, n, taskInput, calls, .error e⟩])
          done node rest data :=
        ⟨h.clean.append (not_unretried_retried rfl rfl hretry), h.listed.append nofun, h.id⟩
      exact .leaving (.inr (.inr rfl)) h' hids' (hfive.append nofun)
  | ok out =>
      apply Stage.finish_ok rfl rfl aborted_raise_itemStack
      intro data' hput
      have hok : ¬ Unretried tf ⟨.checkClusterHealthPostLeave, n, taskInput, calls, .ok out⟩ :=
        not_unretried_ok rfl
      obtain ⟨peers, hcounted, hlength⟩ := saw_four data hparams ha
      exact .gated (h.put hput (by decide) hok nofun) hids' (hfive.append nofun)
        ⟨peers, ⟨evs, _, rfl, hcounted⟩, hlength⟩

theorem Stage.task_terminate (h : Iterating tf evs done node rest data)
    (hids : terminatedIds evs = terminable done)
    (hs : (recycleConsulAgents tf .terminateNode).start input
      (itemStack entered before node rest outputs) data = .invoke t taskInput)
    (ha : Answers (tasks faults) K t.resource taskInput w calls r w') :
    Stage tf (evs ++ [⟨.terminateNode, n, taskInput, calls, r⟩])
      (t.finish input .terminateNode data n (itemStack entered before node rest outputs) r) := by
  obtain ⟨rfl, hparams⟩ := start_task_invoke hs
  obtain rfl := terminateParameters_inv ⟨input, none⟩ h.id hparams
  cases r with
  | error e => exact Stage.finish_error aborted_raise_itemStack fun hretry => nomatch hretry
  | ok out =>
      cases ha with
      | ret hx =>
          apply Stage.finish_ok rfl rfl aborted_raise_itemStack
          intro data' hput
          have hok : ¬ Unretried tf ⟨.terminateNode, n,
            .obj [("instanceId", .str node.instanceId)], calls, .ok out⟩ := not_unretried_ok rfl
          refine .replacing (.inl rfl) (h.put hput (by decide) hok nofun) ?_
          rw [terminatedIds_append, hids, terminable_append, terminateHandler_ret_inv hx]

theorem Stage.task_final (h : Iterating tf evs done node rest data)
    (hids : terminatedIds evs = terminable (done ++ [node]))
    (hs : (recycleConsulAgents tf .checkClusterHealthFinal).start input
      (itemStack entered before node rest outputs) data = .invoke t taskInput)
    (ha : Answers (tasks faults) K t.resource taskInput w calls r w') :
    Stage tf (evs ++ [⟨.checkClusterHealthFinal, n, taskInput, calls, r⟩])
      (t.finish input .checkClusterHealthFinal data n
        (itemStack entered before node rest outputs) r) := by
  obtain ⟨rfl, hparams⟩ := start_task_invoke hs
  have hnone : calls.filterMap terminated = [] := filterMap_terminated_nil ha (by simp [healthCheck])
  have hids' : terminatedIds (evs ++ [⟨.checkClusterHealthFinal, n, taskInput, calls, r⟩]) =
      terminable (done ++ [node]) := by
    rw [terminatedIds_append_nil hnone, hids]
  cases r with
  | error e =>
      apply Stage.finish_error aborted_raise_itemStack
      intro hretry
      have h' : Iterating tf (evs ++ [⟨.checkClusterHealthFinal, n, taskInput, calls, .error e⟩])
          done node rest data :=
        ⟨h.clean.append (not_unretried_retried rfl rfl hretry), h.listed.append (by simp), h.id⟩
      exact .replacing (.inr rfl) h' hids'
  | ok out =>
      have hclean := h.clean.append (not_unretried_ok rfl :
        ¬ Unretried tf ⟨.checkClusterHealthFinal, n, taskInput, calls, .ok out⟩)
      have hlisted : Listed (evs ++ [⟨.checkClusterHealthFinal, n, taskInput, calls, .ok out⟩])
          (done ++ node :: rest) := h.listed.append (by simp)
      rw [List.append_cons done] at hlisted
      rw [TaskState.finish]
      split
      · rename_i data' _
        cases rest with
        | nil =>
            rw [List.append_nil (done ++ [node])] at hlisted
            exact .ending hclean hlisted hids'
        | cons node' rest =>
            exact Stage.iterate input hclean hlisted hids' (.of_check (saw_five data hparams ha) (by simp))
      · exact .aborted (aborted_raise_itemStack _)

theorem Stage.task_ending {nodes : List Node} (hclean : Clean tf evs) (hlisted : Listed evs nodes)
    (hids : terminatedIds evs = terminable nodes)
    (hs : (recycleConsulAgents tf .endNotification).start input (mainStack entered) data =
      .invoke t taskInput)
    (ha : Answers (tasks faults) K t.resource taskInput w calls r w') :
    Stage tf (evs ++ [⟨.endNotification, n, taskInput, calls, r⟩])
      (t.finish input .endNotification data n (mainStack entered) r) := by
  obtain ⟨rfl, -⟩ := start_task_invoke hs
  have hnone : calls.filterMap terminated = [] := filterMap_terminated_nil ha nofun
  cases r with
  | error e => exact Stage.finish_error aborted_raise_mainStack fun hretry => nomatch hretry
  | ok out =>
      exact .succeeded (hclean.append (not_unretried_ok rfl)) (hlisted.append nofun)
        (by rw [terminatedIds_append_nil hnone, hids])

/-- What a state goes to when its task has been answered. -/
theorem Stage.task {s : State} {stack : List (Frame State)}
    (h : Stage tf evs (.at s data n stack))
    (hs : (recycleConsulAgents tf s).start input stack data = .invoke t taskInput)
    (ha : Answers (tasks faults) K t.resource taskInput w calls r w') :
    Stage tf (evs ++ [⟨s, n, taskInput, calls, r⟩]) (t.finish input s data n stack r) := by
  cases h with
  | mainFlow => cases hs
  | starting => exact Stage.task_starting hs ha
  | initial hclean hlisting hids => exact Stage.task_initial hclean hlisting hids hs ha
  | listing hclean hlisting hids hfive => exact Stage.task_listing hclean hlisting hids hfive hs ha
  | forEach => exact absurd hs start_map_ne_invoke
  | leaving hstate h hids hfive =>
      rcases hstate with rfl | rfl | rfl
      · exact Stage.task_gracefulLeave h hids hfive hs ha
      · cases hs
      · exact Stage.task_postLeave h hids hfive hs ha
  | gated h hids => exact Stage.task_terminate h hids hs ha
  | replacing hstate h hids =>
      rcases hstate with rfl | rfl
      · cases hs
      · exact Stage.task_final h hids hs ha
  | ending hclean hlisted hids => exact Stage.task_ending hclean hlisted hids hs ha
  | aborted haborted =>
      cases haborted with
      | notification =>
          obtain ⟨rfl, -⟩ := start_task_invoke hs
          cases r with
          | error e => exact Stage.finish_error (fun _ => .failed) fun hretry => nomatch hretry
          | ok out => exact .aborted .failState
      | failState => cases hs

end

end AutoRecycle.Consul
