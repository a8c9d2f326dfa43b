/-
  AutoRecycle.Consul.Ending

  Every execution of recycle_consul_agents comes to an end, and how.

  The machine has no loop of its own, so its executions terminate by
  `Ranked.terminates`.  How many tasks they run is decided by the list of nodes:
  `allowance` bounds the tasks that can have been run by the place that the
  execution has reached.  The end is a success, announced by EndNotification, or
  a failure, announced by FailureNotification; both texts need the name of the
  cluster, without which not even the first task is run.
-/
import AutoRecycle.Consul.Flow

namespace AutoRecycle.Consul

open AutoRecycle.Asl AutoRecycle.Asl.Nested AutoRecycle.Data AutoRecycle.Effect

-- ============================================================================
-- No loops
-- ============================================================================

/-- The order of the states, the last one first. -/
def rank : State → Nat
  | .failState => 0
  | .failureNotification => 1
  | .endNotification => 2
  | .checkClusterHealthFinal => 3
  | .waitBeforeFinalHealthCheck => 4
  | .terminateNode => 5
  | .checkClusterHealthPostLeave => 6
  | .waitBeforeHealthCheck => 7
  | .gracefulLeave => 8
  | .forEachInstance => 9
  | .getConsulNodes => 10
  | .checkClusterHealthInitial => 11
  | .startNotification => 12
  | .mainFlow => 13

theorem ranked_recycleConsulAgents (tf : TfVars) : Ranked (recycleConsulAgents tf) rank := by
  intro s next h
  cases s <;>
    simp [recycleConsulAgents, Nested.StateDef.targets, healthCheck, mainParallel, instanceMap] at h
  case mainFlow => rcases h with rfl | rfl <;> decide
  case forEachInstance => rcases h with rfl | rfl <;> decide
  all_goals
    subst h
    decide

-- ============================================================================
-- The number of tasks
-- ============================================================================

/-- The entries in the answer of GetConsulNodes. -/
def entries (ev : ConsulRan) : List Json :=
  match ev.answer with
  | .ok out =>
      match out.get? ["instanceList"] with
      | some (.arr items) => items
      | _ => []
  | .error _ => []

/-- The number of nodes listed so far. -/
def listedCount (evs : List ConsulRan) : Nat := ((evs.filter isListing).flatMap entries).length

/-- The items before the one that is being done. -/
def itemsDone (listed : Nat) : List (Frame State) → Nat
  | .map _ _ _ rest _ :: _ => listed - (rest.length + 1)
  | _ => 0

/-- The most tasks that can have been run by then. -/
def allowance (listed : Nat) : Nested.Cfg State → Nat
  | .at .mainFlow _ _ _ => 0
  | .at .startNotification _ _ _ => 0
  | .at .checkClusterHealthInitial _ n _ => 1 + n
  | .at .getConsulNodes _ _ _ => 6
  | .at .forEachInstance _ _ _ => 7
  | .at .gracefulLeave _ _ stack => 7 + 14 * itemsDone listed stack
  | .at .waitBeforeHealthCheck _ _ stack => 8 + 14 * itemsDone listed stack
  | .at .checkClusterHealthPostLeave _ n stack => 8 + n + 14 * itemsDone listed stack
  | .at .terminateNode _ _ stack => 13 + 14 * itemsDone listed stack
  | .at .waitBeforeFinalHealthCheck _ _ stack => 14 + 14 * itemsDone listed stack
  | .at .checkClusterHealthFinal _ n stack => 14 + n + 14 * itemsDone listed stack
  | .at .endNotification _ _ _ => 7 + 14 * listed
  | .at .failureNotification _ _ _ => 8 + 14 * listed
  | .at .failState _ _ _ => 9 + 14 * listed
  | .succeeded _ => 8 + 14 * listed
  | .failed .. => 9 + 14 * listed

section
variable {tf : TfVars} {evs : List ConsulRan} {ev : ConsulRan} {nodes : List Node} {s : State}
  {data : Json} {n : Nat} {stack : List (Frame State)} {c : Nested.Cfg State}

theorem listedCount_append : listedCount (evs ++ [ev]) =
    listedCount evs + if isListing ev then (entries ev).length else 0 := by
  rw [listedCount, List.filter_append, List.flatMap_append, List.length_append, List.filter_singleton,
    ← listedCount]
  cases isListing ev <;> simp

theorem listedCount_append_of_ne (h : ev.state ≠ .getConsulNodes) :
    listedCount (evs ++ [ev]) = listedCount evs := by
  have hnot : isListing ev = false := decide_eq_false h
  rw [listedCount_append, hnot]
  rfl

theorem Listed.listedCount_eq (h : Listed evs nodes) : listedCount evs = nodes.length := by
  obtain ⟨listing, hfilter, hanswer⟩ := h
  rw [listedCount, hfilter, List.flatMap_singleton, entries, hanswer]
  exact List.length_map _

theorem itemsDone_itemStack (listed : Nat) (entered before : Json) (node : Node) (rest : List Node)
    (outputs : List Json) :
    itemsDone listed (itemStack entered before node rest outputs) = listed - (rest.length + 1) := by
  rw [itemStack, itemsDone, List.length_map]

/-- The items are those that were listed. -/
theorem Iterating.lt_listedCount {done rest : List Node} {node : Node}
    (h : Iterating tf evs done node rest data) : rest.length < listedCount evs := by
  rw [h.listed.listedCount_eq, List.length_append, List.length_cons]
  omega

/-- The items to come are some of those that were listed. -/
theorem Stage.lt_listedCount {entered before : Json} {node : Node} {rest : List Node}
    {outputs : List Json} (h : Stage tf evs (.at s data n stack))
    (hstack : stack = itemStack entered before node rest outputs) : rest.length < listedCount evs := by
  have hlt : ∀ {entered' before' node'} {rest' : List Node} {outputs'}, rest'.length < listedCount evs →
      itemStack entered' before' node' rest' outputs' = itemStack entered before node rest outputs →
      rest.length < listedCount evs := by
    intro entered' before' node' rest' outputs' hlt heq
    simp only [itemStack, List.cons.injEq, Frame.map.injEq] at heq
    have hlength := congrArg List.length heq.1.2.2.2.1
    rw [List.length_map, List.length_map] at hlength
    omega
  cases h with
  | leaving _ h => exact hlt h.lt_listedCount hstack
  | gated h => exact hlt h.lt_listedCount hstack
  | replacing _ h => exact hlt h.lt_listedCount hstack
  | aborted h => cases h <;> cases hstack
  | _ => cases hstack

/-- The tasks of a run, and the attempts at the one that is being done. -/
structure Within (evs : List ConsulRan) (c : Nested.Cfg State) : Prop where
  length_le : evs.length ≤ allowance (listedCount evs) c
  attempt_le : ∀ s data n stack, c = .at s data n stack → n ≤ extraAttempts s

theorem Within.fresh (h : evs.length ≤ allowance (listedCount evs) (.at s data 0 stack)) :
    Within evs (.at s data 0 stack) := by
  refine ⟨h, ?_⟩
  intro s' data' n' stack' heq
  cases heq
  exact Nat.zero_le _

theorem Within.ended (h : evs.length ≤ allowance (listedCount evs) c) (hc : c.Ended) :
    Within evs c := by
  refine ⟨h, ?_⟩
  intro s data n stack heq
  rw [heq] at hc
  exact hc.elim

/-- Inside the main flow there is room for two more tasks. -/
theorem Stage.allowance_le (h : Stage tf evs (.at s data n stack)) (hn : n ≤ extraAttempts s)
    (hstack : stack ≠ []) :
    allowance (listedCount evs) (.at s data n stack) ≤ 7 + 14 * listedCount evs := by
  cases h with
  | mainFlow => exact absurd rfl hstack
  | starting => simp [allowance]
  | initial =>
      simp only [extraAttempts] at hn
      simp only [allowance]
      omega
  | listing => simp only [allowance]; omega
  | forEach => simp only [allowance]; omega
  | leaving hs h =>
      have hlt := h.lt_listedCount
      rcases hs with rfl | rfl | rfl
      · simp only [allowance, itemsDone_itemStack]
        omega
      · simp only [allowance, itemsDone_itemStack]
        omega
      · simp only [extraAttempts] at hn
        simp only [allowance, itemsDone_itemStack]
        omega
  | gated h =>
      have hlt := h.lt_listedCount
      simp only [allowance, itemsDone_itemStack]
      omega
  | replacing hs h =>
      have hlt := h.lt_listedCount
      rcases hs with rfl | rfl
      · simp only [allowance, itemsDone_itemStack]
        omega
      · simp only [extraAttempts] at hn
        simp only [allowance, itemsDone_itemStack]
        omega
  | ending => simp [allowance]
  | aborted h => cases h <;> exact absurd rfl hstack

/-- A state that goes on by itself. -/
theorem Within.goto (h : Within evs (.at s data n stack)) (hstage : Stage tf evs (.at s data n stack))
    (hgoes : Goes (.at s data n stack) none c) : Within evs c := by
  have hlength := h.length_le
  cases hgoes with
  | begin => exact .fresh hlength
  | waitLeave => exact .fresh hlength
  | waitFinal => exact .fresh hlength
  | empty =>
      refine .fresh ?_
      simp only [allowance] at hlength ⊢
      omega
  | first =>
      refine .fresh ?_
      simp only [allowance] at hlength ⊢
      omega
  | abort hstack =>
      refine .fresh ?_
      have hle := hstage.allowance_le (h.attempt_le _ _ _ _ rfl) hstack
      simp only [allowance]
      omega
  | unannounced =>
      refine .ended ?_ trivial
      simp only [allowance] at hlength ⊢
      omega
  | fail => exact .ended hlength trivial

/-- A task that has been answered. -/
theorem Within.task {r : Except TaskError Json} (h : Within evs (.at s data n stack))
    (hstage : Stage tf evs (.at s data n stack)) (hev : ev.state = s)
    (hgoes : Goes (.at s data n stack) (some r) c) : Within (evs ++ [ev]) c := by
  have hlength := h.length_le
  have hattempt := h.attempt_le _ _ _ _ rfl
  have hsucc : (evs ++ [ev]).length = evs.length + 1 := by simp
  have hsame : s ≠ .getConsulNodes → listedCount (evs ++ [ev]) = listedCount evs := by
    intro hne
    exact listedCount_append_of_ne (hev ▸ hne)
  have hmono : listedCount evs ≤ listedCount (evs ++ [ev]) := by
    rw [listedCount_append]
    exact Nat.le_add_right _ _
  cases hgoes with
  | next hnext =>
      refine .fresh ?_
      by_cases hlisting : s = .getConsulNodes
      · subst hlisting
        cases hnext
        simp only [allowance] at hlength ⊢
        omega
      · rw [hsame hlisting]
        cases s <;> cases hnext <;> simp only [allowance, extraAttempts] at hlength hattempt ⊢ <;> omega
  | again hlt =>
      refine ⟨?_, ?_⟩
      · have hlisting : s ≠ .getConsulNodes := by
          rintro rfl
          cases hlt
        rw [hsame hlisting]
        cases s <;> simp only [extraAttempts] at hlt <;> simp only [allowance] at hlength ⊢ <;> omega
      · intro s' data' n' stack' heq
        cases heq
        exact hlt
  | item =>
      refine .fresh ?_
      have hlt := hstage.lt_listedCount rfl
      simp only [extraAttempts] at hattempt
      simp only [allowance, itemsDone_itemStack, List.length_cons] at hlength hlt ⊢
      rw [hsame (by decide)]
      omega
  | last =>
      refine .fresh ?_
      have hlt := hstage.lt_listedCount rfl
      simp only [extraAttempts] at hattempt
      simp only [allowance, itemsDone_itemStack, List.length_nil] at hlength hlt ⊢
      rw [hsame (by decide)]
      omega
  | succeed =>
      refine .ended ?_ trivial
      simp only [allowance] at hlength ⊢
      rw [hsame (by decide)]
      omega
  | abort hstack =>
      refine .fresh ?_
      have hle := hstage.allowance_le hattempt hstack
      simp only [allowance]
      omega
  | undelivered =>
      refine .ended ?_ trivial
      simp only [allowance] at hlength ⊢
      rw [hsame (by decide)]
      omega

end

section
variable {W : Type} {K : Setting Calls W} {tf : TfVars} {faults : TaskError → Prop}
  {input : Json} {evs : List ConsulRan} {c : Nested.Cfg State}

theorem Runs.within (h : Runs tf faults K input evs c) : Within evs c :=
  h.flow (.fresh (Nat.le_refl 0)) (fun hstage hwithin _ hgoes => hwithin.goto hstage hgoes)
    (fun hstage hwithin _ _ hgoes => hwithin.task hstage rfl hgoes)

/-- In the end, too. -/
theorem Runs.allowance_le (h : Runs tf faults K input evs c) :
    allowance (listedCount evs) c ≤ 9 + 14 * listedCount evs := by
  cases c with
  | «at» s data n stack =>
      by_cases hstack : stack = []
      · subst hstack
        have hstage := h.stage.1
        generalize hc : Nested.Cfg.at s data n [] = c at hstage
        cases hstage with
        | mainFlow => cases hc; simp [allowance]
        | aborted habort =>
            cases habort <;> cases hc <;> simp only [allowance] <;> omega
        | _ => cases hc
      · have hle := h.stage.1.allowance_le (h.within.attempt_le _ _ _ _ rfl) hstack
        omega
  | succeeded out => simp only [allowance]; omega
  | failed error cause => exact Nat.le_refl _

/-- Every execution of recycle_consul_agents comes to an end: up to any point of a
    run at most nine tasks and fourteen more for each node that was listed have
    been run, and from there it cannot go on for ever, whatever its tasks answer. -/
theorem ends_within (tf : TfVars) (faults : TaskError → Prop) (K : Setting Calls W) (input : Json)
    (evs : List ConsulRan) (c : Nested.Cfg State) (h : Runs tf faults K input evs c) :
    evs.length ≤ 9 + 14 * listedCount evs ∧
      ∀ f : Nat → Nested.Cfg State, f 0 = c →
        ∃ i, ¬ Next (recycleConsulAgents tf) input (f i) (f (i + 1)) := by
  refine ⟨h.within.length_le.trans h.allowance_le, fun f hf => ?_⟩
  obtain ⟨w, w', hrun⟩ := h
  have hends : Terminates (recycleConsulAgents tf) input (beginning input) :=
    (ranked_recycleConsulAgents tf).terminates Leavable.nil
  exact (hrun.terminates hends).no_endless f hf

/-- The run in which the first node is terminated. -/
theorem ends_within_cluster : ∃ evs c,
    Runs clusterVars (fun _ => False) ignoringCluster clusterInput evs c ∧
    (∃ ev ∈ evs, ev.state = .terminateNode) ∧ evs.length ≤ 9 + 14 * listedCount evs := by
  obtain ⟨pre, check, ev, c, nodes, hruns, hstate, -⟩ := clusterRun_terminate
  exact ⟨_, c, hruns, ⟨ev, by simp, hstate⟩, (ends_within _ _ _ _ _ _ hruns).1⟩

end

-- ============================================================================
-- The announcement of the end
-- ============================================================================

/-- The input has a cluster that can be put into a text. -/
def NamesCluster (input : Json) : Prop :=
  ∃ cluster text, input.get? ["cluster"] = some cluster ∧ formatArgument cluster = some text

/-- No EndNotification has been delivered. -/
def Undelivered (evs : List ConsulRan) : Prop :=
  ∀ ev ∈ evs, ev.state = .endNotification → ∀ out, ev.answer ≠ .ok out

/-- Neither end has been announced: FailureNotification has not been run, and no
    EndNotification was delivered. -/
structure Unannounced (evs : List ConsulRan) : Prop where
  failure : ∀ ev ∈ evs, ev.state ≠ .failureNotification
  success : Undelivered evs

/-- FailureNotification has been run once, as the last task. -/
def Announced (evs : List ConsulRan) : Prop :=
  ∃ pre ev, evs = pre ++ [ev] ∧ ev.state = .failureNotification ∧ Unannounced pre

/-- EndNotification has been run as the last task, and was delivered. -/
def Completed (evs : List ConsulRan) : Prop :=
  ∃ pre ev out, evs = pre ++ [ev] ∧ ev.state = .endNotification ∧ ev.answer = .ok out ∧
    Unannounced pre

section
variable {tf : TfVars} {ctx : Context}

theorem controlPlaneText_isSome (outcome : String) :
    (controlPlaneText outcome ctx).isSome = true ↔ NamesCluster ctx.executionInput := by
  rw [controlPlaneText, clusterOf, NamesCluster]
  cases ctx.executionInput.get? ["cluster"] with
  | none => simp
  | some cluster => cases h : formatArgument cluster <;> simp [h]

theorem progressParameters_isSome (text outcome : String) (data : Json) :
    (progressParameters tf text outcome ctx data).isSome = true ↔
      NamesCluster ctx.executionInput := by
  rw [← controlPlaneText_isSome outcome, progressParameters]
  cases controlPlaneText outcome ctx <;> simp

theorem failureParameters_isSome (data : Json) :
    (failureParameters tf ctx data).isSome = true ↔ NamesCluster ctx.executionInput := by
  rw [← controlPlaneText_isSome " failed", failureParameters]
  cases controlPlaneText " failed" ctx <;> simp

end

/-- What is known of the announcements where an execution is. -/
def Ending (input : Json) (evs : List ConsulRan) : Nested.Cfg State → Prop
  | .at .mainFlow _ _ _ => evs = []
  | .at .startNotification _ _ _ => evs = []
  | .at .failureNotification _ _ _ => Unannounced evs ∧ (NamesCluster input ∨ evs = [])
  | .at .failState _ _ _ => Announced evs ∧ NamesCluster input
  | .at _ _ _ _ => Unannounced evs ∧ NamesCluster input
  | .succeeded _ => Completed evs ∧ NamesCluster input
  | .failed .. => Announced evs ∧ NamesCluster input ∨ evs = [] ∧ ¬ NamesCluster input

section
variable {tf : TfVars} {input : Json} {evs : List ConsulRan} {ev : ConsulRan} {s : State}
  {data : Json} {n : Nat} {stack : List (Frame State)} {c : Nested.Cfg State}

theorem Unannounced.append (h : Unannounced evs) (hfailure : ev.state ≠ .failureNotification)
    (hsuccess : ev.state = .endNotification → ∀ out, ev.answer ≠ .ok out) :
    Unannounced (evs ++ [ev]) := by
  constructor
  · intro e he
    rcases List.mem_append.mp he with he | he
    · exact h.failure e he
    · rw [List.mem_singleton.mp he]
      exact hfailure
  · intro e he
    rcases List.mem_append.mp he with he | he
    · exact h.success e he
    · rw [List.mem_singleton.mp he]
      exact hsuccess

theorem unannounced_nil : Unannounced [] := by
  constructor <;> simp [Undelivered]

theorem Announced.undelivered (h : Announced evs) : Undelivered evs := by
  obtain ⟨pre, last, rfl, hstate, hpre⟩ := h
  intro ev hev hend
  rcases List.mem_append.mp hev with hev | hev
  · exact hpre.success ev hev hend
  · rw [List.mem_singleton.mp hev, hstate] at hend
    cases hend

/-- A state inside the main flow. -/
theorem Stage.inside (h : Stage tf evs (.at s data n stack)) (hstack : stack ≠ []) :
    s ≠ .mainFlow ∧ s ≠ .failureNotification ∧ s ≠ .failState := by
  cases h with
  | mainFlow => exact absurd rfl hstack
  | leaving hs => rcases hs with rfl | rfl | rfl <;> exact ⟨nofun, nofun, nofun⟩
  | replacing hs => rcases hs with rfl | rfl <;> exact ⟨nofun, nofun, nofun⟩
  | aborted h => cases h <;> exact absurd rfl hstack
  | _ => exact ⟨nofun, nofun, nofun⟩

/-- Inside the main flow nothing has been announced, and without a cluster not
    even the first task has been run. -/
theorem Ending.inside (h : Ending input evs (.at s data n stack))
    (hs : s ≠ .mainFlow ∧ s ≠ .failureNotification ∧ s ≠ .failState) :
    Unannounced evs ∧ (NamesCluster input ∨ s = .startNotification ∧ evs = []) := by
  cases s with
  | mainFlow => exact absurd rfl hs.1
  | failureNotification => exact absurd rfl hs.2.1
  | failState => exact absurd rfl hs.2.2
  | startNotification =>
      obtain rfl : evs = [] := h
      exact ⟨unannounced_nil, .inr ⟨rfl, rfl⟩⟩
  | _ => exact ⟨h.1, .inl h.2⟩

/-- The first task needs the cluster. -/
theorem namesCluster_of_start {t : TaskState State Resource} {taskInput : Json}
    (h : (recycleConsulAgents tf .startNotification).start input stack data = .invoke t taskInput) :
    NamesCluster input := by
  obtain ⟨-, hparams⟩ := start_task_invoke h
  exact (progressParameters_isSome _ _ data).mp (Option.isSome_of_eq_some hparams)

/-- A state that goes on by itself. -/
theorem Ending.goto (h : Ending input evs (.at s data n stack))
    (hstage : Stage tf evs (.at s data n stack))
    (hs : (recycleConsulAgents tf s).start input stack data = .goto c)
    (hgoes : Goes (.at s data n stack) none c) : Ending input evs c := by
  cases hgoes with
  | begin => exact h
  | waitLeave => exact h
  | waitFinal => exact h
  | empty => exact h
  | first => exact h
  | abort hstack =>
      obtain ⟨hunannounced, hnames⟩ := h.inside (hstage.inside hstack)
      exact ⟨hunannounced, hnames.imp_right And.right⟩
  | unannounced =>
      obtain ⟨-, hnames⟩ := h
      have hnone : ¬ NamesCluster input := by
        intro hnames
        have hsome := (@failureParameters_isSome tf ⟨input, none⟩ data).mpr hnames
        obtain ⟨taskInput, hparams⟩ := Option.isSome_iff_exists.mp hsome
        simp only [recycleConsulAgents, Nested.StateDef.start, currentItem, hparams] at hs
        cases hs
      exact .inr ⟨hnames.resolve_left hnone, hnone⟩
  | fail => exact .inl h

/-- A task that has been answered. -/
theorem Ending.task {r : Except TaskError Json} {t : TaskState State Resource} {taskInput : Json}
    (h : Ending input evs (.at s data n stack)) (hstage : Stage tf evs (.at s data n stack))
    (hs : (recycleConsulAgents tf s).start input stack data = .invoke t taskInput)
    (hev : ev.state = s) (hanswer : ev.answer = r) (hgoes : Goes (.at s data n stack) (some r) c) :
    Ending input (evs ++ [ev]) c := by
  -- where a task of the main flow has been run, the cluster has a name
  have hnamed : s ≠ .mainFlow ∧ s ≠ .failureNotification ∧ s ≠ .failState →
      Unannounced evs ∧ NamesCluster input := by
    intro hne
    obtain ⟨hunannounced, hnames⟩ := h.inside hne
    rcases hnames with hnames | ⟨rfl, -⟩
    · exact ⟨hunannounced, hnames⟩
    · exact ⟨hunannounced, namesCluster_of_start hs⟩
  have hinside : s ≠ .mainFlow ∧ s ≠ .failureNotification ∧ s ≠ .failState →
      (s = .endNotification → ∀ out, r ≠ .ok out) → Unannounced (evs ++ [ev]) ∧ NamesCluster input := by
    intro hne hend
    obtain ⟨hunannounced, hnames⟩ := hnamed hne
    subst hev hanswer
    exact ⟨hunannounced.append hne.2.1 hend, hnames⟩
  cases hgoes with
  | next hnext =>
      by_cases hnotified : s = .failureNotification
      · subst hnotified
        cases hnext
        refine ⟨⟨evs, ev, rfl, hev, h.1⟩, ?_⟩
        obtain ⟨-, hparams⟩ := start_task_invoke hs
        exact (failureParameters_isSome data).mp (Option.isSome_of_eq_some hparams)
      · cases s <;> cases hnext <;>
          first | exact hinside (by decide) nofun | exact absurd rfl hnotified
  | again hlt =>
      cases s <;> simp only [extraAttempts] at hlt <;>
        first | exact absurd hlt (Nat.not_lt_zero _) | exact hinside (by decide) nofun
  | item => exact hinside (by decide) nofun
  | last => exact hinside (by decide) nofun
  | succeed =>
      obtain ⟨hunannounced, hnames⟩ := hnamed (by decide)
      exact ⟨⟨evs, ev, _, rfl, hev, hanswer, hunannounced⟩, hnames⟩
  | abort hstack hend =>
      have hnot : s = .endNotification → ∀ out, r ≠ .ok out := by
        intro hs out hr
        exact hend hs out (congrArg some hr)
      obtain ⟨hunannounced, hnames⟩ := hinside (hstage.inside hstack) hnot
      exact ⟨hunannounced, .inl hnames⟩
  | undelivered =>
      obtain ⟨-, hparams⟩ := start_task_invoke hs
      exact .inl ⟨⟨evs, ev, rfl, hev, h.1⟩,
        (failureParameters_isSome data).mp (Option.isSome_of_eq_some hparams)⟩

end

section
variable {W : Type} {K : Setting Calls W}

/-- An execution that has ended has either succeeded, with a delivered EndNotification
    as its last task and no other announcement, or failed, and then no EndNotification
    was delivered.  A failure is announced by FailureNotification, once and as the
    last task, if the input names a cluster; without one no task at all is run. -/
theorem announced_at_end (tf : TfVars) (faults : TaskError → Prop) (K : Setting Calls W) (input : Json)
    (evs : List ConsulRan) (c : Nested.Cfg State) (h : Runs tf faults K input evs c) (hc : c.Ended) :
    (c.Succeeded ∧ NamesCluster input ∧ Completed evs) ∨
      (¬ c.Succeeded ∧ NamesCluster input ∧ Announced evs ∧ Undelivered evs) ∨
      (¬ c.Succeeded ∧ ¬ NamesCluster input ∧ evs = []) := by
  have hending : Ending input evs c :=
    h.flow rfl (fun hstage hending hs hgoes => hending.goto hstage hs hgoes)
      (fun hstage hending hs _ hgoes => hending.task hstage hs rfl rfl hgoes)
  cases c with
  | «at» s data n stack => exact hc.elim
  | succeeded out => exact .inl ⟨trivial, hending.2, hending.1⟩
  | failed error cause =>
      rcases hending with ⟨hannounced, hnames⟩ | ⟨hevs, hnames⟩
      · exact .inr (.inl ⟨id, hnames, hannounced, hannounced.undelivered⟩)
      · exact .inr (.inr ⟨id, hnames, hevs⟩)

end

/-- With the fifth server gone the check that expects five peers fails. -/
theorem exec_checkHandler_missing : ∃ calls e,
    Exec ignoringCluster (checkHandler clusterInput) true calls (.throw e) true := by
  have hanswer : ∀ w op, ignoringCluster.answers w op (clusterAnswer w op).1 (clusterAnswer w op).2 :=
    fun _ _ => rfl
  have hfails : ((checkHandler clusterInput).run clusterAnswer true).1.isOk = false := by
    decide +kernel
  have hdown : ((checkHandler clusterInput).run clusterAnswer true).2 = true := by
    decide +kernel
  obtain ⟨calls, hx⟩ := Exec.of_run hanswer (checkHandler clusterInput) true
  rw [hdown] at hx
  generalize ((checkHandler clusterInput).run clusterAnswer true).1 = result at hx hfails
  cases result with
  | ok out => cases hfails
  | error e => exact ⟨calls, e, hx⟩

theorem retries_healthCheck (parameters : Context → Json → Option Json) (path : String)
    (attempts : Nat) (next : Option State) (n : Nat) (e : TaskError) :
    (healthCheck parameters path attempts next).retries n e = decide (n < attempts) := by
  simp [healthCheck, TaskState.retries, errorEquals]

/-- The check after a termination, tried `n` times in vain. -/
theorem clusterRun_final (n : Nat) (hn : n ≤ 6) : ∃ data entered before evs, ClusterRun evs
    (.at .checkClusterHealthFinal data n
      (itemStack entered before ⟨"10.0.0.1", "i-1"⟩ fiveNodes.tail [])) true := by
  induction n with
  | zero =>
      obtain ⟨entered, before, hgate⟩ := clusterRun_gate
      obtain ⟨calls, out, hcheck, -⟩ := @exec_checkHandler Bool ignoringCluster true
        [("cluster", .str "integration"), ("expectedPeers", .num 4)] (some "integration")
        "\"10.0.0.4:8300\"" (clusterPeers true) rfl rfl (fun _ => rfl) (fun _ => rfl)
        (by decide +kernel) (by decide)
      have hterminate := ClusterRun.task hgate rfl hcheck rfl
      have hwait := ClusterRun.task hterminate rfl (.call trivial rfl (Exec.refl _ _)) rfl
      exact ⟨_, entered, before, ClusterRun.goto hwait rfl⟩
  | succ n ih =>
      obtain ⟨data, entered, before, evs, hrun⟩ := ih (Nat.le_of_succ_le hn)
      obtain ⟨calls, e, hcheck⟩ := exec_checkHandler_missing
      have hlt : n < 6 := hn
      have hnext := hrun.tail (.task rfl (.throw hcheck))
      rw [TaskState.finish, retries_healthCheck, if_pos (decide_eq_true hlt)] at hnext
      exact ⟨data, entered, before, _, hnext⟩

/-- The first node is terminated, and the cluster does not get its fifth peer back. -/
theorem announced_at_end_unhealthy : ∃ evs c,
    Runs clusterVars (fun _ => False) ignoringCluster clusterInput evs c ∧ c.Ended ∧
    ¬ c.Succeeded ∧ NamesCluster clusterInput ∧ Announced evs ∧ Undelivered evs := by
  obtain ⟨data, entered, before, evs, hrun⟩ := clusterRun_final 6 (Nat.le_refl 6)
  obtain ⟨calls, e, hcheck⟩ := exec_checkHandler_missing
  have hraised := hrun.tail (.task rfl (.throw hcheck))
  rw [TaskState.finish, retries_healthCheck, if_neg (by decide)] at hraised
  have hnotified := hraised.tail (.task rfl (.ret (.call trivial rfl (Exec.refl _ true))))
  have hfailed := hnotified.tail (.goto rfl)
  have hruns : Runs clusterVars (fun _ => False) ignoringCluster clusterInput _ _ := ⟨_, _, hfailed⟩
  have hnames : NamesCluster clusterInput := ⟨.str "integration", "integration", rfl, rfl⟩
  rcases announced_at_end _ _ _ _ _ _ hruns trivial with
    ⟨hsucceeded, -, -⟩ | hannounced | ⟨-, hnot, -⟩
  · exact hsucceeded.elim
  · exact ⟨_, _, hruns, trivial, hannounced⟩
  · exact absurd hnames hnot

end AutoRecycle.Consul
