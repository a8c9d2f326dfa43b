/-
  AutoRecycle.InstanceRefreshOrder

  In which order the instance-refresh branch looks, cancels, starts and polls.

  Only one refresh of an ASG can be under way at a time.  The lambdas of the
  refresh are not part of the repository, so all that the machine can keep is the
  order in which it calls them: `Orderly` says what the record of the tasks before
  has to show when one of them is run.  `Known` says the same of every state, with
  what the data have of it.
-/
import AutoRecycle.Data.Split
import AutoRecycle.Messages

namespace AutoRecycle.InstanceRefresh

open AutoRecycle.Asl AutoRecycle.Data AutoRecycle.StateMachine
open Polls (Says)

-- ============================================================================
-- What the record shows
-- ============================================================================

/-- What a task of the state `s` has answered. -/
def answerOf (s : State) (ev : TaskRun State) : Option Json :=
  if ev.state = s then
    match ev.answer with
    | .ok out => some out
    | .error _ => none
  else none

/-- The answers of the looks before the start. -/
def looks (evs : List (TaskRun State)) : List Json := evs.filterMap (answerOf .monitorInstanceRefreshStatus)

/-- The answers of the starts. -/
def starts (evs : List (TaskRun State)) : List Json := evs.filterMap (answerOf .instanceRefreshStart)

/-- The reply says that a refresh can be cancelled. -/
def Cancellable (out : Json) : Prop := Says "Pending" out ∨ Says "InProgress" out

/-- The reply says that a refresh is under way. -/
def UnderWay (out : Json) : Prop := Cancellable out ∨ Says "Cancelling" out

/-- The task `ev` of an execution, after the tasks `pre`. -/
structure Orderly (tf : TfVars) (pre : List (TaskRun State)) (ev : TaskRun State) : Prop where
  /-- What is cancelled is what was seen last. -/
  cancel : ev.state = .instanceRefreshCancel →
    starts pre = [] ∧ (looks pre).getLast? = some ev.input ∧ Cancellable ev.input
  /-- Nothing is started while a refresh is under way, and nothing twice. -/
  start : ev.state = .instanceRefreshStart →
    starts pre = [] ∧ ∃ out, (looks pre).getLast? = some out ∧ ¬ UnderWay out
  /-- What is polled is what was started. -/
  poll : ev.state = .monitorInstanceRefreshProgress → ∃ out id, starts pre = [out] ∧
    out.get? ["instance_refresh_id"] = some id ∧ (startOutput tf ≠ statusOutput tf → ev.input = out)

-- ============================================================================
-- The invariant
-- ============================================================================

/-- Nothing is started yet, and the last look has shown `out`. -/
def Looked (evs : List (TaskRun State)) (out : Json) : Prop :=
  starts evs = [] ∧ (looks evs).getLast? = some out

/-- The refresh that was started, and where the data have it. -/
def Started (tf : TfVars) (evs : List (TaskRun State)) (data : Json) : Prop :=
  ∃ out id, starts evs = [out] ∧ out.get? ["instance_refresh_id"] = some id ∧
    (startOutput tf ≠ statusOutput tf → data.get? [startOutput tf] = some out)

/-- What is known in the states of the branch. -/
def Known (tf : TfVars) (evs : List (TaskRun State)) : Cfg State → Prop
  | .at .chooseRecycleStrategy _ _ => evs = []
  | .at .monitorInstanceRefreshStatus _ _ => starts evs = []
  | .at .instanceRefreshStatus data _ => ∃ out, Looked evs out ∧ data.get? [statusOutput tf] = some out
  | .at .instanceRefreshCancel data _ =>
      ∃ out, Looked evs out ∧ data.get? [statusOutput tf] = some out ∧ Cancellable out
  | .at .waitForInstanceRefreshStatus _ _ => starts evs = []
  | .at .recordInstanceRefreshStatusState _ _ => starts evs = []
  | .at .instanceRefresh _ _ => ∃ out, Looked evs out ∧ ¬ UnderWay out
  | .at .slackMessageInstanceRefresh _ _ => ∃ out, Looked evs out ∧ ¬ UnderWay out
  | .at .instanceRefreshStart _ _ => ∃ out, Looked evs out ∧ ¬ UnderWay out
  | .at .wasARefreshStarted data _ => ∃ out, starts evs = [out] ∧ data.get? [startOutput tf] = some out
  | .at .monitorInstanceRefreshProgress data _ => Started tf evs data
  | .at .waitForInstanceRefresh data _ => Started tf evs data
  | .at .isInstanceRefreshComplete data _ => Started tf evs data
  | _ => True

/-- The states of the branch. -/
def branchStates : List State :=
  [.monitorInstanceRefreshStatus, .instanceRefreshStatus, .instanceRefreshCancel,
    .waitForInstanceRefreshStatus, .recordInstanceRefreshStatusState, .instanceRefresh,
    .slackMessageInstanceRefresh, .instanceRefreshStart, .wasARefreshStarted,
    .monitorInstanceRefreshProgress, .waitForInstanceRefresh, .isInstanceRefreshComplete]

section
variable {tf : TfVars} {evs : List (TaskRun State)} {s s' : State} {data data' input out : Json} {n : Nat}
  {c : Cfg State} {t : Task State Resource} {r : Except TaskError Json}

/-- Outside nothing is known. -/
theorem known_of_not_branch (hs : s ∉ branchStates) (hfirst : s ≠ .chooseRecycleStrategy) :
    Known tf evs (.at s data n) := by
  cases s <;> trivial

/-- The branch has one entrance. -/
theorem targets_not_branch (hs : s ∉ branchStates) (hfirst : s ≠ .chooseRecycleStrategy) :
    ∀ s' ∈ (autoRecycle tf s).targets, s' ∉ branchStates := by
  cases s <;> first
    | exact absurd rfl hfirst
    | exact absurd hs (by decide)
    | simp [autoRecycle, StateDef.targets, StateDef.onward, Task.targets, lambdaTask, slackMessage,
        branchStates]

/-- Nothing leads back to the beginning. -/
theorem targets_ne_first : ∀ s' ∈ (autoRecycle tf s).targets, s' ≠ .chooseRecycleStrategy := by
  cases s <;> simp [autoRecycle, StateDef.targets, StateDef.onward, Task.targets, lambdaTask, slackMessage]

/-- Where the Choice after a look leads, with the status that it reads. -/
theorem status_cases (hread : data.get? [statusOutput tf, "Status"] = out.get? ["Status"])
    (hs : (autoRecycle tf .instanceRefreshStatus).start data = .goto c) :
    (¬ UnderWay out ∧ (c = .at .instanceRefresh data 0 ∨ c = .at .instanceRefreshStart data 0)) ∨
      (Cancellable out ∧ c = .at .instanceRefreshCancel data 0) ∨
      c = .at .waitForInstanceRefreshStatus data 0 := by
  simp only [autoRecycle, StateDef.start, choose, Cond.eval, hread, Move.goto.injEq] at hs
  subst hs
  simp only [UnderWay, Cancellable, Says]
  cases out.get? ["Status"] with
  | none => cases data.get? checkedPath <;> simp
  | some v =>
      cases v with
      | str status =>
          by_cases hpending : status = "Pending"
          · simp [hpending]
          by_cases hprogress : status = "InProgress"
          · simp [hprogress]
          by_cases hcancelling : status = "Cancelling"
          · simp [hcancelling]
          simp [hpending, hprogress, hcancelling]
      | _ => simp

theorem known_of_ended (h : c.Ended) : Known tf evs c := by
  cases c with
  | «at» => exact h.elim
  | _ => trivial

/-- A state that goes on by itself to one next state. -/
theorem known_of_onward (hs : (autoRecycle tf s).start data = .goto c)
    (h : ∀ s' ∈ (autoRecycle tf s).onward, ∀ data', Known tf evs (.at s' data' 0)) : Known tf evs c := by
  rcases StateDef.goto_leadsTo hs with ⟨s', hmem, data', rfl⟩ | hended
  · exact h s' hmem data'
  · exact known_of_ended hended

/-- A state outside goes on outside. -/
theorem known_outside (hs : s ∉ branchStates) (hfirst : s ≠ .chooseRecycleStrategy)
    (hc : LeadsTo (autoRecycle tf s).targets c) : Known tf evs c := by
  rcases hc with ⟨s', hmem, data', rfl⟩ | hended
  · exact known_of_not_branch (targets_not_branch hs hfirst s' hmem) (targets_ne_first s' hmem)
  · exact known_of_ended hended

/-- What is read below a field. -/
theorem get?_below {key : String} {path : Path} (h : data.get? [key] = some out) :
    data.get? (key :: path) = out.get? path := by
  rw [Json.get?_cons] at h ⊢
  cases hfield : data.field? key with
  | none =>
      rw [hfield] at h
      cases h
  | some v =>
      rw [hfield] at h
      cases h
      rfl

/-- A state that goes on by itself. -/
theorem Known.goto (h : Known tf evs (.at s data n))
    (hs : (autoRecycle tf s).start data = .goto c) : Known tf evs c := by
  have hleads := StateDef.goto_leadsTo hs
  cases s with
  | chooseRecycleStrategy =>
      obtain rfl : evs = [] := h
      refine known_of_onward hs fun s' hmem data' => ?_
      simp only [autoRecycle, StateDef.onward, Option.toList_some, List.map_cons, List.map_nil,
        List.singleton_append, List.mem_cons, List.not_mem_nil, or_false] at hmem
      rcases hmem with rfl | rfl | rfl | rfl
      · trivial
      · trivial
      · trivial
      · rfl
  | instanceRefreshStatus =>
      obtain ⟨out, hlooked, hread⟩ := h
      rcases status_cases (get?_below hread) hs with ⟨hnot, rfl | rfl⟩ | ⟨hcancellable, rfl⟩ | rfl
      · exact ⟨out, hlooked, hnot⟩
      · exact ⟨out, hlooked, hnot⟩
      · exact ⟨out, hlooked, hread, hcancellable⟩
      · exact hlooked.1
  | waitForInstanceRefreshStatus =>
      cases hs
      exact h
  | recordInstanceRefreshStatusState =>
      refine known_of_onward hs fun s' hmem data' => ?_
      obtain rfl := List.mem_singleton.mp hmem
      exact h
  | instanceRefresh =>
      refine known_of_onward hs fun s' hmem data' => ?_
      obtain rfl := List.mem_singleton.mp hmem
      exact h
  | wasARefreshStarted =>
      obtain ⟨out, hstarts, hread⟩ := h
      have hid := @get?_below data out (startOutput tf) ["instance_refresh_id"] hread
      simp only [autoRecycle, StateDef.start, choose, Cond.eval, hid, Move.goto.injEq] at hs
      subst hs
      cases hid : out.get? ["instance_refresh_id"] with
      | none => trivial
      | some id => exact ⟨out, id, hstarts, hid, fun _ => hread⟩
  | waitForInstanceRefresh =>
      cases hs
      exact h
  | isInstanceRefreshComplete =>
      obtain ⟨-, rfl⟩ | ⟨-, rfl⟩ | ⟨-, rfl⟩ | ⟨-, rfl | rfl⟩ := isComplete_cases hs
      · trivial
      · trivial
      · trivial
      · exact h
      · trivial
  | monitorInstanceRefreshStatus | instanceRefreshCancel | slackMessageInstanceRefresh
  | instanceRefreshStart | monitorInstanceRefreshProgress =>
      exact known_of_onward hs fun s' hmem => absurd hmem List.not_mem_nil
  | _ => exact known_outside (by decide) (by decide) (hleads.mono (StateDef.onward_subset _))

-- ============================================================================
-- After a task
-- ============================================================================

theorem starts_append (ev : TaskRun State) : starts (evs ++ [ev]) =
    starts evs ++ (answerOf .instanceRefreshStart ev).toList := by
  rw [starts, List.filterMap_append, List.filterMap_cons, List.filterMap_nil]
  cases answerOf .instanceRefreshStart ev <;> rfl

theorem looks_append (ev : TaskRun State) : looks (evs ++ [ev]) =
    looks evs ++ (answerOf .monitorInstanceRefreshStatus ev).toList := by
  rw [looks, List.filterMap_append, List.filterMap_cons, List.filterMap_nil]
  cases answerOf .monitorInstanceRefreshStatus ev <;> rfl

theorem answerOf_ne (hs : s' ≠ s) : answerOf s ⟨s', n, input, r⟩ = none := if_neg hs

theorem answerOf_error (s : State) (e : TaskError) : answerOf s ⟨s', n, input, .error e⟩ = none := by
  rw [answerOf]
  split <;> rfl

theorem answerOf_ok : answerOf s ⟨s, n, input, .ok out⟩ = some out := if_pos rfl

theorem Looked.append {ev : TaskRun State} (h : Looked evs out)
    (hstart : answerOf .instanceRefreshStart ev = none)
    (hlook : answerOf .monitorInstanceRefreshStatus ev = none) : Looked (evs ++ [ev]) out := by
  rw [Looked, starts_append, looks_append, hstart, hlook, Option.toList_none, List.append_nil,
    List.append_nil]
  exact h

theorem Started.append {ev : TaskRun State} (h : Started tf evs data)
    (hstart : answerOf .instanceRefreshStart ev = none) : Started tf (evs ++ [ev]) data := by
  rw [Started, starts_append, hstart, Option.toList_none, List.append_nil]
  exact h

theorem starts_append_nil {ev : TaskRun State} (h : starts evs = [])
    (hstart : answerOf .instanceRefreshStart ev = none) : starts (evs ++ [ev]) = [] := by
  rw [starts_append, h, hstart]
  rfl

/-- A task that has failed and is done again. -/
theorem Known.again (h : Known tf evs (.at s data n)) (ht : autoRecycle tf s = .task t) (e : TaskError) :
    Known tf (evs ++ [⟨s, n, input, .error e⟩]) (.at s data (n + 1)) := by
  have hnone : ∀ s', answerOf s' ⟨s, n, input, .error e⟩ = none := fun s' => answerOf_error s' e
  cases s with
  | monitorInstanceRefreshStatus => exact starts_append_nil h (hnone _)
  | instanceRefreshCancel =>
      obtain ⟨out, hlooked, hrest⟩ := h
      exact ⟨out, hlooked.append (hnone _) (hnone _), hrest⟩
  | slackMessageInstanceRefresh | instanceRefreshStart =>
      obtain ⟨out, hlooked, hrest⟩ := h
      exact ⟨out, hlooked.append (hnone _) (hnone _), hrest⟩
  | monitorInstanceRefreshProgress => exact Started.append h (hnone _)
  | _ => trivial

/-- Every task that fails for good leaves the branch. -/
theorem known_of_leadsTo (next : State) (ht : t.targets = [next, .lambdaError])
    (hcatch : next ∉ t.catchers.map Catcher.next) (hne : next ≠ s)
    (hleads : LeadsTo t.targets (t.finish s data n r))
    (hok : ∀ out data', r = .ok out → Json.put? t.resultPath out data = some data' →
      Known tf evs (.at next data' 0)) : Known tf evs (t.finish s data n r) := by
  rcases hleads with ⟨s', hmem, data', hc⟩ | hended
  · rw [hc]
    rw [ht] at hmem
    rcases List.mem_pair.mp hmem with rfl | rfl
    · obtain ⟨out, rfl, hput⟩ := Task.ok_of_finish hc hne hcatch
      exact hok out data' rfl hput
    · trivial
  · exact known_of_ended hended

/-- A task that has been answered. -/
theorem Known.task (h : Known tf evs (.at s data n))
    (hs : (autoRecycle tf s).start data = .invoke t input) (r : Except TaskError Json) :
    Known tf (evs ++ [⟨s, n, input, r⟩]) (t.finish s data n r) := by
  have ht := StateDef.eq_task_of_invoke hs
  rcases t.finish_leadsTo s data n r with ⟨e, rfl, heq, -⟩ | hleads
  · rw [heq]
    exact h.again ht e
  have hleads' : LeadsTo (autoRecycle tf s).targets (t.finish s data n r) := by
    rw [ht]
    exact hleads
  cases s with
  | monitorInstanceRefreshStatus =>
      cases ht
      refine known_of_leadsTo .instanceRefreshStatus rfl (by simp [lambdaTask]) (by decide) hleads ?_
      rintro out data' rfl hput
      refine ⟨out, ⟨starts_append_nil h (answerOf_ne (by decide)), ?_⟩, Json.get?_put? hput⟩
      rw [looks_append, answerOf_ok, Option.toList_some, List.getLast?_concat]
  | instanceRefreshCancel =>
      cases ht
      obtain ⟨out, hlooked, -⟩ := h
      refine known_of_leadsTo .waitForInstanceRefreshStatus rfl (by simp [lambdaTask]) (by decide) hleads ?_
      exact fun _ _ _ _ => starts_append_nil hlooked.1 (answerOf_ne (by decide))
  | slackMessageInstanceRefresh =>
      cases ht
      obtain ⟨out, hlooked, hnot⟩ := h
      have hlooked' : Looked (evs ++ [⟨.slackMessageInstanceRefresh, n, input, r⟩]) out :=
        hlooked.append (answerOf_ne (by decide)) (answerOf_ne (by decide))
      -- the message goes on to the same state whether it was sent or not
      rcases hleads with ⟨s', hmem, data', hc⟩ | hended
      · rw [hc]
        obtain rfl | rfl := List.mem_pair.mp hmem <;> exact ⟨out, hlooked', hnot⟩
      · exact known_of_ended hended
  | instanceRefreshStart =>
      cases ht
      obtain ⟨_, hlooked, -⟩ := h
      refine known_of_leadsTo .wasARefreshStarted rfl (by simp [lambdaTask]) (by decide) hleads ?_
      rintro out data' rfl hput
      refine ⟨out, ?_, Json.get?_put? hput⟩
      rw [starts_append, hlooked.1, answerOf_ok]
      rfl
  | monitorInstanceRefreshProgress =>
      cases ht
      obtain ⟨out, id, hstarts, hid, hread⟩ := h
      refine known_of_leadsTo .isInstanceRefreshComplete rfl (by simp) (by decide) hleads ?_
      rintro answer data' rfl hput
      have hstarted : Started tf evs data' :=
        ⟨out, id, hstarts, hid, fun hne => by rw [Json.get?_put?_ne hput hne, hread hne]⟩
      exact hstarted.append (answerOf_ne (by decide))
  | _ => first | exact known_outside (by decide) (by decide) hleads' | cases ht

-- ============================================================================
-- The order
-- ============================================================================

/-- What holds when a task is run. -/
theorem Known.orderly (h : Known tf evs (.at s data n))
    (hs : (autoRecycle tf s).start data = .invoke t input) : Orderly tf evs ⟨s, n, input, r⟩ := by
  have hinput : ∀ {t' : Task State Resource}, autoRecycle tf s = .task t' →
      data.get? t'.inputPath = some input := by
    intro t' ht
    rw [ht, StateDef.start] at hs
    split at hs
    · rename_i hget
      cases hs
      exact hget
    · cases hs
  constructor
  · rintro rfl
    obtain ⟨out, hlooked, hread, hcancellable⟩ := h
    cases hread.symm.trans (hinput rfl)
    exact ⟨hlooked.1, hlooked.2, hcancellable⟩
  · rintro rfl
    obtain ⟨out, hlooked, hnot⟩ := h
    exact ⟨hlooked.1, out, hlooked.2, hnot⟩
  · rintro rfl
    obtain ⟨out, id, hstarts, hid, hread⟩ := h
    refine ⟨out, id, hstarts, hid, fun hne => ?_⟩
    cases (hread hne).symm.trans (hinput rfl)
    rfl

end

/-- Every execution looks, cancels, starts and polls in this order, whatever the
    lambdas answer. -/
theorem refresh_orderly {W : Type} (tf : TfVars) (T : Tasks Resource W) (payload : Json) (w : W)
    (evs : List (TaskRun State)) (y : Cfg State × W)
    (h : Trail (autoRecycle tf) T (.at startAt payload 0, w) evs y) :
    ∀ pre ev post, evs = pre ++ ev :: post → Orderly tf pre ev := by
  have hboth : Known tf evs y.1 ∧ ∀ pre ev post, evs = pre ++ ev :: post → Orderly tf pre ev := by
    refine h.invariant (I := fun evs c =>
      Known tf evs c ∧ ∀ pre ev post, evs = pre ++ ev :: post → Orderly tf pre ev) ⟨rfl, ?_⟩ ?_ ?_
    · intro pre ev post hnil
      simp at hnil
    · rintro evs s data n c ⟨hknown, horderly⟩ hs
      exact ⟨hknown.goto hs, horderly⟩
    · rintro evs s data n t input r ⟨hknown, horderly⟩ hs
      exact ⟨hknown.task hs r, forall_split_append horderly (hknown.orderly hs)⟩
  exact hboth.2

/-- A refresh is under way and is cancelled, and another one is started. -/
theorem refresh_orderly_restarted : ∃ evs y,
    Trail (autoRecycle refreshVars) RefreshTasks (.at startAt refreshPayload 0, {}) evs y ∧
    y.1.Succeeded ∧ (∃ ev ∈ evs, ev.state = .instanceRefreshCancel) ∧
    (∃ ev ∈ evs, ev.state = .instanceRefreshStart) ∧
    (∃ ev ∈ evs, ev.state = .monitorInstanceRefreshProgress) ∧
    ∀ pre ev post, evs = pre ++ ev :: post → Orderly refreshVars pre ev := by
  have hbegin : Trail (autoRecycle refreshVars) RefreshTasks (.at startAt refreshPayload 0, {}) []
      (.at startAt refreshPayload 0, {}) := .refl
  have hchosen := hbegin.goto rfl
  have hlooked := hchosen.task rfl (@RefreshTasks.external .getInstanceRefreshStatus _ _
    (.ok (.obj [("Status", .str "InProgress")])) (by decide))
  have hdecided := hlooked.goto rfl
  have hcancelled := hdecided.task rfl (@RefreshTasks.external .cancelInstanceRefresh _ _
    (.ok (.obj [])) (by decide))
  have hwaited := hcancelled.goto rfl
  have hrecorded := hwaited.goto rfl
  have hgone := hrecorded.task rfl (@RefreshTasks.external .getInstanceRefreshStatus _ _
    (.ok (.obj [])) (by decide))
  have hfree := hgone.goto rfl
  have hstarted := hfree.task rfl (@RefreshTasks.external .startInstanceRefresh _ _
    (.ok (.obj [("instance_refresh_id", .str "1")])) (by decide))
  have hpolling := hstarted.goto rfl
  have hpolled := hpolling.task rfl (@RefreshTasks.external .getInstanceRefreshStatus _ _
    (.ok (.obj [("Status", .str "Successful")])) (by decide))
  have hcomplete := hpolled.goto rfl
  have hmessage := hcomplete.goto rfl
  have hsent := hmessage.task rfl .slack
  have hstatus := hsent.goto rfl
  have h := hstatus.goto rfl
  exact ⟨_, _, h, trivial, by simp, by simp, by simp, refresh_orderly _ _ _ _ _ _ h⟩
end AutoRecycle.InstanceRefresh
