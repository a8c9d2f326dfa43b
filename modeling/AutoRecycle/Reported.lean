/-
  AutoRecycle.Reported

  No execution that the start lambda starts is lost, save by the poll of an
  instance refresh.

  A state that does not find a field ends the execution with an error of the
  service, before the message at the end.  `needs` lists the fields that each
  state and the states after it read; the payload of the start lambda has those
  of the first state, and every answer of a lambda leaves those of the next one
  (`Fits`).  The one exception is "Monitor Instance Refresh Progress": its errors
  are caught in the place of the data, and its answer need not have a status.
-/
import AutoRecycle.InvokeStepfunctions.Accepted
import AutoRecycle.Messages
import AutoRecycle.Outputs

namespace AutoRecycle.Reported

open AutoRecycle.Asl AutoRecycle.Data AutoRecycle.Effect AutoRecycle.StateMachine
open AutoRecycle.LambdaErrors (LambdaTasks)
open AutoRecycle.Messages (Sent NoRefresh Where)
open AutoRecycle.ScaleAsg (InTime Looped)

/-- The tasks of `LambdaTasks`; the Slack lambda can fail, too. -/
inductive AnyTasks : Tasks Resource Unit where
  | lambda {r input answer} (h : LambdaTasks r input () answer ()) : AnyTasks r input () answer ()
  | slackFailed {input e} : AnyTasks .slackNotifications input () (.error e) ()

-- ============================================================================
-- What the states rely on
-- ============================================================================

/-- The fields that have to be there, for the state or for a later one. -/
def needs (tf : TfVars) : State → List Path
  | .chooseRecycleStrategy => [["component"], ["strategy"]]
  | .standardRecycle => [["component"]]
  | .slackMessageStart => [["component"], ["status"]]
  | .waitForCommencement => [["component"], ["status"]]
  | .monitorAutorecycling => [["component"], ["status"]]
  | .isAutorecyclingDone => [["component"], ["status"], ["recycle_success"], ["counter"]]
  | .waitForAutorecycle => [["component"], ["status"]]
  | .recycleSingleInstanceAsg => [["component"]]
  | .isFirstRun => [["component"], ["status"], ["recycle_success"], ["counter"]]
  | .slackMessageSingleInstanceAsg => [["component"], ["status"], ["recycle_success"], ["counter"]]
  | .waitForSingleInstanceAsgAutorecycle => [["component"], ["status"], ["recycle_success"], ["counter"]]
  | .isAutorecyclingSingleInstanceAsgDone => [["component"], ["status"], ["recycle_success"], ["counter"]]
  | .mongoRecycle => [["component"]]
  | .slackMessageMongo => [["component"], ["status"]]
  | .recycleMongoCluster => [["component"], ["status"]]
  | .mongoAutorecycleDecision => [["component"], ["status"], ["decision", "action"]]
  | .waitForMongoAutorecycle => [["component"], ["status"]]
  | .monitorInstanceRefreshStatus => [["component"]]
  | .instanceRefreshStatus => [["component"], [statusOutput tf]]
  | .instanceRefreshCancel => [["component"], [statusOutput tf]]
  | .waitForInstanceRefreshStatus => [["component"]]
  | .recordInstanceRefreshStatusState => [["component"]]
  | .instanceRefresh => [["component"]]
  | .slackMessageInstanceRefresh => [["component"]]
  | .instanceRefreshStart => [["component"]]
  | .wasARefreshStarted => [["component"], [startOutput tf]]
  | .monitorInstanceRefreshProgress => [["component"], [startOutput tf]]
  | .isInstanceRefreshComplete => [["component"], [startOutput tf], [statusOutput tf, "Status"]]
  | .waitForInstanceRefresh => [["component"], [startOutput tf]]
  | .successfulInstanceRefresh => [["component"]]
  | .failedInstanceRefresh => [["component"]]
  | .lambdaError => [["component"]]
  | .slackMessageEnd => [["status"]]
  | .status => [["status"]]
  | .fail => []
  | .success => []

/-- The counter of the in-out loop is a number, and low enough to go on. -/
def Counts : State → Json → Prop
  | .chooseRecycleStrategy, data => data.field? "counter" = none
  | .recycleSingleInstanceAsg, data => InTime data
  | .isFirstRun, data => ∃ n : Int, data.field? "counter" = some (.num n)
  | .slackMessageSingleInstanceAsg, data => ∃ n : Int, data.field? "counter" = some (.num n)
  | .waitForSingleInstanceAsgAutorecycle, data => ∃ n : Int, data.field? "counter" = some (.num n)
  | .isAutorecyclingSingleInstanceAsgDone, data => ∃ n : Int, data.field? "counter" = some (.num n)
  | _, _ => True

/-- The data have what the state and those after it read. -/
structure Fits (tf : TfVars) (s : State) (data : Json) : Prop where
  has : Has data (needs tf s)
  counts : Counts s data

/-- The last task was a poll, and it failed or its answer had no status. -/
def Lost (evs : List (TaskRun State)) : Prop :=
  ∃ pre ev, evs = pre ++ [ev] ∧ ev.state = .monitorInstanceRefreshProgress ∧
    ∀ out, ev.answer = .ok out → out.get? ["Status"] = none

/-- The data fit, or the execution is about to end for a lost poll. -/
def Safe (tf : TfVars) (evs : List (TaskRun State)) : Cfg State → Prop
  | .at s data _ => Fits tf s data ∨
      (Lost evs ∧ ∃ error cause, (autoRecycle tf s).start data = .goto (.failed error cause))
  | .succeeded _ => True
  | .failed error _ => error = "Fail" ∨ Lost evs

/-- The states that the counter matters to. -/
def countingStates : List State :=
  [.chooseRecycleStrategy, .recycleSingleInstanceAsg, .isFirstRun, .slackMessageSingleInstanceAsg,
    .waitForSingleInstanceAsgAutorecycle, .isAutorecyclingSingleInstanceAsgDone]

section
variable {tf : TfVars} {s next : State} {data v : Json} {n : Nat} {c : Cfg State}
  {rules : List (Cond × State)} {default : Option State}

theorem counts_of_not_counting (h : s ∉ countingStates) : Counts s data := by
  cases s <;> first
    | exact absurd (by decide) h
    | trivial

theorem output_ne {key : String} (name : String) (hkey : key.toList.getLast? ≠ some 't') :
    name ++ "-output" ≠ key := by
  rintro rfl
  refine hkey ?_
  rw [String.toList_append, List.getLast?_append]
  rfl

/-- The fields of an error and of a look are none that are needed. -/
theorem needs_other (tf : TfVars) (s : State) {key : String}
    (hkey : key ∈ ["error-info", "instance_refresh_status_state"]) :
    ∀ path ∈ needs tf s, path.head? ≠ some key := by
  simp only [List.mem_cons, List.not_mem_nil, or_false] at hkey
  have hlast : key.toList.getLast? ≠ some 't' := by
    rcases hkey with rfl | rfl <;> decide
  have hfixed : ∀ other ∈ ["component", "status", "strategy", "recycle_success", "counter", "decision"],
      other ≠ key := by
    rcases hkey with rfl | rfl <;> decide
  simp only [List.forall_mem_cons] at hfixed
  cases s <;> simp [needs, startOutput, statusOutput, output_ne, hlast, hfixed]

-- ============================================================================
-- The states that go on by themselves
-- ============================================================================

/-- The Choices read what is needed, and their targets need no more. -/
theorem choice_needs (hd : autoRecycle tf s = .choice rules default) :
    ∃ target, default = some target ∧
      (s ≠ .instanceRefreshStatus → rules.flatMap (fun rule => rule.1.reads) ⊆ needs tf s) ∧
      ∀ s' ∈ target :: rules.map Prod.snd, needs tf s' ⊆ needs tf s := by
  cases s <;> cases hd <;> refine ⟨_, rfl, ?_, ?_⟩ <;> simp [Cond.reads, needs]

/-- The status of a look is read only if it is there. -/
theorem choose_instanceRefreshStatus {target : State}
    (hd : autoRecycle tf .instanceRefreshStatus = .choice rules (some target)) :
    ∃ s' ∈ target :: rules.map Prod.snd, choose (some target) data rules = .at s' data 0 := by
  have hgoes : ∃ s', choose (some target) data rules = .at s' data 0 := by
    cases hd
    cases hstatus : data.get? [statusOutput tf, "Status"] with
    | none =>
        simp only [choose, Cond.eval, hstatus]
        cases data.get? checkedPath with
        | none => exact ⟨_, rfl⟩
        | some checked => exact ⟨_, rfl⟩
    | some v =>
        have hunchecked : ∀ b, (Cond.and (.isPresent [statusOutput tf, "Status"] false)
            (.isPresent checkedPath b)).eval data = some false := by
          intro b
          simp [Cond.eval, hstatus]
        have hread : ∀ text, ∃ b, (Cond.stringEquals [statusOutput tf, "Status"] text).eval data = some b :=
          fun text => ⟨_, by rw [Cond.eval, hstatus]; rfl⟩
        obtain ⟨pending, hpending⟩ := hread "Pending"
        obtain ⟨inProgress, hinProgress⟩ := hread "InProgress"
        obtain ⟨cancelling, hcancelling⟩ := hread "Cancelling"
        simp only [choose, hunchecked, hpending, hinProgress, hcancelling]
        cases pending <;> cases inProgress <;> cases cancelling <;> exact ⟨_, rfl⟩
  obtain ⟨s', heq⟩ := hgoes
  obtain ⟨s'', hs'', heq'⟩ | ⟨error, cause, heq'⟩ := choose_cases (some target) data rules
  · refine ⟨s'', ?_, heq'⟩
    rcases hs'' with hs'' | hs''
    · cases hs''
      exact List.mem_cons_self
    · exact List.mem_cons_of_mem _ hs''
  · cases heq.symm.trans heq'

/-- The counter matters inside the in-out loop only. -/
theorem onward_not_counting (h : s ∉ countingStates) :
    ∀ s' ∈ (autoRecycle tf s).onward, s' ∉ countingStates := by
  cases s <;> first
    | exact absurd (by decide) h
    | simp [autoRecycle, StateDef.onward, countingStates]

theorem counts_onward (hdone : s ≠ .isAutorecyclingSingleInstanceAsgDone) (h : Counts s data) :
    ∀ s' ∈ (autoRecycle tf s).onward, Counts s' data := by
  by_cases hcounting : s ∈ countingStates
  · simp only [countingStates, List.mem_cons, List.not_mem_nil, or_false, hdone] at hcounting
    rcases hcounting with rfl | rfl | rfl | rfl | rfl
    · simp only [autoRecycle, StateDef.onward, Option.toList_some, List.map_cons, List.map_nil,
        List.singleton_append, List.forall_mem_cons]
      exact ⟨trivial, .inl h, trivial, trivial, List.forall_mem_nil _⟩
    · exact List.forall_mem_nil _
    · simp only [autoRecycle, StateDef.onward, Option.toList_some, List.map_cons, List.map_nil,
        List.singleton_append, List.forall_mem_cons]
      exact ⟨h, h, List.forall_mem_nil _⟩
    · exact List.forall_mem_nil _
    · simp only [autoRecycle, StateDef.onward, List.forall_mem_cons]
      exact ⟨h, List.forall_mem_nil _⟩
  · exact fun s' hs' => counts_of_not_counting (onward_not_counting hcounting s' hs')

/-- The Choice at the end of the in-out loop goes back with a counter that is low
    enough. -/
theorem Fits.goto_isDone (h : Fits tf .isAutorecyclingSingleInstanceAsgDone data)
    (hs : (autoRecycle tf .isAutorecyclingSingleInstanceAsgDone).start data = .goto c) :
    ∃ s', c = .at s' data 0 ∧ Fits tf s' data := by
  obtain ⟨n, hn⟩ := h.counts
  obtain ⟨b, hsuccess⟩ := @Cond.eval_of_has data (.booleanEquals ["recycle_success"] true)
    (h.has.subset (by simp [Cond.reads, needs]))
  have hcounter : (Cond.numericGreaterThan ["counter"] 20).eval data = some (decide (n > 20)) := by
    rw [Cond.eval, Json.get?_cons, hn]
    rfl
  have hend : Fits tf .slackMessageEnd data :=
    ⟨h.has.subset (by simp [needs]), counts_of_not_counting (by decide)⟩
  simp only [autoRecycle, StateDef.start, choose, hsuccess, hcounter, Move.goto.injEq] at hs
  subst hs
  cases b with
  | true => exact ⟨.slackMessageEnd, rfl, hend⟩
  | false =>
      by_cases hmore : n > 20
      · rw [decide_eq_true hmore]
        exact ⟨.slackMessageEnd, rfl, hend⟩
      · rw [decide_eq_false hmore]
        have hintime : InTime data := .inr ⟨n, by omega, hn⟩
        exact ⟨.recycleSingleInstanceAsg, rfl, h.has.subset (by simp [needs]), hintime⟩

theorem wait_needs {seconds : Nat} (hd : autoRecycle tf s = .wait seconds next) :
    needs tf next ⊆ needs tf s := by
  cases s <;> cases hd <;> simp [needs]

/-- A Task takes the whole data, or a field that is needed. -/
theorem input_of_task {t : Task State Resource} (hd : autoRecycle tf s = .task t)
    (h : Has data (needs tf s)) : ∃ input, data.get? t.inputPath = some input := by
  have hpath : t.inputPath = [] ∨ t.inputPath ∈ needs tf s := by
    cases s <;> cases hd <;> simp [needs, lambdaTask, slackMessage]
  rcases hpath with hnil | hmem
  · exact ⟨data, by rw [hnil, Json.get?_nil]⟩
  · exact h _ hmem

/-- The Pass states write a message, or a field of their own. -/
theorem pass_cases {result : Json → Option Json} {path : Path}
    (hd : autoRecycle tf s = .pass result path next) (h : Has data (needs tf s)) :
    next ∉ countingStates ∧ ∃ written, result data = some written ∧
      ((path = [] ∧ HasKeys ["component", "status"] written ∧
          needs tf next ⊆ [["component"], ["status"]]) ∨
        (path = ["instance_refresh_status_state"] ∧ needs tf next ⊆ needs tf s)) := by
  have hcomponent : ["component"] ∈ needs tf s → ∃ component, data.get? ["component"] = some component :=
    h ["component"]
  have hmessage : ∀ {status channels content}, ["component"] ∈ needs tf s → ∃ written,
      messageParameters tf status channels content data = some written ∧
        HasKeys ["component", "status"] written := by
    intro status channels content hneeds
    obtain ⟨component, hc⟩ := hcomponent hneeds
    exact ⟨_, by rw [messageParameters, hc]; rfl, .cons ⟨_, rfl⟩ (.cons ⟨_, rfl⟩ nofun)⟩
  cases s with
  | mongoRecycle =>
      cases hd
      obtain ⟨written, hwritten, hkeys⟩ := hmessage (by simp [needs])
      exact ⟨by decide, written, hwritten, .inl ⟨rfl, hkeys, by simp [needs]⟩⟩
  | instanceRefresh =>
      cases hd
      obtain ⟨written, hwritten, hkeys⟩ := hmessage (by simp [needs])
      exact ⟨by decide, written, hwritten, .inl ⟨rfl, hkeys, by simp [needs]⟩⟩
  | successfulInstanceRefresh =>
      cases hd
      obtain ⟨written, hwritten, hkeys⟩ := hmessage (by simp [needs])
      exact ⟨by decide, written, hwritten, .inl ⟨rfl, hkeys, by simp [needs]⟩⟩
  | failedInstanceRefresh =>
      cases hd
      obtain ⟨written, hwritten, hkeys⟩ := hmessage (by simp [needs])
      exact ⟨by decide, written, hwritten, .inl ⟨rfl, hkeys, by simp [needs]⟩⟩
  | lambdaError =>
      cases hd
      obtain ⟨component, hc⟩ := hcomponent (by simp [needs])
      refine ⟨by decide, _, by rw [lambdaErrorParameters, hc]; rfl, .inl ⟨rfl, ?_, by simp [needs]⟩⟩
      exact .cons ⟨_, rfl⟩ (.cons ⟨_, rfl⟩ nofun)
  | recordInstanceRefreshStatusState =>
      cases hd
      exact ⟨by decide, _, rfl, .inr ⟨rfl, by simp [needs]⟩⟩
  | _ => cases hd

/-- With data that fit a state that goes on by itself goes on to one that they fit. -/
theorem Fits.goto (h : Fits tf s data) (hs : (autoRecycle tf s).start data = .goto c) :
    (∃ s' data', c = .at s' data' 0 ∧ Fits tf s' data') ∨ (∃ out, c = .succeeded out) ∨
      ∃ cause, c = .failed "Fail" cause := by
  by_cases hdone : s = .isAutorecyclingSingleInstanceAsgDone
  · subst hdone
    obtain ⟨s', hc, hfits⟩ := h.goto_isDone hs
    exact .inl ⟨s', data, hc, hfits⟩
  have hcounts := @counts_onward tf s data hdone h.counts
  rw [StateDef.onward.eq_def] at hcounts
  cases hd : autoRecycle tf s with
  | task t =>
      obtain ⟨input, hinput⟩ := input_of_task hd h.has
      rw [hd, StateDef.start, hinput] at hs
      cases hs
  | choice rules default =>
      obtain ⟨target, rfl, hreads, htargets⟩ := choice_needs hd
      rw [hd] at hs hcounts
      cases hs
      obtain ⟨s', hs', hchoose⟩ : ∃ s' ∈ target :: rules.map Prod.snd,
          choose (some target) data rules = .at s' data 0 := by
        by_cases hlook : s = .instanceRefreshStatus
        · subst hlook
          exact choose_instanceRefreshStatus hd
        · exact choose_of_has (h.has.subset (hreads hlook))
      exact .inl ⟨s', data, hchoose, h.has.subset (htargets s' hs'), hcounts s' hs'⟩
  | wait seconds next =>
      rw [hd] at hs hcounts
      cases hs
      exact .inl ⟨next, data, rfl, h.has.subset (wait_needs hd), hcounts next (List.mem_singleton_self _)⟩
  | pass result path next =>
      obtain ⟨hnext, written, hwritten, ⟨rfl, hkeys, hsub⟩ | ⟨rfl, hsub⟩⟩ := pass_cases hd h.has
      · rw [hd, StateDef.start, hwritten] at hs
        cases hs
        exact .inl ⟨next, written, rfl, Has.subset hkeys hsub, counts_of_not_counting hnext⟩
      · rw [hd, StateDef.start, hwritten] at hs
        cases hs
        have hcomponent := h.has ["component"] (by cases s <;> cases hd; simp [needs])
        obtain ⟨data', hput, hgo⟩ := putAndGo_field hcomponent "instance_refresh_status_state" written next
        refine .inl ⟨next, data', hgo, ?_, counts_of_not_counting hnext⟩
        exact (h.has.subset hsub).put hput (fun path hpath => needs_other tf s (by simp) path (hsub hpath))
  | succeed =>
      rw [hd] at hs
      cases hs
      exact .inr (.inl ⟨data, rfl⟩)
  | fail error cause =>
      rw [hd] at hs
      cases hs
      cases s <;> cases hd
      exact .inr (.inr ⟨_, rfl⟩)

-- ============================================================================
-- The tasks
-- ============================================================================

theorem catcher_needs {t : Task State Resource} {catcher : Catcher State}
    (hd : autoRecycle tf s = .task t) (hcatcher : catcher ∈ t.catchers) :
    needs tf catcher.next ⊆ needs tf s := by
  cases s <;> cases hd <;> rw [List.mem_singleton.mp hcatcher] <;> simp [needs]

theorem counts_caught {t : Task State Resource} {catcher : Catcher State} {data' : Json}
    (hd : autoRecycle tf s = .task t) (hcatcher : catcher ∈ t.catchers) (h : Counts s data)
    (hsame : data'.field? "counter" = data.field? "counter") : Counts catcher.next data' := by
  cases s with
  | slackMessageSingleInstanceAsg =>
      cases hd
      rw [List.mem_singleton.mp hcatcher]
      obtain ⟨n, hn⟩ := h
      exact ⟨n, hsame.trans hn⟩
  | _ => cases hd <;> rw [List.mem_singleton.mp hcatcher] <;> trivial

/-- A failed task is done again, or caught with the error beside the data; but the
    error of a poll takes their place. -/
theorem Fits.error {t : Task State Resource} {input : Json} {evs : List (TaskRun State)} (e : TaskError)
    (h : Fits tf s data) (hd : autoRecycle tf s = .task t) :
    Safe tf (evs ++ [⟨s, n, input, .error e⟩]) (t.finish s data n (.error e)) := by
  rw [Task.finish]
  split
  · exact .inl h
  obtain ⟨catcher, hfind⟩ := Messages.catchesAll_of_task hd e
  have hcatcher := List.mem_of_find?_eq_some hfind
  rw [hfind]
  dsimp only
  rcases LambdaErrors.catcher_cases hd hcatcher with ⟨-, hpath⟩ | ⟨hpoll, hpath, hnext⟩
  · obtain ⟨key, hkey⟩ : ∃ key, [key] ∈ needs tf s := by
      cases s <;> cases hd <;> exact ⟨_, List.mem_cons_self⟩
    obtain ⟨data', hput, hgo⟩ := putAndGo_field (h.has _ hkey) "error-info" e.output catcher.next
    rw [hpath, hgo]
    have hsub := catcher_needs hd hcatcher
    refine .inl ⟨(h.has.subset hsub).put hput fun path hmem => needs_other tf s (by simp) path (hsub hmem), ?_⟩
    exact counts_caught hd hcatcher h.counts (field?_of_put? hput (by decide))
  · rw [hpath, hnext]
    have hlost : Lost (evs ++ [⟨s, n, input, .error e⟩]) := by
      refine ⟨evs, _, rfl, hpoll, fun out hout => ?_⟩
      cases hout
    exact .inr ⟨hlost, "States.ParameterPathFailure", "invalid path", rfl⟩

variable {out : Json} {r : Resource} {t : Task State Resource} {evs : List (TaskRun State)}

/-- The Slack lambda returns the data, and those fit the next state. -/
theorem Fits.slack (h : Fits tf s data) (hd : autoRecycle tf s = .task (slackMessage next)) :
    Fits tf next data := by
  cases s with
  | slackMessageSingleInstanceAsg => cases hd; exact ⟨h.has, h.counts⟩
  | slackMessageStart => cases hd; exact ⟨h.has, trivial⟩
  | slackMessageMongo => cases hd; exact ⟨h.has, trivial⟩
  | slackMessageInstanceRefresh => cases hd; exact ⟨h.has, trivial⟩
  | slackMessageEnd => cases hd; exact ⟨h.has, trivial⟩
  | _ => cases hd

/-- The output of a recycling lambda fits the next state. -/
theorem Fits.recycler (h : Fits tf s data) (hd : autoRecycle tf s = .task (lambdaTask r [] [] next))
    (hT : LambdaTasks r data () (.ok out) ()) : Fits tf next out := by
  cases s with
  | standardRecycle =>
      cases hd
      cases hT with
      | autorecycle hrun =>
          have hkeys := hrun.returns (Standard.returns_autorecycleHandler_keys data)
          exact ⟨hkeys, trivial⟩
      | refresh hr => exact absurd hr (by decide)
  | monitorAutorecycling =>
      cases hd
      cases hT with
      | monitor hrun =>
          have hkeys := hrun.returns (@Standard.returns_monitorHandler_keys ["component", "status"] _ h.has)
          exact ⟨Has.subset hkeys (by simp [needs]), trivial⟩
      | refresh hr => exact absurd hr (by decide)
  | recycleMongoCluster =>
      cases hd
      cases hT with
      | mongo hrun =>
          obtain ⟨hkeys, haction⟩ := hrun.returns (@Mongo.returns_lambdaHandler_keys ["component", "status"] _ h.has)
          exact ⟨(Has.cons haction hkeys).subset (by simp [needs]), trivial⟩
      | refresh hr => exact absurd hr (by decide)
  | recycleSingleInstanceAsg =>
      cases hd
      cases hT with
      | scaleAsg hrun =>
          obtain ⟨hkeys, n, hn⟩ := hrun.returns (ScaleAsg.returns_lambdaHandler_looped h.counts)
          have hcounter : ∃ v, out.get? ["counter"] = some v := ⟨.num n, by rw [Json.get?_cons, hn]; rfl⟩
          exact ⟨(Has.cons hcounter hkeys).subset (by simp [needs]), n, hn⟩
      | refresh hr => exact absurd hr (by decide)
  | _ => cases hd

/-- The results of an instance refresh are written to fields of their own. -/
theorem Fits.field {key : String} (h : Fits tf s data) (hcomponent : ["component"] ∈ needs tf s)
    (hnext : ∀ path ∈ needs tf next, path = [key] ∨ ∃ other, path = [other] ∧ path ∈ needs tf s)
    (hcounts : next ∉ countingStates) : Safe tf evs (putAndGo [key] out data next) := by
  obtain ⟨data', hput, hgo⟩ := putAndGo_field (h.has _ hcomponent) key out next
  rw [hgo]
  refine .inl ⟨fun path hpath => ?_, counts_of_not_counting hcounts⟩
  rcases hnext path hpath with rfl | ⟨other, rfl, hmem⟩
  · exact ⟨out, Json.get?_put? hput⟩
  · exact exists_field_of_put? hput (h.has _ hmem)

/-- The answer of a poll fits if it has a status. -/
theorem Fits.polled {input : Json} (h : Fits tf .monitorInstanceRefreshProgress data) :
    Safe tf (evs ++ [⟨.monitorInstanceRefreshProgress, n, input, .ok out⟩])
      (putAndGo [statusOutput tf] out data .isInstanceRefreshComplete) := by
  obtain ⟨data', hput, hgo⟩ := putAndGo_field (h.has ["component"] (by simp [needs])) (statusOutput tf) out
    State.isInstanceRefreshComplete
  rw [hgo]
  have hread : data'.get? [statusOutput tf, "Status"] = out.get? ["Status"] := Json.get?_of_put? hput
  have hkept := fun key hkey => @exists_field_of_put? _ _ _ _ key hput (h.has [key] hkey)
  cases hstatus : out.get? ["Status"] with
  | some v =>
      refine .inl ⟨?_, trivial⟩
      refine .cons (hkept _ (by simp [needs])) (.cons (hkept _ (by simp [needs])) (.cons ⟨v, ?_⟩ nofun))
      rw [hread, hstatus]
  | none =>
      refine .inr ⟨⟨evs, _, rfl, rfl, ?_⟩, "States.Runtime", "invalid path", ?_⟩
      · rintro _ ⟨⟩
        exact hstatus
      · simp only [autoRecycle, StateDef.start, choose, Cond.eval, hread, hstatus, Option.map_none]

theorem AnyTasks.slack_inv {input : Json} (h : AnyTasks .slackNotifications input () (.ok out) ()) :
    out = input := by
  cases h with
  | lambda h =>
      cases h with
      | slack => rfl
      | refresh hr => exact absurd hr (by decide)

/-- The answer of a task. -/
theorem Fits.answered {input : Json} (h : Fits tf s data) (hs : (autoRecycle tf s).start data = .invoke t input)
    (hT : AnyTasks t.resource input () (.ok out) ()) :
    Safe tf (evs ++ [⟨s, n, input, .ok out⟩]) (putAndGo t.resultPath out data t.next) := by
  have hd := StateDef.eq_task_of_invoke hs
  have hslack : ∀ {next}, autoRecycle tf s = .task (slackMessage next) →
      Safe tf (evs ++ [⟨s, n, input, .ok out⟩]) (putAndGo t.resultPath out data t.next) := by
    intro next hslack
    rw [hslack] at hs hd
    cases hd
    cases hs
    obtain rfl := hT.slack_inv
    exact .inl (h.slack hslack)
  have hrecycler : ∀ {r next}, r ∈ LambdaErrors.recyclers →
      autoRecycle tf s = .task (lambdaTask r [] [] next) →
      Safe tf (evs ++ [⟨s, n, input, .ok out⟩]) (putAndGo t.resultPath out data t.next) := by
    intro r next hr hrecycler
    rw [hrecycler] at hs hd
    cases hd
    cases hs
    cases hT with
    | lambda hT => exact .inl (h.recycler hrecycler hT)
  cases s with
  | slackMessageSingleInstanceAsg => exact hslack rfl
  | slackMessageStart => exact hslack rfl
  | slackMessageMongo => exact hslack rfl
  | slackMessageInstanceRefresh => exact hslack rfl
  | slackMessageEnd => exact hslack rfl
  | standardRecycle => exact hrecycler (by decide) rfl
  | monitorAutorecycling => exact hrecycler (by decide) rfl
  | recycleMongoCluster => exact hrecycler (by decide) rfl
  | recycleSingleInstanceAsg => exact hrecycler (by decide) rfl
  | instanceRefreshStart =>
      cases hd
      show Safe tf _ (putAndGo [startOutput tf] out data .wasARefreshStarted)
      exact h.field (by simp [needs]) (by simp [needs]) (by decide)
  | instanceRefreshCancel =>
      cases hd
      show Safe tf _ (putAndGo [cancelOutput tf] out data .waitForInstanceRefreshStatus)
      exact h.field (by simp [needs]) (by simp [needs]) (by decide)
  | monitorInstanceRefreshStatus =>
      cases hd
      show Safe tf _ (putAndGo [statusOutput tf] out data .instanceRefreshStatus)
      exact h.field (by simp [needs]) (by simp [needs]) (by decide)
  | monitorInstanceRefreshProgress =>
      cases hd
      exact h.polled
  | _ => cases hd

-- ============================================================================
-- The run
-- ============================================================================

/-- The invariant holds along every run. -/
theorem Safe.trail {x y : Cfg State × Unit} (h : Trail (autoRecycle tf) AnyTasks x evs y)
    (hx : Safe tf [] x.1) : Safe tf evs y.1 := by
  refine h.carries hx ?_ ?_
  · intro evs s data n c hsafe hs
    rcases hsafe with hfits | ⟨hlost, error, cause, hfails⟩
    · obtain ⟨s', data', rfl, hfits'⟩ | ⟨out, rfl⟩ | ⟨cause, rfl⟩ := hfits.goto hs
      · exact .inl hfits'
      · trivial
      · exact .inl rfl
    · cases hfails.symm.trans hs
      exact .inr hlost
  · intro evs s data n t input w r w' hsafe hs hT
    rcases hsafe with hfits | ⟨-, error, cause, hfails⟩
    · cases r with
      | ok out => exact hfits.answered hs hT
      | error e => exact hfits.error e (StateDef.eq_task_of_invoke hs)
    · cases hfails.symm.trans hs

end

/-- The execution has succeeded, or come to the Fail state. -/
def Concluded (c : Cfg State) : Prop := c.Succeeded ∨ ∃ cause, c = .failed "Fail" cause

/-- How an execution may end: after the message at the end as its Choice says, with
    nothing to report, or for a lost poll. -/
def Accounted (evs : List (TaskRun State)) (c : Cfg State) : Prop :=
  (Sent evs ∧ Concluded c) ∨ (c.Succeeded ∧ NoRefresh evs) ∨ (c.Failed ∧ Lost evs)

theorem accounted_of_fits {tf : TfVars} {payload : Json} (hpayload : Fits tf startAt payload)
    {evs : List (TaskRun State)} {y : Cfg State × Unit}
    (h : Trail (autoRecycle tf) AnyTasks (.at startAt payload 0, ()) evs y) (hended : y.1.Ended) :
    Accounted evs y.1 := by
  have hsafe : Safe tf evs y.1 := Safe.trail h (.inl hpayload)
  have hwhere : Where tf evs y.1 :=
    h.invariant (I := Where tf) trivial (fun hI hs => hI.goto hs) fun _ hs => Where.task hs _
  cases hy : y.1 with
  | «at» s data n =>
      rw [hy] at hended
      exact hended.elim
  | succeeded out =>
      rw [hy] at hwhere
      rcases hwhere with hsent | hnone
      · exact .inl ⟨hsent, .inl trivial⟩
      · exact .inr (.inl ⟨trivial, hnone⟩)
  | failed error cause =>
      rw [hy] at hwhere hsafe
      rcases hsafe with rfl | hlost
      · have hsent : Sent evs := hwhere.resolve_right (by decide)
        exact .inl ⟨hsent, .inr ⟨cause, rfl⟩⟩
      · exact .inr (.inr ⟨trivial, hlost⟩)

open InvokeStepfunctions (payloadOf payloadOf_of_start payloadOf_describes get?_payloadOf_none accepted_payloadOf
  webEvent webTags runs_web Startable)

/-- The payload of the start lambda has a component and a strategy, and no counter. -/
theorem fits_payloadOf (tf : TfVars) (accountId channel name asgName : String)
    {tags : List InvokeStepfunctions.Tag} (h : Startable tags) :
    Fits tf startAt (.obj (payloadOf accountId channel name asgName tags)) := by
  have hdescribes := payloadOf_describes accountId channel name asgName tags
  obtain ⟨-, strategy, hstrategy⟩ := h
  have hread := hdescribes.strings ("strategy", "autorecycle_strategy") List.mem_cons_self
  rw [hstrategy] at hread
  have hkeys : HasKeys ["component", "strategy"] (.obj (payloadOf accountId channel name asgName tags)) := by
    simp only [hasKeys_iff, List.forall_mem_cons]
    exact ⟨⟨_, hdescribes.component⟩, ⟨_, hread⟩, nofun⟩
  exact ⟨hkeys, get?_payloadOf_none accountId channel name asgName tags (by decide) (by decide)⟩

/-- Whatever the event and the replies of the start lambda were, and whatever the
    tasks answer: the execution that it starts ends accounted for. -/
theorem accounted_of_start {legal : (op : InvokeStepfunctions.Calls.Op) →
      InvokeStepfunctions.Calls.Reply op → Prop}
    {event : Dict Json} {t : Trace InvokeStepfunctions.Calls} {arn name : String} {input : Dict Json}
    {next : InvokeStepfunctions.Op.Reply (.startExecution arn name input) → InvokeStepfunctions.Py Unit}
    (hstart : Runs legal (InvokeStepfunctions.lambdaHandler event) t
      (.call (.startExecution arn name input) next))
    (tf : TfVars) (evs : List (TaskRun State)) (y : Cfg State × Unit)
    (h : Trail (autoRecycle tf) AnyTasks (.at startAt (.obj input) 0, ()) evs y) (hended : y.1.Ended) :
    Accounted evs y.1 := by
  obtain ⟨component, accountId, channel, asgName, tags, -, -, htags, rfl⟩ := payloadOf_of_start hstart
  exact accounted_of_fits (fits_payloadOf tf accountId channel component asgName htags) h hended

/-- The execution of the component "web", whose first invocation raises. -/
theorem trail_web : ∃ evs y, Trail (autoRecycle InstanceRefresh.refreshVars) AnyTasks
    (.at startAt (.obj (payloadOf "1" "team-web" "web" "web-asg-1" webTags)) 0, ()) evs y ∧ y.1.Ended := by
  have hcomponent := (payloadOf_describes "1" "team-web" "web" "web-asg-1" webTags).component
  have hstrategy : InvokeStepfunctions.firstValue webTags "autorecycle_strategy" = some "in-out" := rfl
  have hbranch :=
    (accepted_payloadOf InstanceRefresh.refreshVars "1" "team-web" "web" "web-asg-1" hstrategy).branch
  generalize payloadOf "1" "team-web" "web" "web-asg-1" webTags = payload at hcomponent hbranch
  have hraises : Step (autoRecycle InstanceRefresh.refreshVars) AnyTasks
      (.at .recycleSingleInstanceAsg (.obj payload) 0, ())
      (.at .lambdaError (.obj (Dict.set "error-info" LambdaErrors.typeError.output payload)) 0, ()) := by
    have hfinish : (lambdaTask .autorecycleScaleAsg [] [] .isFirstRun).finish .recycleSingleInstanceAsg
        (.obj payload) 0 (.error LambdaErrors.typeError) =
        .at .lambdaError (.obj (Dict.set "error-info" LambdaErrors.typeError.output payload)) 0 :=
      finish_lambdaTask_of_not_retried (by decide) 0
    rw [← hfinish]
    exact .task rfl (.lambda (.failed (by decide)))
  have hkept : Json.get? ["component"] (.obj (Dict.set "error-info" LambdaErrors.typeError.output payload)) =
      some (.str "web") := by
    rw [Json.get?_cons, Json.field?_obj, Dict.get?_set_ne (by decide), hcomponent]
    rfl
  have hfails : Reaches (autoRecycle InstanceRefresh.refreshVars) AnyTasks
      (.at .lambdaError (.obj (Dict.set "error-info" LambdaErrors.typeError.output payload)) 0, ())
      (.failed "Fail" "Execution failed", ()) :=
    (lambdaError_reaches_fail hkept (.lambda .slack)).tail (.goto rfl)
  obtain ⟨evs, h⟩ := reaches_iff_trail.mp (.head (.goto hbranch) (.head hraises hfails))
  exact ⟨evs, _, h, trivial⟩

theorem accounted_of_start_web : ∃ evs y, Trail (autoRecycle InstanceRefresh.refreshVars) AnyTasks
    (.at startAt (.obj (payloadOf "1" "team-web" "web" "web-asg-1" webTags)) 0, ()) evs y ∧ y.1.Ended ∧
      Accounted evs y.1 := by
  obtain ⟨t, arn, name, next, hstart⟩ := runs_web
  obtain ⟨evs, y, h, hended⟩ := trail_web
  exact ⟨evs, y, h, hended, accounted_of_start hstart _ evs y h hended⟩

end AutoRecycle.Reported
