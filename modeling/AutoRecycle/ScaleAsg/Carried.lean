/-
  AutoRecycle.ScaleAsg.Carried

  What the in-out loop carries from one invocation to the next.

  The state data is the last output of the scale-ASG lambda, read back from its
  dump, with the error of a failed Slack message beside it.  Of the payload it
  carries the fields that the end of the run needs (`Carries`); what an output
  reports is decided by the responses of its own invocation (`Report`).
-/
import AutoRecycle.Lambdas
import AutoRecycle.ScaleAsg.InOutRun

namespace AutoRecycle.ScaleAsg

open AutoRecycle.Asl AutoRecycle.Data AutoRecycle.Effect AutoRecycle.StateMachine

/-- The tasks of the in-out branch when every one of them may also fail, which
    leaves no output. -/
inductive FailingTasks (aws : Nat → Responses) : Tasks Resource (List Event) where
  | answers {r input outputs answer outputs'} (h : InOutTasks aws r input outputs answer outputs') :
      FailingTasks aws r input outputs answer outputs'
  | fails {r input outputs} (e : TaskError) : FailingTasks aws r input outputs (.error e) outputs

-- ============================================================================
-- What an output reports
-- ============================================================================

/-- The fields of an output that tell how its invocation went. -/
structure Report where
  exception : Field String := .unset
  pagerDutyDescription : Field String := .unset
  pagerDutyEventType : Field String := .unset
  status : Field Status
  recycleSuccess : Field Bool

def Event.report (e : Event) : Report where
  exception := e.exception
  pagerDutyDescription := e.pagerDutyDescription
  pagerDutyEventType := e.pagerDutyEventType
  status := e.status
  recycleSuccess := e.recycleSuccess

namespace Report

/-- The report of an invocation that has gone well. -/
def well (recycleSuccess : Bool) : Report where
  status := .set (some (.flag true))
  recycleSuccess := .set (some recycleSuccess)

def failed (exception : Field String) : Report where
  exception := exception
  pagerDutyDescription := .set (some notSuccessful)
  pagerDutyEventType := .set (some "trigger")
  status := .set (some (.text "fail"))
  recycleSuccess := .set (some false)

end Report

namespace Responses

/-- What an invocation with these responses reports of the component. -/
def report (env : Responses) (component : String) : Report :=
  match env.plan component with
  | .raised e => .failed (.set (some e.repr))
  | .waiting => .well false
  | .notSuccessful => .failed .unset
  | .act next =>
      match env.policy next.asgName ("recycle-scale-" ++ next.action.text) with
      | .ok () => .well false
      | .error e => .failed (.set (some e.repr))
  | .finished => .well true

theorem report_outcome (env : Responses) (event : Event) :
    (env.outcome event).report = env.report event.component := by
  rw [outcome, report]
  cases env.plan event.component with
  | act next =>
    simp only [Plan.result]
    cases env.policy next.asgName ("recycle-scale-" ++ next.action.text) <;> rfl
  | _ => rfl

/-- Every invocation says whether the recycling is complete. -/
theorem recycleSuccess_report (env : Responses) (component : String) :
    ∃ b, (env.report component).recycleSuccess = .set (some b) := by
  rw [report]
  cases env.plan component with
  | act next =>
    dsimp only
    cases env.policy next.asgName ("recycle-scale-" ++ next.action.text) <;> exact ⟨_, rfl⟩
  | _ => exact ⟨_, rfl⟩

end Responses

-- ============================================================================
-- What an output carries
-- ============================================================================

/-- `event` has the fields of the payload `initial` that are carried through the
    loop. -/
structure SamePayload (initial event : Event) : Prop where
  component : event.component = initial.component
  successChannel : event.successChannel = initial.successChannel
  monitoringSlackChannel : event.monitoringSlackChannel = initial.monitoringSlackChannel
  notifyPagerDuty : event.notifyPagerDuty.get = initial.notifyPagerDuty.get
  team : event.team.get = initial.team.get

/-- An output carries these fields and addresses the success channel. -/
structure Carries (initial output : Event) : Prop where
  same : SamePayload initial output
  channels : output.channels = .set (some (.one initial.successChannel))

section
variable {initial event : Event}

theorem SamePayload.refl (event : Event) : SamePayload event event := ⟨rfl, rfl, rfl, rfl, rfl⟩

/-- What every return of `scale_asg` takes over from its event. -/
theorem Responses.outcome_fields (env : Responses) (event : Event) :
    SamePayload event (env.outcome event) ∧ (env.outcome event).channels = .set event.channels.get := by
  rw [outcome]
  cases env.plan event.component with
  | act next =>
    simp only [Plan.result]
    cases env.policy next.asgName ("recycle-scale-" ++ next.action.text) <;>
      exact ⟨⟨rfl, rfl, rfl, rfl, rfl⟩, rfl⟩
  | _ => exact ⟨⟨rfl, rfl, rfl, rfl, rfl⟩, rfl⟩

theorem SamePayload.trans {middle : Event} (h₁ : SamePayload initial middle)
    (h₂ : SamePayload middle event) : SamePayload initial event where
  component := h₂.component.trans h₁.component
  successChannel := h₂.successChannel.trans h₁.successChannel
  monitoringSlackChannel := h₂.monitoringSlackChannel.trans h₁.monitoringSlackChannel
  notifyPagerDuty := h₂.notifyPagerDuty.trans h₁.notifyPagerDuty
  team := h₂.team.trans h₁.team

theorem samePayload_scaledEvent (event : Event) : SamePayload event (scaledEvent event) := by
  rw [scaledEvent]
  split <;> exact ⟨rfl, rfl, rfl, rfl, rfl⟩

/-- The first invocation addresses the success channel, and a later one the
    channels of its event. -/
theorem channels_scaledEvent (h : firstInvocation event = true ∨
    event.channels = .set (some (.one event.successChannel))) :
    (scaledEvent event).channels.get = some (.one event.successChannel) := by
  rw [scaledEvent]
  split
  · rfl
  · rename_i hfirst
    rcases h with h | h
    · exact absurd h hfirst
    · rw [h, Field.get_set]

theorem carries_nextOutput {aws : Nat → Responses} {outputs : List Event}
    (hsame : SamePayload initial event)
    (hchannels : firstInvocation event = true ∨
      event.channels = .set (some (.one event.successChannel))) :
    Carries initial (nextOutput aws outputs event) := by
  obtain ⟨hfields, hout⟩ := (aws outputs.length).outcome_fields (scaledEvent event)
  have hevent : SamePayload initial (scaledEvent event) :=
    hsame.trans (samePayload_scaledEvent event)
  refine ⟨hevent.trans hfields, ?_⟩
  rw [nextOutput, hout, channels_scaledEvent hchannels, hsame.successChannel]

end

-- ============================================================================
-- The state data
-- ============================================================================

/-- `data` is an object that has the fields of `data'`, save for the error of a
    failed Slack message. -/
def Shows (data data' : Json) : Prop :=
  ∃ fields fields', data = .obj fields ∧ data' = .obj fields' ∧
    ∀ key ≠ "error-info", Dict.get? key fields = Dict.get? key fields'

section
variable {data data' out : Json} {key : String}

theorem Shows.refl (fields : Dict Json) : Shows (.obj fields) (.obj fields) :=
  ⟨fields, fields, rfl, rfl, fun _ _ => rfl⟩

theorem Shows.field? (h : Shows data data') (hkey : key ≠ "error-info") :
    data.field? key = data'.field? key := by
  obtain ⟨fields, fields', rfl, rfl, hsame⟩ := h
  exact hsame key hkey

/-- The Event model does not have the field of the error. -/
theorem Shows.modelValidate (h : Shows data data') :
    Event.modelValidate data = Event.modelValidate data' := by
  obtain ⟨fields, fields', rfl, rfl, hsame⟩ := h
  simp only [Event.modelValidate, validModel, Json.field?_obj]
  simp only [hsame _ (by decide : "channels" ≠ "error-info"),
    hsame _ (by decide : "component" ≠ "error-info"),
    hsame _ (by decide : "counter" ≠ "error-info"),
    hsame _ (by decide : "emoji" ≠ "error-info"),
    hsame _ (by decide : "exception" ≠ "error-info"),
    hsame _ (by decide : "message_content" ≠ "error-info"),
    hsame _ (by decide : "monitoring_slack_channel" ≠ "error-info"),
    hsame _ (by decide : "pager_duty_description" ≠ "error-info"),
    hsame _ (by decide : "pager_duty_event_type" ≠ "error-info"),
    hsame _ (by decide : "notify_pager_duty" ≠ "error-info"),
    hsame _ (by decide : "recycle_success" ≠ "error-info"),
    hsame _ (by decide : "status" ≠ "error-info"),
    hsame _ (by decide : "success_channel" ≠ "error-info"),
    hsame _ (by decide : "team" ≠ "error-info"),
    hsame _ (by decide : "text" ≠ "error-info"),
    hsame _ (by decide : "username" ≠ "error-info")]

/-- What the catcher of a Slack message makes of the data. -/
theorem Shows.catch (h : Shows data data') (v : Json) (next : State) :
    ∃ out, putAndGo ["error-info"] v data next = .at next out 0 ∧ Shows out data' := by
  obtain ⟨fields, fields', rfl, rfl, hsame⟩ := h
  refine ⟨.obj (Dict.set "error-info" v fields), rfl, _, fields', rfl, rfl, fun key hkey => ?_⟩
  rw [Dict.get?_set_ne hkey]
  exact hsame key hkey

end

/-- A payload that validates and has no counter starts a first invocation. -/
theorem firstInvocation_of_no_counter {data : Json} {event : Event}
    (hvalid : Event.modelValidate data = .ok event) (h : data.field? "counter" = none) :
    firstInvocation event = true := by
  suffices hcounter : event.counter = .unset by
    rw [firstInvocation, hcounter]
    rfl
  cases data with
  | obj fields =>
      rw [Json.field?_obj] at h
      simp only [Event.modelValidate, validModel, Json.field?_obj, bind_eq_ok] at hvalid
      obtain ⟨channels, -, component, -, counter, hcounter, hvalid⟩ := hvalid
      rw [h] at hcounter
      cases hcounter
      obtain ⟨_, -, _, -, _, -, _, -, _, -, _, -, _, -, _, -, _, -, _, -, _, -, _, -, _, -, hevent⟩ := hvalid
      cases hevent
      rfl
  | _ => cases hvalid

-- ============================================================================
-- The invariant
-- ============================================================================

/-- What is known of the outputs so far. -/
structure Invoked (aws : Nat → Responses) (initial : Event) (outputs : List Event) : Prop where
  length_le : outputs.length ≤ 21
  each : ∀ k output, outputs[k]? = some output → Carries initial output ∧
    output.counter = .set (some (k + 1 : Nat)) ∧ output.report = (aws k).report initial.component

/-- The state data before an invocation. -/
structure Ready (initial : Event) (data : Json) (outputs : List Event) (event : Event) : Prop where
  inLoop : InLoop initial.component data outputs event
  same : SamePayload initial event
  channels : firstInvocation event = true ∨ event.channels = .set (some (.one event.successChannel))
  room : outputs.length ≤ 20

/-- The state data after an invocation: its output. -/
def ShowsLast (data : Json) (outputs : List Event) : Prop :=
  ∃ before last, outputs = before ++ [last] ∧ Shows data last.modelDump

/-- The invariant of the branch. -/
def Along (aws : Nat → Responses) (initial : Event) : Cfg State → List Event → Prop
  | .at .chooseRecycleStrategy data _, outputs =>
      data.get? ["strategy"] = some (.str "in-out") ∧ Invoked aws initial outputs ∧
        Ready initial data outputs initial
  | .at .recycleSingleInstanceAsg data _, outputs =>
      Invoked aws initial outputs ∧ ∃ event, Ready initial data outputs event
  | .at .isFirstRun data _, outputs => Invoked aws initial outputs ∧ ShowsLast data outputs
  | .at .slackMessageSingleInstanceAsg data _, outputs =>
      Invoked aws initial outputs ∧ ShowsLast data outputs
  | .at .waitForSingleInstanceAsgAutorecycle data _, outputs =>
      Invoked aws initial outputs ∧ ShowsLast data outputs
  | .at .isAutorecyclingSingleInstanceAsgDone data _, outputs =>
      Invoked aws initial outputs ∧ ShowsLast data outputs
  | .at .lambdaError _ _, outputs => Invoked aws initial outputs
  | .at .slackMessageEnd _ _, outputs => Invoked aws initial outputs
  | .at .status _ _, outputs => Invoked aws initial outputs
  | .at .fail _ _, outputs => Invoked aws initial outputs
  | .at .success _ _, outputs => Invoked aws initial outputs
  | .at _ _ _, _ => False
  | .succeeded _, outputs => Invoked aws initial outputs
  | .failed _ _, outputs => Invoked aws initial outputs

section
variable {tf : TfVars} {aws : Nat → Responses} {initial event last : Event} {data : Json}
  {outputs before : List Event}

/-- The counter and the success flag of an output stand in the data that shows it. -/
theorem Invoked.read_last (h : Invoked aws initial (before ++ [last]))
    (hdata : Shows data last.modelDump) :
    data.get? ["counter"] = some (.num (before.length + 1 : Nat)) ∧
      ∃ b, data.get? ["recycle_success"] = some (.bool b) := by
  obtain ⟨-, hcounter, hreport⟩ := h.each before.length last (by simp)
  constructor
  · rw [Json.get?_cons, hdata.field? (by decide), ← Json.get?_cons]
    exact get?_counter hcounter
  · obtain ⟨b, hb⟩ := (aws before.length).recycleSuccess_report initial.component
    rw [← hreport] at hb
    refine ⟨b, ?_⟩
    rw [Json.get?_cons, hdata.field? (by decide), ← Json.get?_cons]
    exact get?_recycleSuccess hb

/-- The next invocation starts on the output that the data shows. -/
theorem Invoked.ready (h : Invoked aws initial (before ++ [last])) (hdata : Shows data last.modelDump)
    (hroom : (before ++ [last]).length ≤ 20) : Ready initial data (before ++ [last]) last where
  inLoop := {
    valid := hdata.modelValidate.trans (Event.modelValidate_modelDump last)
    component_eq := (h.each before.length last (by simp)).1.same.component
    fresh := fun hnil => by simp at hnil
    counted := fun _ => by
      rw [(h.each before.length last (by simp)).2.1, List.length_append, List.length_singleton] }
  same := (h.each before.length last (by simp)).1.same
  channels := by
    obtain ⟨hcarries, -⟩ := h.each before.length last (by simp)
    exact .inr (by rw [hcarries.channels, hcarries.same.successChannel])
  room := hroom

/-- One more invocation. -/
theorem Invoked.snoc (h : Invoked aws initial outputs) (hready : Ready initial data outputs event) :
    Invoked aws initial (outputs ++ [nextOutput aws outputs event]) where
  length_le := by
    have hroom := hready.room
    rw [List.length_append, List.length_singleton]
    omega
  each := by
    intro k output hk
    rcases Nat.lt_or_ge k outputs.length with hlt | hge
    · rw [List.getElem?_append_left hlt] at hk
      exact h.each k output hk
    · rw [List.getElem?_append_right hge, List.getElem?_singleton] at hk
      split at hk
      · rename_i hzero
        obtain rfl : k = outputs.length := by omega
        cases hk
        refine ⟨carries_nextOutput hready.same hready.channels, ?_, ?_⟩
        · exact hready.inLoop.counter_nextOutput
        · rw [nextOutput, Responses.report_outcome, scaledEvent_component,
            hready.inLoop.component_eq]
      · cases hk

/-- At any time the outputs are as they should be. -/
theorem Along.invoked {c : Cfg State} (h : Along aws initial c outputs) :
    Invoked aws initial outputs := by
  cases c with
  | «at» s data n =>
      cases s with
      | chooseRecycleStrategy => exact h.2.1
      | recycleSingleInstanceAsg => exact h.1
      | isFirstRun => exact h.1
      | slackMessageSingleInstanceAsg => exact h.1
      | waitForSingleInstanceAsgAutorecycle => exact h.1
      | isAutorecyclingSingleInstanceAsgDone => exact h.1
      | lambdaError => exact h
      | slackMessageEnd => exact h
      | status => exact h
      | fail => exact h
      | success => exact h
      | _ => exact h.elim
  | succeeded output => exact h
  | failed error cause => exact h

theorem along_putAndGo {path : Path} {v : Json} {next : State} (h : Invoked aws initial outputs)
    (hnext : ∀ data', Along aws initial (.at next data' 0) outputs) :
    Along aws initial (putAndGo path v data next) outputs := by
  rcases putAndGo_cases path v data next with ⟨data', hgo⟩ | ⟨error, cause, hgo⟩
  · rw [hgo]
    exact hnext data'
  · rw [hgo]
    exact h

/-- A state that goes on by itself. -/
theorem Along.goto {s : State} {n : Nat} {c : Cfg State} (h : Along aws initial (.at s data n) outputs)
    (hs : (autoRecycle tf s).start data = .goto c) : Along aws initial c outputs := by
  cases s with
  | chooseRecycleStrategy =>
      have hstart := @start_chooseRecycleStrategy tf data h.1
      rw [startAt] at hstart
      cases hstart.symm.trans hs
      exact ⟨h.2.1, initial, h.2.2⟩
  | isFirstRun =>
      obtain ⟨hinvoked, before, last, rfl, hdata⟩ := h
      have hstart := @start_isFirstRun tf data _ (hinvoked.read_last hdata).1
      cases hstart.symm.trans hs
      split <;> exact ⟨hinvoked, before, last, rfl, hdata⟩
  | waitForSingleInstanceAsgAutorecycle =>
      cases hs
      exact h
  | isAutorecyclingSingleInstanceAsgDone =>
      obtain ⟨hinvoked, before, last, rfl, hdata⟩ := h
      obtain ⟨hcounter, b, hb⟩ := hinvoked.read_last hdata
      have hstart := @start_isDone tf data _ b hcounter hb
      cases hstart.symm.trans hs
      split
      · exact hinvoked
      · rename_i hback
        rw [not_or] at hback
        refine ⟨hinvoked, last, hinvoked.ready hdata ?_⟩
        rw [List.length_append, List.length_singleton]
        omega
  | lambdaError =>
      simp only [autoRecycle, StateDef.start] at hs
      split at hs
      · cases hs
        exact along_putAndGo h fun _ => h
      · cases hs
        exact h
  | status =>
      cases hs
      rw [choose]
      split <;> exact h
  | fail =>
      cases hs
      exact h
  | success =>
      cases hs
      exact h
  | recycleSingleInstanceAsg => cases hs
  | slackMessageSingleInstanceAsg => cases hs
  | slackMessageEnd => cases hs
  | _ => exact h.elim

/-- A failed invocation is retried on the same data, or leaves the loop. -/
theorem along_scaleAsg_error {n : Nat} (e : TaskError)
    (h : Along aws initial (.at .recycleSingleInstanceAsg data n) outputs) :
    Along aws initial ((lambdaTask .autorecycleScaleAsg [] [] .isFirstRun).finish
      .recycleSingleInstanceAsg data n (.error e)) outputs := by
  rcases finish_lambdaTask_fault n e with hfinish | hfinish
  · rw [hfinish]
    exact h
  · rw [hfinish]
    exact along_putAndGo h.invoked fun _ => h.invoked

/-- The answer of a task. -/
theorem Along.task {s : State} {n : Nat} {t : Task State Resource} {input : Json}
    {answer : Except TaskError Json} {outputs' : List Event}
    (h : Along aws initial (.at s data n) outputs) (hs : (autoRecycle tf s).start data = .invoke t input)
    (hT : FailingTasks aws t.resource input outputs answer outputs') :
    Along aws initial (t.finish s data n answer) outputs' := by
  cases s with
  | recycleSingleInstanceAsg =>
      cases hs
      cases hT with
      | fails e => exact along_scaleAsg_error e h
      | answers hT =>
          obtain ⟨hinvoked, event, hready⟩ := id h
          obtain ⟨fp, hrun⟩ := hready.inLoop.run_handleEvent hready.room (aws outputs.length)
          cases hT with
          | scaleAsgRaises he => exact along_scaleAsg_error _ h
          | scaleAsg hok =>
              cases hok.symm.trans hrun
              exact ⟨hinvoked.snoc hready, outputs, _, rfl, Shows.refl _⟩
  | slackMessageSingleInstanceAsg =>
      cases hs
      obtain ⟨hinvoked, before, last, rfl, hdata⟩ := id h
      cases hT with
      | fails e =>
          obtain ⟨out, hgo, hout⟩ := hdata.catch e.output .waitForSingleInstanceAsgAutorecycle
          rw [finish_slackMessage_error, hgo]
          exact ⟨hinvoked, before, last, rfl, hout⟩
      | answers hT =>
          cases hT
          exact h
  | slackMessageEnd =>
      cases hs
      cases hT with
      | fails e =>
          rw [finish_slackMessage_error]
          exact along_putAndGo h fun _ => h
      | answers hT =>
          cases hT
          exact h
  | chooseRecycleStrategy => cases hs
  | isFirstRun => cases hs
  | waitForSingleInstanceAsgAutorecycle => cases hs
  | isAutorecyclingSingleInstanceAsgDone => cases hs
  | lambdaError =>
      simp only [autoRecycle, StateDef.start] at hs
      split at hs <;> cases hs
  | status => cases hs
  | fail => cases hs
  | success => cases hs
  | _ => exact h.elim

/-- The invariant holds along every run. -/
theorem Along.reaches {x y : Cfg State × List Event} (h : Along aws initial x.1 x.2)
    (hr : Reaches (autoRecycle tf) (FailingTasks aws) x y) : Along aws initial y.1 y.2 := by
  induction hr with
  | refl => exact h
  | tail _ hs ih =>
      cases hs with
      | goto hs => exact ih.goto hs
      | task hs hT => exact ih.task hs hT

end

-- ============================================================================
-- The runs
-- ============================================================================

/-- In every run of the in-out branch from a payload without a counter there are
    at most 21 outputs.  The `k`-th of them counts itself, carries the fields of
    the payload and addresses the success channel; what it reports is decided by
    the responses of its own invocation.  No invocation gets a counter of 60. -/
theorem inOut_carries (tf : TfVars) (aws : Nat → Responses) (payload : Json) (initial : Event)
    (hstrategy : payload.get? ["strategy"] = some (.str "in-out"))
    (hvalid : Event.modelValidate payload = .ok initial)
    (hcounter : payload.field? "counter" = none) (c : Cfg State) (outputs : List Event)
    (h : Reaches (autoRecycle tf) (FailingTasks aws) (.at startAt payload 0, []) (c, outputs)) :
    outputs.length ≤ 21 ∧
      (∀ k output, outputs[k]? = some output → Carries initial output ∧
        output.counter = .set (some (k + 1 : Nat)) ∧
        output.report = (aws k).report initial.component) ∧
      (∀ data n, c = .at .recycleSingleInstanceAsg data n →
        ∃ event, Event.modelValidate data = .ok event ∧ event.counter.get.getD 0 < 60) := by
  have hfresh := firstInvocation_of_no_counter hvalid hcounter
  have hstart : Along aws initial (.at startAt payload 0) [] := by
    refine ⟨hstrategy, ⟨by simp, by simp⟩, ?_⟩
    exact ⟨InLoop.first hvalid hfresh, SamePayload.refl initial, .inl hfresh, by simp⟩
  have hend : Along aws initial c outputs := hstart.reaches h
  refine ⟨hend.invoked.length_le, hend.invoked.each, ?_⟩
  rintro data n rfl
  obtain ⟨-, event, hready⟩ := hend
  refine ⟨event, hready.inLoop.valid, ?_⟩
  cases houtputs : outputs with
  | nil =>
      have hfirst := hready.inLoop.fresh houtputs
      cases hget : event.counter.get with
      | none => simp
      | some count =>
          have hzero : count = 0 := by simpa [firstInvocation, hget] using hfirst
          simp [hzero]
  | cons o os =>
      have hcount := hready.inLoop.counted (by simp [houtputs])
      have hroom := hready.room
      rw [hcount, Field.get_set, Option.getD_some]
      omega

section
variable {aws : Nat → Responses} {component : String} {data data' : Json} {outputs : List Event}
  {event : Event}

/-- A turn of the loop whose Slack message fails, if it sends one. -/
theorem InLoop.comes_back_failing (tf : TfVars) (h : InLoop component data outputs event) (hlen : outputs.length < 20)
    (hb : (nextOutput aws outputs event).recycleSuccess = .set (some false)) :
    ∃ data', Shows data' (nextOutput aws outputs event).modelDump ∧
      Reaches (autoRecycle tf) (FailingTasks aws) (.at .recycleSingleInstanceAsg data 0, outputs)
        (.at .recycleSingleInstanceAsg data' 0, outputs ++ [nextOutput aws outputs event]) := by
  obtain ⟨fp, hrun⟩ := h.run_handleEvent (Nat.le_of_lt hlen) (aws outputs.length)
  have hcounter : (nextOutput aws outputs event).counter = _ := h.counter_nextOutput
  have hwaits : ∃ data', Shows data' (nextOutput aws outputs event).modelDump ∧
      Reaches (autoRecycle tf) (FailingTasks aws)
        (.at .isFirstRun (nextOutput aws outputs event).modelDump 0,
          outputs ++ [nextOutput aws outputs event])
        (.at .waitForSingleInstanceAsgAutorecycle data' 0,
          outputs ++ [nextOutput aws outputs event]) := by
    have hfirst := @start_isFirstRun tf _ _ (get?_counter hcounter)
    split at hfirst
    · obtain ⟨out, hcaught, hshows⟩ := Shows.catch (Shows.refl _ :
          Shows (nextOutput aws outputs event).modelDump _)
        (TaskError.mk "Lambda.Unknown" "").output .waitForSingleInstanceAsgAutorecycle
      rw [← @finish_slackMessage_error _ .slackMessageSingleInstanceAsg _ 0] at hcaught
      refine ⟨out, hshows, .head (.goto hfirst) ?_⟩
      rw [← hcaught]
      exact .single (.task rfl (FailingTasks.fails _))
    · exact ⟨_, Shows.refl _, .single (.goto hfirst)⟩
  obtain ⟨data', hshows, hwait⟩ := hwaits
  have hcount : data'.get? ["counter"] = some (.num (outputs.length + 1 : Nat)) := by
    rw [Json.get?_cons, hshows.field? (by decide), ← Json.get?_cons]
    exact get?_counter hcounter
  have hsuccess : data'.get? ["recycle_success"] = some (.bool false) := by
    rw [Json.get?_cons, hshows.field? (by decide), ← Json.get?_cons]
    exact get?_recycleSuccess hb
  have hback := @start_isDone tf _ _ _ hcount hsuccess
  rw [if_neg (by simp only [Bool.false_eq_true, false_or]; omega)] at hback
  refine ⟨data', hshows, .head (.task rfl (.answers (.scaleAsg hrun))) (hwait.trans ?_)⟩
  exact .head (.goto rfl) (.single (.goto hback))

/-- The next turn starts on what the data shows. -/
theorem InLoop.next_shows (h : InLoop component data outputs event)
    (hshows : Shows data' (nextOutput aws outputs event).modelDump) :
    InLoop component data' (outputs ++ [nextOutput aws outputs event]) (nextOutput aws outputs event) :=
  { @h.next aws with valid := hshows.modelValidate.trans (@h.next aws).valid }

/-- An invocation that does not find the recycling complete. -/
theorem InLoop.recycleSuccess_false (aws : Nat → Responses) (h : InLoop component data outputs event)
    (hplan : (aws outputs.length).plan component ≠ .finished) :
    (nextOutput aws outputs event).recycleSuccess = .set (some false) := by
  obtain ⟨b, st, hb, -, hnothing, -⟩ := @h.nextOutput_cases aws
  cases b with
  | false => exact hb
  | true => exact absurd (Responses.nothingLeft_iff.mp (hnothing.mp rfl)) hplan

end

/-- Two turns of the loop, the first one with a message that fails. -/
theorem reaches_failed_message : ∃ data outputs,
    Reaches (autoRecycle ⟨"", "", "", "", "", "", ""⟩) (FailingTasks renewing)
      (.at startAt freshPayload 0, []) (.at .recycleSingleInstanceAsg data 0, outputs) ∧
    outputs.length = 2 := by
  have hloop := InLoop.first modelValidate_freshPayload rfl
  obtain ⟨hscaleIn, hwaiting, -⟩ := plan_renewing
  have hfirst := hloop.recycleSuccess_false renewing fun hfinished => by
    cases hscaleIn.symm.trans hfinished
  obtain ⟨data, hshows, hback⟩ := hloop.comes_back_failing ⟨"", "", "", "", "", "", ""⟩ (Nat.zero_lt_succ 19)
    hfirst
  have hloop' := hloop.next_shows hshows
  have hsecond := hloop'.recycleSuccess_false renewing fun hfinished => by
    cases hwaiting.symm.trans hfinished
  obtain ⟨data', -, hback'⟩ := hloop'.comes_back_failing ⟨"", "", "", "", "", "", ""⟩ (by simp)
    hsecond
  exact ⟨data', _, .head (.goto (start_chooseRecycleStrategy (by simp [freshPayload, Dict.get?])))
    (hback.trans hback'), rfl⟩

theorem inOut_carries_failed_message : ∃ data outputs,
    Reaches (autoRecycle ⟨"", "", "", "", "", "", ""⟩) (FailingTasks renewing)
      (.at startAt freshPayload 0, []) (.at .recycleSingleInstanceAsg data 0, outputs) ∧
    outputs.length = 2 ∧ outputs.length ≤ 21 ∧
    (∀ k output, outputs[k]? = some output →
      Carries { component := "web", successChannel := "team-web" } output ∧
      output.counter = .set (some (k + 1 : Nat)) ∧ output.report = (renewing k).report "web") ∧
    ∃ event, Event.modelValidate data = .ok event ∧ event.counter.get.getD 0 < 60 := by
  obtain ⟨data, outputs, hreaches, htwo⟩ := reaches_failed_message
  obtain ⟨hlength, heach, hcount⟩ := inOut_carries ⟨"", "", "", "", "", "", ""⟩ renewing freshPayload
    { component := "web", successChannel := "team-web" } (by simp [freshPayload, Dict.get?])
    modelValidate_freshPayload rfl _ _ hreaches
  exact ⟨data, outputs, hreaches, htwo, hlength, heach, hcount data 0 rfl⟩

end AutoRecycle.ScaleAsg
