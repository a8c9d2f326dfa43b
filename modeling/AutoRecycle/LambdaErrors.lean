/-
  AutoRecycle.LambdaErrors

  The error edges of the state machine.

  "Lambda Error" sets up its message from `$.component` of the state data.  Every
  state hands the component on: the recycling lambdas return it, the Pass states
  write it, and the other results go to fields of their own.  A catcher with a
  result path adds to the data that the failed Task was entered with, so the
  component is still there; a catcher without one puts the error in their place.
-/
import AutoRecycle.InstanceRefresh
import AutoRecycle.Mongo.Branch
import AutoRecycle.Standard.Autorecycle
import AutoRecycle.Standard.Monitor

namespace AutoRecycle

open AutoRecycle.Asl AutoRecycle.Data AutoRecycle.Effect AutoRecycle.StateMachine

-- ============================================================================
-- What the lambdas return
-- ============================================================================

/-- The state data have the field `$.component`. -/
def HasComponent (data : Json) : Prop := ∃ component, data.get? ["component"] = some component

theorem hasComponent_iff {data : Json} :
    HasComponent data ↔ ∃ component, data.field? "component" = some component := by
  simp [HasComponent, Option.bind_eq_some_iff]

/-- Another field was written. -/
theorem HasComponent.put {key : String} {v data data' : Json} (h : HasComponent data)
    (hput : Json.put? [key] v data = some data') (hkey : key ≠ "component") :
    HasComponent data' := by
  obtain ⟨component, hcomponent⟩ := h
  exact ⟨component, by rw [Json.get?_put?_ne hput (Ne.symm hkey), hcomponent]⟩

namespace ScaleAsg

theorem hasComponent_modelDump (e : Event) : HasComponent e.modelDump := by
  rw [hasComponent_iff]
  simp [Event.modelDump, Event.entries, get?_entry_append, get?_entry]

theorem returns_lambdaHandler (input : Json) : (lambdaHandler input).Returns HasComponent :=
  Prog.returns_bind _ hasComponent_modelDump

end ScaleAsg

namespace Mongo

theorem hasComponent_of_getItem {event v : Json} (h : getItem "component" event = .ok v) :
    HasComponent event := by
  rw [hasComponent_iff]
  cases event with
  | obj fields =>
      rw [getItem] at h
      rw [Json.field?_obj]
      cases hget : Dict.get? "component" fields with
      | some component => exact ⟨component, rfl⟩
      | none =>
          rw [hget] at h
          cases h
  | _ => cases h

/-- The step and the counter are written to fields of their own. -/
theorem HasComponent.finishEvent {event out : Json} {d : Decision} (h : HasComponent event)
    (hfinish : finishEvent event d = .ok out) : HasComponent out := by
  rw [hasComponent_iff] at h ⊢
  obtain ⟨decided, hdecided, hrest⟩ := bind_eq_ok.mp hfinish
  rw [← field?_setItem_ne hdecided (by decide)] at h
  by_cases hdone : d.action = .done
  · rw [if_pos hdone] at hrest
    obtain ⟨texted, htexted, hcounted⟩ := bind_eq_ok.mp hrest
    rw [field?_incrementCounter hcounted (by decide), field?_setText htexted (by decide)]
    exact h
  · rw [if_neg hdone, pure_eq_ok, ok_bind] at hrest
    rw [field?_incrementCounter hrest (by decide)]
    exact h

theorem returns_lambdaHandler (event : Json) : (lambdaHandler event).Returns HasComponent := by
  rw [lambdaHandler]
  refine (Prog.returns_ofExcept_bind _ _).mpr fun component hcomponent => ?_
  have hend : ∀ d : Decision, (Py.raise (finishEvent event d)).Returns HasComponent := by
    intro d
    refine (Prog.returns_ofExcept _).mpr fun out hfinish => ?_
    exact HasComponent.finishEvent (hasComponent_of_getItem hcomponent) hfinish
  have hstep : (Py.raise (componentName component) >>= fun name => step name >>= fun d =>
      Py.raise (finishEvent event d)).Returns HasComponent :=
    Prog.returns_bind _ fun _ => Prog.returns_bind _ hend
  split
  · exact Prog.returns_bind _ fun _ => hstep
  · exact hstep

end Mongo

namespace Standard

theorem returns_autorecycleHandler (event : Json) :
    (autorecycleHandler event).Returns HasComponent := by
  rw [autorecycleHandler]
  refine Prog.returns_bind _ fun component => Prog.returns_bind _ fun accountId => ?_
  refine Prog.returns_bind _ fun channel => ?_
  intro response environment
  exact ⟨component, rfl⟩

section
variable {event output out : Dict Json} {key : String} {v : Json}

theorem get?_setContent (h : setContent key v output = .ok out) :
    Dict.get? "component" out = Dict.get? "component" output := by
  obtain ⟨content, -, hset⟩ := bind_eq_ok.mp h
  split at hset
  · cases hset
    exact Dict.get?_set_ne (by decide) _ _
  · cases hset

theorem get?_setDefault (hkey : "component" ≠ key) :
    Dict.get? "component" (setDefault key v output) = Dict.get? "component" output := by
  rw [setDefault]
  split
  · exact Dict.get?_set_ne hkey _ _
  · rfl

theorem get?_countInvocation {counter : Int} (h : countInvocation event = .ok (counter, out)) :
    Dict.get? "component" out = Dict.get? "component" event := by
  obtain ⟨count, -, hrest⟩ := bind_eq_ok.mp h
  obtain ⟨counted, -, hout⟩ := bind_eq_ok.mp hrest
  cases hout
  rw [Dict.get?_set_ne (by decide), get?_setDefault (by decide), get?_setDefault (by decide)]

theorem get?_giveUp (h : giveUp output = .ok out) :
    Dict.get? "component" out = Dict.get? "component" output := by
  obtain ⟨colored, hcolored, hrest⟩ := bind_eq_ok.mp h
  obtain ⟨texted, htexted, hrest⟩ := bind_eq_ok.mp hrest
  obtain ⟨channels, -, hout⟩ := bind_eq_ok.mp hrest
  cases hout
  rw [Dict.get?_set_ne (by decide), Dict.get?_set_ne (by decide), Dict.get?_set_ne (by decide),
    get?_setContent htexted, get?_setContent hcolored]

theorem get?_finished {text : String} (h : finished text output = .ok out) :
    Dict.get? "component" out = Dict.get? "component" output := by
  obtain ⟨texted, htexted, hout⟩ := bind_eq_ok.mp h
  cases hout
  rw [Dict.get?_set_ne (by decide), get?_setContent htexted]

theorem get?_conclude {r : Except PyExc Bool} (h : conclude output r = .ok out) :
    Dict.get? "component" out = Dict.get? "component" output := by
  cases r with
  | ok b =>
      cases b with
      | true => exact get?_finished h
      | false =>
          cases h
          exact Dict.get?_set_ne (by decide) _ _
  | error e =>
      rw [conclude] at h
      split at h
      · exact get?_finished h
      · cases h

/-- The monitor keeps the component of its event. -/
theorem returns_monitorAutorecycle (event : Dict Json) : (monitorAutorecycle event).Returns
    fun out => Dict.get? "component" out = Dict.get? "component" event := by
  rw [monitorAutorecycle]
  refine (Prog.returns_ofExcept_bind _ _).mpr ?_
  rintro ⟨counter, output⟩ hcount
  have hsame := get?_countInvocation hcount
  dsimp only
  split
  · refine (Prog.returns_ofExcept _).mpr fun out hgive => ?_
    rw [get?_giveUp hgive, hsame]
  · refine Prog.returns_bind _ fun component => Prog.returns_bind _ fun r => ?_
    refine (Prog.returns_ofExcept _).mpr fun out hconclude => ?_
    rw [get?_conclude hconclude, hsame]

end

theorem returns_monitorHandler (event : Json) : (monitorHandler event).Returns HasComponent := by
  cases event with
  | obj fields =>
      have hin : isIn "component" (.obj fields) = .ok (Dict.get? "component" fields).isSome := rfl
      rw [monitorHandler, hin]
      cases hcomponent : Dict.get? "component" fields with
      | none => trivial
      | some component =>
          show (monitorAutorecycle fields >>= fun output => Prog.ret (Json.obj output)).Returns _
          refine Prog.Returns.bind (returns_monitorAutorecycle fields) fun out hout => ?_
          exact hasComponent_iff.mpr ⟨component, hout.trans hcomponent⟩
  | _ =>
      refine Prog.returns_bind _ fun isPresent => ?_
      cases isPresent <;> trivial

end Standard

namespace LambdaErrors

-- ============================================================================
-- The tasks
-- ============================================================================

/-- The Slack lambda returns its input.  The modelled lambdas return what their
    programs return, whatever their calls are answered; the lambdas of an
    instance refresh return anything.  All of these can fail with any error, of
    the code or of the service. -/
inductive LambdaTasks : Tasks Resource Unit where
  | slack {input} : LambdaTasks .slackNotifications input () (.ok input) ()
  | autorecycle {input tr out}
      (h : Runs (fun _ _ => True) (Standard.autorecycleHandler input) tr (.ret out)) :
      LambdaTasks .autorecycle input () (.ok out) ()
  | scaleAsg {input tr out}
      (h : Runs (fun _ _ => True) (ScaleAsg.lambdaHandler input) tr (.ret out)) :
      LambdaTasks .autorecycleScaleAsg input () (.ok out) ()
  | mongo {input tr out} (h : Runs (fun _ _ => True) (Mongo.lambdaHandler input) tr (.ret out)) :
      LambdaTasks .autorecycleMongo input () (.ok out) ()
  | monitor {input tr out}
      (h : Runs (fun _ _ => True) (Standard.monitorHandler input) tr (.ret out)) :
      LambdaTasks .monitorAutorecycle input () (.ok out) ()
  | refresh {r input out}
      (hr : r ∈ [.startInstanceRefresh, .cancelInstanceRefresh, .getInstanceRefreshStatus]) :
      LambdaTasks r input () (.ok out) ()
  | failed {r input e} (hr : r ≠ .slackNotifications) : LambdaTasks r input () (.error e) ()

/-- The resources whose result becomes the state data. -/
def recyclers : List Resource :=
  [.autorecycle, .autorecycleScaleAsg, .autorecycleMongo, .monitorAutorecycle]

theorem LambdaTasks.hasComponent {r : Resource} {input out : Json}
    (h : LambdaTasks r input () (.ok out) ()) (hr : r ∈ recyclers) : HasComponent out := by
  cases h with
  | slack => exact absurd hr (by decide)
  | autorecycle h => exact h.returns (Standard.returns_autorecycleHandler input)
  | scaleAsg h => exact h.returns (ScaleAsg.returns_lambdaHandler input)
  | mongo h => exact h.returns (Mongo.returns_lambdaHandler input)
  | monitor h => exact h.returns (Standard.returns_monitorHandler input)
  | refresh hrefresh =>
      simp only [List.mem_cons, List.not_mem_nil, or_false] at hrefresh
      rcases hrefresh with rfl | rfl | rfl <;> exact absurd hr (by decide)

-- ============================================================================
-- The states
-- ============================================================================

section
variable {tf : TfVars} {s next : State} {data v : Json} {n : Nat}

/-- The fields that the instance refresh writes its results to. -/
theorem output_ne_component (name : String) : name ++ "-output" ≠ "component" := by
  intro h
  have hdash : '-' ∈ "component".toList := by
    rw [← h, String.toList_append]
    exact List.mem_append_right _ (by decide)
  exact absurd hdash (by decide)

/-- The catchers add the error to the state data, all but one. -/
theorem catcher_cases {t : Task State Resource} {c : Catcher State}
    (h : autoRecycle tf s = .task t) (hc : c ∈ t.catchers) :
    (s ≠ .monitorInstanceRefreshProgress ∧ c.resultPath = ["error-info"]) ∨
      (s = .monitorInstanceRefreshProgress ∧ c.resultPath = [] ∧ c.next = .lambdaError) := by
  cases s with
  | monitorInstanceRefreshProgress =>
      cases h
      rw [List.mem_singleton.mp hc]
      exact .inr ⟨rfl, rfl, rfl⟩
  | _ =>
      cases h <;>
        rw [List.mem_singleton.mp hc] <;>
        exact .inl ⟨by decide, rfl⟩

/-- How a Task treats the state data: a Slack message and a recycling lambda
    return the whole of them, the lambdas of an instance refresh write a field. -/
inductive Writes : Task State Resource → Prop where
  | slack {target : State} : Writes (slackMessage target)
  | recycler {r : Resource} {target : State} (hr : r ∈ recyclers) : Writes (lambdaTask r [] [] target)
  | field {t : Task State Resource} {key : String} (hpath : t.resultPath = [key])
      (hkey : key ≠ "component") : Writes t

theorem writes_of_task {t : Task State Resource} (h : autoRecycle tf s = .task t) : Writes t := by
  cases s with
  | standardRecycle => cases h; exact .recycler (by decide)
  | recycleSingleInstanceAsg => cases h; exact .recycler (by decide)
  | monitorAutorecycling => cases h; exact .recycler (by decide)
  | recycleMongoCluster => cases h; exact .recycler (by decide)
  | slackMessageSingleInstanceAsg => cases h; exact .slack
  | slackMessageStart => cases h; exact .slack
  | slackMessageMongo => cases h; exact .slack
  | slackMessageInstanceRefresh => cases h; exact .slack
  | slackMessageEnd => cases h; exact .slack
  | instanceRefreshStart => cases h; exact .field rfl (output_ne_component _)
  | instanceRefreshCancel => cases h; exact .field rfl (output_ne_component _)
  | monitorInstanceRefreshStatus => cases h; exact .field rfl (output_ne_component _)
  | monitorInstanceRefreshProgress => cases h; exact .field rfl (output_ne_component _)
  | _ => cases h

/-- The Pass states write a message with the component, or a field. -/
theorem component_of_pass {result : Json → Option Json} {path : Path}
    (h : autoRecycle tf s = .pass result path next) :
    (path = [] ∧ ∀ message, result data = some message → HasComponent message) ∨
      path = ["instance_refresh_status_state"] := by
  have hmessage : ∀ {status channels content message},
      messageParameters tf status channels content data = some message → HasComponent message := by
    intro status channels content message hm
    obtain ⟨component, -, hm⟩ := Option.bind_eq_some_iff.mp hm
    cases hm
    exact ⟨component, rfl⟩
  cases s with
  | mongoRecycle => cases h; exact .inl ⟨rfl, fun _ => hmessage⟩
  | instanceRefresh => cases h; exact .inl ⟨rfl, fun _ => hmessage⟩
  | successfulInstanceRefresh => cases h; exact .inl ⟨rfl, fun _ => hmessage⟩
  | failedInstanceRefresh => cases h; exact .inl ⟨rfl, fun _ => hmessage⟩
  | recordInstanceRefreshStatusState => cases h; exact .inr rfl
  | lambdaError =>
      cases h
      refine .inl ⟨rfl, fun message hm => ?_⟩
      obtain ⟨component, -, hm⟩ := Option.bind_eq_some_iff.mp hm
      cases hm
      exact ⟨component, rfl⟩
  | _ => cases h

end

-- ============================================================================
-- The invariant
-- ============================================================================

/-- Up to "Lambda Error" the state data have the component. -/
def Keeps : Cfg State → Prop
  | .at s data _ => s ≠ .lambdaError → HasComponent data
  | .succeeded _ => True
  | .failed _ _ => True

section
variable {tf : TfVars} {s next : State} {data v : Json} {n : Nat} {c : Cfg State}

theorem keeps_putAndGo_field {key : String} (h : HasComponent data) (hkey : key ≠ "component") :
    Keeps (putAndGo [key] v data next) := by
  rw [putAndGo]
  split
  · rename_i data' hput
    exact fun _ => h.put hput hkey
  · trivial

theorem keeps_choose {default : Option State} (h : HasComponent data) (rules : List (Cond × State)) :
    Keeps (choose default data rules) := by
  rcases choose_cases default data rules with ⟨target, -, heq⟩ | ⟨error, cause, heq⟩
  · rw [heq]
    exact fun _ => h
  · rw [heq]
    trivial

/-- A state that goes on by itself. -/
theorem keeps_goto (h : Keeps (.at s data n)) (hs : (autoRecycle tf s).start data = .goto c) :
    Keeps c := by
  by_cases herror : s = .lambdaError
  · subst herror
    simp only [autoRecycle, StateDef.start] at hs
    split at hs
    · rename_i message hmessage
      cases hs
      obtain ⟨component, -, hm⟩ := Option.bind_eq_some_iff.mp hmessage
      cases hm
      exact fun _ => ⟨component, rfl⟩
    · cases hs
      trivial
  have hcomponent := h herror
  cases hd : autoRecycle tf s with
  | task t =>
      rw [hd, StateDef.start] at hs
      split at hs
      · cases hs
      · cases hs
        trivial
  | choice rules default =>
      rw [hd] at hs
      cases hs
      exact keeps_choose hcomponent rules
  | wait seconds next =>
      rw [hd] at hs
      cases hs
      exact fun _ => hcomponent
  | pass result path next =>
      rw [hd, StateDef.start] at hs
      split at hs
      · rename_i v hv
        cases hs
        rcases @component_of_pass tf s next data result path hd with ⟨rfl, hmessage⟩ | rfl
        · exact fun _ => hmessage v hv
        · exact keeps_putAndGo_field hcomponent (by decide)
      · cases hs
        trivial
  | succeed =>
      rw [hd] at hs
      cases hs
      trivial
  | fail error cause =>
      rw [hd] at hs
      cases hs
      trivial

/-- A failed Task is done again, or its error is caught. -/
theorem keeps_error {t : Task State Resource} (e : TaskError) (h : HasComponent data)
    (ht : autoRecycle tf s = .task t) : Keeps (t.finish s data n (.error e)) := by
  rw [Task.finish]
  split
  · exact fun _ => h
  split
  · rename_i catcher hfind
    rcases catcher_cases ht (List.mem_of_find?_eq_some hfind) with ⟨-, hpath⟩ | ⟨-, hpath, hnext⟩
    · rw [hpath]
      exact keeps_putAndGo_field h (by decide)
    · rw [hpath, hnext]
      exact fun hne => absurd rfl hne
  · trivial

/-- The answer of a Task. -/
theorem keeps_task {t : Task State Resource} {input : Json} {answer : Except TaskError Json}
    (h : HasComponent data) (hs : (autoRecycle tf s).start data = .invoke t input)
    (hT : LambdaTasks t.resource input () answer ()) : Keeps (t.finish s data n answer) := by
  cases hd : autoRecycle tf s with
  | task t' =>
      rw [hd, StateDef.start] at hs
      split at hs
      · rename_i input' hinput
        cases hs
        cases writes_of_task hd with
        | slack =>
            cases answer with
            | ok out =>
                cases hT with
                | slack =>
                    cases hinput
                    exact fun _ => h
                | refresh hr => exact absurd hr (by simp [slackMessage])
            | error e => exact keeps_error e h hd
        | recycler hr =>
            cases answer with
            | ok out => exact fun _ => hT.hasComponent hr
            | error e => exact keeps_error e h hd
        | field hpath hkey =>
            cases answer with
            | ok out =>
                rw [Task.finish_ok, hpath]
                exact keeps_putAndGo_field h hkey
            | error e => exact keeps_error e h hd
      · cases hs
  | choice rules default =>
      rw [hd] at hs
      cases hs
  | wait seconds next =>
      rw [hd] at hs
      cases hs
  | pass result path next =>
      rw [hd, StateDef.start] at hs
      split at hs <;> cases hs
  | succeed =>
      rw [hd] at hs
      cases hs
  | fail error cause =>
      rw [hd] at hs
      cases hs

/-- The invariant holds along every run. -/
theorem keeps_reaches {x y : Cfg State × Unit} (h : Keeps x.1)
    (hr : Reaches (autoRecycle tf) LambdaTasks x y) : Keeps y.1 := by
  induction hr with
  | refl => exact h
  | tail _ hs ih =>
      cases hs with
      | goto hs => exact keeps_goto ih hs
      | task hs hT =>
          refine keeps_task (ih fun herror => ?_) hs hT
          -- "Lambda Error" is no Task
          subst herror
          simp only [autoRecycle, StateDef.start] at hs
          split at hs <;> cases hs

end

-- ============================================================================
-- Notified errors
-- ============================================================================

section
variable {tf : TfVars} {s : State} {data data' input : Json} {n k : Nat}

/-- From "Lambda Error" with `data` the execution sends a message with the status
    "fail" and comes to the Fail state, and it has no other end. -/
def Notified (tf : TfVars) (data : Json) : Prop :=
  HasComponent data ∧ ∃ message, message.get? ["status"] = some (.str "fail") ∧
    Reaches (autoRecycle tf) LambdaTasks (.at .lambdaError data 0, ())
      (.at .slackMessageEnd message 0, ()) ∧
    Reaches (autoRecycle tf) LambdaTasks (.at .slackMessageEnd message 0, ()) (.at .fail message 0, ()) ∧
    ∀ e, Ends (autoRecycle tf) LambdaTasks (.at .lambdaError data 0, ()) (e, ()) →
      e = .failed "Fail" "Execution failed"

/-- An execution that is about to send its last message, with the status "fail",
    has one end. -/
theorem ends_of_fail {message : Json} {e : Cfg State}
    (hstatus : message.get? ["status"] = some (.str "fail"))
    (h : Ends (autoRecycle tf) LambdaTasks (.at .slackMessageEnd message 0, ()) (e, ())) :
    e = .failed "Fail" "Execution failed" := by
  obtain ⟨hr, hend⟩ := h
  rcases hr.cases_head with hx | ⟨x₁, hs₁, hr₁⟩
  · cases hx
    exact hend.elim
  obtain ⟨answer, w, hT, rfl⟩ := Step.of_invoke rfl hs₁
  have hanswer : answer = .ok message := by
    cases hT with
    | slack => rfl
    | refresh hr => exact absurd hr (by simp [slackMessage])
    | failed hr => exact absurd rfl hr
  subst hanswer
  rcases hr₁.cases_head with hx | ⟨x₂, hs₂, hr₂⟩
  · cases hx
    exact hend.elim
  have hchoice := @start_status_eq tf message "fail" hstatus
  rw [if_pos rfl] at hchoice
  obtain rfl := Step.of_goto hchoice hs₂
  rcases hr₂.cases_head with hx | ⟨x₃, hs₃, hr₃⟩
  · cases hx
    exact hend.elim
  obtain rfl := Step.of_goto rfl hs₃
  rcases hr₃.cases_head with hx | ⟨x₄, hs₄, -⟩
  · cases hx
    rfl
  · exact absurd trivial hs₄.not_ended

/-- With the component in the data the error is notified. -/
theorem notified_iff : Notified tf data ↔ HasComponent data := by
  constructor
  · exact fun h => h.1
  · intro h
    obtain ⟨component, hcomponent⟩ := id h
    have hstatus : (lambdaErrorMessage tf component).get? ["status"] = some (.str "fail") := by
      simp [lambdaErrorMessage, Dict.get?]
    refine ⟨h, lambdaErrorMessage tf component, hstatus, .single (.goto (start_lambdaError hcomponent)),
      reaches_fail hstatus .slack, ?_⟩
    rintro e ⟨hr, hend⟩
    rcases hr.cases_head with hx | ⟨x, hs, hr'⟩
    · cases hx
      exact hend.elim
    obtain rfl := Step.of_goto (start_lambdaError hcomponent) hs
    exact ends_of_fail hstatus ⟨hr', hend⟩

theorem not_hasComponent_output (e : TaskError) : ¬ HasComponent e.output := by
  rintro ⟨component, h⟩
  simp [TaskError.output, Dict.get?] at h

/-- Every caught error is notified but those of one Task.  In every run that is
    started with a component, and at every Task whose error is caught with
    "Lambda Error" as the next state, the data still have the component, the
    message is sent with the status "fail" and the execution fails, exactly when
    the Task is not "Monitor Instance Refresh Progress": its catcher, unlike the
    seven others, puts the error in the place of the data. -/
theorem caught_error_notified_iff (tf : TfVars) (payload : Json) (hcomponent : HasComponent payload)
    (s : State) (data : Json) (n : Nat)
    (hrun : Reaches (autoRecycle tf) LambdaTasks (.at startAt payload 0, ()) (.at s data n, ()))
    (t : Task State Resource) (input : Json) (hstart : (autoRecycle tf s).start data = .invoke t input)
    (e : TaskError) (data' : Json) (k : Nat)
    (hcaught : t.finish s data n (.error e) = .at .lambdaError data' k) :
    Notified tf data' ↔ s ≠ .monitorInstanceRefreshProgress := by
  have hs : s ≠ .lambdaError := by
    rintro rfl
    simp only [autoRecycle, StateDef.start] at hstart
    split at hstart <;> cases hstart
  have hpayload : Keeps (.at startAt payload 0) := fun _ => hcomponent
  have hdata : HasComponent data := keeps_reaches hpayload hrun hs
  have hdef : autoRecycle tf s = .task t := by
    cases hd : autoRecycle tf s with
    | task t' =>
        rw [hd, StateDef.start] at hstart
        split at hstart
        · cases hstart
          rfl
        · cases hstart
    | pass result path next =>
        rw [hd, StateDef.start] at hstart
        split at hstart <;> cases hstart
    | _ =>
        rw [hd] at hstart
        cases hstart
  rw [Task.finish] at hcaught
  split at hcaught
  · cases hcaught
    exact absurd rfl hs
  split at hcaught
  · rename_i catcher hfind
    have hput : Json.put? catcher.resultPath e.output data = some data' := by
      rw [putAndGo] at hcaught
      split at hcaught
      · rename_i written hput
        injection hcaught with _ hwritten _
        rw [hput, hwritten]
      · cases hcaught
    rw [notified_iff]
    rcases catcher_cases hdef (List.mem_of_find?_eq_some hfind) with ⟨hother, hpath⟩ | ⟨hmonitor, hpath, -⟩
    · rw [hpath] at hput
      exact iff_of_true (hdata.put hput (by decide)) hother
    · rw [hpath] at hput
      cases hput
      exact iff_of_false (not_hasComponent_output e) (fun h => h hmonitor)
  · cases hcaught

end

-- ============================================================================
-- Two errors
-- ============================================================================

/-- The error of a lambda that raises a `TypeError`. -/
def typeError : TaskError := { error := "TypeError", cause := "" }

def outInPayload : Json := .obj [("component", .str "web"), ("strategy", .str "out-in")]

theorem caught_error_notified_iff_standardRecycle :
    Notified InstanceRefresh.refreshVars
        (.obj [("component", .str "web"), ("strategy", .str "out-in"), ("error-info", typeError.output)]) ↔
      State.standardRecycle ≠ .monitorInstanceRefreshProgress :=
  caught_error_notified_iff InstanceRefresh.refreshVars outInPayload ⟨.str "web", rfl⟩ .standardRecycle
    outInPayload 0 (.single (.goto rfl)) _ _ rfl typeError _ 0 rfl

open InstanceRefresh (refreshVars refreshPayload startedFields)

/-- No refresh is under way, and one is started. -/
theorem reaches_started :
    Reaches (autoRecycle refreshVars) LambdaTasks (.at startAt refreshPayload 0, ())
      (.at .monitorInstanceRefreshProgress (.obj startedFields) 0, ()) := by
  have hlook := @LambdaTasks.refresh .getInstanceRefreshStatus refreshPayload (.obj []) (by simp)
  have hstarts : ∀ input, LambdaTasks .startInstanceRefresh input ()
      (.ok (.obj [("instance_refresh_id", .str "1")])) () := fun _ => .refresh (by simp)
  refine .head (.goto rfl) (.head (.task rfl hlook) ?_)
  refine .head (.goto rfl) (.head (.goto rfl) (.head (.task rfl .slack) ?_))
  exact .head (.task rfl (hstarts _)) (.single (.goto rfl))

/-- The status lambda raises while a refresh is polled: the error is caught, and
    "Lambda Error" fails for want of the component.  No message is sent. -/
theorem caught_error_not_notified :
    ∃ (tf : TfVars) (payload : Json) (s : State) (data : Json) (t : Task State Resource) (input : Json)
      (e : TaskError) (data' : Json), HasComponent payload ∧
      Reaches (autoRecycle tf) LambdaTasks (.at startAt payload 0, ()) (.at s data 0, ()) ∧
      (autoRecycle tf s).start data = .invoke t input ∧
      t.finish s data 0 (.error e) = .at .lambdaError data' 0 ∧
      ¬ HasComponent data' ∧ ¬ Notified tf data' ∧
      Ends (autoRecycle tf) LambdaTasks (.at startAt payload 0, ())
        (.failed "States.ParameterPathFailure" "invalid path", ()) := by
  refine ⟨refreshVars, refreshPayload, .monitorInstanceRefreshProgress, .obj startedFields, _, _, typeError,
    _, ⟨.str "web", rfl⟩, reaches_started, rfl, rfl, not_hasComponent_output typeError,
    fun h => not_hasComponent_output typeError h.1, ?_, trivial⟩
  have hfails : Step (autoRecycle refreshVars) LambdaTasks
      (.at .monitorInstanceRefreshProgress (.obj startedFields) 0, ())
      (.at .lambdaError typeError.output 0, ()) := by
    have hraise := @LambdaTasks.failed .getInstanceRefreshStatus
      (.obj [("instance_refresh_id", .str "1")]) typeError (by decide)
    exact @Step.task _ _ _ (autoRecycle refreshVars) LambdaTasks .monitorInstanceRefreshProgress
      (.obj startedFields) 0 _ _ () _ () rfl hraise
  exact (reaches_started.tail hfails).tail (.goto rfl)

end LambdaErrors

end AutoRecycle
