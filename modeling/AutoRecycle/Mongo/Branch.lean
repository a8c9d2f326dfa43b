/-
  AutoRecycle.Mongo.Branch

  The Mongo branch of the state machine: what its states do with the event that
  runs round the loop "Recycle Mongo Cluster", decision, wait, and what one
  invocation of the recycler makes of that event.
-/
import AutoRecycle.Lambdas

namespace AutoRecycle.Mongo

open AutoRecycle.Asl AutoRecycle.Data AutoRecycle.Effect AutoRecycle.Py AutoRecycle.StateMachine

-- ============================================================================
-- The event
-- ============================================================================

section
variable {key other : String} {v event out : Json}

theorem field?_setItem (h : setItem key v event = .ok out) : out.field? key = some v := by
  cases event with
  | obj fields =>
      cases h
      exact Dict.get?_set_self key v fields
  | _ => cases h

theorem field?_setItem_ne (h : setItem key v event = .ok out) (hne : other ≠ key) :
    out.field? other = event.field? other := by
  cases event with
  | obj fields =>
      cases h
      exact Dict.get?_set_ne hne v fields
  | _ => cases h

theorem field?_incrementCounter (h : incrementCounter event = .ok out) (hne : other ≠ "counter") :
    out.field? other = event.field? other := by
  rw [incrementCounter] at h
  split at h
  · exact field?_setItem_ne h hne
  · exact field?_setItem_ne h hne
  · cases h

theorem field?_setText (h : setText event = .ok out) (hne : other ≠ "message_content") :
    out.field? other = event.field? other := by
  rw [setText] at h
  cases hitem : getItem "message_content" event with
  | error e =>
      rw [hitem] at h
      cases h
  | ok content =>
      rw [hitem, ok_bind] at h
      cases htext : setItem "text" (.str (doneText event)) content with
      | error e =>
          rw [htext] at h
          cases h
      | ok content' =>
          rw [htext, ok_bind] at h
          exact field?_setItem_ne h hne

/-- The output of an invocation names the action of its step. -/
theorem finishEvent_action {d : Decision} (h : finishEvent event d = .ok out) :
    out.get? ["decision", "action"] = some (.str d.action.text) := by
  rw [finishEvent] at h
  cases hset : setItem "decision" (decisionJson d) event with
  | error e =>
      rw [hset] at h
      cases h
  | ok event₁ =>
      rw [hset, ok_bind] at h
      have hdecision : event₁.field? "decision" = some (decisionJson d) := field?_setItem hset
      suffices hfield : out.field? "decision" = some (decisionJson d) by
        rw [Json.get?_cons, hfield]
        simp [decisionJson, Dict.get?]
      by_cases hd : d.action = .done
      · rw [if_pos hd] at h
        cases htext : setText event₁ with
        | error e =>
            rw [htext] at h
            cases h
        | ok event₂ =>
            rw [htext, ok_bind] at h
            rw [field?_incrementCounter h (by decide), field?_setText htext (by decide), hdecision]
      · rw [if_neg hd, pure_eq_ok, ok_bind] at h
        rw [field?_incrementCounter h (by decide), hdecision]

end

/-- The event of the loop after `n` invocations of the recycler. -/
structure InLoop (component : String) (n : Nat) (event : Json) : Prop where
  component_eq : event.field? "component" = some (.str component)
  status_eq : event.field? "status" = some (.str "success")
  counter_eq : event.field? "counter" = if n = 0 then none else some (.num n)
  content_eq : ∃ content, event.field? "message_content" = some (.obj content)

namespace InLoop

variable {component : String} {n : Nat} {event : Json}

theorem getItem_component (h : InLoop component n event) :
    getItem "component" event = .ok (.str component) := by
  have hc := h.component_eq
  cases event with
  | obj fields => simp only [getItem, Json.field?_obj] at hc ⊢; rw [hc]; rfl
  | _ => cases hc

/-- The counter that the next run of `increment_counter` writes. -/
theorem incrementCounter_eq {fields : Dict Json} (h : (Json.obj fields).field? "counter" =
    if n = 0 then none else some (.num n)) :
    incrementCounter (.obj fields) = .ok (.obj (Dict.set "counter" (.num (n + 1 : Nat)) fields)) := by
  rw [incrementCounter, h]
  by_cases hn : n = 0
  · simp [hn, setItem]
  · simp [hn, setItem]

/-- What `setItem "counter"` at the end of an invocation leaves of the loop event. -/
theorem of_fields {fields : Dict Json}
    (hcomponent : (Json.obj fields).field? "component" = some (.str component))
    (hstatus : (Json.obj fields).field? "status" = some (.str "success"))
    (hcontent : ∃ content, (Json.obj fields).field? "message_content" = some (.obj content)) :
    InLoop component (n + 1) (.obj (Dict.set "counter" (.num (n + 1 : Nat)) fields)) where
  component_eq := by simpa [Dict.get?_set_ne] using hcomponent
  status_eq := by simpa [Dict.get?_set_ne] using hstatus
  counter_eq := by simp
  content_eq := by simpa [Dict.get?_set_ne] using hcontent

/-- The event after one more invocation, which took the step `d`. -/
theorem finishEvent_ok (h : InLoop component n event) (d : Decision) :
    ∃ out, finishEvent event d = .ok out ∧ InLoop component (n + 1) out ∧
      out.get? ["decision", "action"] = some (.str d.action.text) ∧
      (d.action = .done → out.get? ["message_content", "text"] = some (.str (doneText event))) := by
  obtain ⟨hcomponent, hstatus, hcounter, content, hcontent⟩ := h
  cases event with
  | obj fields =>
      have hdecided : setItem "decision" (decisionJson d) (.obj fields) =
          .ok (.obj (Dict.set "decision" (decisionJson d) fields)) := rfl
      rw [finishEvent, hdecided, ok_bind]
      simp only [Json.field?_obj] at hcomponent hstatus hcontent hcounter
      by_cases hd : d.action = .done
      · have htext : setText (.obj (Dict.set "decision" (decisionJson d) fields)) =
            .ok (.obj (Dict.set "message_content"
              (.obj (Dict.set "text" (.str (doneText (.obj fields))) content))
              (Dict.set "decision" (decisionJson d) fields))) := by
          have hsame : doneText (.obj (Dict.set "decision" (decisionJson d) fields)) =
              doneText (.obj fields) := by
            simp [doneText, Dict.get?_set_ne]
          simp [setText, getItem, getKey, Dict.get?_set_ne, hcontent, setItem, hsame]
        rw [if_pos hd, htext, ok_bind]
        refine ⟨_, incrementCounter_eq ?_, of_fields ?_ ?_ ?_, ?_, fun _ => ?_⟩
        · simpa [Dict.get?_set_ne] using hcounter
        · simpa [Dict.get?_set_ne] using hcomponent
        · simpa [Dict.get?_set_ne] using hstatus
        · simp
        · simp [Dict.get?_set_ne, decisionJson, Dict.get?]
        · simp [Dict.get?_set_ne]
      · rw [if_neg hd, pure_eq_ok, ok_bind]
        refine ⟨_, incrementCounter_eq ?_, of_fields ?_ ?_ ?_, ?_, fun h => absurd h hd⟩
        · simpa [Dict.get?_set_ne] using hcounter
        · simpa [Dict.get?_set_ne] using hcomponent
        · simpa [Dict.get?_set_ne] using hstatus
        · exact ⟨content, by simpa [Dict.get?_set_ne] using hcontent⟩
        · simp [Dict.get?_set_ne, decisionJson, Dict.get?]
  | _ => cases hcomponent

end InLoop

-- ============================================================================
-- The states of the branch
-- ============================================================================

section
variable {tf : TfVars} {data event component : Json}

/-- The message that "Mongo Recycle" makes of the payload. -/
def mongoMessage (tf : TfVars) (component : Json) : Json :=
  .obj [
    ("username", .str "AutoRecycling"),
    ("status", .str "success"),
    ("text", component),
    ("component", component),
    ("channels", .arr [.str tf.slackChannel]),
    ("message_content", .obj [("text", .str "Auto-recycling was successfully initiated"),
      ("fields", messageFields tf component)]),
    ("emoji", .str ":robot_face:")]

theorem inLoop_mongoMessage (tf : TfVars) (component : String) :
    InLoop component 0 (mongoMessage tf (.str component)) where
  component_eq := by simp [mongoMessage, Dict.get?]
  status_eq := by simp [mongoMessage, Dict.get?]
  counter_eq := by simp [mongoMessage, Dict.get?]
  content_eq := by simp [mongoMessage, Dict.get?]

theorem start_chooseRecycleStrategy (h : data.get? ["strategy"] = some (.str "mongo")) :
    (autoRecycle tf startAt).start data = .goto (.at .mongoRecycle data 0) := by
  simp [startAt, autoRecycle, StateDef.start, choose, Cond.eval, h]

theorem start_mongoRecycle (h : data.get? ["component"] = some component) :
    (autoRecycle tf .mongoRecycle).start data =
      .goto (.at .slackMessageMongo (mongoMessage tf component) 0) := by
  simp only [autoRecycle, StateDef.start, messageParameters, h]
  rfl

theorem start_mongoAutorecycleDecision {d : Decision}
    (h : event.get? ["decision", "action"] = some (.str d.action.text)) :
    (autoRecycle tf .mongoAutorecycleDecision).start event =
      .goto (.at (if d.action = .done then .slackMessageEnd else .waitForMongoAutorecycle) event 0) := by
  cases d <;> simp [autoRecycle, StateDef.start, choose, Cond.eval, h, Decision.action, Action.text]

theorem start_status (h : event.get? ["status"] = some (.str "success")) :
    (autoRecycle tf .status).start event = .goto (.at .success event 0) := by
  simp [autoRecycle, StateDef.start, choose, Cond.eval, h]

/-- From the payload to the first invocation of the recycler, the Slack lambda
    answering `out`. -/
theorem reaches_recycler {faults : TaskError → Prop} {W : Type} {K : Setting Calls W} {w w' : W}
    {calls : Trace Calls} {out : Json} (hstrategy : data.get? ["strategy"] = some (.str "mongo"))
    (hcomponent : data.get? ["component"] = some component)
    (hslack : Exec K (invoke "slack_notifications" (mongoMessage tf component)) w calls (.ret out) w') :
    Reaches (autoRecycle tf) ((lambdas faults).tasks K) (.at startAt data 0, w)
      (.at .recycleMongoCluster out 0, w') := by
  refine .head (.goto (start_chooseRecycleStrategy hstrategy)) ?_
  refine .head (.goto (start_mongoRecycle hcomponent)) ?_
  exact .head (.task rfl (Host.tasks.ret hslack)) .refl

/-- An invocation that raises takes the execution to the Fail state. -/
theorem reaches_failed_of_throw {faults : TaskError → Prop} {W : Type} {K : Setting Calls W}
    {w w₁ w₂ : W} {calls calls' : Trace Calls} {fields : Dict Json} {n : Nat} {e : PyExc}
    (hcomponent : Dict.get? "component" fields = some component)
    (hlambda : Exec K (lambdaHandler (.obj fields)) w calls (.throw e) w₁)
    (hslack : Exec K (invoke "slack_notifications" (lambdaErrorMessage tf component)) w₁ calls'
      (.ret (lambdaErrorMessage tf component)) w₂) :
    Reaches (autoRecycle tf) ((lambdas faults).tasks K)
      (.at .recycleMongoCluster (.obj fields) n, w) (.failed "Fail" "Execution failed", w₂) := by
  have hfinish : (lambdaTask .autorecycleMongo [] [] .mongoAutorecycleDecision).finish
      .recycleMongoCluster (.obj fields) n (.error (reportError e)) =
      .at .lambdaError (.obj (Dict.set "error-info" (reportError e).output fields)) 0 := by
    rw [finish_lambdaTask_error]
    rfl
  have hkept : Json.get? ["component"]
      (.obj (Dict.set "error-info" (reportError e).output fields)) = some component := by
    rw [Json.get?_cons, Json.field?_obj, Dict.get?_set_ne (by decide), hcomponent]
    rfl
  have hthrow : Step (autoRecycle tf) ((lambdas faults).tasks K)
      (.at .recycleMongoCluster (.obj fields) n, w)
      (.at .lambdaError (.obj (Dict.set "error-info" (reportError e).output fields)) 0, w₁) := by
    rw [← hfinish]
    exact .task rfl (Host.tasks.throw hlambda)
  exact .head hthrow
    ((lambdaError_reaches_fail hkept (Host.tasks.ret hslack)).tail (.goto rfl))

end

-- ============================================================================
-- Stages
-- ============================================================================

/-- What is known in each part of the branch: up to the first invocation, between
    two invocations, after an invocation with its decision, and once the loop is
    left. -/
structure Stages (W : Type) where
  before : W → Prop
  loop : W → Prop
  decided : Decision → W → Prop
  after : W → Prop

namespace Stages

variable {W : Type}

/-- The knowledge of `S` at a state of the branch.  The other states of the
    machine are not reached. -/
def At (S : Stages W) : Cfg State → W → Prop
  | .at .chooseRecycleStrategy data _, w =>
      data.get? ["strategy"] = some (.str "mongo") ∧ S.before w
  | .at .mongoRecycle _ _, w => S.before w
  | .at .slackMessageMongo _ _, w => S.before w
  | .at .recycleMongoCluster _ _, w => S.loop w
  | .at .waitForMongoAutorecycle _ _, w => S.loop w
  | .at .mongoAutorecycleDecision out _, w =>
      ∃ d : Decision, out.get? ["decision", "action"] = some (.str d.action.text) ∧ S.decided d w
  | .at .lambdaError _ _, w => S.after w
  | .at .slackMessageEnd _ _, w => S.after w
  | .at .status _ _, w => S.after w
  | .at .fail _ _, w => S.after w
  | .at .success _ _, w => S.after w
  | .at _ _ _, _ => False
  | .succeeded _, w => S.after w
  | .failed _ _, w => S.after w

/-- The stages follow each other. -/
structure Ordered (S : Stages W) : Prop where
  before_loop : ∀ {w}, S.before w → S.loop w
  loop_after : ∀ {w}, S.loop w → S.after w
  decided_done : ∀ {w}, S.decided .done w → S.after w
  decided_loop : ∀ {d w}, d ≠ .done → S.decided d w → S.loop w

variable {S : Stages W} {tf : TfVars} {w : W}

/-- What is known once the loop is left is known all along. -/
theorem at_after (hS : S.Ordered) {c : Cfg State} (h : S.At c w) : S.after w := by
  cases c with
  | «at» s data n =>
      cases s with
      | chooseRecycleStrategy => exact hS.loop_after (hS.before_loop h.2)
      | mongoRecycle => exact hS.loop_after (hS.before_loop h)
      | slackMessageMongo => exact hS.loop_after (hS.before_loop h)
      | recycleMongoCluster => exact hS.loop_after h
      | waitForMongoAutorecycle => exact hS.loop_after h
      | mongoAutorecycleDecision =>
          obtain ⟨d, -, hd⟩ := h
          by_cases hdone : d = .done
          · subst hdone
            exact hS.decided_done hd
          · exact hS.loop_after (hS.decided_loop hdone hd)
      | lambdaError => exact h
      | slackMessageEnd => exact h
      | status => exact h
      | fail => exact h
      | success => exact h
      | _ => exact h.elim
  | succeeded output => exact h
  | failed error cause => exact h

theorem at_putAndGo {path : Path} {v data : Json} {next : State} (hfailed : S.after w)
    (h : ∀ data', S.At (.at next data' 0) w) : S.At (putAndGo path v data next) w := by
  rcases putAndGo_cases path v data next with ⟨data', hgo⟩ | ⟨error, cause, hgo⟩
  · rw [hgo]
    exact h data'
  · rw [hgo]
    exact hfailed

/-- A state that goes on by itself. -/
theorem at_goto (hS : S.Ordered) {s : State} {data : Json} {n : Nat} {c : Cfg State}
    (h : S.At (.at s data n) w) (hs : (autoRecycle tf s).start data = .goto c) : S.At c w := by
  cases s with
  | chooseRecycleStrategy =>
      have hstart := @start_chooseRecycleStrategy tf data h.1
      rw [startAt] at hstart
      cases hstart.symm.trans hs
      exact h.2
  | mongoRecycle =>
      have hafter : S.after w := hS.loop_after (hS.before_loop h)
      simp only [autoRecycle, StateDef.start] at hs
      split at hs
      · cases hs
        exact at_putAndGo hafter fun _ => h
      · cases hs
        exact hafter
  | waitForMongoAutorecycle =>
      cases hs
      exact h
  | mongoAutorecycleDecision =>
      obtain ⟨d, haction, hd⟩ := h
      have hstart := @start_mongoAutorecycleDecision tf data d haction
      cases hstart.symm.trans hs
      cases d with
      | done => exact hS.decided_done hd
      | recycleSecondary node =>
          have hloop : S.loop w := hS.decided_loop (by simp) hd
          exact hloop
      | stepDownAndRecyclePrimary node =>
          have hloop : S.loop w := hS.decided_loop (by simp) hd
          exact hloop
  | lambdaError =>
      simp only [autoRecycle, StateDef.start] at hs
      split at hs
      · cases hs
        exact at_putAndGo h fun _ => h
      · cases hs
        exact h
  | status =>
      cases hs
      rw [choose]
      split <;> exact h
  | fail =>
      cases hs
      exact h
  | success =>
      cases hs
      exact h
  | slackMessageMongo => cases hs
  | recycleMongoCluster => cases hs
  | slackMessageEnd => cases hs
  | _ => exact h.elim

/-- The Task states of the branch: the two Slack messages and the recycler. -/
theorem task_cases {s : State} {data input : Json} {n : Nat} {t : Task State Resource}
    (h : S.At (.at s data n) w) (hs : (autoRecycle tf s).start data = .invoke t input) :
    input = data ∧
      ((s = .slackMessageMongo ∧ t = slackMessage .recycleMongoCluster ∧ S.before w) ∨
        (s = .slackMessageEnd ∧ t = slackMessage .status ∧ S.after w) ∨
        (s = .recycleMongoCluster ∧
          t = lambdaTask .autorecycleMongo [] [] .mongoAutorecycleDecision ∧ S.loop w)) := by
  cases s with
  | slackMessageMongo =>
      cases hs
      exact ⟨rfl, .inl ⟨rfl, rfl, h⟩⟩
  | slackMessageEnd =>
      cases hs
      exact ⟨rfl, .inr (.inl ⟨rfl, rfl, h⟩)⟩
  | recycleMongoCluster =>
      cases hs
      exact ⟨rfl, .inr (.inr ⟨rfl, rfl, h⟩)⟩
  | mongoRecycle =>
      simp only [autoRecycle, StateDef.start] at hs
      split at hs <;> cases hs
  | lambdaError =>
      simp only [autoRecycle, StateDef.start] at hs
      split at hs <;> cases hs
  | chooseRecycleStrategy => cases hs
  | waitForMongoAutorecycle => cases hs
  | mongoAutorecycleDecision => cases hs
  | status => cases hs
  | fail => cases hs
  | success => cases hs
  | _ => exact h.elim

theorem wp_invoke (function : String) (input : Json) {B : W → Prop} {K : Setting Calls W}
    {ok : W → Op → Prop} (hrely : ∀ {w w'}, K.rely w w' → B w → B w')
    (hinvoke : ∀ {w w'} {r : Except PyExc Json}, K.answers w (.invoke function input) r w' → B w → B w')
    (hok : ∀ {w}, B w → ok w (.invoke function input)) (h : B w) :
    (invoke function input).wp K ok (fun _ => B) (fun _ => B) w := by
  have hissues : (invoke function input).Issues fun op : Op => op = .invoke function input :=
    ⟨rfl, fun reply => issues_raise reply⟩
  apply hissues.wp
  · exact fun w w' hb hr => hrely hr hb
  · intro w op r w' hb hop ha
    subst hop
    exact hinvoke ha hb
  · intro w op hb hop
    subst hop
    exact hok hb
  · exact h

section
variable {faults : TaskError → Prop} {K : Setting Calls W} {c : Cfg State} {w' : W}

theorem at_rely (hrely : K.rely w w' → (S.before w → S.before w') ∧ (S.loop w → S.loop w') ∧
      (∀ d, S.decided d w → S.decided d w') ∧ (S.after w → S.after w'))
    (h : S.At c w) (hr : K.rely w w') : S.At c w' := by
  obtain ⟨hbefore, hloop, hdecided, hafter⟩ := hrely hr
  cases c with
  | «at» s data n =>
      cases s with
      | chooseRecycleStrategy => exact ⟨h.1, hbefore h.2⟩
      | mongoRecycle => exact hbefore h
      | slackMessageMongo => exact hbefore h
      | recycleMongoCluster => exact hloop h
      | waitForMongoAutorecycle => exact hloop h
      | mongoAutorecycleDecision =>
          obtain ⟨d, haction, hd⟩ := h
          exact ⟨d, haction, hdecided d hd⟩
      | lambdaError => exact hafter h
      | slackMessageEnd => exact hafter h
      | status => exact hafter h
      | fail => exact hafter h
      | success => exact hafter h
      | _ => exact h.elim
  | succeeded output => exact hafter h
  | failed error cause => exact hafter h

/-- The tasks of the branch lead from stage to stage. -/
theorem wp_task (hS : S.Ordered) {ok : W → Op → Prop}
    (hrely : ∀ {w w'}, K.rely w w' → (S.before w → S.before w') ∧ (S.loop w → S.loop w') ∧
      (∀ d, S.decided d w → S.decided d w') ∧ (S.after w → S.after w'))
    (hinvoke : ∀ {w w' function input} {r : Except PyExc Json},
      K.answers w (.invoke function input) r w' →
      (S.before w → S.before w') ∧ (S.after w → S.after w'))
    (hok : ∀ {w function input}, S.after w → ok w (.invoke function input))
    (hrecycle : ∀ {event w}, S.loop w → (lambdaHandler event).wp K ok
      (fun out w => ∃ d : Decision, out.get? ["decision", "action"] = some (.str d.action.text) ∧
        S.decided d w) (fun _ => S.after) w)
    {s : State} {data input : Json} {n : Nat} {t : Task State Resource}
    (h : S.At (.at s data n) w) (hs : (autoRecycle tf s).start data = .invoke t input) :
    (lambda t.resource input).wp K ok (fun out w => S.At (t.finish s data n (.ok out)) w)
      (fun e w => S.At (t.finish s data n (.error (reportError e))) w) w := by
  obtain ⟨rfl, ⟨rfl, rfl, hw⟩ | ⟨rfl, rfl, hw⟩ | ⟨rfl, rfl, hw⟩⟩ := task_cases h hs
  · have hinv := wp_invoke "slack_notifications" input (fun hr => (hrely hr).1) (fun ha => (hinvoke ha).1)
      (fun hb => hok (hS.loop_after (hS.before_loop hb))) hw
    refine Prog.wp_mono (fun out w' hb => ?_) (fun e w' hb => ?_) hinv
    · rw [Task.finish_ok]
      exact at_putAndGo (hS.loop_after (hS.before_loop hb)) fun _ => hS.before_loop hb
    · rw [finish_slackMessage_error]
      exact at_putAndGo (hS.loop_after (hS.before_loop hb)) fun _ => hS.before_loop hb
  · have hinv := wp_invoke "slack_notifications" input (fun hr => (hrely hr).2.2.2) (fun ha => (hinvoke ha).2) hok hw
    refine Prog.wp_mono (fun out w' ha => ?_) (fun e w' ha => ?_) hinv
    · rw [Task.finish_ok]
      exact at_putAndGo ha fun _ => ha
    · rw [finish_slackMessage_error]
      exact at_putAndGo ha fun _ => ha
  · refine Prog.wp_mono (fun out w' hd => ?_) (fun e w' ha => ?_) (hrecycle hw)
    · exact hd
    · rw [finish_lambdaTask_error]
      exact at_putAndGo ha fun _ => ha

/-- The rule for the runs of the branch: the Slack messages and the passing of
    time keep every stage, and an invocation of the recycler leads from `loop`
    to `decided`, or with an exception to `after`. -/
theorem invariant (hS : S.Ordered) {ok : W → Op → Prop} {F : W → Prop}
    (hrely : ∀ {w w'}, K.rely w w' → (S.before w → S.before w') ∧ (S.loop w → S.loop w') ∧
      (∀ d, S.decided d w → S.decided d w') ∧ (S.after w → S.after w'))
    (hinvoke : ∀ {w w' function input} {r : Except PyExc Json},
      K.answers w (.invoke function input) r w' →
      (S.before w → S.before w') ∧ (S.after w → S.after w'))
    (hok : ∀ {w function input}, S.after w → ok w (.invoke function input))
    (hrecycle : ∀ {event w}, S.loop w → (lambdaHandler event).wp K ok
      (fun out w => ∃ d : Decision, out.get? ["decision", "action"] = some (.str d.action.text) ∧
        S.decided d w) (fun _ => S.after) w)
    (hfault : ∀ {e w}, faults e → F w → S.after w ∧ ∀ w₀, S.before w₀ ∨ S.loop w₀ → S.loop w)
    (hF : ∀ {w}, S.after w → F w) (hokF : ∀ {w op}, ok w op → F w) :
    Invariant (autoRecycle tf) (lambdas faults) K S.At ok F where
  rely h hr := at_rely hrely h hr
  goto h hs := at_goto hS h hs
  task h hs := wp_task hS hrely hinvoke hok hrecycle h hs
  fault := by
    intro s data n t input e w hw₀ hs he hF'
    obtain ⟨w₀, h⟩ := hw₀
    obtain ⟨hafter, hloop⟩ := hfault he hF'
    obtain ⟨rfl, ⟨rfl, rfl, hw⟩ | ⟨rfl, rfl, hw⟩ | ⟨rfl, rfl, hw⟩⟩ := task_cases h hs
    · rw [finish_slackMessage_error]
      exact at_putAndGo hafter fun _ => hloop w₀ (.inl hw)
    · rw [finish_slackMessage_error]
      exact at_putAndGo hafter fun _ => hafter
    · have hw' : S.loop w := hloop w₀ (.inr hw)
      rcases finish_lambdaTask_fault n e with hfinish | hfinish
      · rw [hfinish]
        exact hw'
      · rw [hfinish]
        exact at_putAndGo hafter fun _ => hafter
  idle_any h := hF (at_after hS h)
  call_any := hokF

/-- The rule with failures of the service that the machine does not retry: they
    may come at any time, and leave the loop. -/
theorem holds_reaches (hS : S.Ordered)
    (hrely : ∀ {w w'}, K.rely w w' → (S.before w → S.before w') ∧ (S.loop w → S.loop w') ∧
      (∀ d, S.decided d w → S.decided d w') ∧ (S.after w → S.after w'))
    (hinvoke : ∀ {w w' function input} {r : Except PyExc Json},
      K.answers w (.invoke function input) r w' →
      (S.before w → S.before w') ∧ (S.after w → S.after w'))
    (hrecycle : ∀ {event w}, S.loop w → (lambdaHandler event).wp K (fun w _ => S.after w)
      (fun out w => ∃ d : Decision, out.get? ["decision", "action"] = some (.str d.action.text) ∧
        S.decided d w) (fun _ => S.after) w)
    (hfaults : ∀ {e}, faults e → errorEquals lambdaErrors e = false)
    {x y : Live Calls State Resource × W} (h : Invariant.Holds (autoRecycle tf) (lambdas faults) K S.At x)
    (hr : Live.Reaches (autoRecycle tf) (lambdas faults) K x y) :
    Invariant.Holds (autoRecycle tf) (lambdas faults) K S.At y ∧ S.after y.2 := by
  have htask : ∀ {s data n t input w}, S.At (.at s data n) w →
      (autoRecycle tf s).start data = .invoke t input → (lambda t.resource input).wp K
        (fun w _ => S.after w) (fun out w => S.At (t.finish s data n (.ok out)) w)
        (fun e w => S.At (t.finish s data n (.error (reportError e))) w) w :=
    fun h hs => wp_task hS hrely hinvoke id hrecycle h hs
  -- inside a task, `after` holds
  have hinside : ∀ {s data n t input calls p w₀ w}, S.At (.at s data n) w₀ →
      (autoRecycle tf s).start data = .invoke t input →
      Exec K (lambda t.resource input) w₀ calls p w → S.after w := by
    intro s data n t input calls p w₀ w h hs hx
    exact hx.holds_of_wp (Prog.wp_mono (fun _ _ h => at_after hS h) (fun _ _ h => at_after hS h)
      (htask h hs))
  have hkept : Invariant.Holds (autoRecycle tf) (lambdas faults) K S.At y := by
    refine Invariant.holds_of_runs ?_ ?_ ?_ ?_ ?_ h hr
    · exact fun h hr => at_rely hrely h hr
    · exact fun h hs => at_goto hS h hs
    · exact fun h hs hx => hx.ret_post (htask h hs)
    · exact fun h hs hx => hx.throw_post (htask h hs)
    intro s data n t input calls p e w₀ w h hs hx he
    have hafter : S.after w := hinside h hs hx
    obtain ⟨rfl, ⟨rfl, rfl, hw⟩ | ⟨rfl, rfl, hw⟩ | ⟨rfl, rfl, hw⟩⟩ := task_cases h hs
    · have hbefore : S.before w := hx.holds_of_wp (wp_invoke "slack_notifications" input
        (fun hr => (hrely hr).1) (fun ha => (hinvoke ha).1) id hw)
      rw [finish_slackMessage_error]
      exact at_putAndGo hafter fun _ => hS.before_loop hbefore
    · rw [finish_slackMessage_error]
      exact at_putAndGo hafter fun _ => hafter
    · rw [finish_lambdaTask_of_not_retried (hfaults he)]
      exact at_putAndGo hafter fun _ => hafter
  refine ⟨hkept, ?_⟩
  obtain ⟨l, w⟩ := y
  cases l with
  | idle c => exact at_after hS hkept
  | busy s data n t calls p =>
      obtain ⟨input, w₀, hs, hw₀, hx⟩ := hkept
      exact hinside hw₀ hs hx

end

end Stages

end AutoRecycle.Mongo
