/-
  AutoRecycle.Mongo.InProgress

  The record of a recycle in progress, and how long it lasts.

  `record_recycle_starting` writes a record that expires 900 seconds later, and
  only an invocation whose event has no counter calls it: the first one of a
  run, or an attempt at it after a failure of the service.  The run may go on
  for any number of invocations; none of these writes another record.  So at
  each `terminate` the record of the run is there, and it is live up to a fixed
  time.
-/
import AutoRecycle.Mongo.Configuration

namespace AutoRecycle.Mongo

open AutoRecycle.Asl AutoRecycle.Data AutoRecycle.Effect AutoRecycle.Py AutoRecycle.StateMachine

-- ============================================================================
-- The table
-- ============================================================================

/-- An item of the table `mongo_recycle_in_progress`. -/
structure Record where
  replicasetName : Json
  /-- In seconds since the epoch. -/
  expiryTime : Int

/-- The clock, when the run last asked for the time, and the record that it has
    written last. -/
structure Ledger where
  clock : Micros
  askedAt : Option Micros := none
  written : Option Record := none

def wholeSeconds (t : Micros) : Int := t / 1000000

namespace Ledger

/-- The record of the run expires later than now. -/
def Live (w : Ledger) : Prop := ∃ r, w.written = some r ∧ w.clock < seconds r.expiryTime

/-- The run is as far as it was, later. -/
def Later (w w' : Ledger) : Prop :=
  w.clock ≤ w'.clock ∧ w'.askedAt = w.askedAt ∧ w'.written = w.written

/-- The replies.  A call may take any time; a lambda that is not modelled, here
    the Slack lambda, returns its input if it returns. -/
def answers (w : Ledger) : (op : Op) → op.Reply → Ledger → Prop
  | .time, r, w' => r = wholeSeconds w.clock ∧ w' = { w with askedAt := some w.clock }
  | .putItem replicasetName expiryTime, r, w' =>
      match r with
      | .ok () => w.clock ≤ w'.clock ∧ w'.askedAt = w.askedAt ∧
          w'.written = some { replicasetName, expiryTime }
      | .error _ => w.Later w'
  | .sleep secs, _, w' => w.Later w' ∧ w.clock + seconds secs ≤ w'.clock
  | .invoke _ input, r, w' => w.Later w' ∧ ∀ out, r = .ok out → out = input
  | _, _, w' => w.Later w'

theorem Later.refl (w : Ledger) : w.Later w := ⟨Int.le_refl _, rfl, rfl⟩

theorem Later.trans {w₁ w₂ w₃ : Ledger} (h₁ : w₁.Later w₂) (h₂ : w₂.Later w₃) : w₁.Later w₃ :=
  ⟨Int.le_trans h₁.1 h₂.1, h₂.2.1.trans h₁.2.1, h₂.2.2.trans h₁.2.2⟩

/-- Time passes. -/
def setting : Setting Calls Ledger where
  answers := answers
  rely := Later
  rely_refl := Later.refl
  rely_trans := Later.trans

/-- The record of the run is the one that expires 900 seconds after the time was
    asked for. -/
def Recorded (w : Ledger) : Prop :=
  ∃ replicasetName t, w.askedAt = some t ∧ t ≤ w.clock ∧
    w.written = some { replicasetName, expiryTime := wholeSeconds t + 900 }

theorem Recorded.later {w w' : Ledger} (h : w.Recorded) (hl : w.Later w') : w'.Recorded := by
  obtain ⟨replicasetName, t, hasked, hle, hwritten⟩ := h
  exact ⟨replicasetName, t, hl.2.1.trans hasked, Int.le_trans hle hl.1, hl.2.2.trans hwritten⟩

/-- The calls that do not record a start let time pass. -/
theorem later_of_answers {w w' : Ledger} {op : Op} {r : op.Reply} (h : answers w op r w')
    (hop : isRecordCall op = false) : w.Later w' := by
  cases op with
  | time => cases hop
  | putItem replicasetName expiryTime => cases hop
  | sleep secs => exact h.1
  | invoke function input => exact h.1
  | _ => exact h

end Ledger

-- ============================================================================
-- One invocation
-- ============================================================================

section
variable {component event : Json} {name : String} {w w' : Ledger} {calls : Trace Calls} {P : Op → Prop}

theorem issues_step (hP : ∀ op, isRecordCall op = false → P op) : (step name).Issues P := by
  refine Prog.Issues.bind ?_ fun observed => ?_
  · exact issues_observe (fun _ => hP _ rfl) (fun _ _ => hP _ rfl) (fun _ => hP _ rfl)
      (fun _ => hP _ rfl) (fun _ => hP _ rfl) fun _ _ => hP _ rfl
  · refine (issues_log_bind _ _).mpr ⟨hP _ rfl, ?_⟩
    exact Prog.Issues.bind (issues_executeAction fun op _ hop _ => hP op hop) fun _ => trivial

theorem issues_takeStep (hP : ∀ op, isRecordCall op = false → P op) :
    (takeStep event component).Issues P :=
  (issues_raise_bind _ _).mpr fun _ _ => (issues_step hP).bind fun _ => issues_raise _

/-- An invocation whose event has a counter records nothing. -/
theorem issues_lambdaHandler_of_counter (h : isFirstRun event = false)
    (hP : ∀ op, isRecordCall op = false → P op) : (lambdaHandler event).Issues P := by
  rw [lambdaHandler_eq]
  refine (issues_raise_bind _ _).mpr fun component _ => ?_
  rw [if_neg (by simp [h])]
  exact issues_takeStep hP

/-- What does not record a start keeps the record, and terminates only with it. -/
theorem wp_recorded {α : Type} {p : Py α} (hp : p.Issues fun op => isRecordCall op = false)
    (h : w.Recorded) : p.wp Ledger.setting (fun w op => isTerminate op = true → w.Recorded)
      (fun _ w => w.Recorded) (fun _ _ => True) w := by
  refine Prog.wp_mono (fun _ _ h => h) (fun _ _ _ => trivial) (hp.wp ?_ ?_ ?_ h)
  · exact fun w w' h hl => h.later hl
  · exact fun w op r w' h hop ha => h.later (Ledger.later_of_answers ha hop)
  · exact fun w op h _ _ => h

/-- The record is written after the time was asked for. -/
theorem wp_recordRecycleStarting : (recordRecycleStarting component).wp Ledger.setting
    (fun w op => isTerminate op = true → w.Recorded) (fun _ w => w.Recorded) (fun _ _ => True) w := by
  intro w₁ _
  refine ⟨nofun, fun _ w₂ _ w₃ _ => ⟨nofun, fun (now : Int) w₄ hnow w₅ hl => ⟨nofun, ?_⟩⟩⟩
  intro (r : Except PyExc Unit) w₆ hput
  obtain ⟨hnow, rfl⟩ := hnow
  cases r with
  | ok u =>
      obtain ⟨hle, hasked, hwritten⟩ := hput
      have hrecorded : w₆.Recorded := by
        refine ⟨component, w₃.clock, ?_, Int.le_trans hl.1 hle, ?_⟩
        · rw [hasked, hl.2.1]
        · rw [hwritten, hnow]
      exact fun w₇ hl' => hrecorded.later hl'
  | error e => exact fun w₇ _ => ⟨nofun, fun _ w₈ _ w₉ _ => trivial⟩

/-- An invocation terminates only with the record, its own or that of an earlier
    one, and leaves it behind. -/
theorem wp_lambdaHandler_recorded (h : isFirstRun event = true ∨ w.Recorded) :
    (lambdaHandler event).wp Ledger.setting (fun w op => isTerminate op = true → w.Recorded)
      (fun _ w => w.Recorded) (fun _ _ => True) w := by
  rw [lambdaHandler_eq]
  refine wp_raise_bind (fun component _ => ?_) fun _ _ _ _ => trivial
  by_cases hfirst : isFirstRun event = true
  · rw [if_pos hfirst, Prog.wp_bind]
    refine Prog.wp_mono (fun _ y hy => ?_) (fun _ _ h => h) wp_recordRecycleStarting
    exact wp_recorded (issues_takeStep fun _ h => h) hy
  · rw [if_neg hfirst]
    exact wp_recorded (issues_takeStep fun _ h => h) (h.resolve_left hfirst)

end

-- ============================================================================
-- Whole runs
-- ============================================================================

/-- Where a run is, and whether it has recorded its start: an event without a
    counter has yet to be recorded, or is to be recorded again. -/
def Starting : Cfg State → Ledger → Prop
  | .at .chooseRecycleStrategy data _, _ => data.get? ["strategy"] = some (.str "mongo")
  | .at .mongoRecycle _ _, _ => True
  | .at .slackMessageMongo data _, _ => data.field? "counter" = none
  | .at .recycleMongoCluster data _, w => isFirstRun data = true ∨ w.Recorded
  | .at .mongoAutorecycleDecision _ _, w => w.Recorded
  | .at .waitForMongoAutorecycle _ _, w => w.Recorded
  | .at .lambdaError _ _, _ => True
  | .at .slackMessageEnd _ _, _ => True
  | .at .status _ _, _ => True
  | .at .fail _ _, _ => True
  | .at .success _ _, _ => True
  | .at _ _ _, _ => False
  | .succeeded _, _ => True
  | .failed _ _, _ => True

section
variable {tf : TfVars} {faults : TaskError → Prop} {s next : State} {data input v : Json} {n : Nat}
  {c : Cfg State} {w w' : Ledger}

theorem isFirstRun_of_no_counter (h : data.field? "counter" = none) : isFirstRun data = true := by
  rw [isFirstRun, h]
  rfl

theorem starting_putAndGo {path : Path} (h : ∀ data', Json.put? path v data = some data' →
    Starting (.at next data' 0) w) : Starting (putAndGo path v data next) w := by
  rw [putAndGo]
  split
  · rename_i data' hput
    exact h data' hput
  · trivial

theorem Starting.later (h : Starting c w) (hl : w.Later w') : Starting c w' := by
  cases c with
  | «at» s data n =>
      cases s with
      | recycleMongoCluster => exact h.imp_right fun hw => hw.later hl
      | mongoAutorecycleDecision => exact Ledger.Recorded.later h hl
      | waitForMongoAutorecycle => exact Ledger.Recorded.later h hl
      | _ => exact h
  | _ => trivial

/-- A state that goes on by itself. -/
theorem Starting.goto (h : Starting (.at s data n) w)
    (hs : (autoRecycle tf s).start data = .goto c) : Starting c w := by
  cases s with
  | chooseRecycleStrategy =>
      have hstart := @start_chooseRecycleStrategy tf data h
      rw [startAt] at hstart
      cases hstart.symm.trans hs
      trivial
  | mongoRecycle =>
      cases hcomponent : data.get? ["component"] with
      | some component =>
          cases (start_mongoRecycle hcomponent).symm.trans hs
          show (mongoMessage tf component).field? "counter" = none
          simp [mongoMessage, Dict.get?]
      | none =>
          simp only [autoRecycle, StateDef.start, messageParameters, hcomponent] at hs
          cases hs
          trivial
  | waitForMongoAutorecycle =>
      cases hs
      exact .inr h
  | mongoAutorecycleDecision =>
      cases hs
      simp only [choose]
      repeat' split
      all_goals first | exact h | exact .inr h | trivial
  | lambdaError =>
      simp only [autoRecycle, StateDef.start] at hs
      split at hs
      · cases hs
        trivial
      · cases hs
        trivial
  | status =>
      cases hs
      rw [choose]
      split <;> trivial
  | fail =>
      cases hs
      trivial
  | success =>
      cases hs
      trivial
  | slackMessageMongo => cases hs
  | recycleMongoCluster => cases hs
  | slackMessageEnd => cases hs
  | _ => exact h.elim

/-- The Task states of the branch. -/
theorem Starting.task_cases {t : Task State Resource} (h : Starting (.at s data n) w)
    (hs : (autoRecycle tf s).start data = .invoke t input) :
    input = data ∧
      ((s = .slackMessageMongo ∧ t = slackMessage .recycleMongoCluster ∧
          data.field? "counter" = none) ∨
        (s = .slackMessageEnd ∧ t = slackMessage .status) ∨
        (s = .recycleMongoCluster ∧
          t = lambdaTask .autorecycleMongo [] [] .mongoAutorecycleDecision ∧
          (isFirstRun data = true ∨ w.Recorded))) := by
  cases s with
  | slackMessageMongo =>
      cases hs
      exact ⟨rfl, .inl ⟨rfl, rfl, h⟩⟩
  | slackMessageEnd =>
      cases hs
      exact ⟨rfl, .inr (.inl ⟨rfl, rfl⟩)⟩
  | recycleMongoCluster =>
      cases hs
      exact ⟨rfl, .inr (.inr ⟨rfl, rfl, h⟩)⟩
  | mongoRecycle =>
      simp only [autoRecycle, StateDef.start] at hs
      split at hs <;> cases hs
  | lambdaError =>
      simp only [autoRecycle, StateDef.start] at hs
      split at hs <;> cases hs
  | chooseRecycleStrategy => cases hs
  | waitForMongoAutorecycle => cases hs
  | mongoAutorecycleDecision => cases hs
  | status => cases hs
  | fail => cases hs
  | success => cases hs
  | _ => exact h.elim

/-- A Slack message that failed leaves the event without a counter. -/
theorem starting_slack_error (h : data.field? "counter" = none) (e : TaskError) :
    Starting ((slackMessage .recycleMongoCluster).finish .slackMessageMongo data n (.error e)) w := by
  rw [finish_slackMessage_error]
  refine starting_putAndGo fun data' hput => .inl (isFirstRun_of_no_counter ?_)
  cases data with
  | obj fields =>
      cases hput
      rw [Json.field?_obj] at h ⊢
      rw [Dict.get?_set_ne (by decide), h]
  | _ => cases hput

/-- The Slack lambda returns its input. -/
theorem slack_returns {input out : Json} {calls : Trace Calls}
    (h : Exec Ledger.setting (invoke "slack_notifications" input) w calls (.ret out) w') :
    out = input := by
  obtain ⟨r, calls', w₁, w₂, rfl, -, ha, h'⟩ := Exec.call_ret_inv h
  obtain ⟨-, rfl⟩ := raise_ret_inv h'
  exact ha.2 out rfl

/-- An attempt that fails is made again on the same event, or ends the loop. -/
theorem starting_recycler_error (h : isFirstRun data = true ∨ w.Recorded) (e : TaskError) :
    Starting ((lambdaTask .autorecycleMongo [] [] .mongoAutorecycleDecision).finish
      .recycleMongoCluster data n (.error e)) w := by
  rcases finish_lambdaTask_fault n e with hfinish | hfinish
  · rw [hfinish]
    exact h
  · rw [hfinish]
    exact starting_putAndGo fun _ _ => trivial

/-- Whatever an invocation has done so far, its event has no counter or the
    record is still there. -/
theorem starting_kept {event : Json} {calls : Trace Calls} {p : Py Json}
    (h : isFirstRun event = true ∨ w.Recorded)
    (hx : Exec Ledger.setting (lambdaHandler event) w calls p w') :
    isFirstRun event = true ∨ w'.Recorded := by
  by_cases hfirst : isFirstRun event = true
  · exact .inl hfirst
  · have hissues : (lambdaHandler event).Issues fun op : Op => isRecordCall op = false :=
      issues_lambdaHandler_of_counter (by simpa using hfirst) fun _ h => h
    have hw : (lambdaHandler event).wp Ledger.setting (fun w _ => w.Recorded)
        (fun _ w => w.Recorded) (fun _ w => w.Recorded) w := by
      refine hissues.wp ?_ ?_ ?_ (h.resolve_left hfirst)
      · exact fun w w' h hl => h.later hl
      · exact fun w op r w' h hop ha => h.later (Ledger.later_of_answers ha hop)
      · exact fun w op h _ => h
    exact .inr (hx.holds_of_wp hw)

/-- However a task fails, and wherever in its run. -/
theorem Starting.task_error {input : Json} {calls : Trace Calls} {p : Py Json} (e : TaskError)
    (h : Starting (.at s data n) w) (hs : (autoRecycle tf s).start data = .invoke t input)
    (hx : Exec Ledger.setting ((lambdas faults).impl t.resource input) w calls p w') :
    Starting (t.finish s data n (.error e)) w' := by
  obtain ⟨rfl, ⟨rfl, rfl, hcounter⟩ | ⟨rfl, rfl⟩ | ⟨rfl, rfl, hw⟩⟩ := h.task_cases hs
  · exact starting_slack_error hcounter e
  · rw [finish_slackMessage_error]
    exact starting_putAndGo fun _ _ => trivial
  · exact starting_recycler_error (starting_kept hw hx) e

theorem starting_reaches {l l' : Live Calls State Resource}
    (h : Invariant.Holds (autoRecycle tf) (lambdas faults) Ledger.setting Starting (l, w))
    (hr : Live.Reaches (autoRecycle tf) (lambdas faults) Ledger.setting (l, w) (l', w')) :
    Invariant.Holds (autoRecycle tf) (lambdas faults) Ledger.setting Starting (l', w') := by
  refine Invariant.holds_of_runs (fun h hl => h.later hl) (fun h hs => h.goto hs) ?_
    (fun h hs hx => h.task_error _ hs hx) (fun h hs hx _ => h.task_error _ hs hx) h hr
  intro s data n t input calls out w₀ w h hs hx
  obtain ⟨rfl, ⟨rfl, rfl, hcounter⟩ | ⟨rfl, rfl⟩ | ⟨rfl, rfl, hw⟩⟩ := h.task_cases hs
  · obtain rfl := slack_returns hx
    exact .inl (isFirstRun_of_no_counter hcounter)
  · trivial
  · exact hx.ret_post (wp_lambdaHandler_recorded hw)

end

-- ============================================================================
-- The record at a terminate
-- ============================================================================

/-- At each `terminate` of a run of the branch, after any number of invocations
    of any length: the record that the run has written last expires 900 seconds
    after the second in which its first invocation asked for the time, an
    invocation with a counter has written none, and so the record is live
    exactly as long as the clock is before that time. -/
theorem record_at_terminate (tf : TfVars) (faults : TaskError → Prop) (payload : Json)
    (hstrategy : payload.get? ["strategy"] = some (.str "mongo")) (w₀ w : Ledger) (s : State)
    (event : Json) (n : Nat) (t : Task State Resource) (calls : Trace Calls) (id : String)
    (next : Except PyExc Unit → Py Json)
    (h : Live.Reaches (autoRecycle tf) (lambdas faults) Ledger.setting (.idle (.at startAt payload 0), w₀)
      (.busy s event n t calls (.call (.terminate id) next), w)) :
    ∃ replicasetName asked, w.askedAt = some asked ∧ asked ≤ w.clock ∧
      w.written = some { replicasetName, expiryTime := wholeSeconds asked + 900 } ∧
      (isFirstRun event = false → ∀ ev ∈ calls, isRecordCall ev.1 = false) ∧
      (w.Live ↔ w.clock < seconds (wholeSeconds asked + 900)) := by
  have hstart : Invariant.Holds (autoRecycle tf) (lambdas faults) Ledger.setting Starting
      (.idle (.at startAt payload 0), w₀) := hstrategy
  obtain ⟨input, w₁, hs, hstarting, hx⟩ := starting_reaches hstart h
  have hslack : ∀ {target : State}, t = slackMessage target → False := by
    rintro target rfl
    have hissues : (lambda .slackNotifications input).Issues (· ≠ Op.terminate id) :=
      issues_lambda (by decide) (by simp) (by simp) (by simp) (by simp) (by simp) (by simp) input
    exact absurd rfl (hx.issues hissues).2.1
  obtain ⟨rfl, ⟨-, ht, -⟩ | ⟨-, ht⟩ | ⟨rfl, rfl, hw⟩⟩ := hstarting.task_cases hs
  · exact (hslack ht).elim
  · exact (hslack ht).elim
  · have hrecorded : w.Recorded :=
      (hx.wp (wp_lambdaHandler_recorded hw) w (Ledger.Later.refl w)).1 rfl
    obtain ⟨replicasetName, asked, hasked, hle, hwritten⟩ := hrecorded
    refine ⟨replicasetName, asked, hasked, hle, hwritten, fun hcounter => ?_, ?_⟩
    · exact (hx.issues (issues_lambdaHandler_of_counter hcounter fun _ h => h)).1
    · rw [Ledger.Live, hwritten]
      simp

-- ============================================================================
-- Two invocations
-- ============================================================================

/-- Three members, of which the second and the third are to be recycled.  From its
    `terminate` in second 0 the second member takes 490 seconds to shut down,
    and its replacement is in sync in second 850. -/
def slowSet (clock : Micros) : SteadySet where
  targetAmi := "ami-2"
  instances :=
    [SteadySet.running "i-a" "ami-2" "10.0.0.1",
      if clock = 0 then SteadySet.running "i-b" "ami-1" "10.0.0.2"
      else SteadySet.running "i-d" "ami-2" "10.0.0.2",
      SteadySet.running "i-c" "ami-1" "10.0.0.3"]
  myState ip := if ip = "10.0.0.1" then 1 else 2
  members :=
    [SteadySet.member "10.0.0.1" "PRIMARY",
      SteadySet.member "10.0.0.2"
        (if clock = 0 ∨ seconds 850 ≤ clock then "SECONDARY" else "STARTUP2"),
      SteadySet.member "10.0.0.3" "SECONDARY"]

/-- Only the pauses take time.  The script ends at the `terminate` of the third
    member. -/
def slowAnswer (w : Ledger) : (op : Op) → Option (op.Reply × Ledger)
  | .time => some (wholeSeconds w.clock, { w with askedAt := some w.clock })
  | .putItem replicasetName expiryTime =>
      some (.ok (), { w with written := some { replicasetName, expiryTime } })
  | .sleep secs => some ((), { w with clock := w.clock + seconds secs })
  | .describeInstancesById instanceId => some (.ok [{ instances :=
      [{ instanceId, imageId := "ami-1", networkInterfaces := [],
         stateName := if w.clock < seconds 490 then "shutting-down" else "terminated" }] }], w)
  | .replSetGetConfig _ => some (.ok
      { version := if w.clock = 0 then 1 else 2,
        settings := { chainingAllowed := w.clock = 0, others := [] }, others := [] }, w)
  | .terminate id => if id = "i-c" then none else some (.ok (), w)
  | op => some ((slowSet w.clock).reply op, w)

theorem slowAnswer_answers (w : Ledger) (op : Op) (r : op.Reply) (w' : Ledger)
    (h : slowAnswer w op = some (r, w')) : Ledger.answers w op r w' := by
  cases op with
  | time => cases h; exact ⟨rfl, rfl⟩
  | putItem replicasetName expiryTime => cases h; exact ⟨Int.le_refl _, rfl, rfl⟩
  | sleep secs =>
      cases h
      have hle : w.clock ≤ w.clock + seconds secs :=
        Int.le_add_of_nonneg_right (Int.mul_nonneg (Int.natCast_nonneg secs) (by decide))
      exact ⟨⟨hle, rfl, rfl⟩, Int.le_refl _⟩
  | terminate id =>
      rw [slowAnswer] at h
      split at h
      · cases h
      · cases h
        exact .refl w
  | invoke function input =>
      cases h
      refine ⟨.refl w, fun out hout => ?_⟩
      cases hout
      rfl
  | _ => cases h; exact .refl w

/-- The first invocation, its event for the next one, and the next one after the
    wait, up to its `terminate`. -/
def slowWalk : Trace Calls × Py Json × Ledger := (lambdaHandler firstEvent).walk slowAnswer { clock := 0 }

def slowEvent : Json := slowWalk.2.1.value?.getD .null

def waited : Ledger := { slowWalk.2.2 with clock := slowWalk.2.2.clock + seconds 60 }

def slowWalk₂ : Trace Calls × Py Json × Ledger := (lambdaHandler slowEvent).walk slowAnswer waited

/-- The first invocation recycles the second member and returns. -/
theorem slow_first : slowWalk.2.1 = .ret slowEvent ∧
    slowEvent.get? ["decision", "action"] = some (.str Action.recycleSecondary.text) ∧
    slowWalk.2.2.clock = seconds 850 := by
  have hret : slowWalk.2.1.value?.isSome = true := by decide +kernel
  obtain ⟨out, hout⟩ := Option.isSome_iff_exists.mp hret
  have hevent : slowEvent = out := by
    rw [slowEvent, hout]
    rfl
  have hwalk : slowWalk.2.1 = .ret slowEvent := by
    rw [hevent]
    exact Prog.value?_eq_some.mp hout
  have hexec := Prog.walk_exec Ledger.setting slowAnswer slowAnswer_answers (lambdaHandler firstEvent)
    { clock := 0 }
  rw [← slowWalk, hwalk] at hexec
  have hruns : Runs (fun _ _ => True) _ _ _ := hexec.runs fun _ _ _ _ _ => trivial
  obtain ⟨d, hd, haction⟩ := outcomes_lambdaHandler hruns
  have hrecycle : (outcomes slowWalk.1).map Decision.action = [.recycleSecondary] := by decide +kernel
  rw [hd, List.map_singleton, List.singleton_inj] at hrecycle
  rw [hrecycle] at haction
  exact ⟨hwalk, haction, by decide +kernel⟩

/-- The next one comes to the `terminate` of the third. -/
theorem slow_second : ∃ next : Except PyExc Unit → Py Json,
    slowWalk₂.2.1 = .call (.terminate "i-c") next ∧ slowWalk₂.2.2.clock = seconds 910 ∧
      ∃ r, slowWalk₂.2.2.written = some r ∧ r.expiryTime = 900 := by
  have hterminating : terminating? slowWalk₂.2.1 = some "i-c" := by decide +kernel
  obtain ⟨next, hnext⟩ := terminating?_eq_some hterminating
  have hwritten : slowWalk₂.2.2.written.map Record.expiryTime = some 900 := by decide +kernel
  exact ⟨next, hnext, by decide +kernel, Option.map_eq_some_iff.mp hwritten⟩

/-- The runs of the example. -/
abbrev SlowReaches : Live Calls State Resource × Ledger → Live Calls State Resource × Ledger → Prop :=
  Live.Reaches (autoRecycle noVars) (lambdas fun _ => False) Ledger.setting

def recycler : Task State Resource := lambdaTask .autorecycleMongo [] [] .mongoAutorecycleDecision

theorem slow_run : ∃ next : Except PyExc Unit → Py Json,
    SlowReaches (.idle (.at startAt mongoPayload 0), { clock := 0 })
      (.busy .recycleMongoCluster firstEvent 0 recycler [] (lambdaHandler firstEvent), { clock := 0 }) ∧
    SlowReaches
      (.busy .recycleMongoCluster firstEvent 0 recycler [] (lambdaHandler firstEvent), { clock := 0 })
      (.idle (.at .waitForMongoAutorecycle slowEvent 0), slowWalk.2.2) ∧
    SlowReaches (.idle (.at .waitForMongoAutorecycle slowEvent 0), slowWalk.2.2)
      (.busy .recycleMongoCluster slowEvent 0 recycler [] (lambdaHandler slowEvent), waited) ∧
    SlowReaches (.busy .recycleMongoCluster slowEvent 0 recycler [] (lambdaHandler slowEvent), waited)
      (.busy .recycleMongoCluster slowEvent 0 recycler slowWalk₂.1 (.call (.terminate "i-c") next),
        slowWalk₂.2.2) := by
  obtain ⟨hwalk, haction, -⟩ := slow_first
  obtain ⟨next, hwalk₂, -, -⟩ := slow_second
  have hfirst := Prog.walk_exec Ledger.setting slowAnswer slowAnswer_answers (lambdaHandler firstEvent)
    { clock := 0 }
  rw [← slowWalk, hwalk] at hfirst
  have hsecond := Prog.walk_exec Ledger.setting slowAnswer slowAnswer_answers (lambdaHandler slowEvent)
    waited
  rw [← slowWalk₂, hwalk₂] at hsecond
  have hslack : Exec Ledger.setting (invoke "slack_notifications" firstEvent) { clock := 0 }
      [⟨.invoke "slack_notifications" firstEvent, .ok firstEvent⟩] (.ret firstEvent) { clock := 0 } := by
    refine .call (Ledger.Later.refl _) ⟨Ledger.Later.refl _, fun out hout => ?_⟩ (.refl _ _)
    cases hout
    rfl
  have hstart := @reaches_recycler noVars mongoPayload (.str "web_mongo") (fun _ => False) _ _ _ _ _ _
    (by simp [mongoPayload, Dict.get?]) (by simp [mongoPayload, Dict.get?]) hslack
  have hdecision := @start_mongoAutorecycleDecision noVars slowEvent (.recycleSecondary oldPrimary) haction
  rw [if_neg (by decide)] at hdecision
  have hwait : Ledger.Later slowWalk.2.2 waited :=
    ⟨Int.le_add_of_nonneg_right (by decide), rfl, rfl⟩
  refine ⟨next, ?_, ?_, ?_, ?_⟩
  · exact hstart.reaches_live.tail (.move (.invoke rfl))
  · exact ((Live.reaches_of_exec hfirst []).tail (.move .ret)).tail (.move (.goto hdecision))
  · exact .head (.drift hwait) (.head (.move (.goto rfl)) (.single (.move (.invoke rfl))))
  · exact Live.reaches_of_exec hsecond []

theorem record_at_terminate_slow :
    ∃ replicasetName asked, slowWalk₂.2.2.askedAt = some asked ∧ asked ≤ slowWalk₂.2.2.clock ∧
      slowWalk₂.2.2.written = some { replicasetName, expiryTime := wholeSeconds asked + 900 } ∧
      (isFirstRun slowEvent = false → ∀ ev ∈ slowWalk₂.1, isRecordCall ev.1 = false) ∧
      (slowWalk₂.2.2.Live ↔ slowWalk₂.2.2.clock < seconds (wholeSeconds asked + 900)) := by
  obtain ⟨next, h₁, h₂, h₃, h₄⟩ := slow_run
  exact record_at_terminate noVars (fun _ => False) mongoPayload (by simp [mongoPayload, Dict.get?])
    { clock := 0 } _ _ _ 0 recycler _ "i-c" next (h₁.trans (h₂.trans (h₃.trans h₄)))

/-- The first invocation takes 850 seconds, and the second one terminates right
    after the wait: 910 seconds after the record was written. -/
theorem expired_at_terminate :
    ∃ (event : Json) (calls : Trace Calls) (w₁ w₂ w₃ w : Ledger) (next : Except PyExc Unit → Py Json),
      SlowReaches (.idle (.at startAt mongoPayload 0), { clock := 0 })
        (.busy .recycleMongoCluster firstEvent 0 recycler [] (lambdaHandler firstEvent), w₁) ∧
      SlowReaches (.busy .recycleMongoCluster firstEvent 0 recycler [] (lambdaHandler firstEvent), w₁)
        (.idle (.at .waitForMongoAutorecycle event 0), w₂) ∧
      w₂.clock ≤ w₁.clock + seconds 900 ∧
      SlowReaches (.idle (.at .waitForMongoAutorecycle event 0), w₂)
        (.busy .recycleMongoCluster event 0 recycler [] (lambdaHandler event), w₃) ∧
      w₃.clock = w₂.clock + seconds 60 ∧
      SlowReaches (.busy .recycleMongoCluster event 0 recycler [] (lambdaHandler event), w₃)
        (.busy .recycleMongoCluster event 0 recycler calls (.call (.terminate "i-c") next), w) ∧
      w.clock ≤ w₃.clock + seconds 900 ∧
      (∃ replicasetName, w.written = some { replicasetName, expiryTime := 900 }) ∧
      w.clock = seconds 910 ∧ ¬ w.Live := by
  obtain ⟨next, h₁, h₂, h₃, h₄⟩ := slow_run
  obtain ⟨-, -, hclock⟩ := slow_first
  obtain ⟨-, -, hclock₂, r, hr, hexpiry⟩ := slow_second
  refine ⟨slowEvent, slowWalk₂.1, { clock := 0 }, slowWalk.2.2, waited, slowWalk₂.2.2, next, h₁, h₂, ?_,
    h₃, rfl, h₄, ?_, ⟨r.replicasetName, by rw [hr, ← hexpiry]⟩, hclock₂, ?_⟩
  · rw [hclock]
    decide
  · rw [hclock₂, waited, hclock]
    decide
  · rintro ⟨r', hr', hlive⟩
    cases hr.symm.trans hr'
    rw [hclock₂, hexpiry] at hlive
    exact absurd hlive (by decide)

end AutoRecycle.Mongo
