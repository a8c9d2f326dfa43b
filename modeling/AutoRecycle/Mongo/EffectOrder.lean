/-
  AutoRecycle.Mongo.EffectOrder

  The order of the effects of `execute_action`, over all of its runs, finished
  or not, with any replies.

  The way to `terminate` is read off the run (`executeAction_terminate`).  That
  nothing follows a failure is carried by a weakest precondition in the world
  that remembers the run: no call is made once the run so far is not `Sound`.
-/
import AutoRecycle.Data.Split
import AutoRecycle.Mongo.Runs

namespace AutoRecycle.Mongo

open AutoRecycle.Data AutoRecycle.Effect AutoRecycle.Py

-- ============================================================================
-- Failures
-- ============================================================================

/-- The log lines around a poll: `some true` just before it, `some false` at its
    end. -/
def pollFrame : Op → Option Bool
  | .log .waitingForStepDown => some true
  | .log (.waitingToTerminate _) => some true
  | .log .waitForHealthy => some true
  | .log .pollingSucceeded => some false
  | .log (.givingUp _) => some false
  | _ => none

/-- The next call is made inside a poll. -/
def inPoll (calls : Trace Calls) : Bool :=
  calls.foldl (fun b ev => (pollFrame ev.1).getD b) false

def isError {α : Type} : Except PyExc α → Bool
  | .ok _ => false
  | .error _ => true

/-- The reply makes the code raise, if it comes outside a poll.  That a step-down
    closes the connection does not. -/
def raises : Event Calls → Bool
  | ⟨.describeInstances _, r⟩ => isError (r.bind fun rs => joinIpAddresses (describeMongodbInstances rs))
  | ⟨.connect _, r⟩ => isError r
  | ⟨.replSetGetConfig _, r⟩ => isError r
  | ⟨.replSetReconfig .., r⟩ => isError r
  | ⟨.replSetStepDown .., .ok _⟩ => false
  | ⟨.replSetStepDown .., .error e⟩ => !e.cls.isAutoReconnect
  | ⟨.filterInstances _, r⟩ => isError ((foundInstances r).bind onlyInstance)
  | ⟨.terminate _, r⟩ => isError r
  | ⟨.describeInstancesById _, r⟩ => isError r
  | ⟨.replicaSetStatus _, r⟩ => isError r
  | _ => false

/-- After `calls`, `ev` is a call that raises outside a poll, or a poll that
    gives up. -/
def Failure (calls : Trace Calls) (ev : Event Calls) : Prop :=
  (raises ev = true ∧ inPoll calls = false) ∨ ∃ n, ev.1 = .log (.givingUp n)

/-- No failure so far. -/
def Sound (calls : Trace Calls) : Prop :=
  ∀ pre ev post, calls = pre ++ ev :: post → ¬ Failure pre ev

theorem sound_nil : Sound [] := by
  intro pre ev post h
  simp at h

theorem Sound.snoc {calls : Trace Calls} {ev : Event Calls} (h : Sound calls)
    (hev : ¬ Failure calls ev) : Sound (calls ++ [ev]) :=
  forall_split_append (P := fun pre ev => ¬ Failure pre ev) h hev

@[simp] theorem inPoll_snoc (calls : Trace Calls) (ev : Event Calls) :
    inPoll (calls ++ [ev]) = (pollFrame ev.1).getD (inPoll calls) := by
  simp [inPoll]

-- ============================================================================
-- Nothing follows a failure
-- ============================================================================

/-- No failure so far, and the next call is inside a poll or not, as `b` says. -/
def SoundAt (b : Bool) (calls : Trace Calls) : Prop := Sound calls ∧ inPoll calls = b

theorem SoundAt.snoc {b : Bool} {calls : Trace Calls} (h : SoundAt b calls) (ev : Event Calls)
    (hev : b = true ∨ raises ev = false) (hgive : ∀ n, ev.1 ≠ .log (.givingUp n)) :
    SoundAt ((pollFrame ev.1).getD b) (calls ++ [ev]) := by
  refine ⟨h.1.snoc ?_, by rw [inPoll_snoc, h.2]⟩
  rintro (⟨hraise, hout⟩ | ⟨n, hn⟩)
  · rw [h.2] at hout
    rw [hout, hraise] at hev
    simp at hev
  · exact hgive n hn

section
variable {legal : (op : Op) → op.Reply → Prop} {α β : Type} {calls : Trace Calls}

/-- Every call is made after a run without failure. -/
abbrev soundCalls (p : Py α) (legal : (op : Op) → op.Reply → Prop) (Q : α → Trace Calls → Prop)
    (calls : Trace Calls) : Prop :=
  p.wp (Setting.history legal) (fun calls _ => Sound calls) Q (fun _ _ => True) calls

theorem soundCalls_bind {p : Py α} {f : α → Py β} {Q : α → Trace Calls → Prop}
    {R : β → Trace Calls → Prop} (hp : soundCalls p legal Q calls)
    (hf : ∀ a calls, Q a calls → soundCalls (f a) legal R calls) :
    soundCalls (p >>= f) legal R calls :=
  (Prog.wp_bind f).mpr (Prog.wp_mono hf (fun _ _ h => h) hp)

theorem soundCalls_call {op : Op} {f : op.Reply → Py β} {Q : β → Trace Calls → Prop}
    (h : Sound calls)
    (hf : ∀ r, legal op r → soundCalls (f r) legal Q (calls ++ [⟨op, r⟩])) :
    soundCalls (ask op >>= f) legal Q calls :=
  (Prog.wp_history_call (S := Calls) op f).mpr ⟨h, hf⟩

/-- A call whose reply is checked, outside a poll. -/
theorem soundCalls_ask (op : Op) (g : op.Reply → Except PyExc α)
    (hg : ∀ r a, g r = .ok a → raises ⟨op, r⟩ = false) (hop : pollFrame op = none)
    (h : SoundAt false calls) :
    soundCalls (ask op >>= fun r => raise (g r)) legal (fun _ => SoundAt false) calls := by
  refine soundCalls_call h.1 fun r _ => ?_
  cases hr : g r with
  | error e => exact fun _ _ => trivial
  | ok a =>
      refine (Prog.wp_history_ret a).mpr ?_
      have hnext := h.snoc ⟨op, r⟩ (.inr (hg r a hr)) fun n hn => by
        obtain rfl : op = .log (.givingUp n) := hn
        cases hop
      rwa [hop] at hnext

/-- The same, with what comes after it. -/
theorem soundCalls_ask_bind (op : Op) (g : op.Reply → Except PyExc α) {f : α → Py β}
    {Q : β → Trace Calls → Prop} (hg : ∀ r a, g r = .ok a → raises ⟨op, r⟩ = false)
    (hop : pollFrame op = none) (h : SoundAt false calls)
    (hf : ∀ a calls, SoundAt false calls → soundCalls (f a) legal Q calls) :
    soundCalls (ask op >>= fun r => raise (g r) >>= f) legal Q calls := by
  rw [← bind_assoc]
  exact soundCalls_bind (soundCalls_ask op g hg hop h) hf

theorem soundCalls_log (line : LogLine) {b : Bool} (hline : ∀ n, line ≠ .givingUp n)
    (h : SoundAt b calls) :
    soundCalls (log line) legal (fun _ => SoundAt ((pollFrame (.log line)).getD b)) calls := by
  refine (Prog.wp_history_call (S := Calls) _ _).mpr ⟨h.1, fun r _ => ?_⟩
  refine (Prog.wp_history_ret r).mpr (h.snoc _ (.inr rfl) fun n hn => ?_)
  cases hn
  exact hline n rfl

/-- Inside a poll nothing but giving up is a failure. -/
theorem soundCalls_inside {p : Py α} (hp : p.Issues (pollFrame · = none))
    (h : SoundAt true calls) : soundCalls p legal (fun _ => SoundAt true) calls := by
  refine Prog.wp_mono (fun _ _ h => h) (fun _ _ _ => trivial)
    (hp.wp (fun _ _ h hr => hr ▸ h) ?_ (fun _ _ h _ => h.1) h)
  rintro w op r _ hw hop ⟨-, rfl⟩
  have hnext := hw.snoc ⟨op, r⟩ (.inl rfl) fun n hn => by
    obtain rfl : op = .log (.givingUp n) := hn
    cases hop
  rwa [hop] at hnext

/-- A poll is left without a failure, or by an exception. -/
theorem soundCalls_poll {fn : Py Unit} {maxIters : Int} {secs : Option Nat}
    (hfn : fn.Issues (pollFrame · = none)) (h : SoundAt true calls) :
    soundCalls (poll fn maxIters secs) legal (fun _ => SoundAt false) calls := by
  rw [poll]
  generalize maxIters.toNat - 1 = left
  generalize 1 = i
  induction left generalizing i calls with
  | zero =>
      rw [pollFrom]
      refine soundCalls_bind (soundCalls_inside hfn.attempt h) fun x calls hx => ?_
      cases x with
      | ok u => exact soundCalls_log _ (by simp) hx
      | error e =>
          refine soundCalls_bind (soundCalls_log _ (by simp) hx) fun _ calls hx => ?_
          -- the run is a failure from here on, and there is nothing left but to raise
          refine (Prog.wp_history_call (S := Calls) _ _).mpr ⟨hx.1, fun _ _ _ _ => trivial⟩
  | succ left ih =>
      rw [pollFrom]
      refine soundCalls_bind (soundCalls_inside hfn.attempt h) fun x calls hx => ?_
      cases x with
      | ok u => exact soundCalls_log _ (by simp) hx
      | error e =>
          refine soundCalls_bind (soundCalls_log _ (by simp) hx) fun _ calls hx => ?_
          refine soundCalls_bind (soundCalls_inside (issues_pause fun _ => rfl) hx) fun _ calls hx => ?_
          exact ih hx (i + 1)

theorem soundCalls_connect {cs : String} (h : SoundAt false calls) :
    soundCalls (connect cs) legal (fun _ => SoundAt false) calls :=
  soundCalls_ask (.connect cs) id (fun _ _ hr => congrArg isError hr) rfl h

theorem soundCalls_setChaining {cs : String} {b : Bool} (h : SoundAt false calls) :
    soundCalls (setChaining cs b) legal (fun _ => SoundAt false) calls := by
  refine soundCalls_bind (soundCalls_connect h) fun _ calls h => ?_
  refine soundCalls_ask_bind (.replSetGetConfig cs) id (fun _ _ hr => congrArg isError hr) rfl h
    fun config calls h => ?_
  split
  · refine soundCalls_bind (soundCalls_log _ (by simp) h) fun _ calls h => ?_
    exact (Prog.wp_history_ret _).mpr h
  · refine soundCalls_bind (soundCalls_log _ (by simp) h) fun _ calls h => ?_
    refine soundCalls_ask_bind (.replSetReconfig cs _) id (fun _ _ hr => congrArg isError hr) rfl h
      fun _ calls h => ?_
    exact (Prog.wp_history_ret _).mpr h

theorem soundCalls_waitUntilClusterHealthy {component : String} (h : SoundAt true calls) :
    soundCalls (waitUntilClusterHealthy component) legal (fun _ => SoundAt false) calls :=
  soundCalls_poll (issues_assertHealthy (fun _ => rfl) (fun _ => rfl) fun _ => rfl) h

theorem soundCalls_stepDown {ipAddress : String} (h : SoundAt false calls) :
    soundCalls (stepDown ipAddress) legal (fun _ => SoundAt false) calls :=
  soundCalls_bind (soundCalls_connect h) fun _ _ h => by
    refine soundCalls_ask (.replSetStepDown ipAddress 100) steppedDown (fun r _ hr => ?_) rfl h
    rcases steppedDown_eq_ok.mp hr with rfl | ⟨e, rfl, he⟩
    · rfl
    · exact congrArg not he

theorem soundCalls_stepDownAndWait {component : String} {node : Instance} (h : SoundAt false calls) :
    soundCalls (stepDownAndWait component node) legal (fun _ => SoundAt false) calls := by
  refine soundCalls_bind (soundCalls_log _ (by simp) h) fun _ calls h => ?_
  refine soundCalls_bind (soundCalls_stepDown h) fun _ calls h => ?_
  refine soundCalls_bind (soundCalls_log _ (by simp) h) fun _ calls h => ?_
  exact soundCalls_waitUntilClusterHealthy h

theorem soundCalls_findNode {node : Instance} (h : SoundAt false calls) :
    soundCalls (findNode node) legal (fun _ => SoundAt false) calls := by
  refine soundCalls_bind (soundCalls_log _ (by simp) h) fun _ calls h => ?_
  refine soundCalls_call h.1 fun r _ => ?_
  cases hids : foundInstances r with
  | error e => exact fun _ _ => trivial
  | ok ids =>
      cases hid : onlyInstance ids with
      | error e =>
          rw [raise_ok, Prog.ret_bind, hid]
          exact fun _ _ => trivial
      | ok id =>
          rw [raise_ok, Prog.ret_bind, hid]
          refine (Prog.wp_history_ret _).mpr (h.snoc _ (.inr ?_) (by simp))
          simp [raises, hids, hid, Except.bind, isError]

theorem soundCalls_afterTerminate {component instanceId : String} (h : SoundAt false calls) :
    soundCalls (.call (.terminate instanceId) (afterTerminate component instanceId)) legal
      (fun _ => SoundAt false) calls := by
  refine soundCalls_ask_bind (.terminate instanceId) id (fun _ _ hr => congrArg isError hr) rfl h
    fun _ calls h => ?_
  refine soundCalls_bind (soundCalls_log _ (by simp) h) fun _ calls h => ?_
  refine soundCalls_bind (soundCalls_poll (issues_isTerminated rfl) h) fun _ calls h => ?_
  refine soundCalls_bind (soundCalls_log _ (by simp) h) fun _ calls h => ?_
  exact soundCalls_waitUntilClusterHealthy h

theorem soundCalls_recycle {component : String} {node : Instance} (h : SoundAt false calls) :
    soundCalls (recycle component node) legal (fun _ => SoundAt false) calls := by
  rw [recycle_eq]
  exact soundCalls_bind (soundCalls_findNode h) fun _ _ h => soundCalls_afterTerminate h

theorem soundCalls_executeAction {component : String} {decision : Decision} (h : SoundAt false calls) :
    soundCalls (executeAction component decision) legal (fun _ => SoundAt false) calls := by
  rw [executeAction, getMongoDbInstances, bind_assoc]
  refine soundCalls_call h.1 fun r _ => ?_
  cases r with
  | error e => exact fun _ _ => trivial
  | ok rs =>
      cases hjoin : joinIpAddresses (describeMongodbInstances rs) with
      | error e =>
          simp only [raise_ok, Prog.ret_bind, Prog.pure_eq, hjoin, raise_error, Prog.throw_bind]
          exact fun _ _ => trivial
      | ok conn =>
          simp only [raise_ok, Prog.ret_bind, Prog.pure_eq, hjoin]
          have h := h.snoc ⟨.describeInstances (createInstanceNameFilters component), .ok rs⟩
            (.inr (by simp [raises, Except.bind, hjoin, isError])) (by simp)
          cases decision.node? with
          | none => exact soundCalls_bind (soundCalls_setChaining h) fun _ _ h => (Prog.wp_history_ret _).mpr h
          | some node =>
              refine soundCalls_bind (soundCalls_setChaining h) fun _ calls h => ?_
              by_cases hact : decision.action = .stepDownAndRecyclePrimary
              · simp only [hact, if_true]
                exact soundCalls_bind (soundCalls_stepDownAndWait h) fun _ _ h => soundCalls_recycle h
              · simp only [hact, if_false]
                exact soundCalls_recycle h

end

/-- A failure is the last thing that happens, and `execute_action` raises. -/
theorem executeAction_failure {legal : (op : Op) → op.Reply → Prop} {component : String}
    {decision : Decision} {tr pre post : Trace Calls} {ev : Event Calls} {q : Py Unit}
    (h : Runs legal (executeAction component decision) tr q) (htr : tr = pre ++ ev :: post)
    (hf : Failure pre ev) : post = [] ∧ ∃ e, q = .throw e := by
  have hwp : soundCalls (executeAction component decision) legal (fun _ => SoundAt false) [] :=
    soundCalls_executeAction ⟨sound_nil, rfl⟩
  have hx := h.history []
  subst htr
  cases post with
  | cons ev' post =>
      rw [← List.singleton_append, ← List.append_assoc] at hx
      have hsound : Sound ([] ++ (pre ++ [ev])) := hx.ok_of_mem hwp
      exact absurd hf (hsound pre ev [] rfl)
  | nil =>
      have hq := hx.wp hwp
      refine ⟨rfl, ?_⟩
      cases q with
      | ret a => exact absurd hf ((Prog.wp_history_ret a).mp hq |>.1 pre ev [] rfl)
      | throw e => exact ⟨e, rfl⟩
      | call op next => exact absurd hf (((Prog.wp_history_call op next).mp hq).1 pre ev [] rfl)

-- ============================================================================
-- The order of effects
-- ============================================================================

/-- A call that `set_chaining` makes, whatever it sets. -/
def setsChaining : Op → Bool
  | .replSetGetConfig _ => true
  | .replSetReconfig .. => true
  | _ => false

/-- The EC2 filter by instance id returns only instances with that id. -/
def filtersById : (op : Op) → op.Reply → Prop
  | .filterInstances instanceId, .ok ids => ∀ i ∈ ids, i = instanceId
  | _, _ => True

/-- What holds of the calls `tr` of `execute_action` when it is left as `q`. -/
structure EffectOrder (component : String) (decision : Decision) (tr : Trace Calls) (q : Py Unit) :
    Prop where
  /-- There is at most one `terminate`, on the decided instance. -/
  terminate_once : ∀ pre instanceId r post, tr = pre ++ ⟨.terminate instanceId, r⟩ :: post →
    (∃ node, decision.node? = some node ∧ instanceId = node.instanceId) ∧
      ∀ ev ∈ pre ++ post, ∀ other, ev.1 ≠ .terminate other
  /-- `set_chaining(False)` returned before it, on the hosts listed for the component,
      and chaining was not set since. -/
  chaining_off : ∀ pre instanceId r post, tr = pre ++ ⟨.terminate instanceId, r⟩ :: post →
    ∃ reservations connectionString t₁ t₂,
      pre = ⟨.describeInstances (createInstanceNameFilters component), .ok reservations⟩ :: (t₁ ++ t₂) ∧
      joinIpAddresses (describeMongodbInstances reservations) = .ok connectionString ∧
      SetsChaining connectionString false t₁ ∧ ∀ ev ∈ t₂, setsChaining ev.1 = false
  /-- A primary was stepped down before it, and a later health poll succeeded. -/
  stepped_down : ∀ pre instanceId r post, tr = pre ++ ⟨.terminate instanceId, r⟩ :: post →
    ∀ node, decision = .stepDownAndRecyclePrimary node →
    ∃ t₀ t₁ t₂ t₃ t₄, pre = t₀ ++ t₁ ++ t₂ ++ t₃ ++ ⟨.log .pollingSucceeded, ()⟩ :: t₄ ∧
      StepsDown node.ipAddress t₁ ∧ SeesHealthy component t₃
  done : decision = .done → ∀ ev ∈ tr,
    (∀ ipAddress secs, ev.1 ≠ .replSetStepDown ipAddress secs) ∧
      ∀ instanceId, ev.1 ≠ .terminate instanceId
  /-- Returning after it, the instance was seen terminated, and a later health
      poll succeeded. -/
  terminated : ∀ pre instanceId r post, tr = pre ++ ⟨.terminate instanceId, r⟩ :: post →
    q = .ret () →
    ∃ t₀ inst t₁ t₂ t₃, post = t₀ ++
        ⟨.describeInstancesById instanceId, .ok [{ instances := [inst] }]⟩ ::
          (t₁ ++ t₂ ++ ⟨.log .pollingSucceeded, ()⟩ :: t₃) ∧
      inst.stateName = "terminated" ∧ SeesHealthy component t₂
  /-- Nothing follows a failure. -/
  failed : ∀ pre ev post, tr = pre ++ ev :: post → Failure pre ev → post = [] ∧ ∃ e, q = .throw e

section
variable {component : String} {decision : Decision} {pre post : Trace Calls} {instanceId : String}
  {r : Except PyExc Unit} {q : Py Unit}

/-- A run with a `terminate`, cut at it. -/
theorem executeAction_split (h : Runs filtersById (executeAction component decision)
      (pre ++ ⟨.terminate instanceId, r⟩ :: post) q) :
    ∃ node items connectionString config t₀ t₁ t₂, decision.node? = some node ∧
      instanceId = node.instanceId ∧
      pre = t₀ ++ t₁ ++ t₂ ++
        [⟨.log .recyclingInstance, ()⟩, ⟨.filterInstances node.instanceId, .ok [instanceId]⟩] ∧
      Runs filtersById (getMongoDbInstances component) t₀ (.ret items) ∧
      joinIpAddresses items = .ok connectionString ∧
      Runs filtersById (setChaining connectionString false) t₁ (.ret config) ∧
      Runs filtersById (if decision.action = .stepDownAndRecyclePrimary
        then stepDownAndWait component node else pure ()) t₂ (.ret ()) ∧
      Runs filtersById (afterTerminate component instanceId r) post q := by
  obtain ⟨next, h₁, -, h₂⟩ := h.split
  obtain ⟨node, items, conn, config, t₀, t₁, t₂, hnode, rfl, h₃, hjoin, h₄, h₅, rfl⟩ :=
    executeAction_terminate h₁
  have hlegal := h₁.legal_of_mem ⟨.filterInstances node.instanceId, .ok [instanceId]⟩ (by simp)
  exact ⟨node, items, conn, config, t₀, t₁, t₂, hnode, hlegal instanceId (by simp), rfl, h₃, hjoin,
    h₄, h₅, h₂⟩

/-- The step-down, if there is one, keeps away from what `P` leaves out. -/
theorem issues_beforeRecycle {P : Op → Prop} {node : Instance}
    (hstep : (stepDownAndWait component node).Issues P) :
    (if decision.action = .stepDownAndRecyclePrimary then stepDownAndWait component node
      else pure ()).Issues P := by
  split
  · exact hstep
  · trivial

theorem executeAction_terminate_once (h : Runs filtersById (executeAction component decision)
      (pre ++ ⟨.terminate instanceId, r⟩ :: post) q) :
    (∃ node, decision.node? = some node ∧ instanceId = node.instanceId) ∧
      ∀ ev ∈ pre ++ post, ∀ other, ev.1 ≠ .terminate other := by
  obtain ⟨node, items, conn, config, t₀, t₁, t₂, hnode, hid, rfl, h₀, -, h₁, h₂, h₃⟩ :=
    executeAction_split h
  refine ⟨⟨node, hnode, hid⟩, ?_⟩
  have hwait : (waitUntilClusterHealthy component).Issues fun op : Op => ∀ other, op ≠ .terminate other :=
    issues_waitUntilClusterHealthy (by simp) (by simp) (by simp) (by simp) (by simp)
  have hafter := (h₃.issues (issues_afterTerminate hwait (by simp) (by simp) (by simp) r)).1
  have hlist := (h₀.issues (P := fun op : Op => ∀ other, op ≠ .terminate other)
    (issues_getMongoDbInstances (by simp))).1
  have hset := (h₁.issues (P := fun op : Op => ∀ other, op ≠ .terminate other)
    (issues_setChaining (by simp) (by simp) (by simp) (by simp))).1
  have hstep := (h₂.issues (issues_beforeRecycle (issues_stepDownAndWait
    (issues_stepDown (by simp) (by simp)) hwait (by simp)))).1
  simp only [List.mem_append, List.mem_cons, List.not_mem_nil, or_false]
  rintro ev ((((hev | hev) | hev) | rfl | rfl) | hev)
  · exact hlist ev hev
  · exact hset ev hev
  · exact hstep ev hev
  · simp
  · simp
  · exact hafter ev hev

theorem executeAction_chaining_off (h : Runs filtersById (executeAction component decision)
      (pre ++ ⟨.terminate instanceId, r⟩ :: post) q) :
    ∃ reservations connectionString t₁ t₂,
      pre = ⟨.describeInstances (createInstanceNameFilters component), .ok reservations⟩ :: (t₁ ++ t₂) ∧
      joinIpAddresses (describeMongodbInstances reservations) = .ok connectionString ∧
      SetsChaining connectionString false t₁ ∧ ∀ ev ∈ t₂, setsChaining ev.1 = false := by
  obtain ⟨node, items, conn, config, t₀, t₁, t₂, hnode, hid, rfl, h₀, hjoin, h₁, h₂, h₃⟩ :=
    executeAction_split h
  obtain ⟨reservations, rfl, rfl⟩ := getMongoDbInstances_ret h₀
  refine ⟨reservations, conn, t₁, t₂ ++ [⟨.log .recyclingInstance, ()⟩,
    ⟨.filterInstances node.instanceId, .ok [instanceId]⟩], by simp, hjoin, setChaining_ret h₁, ?_⟩
  have hstep := (h₂.issues (P := fun op : Op => setsChaining op = false)
    (issues_beforeRecycle (issues_stepDownAndWait (issues_stepDown rfl rfl)
      (issues_waitUntilClusterHealthy (fun _ => rfl) (fun _ => rfl) (fun _ => rfl) (fun _ _ => rfl)
        fun _ => rfl) fun _ _ => rfl))).1
  simp only [List.mem_append, List.mem_cons, List.not_mem_nil, or_false]
  rintro ev (hev | rfl | rfl)
  · exact hstep ev hev
  · rfl
  · rfl

theorem executeAction_stepped_down {node : Instance}
    (h : Runs filtersById (executeAction component (.stepDownAndRecyclePrimary node))
      (pre ++ ⟨.terminate instanceId, r⟩ :: post) q) :
    ∃ t₀ t₁ t₂ t₃ t₄, pre = t₀ ++ t₁ ++ t₂ ++ t₃ ++ ⟨.log .pollingSucceeded, ()⟩ :: t₄ ∧
      StepsDown node.ipAddress t₁ ∧ SeesHealthy component t₃ := by
  obtain ⟨node', items, conn, config, t₀, t₁, t₂, ⟨⟩, hid, rfl, h₀, -, h₁, h₂, h₃⟩ :=
    executeAction_split h
  have h₂ : Runs filtersById (stepDownAndWait component node) t₂ (.ret ()) := h₂
  obtain ⟨t₃, rfl, h₄⟩ := log_bind_ret_inv h₂
  obtain ⟨u, t₅, t₆, ⟨⟩, rfl, h₅, h₆⟩ := Exec.bind_ret_inv h₄
  obtain ⟨t₇, rfl, h₇⟩ := log_bind_ret_inv h₆
  obtain ⟨t₈, t₉, rfl, -, hsees⟩ := waitUntilClusterHealthy_sees h₇
  refine ⟨t₀ ++ t₁ ++ [⟨.log .steppingDown, ()⟩], t₅, ⟨.log .waitingForStepDown, ()⟩ :: t₈, t₉,
    [⟨.log .recyclingInstance, ()⟩, ⟨.filterInstances node.instanceId, .ok [instanceId]⟩], ?_,
    stepDown_ret h₅, hsees⟩
  simp

theorem isTerminated_ret {t : Trace Calls} (h : Runs filtersById (isTerminated instanceId) t (.ret ())) :
    ∃ inst : Ec2Instance, t = [⟨.describeInstancesById instanceId, .ok [{ instances := [inst] }]⟩] ∧
      inst.stateName = "terminated" := by
  obtain ⟨state, t₁, t₂, ⟨⟩, rfl, h₁, h₂⟩ := Exec.bind_ret_inv h
  obtain ⟨r, t₃, _, _, rfl, -, -, h₃⟩ := Exec.call_ret_inv h₁
  obtain ⟨rs, rfl, h₄⟩ := raise_bind_inv h₃
  obtain ⟨rfl, hrs⟩ := raise_ret_inv h₄
  obtain ⟨rfl, hstate⟩ := raise_ret_inv h₂
  obtain ⟨inst, rfl, hname⟩ := instanceState_eq_ok.mp hrs
  refine ⟨inst, rfl, ?_⟩
  rw [assertTerminated] at hstate
  split at hstate
  · next heq => rw [hname, heq]
  · cases hstate

theorem executeAction_terminated (h : Runs filtersById (executeAction component decision)
      (pre ++ ⟨.terminate instanceId, r⟩ :: post) (.ret ())) :
    ∃ t₀ inst t₁ t₂ t₃, post = t₀ ++
        ⟨.describeInstancesById instanceId, .ok [{ instances := [inst] }]⟩ ::
          (t₁ ++ t₂ ++ ⟨.log .pollingSucceeded, ()⟩ :: t₃) ∧
      inst.stateName = "terminated" ∧ SeesHealthy component t₂ := by
  obtain ⟨node, items, conn, config, t₀, t₁, t₂, hnode, hid, rfl, h₀, -, h₁, h₂, h₃⟩ :=
    executeAction_split h
  obtain ⟨u, -, h₄⟩ := raise_bind_inv h₃
  obtain ⟨t₃, rfl, h₅⟩ := log_bind_ret_inv h₄
  obtain ⟨u, t₄, t₅, ⟨⟩, rfl, h₆, h₇⟩ := Exec.bind_ret_inv h₅
  obtain ⟨t₆, rfl, h₈⟩ := log_bind_ret_inv h₇
  obtain ⟨t₇, t₈, rfl, -, h₉⟩ := pollFrom_ret (G := fun _ => True) (fun _ _ => trivial)
    (fun _ => trivial) (fun _ _ _ _ _ => trivial) h₆
  obtain ⟨inst, rfl, hinst⟩ := isTerminated_ret h₉
  obtain ⟨t₉, t₁₀, rfl, -, hsees⟩ := waitUntilClusterHealthy_sees h₈
  exact ⟨⟨.log (.waitingToTerminate instanceId), ()⟩ :: t₇, inst,
    [⟨.log .pollingSucceeded, ()⟩, ⟨.log .waitForHealthy, ()⟩] ++ t₉, t₁₀, [], by simp, hinst, hsees⟩

end

theorem executeAction_effectOrder {component : String} {decision : Decision} {tr : Trace Calls}
    {q : Py Unit} (h : Runs filtersById (executeAction component decision) tr q) :
    EffectOrder component decision tr q where
  terminate_once := by
    rintro pre instanceId r post rfl
    exact executeAction_terminate_once h
  chaining_off := by
    rintro pre instanceId r post rfl
    exact executeAction_chaining_off h
  stepped_down := by
    rintro pre instanceId r post rfl node rfl
    exact executeAction_stepped_down h
  done := by
    rintro rfl
    refine (h.issues (P := fun op : Op => (∀ ipAddress secs, op ≠ .replSetStepDown ipAddress secs) ∧
      ∀ instanceId, op ≠ .terminate instanceId) ?_).1
    refine (issues_getMongoDbInstances (by simp)).bind fun _ => (issues_raise_bind _ _).mpr fun _ _ => ?_
    exact (issues_setChaining (by simp) (by simp) (by simp) (by simp)).bind fun _ => trivial
  terminated := by
    rintro pre instanceId r post rfl rfl
    exact executeAction_terminated h
  failed := fun _ _ _ => executeAction_failure h

/-- A replica set whose old primary stays down after its step-down. -/
def obedientSet : SteadySet where
  targetAmi := "ami-2"
  instances := [SteadySet.running "i-a" "ami-1" "10.0.0.1", SteadySet.running "i-b" "ami-2" "10.0.0.2"]
  myState _ := 2
  members := [SteadySet.member "10.0.0.1" "SECONDARY", SteadySet.member "10.0.0.2" "PRIMARY"]

theorem executeAction_effectOrder_obedientSet :
    ∃ tr, Runs filtersById (executeAction "web_mongo" (.stepDownAndRecyclePrimary oldPrimary)) tr
        (.ret ()) ∧
      (tr.any fun ev => isTerminate ev.1) = true ∧
      EffectOrder "web_mongo" (.stepDownAndRecyclePrimary oldPrimary) tr (.ret ()) := by
  have hx := Prog.walk_exec obedientSet.world obedientSet.fullAnswer
    (fun _ _ _ _ hr => by cases hr; rfl)
    (executeAction "web_mongo" (.stepDownAndRecyclePrimary oldPrimary)) ()
  have hret : ((executeAction "web_mongo" (.stepDownAndRecyclePrimary oldPrimary)).walk
      obedientSet.fullAnswer ()).2.1 = .ret () :=
    Prog.value?_eq_some.mp (by decide +kernel)
  rw [hret] at hx
  have hrun : Runs filtersById _ _ _ := hx.runs fun u op r u' hr => by
    obtain ⟨rfl, -⟩ : r = obedientSet.reply op ∧ True := ⟨hr, trivial⟩
    cases op with
    | filterInstances id => exact fun i hi => List.mem_singleton.mp hi
    | _ => trivial
  exact ⟨_, hrun, by decide +kernel, executeAction_effectOrder hrun⟩

end AutoRecycle.Mongo
