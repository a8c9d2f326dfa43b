/-
  AutoRecycle.Mongo.Configuration

  The replica set configuration over a run of the Mongo branch.

  The world is the installed configuration, and `set_chaining` is the only call
  that changes it: one invocation takes it from `config` to
  `config.withChaining b`, where `b` says whether the decision was `DONE`.  A
  run of recycles and a last `DONE` therefore comes to
  `(config.withChaining false).withChaining true`, whatever its length.
-/
import AutoRecycle.Data.Split
import AutoRecycle.Mongo.Done

namespace AutoRecycle.Mongo

open AutoRecycle.Asl AutoRecycle.Data AutoRecycle.Effect AutoRecycle.Py AutoRecycle.StateMachine

-- ============================================================================
-- The configuration server
-- ============================================================================

/-- What `set_chaining(b)` makes of a configuration. -/
def withChaining (config : ReplSetConfig) (b : Bool) : ReplSetConfig :=
  if config.settings.chainingAllowed = b then config
  else { config with
    settings := { config.settings with chainingAllowed := b }
    version := config.version + 1 }

@[simp] theorem withChaining_self (config : ReplSetConfig) :
    withChaining config config.settings.chainingAllowed = config := if_pos rfl

@[simp] theorem chainingAllowed_withChaining (config : ReplSetConfig) (b : Bool) :
    (withChaining config b).settings.chainingAllowed = b := by
  rw [withChaining]
  split
  · assumption
  · rfl

@[simp] theorem others_withChaining (config : ReplSetConfig) (b : Bool) :
    (withChaining config b).others = config.others := by
  rw [withChaining]
  split <;> rfl

@[simp] theorem settings_others_withChaining (config : ReplSetConfig) (b : Bool) :
    (withChaining config b).settings.others = config.settings.others := by
  rw [withChaining]
  split <;> rfl

theorem withChaining_withChaining (config : ReplSetConfig) (b : Bool) :
    withChaining (withChaining config b) b = withChaining config b := by
  have h := withChaining_self (withChaining config b)
  rwa [chainingAllowed_withChaining] at h

theorem version_withChaining (config : ReplSetConfig) (b : Bool) :
    (withChaining config b).version =
      config.version + if config.settings.chainingAllowed = b then 0 else 1 := by
  rw [withChaining]
  split <;> simp

/-- Reading and writing the configuration works; nothing else touches it. -/
def answersConfig (config : ReplSetConfig) : (op : Op) → op.Reply → ReplSetConfig → Prop
  | .replSetGetConfig _, r, config' => r = .ok config ∧ config' = config
  | .replSetReconfig _ sent, r, config' => r = .ok () ∧ config' = sent
  | _, _, config' => config' = config

/-- The replica set, as far as its configuration goes. -/
def configServer : Setting Calls ReplSetConfig := .alone answersConfig

/-- What a call has to respect, given the installed configuration. -/
def ProperCall (config : ReplSetConfig) : Op → Prop
  | .replSetReconfig _ sent => sent.version = config.version + 1
  | .terminate _ => config.settings.chainingAllowed = false
  | _ => True

def isReconfig : Op → Bool
  | .replSetReconfig .. => true
  | _ => false

theorem answersConfig_of_not_reconfig {config config' : ReplSetConfig} {op : Op} {r : op.Reply}
    (h : answersConfig config op r config') (hop : isReconfig op = false) : config' = config := by
  cases op with
  | replSetReconfig conn sent => cases hop
  | replSetGetConfig conn => exact h.2
  | _ => exact h

-- ============================================================================
-- Parts that leave the configuration alone
-- ============================================================================

section
variable {α : Type} {p : Py α} {config : ReplSetConfig}

theorem wp_unchanged (hp : p.Issues fun op => isReconfig op = false ∧ ProperCall config op) :
    p.wp configServer ProperCall (fun _ c => c = config) (fun _ c => c = config) config := by
  apply hp.wp
  · intro c c' hc hr
    cases hr
    exact hc
  · intro c op r c' hc hop ha
    have hsame := answersConfig_of_not_reconfig ha hop.1
    rw [hsame, hc]
  · intro c op hc hop
    rw [hc]
    exact hop.2
  · rfl

end

section
variable {component conn : String} {config : ReplSetConfig}

theorem wp_setChaining (b : Bool) :
    (setChaining conn b).wp configServer ProperCall (fun _ c => c = withChaining config b)
      (fun _ _ => True) config := by
  rw [setChaining, Prog.wp_bind]
  have hconnect : (connect conn).Issues fun op => isReconfig op = false ∧ ProperCall config op :=
    issues_connect ⟨rfl, trivial⟩
  refine Prog.wp_mono ?_ (fun _ _ _ => trivial) (wp_unchanged hconnect)
  rintro _ c rfl c₁ hr
  cases hr
  refine ⟨trivial, fun r c₂ ha => ?_⟩
  obtain ⟨hreply, hsame⟩ : r = .ok c ∧ c₂ = c := ha
  subst hsame
  rw [hreply]
  refine wp_raise_bind (fun config' hok => ?_) fun _ _ _ _ => trivial
  cases hok
  by_cases hb : c₂.settings.chainingAllowed = b
  · rw [if_pos hb]
    intro c₃ hr
    cases hr
    refine ⟨trivial, fun _ c₄ ha c₅ hr => ?_⟩
    cases hr
    have hsame : c₄ = c₂ := ha
    rw [hsame, withChaining, if_pos hb]
  · rw [if_neg hb]
    intro c₃ hr
    cases hr
    refine ⟨trivial, fun _ c₄ ha c₅ hr => ?_⟩
    cases hr
    have hsame : c₄ = c₂ := ha
    subst hsame
    refine ⟨rfl, fun r c₆ ha => ?_⟩
    obtain ⟨hreply, rfl⟩ : r = .ok () ∧ c₆ = _ := ha
    rw [hreply]
    intro c₇ hr
    cases hr
    rw [withChaining, if_neg hb]

/-- One execution of a decision switches chaining on when it is `DONE`, and off
    before anything else when it is not. -/
theorem wp_executeAction (d : Decision) :
    (executeAction component d).wp configServer ProperCall
      (fun _ c => c = withChaining config (decide (d = .done))) (fun _ _ => True) config := by
  rw [executeAction, Prog.wp_bind]
  refine Prog.wp_mono ?_ (fun _ _ _ => trivial)
    (wp_unchanged (issues_getMongoDbInstances fun _ => ⟨rfl, trivial⟩))
  intro items c hc
  subst hc
  refine wp_raise_bind (fun conn _ => ?_) fun _ _ _ _ => trivial
  cases hnode : d.node? with
  | none =>
      have hd : d = .done := by
        cases d with
        | done => rfl
        | _ => cases hnode
      subst hd
      rw [Prog.wp_bind]
      refine Prog.wp_mono ?_ (fun _ _ _ => trivial) (wp_setChaining true)
      intro _ c₁ hc₁ c₂ hr
      cases hr
      exact hc₁
  | some node =>
      have hd : d ≠ .done := by
        rintro rfl
        cases hnode
      rw [Prog.wp_bind]
      refine Prog.wp_mono ?_ (fun _ _ _ => trivial) (wp_setChaining false)
      intro _ c₁ hc₁
      have hoff : c₁.settings.chainingAllowed = false := by
        rw [hc₁, chainingAllowed_withChaining]
      rw [decide_eq_false hd, ← hc₁]
      refine Prog.wp_mono (fun _ _ h => h) (fun _ _ _ => trivial) (wp_unchanged ?_)
      have hwait : (waitUntilClusterHealthy component).Issues
          fun op => isReconfig op = false ∧ ProperCall c₁ op :=
        issues_waitUntilClusterHealthy (fun _ => ⟨rfl, trivial⟩) (fun _ => ⟨rfl, trivial⟩)
          (fun _ => ⟨rfl, trivial⟩) (fun _ _ => ⟨rfl, trivial⟩) fun _ => ⟨rfl, trivial⟩
      have hrecycle : (recycle component node).Issues
          fun op => isReconfig op = false ∧ ProperCall c₁ op :=
        issues_recycle ⟨rfl, trivial⟩ (fun _ => ⟨rfl, hoff⟩) (fun _ => ⟨rfl, trivial⟩) hwait
          (fun _ _ => ⟨rfl, trivial⟩) fun _ => ⟨rfl, trivial⟩
      by_cases hact : d.action = .stepDownAndRecyclePrimary
      · simp only [hact, if_true]
        refine Prog.Issues.bind ?_ fun _ => hrecycle
        exact issues_stepDownAndWait (issues_stepDown ⟨rfl, trivial⟩ ⟨rfl, trivial⟩) hwait
          fun _ _ => ⟨rfl, trivial⟩
      · simp only [hact, if_false]
        exact hrecycle

theorem wp_step : (step component).wp configServer ProperCall
    (fun d c => c = withChaining config (decide (d = .done))) (fun _ _ => True) config := by
  rw [step, Prog.wp_bind]
  have hobserve : (observe component).Issues fun op => isReconfig op = false ∧ ProperCall config op :=
    issues_observe (fun _ => ⟨rfl, trivial⟩) (fun _ _ => ⟨rfl, trivial⟩) (fun _ => ⟨rfl, trivial⟩)
      (fun _ => ⟨rfl, trivial⟩) (fun _ => ⟨rfl, trivial⟩) fun _ _ => ⟨rfl, trivial⟩
  refine Prog.wp_mono ?_ (fun _ _ _ => trivial) (wp_unchanged hobserve)
  rintro ⟨targetAmi, nodes⟩ c hc c₁ hr
  subst hc
  cases hr
  refine ⟨trivial, fun _ c₂ ha => ?_⟩
  have hsame : c₂ = c := ha
  subst hsame
  show (executeAction component (decideOnAction nodes targetAmi) >>= fun _ =>
    Prog.ret (decideOnAction nodes targetAmi)).wp configServer ProperCall _ _ c₂
  rw [Prog.wp_bind]
  refine Prog.wp_mono ?_ (fun _ _ _ => trivial) (wp_executeAction _)
  intro _ c₃ hc₃ c₄ hr
  cases hr
  exact hc₃

/-- One invocation, whose output names the action it has taken. -/
theorem wp_lambdaHandler {event : Json} : (lambdaHandler event).wp configServer ProperCall
    (fun out c => ∃ d : Decision, out.get? ["decision", "action"] = some (.str d.action.text) ∧
      c = withChaining config (decide (d = .done))) (fun _ _ => True) config := by
  rw [lambdaHandler_eq]
  refine wp_raise_bind (fun component _ => ?_) fun _ _ _ _ => trivial
  have hrest : ∀ c, c = config → (takeStep event component).wp configServer ProperCall
      (fun out c' => ∃ d : Decision, out.get? ["decision", "action"] = some (.str d.action.text) ∧
        c' = withChaining config (decide (d = .done))) (fun _ _ => True) c := by
    intro c hc
    subst hc
    refine wp_raise_bind (fun name _ => ?_) fun _ _ _ _ => trivial
    rw [Prog.wp_bind]
    refine Prog.wp_mono ?_ (fun _ _ _ => trivial) wp_step
    intro d c' hc'
    cases hout : finishEvent event d with
    | error e => exact fun _ _ => trivial
    | ok out =>
        intro c₁ hr
        cases hr
        exact ⟨d, finishEvent_action hout, hc'⟩
  by_cases hfirst : isFirstRun event = true
  · rw [if_pos hfirst, Prog.wp_bind]
    refine Prog.wp_mono (fun _ c hc => hrest c hc) (fun _ _ _ => trivial) (wp_unchanged ?_)
    exact issues_recordRecycleStarting ⟨rfl, trivial⟩ (fun _ _ => ⟨rfl, trivial⟩)
      fun _ _ => ⟨rfl, trivial⟩
  · rw [if_neg hfirst]
    exact hrest config rfl

end

-- ============================================================================
-- The record of a run
-- ============================================================================

/-- The decisions that were reported, oldest first. -/
def outcomes (calls : Trace Calls) : List Decision := calls.filterMap outcome?

theorem outcome?_eq_none {op : Op} (h : isOutcomeCall op = false) (r : op.Reply) :
    outcome? ⟨op, r⟩ = none := by
  cases op with
  | log line =>
      cases line with
      | outcome d => cases h
      | _ => rfl
  | _ => rfl

theorem outcomes_append (calls calls' : Trace Calls) :
    outcomes (calls ++ calls') = outcomes calls ++ outcomes calls' := by
  rw [outcomes, List.filterMap_append, outcomes, outcomes]

section
variable {α β : Type} {K : Setting Calls α} {legal : (op : Op) → op.Reply → Prop} {t : Trace Calls}

theorem outcomes_eq_nil {p q : Py β} {w w' : α} (h : Exec K p w t q w')
    (hp : p.Issues fun op => isOutcomeCall op = false) : outcomes t = [] := by
  rw [outcomes, List.filterMap_eq_nil_iff]
  intro ev hev
  exact outcome?_eq_none ((h.issues hp).1 ev hev) ev.2

/-- A finished `step` has reported the decision that it returns, and no other. -/
theorem outcomes_step {component : String} {d : Decision} (h : Runs legal (step component) t (.ret d)) :
    outcomes t = [d] := by
  obtain ⟨targetAmi, nodes, t₀, t₁, rfl, h₀, -, h₁⟩ := step_ret h
  have hobserve : outcomes t₀ = [] := outcomes_eq_nil h₀
    (issues_observe (fun _ => rfl) (fun _ _ => rfl) (fun _ => rfl) (fun _ => rfl) (fun _ => rfl)
      fun _ hl => hl)
  have hexecute : outcomes t₁ = [] := outcomes_eq_nil h₁ (issues_executeAction fun _ hop _ _ => hop)
  have hreport : outcomes (⟨.log (.outcome d), ()⟩ :: t₁) = d :: outcomes t₁ := rfl
  rw [outcomes_append, hobserve, hreport, hexecute, List.nil_append]

theorem outcomes_lambdaHandler {event out : Json} (h : Runs legal (lambdaHandler event) t (.ret out)) :
    ∃ d, outcomes t = [d] ∧ out.get? ["decision", "action"] = some (.str d.action.text) := by
  have hrest : ∀ {component : Json} {t : Trace Calls},
      Runs legal (takeStep event component) t (.ret out) →
      ∃ d, outcomes t = [d] ∧ out.get? ["decision", "action"] = some (.str d.action.text) := by
    intro component t ht
    obtain ⟨name, -, ht⟩ := raise_bind_inv ht
    obtain ⟨d, t₁, t₂, ⟨⟩, rfl, h₁, h₂⟩ := Exec.bind_ret_inv ht
    obtain ⟨rfl, hout⟩ := raise_ret_inv h₂
    refine ⟨d, ?_, finishEvent_action hout⟩
    rw [List.append_nil]
    exact outcomes_step h₁
  rw [lambdaHandler_eq] at h
  obtain ⟨component, -, h₁⟩ := raise_bind_inv h
  by_cases hfirst : isFirstRun event = true
  · rw [if_pos hfirst] at h₁
    obtain ⟨u, t₁, t₂, ⟨⟩, rfl, h₂, h₃⟩ := Exec.bind_ret_inv h₁
    have hrecord : outcomes t₁ = [] := outcomes_eq_nil h₂
      (issues_recordRecycleStarting rfl (fun _ _ => rfl) fun _ hl => hl)
    rw [outcomes_append, hrecord, List.nil_append]
    exact hrest h₃
  · rw [if_neg hfirst] at h₁
    exact hrest h₁

end

/-- The configuration that is installed after an event. -/
def installs (config : ReplSetConfig) : Event Calls → ReplSetConfig
  | ⟨.replSetReconfig _ sent, .ok _⟩ => sent
  | _ => config

def installed (config : ReplSetConfig) (calls : Trace Calls) : ReplSetConfig :=
  calls.foldl installs config

/-- Every call respected the configuration that was installed when it was made. -/
def Proper (config : ReplSetConfig) (calls : Trace Calls) : Prop :=
  ∀ pre ev post, calls = pre ++ ev :: post → ProperCall (installed config pre) ev.1

section
variable {α : Type} {config config' : ReplSetConfig} {p q : Py α} {t calls : Trace Calls}

theorem installed_append (config : ReplSetConfig) (calls calls' : Trace Calls) :
    installed config (calls ++ calls') = installed (installed config calls) calls' :=
  List.foldl_append

theorem answersConfig_installs {op : Op} {r : op.Reply} (h : answersConfig config op r config') :
    config' = installs config ⟨op, r⟩ := by
  cases op with
  | replSetReconfig conn sent =>
      obtain ⟨hr, hc⟩ : r = .ok () ∧ config' = sent := h
      rw [hr, hc]
      rfl
  | replSetGetConfig conn => exact h.2
  | _ => exact h

theorem installed_eq_self (h : ∀ ev ∈ calls, isReconfig ev.1 = false) :
    installed config calls = config := by
  induction calls with
  | nil => rfl
  | cons ev calls ih =>
      rw [List.forall_mem_cons] at h
      have hfirst : installs config ev = config := by
        obtain ⟨op, r⟩ := ev
        cases op with
        | replSetReconfig conn sent => cases h.1
        | _ => rfl
      rw [installed, List.foldl_cons, hfirst]
      exact ih h.2

/-- The record of a run determines the configuration. -/
theorem exec_installed (h : Exec configServer p config t q config') :
    config' = installed config t := by
  induction h with
  | rest hr =>
      cases hr
      rfl
  | call hr ha _ ih =>
      cases hr
      rw [ih, answersConfig_installs ha]
      rfl

theorem proper_of_wp {Q : α → ReplSetConfig → Prop} {E : PyExc → ReplSetConfig → Prop}
    (h : Exec configServer p config t q config')
    (hp : p.wp configServer ProperCall Q E config) : Proper config t := by
  intro pre ev post ht
  rw [ht] at h
  obtain ⟨c₁, c₂, next, h₁, -, hok⟩ := h.ok_of_split hp
  rwa [← exec_installed h₁]

theorem proper_append {calls' : Trace Calls} (h : Proper config calls)
    (h' : Proper (installed config calls) calls') : Proper config (calls ++ calls') := by
  intro pre ev post heq
  rcases split_of_append heq with ⟨mid, hcalls, -⟩ | ⟨mid, hpre, hcalls'⟩
  · exact h pre ev mid hcalls
  · rw [hpre, installed_append]
    exact h' mid ev post hcalls'

/-- What is known after the decisions `ds`. -/
structure Progress (config : ReplSetConfig) (ds : List Decision) (x : ReplSetConfig × Trace Calls) :
    Prop where
  outcomes_eq : outcomes x.2 = ds
  installed_eq : x.1 = installed config x.2
  proper : Proper config x.2
  config_eq : x.1 = ds.foldl (fun c d => withChaining c (decide (d = .done))) config

/-- A run that neither decides nor touches the configuration. -/
theorem Progress.of_unchanged {ds : List Decision} {x y : ReplSetConfig × Trace Calls}
    (hx : Progress config ds x) (h : Exec (Setting.recording configServer) p x t q y)
    (hp : p.Issues fun op => isOutcomeCall op = false ∧ isReconfig op = false ∧ ProperCall x.1 op) :
    Progress config ds y := by
  obtain ⟨hexec, hcalls⟩ := Exec.recording_iff.mp h
  have hwp := @wp_unchanged _ p x.1 (hp.mono fun _ hop => hop.2)
  have hnone : outcomes t = [] := outcomes_eq_nil hexec (hp.mono fun _ hop => hop.1)
  have hinst := exec_installed hexec
  have hsame : y.1 = x.1 := by
    rw [hinst]
    exact installed_eq_self fun ev hev => ((hexec.issues hp).1 ev hev).2.1
  refine ⟨?_, ?_, ?_, ?_⟩
  · rw [hcalls, outcomes_append, hnone, List.append_nil, hx.outcomes_eq]
  · rw [hinst, hcalls, installed_append, hx.installed_eq]
  · rw [hcalls]
    apply proper_append hx.proper
    rw [← hx.installed_eq]
    exact proper_of_wp hexec hwp
  · rw [hsame, hx.config_eq]

theorem done_iff_of_text {d d' : Decision} (h : d.action.text = d'.action.text) :
    d = .done ↔ d' = .done := by
  cases d <;> cases d' <;> simp_all [Decision.action, Action.text]

/-- One more invocation has taken one more decision. -/
theorem Progress.of_invocation {ds : List Decision} {x y : ReplSetConfig × Trace Calls}
    {event out : Json} (hx : Progress config ds x)
    (h : Exec (Setting.recording configServer) (lambdaHandler event) x t (.ret out) y) :
    ∃ d, Progress config (ds ++ [d]) y ∧
      out.get? ["decision", "action"] = some (.str d.action.text) := by
  obtain ⟨hexec, hcalls⟩ := Exec.recording_iff.mp h
  have hruns : Runs (fun _ _ => True) (lambdaHandler event) t (.ret out) :=
    hexec.runs fun _ _ _ _ _ => trivial
  obtain ⟨d, hout, haction⟩ := outcomes_lambdaHandler hruns
  obtain ⟨d', haction', hconfig⟩ := hexec.ret_post (@wp_lambdaHandler x.1 event)
  have hsame : decide (d = .done) = decide (d' = .done) := by
    have htext : d.action.text = d'.action.text := by simpa using haction.symm.trans haction'
    exact decide_eq_decide.mpr (done_iff_of_text htext)
  refine ⟨d, ⟨?_, ?_, ?_, ?_⟩, haction⟩
  · rw [hcalls, outcomes_append, hx.outcomes_eq, hout]
  · rw [exec_installed hexec, hcalls, installed_append, hx.installed_eq]
  · rw [hcalls]
    apply proper_append hx.proper
    rw [← hx.installed_eq]
    exact proper_of_wp hexec wp_lambdaHandler
  · rw [hconfig, List.foldl_append, ← hx.config_eq, ← hsame]
    rfl

/-- After recycles only, chaining has been switched off at the first of them. -/
theorem foldl_recycles {ds : List Decision} (hds : ∀ d ∈ ds, d ≠ .done) (config : ReplSetConfig) :
    ds.foldl (fun c d => withChaining c (decide (d = .done))) config =
      if ds = [] then config else withChaining config false := by
  induction ds generalizing config with
  | nil => rfl
  | cons d ds ih =>
      rw [List.forall_mem_cons] at hds
      rw [List.foldl_cons, ih hds.2, decide_eq_false hds.1, if_neg (List.cons_ne_nil d ds)]
      by_cases hnil : ds = []
      · rw [if_pos hnil]
      · rw [if_neg hnil, withChaining_withChaining]

end

-- ============================================================================
-- Whole runs
-- ============================================================================

section
variable {tf : TfVars} {config : ReplSetConfig}

/-- Recycles only, until the loop is left. -/
def configStages (config : ReplSetConfig) : Stages (ReplSetConfig × Trace Calls) where
  before := Progress config []
  loop x := ∃ ds, (∀ d ∈ ds, d ≠ .done) ∧ Progress config ds x
  decided d x := ∃ ds, (∀ d' ∈ ds, d' ≠ .done) ∧ Progress config (ds ++ [d]) x
  after _ := True

theorem configStages_ordered (config : ReplSetConfig) : (configStages config).Ordered where
  before_loop h := ⟨[], by simp, h⟩
  loop_after _ := trivial
  decided_done _ := trivial
  decided_loop := by
    rintro d x hd ⟨ds, hds, h⟩
    refine ⟨ds ++ [d], ?_, h⟩
    intro d' hmem
    rcases List.mem_append.mp hmem with hmem | hmem
    · exact hds d' hmem
    · rw [List.mem_singleton.mp hmem]
      exact hd

theorem recording_rely_eq {x y : ReplSetConfig × Trace Calls}
    (h : (Setting.recording configServer).rely x y) : y = x := by
  obtain ⟨hconfig, hcalls⟩ := h
  exact Prod.ext hconfig.symm hcalls

/-- The answer of a lambda that is not modelled. -/
theorem Progress.of_invoke {ds : List Decision} {x y : ReplSetConfig × Trace Calls}
    {function : String} {input : Json} {r : Except PyExc Json} (hx : Progress config ds x)
    (h : (Setting.recording configServer).answers x (.invoke function input) r y) :
    Progress config ds y := by
  have hexec : Exec (Setting.recording configServer) (ask (.invoke function input)) x
      [⟨.invoke function input, r⟩] (.ret r) y :=
    .call ((Setting.recording configServer).rely_refl x) h (.refl _ _)
  exact hx.of_unchanged hexec ⟨⟨rfl, rfl, trivial⟩, fun _ => trivial⟩

theorem configStages_invariant (config : ReplSetConfig) :
    Invariant (autoRecycle tf) (lambdas fun _ => False) (.recording configServer)
      (configStages config).At (fun _ _ => True) (fun _ => True) := by
  apply Stages.invariant (configStages_ordered config)
  · intro x y hr
    rw [recording_rely_eq hr]
    exact ⟨id, id, fun _ => id, id⟩
  · intro x y function input r ha
    exact ⟨fun hx => hx.of_invoke ha, id⟩
  · exact fun _ => trivial
  · rintro event x ⟨ds, hds, hx⟩
    apply Prog.wp_of_exec
    · intro tr out y hexec
      obtain ⟨d, hy, haction⟩ := hx.of_invocation hexec
      exact ⟨d, haction, ds, hds, hy⟩
    · exact fun _ _ _ _ => trivial
    · exact fun _ _ _ _ _ => trivial
  · exact fun h _ => h.elim
  · exact fun _ => trivial
  · exact fun _ => trivial

/-- A run of the Mongo branch that has come to its `DONE` decision: every
    reconfiguration has the next version, chaining was off at every `terminate`
    and is on at the end, and nothing else has changed. -/
theorem configuration_of_run {data out : Json} {n : Nat} {config' : ReplSetConfig}
    {calls : Trace Calls} (hstrategy : data.get? ["strategy"] = some (.str "mongo"))
    (hrun : Reaches (autoRecycle tf) ((lambdas fun _ => False).tasks (.recording configServer))
      (.at startAt data 0, (config, [])) (.at .mongoAutorecycleDecision out n, (config', calls)))
    (hdone : out.get? ["decision", "action"] = some (.str Action.done.text)) :
    ∃ recycles, (∀ d ∈ recycles, d ≠ .done) ∧ outcomes calls = recycles ++ [.done] ∧
      (∀ pre conn sent r post, calls = pre ++ ⟨.replSetReconfig conn sent, r⟩ :: post →
        sent.version = (installed config pre).version + 1) ∧
      (∀ pre id r post, calls = pre ++ ⟨.terminate id, r⟩ :: post →
        (installed config pre).settings.chainingAllowed = false) ∧
      config' = installed config calls ∧ config'.settings.chainingAllowed = true ∧
      config'.version = config.version +
        (if config.settings.chainingAllowed = true then (if recycles = [] then 0 else 2) else 1) ∧
      config'.others = config.others ∧ config'.settings.others = config.settings.others := by
  have hstart : Invariant.Holds (autoRecycle tf) (lambdas fun _ => False)
      (.recording configServer) (configStages config).At
      (.idle (.at startAt data 0), (config, [])) := by
    refine ⟨hstrategy, rfl, rfl, ?_, rfl⟩
    intro pre ev post hnil
    simp at hnil
  have hinv := @configStages_invariant tf config
  obtain ⟨d, haction, recycles, hrecycles, hprogress⟩ := hinv.holds_reaches hstart hrun.reaches_live
  have hd : d = .done := by
    have htext : d.action.text = (Decision.done).action.text := by
      simpa [Decision.action] using haction.symm.trans hdone
    exact (done_iff_of_text htext).mpr rfl
  subst hd
  have hconfig : config' = withChaining (if recycles = [] then config else withChaining config false)
      true := by
    have hfold := hprogress.config_eq
    rw [List.foldl_append, foldl_recycles hrecycles] at hfold
    exact hfold
  refine ⟨recycles, hrecycles, hprogress.outcomes_eq, ?_, ?_, hprogress.installed_eq, ?_, ?_, ?_, ?_⟩
  · intro pre conn sent r post hcalls
    exact hprogress.proper pre _ post hcalls
  · intro pre id r post hcalls
    exact hprogress.proper pre _ post hcalls
  · rw [hconfig, chainingAllowed_withChaining]
  · rw [hconfig, version_withChaining]
    by_cases hnil : recycles = []
    · rw [if_pos hnil, if_pos hnil]
    · rw [if_neg hnil, if_neg hnil, version_withChaining, chainingAllowed_withChaining]
      cases config.settings.chainingAllowed <;> simp
      omega
  · rw [hconfig, others_withChaining]
    split
    · rfl
    · rw [others_withChaining]
  · rw [hconfig, settings_others_withChaining]
    split
    · rfl
    · rw [settings_others_withChaining]

end

/-- A replica set with one SECONDARY to recycle, and what it is afterwards: its
    configuration goes from version 1 to version 2 in between. -/
def renewedSet (config : ReplSetConfig) : SteadySet where
  targetAmi := "ami-2"
  instances :=
    if config.version = 1 then
      [SteadySet.running "i-a" "ami-2" "10.0.0.1", SteadySet.running "i-b" "ami-1" "10.0.0.2"]
    else [SteadySet.running "i-a" "ami-2" "10.0.0.1", SteadySet.running "i-c" "ami-2" "10.0.0.2"]
  myState ip := if ip = "10.0.0.1" then 1 else 2
  members := [SteadySet.member "10.0.0.1" "PRIMARY", SteadySet.member "10.0.0.2" "SECONDARY"]

def renewedAnswer (config : ReplSetConfig) : (op : Op) → Option (op.Reply × ReplSetConfig)
  | .replSetGetConfig _ => some (.ok config, config)
  | .replSetReconfig _ sent => some (.ok (), sent)
  | op => some ((renewedSet config).reply op, config)

def firstConfig : ReplSetConfig where
  version := 1
  settings := { chainingAllowed := true, others := [] }
  others := []

/-- The first and the second invocation of the script. -/
def firstWalk : Trace Calls × Py Json × ReplSetConfig :=
  (lambdaHandler firstEvent).walk renewedAnswer firstConfig

def secondEvent : Json := firstWalk.2.1.value?.getD .null

def secondWalk : Trace Calls × Py Json × ReplSetConfig :=
  (lambdaHandler secondEvent).walk renewedAnswer firstWalk.2.2

theorem renewedAnswer_exec {event : Json} {config : ReplSetConfig} {calls : Trace Calls}
    {a : Action}
    (h : ((lambdaHandler event).walk renewedAnswer config).2.1.value?.isSome = true)
    (ha : (outcomes ((lambdaHandler event).walk renewedAnswer config).1).map Decision.action = [a]) :
    ∃ out, ((lambdaHandler event).walk renewedAnswer config).2.1 = .ret out ∧
      Exec (Setting.recording configServer) (lambdaHandler event) (config, calls)
        ((lambdaHandler event).walk renewedAnswer config).1 (.ret out)
        (((lambdaHandler event).walk renewedAnswer config).2.2,
          calls ++ ((lambdaHandler event).walk renewedAnswer config).1) ∧
      ∃ d : Decision, d.action = a ∧ out.get? ["decision", "action"] = some (.str d.action.text) := by
  obtain ⟨out, hout⟩ := Option.isSome_iff_exists.mp h
  have hret := Prog.value?_eq_some.mp hout
  have hexec := Prog.walk_exec configServer renewedAnswer (fun config op r config' hr => by
    cases op <;> cases hr <;> first | exact ⟨rfl, rfl⟩ | rfl) (lambdaHandler event) config
  rw [hret] at hexec
  have hruns : Runs (fun _ _ => True) _ _ _ := hexec.runs fun _ _ _ _ _ => trivial
  obtain ⟨d, hd, haction⟩ := outcomes_lambdaHandler hruns
  refine ⟨out, hret, Exec.recording_iff.mpr ⟨hexec, rfl⟩, d, ?_, haction⟩
  rw [hd] at ha
  simpa using ha

/-- A lambda that returns its input. -/
theorem invoke_exec (function : String) (input : Json) (config : ReplSetConfig)
    (calls : Trace Calls) :
    Exec (Setting.recording configServer) (invoke function input) (config, calls)
      [⟨.invoke function input, .ok input⟩] (.ret input)
      (config, calls ++ [⟨.invoke function input, .ok input⟩]) :=
  Exec.recording_iff.mpr ⟨.call rfl rfl (.rest rfl), rfl⟩

theorem renewedSet_reaches :
    ∃ out config calls, Reaches (autoRecycle noVars)
        ((lambdas fun _ => False).tasks (.recording configServer))
        (.at startAt mongoPayload 0, (firstConfig, []))
        (.at .mongoAutorecycleDecision out 0, (config, calls)) ∧
      out.get? ["decision", "action"] = some (.str Action.done.text) ∧
      (outcomes calls).length = 2 ∧ config.version = 3 := by
  have hslack := invoke_exec "slack_notifications" firstEvent firstConfig []
  obtain ⟨out, hout, hfirst, d, hd, haction⟩ := @renewedAnswer_exec firstEvent firstConfig
    [⟨.invoke "slack_notifications" firstEvent, .ok firstEvent⟩] .recycleSecondary
    (by decide +kernel) (by decide +kernel)
  obtain ⟨out', hout', hsecond, d', hd', haction'⟩ := @renewedAnswer_exec secondEvent firstWalk.2.2
    ([⟨.invoke "slack_notifications" firstEvent, .ok firstEvent⟩] ++ firstWalk.1) .done
    (by decide +kernel) (by decide +kernel)
  have hevent : secondEvent = out := by
    rw [secondEvent, firstWalk, hout]
    rfl
  rw [hevent] at hsecond
  have hdecision := @start_mongoAutorecycleDecision noVars out d haction
  rw [hd, if_neg (by decide)] at hdecision
  refine ⟨out', secondWalk.2.2, [⟨.invoke "slack_notifications" firstEvent, .ok firstEvent⟩] ++
    firstWalk.1 ++ secondWalk.1, ?_, ?_, by decide +kernel, by decide +kernel⟩
  · refine (reaches_recycler (by simp [mongoPayload, Data.Dict.get?])
      (by simp [mongoPayload, Data.Dict.get?]) hslack).trans ?_
    refine .head (.task rfl (Host.tasks.ret hfirst)) ?_
    refine .head (.goto hdecision) ?_
    refine .head (.goto rfl) ?_
    have hlast := hsecond
    rw [← hevent] at hlast ⊢
    exact .head (.task rfl (Host.tasks.ret hlast)) .refl
  · rw [haction', hd']

/-- One member is recycled, and the second invocation decides `DONE`. -/
theorem configuration_of_run_renewedSet :
    ∃ out config' calls, Reaches (autoRecycle noVars)
        ((lambdas fun _ => False).tasks (.recording configServer))
        (.at startAt mongoPayload 0, (firstConfig, []))
        (.at .mongoAutorecycleDecision out 0, (config', calls)) ∧
      out.get? ["decision", "action"] = some (.str Action.done.text) ∧
      (outcomes calls).length = 2 ∧ ∃ recycles : List Decision,
      (∀ d ∈ recycles, d ≠ .done) ∧ outcomes calls = recycles ++ [.done] ∧
      (∀ pre conn sent r post, calls = pre ++ ⟨.replSetReconfig conn sent, r⟩ :: post →
        sent.version = (installed firstConfig pre).version + 1) ∧
      (∀ pre id r post, calls = pre ++ ⟨.terminate id, r⟩ :: post →
        (installed firstConfig pre).settings.chainingAllowed = false) ∧
      config' = installed firstConfig calls ∧ config'.settings.chainingAllowed = true ∧
      config'.version = firstConfig.version + (if firstConfig.settings.chainingAllowed = true then
        (if recycles = [] then 0 else 2) else 1) ∧
      config'.others = firstConfig.others ∧
      config'.settings.others = firstConfig.settings.others := by
  obtain ⟨out, config', calls, hrun, hdone, htwo, -⟩ := renewedSet_reaches
  have hstrategy : mongoPayload.get? ["strategy"] = some (.str "mongo") := by
    simp [mongoPayload, Data.Dict.get?]
  exact ⟨out, config', calls, hrun, hdone, htwo, configuration_of_run hstrategy hrun hdone⟩

end AutoRecycle.Mongo
