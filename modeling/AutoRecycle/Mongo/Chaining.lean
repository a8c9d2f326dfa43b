/-
  AutoRecycle.Mongo.Chaining

  Whether chaining is allowed, at any time of an execution.

  It is what the last `set_chaining` that came through has set, and
  `set_chaining` is called for the decision in force: with `True` for `DONE`, and
  otherwise with `False`, before any member is taken down (`Chained`).  Nothing
  else restores the setting: an invocation that raises in between leaves it as
  it is.
-/
import AutoRecycle.Mongo.Configuration

namespace AutoRecycle.Mongo

open AutoRecycle.Asl AutoRecycle.Data AutoRecycle.Effect AutoRecycle.Py AutoRecycle.StateMachine

-- ============================================================================
-- What the calls say of chaining
-- ============================================================================

/-- What a reconfiguration that came through has written. -/
def written? : Event Calls → Option Bool
  | ⟨.replSetReconfig _ sent, .ok _⟩ => some sent.settings.chainingAllowed
  | _ => none

/-- The calls that take a member down. -/
def takesDown : Op → Bool
  | .terminate _ => true
  | .replSetStepDown .. => true
  | _ => false

structure Chained (x : ReplSetConfig × Trace Calls) : Prop where
  /-- Chaining is allowed as it was last written, and at first. -/
  last : x.1.settings.chainingAllowed = (Trace.last? written? x.2).getD true
  /-- It is written as the decision in force has it. -/
  decided : ∀ pre ev post b, x.2 = pre ++ ev :: post → written? ev = some b →
    ∃ d, Trace.last? outcome? pre = some d ∧ b = decide (d = .done)
  /-- A member is taken down for a decision to recycle, with chaining off. -/
  down : ∀ pre ev post, x.2 = pre ++ ev :: post → takesDown ev.1 = true →
    ∃ d, Trace.last? outcome? pre = some d ∧ d ≠ .done ∧ (Trace.last? written? pre).getD true = false

/-- `Chained`, with the decision in force and the setting. -/
def ChainedAt (d : Option Decision) (b : Bool) (x : ReplSetConfig × Trace Calls) : Prop :=
  Chained x ∧ Trace.last? outcome? x.2 = d ∧ x.1.settings.chainingAllowed = b

theorem mem_outcomes_of_last? {calls : Trace Calls} {d : Decision}
    (h : Trace.last? outcome? calls = some d) : d ∈ outcomes calls := by
  obtain ⟨pre, ev, post, rfl, hd⟩ := Trace.exists_of_last? h
  exact List.mem_filterMap.mpr ⟨ev, by simp, hd⟩

theorem written?_eq_none {op : Op} (h : isReconfig op = false) (r : op.Reply) :
    written? ⟨op, r⟩ = none := by
  cases op with
  | replSetReconfig conn sent => cases h
  | _ => rfl

section
variable {x y : ReplSetConfig × Trace Calls} {d : Option Decision} {b : Bool}

theorem ChainedAt.of_chained (h : Chained x) :
    ChainedAt (Trace.last? outcome? x.2) x.1.settings.chainingAllowed x := ⟨h, rfl, rfl⟩

/-- One more call. -/
theorem Chained.snoc (h : Chained x) {ev : Event Calls} (hcalls : y.2 = x.2 ++ [ev])
    (hlast : y.1.settings.chainingAllowed =
      ((written? ev).or (Trace.last? written? x.2)).getD true)
    (hdecided : ∀ b, written? ev = some b →
      ∃ d, Trace.last? outcome? x.2 = some d ∧ b = decide (d = .done))
    (hdown : takesDown ev.1 = true →
      ∃ d, Trace.last? outcome? x.2 = some d ∧ d ≠ .done ∧ x.1.settings.chainingAllowed = false) :
    Chained y := by
  refine ⟨by rw [hcalls, Trace.last?_snoc, hlast], fun pre ev' post b heq => ?_, ?_⟩
  · rw [hcalls] at heq
    refine forall_split_append (P := fun pre ev => ∀ b, written? ev = some b →
      ∃ d, Trace.last? outcome? pre = some d ∧ b = decide (d = .done)) ?_ hdecided pre ev' post heq b
    exact fun pre ev post heq b => h.decided pre ev post b heq
  · rw [hcalls]
    exact forall_split_append h.down fun htakes => by rw [← h.last]; exact hdown htakes

/-- A call that neither writes the configuration nor decides. -/
def SetsNothing (op : Op) : Prop := isReconfig op = false ∧ isOutcomeCall op = false

theorem ChainedAt.answers (h : ChainedAt d b x) {op : Op} {r : op.Reply}
    (ha : (Setting.recording configServer).answers x op r y) (hop : SetsNothing op)
    (hdown : takesDown op = true → (∃ d', d = some d' ∧ d' ≠ .done) ∧ b = false) :
    ChainedAt d b y := by
  obtain ⟨hchained, rfl, rfl⟩ := h
  have hnone : written? ⟨op, r⟩ = none := written?_eq_none hop.1 r
  have hsame : y.1 = x.1 := answersConfig_of_not_reconfig ha.1 hop.1
  refine ⟨hchained.snoc ha.2 ?_ ?_ ?_, ?_, by rw [hsame]⟩
  · rw [hsame, hnone]
    exact hchained.last
  · intro b hb
    rw [hnone] at hb
    cases hb
  · intro htakes
    obtain ⟨⟨d, hd, hne⟩, hb⟩ := hdown htakes
    exact ⟨d, hd, hne, hb⟩
  · rw [ha.2, Trace.last?_snoc, outcome?_eq_none hop.2, Option.none_or]

/-- A call that takes no member down either. -/
theorem ChainedAt.answers_quiet (h : ChainedAt d b x) {op : Op} {r : op.Reply}
    (ha : (Setting.recording configServer).answers x op r y) (hop : SetsNothing op)
    (hquiet : takesDown op = false) : ChainedAt d b y := by
  refine h.answers ha hop fun htakes => ?_
  rw [hquiet] at htakes
  cases htakes

theorem ChainedAt.rely (h : ChainedAt d b x) (hr : (Setting.recording configServer).rely x y) :
    ChainedAt d b y := by
  rw [recording_rely_eq hr]
  exact h

end

-- ============================================================================
-- The parts of an invocation
-- ============================================================================

section
variable {α : Type} {p : Py α} {x : ReplSetConfig × Trace Calls} {d : Option Decision}
  {b : Bool} {component conn : String}

/-- A part that sets nothing, and takes a member down only where that may be. -/
theorem wp_chainedAt (hp : p.Issues fun op => SetsNothing op ∧
      (takesDown op = true → (∃ d', d = some d' ∧ d' ≠ .done) ∧ b = false))
    (hx : ChainedAt d b x) : p.wp (.recording configServer) (fun x _ => Chained x)
      (fun _ => ChainedAt d b) (fun _ => ChainedAt d b) x := by
  apply hp.wp
  · exact fun x y hx hr => hx.rely hr
  · exact fun x op r y hx hop ha => hx.answers ha hop.1 hop.2
  · exact fun x op hx _ => hx.1
  · exact hx

/-- A part that takes nothing down either. -/
theorem wp_chainedAt_quiet (hp : p.Issues fun op => SetsNothing op ∧ takesDown op = false)
    (hx : ChainedAt d b x) : p.wp (.recording configServer) (fun x _ => Chained x)
      (fun _ => ChainedAt d b) (fun _ => ChainedAt d b) x :=
  wp_chainedAt (hp.mono fun _ hop => ⟨hop.1, fun htakes => by simp [hop.2] at htakes⟩) hx

/-- `set_chaining`, as the decision in force has it called. -/
theorem wp_chainedAt_setChaining {d : Decision} (hx : ChainedAt (some d) b x) :
    (setChaining conn (decide (d = .done))).wp (.recording configServer) (fun x _ => Chained x)
      (fun _ => ChainedAt (some d) (decide (d = .done))) (fun _ => Chained) x := by
  rw [setChaining, Prog.wp_bind]
  have hconnect : (connect conn).Issues fun op => SetsNothing op ∧ takesDown op = false :=
    issues_connect ⟨⟨rfl, rfl⟩, rfl⟩
  refine Prog.wp_mono ?_ (fun _ _ h => h.1) (wp_chainedAt_quiet hconnect hx)
  intro _ x₁ hx₁ x₂ hr
  obtain rfl := recording_rely_eq hr
  refine ⟨hx₁.1, fun r x₃ ha => ?_⟩
  obtain ⟨hreply, hsame⟩ := ha.1
  have hx₃ : ChainedAt (some d) b x₃ := hx₁.answers_quiet ha ⟨rfl, rfl⟩ rfl
  rw [hreply, ← hsame]
  refine wp_raise_bind (fun config hok => ?_) fun _ _ _ hr => (hx₃.rely hr).1
  cases hok
  by_cases hset : x₃.1.settings.chainingAllowed = decide (d = .done)
  · rw [if_pos hset]
    intro x₄ hr
    obtain rfl := recording_rely_eq hr
    refine ⟨hx₃.1, fun _ x₅ ha x₆ hr => ?_⟩
    obtain rfl := recording_rely_eq hr
    have hx₆ : ChainedAt (some d) b x₆ := hx₃.answers_quiet ha ⟨rfl, rfl⟩ rfl
    exact ⟨hx₆.1, hx₆.2.1, by rw [hx₆.2.2, ← hx₃.2.2, hset]⟩
  · rw [if_neg hset]
    intro x₄ hr
    obtain rfl := recording_rely_eq hr
    refine ⟨hx₃.1, fun _ x₅ ha => ?_⟩
    have hx₅ : ChainedAt (some d) b x₅ := hx₃.answers_quiet ha ⟨rfl, rfl⟩ rfl
    intro x₆ hr
    obtain rfl := recording_rely_eq hr
    refine ⟨hx₅.1, fun r x₇ ha => ?_⟩
    obtain ⟨hreply, hsent⟩ := ha.1
    subst hreply
    intro x₈ hr
    obtain rfl := recording_rely_eq hr
    refine ⟨hx₅.1.snoc ha.2 (by rw [hsent]; rfl) ?_ ?_, ?_, by rw [hsent]⟩
    · rintro _ ⟨⟩
      exact ⟨d, hx₅.2.1, rfl⟩
    · intro htakes
      cases htakes
    · rw [ha.2, Trace.last?_snoc]
      exact hx₅.2.1

theorem wp_chainedAt_executeAction {d : Decision} (hx : ChainedAt (some d) b x) :
    (executeAction component d).wp (.recording configServer) (fun x _ => Chained x)
      (fun _ => ChainedAt (some d) (decide (d = .done))) (fun _ => Chained) x := by
  rw [executeAction, Prog.wp_bind]
  have hlist : (getMongoDbInstances component).Issues fun op => SetsNothing op ∧ takesDown op = false :=
    issues_getMongoDbInstances fun _ => ⟨⟨rfl, rfl⟩, rfl⟩
  refine Prog.wp_mono ?_ (fun _ _ h => h.1) (wp_chainedAt_quiet hlist hx)
  intro items x₁ hx₁
  refine wp_raise_bind (fun conn _ => ?_) fun _ _ _ hr => (hx₁.rely hr).1
  cases hnode : d.node? with
  | none =>
      have hd : decide (d = .done) = true := by
        cases d with
        | done => rfl
        | _ => cases hnode
      rw [Prog.wp_bind, ← hd]
      exact Prog.wp_mono (fun _ _ hx₂ _ hr => hx₂.rely hr) (fun _ _ h => h)
        (wp_chainedAt_setChaining hx₁)
  | some node =>
      have hne : d ≠ .done := by
        rintro rfl
        cases hnode
      have hd : decide (d = .done) = false := decide_eq_false hne
      rw [Prog.wp_bind, ← hd]
      refine Prog.wp_mono (fun _ x₂ hx₂ => ?_) (fun _ _ h => h) (wp_chainedAt_setChaining hx₁)
      refine Prog.wp_mono (fun _ _ h => h) (fun _ _ h => h.1) (wp_chainedAt ?_ hx₂)
      have hmay : ∀ {op}, SetsNothing op → SetsNothing op ∧ (takesDown op = true →
          (∃ d', some d = some d' ∧ d' ≠ .done) ∧ decide (d = .done) = false) :=
        fun hop => ⟨hop, fun _ => ⟨⟨d, rfl, hne⟩, hd⟩⟩
      have hwait : (waitUntilClusterHealthy component).Issues fun op => SetsNothing op ∧
          (takesDown op = true → (∃ d', some d = some d' ∧ d' ≠ .done) ∧ decide (d = .done) = false) :=
        issues_waitUntilClusterHealthy (fun _ => hmay ⟨rfl, rfl⟩) (fun _ => hmay ⟨rfl, rfl⟩)
          (fun _ => hmay ⟨rfl, rfl⟩) (fun _ hl => hmay ⟨rfl, hl⟩) fun _ => hmay ⟨rfl, rfl⟩
      have hrecycle := @issues_recycle component _ node (hmay ⟨rfl, rfl⟩) (fun _ => hmay ⟨rfl, rfl⟩)
        (fun _ => hmay ⟨rfl, rfl⟩) hwait (fun _ hl => hmay ⟨rfl, hl⟩) fun _ => hmay ⟨rfl, rfl⟩
      by_cases hact : d.action = .stepDownAndRecyclePrimary
      · simp only [hact, if_true]
        refine Prog.Issues.bind ?_ fun _ => hrecycle
        exact issues_stepDownAndWait (issues_stepDown (hmay ⟨rfl, rfl⟩) (hmay ⟨rfl, rfl⟩)) hwait
          fun _ hl => hmay ⟨rfl, hl⟩
      · simp only [hact, if_false]
        exact hrecycle

theorem wp_chainedAt_step (hx : Chained x) :
    (step component).wp (.recording configServer) (fun x _ => Chained x)
      (fun d => ChainedAt (some d) (decide (d = .done))) (fun _ => Chained) x := by
  rw [step, Prog.wp_bind]
  have hobserve : (observe component).Issues fun op => SetsNothing op ∧ takesDown op = false :=
    issues_observe (fun _ => ⟨⟨rfl, rfl⟩, rfl⟩) (fun _ _ => ⟨⟨rfl, rfl⟩, rfl⟩)
      (fun _ => ⟨⟨rfl, rfl⟩, rfl⟩) (fun _ => ⟨⟨rfl, rfl⟩, rfl⟩) (fun _ => ⟨⟨rfl, rfl⟩, rfl⟩)
      fun _ hl => ⟨⟨rfl, hl⟩, rfl⟩
  refine Prog.wp_mono ?_ (fun _ _ h => h.1) (wp_chainedAt_quiet hobserve (.of_chained hx))
  rintro ⟨targetAmi, nodes⟩ y hy y₁ hr
  obtain rfl := recording_rely_eq hr
  refine ⟨hy.1, fun r z ha => ?_⟩
  have hz : ChainedAt (some (decideOnAction nodes targetAmi)) y₁.1.settings.chainingAllowed z := by
    have hsame : z.1 = y₁.1 := ha.1
    refine ⟨hy.1.snoc ha.2 ?_ ?_ ?_, ?_, by rw [hsame]⟩
    · rw [hsame]
      exact hy.1.last
    · intro b hwritten
      cases hwritten
    · intro htakes
      cases htakes
    · rw [ha.2, Trace.last?_snoc]
      rfl
  show (executeAction component (decideOnAction nodes targetAmi) >>= fun _ =>
    Prog.ret (decideOnAction nodes targetAmi)).wp _ _ _ _ z
  rw [Prog.wp_bind]
  exact Prog.wp_mono (fun _ _ h _ hr => h.rely hr) (fun _ _ h => h) (wp_chainedAt_executeAction hz)

theorem wp_chainedAt_lambdaHandler {event : Json} (hx : Chained x) :
    (lambdaHandler event).wp (.recording configServer) (fun x _ => Chained x)
      (fun out y => ∃ d : Decision, out.get? ["decision", "action"] = some (.str d.action.text) ∧
        ChainedAt (some d) (decide (d = .done)) y) (fun _ => Chained) x := by
  have herror : ∀ {y z}, Chained y → (Setting.recording configServer).rely y z → Chained z := by
    intro y z hy hr
    rw [recording_rely_eq hr]
    exact hy
  have hrest : ∀ component y, Chained y → (takeStep event component).wp (.recording configServer)
      (fun x _ => Chained x)
      (fun out y => ∃ d : Decision, out.get? ["decision", "action"] = some (.str d.action.text) ∧
        ChainedAt (some d) (decide (d = .done)) y) (fun _ => Chained) y := by
    intro component y hy
    refine wp_raise_bind (fun name _ => ?_) fun _ _ z hr => herror hy hr
    rw [Prog.wp_bind]
    refine Prog.wp_mono (fun d z hz => ?_) (fun _ _ h => h) (wp_chainedAt_step hy)
    exact wp_raise (fun out hout _ hr => ⟨d, finishEvent_action hout, hz.rely hr⟩)
      fun _ _ _ hr => herror hz.1 hr
  rw [lambdaHandler_eq]
  refine wp_raise_bind (fun component _ => ?_) fun _ _ z hr => herror hx hr
  by_cases hfirst : isFirstRun event = true
  · rw [if_pos hfirst, Prog.wp_bind]
    have hrecord : (recordRecycleStarting component).Issues
        fun op => SetsNothing op ∧ takesDown op = false :=
      issues_recordRecycleStarting ⟨⟨rfl, rfl⟩, rfl⟩ (fun _ _ => ⟨⟨rfl, rfl⟩, rfl⟩)
        fun _ hl => ⟨⟨rfl, hl⟩, rfl⟩
    exact Prog.wp_mono (fun _ y hy => hrest component y hy.1) (fun _ _ h => h.1)
      (wp_chainedAt_quiet hrecord (.of_chained hx))
  · rw [if_neg hfirst]
    exact hrest component x hx

end

-- ============================================================================
-- Whole executions
-- ============================================================================

section
variable {tf : TfVars} {faults : TaskError → Prop} {config : ReplSetConfig}

def chainingStages : Stages (ReplSetConfig × Trace Calls) where
  before := Chained
  loop := Chained
  decided d := ChainedAt (some d) (decide (d = .done))
  after := Chained

theorem chainingStages_invariant :
    Invariant (autoRecycle tf) (lambdas faults) (.recording configServer) chainingStages.At
      (fun x _ => Chained x) Chained := by
  have hordered : chainingStages.Ordered :=
    { before_loop := id, loop_after := id, decided_done := fun h => h.1,
      decided_loop := fun _ h => h.1 }
  apply Stages.invariant hordered
  · intro x y hr
    rw [recording_rely_eq hr]
    exact ⟨id, id, fun _ => id, id⟩
  · intro x y function input r ha
    have hkept : Chained x → Chained y := fun hx =>
      (ChainedAt.of_chained hx).answers_quiet ha ⟨rfl, rfl⟩ rfl |>.1
    exact ⟨hkept, hkept⟩
  · exact id
  · exact fun hx => wp_chainedAt_lambdaHandler hx
  · exact fun _ hx => ⟨hx, fun _ _ => hx⟩
  · exact id
  · exact id

/-- From a `DONE` on, chaining stays on. -/
def doneStages : Stages (ReplSetConfig × Trace Calls) where
  before _ := False
  loop _ := False
  decided d x := d = .done ∧ x.1.settings.chainingAllowed = true
  after x := x.1.settings.chainingAllowed = true

theorem doneStages_invariant :
    Invariant (autoRecycle tf) (lambdas faults) (.recording configServer) doneStages.At
      (fun x _ => x.1.settings.chainingAllowed = true)
      fun x => x.1.settings.chainingAllowed = true := by
  have hordered : doneStages.Ordered :=
    { before_loop := id, loop_after := False.elim, decided_done := fun h => h.2,
      decided_loop := fun hd h => absurd h.1 hd }
  apply Stages.invariant hordered
  · intro x y hr
    rw [recording_rely_eq hr]
    exact ⟨id, id, fun _ => id, id⟩
  · intro x y function input r ha
    have hsame : y.1 = x.1 := ha.1
    refine ⟨id, fun hx => ?_⟩
    show y.1.settings.chainingAllowed = true
    rw [hsame]
    exact hx
  · exact id
  · exact fun h => h.elim
  · exact fun _ hx => ⟨hx, fun _ h => h.elim id id⟩
  · exact id
  · exact id

/-- Where no recycle was decided chaining has not been switched off. -/
theorem Chained.on_of_done {x : ReplSetConfig × Trace Calls} (h : Chained x)
    (hdone : ∀ d ∈ outcomes x.2, d = .done) : x.1.settings.chainingAllowed = true := by
  rw [h.last]
  cases hlast : Trace.last? written? x.2 with
  | none => rfl
  | some b =>
      obtain ⟨pre, ev, post, heq, hb⟩ := Trace.exists_of_last? hlast
      obtain ⟨d, hd, rfl⟩ := h.decided pre ev post b heq hb
      have hmem : d ∈ outcomes x.2 := by
        rw [heq, outcomes_append]
        exact List.mem_append_left _ (mem_outcomes_of_last? hd)
      rw [Option.getD_some, hdone d hmem]
      rfl

/-- Where a member was taken down, and `DONE` was not decided since, it is off. -/
theorem Chained.off_of_down {x : ReplSetConfig × Trace Calls} (h : Chained x)
    {pre post : Trace Calls} {ev : Event Calls} (heq : x.2 = pre ++ ev :: post)
    (htakes : takesDown ev.1 = true) (hdone : ∀ d ∈ outcomes post, d ≠ .done) :
    x.1.settings.chainingAllowed = false := by
  obtain ⟨d₀, hd₀, hne, hoff⟩ := h.down pre ev post heq htakes
  have hquiet : outcome? ev = none ∧ written? ev = none := by
    obtain ⟨op, r⟩ := ev
    cases op with
    | terminate id => exact ⟨rfl, rfl⟩
    | replSetStepDown ip secs => exact ⟨rfl, rfl⟩
    | _ => cases htakes
  have heq' : x.2 = pre ++ [ev] ++ post := by rw [heq, List.append_cons]
  rw [h.last, heq', Trace.last?_append, Trace.last?_snoc, hquiet.2, Option.none_or]
  cases hlast : Trace.last? written? post with
  | none => exact hoff
  | some b =>
      obtain ⟨post₁, ev', post₂, rfl, hb⟩ := Trace.exists_of_last? hlast
      obtain ⟨d, hd, rfl⟩ := h.decided (pre ++ [ev] ++ post₁) ev' post₂ b (by rw [heq']; simp) hb
      rw [Option.some_or, Option.getD_some, decide_eq_false]
      -- the decision in force came after the member was taken down, or led to it
      rw [Trace.last?_append, Trace.last?_snoc, hquiet.1, Option.none_or, hd₀] at hd
      cases hlast' : Trace.last? outcome? post₁ with
      | none =>
          rw [hlast'] at hd
          cases hd
          exact hne
      | some d' =>
          rw [hlast'] at hd
          cases hd
          refine hdone d ?_
          rw [outcomes_append]
          exact List.mem_append_left _ (mem_outcomes_of_last? hlast')

/-- Chaining at any time of an execution that started with chaining allowed.  It is
    as it was last written: off by a decision to recycle, before any member is taken
    down, and on by `DONE`.  So it is on if there was no decision to recycle, or if
    an invocation has returned `DONE`; and off once a member was taken down, until
    `DONE` is decided. -/
theorem chaining_of_run {data : Json} {l : Live Calls State Resource} {config' : ReplSetConfig}
    {calls : Trace Calls} (hstrategy : data.get? ["strategy"] = some (.str "mongo"))
    (hon : config.settings.chainingAllowed = true)
    (hrun : Live.Reaches (autoRecycle tf) (lambdas faults) (.recording configServer)
      (.idle (.at startAt data 0), (config, [])) (l, (config', calls))) :
    Chained (config', calls) ∧
    ((∀ d ∈ outcomes calls, d = .done) → config'.settings.chainingAllowed = true) ∧
    (∀ out n x, out.get? ["decision", "action"] = some (.str Action.done.text) →
      Live.Reaches (autoRecycle tf) (lambdas faults) (.recording configServer)
        (.idle (.at startAt data 0), (config, [])) (.idle (.at .mongoAutorecycleDecision out n), x) →
      Live.Reaches (autoRecycle tf) (lambdas faults) (.recording configServer)
        (.idle (.at .mongoAutorecycleDecision out n), x) (l, (config', calls)) →
      config'.settings.chainingAllowed = true) ∧
    (∀ pre ev post, calls = pre ++ ev :: post → takesDown ev.1 = true →
      (∀ d ∈ outcomes post, d ≠ .done) → config'.settings.chainingAllowed = false) := by
  have hinv := @chainingStages_invariant tf faults
  have hnil : Chained (config, []) :=
    ⟨hon, fun _ _ _ _ heq => absurd heq (by simp), fun _ _ _ heq => absurd heq (by simp)⟩
  have hstart : Invariant.Holds (autoRecycle tf) (lambdas faults) (.recording configServer)
      chainingStages.At (.idle (.at startAt data 0), (config, [])) := ⟨hstrategy, hnil⟩
  have hchained : Chained (config', calls) := hinv.any_of_holds (hinv.holds_reaches hstart hrun)
  refine ⟨hchained, hchained.on_of_done, ?_, fun pre ev post => hchained.off_of_down⟩
  intro out n x hdone hbefore hafter
  obtain ⟨d, haction, hd⟩ := hinv.holds_reaches hstart hbefore
  have htext : d.action.text = (Decision.done).action.text := by
    simpa [Decision.action] using haction.symm.trans hdone
  have hd' : d = .done := (done_iff_of_text htext).mpr rfl
  have hset : x.1.settings.chainingAllowed = true := by rw [hd.2.2, decide_eq_true hd']
  have hinv' := @doneStages_invariant tf faults
  have hmid : Invariant.Holds (autoRecycle tf) (lambdas faults) (.recording configServer)
      doneStages.At (.idle (.at .mongoAutorecycleDecision out n), x) := ⟨d, haction, hd', hset⟩
  exact hinv'.any_of_holds (hinv'.holds_reaches hmid hafter)

end

/-- The script of the renewed set, except that instances cannot be terminated. -/
def protectedAnswer (config : ReplSetConfig) : (op : Op) → Option (op.Reply × ReplSetConfig)
  | .terminate _ => some (.error { cls := .clientError }, config)
  | op => renewedAnswer config op

/-- `terminate` fails after chaining was switched off: the execution ends in the
    Fail state. -/
theorem protectedSet_reaches :
    ∃ config' calls, Live.Reaches (autoRecycle noVars) (lambdas fun _ => False) (.recording configServer)
        (.idle (.at startAt mongoPayload 0), (firstConfig, []))
        (.idle (.failed "Fail" "Execution failed"), (config', calls)) ∧
      (∃ ev ∈ calls, takesDown ev.1 = true) ∧ (∀ d ∈ outcomes calls, d ≠ .done) ∧
      config'.settings.chainingAllowed = false := by
  obtain ⟨e, he⟩ := Option.isSome_iff_exists.mp
    (by decide +kernel : ((lambdaHandler firstEvent).walk protectedAnswer firstConfig).2.1.thrown?.isSome
      = true)
  have hexec := Prog.walk_exec configServer protectedAnswer (fun config op r config' hr => by
    cases op <;> cases hr <;> first | exact ⟨rfl, rfl⟩ | rfl) (lambdaHandler firstEvent) firstConfig
  rw [Prog.thrown?_eq_some.mp he] at hexec
  have hoff : ((lambdaHandler firstEvent).walk protectedAnswer firstConfig).2.2.settings.chainingAllowed
      = false := by decide +kernel
  have hdown : (((lambdaHandler firstEvent).walk protectedAnswer firstConfig).1.any
      fun ev => takesDown ev.1) = true := by decide +kernel
  have hrecycle : (outcomes ((lambdaHandler firstEvent).walk protectedAnswer firstConfig).1).map
      Decision.action = [.recycleSecondary] := by decide +kernel
  have hslack := invoke_exec "slack_notifications" firstEvent firstConfig []
  have hlambda : Exec (Setting.recording configServer) (lambdaHandler firstEvent)
      (firstConfig, [] ++ [⟨.invoke "slack_notifications" firstEvent, .ok firstEvent⟩])
      ((lambdaHandler firstEvent).walk protectedAnswer firstConfig).1 (.throw e)
      (((lambdaHandler firstEvent).walk protectedAnswer firstConfig).2.2, _) :=
    Exec.recording_iff.mpr ⟨hexec, rfl⟩
  have hstart := @reaches_recycler noVars mongoPayload (.str "web_mongo") (fun _ => False) _ _ _ _ _
    _ (by simp [mongoPayload, Data.Dict.get?]) (by simp [mongoPayload, Data.Dict.get?]) hslack
  have hfails : Reaches (autoRecycle noVars) ((lambdas fun _ => False).tasks _)
      (.at .recycleMongoCluster firstEvent 0, _) (.failed "Fail" "Execution failed", _) :=
    reaches_failed_of_throw rfl hlambda (invoke_exec "slack_notifications" _ _ _)
  have hrun := hstart.trans hfails
  refine ⟨_, _, Reaches.reaches_live hrun, ?_, ?_, hoff⟩
  · obtain ⟨ev, hmem, htakes⟩ := List.any_eq_true.mp hdown
    exact ⟨ev, by simp [hmem], htakes⟩
  · have hslack : ∀ input, outcomes [⟨.invoke "slack_notifications" input, .ok input⟩] = [] :=
      fun _ => rfl
    simp only [outcomes_append, hslack, List.nil_append, List.append_nil]
    rintro d hmem rfl
    have haction := List.mem_map_of_mem (f := Decision.action) hmem
    rw [hrecycle] at haction
    simp [Decision.action] at haction

/-- Chaining is on again at the `DONE` of the renewed set, and off at the end of
    the execution that cannot terminate. -/
theorem chaining_of_run_renewedSet :
    (∃ out config' calls, Live.Reaches (autoRecycle noVars) (lambdas fun _ => False)
        (.recording configServer) (.idle (.at startAt mongoPayload 0), (firstConfig, []))
        (.idle (.at .mongoAutorecycleDecision out 0), (config', calls)) ∧
      Chained (config', calls) ∧ (outcomes calls).length = 2 ∧
      config'.settings.chainingAllowed = true) ∧
    ∃ config' calls, Live.Reaches (autoRecycle noVars) (lambdas fun _ => False)
        (.recording configServer) (.idle (.at startAt mongoPayload 0), (firstConfig, []))
        (.idle (.failed "Fail" "Execution failed"), (config', calls)) ∧
      Chained (config', calls) ∧ config'.settings.chainingAllowed = false := by
  have hstrategy : mongoPayload.get? ["strategy"] = some (.str "mongo") := by
    simp [mongoPayload, Data.Dict.get?]
  constructor
  · obtain ⟨out, config', calls, hrun, hdone, hlength, -⟩ := renewedSet_reaches
    obtain ⟨hchained, -, hon, -⟩ := chaining_of_run hstrategy rfl hrun.reaches_live
    exact ⟨out, config', calls, hrun.reaches_live, hchained, hlength,
      hon out 0 _ hdone hrun.reaches_live .refl⟩
  · obtain ⟨config', calls, hrun, ⟨ev, hmem, htakes⟩, hrecycle, -⟩ := protectedSet_reaches
    obtain ⟨hchained, -, -, hoff⟩ := chaining_of_run hstrategy rfl hrun
    obtain ⟨pre, post, rfl⟩ := List.append_of_mem hmem
    refine ⟨config', _, hrun, hchained, hoff pre ev post rfl htakes fun d hd => hrecycle d ?_⟩
    rw [List.append_cons, outcomes_append]
    exact List.mem_append_right _ hd

/-- Chaining was allowed at first, and is not when the execution has failed. -/
theorem ends_without_chaining :
    ∃ config' calls, firstConfig.settings.chainingAllowed = true ∧
      Live.Reaches (autoRecycle noVars) (lambdas fun _ => False) (.recording configServer)
        (.idle (.at startAt mongoPayload 0), (firstConfig, []))
        (.idle (.failed "Fail" "Execution failed"), (config', calls)) ∧
      config'.settings.chainingAllowed = false := by
  obtain ⟨config', calls, hrun, -, -, hoff⟩ := protectedSet_reaches
  exact ⟨config', calls, rfl, hrun, hoff⟩

end AutoRecycle.Mongo
