/-
  AutoRecycle.ScaleAsg.Branch

  The in-out branch at the grain of calls.

  The loop hands the component of its payload from one invocation to the next,
  and only the scale-ASG lambda executes policies.  What AWS by itself keeps, and
  each policy of an invocation on that component keeps, holds all along the branch
  (`Branch.keeps`).
-/
import AutoRecycle.ScaleAsg.Carried
import AutoRecycle.ScaleAsg.Reads

namespace AutoRecycle.ScaleAsg

open AutoRecycle.Asl AutoRecycle.Data AutoRecycle.Effect AutoRecycle.Py AutoRecycle.StateMachine

-- ============================================================================
-- The component
-- ============================================================================

/-- An event that can be read from `data` is about `component`. -/
def Names (component : String) (data : Json) : Prop :=
  ∀ event, Event.modelValidate data = .ok event → event.component = component

section
variable {component : String} {data input out v : Json} {event : Event} {next : State}

theorem names_of_valid (h : Event.modelValidate data = .ok event) : Names event.component data := by
  intro event' h'
  cases h.symm.trans h'
  rfl

/-- The catcher of a Slack message writes a field that is not read. -/
theorem Names.catch (h : Names component data) :
    (∃ data', putAndGo ["error-info"] v data next = .at next data' 0 ∧ Names component data') ∨
      ∃ error cause, putAndGo ["error-info"] v data next = .failed error cause := by
  cases data with
  | obj fields =>
      obtain ⟨data', heq, hshows⟩ := (Shows.refl fields).catch v next
      refine .inl ⟨data', heq, fun event hevent => h event ?_⟩
      rw [← hshows.modelValidate]
      exact hevent
  | _ => exact .inr ⟨_, _, rfl⟩

/-- The output of an invocation is about the component of its event. -/
theorem names_of_lambdaHandler (h : Names component data) :
    (lambdaHandler data).Returns (Names component) := by
  have hsame : ∀ {output : Event}, output.component = component → Names component output.modelDump := by
    intro output hcomponent event hevent
    cases (Event.modelValidate_modelDump output).symm.trans hevent
    exact hcomponent
  have hscale : ∀ {event : Event}, event.component = component →
      (scaleAsg event).Returns fun output => output.component = component := by
    intro event hcomponent environment
    refine Prog.Returns.tryCatch ?_ fun _ => hcomponent
    refine Prog.returns_bind _ fun asgs => Prog.returns_bind _ fun details => ?_
    split
    · exact hcomponent
    split
    · exact hcomponent
    refine Prog.returns_bind _ fun nextStep => ?_
    cases nextStep with
    | none => exact hcomponent
    | some nextStep => exact Prog.returns_bind _ fun _ => hcomponent
  have hevent : (handleEvent data).Returns fun output => output.component = component := by
    refine (Prog.returns_ofExcept_bind _ _).mpr fun event hvalid => ?_
    split
    · exact hscale (h event hvalid)
    split
    · exact hscale (h event hvalid)
    split
    · exact h event hvalid
    · trivial
  exact hevent.bind fun output => hsame

end

-- ============================================================================
-- The states
-- ============================================================================

/-- Where the branch can be.  Up to its end the data are about the component. -/
def InBranch (component : String) : Cfg State → Prop
  | .at .chooseRecycleStrategy data _ =>
      data.get? ["strategy"] = some (.str "in-out") ∧ Names component data
  | .at .recycleSingleInstanceAsg data _ => Names component data
  | .at .isFirstRun data _ => Names component data
  | .at .slackMessageSingleInstanceAsg data _ => Names component data
  | .at .waitForSingleInstanceAsgAutorecycle data _ => Names component data
  | .at .isAutorecyclingSingleInstanceAsgDone data _ => Names component data
  | .at .slackMessageEnd _ _ => True
  | .at .lambdaError _ _ => True
  | .at .status _ _ => True
  | .at .fail _ _ => True
  | .at .success _ _ => True
  | .at _ _ _ => False
  | .succeeded _ => True
  | .failed _ _ => True

section
variable {tf : TfVars} {component : String} {data input out v : Json} {s next : State} {n : Nat}
  {c : Cfg State} {t : Task State Resource} {path : Path} {e : TaskError}

theorem inBranch_putAndGo (hnext : ∀ data', InBranch component (.at next data' 0)) :
    InBranch component (putAndGo path v data next) := by
  rcases putAndGo_cases path v data next with ⟨data', heq⟩ | ⟨error, cause, heq⟩
  · rw [heq]
    exact hnext data'
  · rw [heq]
    trivial

theorem inBranch_choose {default : Option State} {rules : List (Cond × State)}
    (h : ∀ target, default = some target ∨ target ∈ rules.map Prod.snd →
      InBranch component (.at target data 0)) : InBranch component (choose default data rules) := by
  rcases choose_cases default data rules with ⟨target, htarget, heq⟩ | ⟨error, cause, heq⟩
  · rw [heq]
    exact h target htarget
  · rw [heq]
    trivial

/-- A state that goes on by itself. -/
theorem InBranch.goto (h : InBranch component (.at s data n))
    (hs : (autoRecycle tf s).start data = .goto c) : InBranch component c := by
  cases s with
  | chooseRecycleStrategy =>
      have hstart := @start_chooseRecycleStrategy tf data h.1
      rw [startAt] at hstart
      cases hstart.symm.trans hs
      exact h.2
  | isFirstRun =>
      cases hs
      refine inBranch_choose fun target htarget => ?_
      simp at htarget
      rcases htarget with rfl | rfl <;> exact h
  | waitForSingleInstanceAsgAutorecycle =>
      cases hs
      exact h
  | isAutorecyclingSingleInstanceAsgDone =>
      cases hs
      refine inBranch_choose fun target htarget => ?_
      simp at htarget
      rcases htarget with rfl | rfl
      · exact h
      · trivial
  | lambdaError =>
      simp only [autoRecycle, StateDef.start] at hs
      split at hs
      · cases hs
        exact inBranch_putAndGo fun _ => trivial
      · cases hs
        trivial
  | status =>
      cases hs
      refine inBranch_choose fun target htarget => ?_
      simp at htarget
      rcases htarget with rfl | rfl <;> trivial
  | fail =>
      cases hs
      trivial
  | success =>
      cases hs
      trivial
  | recycleSingleInstanceAsg => cases hs
  | slackMessageSingleInstanceAsg => cases hs
  | slackMessageEnd => cases hs
  | _ => exact h.elim

/-- The tasks of the branch: the scale-ASG lambda, and the two Slack messages. -/
theorem InBranch.invoke (h : InBranch component (.at s data n))
    (hs : (autoRecycle tf s).start data = .invoke t input) :
    (s = .recycleSingleInstanceAsg ∧ t = lambdaTask .autorecycleScaleAsg [] [] .isFirstRun ∧
        input = data ∧ Names component data) ∨
      ∃ next, t = slackMessage next ∧ input = data ∧ InBranch component (.at next data 0) ∧
        ∀ v, InBranch component (putAndGo ["error-info"] v data next) := by
  cases s with
  | recycleSingleInstanceAsg =>
      cases hs
      exact .inl ⟨rfl, rfl, rfl, h⟩
  | slackMessageSingleInstanceAsg =>
      cases hs
      refine .inr ⟨_, rfl, rfl, h, fun v => ?_⟩
      rcases Names.catch h with ⟨data', heq, hnames⟩ | ⟨error, cause, heq⟩
      · rw [heq]
        exact hnames
      · rw [heq]
        trivial
  | slackMessageEnd =>
      cases hs
      exact .inr ⟨_, rfl, rfl, trivial, fun v => inBranch_putAndGo fun _ => trivial⟩
  | lambdaError =>
      simp only [autoRecycle, StateDef.start] at hs
      split at hs <;> cases hs
  | chooseRecycleStrategy => cases hs
  | isFirstRun => cases hs
  | waitForSingleInstanceAsgAutorecycle => cases hs
  | isAutorecyclingSingleInstanceAsgDone => cases hs
  | status => cases hs
  | fail => cases hs
  | success => cases hs
  | _ => exact h.elim

end

-- ============================================================================
-- The executions
-- ============================================================================

theorem no_policy_invoke (function : String) (input : Json) :
    (invoke function input).Issues fun op => isPolicy op = false :=
  ⟨rfl, fun r => issues_raise r⟩

/-- `World` is kept by AWS, by each call that executes no policy, and by each
    policy of an invocation on the component. -/
structure Branch (K : Setting Calls Watched) (component : String) (World : Watched → Prop) : Prop where
  rely : ∀ {x y}, World x → K.rely x y → World y
  call : ∀ {x op r y}, isPolicy op = false → World x → K.answers x op r y → World y
  policy : ∀ {data x₀ calls op next x r y}, isPolicy op = true → Names component data → World x₀ →
    Exec K (lambdaHandler data) x₀ calls (.call op next) x → World x → K.answers x op r y → World y

namespace Branch

variable {tf : TfVars} {faults : TaskError → Prop} {edits : Prop}
  {P : Watched → (op : Op) → op.Reply → Prop} {K : Setting Calls Watched} {component : String}
  {World : Watched → Prop} {data input out : Json} {x y : Watched} {calls : Trace Calls} {q : Py Json}

/-- Along an invocation. -/
theorem keeps_lambdaHandler (h : Branch K component World) (hdata : Names component data)
    (hx : Exec K (lambdaHandler data) x calls q y) (hworld : World x) : World y := by
  refine hx.keeps (fun hI hr => h.rely hI hr) ?_ hworld
  intro t op next x₁ r x₂ hat hI ha
  cases hop : isPolicy op with
  | false => exact h.call hop hI ha
  | true => exact h.policy hop hdata hworld hat hI ha

/-- Along a task that executes no policy. -/
theorem keeps_invoke (h : Branch K component World) {function : String}
    (hx : Exec K (invoke function input) x calls q y) (hworld : World x) : World y := by
  refine hx.keeps (fun hI hr => h.rely hI hr) ?_ hworld
  intro t op next x₁ r x₂ hat hI ha
  exact h.call (hat.issues (no_policy_invoke function input)).2.1 hI ha

/-- Along the branch.  In the middle of a task the world is as good as at its
    start. -/
theorem keeps (h : Branch K component World) (hK : K.Narrows (.recording (aws edits)) P)
    {c : Cfg State} {l : Live Calls State Resource} (hc : InBranch component c) (hworld : World x)
    (hr : Live.Reaches (autoRecycle tf) (lambdas faults) K (.idle c, x) (l, y)) :
    Invariant.Holds (autoRecycle tf) (lambdas faults) K (fun c x => InBranch component c ∧ World x)
      (l, y) := by
  have hstart : Invariant.Holds (autoRecycle tf) (lambdas faults) K
      (fun c x => InBranch component c ∧ World x) (.idle c, x) := ⟨hc, hworld⟩
  refine Invariant.holds_of_runs ?_ ?_ ?_ ?_ ?_ hstart hr
  · exact fun hI hr => ⟨hI.1, h.rely hI.2 hr⟩
  · exact fun hI hs => ⟨hI.1.goto hs, hI.2⟩
  · rintro s data n t input calls out x y ⟨hin, hworld⟩ hs hx
    rcases hin.invoke hs with ⟨rfl, rfl, rfl, hnames⟩ | ⟨next, rfl, rfl, hnext, -⟩
    · exact ⟨hx.returns (names_of_lambdaHandler hnames), h.keeps_lambdaHandler hnames hx hworld⟩
    · obtain ⟨r, calls', x₁, x₂, rfl, -, ha, hx'⟩ := Exec.call_ret_inv hx
      obtain ⟨-, rfl⟩ := raise_ret_inv hx'
      obtain rfl := (hK.answers ha).1.1.2 out rfl
      exact ⟨hnext, h.keeps_invoke hx hworld⟩
  · rintro s data n t input calls e x y ⟨hin, hworld⟩ hs hx
    rcases hin.invoke hs with ⟨rfl, rfl, rfl, hnames⟩ | ⟨next, rfl, rfl, -, hcatch⟩
    · refine ⟨?_, h.keeps_lambdaHandler hnames hx hworld⟩
      show InBranch component ((lambdaTask _ _ _ _).finish _ _ _ (.error (reportError e)))
      rw [finish_lambdaTask_error]
      exact inBranch_putAndGo fun _ => trivial
    · refine ⟨?_, h.keeps_invoke hx hworld⟩
      rw [finish_slackMessage_error]
      exact hcatch _
  · rintro s data n t input calls p e x y ⟨hin, hworld⟩ hs hx -
    rcases hin.invoke hs with ⟨rfl, rfl, rfl, hnames⟩ | ⟨next, rfl, rfl, -, hcatch⟩
    · refine ⟨?_, h.keeps_lambdaHandler hnames hx hworld⟩
      rcases @finish_lambdaTask_fault .autorecycleScaleAsg [] [] .isFirstRun
        .recycleSingleInstanceAsg input n e with heq | heq
      · rw [heq]
        exact hnames
      · rw [heq]
        exact inBranch_putAndGo fun _ => trivial
    · refine ⟨?_, h.keeps_invoke hx hworld⟩
      rw [finish_slackMessage_error]
      exact hcatch _

/-- `World` holds at any time. -/
theorem always (h : Branch K component World) (hK : K.Narrows (.recording (aws edits)) P)
    {c : Cfg State} {l : Live Calls State Resource} (hc : InBranch component c) (hworld : World x)
    (hr : Live.Reaches (autoRecycle tf) (lambdas faults) K (.idle c, x) (l, y)) : World y := by
  have hholds := h.keeps hK hc hworld hr
  cases l with
  | idle c => exact hholds.2
  | busy s data n t calls p =>
      obtain ⟨input, w₀, hs, ⟨hin, hw₀⟩, hx⟩ := hholds
      rcases hin.invoke hs with ⟨rfl, rfl, rfl, hnames⟩ | ⟨next, rfl, rfl, -, -⟩
      · exact h.keeps_lambdaHandler hnames hx hw₀
      · exact h.keeps_invoke hx hw₀

end Branch

end AutoRecycle.ScaleAsg
