/-
  AutoRecycle.InvokeStepfunctions.Accepted

  What the start lambda sends, and what the state machine makes of it.

  Two programs meet in the payload: the start lambda fills it from the tags of
  the ASG, and the branch that the tag "autorecycle_strategy" chooses reads it.
  `Accepted` is what the branches rely on.  It is proved of every payload that
  the lambda sends, whatever the event and the replies were (`accepted_of_start`):
  the tags are strings, so the values have the types that the branches expect,
  and none of the keys that the machine keeps its own state under can be set.
-/
import AutoRecycle.Effect.Runs
import AutoRecycle.InvokeStepfunctions.Starts
import AutoRecycle.Mongo.Branch
import AutoRecycle.ScaleAsg.InOutRun
import AutoRecycle.Standard.Run

namespace AutoRecycle.InvokeStepfunctions

open AutoRecycle.Asl AutoRecycle.Data AutoRecycle.Effect AutoRecycle.StateMachine

-- ============================================================================
-- The payload
-- ============================================================================

section
variable (accountId channel name asgName : String) (tags : List Tag)

/-- A key that is neither written first nor stands for a tag. -/
theorem get?_payloadOf_none {key : String} (hmap : key ∉ payloadToAsgTagMap.map Prod.fst)
    (hkey : key ∉ ["account_id", "success_channel", "component", "auto_scaling_group_name", "emoji"]) :
    Dict.get? key (payloadOf accountId channel name asgName tags) = none := by
  have hfind : payloadToAsgTagMap.find? (fun x => x.1 = key) = none := by
    rw [List.find?_eq_none]
    intro x hx hsame
    exact hmap (List.mem_map.mpr ⟨x, hx, by simpa using hsame⟩)
  rw [get?_payloadOf, hfind, Option.bind_none, Option.none_or]
  exact Dict.get?_eq_none hkey

theorem get?_payloadOf_emoji :
    Dict.get? "emoji" (payloadOf accountId channel name asgName tags) = some (.str ":robot_face:") :=
  get?_payloadOf accountId channel name asgName tags "emoji"

/-- The component that the payload names. -/
def componentOf : String := (firstValue tags "autorecycle_override_component_name").getD name

/-- A field that is set when its tag is there. -/
def tagField {α : Type} : Option α → ScaleAsg.Field α
  | none => .unset
  | some v => .set (some v)

/-- The payload as the scale-ASG lambda reads it. -/
def eventOf : ScaleAsg.Event where
  component := componentOf name tags
  emoji := .set (some ":robot_face:")
  monitoringSlackChannel? := firstValue tags "autorecycle_slack_monitoring_channel"
  notifyPagerDuty := tagField ((firstValue tags "autorecycle_notify_pager_duty").map isTrue)
  successChannel := channel
  team := tagField (firstValue tags "autorecycle_team")

theorem optional_tagField {α : Type} {valid : Json → Except PyExc α} {write : String → Json}
    {read : String → α} (h : ∀ s, valid (write s) = .ok (read s)) (hnull : ∀ s, write s ≠ .null)
    (value : Option String) :
    ScaleAsg.optional valid (value.map write) = .ok (tagField (value.map read)) := by
  cases value with
  | none => rfl
  | some s =>
      rw [Option.map_some, Option.map_some, ScaleAsg.optional]
      · rw [h]
        rfl
      · exact hnull s

/-- The payload is a valid event, of a first invocation. -/
theorem modelValidate_payloadOf :
    ScaleAsg.Event.modelValidate (.obj (payloadOf accountId channel name asgName tags)) =
      .ok (eventOf channel name tags) := by
  have hdescribes := payloadOf_describes accountId channel name asgName tags
  have hstrings := hdescribes.strings
  have hbooleans := hdescribes.booleans
  simp only [List.forall_mem_cons] at hstrings hbooleans
  obtain ⟨-, hmonitoring, hteam, -⟩ := hstrings
  obtain ⟨hpager, -⟩ := hbooleans
  have hnone : ∀ key ∈ ["channels", "counter", "exception", "message_content", "pager_duty_description",
      "pager_duty_event_type", "recycle_success", "status", "text", "username"],
      Dict.get? key (payloadOf accountId channel name asgName tags) = none := by
    intro key hkey
    refine get?_payloadOf_none _ _ _ _ _ ?_ ?_
    · revert key
      decide
    · revert key
      decide
  simp only [List.forall_mem_cons] at hnone
  obtain ⟨hchannels, hcounter, hexception, hcontent, hdescription, htype, hsuccess, hstatus, htext,
    husername, -⟩ := hnone
  have hreadTeam := @optional_tagField _ ScaleAsg.validStr .str id (fun _ => rfl) (fun _ => nofun)
    (firstValue tags "autorecycle_team")
  have hreadPager := @optional_tagField _ ScaleAsg.validBool (fun value => .bool (SaysTrue value)) isTrue
    (fun _ => rfl) (fun _ => nofun) (firstValue tags "autorecycle_notify_pager_duty")
  have hreadMonitoring := ScaleAsg.defaulted_str (firstValue tags "autorecycle_slack_monitoring_channel")
  rw [Option.map_id, id] at hreadTeam
  simp only [ScaleAsg.Event.modelValidate, ScaleAsg.validModel, Json.field?_obj, hchannels, hcounter,
    hexception, hcontent, hdescription, htype, hsuccess, hstatus, htext, husername, hmonitoring, hteam,
    hpager, hdescribes.component, hdescribes.successChannel, get?_payloadOf_emoji, hreadTeam, hreadPager,
    hreadMonitoring]
  rfl

end

-- ============================================================================
-- The branches
-- ============================================================================

/-- The first state of the branch of a strategy. -/
def branchOf (strategy : String) : State :=
  if strategy = "in-out" then .recycleSingleInstanceAsg
  else if strategy = "mongo" then .mongoRecycle
  else if strategy = "instance-refresh" then .monitorInstanceRefreshStatus
  else .standardRecycle

/-- The machine can run on the payload: it goes to the branch of the strategy, and
    the branch finds what it reads. -/
structure Accepted (tf : TfVars) (payload : Dict Json) (component strategy : String) : Prop where
  branch : (autoRecycle tf startAt).start (.obj payload) = .goto (.at (branchOf strategy) (.obj payload) 0)
  /-- The scale-ASG lambda takes it as its first event. -/
  inOut : ∃ event : ScaleAsg.Event, event.component = component ∧
    ScaleAsg.handleEvent (.obj payload) = ScaleAsg.scaleAsg (ScaleAsg.started event)
  /-- The message of the Mongo branch is an event that the recycler can count on. -/
  mongo : ∃ event, (autoRecycle tf .mongoRecycle).start (.obj payload) =
    .goto (.at .slackMessageMongo event 0) ∧ Mongo.InLoop component 0 event
  /-- The component stands where the messages of the machine look for it. -/
  named : (Json.obj payload).get? ["component"] = some (.str component)
  standard : branchOf strategy = .standardRecycle →
    Standard.StandardPayload (.obj payload) (.str component)

section
variable {tf : TfVars} {data : Json} {strategy : String}

/-- The Choice at the start reads the strategy and nothing else. -/
theorem start_branchOf (h : data.get? ["strategy"] = some (.str strategy)) :
    (autoRecycle tf startAt).start data = .goto (.at (branchOf strategy) data 0) := by
  rw [branchOf]
  by_cases hinOut : strategy = "in-out"
  · rw [if_pos hinOut]
    rw [hinOut] at h
    exact ScaleAsg.start_chooseRecycleStrategy h
  by_cases hmongo : strategy = "mongo"
  · rw [if_neg hinOut, if_pos hmongo]
    rw [hmongo] at h
    exact Mongo.start_chooseRecycleStrategy h
  rw [if_neg hinOut, if_neg hmongo]
  by_cases hrefresh : strategy = "instance-refresh"
  · simp [startAt, autoRecycle, StateDef.start, choose, Cond.eval, h, hrefresh]
  · simp [startAt, autoRecycle, StateDef.start, choose, Cond.eval, h, hinOut, hmongo, hrefresh]

theorem not_standard_of_branchOf (h : branchOf strategy = .standardRecycle) :
    strategy ≠ "in-out" ∧ strategy ≠ "mongo" ∧ strategy ≠ "instance-refresh" := by
  refine ⟨?_, ?_, ?_⟩
  all_goals
    rintro rfl
    cases h

theorem accepted_payloadOf (tf : TfVars) (accountId channel name asgName : String) {tags : List Tag}
    (hstrategy : firstValue tags "autorecycle_strategy" = some strategy) :
    Accepted tf (payloadOf accountId channel name asgName tags) (componentOf name tags) strategy := by
  have hdescribes := payloadOf_describes accountId channel name asgName tags
  have hfield : Dict.get? "strategy" (payloadOf accountId channel name asgName tags) =
      some (.str strategy) := by
    have hread := hdescribes.strings ("strategy", "autorecycle_strategy") List.mem_cons_self
    rwa [hstrategy] at hread
  have hnamed : (Json.obj (payloadOf accountId channel name asgName tags)).get? ["component"] =
      some (.str (componentOf name tags)) := by
    rw [Json.get?_cons, Json.field?_obj, hdescribes.component]
    rfl
  have hget : (Json.obj (payloadOf accountId channel name asgName tags)).get? ["strategy"] =
      some (.str strategy) := by
    rw [Json.get?_cons, Json.field?_obj, hfield]
    rfl
  refine ⟨start_branchOf hget, ⟨eventOf channel name tags, rfl, ?_⟩, ?_, hnamed, fun hbranch => ?_⟩
  · rw [ScaleAsg.handleEvent, modelValidate_payloadOf]
    rfl
  · exact ⟨_, Mongo.start_mongoRecycle hnamed, Mongo.inLoop_mongoMessage tf _⟩
  · obtain ⟨hinOut, hmongo, hrefresh⟩ := not_standard_of_branchOf hbranch
    refine ⟨⟨.str strategy, hfield, ?_, ?_, ?_⟩, hdescribes.component, ⟨_, hdescribes.accountId⟩,
      ⟨_, hdescribes.successChannel⟩⟩
    · rwa [Ne, Json.str.injEq]
    · rwa [Ne, Json.str.injEq]
    · rwa [Ne, Json.str.injEq]

end

-- ============================================================================
-- The run of the start lambda
-- ============================================================================

/-- What the lambda has read when it starts an execution for the component `name`. -/
structure Read (name : String) (t : Trace Calls) (accountId channel asgName : String)
    (tags : List Tag) : Prop where
  accountId : ⟨.getenv "ACCOUNT_ID", some accountId⟩ ∈ t
  channel : ⟨.getenv "SLACK_CHANNEL", some channel⟩ ∈ t
  /-- The ASG is the first that the search returned. -/
  asg : ∃ others : List AutoScalingGroup,
    ⟨.searchAutoScalingGroups (asgQuery name), .ok (⟨asgName⟩ :: others)⟩ ∈ t
  tags : ⟨.describeTags asgName (autorecycleTagNames.map Prod.fst), .ok tags⟩ ∈ t

section
variable {legal : (op : Calls.Op) → Calls.Reply op → Prop} {t : Trace Calls}

theorem environ_ret_inv {key value : String} (h : Runs legal (environ key) t (.ret value)) :
    t = [⟨.getenv key, some value⟩] := by
  obtain ⟨r, t', ⟨⟩, ⟨⟩, rfl, -, -, h'⟩ := Exec.call_ret_inv h
  obtain ⟨rfl, hvalue⟩ := Exec.ofExcept_ret_inv h'
  cases r with
  | none => cases hvalue
  | some v =>
      cases hvalue
      rfl

theorem getAsg_ret_inv {component : String} {asg : AutoScalingGroup}
    (h : Runs legal (getAsg component) t (.ret asg)) : ∃ others : List AutoScalingGroup,
      t = [⟨.searchAutoScalingGroups (asgQuery component), .ok (asg :: others)⟩] := by
  obtain ⟨r, t', ⟨⟩, ⟨⟩, rfl, -, -, h₁⟩ := Exec.call_ret_inv h
  obtain ⟨groups, rfl, h₂⟩ := Exec.ofExcept_bind_ret_inv h₁
  cases groups with
  | nil => cases (Exec.throw_inv h₂).2
  | cons asg' others =>
      obtain ⟨rfl, hret⟩ := Exec.ret_inv h₂
      cases hret
      exact ⟨others, rfl⟩

theorem getAutorecyclingTags_ret_inv {asgName : String} {asgTags : Dict Json}
    (h : Runs legal (getAutorecyclingTags asgName) t (.ret asgTags)) : ∃ tags : List Tag,
      t = [⟨.describeTags asgName (autorecycleTagNames.map Prod.fst), .ok tags⟩] ∧
      asgTags = autorecyclingTags tags := by
  obtain ⟨r, t', ⟨⟩, ⟨⟩, rfl, -, -, h₁⟩ := Exec.call_ret_inv h
  obtain ⟨tags, rfl, h₂⟩ := Exec.ofExcept_bind_ret_inv h₁
  obtain ⟨rfl, hret⟩ := Exec.ret_inv h₂
  cases hret
  exact ⟨tags, rfl, rfl⟩

variable {arn name : String} {input : Dict Json}
  {next : Op.Reply (.startExecution arn name input) → Py Unit}

theorem issues_getAsg {op : Op} (component : String)
    (hop : ∀ expression, .searchAutoScalingGroups expression ≠ op) :
    (getAsg component).Issues (· ≠ op) := by
  refine ⟨hop _, fun r => (Prog.issues_ofExcept_bind _ _).mpr fun groups _ => ?_⟩
  cases groups with
  | nil => trivial
  | cons asg others => trivial

/-- What is sent is the payload. -/
theorem input_of_sfStartExecution {payload : Dict Json}
    (h : Runs legal (sfStartExecution payload) t (.call (.startExecution arn name input) next)) :
    input = payload := by
  have hissues : (sfStartExecution payload).Issues
      fun op => ∀ arn name input, op = Op.startExecution arn name input → input = payload := by
    refine (Prog.issues_ofExcept_bind _ _).mpr fun arn _ => ?_
    refine (Prog.issues_ofExcept_bind _ _).mpr fun component _ => ⟨?_, fun time => ⟨?_, ?_⟩⟩
    · rintro _ _ _ ⟨⟩
    · rintro _ _ _ ⟨⟩
      rfl
    · exact fun response => Prog.issues_ofExcept _
  exact (h.issues hissues).2.1 arn name input rfl

/-- The payload that is sent is made of what was read. -/
theorem payloadOf_of_start {event : Dict Json}
    (h : Runs legal (lambdaHandler event) t (.call (.startExecution arn name input) next)) :
    ∃ component accountId channel asgName tags, getComponentName event = .ok (some component) ∧
      Read component t accountId channel asgName tags ∧ Startable tags ∧
      input = payloadOf accountId channel component asgName tags := by
  obtain ⟨name?, hname, h₁⟩ := Exec.ofExcept_bind_call_inv h
  cases name? with
  | none => cases (Exec.ret_inv h₁).2
  | some component =>
      dsimp only at h₁
      rw [ask_bind] at h₁
      obtain ⟨r, t', ⟨⟩, ⟨⟩, rfl, -, -, h₂⟩ := Exec.call_call_inv h₁ Op.noConfusion
      obtain ⟨accountId, t₁, t₂, ⟨⟩, rfl, haccount, h₃⟩ := Exec.bind_call_inv h₂
        ⟨Op.noConfusion, fun _ => Prog.issues_ofExcept _⟩
      obtain ⟨channel, t₃, t₄, ⟨⟩, rfl, hchannel, h₄⟩ := Exec.bind_call_inv h₃
        ⟨Op.noConfusion, fun _ => Prog.issues_ofExcept _⟩
      obtain ⟨⟨asgName⟩, t₅, t₆, ⟨⟩, rfl, hasg, h₅⟩ := Exec.bind_call_inv h₄
        (issues_getAsg _ fun _ => Op.noConfusion)
      obtain ⟨asgTags, t₇, t₈, ⟨⟩, rfl, htags, h₆⟩ := Exec.bind_call_inv h₅
        ⟨Op.noConfusion, fun _ => (Prog.issues_ofExcept_bind _ _).mpr fun _ _ => trivial⟩
      obtain rfl := environ_ret_inv haccount
      obtain rfl := environ_ret_inv hchannel
      obtain ⟨others, rfl⟩ := getAsg_ret_inv hasg
      obtain ⟨tags, rfl, rfl⟩ := getAutorecyclingTags_ret_inv htags
      have hread : Read component (⟨.getenv "ENVIRONMENT", r⟩ :: ([⟨.getenv "ACCOUNT_ID", some accountId⟩] ++
          ([⟨.getenv "SLACK_CHANNEL", some channel⟩] ++
            ([⟨.searchAutoScalingGroups (asgQuery component), .ok (⟨asgName⟩ :: others)⟩] ++
              ([⟨.describeTags asgName (autorecycleTagNames.map Prod.fst), .ok tags⟩] ++ t₈)))))
          accountId channel asgName tags := by
        constructor
        · simp
        · simp
        · exact ⟨others, by simp⟩
        · simp
      refine ⟨component, accountId, channel, asgName, tags, hname, hread, ?_⟩
      split at h₆
      · rename_i hstart
        exact ⟨(assertRecyclable_iff tags).mp hstart, input_of_sfStartExecution h₆⟩
      · cases (Exec.ret_inv h₆).2

/-- Whatever the event and the replies are, what the lambda sends is made of what it
    has read, and the machine can run on it: it goes to the branch of the strategy in
    the tags, and the branch finds what it reads. -/
theorem accepted_of_start (tf : TfVars) {event : Dict Json}
    (h : Runs legal (lambdaHandler event) t (.call (.startExecution arn name input) next)) :
    ∃ component accountId channel asgName tags strategy,
      getComponentName event = .ok (some component) ∧
      Read component t accountId channel asgName tags ∧
      input = payloadOf accountId channel component asgName tags ∧
      firstValue tags "autorecycle_strategy" = some strategy ∧
      Accepted tf input (componentOf component tags) strategy := by
  obtain ⟨component, accountId, channel, asgName, tags, hname, hread, ⟨-, strategy, hstrategy⟩, rfl⟩ :=
    payloadOf_of_start h
  exact ⟨component, accountId, channel, asgName, tags, strategy, hname, hread, rfl, hstrategy,
    accepted_payloadOf tf accountId channel component asgName hstrategy⟩

end

/-- The replies of the component "web", up to the start. -/
def webAnswer (w : Unit) : (op : Op) → Option (op.Reply × Unit)
  | .startExecution .. => none
  | op => some ((webReplies.answer [] op).1, w)

/-- The lambda comes to the start of an execution for the component "web". -/
theorem runs_web : ∃ t arn name next, Runs (fun _ _ => True) (lambdaHandler webEvent) t
    (.call (.startExecution arn name (payloadOf "1" "team-web" "web" "web-asg-1" webTags)) next) := by
  have h := Prog.walk_exec (Setting.stateless (S := Calls) fun _ _ => True) webAnswer
    (fun _ _ _ _ _ => trivial) (lambdaHandler webEvent) ()
  exact ⟨_, _, _, _, h⟩

theorem accepted_of_start_web : ∃ (t : Trace Calls) (arn name : String) (input : Dict Json)
    (next : Op.Reply (.startExecution arn name input) → Py Unit) (component accountId channel
    asgName : String) (tags : List Tag) (strategy : String),
    Runs (fun _ _ => True) (lambdaHandler webEvent) t (.call (.startExecution arn name input) next) ∧
      getComponentName webEvent = .ok (some component) ∧ Read component t accountId channel asgName tags ∧
      input = payloadOf accountId channel component asgName tags ∧
      firstValue tags "autorecycle_strategy" = some strategy ∧
      Accepted ⟨"", "", "", "", "", "", ""⟩ input (componentOf component tags) strategy := by
  obtain ⟨t, arn, name, next, h⟩ := runs_web
  obtain ⟨component, accountId, channel, asgName, tags, strategy, haccepted⟩ := accepted_of_start _ h
  exact ⟨t, arn, name, _, next, component, accountId, channel, asgName, tags, strategy, h, haccepted⟩

end AutoRecycle.InvokeStepfunctions
