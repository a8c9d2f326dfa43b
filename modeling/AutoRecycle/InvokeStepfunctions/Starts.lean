/-
  AutoRecycle.InvokeStepfunctions.Starts

  Which events start what.

  The tags of the ASG are read twice: once to decide whether to start anything,
  once to fill the payload.  Both go through one dictionary, so both see the
  first value of a key that is repeated (`get?_autorecyclingTags`).
-/
import AutoRecycle.InvokeStepfunctions.Handler

namespace AutoRecycle.InvokeStepfunctions

open AutoRecycle.Asl AutoRecycle.Data AutoRecycle.Effect
open AutoRecycle.Py (str)

-- ============================================================================
-- The dictionary of the tags
-- ============================================================================

/-- The value of the first tag called `key`. -/
def firstValue (tags : List Tag) (key : String) : Option String :=
  (tags.find? fun tag => tag.key = key).map Tag.value

theorem head?_getTagValues (tags : List Tag) (key : String) :
    (getTagValues tags key).head? = firstValue tags key := by
  rw [getTagValues, List.head?_map, List.head?_filter, firstValue]

/-- One tag is added under its own name. -/
theorem get?_addFirst (decode : String → Json) (response : List Tag) (tags : Dict Json)
    (tagName key : String) :
    Dict.get? key (addFirst decode response tags tagName) =
      ((if key = tagName then (firstValue response key).map decode else none).or
        (Dict.get? key tags)) := by
  rw [addFirst]
  by_cases hkey : key = tagName
  · rw [if_pos hkey, hkey, ← head?_getTagValues]
    split
    · rename_i value rest hvalues
      rw [hvalues, Dict.get?_set_self]
      rfl
    · rename_i hvalues
      rw [hvalues]
      rfl
  · rw [if_neg hkey, Option.none_or]
    split
    · exact Dict.get?_set_ne hkey _ _
    · rfl

/-- A loop over names. -/
theorem get?_foldl_addFirst (decode : String → Json) (response : List Tag) (names : List String)
    (tags : Dict Json) (key : String) :
    Dict.get? key (names.foldl (addFirst decode response) tags) =
      ((if key ∈ names then (firstValue response key).map decode else none).or
        (Dict.get? key tags)) := by
  induction names generalizing tags with
  | nil => rfl
  | cons name names ih =>
      rw [List.foldl_cons, ih, get?_addFirst]
      by_cases hname : key = name
      · subst hname
        by_cases hrest : key ∈ names
        · simp only [List.mem_cons, hrest, true_or, if_true]
          cases (firstValue response key).map decode <;> rfl
        · simp [hrest]
      · simp [hname]

/-- How the value of a tag is read. -/
def TagKind.decode : TagKind → String → Json
  | string, value => .str value
  | boolean, value => .bool (isTrue value)

/-- The dictionary has the first value of each key that it looks for. -/
theorem get?_autorecyclingTags (response : List Tag) {key : String} {kind : TagKind}
    (h : (key, kind) ∈ autorecycleTagNames) :
    Dict.get? key (autorecyclingTags response) = (firstValue response key).map kind.decode := by
  have hmem : ∀ x ∈ autorecycleTagNames, ∀ kind', x.1 ∈ namesOf kind' ↔ x.2 = kind' := by
    intro x hx kind'
    revert x
    cases kind' <;> decide
  simp only [autorecyclingTags, addTag, addBooleanTag, get?_foldl_addFirst, hmem _ h, Dict.get?_nil]
  cases kind with
  | string =>
      simp only [reduceCtorEq, if_false, if_true, Option.none_or, Option.or_none]
      rfl
  | boolean =>
      simp only [reduceCtorEq, if_false, if_true, Option.or_none]
      rfl

-- ============================================================================
-- The decision
-- ============================================================================

/-- The text is "true", in capitals or not. -/
def SaysTrue (value : String) : Prop := value.toList.map Char.toLower = ['t', 'r', 'u', 'e']

instance (value : String) : Decidable (SaysTrue value) := inferInstanceAs (Decidable (_ = _))

/-- The tags ask for a recycle. -/
def Startable (tags : List Tag) : Prop :=
  (∃ value, firstValue tags "autorecycle_recycle_on_asg_update" = some value ∧ SaysTrue value) ∧
    ∃ strategy, firstValue tags "autorecycle_strategy" = some strategy

theorem assertRecyclable_iff (tags : List Tag) :
    assertRecyclable (autorecyclingTags tags) = true ↔ Startable tags := by
  have hrecycle := @get?_autorecyclingTags tags "autorecycle_recycle_on_asg_update" .boolean (by decide)
  have hstrategy := @get?_autorecyclingTags tags "autorecycle_strategy" .string (by decide)
  simp only [assertRecyclable, requiredTags, Startable, List.filter_cons, List.filter_nil, hrecycle,
    hstrategy]
  cases firstValue tags "autorecycle_recycle_on_asg_update" with
  | none => simp
  | some value =>
      cases firstValue tags "autorecycle_strategy" with
      | none => simp
      | some strategy => simp [TagKind.decode, truthy, isTrue, SaysTrue]

-- ============================================================================
-- The payload
-- ============================================================================

/-- The loop over the map writes a key when the tag that it stands for is there. -/
theorem get?_addTags (asgTags : Dict Json) {map : List (String × String)}
    (hnodup : (map.map Prod.fst).Nodup) (payload : Dict Json) (key : String) :
    Dict.get? key (addTags asgTags map payload) =
      ((map.find? fun x => x.1 = key).bind fun x => Dict.get? x.2 asgTags).or
        (Dict.get? key payload) := by
  induction map generalizing payload with
  | nil => rfl
  | cons x map ih =>
      obtain ⟨payloadKey, tagName⟩ := x
      rw [List.map_cons, List.nodup_cons] at hnodup
      rw [addTags, List.foldl_cons, ← addTags, ih hnodup.2, List.find?_cons]
      by_cases hkey : payloadKey = key
      · subst hkey
        have hnone : map.find? (fun x => x.1 = payloadKey) = none := by
          rw [List.find?_eq_none]
          intro y hy hsame
          exact hnodup.1 (List.mem_map.mpr ⟨y, hy, by simpa using hsame⟩)
        simp only [hnone, Option.bind_none, Option.none_or, decide_true, Option.bind_some]
        cases Dict.get? tagName asgTags with
        | none => rfl
        | some tag => simp
      · simp only [hkey, decide_false]
        congr 1
        cases Dict.get? tagName asgTags with
        | none => rfl
        | some tag => exact Dict.get?_set_ne (Ne.symm hkey) _ _

/-- What a payload has to say. -/
structure Describes (payload : Dict Json) (accountId channel name asgName : String)
    (tags : List Tag) : Prop where
  accountId : Dict.get? "account_id" payload = some (.str accountId)
  successChannel : Dict.get? "success_channel" payload = some (.str channel)
  asgName : Dict.get? "auto_scaling_group_name" payload = some (.str asgName)
  component : Dict.get? "component" payload =
    some (.str ((firstValue tags "autorecycle_override_component_name").getD name))
  strings : ∀ x ∈ [("strategy", "autorecycle_strategy"),
      ("monitoring_slack_channel", "autorecycle_slack_monitoring_channel"),
      ("team", "autorecycle_team"), ("step_function_name", "autorecycle_step_function_name")],
    Dict.get? x.1 payload = (firstValue tags x.2).map .str
  booleans : ∀ x ∈ [("notify_pager_duty", "autorecycle_notify_pager_duty"),
      ("dry_run", "autorecycle_dry_run")],
    Dict.get? x.1 payload = (firstValue tags x.2).map fun value => .bool (SaysTrue value)

section
variable (accountId channel name asgName : String) (tags : List Tag)

/-- The payload that the handler builds. -/
def payloadOf : Dict Json :=
  constructPayload (.str accountId) (.str channel)
    ((Dict.get? "autorecycle_override_component_name" (autorecyclingTags tags)).getD (.str name))
    (.str asgName) (autorecyclingTags tags)

theorem get?_payloadOf (key : String) :
    Dict.get? key (payloadOf accountId channel name asgName tags) =
      ((payloadToAsgTagMap.find? fun x => x.1 = key).bind fun x =>
        Dict.get? x.2 (autorecyclingTags tags)).or
        (Dict.get? key [("account_id", .str accountId), ("success_channel", .str channel),
          ("component",
            (Dict.get? "autorecycle_override_component_name" (autorecyclingTags tags)).getD (.str name)),
          ("auto_scaling_group_name", .str asgName), ("emoji", .str ":robot_face:")]) :=
  get?_addTags _ (by decide) _ _

/-- A key of the map has its tag, and no other value. -/
theorem get?_payloadOf_tag {key tagName : String} {kind : TagKind}
    (hmap : payloadToAsgTagMap.find? (fun x => x.1 = key) = some (key, tagName))
    (htag : (tagName, kind) ∈ autorecycleTagNames)
    (hkey : key ∉ ["account_id", "success_channel", "component", "auto_scaling_group_name", "emoji"]) :
    Dict.get? key (payloadOf accountId channel name asgName tags) =
      (firstValue tags tagName).map kind.decode := by
  have hbase := @Dict.get?_eq_none Json key [("account_id", .str accountId),
    ("success_channel", .str channel),
    ("component",
      (Dict.get? "autorecycle_override_component_name" (autorecyclingTags tags)).getD (.str name)),
    ("auto_scaling_group_name", .str asgName), ("emoji", .str ":robot_face:")] hkey
  rw [get?_payloadOf, hmap, Option.bind_some, hbase, Option.or_none, get?_autorecyclingTags tags htag]

theorem payloadOf_describes :
    Describes (payloadOf accountId channel name asgName tags) accountId channel name asgName tags where
  accountId := get?_payloadOf accountId channel name asgName tags "account_id"
  successChannel := get?_payloadOf accountId channel name asgName tags "success_channel"
  asgName := get?_payloadOf accountId channel name asgName tags "auto_scaling_group_name"
  component := by
    have hoverride := @get?_autorecyclingTags tags "autorecycle_override_component_name" .string
      (by decide)
    rw [get?_payloadOf, hoverride]
    cases firstValue tags "autorecycle_override_component_name" <;> rfl
  strings := by
    simp only [List.forall_mem_cons]
    refine ⟨?_, ?_, ?_, ?_, nofun⟩
    all_goals exact @get?_payloadOf_tag _ _ _ _ _ _ _ .string rfl (by simp [autorecycleTagNames]) (by simp)
  booleans := by
    simp only [List.forall_mem_cons]
    refine ⟨?_, ?_, nofun⟩
    all_goals exact @get?_payloadOf_tag _ _ _ _ _ _ _ .boolean rfl (by simp [autorecycleTagNames]) (by simp)

end

-- ============================================================================
-- The invocation
-- ============================================================================

/-- The replies of one invocation. -/
structure Responses where
  environ : String → Option String
  asgs : String → Except PyExc (List AutoScalingGroup)
  tags : String → Except PyExc (List Tag)
  now : String
  started : Except StartError Unit

/-- One call of `start_execution`. -/
structure Start where
  stateMachineArn : String
  name : String
  input : Dict Json

/-- Answer one call, and keep the calls of `start_execution`. -/
def Responses.answer (env : Responses) (starts : List Start) : (op : Op) → op.Reply × List Start
  | .getenv name => (env.environ name, starts)
  | .searchAutoScalingGroups expression => (env.asgs expression, starts)
  | .describeTags asgName _ => (env.tags asgName, starts)
  | .strftime _ => (env.now, starts)
  | .startExecution arn name input => (env.started, starts ++ [⟨arn, name, input⟩])

section
variable (env : Responses) {accountId channel asgName : String} {tags : List Tag}

/-- The ARN of the state machine that the tags ask for. -/
def arnOf (accountId : String) (tags : List Tag) : String :=
  "arn:aws:states:eu-west-2:" ++ accountId ++ ":stateMachine:" ++
    (firstValue tags "autorecycle_step_function_name").getD "autorecycle"

theorem str_str (s : String) : str (.str s) = s := by rw [str]

theorem sfArn_eq {payload : Dict Json} {machine : Option String}
    (haccount : Dict.get? "account_id" payload = some (.str accountId))
    (hmachine : Dict.get? "step_function_name" payload = machine.map .str) :
    sfArn payload = .ok ("arn:aws:states:eu-west-2:" ++ accountId ++ ":stateMachine:" ++
      machine.getD "autorecycle") := by
  rw [sfArn, haccount, hmachine, getKey, ok_bind]
  cases machine with
  | some machine =>
      rw [Option.map_some, Option.getD_some]
      dsimp only
      rw [str_str, str_str, pure_eq_ok]
  | none =>
      have htext : ":stateMachine:" ++ "autorecycle" = ":stateMachine:autorecycle" := by
        decide +kernel
      rw [Option.map_none, Option.getD_none]
      dsimp only
      rw [str_str, pure_eq_ok, ← htext, ← String.append_assoc]

theorem run_sfStartExecution {payload : Dict Json} {name : String}
    (h : Describes payload accountId channel name asgName tags) :
    (sfStartExecution payload).run env.answer [] =
      (exceptClientError env.started, [{
        stateMachineArn := arnOf accountId tags
        name := (firstValue tags "autorecycle_override_component_name").getD name ++ "-" ++ env.now
        input := payload }]) := by
  have hmachine := h.strings ("step_function_name", "autorecycle_step_function_name")
    (.tail _ (.tail _ (.tail _ (.head _))))
  rw [sfStartExecution, sfArn_eq h.accountId hmachine, h.component, getKey]
  show (raise (exceptClientError env.started)).run env.answer _ = _
  rw [run_raise, str_str]
  rfl

variable {env : Responses} {starts : List Start}

theorem run_environ {key value : String} (h : env.environ key = some value) :
    (environ key).run env.answer starts = (.ok value, starts) := by
  show (raise (getKey key (env.environ key))).run env.answer starts = _
  rw [run_raise, h, getKey]

theorem run_getAsg {component : String} {asg : AutoScalingGroup} {others : List AutoScalingGroup}
    (h : env.asgs (asgQuery component) = .ok (asg :: others)) :
    (getAsg component).run env.answer starts = (.ok asg, starts) := by
  show (raise (env.asgs (asgQuery component)) >>= _).run env.answer starts = _
  rw [h]
  rfl

theorem run_getAutorecyclingTags (h : env.tags asgName = .ok tags) :
    (getAutorecyclingTags asgName).run env.answer starts = (.ok (autorecyclingTags tags), starts) := by
  show (raise (env.tags asgName) >>= _).run env.answer starts = _
  rw [h]
  rfl

/-- An event about no component. -/
theorem run_lambdaHandler_none {event : Dict Json} (hname : getComponentName event = .ok none) :
    (lambdaHandler event).run env.answer [] = (.ok (), []) := by
  rw [lambdaHandler, hname]
  rfl

/-- An event about a component, when the account, the channel, the ASG and its
    tags can be read. -/
theorem run_lambdaHandler_some {event : Dict Json} {name : String} {others : List AutoScalingGroup}
    (hname : getComponentName event = .ok (some name))
    (haccount : env.environ "ACCOUNT_ID" = some accountId)
    (hchannel : env.environ "SLACK_CHANNEL" = some channel)
    (hasg : env.asgs (asgQuery name) = .ok (⟨asgName⟩ :: others))
    (htags : env.tags asgName = .ok tags) :
    (lambdaHandler event).run env.answer [] =
      if assertRecyclable (autorecyclingTags tags) then
        (sfStartExecution (payloadOf accountId channel name asgName tags)).run env.answer []
      else (.ok (), []) := by
  rw [lambdaHandler, hname, raise_ok, Prog.ret_bind]
  simp only [ask_bind, Prog.run_call, Prog.run_bind]
  have hstill : (env.answer [] (.getenv "ENVIRONMENT")).2 = [] := rfl
  rw [hstill, getAccountId, run_environ haccount]
  dsimp only
  rw [getSlackChannel, run_environ hchannel]
  dsimp only
  rw [run_getAsg hasg]
  dsimp only
  rw [run_getAutorecyclingTags htags]
  dsimp only
  split
  · rfl
  · rfl

/-- The start lambda: exactly one execution for an event about a component whose
    tags ask for it, with the payload and the state machine of the tags; none for
    any other; and no `ClientError` of the start gets out. -/
theorem lambdaHandler_starts (env : Responses) (event : Dict Json) (name? : Option String)
    (accountId channel asgName : String) (tags : List Tag)
    (hname : getComponentName event = .ok name?)
    (haccount : env.environ "ACCOUNT_ID" = some accountId)
    (hchannel : env.environ "SLACK_CHANNEL" = some channel)
    (hasg : ∀ name, name? = some name →
      ∃ others, env.asgs (asgQuery name) = .ok (⟨asgName⟩ :: others))
    (htags : env.tags asgName = .ok tags) :
    let ended := (lambdaHandler event).run env.answer []
    (∀ name, name? = some name → Startable tags → ∃ start, ended.2 = [start] ∧
      start.stateMachineArn = arnOf accountId tags ∧
      Describes start.input accountId channel name asgName tags) ∧
    (name? = none ∨ ¬ Startable tags → ended.2 = []) ∧
    ((∀ e, env.started = .error e → e.isClientError = true) → ended.1 = .ok ()) := by
  cases name? with
  | none =>
      rw [run_lambdaHandler_none hname]
      exact ⟨nofun, fun _ => rfl, fun _ => rfl⟩
  | some name =>
      obtain ⟨others, hasgs⟩ := hasg name rfl
      rw [run_lambdaHandler_some hname haccount hchannel hasgs htags]
      by_cases hstart : Startable tags
      · have hdescribes := payloadOf_describes accountId channel name asgName tags
        rw [if_pos ((assertRecyclable_iff tags).mpr hstart), run_sfStartExecution env hdescribes]
        refine ⟨?_, ?_, ?_⟩
        · rintro _ ⟨rfl⟩ -
          exact ⟨_, rfl, rfl, hdescribes⟩
        · rintro (hnone | hnot)
          · cases hnone
          · exact absurd hstart hnot
        · intro hclient
          show exceptClientError env.started = .ok ()
          cases hstarted : env.started with
          | ok u => rfl
          | error e => rw [exceptClientError, if_pos (hclient e hstarted)]
      · rw [if_neg fun h => hstart ((assertRecyclable_iff tags).mp h)]
        exact ⟨fun _ _ h => absurd h hstart, fun _ => rfl, fun _ => rfl⟩

end

/-- A new launch template of the ASG of the component "web". -/
def webEvent : Dict Json :=
  [("detail", .obj [("eventName", .str "UpdateAutoScalingGroup"),
    ("requestParameters", .obj [("autoScalingGroupName", .str "web-asg-1"),
      ("launchTemplate", .obj [])])])]

def webTags : List Tag :=
  [⟨"autorecycle_recycle_on_asg_update", "True"⟩, ⟨"autorecycle_strategy", "in-out"⟩,
    ⟨"autorecycle_strategy", "mongo"⟩]

def webReplies : Responses where
  environ name := if name = "ACCOUNT_ID" then some "1" else some "team-web"
  asgs _ := .ok [⟨"web-asg-1"⟩]
  tags _ := .ok webTags
  now := "20240101000000"
  started := .error { isClientError := true, exc := { cls := .clientError } }

theorem lambdaHandler_starts_web :
    ∃ start, ((lambdaHandler webEvent).run webReplies.answer []).2 = [start] ∧
      start.stateMachineArn = arnOf "1" webTags ∧
      Describes start.input "1" "team-web" "web" "web-asg-1" webTags :=
  (lambdaHandler_starts webReplies webEvent (some "web") "1" "team-web" "web-asg-1" webTags rfl rfl rfl
    (fun _ _ => ⟨[], rfl⟩) rfl).1 "web" rfl ⟨⟨"True", rfl, by decide⟩, "in-out", rfl⟩

end AutoRecycle.InvokeStepfunctions
