/-
  AutoRecycle.InvokeStepfunctions.Handler

  The lambda that starts the state machine when an ASG has changed: aws.py,
  get_account_details.py, sf_start_execution.py and handler.py.  What it logs is
  left out.
-/
import AutoRecycle.Effect.Prog
import AutoRecycle.InvokeStepfunctions.GetComponentDetails

namespace AutoRecycle.InvokeStepfunctions

open AutoRecycle.Asl AutoRecycle.Data AutoRecycle.Effect
open AutoRecycle.Py (str)

-- ============================================================================
-- The calls
-- ============================================================================

/-- A tag of an ASG, with the keys that are read. -/
structure Tag where
  key : String
  value : String

structure AutoScalingGroup where
  autoScalingGroupName : String

/-- An exception of `start_execution`; the service's own ones are of the class
    `ClientError` or of one derived from it. -/
structure StartError where
  isClientError : Bool
  exc : PyExc

inductive Op where
  | getenv (name : String)
  /-- All ASGs that a JMESPath expression selects from the pages of
      `describe_auto_scaling_groups`. -/
  | searchAutoScalingGroups (expression : String)
  /-- `describe_tags` by the filters `auto-scaling-group` and `key`. -/
  | describeTags (autoScalingGroup : String) (keys : List String)
  /-- `strftime(format, localtime())` -/
  | strftime (format : String)
  /-- `start_execution`, with the value that is dumped as its input. -/
  | startExecution (stateMachineArn name : String) (input : Dict Json)

def Op.Reply : Op → Type
  | getenv _ => Option String
  | searchAutoScalingGroups _ => Except PyExc (List AutoScalingGroup)
  | describeTags .. => Except PyExc (List Tag)
  | strftime _ => String
  | startExecution .. => Except StartError Unit

abbrev Calls : Signature where
  Op := Op
  Reply := Op.Reply
  Exc := PyExc

/-- A computation of the lambda. -/
abbrev Py : Type → Type := Prog Calls

def ask (op : Op) : Py op.Reply := @Prog.perform Calls op

def raise {α : Type} (r : Except PyExc α) : Py α := @Prog.ofExcept Calls α r

section
variable {α β W : Type}

@[simp] theorem ask_bind (op : Op) (f : op.Reply → Py α) : (ask op >>= f) = Prog.call op f := rfl

@[simp] theorem raise_ok (a : α) : raise (.ok a) = Prog.ret a := rfl

@[simp] theorem run_raise {answer : W → (op : Op) → op.Reply × W} (r : Except PyExc α) (w : W) :
    (raise r).run answer w = (r, w) :=
  @Prog.run_ofExcept Calls α W answer r w

end

-- ============================================================================
-- aws.py
-- ============================================================================

inductive TagKind where
  | string
  | boolean
  deriving DecidableEq

def autorecycleTagNames : List (String × TagKind) :=
  [("autorecycle_override_component_name", .string),
   ("autorecycle_recycle_on_asg_update", .boolean),
   ("autorecycle_strategy", .string),
   ("autorecycle_slack_monitoring_channel", .string),
   ("autorecycle_notify_pager_duty", .boolean),
   ("autorecycle_team", .string),
   ("autorecycle_step_function_name", .string),
   ("autorecycle_dry_run", .boolean)]

def namesOf (kind : TagKind) : List String :=
  (autorecycleTagNames.filter fun x => x.2 = kind).map Prod.fst

/-- The expression that `get_asg` searches with. -/
def asgQuery (component : String) : String :=
  "AutoScalingGroups[] | [?contains(Tags[?Key==`Name`].Value, `" ++ component ++ "`)]"

/-- `next` has nothing to return. -/
def stopIteration : ExcClass := .other ⟨"StopIteration", by decide⟩

def getAsg (component : String) : Py AutoScalingGroup := do
  let filteredAsgs : Except PyExc (List AutoScalingGroup) ←
    ask (.searchAutoScalingGroups (asgQuery component))
  match ← raise filteredAsgs with
  | asg :: _ => return asg
  | [] => raise (.error { cls := stopIteration })

def getTagValues (tagsList : List Tag) (tagName : String) : List String :=
  (tagsList.filter fun tag => tag.key = tagName).map Tag.value

/-- What `_add_tag` and `_add_boolean_tag` have in common. -/
def addFirst (decode : String → Json) (responseTags : List Tag) (tags : Dict Json)
    (tagName : String) : Dict Json :=
  match getTagValues responseTags tagName with
  | value :: _ => Dict.set tagName (decode value) tags
  | [] => tags

/-- `value.lower() == "true"`: the lower case of a character outside ASCII is none
    of these letters. -/
def isTrue (value : String) : Bool := value.toList.map Char.toLower = ['t', 'r', 'u', 'e']

def addTag : List Tag → Dict Json → String → Dict Json := addFirst .str

def addBooleanTag : List Tag → Dict Json → String → Dict Json :=
  addFirst fun value => .bool (isTrue value)

/-- The two loops of `get_autorecycling_tags`. -/
def autorecyclingTags (responseTags : List Tag) : Dict Json :=
  let tags := (namesOf .string).foldl (addTag responseTags) []
  (namesOf .boolean).foldl (addBooleanTag responseTags) tags

def getAutorecyclingTags (asgName : String) : Py (Dict Json) := do
  let responseTags : Except PyExc (List Tag) ←
    ask (.describeTags asgName (autorecycleTagNames.map Prod.fst))
  return autorecyclingTags (← raise responseTags)

-- ============================================================================
-- get_account_details.py
-- ============================================================================

/-- `os.environ[name]` -/
def environ (name : String) : Py String := do
  let value : Option String ← ask (.getenv name)
  raise (getKey name value)

def getAccountId : Py String := environ "ACCOUNT_ID"
def getSlackChannel : Py String := environ "SLACK_CHANNEL"

-- ============================================================================
-- assert_recyclable
-- ============================================================================

/-- The truth value of a tag. -/
def truthy : Json → Bool
  | .bool b => b
  | .str s => s ≠ ""
  | .num n => n ≠ 0
  | .null => false
  | .arr items => !items.isEmpty
  | .obj fields => !fields.isEmpty

def requiredTags : List String := ["autorecycle_recycle_on_asg_update", "autorecycle_strategy"]

def assertRecyclable (asgTags : Dict Json) : Bool :=
  let missingTags := requiredTags.filter fun tag => (Dict.get? tag asgTags).isNone
  if !missingTags.isEmpty then false
  else ((Dict.get? "autorecycle_recycle_on_asg_update" asgTags).map truthy).getD false

-- ============================================================================
-- sf_start_execution.py
-- ============================================================================

def sfArn (payload : Dict Json) : Except PyExc String := do
  let accountId ← getKey "account_id" (Dict.get? "account_id" payload)
  match Dict.get? "step_function_name" payload with
  | some name => return "arn:aws:states:eu-west-2:" ++ str accountId ++ ":stateMachine:" ++ str name
  | none => return "arn:aws:states:eu-west-2:" ++ str accountId ++ ":stateMachine:autorecycle"

/-- `except sf_exceptions.ClientError` -/
def exceptClientError : Except StartError Unit → Except PyExc Unit
  | .ok () => .ok ()
  | .error e => if e.isClientError then .ok () else .error e.exc

def sfStartExecution (payload : Dict Json) : Py Unit := do
  let arn ← raise (sfArn payload)
  let component ← raise (getKey "component" (Dict.get? "component" payload))
  let time : String ← ask (.strftime "%Y%m%d%H%M%S")
  let response : Except StartError Unit ←
    ask (.startExecution arn (str component ++ "-" ++ time) payload)
  raise (exceptClientError response)

-- ============================================================================
-- handler.py
-- ============================================================================

def payloadToAsgTagMap : List (String × String) :=
  [("strategy", "autorecycle_strategy"),
   ("monitoring_slack_channel", "autorecycle_slack_monitoring_channel"),
   ("notify_pager_duty", "autorecycle_notify_pager_duty"),
   ("team", "autorecycle_team"),
   ("step_function_name", "autorecycle_step_function_name"),
   ("dry_run", "autorecycle_dry_run")]

/-- The loop of `construct_payload`. -/
def addTags (asgTags : Dict Json) (map : List (String × String)) (payload : Dict Json) : Dict Json :=
  map.foldl (fun payload (payloadKey, tagName) =>
    match Dict.get? tagName asgTags with
    | some tag => Dict.set payloadKey tag payload
    | none => payload) payload

def constructPayload (accountId slackChannel component autoscalingGroupName : Json)
    (asgTags : Dict Json) : Dict Json :=
  addTags asgTags payloadToAsgTagMap
    [("account_id", accountId),
     ("success_channel", slackChannel),
     ("component", component),
     ("auto_scaling_group_name", autoscalingGroupName),
     ("emoji", .str ":robot_face:")]

def lambdaHandler (event : Dict Json) : Py Unit := do
  match ← raise (getComponentName event) with
  | none => return ()
  | some component => do
      -- the environment is read for a log line only
      let _ ← ask (.getenv "ENVIRONMENT")
      let accountId ← getAccountId
      let slackChannel ← getSlackChannel
      let asg ← getAsg component
      let asgTags ← getAutorecyclingTags asg.autoScalingGroupName
      if assertRecyclable asgTags then
        let overrideComponentName :=
          (Dict.get? "autorecycle_override_component_name" asgTags).getD (.str component)
        sfStartExecution (constructPayload (.str accountId) (.str slackChannel) overrideComponentName
          (.str asg.autoScalingGroupName) asgTags)
      else return ()

end AutoRecycle.InvokeStepfunctions
