/-
  AutoRecycle.Standard.Autorecycle

  autorecycle_lambda.py: the lambda that puts a component on its recycling queue.
  What it prints is left out.
-/
import AutoRecycle.Py.Str
import AutoRecycle.Standard.Calls

namespace AutoRecycle.Standard

open AutoRecycle.Asl AutoRecycle.Data AutoRecycle.Effect
open AutoRecycle.Py (str)

def sqsUrl : String := "https://sqs.eu-west-2.amazonaws.com"

/-- What `output` returns, with the environment that it reads. -/
def outputData (component : Json) (success : Bool) (channel : Json) (environment : Option String) :
    Dict Json :=
  let outcome := if success then "Auto-recycling was successfully initiated"
    else "Auto-recycling has failed"
  let status := if success then "success" else "failure"
  let channel := if success then channel else .str "team-infra-alerts"
  [("username", .str "AutoRecycling"),
   ("channels", channel),
   ("emoji", .str ":robot_face:"),
   ("text", .str ("*" ++ str component ++ "*")),
   ("status", .str status),
   ("component", component),
   ("message_content", .obj [
     ("text", .str outcome),
     ("color", .str (if status = "success" then "good" else "danger")),
     ("fields", .arr [
       .obj [("title", .str "Component Name"), ("value", .str ("recycle-" ++ str component)),
             ("short", .bool true)],
       .obj [("title", .str "Environment"), ("value", (environment.map .str).getD .null),
             ("short", .bool true)]])])]

def output (component : Json) (success : Bool) (channel : Json) : Py Json := do
  let environment : Option String ← ask (.getenv "environment")
  return .obj (outputData component success channel environment)

/-- `success`, as the `try` block of `send_to_sqs` sets it. -/
def sendSuccess : Except PyExc SqsResponse → Bool
  | .ok response => response.messageId.isSome
  -- a `ClientError` and any other exception are handled alike
  | .error _ => false

def sendToSqs (component accountId channel : Json) : Py Json := do
  let sqsQueue := sqsUrl ++ "/" ++ str accountId ++ "/recycle-" ++ str component
  let sendMessage := "Recycle " ++ str component
  let response : Except PyExc SqsResponse ←
    ask (.sendMessage sqsQueue component accountId sendMessage)
  output component (sendSuccess response) channel

/-- `event[key]` on the event of the execution. -/
def getItem (key : String) : Json → Except PyExc Json
  | .obj fields => getKey key (Dict.get? key fields)
  | _ => .error { cls := .typeError }

def autorecycleHandler (event : Json) : Py Json := do
  let component ← raise (getItem "component" event)
  let accountId ← raise (getItem "account_id" event)
  let channel ← raise (getItem "success_channel" event)
  sendToSqs component accountId channel

-- ============================================================================
-- What it returns
-- ============================================================================

/-- The message was sent: SQS has given it an id. -/
def Responses.Sent (env : Responses) : Prop :=
  ∃ response messageId, env.sent = .ok response ∧ response.messageId = some messageId

theorem run_sendToSqs (env : Responses) (component accountId channel : Json) (n : Nat) :
    (sendToSqs component accountId channel).run env.answer n =
      (.ok (.obj (outputData component (sendSuccess env.sent) channel
        (env.environment "environment"))), n) := rfl

/-- On an event with its three keys the lambda returns, whatever SQS answers. -/
theorem run_autorecycleHandler {event component accountId channel : Json}
    (hcomponent : event.field? "component" = some component)
    (haccount : event.field? "account_id" = some accountId)
    (hchannel : event.field? "success_channel" = some channel) (env : Responses) (n : Nat) :
    (autorecycleHandler event).run env.answer n =
      (.ok (.obj (outputData component (sendSuccess env.sent) channel
        (env.environment "environment"))), n) := by
  cases event with
  | obj fields =>
      rw [Json.field?_obj] at hcomponent haccount hchannel
      simp only [autorecycleHandler, getItem, hcomponent, haccount, hchannel, getKey, raise_ok,
        Prog.ret_bind]
      exact run_sendToSqs env component accountId channel n
  | _ => cases hcomponent

end AutoRecycle.Standard
