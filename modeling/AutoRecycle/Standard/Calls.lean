/-
  AutoRecycle.Standard.Calls

  What the two lambdas of the standard strategy ask of the outside: SQS, Auto
  Scaling and the environment.  The types keep the keys of the replies that
  these lambdas read.  A lambda that is not modelled is one call.
-/
import AutoRecycle.Asl.Json
import AutoRecycle.Calls
import AutoRecycle.Effect.Prog

namespace AutoRecycle.Standard

open AutoRecycle.Asl AutoRecycle.Effect

/-- The reply of `send_message`. -/
structure SqsResponse where
  messageId : Option String

structure AsgInstance where
  instanceId : String
  healthStatus : String
  lifecycleState : String
  deriving DecidableEq

structure AutoScalingGroup where
  autoScalingGroupName : String
  maxSize : Nat
  instances : List AsgInstance
  deriving DecidableEq

/-- A scaling activity. -/
structure Activity where
  description : String
  startTime : Micros
  deriving DecidableEq

inductive Op where
  | getenv (name : String)
  /-- `send_message` with the attributes `component` and `account_id`. -/
  | sendMessage (queueUrl : String) (component accountId : Json) (messageBody : String)
  /-- The pages of `describe_auto_scaling_groups`. -/
  | describeAutoScalingGroups
  | describeScalingActivities (autoScalingGroupName : String) (maxRecords : Nat)
  | invoke (function : String) (input : Json)

def Op.Reply : Op → Type
  | getenv _ => Option String
  | sendMessage .. => Except PyExc SqsResponse
  | describeAutoScalingGroups => Except PyExc (List (List AutoScalingGroup))
  | describeScalingActivities .. => Except PyExc (List Activity)
  | invoke .. => Except PyExc Json

abbrev Calls : Signature where
  Op := Op
  Reply := Op.Reply
  Exc := PyExc

/-- A computation of one of the two lambdas. -/
abbrev Py : Type → Type := Prog Calls

def ask (op : Op) : Py op.Reply := @Prog.perform Calls op

def raise {α : Type} (r : Except PyExc α) : Py α := @Prog.ofExcept Calls α r

section
variable {α β W : Type}

@[simp] theorem ask_bind (op : Op) (f : op.Reply → Py α) : (ask op >>= f) = Prog.call op f := rfl

@[simp] theorem raise_ok (a : α) : raise (.ok a) = Prog.ret a := rfl

@[simp] theorem raise_error (e : PyExc) : (raise (.error e) : Py α) = Prog.throw e := rfl

@[simp] theorem run_raise {answer : W → (op : Op) → op.Reply × W} (r : Except PyExc α) (w : W) :
    (raise r).run answer w = (r, w) :=
  @Prog.run_ofExcept Calls α W answer r w

end

-- ============================================================================
-- One invocation's replies
-- ============================================================================

/-- The replies that one invocation gets. -/
structure Responses where
  environment : String → Option String
  sent : Except PyExc SqsResponse
  /-- The pages of the listing. -/
  pages : Except PyExc (List (List AutoScalingGroup))
  activities : String → Nat → Except PyExc (List Activity)

namespace Responses

/-- Answer one call.  The number counts the listings of the groups. -/
def answer (env : Responses) (listings : Nat) : (op : Op) → op.Reply × Nat
  | .getenv name => (env.environment name, listings)
  | .sendMessage .. => (env.sent, listings)
  | .describeAutoScalingGroups => (env.pages, listings + 1)
  | .describeScalingActivities asgName maxRecords => (env.activities asgName maxRecords, listings)
  | .invoke _ input => (.ok input, listings)

end Responses

end AutoRecycle.Standard
