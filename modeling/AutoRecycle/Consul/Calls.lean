/-
  AutoRecycle.Consul.Calls

  What the tasks of the Consul recycle ask of the outside: the HTTP interface of
  Consul, EC2, SSM, the environment and the Slack lambda.  The types keep the
  keys of the replies that the code reads.
-/
import AutoRecycle.Asl.Json
import AutoRecycle.Effect.Runs
import AutoRecycle.Exceptions

namespace AutoRecycle.Consul

open AutoRecycle.Asl AutoRecycle.Effect

/-- A member of the control plane. -/
structure Member where
  addr : Option String

structure NetworkInterface where
  privateIpAddress : Option String

structure Instance where
  instanceId : String
  networkInterfaces : Option (List NetworkInterface)

structure Reservation where
  instances : List Instance

inductive Op where
  | getenv (name : String)
  /-- `get_ssl_context()`: the CA certificate comes from the parameter store. -/
  | sslContext
  /-- The text of `/v1/status/leader`. -/
  | statusLeader (host : String)
  /-- `json.loads` of `/v1/status/peers`: the addresses of the peers. -/
  | statusPeers (host : String)
  /-- `json.loads` of `/v1/agent/members`. -/
  | agentMembers (host : String)
  /-- `describe_instances` by the filter `private-ip-address`. -/
  | describeInstances (values : List String)
  | terminateInstances (instanceId : Json)
  /-- The SSM call of Step Functions itself. -/
  | sendCommand (input : Json)
  /-- A lambda that is not part of the repository. -/
  | invoke (function : String) (input : Json)

def Op.Reply : Op → Type
  | getenv _ => Option String
  | sslContext => Except PyExc Unit
  | statusLeader _ => Except PyExc String
  | statusPeers _ => Except PyExc (List String)
  | agentMembers _ => Except PyExc (List Member)
  | describeInstances _ => Except PyExc (List Reservation)
  | terminateInstances _ => Except PyExc Json
  | sendCommand _ => Except PyExc Json
  | invoke .. => Except PyExc Json

abbrev Calls : Signature where
  Op := Op
  Reply := Op.Reply
  Exc := PyExc

/-- A computation of one of the tasks. -/
abbrev Py : Type → Type := Prog Calls

def ask (op : Op) : Py op.Reply := @Prog.perform Calls op

def raise {α : Type} (r : Except PyExc α) : Py α := @Prog.ofExcept Calls α r

section
variable {α β W : Type}

@[simp] theorem ask_bind (op : Op) (f : op.Reply → Py α) : (ask op >>= f) = Prog.call op f := rfl

@[simp] theorem raise_ok (a : α) : raise (.ok a) = Prog.ret a := rfl

@[simp] theorem raise_error (e : PyExc) : (raise (.error e) : Py α) = Prog.throw e := rfl

end

section
variable {α β W : Type} {K : Setting Calls W} {w w' : W} {calls : Trace Calls}

/-- A reply that is raised has no run that returns. -/
theorem raise_bind_ret_inv {r : Except PyExc α} {f : α → Py β} {b : β}
    (h : Exec K (raise r >>= f) w calls (.ret b) w') :
    ∃ a, r = .ok a ∧ Exec K (f a) w calls (.ret b) w' :=
  Exec.ofExcept_bind_ret_inv h

/-- `try: p except Exception as e: raise Exception(...)` -/
theorem tryCatch_throw_ret_inv {p : Py α} {g : PyExc → PyExc} {a : α}
    (h : Exec K (p.tryCatch fun e => Prog.throw (g e)) w calls (.ret a) w') :
    Exec K p w calls (.ret a) w' := by
  obtain ⟨r, t₁, t₂, w₁, rfl, h₁, h₂⟩ := Exec.bind_ret_inv h
  have hattempt := Exec.attempt_ret_inv h₁
  cases r with
  | ok b =>
      cases h₂ with
      | rest hr =>
          have hrest := hattempt.trans (.rest hr)
          exact hrest
  | error e => cases (Exec.throw_inv h₂).2

end

end AutoRecycle.Consul
