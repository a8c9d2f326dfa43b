/-
  AutoRecycle.Consul.Checks

  What a task of the Consul recycle has done when it returns: a health check has
  seen a leader and the expected number of peers, and TerminateNode has
  terminated the instance it was given.  No other task terminates anything.
-/
import AutoRecycle.Consul.Nodes
import AutoRecycle.Consul.StateMachine

namespace AutoRecycle.Consul

open AutoRecycle.Asl AutoRecycle.Data AutoRecycle.Effect
open AutoRecycle.Asl.Nested (Answers)
open AutoRecycle.Mongo (isFalsy)

-- ============================================================================
-- check_consul_health
-- ============================================================================

/-- The last two calls of a health check: a leader is seen, then `peers` are counted. -/
def Asked (calls : Trace Calls) (peers : List String) : Prop :=
  ∃ pre host text, calls =
      pre ++ [⟨.statusLeader host, .ok text⟩, ⟨.statusPeers host, .ok peers⟩] ∧
    unquote text ≠ ""

/-- A health check that has passed, having seen a leader and counted `peers`. -/
structure Counted (ev : ConsulRan) (peers : List String) : Prop where
  passed : ∃ out, ev.answer = .ok out
  asked : Asked ev.calls peers

/-- The check has seen a leader and exactly `n` peers. -/
def Saw (n : Nat) (ev : ConsulRan) : Prop := ∃ peers, Counted ev peers ∧ peers.length = n

section
variable {W : Type} {K : Setting Calls W} {w w' : W} {calls : Trace Calls} {out : Json}

theorem checkCluster_ret_inv {host : String} {expectedPeers : Json}
    (h : Exec K (checkCluster host expectedPeers) w calls (.ret out) w') :
    ∃ text peers, calls = [⟨.statusLeader host, .ok text⟩, ⟨.statusPeers host, .ok peers⟩] ∧
      unquote text ≠ "" ∧ equalsNat peers.length expectedPeers = true := by
  obtain ⟨leader, t₁, w₁, w₂, rfl, -, -, h₁⟩ := Exec.call_ret_inv h
  obtain ⟨text, rfl, h₂⟩ := raise_bind_ret_inv h₁
  dsimp only at h₂
  split at h₂
  · cases (Exec.throw_inv h₂).2
  · rename_i hleader
    obtain ⟨counted, t₂, w₃, w₄, rfl, -, -, h₃⟩ := Exec.call_ret_inv h₂
    obtain ⟨peers, rfl, h₄⟩ := raise_bind_ret_inv h₃
    split at h₄
    · rename_i hpeers
      obtain ⟨rfl, -⟩ := Exec.ret_inv h₄
      exact ⟨text, peers, rfl, hleader, hpeers⟩
    · cases (Exec.throw_inv h₄).2

theorem checkHandler_ret_inv {fields : Dict Json}
    (h : Exec K (checkHandler (.obj fields)) w calls (.ret out) w') :
    ∃ peers, Asked calls peers ∧
      equalsNat peers.length ((Dict.get? "expectedPeers" fields).getD (.num 5)) = true := by
  rw [checkHandler] at h
  obtain ⟨host, t₁, t₂, w₁, rfl, -, h₁⟩ := Exec.bind_ret_inv h
  have hssl : Exec K (ask .sslContext >>= fun r => raise r >>= fun _ =>
    (checkCluster host ((Dict.get? "expectedPeers" fields).getD (.num 5))).tryCatch fun e =>
      Prog.throw (failure ("Cluster health check failed: " ++ Py.strExc e)))
    w₁ t₂ (.ret out) w' := h₁
  obtain ⟨r, t₃, w₂, w₃, rfl, -, -, h₂⟩ := Exec.call_ret_inv hssl
  obtain ⟨u, -, h₃⟩ := raise_bind_ret_inv h₂
  obtain ⟨text, peers, rfl, hleader, hpeers⟩ := checkCluster_ret_inv (tryCatch_throw_ret_inv h₃)
  refine ⟨peers, ⟨t₁ ++ [⟨.sslContext, r⟩], host, text, ?_, hleader⟩, hpeers⟩
  rw [List.append_assoc]
  rfl

theorem equalsNat_num {n : Nat} {m : Nat} (h : equalsNat n (.num m) = true) : n = m := by
  have heq : (m : Int) = n := of_decide_eq_true h
  omega

/-- A check that passes has counted as many peers as its input expects; five when
    the input does not say. -/
theorem saw_of_answers {faults : TaskError → Prop} {s : State} {n k : Nat} {fields : Dict Json}
    (hexpected : (Dict.get? "expectedPeers" fields).getD (.num 5) = .num k)
    (h : Answers (tasks faults) K .checkClusterHealth (.obj fields) w calls (.ok out) w') :
    Saw k ⟨s, n, .obj fields, calls, .ok out⟩ := by
  cases h with
  | ret h =>
      obtain ⟨peers, hasked, hpeers⟩ := checkHandler_ret_inv h
      rw [hexpected] at hpeers
      exact ⟨peers, ⟨⟨out, rfl⟩, hasked⟩, equalsNat_num hpeers⟩

-- ============================================================================
-- terminate_consul_instance
-- ============================================================================

/-- The instance that the call has terminated. -/
def terminated : Event Calls → Option Json
  | ⟨.terminateInstances instanceId, .ok _⟩ => some instanceId
  | _ => none

/-- The calls that terminate nothing. -/
def Harmless : Op → Prop
  | .terminateInstances _ => False
  | _ => True

theorem terminated_eq_none {ev : Event Calls} (h : Harmless ev.1) : terminated ev = none := by
  obtain ⟨op, r⟩ := ev
  cases op with
  | terminateInstances instanceId => exact absurd h id
  | _ => rfl

/-- The lambda terminates the instance it is given; with an empty id it says so
    and terminates nothing. -/
theorem terminateHandler_ret_inv {instanceId : String}
    (h : Exec K (terminateHandler (.obj [("instanceId", .str instanceId)])) w calls (.ret out) w') :
    calls.filterMap terminated = if instanceId = "" then [] else [.str instanceId] := by
  have hfalsy : isFalsy (.str instanceId) = decide (instanceId = "") := by
    rw [isFalsy, Bool.eq_iff_iff, String.isEmpty_iff, decide_eq_true_eq]
  have hhandler : terminateHandler (.obj [("instanceId", .str instanceId)]) =
      if isFalsy (.str instanceId) then Prog.ret missingInstanceId else terminate (.str instanceId) := rfl
  rw [hhandler, hfalsy] at h
  by_cases hempty : instanceId = ""
  · rw [if_pos (decide_eq_true hempty)] at h
    obtain ⟨rfl, -⟩ := Exec.ret_inv h
    rw [if_pos hempty]
    rfl
  · rw [if_neg (by simpa using hempty)] at h
    obtain ⟨r, t₁, w₁, w₂, rfl, -, -, h₁⟩ := Exec.call_ret_inv h
    rw [if_neg hempty]
    cases r with
    | ok response =>
        obtain ⟨rfl, -⟩ := Exec.ret_inv h₁
        rfl
    | error e => cases (Exec.throw_inv h₁).2

-- ============================================================================
-- The other tasks
-- ============================================================================

theorem issues_raise {α : Type} {P : Op → Prop} (r : Except PyExc α) :
    Prog.Issues (S := Calls) P (raise r) := by
  cases r <;> trivial

theorem issues_ite {α : Type} {P : Op → Prop} {c : Prop} [Decidable c] {p q : Py α}
    (hp : Prog.Issues (S := Calls) P p) (hq : Prog.Issues (S := Calls) P q) :
    Prog.Issues (S := Calls) P (if c then p else q) := by
  split
  · exact hp
  · exact hq

theorem harmless_getConsulHost (event : Json) : (getConsulHost event).Issues Harmless :=
  ⟨trivial, fun _ => (issues_raise _).bind fun _ => trivial⟩

theorem harmless_checkCluster (host : String) (expectedPeers : Json) :
    (checkCluster host expectedPeers).Issues Harmless := by
  rw [checkCluster]
  -- what the text of the leader is does not matter
  generalize unquote = readLeader
  refine ⟨trivial, fun _ => (issues_raise _).bind fun text => issues_ite (issues_raise _) ?_⟩
  exact ⟨trivial, fun _ => (issues_raise _).bind fun peers => issues_ite trivial (issues_raise _)⟩

theorem harmless_checkHandler (event : Json) : (checkHandler event).Issues Harmless := by
  apply (harmless_getConsulHost event).bind
  intro host
  apply (issues_raise _).bind
  intro expectedPeers
  exact ⟨trivial, fun _ => (issues_raise _).bind fun _ =>
    (harmless_checkCluster host _).tryCatch fun _ => trivial⟩

theorem harmless_nodesHandler (event : Json) : (nodesHandler event).Issues Harmless := by
  apply (harmless_getConsulHost event).bind
  intro host
  refine ⟨trivial, fun _ => (issues_raise _).bind fun _ => Prog.Issues.bind
    (Prog.Issues.tryCatch ?_ fun _ => trivial) fun _ => trivial⟩
  refine ⟨trivial, fun _ => (issues_raise _).bind fun text => ?_⟩
  exact ⟨trivial, fun _ => (issues_raise _).bind fun members => (issues_raise _).bind fun addrs =>
    issues_ite trivial ⟨trivial, fun _ => (issues_raise _).bind fun _ => trivial⟩⟩

/-- Only the lambda terminate_consul_instance terminates instances. -/
theorem harmless_impl {resource : Resource} (h : resource ≠ .terminateConsul) (input : Json) :
    (impl resource input).Issues Harmless := by
  cases resource with
  | slackNotifications => exact ⟨trivial, fun _ => issues_raise _⟩
  | checkClusterHealth => exact harmless_checkHandler input
  | getConsulNodes => exact harmless_nodesHandler input
  | terminateConsul => exact absurd rfl h
  | sendCommand => exact ⟨trivial, fun _ => issues_raise _⟩

theorem filterMap_terminated_nil {faults : TaskError → Prop} {resource : Resource} {input : Json}
    {r : Except TaskError Json} (h : Answers (tasks faults) K resource input w calls r w')
    (hresource : resource ≠ .terminateConsul) : calls.filterMap terminated = [] := by
  have hharmless := harmless_impl hresource input
  have hcalls : ∀ ev ∈ calls, Harmless ev.1 := by
    cases h with
    | ret h => exact (h.issues hharmless).1
    | throw h => exact (h.issues hharmless).1
    | fault h _ => exact (h.issues hharmless).1
  rw [List.filterMap_eq_nil_iff]
  exact fun ev hev => terminated_eq_none (hcalls ev hev)

end

end AutoRecycle.Consul
