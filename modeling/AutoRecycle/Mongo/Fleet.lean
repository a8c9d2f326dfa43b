/-
  AutoRecycle.Mongo.Fleet

  A replica set that replaces what is terminated.

  The world is the fleet of servers: those that run, and those that were
  terminated and are not replaced yet.  A replacement has a fresh instance id,
  the target AMI and the kind of role of the server it replaces; which data
  member is the primary is no part of the state, so that a re-election may
  happen before any reply.  The stale members of a fleet change by `terminate`
  alone: `staleIds_exec` is all that a run of any program can do to them.
-/
import AutoRecycle.Mongo.Runs
import Mathlib.Data.List.Perm.Basic

namespace AutoRecycle.Mongo

open AutoRecycle.Effect AutoRecycle.Py
open Relation (ReflTransGen)

-- ============================================================================
-- The fleet
-- ============================================================================

/-- A server of the replica set.  An arbiter stays an arbiter. -/
structure Server where
  instanceId : String
  imageId : String
  ipAddress : String
  arbiter : Bool
  deriving DecidableEq

/-- A data member that is not on the target AMI. -/
def Server.isStale (targetAmi : String) (server : Server) : Bool :=
  !server.arbiter && decide (server.imageId ≠ targetAmi)

/-- The servers of a replica set.  No two that run have the same instance id or
    the same address. -/
structure Fleet where
  members : List Server
  /-- Terminated, and not replaced yet. -/
  missing : List Server
  /-- The instance ids that were ever given. -/
  used : List String
  ids_used : ∀ server ∈ members, server.instanceId ∈ used
  ids_nodup : (members.map Server.instanceId).Nodup
  ips_nodup : (members.map Server.ipAddress).Nodup

namespace Fleet

def staleIds (targetAmi : String) (fleet : Fleet) : List String :=
  (fleet.members.filter (Server.isStale targetAmi)).map Server.instanceId

def terminate (fleet : Fleet) (instanceId : String) : Fleet where
  members := fleet.members.filter fun server => decide (server.instanceId ≠ instanceId)
  missing := fleet.missing ++ fleet.members.filter fun server => decide (server.instanceId = instanceId)
  used := fleet.used
  ids_used server h := fleet.ids_used server (List.mem_of_mem_filter h)
  ids_nodup := fleet.ids_nodup.sublist (List.filter_sublist.map _)
  ips_nodup := fleet.ips_nodup.sublist (List.filter_sublist.map _)

/-- How many servers there are, counting those that are to be replaced. -/
def size (fleet : Fleet) : Nat := fleet.members.length + fleet.missing.length

/-- A missing server is replaced. -/
def Replaces (targetAmi : String) (fleet fleet' : Fleet) : Prop :=
  ∃ before old after fresh, fleet.missing = before ++ old :: after ∧
    fresh.instanceId ∉ fleet.used ∧ fresh.imageId = targetAmi ∧ fresh.arbiter = old.arbiter ∧
    fleet'.members = fresh :: fleet.members ∧ fleet'.missing = before ++ after ∧
    fleet'.used = fresh.instanceId :: fleet.used

/-- The members are old ones, or fresh ones on the target AMI. -/
structure Renewed (targetAmi : String) (fleet fleet' : Fleet) : Prop where
  used : fleet.used ⊆ fleet'.used
  members : ∀ server ∈ fleet'.members, server ∈ fleet.members ∨
    server.instanceId ∉ fleet.used ∧ server.imageId = targetAmi

/-- What a call does to the fleet. -/
def afterCall (fleet : Fleet) : Op → Fleet
  | .terminate instanceId => fleet.terminate instanceId
  | _ => fleet

variable {targetAmi id : String} {fleet fleet' fleet'' : Fleet}

theorem nodup_staleIds : (fleet.staleIds targetAmi).Nodup :=
  fleet.ids_nodup.sublist (List.filter_sublist.map _)

theorem mem_staleIds : id ∈ fleet.staleIds targetAmi ↔
    ∃ server ∈ fleet.members, server.isStale targetAmi = true ∧ server.instanceId = id := by
  simp only [staleIds, List.mem_map, List.mem_filter, and_assoc]

theorem staleIds_terminate :
    (fleet.terminate id).staleIds targetAmi = (fleet.staleIds targetAmi).erase id := by
  rw [nodup_staleIds.erase_eq_filter, staleIds, staleIds, List.filter_map, terminate,
    List.filter_comm]
  have hsame : (fun server : Server => decide (server.instanceId ≠ id)) =
      (fun other => other != id) ∘ Server.instanceId := by
    funext server
    simp [bne, beq_eq_decide]
  rw [hsame]

theorem size_terminate : (fleet.terminate id).size = fleet.size := by
  have hsplit := List.length_eq_length_filter_add (l := fleet.members)
    fun server => decide (server.instanceId ≠ id)
  simp only [decide_not, Bool.not_not] at hsplit
  simp only [size, terminate, List.length_append, decide_not]
  omega

theorem staleIds_replaces (h : fleet.Replaces targetAmi fleet') :
    fleet'.staleIds targetAmi = fleet.staleIds targetAmi := by
  obtain ⟨before, old, after, fresh, -, -, hami, -, hmembers, -, -⟩ := h
  have hfresh : fresh.isStale targetAmi = false := by simp [Server.isStale, hami]
  rw [staleIds, hmembers, List.filter_cons, hfresh, staleIds]
  rfl

theorem size_replaces (h : fleet.Replaces targetAmi fleet') : fleet'.size = fleet.size := by
  obtain ⟨before, old, after, fresh, hmissing, -, -, -, hmembers, hmissing', -⟩ := h
  rw [size, size, hmembers, hmissing, hmissing']
  simp only [List.length_append, List.length_cons]
  omega

theorem Renewed.refl : fleet.Renewed targetAmi fleet where
  used := List.Subset.refl _
  members _ h := .inl h

theorem Renewed.trans (h : fleet.Renewed targetAmi fleet') (h' : fleet'.Renewed targetAmi fleet'') :
    fleet.Renewed targetAmi fleet'' where
  used := List.Subset.trans h.used h'.used
  members server hserver := by
    rcases h'.members server hserver with hserver | ⟨hfresh, hami⟩
    · exact h.members server hserver
    · exact .inr ⟨fun hused => hfresh (h.used hused), hami⟩

theorem renewed_replaces (h : fleet.Replaces targetAmi fleet') : fleet.Renewed targetAmi fleet' := by
  obtain ⟨before, old, after, fresh, -, hfresh, hami, -, hmembers, -, hused⟩ := h
  constructor
  · rw [hused]
    exact List.subset_cons_self _ _
  · intro server hserver
    rw [hmembers] at hserver
    rcases List.mem_cons.mp hserver with rfl | hserver
    · exact .inr ⟨hfresh, hami⟩
    · exact .inl hserver

theorem renewed_afterCall (op : Op) : fleet.Renewed targetAmi (fleet.afterCall op) := by
  cases op with
  | terminate id => exact ⟨List.Subset.refl _, fun server h => .inl (List.mem_of_mem_filter h)⟩
  | _ => exact .refl

/-- A fleet without missing servers stays as it is. -/
theorem eq_of_whole (hwhole : fleet.missing = []) (h : ReflTransGen (Replaces targetAmi) fleet fleet') :
    fleet' = fleet := by
  cases h.cases_head with
  | inl heq => exact heq.symm
  | inr hstep =>
      obtain ⟨next, ⟨before, old, after, fresh, hmissing, -⟩, -⟩ := hstep
      rw [hwhole] at hmissing
      simp at hmissing

end Fleet

-- ============================================================================
-- What the servers and AWS answer
-- ============================================================================

/-- What EC2 lists of a server that runs. -/
def Server.listed (server : Server) : MongoInstance where
  instanceId := server.instanceId
  imageId := server.imageId
  ipAddress := server.ipAddress

/-- EC2 lists the servers, all of them running, in some order. -/
def Lists (servers : List Server) (reservations : List Reservation) : Prop :=
  ∃ order, List.Perm order servers ∧
    describeMongodbInstances reservations = order.map fun server => .ok server.listed

/-- The server can say that it is in this state. -/
def Server.MayBe (server : Server) (state : String) : Prop :=
  if server.arbiter = true then state = "ARBITER" else state = "PRIMARY" ∨ state = "SECONDARY"

/-- The node says which replica set it is in, and its state. -/
def Reports (setName : String) (server : Server) (st : ReplSetStatus) : Prop :=
  ∃ state, nodeDetails st = .ok { nodeState := state, replicaSetName := setName } ∧
    server.MayBe state

/-- The replies in a fleet.  Nothing is said of the listing and of the nodes as
    long as a server is missing, nor of the calls that are left out. -/
def FleetReply (targetAmi setName : String) (fleet : Fleet) : (op : Op) → op.Reply → Prop
  | .describeLaunchTemplateVersions .., r =>
      ∃ version rest, r = .ok (version :: rest) ∧ version.imageId = some targetAmi
  | .describeInstances _, r =>
      ∃ reservations, r = .ok reservations ∧ (fleet.missing = [] → Lists fleet.members reservations)
  | .nodeStatus ip, r => ∃ st, r = .ok st ∧
      (fleet.missing = [] → ∀ server ∈ fleet.members, server.ipAddress = ip → Reports setName server st)
  | .filterInstances instanceId, r => r = .ok [instanceId]
  | .invoke function input, r => function = "slack_notifications" → r = .ok input
  | _, _ => True

/-- The world of a fleet. -/
def fleetWorld (targetAmi setName : String) : Setting Calls Fleet where
  answers fleet op r fleet' := FleetReply targetAmi setName fleet op r ∧ fleet' = fleet.afterCall op
  rely := ReflTransGen (Fleet.Replaces targetAmi)
  rely_refl _ := .refl
  rely_trans := .trans

-- ============================================================================
-- What a run does to the fleet
-- ============================================================================

def terminated? : Event Calls → Option String
  | ⟨.terminate instanceId, _⟩ => some instanceId
  | _ => none

/-- The instances that were terminated, oldest first. -/
def terminatedIds (calls : Trace Calls) : List String := calls.filterMap terminated?

theorem terminatedIds_append (calls calls' : Trace Calls) :
    terminatedIds (calls ++ calls') = terminatedIds calls ++ terminatedIds calls' := by
  rw [terminatedIds, List.filterMap_append, terminatedIds, terminatedIds]

theorem terminated?_eq_none {op : Op} (h : isTerminate op = false) (r : op.Reply) :
    terminated? ⟨op, r⟩ = none := by
  cases op with
  | terminate id => cases h
  | _ => rfl

theorem terminatedIds_eq_nil {calls : Trace Calls} (h : ∀ ev ∈ calls, isTerminate ev.1 = false) :
    terminatedIds calls = [] := by
  rw [terminatedIds, List.filterMap_eq_nil_iff]
  exact fun ev hev => terminated?_eq_none (h ev hev) ev.2

section
variable {α : Type} {targetAmi setName : String} {p q : Py α} {fleet fleet' : Fleet} {t : Trace Calls}

theorem staleIds_rely (h : (fleetWorld targetAmi setName).rely fleet fleet') :
    fleet'.staleIds targetAmi = fleet.staleIds targetAmi ∧ fleet'.size = fleet.size := by
  induction h with
  | refl => exact ⟨rfl, rfl⟩
  | tail _ hstep ih =>
      rw [Fleet.staleIds_replaces hstep, Fleet.size_replaces hstep]
      exact ih

theorem staleIds_afterCall (op : Op) (r : op.Reply) :
    (fleet.afterCall op).staleIds targetAmi =
        (fleet.staleIds targetAmi).diff (terminated? ⟨op, r⟩).toList ∧
      (fleet.afterCall op).size = fleet.size := by
  cases op with
  | terminate id =>
      refine ⟨?_, Fleet.size_terminate⟩
      show (fleet.terminate id).staleIds targetAmi = (fleet.staleIds targetAmi).diff [id]
      rw [List.diff_cons, List.diff_nil, Fleet.staleIds_terminate]
  | _ => exact ⟨rfl, rfl⟩

/-- A run takes from the stale members exactly those that it terminates. -/
theorem staleIds_exec (h : Exec (fleetWorld targetAmi setName) p fleet t q fleet') :
    fleet'.staleIds targetAmi = (fleet.staleIds targetAmi).diff (terminatedIds t) ∧
      fleet'.size = fleet.size := by
  induction h with
  | rest hr => exact staleIds_rely hr
  | @call op next w w₁ r w₂ tr q w' hr ha _ ih =>
      obtain ⟨hstale, hsize⟩ := staleIds_rely hr
      obtain ⟨-, rfl⟩ := ha
      obtain ⟨hstale', hsize'⟩ := @staleIds_afterCall targetAmi w₁ op r
      obtain ⟨ih, ihsize⟩ := ih
      refine ⟨?_, ihsize.trans (hsize'.trans hsize)⟩
      have hsplit : terminatedIds (⟨op, r⟩ :: tr) = (terminated? ⟨op, r⟩).toList ++ terminatedIds tr := by
        rw [terminatedIds, List.filterMap_cons]
        cases terminated? ⟨op, r⟩ <;> rfl
      rw [ih, hstale', hstale, hsplit, List.diff_append]

theorem renewed_exec (h : Exec (fleetWorld targetAmi setName) p fleet t q fleet') :
    fleet.Renewed targetAmi fleet' := by
  have hrely : ∀ {w w' : Fleet}, (fleetWorld targetAmi setName).rely w w' → w.Renewed targetAmi w' := by
    intro w w' hr
    induction hr with
    | refl => exact .refl
    | tail _ hstep ih => exact ih.trans (Fleet.renewed_replaces hstep)
  induction h with
  | rest hr => exact hrely hr
  | call hr ha _ ih =>
      obtain ⟨-, rfl⟩ := ha
      exact ((hrely hr).trans (Fleet.renewed_afterCall _)).trans ih

/-- As long as nothing is terminated, a whole fleet stays as it is. -/
theorem whole_exec (h : Exec (fleetWorld targetAmi setName) p fleet t q fleet')
    (hwhole : fleet.missing = []) (hp : p.Issues fun op => isTerminate op = false) :
    fleet' = fleet ∧ Runs (FleetReply targetAmi setName fleet) p t q := by
  induction h with
  | rest hr => exact ⟨Fleet.eq_of_whole hwhole hr, .rest rfl⟩
  | @call op next w w₁ r w₂ tr q w' hr ha _ ih =>
      obtain rfl := Fleet.eq_of_whole hwhole hr
      obtain ⟨hreply, rfl⟩ := ha
      have hsame : w₁.afterCall op = w₁ := by
        cases op with
        | terminate id => cases hp.1
        | _ => rfl
      rw [hsame] at ih
      obtain ⟨hw', hruns⟩ := ih hwhole (hp.2 r)
      exact ⟨hw', .call rfl hreply hruns⟩

end

end AutoRecycle.Mongo
