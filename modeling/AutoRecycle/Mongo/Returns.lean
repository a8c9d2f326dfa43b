/-
  AutoRecycle.Mongo.Returns

  An invocation of the recycler in a fleet comes to its end.

  `healthyWorld` is a fleet in which no call fails, except that a poll may have
  to try again as often as its limit allows.  The lemmas follow the parts of the
  recycler from the bottom up: whatever such a world answers, no part raises an
  exception.  As the world answers every call, an invocation that has come
  anywhere goes on to its end (`lambdaHandler_returns`).
-/
import AutoRecycle.Mongo.Branch
import AutoRecycle.Mongo.Invocation
import Mathlib.Data.Fintype.EquivFin

namespace AutoRecycle.Mongo

open AutoRecycle.Effect AutoRecycle.Py
open Relation (ReflTransGen)

-- ============================================================================
-- Replies of a healthy fleet
-- ============================================================================

/-- How many attempts of the poll in progress have failed, after such a line. -/
def failedAttempts? : LogLine → Option Nat
  | .waitingForStepDown => some 0
  | .waitingToTerminate _ => some 0
  | .waitForHealthy => some 0
  | .pollFailed i _ => some i
  | _ => none

def logLine? : Event Calls → Option LogLine
  | ⟨.log line, _⟩ => some line
  | _ => none

/-- How many attempts of the poll in progress have failed; none is in progress
    where there is no such number. -/
def failedAttempts (calls : Trace Calls) : Option Nat :=
  (Trace.last? logLine? calls).bind failedAttempts?

/-- The attempt is not the last one that the limit allows. -/
def MayFail (limit : Nat) (failed : Option Nat) : Prop := ∃ n, failed = some n ∧ n + 1 < limit

/-- The replies when no call fails, to an invocation that has made `calls`.  Inside
    a poll nothing is said before the last attempt. -/
def Succeeds (calls : Trace Calls) : (op : Op) → op.Reply → Prop
  | .describeLaunchTemplates _, r => ∃ launchTemplates, launchTemplates ≠ [] ∧ r = .ok launchTemplates
  | .describeInstances _, r => MayFail 60 (failedAttempts calls) ∨
      ∃ servers reservations, r = .ok reservations ∧ Lists servers reservations
  | .describeInstancesById _, r => MayFail 50 (failedAttempts calls) ∨
      ∃ inst : Ec2Instance, r = .ok [{ instances := [inst] }] ∧ inst.stateName = "terminated"
  | .terminate _, r => r = .ok ()
  | .putItem .., r => r = .ok ()
  | .connect _, r => MayFail 60 (failedAttempts calls) ∨ r = .ok ()
  | .replicaSetStatus _, r => MayFail 60 (failedAttempts calls) ∨ ∃ st, r = .ok st ∧ Good st.members
  | .replSetGetConfig _, r => ∃ config, r = .ok config
  | .replSetReconfig .., r => r = .ok ()
  | .replSetStepDown .., r => Obeyed r
  | _, _ => True

/-- A fleet in which no call fails, with the calls of the invocation in progress. -/
def healthyWorld (targetAmi setName : String) : Setting Calls (Fleet × Trace Calls) :=
  (fleetWorld targetAmi setName).recording.restrict fun x op r => Succeeds x.2 op r

section
variable {targetAmi setName : String}

/-- What is left when the replies and the record are forgotten. -/
theorem exec_of_healthy {α : Type} {p q : Py α} {x y : Fleet × Trace Calls} {t : Trace Calls}
    (h : Exec (healthyWorld targetAmi setName) p x t q y) :
    Exec (fleetWorld targetAmi setName) p x.1 t q y.1 ∧ y.2 = x.2 ++ t :=
  Exec.recording_iff.mp (h.of_narrows (Setting.restrict_narrows _ _))

/-- The listing of the servers. -/
def Server.listing (servers : List Server) : List Reservation :=
  [{ instances := servers.map fun server =>
      SteadySet.running server.instanceId server.imageId server.ipAddress }]

theorem describeMongodbInstances_listing (servers : List Server) :
    describeMongodbInstances (Server.listing servers) = servers.map fun server => .ok server.listed := by
  induction servers with
  | nil => rfl
  | cons server servers ih =>
      have hrunning : (SteadySet.running server.instanceId server.imageId server.ipAddress).stateName =
          "running" := rfl
      simp only [describeMongodbInstances, Server.listing, List.flatMap_cons, List.flatMap_nil,
        List.append_nil] at ih ⊢
      rw [List.map_cons, List.filter_cons, if_pos (decide_eq_true hrunning), List.map_cons, ih]
      rfl

theorem mapM_listed (servers : List Server) :
    (servers.map fun server => (.ok server.listed : Except PyExc MongoInstance)).mapM id =
      .ok (servers.map Server.listed) := by
  induction servers with
  | nil => rfl
  | cons server servers ih =>
      rw [List.map_cons, List.mapM_cons, ih]
      rfl

/-- The status of a replica set of one member, its primary. -/
def primaryStatus : ReplSetStatus :=
  { ok := 1, myState := some 1, set := "rs0", members := [SteadySet.member "10.0.0.1" "PRIMARY"] }

theorem good_primaryStatus : Good primaryStatus.members := by
  refine ⟨?_, ?_, ?_⟩ <;> simp [primaryStatus, SteadySet.member]

/-- What a server says of itself: an arbiter that it is one, a data member that
    it is SECONDARY. -/
def Server.status (setName : String) (server : Server) : ReplSetStatus :=
  { ok := 1, myState := some (if server.arbiter then 6 else 2), set := setName, members := [] }

theorem nodeDetails_status (server : Server) : nodeDetails (server.status setName) =
    .ok { nodeState := if server.arbiter then "ARBITER" else "SECONDARY", replicaSetName := setName } := by
  obtain ⟨instanceId, imageId, ipAddress, arbiter⟩ := server
  cases arbiter <;> rfl

theorem reports_status (server : Server) : Reports setName server (server.status setName) := by
  refine ⟨_, nodeDetails_status server, ?_⟩
  rw [Server.MayBe]
  split
  · rfl
  · exact .inr rfl

/-- Some node status is right for whichever member is at the address. -/
theorem exists_nodeStatus (fleet : Fleet) (ip : String) :
    ∃ st, ∀ server ∈ fleet.members, server.ipAddress = ip → Reports setName server st := by
  by_cases h : ∃ server ∈ fleet.members, server.ipAddress = ip
  · obtain ⟨server, hmem, rfl⟩ := h
    refine ⟨server.status setName, fun other hother hip => ?_⟩
    have hsame : other = server := List.inj_on_of_nodup_map fleet.ips_nodup hother hmem hip
    rw [hsame]
    exact reports_status server
  · exact ⟨primaryStatus, fun server hmem hip => absurd ⟨server, hmem, hip⟩ h⟩

/-- The world has an answer to every call. -/
theorem healthyWorld_receptive : (healthyWorld targetAmi setName).Receptive := by
  intro x op
  suffices h : ∃ r : op.Reply, FleetReply targetAmi setName x.1 op r ∧ Succeeds x.2 op r by
    obtain ⟨r, hreply, hsucceeds⟩ := h
    exact ⟨r, (x.1.afterCall op, x.2 ++ [⟨op, r⟩]), ⟨⟨hreply, rfl⟩, rfl⟩, hsucceeds⟩
  cases op with
  | now => exact ⟨(0 : Int), trivial, trivial⟩
  | time => exact ⟨(0 : Int), trivial, trivial⟩
  | sleep secs => exact ⟨(), trivial, trivial⟩
  | getenv name => exact ⟨none, trivial, trivial⟩
  | log line => exact ⟨(), trivial, trivial⟩
  | describeAutoScalingGroups => exact ⟨.ok [], trivial, trivial⟩
  | describeScalingActivities asgName => exact ⟨.ok [], trivial, trivial⟩
  | executePolicy asgName policyName => exact ⟨.ok (), trivial, trivial⟩
  | describeLaunchTemplates value =>
      exact ⟨.ok [{ launchTemplateId := "lt-1", latestVersionNumber := 1 }], trivial, _, by simp, rfl⟩
  | describeLaunchTemplateVersions launchTemplateId version =>
      exact ⟨.ok [{ imageId := some targetAmi }], ⟨_, _, rfl, rfl⟩, trivial⟩
  | describeInstances values =>
      have hlists : Lists x.1.members (Server.listing x.1.members) :=
        ⟨x.1.members, .refl _, describeMongodbInstances_listing _⟩
      exact ⟨.ok (Server.listing x.1.members), ⟨_, rfl, fun _ => hlists⟩, .inr ⟨_, _, rfl, hlists⟩⟩
  | describeInstancesById instanceId =>
      let gone : Ec2Instance :=
        { instanceId, imageId := "", stateName := "terminated", networkInterfaces := [] }
      exact ⟨.ok [{ instances := [gone] }], trivial, .inr ⟨gone, rfl, rfl⟩⟩
  | filterInstances instanceId => exact ⟨.ok [instanceId], rfl, trivial⟩
  | terminate instanceId => exact ⟨.ok (), trivial, rfl⟩
  | putItem name expiry => exact ⟨.ok (), trivial, rfl⟩
  | connect host => exact ⟨.ok (), trivial, .inr rfl⟩
  | nodeStatus ip =>
      obtain ⟨st, hst⟩ := @exists_nodeStatus setName x.1 ip
      exact ⟨.ok st, ⟨st, rfl, fun _ => hst⟩, trivial⟩
  | replicaSetStatus host => exact ⟨.ok primaryStatus, trivial, .inr ⟨_, rfl, good_primaryStatus⟩⟩
  | replSetGetConfig host =>
      exact ⟨.ok { version := 1, settings := { chainingAllowed := true, others := [] }, others := [] },
        trivial, _, rfl⟩
  | replSetReconfig host config => exact ⟨.ok (), trivial, rfl⟩
  | replSetStepDown ip secs => exact ⟨.ok (), trivial, .inl rfl⟩
  | invoke function input => exact ⟨.ok input, fun _ => rfl, trivial⟩

end

-- ============================================================================
-- Calls
-- ============================================================================

/-- Replacements do not change what is known of the fleet. -/
def Settled (targetAmi : String) (P : Fleet → Prop) : Prop :=
  ∀ fleet fleet', P fleet → ReflTransGen (Fleet.Replaces targetAmi) fleet fleet' → P fleet'

/-- What is known of the fleet, and how often the poll in progress has failed. -/
def Trying (P : Fleet → Prop) (failed : Option Nat) (x : Fleet × Trace Calls) : Prop :=
  P x.1 ∧ failedAttempts x.2 = failed

theorem settled_whole {targetAmi : String} {fleet : Fleet} (hwhole : fleet.missing = []) :
    Settled targetAmi (· = fleet) := by
  rintro _ fleet' rfl hr
  exact Fleet.eq_of_whole hwhole hr

theorem settled_true {targetAmi : String} : Settled targetAmi fun _ => True := fun _ _ _ _ => trivial

theorem failedAttempts_snoc_log (calls : Trace Calls) (line : LogLine) (r : Unit) :
    failedAttempts (calls ++ [⟨.log line, r⟩]) = failedAttempts? line := by
  rw [failedAttempts, Trace.last?_snoc]
  rfl

theorem failedAttempts_snoc (calls : Trace Calls) {op : Op} (h : ∀ line, op ≠ .log line) (r : op.Reply) :
    failedAttempts (calls ++ [⟨op, r⟩]) = failedAttempts calls := by
  have hnone : logLine? ⟨op, r⟩ = none := by
    cases op with
    | log line => exact absurd rfl (h line)
    | _ => rfl
  rw [failedAttempts, Trace.last?_snoc, hnone, Option.none_or, failedAttempts]

theorem not_mayFail_none (limit : Nat) : ¬ MayFail limit none := by
  rintro ⟨n, hn, -⟩
  cases hn

section
variable {α β : Type} {targetAmi setName component : String} {P : Fleet → Prop} {failed : Option Nat}
  {x y : Fleet × Trace Calls} {Q : α → Fleet × Trace Calls → Prop}
  {E : PyExc → Fleet × Trace Calls → Prop}

/-- In a healthy fleet `p` ends in `Q`, or with an exception in `E`. -/
abbrev finishes (targetAmi setName : String) (p : Py α) (Q : α → Fleet × Trace Calls → Prop)
    (E : PyExc → Fleet × Trace Calls → Prop) (x : Fleet × Trace Calls) : Prop :=
  p.wp (healthyWorld targetAmi setName) (fun _ _ => True) Q E x

/-- It ends in `Q`, and with no exception. -/
abbrev succeeds (targetAmi setName : String) (p : Py α) (Q : α → Fleet × Trace Calls → Prop)
    (x : Fleet × Trace Calls) : Prop :=
  finishes targetAmi setName p Q (fun _ _ => False) x

theorem Trying.rely (h : Trying P failed x) (hP : Settled targetAmi P)
    (hr : (healthyWorld targetAmi setName).rely x y) : Trying P failed y :=
  ⟨hP _ _ h.1 hr.1, by rw [hr.2]; exact h.2⟩

theorem finishes_ret (hP : Settled targetAmi P) (hx : Trying P failed x) {a : α}
    (h : ∀ y, Trying P failed y → Q a y) : finishes targetAmi setName (.ret a) Q E x :=
  fun y hr => h y (hx.rely hP hr)

theorem finishes_raise (hP : Settled targetAmi P) (hx : Trying P failed x) {r : Except PyExc α}
    (hok : ∀ a y, r = .ok a → Trying P failed y → Q a y)
    (herror : ∀ e y, r = .error e → Trying P failed y → E e y) :
    finishes targetAmi setName (raise r) Q E x :=
  wp_raise (fun a ha y hr => hok a y ha (hx.rely hP hr)) fun e he y hr => herror e y he (hx.rely hP hr)

/-- A log line may begin a poll, or end it. -/
theorem finishes_log (hP : Settled targetAmi P) (hx : Trying P failed x) (line : LogLine) :
    finishes targetAmi setName (log line) (fun _ => Trying P (failedAttempts? line)) E x := by
  intro y hr
  have hy := hx.rely hP hr
  refine ⟨trivial, fun r z ha => finishes_ret hP (x := z) ?_ fun _ hz => hz⟩
  obtain ⟨⟨⟨-, hfleet⟩, hcalls⟩, -⟩ := ha
  refine ⟨hfleet ▸ hy.1, ?_⟩
  rw [hcalls]
  exact failedAttempts_snoc_log y.2 line r

/-- Any other call leaves the fleet and the count as they are, unless it terminates. -/
theorem finishes_ask (hP : Settled targetAmi P) (hx : Trying P failed x) {op : Op}
    (hlog : ∀ line, op ≠ .log line) (hterminate : isTerminate op = false) {f : op.Reply → Py α}
    (h : ∀ r y, FleetReply targetAmi setName y.1 op r → Succeeds x.2 op r → Trying P failed y →
      finishes targetAmi setName (f r) Q E y) : finishes targetAmi setName (ask op >>= f) Q E x := by
  intro y hr
  have hy := hx.rely hP hr
  refine ⟨trivial, fun r z ha => ?_⟩
  obtain ⟨⟨⟨hreply, hfleet⟩, hcalls⟩, hsucceeds⟩ := ha
  have hsame : z.1 = y.1 := by
    rw [hfleet]
    cases op with
    | terminate id => cases hterminate
    | _ => rfl
  rw [hr.2] at hsucceeds
  refine h r z (hsame ▸ hreply) hsucceeds ⟨hsame ▸ hy.1, ?_⟩
  rw [hcalls, failedAttempts_snoc _ hlog]
  exact hy.2

/-- What raises only before the last attempt of a poll raises nothing outside of one. -/
theorem succeeds_of_finishes {p : Py α} {limit : Nat}
    (h : finishes targetAmi setName p Q (fun _ y => Trying P none y ∧ MayFail limit none) x) :
    succeeds targetAmi setName p Q x :=
  Prog.wp_mono (fun _ _ hq => hq) (fun _ _ hy => (not_mayFail_none limit hy.2).elim) h

-- ============================================================================
-- Polls
-- ============================================================================

theorem finishes_connect (hP : Settled targetAmi P) (hx : Trying P failed x) {host : String} :
    finishes targetAmi setName (connect host) (fun _ => Trying P failed)
      (fun _ y => Trying P failed y ∧ MayFail 60 failed) x := by
  refine finishes_ask hP hx (by simp) rfl fun r y _ hr hy => ?_
  refine finishes_raise hP hy (fun _ _ _ hz => hz) fun e z he hz => ⟨hz, ?_⟩
  rcases hr with hmay | hok
  · exact hx.2 ▸ hmay
  · rw [hok] at he
    cases he

theorem joinIpAddresses_listed (servers : List Server) :
    joinIpAddresses (servers.map fun server => .ok server.listed) =
      .ok (",".intercalate (servers.map Server.ipAddress)) := by
  rw [joinIpAddresses, mapM_listed, ok_bind, List.map_map]
  rfl

/-- The items of a listing: those of some servers, and of the members where the
    fleet is whole. -/
structure Listed (P : Fleet → Prop) (failed : Option Nat)
    (items : List (Except PyExc MongoInstance)) : Prop where
  servers : MayFail 60 failed ∨ ∃ servers : List Server, items = servers.map fun server => .ok server.listed
  members : ∃ fleet, P fleet ∧ (fleet.missing = [] → ∃ order, List.Perm order fleet.members ∧
    items = order.map fun server => .ok server.listed)

theorem Listed.join {items : List (Except PyExc MongoInstance)} (h : Listed P failed items) {e : PyExc}
    (he : joinIpAddresses items = .error e) : MayFail 60 failed := by
  rcases h.servers with hmay | ⟨servers, rfl⟩
  · exact hmay
  · rw [joinIpAddresses_listed] at he
    cases he

theorem finishes_getMongoDbInstances (hP : Settled targetAmi P) (hx : Trying P failed x) :
    finishes targetAmi setName (getMongoDbInstances component)
      (fun items y => Trying P failed y ∧ Listed P failed items) E x := by
  refine finishes_ask hP hx (by simp) rfl fun r y hreply hr hy => ?_
  obtain ⟨reservations, rfl, hmembers⟩ := hreply
  refine finishes_ret hP hy fun z hz => ⟨hz, ?_, y.1, hy.1, hmembers⟩
  rcases hr with hmay | ⟨servers, reservations', hok, order, -, horder⟩
  · exact .inl (hx.2 ▸ hmay)
  · cases hok
    exact .inr ⟨order, horder⟩

theorem finishes_assertHealthy (hP : Settled targetAmi P) (hx : Trying P failed x) :
    finishes targetAmi setName (assertHealthy component) (fun _ => Trying P failed)
      (fun _ y => Trying P failed y ∧ MayFail 60 failed) x := by
  refine Prog.wp_seq (finishes_getMongoDbInstances hP hx) fun items y ⟨hy, hlisted⟩ => ?_
  refine wp_raise_bind (fun host _ => ?_) fun e he z hr => ⟨hy.rely hP hr, hlisted.join he⟩
  have hstatus : finishes targetAmi setName (replicaSetStatus host)
      (fun st z => Trying P failed z ∧ (MayFail 60 failed ∨ Good st.members))
      (fun _ z => Trying P failed z ∧ MayFail 60 failed) y := by
    refine Prog.wp_seq (finishes_connect hP hy) fun _ z hz => ?_
    refine finishes_ask hP hz (by simp) rfl fun r w _ hr hw => ?_
    have hgood : MayFail 60 failed ∨ ∃ st, r = .ok st ∧ Good st.members := hz.2 ▸ hr
    refine finishes_raise hP hw (fun st v hst hv => ⟨hv, hgood.imp_right ?_⟩) fun e v he hv => ⟨hv, ?_⟩
    · rintro ⟨st', hst', hmembers⟩
      cases hst.symm.trans hst'
      exact hmembers
    · rcases hgood with hmay | ⟨st, hst, -⟩
      · exact hmay
      · cases he.symm.trans hst
  refine Prog.wp_seq hstatus fun st z ⟨hz, hgood⟩ => ?_
  refine finishes_raise hP hz (fun _ _ _ hw => hw) fun e w he hw => ⟨hw, ?_⟩
  rcases hgood with hmay | hmembers
  · exact hmay
  · rw [assertReplicaSetHealthy_eq_ok_iff_good.mpr hmembers] at he
    cases he

theorem finishes_isTerminated (hP : Settled targetAmi P) (hx : Trying P failed x) {id : String} :
    finishes targetAmi setName (isTerminated id) (fun _ => Trying P failed)
      (fun _ y => Trying P failed y ∧ MayFail 50 failed) x := by
  have hstate : finishes targetAmi setName (getInstanceState id)
      (fun state y => Trying P failed y ∧ (MayFail 50 failed ∨ state = "terminated"))
      (fun _ y => Trying P failed y ∧ MayFail 50 failed) x := by
    refine finishes_ask hP hx (by simp) rfl fun r y _ hr hy => ?_
    rcases hr with hmay | ⟨inst, rfl, hinst⟩
    · have hmay : MayFail 50 failed := hx.2 ▸ hmay
      refine wp_raise_bind (fun reservations _ => ?_) fun e _ z hr => ⟨hy.rely hP hr, hmay⟩
      exact finishes_raise hP hy (fun _ _ _ hz => ⟨hz, .inl hmay⟩) fun _ _ _ hz => ⟨hz, hmay⟩
    · exact finishes_ret hP hy fun z hz => ⟨hz, .inr hinst⟩
  refine Prog.wp_seq hstate fun state y ⟨hy, hstate⟩ => ?_
  refine finishes_raise hP hy (fun _ _ _ hz => hz) fun e z he hz => ⟨hz, ?_⟩
  rcases hstate with hmay | rfl
  · exact hmay
  · cases he

theorem finishes_pause (hP : Settled targetAmi P) (hx : Trying P failed x) (secs : Option Nat) :
    finishes targetAmi setName (pause secs) (fun _ => Trying P failed) E x := by
  cases secs with
  | none => exact finishes_ret hP hx fun _ hy => hy
  | some n =>
      rw [pause]
      split
      · exact finishes_ask hP hx (by simp) rfl fun r y _ _ hy => finishes_ret hP hy fun _ hz => hz
      · exact finishes_ret hP hx fun _ hy => hy

/-- A poll whose attempts fail only before the last one does not give up. -/
theorem succeeds_pollFrom (hP : Settled targetAmi P) {fn : Py Unit} {maxIters : Int} {secs : Option Nat}
    {limit : Nat} (hfn : ∀ n x, Trying P (some n) x → finishes targetAmi setName fn
      (fun _ => Trying P (some n)) (fun _ y => Trying P (some n) y ∧ MayFail limit (some n)) x)
    (left i : Nat) (hleft : limit ≤ i + 1 + left) {x : Fleet × Trace Calls}
    (hx : Trying P (some i) x) :
    succeeds targetAmi setName (pollFrom fn maxIters secs left (i + 1)) (fun _ => Trying P none) x := by
  induction left generalizing i x with
  | zero =>
      rw [pollFrom]
      refine (Prog.wp_bind _).mpr (Prog.wp_attempt.mpr ?_)
      refine Prog.wp_mono (fun _ y hy => finishes_log hP hy _) ?_ (hfn i x hx)
      -- the last attempt does not fail
      rintro e y ⟨-, n, hn, hlt⟩
      cases hn
      omega
  | succ left ih =>
      rw [pollFrom]
      refine (Prog.wp_bind _).mpr (Prog.wp_attempt.mpr ?_)
      refine Prog.wp_mono (fun _ y hy => finishes_log hP hy _) (fun e y hy => ?_) (hfn i x hx)
      refine Prog.wp_seq (finishes_log hP hy.1 (.pollFailed (i + 1) e)) fun _ z hz => ?_
      refine Prog.wp_seq (finishes_pause hP hz secs) fun _ w hw => ?_
      exact ih (i + 1) (by omega) hw

theorem succeeds_waitUntilClusterHealthy (hP : Settled targetAmi P) (hx : Trying P (some 0) x) :
    succeeds targetAmi setName (waitUntilClusterHealthy component) (fun _ => Trying P none) x :=
  succeeds_pollFrom hP (fun _ _ hx => finishes_assertHealthy hP hx) 59 0 (by omega) hx

theorem succeeds_poll_isTerminated (hP : Settled targetAmi P) (hx : Trying P (some 0) x) {id : String} :
    succeeds targetAmi setName (poll (isTerminated id) 50 (some 10)) (fun _ => Trying P none) x :=
  succeeds_pollFrom hP (fun _ _ hx => finishes_isTerminated hP hx) 49 0 (by omega) hx

-- ============================================================================
-- Execution
-- ============================================================================

theorem succeeds_connect (hP : Settled targetAmi P) (hx : Trying P none x) {host : String} :
    succeeds targetAmi setName (connect host) (fun _ => Trying P none) x :=
  succeeds_of_finishes (finishes_connect hP hx)

theorem succeeds_setChaining (hP : Settled targetAmi P) (hx : Trying P none x) {host : String} {b : Bool} :
    succeeds targetAmi setName (setChaining host b) (fun _ => Trying P none) x := by
  refine Prog.wp_seq (succeeds_connect hP hx) fun _ y hy => ?_
  refine finishes_ask hP hy (by simp) rfl fun r z _ hr hz => ?_
  obtain ⟨config, rfl⟩ := hr
  rw [raise_ok, Prog.ret_bind]
  split
  · exact Prog.wp_seq (finishes_log hP hz _) fun _ w hw => finishes_ret hP hw fun _ hv => hv
  · refine Prog.wp_seq (finishes_log hP hz _) fun _ w hw => ?_
    refine finishes_ask hP hw (by simp) rfl fun r v _ hr hv => ?_
    obtain rfl : r = .ok () := hr
    exact finishes_ret hP hv fun _ hu => hu

theorem succeeds_stepDownAndWait (hP : Settled targetAmi P) (hx : Trying P none x) {node : Instance} :
    succeeds targetAmi setName (stepDownAndWait component node) (fun _ => Trying P none) x := by
  refine Prog.wp_seq (finishes_log hP hx .steppingDown) fun _ y hy => ?_
  have hdown : succeeds targetAmi setName (stepDown node.ipAddress) (fun _ => Trying P none) y := by
    refine Prog.wp_seq (succeeds_connect hP hy) fun _ z hz => ?_
    refine finishes_ask hP hz (by simp) rfl fun r w _ hr hw => ?_
    exact finishes_raise hP hw (fun _ _ _ hv => hv) fun e v he _ =>
      by cases (steppedDown_eq_ok.mpr hr).symm.trans he
  refine Prog.wp_seq hdown fun _ z hz => ?_
  refine Prog.wp_seq (finishes_log hP hz .waitingForStepDown) fun _ w hw => ?_
  exact succeeds_waitUntilClusterHealthy hP hw

/-- Once the instance is terminated nothing is known of the fleet. -/
theorem succeeds_recycle (hP : Settled targetAmi P) (hx : Trying P none x) {node : Instance} :
    succeeds targetAmi setName (recycle component node) (fun _ _ => True) x := by
  rw [recycle_eq]
  have hfind : succeeds targetAmi setName (findNode node) (fun _ => Trying P none) x := by
    refine Prog.wp_seq (finishes_log hP hx .recyclingInstance) fun _ y hy => ?_
    refine finishes_ask hP hy (by simp) rfl fun r z hreply _ hz => ?_
    obtain rfl : r = .ok [node.instanceId] := hreply
    exact finishes_ret hP hz fun _ hw => hw
  refine Prog.wp_seq hfind fun id y hy y₁ hr => ⟨trivial, fun r z ha => ?_⟩
  have hy₁ : Trying P none y₁ := hy.rely hP hr
  have hz : Trying (fun _ => True) none z := by
    refine ⟨trivial, ?_⟩
    rw [ha.1.2, failedAttempts_snoc _ (by simp)]
    exact hy₁.2
  obtain rfl : r = .ok () := ha.2
  rw [afterTerminate, raise_ok, Prog.ret_bind]
  refine Prog.wp_seq (finishes_log settled_true hz (.waitingToTerminate id)) fun _ w hw => ?_
  refine Prog.wp_seq (succeeds_poll_isTerminated settled_true hw) fun _ v hv => ?_
  refine Prog.wp_seq (finishes_log settled_true hv .waitForHealthy) fun _ u hu => ?_
  exact Prog.wp_mono (fun _ _ _ => trivial) (fun _ _ h => h)
    (succeeds_waitUntilClusterHealthy settled_true hu)

/-- Any decision can be executed. -/
theorem succeeds_executeAction (hP : Settled targetAmi P) (hx : Trying P none x) {d : Decision} :
    succeeds targetAmi setName (executeAction component d) (fun _ _ => True) x := by
  refine Prog.wp_seq (finishes_getMongoDbInstances hP hx) fun items y ⟨hy, hlisted⟩ => ?_
  refine wp_raise_bind (fun conn _ => ?_) fun e he _ _ => not_mayFail_none 60 (hlisted.join he)
  have hset : ∀ b, succeeds targetAmi setName (setChaining conn b) (fun _ => Trying P none) y :=
    fun b => succeeds_setChaining hP hy
  cases d with
  | done => exact Prog.wp_seq (hset true) fun _ z hz => finishes_ret hP hz fun _ _ => trivial
  | recycleSecondary node => exact Prog.wp_seq (hset false) fun _ z hz => succeeds_recycle hP hz
  | stepDownAndRecyclePrimary node =>
      refine Prog.wp_seq (hset false) fun _ z hz => ?_
      exact Prog.wp_seq (succeeds_stepDownAndWait hP hz) fun _ w hw => succeeds_recycle hP hw

-- ============================================================================
-- Observation
-- ============================================================================

theorem mapM_sameImageId {templates : List LaunchTemplate} {versions : List LaunchTemplateVersion}
    (h : List.Forall₂ (fun _ version => version.imageId = some targetAmi) templates versions) :
    versions.mapM (fun version => getKey "ImageId" version.imageId) =
      .ok (versions.map fun _ => targetAmi) := by
  induction h with
  | nil => rfl
  | cons hversion _ ih =>
      rw [List.mapM_cons, hversion, ih]
      rfl

/-- The launch templates, of which there are some, name one AMI. -/
theorem succeeds_getLaunchTemplateImageIds (hP : Settled targetAmi P) (hx : Trying P none x) :
    succeeds targetAmi setName (getLaunchTemplateImageIds component)
      (fun imageIds y => (imageIds ≠ [] ∧ ∀ imageId ∈ imageIds, imageId = targetAmi) ∧ Trying P none y)
      x := by
  refine finishes_ask hP hx (by simp) rfl fun r y _ hr hy => ?_
  obtain ⟨launchTemplates, hne, rfl⟩ := hr
  rw [raise_ok, Prog.ret_bind]
  refine Prog.wp_seq (Prog.wp_forEach (I := Trying P none)
    (R := fun _ version => version.imageId = some targetAmi) (fun hw hr => hw.rely hP hr) ?_ hy) ?_
  · intro launchTemplate _ w hw
    refine finishes_ask hP hw (by simp) rfl fun r v hreply _ hv => ?_
    obtain ⟨version, rest, rfl, himage⟩ := hreply
    exact finishes_ret hP hv fun _ hu => ⟨himage, hu⟩
  · rintro versions z ⟨hall, hz⟩
    rw [mapM_sameImageId hall]
    refine finishes_ret hP hz fun _ hw => ⟨⟨?_, by simp⟩, hw⟩
    intro hnil
    rw [List.map_eq_nil_iff] at hnil
    subst hnil
    cases hall
    exact hne rfl

theorem succeeds_getAmiAndCheckAllAmisMatch (hP : Settled targetAmi P) (hx : Trying P none x) :
    succeeds targetAmi setName (getAmiAndCheckAllAmisMatch component) (fun _ => Trying P none) x := by
  refine Prog.wp_seq (succeeds_getLaunchTemplateImageIds hP hx) fun imageIds y ⟨hids, hy⟩ => ?_
  rw [assertAmisMatchAndGetAmi_eq_ok.mpr hids]
  exact finishes_ret hP hy fun _ hz => hz

/-- A member of the fleet reports the set that all are in. -/
theorem succeeds_fetchInstance {fleet : Fleet} (hwhole : fleet.missing = []) {server : Server}
    (hmem : server ∈ fleet.members) (hx : Trying (· = fleet) none x) :
    succeeds targetAmi setName (fetchInstance (.ok server.listed))
      (fun node y => node.replicaSetName = setName ∧ Trying (· = fleet) none y) x := by
  have hP : Settled targetAmi (· = fleet) := settled_whole hwhole
  rw [fetchInstance, raise_ok, Prog.ret_bind, getNodeDetails, bind_assoc]
  refine Prog.wp_seq (succeeds_connect hP hx) fun _ y hy => ?_
  rw [bind_assoc]
  refine finishes_ask hP hy (by simp) rfl fun r z hreply _ hz => ?_
  obtain ⟨st, rfl, hreports⟩ := hreply
  rw [hz.1] at hreports
  obtain ⟨state, hdetails, -⟩ := hreports hwhole server hmem rfl
  rw [raise_ok, Prog.ret_bind, hdetails]
  exact finishes_ret hP hz fun _ hw => ⟨rfl, hw⟩

theorem assertAllNodesInSameReplicaSet_eq_ok {nodes : List Instance} (hne : nodes ≠ [])
    (h : ∀ node ∈ nodes, node.replicaSetName = setName) :
    assertAllNodesInSameReplicaSet nodes = .ok () := by
  have hnames : nodes.map Instance.replicaSetName = List.replicate nodes.length setName :=
    List.eq_replicate_iff.mpr ⟨List.length_map _, fun name hname => by
      obtain ⟨node, hnode, rfl⟩ := List.mem_map.mp hname
      exact h node hnode⟩
  have hlen : nodes.length ≠ 0 := fun hnil => hne (List.length_eq_zero_iff.mp hnil)
  rw [assertAllNodesInSameReplicaSet, hnames, List.replicate_dedup hlen, if_neg (by simp)]

theorem succeeds_observe {fleet : Fleet} (hwhole : fleet.missing = []) (hmembers : fleet.members ≠ [])
    (hx : Trying (· = fleet) none x) :
    succeeds targetAmi setName (observe component) (fun _ => Trying (· = fleet) none) x := by
  have hP : Settled targetAmi (· = fleet) := settled_whole hwhole
  refine Prog.wp_seq (succeeds_getAmiAndCheckAllAmisMatch hP hx) fun ami y hy => ?_
  have hfetch : succeeds targetAmi setName (fetchReplicaSetStatus component)
      (fun nodes z => (nodes ≠ [] ∧ ∀ node ∈ nodes, node.replicaSetName = setName) ∧
        Trying (· = fleet) none z) y := by
    refine Prog.wp_seq (finishes_getMongoDbInstances hP hy) fun items z ⟨hz, hlisted⟩ => ?_
    obtain ⟨listed, hsame, hlists⟩ := hlisted.members
    rw [hsame] at hlists
    obtain ⟨order, hperm, rfl⟩ := hlists hwhole
    rw [Prog.forEach_map]
    refine Prog.wp_mono ?_ (fun _ _ h => h) (Prog.wp_forEach (I := Trying (· = fleet) none)
      (R := fun _ node => node.replicaSetName = setName) (fun hw hr => hw.rely hP hr)
      (fun server hserver w hw => succeeds_fetchInstance hwhole (hperm.mem_iff.mp hserver) hw) hz)
    rintro nodes w ⟨hall, hw⟩
    refine ⟨⟨?_, fun node hnode => ?_⟩, hw⟩
    · rintro rfl
      cases hall
      exact hmembers (List.nil_perm.mp hperm)
    · obtain ⟨server, -, hname⟩ := exists_of_forall₂ hall.flip hnode
      exact hname
  refine Prog.wp_seq hfetch fun nodes z ⟨⟨hne, hnames⟩, hz⟩ => ?_
  rw [assertAllNodesInSameReplicaSet_eq_ok hne hnames, raise_ok, Prog.ret_bind]
  exact Prog.wp_seq (finishes_log hP hz _) fun _ w hw => finishes_ret hP hw fun _ hv => hv

-- ============================================================================
-- The invocation
-- ============================================================================

theorem succeeds_step {fleet : Fleet} (hwhole : fleet.missing = []) (hmembers : fleet.members ≠ [])
    (hx : Trying (· = fleet) none x) :
    succeeds targetAmi setName (step component) (fun _ _ => True) x := by
  have hP : Settled targetAmi (· = fleet) := settled_whole hwhole
  refine Prog.wp_seq (succeeds_observe hwhole hmembers hx) fun ⟨ami, nodes⟩ y hy => ?_
  refine Prog.wp_seq (finishes_log hP hy (.outcome (decideOnAction nodes ami))) fun _ z hz => ?_
  exact Prog.wp_seq (succeeds_executeAction hP hz) fun _ _ _ _ _ => trivial

theorem succeeds_recordRecycleStarting (hP : Settled targetAmi P) (hx : Trying P none x)
    {name : Asl.Json} :
    succeeds targetAmi setName (recordRecycleStarting name) (fun _ => Trying P none) x := by
  refine Prog.wp_seq (finishes_log hP hx .recordingStart) fun _ y hy => ?_
  refine finishes_ask hP hy (by simp) rfl fun now z _ _ hz => ?_
  refine finishes_ask hP hz (by simp) rfl fun r w _ hr hw => ?_
  obtain rfl : r = .ok () := hr
  exact finishes_ret hP hw fun _ hv => hv

theorem succeeds_lambdaHandler {event : Asl.Json} {k : Nat} (hevent : InLoop component k event)
    {fleet : Fleet} (hwhole : fleet.missing = []) (hmembers : fleet.members ≠ []) :
    succeeds targetAmi setName (lambdaHandler event) (fun _ _ => True) (fleet, []) := by
  have hstart : Trying (· = fleet) none (fleet, []) := ⟨rfl, rfl⟩
  have hstep : ∀ y, Trying (· = fleet) none y →
      succeeds targetAmi setName (takeStep event (.str component)) (fun _ _ => True) y := by
    intro y hy
    have hbody : succeeds targetAmi setName
        (step component >>= fun d => raise (finishEvent event d)) (fun _ _ => True) y := by
      refine Prog.wp_seq (succeeds_step hwhole hmembers hy) fun d z _ => ?_
      obtain ⟨out, hout, -⟩ := hevent.finishEvent_ok d
      rw [hout]
      exact fun _ _ => trivial
    exact hbody
  rw [lambdaHandler_eq, hevent.getItem_component, raise_ok, Prog.ret_bind]
  split
  · exact Prog.wp_seq (succeeds_recordRecycleStarting (settled_whole hwhole) hstart) fun _ y hy => hstep y hy
  · exact hstep _ hstart

/-- A Slack message is sent. -/
theorem succeeds_slackNotifications (input : Asl.Json) (x : Fleet × Trace Calls) :
    succeeds targetAmi setName (lambda .slackNotifications input) (fun _ _ => True) x := by
  intro y hr
  refine ⟨trivial, fun r z ha => ?_⟩
  obtain rfl : r = .ok input := ha.1.1.1 rfl
  exact fun _ _ => trivial

/-- Whatever is missing can be replaced. -/
theorem Fleet.exists_whole (fleet : Fleet) :
    ∃ whole : Fleet, ReflTransGen (Fleet.Replaces targetAmi) fleet whole ∧ whole.missing = [] := by
  generalize hmissing : fleet.missing = missing
  induction missing generalizing fleet with
  | nil => exact ⟨fleet, .refl, hmissing⟩
  | cons old rest ih =>
      obtain ⟨freshId, hid⟩ := Infinite.exists_notMem_finset fleet.used.toFinset
      obtain ⟨freshIp, hip⟩ := Infinite.exists_notMem_finset (fleet.members.map Server.ipAddress).toFinset
      rw [List.mem_toFinset] at hid hip
      let fresh : Server := ⟨freshId, targetAmi, freshIp, old.arbiter⟩
      let next : Fleet := {
        members := fresh :: fleet.members
        missing := rest
        used := freshId :: fleet.used
        ids_used := by
          rintro server (_ | ⟨_, hserver⟩)
          · exact List.mem_cons_self
          · exact List.mem_cons_of_mem _ (fleet.ids_used server hserver)
        ids_nodup := by
          refine List.nodup_cons.mpr ⟨fun hmem => ?_, fleet.ids_nodup⟩
          obtain ⟨server, hserver, heq⟩ := List.mem_map.mp hmem
          have hused := fleet.ids_used server hserver
          rw [heq] at hused
          exact hid hused
        ips_nodup := List.nodup_cons.mpr ⟨hip, fleet.ips_nodup⟩ }
      have hnext : fleet.Replaces targetAmi next :=
        ⟨[], old, rest, fresh, hmissing, hid, rfl, rfl, rfl, rfl, rfl⟩
      obtain ⟨whole, hwhole, hnone⟩ := ih next rfl
      exact ⟨whole, .head hnext hwhole, hnone⟩

/-- What has come to a value can wait until all that is missing is replaced. -/
theorem exists_ret_whole {p : Py α} {x : Fleet × Trace Calls} (h : ∃ t a y,
      Exec (healthyWorld targetAmi setName) p x t (.ret a) y) :
    ∃ t a y, Exec (healthyWorld targetAmi setName) p x t (.ret a) y ∧ y.1.missing = [] := by
  obtain ⟨t, a, y, hx⟩ := h
  obtain ⟨whole, hwhole, hnone⟩ := @Fleet.exists_whole targetAmi y.1
  have hrest : Exec (healthyWorld targetAmi setName) (.ret a : Py α) y [] (.ret a) (whole, y.2) :=
    .rest ⟨hwhole, rfl⟩
  exact ⟨t ++ [], a, (whole, y.2), hx.trans hrest, hnone⟩

/-- An invocation of the recycler in a whole fleet does not raise, and from wherever
    it has come it goes on to a return, with nothing missing. -/
theorem lambdaHandler_returns {event : Asl.Json} {k : Nat} (hevent : InLoop component k event)
    {fleet : Fleet} (hwhole : fleet.missing = []) (hmembers : fleet.members ≠ []) {t : Trace Calls}
    {q : Py Asl.Json} {y : Fleet × Trace Calls}
    (h : Exec (healthyWorld targetAmi setName) (lambdaHandler event) (fleet, []) t q y) :
    (∀ e, q ≠ .throw e) ∧ ∃ t' out y', Exec (healthyWorld targetAmi setName) q y t' (.ret out) y' ∧
      y'.1.missing = [] := by
  obtain ⟨hnot, t', out, y', hx, -⟩ :=
    h.exists_ret healthyWorld_receptive (succeeds_lambdaHandler hevent hwhole hmembers)
  exact ⟨hnot, exists_ret_whole ⟨t', out, y', hx⟩⟩

end

end AutoRecycle.Mongo
