/-
  AutoRecycle.Mongo.Runs

  What the runs of the recycler's parts look like: the calls that each part can
  issue, the finished runs of `poll`, and the runs of `execute_action` that have
  come to `terminate`.
-/
import AutoRecycle.Mongo.Process
import AutoRecycle.Runs

namespace AutoRecycle.Mongo

open AutoRecycle.Effect AutoRecycle.Py

-- ============================================================================
-- Polls
-- ============================================================================

section
variable {P : Op → Prop} {fn : Py Unit} {maxIters : Int} {secs : Option Nat}

theorem issues_pause (hsleep : ∀ n, P (.sleep n)) : (pause secs).Issues P := by
  cases secs with
  | none => trivial
  | some n =>
      rw [pause]
      split
      · exact ⟨hsleep n, fun _ => trivial⟩
      · trivial

theorem issues_pollFrom (hfn : fn.Issues P)
    (hlog : ∀ line : LogLine, line.isOutcome = false → P (.log line))
    (hsleep : ∀ n, P (.sleep n)) (left i : Nat) : (pollFrom fn maxIters secs left i).Issues P := by
  induction left generalizing i with
  | zero =>
      rw [pollFrom]
      refine hfn.attempt.bind fun x => ?_
      cases x with
      | ok u => exact (issues_log _).mpr (hlog _ rfl)
      | error e =>
          exact (issues_log_bind _ _).mpr
            ⟨hlog _ rfl, (issues_log_bind _ _).mpr ⟨hlog _ rfl, issues_raise _⟩⟩
  | succ left ih =>
      rw [pollFrom]
      refine hfn.attempt.bind fun x => ?_
      cases x with
      | ok u => exact (issues_log _).mpr (hlog _ rfl)
      | error e =>
          exact (issues_log_bind _ _).mpr
            ⟨hlog _ rfl, (issues_pause hsleep).bind fun _ => ih (i + 1)⟩

theorem issues_poll (hfn : fn.Issues P)
    (hlog : ∀ line : LogLine, line.isOutcome = false → P (.log line))
    (hsleep : ∀ n, P (.sleep n)) : (poll fn maxIters secs).Issues P :=
  issues_pollFrom hfn hlog hsleep _ _

variable {legal : (op : Op) → op.Reply → Prop}

theorem pause_run {G : Event Calls → Prop} (hsleep : ∀ n, G ⟨.sleep n, ()⟩) {t : Trace Calls}
    {u : Unit} (h : Runs legal (pause secs) t (.ret u)) : ∀ ev ∈ t, G ev := by
  cases secs with
  | none =>
      obtain ⟨rfl, -⟩ := Exec.ret_inv h
      simp
  | some n =>
      rw [pause] at h
      split at h
      · obtain ⟨r, t', _, _, rfl, -, -, h'⟩ := Exec.call_ret_inv h
        obtain ⟨rfl, -⟩ := Exec.ret_inv h'
        exact List.forall_mem_singleton.mpr (hsleep n)
      · obtain ⟨rfl, -⟩ := Exec.ret_inv h
        simp

/-- A poll that returns ends with a run of `fn` that returns; what came before
    it are failed runs of `fn`, reports of them, and pauses. -/
theorem pollFrom_ret {G : Event Calls → Prop} (hlog : ∀ i e, G ⟨.log (.pollFailed i e), ()⟩)
    (hsleep : ∀ n, G ⟨.sleep n, ()⟩)
    (hfail : ∀ t e, Runs legal fn t (.throw e) → ∀ ev ∈ t, G ev) {t : Trace Calls}
    {left i : Nat} (h : Runs legal (pollFrom fn maxIters secs left i) t (.ret ())) :
    ∃ t₀ t₁, t = t₀ ++ t₁ ++ [⟨.log .pollingSucceeded, ()⟩] ∧ (∀ ev ∈ t₀, G ev) ∧
      Runs legal fn t₁ (.ret ()) := by
  induction left generalizing i t with
  | zero =>
      rw [pollFrom] at h
      obtain ⟨x, t₁, t₂, ⟨⟩, rfl, h₁, h₂⟩ := Exec.bind_ret_inv h
      have hfn := Exec.attempt_ret_inv h₁
      cases x with
      | ok u =>
          obtain rfl := log_ret_inv h₂
          exact ⟨[], t₁, rfl, by simp, hfn⟩
      | error e =>
          obtain ⟨t₃, rfl, h₃⟩ := log_bind_ret_inv h₂
          obtain ⟨t₄, rfl, h₄⟩ := log_bind_ret_inv h₃
          cases (raise_inv h₄).2
  | succ left ih =>
      rw [pollFrom] at h
      obtain ⟨x, t₁, t₂, ⟨⟩, rfl, h₁, h₂⟩ := Exec.bind_ret_inv h
      have hfn := Exec.attempt_ret_inv h₁
      cases x with
      | ok u =>
          obtain rfl := log_ret_inv h₂
          exact ⟨[], t₁, rfl, by simp, hfn⟩
      | error e =>
          obtain ⟨t₃, rfl, h₃⟩ := log_bind_ret_inv h₂
          obtain ⟨u, t₄, t₅, ⟨⟩, rfl, h₄, h₅⟩ := Exec.bind_ret_inv h₃
          obtain ⟨t₀, t₆, rfl, hG, hret⟩ := ih h₅
          refine ⟨t₁ ++ ⟨.log (.pollFailed i e), ()⟩ :: t₄ ++ t₀, t₆, by simp, ?_, hret⟩
          simp only [List.mem_append, List.mem_cons]
          rintro ev ((hev | rfl | hev) | hev)
          · exact hfail t₁ e hfn ev hev
          · exact hlog i e
          · exact pause_run hsleep h₄ ev hev
          · exact hG ev hev

end

section
variable {W : Type} {K : Setting Calls W} {ok : W → Op → Prop} {I J : W → Prop} {fn : Py Unit}
  {maxIters : Int} {secs : Option Nat}

/-- `I` is kept until a run of `fn` returns, in `J`. -/
theorem wp_pollFrom (hrely : ∀ {w w'}, I w → K.rely w w' → I w')
    (hfn : ∀ {w}, I w → fn.wp K ok (fun _ => J) (fun _ => I) w)
    (hlog : ∀ {w} line, I w → (log line).wp K ok (fun _ => I) (fun _ => I) w)
    (hsucceeded : ∀ {w}, J w → (log .pollingSucceeded).wp K ok (fun _ => J) (fun _ => I) w)
    (hpause : ∀ {w}, I w → (pause secs).wp K ok (fun _ => I) (fun _ => I) w) (left i : Nat) {w : W}
    (h : I w) : (pollFrom fn maxIters secs left i).wp K ok (fun _ => J) (fun _ => I) w := by
  induction left generalizing i w with
  | zero =>
      rw [pollFrom, Prog.wp_bind, Prog.wp_attempt]
      refine Prog.wp_mono (fun _ w hw => hsucceeded hw) (fun e w hw => ?_) (hfn h)
      rw [Prog.wp_bind]
      refine Prog.wp_mono (fun _ w hw => ?_) (fun _ _ h => h) (hlog _ hw)
      rw [Prog.wp_bind]
      exact Prog.wp_mono (fun _ w hw _ hr => hrely hw hr) (fun _ _ h => h) (hlog _ hw)
  | succ left ih =>
      rw [pollFrom, Prog.wp_bind, Prog.wp_attempt]
      refine Prog.wp_mono (fun _ w hw => hsucceeded hw) (fun e w hw => ?_) (hfn h)
      rw [Prog.wp_bind]
      refine Prog.wp_mono (fun _ w hw => ?_) (fun _ _ h => h) (hlog _ hw)
      rw [Prog.wp_bind]
      exact Prog.wp_mono (fun _ w hw => ih (i + 1) hw) (fun _ _ h => h) (hpause hw)

end

-- ============================================================================
-- The calls of each part
-- ============================================================================

section
variable {P : Op → Prop}

theorem issues_connect {connectionString : String} (h : P (.connect connectionString)) :
    (connect connectionString).Issues P :=
  ⟨h, fun r => issues_raise r⟩

theorem issues_getMongoDbInstances {component : String} (h : ∀ values, P (.describeInstances values)) :
    (getMongoDbInstances component).Issues P :=
  ⟨h _, fun r => (issues_raise_bind r _).mpr fun _ _ => trivial⟩

theorem issues_replicaSetStatus {connectionString : String} (hconnect : P (.connect connectionString))
    (h : P (.replicaSetStatus connectionString)) :
    (replicaSetStatus connectionString).Issues P :=
  (issues_connect hconnect).bind fun _ => ⟨h, fun r => issues_raise r⟩

theorem issues_setChaining {connectionString : String} {b : Bool}
    (hconnect : P (.connect connectionString)) (hget : P (.replSetGetConfig connectionString))
    (hset : ∀ config : ReplSetConfig, config.settings.chainingAllowed = b →
      P (.replSetReconfig connectionString config))
    (hlog : ∀ line : LogLine, line.isOutcome = false → P (.log line)) :
    (setChaining connectionString b).Issues P := by
  refine (issues_connect hconnect).bind fun _ => ⟨hget, fun r => ?_⟩
  refine (issues_raise_bind r _).mpr fun config _ => ?_
  split
  · exact (issues_log_bind _ _).mpr ⟨hlog _ rfl, trivial⟩
  · exact (issues_log_bind _ _).mpr
      ⟨hlog _ rfl, hset _ rfl, fun r => (issues_raise_bind r _).mpr fun _ _ => trivial⟩

theorem issues_recordRecycleStarting {component : Asl.Json} (htime : P .time)
    (hput : ∀ c e, P (.putItem c e))
    (hlog : ∀ line : LogLine, line.isOutcome = false → P (.log line)) :
    (recordRecycleStarting component).Issues P := by
  refine (issues_log_bind _ _).mpr ⟨hlog _ rfl, htime, fun now => ⟨hput _ _, fun r => ?_⟩⟩
  cases r with
  | ok u => trivial
  | error e => exact (issues_log_bind _ _).mpr ⟨hlog _ rfl, issues_raise _⟩

theorem issues_stepDown {ipAddress : String} (hconnect : P (.connect ipAddress))
    (h : P (.replSetStepDown ipAddress 100)) : (stepDown ipAddress).Issues P :=
  (issues_connect hconnect).bind fun _ => ⟨h, fun r => issues_raise (steppedDown r)⟩

theorem issues_assertHealthy {component : String}
    (hdescribe : ∀ values, P (.describeInstances values)) (hconnect : ∀ host, P (.connect host))
    (hstatus : ∀ host, P (.replicaSetStatus host)) : (assertHealthy component).Issues P :=
  (issues_getMongoDbInstances hdescribe).bind fun _ => (issues_raise_bind _ _).mpr fun host _ =>
    (issues_replicaSetStatus (hconnect host) (hstatus host)).bind fun _ => issues_raise _

theorem issues_waitUntilClusterHealthy {component : String}
    (hdescribe : ∀ values, P (.describeInstances values)) (hconnect : ∀ host, P (.connect host))
    (hstatus : ∀ host, P (.replicaSetStatus host))
    (hlog : ∀ line : LogLine, line.isOutcome = false → P (.log line))
    (hsleep : ∀ n, P (.sleep n)) : (waitUntilClusterHealthy component).Issues P :=
  issues_poll (issues_assertHealthy hdescribe hconnect hstatus) hlog hsleep

end

-- ============================================================================
-- Healthy replica sets
-- ============================================================================

theorem assertAllNodesHealthy_eq_ok {members : List Member} :
    assertAllNodesHealthy members = .ok () ↔
      ∀ member ∈ members, member.stateStr ∈ healthyStates ∧
        ¬(member.stateStr = "SECONDARY" ∧ member.syncSourceHost = some "") := by
  induction members with
  | nil => simp [assertAllNodesHealthy]
  | cons member members ih =>
      rw [assertAllNodesHealthy, List.forall_mem_cons, ← ih]
      by_cases hstate : member.stateStr ∈ healthyStates
      · rw [if_neg (by simpa using hstate)]
        by_cases hsource : member.stateStr = "SECONDARY" ∧ member.syncSourceHost = some ""
        · rw [if_pos hsource]
          exact iff_of_false (by simp) fun h => h.1.2 hsource
        · rw [if_neg hsource]
          exact ⟨fun h => ⟨⟨hstate, hsource⟩, h⟩, fun h => h.2⟩
      · rw [if_pos (by simpa using hstate)]
        exact iff_of_false (by simp) fun h => hstate h.1.1

theorem assertOnePrimaryNode_eq_ok {members : List Member} :
    assertOnePrimaryNode members = .ok () ↔
      members.countP (fun member => member.stateStr = "PRIMARY") = 1 := by
  rw [assertOnePrimaryNode, List.countP_eq_length_filter]
  split
  · exact iff_of_false (by simp) ‹_›
  · exact iff_of_true rfl (not_not.mp ‹_›)

theorem assertReplicaSetHealthy_eq_ok {st : ReplSetStatus} :
    assertReplicaSetHealthy st = .ok () ↔
      assertAllNodesHealthy st.members = .ok () ∧ assertOnePrimaryNode st.members = .ok () := by
  rw [assertReplicaSetHealthy, bind_eq_ok]
  exact ⟨fun ⟨_, hnodes, hone⟩ => ⟨hnodes, hone⟩, fun ⟨hnodes, hone⟩ => ⟨(), hnodes, hone⟩⟩

/-- The members of a replica set that needs no more waiting. -/
structure Good (members : List Member) : Prop where
  states : ∀ member ∈ members, member.stateStr = "PRIMARY" ∨ member.stateStr = "SECONDARY" ∨
    member.stateStr = "ARBITER"
  onePrimary : members.countP (fun member => member.stateStr = "PRIMARY") = 1
  synced : ∀ member ∈ members, member.stateStr = "SECONDARY" → member.syncSourceHost ≠ some ""

theorem assertReplicaSetHealthy_eq_ok_iff_good {st : ReplSetStatus} :
    assertReplicaSetHealthy st = .ok () ↔ Good st.members := by
  rw [assertReplicaSetHealthy_eq_ok, assertAllNodesHealthy_eq_ok, assertOnePrimaryNode_eq_ok]
  constructor
  · rintro ⟨hnodes, hone⟩
    refine ⟨fun member hmember => ?_, hone, fun member hmember hstate hsource => ?_⟩
    · simpa [healthyStates] using (hnodes member hmember).1
    · exact (hnodes member hmember).2 ⟨hstate, hsource⟩
  · rintro ⟨hstates, hone, hsynced⟩
    refine ⟨fun member hmember => ⟨?_, fun h => hsynced member hmember h.1 h.2⟩, hone⟩
    simpa [healthyStates] using hstates member hmember

-- ============================================================================
-- The runs that return
-- ============================================================================

section
variable {legal : (op : Op) → op.Reply → Prop} {t : Trace Calls}

theorem connect_ret {connectionString : String} {u : Unit}
    (h : Runs legal (connect connectionString) t (.ret u)) :
    t = [⟨.connect connectionString, .ok ()⟩] := by
  obtain ⟨r, rfl, rfl⟩ := ask_raise_ret_inv (.connect connectionString) id h
  rfl

theorem getMongoDbInstances_ret {component : String}
    {items : List (Except PyExc MongoInstance)}
    (h : Runs legal (getMongoDbInstances component) t (.ret items)) :
    ∃ reservations, t = [⟨.describeInstances (createInstanceNameFilters component), .ok reservations⟩] ∧
      items = describeMongodbInstances reservations := by
  obtain ⟨r, t₁, _, _, rfl, -, -, h₁⟩ := Exec.call_ret_inv h
  obtain ⟨reservations, hr, h₂⟩ := raise_bind_inv h₁
  obtain ⟨rfl, hitems⟩ := Exec.ret_inv h₂
  cases hitems
  refine ⟨reservations, ?_, rfl⟩
  rw [hr]

theorem replicaSetStatus_ret {host : String} {st : ReplSetStatus}
    (h : Runs legal (replicaSetStatus host) t (.ret st)) :
    t = [⟨.connect host, .ok ()⟩, ⟨.replicaSetStatus host, .ok st⟩] := by
  obtain ⟨u, t₁, t₂, ⟨⟩, rfl, h₁, h₂⟩ := Exec.bind_ret_inv h
  obtain rfl := connect_ret h₁
  obtain ⟨r, rfl, rfl⟩ := ask_raise_ret_inv (.replicaSetStatus host) id h₂
  rfl

/-- The status that an event reads, if it is one of a healthy replica set. -/
def healthyStatus? : Event Calls → Option ReplSetStatus
  | ⟨.replicaSetStatus _, .ok st⟩ =>
      match assertReplicaSetHealthy st with
      | .ok () => some st
      | .error _ => none
  | _ => none

theorem healthyStatus?_eq_none {op : Op} (h : ∀ host, op ≠ .replicaSetStatus host) (r : op.Reply) :
    healthyStatus? ⟨op, r⟩ = none := by
  cases op with
  | replicaSetStatus host => exact absurd rfl (h host)
  | _ => rfl

/-- A part that reads no status shows no healthy one. -/
theorem no_healthyStatus {α : Type} {p q : Py α} (h : Runs legal p t q)
    (hp : p.Issues fun op : Op => ∀ host, op ≠ .replicaSetStatus host) :
    ∀ ev ∈ t, healthyStatus? ev = none :=
  fun ev hev => healthyStatus?_eq_none ((h.issues hp).1 ev hev) ev.2

/-- The calls of a health check that passes: the hosts are listed, and their
    status is that of a good member list. -/
def SeesHealthy (component : String) (t : Trace Calls) : Prop :=
  ∃ reservations host st,
    t = [⟨.describeInstances (createInstanceNameFilters component), .ok reservations⟩,
      ⟨.connect host, .ok ()⟩, ⟨.replicaSetStatus host, .ok st⟩] ∧
    joinIpAddresses (describeMongodbInstances reservations) = .ok host ∧ Good st.members

theorem assertHealthy_ret {component : String}
    (h : Runs legal (assertHealthy component) t (.ret ())) : SeesHealthy component t := by
  obtain ⟨items, t₁, t₂, ⟨⟩, rfl, h₁, h₂⟩ := Exec.bind_ret_inv h
  obtain ⟨reservations, rfl, rfl⟩ := getMongoDbInstances_ret h₁
  obtain ⟨host, hhost, h₃⟩ := raise_bind_inv h₂
  obtain ⟨st, t₃, t₄, ⟨⟩, rfl, h₄, h₅⟩ := Exec.bind_ret_inv h₃
  obtain rfl := replicaSetStatus_ret h₄
  obtain ⟨rfl, hst⟩ := raise_ret_inv h₅
  exact ⟨reservations, host, st, rfl, hhost, assertReplicaSetHealthy_eq_ok_iff_good.mp hst⟩

/-- Its last call is the one that reads a healthy status. -/
theorem SeesHealthy.status {component : String} (h : SeesHealthy component t) :
    ∃ t₀ host st, t = t₀ ++ [⟨.replicaSetStatus host, .ok st⟩] ∧
      (∀ ev ∈ t₀, healthyStatus? ev = none) ∧ assertReplicaSetHealthy st = .ok () := by
  obtain ⟨reservations, host, st, rfl, -, hgood⟩ := h
  refine ⟨[⟨.describeInstances (createInstanceNameFilters component), .ok reservations⟩,
    ⟨.connect host, .ok ()⟩], host, st, rfl, ?_, assertReplicaSetHealthy_eq_ok_iff_good.mpr hgood⟩
  rintro ev (_ | ⟨_, _ | ⟨_, hnone⟩⟩)
  · rfl
  · rfl
  · cases hnone

theorem replicaSetStatus_throw {host : String} {e : PyExc}
    (h : Runs legal (replicaSetStatus host) t (.throw e)) :
    ∀ ev ∈ t, healthyStatus? ev = none := by
  obtain h₁ | ⟨u, t₁, t₂, ⟨⟩, rfl, h₁, h₂⟩ := Exec.bind_throw_inv h
  · exact no_healthyStatus h₁ (issues_connect (by simp))
  · obtain rfl := connect_ret h₁
    cases h₂ with
    | @call _ _ _ _ r _ tr _ _ _ _ h₃ =>
      obtain ⟨rfl, hq⟩ := raise_inv (r := r) h₃
      cases r with
      | ok st => cases hq
      | error e' => simp [healthyStatus?]

theorem assertHealthy_throw {component : String} {e : PyExc}
    (h : Runs legal (assertHealthy component) t (.throw e)) :
    ∀ ev ∈ t, healthyStatus? ev = none := by
  obtain h₁ | ⟨items, t₁, t₂, ⟨⟩, rfl, h₁, h₂⟩ := Exec.bind_throw_inv h
  · exact no_healthyStatus h₁ (issues_getMongoDbInstances (by simp))
  refine List.forall_mem_append.mpr
    ⟨no_healthyStatus h₁ (issues_getMongoDbInstances (by simp)), ?_⟩
  cases hjoin : joinIpAddresses items with
  | error e' =>
      rw [hjoin] at h₂
      obtain ⟨rfl, -⟩ := Exec.throw_inv h₂
      simp
  | ok host =>
      rw [hjoin, raise_ok, Prog.ret_bind] at h₂
      obtain h₃ | ⟨st, t₃, t₄, ⟨⟩, rfl, h₃, h₄⟩ := Exec.bind_throw_inv h₂
      · exact replicaSetStatus_throw h₃
      · obtain rfl := replicaSetStatus_ret h₃
        obtain ⟨rfl, hq⟩ := raise_inv h₄
        cases hst : assertReplicaSetHealthy st with
        | ok u => rw [hst] at hq; cases hq
        | error e' => simp [healthyStatus?, hst]

/-- A health poll that returns ends with a health check that passes, the first one
    to see a healthy status. -/
theorem waitUntilClusterHealthy_sees {component : String}
    (h : Runs legal (waitUntilClusterHealthy component) t (.ret ())) :
    ∃ t₀ t₁, t = t₀ ++ t₁ ++ [⟨.log .pollingSucceeded, ()⟩] ∧
      (∀ ev ∈ t₀, healthyStatus? ev = none) ∧ SeesHealthy component t₁ := by
  obtain ⟨t₀, t₁, rfl, hpre, hret⟩ :=
    pollFrom_ret (fun _ _ => rfl) (fun _ => rfl) (fun _ _ => assertHealthy_throw) h
  exact ⟨t₀, t₁, rfl, hpre, assertHealthy_ret hret⟩

theorem waitUntilClusterHealthy_ret {component : String}
    (h : Runs legal (waitUntilClusterHealthy component) t (.ret ())) :
    ∃ t₀ host st, t = t₀ ++ [⟨.replicaSetStatus host, .ok st⟩, ⟨.log .pollingSucceeded, ()⟩] ∧
      (∀ ev ∈ t₀, healthyStatus? ev = none) ∧ assertReplicaSetHealthy st = .ok () := by
  obtain ⟨t₀, t₁, rfl, hpre, hsees⟩ := waitUntilClusterHealthy_sees h
  obtain ⟨t₂, host, st, rfl, hnone, hst⟩ := hsees.status
  exact ⟨t₀ ++ t₂, host, st, by simp, List.forall_mem_append.mpr ⟨hpre, hnone⟩, hst⟩

/-- The calls of `set_chaining` when it returns: the setting is read, and written
    where it is another one. -/
inductive SetsChaining (connectionString : String) (b : Bool) : Trace Calls → Prop where
  | already {config : ReplSetConfig} (h : config.settings.chainingAllowed = b) :
      SetsChaining connectionString b [⟨.connect connectionString, .ok ()⟩,
        ⟨.replSetGetConfig connectionString, .ok config⟩, ⟨.log (.chainingAlready b), ()⟩]
  | updated {config : ReplSetConfig} (h : config.settings.chainingAllowed ≠ b) :
      SetsChaining connectionString b [⟨.connect connectionString, .ok ()⟩,
        ⟨.replSetGetConfig connectionString, .ok config⟩, ⟨.log (.updatingChaining b), ()⟩,
        ⟨.replSetReconfig connectionString { config with
          settings := { config.settings with chainingAllowed := b }, version := config.version + 1 },
          .ok ()⟩]

theorem setChaining_ret {connectionString : String} {b : Bool} {written : ReplSetConfig}
    (h : Runs legal (setChaining connectionString b) t (.ret written)) :
    SetsChaining connectionString b t := by
  obtain ⟨u, t₁, t₂, ⟨⟩, rfl, h₁, h₂⟩ := Exec.bind_ret_inv h
  obtain rfl := connect_ret h₁
  obtain ⟨r, t₃, _, _, rfl, -, -, h₃⟩ := Exec.call_ret_inv h₂
  obtain ⟨config, rfl, h₄⟩ := raise_bind_inv h₃
  split at h₄
  · rename_i hsame
    obtain ⟨t₄, rfl, h₅⟩ := log_bind_ret_inv h₄
    obtain ⟨rfl, -⟩ := Exec.ret_inv h₅
    exact .already hsame
  · rename_i hother
    obtain ⟨t₄, rfl, h₅⟩ := log_bind_ret_inv h₄
    obtain ⟨r, t₅, _, _, rfl, -, -, h₆⟩ := Exec.call_ret_inv h₅
    obtain ⟨u, rfl, h₇⟩ := raise_bind_inv h₆
    obtain ⟨rfl, -⟩ := Exec.ret_inv h₇
    exact .updated hother

/-- The node takes the order to step down, or closes the connection on it. -/
def Obeyed (r : Except PyExc Unit) : Prop :=
  r = .ok () ∨ ∃ e, r = .error e ∧ e.cls.isAutoReconnect = true

theorem steppedDown_eq_ok {r : Except PyExc Unit} : steppedDown r = .ok () ↔ Obeyed r := by
  cases r with
  | ok u => exact iff_of_true rfl (.inl rfl)
  | error e =>
      rw [steppedDown, Obeyed]
      cases he : e.cls.isAutoReconnect <;> simp [he]

/-- The calls of `step_down` when it returns. -/
def StepsDown (ipAddress : String) (t : Trace Calls) : Prop :=
  ∃ r, t = [⟨.connect ipAddress, .ok ()⟩, ⟨.replSetStepDown ipAddress 100, r⟩] ∧ Obeyed r

theorem stepDown_ret {ipAddress : String} (h : Runs legal (stepDown ipAddress) t (.ret ())) :
    StepsDown ipAddress t := by
  obtain ⟨u, t₁, t₂, ⟨⟩, rfl, h₁, h₂⟩ := Exec.bind_ret_inv h
  obtain rfl := connect_ret h₁
  obtain ⟨r, rfl, hr⟩ := ask_raise_ret_inv (.replSetStepDown ipAddress 100) steppedDown h₂
  exact ⟨r, rfl, steppedDown_eq_ok.mp hr⟩

end

-- ============================================================================
-- Terminating
-- ============================================================================

/-- `recycle` up to the call of `terminate`: the id of the instance to terminate. -/
def findNode (node : Instance) : Py String := do
  log .recyclingInstance
  let instances ← raise (foundInstances (← ask (.filterInstances node.instanceId)))
  raise (onlyInstance instances)

/-- `recycle` from the reply of `terminate` on. -/
def afterTerminate (component instanceId : String) (r : Except PyExc Unit) : Py Unit := do
  raise r
  log (.waitingToTerminate instanceId)
  poll (isTerminated instanceId) 50 (some 10)
  log .waitForHealthy
  waitUntilClusterHealthy component

theorem recycle_eq (component : String) (node : Instance) :
    recycle component node =
      findNode node >>= fun id => Prog.call (.terminate id) (afterTerminate component id) := by
  simp only [recycle, recycleInstance, findNode, bind_assoc, ask_bind, Prog.call_bind]
  rfl

theorem onlyInstance_eq_ok {ids : List String} {id : String} :
    onlyInstance ids = .ok id ↔ ids = [id] := by
  match ids with
  | [] => simp [onlyInstance, getIndex]
  | [i] => simp [onlyInstance, getIndex]
  | i :: j :: rest => simp [onlyInstance]

theorem foundInstances_eq_ok {r : Except PyExc (List String)} {ids : List String} :
    foundInstances r = .ok ids ↔ r = .ok ids := by
  cases r with
  | ok _ => rfl
  | error e =>
      rw [foundInstances]
      cases e.cls <;> simp

/-- The state of an instance is read off a reply that describes no other one. -/
theorem instanceState_eq_ok {reservations : List Reservation} {state : String} :
    instanceState reservations = .ok state ↔
      ∃ inst : Ec2Instance, reservations = [{ instances := [inst] }] ∧ inst.stateName = state := by
  match reservations with
  | [] => simp [instanceState]
  | _ :: _ :: _ => simp [instanceState]
  | [⟨[]⟩] => simp [instanceState]
  | [⟨_ :: _ :: _⟩] => simp [instanceState]
  | [⟨[inst]⟩] => simp [instanceState]

section
variable {legal : (op : Op) → op.Reply → Prop} {t : Trace Calls} {component id : String}

theorem findNode_ret {node : Instance} (h : Runs legal (findNode node) t (.ret id)) :
    t = [⟨.log .recyclingInstance, ()⟩, ⟨.filterInstances node.instanceId, .ok [id]⟩] := by
  obtain ⟨t₁, rfl, h₁⟩ := log_bind_ret_inv h
  obtain ⟨r, t₂, _, _, rfl, -, -, h₂⟩ := Exec.call_ret_inv h₁
  obtain ⟨ids, hids, h₃⟩ := raise_bind_inv h₂
  obtain ⟨rfl, hid⟩ := raise_ret_inv h₃
  obtain rfl := onlyInstance_eq_ok.mp hid
  obtain rfl := foundInstances_eq_ok.mp hids
  rfl

theorem issues_findNode {P : Op → Prop} {node : Instance}
    (hlog : ∀ line : LogLine, line.isOutcome = false → P (.log line))
    (h : P (.filterInstances node.instanceId)) : (findNode node).Issues P :=
  (issues_log_bind _ _).mpr ⟨hlog _ rfl, h, fun _ => (issues_raise_bind _ _).mpr fun _ _ => issues_raise _⟩

theorem issues_isTerminated {P : Op → Prop} (h : P (.describeInstancesById id)) :
    (isTerminated id).Issues P :=
  Prog.Issues.bind ⟨h, fun _ => (issues_raise_bind _ _).mpr fun _ _ => issues_raise _⟩
    fun _ => issues_raise _

theorem issues_afterTerminate {P : Op → Prop} (hwait : (waitUntilClusterHealthy component).Issues P)
    (hdescribe : P (.describeInstancesById id))
    (hlog : ∀ line : LogLine, line.isOutcome = false → P (.log line))
    (hsleep : ∀ n, P (.sleep n)) (r : Except PyExc Unit) :
    (afterTerminate component id r).Issues P :=
  (issues_raise_bind _ _).mpr fun _ _ => (issues_log_bind _ _).mpr
    ⟨hlog _ rfl, (issues_poll (issues_isTerminated hdescribe) hlog hsleep).bind fun _ =>
      (issues_log_bind _ _).mpr ⟨hlog _ rfl, hwait⟩⟩

theorem issues_recycle {P : Op → Prop} {node : Instance} (hfilter : P (.filterInstances node.instanceId))
    (hterminate : ∀ id, P (.terminate id)) (hdescribe : ∀ id, P (.describeInstancesById id))
    (hwait : (waitUntilClusterHealthy component).Issues P)
    (hlog : ∀ line : LogLine, line.isOutcome = false → P (.log line)) (hsleep : ∀ n, P (.sleep n)) :
    (recycle component node).Issues P := by
  rw [recycle_eq]
  refine (issues_findNode hlog hfilter).bind fun id => ?_
  exact ⟨hterminate id, fun r => issues_afterTerminate hwait (hdescribe id) hlog hsleep r⟩

theorem issues_stepDownAndWait {P : Op → Prop} {node : Instance}
    (hstep : (stepDown node.ipAddress).Issues P) (hwait : (waitUntilClusterHealthy component).Issues P)
    (hlog : ∀ line : LogLine, line.isOutcome = false → P (.log line)) :
    (stepDownAndWait component node).Issues P :=
  (issues_log_bind _ _).mpr ⟨hlog _ rfl, hstep.bind fun _ => (issues_log_bind _ _).mpr ⟨hlog _ rfl, hwait⟩⟩

/-- The call reports a decision. -/
def isOutcomeCall : Op → Bool
  | .log line => line.isOutcome
  | _ => false

/-- The calls that record the start of a recycle. -/
def isRecordCall : Op → Bool
  | .time => true
  | .putItem .. => true
  | _ => false

/-- `execute_action` reports no decision, records no start, and sets chaining only
    as its decision says. -/
theorem issues_executeAction {P : Op → Prop} {d : Decision}
    (hP : ∀ op, isOutcomeCall op = false → isRecordCall op = false →
      (∀ conn config, op = .replSetReconfig conn config →
        config.settings.chainingAllowed = decide (d = .done)) → P op) :
    (executeAction component d).Issues P := by
  have hlog : ∀ line : LogLine, line.isOutcome = false → P (.log line) :=
    fun line hl => hP _ hl rfl (by simp)
  have hsleep : ∀ n, P (.sleep n) := fun _ => hP _ rfl rfl (by simp)
  have hconnect : ∀ host, P (.connect host) := fun _ => hP _ rfl rfl (by simp)
  have hdescribe : ∀ values, P (.describeInstances values) := fun _ => hP _ rfl rfl (by simp)
  have hstatus : ∀ host, P (.replicaSetStatus host) := fun _ => hP _ rfl rfl (by simp)
  have hwait : (waitUntilClusterHealthy component).Issues P :=
    issues_waitUntilClusterHealthy hdescribe hconnect hstatus hlog hsleep
  have hset : ∀ conn, (setChaining conn (decide (d = .done))).Issues P := by
    intro conn
    refine issues_setChaining (hconnect conn) (hP _ rfl rfl (by simp)) (fun config hc => ?_) hlog
    refine hP _ rfl rfl fun conn' config' heq => ?_
    cases heq
    exact hc
  refine (issues_getMongoDbInstances hdescribe).bind fun items => ?_
  refine (issues_raise_bind _ _).mpr fun conn _ => ?_
  cases hnode : d.node? with
  | none =>
      have hd : d = .done := by
        cases d with
        | done => rfl
        | _ => cases hnode
      subst hd
      exact (hset conn).bind fun _ => trivial
  | some node =>
      have hd : d ≠ .done := by
        rintro rfl
        cases hnode
      rw [decide_eq_false hd] at hset
      have hrecycle : (recycle component node).Issues P :=
        issues_recycle (hP _ rfl rfl (by simp)) (fun _ => hP _ rfl rfl (by simp))
          (fun _ => hP _ rfl rfl (by simp)) hwait hlog hsleep
      refine (hset conn).bind fun _ => ?_
      by_cases hact : d.action = .stepDownAndRecyclePrimary
      · simp only [hact, if_true]
        refine (issues_stepDownAndWait ?_ hwait hlog).bind fun _ => hrecycle
        exact issues_stepDown (hconnect _) (hP _ rfl rfl (by simp))
      · simp only [hact, if_false]
        exact hrecycle

/-- The way to `terminate`: chaining is off, a primary was stepped down and the
    replica set seen healthy, and the id is the one answer to the query for the
    decided instance. -/
theorem executeAction_terminate {decision : Decision} {next : Except PyExc Unit → Py Unit}
    (h : Runs legal (executeAction component decision) t (.call (.terminate id) next)) :
    ∃ node items conn config t₀ t₁ t₂, decision.node? = some node ∧
      t = t₀ ++ t₁ ++ t₂ ++
        [⟨.log .recyclingInstance, ()⟩, ⟨.filterInstances node.instanceId, .ok [id]⟩] ∧
      Runs legal (getMongoDbInstances component) t₀ (.ret items) ∧ joinIpAddresses items = .ok conn ∧
      Runs legal (setChaining conn false) t₁ (.ret config) ∧
      Runs legal (if decision.action = .stepDownAndRecyclePrimary then stepDownAndWait component node
        else pure ()) t₂ (.ret ()) ∧
      next = afterTerminate component id := by
  obtain ⟨items, t₀, t₁, ⟨⟩, rfl, h₀, h₁⟩ :=
    Exec.bind_call_inv h (issues_getMongoDbInstances (by simp))
  obtain ⟨conn, hjoin, h₁⟩ := raise_bind_call_inv h₁
  cases hnode : decision.node? with
  | none =>
      rw [hnode] at h₁
      obtain ⟨config, t₁, t₂, ⟨⟩, rfl, -, h₂⟩ := Exec.bind_call_inv h₁
        (issues_setChaining (by simp) (by simp) (by simp) (by simp))
      cases (Exec.ret_inv h₂).2
  | some node =>
      rw [hnode] at h₁
      obtain ⟨config, t₁, t₂, ⟨⟩, rfl, hset, h₂⟩ := Exec.bind_call_inv h₁
        (issues_setChaining (by simp) (by simp) (by simp) (by simp))
      have hwait : (waitUntilClusterHealthy component).Issues (· ≠ Op.terminate id) :=
        issues_waitUntilClusterHealthy (by simp) (by simp) (by simp) (by simp) (by simp)
      suffices hstep : ∃ t₃ t₄, t₂ = t₃ ++ t₄ ∧
          Runs legal (if decision.action = .stepDownAndRecyclePrimary
            then stepDownAndWait component node else pure ()) t₃ (.ret ()) ∧
          Runs legal (recycle component node) t₄ (.call (.terminate id) next) by
        obtain ⟨t₃, t₄, rfl, h₃, h₄⟩ := hstep
        rw [recycle_eq] at h₄
        obtain ⟨id', t₅, t₆, ⟨⟩, rfl, h₅, h₆⟩ := Exec.bind_call_inv h₄
          (issues_findNode (by simp) (by simp))
        obtain rfl := findNode_ret h₅
        cases h₆ with
        | rest _ =>
            exact ⟨node, items, conn, config, t₀, t₁, t₃, rfl, by simp, h₀, hjoin, hset, h₃, rfl⟩
        | call _ _ h₇ =>
            have hafter := h₇.issues (issues_afterTerminate hwait (by simp) (by simp) (by simp) _)
            exact absurd rfl hafter.2.1
      by_cases hact : decision.action = .stepDownAndRecyclePrimary
      · rw [if_pos hact]
        simp only [hact, if_true] at h₂
        obtain ⟨u, t₃, t₄, ⟨⟩, rfl, h₃, h₄⟩ := Exec.bind_call_inv h₂ (issues_stepDownAndWait
          (issues_stepDown (by simp) (by simp)) hwait (by simp))
        exact ⟨t₃, t₄, rfl, h₃, h₄⟩
      · rw [if_neg hact]
        simp only [hact, if_false] at h₂
        exact ⟨[], t₂, rfl, Exec.refl _ _, h₂⟩

end

-- ============================================================================
-- Invocations
-- ============================================================================

/-- `lambda_handler` once the start of the recycle is recorded. -/
def takeStep (event component : Asl.Json) : Py Asl.Json := do
  let stepResult ← step (← raise (componentName component))
  raise (finishEvent event stepResult)

theorem lambdaHandler_eq (event : Asl.Json) :
    lambdaHandler event = raise (getItem "component" event) >>= fun component =>
      if isFirstRun event = true then
        recordRecycleStarting component >>= fun _ => takeStep event component
      else takeStep event component := rfl

-- ============================================================================
-- A scripted replica set
-- ============================================================================

def isTerminate : Op → Bool
  | .terminate _ => true
  | _ => false

/-- A replica set that answers alike whatever is done to it. -/
structure SteadySet where
  targetAmi : String
  instances : List Ec2Instance
  /-- What the node at an address says of itself. -/
  myState : String → Int
  members : List Member

namespace SteadySet

def status (set : SteadySet) (myState : Int) : ReplSetStatus :=
  { ok := 1, myState := some myState, set := "rs0", members := set.members }

def reply (set : SteadySet) : (op : Op) → op.Reply
  | .now => (0 : Int)
  | .time => (0 : Int)
  | .sleep _ => ()
  | .getenv _ => none
  | .log _ => ()
  | .describeAutoScalingGroups => .ok []
  | .describeScalingActivities _ => .ok []
  | .executePolicy .. => .ok ()
  | .describeLaunchTemplates _ => .ok [{ launchTemplateId := "lt-1", latestVersionNumber := 1 }]
  | .describeLaunchTemplateVersions .. => .ok [{ imageId := set.targetAmi }]
  | .describeInstances _ => .ok [{ instances := set.instances }]
  | .describeInstancesById instanceId => .ok [{ instances :=
      [{ instanceId, imageId := "", stateName := "terminated", networkInterfaces := [] }] }]
  | .filterInstances instanceId => .ok [instanceId]
  | .terminate _ => .ok ()
  | .putItem .. => .ok ()
  | .connect _ => .ok ()
  | .nodeStatus ipAddress => .ok (set.status (set.myState ipAddress))
  | .replicaSetStatus _ => .ok (set.status 2)
  | .replSetGetConfig _ => .ok
      { version := 1, settings := { chainingAllowed := true, others := [] }, others := [] }
  | .replSetReconfig .. => .ok ()
  | .replSetStepDown .. => .ok ()
  | .invoke _ input => .ok input

/-- The script, which ends at the call of `terminate`. -/
def answer (set : SteadySet) (u : Unit) (op : Op) : Option (op.Reply × Unit) :=
  if isTerminate op then none else some (set.reply op, u)

/-- The script to the end. -/
def fullAnswer (set : SteadySet) (u : Unit) (op : Op) : Option (op.Reply × Unit) :=
  some (set.reply op, u)

/-- The world in which only the set answers. -/
def world (set : SteadySet) : Setting Calls Unit :=
  .alone fun _ op r _ => r = set.reply op

/-- An instance with one network interface, at `ipAddress`. -/
def running (instanceId imageId ipAddress : String) : Ec2Instance :=
  { instanceId, imageId, stateName := "running",
    networkInterfaces := [{ privateIpAddress := ipAddress, deleteOnTermination := false }] }

def member (ipAddress stateStr : String) : Member :=
  { name := ipAddress ++ ":27017", stateStr, syncSourceHost := none }

end SteadySet

/-- The primary of the scripted sets. -/
def oldPrimary : Instance where
  instanceId := "i-a"
  imageId := "ami-1"
  ipAddress := "10.0.0.1"
  mongoState := "PRIMARY"
  replicaSetName := "rs0"

/-- The instance that a program is about to terminate. -/
def terminating? {α : Type} : Py α → Option String
  | .call (.terminate id) _ => some id
  | _ => none

theorem terminating?_eq_some {α : Type} {p : Py α} {id : String} (h : terminating? p = some id) :
    ∃ next, p = .call (.terminate id) next := by
  cases p with
  | call op next =>
      cases op with
      | terminate i =>
          cases h
          exact ⟨next, rfl⟩
      | _ => cases h
  | _ => cases h

/-- A run against a steady set, up to the call of `terminate`. -/
theorem SteadySet.exec_to_terminate {α : Type} (set : SteadySet) (p : Py α) (id : String)
    (h : terminating? (p.walk set.answer ()).2.1 = some id) :
    ∃ next, Exec set.world p () (p.walk set.answer ()).1 (.call (.terminate id) next) () := by
  obtain ⟨next, hq⟩ := terminating?_eq_some h
  refine ⟨next, ?_⟩
  rw [← hq]
  refine Prog.walk_exec set.world set.answer (fun w op r w' hr => ?_) p ()
  rw [SteadySet.answer] at hr
  split at hr
  · cases hr
  · cases hr
    rfl

end AutoRecycle.Mongo
