/-
  AutoRecycle.Mongo.TwoExecutions

  Two executions of the Mongo branch on one replica set.

  Nothing keeps them apart: the start of a recycle is recorded whatever the
  table says, and a member is chosen among the instances that run.  What an
  execution waits for is a replica set in which every member is healthy, after
  each `terminate` of its own.  A replica set with a member down is not healthy,
  whoever terminated it.  So neither execution ever has two members down; but
  each may have one.
-/
import AutoRecycle.InvokeStepfunctions.Starts
import AutoRecycle.Mongo.InProgress

namespace AutoRecycle.Mongo

open AutoRecycle.Asl AutoRecycle.Data AutoRecycle.Effect AutoRecycle.Py AutoRecycle.StateMachine
open Relation (ReflTransGen)

-- ============================================================================
-- The replica set
-- ============================================================================

/-- The two executions. -/
inductive Side where
  | first
  | second
  deriving DecidableEq

def Side.other : Side → Side
  | first => second
  | second => first

theorem Side.ne_other (side : Side) : side ≠ side.other := by
  cases side <;> decide

inductive MemberState where
  | primary
  | secondary
  /-- Terminated, and not replaced yet. -/
  | gone (terminatedBy : Side)
  /-- Replaced, and not in sync yet. -/
  | joining (terminatedBy : Side)
  deriving DecidableEq

namespace MemberState

def isRunning : MemberState → Bool
  | gone _ => false
  | _ => true

/-- The execution that the member is down by, if it is down. -/
def downBy : MemberState → Option Side
  | primary => none
  | secondary => none
  | gone side => some side
  | joining side => some side

/-- How the other members report it. -/
def stateStr : MemberState → String
  | primary => "PRIMARY"
  | secondary => "SECONDARY"
  | gone _ => "(not reachable/healthy)"
  | joining _ => "STARTUP2"

/-- How it reports itself, if it runs. -/
def myState : MemberState → Int
  | primary => 1
  | secondary => 2
  | gone _ => 8
  | joining _ => 5

theorem downBy_of_healthy {state : MemberState} (h : state.stateStr ∈ healthyStates) :
    state.downBy = none := by
  cases state with
  | primary => rfl
  | secondary => rfl
  | gone side => exact absurd h (by decide : "(not reachable/healthy)" ∉ healthyStates)
  | joining side => exact absurd h (by decide : "STARTUP2" ∉ healthyStates)

end MemberState

/-- A data member, with the instance that it runs on, or ran on last. -/
structure Seat where
  ipAddress : String
  instanceId : String
  imageId : String
  state : MemberState
  deriving DecidableEq

namespace Seat

def terminate (side : Side) (id : String) (s : Seat) : Seat :=
  if s.instanceId = id ∧ s.state.isRunning = true then { s with state := .gone side } else s

/-- What happens to a member by itself. -/
inductive Progress : Seat → Seat → Prop where
  | elected {s} (h : s.state.downBy = none) : Progress s { s with state := .primary }
  | steppedDown {s} (h : s.state.downBy = none) : Progress s { s with state := .secondary }
  | replaced {s} {terminatedBy} (i m : String) (h : s.state = .gone terminatedBy) :
      Progress s { s with instanceId := i, imageId := m, state := .joining terminatedBy }
  | inSync {s} {terminatedBy} (h : s.state = .joining terminatedBy) : Progress s { s with state := .secondary }

variable {side other : Side} {id : String} {s s' : Seat}

/-- A member does not go down by itself. -/
theorem Progress.downBy (h : s.Progress s') (hdown : s'.state.downBy = some side) :
    s.state.downBy = some side := by
  cases h with
  | elected _ => cases hdown
  | steppedDown _ => cases hdown
  | replaced _ _ hgone =>
      rw [hgone]
      exact hdown
  | inSync _ => cases hdown

@[simp] theorem instanceId_terminate : (s.terminate side id).instanceId = s.instanceId := by
  rw [terminate]
  split <;> rfl

theorem downBy_terminate (h : (s.terminate side id).state.downBy = some other) :
    s.state.downBy = some other ∨ other = side ∧ s.instanceId = id := by
  rw [terminate] at h
  split at h
  · rename_i hid
    cases h
    exact .inr ⟨rfl, hid.1⟩
  · exact .inl h

def ec2Instance (s : Seat) : Ec2Instance :=
  SteadySet.running s.instanceId s.imageId s.ipAddress

end Seat

/-- The data members of a replica set. -/
structure ReplicaSet where
  seats : List Seat
  ids_nodup : (seats.map Seat.instanceId).Nodup

namespace ReplicaSet

variable {side other : Side} {id : String} {set set' : ReplicaSet}

def terminate (set : ReplicaSet) (side : Side) (id : String) : ReplicaSet where
  seats := set.seats.map (Seat.terminate side id)
  ids_nodup := by
    have hsame : Seat.instanceId ∘ Seat.terminate side id = Seat.instanceId :=
      funext fun s => Seat.instanceId_terminate
    rw [List.map_map, hsame]
    exact set.ids_nodup

/-- One member gets on.  The instance of a replacement has an id of its own. -/
def Progress (set set' : ReplicaSet) : Prop :=
  ∃ before s s' after, set.seats = before ++ s :: after ∧ s.Progress s' ∧
    set'.seats = before ++ s' :: after

/-- The members that `side` has terminated, and that are not replaced and healthy yet. -/
def downBy (side : Side) (set : ReplicaSet) : Nat :=
  set.seats.countP fun s => s.state.downBy = some side

/-- The members that are terminated, and not replaced and healthy yet. -/
def down (set : ReplicaSet) : Nat := set.seats.countP fun s => s.state.downBy.isSome

def running (set : ReplicaSet) : List Ec2Instance :=
  (set.seats.filter fun s => s.state.isRunning).map Seat.ec2Instance

theorem down_eq (set : ReplicaSet) : set.down = set.downBy .first + set.downBy .second := by
  rw [down, downBy, downBy]
  induction set.seats with
  | nil => rfl
  | cons s seats ih =>
      simp only [List.countP_cons, ih]
      cases s.state with
      | primary => simp [MemberState.downBy]
      | secondary => simp [MemberState.downBy]
      | gone side => cases side <;> simp [MemberState.downBy] <;> omega
      | joining side => cases side <;> simp [MemberState.downBy] <;> omega

theorem downBy_progress (h : set.Progress set') : set'.downBy side ≤ set.downBy side := by
  obtain ⟨before, s, s', after, hseats, hs, hseats'⟩ := h
  have hdown := @Seat.Progress.downBy side _ _ hs
  rw [downBy, downBy, hseats, hseats', List.countP_append, List.countP_append, List.countP_cons,
    List.countP_cons]
  by_cases h : s'.state.downBy = some side
  · simp [h, hdown h]
  · simp [h]

theorem downBy_terminate_ne (h : other ≠ side) :
    (set.terminate side id).downBy other ≤ set.downBy other := by
  rw [downBy, downBy, terminate, List.countP_map]
  refine List.countP_mono_left fun s _ hs => ?_
  have hdown := Seat.downBy_terminate (of_decide_eq_true hs)
  exact decide_eq_true (hdown.resolve_right fun hne => h hne.1)

/-- There is one instance of that id. -/
theorem downBy_terminate : (set.terminate side id).downBy other ≤ set.downBy other + 1 := by
  have hone : (set.seats.map Seat.instanceId).count id ≤ 1 :=
    List.nodup_iff_count_le_one.mp set.ids_nodup id
  rw [List.count_eq_countP, List.countP_map] at hone
  have hsum : ∀ seats : List Seat,
      seats.countP ((fun s => decide (s.state.downBy = some other)) ∘ Seat.terminate side id) ≤
        seats.countP (fun s => decide (s.state.downBy = some other)) +
          seats.countP ((· == id) ∘ Seat.instanceId) := by
    intro seats
    induction seats with
    | nil => simp
    | cons s seats ih =>
        simp only [List.countP_cons, Function.comp_apply, decide_eq_true_eq, beq_iff_eq] at ih ⊢
        by_cases hdown : (s.terminate side id).state.downBy = some other
        · rcases Seat.downBy_terminate hdown with h | ⟨-, h⟩
          · simp only [hdown, h, if_true]
            omega
          · simp only [hdown, h, if_true]
            omega
        · simp only [hdown, if_false]
          omega
  rw [downBy, downBy, terminate, List.countP_map]
  exact Nat.le_trans (hsum set.seats) (Nat.add_le_add_left hone _)

-- ============================================================================
-- The world of one execution
-- ============================================================================

/-- What a call of `side` does to the replica set. -/
def After (side : Side) (set : ReplicaSet) : (op : Op) → op.Reply → ReplicaSet → Prop
  | .terminate id, r, set' => set' = set.terminate side id ∨ set' = set ∧ ∃ e, r = .error e
  | .replSetStepDown .., _, set' => ReflTransGen Progress set set'
  | _, _, set' => set' = set

/-- What the replies say of the replica set, if they are none of an error.  The
    data members come in any order, and arbiters may stand among them. -/
def Shows (set : ReplicaSet) : (op : Op) → op.Reply → Prop
  | .describeInstances _, r => ∀ reservations, r = .ok reservations → ∃ arbiters,
      ((reservations.flatMap Reservation.instances).filter fun i => i.stateName = "running").Perm
        (set.running ++ arbiters)
  | .filterInstances id, r => ∀ ids, r = .ok ids → ∀ i ∈ ids, i = id
  | .nodeStatus ipAddress, r => ∀ st, r = .ok st →
      (∃ s ∈ set.seats, s.ipAddress = ipAddress ∧ s.state.isRunning = true ∧
        st.myState = some s.state.myState) ∨ ∀ s ∈ set.seats, s.ipAddress ≠ ipAddress
  | .replicaSetStatus _, r => ∀ st, r = .ok st → ∃ arbiters,
      (st.members.map Member.stateStr).Perm ((set.seats.map fun s => s.state.stateStr) ++ arbiters)
  | _, _ => True

/-- Something happens to a member, or the other execution terminates one. -/
def Interferes (side : Side) (set set' : ReplicaSet) : Prop :=
  set.Progress set' ∨ ∃ id, set' = set.terminate side.other id

/-- The replica set as `side` sees it. -/
def setting (side : Side) : Setting Calls ReplicaSet where
  answers set op r set' := After side set op r set' ∧ set.Shows op r
  rely := ReflTransGen (Interferes side)
  rely_refl _ := .refl
  rely_trans := ReflTransGen.trans

theorem downBy_interferes (h : Interferes side set set') : set'.downBy side ≤ set.downBy side := by
  rcases h with h | ⟨id, rfl⟩
  · exact downBy_progress h
  · exact downBy_terminate_ne side.ne_other

/-- Nothing but its own `terminate` takes a member down by `side`. -/
theorem downBy_rely (h : (setting side).rely set set') : set'.downBy side ≤ set.downBy side := by
  replace h : ReflTransGen (Interferes side) set set' := h
  induction h with
  | refl => exact Nat.le_refl _
  | tail _ hs ih => exact Nat.le_trans (downBy_interferes hs) ih

theorem downBy_evolves (h : ReflTransGen Progress set set') : set'.downBy side ≤ set.downBy side :=
  downBy_rely (ReflTransGen.mono (fun _ _ => .inl) _ _ h)

theorem downBy_answers {op : Op} {r : op.Reply} (h : (setting side).answers set op r set')
    (hop : isTerminate op = false) : set'.downBy side ≤ set.downBy side := by
  have hafter : After side set op r set' := h.1
  cases op with
  | terminate id => cases hop
  | replSetStepDown ipAddress secs => exact downBy_evolves hafter
  | _ =>
      rw [After.eq_def] at hafter
      exact Nat.le_of_eq (congrArg (downBy side) hafter)

theorem downBy_answers_terminate {r : Except PyExc Unit}
    (h : (setting side).answers set (.terminate id) r set') :
    set'.downBy side ≤ set.downBy side + 1 := by
  rcases h.1 with rfl | ⟨rfl, -⟩
  · exact downBy_terminate
  · exact Nat.le_succ _

/-- What one execution does is interference for the other. -/
theorem rely_of_answers {op : Op} {r : op.Reply} (h : (setting side.other).answers set op r set') :
    (setting side).rely set set' := by
  have hafter : After side.other set op r set' := h.1
  cases op with
  | terminate id =>
      rcases hafter with h | ⟨rfl, -⟩
      · exact .single (.inr ⟨id, h⟩)
      · exact .refl
  | replSetStepDown ipAddress secs => exact ReflTransGen.mono (fun _ _ => .inl) _ _ hafter
  | _ =>
      rw [After.eq_def] at hafter
      rw [hafter]
      exact .refl

end ReplicaSet

-- ============================================================================
-- One invocation
-- ============================================================================

section
open ReplicaSet
variable {side : Side} {component : String} {n : Nat} {set : ReplicaSet} {α : Type} {p : Py α}

/-- At any time at most one member is down by `side`. -/
abbrev AtMostOne (side : Side) (set : ReplicaSet) (_ : Op) : Prop := set.downBy side ≤ 1

/-- What does not terminate leaves no more members down than there were. -/
theorem wp_quiet (hp : p.Issues fun op => isTerminate op = false) (hn : n ≤ 1)
    (h : set.downBy side ≤ n) : p.wp (setting side) (AtMostOne side) (fun _ set => set.downBy side ≤ n)
      (fun _ set => set.downBy side ≤ n) set := by
  apply hp.wp
  · exact fun _ _ hw hr => Nat.le_trans (downBy_rely hr) hw
  · exact fun _ _ _ _ hw hop ha => Nat.le_trans (downBy_answers ha hop) hw
  · exact fun _ _ hw _ => Nat.le_trans hw hn
  · exact h

theorem downBy_eq_zero_of_healthy (st : ReplSetStatus) (hst : assertReplicaSetHealthy st = .ok ())
    (hshows : ∃ arbiters, (st.members.map Member.stateStr).Perm
      ((set.seats.map fun s => s.state.stateStr) ++ arbiters)) :
    set.downBy side = 0 := by
  have hstates := (healthy_of_assertReplicaSetHealthy hst).1
  obtain ⟨arbiters, hperm⟩ := hshows
  refine List.countP_eq_zero.mpr fun s hs => ?_
  have hreported : s.state.stateStr ∈ st.members.map Member.stateStr :=
    hperm.mem_iff.mpr (List.mem_append_left arbiters (List.mem_map_of_mem hs))
  have hnone := MemberState.downBy_of_healthy (hstates _ hreported)
  simp [hnone]

/-- The check that the replica set is healthy returns only when no member is down. -/
theorem wp_assertHealthy_down (h : set.downBy side ≤ 1) :
    (assertHealthy component).wp (setting side) (AtMostOne side) (fun _ set => set.downBy side ≤ 0)
      (fun _ set => set.downBy side ≤ 1) set := by
  have herror : ∀ {w w'}, w.downBy side ≤ 1 → (setting side).rely w w' → w'.downBy side ≤ 1 :=
    fun hw hr => Nat.le_trans (downBy_rely hr) hw
  rw [assertHealthy, Prog.wp_bind]
  refine Prog.wp_mono (fun items w hw => ?_) (fun _ _ h => h)
    (wp_quiet (issues_getMongoDbInstances fun _ => rfl) (Nat.le_refl 1) h)
  refine wp_raise_bind (fun host _ => ?_) fun _ _ _ hr => herror hw hr
  rw [replicaSetStatus, bind_assoc, Prog.wp_bind]
  refine Prog.wp_mono (fun _ w hw => ?_) (fun _ _ h => h)
    (wp_quiet (issues_connect rfl) (Nat.le_refl 1) hw)
  intro w₁ hr
  have hw₁ := herror hw hr
  refine ⟨hw₁, fun (r : Except PyExc ReplSetStatus) w₂ ha => ?_⟩
  obtain ⟨rfl, hshows⟩ := ha
  show (raise r >>= fun st => raise (assertReplicaSetHealthy st)).wp _ _ _ _ _
  refine wp_raise_bind (fun st hst => ?_) fun _ _ _ hr => herror hw₁ hr
  refine wp_raise (fun _ hhealthy w₃ hr => ?_) fun _ _ _ hr => herror hw₁ hr
  have hzero : w₂.downBy side = 0 := downBy_eq_zero_of_healthy st hhealthy (hshows st hst)
  exact Nat.le_trans (downBy_rely hr) (Nat.le_of_eq hzero)

theorem wp_waitUntilClusterHealthy_down (h : set.downBy side ≤ 1) :
    (waitUntilClusterHealthy component).wp (setting side) (AtMostOne side)
      (fun _ set => set.downBy side ≤ 0) (fun _ set => set.downBy side ≤ 1) set := by
  have hquiet : ∀ {m w} {q : Py Unit}, m ≤ 1 → q.Issues (fun op => isTerminate op = false) →
      w.downBy side ≤ m → q.wp (setting side) (AtMostOne side) (fun _ set => set.downBy side ≤ m)
        (fun _ set => set.downBy side ≤ 1) w := fun hm hq hw =>
    Prog.wp_mono (fun _ _ h => h) (fun _ _ h => Nat.le_trans h hm) (wp_quiet hq hm hw)
  apply wp_pollFrom
  · exact fun hw hr => Nat.le_trans (downBy_rely hr) hw
  · exact fun hw => wp_assertHealthy_down hw
  · exact fun line hw => hquiet (Nat.le_refl 1) ((issues_log line).mpr rfl) hw
  · exact fun hw => hquiet (Nat.zero_le 1) ((issues_log _).mpr rfl) hw
  · exact fun hw => hquiet (Nat.le_refl 1) (issues_pause fun _ => rfl) hw
  · exact h

/-- After its `terminate` an execution waits until no member is down. -/
theorem wp_recycle_down {node : Instance} (h : set.downBy side ≤ 0) :
    (recycle component node).wp (setting side) (AtMostOne side) (fun _ set => set.downBy side ≤ 0)
      (fun _ set => set.downBy side ≤ 1) set := by
  rw [recycle_eq, Prog.wp_bind]
  refine Prog.wp_mono (fun id w hw => ?_) (fun _ _ h => Nat.le_trans h (Nat.zero_le 1))
    (wp_quiet (issues_findNode (fun _ _ => rfl) rfl) (Nat.zero_le 1) h)
  intro w₁ hr
  have hw₁ : w₁.downBy side ≤ 0 := Nat.le_trans (downBy_rely hr) hw
  refine ⟨Nat.le_trans hw₁ (Nat.zero_le 1), fun (r : Except PyExc Unit) w₂ ha => ?_⟩
  have hw₂ : w₂.downBy side ≤ 1 :=
    Nat.le_trans (downBy_answers_terminate ha) (Nat.add_le_add_right hw₁ 1)
  rw [afterTerminate]
  refine wp_raise_bind (fun _ _ => ?_) fun _ _ _ hr => Nat.le_trans (downBy_rely hr) hw₂
  have hpoll : (poll (isTerminated id) 50 (some 10)).Issues fun op => isTerminate op = false :=
    issues_poll (issues_isTerminated rfl) (fun _ _ => rfl) fun _ => rfl
  have hstop : (do log (.waitingToTerminate id)
                   poll (isTerminated id) 50 (some 10)
                   log .waitForHealthy : Py Unit).Issues fun op => isTerminate op = false :=
    (issues_log_bind _ _).mpr ⟨rfl, hpoll.bind fun _ => (issues_log _).mpr rfl⟩
  have hwait := Prog.wp_mono (fun _ w hw => @wp_waitUntilClusterHealthy_down side component w hw)
    (fun _ _ h => h) (wp_quiet hstop (Nat.le_refl 1) hw₂)
  rw [← Prog.wp_bind] at hwait
  simpa only [bind_assoc] using hwait

/-- An execution that has no member down acts, and has none down when it is done. -/
theorem wp_executeAction_down {d : Decision} (h : set.downBy side ≤ 0) :
    (executeAction component d).wp (setting side) (AtMostOne side) (fun _ set => set.downBy side ≤ 0)
      (fun _ set => set.downBy side ≤ 1) set := by
  have hquiet : ∀ {β : Type} {w} {q : Py β}, q.Issues (fun op => isTerminate op = false) →
      w.downBy side ≤ 0 → q.wp (setting side) (AtMostOne side) (fun _ set => set.downBy side ≤ 0)
        (fun _ set => set.downBy side ≤ 1) w := fun hq hw =>
    Prog.wp_mono (fun _ _ h => h) (fun _ _ h => Nat.le_trans h (Nat.zero_le 1))
      (wp_quiet hq (Nat.zero_le 1) hw)
  have hset : ∀ conn b, (setChaining conn b).Issues fun op => isTerminate op = false :=
    fun conn b => issues_setChaining rfl rfl (fun _ _ => rfl) fun _ _ => rfl
  rw [executeAction, Prog.wp_bind]
  refine Prog.wp_mono (fun items w hw => ?_) (fun _ _ h => h)
    (hquiet (issues_getMongoDbInstances fun _ => rfl) h)
  refine wp_raise_bind (fun conn _ => ?_) fun _ _ _ hr =>
    Nat.le_trans (Nat.le_trans (downBy_rely hr) hw) (Nat.zero_le 1)
  cases d.node? with
  | none => exact hquiet ((hset conn true).bind fun _ => trivial) hw
  | some node =>
      show (setChaining conn false >>= fun _ => _).wp _ _ _ _ _
      rw [Prog.wp_bind]
      refine Prog.wp_mono (fun _ w hw => ?_) (fun _ _ h => h) (hquiet (hset conn false) hw)
      by_cases hact : d.action = .stepDownAndRecyclePrimary
      · simp only [hact, if_true]
        rw [Prog.wp_bind]
        have hwait : (waitUntilClusterHealthy component).Issues fun op => isTerminate op = false :=
          issues_waitUntilClusterHealthy (fun _ => rfl) (fun _ => rfl) (fun _ => rfl) (fun _ _ => rfl)
            fun _ => rfl
        have hstepDown : (stepDownAndWait component node).Issues fun op => isTerminate op = false :=
          issues_stepDownAndWait (issues_stepDown rfl rfl) hwait fun _ _ => rfl
        exact Prog.wp_mono (fun _ w hw => wp_recycle_down hw) (fun _ _ h => h) (hquiet hstepDown hw)
      · simp only [hact, if_false]
        exact wp_recycle_down hw

theorem wp_step_down (h : set.downBy side ≤ 0) : (step component).wp (setting side) (AtMostOne side)
    (fun _ set => set.downBy side ≤ 0) (fun _ set => set.downBy side ≤ 1) set := by
  rw [step, Prog.wp_bind]
  have hobserve : (observe component).Issues fun op => isTerminate op = false :=
    issues_observe (fun _ => rfl) (fun _ _ => rfl) (fun _ => rfl) (fun _ => rfl) (fun _ => rfl)
      fun _ _ => rfl
  refine Prog.wp_mono ?_ (fun _ _ h => Nat.le_trans h (Nat.zero_le 1))
    (wp_quiet hobserve (Nat.zero_le 1) h)
  rintro ⟨targetAmi, nodes⟩ w hw
  show (log _ >>= fun _ => executeAction component (decideOnAction nodes targetAmi) >>= fun _ =>
    Prog.ret (decideOnAction nodes targetAmi)).wp _ _ _ _ _
  rw [Prog.wp_bind]
  refine Prog.wp_mono (fun _ w hw => ?_) (fun _ _ h => Nat.le_trans h (Nat.zero_le 1))
    (wp_quiet ((issues_log _).mpr rfl) (Nat.zero_le 1) hw)
  rw [Prog.wp_bind]
  exact Prog.wp_mono (fun _ w hw _ hr => Nat.le_trans (downBy_rely hr) hw) (fun _ _ h => h)
    (wp_executeAction_down hw)

/-- An invocation starts and returns with no member down by `side`, and has at most
    one down in between. -/
theorem wp_lambdaHandler_down {event : Json} (h : set.downBy side = 0) :
    (lambdaHandler event).wp (setting side) (AtMostOne side)
      (fun out set => ∃ d : Decision, out.get? ["decision", "action"] = some (.str d.action.text) ∧
        set.downBy side = 0) (fun _ set => set.downBy side ≤ 1) set := by
  have hone : ∀ {w w'}, w.downBy side ≤ 0 → (setting side).rely w w' → w'.downBy side ≤ 1 :=
    fun hw hr => Nat.le_trans (Nat.le_trans (downBy_rely hr) hw) (Nat.zero_le 1)
  have htake : ∀ component' w, w.downBy side ≤ 0 → (takeStep event component').wp (setting side)
      (AtMostOne side) (fun out set => ∃ d : Decision,
        out.get? ["decision", "action"] = some (.str d.action.text) ∧ set.downBy side = 0)
      (fun _ set => set.downBy side ≤ 1) w := by
    intro component' w hw
    refine wp_raise_bind (fun name _ => ?_) fun _ _ _ hr => hone hw hr
    rw [Prog.wp_bind]
    refine Prog.wp_mono (fun d w hw => ?_) (fun _ _ h => h) (wp_step_down hw)
    refine wp_raise (fun out hout w' hr => ⟨d, finishEvent_action hout, ?_⟩) fun _ _ _ hr => hone hw hr
    exact Nat.le_zero.mp (Nat.le_trans (downBy_rely hr) hw)
  have hzero : set.downBy side ≤ 0 := Nat.le_of_eq h
  rw [lambdaHandler_eq]
  refine wp_raise_bind (fun component' _ => ?_) fun _ _ _ hr => hone hzero hr
  by_cases hfirst : isFirstRun event = true
  · rw [if_pos hfirst, Prog.wp_bind]
    have hrecord : (recordRecycleStarting component').Issues fun op => isTerminate op = false :=
      issues_recordRecycleStarting rfl (fun _ _ => rfl) fun _ _ => rfl
    exact Prog.wp_mono (fun _ w hw => htake component' w hw)
      (fun _ _ h => Nat.le_trans h (Nat.zero_le 1)) (wp_quiet hrecord (Nat.zero_le 1) hzero)
  · rw [if_neg hfirst]
    exact htake component' set hzero

end

-- ============================================================================
-- Two executions
-- ============================================================================

section
open ReplicaSet

/-- Up to its first invocation, and between two, an execution has no member down. -/
def downStages (side : Side) : Stages ReplicaSet where
  before set := set.downBy side = 0
  loop set := set.downBy side = 0
  decided _ set := set.downBy side = 0
  after set := set.downBy side ≤ 1

/-- Whatever else happens to the replica set, one execution has at most one member
    down. -/
theorem downBy_le_one {tf : TfVars} {faults : TaskError → Prop} {side : Side} {payload : Json}
    (hfaults : ∀ e, faults e → errorEquals lambdaErrors e = false)
    (hstrategy : payload.get? ["strategy"] = some (.str "mongo")) {set set' : ReplicaSet}
    (hset : set.downBy side = 0) {l : Live Calls State Resource}
    (h : Live.Reaches (autoRecycle tf) (lambdas faults) (setting side)
      (.idle (.at startAt payload 0), set) (l, set')) : set'.downBy side ≤ 1 := by
  have hordered : (downStages side).Ordered :=
    { before_loop := id, loop_after := fun h => Nat.le_trans (Nat.le_of_eq h) (Nat.zero_le 1),
      decided_done := fun h => Nat.le_trans (Nat.le_of_eq h) (Nat.zero_le 1),
      decided_loop := fun _ => id }
  have hzero : ∀ {w w' : ReplicaSet}, w'.downBy side ≤ w.downBy side → w.downBy side = 0 →
      w'.downBy side = 0 :=
    fun hle hw => Nat.le_zero.mp (Nat.le_trans hle (Nat.le_of_eq hw))
  have hstart : Invariant.Holds (autoRecycle tf) (lambdas faults) (setting side) (downStages side).At
      (.idle (.at startAt payload 0), set) := ⟨hstrategy, hset⟩
  refine (Stages.holds_reaches hordered ?_ ?_ ?_ (fun he => hfaults _ he) hstart h).2
  · intro w w' hr
    have hle : w'.downBy side ≤ w.downBy side := downBy_rely hr
    exact ⟨hzero hle, hzero hle, fun _ => hzero hle, Nat.le_trans hle⟩
  · intro w w' function input r ha
    have hle : w'.downBy side ≤ w.downBy side := downBy_answers ha rfl
    exact ⟨hzero hle, Nat.le_trans hle⟩
  · exact fun hw => wp_lambdaHandler_down hw

/-- The runs of two executions on one replica set. -/
abbrev TwoReaches (tf : TfVars) (faults : TaskError → Prop) :
    (Live Calls State Resource × Live Calls State Resource) × ReplicaSet →
      (Live Calls State Resource × Live Calls State Resource) × ReplicaSet → Prop :=
  Pair.Reaches (autoRecycle tf) (lambdas faults) (setting .first) (setting .second) ReplicaSet.Progress

/-- For any interleaving of two executions of the Mongo branch on a replica set
    in which all members are healthy at the start and nothing else fails: each has
    at most one member terminated and not yet replaced and healthy, so at most two
    members are down. -/
theorem each_at_most_one_down (tf : TfVars) (faults : TaskError → Prop) (payload₁ payload₂ : Json)
    (hfaults : ∀ e, faults e → errorEquals lambdaErrors e = false)
    (hstrategy₁ : payload₁.get? ["strategy"] = some (.str "mongo"))
    (hstrategy₂ : payload₂.get? ["strategy"] = some (.str "mongo")) (set set' : ReplicaSet)
    (hset : set.down = 0) (l r : Live Calls State Resource)
    (h : TwoReaches tf faults
      ((.idle (.at startAt payload₁ 0), .idle (.at startAt payload₂ 0)), set) ((l, r), set')) :
    set'.downBy .first ≤ 1 ∧ set'.downBy .second ≤ 1 ∧ set'.down ≤ 2 := by
  rw [down_eq] at hset
  obtain ⟨hset₁, hset₂⟩ := Nat.add_eq_zero_iff.mp hset
  have hprogress : ∀ {side w w'}, ReplicaSet.Progress w w' → (setting side).rely w w' :=
    fun he => .single (.inl he)
  have hleft := Pair.reaches_left (fun ha => @rely_of_answers .first _ _ _ _ ha) hprogress h
  have hright := Pair.reaches_right (fun ha => @rely_of_answers .second _ _ _ _ ha) hprogress h
  have hfirst := downBy_le_one hfaults hstrategy₁ hset₁ hleft
  have hsecond := downBy_le_one hfaults hstrategy₂ hset₂ hright
  refine ⟨hfirst, hsecond, ?_⟩
  rw [down_eq]
  exact Nat.add_le_add hfirst hsecond

end

-- ============================================================================
-- Two members down
-- ============================================================================

namespace ReplicaSet

/-- What the set looks like at this moment. -/
def steady (set : ReplicaSet) : SteadySet where
  targetAmi := "ami-2"
  instances := set.running
  myState _ := 2
  members := set.seats.map fun s => SteadySet.member s.ipAddress s.state.stateStr

/-- The script of an execution, up to the first look at what it has terminated. -/
def answer (side : Side) (set : ReplicaSet) : (op : Op) → Option (op.Reply × ReplicaSet)
  | .describeInstancesById _ => none
  | .terminate id => some (.ok (), set.terminate side id)
  | .nodeStatus ipAddress =>
      match set.seats.find? fun s => s.ipAddress = ipAddress && s.state.isRunning with
      | some s => some (.ok (set.steady.status s.state.myState), set)
      | none => some (.error { cls := .mongoRequestFailed }, set)
  | op => some (set.steady.reply op, set)

theorem setting_of_answer {side : Side} {set : ReplicaSet} {op : Op} {r : op.Reply} {set' : ReplicaSet}
    (h : set.answer side op = some (r, set')) : (setting side).answers set op r set' := by
  cases op with
  | describeInstancesById id => cases h
  | terminate id =>
      cases h
      exact ⟨.inl rfl, trivial⟩
  | nodeStatus ipAddress =>
      rw [answer] at h
      split at h
      · rename_i s hs
        cases h
        have hfound := List.find?_some hs
        rw [Bool.and_eq_true, decide_eq_true_eq] at hfound
        refine ⟨rfl, fun st hst => ?_⟩
        cases hst
        exact .inl ⟨s, List.mem_of_find?_eq_some hs, hfound.1, hfound.2, rfl⟩
      · cases h
        exact ⟨rfl, nofun⟩
  | describeInstances values =>
      cases h
      refine ⟨rfl, fun reservations hr => ?_⟩
      cases hr
      have hrunning : ∀ i ∈ set.running, i.stateName = "running" := by
        intro i hi
        obtain ⟨s, -, rfl⟩ := List.mem_map.mp hi
        rfl
      have hall : ([{ instances := set.running : Reservation }].flatMap Reservation.instances).filter
          (fun i => i.stateName = "running") = set.running := by
        simpa using hrunning
      exact ⟨[], by rw [List.append_nil]; exact .of_eq hall⟩
  | replicaSetStatus conn =>
      cases h
      refine ⟨rfl, fun st hst => ?_⟩
      cases hst
      have hstates : ((set.steady.status 2).members.map Member.stateStr) =
          set.seats.map fun s => s.state.stateStr := by
        simp [steady, SteadySet.status, SteadySet.member]
      exact ⟨[], by rw [List.append_nil]; exact .of_eq hstates⟩
  | filterInstances id =>
      cases h
      refine ⟨rfl, fun ids hids i hi => ?_⟩
      cases hids
      exact List.mem_singleton.mp hi
  | replSetStepDown ipAddress secs =>
      cases h
      exact ⟨.refl, trivial⟩
  | _ =>
      cases h
      exact ⟨rfl, trivial⟩

end ReplicaSet

/-- A primary and two secondaries on the old AMI. -/
def oldSet : ReplicaSet where
  seats := [⟨"10.0.0.1", "i-a", "ami-1", .primary⟩, ⟨"10.0.0.2", "i-b", "ami-1", .secondary⟩,
    ⟨"10.0.0.3", "i-c", "ami-1", .secondary⟩]
  ids_nodup := by decide

def webMongoTags : List InvokeStepfunctions.Tag :=
  [⟨"autorecycle_strategy", "mongo"⟩, ⟨"autorecycle_recycle_on_asg_update", "true"⟩]

/-- What the executions are started with. -/
def webMongoPayload : Dict Json :=
  InvokeStepfunctions.payloadOf "1234" "team-infra" "web_mongo" "web_mongo-asg-1" webMongoTags

theorem strategy_webMongoPayload :
    (Json.obj webMongoPayload).get? ["strategy"] = some (.str "mongo") := by
  have hdescribes := InvokeStepfunctions.payloadOf_describes "1234" "team-infra" "web_mongo"
    "web_mongo-asg-1" webMongoTags
  have hstrategy := hdescribes.strings ("strategy", "autorecycle_strategy") (by simp)
  have hvalue : InvokeStepfunctions.firstValue webMongoTags "autorecycle_strategy" = some "mongo" := rfl
  rw [Json.get?_cons, Json.field?_obj, webMongoPayload, hstrategy, hvalue]
  rfl

/-- The executions as they are run against the script, one after the other. -/
def runAs (side : Side) (set : ReplicaSet) : Live Calls State Resource × ReplicaSet :=
  Live.drive (autoRecycle noVars) (lambdas fun _ => False) (ReplicaSet.answer side) 200
    (.idle (.at startAt (.obj webMongoPayload) 0), set)

/-- The second execution finds two instances running, and terminates another
    secondary. -/
theorem reaches_two_down : ∃ l r set,
    TwoReaches noVars (fun _ => False)
      ((.idle (.at startAt (.obj webMongoPayload) 0), .idle (.at startAt (.obj webMongoPayload) 0)), oldSet)
      ((l, r), set) ∧
    set.down = 2 := by
  have hrun : ∀ side set, Live.Reaches (autoRecycle noVars) (lambdas fun _ => False)
      (.alone (ReplicaSet.setting side).answers) (.idle (.at startAt (.obj webMongoPayload) 0), set)
      (runAs side set) := by
    intro side set
    refine Live.drive_reaches (fun {w op r w'} h => ?_) _ _
    exact ⟨w, rfl, ReplicaSet.setting_of_answer h⟩
  have hfirst : TwoReaches noVars (fun _ => False) _ _ :=
    Pair.reaches_of_left (.idle (.at startAt (.obj webMongoPayload) 0)) (hrun .first oldSet)
  have hsecond : TwoReaches noVars (fun _ => False) _ _ :=
    Pair.reaches_of_right (runAs .first oldSet).1 (hrun .second (runAs .first oldSet).2)
  exact ⟨_, _, _, hfirst.trans hsecond, by decide +kernel⟩

theorem each_at_most_one_down_oldSet : ∃ l r set,
    TwoReaches noVars (fun _ => False)
      ((.idle (.at startAt (.obj webMongoPayload) 0), .idle (.at startAt (.obj webMongoPayload) 0)), oldSet)
      ((l, r), set) ∧
    set.downBy .first ≤ 1 ∧ set.downBy .second ≤ 1 ∧ set.down ≤ 2 := by
  obtain ⟨l, r, set, hreaches, -⟩ := reaches_two_down
  exact ⟨l, r, set, hreaches, each_at_most_one_down noVars (fun _ => False) (.obj webMongoPayload)
    (.obj webMongoPayload) (fun _ => False.elim) strategy_webMongoPayload strategy_webMongoPayload oldSet
    set (by decide) l r hreaches⟩

/-- What the start lambda is answered in a given second. -/
def startedAt (now : String) : InvokeStepfunctions.Responses :=
  { InvokeStepfunctions.webReplies with now, started := .ok () }

/-- Started a second apart, two executions of one component take two members down. -/
theorem two_members_down :
    (∃ start₁ start₂ : InvokeStepfunctions.Start,
      (InvokeStepfunctions.sfStartExecution webMongoPayload).run (startedAt "20240101000000").answer [] =
        (.ok (), [start₁]) ∧
      (InvokeStepfunctions.sfStartExecution webMongoPayload).run (startedAt "20240101000001").answer [] =
        (.ok (), [start₂]) ∧
      start₁.name ≠ start₂.name ∧ start₁.input = webMongoPayload ∧ start₂.input = webMongoPayload) ∧
    oldSet.down = 0 ∧
    ∃ l r set, TwoReaches noVars (fun _ => False)
      ((.idle (.at startAt (.obj webMongoPayload) 0), .idle (.at startAt (.obj webMongoPayload) 0)), oldSet)
      ((l, r), set) ∧ set.down = 2 := by
  have hdescribes := InvokeStepfunctions.payloadOf_describes "1234" "team-infra" "web_mongo"
    "web_mongo-asg-1" webMongoTags
  refine ⟨⟨_, _, InvokeStepfunctions.run_sfStartExecution (startedAt _) hdescribes,
    InvokeStepfunctions.run_sfStartExecution (startedAt _) hdescribes, ?_, rfl, rfl⟩, by decide,
    reaches_two_down⟩
  have hname : InvokeStepfunctions.firstValue webMongoTags "autorecycle_override_component_name" = none :=
    rfl
  simp only [hname, Option.getD_none]
  decide +kernel

end AutoRecycle.Mongo
