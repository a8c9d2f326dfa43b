/-
  AutoRecycle.Mongo.Polls

  How often `poll` runs its function, when it sleeps, and what comes out of it.

  The outside answers deterministically, from a state `W` in which `made` counts
  the runs of the function so far, and the count decides how the next run ends
  (`Yields`).  `pollAt` is the loop from its `i`-th iteration; `pollAt_eq` is its
  body, with the limit tested after the attempt.  What an iteration adds to the
  calls is said three times, once for each way out of the body, and
  `polled_pollAt` puts the iterations together by induction on how many are left
  until the one that stops the loop.
-/
import AutoRecycle.Mongo.Runs

namespace AutoRecycle.Mongo

open AutoRecycle.Effect AutoRecycle.Py

-- ============================================================================
-- Results one after the other
-- ============================================================================

section
variable {W α β : Type}

/-- The `n`-th run of `p` ends with `results n`, whatever is logged and however
    long the caller sleeps in between; `made` counts the runs. -/
structure Yields (answer : W → (op : Op) → op.Reply × W) (made : W → Nat) (p : Py α)
    (results : Nat → Except PyExc α) : Prop where
  result (w : W) : (p.run answer w).1 = results (made w + 1)
  counted (w : W) : made (p.run answer w).2 = made w + 1
  logged (w : W) (line : LogLine) : made (answer w (.log line)).2 = made w
  slept (w : W) (secs : Nat) : made (answer w (.sleep secs)).2 = made w

/-- The calls but for the log lines. -/
def unlogged (t : Trace Calls) : Trace Calls :=
  t.filter fun ev => match ev.1 with
    | .log _ => false
    | _ => true

/-- Run from `w`, `q` ends with `result` after `n` runs of `p`.  Between two of
    them it sleeps once, and it makes no other calls. -/
structure Polled (answer : W → (op : Op) → op.Reply × W) (made : W → Nat) (p : Py α) (secs : Nat)
    (q : Py β) (w : W) (n : Nat) (result : Except PyExc β) : Prop where
  result : (q.run answer w).1 = result
  counted : made (q.run answer w).2 = made w + n
  paced : ∃ ws : List W, ws.map made = List.range' (made w) n ∧
    unlogged (q.calls answer w) =
      [⟨.sleep secs, ()⟩].intercalate (ws.map fun w' => unlogged (p.calls answer w'))

variable {answer : W → (op : Op) → op.Reply × W} {made : W → Nat} {p : Py α}

/-- A check of the result needs no call. -/
theorem Yields.check {results : Nat → Except PyExc α} (h : Yields answer made p results)
    (check : α → Except PyExc β) :
    Yields answer made (p >>= fun a => raise (check a)) fun n => results n >>= check where
  result w := by
    rw [Prog.run_bind, ← h.result w]
    generalize p.run answer w = r
    obtain ⟨e | a, w'⟩ := r <;> simp
  counted w := by
    rw [← h.counted w, Prog.run_bind]
    generalize p.run answer w = r
    obtain ⟨e | a, w'⟩ := r <;> simp
  logged := h.logged
  slept := h.slept

theorem calls_check (check : α → Except PyExc β) (w : W) :
    (p >>= fun a => raise (check a)).calls answer w = p.calls answer w := by
  rw [Prog.calls_bind]
  generalize p.run answer w = r
  obtain ⟨e | a, w'⟩ := r
  · exact List.append_nil _
  · exact (congrArg _ (Prog.calls_ofExcept _ _)).trans (List.append_nil _)

theorem Polled.of_check {check : α → Except PyExc β} {secs n : Nat} {q : Py Unit} {w : W}
    {result : Except PyExc Unit}
    (h : Polled answer made (p >>= fun a => raise (check a)) secs q w n result) :
    Polled answer made p secs q w n result where
  result := h.result
  counted := h.counted
  paced := by
    obtain ⟨ws, hmade, hcalls⟩ := h.paced
    simp only [calls_check] at hcalls
    exact ⟨ws, hmade, hcalls⟩

end

-- ============================================================================
-- One iteration
-- ============================================================================

/-- The loop of `poll` from its `i`-th iteration. -/
def pollAt (fn : Py Unit) (maxIters : Int) (sleepForSeconds : Option Nat) (i : Nat) : Py Unit :=
  pollFrom fn maxIters sleepForSeconds (maxIters.toNat - i) i

section
variable {fn : Py Unit} {maxIters : Int} {i : Nat}

/-- The body of the loop. -/
theorem pollAt_eq (secs : Option Nat) :
    pollAt fn maxIters secs i = (do
      match ← fn.attempt with
      | .ok () => log .pollingSucceeded
      | .error error => do
          log (.pollFailed i error)
          if maxIters ≤ i then do
            log (.givingUp maxIters)
            raise (.error error)
          else do
            pause secs
            pollAt fn maxIters secs (i + 1)) := by
  rw [pollAt]
  cases hleft : maxIters.toNat - i with
  | zero =>
      have hlimit : maxIters ≤ i := by omega
      simp only [if_pos hlimit]
      exact (pollFrom.eq_def fn maxIters secs 0 i).trans rfl
  | succ left =>
      have hlimit : ¬maxIters ≤ i := by omega
      have hnext : maxIters.toNat - (i + 1) = left := by omega
      simp only [if_neg hlimit, pollAt, hnext]
      exact (pollFrom.eq_def fn maxIters secs (left + 1) i).trans rfl

variable {W : Type} {answer : W → (op : Op) → op.Reply × W} {made : W → Nat} {secs : Nat}
  {results : Nat → Except PyExc Unit} {w : W}

/-- A run that succeeds ends the loop. -/
theorem polled_succeeded (h : Yields answer made fn results) (hok : results (made w + 1) = .ok ()) :
    Polled answer made fn secs (pollAt fn maxIters (some secs) i) w 1 (.ok ()) := by
  have hfn : (fn.run answer w).1 = .ok () := (h.result w).trans hok
  have hrun : (pollAt fn maxIters (some secs) i).run answer w =
      (.ok (), (answer (fn.run answer w).2 (.log .pollingSucceeded)).2) := by
    rw [pollAt_eq, Prog.run_attempt_bind, hfn]
    rfl
  have hcalls : (pollAt fn maxIters (some secs) i).calls answer w =
      fn.calls answer w ++ [⟨.log .pollingSucceeded, ()⟩] := by
    rw [pollAt_eq, Prog.calls_attempt_bind, hfn]
    rfl
  refine ⟨by rw [hrun], ?_, [w], rfl, ?_⟩
  · rw [hrun, h.logged, h.counted]
  · rw [hcalls]
    simp [unlogged]

/-- A run that fails at the limit ends the loop, and its error is raised. -/
theorem polled_gaveUp (h : Yields answer made fn results) {e : PyExc}
    (herror : results (made w + 1) = .error e) (hlimit : maxIters ≤ i) :
    Polled answer made fn secs (pollAt fn maxIters (some secs) i) w 1 (.error e) := by
  have hfn : (fn.run answer w).1 = .error e := (h.result w).trans herror
  have hrun : (pollAt fn maxIters (some secs) i).run answer w =
      (.error e, (answer (answer (fn.run answer w).2 (.log (.pollFailed i e))).2
        (.log (.givingUp maxIters))).2) := by
    rw [pollAt_eq, Prog.run_attempt_bind, hfn]
    simp only [if_pos hlimit]
    rfl
  have hcalls : (pollAt fn maxIters (some secs) i).calls answer w =
      fn.calls answer w ++ [⟨.log (.pollFailed i e), ()⟩, ⟨.log (.givingUp maxIters), ()⟩] := by
    rw [pollAt_eq, Prog.calls_attempt_bind, hfn]
    simp only [if_pos hlimit]
    rfl
  refine ⟨by rw [hrun], ?_, [w], rfl, ?_⟩
  · rw [hrun, h.logged, h.logged, h.counted]
  · rw [hcalls]
    simp [unlogged]

/-- A run that fails below the limit is followed by a sleep and the next iteration. -/
theorem polled_again (h : Yields answer made fn results) {e : PyExc}
    (herror : results (made w + 1) = .error e) (hlimit : ¬maxIters ≤ i) (hsecs : 0 < secs) {n : Nat}
    {result : Except PyExc Unit}
    (hnext : ∀ w', made w' = made w + 1 → Polled answer made fn secs
      (pollAt fn maxIters (some secs) (i + 1)) w' (n + 1) result) :
    Polled answer made fn secs (pollAt fn maxIters (some secs) i) w (n + 2) result := by
  have hfn : (fn.run answer w).1 = .error e := (h.result w).trans herror
  let w' := (answer (answer (fn.run answer w).2 (.log (.pollFailed i e))).2 (.sleep secs)).2
  have hmade : made w' = made w + 1 := by rw [h.slept, h.logged, h.counted]
  have hpause : pause (some secs) = sleep secs := if_pos (Nat.ne_of_gt hsecs)
  have hrun : (pollAt fn maxIters (some secs) i).run answer w =
      (pollAt fn maxIters (some secs) (i + 1)).run answer w' := by
    rw [pollAt_eq, Prog.run_attempt_bind, hfn]
    simp only [if_neg hlimit, hpause]
    rfl
  have hcalls : (pollAt fn maxIters (some secs) i).calls answer w =
      fn.calls answer w ++ ⟨.log (.pollFailed i e), ()⟩ :: ⟨.sleep secs, ()⟩ ::
        (pollAt fn maxIters (some secs) (i + 1)).calls answer w' := by
    rw [pollAt_eq, Prog.calls_attempt_bind, hfn]
    simp only [if_neg hlimit, hpause]
    rfl
  obtain ⟨hresult, hcounted, ws, hws, hpaced⟩ := hnext w' hmade
  refine ⟨by rw [hrun, hresult], ?_, w :: ws, ?_, ?_⟩
  · rw [hrun, hcounted, hmade]
    omega
  · rw [List.map_cons, hws, hmade]
    rfl
  · have hne : ws.map (fun w' => unlogged (fn.calls answer w')) ≠ [] := by
      rintro hnil
      rw [List.map_eq_nil_iff.mp hnil] at hws
      cases hws
    rw [hcalls, List.map_cons, List.intercalate_cons_of_ne_nil hne, ← hpaced]
    simp [unlogged]

-- ============================================================================
-- The whole loop
-- ============================================================================

/-- The loop ends with the first run that succeeds or comes to the limit. -/
theorem polled_pollAt (h : Yields answer made fn results) (hsecs : 0 < secs) {n : Nat}
    (hbefore : ∀ j, i ≤ j → j < i + n → results j ≠ .ok () ∧ ¬maxIters ≤ j)
    (hlast : results (i + n) = .ok () ∨ maxIters ≤ (i + n : Nat)) (hw : made w + 1 = i) :
    Polled answer made fn secs (pollAt fn maxIters (some secs) i) w (n + 1) (results (i + n)) := by
  induction n generalizing i w with
  | zero =>
      rw [Nat.add_zero] at hlast ⊢
      cases hresult : results i with
      | ok u => exact polled_succeeded h (hw ▸ hresult)
      | error e =>
          have hlimit := hlast.resolve_left (by simp [hresult])
          exact polled_gaveUp h (hw ▸ hresult) hlimit
  | succ n ih =>
      obtain ⟨hfail, hlimit⟩ := hbefore i (Nat.le_refl i) (by omega)
      cases hresult : results i with
      | ok u => exact absurd hresult hfail
      | error e =>
          refine polled_again h (hw ▸ hresult) hlimit hsecs fun w' hw' => ?_
          have hshift : i + (n + 1) = i + 1 + n := by omega
          rw [hshift] at hlast ⊢
          exact ih (fun j hij hj => hbefore j (by omega) (by omega)) hlast (by omega)

section
variable (h : Yields answer made fn results) (hsecs : 0 < secs) (hw : made w = 0)
include h hsecs hw

theorem poll_returns {k : Nat} (hk : 1 ≤ k) (hlimit : (k : Int) ≤ max 1 maxIters)
    (hok : results k = .ok ()) (hbefore : ∀ j, 1 ≤ j → j < k → results j ≠ .ok ()) :
    Polled answer made fn secs (poll fn maxIters (some secs)) w k (.ok ()) := by
  obtain ⟨n, rfl⟩ := Nat.exists_eq_add_of_le' hk
  rw [Nat.add_comm n 1] at hok
  have hpolled : Polled answer made fn secs (pollAt fn maxIters (some secs) 1) w (n + 1)
      (results (1 + n)) :=
    polled_pollAt h hsecs (fun j hj hjn => ⟨hbefore j hj (by omega), by omega⟩) (.inl hok) (by omega)
  rwa [hok] at hpolled

theorem poll_givesUp {n : Nat} (hlimit : (n : Int) = max 1 maxIters)
    (hfail : ∀ j, 1 ≤ j → j ≤ n → results j ≠ .ok ()) : ∃ e, results n = .error e ∧
      Polled answer made fn secs (poll fn maxIters (some secs)) w n (.error e) := by
  obtain ⟨m, rfl⟩ := Nat.exists_eq_add_of_le' (show 1 ≤ n by omega)
  have hpolled : Polled answer made fn secs (pollAt fn maxIters (some secs) 1) w (m + 1)
      (results (1 + m)) :=
    polled_pollAt h hsecs (fun j hj hjm => ⟨hfail j hj (by omega), by omega⟩) (.inr (by omega))
      (by omega)
  rw [Nat.add_comm 1 m] at hpolled
  cases hresult : results (m + 1) with
  | ok u => exact absurd hresult (hfail (m + 1) (by omega) (by omega))
  | error e => exact ⟨e, rfl, hresult ▸ hpolled⟩

end

end

-- ============================================================================
-- The health poll
-- ============================================================================

/-- The status read of `assert_healthy`. -/
def readStatus (component : String) : Py ReplSetStatus := do
  let host ← raise (joinIpAddresses (← getMongoDbInstances component))
  replicaSetStatus host

theorem assertHealthy_eq (component : String) : assertHealthy component =
    readStatus component >>= fun st => raise (assertReplicaSetHealthy st) := by
  simp only [assertHealthy, readStatus, bind_assoc]

/-- A status read that comes back with a good member list. -/
def IsGood (r : Except PyExc ReplSetStatus) : Prop := ∃ st, r = .ok st ∧ Good st.members

theorem check_eq_ok {r : Except PyExc ReplSetStatus} :
    r >>= assertReplicaSetHealthy = .ok () ↔ IsGood r := by
  rw [bind_eq_ok]
  simp only [assertReplicaSetHealthy_eq_ok_iff_good, IsGood]

section
variable {W : Type} {answer : W → (op : Op) → op.Reply × W} {made : W → Nat} {component : String}
  {results : Nat → Except PyExc ReplSetStatus} {w : W}

theorem waitUntilClusterHealthy_returns (h : Yields answer made (readStatus component) results)
    (hw : made w = 0) {k : Nat} (hk : 1 ≤ k) (hlimit : k ≤ 60) (hgood : IsGood (results k))
    (hbefore : ∀ j, 1 ≤ j → j < k → ¬IsGood (results j)) :
    Polled answer made (readStatus component) 10 (waitUntilClusterHealthy component) w k (.ok ()) := by
  have hchecked := h.check assertReplicaSetHealthy
  rw [waitUntilClusterHealthy, assertHealthy_eq]
  have hmax : (k : Int) ≤ max 1 60 := by omega
  refine (poll_returns hchecked (by omega) hw hk hmax (check_eq_ok.mpr hgood) ?_).of_check
  exact fun j hj hjk hok => hbefore j hj hjk (check_eq_ok.mp hok)

theorem waitUntilClusterHealthy_givesUp (h : Yields answer made (readStatus component) results)
    (hw : made w = 0) (hbad : ∀ j, 1 ≤ j → j ≤ 60 → ¬IsGood (results j)) :
    ∃ e, results 60 >>= assertReplicaSetHealthy = .error e ∧
      Polled answer made (readStatus component) 10 (waitUntilClusterHealthy component) w 60
        (.error e) := by
  have hchecked := h.check assertReplicaSetHealthy
  rw [waitUntilClusterHealthy, assertHealthy_eq]
  have hsecs : 0 < 10 := by omega
  have hmax : ((60 : Nat) : Int) = max 1 60 := rfl
  obtain ⟨e, herror, hpolled⟩ := poll_givesUp hchecked hsecs hw hmax
    (fun j hj hjk hok => hbad j hj hjk (check_eq_ok.mp hok))
  exact ⟨e, herror, hpolled.of_check⟩

end

/-- The health poll reads until the first good status, at most 60 times, and
    `poll` runs its function until the first success, at most `max 1 maxIters`
    times.  Both sleep once between two runs, and raise the last error. -/
theorem waits_for_first_good_status :
    (∀ {W : Type} {answer : W → (op : Op) → op.Reply × W} {made : W → Nat} {component : String}
      {results : Nat → Except PyExc ReplSetStatus},
      Yields answer made (readStatus component) results → ∀ w, made w = 0 →
        (∀ k, 1 ≤ k → k ≤ 60 → IsGood (results k) → (∀ j, 1 ≤ j → j < k → ¬IsGood (results j)) →
          Polled answer made (readStatus component) 10 (waitUntilClusterHealthy component) w k
            (.ok ())) ∧
        ((∀ j, 1 ≤ j → j ≤ 60 → ¬IsGood (results j)) →
          ∃ e, results 60 >>= assertReplicaSetHealthy = .error e ∧
            Polled answer made (readStatus component) 10 (waitUntilClusterHealthy component) w 60
              (.error e))) ∧
    (∀ {W : Type} {answer : W → (op : Op) → op.Reply × W} {made : W → Nat} {fn : Py Unit}
      {results : Nat → Except PyExc Unit} (maxIters : Int) {secs : Nat},
      Yields answer made fn results → 0 < secs → ∀ w, made w = 0 →
        (∀ k : Nat, 1 ≤ k → k ≤ max 1 maxIters → results k = .ok () →
          (∀ j, 1 ≤ j → j < k → results j ≠ .ok ()) →
          Polled answer made fn secs (poll fn maxIters (some secs)) w k (.ok ())) ∧
        (∀ n : Nat, n = max 1 maxIters → (∀ j, 1 ≤ j → j ≤ n → results j ≠ .ok ()) →
          ∃ e, results n = .error e ∧
            Polled answer made fn secs (poll fn maxIters (some secs)) w n (.error e))) := by
  constructor
  · intro W answer made component results h w hw
    exact ⟨fun k => waitUntilClusterHealthy_returns h hw, waitUntilClusterHealthy_givesUp h hw⟩
  · intro W answer made fn results maxIters secs h hsecs w hw
    exact ⟨fun k => poll_returns h hsecs hw, fun n => poll_givesUp h hsecs hw⟩

/-- The outside of a health poll whose `n`-th status read is answered by
    `results n`.  No instance is listed, every connection is made, and nothing
    else is answered. -/
def statusAnswer (results : Nat → Except PyExc ReplSetStatus) (n : Nat) : (op : Op) → op.Reply × Nat
  | .now => ((0 : Int), n)
  | .time => ((0 : Int), n)
  | .sleep _ => ((), n)
  | .getenv _ => (none, n)
  | .log _ => ((), n)
  | .describeInstances _ => (.ok [], n)
  | .connect _ => (.ok (), n)
  | .replicaSetStatus _ => (results (n + 1), n + 1)
  | .describeAutoScalingGroups => (.error { cls := .clientError }, n)
  | .describeScalingActivities _ => (.error { cls := .clientError }, n)
  | .executePolicy .. => (.error { cls := .clientError }, n)
  | .describeLaunchTemplates _ => (.error { cls := .clientError }, n)
  | .describeLaunchTemplateVersions .. => (.error { cls := .clientError }, n)
  | .describeInstancesById _ => (.error { cls := .clientError }, n)
  | .filterInstances _ => (.error { cls := .clientError }, n)
  | .terminate _ => (.error { cls := .clientError }, n)
  | .putItem .. => (.error { cls := .clientError }, n)
  | .nodeStatus _ => (.error { cls := .clientError }, n)
  | .replSetGetConfig _ => (.error { cls := .clientError }, n)
  | .replSetReconfig .. => (.error { cls := .clientError }, n)
  | .replSetStepDown .. => (.error { cls := .clientError }, n)
  | .invoke .. => (.error { cls := .clientError }, n)

/-- Every sequence of results is the one of some outside. -/
theorem yields_statusAnswer (results : Nat → Except PyExc ReplSetStatus) (component : String) :
    Yields (statusAnswer results) id (readStatus component) results := by
  have hrun : ∀ n, (readStatus component).run (statusAnswer results) n = (results (n + 1), n + 1) := by
    intro n
    exact run_raise (results (n + 1)) (n + 1)
  exact ⟨fun n => by rw [hrun]; rfl, fun n => by rw [hrun]; rfl, fun _ _ => rfl, fun _ _ => rfl⟩

/-- The first read finds the primary gone, the second one finds it back. -/
def primaryBack (n : Nat) : Except PyExc ReplSetStatus :=
  if n ≤ 1 then .error { cls := .autoReconnect }
  else .ok { ok := 1, myState := some 1, set := "rs0",
             members := [{ name := "10.0.0.1:27017", stateStr := "PRIMARY", syncSourceHost := none }] }

theorem waits_for_first_good_status_primaryBack :
    Polled (statusAnswer primaryBack) id (readStatus "mongo") 10 (waitUntilClusterHealthy "mongo")
      0 2 (.ok ()) ∧
    Polled (statusAnswer primaryBack) id (assertHealthy "mongo") 3
      (poll (assertHealthy "mongo") (-1) (some 3)) 0 1 (.error { cls := .autoReconnect }) := by
  have hyields := yields_statusAnswer primaryBack "mongo"
  constructor
  · have hgood : IsGood (primaryBack 2) :=
      ⟨_, rfl, by simp, by decide, by simp⟩
    refine (waits_for_first_good_status.1 hyields 0 rfl).1 2 (by omega) (by omega) hgood ?_
    intro j hj hj2
    obtain rfl : j = 1 := by omega
    rintro ⟨st, hst, -⟩
    cases hst
  · have hchecked := hyields.check assertReplicaSetHealthy
    rw [← assertHealthy_eq] at hchecked
    have hfail : ∀ j, 1 ≤ j → j ≤ 1 → (primaryBack j >>= assertReplicaSetHealthy) ≠ .ok () := by
      intro j hj hj1 hok
      obtain rfl : j = 1 := by omega
      cases hok
    have hsecs : 0 < 3 := by omega
    obtain ⟨e, he, hpolled⟩ :=
      (waits_for_first_good_status.2 (-1) hchecked hsecs 0 rfl).2 1 rfl hfail
    cases he
    exact hpolled

end AutoRecycle.Mongo
