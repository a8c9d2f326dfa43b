/-
  AutoRecycle.Asl.Trail

  Executions with a record of the tasks that they have run.

  `Trail` adds the record to `Reaches`.  What follows from the edges of a machine
  alone is proved here: along a rank that no edge makes smaller the tasks of a
  run are in order, and a state that all its edges leave upwards runs its task
  once, and once more for every retry.
-/
import AutoRecycle.Asl.Machine

namespace AutoRecycle.Asl

variable {σ τ W : Type}

-- ============================================================================
-- Records
-- ============================================================================

/-- A task that has been run. -/
structure TaskRun (σ : Type) where
  state : σ
  attempt : Nat
  input : Json
  answer : Except TaskError Json

/-- From `x` on the tasks `evs` have been run, and the execution is now at the
    configuration and in the world of the end. -/
inductive Trail (m : Machine σ τ) (T : Tasks τ W) (x : Cfg σ × W) :
    List (TaskRun σ) → Cfg σ × W → Prop where
  | refl : Trail m T x [] x
  | goto {evs s data n c w} (h : Trail m T x evs (.at s data n, w))
      (hs : (m s).start data = .goto c) : Trail m T x evs (c, w)
  | task {evs s data n t input w r w'} (h : Trail m T x evs (.at s data n, w))
      (hs : (m s).start data = .invoke t input) (hT : T t.resource input w r w') :
      Trail m T x (evs ++ [⟨s, n, input, r⟩]) (t.finish s data n r, w')

section
variable {m : Machine σ τ} {T : Tasks τ W} {x y : Cfg σ × W} {evs : List (TaskRun σ)}

theorem Trail.reaches (h : Trail m T x evs y) : Reaches m T x y := by
  induction h with
  | refl => exact .refl
  | goto _ hs ih => exact ih.tail (.goto hs)
  | task _ hs hT ih => exact ih.tail (.task hs hT)

/-- Every run has its record. -/
theorem reaches_iff_trail : Reaches m T x y ↔ ∃ evs, Trail m T x evs y := by
  constructor
  · intro h
    induction h with
    | refl => exact ⟨[], .refl⟩
    | tail _ hstep ih =>
        obtain ⟨evs, h⟩ := ih
        cases hstep with
        | goto hs => exact ⟨evs, h.goto hs⟩
        | task hs hT => exact ⟨_, h.task hs hT⟩
  · rintro ⟨evs, h⟩
    exact h.reaches

/-- What every move keeps holds along every run; the answers are those of the tasks. -/
theorem Trail.carries {I : List (TaskRun σ) → Cfg σ → Prop} (h : Trail m T x evs y)
    (hinit : I [] x.1)
    (hgoto : ∀ {evs s data n c}, I evs (.at s data n) → (m s).start data = .goto c → I evs c)
    (htask : ∀ {evs s data n t input w r w'}, I evs (.at s data n) →
      (m s).start data = .invoke t input → T t.resource input w r w' →
      I (evs ++ [⟨s, n, input, r⟩]) (t.finish s data n r)) : I evs y.1 := by
  induction h with
  | refl => exact hinit
  | goto _ hs ih => exact hgoto ih hs
  | task _ hs hT ih => exact htask ih hs hT

/-- The rule for what does not depend on the answers. -/
theorem Trail.invariant {I : List (TaskRun σ) → Cfg σ → Prop} (h : Trail m T x evs y)
    (hinit : I [] x.1)
    (hgoto : ∀ {evs s data n c}, I evs (.at s data n) → (m s).start data = .goto c → I evs c)
    (htask : ∀ {evs s data n t input r}, I evs (.at s data n) →
      (m s).start data = .invoke t input → I (evs ++ [⟨s, n, input, r⟩]) (t.finish s data n r)) :
    I evs y.1 :=
  h.carries hinit hgoto fun hI hs _ => htask hI hs

end

-- ============================================================================
-- Edges
-- ============================================================================

/-- The states that a state may go on to by itself. -/
def StateDef.onward : StateDef σ τ → List σ
  | choice rules default => default.toList ++ rules.map Prod.snd
  | wait _ next => [next]
  | pass _ _ next => [next]
  | _ => []

/-- The states that a task may go on to. -/
def Task.targets (t : Task σ τ) : List σ := t.next :: t.catchers.map Catcher.next

def StateDef.targets : StateDef σ τ → List σ
  | task t => t.targets
  | d => d.onward

/-- The errors that a machine fails with by itself. -/
def serviceErrors : List String :=
  ["States.Runtime", "States.NoChoiceMatched", "States.ParameterPathFailure",
    "States.ResultPathMatchFailure"]

/-- The execution goes on to one of the states, or ends. -/
def LeadsTo (states : List σ) (c : Cfg σ) : Prop :=
  (∃ s ∈ states, ∃ data, c = .at s data 0) ∨ c.Ended

/-- The attempts that the retriers allow, taken together. -/
def retryLimit (retry : List Retrier) : Nat := retry.foldr (fun retrier n => retrier.maxAttempts + n) 0

/-- How often the task may be tried again. -/
def Task.attempts (t : Task σ τ) : Nat := retryLimit t.retry

/-- How often the state may be done again. -/
def StateDef.attempts : StateDef σ τ → Nat
  | task t => t.attempts
  | _ => 0

section
variable {states : List σ} {s s' : σ} {data v input : Json} {n : Nat} {c : Cfg σ}

theorem LeadsTo.of_mem (h : s ∈ states) (data : Json) : LeadsTo states (.at s data 0) :=
  .inl ⟨s, h, data, rfl⟩

theorem leadsTo_putAndGo (path : Path) (h : s ∈ states) : LeadsTo states (putAndGo path v data s) := by
  obtain ⟨data', heq⟩ | ⟨error, cause, heq⟩ := putAndGo_cases path v data s
  · rw [heq]
    exact .of_mem h data'
  · rw [heq]
    exact .inr trivial

/-- A state that goes on by itself. -/
theorem StateDef.goto_leadsTo {d : StateDef σ τ} (h : d.start data = .goto c) :
    LeadsTo d.onward c := by
  cases d with
  | task t =>
      simp only [start] at h
      split at h
      · cases h
      · cases h
        exact .inr trivial
  | choice rules default =>
      cases h
      obtain ⟨s, hs, heq⟩ | ⟨error, cause, heq⟩ := choose_cases default data rules
      · rw [heq]
        refine .of_mem ?_ data
        rcases hs with rfl | hs
        · exact List.mem_append_left _ (List.mem_singleton_self s)
        · exact List.mem_append_right _ hs
      · rw [heq]
        exact .inr trivial
  | wait seconds next =>
      cases h
      exact .of_mem (List.mem_singleton_self next) data
  | pass result path next =>
      simp only [start] at h
      split at h
      · cases h
        exact leadsTo_putAndGo path (List.mem_singleton_self next)
      · cases h
        exact .inr trivial
  | succeed =>
      cases h
      exact .inr trivial
  | fail error cause =>
      cases h
      exact .inr trivial

theorem StateDef.onward_subset (d : StateDef σ τ) : d.onward ⊆ d.targets := by
  cases d with
  | task t => exact List.nil_subset _
  | _ => exact List.Subset.refl _

theorem LeadsTo.mono {states' : List σ} (h : LeadsTo states c) (hsub : states ⊆ states') :
    LeadsTo states' c := by
  rcases h with ⟨s, hs, hc⟩ | hended
  · exact .inl ⟨s, hsub hs, hc⟩
  · exact .inr hended

theorem StateDef.eq_task_of_invoke {d : StateDef σ τ} {t : Task σ τ}
    (h : d.start data = .invoke t input) : d = .task t := by
  cases d with
  | task t' =>
      simp only [start] at h
      split at h
      · cases h
        rfl
      · cases h
  | pass result path next =>
      simp only [start] at h
      split at h <;> cases h
  | _ => cases h

theorem lt_retryLimit {retry : List Retrier} {e : TaskError}
    (h : (retry.any fun r => errorEquals r.errors e && decide (n < r.maxAttempts)) = true) :
    n < retryLimit retry := by
  induction retry with
  | nil => cases h
  | cons retrier retry ih =>
      rw [List.any_cons, Bool.or_eq_true, Bool.and_eq_true, decide_eq_true_eq] at h
      rw [retryLimit, List.foldr_cons, ← retryLimit]
      rcases h with ⟨-, hn⟩ | h
      · omega
      · have hlt := ih h
        omega

theorem Task.lt_attempts {t : Task σ τ} {e : TaskError} (h : t.retries n e = true) : n < t.attempts :=
  lt_retryLimit h

/-- The task is done again, or the execution goes on. -/
theorem Task.finish_leadsTo (t : Task σ τ) (s : σ) (data : Json) (n : Nat) (r : Except TaskError Json) :
    (∃ e, r = .error e ∧ t.finish s data n r = .at s data (n + 1) ∧ n < t.attempts) ∨
      LeadsTo t.targets (t.finish s data n r) := by
  cases r with
  | ok out => exact .inr (leadsTo_putAndGo t.resultPath List.mem_cons_self)
  | error e =>
      rw [finish]
      split
      · rename_i hretry
        exact .inl ⟨e, rfl, rfl, lt_attempts hretry⟩
      · split
        · rename_i hfind
          have hmem := List.mem_map_of_mem (f := Catcher.next) (List.mem_of_find?_eq_some hfind)
          exact .inr (leadsTo_putAndGo _ (List.mem_cons_of_mem _ hmem))
        · exact .inr (.inr trivial)

/-- A step does the state again, or leads on from it. -/
theorem Step.leadsTo {w : W} {m : Machine σ τ}
    {T : Tasks τ W} {z : Cfg σ × W} (h : Step m T (.at s data n, w) z) :
    (z.1 = .at s data (n + 1) ∧ n < (m s).attempts) ∨ LeadsTo (m s).targets z.1 := by
  cases h with
  | goto hs => exact .inr ((StateDef.goto_leadsTo hs).mono (StateDef.onward_subset _))
  | @task s data n t input w r w' hs hT =>
      have ht := StateDef.eq_task_of_invoke hs
      rw [ht]
      rcases t.finish_leadsTo s data n r with ⟨e, -, heq, hn⟩ | hleads
      · exact .inl ⟨heq, hn⟩
      · exact .inr hleads

end

-- ============================================================================
-- Ends
-- ============================================================================

section
variable {s : σ} {data v out : Json} {n : Nat} {error cause : String}

theorem failed_of_choose {default : Option σ} {rules : List (Cond × σ)}
    (h : choose default data rules = .failed error cause) : error ∈ serviceErrors := by
  induction rules with
  | nil =>
      cases default with
      | some s => cases h
      | none =>
          cases h
          simp [serviceErrors]
  | cons rule rules ih =>
      obtain ⟨cond, target⟩ := rule
      rw [choose] at h
      split at h
      · cases h
      · exact ih h
      · cases h
        simp [serviceErrors]

theorem failed_of_putAndGo {path : Path} (h : putAndGo path v data s = .failed error cause) :
    error ∈ serviceErrors := by
  rw [putAndGo] at h
  split at h
  · cases h
  · cases h
    simp [serviceErrors]

/-- A state that ends the execution with an error: a Fail state, or one that
    reads or writes a path that is not there. -/
theorem StateDef.failed_of_goto {d : StateDef σ τ} (h : d.start data = .goto (.failed error cause)) :
    d = .fail error cause ∨ error ∈ serviceErrors := by
  cases d with
  | task t =>
      simp only [start] at h
      split at h
      · cases h
      · cases h
        exact .inr (by simp [serviceErrors])
  | choice rules default =>
      simp only [start, Move.goto.injEq] at h
      exact .inr (failed_of_choose h)
  | wait seconds next => cases h
  | pass result path next =>
      simp only [start] at h
      split at h
      · rw [Move.goto.injEq] at h
        exact .inr (failed_of_putAndGo h)
      · cases h
        exact .inr (by simp [serviceErrors])
  | succeed => cases h
  | fail error' cause' =>
      cases h
      exact .inl rfl

/-- Only a Succeed state ends the execution with an output. -/
theorem StateDef.succeed_of_goto {d : StateDef σ τ} (h : d.start data = .goto (.succeeded out)) :
    d = .succeed := by
  cases d with
  | succeed => rfl
  | task t =>
      simp only [start] at h
      split at h <;> cases h
  | choice rules default =>
      simp only [start, Move.goto.injEq] at h
      obtain ⟨s, -, heq⟩ | ⟨error, cause, heq⟩ := choose_cases default data rules
      · cases heq.symm.trans h
      · cases heq.symm.trans h
  | pass result path next =>
      simp only [start] at h
      split at h
      · rw [Move.goto.injEq, putAndGo] at h
        split at h <;> cases h
      · cases h
  | _ => cases h

/-- A task whose errors are all caught. -/
def Task.CatchesAll (t : Task σ τ) : Prop :=
  ∀ e, ∃ c, (t.catchers.find? fun c => errorEquals c.errors e) = some c

theorem Task.CatchesAll.failed (t : Task σ τ) (h : t.CatchesAll) {r : Except TaskError Json}
    (hfailed : t.finish s data n r = .failed error cause) : error ∈ serviceErrors := by
  cases r with
  | ok out => exact failed_of_putAndGo hfailed
  | error e =>
      obtain ⟨c, hc⟩ := h e
      rw [finish, hc] at hfailed
      split at hfailed
      · cases hfailed
      · exact failed_of_putAndGo hfailed

/-- A state that neither the retriers nor the catchers lead to is reached with the
    output of the task. -/
theorem Task.ok_of_finish {t : Task σ τ} {r : Except TaskError Json} {s' : σ} {data' : Json} {n' : Nat}
    (h : t.finish s data n r = .at s' data' n') (hs : s' ≠ s)
    (hcatch : s' ∉ t.catchers.map Catcher.next) :
    ∃ out, r = .ok out ∧ Json.put? t.resultPath out data = some data' := by
  cases r with
  | ok out =>
      rw [finish_ok, putAndGo] at h
      split at h
      · rename_i hput
        cases h
        exact ⟨out, rfl, hput⟩
      · cases h
  | error e =>
      rw [finish] at h
      split at h
      · cases h
        exact absurd rfl hs
      · split at h
        · rename_i hfind
          rw [putAndGo] at h
          split at h
          · cases h
            exact absurd (List.mem_map_of_mem (List.mem_of_find?_eq_some hfind)) hcatch
          · cases h
        · cases h

theorem Task.finish_ne_succeeded (t : Task σ τ) (r : Except TaskError Json) :
    t.finish s data n r ≠ .succeeded out := by
  intro h
  cases r with
  | ok out =>
      rw [finish_ok, putAndGo] at h
      split at h <;> cases h
  | error e =>
      rw [finish] at h
      split at h
      · cases h
      · split at h
        · rw [putAndGo] at h
          split at h <;> cases h
        · cases h

end

-- ============================================================================
-- Ranks
-- ============================================================================

/-- No edge leads down. -/
def Ordered (m : Machine σ τ) (rank : σ → Nat) : Prop :=
  ∀ s, ∀ s' ∈ (m s).targets, rank s ≤ rank s'

/-- Every edge of the state leads up. -/
def Ascends (m : Machine σ τ) (rank : σ → Nat) (s : σ) : Prop :=
  ∀ s' ∈ (m s).targets, rank s < rank s'

section
variable {m : Machine σ τ} {T : Tasks τ W} {x y : Cfg σ × W} {evs : List (TaskRun σ)} {rank : σ → Nat}

/-- What follows from the edges holds along every run. -/
theorem Trail.flow {I : List (TaskRun σ) → Cfg σ → Prop} (h : Trail m T x evs y) (hinit : I [] x.1)
    (hgoto : ∀ {evs s data n c}, I evs (.at s data n) → LeadsTo (m s).targets c → I evs c)
    (hagain : ∀ {evs s data n t input r}, I evs (.at s data n) → m s = .task t → n < t.attempts →
      I (evs ++ [⟨s, n, input, r⟩]) (.at s data (n + 1)))
    (hdone : ∀ {evs s data n input r c}, I evs (.at s data n) → LeadsTo (m s).targets c →
      I (evs ++ [⟨s, n, input, r⟩]) c) : I evs y.1 := by
  refine h.invariant hinit (fun hI hs =>
    hgoto hI ((StateDef.goto_leadsTo hs).mono (StateDef.onward_subset _))) ?_
  intro evs s data n t input r hI hs
  have ht := StateDef.eq_task_of_invoke hs
  rcases t.finish_leadsTo s data n r with ⟨e, -, heq, hn⟩ | hleads
  · rw [heq]
    exact hagain hI ht hn
  · refine hdone hI ?_
    rwa [ht]

/-- The tasks come before what is done next. -/
def NotAfter (rank : σ → Nat) (evs : List (TaskRun σ)) : Cfg σ → Prop
  | .at s _ _ => ∀ ev ∈ evs, rank ev.state ≤ rank s
  | _ => True

theorem NotAfter.leadsTo {s : σ} {data : Json} {n : Nat} {c : Cfg σ} (hm : Ordered m rank)
    (h : NotAfter rank evs (.at s data n)) (hc : LeadsTo (m s).targets c) : NotAfter rank evs c := by
  rcases hc with ⟨s', hmem, data', rfl⟩ | hended
  · exact fun ev hev => Nat.le_trans (h ev hev) (hm s s' hmem)
  · cases c with
    | «at» => exact hended.elim
    | _ => trivial

theorem NotAfter.append {s : σ} {data input : Json} {n : Nat} {r : Except TaskError Json}
    (h : NotAfter rank evs (.at s data n)) :
    NotAfter rank (evs ++ [⟨s, n, input, r⟩]) (.at s data n) := by
  intro ev hev
  rcases List.mem_append.mp hev with hev | hev
  · exact h ev hev
  · obtain rfl := List.mem_singleton.mp hev
    exact Nat.le_refl _

/-- The tasks are run in the order of the ranks. -/
theorem Trail.pairwise (h : Trail m T x evs y) (hm : Ordered m rank) :
    evs.Pairwise fun ev ev' => rank ev.state ≤ rank ev'.state := by
  have happend : ∀ {evs s data n input r}, evs.Pairwise (fun ev ev' => rank ev.state ≤ rank ev'.state) →
      NotAfter rank evs (.at s data n) →
      (evs ++ [(⟨s, n, input, r⟩ : TaskRun σ)]).Pairwise
        fun ev ev' => rank ev.state ≤ rank ev'.state := by
    intro evs s data n input r hevs hle
    refine List.pairwise_append.mpr ⟨hevs, List.pairwise_singleton _ _, fun ev hev ev' hev' => ?_⟩
    rw [List.mem_singleton.mp hev']
    exact hle ev hev
  have hboth : evs.Pairwise (fun ev ev' => rank ev.state ≤ rank ev'.state) ∧ NotAfter rank evs y.1 := by
    refine h.flow (I := fun evs c =>
      evs.Pairwise (fun ev ev' => rank ev.state ≤ rank ev'.state) ∧ NotAfter rank evs c) ?_ ?_ ?_ ?_
    · refine ⟨.nil, ?_⟩
      cases x.1 with
      | «at» => exact fun ev hev => absurd hev List.not_mem_nil
      | _ => trivial
    · rintro evs s data n c ⟨hevs, hle⟩ hc
      exact ⟨hevs, hle.leadsTo hm hc⟩
    · rintro evs s data n t input r ⟨hevs, hle⟩ - -
      exact ⟨happend hevs hle, hle.append⟩
    · rintro evs s data n input r c ⟨hevs, hle⟩ hc
      exact ⟨happend hevs hle, hle.append.leadsTo hm hc⟩
  exact hboth.1

/-- Nor is there a way back for the states that run no task. -/
theorem Reaches.rank_le {s s' : σ} {data data' : Json} {n n' : Nat} {w : W} (hm : Ordered m rank)
    (h : Reaches m T (.at s data n, w) y) (hy : y.1 = .at s' data' n') : rank s ≤ rank s' := by
  induction h generalizing s' data' n' with
  | refl =>
      cases hy
      exact Nat.le_refl _
  | @tail y z _ hstep ih =>
      obtain ⟨c, w'⟩ := y
      cases c with
      | succeeded out => exact absurd trivial hstep.not_ended
      | failed error cause => exact absurd trivial hstep.not_ended
      | «at» s₁ data₁ n₁ =>
          have hle := ih rfl
          rcases hstep.leadsTo with ⟨hagain, -⟩ | ⟨s₂, hmem, data₂, hon⟩ | hended
          · cases hy.symm.trans hagain
            exact hle
          · cases hy.symm.trans hon
            exact Nat.le_trans hle (hm _ _ hmem)
          · rw [hy] at hended
            exact hended.elim

variable [DecidableEq σ]

/-- How often the task of the state has been run. -/
def timesRun (s : σ) (evs : List (TaskRun σ)) : Nat := evs.countP fun ev => ev.state = s

theorem timesRun_append {s : σ} {ev : TaskRun σ} :
    timesRun s (evs ++ [ev]) = timesRun s evs + if ev.state = s then 1 else 0 := by
  rw [timesRun, List.countP_append, List.countP_singleton]
  simp [timesRun]

/-- Where a state is not come back to: there for as often as its task has been
    run, not yet there, or past it. -/
def Counted (rank : σ → Nat) (s : σ) (limit : Nat) (evs : List (TaskRun σ)) : Cfg σ → Prop
  | .at s' _ n => (s' = s ∧ timesRun s evs = n ∧ n ≤ limit) ∨
      (s' ≠ s ∧ timesRun s evs = 0) ∨ (rank s < rank s' ∧ timesRun s evs ≤ limit + 1)
  | _ => timesRun s evs ≤ limit + 1

section
variable {s s' : σ} {limit n : Nat} {data : Json} {c : Cfg σ}

theorem counted_leadsTo (hm : Ordered m rank) (hs : Ascends m rank s) (hc : LeadsTo (m s').targets c)
    (h : (s' = s ∧ timesRun s evs ≤ limit + 1) ∨ (s' ≠ s ∧ timesRun s evs = 0) ∨
      (rank s < rank s' ∧ timesRun s evs ≤ limit + 1)) : Counted rank s limit evs c := by
  have hle : timesRun s evs ≤ limit + 1 := by omega
  rcases hc with ⟨next, hmem, data', rfl⟩ | hended
  · rcases h with ⟨rfl, -⟩ | ⟨-, hzero⟩ | ⟨hlt, -⟩
    · exact .inr (.inr ⟨hs next hmem, hle⟩)
    · by_cases hnext : next = s
      · exact .inl ⟨hnext, hzero, Nat.zero_le _⟩
      · exact .inr (.inl ⟨hnext, hzero⟩)
    · exact .inr (.inr ⟨Nat.lt_of_lt_of_le hlt (hm s' next hmem), hle⟩)
  · cases c with
    | «at» => exact hended.elim
    | _ => exact hle

/-- The task of the state that the execution is at has been run. -/
theorem Counted.append (h : Counted rank s limit evs (.at s' data n)) (input : Json)
    (r : Except TaskError Json) :
    (s' = s ∧ timesRun s (evs ++ [⟨s', n, input, r⟩]) = n + 1 ∧ n ≤ limit) ∨
      (s' ≠ s ∧ timesRun s (evs ++ [⟨s', n, input, r⟩]) = 0) ∨
      (rank s < rank s' ∧ timesRun s (evs ++ [⟨s', n, input, r⟩]) ≤ limit + 1) := by
  rw [timesRun_append]
  rcases h with ⟨rfl, htimes, hn⟩ | ⟨hne, hzero⟩ | ⟨hlt, hle⟩
  · exact .inl ⟨rfl, by rw [if_pos rfl, htimes], hn⟩
  · exact .inr (.inl ⟨hne, by rw [if_neg hne, hzero]⟩)
  · have hne : s' ≠ s := by
      rintro rfl
      exact absurd hlt (Nat.lt_irrefl _)
    exact .inr (.inr ⟨hlt, by rwa [if_neg hne]⟩)

/-- A state that is not come back to runs its task once, and once more for every
    retry. -/
theorem Trail.timesRun_le {w : W} {t : Task σ τ} (h : Trail m T (.at s' data 0, w) evs y)
    (hm : Ordered m rank) (hs : Ascends m rank s) (ht : m s = .task t) :
    timesRun s evs ≤ t.attempts + 1 := by
  have hcounted : Counted rank s t.attempts evs y.1 := by
    refine h.flow (I := Counted rank s t.attempts) ?_ ?_ ?_ ?_
    · by_cases hfirst : s' = s
      · exact .inl ⟨hfirst, rfl, Nat.zero_le _⟩
      · exact .inr (.inl ⟨hfirst, rfl⟩)
    · intro evs s' data n c hI hc
      refine counted_leadsTo hm hs hc ?_
      rcases hI with ⟨hfirst, htimes, hn⟩ | hI
      · exact .inl ⟨hfirst, by omega⟩
      · exact .inr hI
    · intro evs s' data n t' input r hI ht' hn
      rcases hI.append input r with ⟨rfl, htimes, -⟩ | hI
      · cases ht.symm.trans ht'
        exact .inl ⟨rfl, htimes, hn⟩
      · exact .inr hI
    · intro evs s' data n input r c hI hc
      refine counted_leadsTo hm hs hc ?_
      rcases hI.append input r with ⟨hfirst, htimes, hn⟩ | hI
      · exact .inl ⟨hfirst, by omega⟩
      · exact .inr hI
  cases hy : y.1 with
  | «at» s'' data' n =>
      rw [hy] at hcounted
      rcases hcounted with ⟨-, htimes, hn⟩ | ⟨-, hzero⟩ | ⟨-, hle⟩ <;> omega
  | succeeded out =>
      rw [hy] at hcounted
      exact hcounted
  | failed error cause =>
      rw [hy] at hcounted
      exact hcounted

end

end

end AutoRecycle.Asl
