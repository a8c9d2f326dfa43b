/-
  AutoRecycle.Asl.Ranked

  Machines with Parallel and Map states that have no loop.

  The states of such a machine have ranks, and every state that a state names has
  a smaller one (`Ranked`).  Its executions come to an end whatever the tasks
  answer.  That is not the order of the ranks alone: a task may be done again,
  and a Map state comes back to its iterator for each item.  The proof is by
  induction on the rank of the state that is being done, and carries along that
  the frames around it can be left, normally or with an error, for good
  (`Leavable`).
-/
import AutoRecycle.Asl.Nested
import AutoRecycle.Asl.Trail

namespace AutoRecycle.Asl.Nested

variable {σ τ : Type}

-- ============================================================================
-- Transitions
-- ============================================================================

/-- One transition of the execution that was started with `input`: a state that
    goes on by itself, or a task with any answer. -/
inductive Next (m : Machine σ τ) (input : Json) : Cfg σ → Cfg σ → Prop where
  | goto {s data n stack c} (h : (m s).start input stack data = .goto c) :
      Next m input (.at s data n stack) c
  | task {s data n stack t taskInput r}
      (h : (m s).start input stack data = .invoke t taskInput) :
      Next m input (.at s data n stack) (t.finish input s data n stack r)

/-- There is no endless execution from `c`. -/
def Terminates (m : Machine σ τ) (input : Json) (c : Cfg σ) : Prop :=
  Acc (fun y x => Next m input x y) c

namespace Cfg

def Ended : Cfg σ → Prop
  | .at .. => False
  | .succeeded _ => True
  | .failed .. => True

end Cfg

section
variable {m : Machine σ τ} {input : Json}

theorem Next.not_ended {c d : Cfg σ} (h : Next m input c d) : ¬ c.Ended := by
  cases h <;> exact id

theorem Terminates.of_next {c : Cfg σ} (h : ∀ d, Next m input c d → Terminates m input d) :
    Terminates m input c :=
  Acc.intro c h

theorem Terminates.of_ended {c : Cfg σ} (h : c.Ended) : Terminates m input c :=
  .of_next fun _ hs => absurd h hs.not_ended

/-- From a terminating configuration no sequence of transitions goes on for ever. -/
theorem Terminates.no_endless {c : Cfg σ} (h : Terminates m input c) (f : Nat → Cfg σ)
    (h₀ : f 0 = c) : ∃ i, ¬ Next m input (f i) (f (i + 1)) := by
  by_contra hall
  have hnext : ∀ i, Next m input (f i) (f (i + 1)) := fun i => by
    by_contra hnot
    exact hall ⟨i, hnot⟩
  have hnone : ∀ c, Terminates m input c → ∀ i, f i ≠ c := by
    intro c hc
    induction hc with
    | intro c _ ih => exact fun i hi => ih _ (hi ▸ hnext i) (i + 1) rfl
  exact hnone c h 0 h₀

end

/-- Only a Task runs a task. -/
theorem StateDef.task_of_invoke {d : StateDef σ τ} {t : TaskState σ τ} {input data taskInput : Json}
    {stack : List (Frame σ)} (h : d.start input stack data = .invoke t taskInput) :
    d = .task t ∧ t.parameters ⟨input, currentItem stack⟩ data = some taskInput := by
  cases d with
  | task t' =>
      obtain ⟨rfl, hparams⟩ := start_task_invoke h
      exact ⟨rfl, hparams⟩
  | map m => exact absurd h start_map_ne_invoke
  | _ => cases h

section
variable {m : Machine σ τ} {input : Json} {S : Effect.Signature} {W : Type} {H : Host S τ}
  {K : Effect.Setting S W}

/-- A step of a run is a transition, or a move of the world. -/
theorem Step.next {x y : Cfg σ × W} {evs : List (Ran S σ)} (h : Step m H K input x evs y) :
    Next m input x.1 y.1 ∨ y.1 = x.1 := by
  cases h with
  | goto hs => exact .inl (.goto hs)
  | task hs _ => exact .inl (.task hs)
  | drift _ => exact .inr rfl

theorem Run.terminates {x y : Cfg σ × W} {evs : List (Ran S σ)} (h : Run m H K input x evs y)
    (hx : Terminates m input x.1) : Terminates m input y.1 := by
  induction h with
  | refl => exact hx
  | tail _ hs ih =>
      rcases hs.next with hnext | heq
      · exact ih.inv hnext
      · rw [heq]
        exact ih

end

-- ============================================================================
-- Ranks
-- ============================================================================

namespace StateDef

/-- The states that the definition names. -/
def targets : StateDef σ τ → List σ
  | task t => t.next.toList
  | wait _ next => [next]
  | parallel p => p.branch :: (p.catchers.map (·.next) ++ p.next.toList)
  | map m => m.iterator :: m.next.toList
  | fail .. => []

end StateDef

/-- Every state names states of smaller ranks only. -/
def Ranked (m : Machine σ τ) (rank : σ → Nat) : Prop :=
  ∀ s, ∀ next ∈ (m s).targets, rank next < rank s

/-- No attempt is retried from this one on. -/
def TaskState.attempts (t : TaskState σ τ) : Nat := retryLimit t.retry

theorem TaskState.lt_attempts {t : TaskState σ τ} {n : Nat} {e : TaskError}
    (h : t.retries n e = true) : n < t.attempts :=
  lt_retryLimit h

-- ============================================================================
-- Frames
-- ============================================================================

/-- The frames can be left for good. -/
structure Leavable (m : Machine σ τ) (input : Json) (stack : List (Frame σ)) : Prop where
  leave : ∀ out, Terminates m input (leave input stack out)
  raise : ∀ e, Terminates m input (raise e stack)

section
variable {m : Machine σ τ} {input entered : Json} {stack : List (Frame σ)}

theorem Leavable.nil : Leavable m input [] where
  leave _ := .of_ended trivial
  raise _ := .of_ended trivial

/-- On with the next state, or out of the frames. -/
theorem Leavable.proceed (h : Leavable m input stack) {next : Option σ}
    (hnext : ∀ s, next = some s → ∀ data, Terminates m input (.at s data 0 stack)) (data : Json) :
    Terminates m input (proceed input next data stack) := by
  cases next with
  | none => exact h.leave data
  | some s => exact hnext s rfl data

theorem Leavable.parallel (h : Leavable m input stack) {p : ParallelState σ}
    (hnext : ∀ s, p.next = some s → ∀ data, Terminates m input (.at s data 0 stack))
    (hcatch : ∀ c ∈ p.catchers, ∀ data, Terminates m input (.at c.next data 0 stack)) :
    Leavable m input (.parallel p entered :: stack) where
  leave out := h.proceed hnext (.arr [out])
  raise e := by
    rw [Nested.raise]
    split
    · rename_i c hfind
      split
      · exact hcatch c (List.mem_of_find?_eq_some hfind) _
      · exact h.raise _
    · exact h.raise e

/-- By induction on the items to come. -/
theorem Leavable.map (h : Leavable m input stack) {mp : MapState σ}
    (hnext : ∀ s, mp.next = some s → ∀ data, Terminates m input (.at s data 0 stack))
    (hiterator : ∀ item rest outputs,
      Leavable m input (.map mp entered item rest outputs :: stack) →
      ∀ data, Terminates m input (.at mp.iterator data 0 (.map mp entered item rest outputs :: stack)))
    (item : Json) (rest outputs : List Json) :
    Leavable m input (.map mp entered item rest outputs :: stack) := by
  induction rest generalizing item outputs with
  | nil =>
      refine ⟨fun out => ?_, fun e => ?_⟩
      · rw [Nested.leave]
        exact h.proceed hnext _
      · exact h.raise e
  | cons item' rest ih =>
      refine ⟨fun out => ?_, fun e => h.raise e⟩
      rw [Nested.leave, iterate]
      split
      · exact hiterator item' rest _ (ih item' _) _
      · exact h.raise _

/-- Out of a task whose error is not retried. -/
theorem Leavable.finish (h : Leavable m input stack) {t : TaskState σ τ} {s : σ} {data : Json}
    {n : Nat} (hnext : ∀ s', t.next = some s' → ∀ data, Terminates m input (.at s' data 0 stack))
    (hretry : ∀ e, t.retries n e = true → Terminates m input (.at s data (n + 1) stack))
    (r : Except TaskError Json) : Terminates m input (t.finish input s data n stack r) := by
  cases r with
  | ok out =>
      rw [TaskState.finish]
      split
      · exact h.proceed hnext _
      · exact h.raise _
  | error e =>
      rcases TaskState.finish_error t s n e with ⟨hagain, heq⟩ | heq
      · rw [heq]
        exact hretry e hagain
      · rw [heq]
        exact h.raise e

/-- A task is done again for as long as a retrier allows it. -/
theorem Leavable.task (h : Leavable m input stack) {t : TaskState σ τ} {s : σ}
    (hs : m s = .task t)
    (hnext : ∀ s', t.next = some s' → ∀ data, Terminates m input (.at s' data 0 stack))
    (data : Json) (n : Nat) : Terminates m input (.at s data n stack) := by
  generalize hk : t.attempts - n = k
  induction k using Nat.strongRecOn generalizing n with
  | ind k ih =>
      refine .of_next ?_
      rintro c (hc | hc)
      · rw [hs] at hc
        rw [start_task_goto hc]
        exact h.raise _
      · rw [hs] at hc
        obtain ⟨rfl, -⟩ := start_task_invoke hc
        refine h.finish hnext (fun e hretry => ?_) _
        have hlt := TaskState.lt_attempts hretry
        exact ih _ (by omega) (n + 1) rfl

-- ============================================================================
-- Machines without loops
-- ============================================================================

/-- A machine without loops comes to an end from every configuration whose frames
    can be left for good, whatever its tasks answer. -/
theorem Ranked.terminates {rank : σ → Nat} (hrank : Ranked m rank) {s : σ} {data : Json} {n : Nat}
    (h : Leavable m input stack) : Terminates m input (.at s data n stack) := by
  generalize hk : rank s = k
  induction k using Nat.strongRecOn generalizing s data n stack with
  | ind k ih =>
      subst hk
      have htarget : ∀ next ∈ (m s).targets, ∀ {stack} (data), Leavable m input stack →
          Terminates m input (.at next data 0 stack) :=
        fun next hnext _ data hstack => ih _ (hrank s next hnext) hstack rfl
      cases hs : m s with
      | task t =>
          rw [hs] at htarget
          exact h.task hs (fun s' hs' data => htarget s' (by simp [StateDef.targets, hs']) data h) data n
      | wait seconds next =>
          rw [hs] at htarget
          refine .of_next ?_
          rintro c (hc | hc)
          · rw [hs] at hc
            cases hc
            exact htarget next (by simp [StateDef.targets]) data h
          · rw [hs] at hc
            cases hc
      | parallel p =>
          rw [hs] at htarget
          refine .of_next ?_
          rintro c (hc | hc)
          · rw [hs] at hc
            cases hc
            refine htarget p.branch (by simp [StateDef.targets]) data (h.parallel ?_ ?_)
            · exact fun s' hs' data => htarget s' (by simp [StateDef.targets, hs']) data h
            · intro c hc data
              refine htarget c.next ?_ data h
              simp only [StateDef.targets, List.mem_cons, List.mem_append, List.mem_map]
              exact .inr (.inl ⟨c, hc, rfl⟩)
          · rw [hs] at hc
            cases hc
      | map mp =>
          rw [hs] at htarget
          have hnext : ∀ s', mp.next = some s' → ∀ data, Terminates m input (.at s' data 0 stack) :=
            fun s' hs' data => htarget s' (by simp [StateDef.targets, hs']) data h
          have hitem : ∀ item rest outputs,
              Leavable m input (.map mp data item rest outputs :: stack) :=
            h.map hnext fun item rest outputs hframe data =>
              htarget mp.iterator (by simp [StateDef.targets]) data hframe
          refine .of_next ?_
          rintro c (hc | hc)
          · rw [hs, StateDef.start] at hc
            split at hc
            · rename_i item rest _
              cases hc
              rw [iterate]
              split
              · exact htarget mp.iterator (by simp [StateDef.targets]) _ (hitem item rest [])
              · exact h.raise _
            · cases hc
              exact h.proceed hnext _
            · cases hc
              exact Terminates.of_ended trivial
          · rw [hs] at hc
            exact absurd hc start_map_ne_invoke
      | fail error cause =>
          refine .of_next ?_
          rintro c (hc | hc)
          · rw [hs] at hc
            cases hc
            exact h.raise _
          · rw [hs] at hc
            cases hc

end

end AutoRecycle.Asl.Nested
