/-
  AutoRecycle.Asl.Live

  Executions whose tasks are programs.

  `AutoRecycle.Asl.Machine` answers a task as a whole.  Here a task is a `Prog`
  that makes its calls one by one in a world that may move between them, and
  the execution can be looked at in the middle of a task.  A `Host` says which
  program stands behind a resource and which failures the service itself can
  report in its place.

  `Invariant` is the rule for such executions: an invariant of the idle
  configurations, carried through each task by a weakest precondition.  `Pair`
  lets two executions run in one world; each sees the other as interference.
-/
import AutoRecycle.Asl.Machine
import AutoRecycle.Effect.Setting

namespace AutoRecycle.Asl

open AutoRecycle.Effect
open Relation (ReflTransGen)

/-- The programs behind the resources of a machine. -/
structure Host (S : Signature) (τ : Type) where
  impl : τ → Json → Prog S Json
  /-- How the service reports an uncaught exception. -/
  describe : S.Exc → TaskError
  /-- Failures that the service can report at any time, the program's calls so
      far notwithstanding. -/
  faults : TaskError → Prop

/-- An execution seen at the grain of calls: between two states, or inside a
    task `t` that has made `calls` and has `p` left to do. -/
inductive Live (S : Signature) (σ τ : Type) where
  | idle (c : Cfg σ)
  | busy (s : σ) (data : Json) (attempt : Nat) (t : Task σ τ) (calls : Trace S) (p : Prog S Json)

variable {S : Signature} {σ τ W : Type}

namespace Live

/-- The moves an execution makes itself. -/
inductive Move (m : Machine σ τ) (H : Host S τ) (K : Setting S W) :
    Live S σ τ × W → Live S σ τ × W → Prop where
  | goto {s data n c w} (h : (m s).start data = .goto c) :
      Move m H K (idle (.at s data n), w) (idle c, w)
  | invoke {s data n t input w} (h : (m s).start data = .invoke t input) :
      Move m H K (idle (.at s data n), w) (busy s data n t [] (H.impl t.resource input), w)
  | call {s data n t calls op next w r w'} (h : K.answers w op r w') :
      Move m H K (busy s data n t calls (.call op next), w)
        (busy s data n t (calls ++ [⟨op, r⟩]) (next r), w')
  | ret {s data n t calls out w} :
      Move m H K (busy s data n t calls (.ret out), w) (idle (t.finish s data n (.ok out)), w)
  | throw {s data n t calls e w} :
      Move m H K (busy s data n t calls (.throw e), w)
        (idle (t.finish s data n (.error (H.describe e))), w)
  | fault {s data n t calls p e w} (h : H.faults e) :
      Move m H K (busy s data n t calls p, w) (idle (t.finish s data n (.error e)), w)

/-- A move depends on the world only by its answers. -/
theorem Move.mono {m : Machine σ τ} {H : Host S τ} {K K' : Setting S W} {x y : Live S σ τ × W}
    (h : Move m H K x y) (hans : ∀ {w op r w'}, K.answers w op r w' → K'.answers w op r w') :
    Move m H K' x y := by
  cases h with
  | goto hs => exact .goto hs
  | invoke hs => exact .invoke hs
  | call ha => exact .call (hans ha)
  | ret => exact .ret
  | throw => exact .throw
  | fault hf => exact .fault hf

/-- One step: a move of the execution, or of the world. -/
inductive Step (m : Machine σ τ) (H : Host S τ) (K : Setting S W) :
    Live S σ τ × W → Live S σ τ × W → Prop where
  | move {x y} (h : Move m H K x y) : Step m H K x y
  | drift {l w w'} (h : K.rely w w') : Step m H K (l, w) (l, w')

/-- Any number of steps. -/
abbrev Reaches (m : Machine σ τ) (H : Host S τ) (K : Setting S W) :
    Live S σ τ × W → Live S σ τ × W → Prop :=
  ReflTransGen (Step m H K)

end Live

-- ============================================================================
-- The invariant rule
-- ============================================================================

/-- `I` holds between two states, `ok` before each call.  `F` is what is known
    at any time at all, so what a failure of the service leaves behind. -/
structure Invariant (m : Machine σ τ) (H : Host S τ) (K : Setting S W)
    (I : Cfg σ → W → Prop) (ok : W → S.Op → Prop) (F : W → Prop) : Prop where
  rely : ∀ {c w w'}, I c w → K.rely w w' → I c w'
  goto : ∀ {s data n c w}, I (.at s data n) w → (m s).start data = .goto c → I c w
  task : ∀ {s data n t input w}, I (.at s data n) w → (m s).start data = .invoke t input →
    (H.impl t.resource input).wp K ok (fun out w => I (t.finish s data n (.ok out)) w)
      (fun e w => I (t.finish s data n (.error (H.describe e))) w) w
  fault : ∀ {s data n t input e w}, (∃ w₀, I (.at s data n) w₀) →
    (m s).start data = .invoke t input → H.faults e → F w → I (t.finish s data n (.error e)) w
  idle_any : ∀ {c w}, I c w → F w
  call_any : ∀ {w op}, ok w op → F w

namespace Invariant

/-- What the rule keeps of an execution: a task is a run of its program from a
    world in which the invariant held. -/
def Holds (m : Machine σ τ) (H : Host S τ) (K : Setting S W) (I : Cfg σ → W → Prop) :
    Live S σ τ × W → Prop
  | (.idle c, w) => I c w
  | (.busy s data n t calls p, w) => ∃ input w₀, (m s).start data = .invoke t input ∧
      I (.at s data n) w₀ ∧ Exec K (H.impl t.resource input) w₀ calls p w

variable {m : Machine σ τ} {H : Host S τ} {K : Setting S W} {I : Cfg σ → W → Prop}
  {ok : W → S.Op → Prop} {F : W → Prop} {l l' : Live S σ τ} {w w' : W}

/-- At any time `F` is known. -/
theorem any_of_holds (hI : Invariant m H K I ok F) (h : Holds m H K I (l, w)) : F w := by
  cases l with
  | idle c => exact hI.idle_any h
  | busy s data n t calls p =>
      obtain ⟨input, w₀, hs, hI₀, hx⟩ := h
      have hp := hx.wp (hI.task hI₀ hs)
      cases p with
      | ret out => exact hI.idle_any (hp w (K.rely_refl w))
      | throw e => exact hI.idle_any (hp w (K.rely_refl w))
      | call op next => exact hI.call_any (hp w (K.rely_refl w)).1

theorem holds_move (hI : Invariant m H K I ok F) {x y : Live S σ τ × W}
    (h : Holds m H K I x) (hm : Live.Move m H K x y) : Holds m H K I y := by
  cases hm with
  | goto hs => exact hI.goto h hs
  | invoke hs => exact ⟨_, _, hs, h, Exec.refl _ _⟩
  | call ha =>
      obtain ⟨input, w₀, hs, hI₀, hx⟩ := h
      exact ⟨input, w₀, hs, hI₀, hx.trans (.call (K.rely_refl _) ha (Exec.refl _ _))⟩
  | ret =>
      obtain ⟨input, w₀, hs, hI₀, hx⟩ := h
      exact hx.ret_post (hI.task hI₀ hs)
  | throw =>
      obtain ⟨input, w₀, hs, hI₀, hx⟩ := h
      exact hx.throw_post (hI.task hI₀ hs)
  | fault hf =>
      obtain ⟨input, w₀, hs, hI₀, -⟩ := id h
      exact hI.fault ⟨w₀, hI₀⟩ hs hf (hI.any_of_holds h)

theorem holds_drift (hI : Invariant m H K I ok F) (h : Holds m H K I (l, w))
    (hr : K.rely w w') : Holds m H K I (l, w') := by
  cases l with
  | idle c => exact hI.rely h hr
  | busy s data n t calls p =>
      obtain ⟨input, w₀, hs, hI₀, hx⟩ := h
      have hx' := hx.trans (.rest hr)
      rw [List.append_nil] at hx'
      exact ⟨input, w₀, hs, hI₀, hx'⟩

theorem holds_reaches (hI : Invariant m H K I ok F) {x y : Live S σ τ × W}
    (h : Holds m H K I x) (hr : Live.Reaches m H K x y) : Holds m H K I y := by
  induction hr with
  | refl => exact h
  | tail _ hs ih =>
      cases hs with
      | move hm => exact hI.holds_move ih hm
      | drift hd => exact hI.holds_drift ih hd

/-- The rule with its tasks taken as runs: what holds where a task is entered is
    carried through every run of its program to where the task is left. -/
theorem holds_of_runs (hrely : ∀ {c w w'}, I c w → K.rely w w' → I c w')
    (hgoto : ∀ {s data n c w}, I (.at s data n) w → (m s).start data = .goto c → I c w)
    (hret : ∀ {s data n t input calls out w₀ w}, I (.at s data n) w₀ →
      (m s).start data = .invoke t input →
      Exec K (H.impl t.resource input) w₀ calls (.ret out) w → I (t.finish s data n (.ok out)) w)
    (hthrow : ∀ {s data n t input calls e w₀ w}, I (.at s data n) w₀ →
      (m s).start data = .invoke t input →
      Exec K (H.impl t.resource input) w₀ calls (.throw e) w →
      I (t.finish s data n (.error (H.describe e))) w)
    (hfault : ∀ {s data n t input calls p e w₀ w}, I (.at s data n) w₀ →
      (m s).start data = .invoke t input → Exec K (H.impl t.resource input) w₀ calls p w →
      H.faults e → I (t.finish s data n (.error e)) w)
    {x y : Live S σ τ × W} (h : Holds m H K I x) (hr : Live.Reaches m H K x y) :
    Holds m H K I y := by
  induction hr with
  | refl => exact h
  | tail _ hs ih =>
      cases hs with
      | move hm =>
          cases hm with
          | goto hs => exact hgoto ih hs
          | invoke hs => exact ⟨_, _, hs, ih, Exec.refl _ _⟩
          | call ha =>
              obtain ⟨input, w₀, hs, hI₀, hx⟩ := ih
              exact ⟨input, w₀, hs, hI₀, hx.trans (.call (K.rely_refl _) ha (Exec.refl _ _))⟩
          | ret =>
              obtain ⟨input, w₀, hs, hI₀, hx⟩ := ih
              exact hret hI₀ hs hx
          | throw =>
              obtain ⟨input, w₀, hs, hI₀, hx⟩ := ih
              exact hthrow hI₀ hs hx
          | fault hf =>
              obtain ⟨input, w₀, hs, hI₀, hx⟩ := ih
              exact hfault hI₀ hs hx hf
      | @drift l _ _ hd =>
          cases l with
          | idle c => exact hrely ih hd
          | busy s data n t calls p =>
              obtain ⟨input, w₀, hs, hI₀, hx⟩ := ih
              have hx' := hx.trans (.rest hd)
              rw [List.append_nil] at hx'
              exact ⟨input, w₀, hs, hI₀, hx'⟩

end Invariant

/-- An execution inside a task is in a run of the task's program. -/
theorem Live.exec_of_reaches {m : Machine σ τ} {H : Host S τ} {K : Setting S W} {c : Cfg σ}
    {s : σ} {data : Json} {n : Nat} {t : Task σ τ} {calls : Trace S} {p : Prog S Json} {w₀ w : W}
    (h : Reaches m H K (idle c, w₀) (busy s data n t calls p, w)) :
    ∃ input w₁, (m s).start data = .invoke t input ∧
      Exec K (H.impl t.resource input) w₁ calls p w := by
  have hI : Invariant m H K (fun _ _ => True) (fun _ _ => True) (fun _ => True) :=
    { rely := fun _ _ => trivial, goto := fun _ _ => trivial, task := fun _ _ => Prog.wp_trivial,
      fault := fun _ _ _ _ => trivial, idle_any := fun _ => trivial, call_any := fun _ => trivial }
  have hidle : Invariant.Holds m H K (fun _ _ => True) (idle c, w₀) := trivial
  obtain ⟨input, w₁, hs, -, hx⟩ := hI.holds_reaches hidle h
  exact ⟨input, w₁, hs, hx⟩

-- ============================================================================
-- Whole tasks
-- ============================================================================

/-- The programs of a host, each as one answer: what `Step` takes as its tasks. -/
inductive Host.tasks (H : Host S τ) (K : Setting S W) : Tasks τ W where
  | ret {r input w tr out w'} (h : Exec K (H.impl r input) w tr (.ret out) w') :
      H.tasks K r input w (.ok out) w'
  | throw {r input w tr e w'} (h : Exec K (H.impl r input) w tr (.throw e) w') :
      H.tasks K r input w (.error (H.describe e)) w'

/-- Inside a task the execution follows any run of the task's program. -/
theorem Live.reaches_of_exec {m : Machine σ τ} {H : Host S τ} {K : Setting S W} {s : σ}
    {data : Json} {n : Nat} {t : Task σ τ} {p q : Prog S Json} {w w' : W} {tr : Trace S}
    (hx : Exec K p w tr q w') (calls : Trace S) :
    Reaches m H K (busy s data n t calls p, w) (busy s data n t (calls ++ tr) q, w') := by
  induction hx generalizing calls with
  | rest hr => simpa using ReflTransGen.single (Step.drift hr)
  | @call op next w w₁ r w₂ tr q w' hr ha _ ih =>
      have hrest := ih (calls ++ [⟨op, r⟩])
      rw [List.append_assoc, List.singleton_append] at hrest
      exact .head (.drift hr) (.head (.move (.call ha)) hrest)

/-- A step whose task is answered as a whole is a run at the grain of calls. -/
theorem Step.reaches_live {m : Machine σ τ} {H : Host S τ} {K : Setting S W}
    {c c' : Cfg σ} {w w' : W} (h : Step m (H.tasks K) (c, w) (c', w')) :
    Live.Reaches m H K (.idle c, w) (.idle c', w') := by
  cases h with
  | goto hs => exact .single (.move (.goto hs))
  | task hs hT =>
      cases hT with
      | ret hx =>
          exact .head (.move (.invoke hs)) ((Live.reaches_of_exec hx []).tail (.move .ret))
      | throw hx =>
          exact .head (.move (.invoke hs)) ((Live.reaches_of_exec hx []).tail (.move .throw))

theorem Reaches.reaches_live {m : Machine σ τ} {H : Host S τ} {K : Setting S W}
    {x y : Cfg σ × W} (h : Reaches m (H.tasks K) x y) :
    Live.Reaches m H K (.idle x.1, x.2) (.idle y.1, y.2) := by
  induction h with
  | refl => exact .refl
  | tail _ hs ih => exact ih.trans hs.reaches_live

-- ============================================================================
-- Scripted executions
-- ============================================================================

namespace Live

/-- Run for at most `n` steps against a script, up to the first call that it does
    not answer. -/
def drive (m : Machine σ τ) (H : Host S τ) (answer : W → (op : S.Op) → Option (S.Reply op × W)) :
    Nat → Live S σ τ × W → Live S σ τ × W
  | 0, x => x
  | k + 1, (idle (.at s data n), w) =>
      match (m s).start data with
      | .goto c => drive m H answer k (idle c, w)
      | .invoke t input => drive m H answer k (busy s data n t [] (H.impl t.resource input), w)
  | k + 1, (busy s data n t _ (.ret out), w) =>
      drive m H answer k (idle (t.finish s data n (.ok out)), w)
  | k + 1, (busy s data n t _ (.throw e), w) =>
      drive m H answer k (idle (t.finish s data n (.error (H.describe e))), w)
  | k + 1, (busy s data n t calls (.call op next), w) =>
      match answer w op with
      | none => (busy s data n t calls (.call op next), w)
      | some (r, w') => drive m H answer k (busy s data n t (calls ++ [⟨op, r⟩]) (next r), w')
  | _ + 1, (idle c, w) => (idle c, w)

/-- A scripted execution is one of every world that allows the script. -/
theorem drive_reaches {m : Machine σ τ} {H : Host S τ} {K : Setting S W}
    {answer : W → (op : S.Op) → Option (S.Reply op × W)}
    (ha : ∀ {w op r w'}, answer w op = some (r, w') → ∃ w₁, K.rely w w₁ ∧ K.answers w₁ op r w')
    (k : Nat) (x : Live S σ τ × W) : Reaches m H K x (drive m H answer k x) := by
  induction k generalizing x with
  | zero => exact .refl
  | succ k ih =>
      obtain ⟨l, w⟩ := x
      cases l with
      | idle c =>
          cases c with
          | «at» s data n =>
              rw [drive]
              cases hs : (m s).start data with
              | goto c => exact .head (.move (.goto hs)) (ih _)
              | invoke t input => exact .head (.move (.invoke hs)) (ih _)
          | succeeded output => exact .refl
          | failed error cause => exact .refl
      | busy s data n t calls p =>
          cases p with
          | ret out => exact .head (.move .ret) (ih _)
          | throw e => exact .head (.move .throw) (ih _)
          | call op next =>
              rw [drive]
              cases hr : answer w op with
              | none => exact .refl
              | some x =>
                  obtain ⟨w₁, hrely, hans⟩ := ha hr
                  exact .head (.drift hrely) (.head (.move (.call hans)) (ih _))

end Live

-- ============================================================================
-- Two executions in one world
-- ============================================================================

/-- Two executions of one machine and the world they share.  `K₁` and `K₂` say
    how the world answers each of them, `env` how it moves by itself. -/
inductive Pair.Step (m : Machine σ τ) (H : Host S τ) (K₁ K₂ : Setting S W)
    (env : W → W → Prop) :
    (Live S σ τ × Live S σ τ) × W → (Live S σ τ × Live S σ τ) × W → Prop where
  | left {l l' r w w'} (h : Live.Move m H K₁ (l, w) (l', w')) :
      Pair.Step m H K₁ K₂ env ((l, r), w) ((l', r), w')
  | right {l r r' w w'} (h : Live.Move m H K₂ (r, w) (r', w')) :
      Pair.Step m H K₁ K₂ env ((l, r), w) ((l, r'), w')
  | env {l r w w'} (h : env w w') : Pair.Step m H K₁ K₂ env ((l, r), w) ((l, r), w')

namespace Pair

variable {m : Machine σ τ} {H : Host S τ} {K K₁ K₂ : Setting S W} {env : W → W → Prop}

abbrev Reaches (m : Machine σ τ) (H : Host S τ) (K₁ K₂ : Setting S W) (env : W → W → Prop) :
    (Live S σ τ × Live S σ τ) × W → (Live S σ τ × Live S σ τ) × W → Prop :=
  ReflTransGen (Step m H K₁ K₂ env)

/-- A move changes the world by an answer, or not at all. -/
theorem guarantee {R : W → W → Prop} (hrefl : ∀ w, R w w)
    (hans : ∀ {w op r w'}, K.answers w op r w' → R w w') {x y : Live S σ τ × W}
    (h : Live.Move m H K x y) : R x.2 y.2 := by
  cases h with
  | call ha => exact hans ha
  | _ => exact hrefl _

/-- Seen from the left, the right execution and the world's own moves are
    interference. -/
theorem reaches_left (hright : ∀ {w op r w'}, K₂.answers w op r w' → K₁.rely w w')
    (henv : ∀ {w w'}, env w w' → K₁.rely w w') {x y : (Live S σ τ × Live S σ τ) × W}
    (h : Reaches m H K₁ K₂ env x y) : Live.Reaches m H K₁ (x.1.1, x.2) (y.1.1, y.2) := by
  induction h with
  | refl => exact .refl
  | tail _ hs ih =>
      cases hs with
      | left hm => exact ih.tail (.move hm)
      | right hm => exact ih.tail (.drift (guarantee K₁.rely_refl hright hm))
      | env he => exact ih.tail (.drift (henv he))

theorem reaches_right (hleft : ∀ {w op r w'}, K₁.answers w op r w' → K₂.rely w w')
    (henv : ∀ {w w'}, env w w' → K₂.rely w w') {x y : (Live S σ τ × Live S σ τ) × W}
    (h : Reaches m H K₁ K₂ env x y) : Live.Reaches m H K₂ (x.1.2, x.2) (y.1.2, y.2) := by
  induction h with
  | refl => exact .refl
  | tail _ hs ih =>
      cases hs with
      | left hm => exact ih.tail (.drift (guarantee K₂.rely_refl hleft hm))
      | right hm => exact ih.tail (.move hm)
      | env he => exact ih.tail (.drift (henv he))

/-- A run of the left execution while the right one and the world stand still. -/
theorem reaches_of_left {l l' : Live S σ τ} {w w' : W} (r : Live S σ τ)
    (h : Live.Reaches m H (.alone K₁.answers) (l, w) (l', w')) :
    Reaches m H K₁ K₂ env ((l, r), w) ((l', r), w') := by
  suffices hgen : ∀ {x y}, Live.Reaches m H (.alone K₁.answers) x y →
      Reaches m H K₁ K₂ env ((x.1, r), x.2) ((y.1, r), y.2) from hgen h
  intro x y hxy
  induction hxy with
  | refl => exact .refl
  | tail _ hs ih =>
      cases hs with
      | move hm => exact ih.tail (.left (hm.mono id))
      | drift hd =>
          cases hd
          exact ih

theorem reaches_of_right {r r' : Live S σ τ} {w w' : W} (l : Live S σ τ)
    (h : Live.Reaches m H (.alone K₂.answers) (r, w) (r', w')) :
    Reaches m H K₁ K₂ env ((l, r), w) ((l, r'), w') := by
  suffices hgen : ∀ {x y}, Live.Reaches m H (.alone K₂.answers) x y →
      Reaches m H K₁ K₂ env ((l, x.1), x.2) ((l, y.1), y.2) from hgen h
  intro x y hxy
  induction hxy with
  | refl => exact .refl
  | tail _ hs ih =>
      cases hs with
      | move hm => exact ih.tail (.right (hm.mono id))
      | drift hd =>
          cases hd
          exact ih

end Pair

end AutoRecycle.Asl
