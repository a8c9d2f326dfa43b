/-
  AutoRecycle.Asl.Pace

  How fast an execution can go round.

  Only a Wait state lets time pass by itself, so a machine that can come back to
  a state without one may spin.  `Budget` gives every state the number of moves
  that an execution can still make from there before it waits or ends: every
  move spends some of it, the attempts of a task one by one, and only a Wait
  state fills it up again.  A machine with a budget makes a bounded number of
  moves for every pause (`Budget.moves_le`).
-/
import AutoRecycle.Asl.Trail
import Mathlib.Tactic.Ring

namespace AutoRecycle.Asl

variable {σ τ W : Type}

-- ============================================================================
-- Moves and seconds
-- ============================================================================

/-- The seconds that the state waits. -/
def StateDef.pause : StateDef σ τ → Nat
  | wait seconds _ => seconds
  | _ => 0

def StateDef.Waits : StateDef σ τ → Prop
  | wait .. => True
  | _ => False

/-- The seconds before the next transition. -/
def Cfg.pause (m : Machine σ τ) : Cfg σ → Nat
  | .at s _ _ => (m s).pause
  | _ => 0

/-- From `x` the execution has come to the end of the run in so many moves, an
    attempt of a task and the end of a pause being one each, and has spent so many
    seconds in Wait states. -/
inductive Timed (m : Machine σ τ) (T : Tasks τ W) (x : Cfg σ × W) : Nat → Nat → Cfg σ × W → Prop where
  | refl : Timed m T x 0 0 x
  | move {moves seconds y z} (h : Timed m T x moves seconds y) (hs : Step m T y z) :
      Timed m T x (moves + 1) (seconds + y.1.pause m) z

section
variable {m : Machine σ τ} {T : Tasks τ W} {x y : Cfg σ × W}

/-- Every run takes its moves and its seconds. -/
theorem reaches_iff_timed : Reaches m T x y ↔ ∃ moves seconds, Timed m T x moves seconds y := by
  constructor
  · intro h
    induction h with
    | refl => exact ⟨0, 0, .refl⟩
    | tail _ hs ih =>
        obtain ⟨moves, seconds, h⟩ := ih
        exact ⟨_, _, h.move hs⟩
  · rintro ⟨moves, seconds, h⟩
    induction h with
    | refl => exact .refl
    | move _ hs ih => exact ih.tail hs

end

-- ============================================================================
-- Budgets
-- ============================================================================

/-- `known` is what an execution keeps of the data that it comes to a state with,
    and `credit` the moves that are left from there, `full` at most. -/
structure Budget (m : Machine σ τ) (T : Tasks τ W) (known : σ → Json → Prop) (credit : σ → Nat)
    (least full : Nat) : Prop where
  known_next : ∀ {s data n w s' data' n' w'}, known s data →
    Step m T (.at s data n, w) (.at s' data' n', w') → known s' data'
  /-- A state is left with less than it was come to with, after all its attempts. -/
  spends : ∀ {s data n w s' data' w'}, ¬ (m s).Waits → known s data →
    Step m T (.at s data n, w) (.at s' data' 0, w') → credit s' + (m s).attempts + 1 ≤ credit s
  attempts_lt : ∀ s, (m s).attempts < credit s
  le_full : ∀ s, credit s ≤ full
  pauses : ∀ {s pause next}, m s = .wait pause next → least ≤ pause

/-- The moves that are left. -/
def left (credit : σ → Nat) : Cfg σ → Nat
  | .at s _ n => credit s - n
  | _ => 0

/-- What is known along a run: the attempts are within their limit. -/
def Kept (m : Machine σ τ) (known : σ → Json → Prop) : Cfg σ → Prop
  | .at s data n => known s data ∧ n ≤ (m s).attempts
  | _ => True

section
variable {m : Machine σ τ} {T : Tasks τ W} {known : σ → Json → Prop} {credit : σ → Nat}
  {least full moves seconds : Nat} {y z : Cfg σ × W}

namespace Budget

/-- A move spends at least one of the moves that are left, unless it ends a pause. -/
theorem step {s : σ} {data : Json} {n : Nat} {w : W} (hB : Budget m T known credit least full)
    (hk : Kept m known (.at s data n)) (h : Step m T (.at s data n, w) z) (hs : ¬ (m s).Waits) :
    Kept m known z.1 ∧ left credit z.1 + 1 ≤ left credit (.at s data n) := by
  obtain ⟨d, w'⟩ := z
  obtain ⟨hknown, hn⟩ := hk
  have hlt := hB.attempts_lt s
  rcases h.leadsTo with ⟨hagain, hmore⟩ | ⟨s', -, data', hon⟩ | hended
  · obtain rfl : d = .at s data (n + 1) := hagain
    refine ⟨⟨hknown, hmore⟩, ?_⟩
    simp only [left]
    omega
  · obtain rfl : d = .at s' data' 0 := hon
    have hspent := hB.spends hs hknown h
    refine ⟨⟨hB.known_next hknown h, Nat.zero_le _⟩, ?_⟩
    simp only [left]
    omega
  · cases d with
    | «at» s' data' n' => exact hended.elim
    | succeeded out =>
        refine ⟨trivial, ?_⟩
        simp only [left]
        omega
    | failed error cause =>
        refine ⟨trivial, ?_⟩
        simp only [left]
        omega

/-- After a pause all the moves are left. -/
theorem step_wait {s : σ} {data : Json} {n : Nat} {w : W} (hB : Budget m T known credit least full)
    (hk : Kept m known (.at s data n)) (h : Step m T (.at s data n, w) z) (hs : (m s).Waits) :
    Kept m known z.1 ∧ left credit z.1 ≤ full ∧ 0 < left credit (.at s data n) ∧
      least ≤ (m s).pause := by
  obtain ⟨hknown, hn⟩ := hk
  have hlt := hB.attempts_lt s
  cases hm : m s with
  | wait pause next =>
      have hstart : (m s).start data = .goto (.at next data 0) := by
        rw [hm]
        rfl
      cases h.of_goto hstart
      have hfull := hB.le_full next
      refine ⟨⟨hB.known_next hknown h, Nat.zero_le _⟩, ?_, ?_, hB.pauses hm⟩
      · simp only [left]
        omega
      · simp only [left]
        omega
  | _ =>
      rw [hm] at hs
      exact hs.elim

/-- Between two pauses a run makes `full` moves at most. -/
theorem moves_and_left (hB : Budget m T known credit least full) {s : σ} {data : Json} {w : W}
    (hknown : known s data) (h : Timed m T (.at s data 0, w) moves seconds y) :
    Kept m known y.1 ∧
      ∃ pauses, least * pauses ≤ seconds ∧ moves + left credit y.1 ≤ full * (pauses + 1) := by
  induction h with
  | refl =>
      refine ⟨⟨hknown, Nat.zero_le _⟩, 0, Nat.le_refl _, ?_⟩
      have hfull := hB.le_full s
      simp only [left]
      omega
  | @move moves seconds y z _ hstep ih =>
      obtain ⟨hk, pauses, hseconds, hmoves⟩ := ih
      obtain ⟨c, w⟩ := y
      cases c with
      | succeeded out => exact absurd trivial hstep.not_ended
      | failed error cause => exact absurd trivial hstep.not_ended
      | «at» s data n =>
          replace hmoves : moves + left credit (.at s data n) ≤ full * (pauses + 1) := hmoves
          simp only [Cfg.pause]
          by_cases hs : (m s).Waits
          · obtain ⟨hk', hfull, hleft, hpause⟩ := hB.step_wait hk hstep hs
            have hgrow : full * (pauses + 1 + 1) = full * (pauses + 1) + full := by
              rw [Nat.mul_add, Nat.mul_one]
            refine ⟨hk', pauses + 1, ?_, ?_⟩
            · rw [Nat.mul_add, Nat.mul_one]
              omega
            · omega
          · obtain ⟨hk', hspent⟩ := hB.step hk hstep hs
            exact ⟨hk', pauses, by omega, by omega⟩

/-- The moves of a run are bounded by the time that it has waited. -/
theorem moves_le (hB : Budget m T known credit least full) {s : σ} {data : Json} {w : W}
    (hknown : known s data) (h : Timed m T (.at s data 0, w) moves seconds y) :
    least * moves ≤ full * (seconds + least) := by
  obtain ⟨-, pauses, hseconds, hmoves⟩ := hB.moves_and_left hknown h
  calc least * moves ≤ least * (full * (pauses + 1)) := Nat.mul_le_mul_left _ (by omega)
    _ = full * (least * pauses + least) := by ring
    _ ≤ full * (seconds + least) := Nat.mul_le_mul_left _ (by omega)

end Budget

end

end AutoRecycle.Asl
