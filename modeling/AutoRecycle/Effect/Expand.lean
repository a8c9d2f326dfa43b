/-
  AutoRecycle.Effect.Expand

  Programs in the place of calls.

  `p.expand impl` is `p` with the program `impl op` of another signature for each
  call `op`.  What is proved of `p` for every world holds of the expanded program:
  one of its runs is a run of `p` in the world that answers a call as the program
  for it does (`Setting.refined`), up to the call that it is inside of
  (`Exec.expand_call_inv`), and the other way round (`Exec.of_refined`).
-/
import AutoRecycle.Effect.Runs

namespace AutoRecycle.Effect

variable {S S' : Signature} {W α β : Type}

/-- `p`, with the programs of `impl` for its calls and its exceptions told by `exc`. -/
def Prog.expand (impl : (op : S.Op) → Prog S' (S.Reply op)) (exc : S.Exc → S'.Exc) :
    Prog S α → Prog S' α
  | ret a => ret a
  | throw e => throw (exc e)
  | call op next => impl op >>= fun r => (next r).expand impl exc

/-- The world that answers a call as the program for it does. -/
def Setting.refined (K : Setting S' W) (impl : (op : S.Op) → Prog S' (S.Reply op)) : Setting S W where
  answers w op r w' := ∃ tr, Exec K (impl op) w tr (.ret r) w'
  rely := K.rely
  rely_refl := K.rely_refl
  rely_trans := K.rely_trans

section
variable {K : Setting S' W} {impl : (op : S.Op) → Prog S' (S.Reply op)} {exc : S.Exc → S'.Exc}
  {p : Prog S α} {w w' : W} {tr : Trace S'}

/-- What the programs keep, the expanded program keeps, and its calls are theirs. -/
theorem Prog.wp_expand {ok : W → S'.Op → Prop} {I : W → Prop} (hrely : ∀ {w w'}, I w → K.rely w w' → I w')
    (himpl : ∀ op {w}, I w → (impl op).wp K ok (fun _ => I) (fun _ => I) w) (h : I w) :
    (p.expand impl exc).wp K ok (fun _ => I) (fun _ => I) w := by
  induction p generalizing w with
  | ret a => exact fun w' hr => hrely h hr
  | throw e => exact fun w' hr => hrely h hr
  | call op next ih => exact (wp_bind _).mpr (wp_mono (fun r w => ih r) (fun _ _ => id) (himpl op h))

/-- A run of `p` in that world is one of the expanded program. -/
theorem Exec.of_refined (exc : S.Exc → S'.Exc) {q : Prog S α} {calls : Trace S}
    (h : Exec (K.refined impl) p w calls q w') :
    ∃ tr, Exec K (p.expand impl exc) w tr (q.expand impl exc) w' := by
  induction h with
  | rest hr => exact ⟨[], .rest hr⟩
  | call hr ha _ ih =>
      obtain ⟨t₁, h₁⟩ := ha
      obtain ⟨t₂, h₂⟩ := ih
      exact ⟨t₁ ++ t₂, of_rely hr (h₁.bind_ret h₂)⟩

/-- An expanded program at a call is inside the program for a call of `p`, and `p`
    has come to that one. -/
theorem Exec.expand_call_inv {op' : S'.Op} {next' : S'.Reply op' → Prog S' α}
    (h : Exec K (p.expand impl exc) w tr (.call op' next') w') :
    ∃ calls op next w₁ tr' next'', Exec (K.refined impl) p w calls (.call op next) w₁ ∧
      Exec K (impl op) w₁ tr' (.call op' next'') w' := by
  induction p generalizing w tr with
  | ret a => cases (ret_inv h).2
  | throw e => cases (throw_inv h).2
  | call op next ih =>
      have hpast : ∀ {r t₁ t₂ w₁}, Exec K (impl op) w t₁ (.ret r) w₁ →
          Exec K ((next r).expand impl exc) w₁ t₂ (.call op' next') w' →
          ∃ calls op₁ next₁ w₂ tr' next'', Exec (K.refined impl) (.call op next) w calls (.call op₁ next₁) w₂ ∧
            Exec K (impl op₁) w₂ tr' (.call op' next'') w' := by
        intro r t₁ t₂ w₁ h₁ h₂
        obtain ⟨calls, op₁, next₁, w₂, tr', next'', hp, hin⟩ := ih r h₂
        exact ⟨_, op₁, next₁, w₂, tr', next'', .call (K.rely_refl w) ⟨t₁, h₁⟩ hp, hin⟩
      obtain ⟨q, hq, hin⟩ | ⟨r, t₁, t₂, w₁, -, h₁, h₂⟩ := bind_inv h
      · cases q with
        | ret r =>
            rw [Prog.ret_bind] at hq
            have hrest : Exec K ((next r).expand impl exc) w' [] (.call op' next') w' := by
              rw [← hq]
              exact refl _ _
            exact hpast hin hrest
        | throw e => cases hq
        | call op₁ next₁ =>
            cases hq
            exact ⟨[], op, next, w, tr, next₁, refl _ _, hin⟩
      · exact hpast h₁ h₂

end

end AutoRecycle.Effect
