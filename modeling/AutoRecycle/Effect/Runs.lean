/-
  AutoRecycle.Effect.Runs

  Reading a run.

  A run of `p >>= f` is a run of `p`, or a finished run of `p` and then one of
  `f`; the inversion lemmas below cut a run along the structure of its program.
  `Prog.Issues` bounds the calls a program can issue, and with it the cut is
  forced: a program that is about to issue a call `p` never issues has `p`
  behind it (`Exec.bind_call_inv`).

  `Runs` is the run relation when there is no world to speak of, only a
  restriction on the replies.
-/
import AutoRecycle.Effect.Setting
import Mathlib.Data.List.Forall2
import Mathlib.Data.List.Induction

namespace AutoRecycle.Effect

variable {S : Signature} {W α β : Type}

-- ============================================================================
-- The calls of a program
-- ============================================================================

namespace Prog

/-- Every call that the program can issue satisfies `P`. -/
def Issues (P : S.Op → Prop) : Prog S α → Prop
  | ret _ => True
  | throw _ => True
  | call op next => P op ∧ ∀ r, (next r).Issues P

variable {P : S.Op → Prop}

@[simp] theorem issues_ret (a : α) : (ret a : Prog S α).Issues P := trivial

@[simp] theorem issues_throw (e : S.Exc) : (throw e : Prog S α).Issues P := trivial

@[simp] theorem issues_call (op : S.Op) (next : S.Reply op → Prog S α) :
    (call op next).Issues P ↔ P op ∧ ∀ r, (next r).Issues P := Iff.rfl

theorem Issues.bind {p : Prog S α} {f : α → Prog S β} (hp : p.Issues P)
    (hf : ∀ a, (f a).Issues P) : (p >>= f).Issues P := by
  induction p with
  | ret a => exact hf a
  | throw e => trivial
  | call op next ih => exact ⟨hp.1, fun r => ih r (hp.2 r)⟩

theorem Issues.attempt {p : Prog S α} (hp : p.Issues P) : p.attempt.Issues P := by
  induction p with
  | ret a => trivial
  | throw e => trivial
  | call op next ih => exact ⟨hp.1, fun r => ih r (hp.2 r)⟩

theorem Issues.tryCatch {p : Prog S α} {h : S.Exc → Prog S α} (hp : p.Issues P)
    (hh : ∀ e, (h e).Issues P) : (p.tryCatch h).Issues P :=
  hp.attempt.bind fun
    | .ok _ => trivial
    | .error e => hh e

@[simp] theorem issues_ofExcept (x : Except S.Exc α) : (ofExcept x : Prog S α).Issues P := by
  cases x <;> trivial

@[simp] theorem issues_ofExcept_bind (x : Except S.Exc α) (f : α → Prog S β) :
    (ofExcept x >>= f).Issues P ↔ ∀ a, x = .ok a → (f a).Issues P := by
  cases x with
  | ok a => simp
  | error e => simp

theorem Issues.forEach {f : α → Prog S β} (hf : ∀ a, (f a).Issues P) (xs : List α) :
    (forEach xs f).Issues P := by
  induction xs with
  | nil => trivial
  | cons x xs ih => exact (hf x).bind fun _ => ih.bind fun _ => trivial

/-- A program that issues only calls of `P` keeps what those calls keep. -/
theorem Issues.wp {K : Setting S W} {ok : W → S.Op → Prop} {I : W → Prop} {p : Prog S α}
    (hp : p.Issues P) (hrely : ∀ w w', I w → K.rely w w' → I w')
    (hans : ∀ w op r w', I w → P op → K.answers w op r w' → I w')
    (hok : ∀ w op, I w → P op → ok w op) {w : W} (h : I w) :
    p.wp K ok (fun _ => I) (fun _ => I) w := by
  induction p generalizing w with
  | ret a => exact fun w' hr => hrely w w' h hr
  | throw e => exact fun w' hr => hrely w w' h hr
  | call op next ih =>
      intro w₁ hr
      have h₁ := hrely w w₁ h hr
      exact ⟨hok w₁ op h₁ hp.1, fun r w₂ ha => ih r (hp.2 r) (hans w₁ op r w₂ h₁ hp.1 ha)⟩

theorem Issues.mono {P' : S.Op → Prop} {p : Prog S α} (h : ∀ op, P op → P' op)
    (hp : p.Issues P) : p.Issues P' := by
  induction p with
  | ret a => trivial
  | throw e => trivial
  | call op next ih => exact ⟨h op hp.1, fun r => ih r (hp.2 r)⟩

/-- A loop whose body keeps `I`, and relates each element to its result. -/
theorem wp_forEach {K : Setting S W} {ok : W → S.Op → Prop} {I : W → Prop} {E : S.Exc → W → Prop}
    {R : α → β → Prop} {f : α → Prog S β} {xs : List α} (hrely : ∀ {w w'}, I w → K.rely w w' → I w')
    (h : ∀ x ∈ xs, ∀ w, I w → (f x).wp K ok (fun y w => R x y ∧ I w) E w) {w : W} (hw : I w) :
    (forEach xs f).wp K ok (fun ys w => List.Forall₂ R xs ys ∧ I w) E w := by
  induction xs generalizing w with
  | nil => exact fun w' hr => ⟨.nil, hrely hw hr⟩
  | cons x xs ih =>
      refine wp_seq (h x List.mem_cons_self w hw) fun y w₁ hy => ?_
      refine wp_seq (ih (fun z hz => h z (List.mem_cons_of_mem x hz)) hy.2) fun ys w₂ hys => ?_
      exact fun w₃ hr => ⟨.cons hy.1 hys.1, hrely hys.2 hr⟩

/-- Every value that the program can return satisfies `P`, whatever the replies. -/
def Returns (P : α → Prop) : Prog S α → Prop
  | ret a => P a
  | throw _ => True
  | call _ next => ∀ r, (next r).Returns P

@[simp] theorem returns_ret {P : α → Prop} (a : α) : (ret a : Prog S α).Returns P ↔ P a := Iff.rfl

@[simp] theorem returns_throw {P : α → Prop} (e : S.Exc) : (throw e : Prog S α).Returns P := trivial

theorem Returns.bind {P : α → Prop} {P' : β → Prop} {p : Prog S α} {f : α → Prog S β}
    (hp : p.Returns P) (hf : ∀ a, P a → (f a).Returns P') : (p >>= f).Returns P' := by
  induction p with
  | ret a => exact hf a hp
  | throw e => trivial
  | call op next ih => exact fun r => ih r (hp r)

theorem Returns.tryCatch {P : α → Prop} {p : Prog S α} {h : S.Exc → Prog S α} (hp : p.Returns P)
    (hh : ∀ e, (h e).Returns P) : (p.tryCatch h).Returns P := by
  have hattempt : p.attempt.Returns fun x => ∀ a, x = .ok a → P a := by
    induction p with
    | ret a =>
        intro b hb
        cases hb
        exact hp
    | throw e =>
        intro b hb
        cases hb
    | call op next ih => exact fun r => ih r (hp r)
  refine hattempt.bind fun x hx => ?_
  cases x with
  | ok a => exact hx a rfl
  | error e => exact hh e

/-- What is returned does not depend on the first part. -/
theorem returns_bind {P' : β → Prop} (p : Prog S α) {f : α → Prog S β}
    (hf : ∀ a, (f a).Returns P') : (p >>= f).Returns P' := by
  induction p with
  | ret a => exact hf a
  | throw e => trivial
  | call op next ih => exact ih

theorem returns_ofExcept_bind {P' : β → Prop} (x : Except S.Exc α) (f : α → Prog S β) :
    (ofExcept x >>= f).Returns P' ↔ ∀ a, x = .ok a → (f a).Returns P' := by
  cases x with
  | ok a => simp
  | error e => simp

theorem returns_ofExcept {P : α → Prop} (x : Except S.Exc α) :
    (ofExcept x : Prog S α).Returns P ↔ ∀ a, x = .ok a → P a := by
  cases x with
  | ok a => simp
  | error e => simp

end Prog

/-- Each element on the left has a partner on the right. -/
theorem exists_of_forall₂ {R : α → β → Prop} {xs : List α} {ys : List β} {x : α}
    (h : List.Forall₂ R xs ys) (hx : x ∈ xs) : ∃ y ∈ ys, R x y := by
  induction h with
  | nil => cases hx
  | cons hab _ ih =>
      rcases List.mem_cons.mp hx with rfl | hx
      · exact ⟨_, List.mem_cons_self, hab⟩
      · obtain ⟨y, hy, hR⟩ := ih hx
        exact ⟨y, List.mem_cons_of_mem _ hy, hR⟩

/-- What the last event says that `f` reads. -/
def Trace.last? (f : Event S → Option α) (tr : Trace S) : Option α := tr.reverse.findSome? f

theorem Trace.last?_snoc (f : Event S → Option α) (tr : Trace S) (ev : Event S) :
    Trace.last? f (tr ++ [ev]) = (f ev).or (Trace.last? f tr) := by
  rw [Trace.last?, List.reverse_append, List.reverse_singleton, List.singleton_append,
    List.findSome?_cons]
  cases f ev with
  | none => rfl
  | some a => rfl

theorem Trace.last?_append (f : Event S → Option α) (tr tr' : Trace S) :
    Trace.last? f (tr ++ tr') = (Trace.last? f tr').or (Trace.last? f tr) := by
  rw [Trace.last?, List.reverse_append, List.findSome?_append, ← Trace.last?, ← Trace.last?]

/-- The event that says it. -/
theorem Trace.exists_of_last? {f : Event S → Option α} {tr : Trace S} {a : α}
    (h : Trace.last? f tr = some a) : ∃ pre ev post, tr = pre ++ ev :: post ∧ f ev = some a := by
  obtain ⟨ev, hmem, hev⟩ := List.exists_of_findSome?_eq_some h
  obtain ⟨pre, post, rfl⟩ := List.append_of_mem (List.mem_reverse.mp hmem)
  exact ⟨pre, ev, post, rfl, hev⟩

-- ============================================================================
-- Inversion
-- ============================================================================

namespace Exec

variable {K : Setting S W} {P : S.Op → Prop} {p q : Prog S α} {f : α → Prog S β}
  {w w' : W} {tr : Trace S}

theorem issues (h : Exec K p w tr q w') (hp : p.Issues P) :
    (∀ ev ∈ tr, P ev.1) ∧ q.Issues P := by
  induction h with
  | rest _ => exact ⟨by simp, hp⟩
  | call _ _ _ ih =>
      obtain ⟨hmem, hq⟩ := ih (hp.2 _)
      exact ⟨List.forall_mem_cons.mpr ⟨hp.1, hmem⟩, hq⟩

/-- A finished run returns what its program can return. -/
theorem returns {P : α → Prop} {a : α} (h : Exec K p w tr (.ret a) w') (hp : p.Returns P) : P a := by
  generalize hs : Prog.ret a = s at h
  induction h with
  | rest _ =>
      subst hs
      exact hp
  | @call op next _ _ r _ _ _ _ _ _ _ ih => exact ih (hp r) hs

/-- A run takes no other answers than those of its trace. -/
theorem restrict {P : (op : S.Op) → S.Reply op → Prop} (h : Exec K p w tr q w')
    (hP : ∀ ev ∈ tr, P ev.1 ev.2) : Exec (K.restrict fun _ => P) p w tr q w' := by
  induction h with
  | rest hr => exact .rest hr
  | call hr ha _ ih =>
      rw [List.forall_mem_cons] at hP
      exact .call hr ⟨ha, hP.1⟩ (ih hP.2)

theorem ret_inv {a : α} (h : Exec K (.ret a) w tr q w') : tr = [] ∧ q = .ret a := by
  cases h
  exact ⟨rfl, rfl⟩

theorem throw_inv {e : S.Exc} (h : Exec K (.throw e) w tr q w') : tr = [] ∧ q = .throw e := by
  cases h
  exact ⟨rfl, rfl⟩

/-- A value or an exception is there without a call. -/
theorem ofExcept_ret_inv {x : Except S.Exc α} {a : α}
    (h : Exec K (.ofExcept x) w tr (.ret a) w') : tr = [] ∧ x = .ok a := by
  cases x with
  | ok b =>
      obtain ⟨rfl, hret⟩ := ret_inv h
      cases hret
      exact ⟨rfl, rfl⟩
  | error e => cases (throw_inv h).2

theorem ofExcept_bind_ret_inv {x : Except S.Exc α} {b : β}
    (h : Exec K (.ofExcept x >>= f) w tr (.ret b) w') :
    ∃ a, x = .ok a ∧ Exec K (f a) w tr (.ret b) w' := by
  cases x with
  | ok a => exact ⟨a, rfl, h⟩
  | error e => cases (throw_inv h).2

/-- A finished run that starts with a call has its reply. -/
theorem call_ret_inv {op : S.Op} {next : S.Reply op → Prog S α} {a : α}
    (h : Exec K (.call op next) w tr (.ret a) w') :
    ∃ r tr' w₁ w₂, tr = ⟨op, r⟩ :: tr' ∧ K.rely w w₁ ∧ K.answers w₁ op r w₂ ∧
      Exec K (next r) w₂ tr' (.ret a) w' := by
  cases h with
  | call hr ha h => exact ⟨_, _, _, _, rfl, hr, ha, h⟩

/-- A run that has come to another call than its first has the reply to that one. -/
theorem call_call_inv {op op' : S.Op} {next : S.Reply op → Prog S α} {next' : S.Reply op' → Prog S α}
    (h : Exec K (.call op next) w tr (.call op' next') w') (hne : op ≠ op') :
    ∃ r tr' w₁ w₂, tr = ⟨op, r⟩ :: tr' ∧ K.rely w w₁ ∧ K.answers w₁ op r w₂ ∧
      Exec K (next r) w₂ tr' (.call op' next') w' := by
  cases h with
  | rest hr => exact absurd rfl hne
  | call hr ha h => exact ⟨_, _, _, _, rfl, hr, ha, h⟩

theorem ofExcept_bind_call_inv {x : Except S.Exc α} {op : S.Op} {next : S.Reply op → Prog S β}
    (h : Exec K (.ofExcept x >>= f) w tr (.call op next) w') :
    ∃ a, x = .ok a ∧ Exec K (f a) w tr (.call op next) w' := by
  cases x with
  | ok a => exact ⟨a, rfl, h⟩
  | error e => cases (throw_inv h).2

/-- A run of a composition is inside the first part, or past it. -/
theorem bind_inv {q : Prog S β} (h : Exec K (p >>= f) w tr q w') :
    (∃ p', q = p' >>= f ∧ Exec K p w tr p' w') ∨
      ∃ a t₁ t₂ w₁, tr = t₁ ++ t₂ ∧ Exec K p w t₁ (.ret a) w₁ ∧ Exec K (f a) w₁ t₂ q w' := by
  induction p generalizing w tr with
  | ret a => exact .inr ⟨a, [], tr, w, rfl, refl _ _, h⟩
  | throw e =>
      cases h with
      | rest hr => exact .inl ⟨.throw e, rfl, rest hr⟩
  | call op next ih =>
      cases h with
      | rest hr => exact .inl ⟨.call op next, rfl, rest hr⟩
      | call hr ha h =>
          obtain ⟨p', rfl, h'⟩ | ⟨a, t₁, t₂, w₁, rfl, h₁, h₂⟩ := ih _ h
          · exact .inl ⟨p', rfl, call hr ha h'⟩
          · exact .inr ⟨a, _ :: t₁, t₂, w₁, rfl, call hr ha h₁, h₂⟩

theorem bind_ret_inv {b : β} (h : Exec K (p >>= f) w tr (.ret b) w') :
    ∃ a t₁ t₂ w₁, tr = t₁ ++ t₂ ∧ Exec K p w t₁ (.ret a) w₁ ∧ Exec K (f a) w₁ t₂ (.ret b) w' := by
  obtain ⟨p', hq, hp⟩ | h := h.bind_inv
  · cases p' with
    | ret a => exact ⟨a, tr, [], w', (List.append_nil _).symm, hp, hq ▸ refl _ _⟩
    | throw e => cases hq
    | call op next => cases hq
  · exact h

theorem bind_throw_inv {e : S.Exc} (h : Exec K (p >>= f) w tr (.throw e) w') :
    Exec K p w tr (.throw e) w' ∨
      ∃ a t₁ t₂ w₁, tr = t₁ ++ t₂ ∧ Exec K p w t₁ (.ret a) w₁ ∧ Exec K (f a) w₁ t₂ (.throw e) w' := by
  obtain ⟨p', hq, hp⟩ | h := h.bind_inv
  · cases p' with
    | ret a => exact .inr ⟨a, tr, [], w', (List.append_nil _).symm, hp, hq ▸ refl _ _⟩
    | throw e' =>
        cases hq
        exact .inl hp
    | call op next => cases hq
  · exact .inr h

/-- A run that has come to a call which the first part never issues is past it. -/
theorem bind_call_inv {op : S.Op} {next : S.Reply op → Prog S β}
    (h : Exec K (p >>= f) w tr (.call op next) w') (hp : p.Issues (· ≠ op)) :
    ∃ a t₁ t₂ w₁, tr = t₁ ++ t₂ ∧ Exec K p w t₁ (.ret a) w₁ ∧
      Exec K (f a) w₁ t₂ (.call op next) w' := by
  obtain ⟨p', hq, hp'⟩ | h := h.bind_inv
  · cases p' with
    | ret a => exact ⟨a, tr, [], w', (List.append_nil _).symm, hp', hq ▸ refl _ _⟩
    | throw e => cases hq
    | call op' next' =>
        cases hq
        exact absurd rfl (hp'.issues hp).2.1
  · exact h

/-- A run that has come to a call which the second part never issues is inside
    the first. -/
theorem bind_call_left {op : S.Op} {next : S.Reply op → Prog S β}
    (h : Exec K (p >>= f) w tr (.call op next) w') (hf : ∀ a, (f a).Issues (· ≠ op)) :
    ∃ next', Exec K p w tr (.call op next') w' := by
  obtain ⟨p', hq, hp⟩ | ⟨a, t₁, t₂, w₁, -, -, h₂⟩ := h.bind_inv
  · cases p' with
    | ret a =>
        have hfa := hf a
        rw [Prog.ret_bind] at hq
        rw [← hq] at hfa
        exact absurd rfl hfa.1
    | throw e => cases hq
    | call op' next' =>
        cases hq
        exact ⟨next', hp⟩
  · exact absurd rfl (h₂.issues (hf a)).2.1

/-- A finished run of the first part and a run of the second make a run. -/
theorem bind_ret {q : Prog S β} {a : α} {w₁ : W} {tr' : Trace S} (h₁ : Exec K p w tr (.ret a) w₁)
    (h₂ : Exec K (f a) w₁ tr' q w') : Exec K (p >>= f) w (tr ++ tr') q w' := by
  generalize hs : Prog.ret a = s at h₁
  induction h₁ with
  | rest hr =>
      subst hs
      exact of_rely hr h₂
  | call hr ha _ ih => exact call hr ha (ih h₂ hs)

theorem attempt_ret {a : α} (h : Exec K p w tr (.ret a) w') :
    Exec K p.attempt w tr (.ret (.ok a)) w' := by
  generalize hs : Prog.ret a = s at h
  induction h with
  | rest hr =>
      subst hs
      exact rest hr
  | call hr ha _ ih => exact call hr ha (ih hs)

theorem attempt_ret_inv {x : Except S.Exc α} (h : Exec K p.attempt w tr (.ret x) w') :
    Exec K p w tr (.ofExcept x) w' := by
  induction p generalizing w tr with
  | ret a =>
      cases h with
      | rest hr => exact rest hr
  | throw e =>
      cases h with
      | rest hr => exact rest hr
  | call op next ih =>
      obtain ⟨r, tr', w₁, w₂, rfl, hr, ha, h⟩ := call_ret_inv h
      exact call hr ha (ih r h)

/-- A caught computation that has come to a call has come to it by itself. -/
theorem attempt_call_inv {op : S.Op} {next : S.Reply op → Prog S (Except S.Exc α)}
    (h : Exec K p.attempt w tr (.call op next) w') :
    ∃ next', Exec K p w tr (.call op next') w' := by
  induction p generalizing w tr with
  | ret a => cases (ret_inv h).2
  | throw e => cases (ret_inv h).2
  | call op' next' ih =>
      cases h with
      | rest hr => exact ⟨next', rest hr⟩
      | call hr ha h =>
          obtain ⟨next'', h'⟩ := ih _ h
          exact ⟨next'', call hr ha h'⟩

theorem tryCatch_call_inv {handler : S.Exc → Prog S α} {op : S.Op} {next : S.Reply op → Prog S α}
    (h : Exec K (p.tryCatch handler) w tr (.call op next) w')
    (hhandler : ∀ e, (handler e).Issues (· ≠ op)) : ∃ next', Exec K p w tr (.call op next') w' := by
  obtain ⟨next', h'⟩ := h.bind_call_left fun
    | .ok _ => trivial
    | .error e => hhandler e
  exact h'.attempt_call_inv

/-- What the interference and each answer of a run keep holds all along it. -/
theorem keeps {I : W → Prop} (h : Exec K p w tr q w') (hrely : ∀ {w w'}, I w → K.rely w w' → I w')
    (hans : ∀ {t op next w₁ r w₂}, Exec K p w t (.call op next) w₁ → I w₁ →
      K.answers w₁ op r w₂ → I w₂) (hI : I w) : I w' := by
  induction tr using List.reverseRecOn generalizing q w' with
  | nil =>
      cases h with
      | rest hr => exact hrely hI hr
  | append_singleton t ev ih =>
      obtain ⟨s, w₁, h₁, h₂⟩ := h.split
      cases h₂ with
      | @call op next _ w₂ r w₃ _ _ _ hr ha h₃ =>
          have hat := h₁.trans (rest hr)
          rw [List.append_nil] at hat
          have hkept : I w₃ := hans hat (ih hat) ha
          generalize next r = left at h₃
          cases h₃ with
          | rest hr' => exact hrely hkept hr'

/-- A finished loop has made a finished run of its body for each element, in the
    order of the list. -/
theorem forEach_ret_inv {xs : List α} {f : α → Prog S β} {ys : List β}
    (h : Exec K (.forEach xs f) w tr (.ret ys) w') :
    List.Forall₂ (fun x y => ∃ t w₁ w₂, t <:+: tr ∧ Exec K (f x) w₁ t (.ret y) w₂) xs ys := by
  induction xs generalizing w tr ys w' with
  | nil =>
      obtain ⟨-, hys⟩ := ret_inv h
      cases hys
      exact .nil
  | cons x xs ih =>
      obtain ⟨y, t₁, t₂, w₁, rfl, h₁, h₂⟩ := bind_ret_inv h
      obtain ⟨ys', t₃, t₄, w₂, rfl, h₃, h₄⟩ := bind_ret_inv h₂
      obtain ⟨rfl, hys⟩ := ret_inv h₄
      cases hys
      refine .cons ⟨t₁, w, w₁, ⟨[], t₃ ++ [], by simp⟩, h₁⟩ ?_
      have htail := ih h₃
      refine htail.imp ?_
      rintro x' y' ⟨t, w₃, w₄, ht, hx⟩
      exact ⟨t, w₃, w₄, ht.trans ⟨t₁, [], by simp⟩, hx⟩

end Exec

-- ============================================================================
-- Runs without a world
-- ============================================================================

/-- `Runs legal p tr q`: with legal replies, `p` makes the calls of `tr` and is
    left as `q`. -/
abbrev Runs (legal : (op : S.Op) → S.Reply op → Prop) (p : Prog S α) (tr : Trace S)
    (q : Prog S α) : Prop :=
  Exec (Setting.stateless legal) p () tr q ()

section
variable {legal : (op : S.Op) → S.Reply op → Prop} {p q : Prog S α} {tr : Trace S}

/-- What is left of an execution when its world is forgotten. -/
theorem Exec.runs {K : Setting S W} {w w' : W} (h : Exec K p w tr q w')
    (hK : ∀ w op r w', K.answers w op r w' → legal op r) : Runs legal p tr q := by
  induction h with
  | rest _ => exact .rest rfl
  | call _ ha _ ih => exact .call rfl (hK _ _ _ _ ha) ih

theorem Runs.legal_of_mem (h : Runs legal p tr q) : ∀ ev ∈ tr, legal ev.1 ev.2 := by
  induction tr generalizing p with
  | nil => simp
  | cons ev tr ih =>
      cases h with
      | call _ ha h => exact List.forall_mem_cons.mpr ⟨ha, ih h⟩

/-- A run is an execution in the world that remembers it. -/
theorem Runs.history (h : Runs legal p tr q) (past : Trace S) :
    Exec (Setting.history legal) p past tr q (past ++ tr) := by
  induction tr generalizing p past with
  | nil =>
      cases h
      exact .rest (List.append_nil _).symm
  | cons ev tr ih =>
      cases h with
      | @call op next _ _ r _ _ _ _ hr ha h =>
          have hrest := ih h (past ++ [⟨op, r⟩])
          rw [List.append_assoc, List.singleton_append] at hrest
          exact .call rfl ⟨ha, rfl⟩ hrest

/-- A run splits at each of its calls. -/
theorem Runs.split {pre post : Trace S} {ev : Event S} (h : Runs legal p (pre ++ ev :: post) q) :
    ∃ next, Runs legal p pre (.call ev.1 next) ∧ legal ev.1 ev.2 ∧
      Runs legal (next ev.2) post q := by
  obtain ⟨s, w₁, h₁, h₂⟩ := Exec.split h
  cases h₂ with
  | call _ ha h => exact ⟨_, h₁, ha, h⟩

end

-- ============================================================================
-- Scripted runs
-- ============================================================================

namespace Prog

/-- Run against a script, up to the first call that it does not answer. -/
def walk (answer : W → (op : S.Op) → Option (S.Reply op × W)) :
    Prog S α → W → Trace S × Prog S α × W
  | ret a, w => ([], ret a, w)
  | throw e, w => ([], throw e, w)
  | call op next, w =>
      match answer w op with
      | none => ([], call op next, w)
      | some (r, w') =>
          let rest := walk answer (next r) w'
          (⟨op, r⟩ :: rest.1, rest.2)

theorem walk_exec (K : Setting S W) (answer : W → (op : S.Op) → Option (S.Reply op × W))
    (ha : ∀ w op r w', answer w op = some (r, w') → K.answers w op r w') (p : Prog S α) (w : W) :
    Exec K p w (p.walk answer w).1 (p.walk answer w).2.1 (p.walk answer w).2.2 := by
  induction p generalizing w with
  | ret a => exact Exec.refl _ _
  | throw e => exact Exec.refl _ _
  | call op next ih =>
      rw [walk]
      cases hr : answer w op with
      | none => exact Exec.refl _ _
      | some x => exact Exec.call (K.rely_refl w) (ha w op x.1 x.2 hr) (ih _ _)

/-- The value of a program that has come to its end. -/
def value? : Prog S α → Option α
  | ret a => some a
  | _ => none

theorem value?_eq_some {p : Prog S α} {a : α} : p.value? = some a ↔ p = ret a := by
  cases p <;> simp [value?]

/-- The exception of a program that has come to an uncaught one. -/
def thrown? : Prog S α → Option S.Exc
  | throw e => some e
  | _ => none

theorem thrown?_eq_some {p : Prog S α} {e : S.Exc} : p.thrown? = some e ↔ p = throw e := by
  cases p <;> simp [thrown?]

end Prog

end AutoRecycle.Effect
