/-
  AutoRecycle.Effect.Setting

  What a program can do in a world, and the rules to prove things about it.

  A `Setting` says how the calls of a signature are answered in a world state
  and what the world may do on its own between two calls (`rely`).  `Exec` is
  the resulting execution relation, over complete and incomplete runs alike.
  `Prog.wp` is the weakest precondition of a program: every call it issues, in
  whatever state the interference has left, satisfies `ok`, and the run ends in
  `Q` (with a value) or `E` (with an exception).  One rule per program former is
  proved here; `Exec.wp` and `Exec.ok_of_mem` turn a `wp` into a fact about runs.
-/
import AutoRecycle.Effect.Prog

namespace AutoRecycle.Effect

/-- How a world of states `W` answers calls, and how it moves by itself.  The
    interference is a preorder, so that "some time passes" is one step. -/
structure Setting (S : Signature) (W : Type) where
  answers : W → (op : S.Op) → S.Reply op → W → Prop
  rely : W → W → Prop
  rely_refl : ∀ w, rely w w
  rely_trans : ∀ {a b c}, rely a b → rely b c → rely a c

variable {S : Signature} {W α β : Type}

namespace Setting

/-- A world that moves only when it answers. -/
def alone (answers : W → (op : S.Op) → S.Reply op → W → Prop) : Setting S W where
  answers := answers
  rely := Eq
  rely_refl _ := rfl
  rely_trans := Eq.trans

/-- No world: any `legal` reply may come. -/
def stateless (legal : (op : S.Op) → S.Reply op → Prop) : Setting S Unit :=
  alone fun _ op r _ => legal op r

/-- The world `K` with a record of the calls that it has answered. -/
def recording (K : Setting S W) : Setting S (W × Trace S) where
  answers x op r y := K.answers x.1 op r y.1 ∧ y.2 = x.2 ++ [⟨op, r⟩]
  rely x y := K.rely x.1 y.1 ∧ y.2 = x.2
  rely_refl x := ⟨K.rely_refl x.1, rfl⟩
  rely_trans h₁ h₂ := ⟨K.rely_trans h₁.1 h₂.1, h₂.2.trans h₁.2⟩

/-- The world `K`, as long as its answers satisfy `P`. -/
def restrict (K : Setting S W) (P : W → (op : S.Op) → S.Reply op → Prop) : Setting S W where
  answers w op r w' := K.answers w op r w' ∧ P w op r
  rely := K.rely
  rely_refl := K.rely_refl
  rely_trans := K.rely_trans

/-- Every step of `K` is a step of `K₀`, and every answer satisfies `P`. -/
structure Narrows (K K₀ : Setting S W) (P : W → (op : S.Op) → S.Reply op → Prop) : Prop where
  answers : ∀ {w op r w'}, K.answers w op r w' → K₀.answers w op r w' ∧ P w op r
  rely : ∀ {w w'}, K.rely w w' → K₀.rely w w'

theorem restrict_narrows (K : Setting S W) (P : W → (op : S.Op) → S.Reply op → Prop) :
    (K.restrict P).Narrows K P := ⟨id, id⟩

theorem narrows_refl (K : Setting S W) : K.Narrows K fun _ _ _ => True := ⟨fun h => ⟨h, trivial⟩, id⟩

/-- The world that remembers every answered call and allows every `legal` reply. -/
def history (legal : (op : S.Op) → S.Reply op → Prop) : Setting S (Trace S) :=
  alone fun h op r h' => legal op r ∧ h' = h ++ [⟨op, r⟩]

@[simp] theorem alone_rely (answers : W → (op : S.Op) → S.Reply op → W → Prop) :
    (alone answers).rely = Eq := rfl

@[simp] theorem alone_answers (answers : W → (op : S.Op) → S.Reply op → W → Prop) :
    (alone answers).answers = answers := rfl

@[simp] theorem history_rely (legal : (op : S.Op) → S.Reply op → Prop) :
    (history legal).rely = Eq := rfl

@[simp] theorem history_answers (legal : (op : S.Op) → S.Reply op → Prop) (h : Trace S)
    (op : S.Op) (r : S.Reply op) (h' : Trace S) :
    (history legal).answers h op r h' ↔ legal op r ∧ h' = h ++ [⟨op, r⟩] := Iff.rfl

end Setting

-- ============================================================================
-- Execution
-- ============================================================================

/-- `Exec K p w tr q w'`: from `w`, the program `p` can issue the calls of `tr`,
    get the replies recorded there, and be left as `q` in `w'`. -/
inductive Exec (K : Setting S W) : Prog S α → W → Trace S → Prog S α → W → Prop where
  | rest {p w w'} (hr : K.rely w w') : Exec K p w [] p w'
  | call {op next w w₁ r w₂ tr q w'} (hr : K.rely w w₁) (ha : K.answers w₁ op r w₂)
      (h : Exec K (next r) w₂ tr q w') : Exec K (.call op next) w (⟨op, r⟩ :: tr) q w'

namespace Exec

variable {K : Setting S W}

theorem refl (p : Prog S α) (w : W) : Exec K p w [] p w := rest (K.rely_refl w)

theorem of_rely {p q : Prog S α} {w w₁ w' : W} {tr : Trace S} (hr : K.rely w w₁)
    (h : Exec K p w₁ tr q w') : Exec K p w tr q w' := by
  cases h with
  | rest hr' => exact rest (K.rely_trans hr hr')
  | call hr' ha h => exact call (K.rely_trans hr hr') ha h

theorem trans {p q s : Prog S α} {w w₁ w' : W} {tr₁ tr₂ : Trace S}
    (h₁ : Exec K p w tr₁ q w₁) (h₂ : Exec K q w₁ tr₂ s w') :
    Exec K p w (tr₁ ++ tr₂) s w' := by
  induction h₁ with
  | rest hr => exact of_rely hr h₂
  | call hr ha _ ih => exact call hr ha (ih h₂)

/-- A run splits at any point of its trace. -/
theorem split {p q : Prog S α} {w w' : W} {tr₁ tr₂ : Trace S}
    (h : Exec K p w (tr₁ ++ tr₂) q w') :
    ∃ s w₁, Exec K p w tr₁ s w₁ ∧ Exec K s w₁ tr₂ q w' := by
  induction tr₁ generalizing p w with
  | nil => exact ⟨p, w, refl p w, h⟩
  | cons ev tr₁ ih =>
      cases h with
      | call hr ha h =>
          obtain ⟨s, w₁, h₁, h₂⟩ := ih h
          exact ⟨s, w₁, call hr ha h₁, h₂⟩

/-- In the remembering world the state is the trace so far. -/
theorem history_eq {legal : (op : S.Op) → S.Reply op → Prop} {p q : Prog S α}
    {h h' tr : Trace S} (hx : Exec (Setting.history legal) p h tr q h') : h' = h ++ tr := by
  induction hx with
  | rest hr => simpa using hr.symm
  | call hr ha _ ih =>
      obtain ⟨-, rfl⟩ := ha
      cases hr
      simpa using ih

/-- A recorded execution is an execution, and its record grows by the trace. -/
theorem recording_iff {p q : Prog S α} {x y : W × Trace S} {tr : Trace S} :
    Exec (Setting.recording K) p x tr q y ↔ Exec K p x.1 tr q y.1 ∧ y.2 = x.2 ++ tr := by
  constructor
  · intro h
    induction h with
    | rest hr => exact ⟨rest hr.1, by rw [hr.2, List.append_nil]⟩
    | call hr ha _ ih =>
        refine ⟨call hr.1 ha.1 ih.1, ?_⟩
        rw [ih.2, ha.2, hr.2, List.append_assoc, List.singleton_append]
  · obtain ⟨w, h⟩ := x
    obtain ⟨w', h'⟩ := y
    rintro ⟨hx, rfl⟩
    replace hx : Exec K p w tr q w' := hx
    induction hx generalizing h with
    | rest hr => exact rest ⟨hr, List.append_nil h⟩
    | @call op next w w₁ r w₂ tr q w' hr ha _ ih =>
        have hrest := ih (h ++ [⟨op, r⟩])
        rw [List.append_assoc, List.singleton_append] at hrest
        have ha' : (Setting.recording K).answers (w₁, h) op r (w₂, h ++ [⟨op, r⟩]) := ⟨ha, rfl⟩
        have hr' : (Setting.recording K).rely (w, h) (w₁, h) := ⟨hr, rfl⟩
        exact call hr' ha' hrest

/-- A scripted run is an execution of every world that allows the script. -/
theorem of_run {answer : W → (op : S.Op) → S.Reply op × W}
    (ha : ∀ w op, K.answers w op (answer w op).1 (answer w op).2) (p : Prog S α) (w : W) :
    ∃ tr, Exec K p w tr (.ofExcept (p.run answer w).1) (p.run answer w).2 := by
  induction p generalizing w with
  | ret a => exact ⟨[], refl _ _⟩
  | throw e => exact ⟨[], refl _ _⟩
  | call op next ih =>
      obtain ⟨tr, h⟩ := ih (answer w op).1 (answer w op).2
      exact ⟨_, call (K.rely_refl w) (ha w op) h⟩

end Exec

-- ============================================================================
-- Weakest preconditions
-- ============================================================================

namespace Prog

variable (K : Setting S W) (ok : W → S.Op → Prop)

/-- From `w`, and under the interference of `K`, every call that `p` issues is
    `ok` where it is issued, and `p` ends in `Q` or `E` if it ends. -/
def wp : Prog S α → (α → W → Prop) → (S.Exc → W → Prop) → W → Prop
  | ret a, Q, _, w => ∀ w', K.rely w w' → Q a w'
  | throw e, _, E, w => ∀ w', K.rely w w' → E e w'
  | call op next, Q, E, w => ∀ w₁, K.rely w w₁ →
      ok w₁ op ∧ ∀ r w₂, K.answers w₁ op r w₂ → wp (next r) Q E w₂

variable {K ok} {p : Prog S α} {Q Q' : α → W → Prop} {E E' : S.Exc → W → Prop} {w w' : W}

/-- A weakest precondition survives the interference. -/
theorem wp_rely (h : p.wp K ok Q E w) (hr : K.rely w w') : p.wp K ok Q E w' := by
  cases p with
  | ret a => exact fun w₂ hr₂ => h w₂ (K.rely_trans hr hr₂)
  | throw e => exact fun w₂ hr₂ => h w₂ (K.rely_trans hr hr₂)
  | call op next => exact fun w₂ hr₂ => h w₂ (K.rely_trans hr hr₂)

theorem wp_mono (hQ : ∀ a w, Q a w → Q' a w) (hE : ∀ e w, E e w → E' e w)
    (h : p.wp K ok Q E w) : p.wp K ok Q' E' w := by
  induction p generalizing w with
  | ret a => exact fun w' hr => hQ a w' (h w' hr)
  | throw e => exact fun w' hr => hE e w' (h w' hr)
  | call op next ih =>
      exact fun w₁ hr => ⟨(h w₁ hr).1, fun r w₂ ha => ih r ((h w₁ hr).2 r w₂ ha)⟩

/-- Nothing is known, and nothing is asked. -/
theorem wp_trivial : p.wp K (fun _ _ => True) (fun _ _ => True) (fun _ _ => True) w := by
  induction p generalizing w with
  | ret a => exact fun _ _ => trivial
  | throw e => exact fun _ _ => trivial
  | call op next ih => exact fun _ _ => ⟨trivial, fun r _ _ => ih r⟩

theorem wp_bind (f : α → Prog S β) {Q : β → W → Prop} :
    (p >>= f).wp K ok Q E w ↔ p.wp K ok (fun a w => (f a).wp K ok Q E w) E w := by
  induction p generalizing w with
  | ret a => exact ⟨fun h _ hr => wp_rely h hr, fun h => h w (K.rely_refl w)⟩
  | throw e => exact Iff.rfl
  | call op next ih =>
      simp only [call_bind, wp, ih]

/-- One part, and what comes after it. -/
theorem wp_seq {f : α → Prog S β} {R : β → W → Prop} (hp : p.wp K ok Q E w)
    (hf : ∀ a w, Q a w → (f a).wp K ok R E w) : (p >>= f).wp K ok R E w :=
  (wp_bind f).mpr (wp_mono hf (fun _ _ h => h) hp)

theorem wp_attempt {Q : Except S.Exc α → W → Prop} :
    p.attempt.wp K ok Q E w ↔
      p.wp K ok (fun a w => Q (.ok a) w) (fun e w => Q (.error e) w) w := by
  induction p generalizing w with
  | ret a => exact Iff.rfl
  | throw e => exact Iff.rfl
  | call op next ih => simp only [attempt, wp, ih]

section
variable {legal : (op : S.Op) → S.Reply op → Prop} {ok : Trace S → S.Op → Prop}
  {Q : α → Trace S → Prop} {E : S.Exc → Trace S → Prop} {h : Trace S}

@[simp] theorem wp_history_ret (a : α) :
    (ret a).wp (Setting.history legal) ok Q E h ↔ Q a h :=
  ⟨fun hp => hp h rfl, fun hq _ hr => hr ▸ hq⟩

@[simp] theorem wp_history_throw (e : S.Exc) :
    (throw e : Prog S α).wp (Setting.history legal) ok Q E h ↔ E e h :=
  ⟨fun hp => hp h rfl, fun he _ hr => hr ▸ he⟩

@[simp] theorem wp_history_call (op : S.Op) (next : S.Reply op → Prog S α) :
    (call op next).wp (Setting.history legal) ok Q E h ↔ ok h op ∧ ∀ r, legal op r →
      (next r).wp (Setting.history legal) ok Q E (h ++ [⟨op, r⟩]) := by
  constructor
  · intro hp
    exact ⟨(hp h rfl).1, fun r hl => (hp h rfl).2 r _ ⟨hl, rfl⟩⟩
  · rintro ⟨hok, hnext⟩ _ ⟨rfl⟩
    refine ⟨hok, fun r _ ha => ?_⟩
    obtain ⟨hl, rfl⟩ := ha
    exact hnext r hl

end

section
variable {legal : (op : S.Op) → S.Reply op → Prop} {ok : Unit → S.Op → Prop}
  {Q : α → Unit → Prop} {E : S.Exc → Unit → Prop}

@[simp] theorem wp_stateless_ret (a : α) :
    (ret a).wp (Setting.stateless legal) ok Q E () ↔ Q a () :=
  ⟨fun hp => hp () rfl, fun hq _ _ => hq⟩

@[simp] theorem wp_stateless_throw (e : S.Exc) :
    (throw e : Prog S α).wp (Setting.stateless legal) ok Q E () ↔ E e () :=
  ⟨fun hp => hp () rfl, fun he _ _ => he⟩

@[simp] theorem wp_stateless_call (op : S.Op) (next : S.Reply op → Prog S α) :
    (call op next).wp (Setting.stateless legal) ok Q E () ↔ ok () op ∧ ∀ r, legal op r →
      (next r).wp (Setting.stateless legal) ok Q E () :=
  ⟨fun hp => ⟨(hp () rfl).1, fun r hl => (hp () rfl).2 r () hl⟩,
    fun ⟨hok, hnext⟩ _ _ => ⟨hok, fun r _ hl => hnext r hl⟩⟩

end

end Prog

-- ============================================================================
-- Soundness
-- ============================================================================

namespace Exec

variable {K : Setting S W} {ok : W → S.Op → Prop} {p q : Prog S α}
  {Q : α → W → Prop} {E : S.Exc → W → Prop} {w w' : W} {tr : Trace S}

/-- The weakest precondition is an invariant of the run. -/
theorem wp (h : Exec K p w tr q w') (hp : p.wp K ok Q E w) : q.wp K ok Q E w' := by
  induction h with
  | rest hr => exact Prog.wp_rely hp hr
  | call hr ha _ ih => exact ih ((hp _ hr).2 _ _ ha)

theorem ret_post {a : α} (h : Exec K p w tr (.ret a) w') (hp : p.wp K ok Q E w) : Q a w' :=
  h.wp hp w' (K.rely_refl w')

theorem throw_post {e : S.Exc} (h : Exec K p w tr (.throw e) w') (hp : p.wp K ok Q E w) :
    E e w' :=
  h.wp hp w' (K.rely_refl w')

/-- What is asked of every call and of both ends holds at any point of a run. -/
theorem holds_of_wp {I : W → Prop} (h : Exec K p w tr q w')
    (hp : p.wp K (fun w _ => I w) (fun _ => I) (fun _ => I) w) : I w' := by
  have hq := h.wp hp
  cases q with
  | ret a => exact hq w' (K.rely_refl w')
  | throw e => exact hq w' (K.rely_refl w')
  | call op next => exact (hq w' (K.rely_refl w')).1

/-- Every call of a run was issued in a state where it was `ok`. -/
theorem ok_of_split {tr₁ tr₂ : Trace S} {ev : Event S}
    (h : Exec K p w (tr₁ ++ ev :: tr₂) q w') (hp : p.wp K ok Q E w) :
    ∃ w₁ w₂ next, Exec K p w tr₁ (.call ev.1 next) w₁ ∧ K.answers w₁ ev.1 ev.2 w₂ ∧
      ok w₁ ev.1 := by
  obtain ⟨s, w₀, h₁, h₂⟩ := h.split
  cases h₂ with
  | call hr ha h₂ =>
      have h₁' := h₁.trans (rest hr)
      rw [List.append_nil] at h₁'
      exact ⟨_, _, _, h₁', ha, (h₁.wp hp _ hr).1⟩

/-- In the remembering world: what `ok` says holds of the history before each call. -/
theorem ok_of_mem {legal : (op : S.Op) → S.Reply op → Prop} {ok : Trace S → S.Op → Prop}
    {Q : α → Trace S → Prop} {E : S.Exc → Trace S → Prop} {h₀ h' pre post : Trace S}
    {ev : Event S} (h : Exec (Setting.history legal) p h₀ (pre ++ ev :: post) q h')
    (hp : p.wp (Setting.history legal) ok Q E h₀) : ok (h₀ ++ pre) ev.1 := by
  obtain ⟨w₁, w₂, next, h₁, -, hok⟩ := h.ok_of_split hp
  rwa [h₁.history_eq] at hok

end Exec

/-- An execution in a world is one in every world that allows as much. -/
theorem Exec.of_narrows {K K₀ : Setting S W} {P : W → (op : S.Op) → S.Reply op → Prop} {p q : Prog S α}
    {w w' : W} {tr : Trace S} (hK : K.Narrows K₀ P) (h : Exec K p w tr q w') :
    Exec K₀ p w tr q w' := by
  induction h with
  | rest hr => exact rest (hK.rely hr)
  | call hr ha _ ih => exact call (hK.rely hr) (hK.answers ha).1 ih

/-- What holds of every run is a weakest precondition. -/
theorem Prog.wp_of_exec {K : Setting S W} {ok : W → S.Op → Prop} {p : Prog S α}
    {Q : α → W → Prop} {E : S.Exc → W → Prop} {w : W}
    (hQ : ∀ tr a w', Exec K p w tr (.ret a) w' → Q a w')
    (hE : ∀ tr e w', Exec K p w tr (.throw e) w' → E e w')
    (hok : ∀ tr op next w', Exec K p w tr (.call op next) w' → ok w' op) : p.wp K ok Q E w := by
  induction p generalizing w with
  | ret a => exact fun w' hr => hQ [] a w' (.rest hr)
  | throw e => exact fun w' hr => hE [] e w' (.rest hr)
  | call op next ih =>
      intro w₁ hr
      refine ⟨hok [] op next w₁ (.rest hr), fun r w₂ ha => ?_⟩
      apply ih r
      · exact fun tr a w' hx => hQ _ a w' (.call hr ha hx)
      · exact fun tr e w' hx => hE _ e w' (.call hr ha hx)
      · exact fun tr op' next' w' hx => hok _ op' next' w' (.call hr ha hx)

-- ============================================================================
-- Coming to a value
-- ============================================================================

/-- The world has an answer to every call. -/
def Setting.Receptive (K : Setting S W) : Prop := ∀ w op, ∃ r w', K.answers w op r w'

section
variable {K : Setting S W} {ok : W → S.Op → Prop} {p q : Prog S α} {Q : α → W → Prop} {w w' : W}
  {tr : Trace S}

/-- A program is a well-founded tree.  So where every call is answered and no
    exception can be raised it comes to a value. -/
theorem Prog.exists_ret (hK : K.Receptive) (hp : p.wp K ok Q (fun _ _ => False) w) :
    ∃ tr a w', Exec K p w tr (.ret a) w' ∧ Q a w' := by
  induction p generalizing w with
  | ret a => exact ⟨[], a, w, .refl _ _, hp w (K.rely_refl w)⟩
  | throw e => exact (hp w (K.rely_refl w)).elim
  | call op next ih =>
      obtain ⟨r, w₁, ha⟩ := hK w op
      obtain ⟨tr, a, w', hx, hq⟩ := ih r ((hp w (K.rely_refl w)).2 r w₁ ha)
      exact ⟨_, a, w', .call (K.rely_refl w) ha hx, hq⟩

/-- And so does what is left of it after any run. -/
theorem Exec.exists_ret (h : Exec K p w tr q w') (hK : K.Receptive)
    (hp : p.wp K ok Q (fun _ _ => False) w) :
    (∀ e, q ≠ .throw e) ∧ ∃ tr' a w'', Exec K q w' tr' (.ret a) w'' ∧ Q a w'' := by
  refine ⟨?_, Prog.exists_ret hK (h.wp hp)⟩
  rintro e rfl
  exact h.throw_post hp

end

end AutoRecycle.Effect
