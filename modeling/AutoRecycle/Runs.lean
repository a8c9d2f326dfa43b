/-
  AutoRecycle.Runs

  The rules of `AutoRecycle.Effect.Runs` for the formers of `Py`: a log line, a
  raised reply, and a call whose reply is checked.
-/
import AutoRecycle.Calls
import AutoRecycle.Effect.Runs

namespace AutoRecycle.Py

open AutoRecycle.Effect

section
variable {P : Op → Prop} {α β : Type}

@[simp] theorem issues_ask_bind (op : Op) (f : op.Reply → Py α) :
    (ask op >>= f).Issues P ↔ P op ∧ ∀ r, (f r).Issues P := Iff.rfl

@[simp] theorem issues_log (line : LogLine) : (log line).Issues P ↔ P (.log line) :=
  ⟨fun h => h.1, fun h => ⟨h, fun _ => trivial⟩⟩

@[simp] theorem issues_log_bind (line : LogLine) (f : Unit → Py α) :
    (log line >>= f).Issues P ↔ P (.log line) ∧ (f ()).Issues P :=
  ⟨fun h => ⟨h.1, h.2 ()⟩, fun h => ⟨h.1, fun _ => h.2⟩⟩

@[simp] theorem issues_raise (r : Except PyExc α) : (raise r).Issues P :=
  @Prog.issues_ofExcept Calls α P r

@[simp] theorem issues_raise_bind (r : Except PyExc α) (f : α → Py β) :
    (raise r >>= f).Issues P ↔ ∀ a, r = .ok a → (f a).Issues P :=
  @Prog.issues_ofExcept_bind Calls α β P r f

end

section
variable {legal : (op : Op) → op.Reply → Prop} {α β : Type} {t : Trace Calls}

theorem log_ret_inv {line : LogLine} {u : Unit} (h : Runs legal (log line) t (.ret u)) :
    t = [⟨.log line, ()⟩] := by
  obtain ⟨r, t', _, _, rfl, -, -, h'⟩ := Exec.call_ret_inv h
  obtain ⟨rfl, -⟩ := Exec.ret_inv h'
  rfl

theorem log_bind_ret_inv {line : LogLine} {f : Unit → Py α} {a : α}
    (h : Runs legal (log line >>= f) t (.ret a)) :
    ∃ t', t = ⟨.log line, ()⟩ :: t' ∧ Runs legal (f ()) t' (.ret a) := by
  obtain ⟨r, t', _, _, rfl, -, -, h'⟩ := Exec.call_ret_inv h
  exact ⟨t', rfl, h'⟩

section
variable {W : Type} {K : Setting Calls W} {w w' : W}

theorem raise_inv {r : Except PyExc α} {q : Py α} (h : Exec K (raise r) w t q w') :
    t = [] ∧ q = raise r := by
  cases r with
  | ok a => exact Exec.ret_inv h
  | error e => exact Exec.throw_inv h

theorem raise_ret_inv {r : Except PyExc α} {a : α} (h : Exec K (raise r) w t (.ret a) w') :
    t = [] ∧ r = .ok a :=
  Exec.ofExcept_ret_inv h

theorem raise_bind_inv {r : Except PyExc α} {f : α → Py β} {b : β}
    (h : Exec K (raise r >>= f) w t (.ret b) w') :
    ∃ a, r = .ok a ∧ Exec K (f a) w t (.ret b) w' :=
  Exec.ofExcept_bind_ret_inv h

theorem raise_bind_call_inv {r : Except PyExc α} {f : α → Py β} {op : Op} {next : op.Reply → Py β}
    (h : Exec K (raise r >>= f) w t (.call op next) w') :
    ∃ a, r = .ok a ∧ Exec K (f a) w t (.call op next) w' := by
  cases r with
  | ok a => exact ⟨a, rfl, h⟩
  | error e => cases (Exec.throw_inv h).2

end

/-- One call whose reply is checked. -/
theorem ask_raise_ret_inv (op : Op) (g : op.Reply → Except PyExc α) {a : α}
    (h : Runs legal (ask op >>= fun r => raise (g r)) t (.ret a)) :
    ∃ r, t = [⟨op, r⟩] ∧ g r = .ok a := by
  obtain ⟨r, t', _, _, rfl, -, -, h'⟩ := Exec.call_ret_inv h
  obtain ⟨rfl, hg⟩ := raise_ret_inv h'
  exact ⟨r, rfl, hg⟩

end

section
variable {α β W : Type} {K : Setting Calls W} {ok : W → Op → Prop} {Q : β → W → Prop}
  {E : PyExc → W → Prop} {w : W}

theorem wp_raise_bind {r : Except PyExc α} {f : α → Py β}
    (h : ∀ a, r = .ok a → (f a).wp K ok Q E w) (he : ∀ e, r = .error e → ∀ w', K.rely w w' → E e w') :
    (raise r >>= f).wp K ok Q E w := by
  cases r with
  | ok a => exact h a rfl
  | error e => exact he e rfl

theorem wp_raise {r : Except PyExc β} (h : ∀ b, r = .ok b → ∀ w', K.rely w w' → Q b w')
    (he : ∀ e, r = .error e → ∀ w', K.rely w w' → E e w') : (raise r).wp K ok Q E w := by
  cases r with
  | ok b => exact h b rfl
  | error e => exact he e rfl

end

end AutoRecycle.Py
