/-
  AutoRecycle.Py.Literal

  Patterns that stand for their own text, and what a sequence of them matches.

  A text that is put into a pattern unescaped is read item by item.  Where none
  of its characters is special each item is that character (`parseSeq_plain`),
  and the parse goes on behind the text as if it had not been there.
-/
import AutoRecycle.Py.Re

namespace AutoRecycle.Py.Re

-- ============================================================================
-- Plain text
-- ============================================================================

/-- The characters that mean something else wherever they stand. -/
def specials : List Char := ['.', '^', '$', '*', '+', '?', '[', '\\', '|', '(', ')']

/-- No character is special, and no `{` begins the bounds of a repetition. -/
def Plain : List Char → Prop
  | [] => True
  | c :: rest => c ∉ specials ∧ (c = '{' → braces rest = none) ∧ Plain rest

instance decidablePlain : (cs : List Char) → Decidable (Plain cs)
  | [] => inferInstanceAs (Decidable True)
  | _ :: rest => @instDecidableAnd _ _ _ (@instDecidableAnd _ _ _ (decidablePlain rest))

/-- A digit string ends where a `)` stands. -/
theorem number_append (cs rest : List Char) :
    number (cs ++ ')' :: rest) = ((number cs).1, (number cs).2 ++ ')' :: rest) := by
  have htake : ∀ cs : List Char, (cs ++ ')' :: rest).takeWhile Char.isDigit = cs.takeWhile Char.isDigit := by
    intro cs
    induction cs with
    | nil => rfl
    | cons c cs ih =>
        rw [List.cons_append, List.takeWhile_cons, List.takeWhile_cons, ih]
  have hdrop : ∀ cs : List Char,
      (cs ++ ')' :: rest).dropWhile Char.isDigit = cs.dropWhile Char.isDigit ++ ')' :: rest := by
    intro cs
    induction cs with
    | nil => rfl
    | cons c cs ih =>
        rw [List.cons_append, List.dropWhile_cons, List.dropWhile_cons, ih]
        split <;> rfl
  rw [number, htake, hdrop]
  rfl

/-- What follows the text does not turn a brace into bounds. -/
theorem braces_append {cs : List Char} (h : braces cs = none) (rest : List Char) :
    braces (cs ++ ')' :: rest) = none := by
  rw [braces] at h ⊢
  by_cases hhead : cs.head? = some '}'
  · obtain ⟨cs', rfl⟩ := List.head?_eq_some_iff.mp hhead
    rfl
  · have hhead' : ¬ (cs ++ ')' :: rest).head? = some '}' := by
      cases cs with
      | nil => simp
      | cons c cs => exact hhead
    rw [if_neg hhead] at h
    rw [if_neg hhead', number_append]
    generalize number cs = bounds at h ⊢
    obtain ⟨least, after⟩ := bounds
    cases after with
    | nil => simp
    | cons c after =>
        by_cases hcomma : c = ','
        · subst hcomma
          simp only [List.cons_append, number_append] at h ⊢
          generalize number after = bounds at h ⊢
          obtain ⟨most, after'⟩ := bounds
          cases after' with
          | nil => simp
          | cons c after' =>
              by_cases hclose : c = '}'
              · subst hclose
                simp at h
              · simp [hclose]
        · by_cases hclose : c = '}'
          · subst hclose
            cases least with
            | none => simp
            | some n => simp at h
          · simp [hcomma, hclose]

-- ============================================================================
-- Sequences
-- ============================================================================

/-- The items one after the other. -/
def seqOf (items : List Re) : Re := items.foldr seq empty

theorem ofItems_reverse (items : List Re) : ofItems items.reverse = seqOf items := by
  rw [ofItems, List.foldl_reverse, seqOf]

section
variable {c : Char} {rest rest' : List Char} {fuel : Nat} {done done' : List Re}

/-- A sequence ends where its subject does. -/
theorem parseSeq_nil : parseSeq (fuel + 1) done [] = some (ofItems done, []) := by rw [parseSeq]

/-- It ends before a `)`. -/
theorem parseSeq_close : parseSeq (fuel + 1) done (')' :: rest) = some (ofItems done, ')' :: rest) := by
  rw [parseSeq]
  rfl

/-- An item that is not repeated. -/
theorem parseSeq_item {r : Re} (hc : c ∉ ['|', ')', '(']) (hrepetition : repetition c rest = none)
    (hitem : simpleItem c rest = some (r, rest')) :
    parseSeq (fuel + 1) done (c :: rest) = parseSeq fuel (r :: done) rest' := by
  simp only [List.mem_cons, List.not_mem_nil, or_false, not_or] at hc
  rw [parseSeq]
  simp only [hc.1, hc.2.1, hc.2.2, decide_false, Bool.or_self, Bool.false_eq_true, if_false,
    hrepetition, hitem]
  rfl

/-- A repetition of the last item. -/
theorem parseSeq_repetition {least : Nat} {most : Option Nat} (hc : c ∉ ['|', ')', '('])
    (hrepetition : repetition c rest = some (least, most, rest'))
    (hlast : repeatLast least most done = some done') :
    parseSeq (fuel + 1) done (c :: rest) = parseSeq fuel done' rest' := by
  simp only [List.mem_cons, List.not_mem_nil, or_false, not_or] at hc
  rw [parseSeq]
  simp only [hc.1, hc.2.1, hc.2.2, decide_false, Bool.or_self, Bool.false_eq_true, if_false,
    hrepetition, hlast]
  rfl

/-- A group, its alternatives being read as one sequence. -/
theorem parseSeq_group {wrap : Re → Re} {inside : List Char} {items : List Re}
    (hkind : groupKind rest = some (wrap, inside))
    (hinside : parseSeq fuel [] inside = some (ofItems items, ')' :: rest')) :
    parseSeq (fuel + 2) done ('(' :: rest) = parseSeq (fuel + 1) (wrap (ofItems items) :: done) rest' := by
  rw [parseSeq]
  have hno : ('(' = '|' || '(' = ')') = false := by decide
  rw [hno, if_neg Bool.false_ne_true, if_pos rfl, hkind]
  show (parseAlt (fuel + 1) inside >>= _) = _
  rw [parseAlt, hinside]
  rfl

/-- An item of one character is read as that character. -/
theorem parseSeq_literal (hspecial : c ∉ specials) (hbraces : c = '{' → braces rest = none) :
    parseSeq (fuel + 1) done (c :: rest) = parseSeq fuel (literal c :: done) rest := by
  simp only [specials, List.mem_cons, List.not_mem_nil, or_false, not_or] at hspecial
  obtain ⟨hdot, hcaret, hdollar, hstar, hplus, hquestion, hbracket, hslash, hbar, hopen, hclose⟩ := hspecial
  have hrepetition : repetition c rest = none := by
    simp only [repetition, hstar, hplus, hquestion, if_false]
    split
    · rename_i hbrace
      rw [hbraces hbrace]
      rfl
    · rfl
  have hitem : simpleItem c rest = some (literal c, rest) := by
    simp only [simpleItem, hdot, hcaret, hdollar, hslash, hbracket, if_false]
  exact parseSeq_item (by simp [hbar, hclose, hopen]) hrepetition hitem

end

/-- A plain text is read as its characters. -/
theorem parseSeq_plain {cs : List Char} (h : Plain cs) (rest : List Char) (fuel : Nat)
    (done : List Re) :
    parseSeq (fuel + cs.length) done (cs ++ ')' :: rest) =
      parseSeq fuel ((cs.map literal).reverse ++ done) (')' :: rest) := by
  induction cs generalizing done with
  | nil => rfl
  | cons c cs ih =>
      obtain ⟨hspecial, hbraces, hcs⟩ := h
      have hbraces' : c = '{' → braces (cs ++ ')' :: rest) = none :=
        fun hc => braces_append (hbraces hc) rest
      rw [List.length_cons, ← Nat.add_assoc, List.cons_append,
        parseSeq_literal hspecial hbraces', ih hcs, List.map_cons, List.reverse_cons,
        List.append_assoc, List.singleton_append]

/-- A text without braces is read as its characters whatever follows it. -/
theorem parseSeq_text {cs : List Char} (h : ∀ c ∈ cs, c ∉ '{' :: specials) (rest : List Char)
    (fuel : Nat) (done : List Re) :
    parseSeq (fuel + cs.length) done (cs ++ rest) =
      parseSeq fuel ((cs.map literal).reverse ++ done) rest := by
  induction cs generalizing done with
  | nil => rfl
  | cons c cs ih =>
      obtain ⟨hc, hcs⟩ := List.forall_mem_cons.mp h
      rw [List.mem_cons, not_or] at hc
      rw [List.length_cons, ← Nat.add_assoc, List.cons_append,
        parseSeq_literal hc.2 fun hbrace => absurd hbrace hc.1, ih hcs, List.map_cons,
        List.reverse_cons, List.append_assoc, List.singleton_append]

-- ============================================================================
-- What a sequence matches
-- ============================================================================

theorem mem_ends_seq {r s : Re} {p q : Pos} :
    q ∈ (seq r s).ends p ↔ ∃ m ∈ r.ends p, q ∈ s.ends m := by
  rw [ends, List.mem_flatMap]

theorem matches?_iff {r : Re} {subject : String} :
    r.matches? subject = true ↔ ∃ q, q ∈ r.ends ([], subject.toList) := by
  rw [matches?, Bool.not_eq_true', List.isEmpty_eq_false_iff_exists_mem]

/-- An item that takes one character that `P` holds of, and nothing else. -/
def Takes (r : Re) (P : Char → Prop) : Prop :=
  (∀ before, r.ends (before, []) = []) ∧
    ∀ before c after q, q ∈ r.ends (before, c :: after) ↔ P c ∧ q = (c :: before, after)

theorem takes_set (s : CharSet) : Takes (set s) fun c => s.accepts c = true := by
  refine ⟨fun _ => rfl, fun before c after q => ?_⟩
  rw [ends]
  split <;> rename_i h <;> simp [h]

theorem takes_alt {r s : Re} {P Q : Char → Prop} (hr : Takes r P) (hs : Takes s Q) :
    Takes (alt r s) fun c => P c ∨ Q c := by
  refine ⟨fun before => ?_, fun before c after q => ?_⟩
  · rw [ends, hr.1, hs.1, List.append_nil]
  · rw [ends, List.mem_append, hr.2, hs.2, or_and_right]

theorem takes_literal (c : Char) : Takes (literal c) (· = c) := by
  have haccepts : ∀ c', CharSet.accepts { ranges := [(c, c)] } c' = true ↔ c' = c := by
    intro c'
    simp only [CharSet.accepts, List.any_cons, List.any_nil, Bool.or_false, Bool.bne_false,
      Bool.and_eq_true, decide_eq_true_eq]
    constructor
    · rintro ⟨hle, hge⟩
      exact Char.ext (UInt32.le_antisymm hge hle)
    · rintro rfl
      exact ⟨UInt32.le_refl _, UInt32.le_refl _⟩
  have htakes := takes_set { ranges := [(c, c)] }
  exact ⟨htakes.1, fun before c' after q => by
    rw [literal, htakes.2 before c' after q]
    exact and_congr_left fun _ => haccepts c'⟩

/-- A text in front of a sequence. -/
theorem mem_ends_literals {cs : List Char} {items : List Re} {before after : List Char} {q : Pos} :
    q ∈ (seqOf (cs.map literal ++ items)).ends (before, after) ↔
      ∃ rest, after = cs ++ rest ∧ q ∈ (seqOf items).ends (cs.reverse ++ before, rest) := by
  induction cs generalizing before after with
  | nil => simp
  | cons c cs ih =>
      rw [List.map_cons, List.cons_append, seqOf, List.foldr_cons, mem_ends_seq, ← seqOf]
      cases after with
      | nil =>
          rw [(takes_literal c).1]
          simp
      | cons c' after =>
          simp only [(takes_literal c).2]
          constructor
          · rintro ⟨m, ⟨rfl, rfl⟩, hm⟩
            obtain ⟨rest, rfl, hq⟩ := ih.mp hm
            exact ⟨rest, rfl, by simpa using hq⟩
          · rintro ⟨rest, heq, hq⟩
            cases heq
            exact ⟨_, ⟨rfl, rfl⟩, ih.mpr ⟨rest, rfl, by simpa using hq⟩⟩

/-- A repetition of an item of one character takes a run of such characters. -/
theorem mem_repeats {r : Re} {P : Char → Prop} (hr : Takes r P) {least fuel : Nat}
    {before after : List Char} (hfuel : least + after.length ≤ fuel) {q : Pos} :
    q ∈ repeats r.ends least none fuel (before, after) ↔
      ∃ run rest, after = run ++ rest ∧ least ≤ run.length ∧ (∀ c ∈ run, P c) ∧
        q = (run.reverse ++ before, rest) := by
  induction fuel generalizing least before after q with
  | zero =>
      have hleast : least = 0 := by omega
      have hafter : after = [] := List.eq_nil_of_length_eq_zero (by omega)
      subst hleast hafter
      rw [repeats, if_pos rfl, List.mem_singleton]
      constructor
      · rintro rfl
        exact ⟨[], [], rfl, Nat.le_refl 0, nofun, rfl⟩
      · rintro ⟨run, rest, heq, -, -, rfl⟩
        obtain ⟨rfl, rfl⟩ := List.append_eq_nil_iff.mp heq.symm
        rfl
  | succ fuel ih =>
      -- one more character, or the end of the run
      have hagain : ∀ q, q ∈ ((r.ends (before, after)).flatMap fun m =>
          if least = 0 && m.2.length == after.length then []
          else repeats r.ends (least - 1) none fuel m) ↔
            ∃ c run rest, after = c :: run ++ rest ∧ least ≤ run.length + 1 ∧ P c ∧
              (∀ c ∈ run, P c) ∧ q = ((c :: run).reverse ++ before, rest) := by
        intro q
        rw [List.mem_flatMap]
        cases after with
        | nil => simp [hr.1]
        | cons c after =>
            rw [List.length_cons] at hfuel
            have hstep := @ih (least - 1) (c :: before) after
            constructor
            · rintro ⟨m, hm, hq⟩
              obtain ⟨hc, rfl⟩ := (hr.2 before c after m).mp hm
              rw [if_neg (by simp)] at hq
              obtain ⟨run, rest, rfl, hlength, hrun, rfl⟩ := (hstep (by omega)).mp hq
              exact ⟨c, run, rest, rfl, by omega, hc, hrun, by simp⟩
            · rintro ⟨c', run, rest, heq, hlength, hc, hrun, rfl⟩
              cases heq
              refine ⟨(c :: before, run ++ rest), (hr.2 _ _ _ _).mpr ⟨hc, rfl⟩, ?_⟩
              rw [if_neg (by simp)]
              exact (hstep (by omega)).mpr ⟨run, rest, rfl, by omega, hrun, by simp⟩
      rw [repeats]
      simp only [reduceCtorEq, if_false, Option.map_none]
      constructor
      · intro hq
        split at hq
        · rcases List.mem_cons.mp hq with rfl | hq
          · exact ⟨[], after, rfl, by omega, nofun, rfl⟩
          · obtain ⟨c, run, rest, heq, hlength, hc, hrun, rfl⟩ := (hagain q).mp hq
            exact ⟨c :: run, rest, heq, hlength, List.forall_mem_cons.mpr ⟨hc, hrun⟩, rfl⟩
        · obtain ⟨c, run, rest, heq, hlength, hc, hrun, rfl⟩ := (hagain q).mp hq
          exact ⟨c :: run, rest, heq, hlength, List.forall_mem_cons.mpr ⟨hc, hrun⟩, rfl⟩
      · rintro ⟨run, rest, heq, hlength, hrun, rfl⟩
        cases run with
        | nil =>
            have hleast : least = 0 := Nat.le_zero.mp hlength
            rw [if_pos hleast]
            rw [List.nil_append] at heq
            subst heq
            exact List.mem_cons_self
        | cons c run =>
            obtain ⟨hc, hrun⟩ := List.forall_mem_cons.mp hrun
            have hmem := (hagain _).mpr ⟨c, run, rest, heq, hlength, hc, hrun, rfl⟩
            split
            · exact List.mem_cons_of_mem _ hmem
            · exact hmem

theorem mem_ends_rep {r : Re} {P : Char → Prop} (hr : Takes r P) {least : Nat}
    {before after : List Char} {q : Pos} :
    q ∈ (rep r least none).ends (before, after) ↔
      ∃ run rest, after = run ++ rest ∧ least ≤ run.length ∧ (∀ c ∈ run, P c) ∧
        q = (run.reverse ++ before, rest) := by
  rw [ends]
  exact mem_repeats hr (Nat.le_refl _)

end AutoRecycle.Py.Re
