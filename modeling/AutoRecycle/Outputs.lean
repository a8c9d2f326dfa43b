/-
  AutoRecycle.Outputs

  The fields of what the lambdas return.

  The Choices of the state machine read a counter, a success flag, an action and
  a status from the state data, and these are the output of the last lambda.  A
  handler that returns has written what the next Choices read, whatever its calls
  are answered, and it drops no field of its event that the messages need; the
  handlers only ever set fields (`HasKeys.set`).
-/
import AutoRecycle.Asl.Reads
import AutoRecycle.LambdaErrors

namespace AutoRecycle

open AutoRecycle.Asl AutoRecycle.Data AutoRecycle.Effect AutoRecycle.Py

-- ============================================================================
-- Keys
-- ============================================================================

/-- The value is an object with the keys. -/
def HasKeys (keys : List String) (data : Json) : Prop := Has data (keys.map fun key => [key])

section
variable {keys keys' : List String} {key : String} {data v : Json} {fields : Dict Json}

theorem hasKeys_iff : HasKeys keys data ↔ ∀ key ∈ keys, ∃ v, data.field? key = some v := by
  simp only [HasKeys, Has, List.forall_mem_map, Json.get?_cons]
  refine forall₂_congr fun key _ => exists_congr fun v => ?_
  cases data.field? key <;> simp

theorem HasKeys.subset (h : HasKeys keys data) (hsub : keys' ⊆ keys) : HasKeys keys' data :=
  Has.subset h (List.map_subset _ hsub)

/-- A key that is set stays, and the others do. -/
theorem HasKeys.set (h : HasKeys keys (.obj fields)) (key : String) (v : Json) :
    HasKeys (key :: keys) (.obj (Dict.set key v fields)) := by
  rw [hasKeys_iff] at h ⊢
  intro other hother
  rw [Json.field?_obj]
  by_cases hkey : other = key
  · exact ⟨v, by rw [hkey, Dict.get?_set_self]⟩
  · obtain ⟨u, hu⟩ := h other (List.mem_of_ne_of_mem hkey hother)
    exact ⟨u, by rw [Dict.get?_set_ne hkey, ← hu, Json.field?_obj]⟩

theorem HasKeys.set_of (h : HasKeys keys (.obj fields)) (key : String) (v : Json) :
    HasKeys keys (.obj (Dict.set key v fields)) :=
  (h.set key v).subset (List.subset_cons_self _ _)

end

-- ============================================================================
-- The standard branch
-- ============================================================================

namespace Standard

section
variable {keys : List String} {key text : String} {v : Json} {event output out : Dict Json}

theorem returns_autorecycleHandler_keys (event : Json) :
    (autorecycleHandler event).Returns (HasKeys ["component", "status"]) := by
  rw [autorecycleHandler]
  refine Prog.returns_bind _ fun component => Prog.returns_bind _ fun accountId => ?_
  refine Prog.returns_bind _ fun channel => ?_
  intro response environment
  show HasKeys _ (.obj (outputData component (sendSuccess response) channel environment))
  simp [hasKeys_iff, outputData, Dict.get?_cons]

theorem hasKeys_setDefault (h : HasKeys keys (.obj output)) :
    HasKeys keys (.obj (setDefault key v output)) := by
  rw [setDefault]
  split
  · exact h.set_of key v
  · exact h

theorem hasKeys_setContent (h : HasKeys keys (.obj output)) (hset : setContent key v output = .ok out) :
    HasKeys keys (.obj out) := by
  obtain ⟨content, -, hwritten⟩ := bind_eq_ok.mp hset
  split at hwritten
  · cases hwritten
    exact h.set_of _ _
  · cases hwritten

theorem hasKeys_countInvocation {counter : Int} (h : HasKeys keys (.obj event))
    (hcount : countInvocation event = .ok (counter, out)) : HasKeys ("counter" :: keys) (.obj out) := by
  obtain ⟨count, -, hrest⟩ := bind_eq_ok.mp hcount
  obtain ⟨counted, -, hout⟩ := bind_eq_ok.mp hrest
  cases hout
  exact (hasKeys_setDefault (hasKeys_setDefault h)).set _ _

theorem hasKeys_giveUp (h : HasKeys keys (.obj output)) (hgive : giveUp output = .ok out) :
    HasKeys ("recycle_success" :: keys) (.obj out) := by
  obtain ⟨colored, hcolored, hrest⟩ := bind_eq_ok.mp hgive
  obtain ⟨texted, htexted, hrest⟩ := bind_eq_ok.mp hrest
  obtain ⟨channels, -, hout⟩ := bind_eq_ok.mp hrest
  cases hout
  have hwritten := hasKeys_setContent (hasKeys_setContent h hcolored) htexted
  exact ((hwritten.set_of _ _).set_of _ _).set _ _

theorem hasKeys_finished (h : HasKeys keys (.obj output)) (hfinished : finished text output = .ok out) :
    HasKeys ("recycle_success" :: keys) (.obj out) := by
  obtain ⟨texted, htexted, hout⟩ := bind_eq_ok.mp hfinished
  cases hout
  exact (hasKeys_setContent h htexted).set _ _

theorem hasKeys_conclude {r : Except PyExc Bool} (h : HasKeys keys (.obj output))
    (hconclude : conclude output r = .ok out) : HasKeys ("recycle_success" :: keys) (.obj out) := by
  cases r with
  | ok b =>
      cases b with
      | true => exact hasKeys_finished h hconclude
      | false =>
          cases hconclude
          exact h.set _ _
  | error e =>
      rw [conclude] at hconclude
      split at hconclude
      · exact hasKeys_finished h hconclude
      · cases hconclude

/-- The monitor writes its counter and the success flag. -/
theorem returns_monitorHandler_keys {event : Json} (h : HasKeys keys event) :
    (monitorHandler event).Returns (HasKeys ("recycle_success" :: "counter" :: keys)) := by
  refine (Prog.returns_ofExcept_bind _ _).mpr fun isPresent hpresent => ?_
  cases isPresent with
  | false => trivial
  | true =>
  cases event with
  | obj fields =>
      refine Prog.Returns.bind (P := fun out => HasKeys ("recycle_success" :: "counter" :: keys) (.obj out))
        ?_ fun out hout => hout
      refine (Prog.returns_ofExcept_bind _ _).mpr ?_
      rintro ⟨counter, output⟩ hcount
      have hcounted := hasKeys_countInvocation h hcount
      dsimp only
      split
      · exact (Prog.returns_ofExcept _).mpr fun out hgive => hasKeys_giveUp hcounted hgive
      · refine Prog.returns_bind _ fun component => Prog.returns_bind _ fun r => ?_
        exact (Prog.returns_ofExcept _).mpr fun out hconclude => hasKeys_conclude hcounted hconclude
  | _ => trivial

end

end Standard

-- ============================================================================
-- The Mongo branch
-- ============================================================================

namespace Mongo

section
variable {keys : List String} {key : String} {v event out : Json}

theorem hasKeys_setItem (h : HasKeys keys event) (hset : setItem key v event = .ok out) :
    HasKeys keys out := by
  cases event with
  | obj fields =>
      cases hset
      exact h.set_of key v
  | _ => cases hset

theorem hasKeys_incrementCounter (h : HasKeys keys event) (hcount : incrementCounter event = .ok out) :
    HasKeys keys out := by
  rw [incrementCounter] at hcount
  split at hcount
  · exact hasKeys_setItem h hcount
  · exact hasKeys_setItem h hcount
  · cases hcount

theorem hasKeys_setText (h : HasKeys keys event) (htext : setText event = .ok out) :
    HasKeys keys out := by
  obtain ⟨content, -, hrest⟩ := bind_eq_ok.mp htext
  obtain ⟨written, -, hset⟩ := bind_eq_ok.mp hrest
  exact hasKeys_setItem h hset

theorem hasKeys_finishEvent {d : Decision} (h : HasKeys keys event)
    (hfinish : finishEvent event d = .ok out) : HasKeys keys out := by
  obtain ⟨decided, hdecided, hrest⟩ := bind_eq_ok.mp hfinish
  have hkept := hasKeys_setItem h hdecided
  by_cases hdone : d.action = .done
  · rw [if_pos hdone] at hrest
    obtain ⟨texted, htexted, hcounted⟩ := bind_eq_ok.mp hrest
    exact hasKeys_incrementCounter (hasKeys_setText hkept htexted) hcounted
  · rw [if_neg hdone, pure_eq_ok, ok_bind] at hrest
    exact hasKeys_incrementCounter hkept hrest

/-- The recycler drops no field, and writes the action of its step. -/
theorem returns_lambdaHandler_keys (h : HasKeys keys event) : (lambdaHandler event).Returns
    fun out => HasKeys keys out ∧ ∃ v, out.get? ["decision", "action"] = some v := by
  rw [lambdaHandler]
  refine Prog.returns_bind _ fun component => ?_
  have hstep : (Py.raise (componentName component) >>= fun name => step name >>= fun d =>
      Py.raise (finishEvent event d)).Returns
        fun out => HasKeys keys out ∧ ∃ v, out.get? ["decision", "action"] = some v := by
    refine Prog.returns_bind _ fun name => Prog.returns_bind _ fun d => ?_
    refine (Prog.returns_ofExcept _).mpr fun out hfinish => ?_
    exact ⟨hasKeys_finishEvent h hfinish, _, finishEvent_action hfinish⟩
  split
  · exact Prog.returns_bind _ fun _ => hstep
  · exact hstep

end

end Mongo

-- ============================================================================
-- The in-out branch
-- ============================================================================

namespace ScaleAsg

/-- The loop has not been left by the counter. -/
def InTime (data : Json) : Prop :=
  data.field? "counter" = none ∨ ∃ n : Int, n ≤ 20 ∧ data.field? "counter" = some (.num n)

/-- The data have what the Choices of the loop read. -/
def Looped (data : Json) : Prop :=
  HasKeys ["component", "status", "recycle_success"] data ∧
    ∃ n : Int, data.field? "counter" = some (.num n)

section
variable {data : Json} {event : Event}

theorem counter_of_valid (h : Event.modelValidate data = .ok event) :
    optional validInt (data.field? "counter") = .ok event.counter := by
  cases data with
  | obj fields =>
      simp only [Event.modelValidate, validModel, bind_eq_ok] at h
      obtain ⟨channels, -, component, -, counter, hcounter, _, -, _, -, _, -, _, -, _, -, _, -, _, -, _, -, _, -,
        _, -, _, -, _, -, _, -, hevent⟩ := h
      cases hevent
      exact hcounter
  | _ => cases h

/-- Neither the answer of the sixtieth invocation nor the exception after it. -/
theorem InTime.counter_lt (h : InTime data) (hvalid : Event.modelValidate data = .ok event) :
    event.counter.get.getD 0 < 60 := by
  have hcounter := counter_of_valid hvalid
  rcases h with hnone | ⟨n, hn, hnum⟩
  · rw [hnone] at hcounter
    have hunset : Field.unset = event.counter := Except.ok.inj hcounter
    rw [← hunset]
    decide
  · rw [hnum] at hcounter
    have hset : Field.set (some n) = event.counter := Except.ok.inj hcounter
    rw [← hset]
    show n < 60
    omega

/-- What each outcome of an invocation sets. -/
structure Reports (output : Event) : Prop where
  counter : ∃ n : Int, output.counter = .set (some n)
  recycleSuccess : ∃ b, output.recycleSuccess = .set (some b)
  status : ∃ status, output.status = .set (some status)

theorem returns_scaleAsg (event : Event) : (scaleAsg event).Returns Reports := by
  have hcounter : ∃ n : Int, (createOutputParams event).counter = .set (some n) := ⟨_, rfl⟩
  intro environment
  refine Prog.Returns.tryCatch ?_ fun _ => ⟨hcounter, ⟨_, rfl⟩, ⟨_, rfl⟩⟩
  refine Prog.returns_bind _ fun asgs => Prog.returns_bind _ fun details => ?_
  split
  · exact ⟨hcounter, ⟨_, rfl⟩, ⟨_, rfl⟩⟩
  split
  · exact ⟨hcounter, ⟨_, rfl⟩, ⟨_, rfl⟩⟩
  refine Prog.returns_bind _ fun nextStep => ?_
  cases nextStep with
  | none => exact ⟨hcounter, ⟨_, rfl⟩, ⟨_, rfl⟩⟩
  | some nextStep => exact Prog.returns_bind _ fun _ => ⟨hcounter, ⟨_, rfl⟩, ⟨_, rfl⟩⟩

theorem Reports.looped {output : Event} (h : Reports output) : Looped output.modelDump := by
  obtain ⟨⟨n, hcounter⟩, ⟨b, hsuccess⟩, ⟨status, hstatus⟩⟩ := h
  obtain ⟨hn, hb, hs⟩ := output.field?_modelDump
  obtain ⟨component, hcomponent⟩ := hasComponent_iff.mp (hasComponent_modelDump output)
  refine ⟨hasKeys_iff.mpr ?_, n, by rw [hn, hcounter]; rfl⟩
  simp only [List.forall_mem_cons]
  exact ⟨⟨_, hcomponent⟩, ⟨_, by rw [hs, hstatus]; rfl⟩, ⟨_, by rw [hb, hsuccess]; rfl⟩, nofun⟩

/-- In the loop each invocation that returns writes what the Choices read. -/
theorem returns_lambdaHandler_looped (h : InTime data) : (lambdaHandler data).Returns Looped := by
  have hhandle : (handleEvent data).Returns Reports := by
    refine (Prog.returns_ofExcept_bind _ _).mpr fun event hvalid => ?_
    split
    · exact returns_scaleAsg _
    split
    · exact returns_scaleAsg _
    · exact absurd (h.counter_lt hvalid) (by assumption)
  exact hhandle.bind fun output houtput => houtput.looped

end

end ScaleAsg

end AutoRecycle
