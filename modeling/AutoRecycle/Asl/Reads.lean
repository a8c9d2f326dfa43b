/-
  AutoRecycle.Asl.Reads

  The fields that a machine relies on.

  A state that reads a path which is not there ends its execution with an error
  of the service, and no catcher sees it.  `Has data paths` says that the paths
  are there; with the paths that it reads a Choice goes on to one of its states,
  and a Task is invoked.  A write to one field leaves the paths through the other
  fields as they are.
-/
import AutoRecycle.Asl.Trail

namespace AutoRecycle.Asl

variable {σ τ W : Type}

/-- The paths are there. -/
def Has (data : Json) (paths : List Path) : Prop := ∀ path ∈ paths, ∃ v, data.get? path = some v

section
variable {data data' v : Json} {key : String} {path : Path} {paths paths' : List Path}

theorem Has.subset (h : Has data paths) (hsub : paths' ⊆ paths) : Has data paths' :=
  fun path hpath => h path (hsub hpath)

theorem Has.cons (hpath : ∃ v, data.get? path = some v) (h : Has data paths) : Has data (path :: paths) :=
  List.forall_mem_cons.mpr ⟨hpath, h⟩

/-- A path through another field stays. -/
theorem exists_get?_of_put? (hput : Json.put? [key] v data = some data')
    (h : ∃ u, data.get? path = some u) (hother : path.head? ≠ some key) :
    ∃ u, data'.get? path = some u := by
  obtain ⟨u, hu⟩ := h
  cases path with
  | nil => exact ⟨data', rfl⟩
  | cons key' path =>
      have hne : key' ≠ key := by
        rintro rfl
        exact hother rfl
      exact ⟨u, by rw [Json.get?_put?_ne hput hne, hu]⟩

/-- A field stays, or is the one that was written. -/
theorem exists_field_of_put? {other : String} (hput : Json.put? [key] v data = some data')
    (h : ∃ u, data.get? [other] = some u) : ∃ u, data'.get? [other] = some u := by
  by_cases hother : other = key
  · exact ⟨v, by rw [hother, Json.get?_put? hput]⟩
  · exact exists_get?_of_put? hput h fun hkey => hother (Option.some.inj hkey)

theorem Has.put (h : Has data paths) (hput : Json.put? [key] v data = some data')
    (hother : ∀ path ∈ paths, path.head? ≠ some key) : Has data' paths :=
  fun path hpath => exists_get?_of_put? hput (h path hpath) (hother path hpath)

theorem field?_of_put? {other : String} (hput : Json.put? [key] v data = some data') (hne : other ≠ key) :
    data'.field? other = data.field? other := by
  have hfield : ∀ j : Json, j.get? [other] = j.field? other := fun j => Option.bind_fun_some _
  rw [← hfield, ← hfield, Json.get?_put?_ne hput hne]

/-- Data with a field can be given another. -/
theorem exists_put? {key' : String} (h : ∃ u, data.get? (key' :: path) = some u) (key : String) (v : Json) :
    ∃ data', Json.put? [key] v data = some data' := by
  obtain ⟨u, hu⟩ := h
  cases data with
  | obj fields => exact ⟨_, rfl⟩
  | _ => cases hu

theorem putAndGo_field {key' : String} (h : ∃ u, data.get? (key' :: path) = some u) (key : String)
    (v : Json) (next : σ) : ∃ data', Json.put? [key] v data = some data' ∧
      putAndGo [key] v data next = .at next data' 0 := by
  obtain ⟨data', hput⟩ := exists_put? h key v
  exact ⟨data', hput, by rw [putAndGo, hput]⟩

end

-- ============================================================================
-- What a state reads
-- ============================================================================

/-- The paths that a comparison reads; it may ask for any path whether it is there. -/
def Cond.reads : Cond → List Path
  | stringEquals path _ => [path]
  | booleanEquals path _ => [path]
  | numericLessThanEquals path _ => [path]
  | numericGreaterThan path _ => [path]
  | isPresent _ _ => []
  | and c d => c.reads ++ d.reads

section
variable {data : Json}

/-- A comparison whose paths are there has a value. -/
theorem Cond.eval_of_has {c : Cond} (h : Has data c.reads) : ∃ b, c.eval data = some b := by
  induction c with
  | stringEquals path s =>
      obtain ⟨v, hv⟩ := h path (List.mem_singleton_self path)
      exact ⟨_, by rw [eval, hv]; rfl⟩
  | booleanEquals path b =>
      obtain ⟨v, hv⟩ := h path (List.mem_singleton_self path)
      exact ⟨_, by rw [eval, hv]; rfl⟩
  | numericLessThanEquals path n =>
      obtain ⟨v, hv⟩ := h path (List.mem_singleton_self path)
      exact ⟨_, by rw [eval, hv]; rfl⟩
  | numericGreaterThan path n =>
      obtain ⟨v, hv⟩ := h path (List.mem_singleton_self path)
      exact ⟨_, by rw [eval, hv]; rfl⟩
  | isPresent path b => exact ⟨_, rfl⟩
  | and c d ihc ihd =>
      obtain ⟨b, hb⟩ := ihc (h.subset (List.subset_append_left _ _))
      obtain ⟨b', hb'⟩ := ihd (h.subset (List.subset_append_right _ _))
      rw [eval, hb]
      cases b with
      | true => exact ⟨b', hb'⟩
      | false => exact ⟨false, rfl⟩

/-- A Choice whose paths are there goes on to one of its states. -/
theorem choose_of_has {rules : List (Cond × σ)} {default : σ}
    (h : Has data (rules.flatMap fun rule => rule.1.reads)) :
    ∃ s ∈ default :: rules.map Prod.snd, choose (some default) data rules = .at s data 0 := by
  induction rules with
  | nil => exact ⟨default, List.mem_cons_self, rfl⟩
  | cons rule rules ih =>
      obtain ⟨cond, target⟩ := rule
      rw [List.flatMap_cons] at h
      obtain ⟨b, hb⟩ := Cond.eval_of_has (h.subset (List.subset_append_left _ _))
      rw [choose, hb]
      cases b with
      | true => exact ⟨target, by simp, rfl⟩
      | false =>
          obtain ⟨s, hs, heq⟩ := ih (h.subset (List.subset_append_right _ _))
          refine ⟨s, ?_, heq⟩
          simp only [List.map_cons, List.mem_cons] at hs ⊢
          tauto

end

end AutoRecycle.Asl
