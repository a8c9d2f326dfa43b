/-
  AutoRecycle.InvokeStepfunctions.GetComponentDetails

  get_component_details.py: which component an event is about, and whether the
  tags of its ASG ask for a recycle.  What it logs is left out.

  The event is whatever JSON the caller sends.  Some keys are looked for before
  they are read, others are not, and then a missing key or a value of another
  type is an exception.
-/
import AutoRecycle.Py.Str

namespace AutoRecycle.InvokeStepfunctions

open AutoRecycle.Asl AutoRecycle.Data
open AutoRecycle.Py (splitHeadOn)

-- ============================================================================
-- Subscripts of a JSON value
-- ============================================================================

/-- `value[0]` -/
def firstItem : Json → Except PyExc Json
  | .arr items => getIndex items 0
  | .str s =>
      match s.toList with
      | c :: _ => .ok (.str (String.ofList [c]))
      | [] => .error { cls := .indexError, arg := "string index out of range" }
  -- the keys of an object are strings
  | .obj _ => .error { cls := .keyError, arg := "0" }
  | _ => .error { cls := .typeError }

/-- `value[key]` -/
def itemOf (key : String) : Json → Except PyExc Json
  | .obj fields => getKey key (Dict.get? key fields)
  | _ => .error { cls := .typeError }

/-- `value.split("-asg-")[0]` -/
def beforeAsg : Json → Except PyExc String
  | .str s => .ok (splitHeadOn s "-asg-")
  | _ => .error { cls := attributeError }

-- ============================================================================
-- The component of an event
-- ============================================================================

/-- `event["detail"].get("eventName") in ["CreateOrUpdateTags", "DeleteTags"]` -/
def isTagEvent (detail : Dict Json) : Bool :=
  match Dict.get? "eventName" detail with
  | some (.str name) => ["CreateOrUpdateTags", "DeleteTags"].contains name
  | _ => false

/-- `if not component_name: return None` -/
def nonEmpty (componentName : String) : Option String :=
  if componentName = "" then none else some componentName

/-- The branch of the two tag events. -/
def nameFromTags (requestParameters : Dict Json) : Except PyExc (Option String) :=
  match Dict.get? "tags" requestParameters with
  | none => .ok none
  | some tags => do
      let componentName ← beforeAsg (← itemOf "resourceId" (← firstItem tags))
      return nonEmpty componentName

/-- `"launchConfigurationName" in ... or "launchTemplate" in ...` -/
def launchChanged (requestParameters : Dict Json) : Bool :=
  (Dict.get? "launchConfigurationName" requestParameters).isSome ||
    (Dict.get? "launchTemplate" requestParameters).isSome

/-- The branch of the other events. -/
def nameFromAsg (requestParameters : Dict Json) : Except PyExc (Option String) := do
  let asgName ← getKey "autoScalingGroupName" (Dict.get? "autoScalingGroupName" requestParameters)
  let componentName ← beforeAsg asgName
  match nonEmpty componentName with
  | none => return none
  | some componentName =>
      if launchChanged requestParameters then return some componentName else return none

/-- `event["detail"]` and its request parameters, where both are objects. -/
def details (event : Dict Json) : Option (Dict Json × Dict Json) :=
  match Dict.get? "detail" event with
  | some (.obj detail) =>
      match Dict.get? "requestParameters" detail with
      | some (.obj requestParameters) => some (detail, requestParameters)
      | _ => none
  | _ => none

def getComponentName (event : Dict Json) : Except PyExc (Option String) :=
  match details event with
  | none => .ok none
  | some (detail, requestParameters) =>
      if isTagEvent detail then nameFromTags requestParameters else nameFromAsg requestParameters

-- ============================================================================
-- When it copes with an event
-- ============================================================================

/-- No exception; a name is not empty, and of an event that is no tag event it
    comes only if the launch configuration or template is part of the request. -/
def Copes (event : Dict Json) : Prop :=
  ∃ result, getComponentName event = .ok result ∧ ∀ name, result = some name → name ≠ "" ∧
    ∃ detail requestParameters, details event = some (detail, requestParameters) ∧
      (isTagEvent detail = false → launchChanged requestParameters = true)

/-- What the code takes for granted of the request parameters of a tag event. -/
def FirstTagNamed (requestParameters : Dict Json) : Prop :=
  ∀ tags, Dict.get? "tags" requestParameters = some tags →
    ∃ fields rest resourceId, tags = .arr (.obj fields :: rest) ∧
      Dict.get? "resourceId" fields = some (.str resourceId)

/-- What it takes for granted of those of any other event. -/
def AsgNamed (requestParameters : Dict Json) : Prop :=
  ∃ asgName, Dict.get? "autoScalingGroupName" requestParameters = some (.str asgName)

/-- The event has the shape that the code takes for granted. -/
def WellShaped (event : Dict Json) : Prop :=
  ∀ detail requestParameters, details event = some (detail, requestParameters) →
    if isTagEvent detail then FirstTagNamed requestParameters else AsgNamed requestParameters

theorem nonEmpty_eq_some {componentName name : String} :
    nonEmpty componentName = some name ↔ componentName = name ∧ name ≠ "" := by
  rw [nonEmpty]
  split
  · rename_i h
    simp [h, eq_comm]
  · rename_i h
    rw [Option.some.injEq]
    exact ⟨fun heq => ⟨heq, heq ▸ h⟩, And.left⟩

theorem beforeAsg_eq_ok {value : Json} {name : String} :
    beforeAsg value = .ok name ↔ ∃ s, value = .str s ∧ splitHeadOn s "-asg-" = name := by
  cases value with
  | str s => simp [beforeAsg]
  | _ => simp [beforeAsg]

theorem itemOf_eq_ok {key : String} {value item : Json} :
    itemOf key value = .ok item ↔ ∃ fields, value = .obj fields ∧ Dict.get? key fields = some item := by
  cases value with
  | obj fields =>
      rw [itemOf]
      cases h : Dict.get? key fields with
      | none => simp [getKey, h]
      | some item' => simp [getKey, h]
  | _ => simp [itemOf]

/-- An item of a list; the one character of a string is the other success. -/
theorem firstItem_eq_ok_obj {tags : Json} {fields : Dict Json} :
    firstItem tags = .ok (.obj fields) ↔ ∃ rest, tags = .arr (.obj fields :: rest) := by
  cases tags with
  | arr items =>
      cases items with
      | nil => simp [firstItem, getIndex]
      | cons item rest => simp [firstItem, getIndex]
  | str s =>
      rw [firstItem]
      split
      · simp
      · simp
  | _ => simp [firstItem]

/-- The branch of the tag events returns when the first tag has a resource id. -/
theorem nameFromTags_ok_iff {requestParameters : Dict Json} :
    (∃ result, nameFromTags requestParameters = .ok result) ↔ FirstTagNamed requestParameters := by
  rw [nameFromTags, FirstTagNamed]
  cases Dict.get? "tags" requestParameters with
  | none => simp
  | some tags =>
      simp only [bind_eq_ok, itemOf_eq_ok, beforeAsg_eq_ok, Option.some.injEq, forall_eq']
      constructor
      · rintro ⟨-, item, hfirst, value, ⟨fields, rfl, hid⟩, name, ⟨resourceId, rfl, -⟩, -⟩
        obtain ⟨rest, rfl⟩ := firstItem_eq_ok_obj.mp hfirst
        exact ⟨fields, rest, resourceId, rfl, hid⟩
      · rintro ⟨fields, rest, resourceId, rfl, hid⟩
        exact ⟨_, _, firstItem_eq_ok_obj.mpr ⟨rest, rfl⟩, _, ⟨fields, rfl, hid⟩, _,
          ⟨resourceId, rfl, rfl⟩, rfl⟩

/-- The branch of the other events returns when the ASG is named. -/
theorem nameFromAsg_ok_iff {requestParameters : Dict Json} :
    (∃ result, nameFromAsg requestParameters = .ok result) ↔ AsgNamed requestParameters := by
  rw [nameFromAsg, AsgNamed]
  cases Dict.get? "autoScalingGroupName" requestParameters with
  | none => simp [getKey]
  | some asgName =>
      simp only [getKey, ok_bind, bind_eq_ok, beforeAsg_eq_ok, Option.some.injEq]
      constructor
      · rintro ⟨-, -, ⟨s, rfl, -⟩, -⟩
        exact ⟨s, rfl⟩
      · rintro ⟨s, rfl⟩
        have hreturns : ∃ result, (match nonEmpty (splitHeadOn s "-asg-") with
            | none => Except.ok none
            | some componentName => if launchChanged requestParameters then .ok (some componentName)
                else .ok none) = (Except.ok result : Except PyExc (Option String)) := by
          split
          · exact ⟨_, rfl⟩
          · split
            · exact ⟨_, rfl⟩
            · exact ⟨_, rfl⟩
        obtain ⟨result, hresult⟩ := hreturns
        exact ⟨result, _, ⟨s, rfl, rfl⟩, hresult⟩

theorem ne_empty_of_nameFromTags {requestParameters : Dict Json} {name : String}
    (h : nameFromTags requestParameters = .ok (some name)) : name ≠ "" := by
  rw [nameFromTags] at h
  split at h
  · cases h
  · obtain ⟨first, -, h⟩ := bind_eq_ok.mp h
    obtain ⟨resourceId, -, h⟩ := bind_eq_ok.mp h
    obtain ⟨componentName, -, hname⟩ := bind_eq_ok.mp h
    exact (nonEmpty_eq_some.mp (Except.ok.inj hname)).2

theorem of_nameFromAsg {requestParameters : Dict Json} {name : String}
    (h : nameFromAsg requestParameters = .ok (some name)) :
    name ≠ "" ∧ launchChanged requestParameters = true := by
  obtain ⟨asgName, -, h⟩ := bind_eq_ok.mp h
  obtain ⟨componentName, -, h⟩ := bind_eq_ok.mp h
  split at h
  · cases h
  · rename_i hname
    split at h
    · rename_i hlaunch
      cases h
      exact ⟨(nonEmpty_eq_some.mp hname).2, hlaunch⟩
    · cases h

/-- `get_component_name` copes with an event exactly when the event has the shape
    that it takes for granted. -/
theorem copes_iff (event : Dict Json) : Copes event ↔ WellShaped event := by
  rw [Copes, getComponentName, WellShaped]
  cases details event with
  | none => simp
  | some both =>
      obtain ⟨detail, requestParameters⟩ := both
      simp only [Option.some.injEq, Prod.mk.injEq, and_imp, forall_eq', forall_apply_eq_imp_iff]
      cases htag : isTagEvent detail with
      | true =>
          rw [if_pos rfl, if_pos rfl, ← nameFromTags_ok_iff]
          constructor
          · rintro ⟨result, hresult, -⟩
            exact ⟨result, hresult⟩
          · rintro ⟨result, hresult⟩
            refine ⟨result, hresult, ?_⟩
            rintro name rfl
            refine ⟨ne_empty_of_nameFromTags hresult, detail, requestParameters, ⟨rfl, rfl⟩, ?_⟩
            rw [htag]
            nofun
      | false =>
          rw [if_neg Bool.false_ne_true, if_neg Bool.false_ne_true, ← nameFromAsg_ok_iff]
          constructor
          · rintro ⟨result, hresult, -⟩
            exact ⟨result, hresult⟩
          · rintro ⟨result, hresult⟩
            refine ⟨result, hresult, ?_⟩
            rintro name rfl
            obtain ⟨hname, hlaunch⟩ := of_nameFromAsg hresult
            exact ⟨hname, detail, requestParameters, ⟨rfl, rfl⟩, fun _ => hlaunch⟩

/-- A tag event whose list of tags is empty. -/
def emptyTagsEvent : Dict Json :=
  [("detail", .obj [("eventName", .str "DeleteTags"),
    ("requestParameters", .obj [("tags", .arr [])])])]

/-- On it the code raises. -/
theorem emptyTagsEvent_raises :
    getComponentName emptyTagsEvent =
        .error { cls := .indexError, arg := "list index out of range" } ∧
      ¬ Copes emptyTagsEvent := by
  have hraises : getComponentName emptyTagsEvent =
      .error { cls := .indexError, arg := "list index out of range" } := rfl
  refine ⟨hraises, ?_⟩
  rintro ⟨result, hresult, -⟩
  rw [hraises] at hresult
  cases hresult

end AutoRecycle.InvokeStepfunctions
