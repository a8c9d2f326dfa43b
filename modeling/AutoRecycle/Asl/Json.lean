/-
  AutoRecycle.Asl.Json

  JSON values as an Amazon States Language machine sees them: the state data of
  an execution, and what reference paths (`$.a.b`) read from it and write to it.

  Numbers are integers: the state data of the modelled machines holds no others.
-/
import AutoRecycle.Data.Dict

namespace AutoRecycle.Asl

open AutoRecycle.Data

inductive Json where
  | null
  | bool (b : Bool)
  | num (n : Int)
  | str (s : String)
  | arr (items : List Json)
  | obj (fields : List (String × Json))
  deriving Inhabited

/-- A reference path without its leading `$`; `[]` is the whole document. -/
abbrev Path : Type := List String

namespace Json

/-- The field `key` of an object. -/
def field? (key : String) : Json → Option Json
  | obj fields => Dict.get? key fields
  | _ => none

/-- What the reference path reads. -/
def get? : Path → Json → Option Json
  | [], j => some j
  | key :: path, j => (j.field? key).bind (get? path)

/-- Write `v` at the reference path, creating the objects on the way.  A path
    through a value that is not an object has no result. -/
def put? : Path → Json → Json → Option Json
  | [], v, _ => some v
  | key :: path, v, obj fields =>
      (put? path v ((Dict.get? key fields).getD (obj []))).map fun child =>
        obj (Dict.set key child fields)
  | _ :: _, _, _ => none

@[simp] theorem field?_obj (key : String) (fields : Dict Json) :
    (obj fields).field? key = Dict.get? key fields := rfl

@[simp] theorem get?_nil (j : Json) : j.get? [] = some j := rfl

@[simp] theorem get?_cons (key : String) (path : Path) (j : Json) :
    j.get? (key :: path) = (j.field? key).bind (get? path) := rfl

@[simp] theorem put?_nil (v j : Json) : put? [] v j = some v := rfl

/-- A path reads back what was written through it. -/
theorem get?_put? {path : Path} {v j j' : Json} (h : put? path v j = some j') :
    j'.get? path = some v := by
  induction path generalizing j j' with
  | nil => simpa using h.symm
  | cons key path ih =>
      cases j with
      | obj fields =>
          obtain ⟨child, hchild, rfl⟩ := Option.map_eq_some_iff.mp h
          simp [ih hchild]
      | _ => simp [put?] at h

/-- What is below the written field can be read through it. -/
theorem get?_of_put? {key : String} {path : Path} {v j j' : Json} (h : put? [key] v j = some j') :
    j'.get? (key :: path) = v.get? path := by
  have hfield : (j'.field? key).bind (get? []) = some v := get?_put? h
  obtain ⟨child, hchild, hsame⟩ := Option.bind_eq_some_iff.mp hfield
  cases hsame
  rw [get?_cons, hchild]
  rfl

/-- Other fields keep their values. -/
theorem get?_put?_ne {key other : String} {path : Path} {v j j' : Json}
    (h : put? [key] v j = some j') (hne : other ≠ key) :
    j'.get? (other :: path) = j.get? (other :: path) := by
  cases j with
  | obj fields =>
      obtain ⟨child, -, rfl⟩ := Option.map_eq_some_iff.mp h
      rw [get?_cons, get?_cons, field?_obj, field?_obj, Dict.get?_set_ne hne]
  | _ => cases h

end Json

end AutoRecycle.Asl
