/-
  AutoRecycle.Exceptions

  The Python exceptions of the lambdas: the classes that the code raises or
  catches by name, and all others by their name.
-/
import Mathlib.Data.List.Basic
import Mathlib.Tactic.Common

namespace AutoRecycle

/-- The name of a Python class; it is an identifier, so it holds no dot. -/
structure ClassName where
  name : String
  noDot : '.' ∉ name.toList

inductive ExcClass where
  -- Python, botocore, pymongo, pydantic and re
  | exception
  | keyError
  | indexError
  | typeError
  | assertionError
  | validationError
  | reError
  | clientError
  | autoReconnect
  -- connectors/aws.py
  | noENIFound
  | noInstancesFound
  | tooManyInstancesFound
  | tooManyReservationsFound
  -- connectors/mongo.py
  | instanceStateNotFound
  | mongoRequestFailed
  -- process/pre_step_checks.py
  | noLaunchTemplatesFound
  | launchTemplateAmiMismatch
  | mongoReplicaSetMismatch
  -- process/replica_set_health.py
  | nodeNotHealthy
  | primaryError
  | secondaryNotHealthy
  | other (n : ClassName)

def ExcClass.name : ExcClass → String
  | exception => "Exception"
  | keyError => "KeyError"
  | indexError => "IndexError"
  | typeError => "TypeError"
  | assertionError => "AssertionError"
  | validationError => "ValidationError"
  | reError => "error"
  | clientError => "ClientError"
  | autoReconnect => "AutoReconnect"
  | noENIFound => "NoENIFound"
  | noInstancesFound => "NoInstancesFound"
  | tooManyInstancesFound => "TooManyInstancesFound"
  | tooManyReservationsFound => "TooManyReservationsFound"
  | instanceStateNotFound => "InstanceStateNotFound"
  | mongoRequestFailed => "MongoRequestFailed"
  | noLaunchTemplatesFound => "NoLaunchTemplatesFound"
  | launchTemplateAmiMismatch => "LaunchTemplateAmiMismatch"
  | mongoReplicaSetMismatch => "MongoReplicaSetMismatch"
  | nodeNotHealthy => "NodeNotHealthy"
  | primaryError => "PrimaryError"
  | secondaryNotHealthy => "SecondaryNotHealthy"
  | other n => n.name

/-- `AutoReconnect` of pymongo, and the classes that derive from it: what
    `except AutoReconnect` catches. -/
def ExcClass.isAutoReconnect (c : ExcClass) : Bool :=
  c.name ∈ ["AutoReconnect", "NetworkTimeout", "NotPrimaryError", "ServerSelectionTimeoutError",
    "_OperationCancelled"]

/-- No class name holds a dot, unlike the error names of the Lambda service. -/
theorem ExcClass.noDot_name (c : ExcClass) : '.' ∉ c.name.toList := by
  cases c with
  | other n => exact n.noDot
  | _ => decide

/-- What a missing method raises. -/
def attributeError : ExcClass := .other ⟨"AttributeError", by decide⟩

/-- An exception: its class and its argument, if it was raised with one. -/
structure PyExc where
  cls : ExcClass
  arg : Option String := none

namespace PyExc

/-- One character of a `repr`; `quote` is the quotation mark in use. -/
def reprChar (quote c : Char) : List Char :=
  if c = Char.ofNat 92 || c = quote then [Char.ofNat 92, c]
  else if c = '\n' then [Char.ofNat 92, 'n']
  else if c = '\r' then [Char.ofNat 92, 'r']
  else if c = '\t' then [Char.ofNat 92, 't']
  else [c]

/-- `repr` of a string of printable characters, newlines and tabs: in single
    quotation marks unless it holds one and no double one. -/
def reprStr (s : String) : String :=
  let single := Char.ofNat 39
  let double := Char.ofNat 34
  let quote := if s.toList.contains single && !s.toList.contains double then double else single
  String.ofList (quote :: s.toList.flatMap (reprChar quote) ++ [quote])

/-- `repr(err)`. -/
def repr (e : PyExc) : String :=
  e.cls.name ++ "(" ++ (e.arg.map reprStr).getD "" ++ ")"

end PyExc

section
variable {ε α β : Type}

@[simp] theorem ok_bind (a : α) (f : α → Except ε β) : (Except.ok a >>= f) = f a := rfl

@[simp] theorem error_bind (e : ε) (f : α → Except ε β) :
    (Except.error e >>= f) = Except.error e := rfl

theorem bind_eq_ok {x : Except ε α} {f : α → Except ε β} {b : β} :
    x >>= f = .ok b ↔ ∃ a, x = .ok a ∧ f a = .ok b := by
  cases x with
  | ok a => simp
  | error e => simp

@[simp] theorem map_ok (f : α → β) (a : α) : (Except.ok a : Except ε α).map f = .ok (f a) := rfl

@[simp] theorem map_error (f : α → β) (e : ε) :
    (Except.error e : Except ε α).map f = .error e := rfl

@[simp] theorem pure_eq_ok (a : α) : (pure a : Except ε α) = .ok a := rfl

end

/-- Python's `d[key]` on a value that may be missing. -/
def getKey {α : Type} (key : String) : Option α → Except PyExc α
  | some a => .ok a
  | none => .error { cls := .keyError, arg := key }

theorem getKey_eq_ok {α : Type} {key : String} {x : Option α} {a : α} :
    getKey key x = .ok a ↔ x = some a := by
  cases x <;> simp [getKey]

/-- Python's `xs[i]`: a negative index counts from the end. -/
def getIndex {α : Type} (xs : List α) (i : Int) : Except PyExc α :=
  let j := if i < 0 then i + xs.length else i
  match if j < 0 then none else xs[j.toNat]? with
  | some a => .ok a
  | none => .error { cls := .indexError, arg := "list index out of range" }

end AutoRecycle
