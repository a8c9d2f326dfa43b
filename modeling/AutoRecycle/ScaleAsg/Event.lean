/-
  AutoRecycle.ScaleAsg.Event

  lambda_types.py: the payload that the scale-ASG lambda takes and returns.

  A pydantic model remembers which of its fields were set, and
  `model_dump(exclude_unset=True)` writes those and no others.  `modelValidate`
  follows pydantic's lax mode.  What was dumped is read back unchanged
  (`modelValidate_modelDump`), so an event survives the trip through the state
  machine from one invocation to the next.
-/
import AutoRecycle.Asl.Json
import AutoRecycle.Exceptions

namespace AutoRecycle.ScaleAsg

open AutoRecycle.Asl (Json)
open AutoRecycle.Data

/-- A field of type `Optional[α]` with default `None`. -/
inductive Field (α : Type) where
  | unset
  | set (v : Option α)
  deriving DecidableEq

namespace Field

variable {α : Type}

/-- The attribute's value. -/
def get : Field α → Option α
  | unset => none
  | set v => v

@[simp] theorem get_unset : (unset : Field α).get = none := rfl
@[simp] theorem get_set (v : Option α) : (set v).get = v := rfl

end Field

/-- `Union[List[str], str]`. -/
inductive Channels where
  | list (names : List String)
  | one (name : String)

/-- `Union[bool, str]`. -/
inductive Status where
  | flag (b : Bool)
  | text (s : String)
  deriving DecidableEq

/-- `Event.MessageContent`. -/
structure MessageContent where
  color : Field String := .unset
  fields : Field (List (Dict Json)) := .unset
  text : Field String := .unset

structure Event where
  channels : Field Channels := .unset
  component : String
  counter : Field Int := .unset
  emoji : Field String := .unset
  exception : Field String := .unset
  messageContent : Field MessageContent := .unset
  /-- Not optional; `none` is unset and leaves the default "team-infra-alerts". -/
  monitoringSlackChannel? : Option String := none
  pagerDutyDescription : Field String := .unset
  pagerDutyEventType : Field String := .unset
  notifyPagerDuty : Field Bool := .unset
  recycleSuccess : Field Bool := .unset
  status : Field Status := .unset
  successChannel : String
  team : Field String := .unset
  text : Field String := .unset
  username : Field String := .unset

def Event.monitoringSlackChannel (e : Event) : String :=
  e.monitoringSlackChannel?.getD "team-infra-alerts"

-- ============================================================================
-- model_validate
-- ============================================================================

/-- The text of a validation error is not kept. -/
def invalid : PyExc := { cls := .validationError }

def validStr : Json → Except PyExc String
  | .str s => .ok s
  | _ => .error invalid

/-- The text without a fraction that is all zeros. -/
def dropFraction (cs : List Char) : List Char :=
  match cs.dropWhile (· ≠ '.') with
  | '.' :: fraction => if fraction.all (· = '0') then cs.takeWhile (· ≠ '.') else cs
  | _ => cs

/-- The text without the single underscores between its digits. -/
def dropUnderscores (cs : List Char) : List Char :=
  let double := (cs.zip cs.tail).any fun pair => pair.1 = '_' && pair.2 = '_'
  if cs.head? = some '_' || cs.getLast? = some '_' || double then cs else cs.filter (· ≠ '_')

/-- An optional sign and digits, blanks around them allowed: "1_0" is 10, "1.0" is 1. -/
def intOfStr (s : String) : Option Int :=
  let trim (cs : List Char) : List Char := (cs.dropWhile Char.isWhitespace).reverse
  let nat (cs : List Char) : Option Int :=
    let ds := dropUnderscores (dropFraction cs)
    if ds.isEmpty || !ds.all Char.isDigit then none
    else some (ds.foldl (fun n d => 10 * n + (d.toNat - '0'.toNat : Nat)) 0)
  match trim (trim s.toList) with
  | '-' :: cs => (nat cs).map Neg.neg
  | '+' :: cs => nat cs
  | cs => nat cs

example : ["1_0", "1.0", " -7 ", "1__0", "_1", "1.5"].map intOfStr =
    [some 10, some 1, some (-7), none, none, none] := by decide

def validInt : Json → Except PyExc Int
  | .num n => .ok n
  | .bool b => .ok (if b then 1 else 0)
  | .str s => match intOfStr s with
      | some n => .ok n
      | none => .error invalid
  | _ => .error invalid

def trueWords : List String := ["1", "on", "t", "true", "y", "yes"]
def falseWords : List String := ["0", "off", "f", "false", "n", "no"]

def validBool : Json → Except PyExc Bool
  | .bool b => .ok b
  | .num n => if n = 1 then .ok true else if n = 0 then .ok false else .error invalid
  | .str s =>
      if trueWords.contains s.toLower then .ok true
      else if falseWords.contains s.toLower then .ok false
      else .error invalid
  | _ => .error invalid

/-- In a union the exact type wins: a string stays a string. -/
def validStatus : Json → Except PyExc Status
  | .str s => .ok (.text s)
  | j => (validBool j).map .flag

def validStrs : List Json → Except PyExc (List String)
  | [] => .ok []
  | j :: js => do
      let s ← validStr j
      let ss ← validStrs js
      return s :: ss

def validChannels : Json → Except PyExc Channels
  | .str s => .ok (.one s)
  | .arr items => (validStrs items).map .list
  | _ => .error invalid

def validDicts : List Json → Except PyExc (List (Dict Json))
  | [] => .ok []
  | .obj d :: js => (validDicts js).map (d :: ·)
  | _ :: _ => .error invalid

def validFields : Json → Except PyExc (List (Dict Json))
  | .arr items => validDicts items
  | _ => .error invalid

/-- A field of type `Optional[α]`, as it stands in the input. -/
def optional {α : Type} (valid : Json → Except PyExc α) : Option Json → Except PyExc (Field α)
  | none => .ok .unset
  | some .null => .ok (.set none)
  | some j => (valid j).map fun a => .set (some a)

def required {α : Type} (valid : Json → Except PyExc α) : Option Json → Except PyExc α
  | none => .error invalid
  | some j => valid j

/-- A field with a default that is not `None`. -/
def defaulted {α : Type} (valid : Json → Except PyExc α) : Option Json → Except PyExc (Option α)
  | none => .ok none
  | some j => (valid j).map some

/-- A model is read from an object. -/
def validModel {α : Type} (read : Json → Except PyExc α) : Json → Except PyExc α
  | .obj d => read (.obj d)
  | _ => .error invalid

def validMessageContent : Json → Except PyExc MessageContent :=
  validModel fun j => do
    let color ← optional validStr (j.field? "color")
    let fields ← optional validFields (j.field? "fields")
    let text ← optional validStr (j.field? "text")
    return { color, fields, text }

/-- `Event.model_validate`; fields that the model does not have are ignored. -/
def Event.modelValidate : Json → Except PyExc Event :=
  validModel fun j => do
    let channels ← optional validChannels (j.field? "channels")
    let component ← required validStr (j.field? "component")
    let counter ← optional validInt (j.field? "counter")
    let emoji ← optional validStr (j.field? "emoji")
    let exception ← optional validStr (j.field? "exception")
    let messageContent ← optional validMessageContent (j.field? "message_content")
    let monitoringSlackChannel? ← defaulted validStr (j.field? "monitoring_slack_channel")
    let pagerDutyDescription ← optional validStr (j.field? "pager_duty_description")
    let pagerDutyEventType ← optional validStr (j.field? "pager_duty_event_type")
    let notifyPagerDuty ← optional validBool (j.field? "notify_pager_duty")
    let recycleSuccess ← optional validBool (j.field? "recycle_success")
    let status ← optional validStatus (j.field? "status")
    let successChannel ← required validStr (j.field? "success_channel")
    let team ← optional validStr (j.field? "team")
    let text ← optional validStr (j.field? "text")
    let username ← optional validStr (j.field? "username")
    return { channels, component, counter, emoji, exception, messageContent,
             monitoringSlackChannel?, pagerDutyDescription, pagerDutyEventType, notifyPagerDuty,
             recycleSuccess, status, successChannel, team, text, username }

-- ============================================================================
-- model_dump
-- ============================================================================

def Channels.dump : Channels → Json
  | list names => .arr (names.map .str)
  | one name => .str name

def Status.dump : Status → Json
  | flag b => .bool b
  | text s => .str s

/-- What stands under the key of a field, if it was set. -/
def Field.json {α : Type} (dump : α → Json) : Field α → Option Json
  | unset => none
  | set none => some .null
  | set (some a) => some (dump a)

def entry (key : String) : Option Json → Dict Json
  | none => []
  | some j => [(key, j)]

def MessageContent.dump (m : MessageContent) : Json :=
  .obj <| List.flatten
    [entry "color" (m.color.json .str),
     entry "fields" (m.fields.json fun fs => .arr (fs.map .obj)),
     entry "text" (m.text.json .str)]

/-- The entries that `model_dump(exclude_unset=True)` writes, in the order of the model. -/
def Event.entries (e : Event) : List (Dict Json) :=
  [entry "channels" (e.channels.json Channels.dump),
   entry "component" (some (.str e.component)),
   entry "counter" (e.counter.json .num),
   entry "emoji" (e.emoji.json .str),
   entry "exception" (e.exception.json .str),
   entry "message_content" (e.messageContent.json MessageContent.dump),
   entry "monitoring_slack_channel" (e.monitoringSlackChannel?.map .str),
   entry "pager_duty_description" (e.pagerDutyDescription.json .str),
   entry "pager_duty_event_type" (e.pagerDutyEventType.json .str),
   entry "notify_pager_duty" (e.notifyPagerDuty.json .bool),
   entry "recycle_success" (e.recycleSuccess.json .bool),
   entry "status" (e.status.json Status.dump),
   entry "success_channel" (some (.str e.successChannel)),
   entry "team" (e.team.json .str),
   entry "text" (e.text.json .str),
   entry "username" (e.username.json .str)]

def Event.modelDump (e : Event) : Json := .obj e.entries.flatten

-- ============================================================================
-- Reading back what was dumped
-- ============================================================================

theorem get?_entry_append (key other : String) (o : Option Json) (rest : Dict Json) :
    Dict.get? other (entry key o ++ rest) =
      if key = other then o.or (rest.get? other) else Dict.get? other rest := by
  cases o with
  | none => simp [entry]
  | some j => simp [entry, Dict.get?_cons]

theorem get?_entry (key other : String) (o : Option Json) :
    Dict.get? other (entry key o) = if key = other then o else none := by
  have h := get?_entry_append key other o []
  simpa using h

section
variable {α : Type} (valid : Json → Except PyExc α) (dump : α → Json)

theorem optional_json (h : ∀ a, valid (dump a) = .ok a) (hnull : ∀ a, dump a ≠ .null)
    (f : Field α) : optional valid (f.json dump) = .ok f := by
  cases f with
  | unset => rfl
  | set v =>
    cases v with
    | none => rfl
    | some a =>
      have hsome : optional valid (some (dump a)) = (valid (dump a)).map fun a => .set (some a) := by
        cases hd : dump a with
        | null => exact absurd hd (hnull a)
        | _ => rfl
      rw [Field.json, hsome, h a]
      rfl

end

theorem validStrs_map (names : List String) : validStrs (names.map .str) = .ok names := by
  induction names with
  | nil => rfl
  | cons s ss ih => simp [validStrs, validStr, ih]

theorem validDicts_map (ds : List (Dict Json)) : validDicts (ds.map .obj) = .ok ds := by
  induction ds with
  | nil => rfl
  | cons d ds ih => simp [validDicts, ih]


@[simp] theorem validChannels_dump (c : Channels) : validChannels c.dump = .ok c := by
  cases c with
  | list names => simp [Channels.dump, validChannels, validStrs_map]
  | one name => rfl

@[simp] theorem validStatus_dump (s : Status) : validStatus s.dump = .ok s := by
  cases s <;> rfl

theorem optional_str (f : Field String) : optional validStr (f.json .str) = .ok f :=
  optional_json validStr .str (fun _ => rfl) (fun _ => nofun) f

theorem optional_int (f : Field Int) : optional validInt (f.json .num) = .ok f :=
  optional_json validInt .num (fun _ => rfl) (fun _ => nofun) f

theorem optional_bool (f : Field Bool) : optional validBool (f.json .bool) = .ok f :=
  optional_json validBool .bool (fun _ => rfl) (fun _ => nofun) f

theorem optional_channels (f : Field Channels) :
    optional validChannels (f.json Channels.dump) = .ok f :=
  optional_json _ _ validChannels_dump (fun c => by cases c <;> nofun) f

theorem optional_status (f : Field Status) :
    optional validStatus (f.json Status.dump) = .ok f :=
  optional_json _ _ validStatus_dump (fun s => by cases s <;> nofun) f

theorem validMessageContent_dump (m : MessageContent) :
    validMessageContent m.dump = .ok m := by
  have hfields : ∀ f, optional validFields (f.json fun fs => .arr (fs.map .obj)) = .ok f :=
    optional_json validFields (fun fs => .arr (fs.map .obj)) validDicts_map fun _ => nofun
  simp [validMessageContent, MessageContent.dump, validModel, get?_entry_append, get?_entry,
    optional_str, hfields]

theorem optional_messageContent (f : Field MessageContent) :
    optional validMessageContent (f.json MessageContent.dump) = .ok f :=
  optional_json _ _ validMessageContent_dump (fun _ => nofun) f

theorem required_str (s : String) : required validStr (some (.str s)) = .ok s := rfl

theorem defaulted_str (o : Option String) : defaulted validStr (o.map .str) = .ok o := by
  cases o <;> rfl

/-- An event survives the trip through JSON. -/
theorem Event.modelValidate_modelDump (e : Event) : modelValidate e.modelDump = .ok e := by
  simp [modelValidate, modelDump, entries, validModel, get?_entry_append, get?_entry,
    required_str, defaulted_str, optional_str, optional_int, optional_bool, optional_channels,
    optional_status, optional_messageContent]

/-- What the Choice states read. -/
theorem Event.field?_modelDump (e : Event) :
    e.modelDump.field? "counter" = e.counter.json .num ∧
    e.modelDump.field? "recycle_success" = e.recycleSuccess.json .bool ∧
    e.modelDump.field? "status" = e.status.json Status.dump := by
  simp [modelDump, entries, get?_entry_append, get?_entry]

end AutoRecycle.ScaleAsg
