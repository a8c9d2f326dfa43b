/-
  AutoRecycle.Py.Str

  Python strings, as far as the lambdas use them: prefix and substring tests,
  stripping and splitting, and `str` of the values that a format string puts
  into a text.
-/
import AutoRecycle.Asl.Json
import AutoRecycle.Exceptions
import Mathlib.Data.List.Infix

namespace AutoRecycle.Py

open AutoRecycle.Asl

/-- `s.startswith(pre)`. -/
def startsWith (s pre : String) : Bool := pre.toList.isPrefixOf s.toList

/-- `sub in s`. -/
def contains (s sub : String) : Bool := decide (sub.toList <:+: s.toList)

theorem contains_iff {s sub : String} : contains s sub = true ↔ sub.toList <:+: s.toList := by
  rw [contains, decide_eq_true_iff]

theorem contains_append_left (s pre : String) : contains (pre ++ s) pre = true := by
  rw [contains_iff, String.toList_append]
  exact (List.prefix_append _ _).isInfix

/-- `c.isspace()`. -/
def isSpace (c : Char) : Bool :=
  (9 ≤ c.toNat && c.toNat ≤ 13) || (28 ≤ c.toNat && c.toNat ≤ 32) || c.toNat = 133 ||
    c.toNat = 160 || c.toNat = 5760 || (8192 ≤ c.toNat && c.toNat ≤ 8202) || c.toNat = 8232 ||
    c.toNat = 8233 || c.toNat = 8239 || c.toNat = 8287 || c.toNat = 12288

/-- The string without the characters of `p` at its two ends. -/
def stripOf (p : Char → Bool) (s : String) : String :=
  String.ofList ((s.toList.dropWhile p).reverse.dropWhile p).reverse

/-- `s.strip()`. -/
def strip (s : String) : String := stripOf isSpace s

/-- `s.split(c)[0]`. -/
def splitHead (s : String) (c : Char) : String := String.ofList (s.toList.takeWhile (· ≠ c))

/-- The text before the first occurrence of `sep`, or all of it. -/
def beforeSub (sep : List Char) : List Char → List Char
  | [] => []
  | c :: cs => if sep.isPrefixOf (c :: cs) then [] else c :: beforeSub sep cs

/-- `s.split(sep)[0]`, for a `sep` that is not empty. -/
def splitHeadOn (s sep : String) : String := String.ofList (beforeSub sep.toList s.toList)

mutual

/-- `repr` of a JSON value. -/
def reprJson : Json → String
  | .null => "None"
  | .bool true => "True"
  | .bool false => "False"
  | .num n => toString n
  | .str s => PyExc.reprStr s
  | .arr items => "[" ++ ", ".intercalate (reprItems items) ++ "]"
  | .obj fields => "\x7b" ++ ", ".intercalate (reprFields fields) ++ "\x7d"

def reprItems : List Json → List String
  | [] => []
  | item :: items => reprJson item :: reprItems items

def reprFields : List (String × Json) → List String
  | [] => []
  | (key, value) :: fields => (PyExc.reprStr key ++ ": " ++ reprJson value) :: reprFields fields

end

/-- `str` of a JSON value. -/
def str : Json → String
  | .str s => s
  | value => reprJson value

/-- `str` of an exception: its argument, which a `KeyError` shows by its `repr`. -/
def strExc (e : PyExc) : String :=
  match e.cls with
  | .keyError => (e.arg.map PyExc.reprStr).getD ""
  | _ => e.arg.getD ""

end AutoRecycle.Py
