/-
  AutoRecycle.ZoneSuffix

  `re.subn("_[abc]$", "", name)`: the component's name without its availability
  zone.  Like every `$`, the pattern also matches before a newline at the end.
-/
import Mathlib.Data.List.Basic
import Mathlib.Tactic.Common

namespace AutoRecycle.ZoneSuffix

def isZone (c : Char) : Bool := c = 'a' || c = 'b' || c = 'c'

/-- What a match of `_[abc]$` at this place leaves behind. -/
def suffixRest : List Char → Option (List Char)
  | ['_', z] => if isZone z then some [] else none
  | ['_', z, '\n'] => if isZone z then some ['\n'] else none
  | _ => none

def subnChars : List Char → List Char × Nat
  | [] => ([], 0)
  | c :: cs =>
      match suffixRest (c :: cs) with
      | some rest => (rest, 1)
      | none => (c :: (subnChars cs).1, (subnChars cs).2)

/-- The name after the substitution, and the number of substitutions made. -/
def subn (name : String) : String × Nat :=
  (String.ofList (subnChars name.toList).1, (subnChars name.toList).2)

/-- `re.sub`. -/
def sub (name : String) : String := (subn name).1

-- ============================================================================
-- What the substitution does
-- ============================================================================

theorem suffixRest_eq_some {cs rest : List Char} (h : suffixRest cs = some rest) :
    ∃ z, isZone z = true ∧ cs = '_' :: z :: rest ∧ (rest = [] ∨ rest = ['\n']) := by
  unfold suffixRest at h
  split at h
  · rename_i z
    split at h
    · rename_i hz
      cases h
      exact ⟨z, hz, rfl, .inl rfl⟩
    · cases h
  · rename_i z
    split at h
    · rename_i hz
      cases h
      exact ⟨z, hz, rfl, .inr rfl⟩
    · cases h
  · cases h

/-- A name is left alone, or loses one suffix. -/
theorem subnChars_cases (cs : List Char) :
    subnChars cs = (cs, 0) ∨
      ∃ base z rest, isZone z = true ∧ (rest = [] ∨ rest = ['\n']) ∧
        cs = base ++ '_' :: z :: rest ∧ subnChars cs = (base ++ rest, 1) := by
  induction cs with
  | nil => exact .inl rfl
  | cons c cs ih =>
    rw [subnChars]
    cases hs : suffixRest (c :: cs) with
    | some rest =>
      obtain ⟨z, hz, hcs, hrest⟩ := suffixRest_eq_some hs
      exact .inr ⟨[], z, rest, hz, hrest, hcs, rfl⟩
    | none =>
      obtain hsame | ⟨base, z, rest, hz, hrest, hcs, hsub⟩ := ih
      · exact .inl (by rw [hsame])
      · exact .inr ⟨c :: base, z, rest, hz, hrest, by rw [hcs, List.cons_append],
          by rw [hsub, List.cons_append]⟩

theorem sub_eq_self {name : String} (h : (subn name).2 = 0) : sub name = name := by
  have hcount : (subnChars name.toList).2 = 0 := h
  obtain hsame | ⟨base, z, rest, -, -, -, hsub⟩ := subnChars_cases name.toList
  · rw [sub, subn, hsame, String.ofList_toList]
  · rw [hsub] at hcount
    cases hcount

/-- A suffixed name, in characters, and its base. -/
theorem toList_of_suffixed {name : String} (h : (subn name).2 ≠ 0) :
    ∃ base z rest, isZone z = true ∧ (rest = [] ∨ rest = ['\n']) ∧
      name.toList = base ++ '_' :: z :: rest ∧ (sub name).toList = base ++ rest := by
  have hcount : (subnChars name.toList).2 ≠ 0 := h
  obtain hsame | ⟨base, z, rest, hz, hrest, hcs, hsub⟩ := subnChars_cases name.toList
  · rw [hsame] at hcount
    exact absurd rfl hcount
  · exact ⟨base, z, rest, hz, hrest, hcs, by rw [sub, subn, hsub, String.toList_ofList]⟩

end AutoRecycle.ZoneSuffix
