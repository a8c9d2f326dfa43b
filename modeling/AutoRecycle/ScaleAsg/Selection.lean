/-
  AutoRecycle.ScaleAsg.Selection

  Which ASGs `describe_asg` selects.

  The name of the component goes into the pattern as it is.  As long as it reads
  as plain text there, the pattern describes the ASGs of the component; a name
  with a special character describes others, or is no pattern at all.
-/
import AutoRecycle.Py.Literal
import AutoRecycle.ScaleAsg.Responses

namespace AutoRecycle.ScaleAsg

open AutoRecycle.Py
open AutoRecycle.Py.Re (Plain Takes literal ofItems seqOf)
open AutoRecycle.ZoneSuffix (isZone)

-- ============================================================================
-- The pattern
-- ============================================================================

/-- `[a-z\d]` -/
def suffixClass : Re := Re.ofSets false [{ ranges := [('a', 'z')] }, { ranges := Re.digits }]

/-- `[abc]` -/
def zoneClass : Re :=
  Re.ofSets false [{ ranges := [('a', 'a')] }, { ranges := [('b', 'b')] }, { ranges := [('c', 'c')] }]

/-- `(?:_[abc])`, or nothing. -/
def zoneItems (zoned : Bool) : List Re :=
  if zoned then [ofItems [zoneClass, literal '_']] else []

/-- `-asg-[a-z\d]+$` -/
def asgItems : List Re :=
  ['-', 'a', 's', 'g', '-'].map literal ++ [.rep suffixClass 1 none, .atEnd]

def asgText : List Char := ['-', 'a', 's', 'g', '-', '[', 'a', '-', 'z', '\\', 'd', ']', '+', '$']

def zoneText (zoned : Bool) : List Char :=
  if zoned then ['(', '?', ':', '_', '[', 'a', 'b', 'c', ']', ')'] else []

theorem parseSeq_asgText (fuel : Nat) (done : List Re) :
    Re.parseSeq (fuel + 9) done asgText = some (ofItems (asgItems.reverse ++ done), []) := by
  have htext := @Re.parseSeq_text ['-', 'a', 's', 'g', '-'] (by simp [Re.specials])
    ['[', 'a', '-', 'z', '\\', 'd', ']', '+', '$'] (fuel + 4) done
  have hclass : Re.simpleItem '[' ['a', '-', 'z', '\\', 'd', ']', '+', '$'] =
      some (suffixClass, ['+', '$']) := rfl
  have hplus : Re.repetition '+' ['$'] = some (1, none, ['$']) := rfl
  have hend : Re.simpleItem '$' [] = some (.atEnd, []) := rfl
  refine htext.trans ?_
  rw [Re.parseSeq_item (by decide) rfl hclass, Re.parseSeq_repetition (by decide) hplus rfl,
    Re.parseSeq_item (by decide) rfl hend, Re.parseSeq_nil]
  simp [asgItems]

theorem parseSeq_zoneText (zoned : Bool) (fuel : Nat) (done : List Re) :
    Re.parseSeq (fuel + 11) done (zoneText zoned ++ asgText) =
      some (ofItems ((zoneItems zoned ++ asgItems).reverse ++ done), []) := by
  cases zoned with
  | false => exact parseSeq_asgText (fuel + 2) done
  | true =>
      have hclass : Re.simpleItem '[' ('a' :: 'b' :: 'c' :: ']' :: ')' :: asgText) =
          some (zoneClass, ')' :: asgText) := rfl
      have hinside : Re.parseSeq (fuel + 9) [] ('_' :: '[' :: 'a' :: 'b' :: 'c' :: ']' :: ')' :: asgText) =
          some (ofItems [zoneClass, literal '_'], ')' :: asgText) := by
        have htext := @Re.parseSeq_text ['_'] (by simp [Re.specials])
          ('[' :: 'a' :: 'b' :: 'c' :: ']' :: ')' :: asgText) (fuel + 8) []
        refine htext.trans ?_
        rw [Re.parseSeq_item (by decide) rfl hclass, Re.parseSeq_close]
        simp
      have hgroup := @Re.parseSeq_group ('?' :: ':' :: '_' :: '[' :: 'a' :: 'b' :: 'c' :: ']' :: ')' :: asgText)
        asgText (fuel + 9) done id _ _ rfl hinside
      refine hgroup.trans ?_
      rw [parseSeq_asgText (fuel + 1), List.reverse_append, List.append_assoc]
      simp [zoneItems]

/-- `(^base)(?:_[abc])-asg-[a-z\d]+$`, with or without the zone. -/
def matcherOf (base : List Char) (zoned : Bool) : Re :=
  seqOf (seqOf (.atStart :: base.map literal) :: zoneItems zoned ++ asgItems)

/-- A plain name in its group. -/
theorem parseSeq_name {base : List Char} (hplain : Plain base) (rest : List Char) (fuel : Nat) :
    Re.parseSeq (fuel + 1 + base.length + 1) [] ('^' :: (base ++ ')' :: rest)) =
      some (seqOf (.atStart :: base.map literal), ')' :: rest) := by
  have hstart : Re.simpleItem '^' (base ++ ')' :: rest) = some (.atStart, base ++ ')' :: rest) := rfl
  rw [Re.parseSeq_item (by decide) rfl hstart, Re.parseSeq_plain hplain, Re.parseSeq_close,
    ← Re.ofItems_reverse, List.reverse_cons]

/-- The pattern of a plain name is read as that name. -/
theorem compile_pattern {componentName : String} (hplain : Plain componentName.toList) (zoned : Bool) :
    Re.compile ("(^" ++ componentName ++ ")" ++ (if zoned then "(?:_[abc])" else "") ++
      "-asg-[a-z\\d]+$") = some (matcherOf componentName.toList zoned) := by
  have hchars : ("(^" ++ componentName ++ ")" ++ (if zoned then "(?:_[abc])" else "") ++
      "-asg-[a-z\\d]+$").toList =
      '(' :: '^' :: (componentName.toList ++ ')' :: (zoneText zoned ++ asgText)) := by
    cases zoned <;> simp [String.toList_append, zoneText, asgText]
  rw [Re.compile, hchars]
  generalize componentName.toList = base at hplain
  generalize hlength : ('(' :: '^' :: (base ++ ')' :: (zoneText zoned ++ asgText))).length = length
  have hlong : base.length + 17 ≤ length := by
    rw [← hlength]
    simp only [List.length_cons, List.length_append, asgText, List.length_nil]
    omega
  -- the fuel of the group and that of what follows it
  obtain ⟨inner, hinner⟩ : ∃ inner, 3 * length = inner + 1 + base.length + 1 :=
    ⟨3 * length - base.length - 2, by omega⟩
  obtain ⟨outer, houter⟩ : ∃ outer, 3 * length + 1 = outer + 11 := ⟨3 * length - 10, by omega⟩
  have hname := parseSeq_name hplain (zoneText zoned ++ asgText) inner
  rw [← hinner, ← Re.ofItems_reverse] at hname
  have hgroup := @Re.parseSeq_group ('^' :: (base ++ ')' :: (zoneText zoned ++ asgText)))
    (zoneText zoned ++ asgText) (3 * length) [] id _ _ rfl hname
  rw [houter, parseSeq_zoneText zoned outer] at hgroup
  rw [Re.parseAlt, hgroup]
  show some (ofItems ((zoneItems zoned ++ asgItems).reverse ++
    [ofItems (Re.atStart :: base.map literal).reverse])) = _
  rw [Re.ofItems_reverse, ← List.reverse_cons, Re.ofItems_reverse, matcherOf, List.cons_append]

-- ============================================================================
-- What the pattern matches
-- ============================================================================

/-- The texts that `[a-z\d]+` takes: lower-case letters, and decimal digits of any
    script. -/
def Extension (s : List Char) : Prop := s ≠ [] ∧ ∀ c ∈ s, c.isLower = true ∨ Re.isDecimal c = true

/-- Those of them in ASCII. -/
def Suffix (s : List Char) : Prop := s ≠ [] ∧ ∀ c ∈ s, c.isLower = true ∨ c.isDigit = true

theorem extension_iff_suffix {s : List Char} (h : ∀ c ∈ s, c.toNat < 128) :
    Extension s ↔ Suffix s := by
  refine and_congr_right fun _ => forall₂_congr fun c hc => ?_
  rw [Re.isDecimal_ascii (h c hc)]

theorem isLower_iff {c : Char} : c.isLower = true ↔ 'a'.val ≤ c.val ∧ c.val ≤ 'z'.val :=
  (Bool.and_eq_true _ _).to_iff.trans (and_congr decide_eq_true_iff decide_eq_true_iff)

theorem takes_suffixClass : Takes suffixClass fun c => c.isLower = true ∨ Re.isDecimal c = true := by
  have hclass := Re.takes_alt (Re.takes_set { ranges := [('a', 'z')] })
    (Re.takes_alt (Re.takes_set { ranges := Re.digits }) (Re.takes_set { ranges := [] }))
  have haccepts : ∀ c : Char, (CharSet.accepts { ranges := [('a', 'z')] } c = true ∨
      CharSet.accepts { ranges := Re.digits } c = true ∨ CharSet.accepts { ranges := [] } c = true) ↔
      (c.isLower = true ∨ Re.isDecimal c = true) := by
    intro c
    rw [← Re.isDecimal]
    simp [CharSet.accepts, isLower_iff]
  exact ⟨hclass.1, fun before c after q =>
    (hclass.2 before c after q).trans (and_congr_left fun _ => haccepts c)⟩

theorem takes_zoneClass : Takes zoneClass fun c => isZone c = true := by
  have hclass := Re.takes_alt (Re.takes_literal 'a') (Re.takes_alt (Re.takes_literal 'b')
    (Re.takes_alt (Re.takes_literal 'c') (Re.takes_set { ranges := [] })))
  have haccepts : ∀ c : Char, (c = 'a' ∨ c = 'b' ∨ c = 'c' ∨
      CharSet.accepts { ranges := [] } c = true) ↔ isZone c = true := by
    intro c
    simp [CharSet.accepts, isZone, or_assoc]
  exact ⟨hclass.1, fun before c after q =>
    (hclass.2 before c after q).trans (and_congr_left fun _ => haccepts c)⟩

/-- The end of the pattern: a suffix, and perhaps a newline. -/
theorem mem_ends_asgItems {before after : List Char} :
    (∃ q, q ∈ (seqOf asgItems).ends (before, after)) ↔ ∃ s newline,
      after = ['-', 'a', 's', 'g', '-'] ++ s ++ newline ∧ Extension s ∧
        (newline = [] ∨ newline = ['\n']) := by
  have hend : ∀ p q : Re.Pos, q ∈ (seqOf [.atEnd]).ends p ↔ (p.2 = [] ∨ p.2 = ['\n']) ∧ q = p := by
    intro p q
    simp only [seqOf, List.foldr_cons, List.foldr_nil, Re.ends]
    split <;> rename_i h <;> simp [h]
  have hliterals := fun q => @Re.mem_ends_literals ['-', 'a', 's', 'g', '-']
    [.rep suffixClass 1 none, .atEnd] before after q
  constructor
  · rintro ⟨q, hq⟩
    obtain ⟨rest, rfl, hrest⟩ := (hliterals q).mp hq
    obtain ⟨m, hm, hlast⟩ := Re.mem_ends_seq.mp hrest
    obtain ⟨run, newline, rfl, hlength, hrun, rfl⟩ := (Re.mem_ends_rep takes_suffixClass).mp hm
    obtain ⟨hnewline, -⟩ := (hend _ _).mp hlast
    refine ⟨run, newline, (List.append_assoc _ _ _).symm, ⟨?_, hrun⟩, hnewline⟩
    exact List.ne_nil_of_length_pos hlength
  · rintro ⟨s, newline, rfl, ⟨hne, hs⟩, hnewline⟩
    let last : Re.Pos := (s.reverse ++ (['-', 'a', 's', 'g', '-'].reverse ++ before), newline)
    have hrest : last ∈ (seqOf [.rep suffixClass 1 none, .atEnd]).ends
        (['-', 'a', 's', 'g', '-'].reverse ++ before, s ++ newline) :=
      Re.mem_ends_seq.mpr ⟨last, (Re.mem_ends_rep takes_suffixClass).mpr
        ⟨s, newline, rfl, List.length_pos_iff.mpr hne, hs, rfl⟩, (hend _ _).mpr ⟨hnewline, rfl⟩⟩
    exact ⟨last, (hliterals last).mpr ⟨s ++ newline, List.append_assoc _ _ _, hrest⟩⟩

theorem mem_ends_zoneGroup {before after : List Char} {m : Re.Pos} :
    m ∈ (ofItems [zoneClass, literal '_']).ends (before, after) ↔
      ∃ z rest, isZone z = true ∧ after = '_' :: z :: rest ∧ m = (z :: '_' :: before, rest) := by
  have hgroup : ofItems [zoneClass, literal '_'] = seqOf (['_'].map literal ++ [zoneClass]) := rfl
  have hzone : ∀ p, m ∈ (seqOf [zoneClass]).ends p ↔ m ∈ zoneClass.ends p := by
    intro p
    rw [seqOf, List.foldr_cons, Re.mem_ends_seq]
    simp [Re.ends]
  rw [hgroup, Re.mem_ends_literals]
  constructor
  · rintro ⟨rest, rfl, hm⟩
    rw [hzone] at hm
    cases rest with
    | nil => rw [takes_zoneClass.1] at hm; cases hm
    | cons z rest =>
        obtain ⟨hz, rfl⟩ := (takes_zoneClass.2 _ _ _ _).mp hm
        exact ⟨z, rest, hz, rfl, rfl⟩
  · rintro ⟨z, rest, hz, rfl, rfl⟩
    exact ⟨z :: rest, rfl, (hzone _).mpr ((takes_zoneClass.2 _ _ _ _).mpr ⟨hz, rfl⟩)⟩

/-- What stands between the name and the rest. -/
def Zone (zoned : Bool) (zone : List Char) : Prop :=
  if zoned then ∃ z, isZone z = true ∧ zone = ['_', z] else zone = []

theorem mem_ends_zoneItems {zoned : Bool} {before after : List Char} :
    (∃ q, q ∈ (seqOf (zoneItems zoned ++ asgItems)).ends (before, after)) ↔ ∃ zone s newline,
      after = zone ++ (['-', 'a', 's', 'g', '-'] ++ s ++ newline) ∧ Zone zoned zone ∧ Extension s ∧
        (newline = [] ∨ newline = ['\n']) := by
  cases zoned with
  | false =>
      show (∃ q, q ∈ (seqOf asgItems).ends (before, after)) ↔ _
      rw [mem_ends_asgItems]
      simp [Zone]
  | true =>
      show (∃ q, q ∈ (seqOf (ofItems [zoneClass, literal '_'] :: asgItems)).ends (before, after)) ↔ _
      constructor
      · rintro ⟨q, hq⟩
        obtain ⟨m, hm, hq⟩ := Re.mem_ends_seq.mp hq
        obtain ⟨z, rest, hz, rfl, rfl⟩ := mem_ends_zoneGroup.mp hm
        obtain ⟨s, newline, rfl, hs, hnewline⟩ := mem_ends_asgItems.mp ⟨q, hq⟩
        exact ⟨['_', z], s, newline, rfl, ⟨z, hz, rfl⟩, hs, hnewline⟩
      · rintro ⟨zone, s, newline, rfl, ⟨z, hz, rfl⟩, hs, hnewline⟩
        obtain ⟨q, hq⟩ := (@mem_ends_asgItems (z :: '_' :: before) _).mpr ⟨s, newline, rfl, hs, hnewline⟩
        exact ⟨q, Re.mem_ends_seq.mpr ⟨_, mem_ends_zoneGroup.mpr ⟨z, _, hz, rfl, rfl⟩, hq⟩⟩

/-- The pattern of a plain name matches the names of its ASGs. -/
theorem matches?_pattern {base : List Char} {zoned : Bool} {name : String} :
    (matcherOf base zoned).matches? name = true ↔
      ∃ zone s newline, name.toList = base ++ (zone ++ (['-', 'a', 's', 'g', '-'] ++ s ++ newline)) ∧
        Zone zoned zone ∧ Extension s ∧ (newline = [] ∨ newline = ['\n']) := by
  have hname : ∀ m subject, m ∈ (seqOf (.atStart :: base.map literal)).ends ([], subject) ↔
      ∃ rest, subject = base ++ rest ∧ m = (base.reverse, rest) := by
    intro m subject
    have hliterals := @Re.mem_ends_literals base [] [] subject m
    rw [List.append_nil] at hliterals
    have hstart : m ∈ (seqOf (.atStart :: base.map literal)).ends ([], subject) ↔
        m ∈ (seqOf (base.map literal)).ends ([], subject) := by
      rw [seqOf, List.foldr_cons, Re.mem_ends_seq, ← seqOf]
      simp [Re.ends]
    rw [hstart, hliterals]
    simp [seqOf, Re.ends]
  rw [Re.matches?_iff]
  constructor
  · rintro ⟨q, hq⟩
    obtain ⟨m, hm, hq⟩ := Re.mem_ends_seq.mp hq
    obtain ⟨rest, hsubject, rfl⟩ := (hname _ _).mp hm
    obtain ⟨zone, s, newline, rfl, hzone, hs, hnewline⟩ := mem_ends_zoneItems.mp ⟨q, hq⟩
    exact ⟨zone, s, newline, hsubject, hzone, hs, hnewline⟩
  · rintro ⟨zone, s, newline, hsubject, hzone, hs, hnewline⟩
    obtain ⟨q, hq⟩ := (@mem_ends_zoneItems zoned base.reverse _).mpr
      ⟨zone, s, newline, rfl, hzone, hs, hnewline⟩
    exact ⟨q, Re.mem_ends_seq.mpr ⟨_, (hname _ _).mpr ⟨_, hsubject, rfl⟩, hq⟩⟩

-- ============================================================================
-- The selection
-- ============================================================================

/-- The name ends in a zone. -/
def Zoned (component base : List Char) : Prop := ∃ z, isZone z = true ∧ component = base ++ ['_', z]

/-- Names that AWS gives: printable ASCII. -/
def Printable (s : String) : Prop := ∀ c ∈ s.toList, 32 ≤ c.toNat ∧ c.toNat ≤ 126

instance (s : String) : Decidable (Printable s) := List.decidableBAll _ _

/-- The name is one of an ASG of the component: its own name, or its base name
    with any zone, then "-asg-" and a suffix. -/
def NamedFor (component name : String) : Prop :=
  ∃ c s, name.toList = c ++ (['-', 'a', 's', 'g', '-'] ++ s) ∧ Suffix s ∧
    (((∀ base, ¬ Zoned component.toList base) ∧ c = component.toList) ∨
      ∃ base, Zoned component.toList base ∧ Zoned c base)

/-- What stands in a printable name is ASCII. -/
theorem extension_iff_of_printable {name : String} (h : Printable name) {s : List Char}
    (hs : s ⊆ name.toList) : Extension s ↔ Suffix s := by
  refine extension_iff_suffix fun c hc => ?_
  have hle := (h c (hs hc)).2
  omega

theorem notMem_newline {s : String} (h : Printable s) : '\n' ∉ s.toList := by
  intro hmem
  have hle := (h _ hmem).1
  revert hle
  decide

theorem subnChars_suffixed {base : List Char} {z : Char} (hz : isZone z = true) :
    ZoneSuffix.subnChars (base ++ ['_', z]) = (base, 1) := by
  induction base with
  | nil => simp [ZoneSuffix.subnChars, ZoneSuffix.suffixRest, hz]
  | cons c base ih =>
      have hnone : ZoneSuffix.suffixRest (c :: (base ++ ['_', z])) = none := by
        cases hrest : ZoneSuffix.suffixRest (c :: (base ++ ['_', z])) with
        | none => rfl
        | some rest =>
            obtain ⟨z', hz', hcs, rfl | rfl⟩ := ZoneSuffix.suffixRest_eq_some hrest
            · have hlength := congrArg List.length (List.cons.inj hcs).2
              simp at hlength
            · cases base with
              | nil =>
                  -- the zone of the match would be the underscore
                  simp only [List.nil_append, List.cons.injEq] at hcs
                  rw [← hcs.2.1] at hz'
                  exact absurd hz' (by decide)
              | cons c' base =>
                  have hlength := congrArg List.length (List.cons.inj hcs).2
                  simp at hlength
      rw [List.cons_append, ZoneSuffix.subnChars, hnone, ih]

/-- The name as `re.subn` leaves it, and whether it has found a zone. -/
theorem subn_cases {component : String} (h : '\n' ∉ component.toList) :
    (∃ base, Zoned component.toList base ∧ ZoneSuffix.subn component = (String.ofList base, 1)) ∨
      ((∀ base, ¬ Zoned component.toList base) ∧ ZoneSuffix.subn component = (component, 0)) := by
  obtain hsame | ⟨base, z, rest, hz, hrest, hcs, hsub⟩ := ZoneSuffix.subnChars_cases component.toList
  · refine .inr ⟨?_, by rw [ZoneSuffix.subn, hsame, String.ofList_toList]⟩
    rintro base ⟨z, hz, hcs⟩
    rw [hcs, subnChars_suffixed hz] at hsame
    simp at hsame
  · obtain rfl | rfl := hrest
    · exact .inl ⟨base, ⟨z, hz, hcs⟩, by rw [ZoneSuffix.subn, hsub, List.append_nil]⟩
    · rw [hcs] at h
      simp at h

/-- With a plain base name the selection is that of the matcher. -/
theorem matchAsgs_plain {component : String} {asgs : List AutoScalingGroup}
    (hplain : Plain (ZoneSuffix.sub component).toList) :
    let selected := asgs.filter fun asg => (matcherOf (ZoneSuffix.sub component).toList
      ((ZoneSuffix.subn component).2 = 1)).matches? asg.autoScalingGroupName
    (selected = [] ∧ ∃ e, matchAsgs component asgs = .error e) ∨
      (selected ≠ [] ∧ matchAsgs component asgs = .ok selected) := by
  have hcompile := compile_pattern hplain ((ZoneSuffix.subn component).2 = 1)
  simp only [decide_eq_true_eq] at hcompile
  have hsub : (ZoneSuffix.subn component).1 = ZoneSuffix.sub component := rfl
  intro selected
  by_cases hnone : selected = []
  · refine .inl ⟨hnone, ?_⟩
    rw [matchAsgs]
    simp only [hsub, hcompile]
    rw [if_pos (List.isEmpty_iff.mpr hnone)]
    exact ⟨_, rfl⟩
  · refine .inr ⟨hnone, ?_⟩
    rw [matchAsgs]
    simp only [hsub, hcompile]
    rw [if_neg fun h => hnone (List.isEmpty_iff.mp h)]

/-- The matcher of a plain base name finds the ASGs of the component. -/
theorem matches?_iff_namedFor {component name : String} (hcomponent : Printable component)
    (hname : Printable name) :
    (matcherOf (ZoneSuffix.sub component).toList ((ZoneSuffix.subn component).2 = 1)).matches? name = true ↔
      NamedFor component name := by
  rw [matches?_pattern]
  have hnewline : ∀ front : List Char, name.toList ≠ front ++ ['\n'] := by
    intro front heq
    have hmem := notMem_newline hname
    rw [heq] at hmem
    simp at hmem
  have hends : ∀ front newline, name.toList = front ++ newline → newline = [] ∨ newline = ['\n'] →
      newline = [] := fun front newline heq h => h.resolve_right fun h => hnewline front (h ▸ heq)
  have hsuffix : ∀ {front s rest : List Char}, name.toList = front ++ (s ++ rest) →
      (Extension s ↔ Suffix s) := by
    intro front s rest heq
    refine extension_iff_of_printable hname ?_
    rw [heq]
    exact fun c hc => List.mem_append_right front (List.mem_append_left rest hc)
  obtain ⟨base, hzoned, hsub⟩ | ⟨hnot, hsub⟩ := subn_cases (notMem_newline hcomponent)
  · rw [ZoneSuffix.sub, hsub, String.toList_ofList]
    constructor
    · rintro ⟨zone, s, newline, hchars, ⟨z, hz, rfl⟩, hs, hnewline⟩
      have hfront : name.toList = base ++ (['_', z] ++ (['-', 'a', 's', 'g', '-'] ++ s)) ++ newline := by
        simpa using hchars
      obtain rfl := hends _ _ hfront hnewline
      have hchars : name.toList = (base ++ ['_', z]) ++ (['-', 'a', 's', 'g', '-'] ++ s) := by
        simpa using hchars
      have hs := (@hsuffix (base ++ ['_', z] ++ ['-', 'a', 's', 'g', '-']) s [] (by simpa using hchars)).mp hs
      exact ⟨base ++ ['_', z], s, hchars, hs, .inr ⟨base, hzoned, z, hz, rfl⟩⟩
    · rintro ⟨c, s, hchars, hs, ⟨hnot, -⟩ | ⟨base', ⟨z₁, hz₁, hcomponent'⟩, z, hz, rfl⟩⟩
      · exact absurd hzoned (hnot base)
      · obtain ⟨z₂, hz₂, hcs⟩ := hzoned
        obtain ⟨rfl, -⟩ := List.append_inj' (hcomponent'.symm.trans hcs) rfl
        have hs := (@hsuffix (base' ++ ['_', z] ++ ['-', 'a', 's', 'g', '-']) s [] (by simpa using hchars)).mpr hs
        exact ⟨['_', z], s, [], by simpa using hchars, ⟨z, hz, rfl⟩, hs, .inl rfl⟩
  · rw [ZoneSuffix.sub, hsub]
    constructor
    · rintro ⟨zone, s, newline, hchars, hzone, hs, hnewline⟩
      obtain rfl : zone = [] := hzone
      have hfront : name.toList = component.toList ++ (['-', 'a', 's', 'g', '-'] ++ s) ++ newline := by
        simpa using hchars
      obtain rfl := hends _ _ hfront hnewline
      have hs := (@hsuffix (component.toList ++ ['-', 'a', 's', 'g', '-']) s [] (by simpa using hchars)).mp hs
      exact ⟨component.toList, s, by simpa using hchars, hs, .inl ⟨hnot, rfl⟩⟩
    · rintro ⟨c, s, hchars, hs, ⟨-, rfl⟩ | ⟨base', hzoned, -⟩⟩
      · have hs := (@hsuffix (component.toList ++ ['-', 'a', 's', 'g', '-']) s [] (by simpa using hchars)).mpr hs
        exact ⟨[], s, [], by simpa using hchars, rfl, hs, .inl rfl⟩
      · exact absurd hzoned (hnot base')

open Classical in
/-- `describe_asg` returns the ASGs of the component in the order of the listing,
    and raises if there are none. -/
theorem describeAsg_selects (component : String) (pages : List (List AutoScalingGroup))
    (env : Responses) (w : Footprint) (hcomponent : Printable component)
    (hnames : ∀ page ∈ pages, ∀ asg ∈ page, Printable asg.autoScalingGroupName)
    (hplain : Plain (ZoneSuffix.sub component).toList) (hpages : env.pages = .ok pages) :
    (∀ selected, ((describeAsg component).run env.answer w).1 = .ok selected ↔ selected ≠ [] ∧
      selected = pages.flatten.filter fun asg => NamedFor component asg.autoScalingGroupName) ∧
    ((∃ e, ((describeAsg component).run env.answer w).1 = .error e) ↔
      ∀ asg ∈ pages.flatten, ¬ NamedFor component asg.autoScalingGroupName) := by
  have hrun : ((describeAsg component).run env.answer w).1 = matchAsgs component pages.flatten := by
    rw [Responses.run_describeAsg]
    show env.pages >>= (fun pages => matchAsgs component (addPages pages)) = _
    rw [hpages, ok_bind, addPages_eq]
  have hfilter : (pages.flatten.filter fun asg => (matcherOf (ZoneSuffix.sub component).toList
      ((ZoneSuffix.subn component).2 = 1)).matches? asg.autoScalingGroupName) =
      pages.flatten.filter fun asg => NamedFor component asg.autoScalingGroupName := by
    apply List.filter_congr
    intro asg hasg
    obtain ⟨page, hpage, hmem⟩ := List.mem_flatten.mp hasg
    rw [Bool.eq_iff_iff, decide_eq_true_iff]
    exact matches?_iff_namedFor hcomponent (hnames page hpage asg hmem)
  have hcases := @matchAsgs_plain component pages.flatten hplain
  rw [hfilter] at hcases
  rw [hrun]
  have hempty : (pages.flatten.filter fun asg => NamedFor component asg.autoScalingGroupName) = [] ↔
      ∀ asg ∈ pages.flatten, ¬ NamedFor component asg.autoScalingGroupName := by
    simp only [List.filter_eq_nil_iff, decide_eq_true_iff]
  obtain ⟨hnone, e, herror⟩ | ⟨hsome, hok⟩ := hcases
  · constructor
    · intro selected
      rw [herror]
      refine iff_of_false nofun ?_
      rintro ⟨hne, rfl⟩
      exact hne hnone
    · exact iff_of_true ⟨e, herror⟩ (hempty.mp hnone)
  · constructor
    · intro selected
      rw [hok, Except.ok.injEq]
      constructor
      · rintro rfl
        exact ⟨hsome, rfl⟩
      · exact fun h => h.2.symm
    · rw [hok]
      exact iff_of_false nofun fun h => hsome (hempty.mpr h)

/-- ASGs of these names, a page for each list. -/
def pagesOf (names : List (List String)) : List (List AutoScalingGroup) :=
  names.map fun page => page.map fun name =>
    { autoScalingGroupName := name, instances := [], launchTemplate := none }

/-- Responses that list these pages. -/
def listing (names : List (List String)) : Responses where
  pages := .ok (pagesOf names)
  activities _ := .ok []
  policy _ _ := .ok ()
  clock _ := 0
  environment := none

theorem describeAsg_selects_web :
    (∃ e, ((describeAsg "web_a").run (listing [["web_b-asg-1"], ["web-asg-1"]]).answer {}).1 = .error e) ↔
      ∀ asg ∈ (pagesOf [["web_b-asg-1"], ["web-asg-1"]]).flatten,
        ¬ NamedFor "web_a" asg.autoScalingGroupName :=
  (describeAsg_selects "web_a" (pagesOf [["web_b-asg-1"], ["web-asg-1"]])
    (listing [["web_b-asg-1"], ["web-asg-1"]]) {} (by decide) (by decide) (by decide) rfl).2

/-- The component "web.1" gets the ASG of another one. -/
theorem describeAsg_takes_another :
    ((describeAsg "web.1").run (listing [["webx1-asg-1"]]).answer {}).1 =
        .ok (pagesOf [["webx1-asg-1"]]).flatten ∧
      ¬ NamedFor "web.1" "webx1-asg-1" := by
  constructor
  · have hmatch : (Py.Re.compile "(^web.1)-asg-[a-z\\d]+$").map (·.matches? "webx1-asg-1") = some true := by
      decide +kernel
    obtain ⟨matcher, hcompile, hm⟩ := Option.map_eq_some_iff.mp hmatch
    have hsub : ZoneSuffix.subn "web.1" = ("web.1", 0) := by decide
    rw [Responses.run_describeAsg]
    simp [Responses.listing, listing, addPages, pagesOf, matchAsgs, hsub, hcompile, hm]
  · rintro ⟨c, s, hchars, -, ⟨-, rfl⟩ | ⟨base, ⟨z, hz, hcomponent⟩, -⟩⟩
    · simp at hchars
    · have hlast := congrArg List.getLast? hcomponent
      simp at hlast
      rw [← hlast] at hz
      exact absurd hz (by decide)

end AutoRecycle.ScaleAsg
