/-
  AutoRecycle.Py.Re

  Python's `re`, as far as a boolean `match` of a pattern that is only known at
  run time needs it: the pattern language of `sre_parse` and the positions at
  which a match can end.  Greedy and lazy repetition are the same thing here.

  The classes `\d` and `\s` are those of Unicode 14 (Python 3.11); `\w`, and with it
  `\b`, is its ASCII part.  Look-behind, back references, named, conditional and
  atomic groups, inline flags and possessive repetition are not read: `compile`
  refuses a pattern that has one, where `re` takes it.
-/
import Mathlib.Data.List.Basic
import Mathlib.Tactic.Common

namespace AutoRecycle.Py

/-- The characters a set accepts: those of the ranges, or all others. -/
structure CharSet where
  ranges : List (Char × Char)
  negated : Bool := false

def CharSet.accepts (s : CharSet) (c : Char) : Bool :=
  (s.ranges.any fun r => r.1.val ≤ c.val && c.val ≤ r.2.val) != s.negated

inductive Re where
  | empty
  | set (s : CharSet)
  /-- `^` and `\A`. -/
  | atStart
  /-- `$`: at the end, or before a newline at the end. -/
  | atEnd
  /-- `\Z`. -/
  | atVeryEnd
  /-- `\b`, or `\B` when `negated`. -/
  | wordBoundary (negated : Bool)
  /-- `(?=r)`, or `(?!r)` when `negated`. -/
  | lookahead (r : Re) (negated : Bool)
  | seq (r s : Re)
  | alt (r s : Re)
  | rep (r : Re) (least : Nat) (most : Option Nat)

namespace Re

-- ============================================================================
-- Matching
-- ============================================================================

/-- A position in the subject: the characters before it, last first, and those
    after it. -/
abbrev Pos : Type := List Char × List Char

/-- The zeros of the scripts other than ASCII.  Each has nine more digits behind it. -/
def zeros : List Nat :=
  [0x660, 0x6F0, 0x7C0, 0x966, 0x9E6, 0xA66, 0xAE6, 0xB66, 0xBE6, 0xC66, 0xCE6, 0xD66, 0xDE6,
   0xE50, 0xED0, 0xF20, 0x1040, 0x1090, 0x17E0, 0x1810, 0x1946, 0x19D0, 0x1A80, 0x1A90, 0x1B50,
   0x1BB0, 0x1C40, 0x1C50, 0xA620, 0xA8D0, 0xA900, 0xA9D0, 0xA9F0, 0xAA50, 0xABF0, 0xFF10,
   0x104A0, 0x10D30, 0x11066, 0x110F0, 0x11136, 0x111D0, 0x112F0, 0x11450, 0x114D0, 0x11650,
   0x116C0, 0x11730, 0x118E0, 0x11950, 0x11C50, 0x11D50, 0x11DA0, 0x16A60, 0x16AC0, 0x16B50,
   0x1D7CE, 0x1D7D8, 0x1D7E2, 0x1D7EC, 0x1D7F6, 0x1E140, 0x1E2F0, 0x1E950, 0x1FBF0]

/-- The decimal digits, general category Nd. -/
def digits : List (Char × Char) :=
  ('0', '9') :: zeros.map fun zero => (Char.ofNat zero, Char.ofNat (zero + 9))

def wordChars : List (Char × Char) := [('a', 'z'), ('A', 'Z'), ('0', '9'), ('_', '_')]

def spaces : List (Char × Char) :=
  [(' ', ' '), ('\t', '\r')] ++ [(0x1C, 0x1F), (0x85, 0x85), (0xA0, 0xA0), (0x1680, 0x1680),
    (0x2000, 0x200A), (0x2028, 0x2029), (0x202F, 0x202F), (0x205F, 0x205F), (0x3000, 0x3000)].map
    fun r => (Char.ofNat r.1, Char.ofNat r.2)

def isDecimal (c : Char) : Bool := CharSet.accepts { ranges := digits } c

/-- In ASCII the decimal digits are those from 0 to 9. -/
theorem isDecimal_ascii {c : Char} (h : c.toNat < 128) : isDecimal c = c.isDigit := by
  have hothers : ∀ zero ∈ zeros, 128 ≤ (Char.ofNat zero).toNat := by decide
  have hnone : (zeros.map fun zero => (Char.ofNat zero, Char.ofNat (zero + 9))).any
      (fun r => r.1.val ≤ c.val && c.val ≤ r.2.val) = false := by
    rw [List.any_eq_false]
    intro r hr
    obtain ⟨zero, hzero, rfl⟩ := List.mem_map.mp hr
    have hlarge := hothers zero hzero
    have hnot : ¬ (Char.ofNat zero).val ≤ c.val := fun hle => by
      have hnat : (Char.ofNat zero).toNat ≤ c.toNat := hle
      omega
    simp [hnot]
  rw [isDecimal, CharSet.accepts, digits, List.any_cons, hnone]
  simp [Char.isDigit]

def isWord (c : Option Char) : Bool := c.any fun c => CharSet.accepts { ranges := wordChars } c

/-- At least `least` and at most `most` steps of `step`.  Past `least`, a step
    that does not move ends the repetition, so the rest of the subject bounds it. -/
def repeats (step : Pos → List Pos) (least : Nat) (most : Option Nat) : Nat → Pos → List Pos
  | 0, p => if least = 0 then [p] else []
  | fuel + 1, p =>
      let again := if most = some 0 then [] else
        (step p).flatMap fun q =>
          if least = 0 && q.2.length == p.2.length then []
          else repeats step (least - 1) (most.map (· - 1)) fuel q
      if least = 0 then p :: again else again

/-- Where a match that begins at `p` can end. -/
def ends : Re → Pos → List Pos
  | empty, p => [p]
  | set s, (before, c :: after) => if s.accepts c then [(c :: before, after)] else []
  | set _, (_, []) => []
  | atStart, p => if p.1.isEmpty then [p] else []
  | atEnd, p => if p.2 = [] ∨ p.2 = ['\n'] then [p] else []
  | atVeryEnd, p => if p.2.isEmpty then [p] else []
  | wordBoundary negated, p =>
      if (isWord p.1.head? != isWord p.2.head?) != negated then [p] else []
  | lookahead r negated, p => if (r.ends p).isEmpty == negated then [p] else []
  | seq r s, p => (r.ends p).flatMap s.ends
  | alt r s, p => r.ends p ++ s.ends p
  | rep r least most, p => repeats r.ends least most (least + p.2.length) p

/-- `pattern.match(subject)` finds a match. -/
def matches? (r : Re) (subject : String) : Bool := !(r.ends ([], subject.toList)).isEmpty

-- ============================================================================
-- Compiling
-- ============================================================================

/-- The class a letter names after a backslash. -/
def classEscape : Char → Option CharSet
  | 'd' => some { ranges := digits }
  | 'D' => some { ranges := digits, negated := true }
  | 'w' => some { ranges := wordChars }
  | 'W' => some { ranges := wordChars, negated := true }
  | 's' => some { ranges := spaces }
  | 'S' => some { ranges := spaces, negated := true }
  | _ => none

/-- The character a letter names after a backslash.  Other ASCII letters and the
    digits are not escapes of a character. -/
def charEscape (c : Char) : Option Char :=
  match c with
  | 'n' => some '\n'
  | 't' => some '\t'
  | 'r' => some '\r'
  | 'f' => some (Char.ofNat 12)
  | 'v' => some (Char.ofNat 11)
  | 'a' => some (Char.ofNat 7)
  | c => if c.isAlphanum then none else some c

/-- An escape outside a set. -/
def escape (c : Char) : Option Re :=
  match c with
  | 'A' => some atStart
  | 'Z' => some atVeryEnd
  | 'b' => some (wordBoundary false)
  | 'B' => some (wordBoundary true)
  | c =>
      match classEscape c with
      | some s => some (set s)
      | none => (charEscape c).map fun c => set { ranges := [(c, c)] }

/-- A member of a set: a character that may begin a range, or a class. -/
def setItem : List Char → Option ((Char ⊕ CharSet) × List Char)
  | '\\' :: c :: rest =>
      match classEscape c with
      | some s => some (.inr s, rest)
      | none => if c = 'b' then some (.inl (Char.ofNat 8), rest)
                else (charEscape c).map fun c => (.inl c, rest)
  | ['\\'] => none
  | c :: rest => some (.inl c, rest)
  | [] => none

/-- The sets of a bracket expression, read up to its `]`; a `]` that comes first
    is a member. -/
def setItems : Nat → Bool → List Char → Option (List CharSet × List Char)
  | 0, _, _ => none
  | fuel + 1, first, cs =>
      match cs with
      | [] => none
      | c :: rest =>
          if c = ']' && !first then some ([], rest) else do
            let (lo, rest) ← setItem cs
            match rest, lo with
            | '-' :: ']' :: rest, .inl lo => some ([{ ranges := [(lo, lo), ('-', '-')] }], rest)
            | '-' :: ']' :: rest, .inr s => some ([s, { ranges := [('-', '-')] }], rest)
            | '-' :: rest, lo => do
                let (hi, rest) ← setItem rest
                match lo, hi with
                | .inl lo, .inl hi =>
                    if hi.val < lo.val then none else do
                      let (more, rest) ← setItems fuel false rest
                      some ({ ranges := [(lo, hi)] } :: more, rest)
                | _, _ => none
            | rest, lo => do
                let (more, rest) ← setItems fuel false rest
                some ((match lo with
                  | .inl c => { ranges := [(c, c)] }
                  | .inr s => s) :: more, rest)

/-- One character that one of the sets accepts, or that none accepts. -/
def ofSets (negated : Bool) (sets : List CharSet) : Re :=
  let union := sets.foldr (fun s r => alt (set s) r) (set { ranges := [] })
  if negated then seq (lookahead union true) (set { ranges := [], negated := true }) else union

def number (cs : List Char) : Option Nat × List Char :=
  let ds := cs.takeWhile Char.isDigit
  (if ds.isEmpty then none else some (ds.foldl (fun n d => 10 * n + (d.toNat - '0'.toNat)) 0),
    cs.dropWhile Char.isDigit)

/-- What follows a `{`: the bounds of a repetition, or nothing, and then the
    brace is a character. -/
def braces (cs : List Char) : Option (Nat × Option Nat × List Char) :=
  if cs.head? = some '}' then none else
  match number cs with
  | (least, ',' :: rest) =>
      match number rest with
      | (most, '}' :: rest) => some (least.getD 0, most, rest)
      | _ => none
  | (some n, '}' :: rest) => some (n, some n, rest)
  | _ => none

/-- Anchors and repetitions cannot be repeated. -/
def repeatable : Re → Bool
  | atStart => false
  | atEnd => false
  | atVeryEnd => false
  | wordBoundary _ => false
  | rep .. => false
  | _ => true

/-- Repeat the last item. -/
def repeatLast (least : Nat) (most : Option Nat) : List Re → Option (List Re)
  | [] => none
  | r :: done =>
      if r.repeatable && !most.any (· < least) then some (rep r least most :: done) else none

/-- The items of a sequence, last first. -/
def ofItems (done : List Re) : Re := done.foldl (fun r item => seq item r) empty

def literal (c : Char) : Re := set { ranges := [(c, c)] }

def dropIf (c : Char) (cs : List Char) : List Char := if cs.head? = some c then cs.tail else cs

/-- A repetition at the head of `cs`: its bounds and what follows.  A `?` after
    it makes it lazy. -/
def repetition (c : Char) (rest : List Char) : Option (Nat × Option Nat × List Char) :=
  if c = '*' then some (0, none, dropIf '?' rest)
  else if c = '+' then some (1, none, dropIf '?' rest)
  else if c = '?' then some (0, some 1, dropIf '?' rest)
  else if c = '{' then (braces rest).map fun (least, most, rest) => (least, most, dropIf '?' rest)
  else none

/-- What an opening parenthesis begins: how the group is read, and what follows
    its introduction. -/
def groupKind (rest : List Char) : Option ((Re → Re) × List Char) :=
  if rest.head? ≠ some '?' then some (id, rest) else
    let kind := rest.tail.head?
    let inside := rest.tail.tail
    if kind = some ':' then some (id, inside)
    else if kind = some '=' then some ((lookahead · false), inside)
    else if kind = some '!' then some ((lookahead · true), inside)
    else none

/-- An item of one or two characters. -/
def simpleItem (c : Char) (rest : List Char) : Option (Re × List Char) :=
  if c = '.' then some (set { ranges := [('\n', '\n')], negated := true }, rest)
  else if c = '^' then some (atStart, rest)
  else if c = '$' then some (atEnd, rest)
  else if c = '\\' then do some (← escape (← rest.head?), rest.tail)
  else if c = '[' then do
    let negated := rest.head? = some '^'
    let (sets, rest) ← setItems (rest.length + 1) true (dropIf '^' rest)
    some (ofSets negated sets, rest)
  else some (literal c, rest)

mutual

/-- Alternatives, up to a `)` or the end. -/
def parseAlt : Nat → List Char → Option (Re × List Char)
  | 0, _ => none
  | fuel + 1, cs => do
      let (r, rest) ← parseSeq fuel [] cs
      if rest.head? = some '|' then
        let (s, rest) ← parseAlt fuel rest.tail
        some (alt r s, rest)
      else some (r, rest)

/-- A sequence of items, up to a `|`, a `)` or the end. -/
def parseSeq : Nat → List Re → List Char → Option (Re × List Char)
  | 0, _, _ => none
  | _ + 1, done, [] => some (ofItems done, [])
  | fuel + 1, done, c :: rest =>
      if c = '|' || c = ')' then some (ofItems done, c :: rest)
      else if c = '(' then do
        let (wrap, inside) ← groupKind rest
        let (r, rest) ← parseAlt fuel inside
        if rest.head? = some ')' then parseSeq fuel (wrap r :: done) rest.tail else none
      else
        match repetition c rest with
        | some (least, most, rest) => do parseSeq fuel (← repeatLast least most done) rest
        | none => do
            let (r, rest) ← simpleItem c rest
            parseSeq fuel (r :: done) rest

end

/-- `re.compile(pattern)`; `none` is a `re.error`. -/
def compile (pattern : String) : Option Re :=
  match parseAlt (3 * pattern.toList.length + 3) pattern.toList with
  | some (r, []) => some r
  | _ => none

end Re

end AutoRecycle.Py
