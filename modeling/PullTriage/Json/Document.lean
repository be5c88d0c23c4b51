import PullTriage.Json.Value

/-!
  PullTriage.Json.Document: a JSON text as read, before anything is decided about it.

  What a text means depends on who reads it. A value merges repeated keys and needs its numbers to
  be finite; a typed record refuses repeated keys, and what stands under a key it does not know is
  skipped without being looked at. A `Document` keeps what both need: every entry in order, each
  number as its digits, and a string that names a lone surrogate as `none`.

  Main definitions:
    * `NumberText.read?`: the number that digits denote;
    * `Document.toValue?`: the value of a document.
-/

namespace PullTriage.Json

/-! ## §1. Numbers as written -/

/-- The parts of a number literal; every digit is below ten. `fraction` is empty when there is no
point. -/
structure NumberText where
  negative : Bool
  whole : List Nat
  fraction : List Nat
  exponent : Option (Bool × List Nat)
  deriving DecidableEq, Repr, Inhabited

namespace NumberText

/-- The greatest unsigned 64-bit word. -/
def maxWord : Nat := Nat.pow 2 64 - 1

/-- Append digits to `acc` while the result fits a 64-bit word. Answers the sum and the digits left
over. -/
def absorb : Nat → List Nat → Nat × List Nat
  | acc, [] => (acc, [])
  | acc, d :: rest => if acc * 10 + d ≤ maxWord then absorb (acc * 10 + d) rest else (acc, d :: rest)

/-- Digits as a number. -/
def digitsValue (digits : List Nat) : Nat := digits.foldl (fun n d => n * 10 + d) 0

/-- `10 ^ k`, rounded, for a power that fits a double. -/
def powerOfTen (k : Nat) : Decimal.Binary64 :=
  (Decimal.Binary64.ofRatio? false (Nat.pow 10 k) 1).getD (.zero false)

/-- A significand times a power of ten: the significand is rounded to a double, and then scaled by
rounded powers of ten of at most `10 ^ 308`, each step rounded. `none` on overflow. -/
def scale (significand : Decimal.Binary64) (exponent : Int) : Option Decimal.Binary64 :=
  go (exponent.natAbs / 308 + 1) significand exponent
where
  go : Nat → Decimal.Binary64 → Int → Option Decimal.Binary64
    | 0, f, _ => some f
    | fuel + 1, f, e =>
      if e.natAbs ≤ 308 then
        if 0 ≤ e then f.mul? (powerOfTen e.toNat) else f.div? (powerOfTen e.natAbs)
      else if f.mantissa = 0 then some f
      else if 0 ≤ e then none
      else (f.div? (powerOfTen 308)).bind fun f => go fuel f (e + 308)

/-- The greatest exponent that is added to the position of the point; past it only the sign of the
exponent counts. -/
def maxExponent : Nat := Nat.pow 2 31 - 1

/-- A number that is not a 64-bit integer, as a double. At most a 64-bit word of leading digits
counts; later digits of the whole part count as zeros and later ones of the fraction not at all. -/
def readFloat? (t : NumberText) : Option Decimal.Binary64 := do
  let (whole, dropped) := absorb 0 t.whole
  let (significand, unread) := absorb whole t.fraction
  let point : Int := (dropped.length : Int) - ((t.fraction.length : Int) - unread.length)
  let rounded ← Decimal.Binary64.ofRatio? false significand 1
  let magnitude ←
    match t.exponent with
    | none => scale rounded point
    | some (negative, digits) =>
      let e := digitsValue digits
      if e > maxExponent then
        if significand ≠ 0 ∧ !negative then none else some (.zero false)
      else scale rounded (if negative then point - e else point + e)
  return magnitude.withSign t.negative

/-- The number a literal denotes: an integer if it is written as one and fits 64 bits, else a double.
`-0` is the double. `none` when it is past the largest double. -/
def read? (t : NumberText) : Option Number :=
  let n := digitsValue t.whole
  if t.fraction.isEmpty ∧ t.exponent.isNone ∧ n ≤ maxWord ∧ !t.negative then some (.int n)
  else if t.fraction.isEmpty ∧ t.exponent.isNone ∧ n ≤ Nat.pow 2 63 ∧ 0 < n ∧ t.negative then
    some (.int (-n))
  else t.readFloat?.map .float

end NumberText

/-! ## §2. Documents -/

/-- A JSON text as a tree. A string is `none` when it names a lone surrogate: it can be skipped but
not read. -/
inductive Document where
  | null
  | bool (value : Bool)
  | number (text : NumberText)
  | string (text : Option String)
  | array (items : List Document)
  | object (entries : List (Option String × Document))
  deriving Repr, Inhabited

namespace Document

mutual

/-- The value of a document: repeated keys merge, numbers must be finite and strings readable. -/
def toValue? : Document → Option Value
  | .null => some .null
  | .bool b => some (.bool b)
  | .number t => t.read?.map .number
  | .string s => s.map .string
  | .array items => (toValues? items).map .array
  | .object entries => (toEntries? entries).map fun es => .object (Entries.ofList es)

/-- The values of a list of documents. -/
def toValues? : List Document → Option (List Value)
  | [] => some []
  | d :: rest => do return (← toValue? d) :: (← toValues? rest)

/-- The entries of a map, repeated keys included. -/
def toEntries? : List (Option String × Document) → Option (List (String × Value))
  | [] => some []
  | (key, d) :: rest => do return (← key, ← toValue? d) :: (← toEntries? rest)

end

/-- The entries whose key is known, with their values; the others are skipped unread. -/
def knownEntries? (known : String → Bool) :
    List (Option String × Document) → Option (List (String × Value))
  | [] => some []
  | (none, _) :: _ => none
  | (some key, d) :: rest =>
    if known key then do return (key, ← d.toValue?) :: (← knownEntries? known rest)
    else knownEntries? known rest

mutual

/-- How deep lists and maps nest; a scalar has depth zero. -/
def depth : Document → Nat
  | .array items => depthItems items + 1
  | .object entries => depthEntries entries + 1
  | _ => 0

/-- The greatest depth of a list of documents. -/
def depthItems : List Document → Nat
  | [] => 0
  | d :: rest => max (depth d) (depthItems rest)

/-- The greatest depth of the values of a map. -/
def depthEntries : List (Option String × Document) → Nat
  | [] => 0
  | (_, d) :: rest => max (depth d) (depthEntries rest)

end

/-- The deepest nesting that a value is read from. -/
def maxDepth : Nat := 127

end Document
end PullTriage.Json
