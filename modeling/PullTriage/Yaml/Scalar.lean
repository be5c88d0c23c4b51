import PullTriage.Digit
import PullTriage.Json.Value

/-!
  PullTriage.Yaml.Scalar: what the text of a scalar stands for.

  A plain scalar is null, a boolean, an integer, a float or else a string, by its text alone. A core
  tag says which of these is meant, and then the text has to be one. An integer that fits 128 bits but
  not 64 is refused; past that it is read as a float.

  Main definitions:
    * `plainValue?`: the value of a plain scalar without a tag;
    * `scalarValue?`: the value of any scalar.
-/

namespace PullTriage.Yaml

open Json

/-! ## §1. Null and booleans -/

/-- The words for null. -/
def isNullWord (s : String) : Bool := ["~", "null", "Null", "NULL"].contains s

/-- The boolean that a word is. -/
def boolean? (s : String) : Option Bool :=
  if ["true", "True", "TRUE"].contains s then some true
  else if ["false", "False", "FALSE"].contains s then some false
  else none

/-! ## §2. Integers -/

/-- The value of a letter or digit as a digit of a base up to 16. -/
def digitIn? (base : Nat) (c : Char) : Option Nat :=
  (hexDigit? c).bind fun d => if d < base then some d else none

/-- The number that digits of a base write; there is at least one. -/
def naturalIn? (base : Nat) (cs : List Char) : Option Nat :=
  if cs.isEmpty then none
  else cs.foldlM (fun n c => (digitIn? base c).map (n * base + ·)) 0

/-- A sign at the front, if it is minus, and what follows it. -/
def splitSign : List Char → Bool × List Char
  | '+' :: rest => (false, rest)
  | '-' :: rest => (true, rest)
  | cs => (false, cs)

/-- Whether a text is a zero with digits behind it. Such a text is a string. -/
def isPadded (cs : List Char) : Bool :=
  match (splitSign cs).2 with
  | '0' :: c :: rest => (c :: rest).all Char.isDigit
  | _ => false

/-- The integer that a text writes: decimal, or in base 16, 8 or 2 with a mark in front. -/
def integer? (cs : List Char) : Option Int :=
  let (negative, magnitude) := splitSign cs
  let natural := match magnitude with
    | '0' :: 'x' :: digits => naturalIn? 16 digits
    | '0' :: 'o' :: digits => naturalIn? 8 digits
    | '0' :: 'b' :: digits => naturalIn? 2 digits
    | digits => if isPadded cs then none else naturalIn? 10 digits
  natural.map fun n => if negative then -(n : Int) else n

/-- Whether an integer fits a word of so many bits, signed or not. -/
def fitsBits (bits : Nat) (n : Int) : Bool := -(Int.pow 2 (bits - 1)) ≤ n && n < Int.pow 2 bits

/-! ## §3. Floats -/

/-- Decimal digits at the front, and what follows them. -/
def splitDigits (cs : List Char) : List Char × List Char :=
  (cs.takeWhile Char.isDigit, cs.dropWhile Char.isDigit)

/-- The number that decimal digits write. -/
def decimalValue (cs : List Char) : Nat := cs.foldl (fun n c => n * 10 + (c.toNat - '0'.toNat)) 0

/-- The exponent at the end of a decimal fraction; zero if there is none. -/
def exponent? : List Char → Option Int
  | [] => some 0
  | mark :: rest =>
    let (negative, digits) := splitSign rest
    if (mark = 'e' ∨ mark = 'E') ∧ !digits.isEmpty ∧ digits.all Char.isDigit then
      some (if negative then -(decimalValue digits : Int) else decimalValue digits)
    else none

/-- The finite double that a decimal fraction writes. -/
def decimal? (negative : Bool) (cs : List Char) : Option Decimal.Binary64 := do
  let (whole, rest) := splitDigits cs
  let (fraction, rest) := match rest with
    | '.' :: rest => splitDigits rest
    | rest => ([], rest)
  if whole.isEmpty && fraction.isEmpty then none
  let exponent ← exponent? rest
  Decimal.Binary64.ofDecimal? negative (decimalValue (whole ++ fraction))
    (exponent - fraction.length)

/-- The value of a float. Infinities and what is not a number have no JSON, so they are null. -/
def float? (cs : List Char) : Option Value :=
  let (negative, magnitude) := splitSign cs
  if [".inf", ".Inf", ".INF"].contains (String.ofList magnitude) ||
      [".nan", ".NaN", ".NAN"].contains (String.ofList cs) then some .null
  else (decimal? negative magnitude).map fun f => .number (.float f)

/-! ## §4. Scalars -/

/-- The value of a plain scalar without a tag. -/
def plainValue? (s : String) : Option Value :=
  if s.isEmpty || isNullWord s then some .null else
  match boolean? s with
  | some b => some (.bool b)
  | none =>
    match (integer? s.toList).filter (fitsBits 128) with
    | some n => if fitsBits 64 n then some (.number (.int n)) else none
    | none => if isPadded s.toList then some (.string s)
      else some ((float? s.toList).getD (.string s))

/-- What a tag says about a node. -/
inductive Tag where
  | null
  | bool
  | int
  | float
  /-- A tag of the document's own, which no value has. -/
  | own
  /-- Any other tag; a scalar with it is a string. -/
  | other
  deriving DecidableEq, Repr, Inhabited

/-- The value of a scalar. -/
def scalarValue? (tag : Option Tag) (plain : Bool) (s : String) : Option Value :=
  match tag with
  | some .null => if isNullWord s then some .null else none
  | some .bool => (boolean? s).map .bool
  | some .int => ((integer? s.toList).filter (fitsBits 64)).map fun n => .number (.int n)
  | some .float => float? s.toList
  | some .own => none
  | some .other => some (.string s)
  | none => if plain then plainValue? s else some (.string s)

end PullTriage.Yaml
