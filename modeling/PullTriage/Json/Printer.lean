import PullTriage.Json.Value
import PullTriage.Decimal.Shortest

/-!
  PullTriage.Json.Printer: JSON text of values, on one line or indented by two blanks.

  Strings escape the quote, the backslash and the characters below U+0020; everything else is
  written as it is. A double has the fewest digits that read back and always a point or an exponent.
-/

namespace PullTriage.Json

/-! ## §1. Scalars -/

/-- Two lower-case hexadecimal digits. -/
def hexByte (n : Nat) : String :=
  String.ofList [Nat.digitChar (n / 16 % 16), Nat.digitChar (n % 16)]

/-- One character of a string literal. -/
def escapeChar (c : Char) : String :=
  if c = '"' then "\\\""
  else if c = '\\' then "\\\\"
  else if c = '\x08' then "\\b"
  else if c = '\x0c' then "\\f"
  else if c = '\n' then "\\n"
  else if c = '\r' then "\\r"
  else if c = '\t' then "\\t"
  else if c.toNat < 0x20 then "\\u00" ++ hexByte c.toNat
  else String.singleton c

/-- A string literal. -/
def quote (s : String) : String :=
  "\"" ++ s.foldl (fun acc c => acc ++ escapeChar c) "" ++ "\""

/-- `n` zero digits. -/
def zeros (n : Nat) : String := String.ofList (List.replicate n '0')

/-- How positional notation ends: the leading digit of a number written without an exponent stands
between `10 ^ leastPlain` and `10 ^ greatestPlain`. -/
structure FloatLayout where
  leastPlain : Int
  greatestPlain : Int

/-- Numbers from `1e-5` up to below `1e16` are written without an exponent. -/
def floatLayout : FloatLayout := ⟨-5, 15⟩

/-- A positive decimal with its point or exponent. -/
def layout (l : FloatLayout) (s : Decimal.Scientific) : String :=
  let digits := toString s.digits
  let count := digits.length
  let lead : Int := s.exponent + count - 1
  if l.leastPlain ≤ lead ∧ lead ≤ l.greatestPlain then
    if 0 ≤ s.exponent then digits ++ zeros s.exponent.toNat ++ ".0"
    else if 0 ≤ lead then
      let cut := lead.toNat + 1
      String.ofList (digits.toList.take cut) ++ "." ++ String.ofList (digits.toList.drop cut)
    else "0." ++ zeros (-lead - 1).toNat ++ digits
  else
    let mantissa :=
      if count = 1 then digits
      else String.ofList (digits.toList.take 1) ++ "." ++ String.ofList (digits.toList.drop 1)
    mantissa ++ "e" ++ (if lead < 0 then "-" else "+") ++ toString lead.natAbs

/-- The text of a number. -/
def Number.print : Number → String
  | .int i => toString i
  | .float x =>
    (if x.negative then "-" else "") ++
      if x.mantissa = 0 then "0.0" else layout floatLayout x.shortest

namespace Value

/-! ## §2. One line -/

mutual

/-- The text of a value without blanks. -/
def compact : Value → String
  | .null => "null"
  | .bool b => if b then "true" else "false"
  | .number n => n.print
  | .string s => quote s
  | .array items => "[" ++ compactItems items ++ "]"
  | .object entries => "\x7b" ++ compactEntries entries ++ "\x7d"

/-- Items separated by commas. -/
def compactItems : List Value → String
  | [] => ""
  | [v] => compact v
  | v :: rest => compact v ++ "," ++ compactItems rest

/-- Entries separated by commas. -/
def compactEntries : List (String × Value) → String
  | [] => ""
  | [(k, v)] => quote k ++ ":" ++ compact v
  | (k, v) :: rest => quote k ++ ":" ++ compact v ++ "," ++ compactEntries rest

end

/-! ## §3. Indented -/

/-- A line break and `depth` levels of indentation. -/
def newline (depth : Nat) : String := "\n" ++ String.ofList (List.replicate (2 * depth) ' ')

mutual

/-- The text of a value, one member a line. -/
def pretty (depth : Nat) : Value → String
  | .array [] => "[]"
  | .array items => "[" ++ prettyItems (depth + 1) items ++ newline depth ++ "]"
  | .object [] => "\x7b\x7d"
  | .object entries => "\x7b" ++ prettyEntries (depth + 1) entries ++ newline depth ++ "\x7d"
  | .null => "null"
  | .bool b => if b then "true" else "false"
  | .number n => n.print
  | .string s => quote s

/-- Items, each on a line of its own. -/
def prettyItems (depth : Nat) : List Value → String
  | [] => ""
  | [v] => newline depth ++ pretty depth v
  | v :: rest => newline depth ++ pretty depth v ++ "," ++ prettyItems depth rest

/-- Entries, each on a line of its own. -/
def prettyEntries (depth : Nat) : List (String × Value) → String
  | [] => ""
  | [(k, v)] => newline depth ++ quote k ++ ": " ++ pretty depth v
  | (k, v) :: rest =>
    newline depth ++ quote k ++ ": " ++ pretty depth v ++ "," ++ prettyEntries depth rest

end

end Value
end PullTriage.Json
