import PullTriage.Regex.Blank

/-!
  PullTriage.Regex.Primitive: escapes and other pieces of one position.

  A piece is read from the characters that are left and answers with those after it. `none` means
  that the pattern is not well formed.
-/

namespace PullTriage.Regex

/-- A piece that stands for itself: it may be repeated outside a class and, unless it is an assertion
or the dot, be a member of one. -/
inductive Primitive where
  | literal (l : Literal)
  | dot
  | assertion (a : Assertion)
  | shorthand (negated : Bool) (s : Unicode.Shorthand)
  | property (negated : Bool) (q : PropertyQuery)
  deriving DecidableEq, Repr, Inhabited

namespace Primitive

/-- A piece as a pattern. -/
def toAst : Primitive → Ast
  | literal l => .literal l
  | dot => .dot
  | assertion a => .assertion a
  | shorthand n s => .shorthand n s
  | property n q => .property n q

/-- A piece as a member of a class. -/
def toClassItem? : Primitive → Option ClassItem
  | literal l => some (.literal l)
  | shorthand n s => some (.shorthand n s)
  | property n q => some (.property n q)
  | dot => none
  | assertion _ => none

/-- A piece as an end of a range. -/
def toLiteral? : Primitive → Option Literal
  | literal l => some l
  | _ => none

end Primitive

/-- Characters with a meaning of their own. -/
def isMeta (c : Char) : Bool := "\\.+*?()|[]\x7b\x7d^$#&-~".toList.contains c

/-- Characters that a backslash leaves as they are: ASCII, but no letter, digit or angle. -/
def isEscapable (c : Char) : Bool :=
  isMeta c || (c.toNat < 0x80 && !c.isAlphanum && c != '<' && c != '>')

/-- A hexadecimal escape, from the character after `x`, `u` or `U`. The digits are `width` many, or
any number of them in braces. -/
def hexEscape? (verbose : Bool) (width : Nat) (cs : List Char) :
    Option (Primitive × List Char) :=
  match skip verbose cs with
  | [] => none
  | '\x7b' :: rest => do
    let (digits, rest) ← collectUntil verbose '\x7d' rest
    if digits.isEmpty then none
    let value ← digits.foldlM (fun n c => (hexDigit? c).map (n * 16 + ·)) 0
    return (.literal ⟨← charOfCode? value, false⟩, skip verbose rest)
  | cs => do
    let (value, rest) ← hexDigits? verbose width 0 cs
    return (.literal ⟨← charOfCode? value, width == 2⟩, rest)

/-- Split at the first occurrence of `mark`. -/
def splitAt? (mark : List Char) : List Char → Option (List Char × List Char)
  | [] => none
  | c :: rest =>
    if mark.isPrefixOf (c :: rest) then some ([], (c :: rest).drop mark.length)
    else (splitAt? mark rest).map fun (before, after) => (c :: before, after)

/-- The property named between braces: a value may follow `!=`, `:` or `=`, looked for in this
order. -/
def PropertyQuery.ofText (cs : List Char) : PropertyQuery :=
  match ([['!', '='], [':'], ['=']] : List (List Char)).findSome? (splitAt? · cs) with
  | some (before, after) => .value (String.ofList before) (String.ofList after)
  | none => .name (String.ofList cs)

/-- A property escape, from the character after `p` or `P`. -/
def propertyEscape? (verbose : Bool) (negated : Bool) (cs : List Char) :
    Option (Primitive × List Char) :=
  match skip verbose cs with
  | [] => none
  | '\x7b' :: rest =>
    (collectUntil verbose '\x7d' rest).map fun (name, rest) =>
      (.property negated (.ofText name), rest)
  | c :: rest =>
    if c = '\\' then none
    else some (.property negated (.name (String.singleton c)), skip verbose rest)

/-- The boundary named between braces. -/
def boundaryOfName? (name : String) : Option Assertion :=
  if name = "start" then some .wordStart
  else if name = "end" then some .wordEnd
  else if name = "start-half" then some .wordStartHalf
  else if name = "end-half" then some .wordEndHalf
  else none

/-- A word boundary, from the character after `b`. A brace names a special boundary if a letter or a
hyphen follows it, and is left for a count otherwise. -/
def wordBoundary? (verbose : Bool) (cs : List Char) : Option (Primitive × List Char) :=
  match cs with
  | '\x7b' :: rest =>
    match skip verbose rest with
    | [] => none
    | c :: _ =>
      if c.isAlpha || c == '-' then do
        let (name, rest) ← collectUntil verbose '\x7d' rest
        return (.assertion (← boundaryOfName? (String.ofList name)), rest)
      else some (.assertion .wordBoundary, cs)
  | _ => some (.assertion .wordBoundary, cs)

/-- The character of a one-letter escape. -/
def controlEscape? : Char → Option Char
  | 'a' => some '\x07'
  | 'f' => some '\x0c'
  | 't' => some '\t'
  | 'n' => some '\n'
  | 'r' => some '\r'
  | 'v' => some '\x0b'
  | _ => none

/-- The assertion of a one-letter escape, `b` apart. -/
def assertionEscape? : Char → Option Assertion
  | 'A' => some .startText
  | 'z' => some .endText
  | 'B' => some .notWordBoundary
  | '<' => some .wordStart
  | '>' => some .wordEnd
  | _ => none

/-- The class of a one-letter escape and whether it is negated. -/
def shorthandEscape? : Char → Option (Bool × Unicode.Shorthand)
  | 'd' => some (false, .digit)
  | 'D' => some (true, .digit)
  | 's' => some (false, .space)
  | 'S' => some (true, .space)
  | 'w' => some (false, .word)
  | 'W' => some (true, .word)
  | _ => none

/-- An escape, from the character after the backslash. -/
def escape? (verbose : Bool) : List Char → Option (Primitive × List Char)
  | [] => none
  | c :: rest =>
    if c = 'x' then hexEscape? verbose 2 rest
    else if c = 'u' then hexEscape? verbose 4 rest
    else if c = 'U' then hexEscape? verbose 8 rest
    else if c = 'p' ∨ c = 'P' then propertyEscape? verbose (c == 'P') rest
    else if c = 'b' then wordBoundary? verbose rest
    else if isEscapable c then some (.literal ⟨c, false⟩, rest)
    else
      ((shorthandEscape? c).map fun (n, s) => (.shorthand n s, rest)).or <|
      ((controlEscape? c).map fun d => (.literal ⟨d, false⟩, rest)).or <|
      (assertionEscape? c).map fun a => (.assertion a, rest)

/-- A piece of a pattern outside classes. -/
def primitive? (verbose : Bool) : List Char → Option (Primitive × List Char)
  | [] => none
  | '\\' :: rest => escape? verbose rest
  | '.' :: rest => some (.dot, rest)
  | '^' :: rest => some (.assertion .startLine, rest)
  | '$' :: rest => some (.assertion .endLine, rest)
  | c :: rest => some (.literal ⟨c, false⟩, rest)

end PullTriage.Regex
