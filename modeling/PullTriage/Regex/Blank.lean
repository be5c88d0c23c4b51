import PullTriage.Digit
import PullTriage.Regex.Syntax

/-!
  PullTriage.Regex.Blank: what verbose patterns skip, and the readers built on it.

  With the `x` flag, blanks and comments (from `#` to the end of the line) may stand almost anywhere,
  also inside an escape or a count. Each reader here takes the flag and works on the characters that
  are left, so its recursion is on that list.
-/

namespace PullTriage.Regex

/-- Blanks in the sense of the `White_Space` property. -/
def isBlank (c : Char) : Bool := Unicode.Shorthand.space.contains c.toNat

/-- Drop blanks and comments at the front; `comment` says whether a comment is open. -/
def dropBlank (comment : Bool) : List Char → List Char
  | [] => []
  | c :: rest =>
    if comment then dropBlank (c != '\n') rest
    else if isBlank c then dropBlank false rest
    else if c = '#' then dropBlank true rest
    else c :: rest

/-- What is left once blanks and comments are skipped, if the pattern is verbose. -/
def skip (verbose : Bool) (cs : List Char) : List Char :=
  if verbose then dropBlank false cs else cs

/-- The character after the one at the front, past anything that a verbose pattern skips. A comment
mark is passed over like a blank, the comment's text is not. -/
def peekPast (verbose : Bool) (cs : List Char) : Option Char :=
  if verbose then go false cs.tail else cs.tail.head?
where
  go (marked : Bool) : List Char → Option Char
    | [] => none
    | c :: rest =>
      if isBlank c then go marked rest
      else if !marked && c = '#' then go true rest
      else some c

/-- The characters up to `stop`, without what a verbose pattern skips, and the rest after `stop`. -/
def collectUntil (verbose : Bool) (stop : Char) (cs : List Char) :
    Option (List Char × List Char) :=
  go false [] cs
where
  go (comment : Bool) (acc : List Char) : List Char → Option (List Char × List Char)
    | [] => none
    | c :: rest =>
      if comment then go (c != '\n') acc rest
      else if verbose && isBlank c then go false acc rest
      else if verbose && c = '#' then go true acc rest
      else if c = stop then some (acc.reverse, rest)
      else go false (c :: acc) rest

/-- Decimal digits, with what a verbose pattern skips between them. -/
def spanDecimal (verbose : Bool) (comment : Bool) (acc : List Nat) :
    List Char → List Nat × List Char
  | [] => (acc.reverse, [])
  | c :: rest =>
    if comment then spanDecimal verbose (c != '\n') acc rest
    else if c.isDigit then spanDecimal verbose false ((c.toNat - '0'.toNat) :: acc) rest
    else if verbose && isBlank c then spanDecimal verbose false acc rest
    else if verbose && c = '#' then spanDecimal verbose true acc rest
    else (acc.reverse, c :: rest)

/-- The greatest count that a repetition may name. -/
def maxCount : Nat := Nat.pow 2 32 - 1

/-- A count, with blanks around it. -/
def decimal? (verbose : Bool) (cs : List Char) : Option (Nat × List Char) :=
  let (digits, rest) := spanDecimal verbose false [] (cs.dropWhile isBlank)
  let n := digits.foldl (fun n d => n * 10 + d) 0
  if digits.isEmpty ∨ n > maxCount then none else some (n, rest.dropWhile isBlank)

/-- Exactly `count` hexadecimal digits. -/
def hexDigits? (verbose : Bool) : Nat → Nat → List Char → Option (Nat × List Char)
  | 0, value, cs => some (value, cs)
  | count + 1, value, cs =>
    match cs with
    | [] => none
    | c :: rest => (hexDigit? c).bind fun d => hexDigits? verbose count (value * 16 + d) (skip verbose rest)

end PullTriage.Regex
