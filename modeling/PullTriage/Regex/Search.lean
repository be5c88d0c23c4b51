import PullTriage.Pattern.Positions
import PullTriage.Regex.Parser
import PullTriage.Regex.Size

/-!
  PullTriage.Regex.Search: reading a text pattern and searching a text for it.
-/

namespace PullTriage

open Regex in
/-- A text pattern that can be searched for. -/
structure Regex where
  pattern : CharPattern

namespace Regex

/-- Why a pattern cannot be searched for. -/
inductive Problem where
  /-- It is not well formed, or could match what is no text. -/
  | syntaxError
  /-- It is too large once compiled. -/
  | tooLarge
  deriving DecidableEq, Repr, Inhabited

/-- Read a pattern, in which case does not count unless a flag says so. -/
def ofString (pattern : String) : Except Problem Regex :=
  match Ast.parse? pattern with
  | none => .error .syntaxError
  | some a =>
    match a.meaning? .initial, a.program? .initial with
    | some (p, _), some (program, _) => if fits program then .ok ⟨p⟩ else .error .tooLarge
    | _, _ => .error .syntaxError

/-- The codes of the characters of a text. -/
def codes (text : String) : List Nat := text.toList.map Char.toNat

/-- Whether the pattern matches somewhere in the text. -/
def foundIn (r : Regex) (text : String) : Bool :=
  r.pattern.found Unicode.CharSet.contains Look.holds (codes text)

end Regex
end PullTriage
