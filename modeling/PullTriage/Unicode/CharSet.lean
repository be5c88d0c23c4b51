import PullTriage.Unicode.Shorthand
import PullTriage.Unicode.CaseFolding

/-!
  PullTriage.Unicode.CharSet: sets of characters as expressions.

  A character class of a text pattern is a tree of set operations over ranges and tables. The tree is
  kept as it is and membership is decided by walking it, so every law of the set operations holds by
  definition; closing a set under case asks for one of the characters that agree but for case.
-/

namespace PullTriage.Unicode

/-- A set of code points. -/
inductive CharSet where
  /-- All code points from `low` to `high`. -/
  | range (low high : Nat)
  | shorthand (s : Shorthand)
  | asciiShorthand (s : Shorthand)
  | table (t : Table)
  | union (a b : CharSet)
  | inter (a b : CharSet)
  | compl (a : CharSet)
  /-- Everything that agrees with a member but for case. -/
  | foldCase (a : CharSet)
  /-- Everything that agrees with a member but for the case of a letter below U+0080. -/
  | foldAsciiCase (a : CharSet)
  deriving Repr, Inhabited

namespace CharSet

/-- The empty set. -/
def empty : CharSet := range 1 0

/-- One character. -/
def single (c : Nat) : CharSet := range c c

/-- Everything. -/
def full : CharSet := range 0 0x10FFFF

/-- The characters below U+0080. -/
def ascii : CharSet := range 0 0x7F

/-- The members of `a` that are not in `b`. -/
def diff (a b : CharSet) : CharSet := inter a (compl b)

/-- The members of exactly one of `a` and `b`. -/
def symmDiff (a b : CharSet) : CharSet := union (diff a b) (diff b a)

/-- The union of a list of sets. -/
def unions : List CharSet → CharSet
  | [] => empty
  | [a] => a
  | a :: rest => union a (unions rest)

/-- Whether a code point belongs to the set. -/
def contains : CharSet → Nat → Bool
  | range low high, c => low ≤ c && c ≤ high
  | shorthand s, c => s.contains c
  | asciiShorthand s, c => s.containsAscii c
  | table t, c => t.contains c
  | union a b, c => a.contains c || b.contains c
  | inter a b, c => a.contains c && b.contains c
  | compl a, c => !a.contains c
  | foldCase a, c => (foldOrbit c).any a.contains
  | foldAsciiCase a, c => a.contains c || (isAsciiLetter c && a.contains (swapAsciiCase c))

/-- Whether no byte from 0x80 on belongs to the set. -/
def isAsciiOnBytes (a : CharSet) : Bool :=
  (List.range 128).all fun i => !a.contains (128 + i)

end CharSet
end PullTriage.Unicode
